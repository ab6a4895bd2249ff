import PromptStream.Unicode.Runs

/-!
# General categories

Every code point has one of thirty general categories.  Names may also denote
groups of categories, such as all letters.
-/

namespace PromptStream

namespace Unicode

/-- A general category. -/
inductive Category where
  /-- Control. -/
  | cc
  /-- Format. -/
  | cf
  /-- Unassigned. -/
  | cn
  /-- Private use. -/
  | co
  /-- Surrogate. -/
  | cs
  /-- Lowercase letter. -/
  | ll
  /-- Modifier letter. -/
  | lm
  /-- Other letter. -/
  | lo
  /-- Titlecase letter. -/
  | lt
  /-- Uppercase letter. -/
  | lu
  /-- Spacing mark. -/
  | mc
  /-- Enclosing mark. -/
  | me
  /-- Nonspacing mark. -/
  | mn
  /-- Decimal number. -/
  | nd
  /-- Letter number. -/
  | nl
  /-- Other number. -/
  | no
  /-- Connector punctuation. -/
  | pc
  /-- Dash punctuation. -/
  | pd
  /-- Close punctuation. -/
  | pe
  /-- Final punctuation. -/
  | pf
  /-- Initial punctuation. -/
  | pi
  /-- Other punctuation. -/
  | po
  /-- Open punctuation. -/
  | ps
  /-- Currency symbol. -/
  | sc
  /-- Modifier symbol. -/
  | sk
  /-- Math symbol. -/
  | sm
  /-- Other symbol. -/
  | so
  /-- Line separator. -/
  | zl
  /-- Paragraph separator. -/
  | zp
  /-- Space separator. -/
  | zs
  deriving DecidableEq, Repr, Inhabited

namespace Category

/-- All letters. -/
def letters : List Category := [.ll, .lm, .lo, .lt, .lu]

/-- All marks. -/
def marks : List Category := [.mc, .me, .mn]

/-- All numbers. -/
def numbers : List Category := [.nd, .nl, .no]

/-- All punctuation. -/
def punctuation : List Category := [.pc, .pd, .pe, .pf, .pi, .po, .ps]

/-- All symbols. -/
def symbols : List Category := [.sc, .sk, .sm, .so]

/-- All separators. -/
def separators : List Category := [.zl, .zp, .zs]

/-- All that is assigned and not visible as text. -/
def assignedOthers : List Category := [.cc, .cf, .co, .cs]

/-- All that is assigned. -/
def assigned : List Category :=
  letters ++ marks ++ numbers ++ punctuation ++ symbols ++ separators ++ assignedOthers

/-- The names of categories and groups, in lower case and without separators. -/
def names : List (List String × List Category) :=
  [
    (["cc", "control", "cntrl"], [.cc]),
    (["cf", "format"], [.cf]),
    (["cn", "unassigned"], [.cn]),
    (["co", "privateuse"], [.co]),
    (["ll", "lowercaseletter"], [.ll]),
    (["lm", "modifierletter"], [.lm]),
    (["lo", "otherletter"], [.lo]),
    (["lt", "titlecaseletter"], [.lt]),
    (["lu", "uppercaseletter"], [.lu]),
    (["mc", "spacingmark"], [.mc]),
    (["me", "enclosingmark"], [.me]),
    (["mn", "nonspacingmark"], [.mn]),
    (["nd", "decimalnumber", "digit"], [.nd]),
    (["nl", "letternumber"], [.nl]),
    (["no", "othernumber"], [.no]),
    (["pc", "connectorpunctuation"], [.pc]),
    (["pd", "dashpunctuation"], [.pd]),
    (["pe", "closepunctuation"], [.pe]),
    (["pf", "finalpunctuation"], [.pf]),
    (["pi", "initialpunctuation"], [.pi]),
    (["po", "otherpunctuation"], [.po]),
    (["ps", "openpunctuation"], [.ps]),
    (["sc", "currencysymbol"], [.sc]),
    (["sk", "modifiersymbol"], [.sk]),
    (["sm", "mathsymbol"], [.sm]),
    (["so", "othersymbol"], [.so]),
    (["zl", "lineseparator"], [.zl]),
    (["zp", "paragraphseparator"], [.zp]),
    (["zs", "spaceseparator"], [.zs]),
    (["l", "letter"], letters),
    (["lc", "casedletter"], [.ll, .lt, .lu]),
    (["m", "mark", "combiningmark"], marks),
    (["n", "number"], numbers),
    (["p", "punctuation", "punct"], punctuation),
    (["s", "symbol"], symbols),
    (["z", "separator"], separators),
    (["c", "other"], .cn :: assignedOthers),
    (["any"], .cn :: assigned),
    (["assigned"], assigned)
  ]

/-- The categories of a name. -/
def ofName? (s : String) : Option (List Category) :=
  (names.find? fun e => e.1.contains s).map (·.2)

end Category

end Unicode

end PromptStream
