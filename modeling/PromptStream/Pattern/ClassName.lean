import PromptStream.Pattern.CharSet

/-!
# Names of character classes

Classes are named in two ways: after a property, a general category or a script,
where case, blanks, dashes and underscores do not count, and after one of the
classes of ASCII characters.
-/

namespace PromptStream

namespace Pattern

/-! ## Names of Unicode classes -/

/-- Drops a leading `is`, in any case. -/
def dropIs : List Char → List Char × Bool
  | a :: b :: cs =>
      if (a == 'i' || a == 'I') && (b == 's' || b == 'S') then (cs, true) else (a :: b :: cs, false)
  | cs => (cs, false)

/-- A name without what does not count in it. -/
def normalizeName (cs : List Char) : String :=
  let (rest, dropped) := dropIs cs
  let letters := (rest.filter fun c => c != ' ' && c != '_' && c != '-' && c.toNat < 0x80).map
    Char.toLower
  if dropped && letters == ['c'] then "isc" else String.ofList letters

/-- The class of a name of general categories. -/
def categoryClass? (name : String) : Option CharSet :=
  if name = "ascii" then some (.range 0 0x7f)
  else (Unicode.Category.ofName? name).map .categories

/-- The class of a name that stands alone.  Properties come first, except where
their short names also denote categories. -/
def singleClass? (name : String) : Option CharSet :=
  ((Unicode.Property.ofName? name).map CharSet.property).or
    ((categoryClass? name).or ((Unicode.Script.ofName? name).map .script))

/-- The class of a property with a value. -/
def valueClass? (name value : String) : Option CharSet :=
  if name = "gc" ∨ name = "generalcategory" then categoryClass? value
  else if name = "sc" ∨ name = "script" then (Unicode.Script.ofName? value).map .script
  else if name = "scx" ∨ name = "scriptextensions" then
    (Unicode.Script.ofName? value).map .usedWith
  else none

/-- Cuts at the first place where a text is found. -/
def cutAt? (mark : List Char) : List Char → Option (List Char × List Char)
  | [] => none
  | c :: cs =>
      if mark.isPrefixOf (c :: cs) then some ([], (c :: cs).drop mark.length)
      else (cutAt? mark cs).map fun (a, b) => (c :: a, b)

/-- The class that stands between braces, and whether it is negated. -/
def bracedClass? (cs : List Char) : Option (CharSet × Bool) :=
  match cutAt? ['!', '='] cs with
  | some (name, value) =>
      (valueClass? (normalizeName name) (normalizeName value)).map (·, true)
  | none =>
      match (cutAt? [':'] cs).or (cutAt? ['='] cs) with
      | some (name, value) =>
          (valueClass? (normalizeName name) (normalizeName value)).map (·, false)
      | none => (singleClass? (normalizeName cs)).map (·, false)

/-! ## Classes of ASCII characters -/

/-- The decimal digits. -/
def plainDigits : CharSet := .ranges [('0', '9')]

/-- The blanks. -/
def plainBlanks : CharSet := .ranges [('\t', '\r'), (' ', ' ')]

/-- The characters of words. -/
def plainWords : CharSet := .ranges [('0', '9'), ('A', 'Z'), ('_', '_'), ('a', 'z')]

/-- The class of a name between colons. -/
def plainClass? : String → Option CharSet
  | "alnum" => some (.ranges [('0', '9'), ('A', 'Z'), ('a', 'z')])
  | "alpha" => some (.ranges [('A', 'Z'), ('a', 'z')])
  | "ascii" => some (.range 0 0x7f)
  | "blank" => some (.ranges [('\t', '\t'), (' ', ' ')])
  | "cntrl" => some (.union (.range 0 0x1f) (.range 0x7f 0x7f))
  | "digit" => some plainDigits
  | "graph" => some (.ranges [('!', '~')])
  | "lower" => some (.ranges [('a', 'z')])
  | "print" => some (.ranges [(' ', '~')])
  | "punct" => some (.ranges [('!', '/'), (':', '@'), ('[', '\x60'), ('\x7b', '~')])
  | "space" => some plainBlanks
  | "upper" => some (.ranges [('A', 'Z')])
  | "word" => some plainWords
  | "xdigit" => some (.ranges [('0', '9'), ('A', 'F'), ('a', 'f')])
  | _ => none

end Pattern

end PromptStream
