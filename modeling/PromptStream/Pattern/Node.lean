import PromptStream.Pattern.CharSet

/-!
# Regular expressions

A regular expression relates two gaps of a text, the places between its
characters where a match may begin and end.  What matters here is only where
matches begin, so an expression is read backwards: given the gaps where a match
may end, `begins` marks the gaps where one begins.

A repetition is the only expression that is applied more than once.  Its
optional rounds spread marks until nothing new is marked, and its obligatory
rounds stop early when a round changes nothing, so large bounds cost nothing.
-/

namespace PromptStream

namespace Pattern

/-! ## Gaps -/

/-- A place between two characters of a text. -/
structure Gap where
  /-- The character before it. -/
  before : Option Char
  /-- The character after it. -/
  after : Option Char
  deriving DecidableEq, Repr

/-- The gaps of some characters, given the character before them. -/
def gapsFrom (before : Option Char) : List Char → List Gap
  | [] => [⟨before, none⟩]
  | c :: cs => ⟨before, some c⟩ :: gapsFrom (some c) cs

/-- The gaps of a text, one more than it has characters. -/
def gaps (cs : List Char) : List Gap := gapsFrom none cs

/-! ## Conditions on gaps -/

/-- A condition on a gap. -/
inductive Look where
  /-- The start of the text. -/
  | textStart
  /-- The end of the text. -/
  | textEnd
  /-- The start of a line.  With `returns`, a carriage return ends a line as
  well, alone or before a newline. -/
  | lineStart (returns : Bool)
  /-- The end of a line. -/
  | lineEnd (returns : Bool)
  /-- A word on exactly one side; `plain` if words are written in ASCII. -/
  | wordEdge (plain : Bool)
  /-- A word on both sides or on none. -/
  | noWordEdge (plain : Bool)
  /-- The start of a word. -/
  | wordStart (plain : Bool)
  /-- The end of a word. -/
  | wordEnd (plain : Bool)
  /-- No word before. -/
  | noWordBefore (plain : Bool)
  /-- No word after. -/
  | noWordAfter (plain : Bool)
  deriving DecidableEq, Repr

namespace Look

/-- Whether there is a word character. -/
def isWord (plain : Bool) (c : Option Char) : Bool :=
  c.any (if plain then isPlainWordChar else isWordChar)

/-- Whether a gap meets a condition. -/
def holds : Look → Gap → Bool
  | .textStart, g => g.before.isNone
  | .textEnd, g => g.after.isNone
  | .lineStart false, g => g.before.isNone || g.before == some '\n'
  | .lineStart true, g =>
      g.before.isNone || g.before == some '\n'
        || (g.before == some '\r' && g.after != some '\n')
  | .lineEnd false, g => g.after.isNone || g.after == some '\n'
  | .lineEnd true, g =>
      g.after.isNone || g.after == some '\r'
        || (g.after == some '\n' && g.before != some '\r')
  | .wordEdge plain, g => isWord plain g.before != isWord plain g.after
  | .noWordEdge plain, g => isWord plain g.before == isWord plain g.after
  | .wordStart plain, g => !isWord plain g.before && isWord plain g.after
  | .wordEnd plain, g => isWord plain g.before && !isWord plain g.after
  | .noWordBefore plain, g => !isWord plain g.before
  | .noWordAfter plain, g => !isWord plain g.after

end Look

/-! ## Expressions -/

/-- A regular expression. -/
inductive Node where
  /-- Nothing. -/
  | empty
  /-- One character of a set. -/
  | one (s : CharSet)
  /-- A condition on a gap. -/
  | look (l : Look)
  /-- One expression after another. -/
  | cat (a b : Node)
  /-- Either of two expressions. -/
  | alt (a b : Node)
  /-- An expression so many times, without a bound if `most` is none. -/
  | rep (a : Node) (least : Nat) (most : Option Nat)
  deriving Repr, Inhabited

/-! ## Matching -/

/-- A mark for each gap. -/
abbrev Marks := List Bool

namespace Marks

/-- The marks of either kind. -/
def union (m n : Marks) : Marks := List.zipWith (· || ·) m n

/-- The marks of the first kind that are not of the second. -/
def without (m n : Marks) : Marks := List.zipWith (fun a b => a && !b) m n

/-- Applies a function so many times, or until it changes nothing. -/
def rounds (f : Marks → Marks) : Nat → Marks → Marks
  | 0, m => m
  | n + 1, m =>
      let next := f m
      if next = m then m else rounds f n next

/-- Adds what a function makes of the newest marks, so many times or until
nothing new is marked. -/
def spread (f : Marks → Marks) : Nat → Marks → Marks → Marks
  | 0, all, _ => all
  | n + 1, all, new =>
      let fresh := without (f new) all
      if fresh.any id then spread f n (union all fresh) fresh else all

/-- The offset in bytes of the first marked gap of some characters. -/
def firstOffset? : Marks → List Char → Option Nat
  | true :: _, _ => some 0
  | false :: ms, c :: cs => (firstOffset? ms cs).map (c.utf8Size + ·)
  | _, _ => none

end Marks

namespace Node

/-- The gaps at which a match begins, given those at which one may end. -/
def begins (gs : List Gap) : Node → Marks → Marks
  | .empty, m => m
  | .one s, m => List.zipWith (fun g b => g.after.any s.mem && b) gs (m.drop 1 ++ [false])
  | .look l, m => List.zipWith (fun g b => l.holds g && b) gs m
  | .cat a b, m => a.begins gs (b.begins gs m)
  | .alt a b, m => (a.begins gs m).union (b.begins gs m)
  | .rep a least most, m =>
      let extra := match most with
        | none => gs.length
        | some n => n - least
      Marks.rounds (a.begins gs) least (Marks.spread (a.begins gs) extra m m)

/-- The offset in bytes at which the first match in a text begins. -/
def findStart? (p : Node) (cs : List Char) : Option Nat :=
  let gs := gaps cs
  (p.begins gs (gs.map fun _ => true)).firstOffset? cs

/-- One expression after another, for any number of them. -/
def cats : List Node → Node
  | [] => .empty
  | [p] => p
  | p :: rest => .cat p (cats rest)

/-- Either of some expressions. -/
def alts : List Node → Node
  | [] => .one .empty
  | [p] => p
  | p :: rest => .alt p (alts rest)

/-! ## Size -/

/-- Roughly how many bytes a machine for an expression takes. -/
def weight : Node → Nat
  | .empty => 32
  | .one (.range low high) =>
      if low = high then 32 * (Char.ofNat low).utf8Size else 64
  | .one s => 64 * s.runCount
  | .look _ => 32
  | .cat a b => a.weight + b.weight
  | .alt a b => 32 + a.weight + b.weight
  | .rep a least most =>
      match most with
      | none => max 1 least * (a.weight + 32)
      | some n => least * a.weight + (n - least) * (a.weight + 32)

/-- The most bytes that a machine may take. -/
def maxWeight : Nat := 10 * Nat.pow 2 20

end Node

end Pattern

end PromptStream
