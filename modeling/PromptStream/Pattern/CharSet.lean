import PromptStream.Text.Blank
import PromptStream.Unicode.Folding
import PromptStream.Unicode.PropertyTable
import PromptStream.Unicode.ScriptTable

/-!
# Sets of characters

The sets that a pattern can name are kept as expressions, and `mem` says which
characters they hold.
-/

namespace PromptStream

namespace Pattern

/-! ## Word characters -/

/-- Whether a character belongs to words: letters, marks, digits, connectors and
the two joiners. -/
def isWordChar (c : Char) : Bool :=
  Unicode.Property.alphabetic.holds c
    || (.nd :: .pc :: Unicode.Category.marks).contains (Unicode.Category.ofChar c)
    || Unicode.Property.joinControl.holds c

/-- Whether a character belongs to words written in ASCII. -/
def isPlainWordChar (c : Char) : Bool := c.isAlphanum || c == '_'

/-- The other case of an ASCII letter, if the character is one. -/
def plainVariants (c : Char) : List Char :=
  if c.isUpper then [c, c.toLower] else if c.isLower then [c, c.toUpper] else [c]

/-! ## Sets -/

/-- A set of characters. -/
inductive CharSet where
  /-- No character. -/
  | empty
  /-- The code points between two ends, both included. -/
  | range (low high : Nat)
  /-- The characters of words. -/
  | word
  /-- The blanks. -/
  | blank
  /-- The characters of some general categories. -/
  | categories (cs : List Unicode.Category)
  /-- The characters with a property. -/
  | property (p : Unicode.Property)
  /-- The characters of a script. -/
  | script (s : Unicode.Script)
  /-- The characters that are used with a script. -/
  | usedWith (s : Unicode.Script)
  /-- The characters of either set. -/
  | union (a b : CharSet)
  /-- The characters of both sets. -/
  | inter (a b : CharSet)
  /-- The characters of the first set that are not in the second. -/
  | minus (a b : CharSet)
  /-- The characters of just one of two sets. -/
  | exclusive (a b : CharSet)
  /-- The characters that are not in a set. -/
  | complement (a : CharSet)
  /-- The characters that differ in case only from one in a set; `plain` if only
  the case of ASCII letters counts. -/
  | folded (plain : Bool) (a : CharSet)
  deriving Repr, Inhabited

namespace CharSet

/-- Whether a set holds a character. -/
def mem : CharSet → Char → Bool
  | .empty, _ => false
  | .range low high, c => low ≤ c.toNat && c.toNat ≤ high
  | .word, c => isWordChar c
  | .blank, c => isBlank c
  | .categories cs, c => cs.contains (Unicode.Category.ofChar c)
  | .property p, c => p.holds c
  | .script s, c => Unicode.Script.ofChar c == s
  | .usedWith s, c => Unicode.Script.uses s c
  | .union a b, c => a.mem c || b.mem c
  | .inter a b, c => a.mem c && b.mem c
  | .minus a b, c => a.mem c && !b.mem c
  | .exclusive a b, c => a.mem c != b.mem c
  | .complement a, c => !a.mem c
  | .folded true a, c => (plainVariants c).any a.mem
  | .folded false a, c => (Unicode.Folding.variants c).any a.mem

/-- One character. -/
def char (c : Char) : CharSet := .range c.toNat c.toNat

/-- The union of some sets. -/
def unions (sets : List CharSet) : CharSet := sets.foldr .union .empty

/-- The union of some ranges. -/
def ranges (runs : List (Char × Char)) : CharSet :=
  unions (runs.map fun (low, high) => .range low.toNat high.toNat)

/-- A set or its complement. -/
def negatedIf (negated : Bool) (s : CharSet) : CharSet := if negated then .complement s else s

/-- A rough count of the runs of code points that make up a set. -/
def runCount : CharSet → Nat
  | .empty => 0
  | .range _ _ => 1
  | .word => 770
  | .blank => 10
  | .categories cs => (Unicode.Category.runs.filter fun r => cs.contains r.2).length
  | .property p =>
      p.exceptions.length
        + (Unicode.Category.runs.filter fun r => p.categories.contains r.2).length
  | .script s => (Unicode.Script.runs.filter fun r => r.2 == s).length
  | .usedWith s => (Unicode.Script.runs.filter fun r => r.2 == s).length
  | .union a b => a.runCount + b.runCount
  | .inter a b => max a.runCount b.runCount
  | .minus a b => a.runCount + b.runCount
  | .exclusive a b => a.runCount + b.runCount
  | .complement a => a.runCount + 1
  | .folded _ a => 2 * a.runCount

end CharSet

end Pattern

end PromptStream
