import PromptStream.Pattern.CharSet

/-!
# Flags

Flags change how the rest of a group is read.  With the verbose flag blanks and
comments between the parts of a pattern say nothing.
-/

namespace PromptStream

namespace Pattern

/-- How a pattern is read. -/
structure Flags where
  /-- Whether case counts for nothing. -/
  ignoreCase : Bool := false
  /-- Whether the line conditions hold at every line. -/
  multiLine : Bool := false
  /-- Whether the dot stands for line ends too. -/
  dotAll : Bool := false
  /-- Whether carriage returns end lines. -/
  returns : Bool := false
  /-- Whether words, digits and cases go beyond ASCII. -/
  unicode : Bool := true
  /-- Whether blanks and comments are skipped. -/
  verbose : Bool := false
  deriving DecidableEq, Repr, Inhabited

namespace Flags

/-- Sets or clears the flag of a letter.  How greedy repetitions are changes
where matches end and not where they begin. -/
def set? (f : Flags) (value : Bool) : Char → Option Flags
  | 'i' => some { f with ignoreCase := value }
  | 'm' => some { f with multiLine := value }
  | 's' => some { f with dotAll := value }
  | 'R' => some { f with returns := value }
  | 'U' => some f
  | 'u' => some { f with unicode := value }
  | 'x' => some { f with verbose := value }
  | _ => none

/-- Applies letters, of which those after a dash clear their flag. -/
def withLetters? (f : Flags) : Bool → List Char → Option Flags
  | _, [] => some f
  | value, c :: cs =>
      if c = '-' then f.withLetters? false cs
      else match f.set? value c with
        | some g => g.withLetters? value cs
        | none => none

/-- Whether no letter occurs twice. -/
def lettersDistinct : List Char → Bool
  | [] => true
  | c :: cs => !cs.contains c && lettersDistinct cs

/-- Reads flag letters up to a colon or a closing bracket: the flags, whether
there were any letters, the character that ends them, and what follows. -/
def read? (f : Flags) (cs : List Char) : Option (Flags × Bool × Char × List Char) :=
  let isEnd (c : Char) := c == ':' || c == ')'
  let letters := cs.takeWhile (!isEnd ·)
  match cs.dropWhile (!isEnd ·) with
  | [] => none
  | ending :: rest =>
      if !lettersDistinct letters || letters.getLast? == some '-' then none
      else (f.withLetters? true letters).map fun g => (g, !letters.isEmpty, ending, rest)

/-- The set of one character. -/
def charSet (f : Flags) (c : Char) : CharSet :=
  if f.ignoreCase then .folded (!f.unicode) (.char c) else .char c

/-- A set as it counts under the flags. -/
def foldSet (f : Flags) (s : CharSet) : CharSet :=
  if f.ignoreCase then .folded (!f.unicode) s else s

/-- A set that may be negated.  Outside of Unicode a negated set would hold
bytes that are no characters, so there is none. -/
def negateSet? (f : Flags) (negated : Bool) (s : CharSet) : Option CharSet :=
  if negated && !f.unicode then none else some (.negatedIf negated s)

end Flags

/-! ## Blanks and comments -/

/-- Drops blanks and comments; the first argument says whether a comment is
open. -/
def skipComments : Bool → List Char → List Char
  | _, [] => []
  | true, c :: cs => skipComments (c != '\n') cs
  | false, c :: cs =>
      if isBlank c then skipComments false cs
      else if c = '#' then skipComments true cs
      else c :: cs

/-- Drops what says nothing under the flags. -/
def Flags.skip (f : Flags) (cs : List Char) : List Char :=
  if f.verbose then skipComments false cs else cs

end Pattern

end PromptStream
