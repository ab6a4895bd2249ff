import PromptStream.Pattern.ClassName
import PromptStream.Pattern.Flags
import PromptStream.Pattern.Node

/-!
# Escapes

What may follow a backslash: a character that has a meaning of its own, a
control character, a code point in hexadecimal, a class, or a condition.
Letters and digits without a meaning are refused, and so are references to
earlier groups.
-/

namespace PromptStream

namespace Pattern

/-- What an escape stands for. -/
inductive Escape where
  /-- A character. -/
  | char (c : Char)
  /-- A set. -/
  | set (s : CharSet)
  /-- A condition. -/
  | look (l : Look)
  deriving Repr

/-! ## Characters with a meaning -/

/-- The characters that have a meaning of their own. -/
def metaChars : List Char :=
  ['\\', '.', '+', '*', '?', '(', ')', '|', '[', ']', '\x7b', '\x7d', '^', '$', '#', '&', '-', '~']

/-- Whether a character stands for itself after a backslash. -/
def isEscapable (c : Char) : Bool :=
  metaChars.contains c
    || (c.toNat < 0x80 && !c.isAlphanum && c != '<' && c != '>')

/-- The control character of a letter. -/
def controlChar? : Char → Option Char
  | 'a' => some '\x07'
  | 'f' => some '\x0c'
  | 't' => some '\t'
  | 'n' => some '\n'
  | 'r' => some '\r'
  | 'v' => some '\x0b'
  | _ => none

/-! ## Braces -/

/-- Reads what stands before a closing brace.  The flag says whether a comment is
open. -/
def untilBrace? (verbose : Bool) : Bool → List Char → Option (List Char × List Char)
  | _, [] => none
  | true, c :: cs => untilBrace? verbose (c != '\n') cs
  | false, c :: cs =>
      if verbose && isBlank c then untilBrace? verbose false cs
      else if verbose && c == '#' then untilBrace? verbose true cs
      else if c = '\x7d' then some ([], cs)
      else (untilBrace? verbose false cs).map fun (name, rest) => (c :: name, rest)

/-! ## Code points -/

/-- The value of a hexadecimal digit. -/
def hexDigitValue? (c : Char) : Option Nat :=
  if c.isDigit then some (c.toNat - 48)
  else if 'a' ≤ c ∧ c ≤ 'f' then some (c.toNat - 87)
  else if 'A' ≤ c ∧ c ≤ 'F' then some (c.toNat - 55)
  else none

/-- The value of hexadecimal digits. -/
def hexNumber? (ds : List Char) : Option Nat :=
  ds.foldlM (fun n d => (hexDigitValue? d).map (16 * n + ·)) 0

/-- The character of a code point. -/
def codePoint? (n : Nat) : Option Char :=
  if n.isValidChar then some (Char.ofNat n) else none

/-- The character of hexadecimal digits, of which there is at least one. -/
def hexChar? (ds : List Char) : Option Char :=
  if ds.isEmpty then none else (hexNumber? ds).bind codePoint?

/-- Takes so many characters, with skips between them. -/
def takeSkipping? (f : Flags) : Nat → List Char → Option (List Char × List Char)
  | 0, cs => some ([], cs)
  | n + 1, cs =>
      match f.skip cs with
      | [] => none
      | c :: rest => (takeSkipping? f n rest).map fun (ds, rest) => (c :: ds, rest)

/-- Reads a code point in braces or with so many digits.  Outside of Unicode,
two digits denote a byte, and only those of ASCII are characters. -/
def readHex? (f : Flags) (digits : Nat) (cs : List Char) : Option (Char × List Char) :=
  match f.skip cs with
  | '\x7b' :: rest => do
      let (ds, rest) ← untilBrace? f.verbose false rest
      return (← hexChar? ds, rest)
  | cs => do
      let (ds, rest) ← takeSkipping? f digits cs
      let c ← hexChar? ds
      if !f.unicode && digits == 2 && 0x80 ≤ c.toNat then none else return (c, rest)

/-! ## Classes -/

/-- Reads a class after `\p` or `\P`. -/
def readClass? (f : Flags) (negated : Bool) (cs : List Char) : Option (CharSet × List Char) :=
  if !f.unicode then none
  else match f.skip cs with
    | [] => none
    | '\x7b' :: rest => do
        let (name, rest) ← untilBrace? f.verbose false rest
        let (s, unequal) ← bracedClass? name
        return (.negatedIf (negated != unequal) (f.foldSet s), rest)
    | c :: rest =>
        if c = '\\' then none
        else (singleClass? (normalizeName [c])).map fun s =>
          (.negatedIf negated (f.foldSet s), rest)

/-- The class of a letter. -/
def letterClass? (f : Flags) : Char → Option CharSet
  | 'd' => some (if f.unicode then .categories [.nd] else plainDigits)
  | 's' => some (if f.unicode then .blank else plainBlanks)
  | 'w' => some (if f.unicode then .word else plainWords)
  | 'D' => f.negateSet? true (.categories [.nd])
  | 'S' => f.negateSet? true .blank
  | 'W' => f.negateSet? true .word
  | _ => none

/-! ## Conditions -/

/-- The condition of a name in braces. -/
def namedEdge? (plain : Bool) : String → Option Look
  | "start" => some (.wordStart plain)
  | "end" => some (.wordEnd plain)
  | "start-half" => some (.noWordBefore plain)
  | "end-half" => some (.noWordAfter plain)
  | _ => none

/-- Whether a character may begin the name of a condition. -/
def isEdgeChar (c : Char) : Bool := c.isAlpha || c == '-'

/-- Reads what follows `\b`.  A brace begins the name of a condition if a letter
or a dash follows it, and a repetition otherwise. -/
def readEdge? (f : Flags) (cs : List Char) : Option (Look × List Char) :=
  let plain := !f.unicode
  match cs with
  | '\x7b' :: rest =>
      match f.skip rest with
      | [] => none
      | c :: more =>
          if isEdgeChar c then do
            let (name, rest) ← untilBrace? f.verbose false (c :: more)
            let l ← namedEdge? plain (String.ofList name)
            return (l, rest)
          else some (.wordEdge plain, cs)
  | cs => some (.wordEdge plain, cs)

/-! ## Escapes -/

/-- Reads what follows a backslash. -/
def readEscape? (f : Flags) : List Char → Option (Escape × List Char)
  | [] => none
  | c :: cs =>
      let plain := !f.unicode
      if c = 'x' then (readHex? f 2 cs).map fun (d, rest) => (.char d, rest)
      else if c = 'u' then (readHex? f 4 cs).map fun (d, rest) => (.char d, rest)
      else if c = 'U' then (readHex? f 8 cs).map fun (d, rest) => (.char d, rest)
      else if c = 'p' ∨ c = 'P' then
        (readClass? f (c == 'P') cs).map fun (s, rest) => (.set s, rest)
      else if c = 'b' then (readEdge? f cs).map fun (l, rest) => (.look l, rest)
      else if c = 'B' then some (.look (.noWordEdge plain), cs)
      else if c = '<' then some (.look (.wordStart plain), cs)
      else if c = '>' then some (.look (.wordEnd plain), cs)
      else if c = 'A' then some (.look .textStart, cs)
      else if c = 'z' then some (.look .textEnd, cs)
      else if isEscapable c then some (.char c, cs)
      else match controlChar? c, letterClass? f c with
        | some d, _ => some (.char d, cs)
        | none, some s => some (.set s, cs)
        | none, none => none

end Pattern

end PromptStream
