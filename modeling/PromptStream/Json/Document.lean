import PromptStream.Json.Numeral

/-!
# JSON documents

A document is JSON text after it has been read once, with nothing decided yet:
members keep their order and may repeat a name, numerals are not evaluated, and
a string is `none` when one of its escapes is a surrogate without its partner.
What such things mean depends on where they stand, and is settled by the reader
of the particular record.

Reading takes two passes, and each is a machine that takes one symbol at a
time.  `Lexer` turns characters into tokens.  `Reader` turns tokens into a
document, with the containers that are still open on a stack, so documents of
any depth are read.
-/

namespace PromptStream

/-- JSON text, read once. -/
inductive Document where
  | null
  | bool (b : Bool)
  | number (n : Numeral)
  | text (s : Option String)
  | array (items : List Document)
  | object (members : List (Option String × Document))
  deriving Repr, Inhabited

/-- A token of JSON text. -/
inductive JsonToken where
  | openArray
  | closeArray
  | openObject
  | closeObject
  | comma
  | colon
  | null
  | bool (b : Bool)
  | number (n : Numeral)
  | text (s : Option String)
  deriving DecidableEq, Repr

/-! ## Characters to tokens -/

namespace Lexer

/-- Where a string stands in an escape. -/
inductive Escape where
  /-- In no escape. -/
  | plain
  /-- After a backslash. -/
  | started
  /-- After some of the four hexadecimal digits: their number and value. -/
  | hex (count value : Nat)
  deriving DecidableEq, Repr

/-- A string that is being read. -/
structure Quoted where
  /-- The characters so far, last first. -/
  before : List Char
  /-- The first half of a surrogate pair, if the last escape was one. -/
  high : Option Nat
  /-- Whether a surrogate without its partner has been seen. -/
  lone : Bool
  /-- The position in an escape. -/
  escape : Escape
  deriving DecidableEq, Repr

/-- What the lexer is reading. -/
inductive State where
  /-- Nothing. -/
  | gap
  /-- A word, last letter first. -/
  | word (before : List Char)
  /-- A numeral, last character first. -/
  | numeral (before : List Char)
  /-- A string. -/
  | text (q : Quoted)
  deriving DecidableEq, Repr

/-- Blanks of JSON text. -/
def isGap (c : Char) : Bool := c == ' ' || c == '\t' || c == '\n' || c == '\r'

/-- Characters that continue a numeral. -/
def isNumeralChar (c : Char) : Bool :=
  c.isDigit || c == '-' || c == '+' || c == '.' || c == 'e' || c == 'E'

/-- Letters of the three words. -/
def isWordChar (c : Char) : Bool := 'a' ≤ c && c ≤ 'z'

/-- The value of a hexadecimal digit. -/
def hexValue? (c : Char) : Option Nat :=
  if c.isDigit then some (c.toNat - 48)
  else if 'a' ≤ c ∧ c ≤ 'f' then some (c.toNat - 87)
  else if 'A' ≤ c ∧ c ≤ 'F' then some (c.toNat - 55)
  else none

/-- The word that letters spell. -/
def wordToken? (letters : List Char) : Option JsonToken :=
  if letters = ['n', 'u', 'l', 'l'] then some .null
  else if letters = ['t', 'r', 'u', 'e'] then some (.bool true)
  else if letters = ['f', 'a', 'l', 's', 'e'] then some (.bool false)
  else none

namespace Quoted

/-- A string at its start. -/
def start : Quoted := ⟨[], none, false, .plain⟩

/-- Notes that the half of a pair that was open, if any, stays alone. -/
def closePair (q : Quoted) : Quoted :=
  match q.high with
  | none => q
  | some _ => { q with high := none, lone := true }

/-- Adds a character. -/
def push (q : Quoted) (c : Char) : Quoted :=
  let q := q.closePair
  { q with before := c :: q.before, escape := .plain }

/-- Adds a 16-bit unit written in hexadecimal. -/
def pushUnit (q : Quoted) (u : Nat) : Quoted :=
  if 0xdc00 ≤ u ∧ u ≤ 0xdfff then
    match q.high with
    | some h =>
        let c := Char.ofNat (0x10000 + (h - 0xd800) * 0x400 + (u - 0xdc00))
        { q with before := c :: q.before, high := none, escape := .plain }
    | none => { q with lone := true, escape := .plain }
  else if 0xd800 ≤ u ∧ u ≤ 0xdbff then
    { q.closePair with high := some u, escape := .plain }
  else q.push (Char.ofNat u)

/-- The character that a short escape stands for. -/
def shortEscape? (c : Char) : Option Char :=
  if c = '"' then some '"'
  else if c = '\\' then some '\\'
  else if c = '/' then some '/'
  else if c = 'b' then some '\x08'
  else if c = 'f' then some '\x0c'
  else if c = 'n' then some '\n'
  else if c = 'r' then some '\r'
  else if c = 't' then some '\t'
  else none

/-- The string when its closing quote is read. -/
def close (q : Quoted) : Option String :=
  let q := q.closePair
  if q.lone then none else some (String.ofList q.before.reverse)

end Quoted

/-- Reads a character that starts a token or stands between two. -/
def begin? (c : Char) : Option (List JsonToken × State) :=
  if isGap c then some ([], .gap)
  else if c = '"' then some ([], .text .start)
  else if c = '[' then some ([.openArray], .gap)
  else if c = ']' then some ([.closeArray], .gap)
  else if c = '\x7b' then some ([.openObject], .gap)
  else if c = '\x7d' then some ([.closeObject], .gap)
  else if c = ',' then some ([.comma], .gap)
  else if c = ':' then some ([.colon], .gap)
  else if isWordChar c then some ([], .word [c])
  else if isNumeralChar c then some ([], .numeral [c])
  else none

/-- Reads a character of a string. -/
def stepQuoted? (q : Quoted) (c : Char) : Option (List JsonToken × State) :=
  match q.escape with
  | .plain =>
      if c = '"' then some ([.text q.close], .gap)
      else if c = '\\' then some ([], .text { q with escape := .started })
      else if c.toNat < 0x20 then none
      else some ([], .text (q.push c))
  | .started =>
      if c = 'u' then some ([], .text { q with escape := .hex 0 0 })
      else (Quoted.shortEscape? c).map fun d => ([], .text (q.push d))
  | .hex count value =>
      (hexValue? c).map fun d =>
        let value := 16 * value + d
        if count < 3 then ([], .text { q with escape := .hex (count + 1) value })
        else ([], .text (q.pushUnit value))

/-- The token that ends where something else begins. -/
def flush? : State → Option (List JsonToken)
  | .gap => some []
  | .word before => (wordToken? before.reverse).map ([·])
  | .numeral before => (Numeral.ofChars? before.reverse).map fun n => [.number n]
  | .text _ => none

/-- Reads one character. -/
def step? (s : State) (c : Char) : Option (List JsonToken × State) :=
  match s with
  | .gap => begin? c
  | .word before =>
      if isWordChar c then some ([], .word (c :: before))
      else do
        let ended ← flush? (.word before)
        let (begun, next) ← begin? c
        some (ended ++ begun, next)
  | .numeral before =>
      if isNumeralChar c then some ([], .numeral (c :: before))
      else do
        let ended ← flush? (.numeral before)
        let (begun, next) ← begin? c
        some (ended ++ begun, next)
  | .text q => stepQuoted? q c

/-- The tokens of the characters from a state on. -/
def run? : State → List Char → Option (List JsonToken)
  | s, [] => flush? s
  | s, c :: cs =>
      match step? s c with
      | none => none
      | some (ts, next) => (run? next cs).map (ts ++ ·)

/-- The tokens of a text. -/
def tokens? (s : String) : Option (List JsonToken) := run? .gap s.toList

end Lexer

/-! ## Tokens to a document -/

namespace Reader

/-- A container that is still open, with what it holds so far, last first. -/
inductive Level where
  /-- An array. -/
  | items (before : List Document)
  /-- An object, and the name whose value is being read. -/
  | members (before : List (Option String × Document)) (name : Option String)
  deriving Inhabited

/-- What the next token must be. -/
inductive Phase where
  /-- A value, or the end of an array that is still empty. -/
  | value (mayClose : Bool)
  /-- The name of a member, or the end of an object that is still empty. -/
  | name (mayClose : Bool)
  /-- The colon after a name. -/
  | colon
  /-- A comma or the end of the container. -/
  | next
  /-- Nothing more. -/
  | finished (d : Document)
  deriving Inhabited

/-- The open containers, innermost first, and what may follow. -/
structure State where
  /-- The open containers. -/
  stack : List Level
  /-- What the next token must be. -/
  phase : Phase

/-- The state before the first token. -/
def start : State := ⟨[], .value false⟩

/-- Puts a finished value where it belongs. -/
def deliver (d : Document) : List Level → State
  | [] => ⟨[], .finished d⟩
  | .items before :: rest => ⟨.items (d :: before) :: rest, .next⟩
  | .members before name :: rest => ⟨.members ((name, d) :: before) none :: rest, .next⟩

/-- Closes the innermost container. -/
def close? (array : Bool) : List Level → Option State
  | .items before :: rest => if array then some (deliver (.array before.reverse) rest) else none
  | .members before _ :: rest =>
      if array then none else some (deliver (.object before.reverse) rest)
  | [] => none

/-- Reads one token. -/
def step? (s : State) (t : JsonToken) : Option State :=
  match s.phase, t with
  | .value _, .null => some (deliver .null s.stack)
  | .value _, .bool b => some (deliver (.bool b) s.stack)
  | .value _, .number n => some (deliver (.number n) s.stack)
  | .value _, .text q => some (deliver (.text q) s.stack)
  | .value _, .openArray => some ⟨.items [] :: s.stack, .value true⟩
  | .value _, .openObject => some ⟨.members [] none :: s.stack, .name true⟩
  | .value true, .closeArray => close? true s.stack
  | .name _, .text q =>
      match s.stack with
      | .members before _ :: rest => some ⟨.members before q :: rest, .colon⟩
      | _ => none
  | .name true, .closeObject => close? false s.stack
  | .colon, .colon => some ⟨s.stack, .value false⟩
  | .next, .comma =>
      match s.stack with
      | .items _ :: _ => some ⟨s.stack, .value false⟩
      | .members .. :: _ => some ⟨s.stack, .name false⟩
      | [] => none
  | .next, .closeArray => close? true s.stack
  | .next, .closeObject => close? false s.stack
  | _, _ => none

/-- Reads the tokens from a state on. -/
def run? : State → List JsonToken → Option Document
  | s, [] =>
      match s.phase with
      | .finished d => some d
      | _ => none
  | s, t :: ts =>
      match step? s t with
      | none => none
      | some next => run? next ts

end Reader

namespace Document

/-- The document that a text spells. -/
def read? (s : String) : Option Document :=
  (Lexer.tokens? s).bind (Reader.run? Reader.start)

/-- The document that bytes spell; they must be well-formed UTF-8 text. -/
def readChars? (cs : List Char) : Option Document :=
  (Lexer.run? .gap cs).bind (Reader.run? Reader.start)

end Document

end PromptStream
