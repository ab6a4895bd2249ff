import PromptStream.Completion
import PromptStream.Json.Record
import PromptStream.Text.Blank
import PromptStream.Text.Utf8

/-!
# Event streams

A streamed answer is a text of lines.  A line that begins with `data: ` carries
a JSON document with pieces of text or an error, and the line `data: [DONE]`
ends the stream.  Blank lines and comments, which begin with a colon, say
nothing, and neither does a line that cannot be understood.

The decoder takes bytes in chunks that may be cut anywhere.  It holds back the
bytes of the unfinished line and decodes a line only when it is complete, so a
character that is cut in two comes out whole.  Since it takes the bytes one by
one, only their sequence matters and not where the chunks end.
-/

namespace PromptStream

namespace Provider

/-! ## Events -/

/-- What a line of an event stream says. -/
inductive StreamEvent where
  /-- A piece of text for a choice. -/
  | delta (d : Delta)
  /-- The service reports an error. -/
  | error (message : String)
  /-- The stream is over. -/
  | done
  deriving DecidableEq, Repr

/-- The message of an error of the service. -/
def errorMessage? (d : Document) : Option String := do
  (← Record.ofDocument? ["message"] d).required? "message" Document.text?

/-- The text inside a chat message or a piece of one. -/
def content? (d : Document) : Option (Option String) := do
  (← Record.ofDocument? ["content"] d).nullable? "content" Document.text?

/-- A choice as it stands in a document. -/
structure Choice where
  /-- Its number, if it is given. -/
  index : Option Nat
  /-- Its text. -/
  text : String

/-- Reads a choice.  The text of a chat stands in a record of the given name and
wins over the one beside it. -/
def choice? (chatField : String) (d : Document) : Option Choice := do
  let r ← Record.ofDocument? ["index", chatField, "text"] d
  let index ← r.nullable? "index" (Document.natBelow? choiceBound)
  let chat ← r.nullable? chatField content?
  let text ← r.nullable? "text" Document.text?
  return ⟨index, (chat.join.or text).getD ""⟩

/-- Reads an answer: an error of the service, or some choices. -/
def answer? (chatField : String) (d : Document) : Option (Except String (List Choice)) := do
  let r ← Record.ofDocument? ["choices", "error"] d
  let choices ← r.default? "choices" [] (Document.list? (choice? chatField))
  let error ← r.nullable? "error" errorMessage?
  match error with
  | some message => return .error message
  | none => return .ok choices

/-- The choices as deltas; a choice without a number takes its position. -/
def deltas (choices : List Choice) : List Delta :=
  choices.zipIdx.map fun (c, position) => ⟨c.index.getD position, c.text⟩

/-- The events of the JSON text of a line. -/
def dataEvents (text : String) : List StreamEvent :=
  match (Document.read? text).bind (answer? "delta") with
  | none => []
  | some (.error message) => [.error message]
  | some (.ok choices) => ((deltas choices).filter fun d => !d.text.isEmpty).map .delta

/-- What stands before the JSON text of a line. -/
def dataMark : List Char := ['d', 'a', 't', 'a', ':', ' ']

/-- The line that ends a stream. -/
def doneLine : List Char := dataMark ++ ['[', 'D', 'O', 'N', 'E', ']']

/-- The rest of a list after a given beginning. -/
def dropMark? : List Char → List Char → Option (List Char)
  | [], cs => some cs
  | _ :: _, [] => none
  | m :: ms, c :: cs => if m = c then dropMark? ms cs else none

/-- The events of a line, given without the blanks at its ends. -/
def lineEvents (line : List Char) : List StreamEvent :=
  match line with
  | [] => []
  | ':' :: _ => []
  | line =>
      if line = doneLine then [.done]
      else match dropMark? dataMark line with
        | some text => dataEvents (String.ofList text)
        | none => []

/-- The events of the bytes of a line. -/
def rawLineEvents (bs : List UInt8) : List StreamEvent :=
  lineEvents (trimBlanks (Utf8.decodeLossy bs))

/-! ## The decoder -/

/-- A decoder of an event stream. -/
structure StreamDecoder where
  /-- The bytes of the unfinished line, last first. -/
  held : List UInt8 := []
  /-- Whether the line that ends the stream has been read. -/
  done : Bool := false
  deriving DecidableEq, Repr, Inhabited

namespace StreamDecoder

/-- Takes the end of a line. -/
def endLine (d : StreamDecoder) : List StreamEvent × StreamDecoder :=
  let events := rawLineEvents d.held.reverse
  (events, ⟨[], events.contains .done⟩)

/-- Takes one byte. -/
def feedByte (d : StreamDecoder) (b : UInt8) : List StreamEvent × StreamDecoder :=
  if d.done then ([], d)
  else if b = 0x0a then d.endLine
  else ([], { d with held := b :: d.held })

/-- Takes a chunk of bytes. -/
def feed (d : StreamDecoder) : List UInt8 → List StreamEvent × StreamDecoder
  | [] => ([], d)
  | b :: bs =>
      let (events, d) := d.feedByte b
      let (more, d) := d.feed bs
      (events ++ more, d)

/-- Takes the end of the bytes: the unfinished line is complete now. -/
def finish (d : StreamDecoder) : List StreamEvent × StreamDecoder :=
  if d.done then ([], d) else d.endLine

end StreamDecoder

end Provider

end PromptStream
