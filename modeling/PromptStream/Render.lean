import PromptStream.Engine.Run
import PromptStream.Text.Utf8

/-!
# Transcripts

A renderer writes every element of a run as it passes through.  A header is
written whenever the speaking role changes, elements may be coloured by their
source, and a rule closes the transcript at a clean end.

The sink that is written to may fail.  It keeps what fits, and the failure ends
the stream: the element that could not be written is replaced by a failure, and
the run is not polled again.
-/

namespace PromptStream

/-! ## Options and styles -/

/-- How a transcript looks. -/
structure RenderOptions where
  /-- Whether to write a header where the role changes. -/
  showRoles : Bool := true
  /-- Whether to colour elements by their source. -/
  color : Bool := true
  deriving DecidableEq, Repr, Inhabited

/-- The terminal sequences around text of a source. -/
def sourceStyle : Source → String × String
  | .constant => ("\x1b[38;5;11m", "\x1b[39m")
  | .parameter => ("\x1b[48;5;12m", "\x1b[49m")
  | .prompt => ("", "")
  | .llm => ("\x1b[48;5;10m", "\x1b[49m")

/-- An element as it is written. -/
def renderElement (color : Bool) (e : Element) : String :=
  if color then
    let (before, after) := sourceStyle e.source
    before ++ e.content ++ after
  else e.content

/-- The header of a role. -/
def roleHeader (role : Role) : String :=
  "\n------------------ " ++ role.name ++ " ------------------\n"

/-- The rule at the end of a transcript. -/
def closingRule : String := "\n----------------------------------------\n"

/-! ## Sinks -/

/-- Something that is written to. -/
structure Sink where
  /-- The bytes written so far. -/
  written : List UInt8 := []
  /-- The number of bytes that it takes, if there is a limit. -/
  capacity : Option Nat := none
  /-- What it says when it is full. -/
  fullReason : String := "disk full"
  /-- What it says when it cannot be flushed, if it cannot. -/
  flushFailure : Option String := none
  deriving Repr, Inhabited

namespace Sink

/-- Writes bytes: as many as fit, and a failure if not all do. -/
def writeBytes (s : Sink) (bs : List UInt8) : Option String × Sink :=
  match s.capacity with
  | none => (none, { s with written := s.written ++ bs })
  | some most =>
      let room := most - s.written.length
      if bs.length ≤ room then (none, { s with written := s.written ++ bs })
      else (some s.fullReason, { s with written := s.written ++ bs.take room })

/-- Writes a text. -/
def write (s : Sink) (text : String) : Option String × Sink := s.writeBytes (Utf8.encode text)

/-- Everything written, as text. -/
def text (s : Sink) : String := textOfBytes s.written

end Sink

/-! ## Renderers -/

/-- A transcript in progress. -/
structure Renderer where
  /-- How it looks. -/
  options : RenderOptions
  /-- What it is written to. -/
  sink : Sink
  /-- The role of the last header. -/
  lastRole : Option Role := none
  /-- Whether it has ended. -/
  done : Bool := false
  deriving Inhabited

namespace Renderer

/-- Writes the header of an element, if one is due. -/
def writeHeader (r : Renderer) (role : Role) : Option String × Renderer :=
  if r.options.showRoles ∧ r.lastRole ≠ some role then
    match r.sink.write (roleHeader role) with
    | (none, sink) => (none, { r with sink := sink, lastRole := some role })
    | (failure, sink) => (failure, { r with sink := sink })
  else (none, r)

/-- Writes a text and flushes. -/
def writeFlushed (r : Renderer) (text : String) : Option String × Renderer :=
  match r.sink.write text with
  | (none, sink) => (sink.flushFailure, { r with sink := sink })
  | (failure, sink) => (failure, { r with sink := sink })

/-- Writes an element with its header. -/
def writeElement (r : Renderer) (e : Element) : Option String × Renderer :=
  match r.writeHeader e.role with
  | (none, r) => r.writeFlushed (renderElement r.options.color e)
  | failed => failed

/-- The failure to write a transcript. -/
def failure (reason : String) : Fault := .stream (.renderFailed reason)

/-- What the consumer gets for an answer of the run. -/
def pass (r : Renderer) (answer : Poll) : Poll × Renderer :=
  match answer with
  | .element e =>
      match r.writeElement e with
      | (none, r) => (.element e, r)
      | (some reason, r) => (.failed (failure reason), { r with done := true })
  | .failed f => (.failed f, { r with done := true })
  | .ended =>
      match ({ r with done := true }).writeFlushed closingRule with
      | (none, r) => (.ended, r)
      | (some reason, r) => (.failed (failure reason), r)
  | .pending => (.pending, r)
  | .unanswered => (.unanswered, r)

end Renderer

/-! ## Rendered streams -/

/-- Renders the answers of a stream until the stream or the transcript ends.
Returns what the consumer gets, the last answer, and the transcript.  Once the
transcript has ended, nothing is asked of the stream any more. -/
def renderAll {σ : Type} (next : σ → Poll × σ) :
    Nat → Renderer → σ → List (Except Fault Element) × Poll × Renderer × σ
  | 0, r, s => ([], .unanswered, r, s)
  | rounds + 1, r, s =>
      if r.done then ([], .ended, r, s)
      else
        let (answer, s) := next s
        match r.pass answer with
        | (.element e, r) =>
            let (items, last) := renderAll next rounds r s
            (.ok e :: items, last)
        | (.failed f, r) =>
            let (items, last) := renderAll next rounds r s
            (.error f :: items, last)
        | (last, r) => ([], last, r, s)

/-- A prompt as a transcript, one block for each role group. -/
def prettyPrompt (p : Prompt) (color : Bool) : String :=
  String.join <| (Prompt.roleGroups p).map fun group =>
    match group with
    | [] => ""
    | e :: rest =>
        "----------" ++ e.role.name ++ "----------\n\n"
          ++ String.join ((e :: rest).map (renderElement color)) ++ "\n\n"

end PromptStream
