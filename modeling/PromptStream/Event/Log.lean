import PromptStream.Event
import PromptStream.Text.Quoted

/-!
# Log lines of events

A handler that logs every event, each at a level of its own.  Of the text of a
delta only the first 80 characters are shown.
-/

namespace PromptStream

/-- How important a log line is. -/
inductive LogLevel where
  | info
  | debug
  | trace
  deriving DecidableEq, Repr

namespace LogLevel

/-- The name of a level. -/
def name : LogLevel → String
  | .info => "INFO"
  | .debug => "DEBUG"
  | .trace => "TRACE"

end LogLevel

/-- A log line. -/
structure LogLine where
  /-- How important it is. -/
  level : LogLevel
  /-- What it says. -/
  message : String
  deriving DecidableEq, Repr

namespace LogLine

/-- The line with its level in front. -/
def text (l : LogLine) : String := l.level.name ++ " " ++ l.message

end LogLine

namespace Event

/-- The number of characters of a delta that are shown. -/
def previewLength : Nat := 80

/-- A number in words of a log. -/
def counted (n : Nat) (noun : String) : String := toString n ++ " " ++ noun

/-- The log line of an event. -/
def logLine : Event → LogLine
  | .generationStarted name address role =>
      ⟨.info, "Generating '" ++ name ++ "' as " ++ role.name ++ " at "
        ++ displayItems (address.map displayText)⟩
  | .generationDelta name delta =>
      ⟨.trace, "Generation '" ++ name ++ "' delta: "
        ++ String.ofList (delta.toList.take previewLength)⟩
  | .generationFinished name text choices =>
      ⟨.info, "Generated '" ++ name ++ "': " ++ counted text.utf8ByteSize "chars" ++ " across "
        ++ counted choices "choice(s)"⟩
  | .loopIteration id iteration => ⟨.debug, "Loop '" ++ id ++ "' iteration " ++ toString iteration⟩
  | .loopFinished id iterations =>
      ⟨.debug, "Loop '" ++ id ++ "' finished after " ++ counted iterations "iteration(s)"⟩
  | .waiting key index =>
      ⟨.info, "Waiting for queue item '" ++ key ++ "'[" ++ toString index ++ "]"⟩
  | .itemConsumed key index =>
      ⟨.debug, "Consumed queue item '" ++ key ++ "'[" ++ toString index ++ "]"⟩

end Event

/-- The handler that logs every event. -/
def EventHandler.logging : EventHandler LogLine := fun e => [e.logLine]

end PromptStream
