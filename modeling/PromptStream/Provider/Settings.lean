import PromptStream.Fault
import PromptStream.Json.Record
import PromptStream.Json.Writer
import PromptStream.Text.Utf8

/-!
# Provider settings

How the OpenRouter service is asked.  Every setting has a default, so a settings
file names only what it changes.  The settings of a single request win over the
ones here.
-/

namespace PromptStream

namespace Provider

/-- How the service is asked. -/
structure Settings where
  /-- The model. -/
  model : String := "openai/gpt-4o-mini"
  /-- The most tokens to generate. -/
  maxTokens : Option Nat := some 1024
  /-- The sampling temperature. -/
  temperature : Option Binary := none
  /-- The sampling threshold. -/
  topP : Option Binary := none
  /-- Whether prompts go out as chat messages. -/
  chat : Bool := true
  /-- The page that the requests come from. -/
  referer : String := "https://github.com/weft-rs/weft"
  /-- The title under which the requests are made. -/
  title : String := "weft"
  /-- How long to wait for an answer. -/
  timeoutSeconds : Nat := 120
  deriving DecidableEq, Repr, Inhabited

namespace Settings

/-- The names of the settings in a document, in order. -/
def names : List String :=
  ["model", "max_tokens", "temperature", "top_p", "chat", "referer", "title", "timeout_secs"]

/-- A setting that may be `null`. -/
def nullableSetting? {α : Type} (r : Record) (name : String) (value : Option α)
    (read : Document → Option α) : Option (Option α) :=
  r.default? name value (Document.optional? read)

/-- The settings that a document describes. -/
def ofDocument? (d : Document) : Option Settings := do
  let r ← Record.ofDocument? names d
  let unset : Settings := {}
  let model ← r.default? "model" unset.model Document.text?
  let maxTokens ←
    nullableSetting? r "max_tokens" unset.maxTokens (Document.natBelow? (Nat.pow 2 32))
  let temperature ← nullableSetting? r "temperature" unset.temperature Document.single?
  let topP ← nullableSetting? r "top_p" unset.topP Document.single?
  let chat ← r.default? "chat" unset.chat Document.bool?
  let referer ← r.default? "referer" unset.referer Document.text?
  let title ← r.default? "title" unset.title Document.text?
  let timeoutSeconds ← r.default? "timeout_secs" unset.timeoutSeconds
    (Document.natBelow? (Nat.pow 2 64))
  return ⟨model, maxTokens, temperature, topP, chat, referer, title, timeoutSeconds⟩

/-- The settings in a file, given its name and its bytes, if it exists. -/
def read (path : String) (content : Option (List UInt8)) : Except Fault Settings :=
  match content.bind Utf8.decode? with
  | none => .error (.config (.unreadableFile path))
  | some cs =>
      match (Document.readChars? cs).bind ofDocument? with
      | some s => .ok s
      | none => .error (.config (.malformedFile path))

/-- The settings with those replaced that are given. -/
def override (s : Settings) (maxTokens : Option Nat) (temperature topP : Option Binary)
    (chat : Option Bool) : Settings :=
  { s with
    maxTokens := maxTokens.or s.maxTokens
    temperature := temperature.or s.temperature
    topP := topP.or s.topP
    chat := chat.getD s.chat }

/-- The settings with another page and title. -/
def withHeaders (s : Settings) (referer title : String) : Settings :=
  { s with referer := referer, title := title }

/-- A number of the 32-bit format that may be missing. -/
def singleJson : Option Binary → Json
  | none => .null
  | some x => .number (.single x)

/-- The settings as JSON. -/
def toJson (s : Settings) : Json :=
  .object
    [("model", .text s.model),
     ("max_tokens", s.maxTokens.elim .null .ofNat),
     ("temperature", singleJson s.temperature),
     ("top_p", singleJson s.topP),
     ("chat", .bool s.chat),
     ("referer", .text s.referer),
     ("title", .text s.title),
     ("timeout_secs", .ofNat s.timeoutSeconds)]

end Settings

/-! ## The service key -/

/-- The variable that holds the service key. -/
def keyVariable : String := "OPENROUTER_KEY"

/-- The service key, given the value of its variable. -/
def readKey (value : Option String) : Except Fault String :=
  match value with
  | some key => .ok key
  | none => .error (.config (.missingKey keyVariable))

end Provider

end PromptStream
