import PromptStream.Provider.Body
import PromptStream.Provider.EventStream
import PromptStream.Provider.Status
import PromptStream.Text.Marked

/-!
# The client

A client posts a request to the service and turns the answer into deltas.  The
network is outside of this library: an *exchange* is what the network makes of a
post, and the client is a function of it.

An answer that is not streamed is read as a whole.  A streamed one is read chunk
by chunk, and its feed ends with the first error, or where the stream says that
it is over; nothing after that is looked at.  When the body breaks off, the
complete lines before the break still count and the unfinished line does not.
-/

namespace PromptStream

namespace Provider

/-! ## Posts -/

/-- The endpoint for chats. -/
def chatAddress : String := "https://openrouter.ai/api/v1/chat/completions"

/-- The endpoint for plain completions. -/
def completionsAddress : String := "https://openrouter.ai/api/v1/completions"

/-- How the client names itself. -/
def agentName : String := "weft-openrouter/0.1"

/-- What is posted to the service. -/
structure Post where
  /-- The endpoint. -/
  address : String
  /-- The proof that the service may be used. -/
  authorization : String
  /-- The page that the request comes from. -/
  referer : String
  /-- The title under which the request is made. -/
  title : String
  /-- How the client names itself. -/
  agent : String := agentName
  /-- The kind of the body. -/
  contentType : String := "application/json"
  /-- The body. -/
  body : String
  deriving DecidableEq, Repr

/-- Whether a text may stand in a header: tabs are the only control characters
that may. -/
def isHeaderText (s : String) : Bool :=
  s.toList.all fun c => c == '\t' || (0x20 ≤ c.toNat && c.toNat != 0x7f)

/-- A client of the service. -/
structure Client where
  /-- The service key. -/
  key : String
  /-- The page that the requests come from. -/
  referer : String
  /-- The title under which the requests are made. -/
  title : String
  deriving DecidableEq, Repr

namespace Client

/-- The client of some settings. -/
def ofSettings (key : String) (s : Settings) : Client := ⟨key, s.referer, s.title⟩

/-- The post of a body, unless one of its headers is malformed. -/
def post? (c : Client) (address : String) (body : Body) : Option Post :=
  let authorization := "Bearer " ++ c.key
  if isHeaderText authorization ∧ isHeaderText c.referer ∧ isHeaderText c.title then
    some { address := address, authorization := authorization, referer := c.referer,
           title := c.title, body := body.toJson.compact }
  else none

end Client

/-! ## Exchanges -/

/-- What a server answers. -/
structure Reply where
  /-- The status code. -/
  status : Nat
  /-- The body, in the chunks in which it arrives. -/
  chunks : List (List UInt8)
  /-- Whether the body arrives to its end. -/
  complete : Bool
  deriving DecidableEq, Repr

/-- What the network makes of a post. -/
inductive Exchange where
  /-- The service cannot be reached. -/
  | unreachable
  /-- A server answers. -/
  | answered (r : Reply)
  deriving DecidableEq, Repr

namespace Reply

/-- The reply without a body where its status does not allow one. -/
def trimmed (r : Reply) : Reply :=
  if hasBody r.status then r else { r with chunks := [], complete := true }

/-- The text of the body, if it arrived to its end. -/
def text? (r : Reply) : Option String :=
  if r.complete then some (textOfMarked r.chunks.flatten) else none

end Reply

/-! ## Answers that are read as a whole -/

/-- A failed completion. -/
def completionFault (cause : CompletionFault) : Fault := .completion cause

/-- The deltas of the text of an answer. -/
def readResponse (text : String) : Except Fault (List Delta) :=
  match (Document.read? text).bind (answer? "message") with
  | none => .error (completionFault (.malformedResponse text))
  | some (.error message) => .error (completionFault (.provider message))
  | some (.ok choices) => .ok (deltas choices)

/-- The feed of an answer that is read as a whole. -/
def wholeFeed (r : Reply) : Feed Delta :=
  match r.text? with
  | none => [.failed (completionFault .unreadableResponse)]
  | some text =>
      match readResponse text with
      | .ok ds => ds.map .item
      | .error f => [.failed f]

/-! ## Streamed answers -/

/-- The signals of some events, and whether they end the stream. -/
def absorb : List StreamEvent → Feed Delta × Bool
  | [] => ([], false)
  | .delta d :: more =>
      let (signals, ended) := absorb more
      (.item d :: signals, ended)
  | .error message :: _ => ([.failed (completionFault (.provider message))], true)
  | .done :: _ => ([], true)

/-- The feed of a body from a state of the decoder on. -/
def readChunks (complete : Bool) (d : StreamDecoder) : List (List UInt8) → Feed Delta
  | [] =>
      if complete then (absorb d.finish.1).1
      else [.failed (completionFault .unreadableChunk)]
  | chunk :: more =>
      let (events, d) := d.feed chunk
      let (signals, ended) := absorb events
      if ended then signals else signals ++ readChunks complete d more

/-- The feed of a streamed answer. -/
def streamedFeed (r : Reply) : Feed Delta := readChunks r.complete {} r.chunks

/-! ## Requests -/

/-- The feed of an answer, given whether it was to be streamed. -/
def replyFeed (stream : Bool) (r : Reply) : Feed Delta :=
  if ¬ isStatus r.status ∨ ¬ isFinalStatus r.status then
    [.failed (completionFault .requestFailed)]
  else if ¬ isSuccess r.status then
    [.failed (completionFault
      (.httpStatus (statusText r.status) (r.trimmed.text?.getD "")))]
  else if stream then streamedFeed r.trimmed
  else wholeFeed r.trimmed

namespace Client

/-- The feed of a body that is posted to an address. -/
def send (c : Client) (exchange : Post → Exchange) (address : String) (body : Body) :
    Feed Delta :=
  match (c.post? address body).map exchange with
  | some (.answered r) => replyFeed body.stream r
  | _ => [.failed (completionFault .requestFailed)]

/-- The feed of a request. -/
def complete (c : Client) (s : Settings) (exchange : Post → Exchange) (r : Request) : Feed Delta :=
  c.send exchange (if r.isChat then chatAddress else completionsAddress) (Body.ofRequest s r)

end Client

/-! ## The connector -/

/-- The name of the connector. -/
def connectorName : String := "openrouter"

/-- The connector to the service. -/
def connector (key : String) (s : Settings) (exchange : Post → Exchange) : Connector where
  name := connectorName
  script := .answers fun _ r => (Client.ofSettings key s).complete s exchange r

/-- The connector with the key of the environment. -/
def connectorFromEnvironment (key : Option String) (s : Settings) (exchange : Post → Exchange) :
    Except Fault Connector :=
  (readKey key).map fun key => connector key s exchange

end Provider

end PromptStream
