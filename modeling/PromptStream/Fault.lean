/-!
# Failures

A failure is kept as its cause.  The kind says which part failed, and the
wording of every message is in one place, `Fault.message`.

Some causes have a further reason that an outer system gives in words of its
own (a JSON reader, the network, the operating system).  Those words are not
part of this library, and `unspecified` stands for them.
-/

namespace PromptStream

/-- What stands in a message for the words of an outer system. -/
def unspecified : String := "<detail>"

/-- Why a model completion failed. -/
inductive CompletionFault where
  /-- A reason given by a connector. -/
  | reported (reason : String)
  /-- A scripted connector has no further reply. -/
  | noReplyLeft
  /-- The request could not be sent. -/
  | requestFailed
  /-- The service answered with a status that is not a success. -/
  | httpStatus (status : String) (body : String)
  /-- The service answered with an error of its own. -/
  | provider (message : String)
  /-- The body of an answer could not be read to its end. -/
  | unreadableResponse
  /-- The body of a streamed answer could not be read to its end. -/
  | unreadableChunk
  /-- The body of an answer is not a completion. -/
  | malformedResponse (body : String)
  deriving DecidableEq, Repr

/-- Why a stream of elements failed. -/
inductive StreamFault where
  /-- A reason given by whoever supplies the stream. -/
  | reported (reason : String)
  /-- The transcript could not be written. -/
  | renderFailed (reason : String)
  deriving DecidableEq, Repr

/-- What is wrong with a configuration. -/
inductive ConfigFault where
  /-- A reason given by a caller. -/
  | reported (reason : String)
  /-- A stop pattern is not a regular expression. -/
  | invalidStop (pattern : String)
  /-- A configuration file cannot be read. -/
  | unreadableFile (path : String)
  /-- A configuration file does not hold a configuration. -/
  | malformedFile (path : String)
  /-- The variable that holds the service key is not set. -/
  | missingKey (name : String)
  /-- The command line gives no message to send. -/
  | noMessage
  /-- The standard input is not text. -/
  | unreadableInput
  deriving DecidableEq, Repr

/-- A failure while a prompt is produced. -/
inductive Fault where
  /-- A deferred value was rejected. -/
  | deferred (reason : String)
  /-- A model completion failed. -/
  | completion (cause : CompletionFault)
  /-- A stream of elements failed. -/
  | stream (cause : StreamFault)
  /-- A configuration is wrong. -/
  | config (cause : ConfigFault)
  deriving DecidableEq, Repr, Inhabited

namespace CompletionFault

/-- The wording of a cause. -/
def message : CompletionFault → String
  | .reported reason => reason
  | .noReplyLeft => "no scripted reply left"
  | .requestFailed => "request failed: " ++ unspecified
  | .httpStatus status body => "OpenRouter API HTTP " ++ status ++ ": " ++ body
  | .provider message => "OpenRouter API error: " ++ message
  | .unreadableResponse => "failed to read response: " ++ unspecified
  | .unreadableChunk => "failed to read streaming chunk: " ++ unspecified
  | .malformedResponse body => "failed to parse response: " ++ unspecified ++ "\nBody: " ++ body

end CompletionFault

namespace StreamFault

/-- The wording of a cause. -/
def message : StreamFault → String
  | .reported reason => reason
  | .renderFailed reason => "render failed: " ++ reason

end StreamFault

namespace ConfigFault

/-- The wording of a cause. -/
def message : ConfigFault → String
  | .reported reason => reason
  | .invalidStop pattern => "invalid stop pattern '" ++ pattern ++ "': " ++ unspecified
  | .unreadableFile path => "failed to read config file '" ++ path ++ "': " ++ unspecified
  | .malformedFile path => "failed to parse config file '" ++ path ++ "': " ++ unspecified
  | .missingKey name => name ++ " environment variable is not set"
  | .noMessage => "provide --user, --stdin, or both"
  | .unreadableInput => "failed to read stdin: " ++ unspecified

end ConfigFault

namespace Fault

/-- The name of the part that failed. -/
def kind : Fault → String
  | .deferred _ => "Deferred"
  | .completion _ => "Completion"
  | .stream _ => "Stream"
  | .config _ => "Config"

/-- The failure of a part, by its name, for a reason that someone else gives. -/
def reported? (kind reason : String) : Option Fault :=
  match kind with
  | "Deferred" => some (.deferred reason)
  | "Completion" => some (.completion (.reported reason))
  | "Stream" => some (.stream (.reported reason))
  | "Config" => some (.config (.reported reason))
  | _ => none

/-- The message of a failure. -/
def message : Fault → String
  | .deferred reason => "deferred value rejected: " ++ reason
  | .completion cause => "completion failed: " ++ cause.message
  | .stream cause => "element stream failed: " ++ cause.message
  | .config cause => "configuration error: " ++ cause.message

end Fault

end PromptStream
