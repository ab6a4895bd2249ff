import PromptStream.CommandLine.Options
import PromptStream.Provider.Client
import PromptStream.Render

/-!
# Command line sessions

A session sends one prompt: a system message if there is one, the user message,
and a turn of the assistant whose text is recorded as `answer`.  The transcript
is written while the prompt runs, and the results follow if they are wanted.

The messages are values and not literals, so they reach the model as they were
typed.

What a session needs from outside (files, standard input, the service key, the
network) is an environment, and what it leaves behind is an outcome.
-/

namespace PromptStream

namespace CommandLine

/-! ## The prompt -/

variable {φ : Type}

/-- A text in a role of its own. -/
def message (role : Role) (text : String) : Input φ :=
  .action ((Scope.ofRole role).wrap (some (.text text)))

/-- The name of the result. -/
def answerName : String := "answer"

/-- The prompt of a session. -/
def prompt (system : Option String) (user : String) (options : GenerationOptions) : Input φ :=
  .list <|
    (system.map (message .system)).toList
      ++ [message .user user, .action (.ai answerName options)]

/-- A host without author code. -/
def plainHost : Host Empty Empty where
  call f := nomatch f
  poll f := nomatch f
  until? f := nomatch f
  item f := nomatch f
  perform f := nomatch f

/-! ## Environments and outcomes -/

/-- What a session needs from outside. -/
structure Environment where
  /-- The bytes of a file, if it can be read. -/
  file : String → Option (List UInt8)
  /-- The bytes of the standard input. -/
  input : List UInt8
  /-- The service key, if its variable is set. -/
  key : Option String
  /-- The network. -/
  exchange : Provider.Post → Provider.Exchange
  /-- The most elements and the most steps for each that are waited for. -/
  patience : Nat := Nat.pow 2 32

/-- What a session leaves behind. -/
structure Outcome where
  /-- The exit code. -/
  exitCode : Nat
  /-- The standard output. -/
  output : String
  /-- The line on standard error, if there is one. -/
  error : Option String
  deriving DecidableEq, Repr

namespace Options

/-! ## Reading what a session needs -/

/-- The settings of the service. -/
def settings (o : Options) (env : Environment) : Except Fault Provider.Settings := do
  let s ← match o.config with
    | some path => Provider.Settings.read path (env.file path)
    | none => .ok {}
  return { s with
    model := o.model.getD s.model
    temperature := o.temperature.or s.temperature
    chat := !o.completion && s.chat }

/-- The text of the standard input. -/
def inputText (env : Environment) : Except Fault String :=
  match Utf8.decode? env.input with
  | some cs => .ok (String.ofList cs)
  | none => .error (.config .unreadableInput)

/-- The user message: what was typed, and what was piped after a blank line. -/
def userText (o : Options) (env : Environment) : Except Fault String := do
  let piped ← if o.stdin then (inputText env).map some else .ok none
  match o.user, piped with
  | some typed, some piped => return typed ++ "\n\n" ++ piped
  | some typed, none => return typed
  | none, some piped => return piped
  | none, none => .error (.config .noMessage)

/-- The settings of the generation. -/
def generation (o : Options) : Except Fault GenerationOptions := do
  let stop ← match o.stop with
    | some source => (Stop.read source).map some
    | none => .ok none
  return { maxTokens := o.maxTokens, topP := o.topP, stop := stop, stream := some o.stream }

/-- The connector that answers. -/
def connector (o : Options) (env : Environment) (s : Provider.Settings) : Except Fault Connector :=
  if o.dryRun then .ok .echo
  else Provider.connectorFromEnvironment env.key s env.exchange

/-- How the transcript looks. -/
def renderOptions (o : Options) : RenderOptions := ⟨!o.noRoles, !o.noColor⟩

end Options

/-! ## Sessions -/

/-- The run of a session before its first step. -/
def startRun (o : Options) (env : Environment) : Except Fault (Run Empty Empty) := do
  let s ← o.settings env
  let user ← o.userText env
  let options ← o.generation
  let connector ← o.connector env s
  let llm : Llm := ⟨⟨0, connector.name⟩, s.chat, some o.stream, .user⟩
  return Run.start llm (prompt o.system user options) .null { connectors := [connector] }

/-- The first failure among some items. -/
def firstFailure? : List (Except Fault Element) → Option Fault
  | [] => none
  | .ok _ :: rest => firstFailure? rest
  | .error f :: _ => some f

/-- How a session ends that failed. -/
def failed (output : String) (f : Fault) : Outcome := ⟨1, output, some ("Error: " ++ f.message)⟩

/-- How a session ends whose arguments are not proper. -/
def badUsage : Outcome := ⟨2, "", none⟩

/-- The results as they are printed. -/
def outputsText (o : Outputs) : String := o.toJson.pretty ++ "\n"

/-- Runs a session with some options. -/
def runOptions (o : Options) (env : Environment) : Outcome :=
  match startRun o env with
  | .error f => failed "" f
  | .ok run =>
      let (items, _, renderer, run) :=
        renderAll (Run.poll plainHost env.patience) env.patience ⟨o.renderOptions, {}, none, false⟩
          run
      let transcript := renderer.sink.text
      match firstFailure? items with
      | some f => failed transcript f
      | none =>
          ⟨0, transcript ++ (if o.outputs then outputsText run.world.scene.outputs else ""), none⟩

/-- Runs a session with some arguments. -/
def run (args : List String) (env : Environment) : Outcome :=
  match Options.read? args with
  | none => badUsage
  | some o => runOptions o env

end CommandLine

end PromptStream
