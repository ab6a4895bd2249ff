import PromptStream.Numeric.Reading

/-!
# Command line options

Options are long flags.  An option with a value takes it from the next argument
or after an equals sign; a switch takes none.  Each may be given once, nothing
may stand alone, and a value in an argument of its own may not begin with a
dash unless it is a dash.  Two dashes end the options.
-/

namespace PromptStream

namespace CommandLine

/-! ## Flags -/

/-- The flags. -/
inductive Flag where
  | system
  | user
  | stdin
  | model
  | config
  | completion
  | maxTokens
  | topP
  | temperature
  | stop
  | stream
  | noRoles
  | noColor
  | outputs
  | dryRun
  deriving DecidableEq, Repr

namespace Flag

/-- The flag of a name. -/
def ofName? : String → Option Flag
  | "system" => some .system
  | "user" => some .user
  | "stdin" => some .stdin
  | "model" => some .model
  | "config" => some .config
  | "completion" => some .completion
  | "max-tokens" => some .maxTokens
  | "top-p" => some .topP
  | "temperature" => some .temperature
  | "stop" => some .stop
  | "stream" => some .stream
  | "no-roles" => some .noRoles
  | "no-color" => some .noColor
  | "outputs" => some .outputs
  | "dry-run" => some .dryRun
  | _ => none

/-- Whether a flag is a switch. -/
def isSwitch : Flag → Bool
  | .stdin | .completion | .stream | .noRoles | .noColor | .outputs | .dryRun => true
  | _ => false

end Flag

/-! ## Arguments to settings -/

/-- A flag with its value; the value of a switch is empty. -/
abbrev Setting := Flag × String

/-- What an argument at the start of a setting is. -/
inductive Argument where
  /-- The end of the options. -/
  | endOfOptions
  /-- A setting of its own. -/
  | whole (s : Setting)
  /-- A flag whose value follows. -/
  | needsValue (f : Flag)
  deriving DecidableEq, Repr

/-- Reads an argument at the start of a setting. -/
def Argument.read? (arg : String) : Option Argument :=
  match arg.toList with
  | ['-', '-'] => some .endOfOptions
  | '-' :: '-' :: cs =>
      let name := String.ofList (cs.takeWhile (· != '='))
      match Flag.ofName? name, cs.dropWhile (· != '=') with
      | none, _ => none
      | some f, [] => some (if f.isSwitch then .whole (f, "") else .needsValue f)
      | some f, _ :: value => if f.isSwitch then none else some (.whole (f, String.ofList value))
  | _ => none

/-- Whether an argument can be a value. -/
def isValue (arg : String) : Bool :=
  match arg.toList with
  | '-' :: _ :: _ => false
  | _ => true

/-- The settings of some arguments, given the flag that waits for a value, if
one does. -/
def settings? : Option Flag → List String → Option (List Setting)
  | none, [] => some []
  | some _, [] => none
  | some f, arg :: rest =>
      if isValue arg then (settings? none rest).map ((f, arg) :: ·) else none
  | none, arg :: rest =>
      match Argument.read? arg with
      | none => none
      | some .endOfOptions => if rest.isEmpty then some [] else none
      | some (.whole s) => (settings? none rest).map (s :: ·)
      | some (.needsValue f) => settings? (some f) rest

/-! ## Settings to options -/

/-- The options of a session. -/
structure Options where
  /-- The system message. -/
  system : Option String := none
  /-- The user message. -/
  user : Option String := none
  /-- Whether the user message goes on with the standard input. -/
  stdin : Bool := false
  /-- The model. -/
  model : Option String := none
  /-- The settings file. -/
  config : Option String := none
  /-- Whether the prompt goes out as one text. -/
  completion : Bool := false
  /-- The most tokens to generate. -/
  maxTokens : Option Nat := none
  /-- The sampling threshold. -/
  topP : Option Binary := none
  /-- The sampling temperature. -/
  temperature : Option Binary := none
  /-- The pattern at which the answer is cut. -/
  stop : Option String := none
  /-- Whether the answer is streamed. -/
  stream : Bool := false
  /-- Whether role headers are left out. -/
  noRoles : Bool := false
  /-- Whether colours are left out. -/
  noColor : Bool := false
  /-- Whether the results are printed after the transcript. -/
  outputs : Bool := false
  /-- Whether an echo stands in for the service. -/
  dryRun : Bool := false
  deriving DecidableEq, Repr, Inhabited

/-- A number of tokens: a 32-bit natural number, with a sign if wanted. -/
def readTokens? (s : String) : Option Nat :=
  let (negative, ds) := DecimalText.splitSign s.toList
  if ds.isEmpty ∨ ¬ ds.all Char.isDigit then none
  else
    let n := digitsValue ds
    if negative ∧ n ≠ 0 ∨ Nat.pow 2 32 ≤ n then none else some n

namespace Options

/-- The options with one more setting. -/
def set? (o : Options) : Setting → Option Options
  | (.system, v) => some { o with system := some v }
  | (.user, v) => some { o with user := some v }
  | (.stdin, _) => some { o with stdin := true }
  | (.model, v) => some { o with model := some v }
  | (.config, v) => if v.isEmpty then none else some { o with config := some v }
  | (.completion, _) => some { o with completion := true }
  | (.maxTokens, v) => (readTokens? v).map fun n => { o with maxTokens := some n }
  | (.topP, v) => (BinaryFormat.single.read? v).map fun x => { o with topP := some x }
  | (.temperature, v) =>
      (BinaryFormat.single.read? v).map fun x => { o with temperature := some x }
  | (.stop, v) => some { o with stop := some v }
  | (.stream, _) => some { o with stream := true }
  | (.noRoles, _) => some { o with noRoles := true }
  | (.noColor, _) => some { o with noColor := true }
  | (.outputs, _) => some { o with outputs := true }
  | (.dryRun, _) => some { o with dryRun := true }

/-- Whether no flag occurs twice. -/
def flagsDistinct : List Setting → Bool
  | [] => true
  | (f, _) :: rest => !(rest.any fun s => s.1 == f) && flagsDistinct rest

/-- The options of some arguments, if they are proper. -/
def read? (args : List String) : Option Options :=
  match settings? none args with
  | none => none
  | some settings =>
      if flagsDistinct settings then settings.foldlM set? {} else none

end Options

end CommandLine

end PromptStream
