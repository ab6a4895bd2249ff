import PromptStream.CommandLine.Session

/-!
# The program

Reads what a session needs, runs it and prints what it leaves behind.  This
build has no network of its own, so every request to the service is refused;
dry runs need none.
-/

open PromptStream

/-- The bytes of a file, if it can be read. -/
def readFile? (path : String) : IO (Option (List UInt8)) := do
  try
    let bytes ← IO.FS.readBinFile path
    return some bytes.toList
  catch _ => return none

/-- The program. -/
def main (args : List String) : IO UInt32 := do
  let options := CommandLine.Options.read? args
  let path := options.bind (·.config)
  let content ← match path with
    | some p => readFile? p
    | none => pure none
  let input ← match options.map (·.stdin) with
    | some true => do pure (← (← IO.getStdin).readBinToEnd).toList
    | _ => pure []
  let key ← IO.getEnv Provider.keyVariable
  let outcome := CommandLine.run args
    { file := fun p => (path.filter (· == p)).bind fun _ => content
      input := input
      key := key
      exchange := fun _ => .unreachable }
  IO.print outcome.output
  match outcome.error with
  | some line => IO.eprintln line
  | none => pure ()
  return outcome.exitCode.toUInt32
