import PromptStream.Completion
import PromptStream.Outputs
import PromptStream.Text.Offset

/-!
# Generations

A generation gathers the text of every choice from the deltas of a completion
and emits the first choice while it streams in.

While a stop pattern is active the end of the first choice is held back, as
many bytes as the pattern is long, because a match may begin there once more
text has come.  Emitted text is never taken back: a match that starts inside it
cuts at the emitted boundary instead, so the recorded text is always what was
emitted.

The steps below are pure.  `absorb` takes in a delta and `close` the end of the
completion; both say which text is newly emitted, and set `done` when the
result is final.
-/

namespace PromptStream

/-- The settings of a generation. -/
structure GenerationOptions where
  /-- The most tokens to generate. -/
  maxTokens : Option Nat := none
  /-- The sampling threshold. -/
  topP : Option Binary := none
  /-- The pattern at which the first choice is cut. -/
  stop : Option Stop := none
  /-- Whether to stream, if not as the context says. -/
  stream : Option Bool := none
  /-- The model, if not the one of the connector. -/
  model : Option String := none
  /-- Whether to stop also where the next literal of the template begins. -/
  stopAtNextLiteral : Bool := false

namespace GenerationOptions

/-- The stop in force, given the literal that follows the slot.  A blank literal
stops nothing. -/
def effectiveStop (o : GenerationOptions) (next : Option String) : Option Stop :=
  Stop.withText? o.stop (next.filter fun s => o.stopAtNextLiteral && !isBlankText s)

end GenerationOptions

/-- A generation in progress. -/
structure Generation where
  /-- The name of the result. -/
  name : String
  /-- The stop in force. -/
  stop : Option Stop
  /-- The text of each choice so far. -/
  texts : List String := []
  /-- The number of bytes of the first choice that were emitted. -/
  emitted : Nat := 0
  /-- Whether the generation has ended. -/
  done : Bool := false

namespace Generation

/-- The text of the first choice. -/
def lead (g : Generation) : String := g.texts.headD ""

/-- The length of the first choice in bytes. -/
def leadLength (g : Generation) : Nat := byteLength g.lead.toList

/-- The texts with a delta added to its choice, which is created if needed.  Numbers have no end
here; on a machine there is room for every choice but the one with the largest number
(`Generation.makeRoom`, `Generation.modify_makeRoom`). -/
def addDelta (texts : List String) (d : Delta) : List String :=
  (texts ++ List.replicate (d.choice + 1 - texts.length) "").modify d.choice (· ++ d.text)

/-- Cuts the first choice at a byte offset. -/
def truncateLead (g : Generation) (cut : Nat) : Generation :=
  { g with texts := g.texts.modify 0 fun s => String.ofList (takeBytes cut s.toList) }

/-- Emits the first choice up to a byte offset, if there is anything to emit. -/
def takeFresh (g : Generation) (stop : Nat) : Option String × Generation :=
  match sliceBytes? g.lead.toList g.emitted stop with
  | some (c :: cs) => (some (String.ofList (c :: cs)), { g with emitted := stop })
  | _ => (none, g)

/-- The offset up to which the first choice may be emitted when a number of
bytes is held back. -/
def holdbackBoundary (g : Generation) (holdback : Nat) : Nat :=
  max (floorBoundary g.lead.toList (g.leadLength - holdback)) g.emitted

/-- Cuts a text where a stop matches it. -/
def cutAtStop (stop : Stop) (s : String) : String :=
  match stop.find? s with
  | some start => String.ofList (takeBytes start s.toList)
  | none => s

/-- Ends the generation: every further choice is cut at its own first match. -/
def finish (g : Generation) : Generation :=
  match g.stop, g.texts with
  | some stop, first :: others =>
      { g with texts := first :: others.map (cutAtStop stop), done := true }
  | _, _ => { g with done := true }

/-- Takes in a delta. -/
def absorb (g : Generation) (d : Delta) : Option String × Generation :=
  let g := { g with texts := addDelta g.texts d }
  if d.choice ≠ 0 then (none, g)
  else match g.stop with
    | none => g.takeFresh g.leadLength
    | some stop =>
        match stop.find? g.lead with
        | some start =>
            let cut := max start g.emitted
            let (fresh, g) := (g.truncateLead cut).takeFresh cut
            (fresh, g.finish)
        | none => g.takeFresh (g.holdbackBoundary stop.source.utf8ByteSize)

/-- Takes in the end of the completion. -/
def close (g : Generation) : Option String × Generation :=
  let (fresh, g) := g.takeFresh g.leadLength
  (fresh, g.finish)

/-- The result: one text, or a list when there were several choices. -/
def value (g : Generation) : OutputValue :=
  match g.texts with
  | [] => .text ""
  | [only] => .text only
  | many => .textList many

/-- The number of choices. -/
def choices (g : Generation) : Nat := max 1 g.texts.length

end Generation

end PromptStream
