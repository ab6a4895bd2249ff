import PromptStream.Event
import PromptStream.Json.Value

/-!
# Events as records

An event as a list: a word for its kind, then its fields; and the event that a list
describes.
-/

namespace PromptStream

namespace Event

/-- The record of an event. -/
def record : Event → List Json
  | .generationStarted name address role =>
      [.text "gen_start", .text name, .array (address.map .text), .text role.name]
  | .generationDelta name delta => [.text "delta", .text name, .text delta]
  | .generationFinished name text choices =>
      [.text "gen_end", .text name, .text text, .ofNat choices]
  | .loopIteration id iteration => [.text "loop", .text id, .ofNat iteration]
  | .loopFinished id iterations => [.text "loop_end", .text id, .ofNat iterations]
  | .waiting key index => [.text "waiting", .text key, .ofNat index]
  | .itemConsumed key index => [.text "consumed", .text key, .ofNat index]

/-- The event of a kind that carries a name and a number. -/
def numbered? (kind name : String) (n : Nat) : Option Event :=
  match kind with
  | "loop" => some (.loopIteration name n)
  | "loop_end" => some (.loopFinished name n)
  | "waiting" => some (.waiting name n)
  | "consumed" => some (.itemConsumed name n)
  | _ => none

/-- The event that a record describes. -/
def ofRecord? : List Json → Option Event
  | [.text "gen_start", .text name, .array address, .text role] => do
      return .generationStarted name (← address.mapM Json.text?) (← Role.ofName? role)
  | [.text "delta", .text name, .text delta] => some (.generationDelta name delta)
  | [.text "gen_end", .text name, .text text, .number (.natural choices)] =>
      some (.generationFinished name text choices)
  | [.text kind, .text name, .number (.natural n)] => numbered? kind name n
  | _ => none

end Event

end PromptStream
