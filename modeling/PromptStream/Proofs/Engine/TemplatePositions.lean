import PromptStream.Proofs.Engine.Outcome

/-!
# The positions of a template

A template is a list of literals and a list of slots, and one of them may be longer than the
other.  Its positions are those of the longer list.  At each of them comes the literal, if
there is one that is not empty, and then what the slot comes to when it is run by itself, if
there is a slot that is not absent (`drainsAs_positions`).

A slot is told the literal of the next position, or that there is none; what its template was
told does not matter.  It starts from the world that everything before it has left.
-/

namespace PromptStream

variable {φ ν : Type}

/-- A template hands out position after position, up to the first failure of a slot: its
literal, as it leaves the prompt storage, and what its slot comes to by itself when it is told the
literal of the next position, or that there is none.  What that is, is what the run of the slot
hands out, with the world that it leaves if it comes to its end. -/
theorem drainsAs_positions (c : Consumer φ ν) (host : Host φ ν) (props : Props)
    (literals : List String) (slots : List (Slot φ)) (w : World φ ν) :
    DrainsAs c host ⟨binderFrames props literals slots, w⟩
        (fun n => resolveTemplate c (c.alone host n) props literals slots w) ∧
      (∀ (n k : Nat) (i : Input φ) (v : World φ ν), slots[k]? = some (some i) →
        templatePart c (c.alone host n) props literals slots k v
          = (literalPart c props literals[k]? v).andThen
              (c.alone host n i { props with nextLiteral := literals[k + 1]? } .constant)) ∧
      ∀ (n : Nat) (i : Input φ) (inner : Props) (v : World φ ν),
        let run := c.drain host n ⟨Frame.guarded i inner, v⟩
        let alone := c.alone host n i inner .constant v
        run.1 = alone.handedOut ∧
          ∀ items v', alone = ⟨items, .ended v'⟩ ↔ run = (items.map .ok, ⟨[], v'⟩) := by
  refine ⟨DrainsAs.of_follows fun n => ?_, fun n k i v filled => ?_,
    fun n i inner v => ⟨?_, fun items v' => ?_⟩⟩
  · rw [resolveTemplate, List.range_eq_range']
    exact Follows.binder (sequenceFaithful_alone c host n) rfl props literals slots _ 0
      (Nat.zero_add _) w
  · rw [templatePart, filled]
    rfl
  · exact Consumer.drain_eq_handedOut (by rintro f ⟨⟩; exact ⟨false, rfl, trivial⟩) n
  · exact Consumer.outcome_eq_ended_iff

/-- Functions that emit the literal that they are told. -/
def Host.echoingNext : Host Unit Empty where
  call _ props _ := (.text (props.nextLiteral.getD "none"), [])
  poll _ _ _ := (.none, [])
  until? _ _ _ _ := (true, [])
  item _ _ _ := (.null, [])
  perform _ _ _ := (.emit [], [])

/-- A slot hears of the next literal, or that there is none, and never of the one that its
template was told.  No literal is lost or joined to its neighbour. -/
example :
    let props : Props := { context := (default : Llm).context, nextLiteral := some "outer" }
    (resolveTemplate .recorder (Consumer.recorder.alone Host.echoingNext 4) props ["a", "b", "c"]
        [some (.function ()), none, some (.function ())] ({} : World Unit Empty)).handedOut
      = [.ok ⟨"a", .prompt, .user⟩, .ok ⟨"b", .parameter, .user⟩, .ok ⟨"b", .prompt, .user⟩,
        .ok ⟨"c", .prompt, .user⟩, .ok ⟨"none", .parameter, .user⟩] := by
  decide +kernel

end PromptStream
