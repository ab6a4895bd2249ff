import PromptStream.Proofs.Generation.Room
import PromptStream.Proofs.Json.Record
import PromptStream.Provider.Client

/-!
# The numbers of choices

A service numbers its choices with any number below `2 ^ 64`, and a choice without a number
takes its position.  Positions are small, because an answer is longer than the list of its
choices (`Provider.choices_of_answer?`).  So only the largest number, given by the service itself,
leaves a generation without room for a choice (`Generation.Took.allFit_iff_of_answers`).
-/

namespace PromptStream

/-! ## The numbers that a service gives -/

namespace Provider

variable {chatField : String} {d : Document} {choices : List Choice}

/-- A document that is read as choices is larger than the list of them, and each of them is read
from a document. -/
theorem choices_of_answer? (read : answer? chatField d = some (.ok choices)) :
    choices.length < d.size ∧ ∀ c ∈ choices, ∃ item, choice? chatField item = some c := by
  simp only [answer?, bind, Option.bind_eq_some_iff] at read
  obtain ⟨r, record, found, listed, error, -, last⟩ := read
  have same : found = choices := by
    cases error <;> cases last
    rfl
  subst same
  unfold Record.default? at listed
  cases there : r.fields.lookup "choices" with
  | none =>
      simp only [there] at listed
      cases listed
      exact ⟨Document.size_pos d, nofun⟩
  | some field =>
      simp only [there] at listed
      have smaller := Record.size_lt_of_lookup record there
      cases field with
      | array items =>
          have short := Document.length_le_itemsSize items
          obtain ⟨same, each⟩ := results_of_mapM listed
          rw [Document.size] at smaller
          refine ⟨by omega, fun c mem => ?_⟩
          obtain ⟨item, -, read⟩ := each c mem
          exact ⟨item, read⟩
      | _ => cases listed

/-- A number that is given is a word. -/
theorem index_lt_of_choice? {c : Choice} (read : choice? chatField d = some c) {n : Nat}
    (given : c.index = some n) : n < choiceBound := by
  simp only [choice?, bind, Option.bind_eq_some_iff] at read
  obtain ⟨r, -, index, found, chat, -, text, -, last⟩ := read
  cases last
  subst given
  rw [Record.nullable?] at found
  split at found
  next field _ =>
    cases field with
    | null => cases found
    | number m =>
        obtain ⟨n', natural, same⟩ := Option.map_eq_some_iff.1 found
        cases same
        rw [Document.natBelow?] at natural
        split at natural
        next n' _ =>
          rw [Option.ite_none_right_eq_some] at natural
          obtain ⟨small, same⟩ := natural
          exact Option.some.inj same ▸ small
        next => cases natural
    | _ => cases found
  next =>
    split at found
    next => cases found
    next => cases found

/-- The deltas that a text of the service sends, as the document of a line or as a whole. -/
def Sends (text : String) (d : Delta) : Prop :=
  .delta d ∈ dataEvents text ∨ ∃ ds, readResponse text = .ok ds ∧ d ∈ ds

theorem Sends.exists_answer {text : String} {d : Delta} (h : Sends text d) :
    ∃ chatField document choices, Document.read? text = some document ∧
      answer? chatField document = some (.ok choices) ∧ d ∈ deltas choices := by
  rcases h with event | ⟨ds, whole, mem⟩
  · unfold dataEvents at event
    split at event
    next => cases event
    next => cases List.mem_singleton.1 event
    next choices found =>
      obtain ⟨document, read, answered⟩ := Option.bind_eq_some_iff.1 found
      obtain ⟨d', kept, same⟩ := List.mem_map.1 event
      cases same
      exact ⟨_, document, choices, read, answered, (List.mem_filter.1 kept).1⟩
  · unfold readResponse at whole
    split at whole
    next => cases whole
    next => cases whole
    next choices found =>
      obtain ⟨document, read, answered⟩ := Option.bind_eq_some_iff.1 found
      cases whole
      exact ⟨_, document, choices, read, answered, mem⟩

/-- The number of a delta is a word, as one that is given and as a position. -/
theorem Sends.choice_lt {text : String} {d : Delta} (h : Sends text d)
    (countable : text.toList.length < choiceBound) : d.choice < choiceBound := by
  obtain ⟨chatField, document, choices, read, answered, mem⟩ := h.exists_answer
  obtain ⟨few, each⟩ := choices_of_answer? answered
  obtain ⟨⟨c, position⟩, there, rfl⟩ := List.mem_map.1 mem
  have here := List.mem_zipIdx_iff_getElem?.1 there
  cases given : c.index with
  | some n =>
      obtain ⟨item, choice⟩ := each c (List.mem_of_getElem? here)
      simpa [given] using index_lt_of_choice? choice given
  | none =>
      obtain ⟨within, -⟩ := List.getElem?_eq_some_iff.1 here
      have small := Document.size_le_of_read? read
      simp only [given, Option.getD_none]
      omega

end Provider

open Provider (Sends dataEvents readResponse)

section Answers

variable {name : String} {stop : Option Stop} {heard : Feed Delta} {said : List String}
  {g : Generation}

/-- **The numbers of choices.**  Let a generation take in deltas that texts of the service
sent, in any order.  There was room for all of them exactly when none has the largest number
that a word holds. -/
theorem Generation.Took.allFit_iff_of_answers (h : Took (fresh name stop) heard said g)
    (answers : ∀ d, .item d ∈ heard →
      ∃ text : String, text.toList.length < choiceBound ∧ Sends text d) :
    AllFit (fresh name stop) heard ↔ ∀ d, .item d ∈ heard → d.choice ≠ choiceBound - 1 := by
  rw [h.allFit_iff]
  refine forall₂_congr fun d mem => ?_
  obtain ⟨text, countable, sends⟩ := answers d mem
  have word := sends.choice_lt countable
  omega

end Answers

/-- Two answers, of which one names the fourth choice and one, without a number, the first. -/
theorem Generation.Took.allFit_iff_of_answers_of_gap :
    let fourth := "\x7b\"choices\":[\x7b\"index\":3,\"text\":\"a\"\x7d]\x7d"
    let unnumbered := "\x7b\"choices\":[\x7b\"text\":\"b\"\x7d]\x7d"
    let heard : Feed Delta := [.item ⟨3, "a"⟩, .item ⟨0, "b"⟩]
    Sends fourth ⟨3, "a"⟩ ∧ Sends unnumbered ⟨0, "b"⟩ ∧ AllFit (fresh "answer" none) heard := by
  intro fourth unnumbered heard
  have sends : Sends fourth ⟨3, "a"⟩ := .inl (by decide +kernel)
  have sends' : Sends unnumbered ⟨0, "b"⟩ := .inl (by decide +kernel)
  have took : Took (fresh "answer" none) heard _ _ := .item ⟨0, "b"⟩ (.item ⟨3, "a"⟩ .start rfl) rfl
  have fits := took.allFit_iff_of_answers fun d mem => by
    rcases List.mem_cons.1 mem with first | mem
    · cases first
      exact ⟨fourth, by decide +kernel, sends⟩
    · cases List.mem_singleton.1 mem
      exact ⟨unnumbered, by decide +kernel, sends'⟩
  refine ⟨sends, sends', fits.2 fun d mem => ?_⟩
  rcases List.mem_cons.1 mem with first | mem
  · cases first
    decide +kernel
  · cases List.mem_singleton.1 mem
    decide +kernel

/-- The service may give the largest number.  Both readers give it, and for a generation that has
heard nothing yet the sum is no word and leaves no text to add to. -/
theorem Generation.not_allFit_of_largest :
    let text := "\x7b\"choices\":[\x7b\"index\":18446744073709551615,\"text\":\"a\"\x7d]\x7d"
    let d : Delta := ⟨18446744073709551615, "a"⟩
    dataEvents text = [.delta d] ∧ readResponse text = .ok [d] ∧
      ¬ AllFit (fresh "answer" none) [.item d] ∧ ¬ d.choice + 1 < choiceBound ∧
      makeRoom (fresh "answer" none).texts d.choice = [] := by
  intro text d
  have large : ¬ d.choice + 1 < choiceBound := by decide +kernel
  refine ⟨by decide +kernel, by decide +kernel, fun fit => ?_, large, ?_⟩
  · have took : Took (fresh "answer" none) [.item d] _ _ := .item d .start rfl
    exact large (took.allFit_iff.1 fit d List.mem_cons_self)
  · exact makeRoom_of_largest (Nat.zero_le _) (by decide +kernel)

end PromptStream
