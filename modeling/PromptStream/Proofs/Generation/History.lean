import Mathlib.Data.List.Induction
import PromptStream.Proofs.Generation.Emission

/-!
# The history of a generation

A generation takes in the signals of its completion one after another until it is
done.  `Took` relates what it took in to the texts that it said and to the state
that it came to; `Ended` does so for a generation that is over, either because a
stop cut it or because the completion ended.

Whatever was taken in, the generation is running or finished
(`Took.running_or_finished`), and at its end it is finished (`Ended.finished`).  What was
taken in determines what was said and the state (`Took.unique`), and what was said only
grows (`Took.of_append`).
-/

namespace PromptStream

namespace Generation

/-- A generation that has not heard anything yet. -/
def fresh (name : String) (stop : Option Stop) : Generation := ⟨name, stop, [], 0, false⟩

/-- A generation took in some signals, said some texts, and came to a state. -/
inductive Took (g₀ : Generation) : Feed Delta → List String → Generation → Prop where
  | start : Took g₀ [] [] g₀
  | item {heard : Feed Delta} {said : List String} {g : Generation} (d : Delta) :
      Took g₀ heard said g → g.done = false →
      Took g₀ (heard ++ [.item d]) (said ++ (g.absorb d).1.toList) (g.absorb d).2
  | pending {heard : Feed Delta} {said : List String} {g : Generation} :
      Took g₀ heard said g → g.done = false → Took g₀ (heard ++ [.pending]) said g

/-- A generation took in some signals, said some texts, and ended while other
signals were left. -/
inductive Ended (g₀ : Generation) : Feed Delta → Feed Delta → List String → Generation → Prop where
  | cut {heard : Feed Delta} {said : List String} {g : Generation} (left : Feed Delta) :
      Took g₀ heard said g → g.done = true → Ended g₀ heard left said g
  | closed {heard : Feed Delta} {said : List String} {g : Generation} :
      Took g₀ heard said g → g.done = false →
      Ended g₀ heard [] (said ++ g.close.1.toList) g.close.2

/-- The texts that were said, as one sequence of characters. -/
def spoken (said : List String) : List Char := (String.join said).toList

theorem spoken_append_fresh (said : List String) (fresh : Option String) :
    spoken (said ++ fresh.toList) = spoken said ++ freshChars fresh := by
  rw [spoken, String.join_append, String.toList_append]
  cases fresh with
  | none => rfl
  | some s => simp [spoken, freshChars]

section History

variable {g₀ g : Generation} {heard left : Feed Delta} {said : List String}

theorem Took.keeps (h : Took g₀ heard said g) : g.name = g₀.name ∧ g.stop = g₀.stop := by
  induction h with
  | start => exact ⟨rfl, rfl⟩
  | item d _ _ ih => exact ⟨(absorb_keeps _ d).1.trans ih.1, (absorb_keeps _ d).2.trans ih.2⟩
  | pending _ _ ih => exact ih

/-- A failure is never taken in. -/
theorem Took.healthy (h : Took g₀ heard said g) (f : Fault) : .failed f ∉ heard := by
  induction h with
  | start => exact List.not_mem_nil
  | item d _ _ ih => simpa using ih
  | pending _ _ ih => simpa using ih

/-! ### What was taken in determines the rest -/

theorem Took.of_item {d : Delta} (h : Took g₀ (heard ++ [.item d]) said g) :
    ∃ said' g', Took g₀ heard said' g' ∧ g'.done = false ∧
      said = said' ++ (g'.absorb d).1.toList ∧ g = (g'.absorb d).2 := by
  generalize all : heard ++ [.item d] = feed at h
  cases h with
  | start => simp at all
  | item d' took goesOn =>
      obtain ⟨rfl, same⟩ := List.append_inj' all rfl
      cases same
      exact ⟨_, _, took, goesOn, rfl, rfl⟩
  | pending took goesOn =>
      obtain ⟨-, same⟩ := List.append_inj' all rfl
      cases same

theorem Took.of_pending (h : Took g₀ (heard ++ [.pending]) said g) :
    Took g₀ heard said g ∧ g.done = false := by
  generalize all : heard ++ [.pending] = feed at h
  cases h with
  | start => simp at all
  | item d' took goesOn =>
      obtain ⟨-, same⟩ := List.append_inj' all rfl
      cases same
  | pending took goesOn =>
      obtain ⟨rfl, -⟩ := List.append_inj' all rfl
      exact ⟨took, goesOn⟩

theorem Took.unique {said' : List String} {g' : Generation} (h : Took g₀ heard said g)
    (h' : Took g₀ heard said' g') : said' = said ∧ g' = g := by
  induction h generalizing said' g' with
  | start =>
      generalize nothing : ([] : Feed Delta) = feed at h'
      cases h' with
      | start => exact ⟨rfl, rfl⟩
      | item d _ _ => simp at nothing
      | pending _ _ => simp at nothing
  | item d _ _ ih =>
      obtain ⟨before, g', took, -, rfl, rfl⟩ := h'.of_item
      obtain ⟨rfl, rfl⟩ := ih took
      exact ⟨rfl, rfl⟩
  | pending _ _ ih => exact ih h'.of_pending.1

/-- What a generation said earlier begins what it said later, and it was going on then if it
still is. -/
theorem Took.of_append (h : Took g₀ (heard ++ left) said g) :
    ∃ said' g', Took g₀ heard said' g' ∧ said' <+: said ∧ (g.done = false → g'.done = false) := by
  induction left using List.reverseRecOn generalizing said g with
  | nil => exact ⟨said, g, (List.append_nil heard) ▸ h, List.prefix_refl said, id⟩
  | append_singleton left signal ih =>
      rw [← List.append_assoc] at h
      cases signal with
      | item d =>
          obtain ⟨before, b, took, goesOn, rfl, -⟩ := h.of_item
          obtain ⟨said', g', earlier, stem, wentOn⟩ := ih took
          exact ⟨said', g', earlier, stem.trans (List.prefix_append _ _), fun _ => wentOn goesOn⟩
      | failed f => exact absurd (by simp) (h.healthy f)
      | pending => exact ih h.of_pending.1

/-- A generation takes in some signals and goes on. -/
def GoesOnWith (g₀ : Generation) (heard : Feed Delta) : Prop :=
  ∃ said g, Took g₀ heard said g ∧ g.done = false

theorem GoesOnWith.of_isPrefix {feed : Feed Delta} (h : GoesOnWith g₀ feed)
    (earlier : heard <+: feed) : GoesOnWith g₀ heard := by
  obtain ⟨left, rfl⟩ := earlier
  obtain ⟨said, g, took, goesOn⟩ := h
  obtain ⟨said', g', before, -, wentOn⟩ := took.of_append
  exact ⟨said', g', before, wentOn goesOn⟩

theorem GoesOnWith.goesOn (h : GoesOnWith g₀ heard) (took : Took g₀ heard said g) :
    g.done = false := by
  obtain ⟨said', g', took', goesOn⟩ := h
  obtain ⟨-, rfl⟩ := took.unique took'
  exact goesOn

theorem not_goesOnWith_of_failed (g₀ : Generation) (heard : Feed Delta) (f : Fault) :
    ¬ GoesOnWith g₀ (heard ++ [.failed f]) := by
  rintro ⟨said, g, took, -⟩
  exact took.healthy f (by simp)

/-- A generation that took in more went on with what came before. -/
theorem Took.goesOnWith {signal : Signal Delta} (h : Took g₀ (heard ++ signal :: left) said g) :
    GoesOnWith g₀ heard := by
  rw [List.append_cons] at h
  obtain ⟨said', g', took, -, -⟩ := h.of_append
  cases signal with
  | item d =>
      obtain ⟨before, b, earlier, goesOn, -, -⟩ := took.of_item
      exact ⟨before, b, earlier, goesOn⟩
  | failed f => exact absurd (by simp) (took.healthy f)
  | pending => exact ⟨said', g', took.of_pending⟩

/-- A generation takes in no more than the signals that it does not go on with. -/
theorem Took.isPrefix_of_not_goesOnWith {feed common : Feed Delta} (h : Took g₀ heard said g)
    (stem : heard <+: feed) (begins : common <+: feed) (stops : ¬ GoesOnWith g₀ common) :
    heard <+: common := by
  rcases List.prefix_or_prefix_of_prefix stem begins with earlier | ⟨more, rfl⟩
  · exact earlier
  · cases more with
    | nil => simp
    | cons signal more => exact absurd h.goesOnWith stops

/-! ### At the end -/

theorem Ended.name (h : Ended g₀ heard left said g) : g.name = g₀.name := by
  cases h with
  | cut _ took _ => exact took.keeps.1
  | closed took _ => exact (close_keeps _).1.trans took.keeps.1

theorem Ended.done (h : Ended g₀ heard left said g) : g.done = true := by
  cases h with
  | cut _ _ done => exact done
  | closed => exact finish_done _

end History

section Fresh

variable {name : String} {stop : Option Stop} {heard left : Feed Delta} {said : List String}
  {g : Generation}

/-- Whatever a generation took in, it goes on with all of it or is finished with
what it said, and it never said an empty text. -/
theorem Took.running_or_finished (between : ∀ s, stop = some s → s.OnBoundaries)
    (h : Took (fresh name stop) heard said g) :
    "" ∉ said ∧ (Running g heard (spoken said) ∨ Finished g heard (spoken said)) := by
  induction h with
  | start => exact ⟨List.not_mem_nil, .inl (Running.start name stop)⟩
  | item d took goesOn ih =>
      obtain ⟨nonempty, running | finished⟩ := ih
      · have active := between
        rw [← show _ = stop from took.keeps.2] at active
        obtain ⟨fresh, g', step, freshNonempty, next⟩ := running.absorb active d
        rw [step, spoken_append_fresh]
        refine ⟨?_, next⟩
        rw [List.mem_append, not_or]
        refine ⟨nonempty, fun empty => freshNonempty ?_⟩
        exact Option.mem_toList.1 empty
      · rw [finished.done] at goesOn
        cases goesOn
  | pending took goesOn ih =>
      obtain ⟨nonempty, running | finished⟩ := ih
      · exact ⟨nonempty, .inl running.wait⟩
      · rw [finished.done] at goesOn
        cases goesOn

/-- A generation that is over is finished with what it said. -/
theorem Ended.finished (between : ∀ s, stop = some s → s.OnBoundaries)
    (h : Ended (fresh name stop) heard left said g) :
    "" ∉ said ∧ Finished g heard (spoken said) := by
  cases h with
  | cut _ took done =>
      obtain ⟨nonempty, running | finished⟩ := took.running_or_finished between
      · rw [running.goesOn] at done
        cases done
      · exact ⟨nonempty, finished⟩
  | closed took goesOn =>
      obtain ⟨nonempty, running | finished⟩ := took.running_or_finished between
      · obtain ⟨fresh, g', step, freshNonempty, -, finished⟩ := running.close
        rw [step, spoken_append_fresh]
        refine ⟨?_, finished⟩
        rw [List.mem_append, not_or]
        exact ⟨nonempty, fun empty => freshNonempty (Option.mem_toList.1 empty)⟩
      · rw [finished.done] at goesOn
        cases goesOn

end Fresh

end Generation

end PromptStream
