import PromptStream.Generation
import PromptStream.Proofs.Generation.Emission

/-!
# Where matches begin

A match of a pattern begins at a gap of the text, so its offset lies between two characters
(`Stop.onBoundaries_ofPattern`).  The stop that a generation uses is its own pattern, or one
that was compiled from it and from the literal that comes next; so it cuts between two
characters whenever its own pattern does.
-/

namespace PromptStream

namespace Pattern

/-- The first marked gap lies between two characters. -/
theorem Marks.isBoundary_firstOffset? {m : Marks} {cs : List Char} {start : Nat}
    (found : m.firstOffset? cs = some start) : isBoundary cs start = true := by
  refine isBoundary_iff.2 ?_
  induction cs generalizing m start with
  | nil =>
      match m, found with
      | true :: _, rfl => exact ⟨[], List.nil_prefix, rfl⟩
  | cons c cs ih =>
      match m, found with
      | true :: _, rfl => exact ⟨[], List.nil_prefix, rfl⟩
      | false :: m, found =>
          obtain ⟨later, there, rfl⟩ := Option.map_eq_some_iff.1 found
          obtain ⟨stem, isStem, length⟩ := ih there
          exact ⟨c :: stem, (List.prefix_cons_inj c).2 isStem, congrArg (c.utf8Size + ·) length⟩

end Pattern

namespace Stop

theorem onBoundaries_ofPattern (p : Pattern) : (ofPattern p).OnBoundaries :=
  fun _ _ found => Pattern.Marks.isBoundary_firstOffset? found

theorem onBoundaries_of_compile? {source : String} {stop : Stop}
    (compiled : compile? source = some stop) : stop.OnBoundaries := by
  obtain ⟨p, -, rfl⟩ := Option.map_eq_some_iff.1 compiled
  exact onBoundaries_ofPattern p

end Stop

/-- The stop in force cuts between two characters if the stop of the options does. -/
theorem GenerationOptions.onBoundaries_effectiveStop {options : GenerationOptions}
    (between : ∀ stop, options.stop = some stop → stop.OnBoundaries) (next : Option String)
    {stop : Stop} (active : options.effectiveStop next = some stop) : stop.OnBoundaries := by
  rw [effectiveStop] at active
  unfold Stop.withText? at active
  split at active
  next => exact between stop active
  next text _ =>
    split at active
    next own same =>
      cases compiled : Stop.compile? (Stop.alternative own.source text) with
      | none =>
          simp only [compiled, Option.getD_none, Option.some.injEq] at active
          exact active ▸ between own same
      | some combined =>
          simp only [compiled, Option.getD_some, Option.some.injEq] at active
          exact active ▸ Stop.onBoundaries_of_compile? compiled
    next => exact Stop.onBoundaries_of_compile? active

end PromptStream
