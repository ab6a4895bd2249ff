import Mathlib.Data.List.Basic
import Mathlib.Logic.Function.Basic
import PromptStream.Proofs.Engine.Outcome

/-!
# The iterations of a loop

A loop and a map are the same thing, a *repetition*: a map of `n` items is bounded by `n`, has
no predicate, and asks for the body of an iteration when the iteration starts.  If the run of a
repetition comes to its end, it is put together from the runs of its iterations
(`drain_repetition_iff`).  There is a world before each iteration, and one before which the
repetition is over.  The decision is made in that world, so the predicate sees what the
iteration before has left; and what the predicate writes is there when the iteration starts.
-/

namespace PromptStream

variable {φ ν : Type}

/-- A machine without work comes to its end without an element. -/
theorem Consumer.of_drain_nil {c : Consumer φ ν} {host : Host φ ν} {n : Nat} {w w' : World φ ν}
    {items : List Element} (ended : c.drain host n ⟨[], w⟩ = (items.map .ok, ⟨[], w'⟩)) :
    items = [] ∧ w' = w := by
  rw [drain_of_stack_nil rfl] at ended
  obtain ⟨handed, left⟩ := Prod.mk.inj ended
  exact ⟨List.map_eq_nil_iff.1 handed.symm, (Machine.mk.inj left).2.symm⟩

/-! ## Repetitions -/

/-- What is repeated: when it ends, and the body of an iteration, with what asking for it
writes. -/
structure Repetition (φ ν : Type) where
  options : LoopOptions φ
  body : Nat → Scene ν → Input φ × List (Write ν)

namespace Repetition

/-- A loop has the same body in every iteration. -/
def loop (body : Input φ) (options : LoopOptions φ) : Repetition φ ν :=
  ⟨options, fun _ _ => (body, [])⟩

/-- A map is bounded by the number of its items, and has no predicate. -/
def map (host : Host φ ν) (count : Nat) (item : φ) : Repetition φ ν :=
  ⟨{ maxIterations := some count }, host.item item⟩

section Decision

variable (r : Repetition φ ν) (host : Host φ ν) (props : Props) (i : Nat) (w : World φ ν)

/-- Whether the bound is reached before an iteration. -/
def Bounded : Prop := ∃ most ∈ r.options.maxIterations, most ≤ i

instance : Decidable (r.Bounded i) :=
  inferInstanceAs (Decidable (∃ most ∈ r.options.maxIterations, most ≤ i))

/-- Whether it is over before an iteration: the bound is reached, or the predicate holds of the
iteration that has just finished. -/
def Over : Prop :=
  r.Bounded i ∨ ∃ f finished, r.options.until? = some f ∧ i = finished + 1 ∧
    (host.until? f props finished w.scene).1 = true

/-- The world once this is decided.  The predicate is asked once after each iteration, unless
the bound is reached. -/
def asked : World φ ν :=
  match r.options.until?, i with
  | some f, finished + 1 =>
      if r.Bounded i then w else w.writeAll (host.until? f props finished w.scene).2
  | _, _ => w

/-- The run of an iteration: it is announced, its body is asked for, and the body is run in the
context of the iteration. -/
def start (id : String) : Machine φ ν :=
  let v := enterIteration (r.asked host props i w) id i
  ⟨Frame.guarded (r.body i v.scene).1 (iterationProps props id i),
    v.writeAll (r.body i v.scene).2⟩

theorem any_maxIterations_iff :
    (r.options.maxIterations.any fun most => most ≤ i) = true ↔ r.Bounded i := by
  simp [Bounded, Option.any_eq_true]

theorem loopEnds_fst_iff :
    (loopEnds host props r.options i w).1 = true ↔ r.Over host props i w := by
  unfold loopEnds Over
  rw [← any_maxIterations_iff]
  cases r.options.maxIterations.any fun most => most ≤ i with
  | true => simp
  | false =>
      cases r.options.until? with
      | none => simp
      | some f => cases i <;> simp

theorem loopEnds_snd : (loopEnds host props r.options i w).2 = r.asked host props i w := by
  unfold loopEnds asked
  simp only [any_maxIterations_iff]
  by_cases reached : r.Bounded i
  · rw [if_pos reached]
    split
    next => exact (if_pos reached).symm
    next => rfl
  · rw [if_neg reached]
    cases r.options.until? with
    | none => rfl
    | some f =>
        cases i with
        | zero => rfl
        | succ finished => exact (if_neg reached).symm

end Decision

variable {r : Repetition φ ν} {host : Host φ ν} {props : Props} {i : Nat} {w : World φ ν}

theorem loopEnds_eq_true (stops : r.Over host props i w) :
    loopEnds host props r.options i w = (true, r.asked host props i w) :=
  Prod.ext ((loopEnds_fst_iff r host props i w).2 stops) (loopEnds_snd r host props i w)

theorem loopEnds_eq_false (goesOn : ¬ r.Over host props i w) :
    loopEnds host props r.options i w = (false, r.asked host props i w) :=
  Prod.ext (eq_false_of_ne_true (mt (loopEnds_fst_iff r host props i w).1 goesOn))
    (loopEnds_snd r host props i w)

/-- The iterations from `first` on, with the world before each of them and what each of them
hands out: `last` is the least number from `first` on before which the repetition is over. -/
structure Runs (r : Repetition φ ν) (c : Consumer φ ν) (host : Host φ ν) (props : Props)
    (id : String) (first last : Nat) (before : Nat → World φ ν) (said : Nat → List Element) :
    Prop where
  le : first ≤ last
  goesOn : ∀ i, first ≤ i → i < last → ¬ r.Over host props i (before i)
  stops : r.Over host props last (before last)
  iteration : ∀ i, first ≤ i → i < last → ∃ n,
    c.drain host n (r.start host props i (before i) id) = ((said i).map .ok, ⟨[], before (i + 1)⟩)

namespace Runs

variable {r : Repetition φ ν} {c : Consumer φ ν} {host : Host φ ν} {props : Props} {id : String}
  {first last : Nat} {before : Nat → World φ ν} {said : Nat → List Element}

theorem none (stops : r.Over host props first (before first)) :
    r.Runs c host props id first first before said where
  le := Nat.le_refl first
  goesOn _ le less := absurd less (Nat.not_lt.2 le)
  stops := stops
  iteration _ le less := absurd less (Nat.not_lt.2 le)

/-- One more iteration, in front. -/
theorem cons (h : r.Runs c host props id (first + 1) last before said) {w : World φ ν}
    {items : List Element} (goesOn : ¬ r.Over host props first w)
    (iteration : ∃ n, c.drain host n (r.start host props first w id)
      = (items.map .ok, ⟨[], before (first + 1)⟩)) :
    r.Runs c host props id first last (Function.update before first w)
      (Function.update said first items) where
  le := Nat.le_of_succ_le h.le
  goesOn i le less := by
    rcases Nat.eq_or_lt_of_le le with rfl | later
    · rwa [Function.update_self]
    · rw [Function.update_of_ne (Nat.ne_of_gt later)]
      exact h.goesOn i later less
  stops := by
    rw [Function.update_of_ne (Nat.ne_of_gt h.le)]
    exact h.stops
  iteration i le less := by
    rw [Function.update_of_ne (show i + 1 ≠ first by omega)]
    rcases Nat.eq_or_lt_of_le le with rfl | later
    · rwa [Function.update_self, Function.update_self]
    · rw [Function.update_of_ne (Nat.ne_of_gt later), Function.update_of_ne (Nat.ne_of_gt later)]
      exact h.iteration i later less

theorem tail (h : r.Runs c host props id first last before said) (less : first < last) :
    r.Runs c host props id (first + 1) last before said where
  le := less
  goesOn i le := h.goesOn i (Nat.le_of_succ_le le)
  stops := h.stops
  iteration i le := h.iteration i (Nat.le_of_succ_le le)

end Runs

/-- What the iterations from `first` on hand out, if it is known for all after the first. -/
theorem flatMap_update (said : Nat → List Element) (items : List Element) {first last : Nat}
    (less : first < last) :
    (List.range' first (last - first)).flatMap (Function.update said first items)
      = items ++ (List.range' (first + 1) (last - (first + 1))).flatMap said := by
  have later : ∀ i ∈ List.range' (first + 1) (last - (first + 1)),
      Function.update said first items i = said i := fun i mem =>
    Function.update_of_ne (Nat.ne_of_gt (List.mem_range'_1.1 mem).1) ..
  rw [show last - first = last - (first + 1) + 1 by omega, List.range'_succ, List.flatMap_cons,
    Function.update_self, List.flatMap_congr later]

/-! ## The frames of a repetition -/

/-- The frames that stand for a repetition before each of its iterations. -/
structure IsRunBy (r : Repetition φ ν) (host : Host φ ν) (props : Props) (id : String)
    (frame : Nat → Frame φ) : Prop where
  unguarded : ∀ i rest, Frame.belowFailed (frame i :: rest) = Frame.belowFailed rest
  ends : ∀ i rest w, r.Over host props i w → Machine.step host ⟨frame i :: rest, w⟩
    = .more ⟨rest, leaveLoop (r.asked host props i w) id i⟩
  goesOn : ∀ i rest w, ¬ r.Over host props i w → Machine.step host ⟨frame i :: rest, w⟩
    = .more ((r.start host props i w id).onto (frame (i + 1) :: rest))

theorem loop_isRunBy (host : Host φ ν) (props : Props) (id : String) (body : Input φ)
    (options : LoopOptions φ) :
    (loop body options : Repetition φ ν).IsRunBy host props id (.loop props id body options) where
  unguarded _ _ := rfl
  ends i rest w stops := by
    have step : Machine.step host ⟨.loop props id body options i :: rest, w⟩
        = stepLoop host props id body options i rest w := rfl
    have ends : loopEnds host props options i w = _ := loopEnds_eq_true stops
    rw [step, stepLoop, ends]
  goesOn i rest w goesOn := by
    have step : Machine.step host ⟨.loop props id body options i :: rest, w⟩
        = stepLoop host props id body options i rest w := rfl
    have ends : loopEnds host props options i w = _ := loopEnds_eq_false goesOn
    rw [step, stepLoop, ends]
    rfl

/-- A map decides as a loop with its bound and without a predicate does. -/
theorem over_map_iff {host : Host φ ν} {props : Props} {count i : Nat} {item : φ} {w : World φ ν} :
    (map host count item).Over host props i w ↔ count ≤ i := by
  simp [Over, Bounded, map]

theorem map_isRunBy (host : Host φ ν) (props : Props) (id : String) (count : Nat) (item : φ) :
    (map host count item).IsRunBy host props id (.map props id count item) where
  unguarded _ _ := rfl
  ends i rest w stops := by
    have step : Machine.step host ⟨.map props id count item i :: rest, w⟩
        = stepMap host props id count item i rest w := rfl
    rw [step, stepMap, if_pos (over_map_iff.1 stops)]
    rfl
  goesOn i rest w goesOn := by
    have step : Machine.step host ⟨.map props id count item i :: rest, w⟩
        = stepMap host props id count item i rest w := rfl
    rw [step, stepMap, if_neg (mt over_map_iff.2 goesOn)]
    rfl

namespace IsRunBy

variable {r : Repetition φ ν} {c : Consumer φ ν} {host : Host φ ν} {props : Props} {id : String}
  {frame : Nat → Frame φ}

/-- A repetition that comes to its end has come through its iterations.  By induction on the
steps: those that are left after an iteration are fewer. -/
theorem exists_runs (h : r.IsRunBy host props id frame) {n i : Nat} {w w' : World φ ν}
    {items : List Element} (ended : c.drain host n ⟨[frame i], w⟩ = (items.map .ok, ⟨[], w'⟩)) :
    ∃ last before said, before i = w ∧ r.Runs c host props id i last before said ∧
      items = (List.range' i (last - i)).flatMap said ∧
      w' = leaveLoop (r.asked host props last (before last)) id last := by
  induction n using Nat.strongRecOn generalizing i w items with
  | ind n ih =>
      cases n with
      | zero => cases (Machine.mk.inj (Prod.mk.inj ended).2).1
      | succ n =>
          by_cases stops : r.Over host props i w
          · rw [Consumer.drain, h.ends i [] w stops] at ended
            obtain ⟨rfl, rfl⟩ := Consumer.of_drain_nil ended
            refine ⟨i, fun _ => w, fun _ => [], rfl, .none stops, ?_, rfl⟩
            rw [Nat.sub_self]
            rfl
          · rw [Consumer.drain, h.goesOn i [] w stops] at ended
            obtain ⟨k, first, v, later, le, iteration, rest, rfl⟩ :=
              Consumer.exists_split_drain (h.unguarded (i + 1) []) ended
            obtain ⟨last, before, said, rfl, runs, rfl, rfl⟩ := ih (n - k) (by omega) rest
            have less : i < last := runs.le
            refine ⟨last, _, _, Function.update_self .., runs.cons stops ⟨n, iteration⟩, ?_, ?_⟩
            · exact (flatMap_update said first less).symm
            · rw [Function.update_of_ne (Nat.ne_of_gt less)]

/-- A repetition whose iterations come to their ends comes to its end.  By induction on the
iterations that are left. -/
theorem exists_drain (h : r.IsRunBy host props id frame) {i last : Nat}
    {before : Nat → World φ ν} {said : Nat → List Element}
    (runs : r.Runs c host props id i last before said) :
    ∃ n, c.drain host n ⟨[frame i], before i⟩ = (((List.range' i (last - i)).flatMap said).map .ok,
      ⟨[], leaveLoop (r.asked host props last (before last)) id last⟩) := by
  generalize left : last - i = d
  induction d generalizing i with
  | zero =>
      obtain rfl : i = last := Nat.le_antisymm runs.le (Nat.le_of_sub_eq_zero left)
      refine ⟨1, ?_⟩
      rw [Consumer.drain, h.ends i [] _ runs.stops]
      rfl
  | succ d ih =>
      have less : i < last := by omega
      obtain ⟨n, iteration⟩ := runs.iteration i (Nat.le_refl i) less
      obtain ⟨k, first⟩ := Consumer.exists_drain_onto (h.unguarded (i + 1) []) iteration
      obtain ⟨j, later⟩ := ih (runs.tail less) (by omega)
      refine ⟨k + j + 1, ?_⟩
      rw [Consumer.drain, h.goesOn i [] _ (runs.goesOn i (Nat.le_refl i) less), Consumer.take,
        Consumer.drain_add, first, later, List.range'_succ, List.flatMap_cons, List.map_append]
      rfl

end IsRunBy

/-! ## Whole repetitions -/

/-- What a repetition comes to from a world: what its iterations hand out, one after another,
and the world that the last decision has left, in which it is no longer running. -/
def ComesTo (r : Repetition φ ν) (c : Consumer φ ν) (host : Host φ ν) (props : Props)
    (id : String) (w : World φ ν) (items : List Element) (w' : World φ ν) : Prop :=
  ∃ last before said, before 0 = w ∧ r.Runs c host props id 0 last before said ∧
    items = (List.range last).flatMap said ∧
    w' = leaveLoop (r.asked host props last (before last)) id last

theorem ComesTo.loopStatus {r : Repetition φ ν} {c : Consumer φ ν} {host : Host φ ν}
    {props : Props} {id : String} {w w' : World φ ν} {items : List Element}
    (h : r.ComesTo c host props id w items w') :
    w'.scene.state.loopStatus? id = some .notRunning := by
  obtain ⟨last, before, said, -, -, -, rfl⟩ := h
  exact Dict.find?_insert_self id LoopStatus.notRunning _

/-- A run of a repetition comes to its end as the repetition does. -/
theorem IsRunBy.drain_iff {r : Repetition φ ν} {c : Consumer φ ν} {host : Host φ ν}
    {props : Props} {id : String} {frame : Nat → Frame φ} (h : r.IsRunBy host props id frame)
    {a : Action φ} {w w' : World φ ν} {items : List Element}
    (action : startAction host a props w = ([frame 0, .guard false], w)) :
    (∃ n, c.drain host n ⟨Frame.guarded (.action a) props, w⟩ = (items.map .ok, ⟨[], w'⟩))
      ↔ r.ComesTo c host props id w items w' := by
  have guards : Frame.belowFailed (φ := φ) [.guard false, .guard false] = none := rfl
  have first : Machine.step host ⟨Frame.guarded (.action a) props, w⟩
      = .more (Machine.onto [.guard false, .guard false] ⟨[frame 0], w⟩) := by
    simp only [Frame.guarded, Machine.step, stepInput, action]
    rfl
  have leave : ∀ v, c.drain host 2 ⟨[.guard false, .guard false], v⟩ = ([], ⟨[], v⟩) :=
    fun _ => rfl
  constructor
  · rintro ⟨n, ended⟩
    cases n with
    | zero => cases (Machine.mk.inj (Prod.mk.inj ended).2).1
    | succ n =>
        rw [Consumer.drain, first] at ended
        obtain ⟨k, first, v, later, -, repetition, rest, rfl⟩ :=
          Consumer.exists_split_drain guards ended
        obtain ⟨handed, left⟩ := Consumer.drain_eq_of_ended rest (leave v) rfl rfl
        obtain rfl := List.map_eq_nil_iff.1 handed
        cases left
        obtain ⟨last, before, said, start, runs, rfl, left⟩ := h.exists_runs repetition
        refine ⟨last, before, said, start, runs, ?_, left⟩
        rw [List.append_nil, Nat.sub_zero, List.range_eq_range']
  · rintro ⟨last, before, said, rfl, runs, rfl, rfl⟩
    obtain ⟨n, repetition⟩ := h.exists_drain runs
    obtain ⟨k, drained⟩ := Consumer.exists_drain_onto guards repetition
    refine ⟨k + 2 + 1, ?_⟩
    rw [Consumer.drain, first, Consumer.take, Consumer.drain_add, drained, leave, Nat.sub_zero,
      ← List.range_eq_range', List.append_nil]
    rfl

end Repetition

/-- The run of a loop or a map comes to its end without a failure exactly if its iterations do,
as many as it takes until the repetition is over, each in the context of its iteration and from
the world that the ones before have left.  It hands out what they hand out, one after another,
and then the loop is no longer running. -/
theorem drain_repetition_iff (c : Consumer φ ν) (host : Host φ ν) (props : Props) (id : String)
    (w w' : World φ ν) (items : List Element) :
    let ends := fun a : Action φ => ∃ n,
      c.drain host n ⟨Frame.guarded (.action a) props, w⟩ = (items.map .ok, ⟨[], w'⟩)
    let comes := fun r : Repetition φ ν => r.ComesTo c host props id w items w'
    (∀ body options, ends (.loop id body options) ↔ comes (.loop body options)) ∧
      (∀ count item, ends (.map id count item) ↔ comes (.map host count item)) ∧
      (∀ r, comes r → w'.scene.state.loopStatus? id = some .notRunning) ∧
      ∀ i, iterationProps props id i = { props with context := { props.context with
        loopId := some id
        outputAddress := props.context.outputAddress ++ [id, toString i]
        leafId := props.context.leafId ++ [i] } } :=
  ⟨fun body options => (Repetition.loop_isRunBy host props id body options).drain_iff rfl,
    fun count item => (Repetition.map_isRunBy host props id count item).drain_iff rfl,
    fun _ comes => comes.loopStatus, fun _ => rfl⟩

end PromptStream
