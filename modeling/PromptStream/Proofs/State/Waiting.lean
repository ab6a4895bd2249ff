import PromptStream.Proofs.State.Queue

/-!
# Waiting for items

Some waiters share one state.  A waiter listens before it looks for its item, and a push
adds its item before it signals.  Each of these is a step of its own, and the steps of all
parties may be interleaved in any way (`Floor.play`).  A signal tells exactly those who
listen at that moment, whatever the queue.

One invariant carries everything (`Stage.Attends`): who has found nothing and has not been
told waits for an item that was not there when the last signal was given.  So nobody sleeps
through a push.

`Waiter.poll` is a turn of a waiter that nothing interrupts, and `RunState.push` a push that
nothing interrupts, so a schedule of polls and pushes is a schedule of these steps
(`Lobby.floor_play`).  A poll therefore hands out an item exactly when it has been pushed
(`Lobby.poll_eq_pushed`).
-/

namespace PromptStream

/-! ## Steps of waiters -/

/-- Where a waiter stands between two of its steps. -/
inductive Stage where
  /-- It does not listen. -/
  | outside
  /-- It listens, and has not looked for its item since. -/
  | listening (told : Bool)
  /-- It has found nothing, and goes on when it is told. -/
  | suspended (told : Bool)
  /-- It has its item. -/
  | finished (item : Json)

namespace Stage

/-- A signal tells those who listen. -/
def tell : Stage → Stage
  | .listening _ => .listening true
  | .suspended _ => .suspended true
  | stage => stage

/-- The next step of a waiter, given what there is to find.  Who was told starts over, and
listens anew before it looks. -/
def advance (found : Option Json) : Stage → Stage
  | .outside => .listening false
  | .listening told => found.elim (.suspended told) .finished
  | .suspended told => if told then .outside else .suspended false
  | .finished item => .finished item

/-- The item of a waiter is there now, if it has one; and what it has not been told of was
not there at the last signal, if it has found nothing. -/
def Attends (now signalled : Option Json) : Stage → Prop
  | .finished item => now = some item
  | .suspended false => signalled = none
  | _ => True

/-- Whoever looks finds what is there, or misses nothing that was signalled. -/
theorem Attends.advance {now signalled : Option Json} {stage : Stage}
    (h : stage.Attends now signalled) (known : now = none → signalled = none) :
    (stage.advance now).Attends now signalled := by
  cases stage with
  | outside => trivial
  | listening told =>
      cases now with
      | some item => rfl
      | none =>
          cases told with
          | true => trivial
          | false => exact known rfl
  | suspended told =>
      cases told with
      | true => trivial
      | false => exact h
  | finished item => exact h

end Stage

/-- Someone who waits for the item at a position of a queue. -/
structure Seeker where
  /-- The queue. -/
  key : String
  /-- The position in the queue. -/
  index : Nat
  /-- Where the waiter stands. -/
  stage : Stage := .outside

/-- Those who wait, and the state that they share. -/
structure Floor where
  /-- The state. -/
  state : RunState
  /-- The state when the last signal was given. -/
  signalled : RunState
  /-- Those who wait. -/
  seekers : List Seeker := []

/-- A step of one of the parties. -/
inductive Act where
  /-- Somebody comes to wait for an item. -/
  | enter (key : String) (index : Nat)
  /-- A waiter takes its next step. -/
  | advance (number : Nat)
  /-- A push adds its item. -/
  | append (key : String) (item : Json)
  /-- A push signals. -/
  | signal

namespace Floor

/-- A state that nobody waits for. -/
def vacant (s : RunState) : Floor := ⟨s, s, []⟩

/-- The floor after a step. -/
def act (f : Floor) : Act → Floor
  | .enter key index => { f with seekers := f.seekers ++ [⟨key, index, .outside⟩] }
  | .advance number =>
      { f with seekers := f.seekers.modify number fun s =>
          { s with stage := s.stage.advance (f.state.item? s.key s.index) } }
  | .append key item => { f with state := f.state.push key item }
  | .signal =>
      { f with
        signalled := f.state
        seekers := f.seekers.map fun s => { s with stage := s.stage.tell } }

/-- The floor after some steps. -/
def play (f : Floor) (acts : List Act) : Floor := acts.foldl act f

theorem play_append (f : Floor) (acts more : List Act) :
    f.play (acts ++ more) = (f.play acts).play more := List.foldl_append

/-! ### Nobody sleeps through a push -/

/-- The waiters on a floor have the right items, or miss nothing that was signalled. -/
structure Sound (f : Floor) : Prop where
  grown : ∀ key, f.signalled.items key <+: f.state.items key
  attends : ∀ s ∈ f.seekers,
    s.stage.Attends (f.state.item? s.key s.index) (f.signalled.item? s.key s.index)

variable {f : Floor}

theorem Sound.vacant (s : RunState) : (vacant s).Sound := ⟨fun _ => List.prefix_rfl, nofun⟩

theorem Sound.enter (h : f.Sound) (key : String) (index : Nat) :
    (f.act (.enter key index)).Sound := by
  refine ⟨h.grown, fun s mem => ?_⟩
  rcases List.mem_append.1 mem with mem | mem
  · exact h.attends s mem
  · rw [List.mem_singleton.1 mem]
    trivial

theorem Sound.advance (h : f.Sound) (number : Nat) : (f.act (.advance number)).Sound := by
  refine ⟨h.grown, fun s mem => ?_⟩
  obtain ⟨i, found⟩ := List.mem_iff_getElem?.1 mem
  simp only [act, List.getElem?_modify] at found
  obtain ⟨before, there, rfl⟩ := Option.map_eq_some_iff.1 found
  have attends := h.attends before (List.mem_of_getElem? there)
  by_cases same : number = i
  · simp only [if_pos same]
    exact attends.advance (RunState.item?_eq_none_of_prefix (h.grown before.key))
  · simp only [if_neg same]
    exact attends

theorem Sound.append (h : f.Sound) (key : String) (item : Json) :
    (f.act (.append key item)).Sound := by
  have grown : ∀ other, f.state.items other <+: (f.state.push key item).items other :=
    RunState.items_prefix_push f.state key item
  refine ⟨fun other => (h.grown other).trans (grown other), fun s mem => ?_⟩
  have attends := h.attends s mem
  cases stage : s.stage with
  | finished item =>
      rw [stage] at attends
      exact RunState.item?_of_prefix (grown s.key) attends
  | suspended told =>
      rw [stage] at attends
      cases told with
      | true => trivial
      | false => exact attends
  | outside => trivial
  | listening told => trivial

/-- A signal leaves nobody behind who listens. -/
theorem Sound.signal (h : f.Sound) : (f.act .signal).Sound := by
  refine ⟨fun _ => List.prefix_rfl, fun s mem => ?_⟩
  obtain ⟨before, among, rfl⟩ := List.mem_map.1 mem
  have attends := h.attends before among
  cases stage : before.stage with
  | finished item =>
      rw [stage] at attends
      exact attends
  | _ => trivial

theorem Sound.act (h : f.Sound) (a : Act) : (f.act a).Sound := by
  cases a with
  | enter key index => exact h.enter key index
  | advance number => exact h.advance number
  | append key item => exact h.append key item
  | signal => exact h.signal

theorem Sound.play (h : f.Sound) (acts : List Act) : (f.play acts).Sound := by
  induction acts generalizing f with
  | nil => exact h
  | cons a acts ih => exact ih (h.act a)

/-- What was signalled stays signalled. -/
theorem Sound.signalled_prefix (h : f.Sound) (acts : List Act) (key : String) :
    f.signalled.items key <+: (f.play acts).signalled.items key := by
  induction acts generalizing f with
  | nil => exact List.prefix_rfl
  | cons a acts ih =>
      refine List.IsPrefix.trans ?_ (ih (h.act a))
      cases a with
      | signal => exact h.grown key
      | _ => exact List.prefix_rfl

/-- Who has found nothing and was not told waits for an item that no push had added before
any of the signals so far. -/
theorem missing_before_signal (s₀ : RunState) {acts before after : List Act}
    (split : acts = before ++ .signal :: after) {s : Seeker}
    (mem : s ∈ ((vacant s₀).play acts).seekers) (untold : s.stage = .suspended false) :
    ((vacant s₀).play before).state.item? s.key s.index = none := by
  have sound := Sound.vacant s₀
  have attends := (sound.play acts).attends s mem
  rw [untold] at attends
  have grown := Sound.signalled_prefix ((sound.play before).act .signal) after s.key
  rw [split, play_append] at attends
  exact RunState.item?_eq_none_of_prefix grown attends

end Floor

/-! ## Pushes and signals -/

namespace RunState

theorem foldl_length_lt_insert {d : Dict (List Json)} {key : String} {xs : List Json} {n m : Nat}
    (more : ((d.find? key).getD []).length < xs.length) (le : n ≤ m) :
    d.foldl (fun n e => n + e.2.length) n
      < (d.insert key xs).foldl (fun n e => n + e.2.length) m := by
  have mono : ∀ (d : Dict (List Json)) {n m : Nat}, n < m →
      d.foldl (fun n e => n + e.2.length) n < d.foldl (fun n e => n + e.2.length) m := by
    intro d
    induction d with
    | nil => exact id
    | cons e rest ih => exact fun lt => ih (Nat.add_lt_add_right lt _)
  induction d generalizing n m with
  | nil =>
      simp only [Dict.find?, Option.getD_none, List.length_nil] at more
      simp only [Dict.insert, List.foldl_nil, List.foldl_cons]
      omega
  | cons e rest ih =>
      obtain ⟨k, v⟩ := e
      rw [Dict.find?] at more
      rw [Dict.insert]
      by_cases same : k = key
      · rw [if_pos same] at more ⊢
        refine mono rest ?_
        simp only [Option.getD_some] at more
        simp only
        omega
      · rw [if_neg same] at more ⊢
        split
        · refine mono ((k, v) :: rest) ?_
          simp only
          omega
        · exact ih more (Nat.add_le_add_right le _)

/-- Every push is counted. -/
theorem pushCount_lt_push (s : RunState) (key : String) (item : Json) :
    s.pushCount < (s.push key item).pushCount := by
  refine foldl_length_lt_insert ?_ (Nat.le_refl 0)
  rw [List.length_append, List.length_singleton]
  exact Nat.lt_succ_self _

end RunState

namespace Waiter

variable {w : Waiter} {s : RunState}

/-- Where a waiter stands between two polls. -/
def stage (w : Waiter) (s : RunState) : Stage :=
  if w.listeningSince.isNone then .outside else .suspended (w.notified s)

/-- A waiter does not listen since later than now. -/
def Timely (w : Waiter) (s : RunState) : Prop := ∀ n ∈ w.listeningSince, n ≤ s.pushCount

/-- A push tells every waiter that listens. -/
theorem stage_push (timely : w.Timely s) (key : String) (item : Json) :
    w.stage (s.push key item) = (w.stage s).tell := by
  obtain ⟨name, index, since⟩ := w
  cases since with
  | none => rfl
  | some n =>
      have earlier : n < (s.push key item).pushCount :=
        Nat.lt_of_le_of_lt (timely n rfl) (s.pushCount_lt_push key item)
      have told : (n != (s.push key item).pushCount) = true :=
        bne_iff_ne.2 (Nat.ne_of_lt earlier)
      simp [stage, notified, Stage.tell, told]

theorem Timely.push (timely : w.Timely s) (key : String) (item : Json) :
    w.Timely (s.push key item) :=
  fun n mem => Nat.le_of_lt (Nat.lt_of_le_of_lt (timely n mem) (s.pushCount_lt_push key item))

/-- A waiter waits for one item. -/
theorem poll_keeps (w : Waiter) (s : RunState) :
    (w.poll s).2.key = w.key ∧ (w.poll s).2.index = w.index := by
  unfold poll
  split <;> exact ⟨rfl, rfl⟩

theorem Timely.poll (timely : w.Timely s) : (w.poll s).2.Timely s := by
  unfold Waiter.poll
  split
  · rintro n ⟨⟩
    exact Nat.le_refl _
  · exact timely

/-- A poll is a turn of a waiter that nothing interrupts: from wherever it stands, three
steps take it to its item, or to where it has found nothing and was not told. -/
theorem advance_stage (w : Waiter) (s : RunState) :
    let advance := Stage.advance (s.item? w.key w.index)
    advance (advance (advance (w.stage s)))
      = (w.poll s).1.elim ((w.poll s).2.stage s) .finished := by
  obtain ⟨name, index, since⟩ := w
  cases since with
  | none =>
      simp only [stage, poll, notified, Stage.advance]
      cases s.item? name index <;> simp
  | some n =>
      cases told : n != s.pushCount with
      | false => simp [stage, poll, notified, told, Stage.advance]
      | true =>
          simp only [stage, poll, notified, told, Stage.advance]
          cases s.item? name index <;> simp

end Waiter

/-! ## Schedules of polls and pushes -/

/-- Something that happens to a shared state, as a whole. -/
inductive WaitMove where
  /-- Somebody starts to wait for an item, and is not polled yet. -/
  | start (key : String) (index : Nat)
  /-- A waiter is polled. -/
  | poll (number : Nat)
  /-- An item is pushed. -/
  | push (key : String) (item : Json)

/-- A state, and the waiters that were started on it, with their items once they have them. -/
structure Lobby where
  /-- The state. -/
  state : RunState
  /-- The waiters, oldest first. -/
  waiters : List (Waiter × Option Json) := []

namespace Lobby

/-- Polls a waiter that has no item yet. -/
def pollOne (s : RunState) (x : Waiter × Option Json) : Waiter × Option Json :=
  match x.2 with
  | none => ((x.1.poll s).2, (x.1.poll s).1)
  | some _ => x

/-- The lobby after something has happened. -/
def move (l : Lobby) : WaitMove → Lobby
  | .start key index => { l with waiters := l.waiters ++ [(⟨key, index, none⟩, none)] }
  | .poll number => { l with waiters := l.waiters.modify number (pollOne l.state) }
  | .push key item => { l with state := l.state.push key item }

/-- The lobby after some things have happened. -/
def play (l : Lobby) (moves : List WaitMove) : Lobby := moves.foldl move l

/-- What some moves push to a queue, in order. -/
def pushed (key : String) (moves : List WaitMove) : List Json :=
  moves.filterMap fun
    | .push other item => if other = key then some item else none
    | _ => none

/-- What the waiters that some moves start wait for, in order. -/
def started (moves : List WaitMove) : List (String × Nat) :=
  moves.filterMap fun
    | .start key index => some (key, index)
    | _ => none

/-- A waiter between two of its steps. -/
def seeker (s : RunState) (x : Waiter × Option Json) : Seeker :=
  ⟨x.1.key, x.1.index, x.2.elim (x.1.stage s) .finished⟩

/-- The waiters of a lobby between their steps; nothing is left to be signalled. -/
def floor (l : Lobby) : Floor := ⟨l.state, l.state, l.waiters.map (seeker l.state)⟩

/-- The steps that a move consists of. -/
def acts : WaitMove → List Act
  | .start key index => [.enter key index]
  | .poll number => [.advance number, .advance number, .advance number]
  | .push key item => [.append key item, .signal]

variable {l : Lobby}

/-- No waiter listens since later than now. -/
def Timely (l : Lobby) : Prop := ∀ x ∈ l.waiters, x.1.Timely l.state

theorem Timely.move (timely : l.Timely) (m : WaitMove) : (l.move m).Timely := by
  cases m with
  | start key index =>
      intro x mem
      rcases List.mem_append.1 mem with mem | mem
      · exact timely x mem
      · rw [List.mem_singleton.1 mem]
        exact nofun
  | poll number =>
      intro x mem
      obtain ⟨i, found⟩ := List.mem_iff_getElem?.1 mem
      simp only [Lobby.move, List.getElem?_modify] at found
      obtain ⟨before, there, rfl⟩ := Option.map_eq_some_iff.1 found
      have earlier := timely before (List.mem_of_getElem? there)
      split
      · unfold pollOne
        split
        · exact earlier.poll
        · exact earlier
      · exact earlier
  | push key item => exact fun x mem => (timely x mem).push key item

/-- A poll is three steps of its waiter. -/
theorem seeker_pollOne (s : RunState) (x : Waiter × Option Json) :
    let step := fun y : Seeker => { y with stage := y.stage.advance (s.item? y.key y.index) }
    seeker s (pollOne s x) = step (step (step (seeker s x))) := by
  obtain ⟨w, item⟩ := x
  cases item with
  | some item => rfl
  | none =>
      obtain ⟨key, index⟩ := w.poll_keeps s
      simp only [seeker, pollOne, key, index, ← w.advance_stage s, Option.elim_none]

/-- A push tells whoever listens, and leaves the others alone. -/
theorem seeker_push {s : RunState} {x : Waiter × Option Json} (timely : x.1.Timely s)
    (key : String) (item : Json) :
    seeker (s.push key item) x = { seeker s x with stage := (seeker s x).stage.tell } := by
  obtain ⟨w, found⟩ := x
  cases found with
  | some item => rfl
  | none => simp only [seeker, Option.elim_none, Waiter.stage_push timely]

/-- A move is some steps of the parties, one right after another. -/
theorem floor_move (timely : l.Timely) (m : WaitMove) :
    (l.move m).floor = l.floor.play (acts m) := by
  cases m with
  | start key index => simp [floor, move, Floor.play, Floor.act, acts, seeker, Waiter.stage]
  | poll number =>
      refine congrArg (Floor.mk l.state l.state) (List.ext_getElem? fun i => ?_)
      simp only [move, floor, Floor.act, List.getElem?_map, List.getElem?_modify]
      cases l.waiters[i]? with
      | none => rfl
      | some x =>
          by_cases same : number = i
          · simp [same, seeker_pollOne]
          · simp [same]
  | push key item =>
      refine congrArg (Floor.mk _ _) ?_
      refine (List.map_congr_left fun x mem => seeker_push (timely x mem) key item).trans ?_
      simp only [floor, Floor.act, List.map_map]
      rfl

/-- A schedule of polls and pushes is a schedule of steps. -/
theorem floor_play (timely : l.Timely) (moves : List WaitMove) :
    (l.play moves).floor = l.floor.play (moves.flatMap acts) := by
  induction moves generalizing l with
  | nil => rfl
  | cons m moves ih =>
      refine (ih (timely.move m)).trans ?_
      rw [floor_move timely, List.flatMap_cons, Floor.play_append]

/-! ### What a schedule leaves -/

theorem items_play (l : Lobby) (moves : List WaitMove) (key : String) :
    (l.play moves).state.items key = l.state.items key ++ pushed key moves := by
  induction moves generalizing l with
  | nil => exact (List.append_nil _).symm
  | cons m moves ih =>
      refine (ih (l.move m)).trans ?_
      cases m with
      | push other item =>
          change (l.state.push other item).items key ++ _ = _
          by_cases same : other = key
          · subst same
            rw [RunState.items_push_self, List.append_assoc]
            simp [pushed]
          · rw [RunState.items_push_of_ne _ item same]
            simp [pushed, same]
      | _ => rfl

/-- What the waiters of a lobby wait for, in order. -/
def wanted (l : Lobby) : List (String × Nat) := l.waiters.map fun x => (x.1.key, x.1.index)

theorem wanted_play (l : Lobby) (moves : List WaitMove) :
    (l.play moves).wanted = l.wanted ++ started moves := by
  induction moves generalizing l with
  | nil => exact (List.append_nil _).symm
  | cons m moves ih =>
      refine (ih (l.move m)).trans ?_
      cases m with
      | start key index => simp [wanted, move, started]
      | poll number =>
          refine congrArg (· ++ started moves) (List.ext_getElem? fun i => ?_)
          simp only [wanted, move, List.getElem?_map, List.getElem?_modify]
          cases l.waiters[i]? with
          | none => rfl
          | some x =>
              obtain ⟨w, item⟩ := x
              obtain ⟨key, index⟩ := w.poll_keeps l.state
              by_cases same : number = i <;> cases item <;> simp [same, pollOne, key, index]
      | push key item => rfl

/-- The waiters of a schedule have the right items, or miss nothing. -/
theorem attends_play (s₀ : RunState) (moves : List WaitMove) {x : Waiter × Option Json}
    (mem : x ∈ (play ⟨s₀, []⟩ moves).waiters) :
    let now := (play ⟨s₀, []⟩ moves).state
    (seeker now x).stage.Attends (now.item? x.1.key x.1.index) (now.item? x.1.key x.1.index) := by
  have timely : Timely ⟨s₀, []⟩ := nofun
  have played : (play ⟨s₀, []⟩ moves).floor = (Floor.vacant s₀).play (moves.flatMap acts) :=
    floor_play timely moves
  have sound := (Floor.Sound.vacant s₀).play (moves.flatMap acts)
  rw [← played] at sound
  exact sound.attends _ (List.mem_map_of_mem mem)

/-- A waiter that listens and was not told waits for an item that is not there. -/
theorem missing_of_untold (s₀ : RunState) (moves : List WaitMove) {w : Waiter}
    (waits : (w, none) ∈ (play ⟨s₀, []⟩ moves).waiters) (listens : w.listeningSince.isSome)
    (untold : w.notified (play ⟨s₀, []⟩ moves).state = false) :
    (play ⟨s₀, []⟩ moves).state.item? w.key w.index = none := by
  have attends := attends_play s₀ moves waits
  have stage : w.stage (play ⟨s₀, []⟩ moves).state = .suspended false := by
    rw [Waiter.stage, untold, if_neg (by simp [Option.isSome_iff_ne_none.1 listens])]
  simp only [seeker, Option.elim_none, stage] at attends
  exact attends

/-- A poll of a waiter without its item finds what is there. -/
theorem poll_eq_item? (s₀ : RunState) (moves : List WaitMove) {w : Waiter}
    (waits : (w, none) ∈ (play ⟨s₀, []⟩ moves).waiters) :
    (w.poll (play ⟨s₀, []⟩ moves).state).1
      = (play ⟨s₀, []⟩ moves).state.item? w.key w.index := by
  unfold Waiter.poll
  split
  next => rfl
  next asleep =>
    obtain ⟨listens, untold⟩ := not_or.1 asleep
    refine (missing_of_untold s₀ moves waits ?_ (Bool.eq_false_of_not_eq_true untold)).symm
    simpa [Option.isSome_iff_ne_none] using listens

theorem started_of_waiter (s₀ : RunState) (moves : List WaitMove) {n : Nat}
    {x : Waiter × Option Json} (found : (play ⟨s₀, []⟩ moves).waiters[n]? = some x) :
    (started moves)[n]? = some (x.1.key, x.1.index) := by
  have wanted := wanted_play ⟨s₀, []⟩ moves
  rw [Lobby.wanted, Lobby.wanted, List.map_nil, List.nil_append] at wanted
  rw [← wanted, List.getElem?_map, found]
  rfl

/-- Whatever waits are started, polls made and items pushed, in any order: a waiter without
its item gets one from a poll exactly if its queue has come to hold it, and then the one at
its position; a waiter that was polled before and whose item is there by now has been
notified; a waiter that has its item has the one at its position; and queues only ever grow
at the end.  Nor is a signal lost to a waiter between two of its own steps: however the
steps of waiters and pushes are interleaved, who is suspended and was not told waits for an
item that was missing at every signal so far. -/
theorem poll_eq_pushed (s₀ : RunState) (moves : List WaitMove) :
    let now := play ⟨s₀, []⟩ moves
    let items (key : String) := s₀.items key ++ pushed key moves
    (∀ (n : Nat) (w : Waiter), now.waiters[n]? = some (w, none) →
      (started moves)[n]? = some (w.key, w.index) ∧
      (w.poll now.state).1 = (items w.key)[w.index]? ∧
      ((w.poll now.state).1.isSome ↔ w.index + 1 ≤ (items w.key).length) ∧
      (w.listeningSince.isSome → w.index + 1 ≤ (items w.key).length →
        w.notified now.state = true)) ∧
    (∀ (n : Nat) (w : Waiter) item, now.waiters[n]? = some (w, some item) →
      (started moves)[n]? = some (w.key, w.index) ∧ (items w.key)[w.index]? = some item) ∧
    (∀ key, now.state.items key = items key) ∧
    (∀ later key, now.state.items key <+: (now.play later).state.items key) ∧
    ∀ acts s, s ∈ ((Floor.vacant s₀).play acts).seekers →
      (∀ item, s.stage = .finished item →
        ((Floor.vacant s₀).play acts).state.item? s.key s.index = some item) ∧
      (s.stage = .suspended false → ∀ before after, acts = before ++ .signal :: after →
        ((Floor.vacant s₀).play before).state.item? s.key s.index = none) := by
  intro now items
  have queues : ∀ key, now.state.items key = items key := items_play ⟨s₀, []⟩ moves
  have item : ∀ key index, now.state.item? key index = (items key)[index]? := by
    intro key index
    rw [RunState.item?, queues]
  refine ⟨fun n w found => ?_, fun n w value found => ?_, queues, fun later key => ?_,
    fun acts s mem => ⟨fun value finished => ?_, fun untold before after split => ?_⟩⟩
  · have waits := List.mem_of_getElem? found
    have polled : (w.poll now.state).1 = (items w.key)[w.index]? :=
      (poll_eq_item? s₀ moves waits).trans (item _ _)
    refine ⟨started_of_waiter s₀ moves found, polled, ?_, fun listens there => ?_⟩
    · rw [polled, isSome_getElem?]
      exact Iff.rfl
    · by_contra untold
      have missing := missing_of_untold s₀ moves waits listens
        (Bool.eq_false_of_not_eq_true untold)
      exact absurd there (Nat.not_le.2 (Nat.lt_succ_of_le
        (List.getElem?_eq_none_iff.1 ((item _ _).symm.trans missing))))
  · have attends := attends_play s₀ moves (List.mem_of_getElem? found)
    exact ⟨started_of_waiter s₀ moves found, (item _ _).symm.trans attends⟩
  · rw [items_play now later key]
    exact List.prefix_append _ _
  · have attends := ((Floor.Sound.vacant s₀).play acts).attends s mem
    rw [finished] at attends
    exact attends
  · exact Floor.missing_before_signal s₀ split mem untold

end Lobby

end PromptStream
