import PromptStream.Proofs.Engine.Changes
import PromptStream.Proofs.Engine.NodeContext

/-!
# The status of the loops around a node

The loops of a run share one table of statuses, which knows a loop by its id alone.  What
the table says of an id is what was reported last about a loop of that id
(`World.Reported`).  The iterations that are being produced, on the other hand, are those
of the frames below the top of the stack (`iterations`).

The two agree on an iteration exactly as long as its report is the last one of that id.
A loop of the same id within the iteration reports its own iterations and its end, so
they may disagree (`status_lost_by_inner_loop`).  If no loop stands within an iteration
of a loop of the same id (`Tree.Apart`), they always agree, at every depth, and every wait
is for the item of the innermost iteration (`status_of_iteration`).
-/

namespace PromptStream

variable {φ ν : Type}

/-! ## The last report -/

/-- The status of a loop according to the last report about it. -/
def lastStatus? (id : String) (events : List Event) : Option LoopStatus :=
  (events.filterMap (Event.status? id)).getLast?

theorem lastStatus?_append (id : String) (events later : List Event) :
    lastStatus? id (events ++ later) = (lastStatus? id later).or (lastStatus? id events) := by
  rw [lastStatus?, List.filterMap_append, List.getLast?_append]
  rfl

theorem lastStatus?_eq_none {id : String} {events : List Event}
    (silent : ∀ e ∈ events, e.status? id = none) : lastStatus? id events = none := by
  rw [lastStatus?, List.filterMap_eq_nil_iff.2 silent]
  rfl

/-- The table of statuses says what was reported last. -/
def World.Reported (w : World φ ν) : Prop :=
  ∀ id, w.scene.state.loopStatus? id = lastStatus? id w.scene.events

/-- A host whose author code sets the status of no loop. -/
def Host.SetsNoLoop (host : Host φ ν) : Prop := ∀ id status, ¬ host.Asks (.setLoop id status)

namespace World.Reported

variable {host : Host φ ν} {w w' : World φ ν}

theorem of_same (h : w.Reported) (loops : w'.scene.state.loops = w.scene.state.loops)
    (events : w'.scene.events = w.scene.events) : w'.Reported := by
  intro id
  rw [RunState.loopStatus?, loops, events]
  exact h id

/-- A status that is set and reported. -/
theorem set (h : w.Reported) {id : String} {status : LoopStatus} {e : Event}
    (reports : ∀ other, e.status? other = if id = other then some status else none) :
    ((w.setLoop id status).emit e).Reported := by
  intro other
  have events : ((w.setLoop id status).emit e).scene.events = w.scene.events ++ [e] :=
    events_emit _ e
  have said : lastStatus? other [e] = e.status? other := by
    cases found : e.status? other <;> simp [lastStatus?, found]
  rw [events, lastStatus?_append, said, reports]
  change Dict.find? other (Dict.insert id status w.scene.state.loops) = _
  split
  next same => rw [same, Dict.find?_insert_self, Option.some_or]
  next ne =>
    rw [Dict.find?_insert_of_ne _ _ ne, Option.none_or]
    exact h other

theorem change (setsNone : host.SetsNoLoop) (h : w.Reported) (change : w.Change host w') :
    w'.Reported := by
  cases change with
  | @write x asks =>
      cases x with
      | setLoop id status => exact absurd asks (setsNone id status)
      | push key item => exact h.of_same rfl rfl
      | record address key value => exact h.of_same rfl rfl
      | remark n => exact h.of_same rfl (events_writeAll w [.remark n])
  | @report e silent =>
      intro id
      rw [events_emit, lastStatus?_append, lastStatus?_eq_none, Option.none_or]
      · exact h id
      · intro e' mem
        rw [List.mem_singleton.1 mem]
        exact silent id
  | enter id i => exact h.set fun _ => rfl
  | leave id iterations => exact h.set fun _ => rfl
  | record address key value => exact h.of_same rfl rfl
  | complete ref request =>
      refine h.of_same ?_ ?_
      · rw [complete_scene]
      · rw [complete_scene]
  | take taken =>
      unfold World.takeStream? at taken
      split at taken
      · cases taken
        exact h.of_same rfl rfl
      · cases taken
  | share futures => exact h.of_same rfl rfl

theorem changes (setsNone : host.SetsNoLoop) (h : w.Reported) (changes : w.Changes host w') :
    w'.Reported := by
  induction changes with
  | refl => exact h
  | tail _ last ih => exact ih.change setsNone last

end World.Reported

/-- An event about a loop is reported by the frame of that loop. -/
theorem Frame.iteration?_of_reports {host : Host φ ν} {w : World φ ν} {f : Frame φ} {e : Event}
    {id : String} (reported : e ∈ f.reports host w) (about : e.status? id ≠ none) :
    ∃ i, f.iteration? = some (id, i) := by
  have own : ∀ {other : String} {status : LoopStatus},
      (if other = id then some status else none) ≠ none → other = id := by
    intro other status about
    refine Decidable.byContradiction fun ne => about ?_
    rw [if_neg ne]
  have spoken : ∀ {g : Generation} {fresh : Option String}, e ∉ g.reports fresh := by
    intro g fresh mem
    rcases List.mem_append.1 mem with delta | last
    · obtain ⟨s, -, rfl⟩ := Option.map_eq_some_iff.1 (Option.mem_toList.1 delta)
      exact about rfl
    · split at last
      next =>
        cases List.mem_singleton.1 last
        exact about rfl
      next => cases last
  unfold Frame.reports at reported
  split at reported
  next =>
    cases List.mem_singleton.1 reported
    exact absurd rfl about
  next props other body options i =>
    split at reported <;>
    · cases List.mem_singleton.1 reported
      cases own about
      exact ⟨_, rfl⟩
  next props other count item i =>
    split at reported <;>
    · cases List.mem_singleton.1 reported
      cases own about
      exact ⟨_, rfl⟩
  next =>
    split at reported
    next =>
      cases List.mem_singleton.1 reported
      exact absurd rfl about
    next =>
      split at reported
      next =>
        cases List.mem_singleton.1 reported
        exact absurd rfl about
      next => cases reported
  next g props signals =>
    split at reported
    next => cases reported
    next =>
      match signals with
      | [] => exact absurd reported spoken
      | .item d :: _ => exact absurd reported spoken
      | .failed f :: _ => cases reported
      | .pending :: _ => cases reported
  next => cases reported

/-! ## Iterations that are being produced -/

/-- The iterations that the frames of a stack have started last, innermost first. -/
def iterations (stack : List (Frame φ)) : List (String × Nat) := stack.filterMap Frame.iteration?

theorem iterations_cons (f : Frame φ) (rest : List (Frame φ)) :
    iterations (f :: rest) = f.iteration?.toList ++ iterations rest := by
  rw [iterations, List.filterMap_cons]
  cases f.iteration? <;> rfl

theorem mem_iterations {stack : List (Frame φ)} {n : String × Nat} :
    n ∈ iterations stack ↔ ∃ f ∈ stack, f.iteration? = some n := List.mem_filterMap

theorem mem_iterations_of_isLeftOf {left stack : List (Frame φ)} (h : IsLeftOf left stack)
    {n : String × Nat} (mem : n ∈ iterations left) : n ∈ iterations stack := by
  obtain ⟨suffix, isSuffix, rfl | rfl⟩ := h
  · obtain ⟨f, among, same⟩ := mem_iterations.1 mem
    exact mem_iterations.2 ⟨f, isSuffix.subset among, same⟩
  · obtain ⟨f, marked, same⟩ := mem_iterations.1 mem
    obtain ⟨g, among, rfl⟩ := List.mem_map.1 marked
    rw [Frame.iteration?_mark] at same
    exact mem_iterations.2 ⟨g, isSuffix.subset among, same⟩

/-- What is newly below the top is an iteration that has just been announced. -/
theorem mem_iterations_tail {host : Host φ ν} {w : World φ ν} {f : Frame φ}
    {pushed rest : List (Frame φ)} (pushes : f.Pushes host w pushed) {n : String × Nat}
    (mem : n ∈ iterations (pushed ++ rest).tail) :
    n ∈ iterations rest ∨ f.reports host w = [.loopIteration n.1 n.2] := by
  obtain ⟨g, among, same⟩ := mem_iterations.1 mem
  cases pushes with
  | nothing => exact .inl (mem_iterations.2 ⟨g, List.mem_of_mem_tail among, same⟩)
  | work top plain =>
      rcases List.mem_append.1 among with above | among
      · rw [(plain g above).1] at same
        cases same
      · exact .inl (mem_iterations.2 ⟨g, among, same⟩)
  | iteration reports iteration _ =>
      simp only [Frame.guarded, List.cons_append, List.nil_append, List.tail_cons,
        List.mem_cons] at among
      rcases among with rfl | rfl | among
      · cases same
      · rw [iteration] at same
        cases same
        exact .inr reports
      · exact .inl (mem_iterations.2 ⟨g, among, same⟩)

namespace Path

/-- The loops on a path, outermost first. -/
def loops (p : Path) : List String :=
  p.filterMap fun
    | .iteration id _ => some id
    | _ => none

theorem loop?_eq (p : Path) : p.loop? = p.loops.getLast? := rfl

theorem loops_append (p q : Path) : loops (p ++ q) = p.loops ++ q.loops := List.filterMap_append

end Path

namespace Tree

variable {t : Tree φ ν}

/-- The loops of the iterations on a stack are those on the path to which it leads. -/
theorem Leads.loops {stack : List (Frame φ)} {p : Path} (h : t.Leads stack p) :
    p.loops = ((iterations stack).map Prod.fst).reverse := by
  induction h with
  | nothing => rfl
  | @frame f rest below p leads works sees ih =>
      have started : ∀ id i, f.iteration? = some (id, i) →
          Path.loops (below ++ [.iteration id i])
            = ((iterations (f :: rest)).map Prod.fst).reverse := by
        intro id i started
        rw [Path.loops_append, ih, iterations_cons, started, Option.toList_some,
          List.singleton_append, List.map_cons, List.reverse_cons]
        rfl
      cases works with
      | items props index has =>
          exact (Path.loops_append _ _).trans ((List.append_nil _).trans ih)
      | contents props index has opens =>
          refine (Path.loops_append _ _).trans (Eq.trans ?_ ih)
          cases opens <;> exact List.append_nil _
      | loop props next has => exact started _ _ rfl
      | map props next has => exact started _ _ rfl
      | _ => exact ih

variable (t) in
/-- No loop stands within an iteration of a loop of the same id. -/
structure Apart : Prop where
  loop : ∀ {p : Path} {id : String} {body : Input φ} {options : LoopOptions φ},
    t.Has p (.action (.loop id body options)) → id ∉ p.loops
  map : ∀ {p : Path} {id : String} {count : Nat} {item : φ},
    t.Has p (.action (.map id count item)) → id ∉ p.loops

/-- Then a frame says nothing about the iterations that it is in. -/
theorem Apart.silent (apart : t.Apart) {f : Frame φ} {rest : List (Frame φ)} {w : World φ ν}
    {below p : Path} (leads : t.Leads rest below) (works : t.Works below f p) {id : String}
    {i : Nat} (mem : (id, i) ∈ iterations rest) : lastStatus? id (f.reports t.host w) = none := by
  have around : id ∈ below.loops := by
    rw [leads.loops, List.mem_reverse]
    exact List.mem_map.2 ⟨(id, i), mem, rfl⟩
  refine lastStatus?_eq_none fun e reported => ?_
  refine Decidable.byContradiction fun about => ?_
  obtain ⟨j, own⟩ := Frame.iteration?_of_reports reported about
  cases works with
  | loop props next has =>
      cases own
      exact apart.loop has around
  | map props next has =>
      cases own
      exact apart.map has around
  | _ => cases own

end Tree

/-- An input within loops of some ids, in which no loop has the id of a loop around it. -/
inductive Input.Apart : List String → Input φ → Prop where
  | null (ids : List String) : Input.Apart ids .null
  | number (ids : List String) (x : Binary) : Input.Apart ids (.number x)
  | text (ids : List String) (s : String) : Input.Apart ids (.text s)
  | stream (ids : List String) (cell : Nat) : Input.Apart ids (.stream cell)
  | function (ids : List String) (f : φ) : Input.Apart ids (.function f)
  | deferred (ids : List String) (d : Deferred φ) : Input.Apart ids (.deferred d)
  | list {ids : List String} {items : List (Input φ)} :
      (∀ i ∈ items, Input.Apart ids i) → Input.Apart ids (.list items)
  | template {ids : List String} {scope : Scope} {literals : List String}
      {slots : List (Slot φ)} : (∀ i, some i ∈ slots → Input.Apart ids i) →
      Input.Apart ids (.action (.template scope literals slots))
  | generate (ids : List String) (name : String) (options : GenerationOptions) :
      Input.Apart ids (.action (.generate name options))
  | loop {ids : List String} {id : String} {body : Input φ} {options : LoopOptions φ} :
      id ∉ ids → Input.Apart (ids ++ [id]) body →
      Input.Apart ids (.action (.loop id body options))
  | map {ids : List String} {id : String} (count : Nat) (item : φ) :
      id ∉ ids → Input.Apart ids (.action (.map id count item))
  | wait (ids : List String) (key : String) : Input.Apart ids (.action (.wait key))

/-- The loops of a tree stand apart if those of its input do, and author code adds none. -/
theorem Tree.apart_of_inputs {t : Tree φ ν} (input : t.input.Apart [])
    (calls : ∀ f props s ids, (t.host.call f props s).1.Apart ids)
    (items : ∀ item i s ids, (t.host.item item i s).1.Apart ids)
    (polls : ∀ future polls s i ids, (t.host.poll future polls s).1 = some (.ok i) → i.Apart ids)
    (futures : ∀ (cell : Nat) (i : Input φ) (ids : List String),
      t.world.futures[cell]? = some (.resolved (.ok i)) → i.Apart ids) : t.Apart := by
  have held : ∀ {p i}, t.Has p i → i.Apart p.loops := by
    intro p i has
    induction has with
    | root => exact input
    | @item p _ index _ _ found list =>
        have here : Path.loops (p ++ [.position index]) = p.loops :=
          (Path.loops_append _ _).trans (List.append_nil _)
        rw [here]
        cases list with
        | list apart => exact apart _ (List.mem_of_getElem? found)
    | @slot p _ place _ _ _ _ _ opens found template =>
        have here : Path.loops (p ++ place.toList) = p.loops := by
          refine (Path.loops_append _ _).trans ?_
          cases opens <;> exact List.append_nil _
        rw [here]
        cases template with
        | template apart => exact apart _ (List.mem_of_getElem? found)
    | body i _ loop =>
        rw [Path.loops_append]
        cases loop with
        | loop _ apart => exact apart
    | mapped s _ _ _ => exact items _ _ s _
    | returned props s _ _ _ => exact calls _ props s _
    | brought n s _ arrived _ => exact polls _ n s _ _ arrived
    | shared _ brings _ =>
        rcases brings with there | ⟨future, before, n, s, -, arrived⟩
        · exact futures _ _ _ there
        · exact polls future n s _ _ arrived
  refine ⟨fun has => ?_, fun has => ?_⟩
  · cases held has with
    | loop fresh _ => exact fresh
  · cases held has with
    | map _ _ fresh => exact fresh

/-! ## Runs -/

section Runs

variable {t : Tree φ ν}

variable (t) in
/-- What holds at every point of a run whose author code sets no loop. -/
structure Tree.Tracks (m : Run φ ν) : Prop where
  holds : t.Holds m
  reported : m.world.Reported
  fixes : FixesTop m.world.scene.state m.stack
  current : t.Apart → ∀ id i, (id, i) ∈ iterations m.stack.tail →
    m.world.scene.state.loopStatus? id = some (.iteration i)

theorem Tree.tracks_start (fresh : t.world.scene = {}) : t.Tracks t.run where
  holds := t.holds_start
  reported id := by
    change t.world.scene.state.loopStatus? id = lastStatus? id t.world.scene.events
    rw [fresh]
    rfl
  fixes := .guarded _ _ _
  current _ id i mem := nomatch mem

/-- What a step leaves below the top was there before or has just been announced. -/
theorem Frame.Does.mem_iterations_tail {host : Host φ ν} {rest : List (Frame φ)} {w : World φ ν}
    {f : Frame φ} {s : Step φ ν} (does : f.Does host rest w s) {n : String × Nat}
    (mem : n ∈ iterations s.stack.tail) :
    n ∈ iterations rest ∨ f.reports host w = [.loopIteration n.1 n.2] := by
  cases does with
  | more pushes _ => exact PromptStream.mem_iterations_tail pushes mem
  | pending pushes _ => exact PromptStream.mem_iterations_tail pushes mem
  | await => exact .inl mem
  | @deliver _ result pushed w' pushes _ =>
      have left := (deliver_stack_isLeftOf result (pushed ++ rest) w').tail
      exact PromptStream.mem_iterations_tail pushes (mem_iterations_of_isLeftOf left mem)

theorem reported_step {host : Host φ ν} (setsNone : host.SetsNoLoop) {m : Machine φ ν}
    (h : m.world.Reported) : (Machine.step host m).world.Reported :=
  h.changes setsNone (step_changes host m)

/-- A step of a tree whose loops stand apart keeps the statuses of the iterations that
are being produced: the frame on top reports nothing about them, and an iteration that is
new among them has just been reported. -/
theorem Tree.Apart.current_step (apart : t.Apart) (setsNone : t.host.SetsNoLoop) {f : Frame φ}
    {rest : List (Frame φ)} {w : World φ ν} {below p : Path} (leads : t.Leads rest below)
    (works : t.Works below f p) (reported : w.Reported)
    (current : ∀ id i, (id, i) ∈ iterations rest →
      w.scene.state.loopStatus? id = some (.iteration i)) :
    let s := Machine.step t.host ⟨f :: rest, w⟩
    ∀ id i, (id, i) ∈ iterations s.stack.tail →
      s.world.scene.state.loopStatus? id = some (.iteration i) := by
  intro s id i mem
  have later : s.world.Reported := reported_step setsNone reported
  have events : s.world.scene.events = w.scene.events ++ f.reports t.host w :=
    events_step t.host rest w f
  rw [later id, events, lastStatus?_append]
  rcases (step_does t.host rest w f).mem_iterations_tail mem with before | announced
  · rw [apart.silent leads works before, Option.none_or, ← reported id]
    exact current id i before
  · rw [announced]
    simp [lastStatus?, Event.status?]

theorem Tree.tracks_step (regular : t.Regular) (setsNone : t.host.SetsNoLoop) {m : Run φ ν}
    (h : t.Tracks m) :
    t.Tracks ⟨(Machine.step t.host m).stack, (Machine.step t.host m).world⟩ := by
  have keeps := Tree.step_keeps regular h.holds.leads h.holds.futures
  refine ⟨⟨keeps.leads, keeps.futures⟩, reported_step setsNone h.reported,
    fixesTop_step t.host h.fixes, fun apart => ?_⟩
  obtain ⟨stack, w⟩ := m
  cases stack with
  | nil => exact h.current apart
  | cons f rest =>
      obtain ⟨_, leads⟩ := h.holds.leads
      cases leads with
      | frame leads works _ =>
          exact apart.current_step setsNone leads works h.reported (h.current apart)

theorem Tree.Tracks.settle {s : Step φ ν} (h : t.Tracks ⟨s.stack, s.world⟩) :
    t.Tracks (Run.settle s).2 := by
  cases s with
  | item result m =>
      cases result with
      | ok e => exact ⟨⟨h.holds.leads, h.holds.futures⟩, h.reported, h.fixes, h.current⟩
      | error f => exact h
  | _ => exact h

/-- Outside writes that set no loop are no exception. -/
theorem Tree.Tracks.write {m : Run φ ν} (h : t.Tracks m) {x : Write ν}
    (setsNone : ∀ id status, x ≠ .setLoop id status) : t.Tracks (Run.write m x) := by
  have loops : (m.world.scene.write x).state.loops = m.world.scene.state.loops := by
    cases x with
    | setLoop id status => exact absurd rfl (setsNone id status)
    | _ => rfl
  refine ⟨⟨h.holds.leads, h.holds.futures⟩, ?_, h.fixes.of_loops loops, ?_⟩
  · exact h.reported.of_same loops (World.events_writeAll m.world [x])
  · intro apart id i mem
    exact (congrArg (Dict.find? id) loops).trans (h.current apart id i mem)

/-- In every run of a regular tree whose author code sets no loop. -/
theorem Tree.play_tracks (regular : t.Regular) (setsNone : t.host.SetsNoLoop)
    (fresh : t.world.scene = {}) {moves : List (Move ν)}
    (outside : ∀ id status, .write (.setLoop id status) ∉ moves) :
    t.Tracks (Run.play t.host moves t.run).2 := by
  refine Run.play_preserves t.Tracks ?_ ?_ (Tree.tracks_start fresh)
  · intro m h
    rw [Run.poll_one]
    exact (Tree.tracks_step regular setsNone h).settle
  · intro x mem m h
    refine h.write fun id status same => outside id status ?_
    rw [← same]
    exact mem

section Waits

variable {m : Run φ ν} {key : String} {props : Props} {index : Option Nat}
  {rest : List (Frame φ)}

/-- A wait is for the item of the iteration that its loop is in, also when it has asked
before. -/
theorem Tree.Tracks.waitIndex_eq (h : t.Tracks m)
    (top : m.stack = .waiting key props index :: rest) :
    waitIndex m.world props index
      = m.world.scene.state.currentIteration props.context.loopId := by
  cases index with
  | none => rfl
  | some i =>
      have fixes := h.fixes.top
      rw [top] at fixes
      exact fixes _ rfl props i rfl

/-- Its loop is that of the innermost iteration. -/
theorem Tree.Tracks.loopId_eq (h : t.Tracks m) (top : m.stack = .waiting key props index :: rest)
    {id : String} {i : Nat} (innermost : (iterations rest).head? = some (id, i)) :
    props.context.loopId = some id := by
  obtain ⟨p, leads⟩ := h.holds.leads
  rw [top] at leads
  cases leads with
  | @frame _ _ below _ leads works sees =>
      cases works with
      | waiting _ _ has =>
          have last : below.loop? = some id := by
            rw [Path.loop?_eq, leads.loops, List.getLast?_reverse, List.head?_map, innermost]
            rfl
          rw [(sees props rfl).loopId, last]
          rfl

end Waits

theorem RunState.currentIteration_some (s : RunState) (id : String) :
    s.currentIteration (some id)
      = match s.loopStatus? id with
        | some (.iteration i) => i
        | _ => 0 := rfl

theorem RunState.currentIteration_eq_iff (s : RunState) (id : String) (i : Nat) :
    s.currentIteration (some id) = i
      ↔ s.loopStatus? id = some (.iteration i)
        ∨ (i = 0 ∧ ∀ j, s.loopStatus? id ≠ some (.iteration j)) := by
  rw [currentIteration_some]
  match s.loopStatus? id with
  | none => simp [eq_comm]
  | some .notRunning => simp [eq_comm]
  | some (.iteration j) => simp

/-- At every point of every run of a tree whose author code sets no loop, an iteration
that is being produced is the status of its loop exactly if it was the last thing that was
reported about a loop of that id, and a wait is for the item of the innermost iteration
exactly then, or if that is the first one and no loop of that id is running.  If no loop
stands within an iteration of a loop of the same id, both hold for all iterations around
the node on top. -/
theorem status_of_iteration (t : Tree φ ν) (regular : t.Regular) (fresh : t.world.scene = {})
    (setsNone : t.host.SetsNoLoop) (moves : List (Move ν))
    (outside : ∀ id status, .write (.setLoop id status) ∉ moves) (f : Frame φ)
    (rest : List (Frame φ)) :
    let m := (Run.play t.host moves t.run).2
    m.stack = f :: rest →
      (∀ id i, (id, i) ∈ iterations rest →
        (m.world.scene.state.loopStatus? id = some (.iteration i)
          ↔ lastStatus? id m.world.scene.events = some (.iteration i)) ∧
        (t.Apart → m.world.scene.state.loopStatus? id = some (.iteration i))) ∧
      ∀ key props index, f = .waiting key props index →
        ∀ id i, (iterations rest).head? = some (id, i) →
          (waitIndex m.world props index = i
            ↔ lastStatus? id m.world.scene.events = some (.iteration i)
              ∨ (i = 0 ∧ ∀ j, lastStatus? id m.world.scene.events ≠ some (.iteration j))) ∧
          (t.Apart → waitIndex m.world props index = i) := by
  intro m top
  have tracks : t.Tracks m := Tree.play_tracks regular setsNone fresh outside
  have current : t.Apart → ∀ id i, (id, i) ∈ iterations rest →
      m.world.scene.state.loopStatus? id = some (.iteration i) := by
    have current := tracks.current
    rwa [top] at current
  refine ⟨fun id i mem => ⟨?_, fun apart => current apart id i mem⟩, ?_⟩
  · rw [tracks.reported id]
  · rintro key props index rfl id i innermost
    rw [tracks.waitIndex_eq top, tracks.loopId_eq top innermost, RunState.currentIteration_eq_iff,
      tracks.reported id]
    refine ⟨Iff.rfl, fun apart => .inl ?_⟩
    rw [← tracks.reported id]
    exact current apart id i (List.mem_of_mem_head? innermost)

/-- Loops of different ids in one another.  In the second iteration of the inner one a wait
has found nothing: it is for the second item, and both iterations are known. -/
theorem status_of_iteration_in_two_loops :
    let inner : Input Empty := .action (.loop "b" (.action (.wait "q")) {})
    let t : Tree Empty Empty := {
      host := .none
      input := .action (.loop "a" (.list [.text "x", inner]) {})
      props := { context := (default : Llm).context }
      world := {} }
    let m := (Run.play t.host
      [.write (.push "q" (.text "hi")), .poll 40, .poll 40, .poll 40] t.run).2
    t.Regular ∧ t.Apart ∧ ∃ props rest, m.stack = .waiting "q" props (some 1) :: rest ∧
      iterations rest = [("b", 1), ("a", 0)] ∧ waitIndex m.world props (some 1) = 1 ∧
      m.world.scene.state.loopStatus? "a" = some (.iteration 0) := by
  intro inner t m
  have regular : t.Regular := by
    refine Tree.regular_of_inputs ?_ nofun nofun nofun nofun
    refine .loop (.list fun i mem => ?_)
    simp only [List.mem_cons, List.not_mem_nil, or_false] at mem
    rcases mem with rfl | rfl
    · exact .text "x"
    · exact .loop (.wait "q")
  have apart : t.Apart := by
    refine Tree.apart_of_inputs ?_ nofun nofun nofun nofun
    refine .loop (by decide) (.list fun i mem => ?_)
    simp only [List.mem_cons, List.not_mem_nil, or_false] at mem
    rcases mem with rfl | rfl
    · exact .text _ "x"
    · exact .loop (by decide) (.wait _ "q")
  have setsNone : t.host.SetsNoLoop := fun _ _ => Host.none_asks _
  have outside : ∀ id status, .write (.setLoop id status) ∉
      ([.write (.push "q" (.text "hi")), .poll 40, .poll 40, .poll 40] : List (Move Empty)) := by
    intro id status mem
    simp at mem
  have seen : ∃ props rest, m.stack = .waiting "q" props (some 1) :: rest ∧
      iterations rest = [("b", 1), ("a", 0)] := ⟨_, _, rfl, rfl⟩
  obtain ⟨props, rest, top, around⟩ := seen
  obtain ⟨statuses, waits⟩ :=
    status_of_iteration t regular rfl setsNone _ outside _ rest top
  refine ⟨regular, apart, props, rest, top, around, ?_, ?_⟩
  · exact (waits "q" props (some 1) rfl "b" 1 (by rw [around]; rfl)).2 apart
  · exact (statuses "a" 0 (by rw [around]; decide)).2 apart

/-- A loop in an iteration of a loop of the same id.  Once the inner loop has ended, the
second iteration of the outer one is no longer the status of that id, and a wait there is
for the first item again. -/
theorem status_lost_by_inner_loop :
    let inner : Input Empty := .action (.loop "l" .null { maxIterations := some 1 })
    let t : Tree Empty Empty := {
      host := .none
      input := .action
        (.loop "l" (.list [inner, .action (.wait "q")]) { maxIterations := some 2 })
      props := { context := (default : Llm).context }
      world := {} }
    let m := (Run.play t.host
      [.write (.push "q" (.text "a")), .write (.push "q" (.text "b")), .poll 40, .poll 14] t.run).2
    ∃ props rest, m.stack = .waiting "q" props none :: rest ∧ iterations rest = [("l", 1)] ∧
      m.world.scene.state.loopStatus? "l" = some .notRunning ∧
      waitIndex m.world props none = 0 :=
  ⟨_, _, rfl, rfl, rfl, rfl⟩

end Runs

end PromptStream
