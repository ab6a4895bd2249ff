import PromptStream.Proofs.Engine.WholeTree
import PromptStream.Proofs.Engine.Wrap
import PromptStream.Proofs.Text.LineEndings

/-!
# Line endings of a template

A template hands out the same literals however the lines of its source end
(`literalPart_dosLines`).  What it tells its slots is not the same: a slot hears the literal that
follows it as it is before it is emitted, and there the line endings can still be told apart.
So a position comes to the same exactly if its slot does, and a template whose slots do not mind
hands out the same altogether (`template_dosLines`).

A slot minds only if it asks: a generation that is to stop at the next literal, alone or in
lists and loops, and author code, which sees the props (`Input.Heedless`).  Such a generation can
go on over a line end that is emitted after it (`template_minds_line_endings`).
-/

namespace PromptStream

variable {φ ν : Type}

open Resolution

/-! ## Inputs that do not ask for the next literal -/

/-- An input that does the same before two literals.  A template tells its slots literals of its
own, and a generation asks only for its stop. -/
inductive Input.Heedless (host : Host φ ν) (a b : Option String) : Input φ → Prop where
  | null : Heedless host a b .null
  | number (x : Binary) : Heedless host a b (.number x)
  | text (s : String) : Heedless host a b (.text s)
  | stream (cell : Nat) : Heedless host a b (.stream cell)
  | list {items : List (Input φ)} :
      (∀ i ∈ items, Heedless host a b i) → Heedless host a b (.list items)
  | template (scope : Scope) (literals : List String) (slots : List (Slot φ)) :
      Heedless host a b (.action (.template scope literals slots))
  | generate (name : String) {options : GenerationOptions} :
      options.effectiveStop a = options.effectiveStop b →
      Heedless host a b (.action (.generate name options))
  | loop (id : String) {body : Input φ} {options : LoopOptions φ} :
      options.until? = none → Heedless host a b body →
      Heedless host a b (.action (.loop id body options))
  | map (id : String) (count : Nat) {item : φ} :
      (∀ i s, Heedless host a b (host.item item i s).1) →
      Heedless host a b (.action (.map id count item))
  | wait (key : String) : Heedless host a b (.action (.wait key))

section Heedless

variable {host : Host φ ν} {c : Consumer φ ν} {again : Resolver φ ν} {a b : Option String}

theorem resolveGeneration_congr {p p' : Props} (context : p.context = p'.context)
    (g : Generation) (signals : Feed Delta) (w : World φ ν) :
    resolveGeneration c p g signals w = resolveGeneration c p' g signals w := by
  have fresh : ∀ s, freshPart c p s = freshPart (φ := φ) (ν := ν) c p' s := by
    intro s
    unfold freshPart
    rw [context]
  have heard : ∀ s g (w : World φ ν), heardDelta s g p w = heardDelta s g p' w := by
    intro s g w
    unfold heardDelta recordGeneration
    rw [context]
  induction signals generalizing g w with
  | nil =>
      rw [resolveGeneration.eq_def, resolveGeneration.eq_def c p']
      simp only [fresh, heard]
  | cons signal more ih =>
      rw [resolveGeneration.eq_def, resolveGeneration.eq_def c p']
      cases signal <;> simp only [fresh, heard, funext (ih _), ih]

theorem resolveWait_withNextLiteral (key : String) (props : Props) (fuel : Nat)
    (index : Option Nat) (w : World φ ν) :
    resolveWait c key (props.withNextLiteral a) fuel index w
      = resolveWait c key (props.withNextLiteral b) fuel index w := by
  induction fuel generalizing index w with
  | zero => rfl
  | succ fuel ih =>
      simp only [resolveWait, ih]
      rfl

/-- Whether a way of resolving inputs makes no difference between two literals. -/
def Indifferent (host : Host φ ν) (a b : Option String) (again : Resolver φ ν) : Prop :=
  ∀ i : Input φ, i.Heedless host a b → ∀ props : Props,
    again i (props.withNextLiteral a) = again i (props.withNextLiteral b)

namespace Indifferent

variable (same : Indifferent host a b again)

include same

theorem loop (props : Props) (id : String) {body : Input φ} (heedless : body.Heedless host a b)
    {options : LoopOptions φ} (unasked : options.until? = none) (fuel i : Nat) (w : World φ ν) :
    resolveLoop host again (props.withNextLiteral a) id body options fuel i w
      = resolveLoop host again (props.withNextLiteral b) id body options fuel i w := by
  have bodies : ∀ i, iterationPart again (props.withNextLiteral a) id i body
      = iterationPart again (props.withNextLiteral b) id i body := fun i =>
    congrFun (same body heedless (iterationProps props id i)) .constant
  have ends : ∀ (p : Props) i (w : World φ ν), loopEnds host p options i w
      = (options.maxIterations.any (· ≤ i), w) := by
    intro p i w
    unfold loopEnds
    rw [unasked]
    split
    next bound => rw [bound]
    next other => rw [Bool.eq_false_iff.2 other]
  induction fuel generalizing i w with
  | zero => rfl
  | succ fuel ih => simp only [resolveLoop, ends, bodies, funext (ih _)]

theorem map (props : Props) (id : String) {item : φ}
    (heedless : ∀ i s, (host.item item i s).1.Heedless host a b) (i : Nat) :
    mapPart host again (props.withNextLiteral a) id item i
      = mapPart host again (props.withNextLiteral b) id item i :=
  funext fun w => congrFun
    (congrFun (same _ (heedless i (enterIteration w id i).scene) (iterationProps props id i)) _) _

theorem parts (fuel : Nat) : Indifferent host a b (resolveParts host c again fuel) := by
  intro i heedless props
  funext source w
  cases heedless with
  | null => rfl
  | number x => rfl
  | text s => rfl
  | stream cell => rfl
  | @list items each =>
      refine congrFun (congrArg inOrder (List.map_congr_left fun (i, index) mem => ?_)) w
      exact congrFun (same i (each i (List.fst_mem_of_mem_zipIdx mem)) (props.descend index)) _
  | template scope literals slots => rfl
  | @generate name options stop =>
      have context : (props.withNextLiteral a).context = (props.withNextLiteral b).context := rfl
      have fresh : freshGeneration name options (props.withNextLiteral a)
          = freshGeneration name options (props.withNextLiteral b) :=
        congrArg (Generation.fresh name) stop
      simp only [resolveParts, resolveAction]
      rw [askConnector_congr name context stop w, resolveGeneration_congr context, fresh]
  | loop id unasked body => exact same.loop props id body unasked fuel 0 w
  | @map id count item bodies =>
      simp only [resolveParts, resolveAction, funext (same.map props id bodies)]
  | wait key => exact resolveWait_withNextLiteral key props fuel none w

end Indifferent

/-- Whether an input in a slot comes to the same before two literals. -/
def Input.SameBefore (host : Host φ ν) (c : Consumer φ ν) (props : Props) (a b : Option String)
    (i : Input φ) : Prop :=
  ∀ n w, resolve host c n i (props.withNextLiteral a) .constant w
    = resolve host c n i (props.withNextLiteral b) .constant w

theorem Input.Heedless.sameBefore {i : Input φ} (heedless : i.Heedless host a b) (props : Props) :
    i.SameBefore host c props a b := by
  intro n w
  have same : Indifferent host a b (resolve host c n) := by
    induction n with
    | zero => exact fun _ _ _ => rfl
    | succ n ih => exact ih.parts n
  rw [same i heedless props]

end Heedless

/-! ## Machines that hand out the same -/

/-- Two machines that hand out the same and come to the same end, though perhaps not in the same
number of steps. -/
structure HandsOutAlike (c : Consumer φ ν) (host : Host φ ν) (m m' : Machine φ ν) : Prop where
  left : ∀ n, ∃ n', (c.drain host n m).1 <+: (c.drain host n' m').1
  right : ∀ n, ∃ n', (c.drain host n m').1 <+: (c.drain host n' m).1
  ended : ∀ (items : List Element) (w : World φ ν),
    (∃ n, c.drain host n m = (items.map .ok, ⟨[], w⟩)) ↔
      ∃ n, c.drain host n m' = (items.map .ok, ⟨[], w⟩)

theorem DrainsAs.alike {c : Consumer φ ν} {host : Host φ ν} {m m' : Machine φ ν}
    {whole : Nat → Resolution φ ν} (h : DrainsAs c host m whole) (h' : DrainsAs c host m' whole) :
    HandsOutAlike c host m m' where
  left n := by
    obtain ⟨n', handed, -⟩ := h'.reached n
    exact ⟨n', handed ▸ h.stem n⟩
  right n := by
    obtain ⟨n', handed, -⟩ := h.reached n
    exact ⟨n', handed ▸ h'.stem n⟩
  ended items w := (h.ended items w).symm.trans (h'.ended items w)

/-! ## Templates -/

/-- A literal is emitted, or not, as if its lines ended in newlines alone. -/
theorem literalPart_dosLines (c : Consumer φ ν) (props : Props) {s : String}
    (plain : '\r' ∉ s.toList) (w : World φ ν) :
    literalPart c props (some (normalizeLiteral (dosLines s))) w
      = literalPart c props (some (normalizeLiteral s)) w := by
  have emitted : Element.stored ⟨normalizeLiteral (dosLines s), .prompt, props.context.role⟩
      = Element.stored ⟨normalizeLiteral s, .prompt, props.context.role⟩ :=
    congrArg (Element.mk · _ _) (unixLines_normalizeLiteral_dosLines plain)
  rw [literalPart, literalPart, isEmpty_normalizeLiteral_dosLines, emitted]

theorem literalPart_ended (c : Consumer φ ν) (props : Props) (literal : Option String)
    (w : World φ ν) : ∃ items v, literalPart c props literal w = ⟨items, .ended v⟩ := by
  unfold literalPart
  split
  · split
    · exact ⟨_, _, rfl⟩
    · exact ⟨_, _, rfl⟩
  · exact ⟨_, _, rfl⟩

/-- What comes before is the same, so what comes next makes the difference. -/
theorem Resolution.andThen_left_inj {items : List Element} {v : World φ ν}
    {next next' : World φ ν → Resolution φ ν} :
    andThen ⟨items, .ended v⟩ next = andThen ⟨items, .ended v⟩ next' ↔ next v = next' v := by
  constructor
  · intro same
    obtain ⟨same, ends⟩ := Resolution.mk.inj same
    exact congrArg₂ Resolution.mk ((List.append_right_inj items).1 same) ends
  · intro same
    simp only [andThen, same]

theorem drainsAs_resolve (c : Consumer φ ν) (host : Host φ ν) (i : Input φ) (props : Props)
    (w : World φ ν) : DrainsAs c host ⟨Frame.guarded i props, w⟩
      (fun n => resolve host c n i props .constant w) :=
  .of_follows fun n => faithful_resolve c host n i props false [.guard false] w rfl

section Template

variable {literals : List String} (plain : ∀ s ∈ literals, '\r' ∉ s.toList) (host : Host φ ν)
  (c : Consumer φ ν) (slots : List (Slot φ)) (props : Props)

include plain

theorem literalPart_getElem?_dosLines (i : Nat) (w : World φ ν) :
    literalPart c props ((literals.map dosLines).map normalizeLiteral)[i]? w
      = literalPart c props (literals.map normalizeLiteral)[i]? w := by
  rw [List.getElem?_map, List.getElem?_map, List.getElem?_map]
  cases found : literals[i]? with
  | none => rfl
  | some s => exact literalPart_dosLines c props (plain s (List.mem_of_getElem? found)) w

/-- A position comes to the same exactly if its slot does, once its literal is emitted. -/
theorem templatePart_dosLines_iff (again : Resolver φ ν) (i : Nat) (w : World φ ν) :
    let unix := literals.map normalizeLiteral
    let dos := (literals.map dosLines).map normalizeLiteral
    ∃ items v, literalPart c props dos[i]? w = ⟨items, .ended v⟩ ∧
      literalPart c props unix[i]? w = ⟨items, .ended v⟩ ∧
      (templatePart c again props dos slots i w = templatePart c again props unix slots i w ↔
        slotPart again props slots[i]?.join dos[i + 1]? v
          = slotPart again props slots[i]?.join unix[i + 1]? v) := by
  intro unix dos
  have emitted := literalPart_getElem?_dosLines plain c props i w
  obtain ⟨items, v, ended⟩ := literalPart_ended c props unix[i]? w
  refine ⟨items, v, emitted.trans ended, ended, ?_⟩
  rw [templatePart, templatePart, emitted, ended, andThen_left_inj]

theorem resolve_template_dosLines (scope : Scope)
    (same : ∀ (i : Nat) (input : Input φ), slots[i]? = some (some input) →
      input.SameBefore host c (props.fork (scope props.context))
        ((literals.map dosLines).map normalizeLiteral)[i + 1]?
        (literals.map normalizeLiteral)[i + 1]?) (n : Nat) (w : World φ ν) :
    resolve host c n (.action (scope.template (literals.map dosLines) slots)) props .constant w
      = resolve host c n (.action (scope.template literals slots)) props .constant w := by
  cases n with
  | zero => rfl
  | succ n =>
      refine congrFun (congrArg inOrder ?_) w
      rw [List.length_map, List.length_map, List.length_map]
      refine List.map_congr_left fun i _ => funext fun w => ?_
      obtain ⟨items, v, -, -, iff⟩ := templatePart_dosLines_iff plain c slots
        (props.fork (scope props.context)) (resolve host c n) i w
      refine iff.2 ?_
      match found : slots[i]? with
      | none => rfl
      | some none => rfl
      | some (some input) => exact same i input found n v

/-- A template that is written with either line endings.

Each literal is emitted with the same content, or not at all, whichever it has.  A position comes
to the same exactly if its slot does from the world that the literal leaves; the slot is told the
literal after it with the line endings it is written with.  A slot that does not ask for that
literal does, and if all slots do, the template hands out the same and comes to the same end. -/
theorem template_line_endings (scope : Scope) :
    let inner := props.fork (scope props.context)
    let unix := literals.map normalizeLiteral
    let dos := (literals.map dosLines).map normalizeLiteral
    (∀ s ∈ literals,
      (normalizeLiteral (dosLines s)).isEmpty = (normalizeLiteral s).isEmpty ∧
      ∀ role, Element.stored ⟨normalizeLiteral (dosLines s), .prompt, role⟩
        = Element.stored ⟨normalizeLiteral s, .prompt, role⟩) ∧
    (∀ n i w, ∃ items v,
      literalPart c inner dos[i]? w = ⟨items, .ended v⟩ ∧
      literalPart c inner unix[i]? w = ⟨items, .ended v⟩ ∧
      (templatePart c (resolve host c n) inner dos slots i w
          = templatePart c (resolve host c n) inner unix slots i w ↔
        slotPart (resolve host c n) inner slots[i]?.join dos[i + 1]? v
          = slotPart (resolve host c n) inner slots[i]?.join unix[i + 1]? v)) ∧
    (∀ (i : Nat) (input : Input φ), slots[i]? = some (some input) →
      input.Heedless host dos[i + 1]? unix[i + 1]? →
        input.SameBefore host c inner dos[i + 1]? unix[i + 1]?) ∧
    ((∀ (i : Nat) (input : Input φ), slots[i]? = some (some input) →
        input.SameBefore host c inner dos[i + 1]? unix[i + 1]?) →
      ∀ w, HandsOutAlike c host
        ⟨Frame.guarded (.action (scope.template (literals.map dosLines) slots)) props, w⟩
        ⟨Frame.guarded (.action (scope.template literals slots)) props, w⟩) := by
  intro inner unix dos
  refine ⟨fun s mem => ⟨isEmpty_normalizeLiteral_dosLines s, fun role => ?_⟩,
    fun n => templatePart_dosLines_iff plain c slots inner (resolve host c n),
    fun i input _ heedless => heedless.sameBefore inner, fun same w => ?_⟩
  · exact congrArg (Element.mk · _ _) (unixLines_normalizeLiteral_dosLines (plain s mem))
  · refine (drainsAs_resolve c host _ props w).alike ?_
    rw [funext fun n => resolve_template_dosLines plain host c slots props scope same n w]
    exact drainsAs_resolve c host _ props w

end Template

/-- A generation that goes on to the end does not mind how the literal after it is written. -/
theorem template_line_endings_of_unasked :
    let literals := ["Name:", "\n  Age:\n"]
    let speak : Input Empty := .action (.generate "name" {})
    let props : Props := { context := (default : Llm).context }
    let w : World Empty Empty := { connectors := [.scripted [[⟨0, "Ann\nAge: 4"⟩]]] }
    let start (literals : List String) : Machine Empty Empty :=
      ⟨Frame.guarded (.action ((Scope.ofRole .user).template literals [some speak])) props, w⟩
    (literals.map dosLines).map normalizeLiteral = ["Name:", "\r\nAge:\r\n"] ∧
      HandsOutAlike .recorder Host.none (start (literals.map dosLines)) (start literals) := by
  intro literals speak props w start
  have plain : ∀ s ∈ literals, '\r' ∉ s.toList := by decide +kernel
  obtain ⟨-, -, unasked, alike⟩ := template_line_endings plain Host.none .recorder [some speak]
    props (Scope.ofRole .user)
  refine ⟨by decide +kernel, alike (fun i input found => unasked i input found ?_) w⟩
  match i, found with
  | 0, rfl =>
      have unheard : ∀ next, GenerationOptions.effectiveStop {} none
          = GenerationOptions.effectiveStop {} next := fun _ =>
        GenerationOptions.effectiveStop_of_unheard fun asked => absurd asked Bool.false_ne_true
      exact .generate "name" ((unheard _).symm.trans (unheard _))

/-- A generation that is to stop before a literal goes on over it where its lines end in a
carriage return and a newline. -/
theorem template_minds_line_endings :
    let literals := ["Name:", "\nAge:"]
    let speak : Slot Empty := some (.action (.generate "name" { stopAtNextLiteral := true }))
    let w : World Empty Empty := { connectors := [.scripted [[⟨0, "Ann\nAge: 4"⟩]]] }
    let answers (literals : List String) := (Run.polls Host.none (List.replicate 5 9)
      (Run.start default (.action ((Scope.ofRole .user).template literals [speak])) .null w)).1
    answers literals = [.element ⟨"Name:", .prompt, .user⟩, .element ⟨"Ann", .llm, .user⟩,
        .element ⟨"\nAge:", .prompt, .user⟩, .ended, .ended] ∧
      answers (literals.map dosLines) = [.element ⟨"Name:", .prompt, .user⟩,
        .element ⟨"Ann\n", .llm, .user⟩, .element ⟨"Age: 4", .llm, .user⟩,
        .element ⟨"\nAge:", .prompt, .user⟩, .ended] := by
  decide +kernel

end PromptStream
