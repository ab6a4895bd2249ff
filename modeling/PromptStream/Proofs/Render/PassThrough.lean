import PromptStream.Proofs.Render.FullText

/-!
# Rendering passes through

A source yields elements, poll after poll, and fails or comes to an end (`Yields`); in
between it may have nothing yet.  A renderer that is asked often enough hands the elements on
as they are, and its sink keeps the full text, or as much of it as it holds
(`render_passes_through`).  Where the sink is full, the transcript is cut: the element whose
text does not fit is replaced by a failure, and the source is left where the poll for that
element has brought it (`PolledFor`).
-/

namespace PromptStream

variable {σ : Type}

/-! ## Sources -/

/-- An answer that is no answer yet. -/
def Poll.Waits (answer : Poll) : Prop := answer = .pending ∨ answer = .unanswered

/-- What a source yields, poll after poll: its elements, and the failure that ends it if there
is one. -/
inductive Yields (next : σ → Poll × σ) : σ → List Element → Option Fault → Prop where
  | ended {s : σ} : (next s).1 = .ended → Yields next s [] none
  | failed {s : σ} {f : Fault} : (next s).1 = .failed f → Yields next s [] (some f)
  | element {s : σ} {e : Element} {more : List Element} {ending : Option Fault} :
      (next s).1 = .element e → Yields next (next s).2 more ending →
      Yields next s (e :: more) ending
  | waits {s : σ} {more : List Element} {ending : Option Fault} :
      (next s).1.Waits → Yields next (next s).2 more ending → Yields next s more ending

/-- What a source has come to when it has been polled for one element more than a number of
them, or for its end if there are no more. -/
inductive PolledFor (next : σ → Poll × σ) : Nat → σ → σ → Prop where
  | ended {count : Nat} {s : σ} : (next s).1 = .ended → PolledFor next count s (next s).2
  | failed {count : Nat} {s : σ} {f : Fault} :
      (next s).1 = .failed f → PolledFor next count s (next s).2
  | last {s : σ} {e : Element} : (next s).1 = .element e → PolledFor next 0 s (next s).2
  | element {count : Nat} {s s' : σ} {e : Element} :
      (next s).1 = .element e → PolledFor next count (next s).2 s' →
      PolledFor next (count + 1) s s'
  | waits {count : Nat} {s s' : σ} :
      (next s).1.Waits → PolledFor next count (next s).2 s' → PolledFor next count s s'

/-! ## Visits -/

/-- A consumer that comes back some times, each time for at most so many polls: what it gets,
the transcript and the source. -/
def renderVisits (next : σ → Poll × σ) :
    List Nat → Renderer → σ → List (Except Fault Element) × Renderer × σ
  | [], r, s => ([], r, s)
  | rounds :: more, r, s =>
      let first := renderAll next rounds r s
      let later := renderVisits next more first.2.2.1 first.2.2.2
      (first.1 ++ later.1, later.2)

section Visits

variable {next : σ → Poll × σ} {r : Renderer} {s : σ}

/-- Once it has ended, a transcript is answered with the end, and nothing is asked of the
source. -/
theorem renderAll_of_done (done : r.done = true) (n : Nat) :
    renderAll next (n + 1) r s = ([], .ended, r, s) := by
  rw [renderAll, if_pos done]

theorem renderVisits_of_done (done : r.done = true) (visits : List Nat) :
    renderVisits next visits r s = ([], r, s) := by
  induction visits with
  | nil => rfl
  | cons n more ih =>
      cases n with
      | zero =>
          rw [renderVisits, renderAll]
          exact ih
      | succ n =>
          rw [renderVisits, renderAll_of_done done]
          exact ih

/-- A poll of the source, as it is passed on. -/
theorem renderVisits_succ (goesOn : r.done = false) (n : Nat) (more : List Nat) :
    renderVisits next ((n + 1) :: more) r s
      = match r.pass (next s).1 with
        | (.element e, r) =>
            let later := renderVisits next (n :: more) r (next s).2
            (.ok e :: later.1, later.2)
        | (.failed f, r) =>
            let later := renderVisits next (n :: more) r (next s).2
            (.error f :: later.1, later.2)
        | (_, r) => renderVisits next more r (next s).2 := by
  rw [renderVisits, renderAll, if_neg (ne_true_of_eq_false goesOn)]
  obtain ⟨answer, s'⟩ := next s
  rcases passed : r.pass answer with ⟨_ | _ | _ | _ | _, r'⟩ <;> simp only [passed] <;> rfl

end Visits

/-! ## Transcripts -/

/-- How a transcript comes to its end that still has some elements to pass: `count` of them fit
and are handed on, with what comes last after them, and its sink keeps what it can of their full
text. -/
structure Renders (next : σ → Poll × σ) (r : Renderer) (previous : Option Role) (s : σ)
    (elements : List Element) (ending : Option Fault) (count : Nat)
    (last : List (Except Fault Element))
    (out : List (Except Fault Element) × Renderer × σ) : Prop where
  done : out.2.1.done = true
  written : out.2.1.sink.written = r.sink.keep
    (r.sink.written ++ Utf8.encode (fullText r.options previous elements ending))
  le : count ≤ elements.length
  fitting : ∀ i < elements.length, i < count ↔ r.sink.Holds
    (r.sink.written ++ Utf8.encode (elementsText r.options previous (elements.take (i + 1))))
  items : out.1 = (elements.take count).map .ok ++ last
  polled : PolledFor next count s out.2.2
  whole : r.sink.Holds
      (r.sink.written ++ Utf8.encode (fullText r.options previous elements ending)) →
    count = elements.length ∧ last = ending.toList.map .error
  cut : ¬ r.sink.Holds
      (r.sink.written ++ Utf8.encode (fullText r.options previous elements ending)) →
    last = [.error (Renderer.failure r.sink.fullReason)]

namespace Renders

variable {next : σ → Poll × σ} {r r' : Renderer} {previous : Option Role} {s s' : σ}
  {elements : List Element} {ending : Option Fault} {count : Nat}
  {last : List (Except Fault Element)} {out : List (Except Fault Element) × Renderer × σ}

/-- The end of a source, and what becomes of it. -/
theorem nil (done : r'.done = true)
    (sink : r'.sink = r.sink.containing (r.sink.keep
      (r.sink.written ++ Utf8.encode (fullText r.options previous [] ending))))
    (polled : PolledFor next 0 s s')
    (whole : r.sink.Holds
        (r.sink.written ++ Utf8.encode (fullText r.options previous [] ending)) →
      last = ending.toList.map .error)
    (cut : ¬ r.sink.Holds
        (r.sink.written ++ Utf8.encode (fullText r.options previous [] ending)) →
      last = [.error (Renderer.failure r.sink.fullReason)]) :
    Renders next r previous s [] ending 0 last (last, r', s') where
  done := done
  written := congrArg Sink.written sink
  le := Nat.le_refl 0
  fitting i less := absurd less (Nat.not_lt_zero i)
  items := rfl
  polled := polled
  whole holds := ⟨rfl, whole holds⟩
  cut := cut

/-- An element that fits is handed on. -/
theorem element {e : Element} (answer : (next s).1 = .element e)
    (fits : r.sink.Holds (r.sink.written ++ Utf8.encode (elementText r.options previous e)))
    (goesOn : r.GoesOn e.role
      (r.sink.written ++ Utf8.encode (elementText r.options previous e)) r')
    (h : Renders next r' (some e.role) (next s).2 elements ending count last out) :
    Renders next r previous s (e :: elements) ending (count + 1) last
      (.ok e :: out.1, out.2) := by
  obtain ⟨options, _, role, done⟩ := r'
  obtain ⟨-, rfl, rfl⟩ := goesOn
  have more : ∀ i, r.sink.written
      ++ Utf8.encode (elementsText r.options previous ((e :: elements).take (i + 1)))
      = r.sink.written ++ Utf8.encode (elementText r.options previous e)
        ++ Utf8.encode (elementsText r.options (some e.role) (elements.take i)) :=
    fun i => Utf8.append_encode_append _ _ _
  refine ⟨h.done, ?_, Nat.succ_le_succ h.le, fun i less => ?_, ?_, .element answer h.polled,
    ?_, ?_⟩
  · rw [fullText_cons, Utf8.append_encode_append]
    exact h.written
  · rw [more]
    cases i with
    | zero =>
        rw [List.take_zero, elementsText, Utf8.encode_empty, List.append_nil]
        exact iff_of_true (Nat.zero_lt_succ count) fits
    | succ i => exact Nat.succ_lt_succ_iff.trans (h.fitting i (Nat.lt_of_succ_lt_succ less))
  · rw [h.items]
    rfl
  · rw [fullText_cons, Utf8.append_encode_append]
    exact fun holds => ⟨congrArg Nat.succ (h.whole holds).1, (h.whole holds).2⟩
  · rw [fullText_cons, Utf8.append_encode_append]
    exact h.cut

/-- Where the source has nothing yet, the transcript stays as it is. -/
theorem waits (answer : (next s).1.Waits)
    (h : Renders next r previous (next s).2 elements ending count last out) :
    Renders next r previous s elements ending count last out :=
  { h with polled := .waits answer h.polled }

/-- An element that does not fit cuts the transcript. -/
theorem of_not_holds {e : Element} (answer : (next s).1 = .element e)
    (full : ¬ r.sink.Holds (r.sink.written ++ Utf8.encode (elementText r.options previous e)))
    (done : r'.done = true)
    (sink : r'.sink = r.sink.containing (r.sink.keep
      (r.sink.written ++ Utf8.encode (elementText r.options previous e)))) :
    Renders next r previous s (e :: elements) ending 0
      [.error (Renderer.failure r.sink.fullReason)]
      ([.error (Renderer.failure r.sink.fullReason)], r', (next s).2) := by
  refine ⟨done, ?_, Nat.zero_le _, fun i _ => ?_, rfl, .last answer, ?_, fun _ => rfl⟩
  · rw [fullText_cons, Utf8.append_encode_append, Sink.keep_append_of_not_holds full, sink]
    rfl
  · rw [List.take_succ_cons, elementsText, Utf8.append_encode_append]
    exact iff_of_false (Nat.not_lt_zero i) fun holds => full holds.of_append
  · rw [fullText_cons, Utf8.append_encode_append]
    exact fun holds => absurd holds.of_append full

end Renders

/-- However it stands, a transcript comes to its end if its consumer comes back so often after
the visit that it is in. -/
def RendersWithin (next : σ → Poll × σ) (s : σ) (elements : List Element)
    (ending : Option Fault) (enough : Nat) : Prop :=
  ∀ (r : Renderer) (previous : Option Role), r.Running previous →
    ∀ (n : Nat) (more : List Nat), (∀ n ∈ more, 0 < n) → enough ≤ more.length →
      ∃ count last, Renders next r previous s elements ending count last
        (renderVisits next (n :: more) r s)

namespace RendersWithin

variable {next : σ → Poll × σ} {s : σ} {e : Element} {elements : List Element}
  {ending : Option Fault} {enough : Nat}

/-- It is enough to know of a visit that polls the source. -/
theorem of_succ (h : ∀ (r : Renderer) (previous : Option Role), r.Running previous →
      ∀ (n : Nat) (more : List Nat), (∀ n ∈ more, 0 < n) → enough ≤ more.length →
        ∃ count last, Renders next r previous s elements ending count last
          (renderVisits next ((n + 1) :: more) r s)) :
    RendersWithin next s elements ending (enough + 1) := by
  intro r previous running n more positive left
  cases n with
  | succ n => exact h r previous running n more positive (Nat.le_of_succ_le left)
  | zero =>
      cases more with
      | nil => cases left
      | cons m more =>
          obtain ⟨n, rfl⟩ := Nat.exists_eq_succ_of_ne_zero
            (Nat.ne_of_gt (positive m List.mem_cons_self))
          have visits : renderVisits next (0 :: (n + 1) :: more) r s
              = renderVisits next ((n + 1) :: more) r s := by
            rw [renderVisits, renderAll]
            rfl
          rw [visits]
          exact h r previous running n more
            (fun n mem => positive n (List.mem_cons_of_mem _ mem)) (Nat.le_of_succ_le_succ left)

theorem ended (answer : (next s).1 = .ended) : RendersWithin next s [] none 1 := by
  refine of_succ fun r previous running n more _ _ => ?_
  have rule : fullText r.options previous [] none = closingRule := fullText_nil _ _ none
  rw [renderVisits_succ running.goesOn, answer]
  by_cases fits : r.sink.Holds (r.sink.written ++ Utf8.encode closingRule)
  · rw [running.pass_ended_of_holds fits]
    dsimp only
    rw [renderVisits_of_done rfl]
    refine ⟨0, _, .nil rfl ?_ (.ended answer) (fun _ => rfl) ?_⟩
    · rw [rule, Sink.keep_of_holds fits]
    · rw [rule]
      exact fun full => absurd fits full
  · rw [running.pass_ended_of_not_holds fits]
    dsimp only
    rw [renderVisits_of_done rfl]
    refine ⟨0, _, .nil rfl ?_ (.ended answer) ?_ (fun _ => rfl)⟩
    · rw [rule]
    · rw [rule]
      exact fun holds => absurd holds fits

theorem failed {f : Fault} (answer : (next s).1 = .failed f) :
    RendersWithin next s [] (some f) 1 := by
  refine of_succ fun r previous running n more _ _ => ?_
  -- After a failure there is no rule, so there is room for all that is left to say.
  have nothing : r.sink.written ++ Utf8.encode (fullText r.options previous [] (some f))
      = r.sink.written := by
    rw [fullText_nil]
    exact (congrArg _ Utf8.encode_empty).trans (List.append_nil _)
  rw [renderVisits_succ running.goesOn, answer, Renderer.pass]
  dsimp only
  rw [renderVisits_of_done rfl]
  refine ⟨0, _, .nil rfl ?_ (.failed answer) (fun _ => rfl) ?_⟩
  · rw [nothing, Sink.keep_of_holds running.holds]
    rfl
  · rw [nothing]
    exact fun full => absurd running.holds full

theorem element (answer : (next s).1 = .element e)
    (h : RendersWithin next (next s).2 elements ending enough) :
    RendersWithin next s (e :: elements) ending (enough + 1) := by
  refine of_succ fun r previous running n more positive left => ?_
  rw [renderVisits_succ running.goesOn, answer]
  by_cases fits : r.sink.Holds
      (r.sink.written ++ Utf8.encode (elementText r.options previous e))
  · obtain ⟨r', passed, goesOn⟩ := running.pass_element_of_holds fits
    obtain ⟨count, last, renders⟩ := h r' _ goesOn.running n more positive left
    rw [passed]
    exact ⟨count + 1, last, renders.element answer fits goesOn⟩
  · obtain ⟨r', passed, done, sink⟩ := running.pass_element_of_not_holds fits
    rw [passed]
    dsimp only
    rw [renderVisits_of_done done]
    exact ⟨0, _, .of_not_holds answer fits done sink⟩

theorem waits (answer : (next s).1.Waits)
    (h : RendersWithin next (next s).2 elements ending enough) :
    RendersWithin next s elements ending (enough + 1) := by
  refine of_succ fun r previous running n more positive left => ?_
  obtain ⟨count, last, renders⟩ := h r previous running 0 more positive left
  refine ⟨count, last, ?_⟩
  -- The next visit goes on with the same transcript.
  rw [renderVisits_succ running.goesOn]
  rcases answer with pending | unanswered
  · rw [pending]
    exact renders.waits (.inl pending)
  · rw [unanswered]
    exact renders.waits (.inr unanswered)

end RendersWithin

/-- A consumer that comes back often enough gets what the source yields, as far as it fits. -/
theorem exists_rendersWithin {next : σ → Poll × σ} {s : σ} {elements : List Element}
    {ending : Option Fault} (yields : Yields next s elements ending) :
    ∃ enough, RendersWithin next s elements ending enough := by
  induction yields with
  | ended answer => exact ⟨1, .ended answer⟩
  | failed answer => exact ⟨1, .failed answer⟩
  | element answer _ ih =>
      obtain ⟨enough, h⟩ := ih
      exact ⟨enough + 1, h.element answer⟩
  | waits answer _ ih =>
      obtain ⟨enough, h⟩ := ih
      exact ⟨enough + 1, h.waits answer⟩

/-- A sink without a limit keeps the full text. -/
theorem written_eq_fullText {next : σ → Poll × σ} {s : σ} {elements : List Element}
    {ending : Option Fault} (yields : Yields next s elements ending) (options : RenderOptions) :
    ∃ enough, ∀ visits : List Nat, (∀ n ∈ visits, 0 < n) → enough ≤ visits.length →
      (renderVisits next visits ⟨options, {}, none, false⟩ s).2.1.sink.written
        = Utf8.encode (fullText options none elements ending) := by
  obtain ⟨enough, renders⟩ := exists_rendersWithin yields
  refine ⟨enough + 1, fun visits positive least => ?_⟩
  obtain ⟨n, more, rfl⟩ := List.exists_cons_of_length_pos (Nat.lt_of_lt_of_le enough.succ_pos least)
  have running : Renderer.Running ⟨options, {}, none, false⟩ none := ⟨rfl, rfl, nofun, fun _ => rfl⟩
  obtain ⟨count, last, out⟩ := renders _ none running n more
    (fun n mem => positive n (List.mem_cons_of_mem _ mem)) (Nat.le_of_succ_le_succ least)
  exact out.written

/-- A renderer passes on what its source yields.  If its sink takes everything, the consumer
gets the elements as they are and the failure that ends them, if there is one, and the sink
keeps exactly the full text.  A sink that takes so many bytes keeps exactly so many of the full
text.  If these are not all, the consumer gets the elements whose text fits, together with what
was said before them, and then one failure, and the source is left where it was when it had
been polled for the first element that does not fit, or for its end.  After that a transcript
is answered with the end, and the source is not polled. -/
theorem render_passes_through {next : σ → Poll × σ} {s : σ} {elements : List Element}
    {ending : Option Fault} (yields : Yields next s elements ending) (options : RenderOptions)
    (reason : String) :
    let full := Utf8.encode (fullText options none elements ending)
    let all : List (Except Fault Element) := elements.map .ok ++ ending.toList.map .error
    ∃ enough, ∀ (capacity : Option Nat) (visits : List Nat), (∀ n ∈ visits, 0 < n) →
      enough ≤ visits.length →
      let out := renderVisits next visits
        ⟨options, { capacity := capacity, fullReason := reason }, none, false⟩ s
      (capacity = none → out.1 = all ∧ out.2.1.sink.written = full) ∧
      (∀ cap, capacity = some cap →
        out.2.1.sink.written = full.take cap ∧
        (full.length ≤ cap → out.1 = all) ∧
        (cap < full.length → ∃ count ≤ elements.length,
          (∀ i < elements.length, i < count ↔
            (Utf8.encode (elementsText options none (elements.take (i + 1)))).length ≤ cap) ∧
          out.1 = (elements.take count).map .ok ++ [.error (Renderer.failure reason)] ∧
          PolledFor next count s out.2.2)) ∧
      ∀ n, renderAll next (n + 1) out.2.1 out.2.2 = ([], .ended, out.2.1, out.2.2) := by
  intro full all
  obtain ⟨enough, renders⟩ := exists_rendersWithin yields
  refine ⟨enough + 1, fun capacity visits positive least => ?_⟩
  obtain ⟨n, more, rfl⟩ := List.exists_cons_of_length_pos (Nat.lt_of_lt_of_le enough.succ_pos least)
  intro out
  have running : Renderer.Running
      ⟨options, { capacity := capacity, fullReason := reason }, none, false⟩ none :=
    ⟨rfl, rfl, fun _ _ => Nat.zero_le _, fun _ => rfl⟩
  obtain ⟨count, last, done, written, le, fitting, items, polled, whole, cut⟩ :=
    renders _ none running n more (fun n mem => positive n (List.mem_cons_of_mem _ mem))
      (Nat.le_of_succ_le_succ least)
  have through (holds : Sink.Holds { capacity := capacity, fullReason := reason } full) :
      out.1 = all := by
    obtain ⟨rfl, rfl⟩ := whole holds
    rw [List.take_length] at items
    exact items
  refine ⟨?_, ?_, renderAll_of_done done⟩
  · rintro rfl
    exact ⟨through nofun, written⟩
  · rintro cap rfl
    have holds_iff (bs : List UInt8) :
        Sink.Holds { capacity := some cap, fullReason := reason } bs ↔ bs.length ≤ cap :=
      Sink.holds_iff rfl
    refine ⟨written, fun fits => through ((holds_iff full).2 fits), fun beyond => ?_⟩
    obtain rfl := cut (mt (holds_iff full).1 (Nat.not_le_of_lt beyond))
    exact ⟨count, le, fun i less => (fitting i less).trans (holds_iff _), items, polled⟩

/-- Two elements in colours, with a header before them and a rule after them; and without colours
in a sink that has room for the header and the first element. -/
theorem render_passes_through_until_full :
    let a : Element := ⟨"a", .constant, .user⟩
    let b : Element := ⟨"b", .llm, .user⟩
    let source : Feed Element := [.item a, .pending, .item b]
    (∃ visits, (renderVisits Feed.poll visits
        ⟨{ color := true }, { fullReason := "disk full" }, none, false⟩ source).2.1.sink.written
      = Utf8.encode ("\n------------------ user ------------------\n"
          ++ "\x1b[38;5;11ma\x1b[39m" ++ "\x1b[48;5;10mb\x1b[49m"
          ++ "\n----------------------------------------\n")) ∧
      ∃ visits, (renderVisits Feed.poll visits
          ⟨{ color := false }, { capacity := some 45, fullReason := "disk full" }, none, false⟩
          source).1
        = [.ok a, .error (Renderer.failure "disk full")] := by
  intro a b source
  have yields : Yields Feed.poll source [a, b] none :=
    .element rfl (.waits (.inl rfl) (.element rfl (.ended rfl)))
  have positive (enough : Nat) : ∀ n ∈ List.replicate enough 1, 0 < n :=
    fun n mem => List.eq_of_mem_replicate mem ▸ Nat.one_pos
  refine ⟨?_, ?_⟩
  · obtain ⟨enough, renders⟩ := render_passes_through yields { color := true } "disk full"
    obtain ⟨whole, -, -⟩ := renders none (List.replicate enough 1) (positive enough)
      (Nat.le_of_eq List.length_replicate.symm)
    exact ⟨_, (whole rfl).2.trans (by decide +kernel)⟩
  · obtain ⟨enough, renders⟩ := render_passes_through yields { color := false } "disk full"
    obtain ⟨-, limited, -⟩ := renders (some 45) (List.replicate enough 1) (positive enough)
      (Nat.le_of_eq List.length_replicate.symm)
    obtain ⟨-, -, full⟩ := limited 45 rfl
    obtain ⟨count, -, fitting, items, -⟩ := full (by decide +kernel)
    have first : 0 < count := (fitting 0 (by decide)).2 (by decide +kernel)
    have second : ¬ 1 < count := mt (fitting 1 (by decide)).1 (by decide +kernel)
    obtain rfl : count = 1 := Nat.le_antisymm (Nat.le_of_not_lt second) first
    exact ⟨_, items⟩

end PromptStream
