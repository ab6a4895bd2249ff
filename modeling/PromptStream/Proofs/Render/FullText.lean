import Mathlib.Data.List.Basic
import PromptStream.Render

/-!
# The full text of a transcript

The full text is what a transcript says of a sequence of elements, whatever it is written to
(`fullText`).  A sink keeps as much of it as it holds: a renderer writes an element and its
header in two pieces, but it comes to the same as if the text of the element were written at
once (`Renderer.Running.writeElement_of_holds`, `Renderer.Running.writeElement_of_not_holds`).
-/

namespace PromptStream

/-! ## Bytes -/

theorem toList_loop_eq (bs : ByteArray) (i : Nat) (before : List UInt8) :
    ByteArray.toList.loop bs i before = before.reverse ++ bs.data.toList.drop i := by
  induction i, before using ByteArray.toList.loop.induct bs with
  | case1 i before less ih =>
      have inside : i < bs.data.toList.length := less
      have here : bs.get! i = bs.data.toList[i] := getElem!_pos bs.data i less
      rw [ByteArray.toList.loop, if_pos less, ih, List.drop_eq_getElem_cons inside, here,
        List.reverse_cons, List.append_assoc, List.singleton_append]
  | case2 i before beyond =>
      have outside : bs.data.toList.length ≤ i := Nat.le_of_not_lt beyond
      rw [ByteArray.toList.loop, if_neg beyond, List.drop_eq_nil_of_le outside, List.append_nil]

theorem Utf8.encode_eq (s : String) : encode s = s.toByteArray.data.toList :=
  toList_loop_eq s.toByteArray 0 []

theorem Utf8.encode_empty : encode "" = [] := by
  rw [encode_eq]
  rfl

theorem Utf8.encode_append (s t : String) : encode (s ++ t) = encode s ++ encode t := by
  simp only [encode_eq, String.toByteArray_append, ByteArray.toList_data_append]

/-- Of two texts after some bytes, the first may be put with the bytes. -/
theorem Utf8.append_encode_append (bs : List UInt8) (s t : String) :
    bs ++ encode (s ++ t) = bs ++ encode s ++ encode t := by
  rw [encode_append, List.append_assoc]

/-! ## Sinks -/

namespace Sink

/-- A sink that contains some bytes in all. -/
def containing (k : Sink) (bs : List UInt8) : Sink := { k with written := bs }

/-- Whether a sink can hold some bytes in all. -/
def Holds (k : Sink) (bs : List UInt8) : Prop := ∀ most ∈ k.capacity, bs.length ≤ most

/-- What a sink keeps of some bytes in all. -/
def keep (k : Sink) (bs : List UInt8) : List UInt8 :=
  match k.capacity with
  | none => bs
  | some most => bs.take most

variable {k : Sink} {bs more : List UInt8}

theorem Holds.of_append (h : k.Holds (bs ++ more)) : k.Holds bs := by
  intro most limit
  have all := h most limit
  rw [List.length_append] at all
  exact Nat.le_of_add_right_le all

theorem holds_iff {cap : Nat} (limit : k.capacity = some cap) : k.Holds bs ↔ bs.length ≤ cap := by
  simp [Holds, limit]

theorem exists_of_not_holds (full : ¬ k.Holds bs) :
    ∃ most, k.capacity = some most ∧ most < bs.length := by
  by_contra none
  refine full fun most limit => Nat.le_of_not_lt fun less => none ⟨most, limit, less⟩

theorem keep_of_holds (h : k.Holds bs) : k.keep bs = bs := by
  rw [keep]
  cases limit : k.capacity with
  | none => rfl
  | some most => exact List.take_of_length_le (h most limit)

/-- If it is full, nothing more is kept. -/
theorem keep_append_of_not_holds (full : ¬ k.Holds bs) : k.keep (bs ++ more) = k.keep bs := by
  obtain ⟨most, limit, beyond⟩ := exists_of_not_holds full
  simp only [keep, limit]
  exact List.take_append_of_le_length (Nat.le_of_lt beyond)

theorem writeBytes_of_holds (h : k.Holds (k.written ++ bs)) :
    k.writeBytes bs = (none, k.containing (k.written ++ bs)) := by
  unfold writeBytes
  split
  next => rfl
  next most limit =>
    have all := h most limit
    rw [List.length_append] at all
    exact if_pos (Nat.le_sub_of_add_le' all)

theorem writeBytes_of_not_holds (before : k.Holds k.written)
    (full : ¬ k.Holds (k.written ++ bs)) :
    k.writeBytes bs = (some k.fullReason, k.containing (k.keep (k.written ++ bs))) := by
  obtain ⟨most, limit, beyond⟩ := exists_of_not_holds full
  have kept : k.written.length ≤ most := before most limit
  have noRoom : ¬ bs.length ≤ most - k.written.length := by
    rw [List.length_append] at beyond
    omega
  simp only [writeBytes, containing, keep, limit, if_neg noRoom, List.take_append,
    List.take_of_length_le kept]

end Sink

/-! ## What a transcript says -/

/-- The header of a role, if roles are shown and another one has spoken last. -/
def headerText (options : RenderOptions) (previous : Option Role) (role : Role) : String :=
  if options.showRoles ∧ previous ≠ some role then roleHeader role else ""

/-- What is said of an element after the role that has spoken last. -/
def elementText (options : RenderOptions) (previous : Option Role) (e : Element) : String :=
  headerText options previous e.role ++ renderElement options.color e

/-- What is said of some elements. -/
def elementsText (options : RenderOptions) : Option Role → List Element → String
  | _, [] => ""
  | previous, e :: more =>
      elementText options previous e ++ elementsText options (some e.role) more

/-- What is said in all of elements that end with a failure or without one: only a clean end is
marked by a rule. -/
def fullText (options : RenderOptions) (previous : Option Role) (elements : List Element)
    (ending : Option Fault) : String :=
  elementsText options previous elements ++ if ending.isNone then closingRule else ""

theorem fullText_nil (options : RenderOptions) (previous : Option Role) (ending : Option Fault) :
    fullText options previous [] ending = if ending.isNone then closingRule else "" :=
  String.empty_append

theorem fullText_cons (options : RenderOptions) (previous : Option Role) (e : Element)
    (elements : List Element) (ending : Option Fault) :
    fullText options previous (e :: elements) ending
      = elementText options previous e ++ fullText options (some e.role) elements ending := by
  rw [fullText, elementsText, String.append_assoc]
  rfl

/-! ## Renderers -/

namespace Renderer

/-- A transcript that has not ended and whose sink has not failed, after a role has spoken. -/
structure Running (r : Renderer) (previous : Option Role) : Prop where
  goesOn : r.done = false
  flushes : r.sink.flushFailure = none
  holds : r.sink.Holds r.sink.written
  agrees : r.options.showRoles = true → r.lastRole = previous

/-- How a transcript goes on once a role has spoken and its sink contains some bytes in all. -/
structure GoesOn (r : Renderer) (role : Role) (bs : List UInt8) (r' : Renderer) : Prop where
  running : r'.Running (some role)
  options : r'.options = r.options
  sink : r'.sink = r.sink.containing bs

section Flushed

variable {r : Renderer} {text : String}

theorem writeFlushed_of_holds (flushes : r.sink.flushFailure = none)
    (fits : r.sink.Holds (r.sink.written ++ Utf8.encode text)) :
    r.writeFlushed text = (none, { r with
      sink := r.sink.containing (r.sink.written ++ Utf8.encode text) }) := by
  rw [writeFlushed, Sink.write, Sink.writeBytes_of_holds fits]
  exact Prod.ext flushes rfl

theorem writeFlushed_of_not_holds (holds : r.sink.Holds r.sink.written)
    (full : ¬ r.sink.Holds (r.sink.written ++ Utf8.encode text)) :
    r.writeFlushed text = (some r.sink.fullReason, { r with
      sink := r.sink.containing (r.sink.keep (r.sink.written ++ Utf8.encode text)) }) := by
  rw [writeFlushed, Sink.write, Sink.writeBytes_of_not_holds holds full]

end Flushed

namespace Running

variable {r : Renderer} {previous : Option Role} (running : r.Running previous)

include running

/-- A header is due where the role is another than before. -/
theorem due_iff (role : Role) :
    r.options.showRoles ∧ r.lastRole ≠ some role ↔ r.options.showRoles ∧ previous ≠ some role :=
  and_congr_right fun shown => by rw [running.agrees shown]

theorem writeHeader_of_holds {role : Role}
    (fits : r.sink.Holds (r.sink.written ++ Utf8.encode (headerText r.options previous role))) :
    ∃ r', r.writeHeader role = (none, r') ∧
      r.GoesOn role (r.sink.written ++ Utf8.encode (headerText r.options previous role)) r' := by
  by_cases due : r.options.showRoles ∧ previous ≠ some role
  · rw [headerText, if_pos due] at fits ⊢
    let r' : Renderer := { r with
      sink := r.sink.containing (r.sink.written ++ Utf8.encode (roleHeader role))
      lastRole := some role }
    refine ⟨r', ?_, ⟨running.goesOn, running.flushes, fits, fun _ => rfl⟩, rfl, rfl⟩
    rw [writeHeader, if_pos ((running.due_iff role).2 due), Sink.write,
      Sink.writeBytes_of_holds fits]
  · rw [headerText, if_neg due, Utf8.encode_empty, List.append_nil]
    have spoken (shown : r.options.showRoles = true) : r.lastRole = some role := by
      rw [running.agrees shown]
      exact not_not.1 (not_and.1 due shown)
    refine ⟨r, ?_, ⟨running.goesOn, running.flushes, running.holds, spoken⟩, rfl, rfl⟩
    rw [writeHeader, if_neg (mt (running.due_iff role).1 due)]

theorem writeHeader_of_not_holds {role : Role}
    (full : ¬ r.sink.Holds
      (r.sink.written ++ Utf8.encode (headerText r.options previous role))) :
    r.writeHeader role = (some r.sink.fullReason, { r with
      sink := r.sink.containing (r.sink.keep
        (r.sink.written ++ Utf8.encode (headerText r.options previous role))) }) := by
  by_cases due : r.options.showRoles ∧ previous ≠ some role
  · rw [headerText, if_pos due] at full ⊢
    rw [writeHeader, if_pos ((running.due_iff role).2 due), Sink.write,
      Sink.writeBytes_of_not_holds running.holds full]
  · rw [headerText, if_neg due, Utf8.encode_empty, List.append_nil] at full
    exact absurd running.holds full

/-- An element is written if its text fits. -/
theorem writeElement_of_holds {e : Element}
    (fits : r.sink.Holds (r.sink.written ++ Utf8.encode (elementText r.options previous e))) :
    ∃ r', r.writeElement e = (none, r') ∧
      r.GoesOn e.role (r.sink.written ++ Utf8.encode (elementText r.options previous e)) r' := by
  rw [elementText, Utf8.append_encode_append] at fits ⊢
  obtain ⟨r', header, goesOn⟩ := running.writeHeader_of_holds fits.of_append
  obtain ⟨options, _, last, done⟩ := r'
  obtain ⟨⟨notDone, flushes, -, agrees⟩, rfl, rfl⟩ := goesOn
  rw [writeElement, header]
  exact ⟨_, writeFlushed_of_holds flushes fits, ⟨notDone, flushes, fits, agrees⟩, rfl, rfl⟩

/-- Otherwise the sink fails, and has kept what it could of it. -/
theorem writeElement_of_not_holds {e : Element}
    (full : ¬ r.sink.Holds
      (r.sink.written ++ Utf8.encode (elementText r.options previous e))) :
    ∃ r', r.writeElement e = (some r.sink.fullReason, r') ∧
      r'.sink = r.sink.containing (r.sink.keep
        (r.sink.written ++ Utf8.encode (elementText r.options previous e))) := by
  rw [elementText, Utf8.append_encode_append] at full ⊢
  by_cases fits : r.sink.Holds
      (r.sink.written ++ Utf8.encode (headerText r.options previous e.role))
  · obtain ⟨r', header, goesOn⟩ := running.writeHeader_of_holds fits
    obtain ⟨options, _, last, done⟩ := r'
    obtain ⟨⟨-, -, holds, -⟩, rfl, rfl⟩ := goesOn
    rw [writeElement, header]
    exact ⟨_, writeFlushed_of_not_holds holds full, rfl⟩
  · rw [writeElement, running.writeHeader_of_not_holds fits, Sink.keep_append_of_not_holds fits]
    exact ⟨_, rfl, rfl⟩

/-! ### Answers -/

theorem pass_element_of_holds {e : Element}
    (fits : r.sink.Holds (r.sink.written ++ Utf8.encode (elementText r.options previous e))) :
    ∃ r', r.pass (.element e) = (.element e, r') ∧
      r.GoesOn e.role (r.sink.written ++ Utf8.encode (elementText r.options previous e)) r' := by
  obtain ⟨r', wrote, goesOn⟩ := running.writeElement_of_holds fits
  refine ⟨r', ?_, goesOn⟩
  rw [pass, wrote]

theorem pass_element_of_not_holds {e : Element}
    (full : ¬ r.sink.Holds
      (r.sink.written ++ Utf8.encode (elementText r.options previous e))) :
    ∃ r', r.pass (.element e) = (.failed (failure r.sink.fullReason), r') ∧ r'.done = true ∧
      r'.sink = r.sink.containing (r.sink.keep
        (r.sink.written ++ Utf8.encode (elementText r.options previous e))) := by
  obtain ⟨r', wrote, sink⟩ := running.writeElement_of_not_holds full
  refine ⟨{ r' with done := true }, ?_, rfl, sink⟩
  rw [pass, wrote]

/-- A clean end is marked if the rule fits. -/
theorem pass_ended_of_holds (fits : r.sink.Holds (r.sink.written ++ Utf8.encode closingRule)) :
    r.pass .ended = (.ended, { r with
      sink := r.sink.containing (r.sink.written ++ Utf8.encode closingRule), done := true }) := by
  have rule := writeFlushed_of_holds (r := { r with done := true }) running.flushes fits
  rw [pass, rule]

theorem pass_ended_of_not_holds
    (full : ¬ r.sink.Holds (r.sink.written ++ Utf8.encode closingRule)) :
    r.pass .ended = (.failed (failure r.sink.fullReason), { r with
      sink := r.sink.containing (r.sink.keep (r.sink.written ++ Utf8.encode closingRule))
      done := true }) := by
  have rule := writeFlushed_of_not_holds (r := { r with done := true }) running.holds full
  rw [pass, rule]

end Running

end Renderer

end PromptStream
