import PromptStream.Proofs.Engine.UnstoppedRun
import PromptStream.Proofs.Generation.Room
import PromptStream.Proofs.Json.Record
import PromptStream.Proofs.Provider.StreamedAnswer

/-!
# Reported errors

A service reports an error as a member of the JSON object that it sends.  An object
with an error never reads as choices (`answer?_of_error`), so an answer that is read as
a whole fails.  In a streamed answer it fails the feed if the object is well-formed
(`exists_failed_of_counted`); an object that is not is skipped, with its error.

What matters in a body is the first event that ends the stream.  The mark of the end is
such an event, but no line before the mark gives it, so a reported error before the mark
is found first, or another failure is.
-/

namespace PromptStream

namespace Provider

open Generation (AllFit)

/-! ## Payloads with an error -/

section Payload

variable {members : List (Option String × Document)} {e : Document}
  (reported : (some "error", e) ∈ members) (given : e ≠ .null)

include reported given

/-- An object with an error never reads as choices. -/
theorem answer?_of_error {chatField : String} {answer : Except String (List Choice)}
    (read : answer? chatField (.object members) = some answer) :
    ∃ message, answer = .error message := by
  simp only [answer?, bind, Option.bind_eq_some_iff] at read
  obtain ⟨r, record, choices, -, error, found, last⟩ := read
  have known : "error" ∈ ["choices", "error"] := by simp
  have field := Record.lookup_of_ofDocument? record reported known
  simp only [Record.nullable?, field, Document.optional?_of_ne_null _ given,
    Option.map_eq_some_iff] at found
  obtain ⟨message, -, rfl⟩ := found
  cases last
  exact ⟨message, rfl⟩

theorem readResponse_of_error {text : String}
    (read : Document.read? text = some (.object members)) :
    ∃ f, readResponse text = .error f := by
  rw [readResponse, read, Option.bind_some]
  split
  next => exact ⟨_, rfl⟩
  next => exact ⟨_, rfl⟩
  next choices found =>
    obtain ⟨message, same⟩ := answer?_of_error reported given found
    cases same

/-- A well-formed payload with an error gives an event that ends the stream. -/
theorem dataEvents_of_error {text : String} (read : Document.read? text = some (.object members))
    (fits : (answer? "delta" (.object members)).isSome) :
    ∃ message, dataEvents text = [.error message] := by
  obtain ⟨answer, found⟩ := Option.isSome_iff_exists.1 fits
  obtain ⟨message, rfl⟩ := answer?_of_error reported given found
  refine ⟨message, ?_⟩
  rw [dataEvents, read, Option.bind_some, found]

end Payload

/-! ## The first event that ends a stream -/

/-- The events of some lines are those of the lines before the mark of the end, and the
mark. -/
theorem eventsOfLines_eq (lines : List (List Char)) :
    eventsOfLines lines
      = (lines.takeWhile (· ≠ doneLine)).flatMap lineEvents
        ++ if doneLine ∈ lines then [.done] else [] := by
  induction lines with
  | nil => rfl
  | cons line lines ih =>
      rw [eventsOfLines_cons]
      by_cases done : line = doneLine
      · subst done
        simp [lineEvents, doneLine, dataMark]
      · simp [done, Ne.symm done, ih]

/-- An event that ends the stream before the mark of the end is an error. -/
theorem eq_error_of_ends {lines : List (List Char)} {e : StreamEvent}
    (mem : e ∈ (lines.takeWhile (· ≠ doneLine)).flatMap lineEvents) (ends : e.ends = true) :
    ∃ message, e = .error message := by
  obtain ⟨line, before, said⟩ := List.mem_flatMap.1 mem
  have notDone : line ≠ doneLine := by simpa using List.mem_takeWhile_imp before
  cases e with
  | delta d => cases ends
  | error message => exact ⟨message, rfl⟩
  | done => exact absurd (done_mem_lineEvents_iff.1 said) notDone

/-- The first event that ends the stream before the mark of the end is an error. -/
theorem find?_ends_of_error {lines : List (List Char)} {message : String}
    (mem : .error message ∈ (lines.takeWhile (· ≠ doneLine)).flatMap lineEvents) :
    ∃ message, (eventsOfLines lines).find? StreamEvent.ends = some (.error message) := by
  rw [eventsOfLines_eq, List.find?_append]
  cases found : ((lines.takeWhile (· ≠ doneLine)).flatMap lineEvents).find? StreamEvent.ends with
  | none => exact absurd rfl (List.find?_eq_none.1 found _ mem)
  | some e =>
      obtain ⟨message, rfl⟩ := eq_error_of_ends (List.mem_of_find?_eq_some found)
        (List.find?_some found)
      exact ⟨message, rfl⟩

/-- Without the mark of the end, the first event that ends the stream is an error, if there
is any. -/
theorem find?_ends_of_not_done {lines : List (List Char)} (never : doneLine ∉ lines) :
    (eventsOfLines lines).find? StreamEvent.ends = none ∨
      ∃ message, (eventsOfLines lines).find? StreamEvent.ends = some (.error message) := by
  cases found : (eventsOfLines lines).find? StreamEvent.ends with
  | none => exact .inl rfl
  | some e =>
      have mem := List.mem_of_find?_eq_some found
      rw [eventsOfLines_eq, if_neg never, List.append_nil] at mem
      obtain ⟨message, rfl⟩ := eq_error_of_ends mem (List.find?_some found)
      exact .inr ⟨message, rfl⟩

/-! ## Bodies -/

/-- The end of a body is known: it arrived to its end, or the mark of the end did. -/
def EndKnown (r : Reply) : Prop :=
  r.complete = true ∨ doneLine ∈ (bodyLines r.chunks.flatten).dropLast

/-- If the end is known, the lines before the mark of the end are all complete. -/
theorem takeWhile_countedLines {r : Reply} (known : EndKnown r) :
    (countedLines r.complete r.chunks.flatten).takeWhile (· ≠ doneLine)
      = (bodyLines r.chunks.flatten).takeWhile (· ≠ doneLine) := by
  rw [countedLines]
  by_cases complete : r.complete = true
  · rw [if_pos complete]
  · rw [if_neg complete]
    have done := known.resolve_left complete
    generalize bodyLines r.chunks.flatten = lines at done ⊢
    have some : lines ≠ [] := by
      rintro rfl
      cases done
    have stops : (lines.dropLast.takeWhile (· ≠ doneLine)).length ≠ lines.dropLast.length := by
      intro whole
      have all := (List.takeWhile_prefix (· ≠ doneLine)).eq_of_length whole
      rw [List.takeWhile_eq_self_iff] at all
      simpa using all doneLine done
    conv_rhs => rw [← List.dropLast_concat_getLast some, List.takeWhile_append, if_neg stops]

section Failures

variable {r : Reply}

theorem exists_failed_of_error {message : String}
    (found : (eventsOfLines (countedLines r.complete r.chunks.flatten)).find? StreamEvent.ends
      = some (.error message)) :
    ∃ (ds : List Delta) (f : Fault), streamedFeed r = ds.map .item ++ [.failed f] := by
  rw [streamedFeed_eq_answerFeed, answerFeed, found]
  exact ⟨_, _, rfl⟩

/-- If the end is not known, the break of the body is a failure unless there is another. -/
theorem exists_failed_of_break (unknown : ¬ EndKnown r) :
    ∃ (ds : List Delta) (f : Fault), streamedFeed r = ds.map .item ++ [.failed f] := by
  rw [EndKnown, not_or, Bool.not_eq_true] at unknown
  obtain ⟨broken, never⟩ := unknown
  have counted : countedLines r.complete r.chunks.flatten
      = (bodyLines r.chunks.flatten).dropLast := by
    rw [countedLines, broken, if_neg Bool.false_ne_true]
  rw [← counted] at never
  rcases find?_ends_of_not_done never with none | ⟨message, found⟩
  · rw [streamedFeed_eq_answerFeed, answerFeed, none, broken]
    exact ⟨_, _, rfl⟩
  · exact exists_failed_of_error found

/-- A reported error that stands before the mark of the end makes the feed fail.  If the
line is unfinished, the end is not known. -/
theorem exists_failed_of_reported {message : String}
    (said : .error message
      ∈ ((bodyLines r.chunks.flatten).takeWhile (· ≠ doneLine)).flatMap lineEvents) :
    ∃ (ds : List Delta) (f : Fault), streamedFeed r = ds.map .item ++ [.failed f] := by
  by_cases known : EndKnown r
  · rw [← takeWhile_countedLines known] at said
    obtain ⟨message, found⟩ := find?_ends_of_error said
    exact exists_failed_of_error found
  · exact exists_failed_of_break known

end Failures

/-- A line that says nothing can be left out. -/
theorem eventsOfLines_of_silent {line : List Char} (silent : lineEvents line = [])
    (lines later : List (List Char)) :
    eventsOfLines (lines ++ line :: later) = eventsOfLines (lines ++ later) := by
  induction lines with
  | nil =>
      have goesOn : line ≠ doneLine := by
        rintro rfl
        cases silent
      rw [List.nil_append, List.nil_append, eventsOfLines_cons, silent, if_neg goesOn]
      rfl
  | cons first lines ih =>
      rw [List.cons_append, List.cons_append, eventsOfLines_cons, ih, ← eventsOfLines_cons]

/-! ## Lines with an error -/

/-- A line that carries an object with an error. -/
structure ErrorLine (line : List Char) (text : String)
    (members : List (Option String × Document)) : Prop where
  /-- The line is a text behind the mark of data. -/
  data : line = dataMark ++ text.toList
  /-- The text is an object. -/
  payload : Document.read? text = some (.object members)
  /-- The object has a member for an error that is not `null`. -/
  error : ∃ e, (some "error", e) ∈ members ∧ e ≠ .null

theorem lineEvents_of_data {line : List Char} {text : String}
    (data : line = dataMark ++ text.toList) (goesOn : line ≠ doneLine) :
    lineEvents line = dataEvents text := by
  have marked : dataMark <+: line := ⟨text.toList, data.symm⟩
  rw [lineEvents_of_not_done goesOn, if_pos marked, data, List.drop_left, String.ofList_toList]

/-- Whatever the shape of the error, the same object fails an answer that is read as a
whole.  In a streamed answer, before the mark of the end, it makes the feed end with a
failure if it is well-formed, and then a generation without a stop ends with that failure
and leaves the outputs as they were; it comes to that end if no choice has the largest number
of all, so that there is room for them.  If the error is not well-formed, the line says
nothing. -/
theorem failed_of_errorLine (r : Reply) {line : List Char} {text : String}
    {members : List (Option String × Document)} (carries : ErrorLine line text members)
    (before : line ∈ (bodyLines r.chunks.flatten).takeWhile (· ≠ doneLine)) :
    (∃ f, readResponse text = .error f) ∧
      ((answer? "delta" (.object members)).isSome →
        ∃ (ds : List Delta) (f : Fault), streamedFeed r = ds.map .item ++ [.failed f] ∧
          ∀ {φ ν : Type} (host : Host φ ν) (name : String) (options : GenerationOptions)
            (props : Props) (w : World φ ν) (fuels : List Nat),
            options.effectiveStop props.nextLiteral = none →
            completionOf name options props w = streamedFeed r →
            let played := Run.polls host fuels (Run.ofGeneration name options props w)
            played.2.world.scene.outputs = w.scene.outputs ∧
              (.ended ∈ played.1 →
                ∃ es : List Element, handedOut played.1 = es.map .ok ++ [.error f]) ∧
              ((streamedFeed r).Countable →
                AllFit (freshGeneration name options props) (streamedFeed r) ∧
                ((∀ fuel ∈ fuels, 0 < fuel) → (streamedFeed r).length + 4 < fuels.length →
                  .ended ∈ played.1))) ∧
      (answer? "delta" (.object members) = none →
        ∀ lines later,
          eventsOfLines (lines ++ line :: later) = eventsOfLines (lines ++ later)) := by
  obtain ⟨e, reported, given⟩ := carries.error
  have goesOn : line ≠ doneLine := by simpa using List.mem_takeWhile_imp before
  have events : lineEvents line = dataEvents text := lineEvents_of_data carries.data goesOn
  refine ⟨readResponse_of_error reported given carries.payload, ?_, ?_⟩
  · intro fits
    obtain ⟨message, error⟩ := dataEvents_of_error reported given carries.payload fits
    have said : .error message ∈ lineEvents line := by
      rw [events, error]
      exact List.mem_singleton_self _
    obtain ⟨ds, f, feed⟩ := exists_failed_of_reported (List.mem_flatMap.2 ⟨line, before, said⟩)
    refine ⟨ds, f, feed, ?_⟩
    intro φ ν host name options props w fuels free asked
    have failing : completionOf name options props w = ds.map .item ++ .failed f :: [] :=
      asked.trans feed
    obtain ⟨outputs, ends⟩ :=
      Run.polls_of_failing free host fuels failing (failed_not_mem_items ds)
    refine ⟨outputs, ends, fun countable => ⟨?_, fun positive enough => ?_⟩⟩
    · exact Generation.allFit_of_countable name _ countable
    · exact Phase.ended_mem_polls host positive (asked ▸ enough)
  · intro malformed lines later
    refine eventsOfLines_of_silent ?_ lines later
    rw [events, dataEvents, carries.payload, Option.bind_some, malformed]

/-- An error that is cut in two and followed by the mark of the end: the generation ends
with it and records nothing. -/
theorem failed_of_errorLine_of_overload :
    let text := "\x7b\"error\":\x7b\"message\":\"overloaded\"\x7d\x7d"
    let r : Reply := ⟨200, [
      Utf8.encode "data: \x7b\"choices\":[\x7b\"text\":\"a\"\x7d]\x7d\ndata: \x7b\"err",
      Utf8.encode "or\":\x7b\"message\":\"overloaded\"\x7d\x7d\ndata: [DONE]\n"], true⟩
    let w : World Empty Empty := { connectors := [.answering fun _ _ => streamedFeed r] }
    let props : Props := { context := (default : Llm).context }
    let played := Run.polls Host.none [9, 9, 9, 9, 9, 9, 9] (Run.ofGeneration "answer" {} props w)
    (∃ f, readResponse text = .error f) ∧ played.2.world.scene.outputs = [] ∧
      ∃ (es : List Element) (f : Fault), handedOut played.1 = es.map .ok ++ [.error f] := by
  intro text r w props played
  let message : Document := .object [(some "message", .text (some "overloaded"))]
  have payload : Document.read? "\x7b\"error\":\x7b\"message\":\"overloaded\"\x7d\x7d"
      = some (.object [(some "error", message)]) := rfl
  have error : ∃ e, (some "error", e) ∈ [(some "error", message)] ∧ e ≠ .null :=
    ⟨message, List.mem_singleton_self _, nofun⟩
  have before : dataMark ++ text.toList
      ∈ (bodyLines r.chunks.flatten).takeWhile (· ≠ doneLine) := by decide +kernel
  obtain ⟨whole, streamed, -⟩ := failed_of_errorLine r ⟨rfl, payload, error⟩ before
  obtain ⟨ds, f, feed, generation⟩ := streamed rfl
  obtain ⟨outputs, ends, atEnd⟩ :=
    generation Host.none "answer" {} props w [9, 9, 9, 9, 9, 9, 9] rfl rfl
  have length : (streamedFeed r).length = 2 := by decide +kernel
  have countable : (streamedFeed r).Countable := by decide +kernel
  have ended : .ended ∈ played.1 := by
    refine (atEnd countable).2 (by simp) ?_
    rw [length]
    decide
  obtain ⟨es, items⟩ := ends ended
  exact ⟨whole, outputs, es, f, items⟩

/-- An error that is a string is not well-formed.  It fails an answer that is read as a
whole, but streamed it is skipped: the feed is empty, and the generation ends without a
failure and records an empty text. -/
theorem no_failure_of_string_error :
    let text := "\x7b\"error\":\"overloaded\"\x7d"
    let line := dataMark ++ text.toList
    let r : Reply := ⟨200, [Utf8.encode "data: \x7b\"error\":\"overloaded\"\x7d\n"], true⟩
    let w : World Empty Empty := { connectors := [.answering fun _ _ => streamedFeed r] }
    let props : Props := { context := (default : Llm).context }
    let played := Run.polls Host.none [9] (Run.ofGeneration "answer" {} props w)
    (∃ members, ErrorLine line text members) ∧
      line ∈ (bodyLines r.chunks.flatten).takeWhile (· ≠ doneLine) ∧
      (∃ f, readResponse text = .error f) ∧ streamedFeed r = [] ∧ played.1 = [.ended] ∧
      played.2.world.scene.outputs = [("answer", .text "")] := by
  intro text line r w props played
  let message : Document := .text (some "overloaded")
  have payload : Document.read? "\x7b\"error\":\"overloaded\"\x7d"
      = some (.object [(some "error", message)]) := rfl
  have error : (some "error", message) ∈ [(some "error", message)] := List.mem_singleton_self _
  have nothing : streamedFeed r = [] := by decide +kernel
  have asked : w = { connectors := [.answering fun _ _ => []] } := by
    simp only [w, nothing]
  refine ⟨⟨_, rfl, payload, message, error, nofun⟩, by decide +kernel, ?_, nothing, ?_⟩
  · exact readResponse_of_error error nofun payload
  · simp only [played, asked]
    exact ⟨rfl, rfl⟩

end Provider

end PromptStream
