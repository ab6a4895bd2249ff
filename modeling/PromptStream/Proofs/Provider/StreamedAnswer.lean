import PromptStream.Proofs.Provider.EventStream
import PromptStream.Provider.Client

/-!
# Streamed answers

The feed of a streamed answer depends only on the bytes of the body and on how the
body ends.  It is what a reader of the whole body would give (`bodyFeed`): the pieces
of text of the lines that count, up to the first line that ends the stream, and one
failure after them if that line reports an error or if the body broke off before any
such line.  In a body that breaks off the last line is unfinished and does not count.

Three parts take part in this: the decoder that holds an unfinished line, the reader
that passes on what the decoder finds, and the reader's knowledge that the stream is
over.  The proof takes them together.  Reading some chunks gives the answer to all the
events that the decoder finds in them (`readChunks_eq_answerFeed`), because an answer
can be cut in two at any event (`answerFeed_append`); and what the decoder finds are
the events of the lines that count (`fed_events`).
-/

namespace PromptStream

namespace Provider

/-! ## The answer that some events give -/

namespace StreamEvent

/-- The piece of text that an event carries. -/
def delta? : StreamEvent → Option Delta
  | .delta d => some d
  | _ => none

/-- Whether an event ends the stream: an error does, and the mark of the end. -/
def ends : StreamEvent → Bool
  | .delta _ => false
  | _ => true

end StreamEvent

/-- What follows the pieces of text, given the event that ended the stream. -/
def lastSignals (complete : Bool) : Option StreamEvent → Feed Delta
  | some (.error message) => [.failed (completionFault (.provider message))]
  | some _ => []
  | none => if complete then [] else [.failed (completionFault .unreadableChunk)]

/-- The pieces of text before the first event that ends the stream, and what follows
them. -/
def answerFeed (complete : Bool) (events : List StreamEvent) : Feed Delta :=
  ((events.takeWhile fun e => !e.ends).filterMap StreamEvent.delta?).map .item
    ++ lastSignals complete (events.find? StreamEvent.ends)

/-- The lines that count: all of them if the body arrives to its end, otherwise those
that are complete. -/
def countedLines (complete : Bool) (body : List UInt8) : List (List Char) :=
  if complete then bodyLines body else (bodyLines body).dropLast

/-- The feed of a whole body. -/
def bodyFeed (complete : Bool) (body : List UInt8) : Feed Delta :=
  answerFeed complete (eventsOfLines (countedLines complete body))

/-! ## Reading in parts -/

/-- An answer can be cut in two anywhere; if the first part ends the stream, the second
is not looked at. -/
theorem answerFeed_append (complete : Bool) (events more : List StreamEvent) :
    answerFeed complete (events ++ more)
      = if (absorb events).2 then (absorb events).1
        else (absorb events).1 ++ answerFeed complete more := by
  induction events with
  | nil => rfl
  | cons e events ih =>
      cases e with
      | delta d =>
          have front : answerFeed complete (.delta d :: (events ++ more))
              = .item d :: answerFeed complete (events ++ more) := rfl
          rw [List.cons_append, front, ih, absorb]
          by_cases ended : (absorb events).2 = true
          · rw [if_pos ended]
            exact (if_pos ended).symm
          · rw [if_neg ended]
            exact (if_neg ended).symm
      | error message => rfl
      | done => rfl

theorem readChunks_eq_answerFeed (complete : Bool) (d : StreamDecoder)
    (chunks : List (List UInt8)) :
    readChunks complete d chunks
      = answerFeed complete
          ((d.feedAll chunks).1 ++ if complete then (d.feedAll chunks).2.finish.1 else []) := by
  induction chunks generalizing d with
  | nil =>
      rw [readChunks, StreamDecoder.feedAll, List.nil_append]
      cases complete with
      | false => rfl
      | true =>
          have whole := answerFeed_append true d.finish.1 []
          rw [List.append_nil] at whole
          rw [if_pos rfl, if_pos rfl, whole]
          split
          · rfl
          · exact (List.append_nil _).symm
  | cons chunk chunks ih =>
      rw [StreamDecoder.feedAll, List.append_assoc, answerFeed_append, ← ih]
      rfl

/-- Once some chunks end the stream, later ones are not looked at, and neither is the
way in which the body ends. -/
theorem readChunks_append_of_ended {d : StreamDecoder} {chunks : List (List UInt8)}
    (ended : (absorb (d.feedAll chunks).1).2 = true) (complete : Bool)
    (later : List (List UInt8)) :
    readChunks complete d (chunks ++ later) = (absorb (d.feedAll chunks).1).1 := by
  have fed : (d.feedAll (chunks ++ later)).1
      = (d.feedAll chunks).1 ++ ((d.feedAll chunks).2.feedAll later).1 := by
    rw [StreamDecoder.feedAll_eq_feed_flatten, List.flatten_append, StreamDecoder.feed_append,
      StreamDecoder.feedAll_eq_feed_flatten, StreamDecoder.feedAll_eq_feed_flatten]
  rw [readChunks_eq_answerFeed, fed, List.append_assoc, answerFeed_append, if_pos ended]

/-- The reader knows that the stream is over once some event has ended it. -/
theorem absorb_ended_iff (events : List StreamEvent) :
    (absorb events).2 = true ↔ ∃ e ∈ events, e.ends = true := by
  induction events with
  | nil => simp [absorb]
  | cons e events ih =>
      cases e with
      | delta d => simp [absorb, ih, StreamEvent.ends]
      | error message => simp [absorb, StreamEvent.ends]
      | done => simp [absorb, StreamEvent.ends]

/-! ## The events that are found -/

/-- Reading some lines, the last of which is unfinished, gives the events of the
others. -/
theorem StreamDecoder.readLines_events (lines : List (List UInt8)) :
    (readLines lines).1
      = eventsOfLines (lines.dropLast.map fun line => trimBlanks (Utf8.decodeLossy line)) := by
  induction lines with
  | nil => rfl
  | cons line lines ih =>
      cases lines with
      | nil => rfl
      | cons next lines =>
          have ends : StreamEvent.done ∈ rawLineEvents line
              ↔ trimBlanks (Utf8.decodeLossy line) = doneLine := done_mem_lineEvents_iff
          rw [readLines, List.dropLast_cons_cons, List.map_cons, eventsOfLines_cons, ← ih]
          by_cases done : trimBlanks (Utf8.decodeLossy line) = doneLine
          · rw [if_pos (ends.2 done), if_pos done, List.append_nil]
            rfl
          · rw [if_neg (mt ends.1 done), if_neg done]
            rfl

theorem bodyLines_eq_map_splitOn (body : List UInt8) :
    bodyLines body
      = (body.splitOn 0x0a).map fun line => trimBlanks (Utf8.decodeLossy line) := by
  rw [bodyLines, Utf8.splitOn_decodeLossy, List.map_map]
  rfl

theorem feedAll_eq_readLines (chunks : List (List UInt8)) :
    StreamDecoder.feedAll {} chunks
      = StreamDecoder.readLines (chunks.flatten.splitOn 0x0a) := by
  rw [StreamDecoder.feedAll_eq_feed_flatten]
  exact StreamDecoder.feed_eq_readLines (d := {}) rfl List.not_mem_nil chunks.flatten

/-- The events of the lines that are complete. -/
theorem feedAll_events (chunks : List (List UInt8)) :
    (StreamDecoder.feedAll {} chunks).1
      = eventsOfLines (bodyLines chunks.flatten).dropLast := by
  rw [feedAll_eq_readLines, StreamDecoder.readLines_events, bodyLines_eq_map_splitOn,
    List.map_dropLast]

/-- A decoder that is fed all chunks finds the events of the lines that count. -/
theorem fed_events (complete : Bool) (chunks : List (List UInt8)) :
    (StreamDecoder.feedAll {} chunks).1
        ++ (if complete then (StreamDecoder.feedAll {} chunks).2.finish.1 else [])
      = eventsOfLines (countedLines complete chunks.flatten) := by
  cases complete with
  | false => exact (List.append_nil _).trans (feedAll_events chunks)
  | true =>
      obtain ⟨events, -⟩ :=
        StreamDecoder.readLines_finish (List.splitOn_ne_nil 0x0a chunks.flatten)
      rw [if_pos rfl, feedAll_eq_readLines, events, countedLines, if_pos rfl,
        bodyLines_eq_map_splitOn]

theorem streamedFeed_eq_answerFeed (r : Reply) :
    streamedFeed r
      = answerFeed r.complete (eventsOfLines (countedLines r.complete r.chunks.flatten)) := by
  rw [streamedFeed, readChunks_eq_answerFeed, fed_events]

/-! ## The shape of an answer -/

theorem text_ne_empty_of_dataEvents {text : String} {d : Delta}
    (mem : StreamEvent.delta d ∈ dataEvents text) : d.text ≠ "" := by
  unfold dataEvents at mem
  split at mem
  next => cases mem
  next => cases List.mem_singleton.1 mem
  next choices _ =>
    obtain ⟨d', kept, same⟩ := List.mem_map.1 mem
    cases same
    have nonempty := (List.mem_filter.1 kept).2
    rintro empty
    rw [empty] at nonempty
    cases nonempty

theorem text_ne_empty_of_eventsOfLines {lines : List (List Char)} {d : Delta}
    (mem : StreamEvent.delta d ∈ eventsOfLines lines) : d.text ≠ "" := by
  induction lines with
  | nil => cases mem
  | cons line lines ih =>
      rw [eventsOfLines] at mem
      split at mem
      next => cases List.mem_singleton.1 mem
      next =>
        split at mem
        next =>
          rcases List.mem_append.1 mem with here | later
          · exact text_ne_empty_of_dataEvents here
          · exact ih later
        next => exact ih mem

/-- Pieces of text are followed by nothing or by one failure. -/
theorem lastSignals_cases (complete : Bool) (e : Option StreamEvent) :
    lastSignals complete e = [] ∨ ∃ f, lastSignals complete e = [.failed f] := by
  unfold lastSignals
  split
  next message => exact .inr ⟨_, rfl⟩
  next => exact .inl rfl
  next =>
    cases complete with
    | false => exact .inr ⟨_, rfl⟩
    | true => exact .inl rfl

theorem exists_eq_answerFeed (complete : Bool) (events : List StreamEvent) :
    ∃ (ds : List Delta) (last : Feed Delta), answerFeed complete events = ds.map .item ++ last ∧
      (last = [] ∨ ∃ f, last = [.failed f]) :=
  ⟨_, _, rfl, lastSignals_cases complete _⟩

theorem failed_not_mem_items (ds : List Delta) (f : Fault) :
    Signal.failed f ∉ ds.map Signal.item := by
  intro mem
  obtain ⟨d, -, same⟩ := List.mem_map.1 mem
  cases same

/-- A failure that follows some pieces of text is the only one, and the last signal. -/
theorem eq_nil_of_items_append {ds : List Delta} {last before after : Feed Delta} {f : Fault}
    (ends : last = [] ∨ ∃ f, last = [.failed f])
    (split : ds.map .item ++ last = before ++ .failed f :: after) :
    after = [] ∧ ∀ g, .failed g ∉ before := by
  induction ds generalizing before with
  | nil =>
      rcases ends with rfl | ⟨g, rfl⟩
      · exact absurd split (by simp)
      · cases before with
        | nil => exact ⟨(List.cons.inj split).2.symm, fun _ => List.not_mem_nil⟩
        | cons signal before => exact absurd (List.cons.inj split).2.symm (by simp)
  | cons d ds ih =>
      cases before with
      | nil => cases (List.cons.inj split).1
      | cons signal before =>
          obtain ⟨rfl, later⟩ := List.cons.inj split
          obtain ⟨nothing, none⟩ := ih later
          refine ⟨nothing, fun g mem => ?_⟩
          rcases List.mem_cons.1 mem with same | mem
          · cases same
          · exact none g mem

theorem item_mem_answerFeed {complete : Bool} {events : List StreamEvent} {d : Delta}
    (mem : .item d ∈ answerFeed complete events) : .delta d ∈ events := by
  rcases List.mem_append.1 mem with item | last
  · obtain ⟨d', said, same⟩ := List.mem_map.1 item
    cases same
    obtain ⟨e, before, carries⟩ := List.mem_filterMap.1 said
    cases e with
    | delta d' =>
        cases carries
        exact (List.takeWhile_prefix _).subset before
    | error message => cases carries
    | done => cases carries
  · rcases lastSignals_cases complete (events.find? StreamEvent.ends) with none | ⟨f, one⟩
    · rw [none] at last
      cases last
    · rw [one] at last
      cases List.mem_singleton.1 last

/-- However the body of a streamed answer is cut into chunks, and whether it arrives to
its end or breaks off, the feed is that of the whole body: the pieces of text of the
lines that count, in order, up to the first event that ends the stream, and then a
failure if that event is an error, or if there is none and the body broke off.  No
piece of text is empty.  A failure is the only one, and the last signal.  Once the
complete lines hold an event that ends the stream, neither later bytes nor the way in
which the body ends make a difference. -/
theorem streamedFeed_eq_bodyFeed (r : Reply) :
    streamedFeed r = bodyFeed r.complete r.chunks.flatten ∧
      (∀ d, .item d ∈ streamedFeed r → d.text ≠ "") ∧
      (∀ before f after, streamedFeed r = before ++ .failed f :: after →
        after = [] ∧ ∀ g, .failed g ∉ before) ∧
      ((∃ e ∈ eventsOfLines (bodyLines r.chunks.flatten).dropLast, e.ends = true) →
        ∀ (later : List (List UInt8)) (complete : Bool),
          streamedFeed { r with chunks := r.chunks ++ later, complete := complete }
            = streamedFeed r) := by
  have whole : streamedFeed r = bodyFeed r.complete r.chunks.flatten :=
    streamedFeed_eq_answerFeed r
  refine ⟨whole, ?_, ?_, ?_⟩
  · intro d mem
    rw [whole] at mem
    exact text_ne_empty_of_eventsOfLines (item_mem_answerFeed mem)
  · intro before f after split
    obtain ⟨ds, last, shape, ends⟩ := exists_eq_answerFeed r.complete
      (eventsOfLines (countedLines r.complete r.chunks.flatten))
    rw [whole, bodyFeed, shape] at split
    exact eq_nil_of_items_append ends split
  · intro settled later complete
    rw [← feedAll_events, ← absorb_ended_iff] at settled
    have alone := readChunks_append_of_ended settled r.complete []
    rw [List.append_nil] at alone
    rw [streamedFeed, streamedFeed, alone]
    exact readChunks_append_of_ended settled complete later

/-- The mark of the end is cut in two, another line follows it, and the body breaks
off: neither is noticed. -/
theorem streamedFeed_eq_bodyFeed_of_cut_mark :
    let r : Reply := ⟨200, [
      Utf8.encode "data: \x7b\"choices\":[\x7b\"text\":\"a\"\x7d]\x7d\ndata: [DO",
      [], Utf8.encode "NE]\n"], true⟩
    let late := Utf8.encode "data: \x7b\"error\":\x7b\"message\":\"late\"\x7d\x7d\nda"
    streamedFeed r = [.item ⟨0, "a"⟩] ∧
      streamedFeed { r with chunks := r.chunks ++ [late], complete := false }
        = [.item ⟨0, "a"⟩] := by
  intro r late
  obtain ⟨whole, -, -, silent⟩ := streamedFeed_eq_bodyFeed r
  have said : streamedFeed r = [.item ⟨0, "a"⟩] := whole.trans (by decide +kernel)
  refine ⟨said, (silent ?_ _ _).trans said⟩
  exact ⟨.done, by decide +kernel, rfl⟩

end Provider

end PromptStream
