import PromptStream.Proofs.Text.Lines
import PromptStream.Provider.EventStream

/-!
# Event streams, whole and in chunks

What a decoder makes of an event stream depends on the bytes alone, and is what a
reader of the whole body would make of it.  Such a reader decodes the body, splits
it into lines, trims them and takes their events, up to the line that ends the
stream (`bodyEvents`).

The proof goes through the lines of the bytes.  A decoder that is fed a chunk
behaves like a buffer (`feed_eq_readLines`): it puts the chunk behind the bytes it
holds, takes the complete lines one after another until one of them ends the
stream, and holds what is left.  So a chunk after another is the two of them at
once (`feed_append`), and at the end the lines of the bytes are the lines of their
decoding (`Utf8.splitOn_decodeLossy`).
-/

namespace PromptStream

namespace Provider

/-! ## The whole body -/

/-- The lines of a body, without the blanks at their ends. -/
def bodyLines (body : List UInt8) : List (List Char) :=
  ((Utf8.decodeLossy body).splitOn '\n').map trimBlanks

/-- The events of some lines, up to the one that ends the stream.  A line that does
not begin with the mark of data says nothing; blank lines and comments are such. -/
def eventsOfLines : List (List Char) → List StreamEvent
  | [] => []
  | line :: lines =>
      if line = doneLine then [.done]
      else if dataMark <+: line then
        dataEvents (String.ofList (line.drop dataMark.length)) ++ eventsOfLines lines
      else eventsOfLines lines

/-- The events of a whole body. -/
def bodyEvents (body : List UInt8) : List StreamEvent := eventsOfLines (bodyLines body)

/-! ## Lines -/

theorem dropMark?_eq_some_iff {mark line rest : List Char} :
    dropMark? mark line = some rest ↔ line = mark ++ rest := by
  induction mark generalizing line with
  | nil => simp [dropMark?]
  | cons m mark ih =>
      cases line with
      | nil => simp [dropMark?]
      | cons c line =>
          by_cases same : m = c
          · simp [dropMark?, same, ih]
          · simp [dropMark?, same, Ne.symm same]

theorem lineEvents_of_not_done {line : List Char} (h : line ≠ doneLine) :
    lineEvents line
      = if dataMark <+: line then dataEvents (String.ofList (line.drop dataMark.length))
        else [] := by
  unfold lineEvents
  split
  next => rfl
  next => rfl
  next =>
    rw [if_neg h]
    split
    next text found =>
      obtain rfl := dropMark?_eq_some_iff.1 found
      rw [if_pos (List.prefix_append dataMark text), List.drop_left]
    next missing =>
      rw [if_neg]
      rintro ⟨text, rfl⟩
      rw [dropMark?_eq_some_iff.2 rfl] at missing
      cases missing

theorem done_not_mem_dataEvents (text : String) : .done ∉ dataEvents text := by
  unfold dataEvents
  split
  · exact List.not_mem_nil
  · simp
  · simp

/-- Only the line that ends a stream says that it is over. -/
theorem done_mem_lineEvents_iff {line : List Char} : .done ∈ lineEvents line ↔ line = doneLine := by
  constructor
  · intro mem
    by_cases done : line = doneLine
    · exact done
    · rw [lineEvents_of_not_done done] at mem
      split at mem
      · exact absurd mem (done_not_mem_dataEvents _)
      · cases mem
  · rintro rfl
    exact List.mem_singleton_self _

/-- The events of a list of lines, one line at a time. -/
theorem eventsOfLines_cons (line : List Char) (lines : List (List Char)) :
    eventsOfLines (line :: lines)
      = lineEvents line ++ if line = doneLine then [] else eventsOfLines lines := by
  rw [eventsOfLines]
  by_cases done : line = doneLine
  · subst done
    rfl
  · rw [if_neg done, if_neg done, lineEvents_of_not_done done]
    split <;> rfl

/-! ## The decoder as a buffer -/

namespace StreamDecoder

/-- Takes the lines of a buffer, the last of which is unfinished and is held. -/
def readLines : List (List UInt8) → List StreamEvent × StreamDecoder
  | [] => ([], {})
  | [unfinished] => ([], ⟨unfinished.reverse, false⟩)
  | line :: next :: lines =>
      if StreamEvent.done ∈ rawLineEvents line then (rawLineEvents line, ⟨[], true⟩)
      else (rawLineEvents line ++ (readLines (next :: lines)).1, (readLines (next :: lines)).2)

/-- No newline is held. -/
def Holding (d : StreamDecoder) : Prop := 0x0a ∉ d.held

variable {d : StreamDecoder}

theorem feed_of_done (done : d.done = true) (chunk : List UInt8) : d.feed chunk = ([], d) := by
  induction chunk with
  | nil => rfl
  | cons b chunk ih => simp [feed, feedByte, done, ih]

theorem finish_of_done (done : d.done = true) : d.finish = ([], d) := by
  rw [finish, if_pos done]

/-- Feeding a chunk reads the lines of what was held and the chunk behind it. -/
theorem feed_eq_readLines (running : d.done = false) (held : d.Holding) (chunk : List UInt8) :
    d.feed chunk = readLines ((d.held.reverse ++ chunk).splitOn 0x0a) := by
  induction chunk generalizing d with
  | nil =>
      have noNewline : 0x0a ∉ d.held.reverse ++ [] := by
        simpa [Holding] using held
      rw [List.splitOn_eq_singleton noNewline]
      simp [feed, readLines, ← running]
  | cons b chunk ih =>
      by_cases newline : b = 0x0a
      · -- The newline completes what was held, so the rest starts with an empty buffer.
        subst newline
        have noNewline : 0x0a ∉ d.held.reverse := by
          simpa [Holding] using held
        obtain ⟨line, lines, split⟩ :=
          List.exists_cons_of_ne_nil (List.splitOn_ne_nil 0x0a chunk)
        have step : d.feedByte 0x0a = (rawLineEvents d.held.reverse,
            ⟨[], (rawLineEvents d.held.reverse).contains .done⟩) := by
          simp [feedByte, running, endLine]
        rw [List.splitOn_append_cons_self_of_not_mem noNewline, split, feed, step, readLines]
        by_cases done : StreamEvent.done ∈ rawLineEvents d.held.reverse
        · have stopped : (rawLineEvents d.held.reverse).contains .done = true := by
            simpa using done
          rw [if_pos done, stopped]
          simp [feed_of_done]
        · have goesOn : (rawLineEvents d.held.reverse).contains .done = false := by
            simpa using done
          rw [if_neg done, goesOn]
          simp [ih (d := {}) rfl List.not_mem_nil, split]
      · have step : d.feedByte b = ([], { d with held := b :: d.held }) := by
          simp [feedByte, running, newline]
        have heldNext : Holding { d with held := b :: d.held } := by
          intro mem
          rcases List.mem_cons.1 mem with same | mem
          · exact newline same.symm
          · exact held mem
        rw [feed, step]
        simp [ih (d := { d with held := b :: d.held }) running heldNext]

/-- Feeding two chunks is feeding them joined. -/
theorem feed_append (d : StreamDecoder) (chunk later : List UInt8) :
    d.feed (chunk ++ later)
      = ((d.feed chunk).1 ++ ((d.feed chunk).2.feed later).1, ((d.feed chunk).2.feed later).2) := by
  induction chunk generalizing d with
  | nil => rfl
  | cons b chunk ih => simp [feed, ih]

/-! ## All chunks -/

/-- Feeds some chunks. -/
def feedAll (d : StreamDecoder) : List (List UInt8) → List StreamEvent × StreamDecoder
  | [] => ([], d)
  | chunk :: chunks =>
      ((d.feed chunk).1 ++ ((d.feed chunk).2.feedAll chunks).1, ((d.feed chunk).2.feedAll chunks).2)

/-- Feeds some chunks and then takes the end of the bytes. -/
def decodeAll (d : StreamDecoder) (chunks : List (List UInt8)) :
    List StreamEvent × StreamDecoder :=
  ((d.feedAll chunks).1 ++ (d.feedAll chunks).2.finish.1, (d.feedAll chunks).2.finish.2)

theorem feedAll_eq_feed_flatten (d : StreamDecoder) (chunks : List (List UInt8)) :
    d.feedAll chunks = d.feed chunks.flatten := by
  induction chunks generalizing d with
  | nil => rfl
  | cons chunk chunks ih => rw [feedAll, ih, List.flatten_cons, feed_append]

theorem feedAll_of_done (done : d.done = true) (chunks : List (List UInt8)) :
    d.feedAll chunks = ([], d) := by
  rw [feedAll_eq_feed_flatten, feed_of_done done]

/-- Reading some lines and then the unfinished one gives the events of their texts. -/
theorem readLines_finish {lines : List (List UInt8)} (some : lines ≠ []) :
    let texts := lines.map fun line => trimBlanks (Utf8.decodeLossy line)
    (readLines lines).1 ++ (readLines lines).2.finish.1 = eventsOfLines texts ∧
      ((readLines lines).2.finish.2.done = true ↔ doneLine ∈ texts) := by
  induction lines with
  | nil => exact absurd rfl some
  | cons line lines ih =>
      intro texts
      let text := trimBlanks (Utf8.decodeLossy line)
      have ends : StreamEvent.done ∈ rawLineEvents line ↔ text = doneLine := done_mem_lineEvents_iff
      cases lines with
      | nil =>
          have last : finish ⟨line.reverse, false⟩
              = (rawLineEvents line, ⟨[], (rawLineEvents line).contains .done⟩) := by
            simp [finish, endLine]
          have events : eventsOfLines texts = rawLineEvents line := by
            refine (eventsOfLines_cons text []).trans ?_
            split <;> exact List.append_nil _
          rw [readLines, last, events, List.contains_iff_mem, ends]
          refine ⟨rfl, ?_⟩
          rw [show texts = [text] from rfl, List.mem_singleton, eq_comm]
      | cons next lines =>
          obtain ⟨later, atEnd⟩ := ih (List.cons_ne_nil next lines)
          rw [show texts = text :: (next :: lines).map _ from rfl, eventsOfLines_cons,
            List.mem_cons, readLines]
          by_cases done : text = doneLine
          · rw [if_pos (ends.2 done), if_pos done, finish_of_done rfl]
            exact ⟨rfl, fun _ => .inl done.symm, fun _ => rfl⟩
          · rw [if_neg (mt ends.1 done), if_neg done, ← later, List.append_assoc]
            refine ⟨rfl, ?_⟩
            rw [atEnd]
            exact ⟨.inr, fun mem => mem.resolve_left fun same => done same.symm⟩

end StreamDecoder

/-- However a body is cut into chunks, a decoder that is fed the chunks and then the
end gives the events of the whole body, and it is done exactly when some line ends
the stream.  Once a decoder is done, it gives nothing more and stays as it is. -/
theorem decodeAll_eq_bodyEvents (chunks : List (List UInt8)) :
    let read := StreamDecoder.decodeAll {} chunks
    read.1 = bodyEvents chunks.flatten ∧
      (read.2.done = true ↔ doneLine ∈ bodyLines chunks.flatten) ∧
      ∀ d : StreamDecoder, d.done = true →
        (∀ later, d.feedAll later = ([], d)) ∧ d.finish = ([], d) := by
  intro read
  have lines : bodyLines chunks.flatten
      = (chunks.flatten.splitOn 0x0a).map fun line => trimBlanks (Utf8.decodeLossy line) := by
    rw [bodyLines, Utf8.splitOn_decodeLossy, List.map_map]
    rfl
  have fed : StreamDecoder.feedAll {} chunks
      = StreamDecoder.readLines (chunks.flatten.splitOn 0x0a) := by
    rw [StreamDecoder.feedAll_eq_feed_flatten]
    exact StreamDecoder.feed_eq_readLines (d := {}) rfl List.not_mem_nil chunks.flatten
  obtain ⟨events, ends⟩ :=
    StreamDecoder.readLines_finish (List.splitOn_ne_nil 0x0a chunks.flatten)
  refine ⟨?_, ?_, ?_⟩
  · rw [bodyEvents, lines, ← events, ← fed]
    rfl
  · rw [lines, ← ends, ← fed]
    rfl
  · intro d done
    exact ⟨StreamDecoder.feedAll_of_done done, StreamDecoder.finish_of_done done⟩

/-- A character and the mark of the end are cut in two, and a line follows the end. -/
theorem decodeAll_eq_bodyEvents_of_cut_character :
    let chunks : List (List UInt8) :=
      [Utf8.encode "data: \x7b\"choices\":[\x7b\"text\":\"" ++ [0xc3], [],
        0xa9 :: Utf8.encode "\"\x7d]\x7d\r\ndata: [DO", Utf8.encode "NE]\ndata: late\n"]
    let read := StreamDecoder.decodeAll {} chunks
    read.1 = [.delta ⟨0, "é"⟩, .done] ∧ read.2.done = true ∧
      read.2.feedAll [Utf8.encode "data: [DONE]\n"] = ([], read.2) := by
  intro chunks read
  obtain ⟨events, ends, silent⟩ := decodeAll_eq_bodyEvents chunks
  have whole : bodyEvents chunks.flatten = [.delta ⟨0, "é"⟩, .done] := by decide +kernel
  have done : read.2.done = true := ends.2 (by decide +kernel)
  exact ⟨events.trans whole, done, (silent read.2 done).1 _⟩

end Provider

end PromptStream
