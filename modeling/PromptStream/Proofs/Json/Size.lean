import Mathlib.Data.List.Basic
import PromptStream.Json.Document

/-!
# The size of a document

A JSON text is as long as its document is large, or longer: the document has no more values than
the text has characters (`Document.size_le_of_read?`).  Both passes of the reading are charged a
symbol at a time.  A character completes one token at most, counting the one that it is in the
middle of, and a token begins one value at most, counting the containers that are still open.
-/

namespace PromptStream

/-! ## Counting values -/

namespace Document

mutual

/-- The number of values in a document, itself included. -/
def size : Document → Nat
  | .null => 1
  | .bool _ => 1
  | .number _ => 1
  | .text _ => 1
  | .array items => 1 + itemsSize items
  | .object members => 1 + membersSize members

/-- The number of values in the items of an array. -/
def itemsSize : List Document → Nat
  | [] => 0
  | d :: rest => d.size + itemsSize rest

/-- The number of values in the members of an object. -/
def membersSize : List (Option String × Document) → Nat
  | [] => 0
  | (_, d) :: rest => d.size + membersSize rest

end

theorem size_pos (d : Document) : 0 < d.size := by
  cases d <;> simp only [size] <;> omega

theorem itemsSize_append (items more : List Document) :
    itemsSize (items ++ more) = itemsSize items + itemsSize more := by
  induction items with
  | nil => exact (Nat.zero_add _).symm
  | cons d rest ih => rw [List.cons_append, itemsSize, itemsSize, ih, Nat.add_assoc]

theorem membersSize_append (members more : List (Option String × Document)) :
    membersSize (members ++ more) = membersSize members + membersSize more := by
  induction members with
  | nil => exact (Nat.zero_add _).symm
  | cons m rest ih => rw [List.cons_append, membersSize, membersSize, ih, Nat.add_assoc]

@[simp] theorem itemsSize_reverse (items : List Document) :
    itemsSize items.reverse = itemsSize items := by
  induction items with
  | nil => rfl
  | cons d rest ih =>
      rw [List.reverse_cons, itemsSize_append, ih, itemsSize, itemsSize, itemsSize]
      exact Nat.add_comm _ _

@[simp] theorem membersSize_reverse (members : List (Option String × Document)) :
    membersSize members.reverse = membersSize members := by
  induction members with
  | nil => rfl
  | cons m rest ih =>
      rw [List.reverse_cons, membersSize_append, ih, membersSize, membersSize, membersSize]
      exact Nat.add_comm _ _

theorem length_le_itemsSize (items : List Document) : items.length ≤ itemsSize items := by
  induction items with
  | nil => exact Nat.le_refl 0
  | cons d rest ih =>
      have positive := size_pos d
      rw [List.length_cons, itemsSize]
      omega

theorem size_le_itemsSize {items : List Document} {d : Document} (mem : d ∈ items) :
    d.size ≤ itemsSize items := by
  obtain ⟨before, after, rfl⟩ := List.append_of_mem mem
  rw [itemsSize_append, itemsSize]
  omega

theorem size_le_membersSize {members : List (Option String × Document)} {k : Option String}
    {d : Document} (mem : (k, d) ∈ members) : d.size ≤ membersSize members := by
  obtain ⟨before, after, rfl⟩ := List.append_of_mem mem
  rw [membersSize_append, membersSize]
  omega

end Document

/-! ## Tokens to a document -/

namespace Reader

/-- The number of values of an open container, itself included. -/
def Level.size : Level → Nat
  | .items before => 1 + Document.itemsSize before
  | .members before _ => 1 + Document.membersSize before

/-- The number of values of some open containers. -/
def stackSize : List Level → Nat
  | [] => 0
  | level :: rest => level.size + stackSize rest

/-- The number of values of the finished document, if there is one. -/
def Phase.size : Phase → Nat
  | .finished d => d.size
  | _ => 0

/-- The number of values that were read. -/
def State.size (s : State) : Nat := stackSize s.stack + s.phase.size

theorem stackSize_le_size (s : State) : stackSize s.stack ≤ s.size := Nat.le_add_right _ _

theorem deliver_size (d : Document) (stack : List Level) :
    (deliver d stack).size = d.size + stackSize stack := by
  match stack with
  | [] => exact Nat.add_comm _ _
  | .items before :: rest =>
      simp only [deliver, State.size, Phase.size, stackSize, Level.size, Document.itemsSize]
      omega
  | .members before name :: rest =>
      simp only [deliver, State.size, Phase.size, stackSize, Level.size, Document.membersSize]
      omega

theorem close?_size {array : Bool} {stack : List Level} {s : State}
    (closed : close? array stack = some s) : s.size = stackSize stack := by
  match stack with
  | [] => cases closed
  | .items before :: rest =>
      rw [close?, Option.ite_none_right_eq_some] at closed
      obtain ⟨-, same⟩ := closed
      cases same
      rw [deliver_size, stackSize, Document.size, Level.size, Document.itemsSize_reverse]
  | .members before name :: rest =>
      rw [close?, Option.ite_none_left_eq_some] at closed
      obtain ⟨-, same⟩ := closed
      cases same
      rw [deliver_size, stackSize, Document.size, Level.size, Document.membersSize_reverse]

/-- A token begins one value at most. -/
theorem step?_size {s next : State} {t : JsonToken} (read : step? s t = some next) :
    next.size ≤ s.size + 1 := by
  have held := stackSize_le_size s
  have leaf : ∀ d : Document, d.size = 1 → deliver d s.stack = next → next.size ≤ s.size + 1 := by
    rintro d single rfl
    rw [deliver_size, single]
    omega
  have opened : ∀ (level : Level) (phase : Phase), level.size = 1 → phase.size = 0 →
      ⟨level :: s.stack, phase⟩ = next → next.size ≤ s.size + 1 := by
    rintro level phase single between rfl
    rw [State.size, stackSize, single, between]
    omega
  have closed : ∀ array, close? array s.stack = some next → next.size ≤ s.size + 1 := by
    intro array closes
    rw [close?_size closes]
    omega
  have waiting : ∀ phase : Phase, phase.size = 0 → ⟨s.stack, phase⟩ = next →
      next.size ≤ s.size + 1 := by
    rintro phase between rfl
    rw [State.size, between]
    exact Nat.le_succ_of_le held
  unfold step? at read
  split at read
  next => exact leaf _ rfl (Option.some.inj read)
  next => exact leaf _ rfl (Option.some.inj read)
  next => exact leaf _ rfl (Option.some.inj read)
  next => exact leaf _ rfl (Option.some.inj read)
  next => exact opened _ _ rfl rfl (Option.some.inj read)
  next => exact opened _ _ rfl rfl (Option.some.inj read)
  next => exact closed _ read
  next =>
    split at read
    next before name rest stack =>
      cases read
      rw [stack] at held
      exact Nat.le_succ_of_le held
    next => cases read
  next => exact closed _ read
  next => exact waiting _ rfl (Option.some.inj read)
  next =>
    split at read
    next => exact waiting _ rfl (Option.some.inj read)
    next => exact waiting _ rfl (Option.some.inj read)
    next => cases read
  next => exact closed _ read
  next => exact closed _ read
  next => cases read

theorem run?_size {s : State} {ts : List JsonToken} {d : Document} (read : run? s ts = some d) :
    d.size ≤ s.size + ts.length := by
  induction ts generalizing s with
  | nil =>
      rw [run?] at read
      split at read
      next d' finished =>
        cases read
        rw [State.size, finished]
        exact Nat.le_add_left _ _
      next => cases read
  | cons t ts ih =>
      rw [run?] at read
      split at read
      next => cases read
      next next stepped =>
        have begun := step?_size stepped
        have later := ih read
        rw [List.length_cons]
        omega

end Reader

/-! ## Characters to tokens -/

namespace Lexer

/-- The number of tokens that the lexer is in the middle of. -/
def State.begun : State → Nat
  | .gap => 0
  | _ => 1

/-- What a character is read as, if it is, completes or begins one token at most. -/
def Short (read : Option (List JsonToken × State)) : Prop :=
  ∀ ts next, read = some (ts, next) → ts.length + next.begun ≤ 1

theorem Short.ite {c : Prop} [Decidable c] {read other : Option (List JsonToken × State)}
    (h : Short read) (h' : Short other) : Short (if c then read else other) := by
  split
  · exact h
  · exact h'

theorem short_some {ts : List JsonToken} {next : State} (few : ts.length + next.begun ≤ 1) :
    Short (some (ts, next)) := by
  rintro _ _ ⟨⟩
  exact few

theorem short_none : Short none := nofun

theorem short_begin? (c : Char) : Short (begin? c) := by
  unfold begin?
  repeat' apply Short.ite
  all_goals first
    | exact short_none
    | exact short_some (Nat.le_of_ble_eq_true rfl)

theorem flush?_length {s : State} {ts : List JsonToken} (read : flush? s = some ts) :
    ts.length ≤ s.begun := by
  cases s with
  | gap =>
      cases read
      exact Nat.le_refl 0
  | word before =>
      obtain ⟨t, -, rfl⟩ := Option.map_eq_some_iff.1 read
      exact Nat.le_refl 1
  | numeral before =>
      obtain ⟨n, -, rfl⟩ := Option.map_eq_some_iff.1 read
      exact Nat.le_refl 1
  | text q => cases read

theorem short_stepQuoted? (q : Quoted) (c : Char) : Short (stepQuoted? q c) := by
  unfold stepQuoted?
  split
  next =>
    refine .ite (short_some ?_) (.ite (short_some ?_) (.ite short_none (short_some ?_)))
    all_goals exact Nat.le_refl 1
  next =>
    refine .ite (short_some (Nat.le_refl 1)) ?_
    cases Quoted.shortEscape? c with
    | none => exact short_none
    | some d => exact short_some (Nat.le_refl 1)
  next =>
    intro ts next read
    obtain ⟨d, -, same⟩ := Option.map_eq_some_iff.1 read
    split at same
    all_goals cases same
    all_goals exact Nat.le_refl 1

/-- Where a token ends because another begins, there are two of them. -/
theorem flush?_begin?_length {s next : State} {c : Char} {ts : List JsonToken}
    (read : (do
      let ended ← flush? s
      let (begun, next) ← begin? c
      some (ended ++ begun, next)) = some (ts, next)) : ts.length + next.begun ≤ s.begun + 1 := by
  obtain ⟨ended, flushed, read⟩ := Option.bind_eq_some_iff.1 read
  obtain ⟨⟨begun, next'⟩, started, read⟩ := Option.bind_eq_some_iff.1 read
  cases read
  have before := flush?_length flushed
  have after := short_begin? c begun next started
  rw [List.length_append]
  omega

/-- A character completes one token at most. -/
theorem step?_length {s next : State} {c : Char} {ts : List JsonToken}
    (read : step? s c = some (ts, next)) : ts.length + next.begun ≤ s.begun + 1 := by
  cases s with
  | gap => exact short_begin? c ts next read
  | word before =>
      rw [step?] at read
      split at read
      next =>
        cases read
        exact Nat.le_succ 1
      next => exact flush?_begin?_length read
  | numeral before =>
      rw [step?] at read
      split at read
      next =>
        cases read
        exact Nat.le_succ 1
      next => exact flush?_begin?_length read
  | text q => exact Nat.le_succ_of_le (short_stepQuoted? q c ts next read)

theorem run?_length {s : State} {cs : List Char} {ts : List JsonToken}
    (read : run? s cs = some ts) : ts.length ≤ s.begun + cs.length := by
  induction cs generalizing s ts with
  | nil => exact flush?_length read
  | cons c cs ih =>
      rw [run?] at read
      split at read
      next => cases read
      next first next stepped =>
        obtain ⟨later, rest, rfl⟩ := Option.map_eq_some_iff.1 read
        have now := step?_length stepped
        have after := ih rest
        rw [List.length_append, List.length_cons]
        omega

end Lexer

/-- A document has no more values than the text that spells it has characters. -/
theorem Document.size_le_of_read? {text : String} {d : Document} (read : read? text = some d) :
    d.size ≤ text.toList.length := by
  obtain ⟨ts, lexed, parsed⟩ := Option.bind_eq_some_iff.1 read
  have tokens := Lexer.run?_length lexed
  have values := Reader.run?_size parsed
  have empty : Reader.start.size = 0 := rfl
  have between : Lexer.State.gap.begun = 0 := rfl
  omega

end PromptStream
