import Mathlib.Data.List.Basic
import PromptStream.Json.Document
import PromptStream.Json.Writer

/-!
# Tokens of JSON text

A document is spelled by its tokens, and the reader gives every document back from them
(`Reader.run?_tokens`), whatever containers are open around it.

Some characters spell some tokens if the lexer, wherever it meets them between two tokens,
turns them into these tokens and goes on behind them (`Spells`).  A quoted string spells
itself: each way in which a character is escaped is one that the lexer undoes
(`Lexer.run?_escapeChar`).  A list or an object spells what its parts spell.
-/

namespace PromptStream

/-! ## The tokens of a document -/

mutual

/-- The tokens of a document. -/
def Document.tokens : Document → List JsonToken
  | .null => [.null]
  | .bool b => [.bool b]
  | .number n => [.number n]
  | .text s => [.text s]
  | .array items => .openArray :: Document.itemTokens items
  | .object members => .openObject :: Document.memberTokens members

/-- The tokens of the items of an array, and its end. -/
def Document.itemTokens : List Document → List JsonToken
  | [] => [.closeArray]
  | [d] => d.tokens ++ [.closeArray]
  | d :: rest => d.tokens ++ .comma :: Document.itemTokens rest

/-- The tokens of the members of an object, and its end. -/
def Document.memberTokens : List (Option String × Document) → List JsonToken
  | [] => [.closeObject]
  | [(k, d)] => .text k :: .colon :: (d.tokens ++ [.closeObject])
  | (k, d) :: rest => .text k :: .colon :: (d.tokens ++ .comma :: Document.memberTokens rest)

end

namespace Reader

mutual

/-- The reader delivers a document from its tokens. -/
theorem run?_tokens (d : Document) (stack : List Level) (mayClose : Bool) (ts : List JsonToken) :
    run? ⟨stack, .value mayClose⟩ (d.tokens ++ ts) = run? (deliver d stack) ts := by
  cases d with
  | null => rfl
  | bool b => rfl
  | number n => rfl
  | text s => rfl
  | array items => exact run?_itemTokens items [] stack true ts fun _ => rfl
  | object members => exact run?_memberTokens members [] stack true ts fun _ => rfl

theorem run?_itemTokens (items before : List Document) (stack : List Level) (mayClose : Bool)
    (ts : List JsonToken) (closes : items = [] → mayClose = true) :
    run? ⟨.items before :: stack, .value mayClose⟩ (Document.itemTokens items ++ ts)
      = run? (deliver (.array (before.reverse ++ items)) stack) ts := by
  match items with
  | [] =>
      rw [closes rfl, List.append_nil]
      rfl
  | [d] =>
      rw [Document.itemTokens, List.append_assoc, run?_tokens d, ← List.reverse_cons]
      rfl
  | d :: e :: rest =>
      rw [Document.itemTokens, List.append_assoc, run?_tokens d]
      · refine (run?_itemTokens (e :: rest) (d :: before) stack false ts nofun).trans ?_
        rw [List.reverse_cons, List.append_assoc]
        rfl
      · exact nofun

theorem run?_memberTokens (members before : List (Option String × Document))
    (stack : List Level) (mayClose : Bool) (ts : List JsonToken)
    (closes : members = [] → mayClose = true) :
    run? ⟨.members before none :: stack, .name mayClose⟩ (Document.memberTokens members ++ ts)
      = run? (deliver (.object (before.reverse ++ members)) stack) ts := by
  match members with
  | [] =>
      rw [closes rfl, List.append_nil]
      rfl
  | [(k, d)] =>
      rw [Document.memberTokens, List.cons_append, List.cons_append, List.append_assoc]
      refine (run?_tokens d (.members before k :: stack) false _).trans ?_
      rw [← List.reverse_cons]
      rfl
  | (k, d) :: e :: rest =>
      rw [Document.memberTokens, List.cons_append, List.cons_append, List.append_assoc]
      · refine (run?_tokens d (.members before k :: stack) false _).trans ?_
        refine (run?_memberTokens (e :: rest) ((k, d) :: before) stack false ts nofun).trans ?_
        rw [List.reverse_cons, List.append_assoc]
        rfl
      · exact nofun

end

end Reader

/-! ## The tokens of some characters -/

/-- Characters that are read as some tokens, whatever comes after them. -/
def Spells (cs : List Char) (ts : List JsonToken) : Prop :=
  ∀ rest, Lexer.run? .gap (cs ++ rest) = (Lexer.run? .gap rest).map (ts ++ ·)

section Spells

variable {cs cs' : List Char} {ts ts' : List JsonToken}

theorem Spells.append (h : Spells cs ts) (h' : Spells cs' ts') :
    Spells (cs ++ cs') (ts ++ ts') := by
  intro rest
  rw [List.append_assoc, h, h', Option.map_map]
  refine congrArg (Option.map · _) (funext fun later => ?_)
  exact (List.append_assoc ts ts' later).symm

/-- A bracket, a brace, a comma or a colon. -/
theorem spells_mark {c : Char} {t : JsonToken} (begins : Lexer.begin? c = some ([t], .gap)) :
    Spells [c] [t] := by
  intro rest
  simp only [List.singleton_append, Lexer.run?, Lexer.step?, begins]

theorem Spells.cons {c : Char} {t : JsonToken} (begins : Lexer.begin? c = some ([t], .gap))
    (h : Spells cs ts) : Spells (c :: cs) (t :: ts) :=
  (spells_mark begins).append h

end Spells

/-! ### Quoted strings -/

namespace Lexer

/-- A string of which some characters have been read, last first. -/
def reading (before : List Char) : State := .text ⟨before, none, false, .plain⟩

theorem hexValue?_hexDigit : ∀ n < 16, hexValue? (Json.hexDigit n) = some n := by decide

/-- Two hexadecimal digits after two zeros stand for a character. -/
theorem run?_hexEscape (before : List Char) {c : Char} (low : c.toNat < 0x20)
    (rest : List Char) :
    run? (reading before) ('\\' :: 'u' :: '0' :: '0' ::
        Json.hexDigit (c.toNat / 16) :: Json.hexDigit (c.toNat % 16) :: rest)
      = run? (reading (c :: before)) rest := by
  have first := hexValue?_hexDigit (c.toNat / 16) (by omega)
  have second := hexValue?_hexDigit (c.toNat % 16) (by omega)
  have value : 16 * (c.toNat / 16) + c.toNat % 16 = c.toNat := Nat.div_add_mod _ _
  have unit : (Quoted.mk before none false (.hex 3 (c.toNat / 16))).pushUnit c.toNat
      = ⟨c :: before, none, false, .plain⟩ := by
    rw [Quoted.pushUnit, if_neg (by omega), if_neg (by omega), Char.ofNat_toNat]
    rfl
  have zero : hexValue? '0' = some 0 := by decide
  simp [reading, run?, step?, stepQuoted?, zero, first, second, value, unit]

/-- A character of a string is read back, however it was escaped. -/
theorem run?_escapeChar (before : List Char) (c : Char) (rest : List Char) :
    run? (reading before) (Json.escapeChar c ++ rest) = run? (reading (c :: before)) rest := by
  have short : ∀ {e : Char}, e ≠ 'u' → Quoted.shortEscape? e = some c →
      run? (reading before) ('\\' :: e :: rest) = run? (reading (c :: before)) rest := by
    intro e other escape
    simp [reading, run?, step?, stepQuoted?, other, escape, Quoted.push, Quoted.closePair]
  unfold Json.escapeChar
  split_ifs with quote backslash newline ret tab back feed low
  · subst quote
    exact short (by decide) rfl
  · subst backslash
    exact short (by decide) rfl
  · subst newline
    exact short (by decide) rfl
  · subst ret
    exact short (by decide) rfl
  · subst tab
    exact short (by decide) rfl
  · subst back
    exact short (by decide) rfl
  · subst feed
    exact short (by decide) rfl
  · exact run?_hexEscape before low rest
  · simp [reading, run?, step?, stepQuoted?, quote, backslash, low, Quoted.push,
      Quoted.closePair]

theorem run?_escaped (before cs rest : List Char) :
    run? (reading before) (cs.flatMap Json.escapeChar ++ rest)
      = run? (reading (cs.reverse ++ before)) rest := by
  induction cs generalizing before with
  | nil => rfl
  | cons c cs ih =>
      rw [List.flatMap_cons, List.append_assoc, run?_escapeChar, ih, List.reverse_cons,
        List.append_assoc, List.singleton_append]

end Lexer

/-- A quoted string is read back, whatever characters it has. -/
theorem spells_quote (s : String) : Spells (Json.quote s) [.text (some s)] := by
  intro rest
  have opens : Lexer.run? .gap (Json.quote s ++ rest)
      = Lexer.run? (Lexer.reading []) (s.toList.flatMap Json.escapeChar ++ '"' :: rest) := by
    simp [Json.quote, Lexer.run?, Lexer.step?, Lexer.begin?, Lexer.isGap, Lexer.reading,
      Lexer.Quoted.start]
  rw [opens, Lexer.run?_escaped]
  simp [Lexer.reading, Lexer.run?, Lexer.step?, Lexer.stepQuoted?, Lexer.Quoted.close,
    Lexer.Quoted.closePair]

/-! ### Lists and objects -/

/-- A list spells what its items spell. -/
theorem spells_items {vs : List Json} {ds : List Document}
    (h : List.Forall₂ (fun v d => Spells v.writeCompact d.tokens) vs ds) :
    Spells (Json.writeItems vs) (Document.itemTokens ds) := by
  induction h with
  | nil => exact spells_mark (by decide)
  | @cons v d vs ds first rest ih =>
      cases rest with
      | nil => exact first.append (spells_mark (by decide))
      | cons => exact first.append (ih.cons (by decide))

/-- An object spells what its members spell. -/
theorem spells_members {ms : List (String × Json)} {ds : List (Option String × Document)}
    (h : List.Forall₂ (fun m d => d.1 = some m.1 ∧ Spells m.2.writeCompact d.2.tokens) ms ds) :
    Spells (Json.writeMembers ms) (Document.memberTokens ds) := by
  induction h with
  | nil => exact spells_mark (by decide)
  | @cons m d ms ds first rest ih =>
      obtain ⟨k, v⟩ := m
      obtain ⟨k', d⟩ := d
      obtain ⟨rfl, value⟩ := first
      have colon : Lexer.begin? ':' = some ([.colon], .gap) := by decide
      cases rest with
      | nil => exact (spells_quote k).append (.cons colon (value.append (spells_mark (by decide))))
      | cons => exact (spells_quote k).append (.cons colon (value.append (ih.cons (by decide))))

/-- Text that spells the tokens of a document is read as that document. -/
theorem Document.read?_of_spells {cs : List Char} {d : Document} (h : Spells cs d.tokens) :
    Document.read? (String.ofList cs) = some d := by
  have lexed : Lexer.tokens? (String.ofList cs) = some d.tokens := by
    have all := h []
    rw [List.append_nil] at all
    rw [Lexer.tokens?, String.toList_ofList, all]
    simp [Lexer.run?, Lexer.flush?]
  have delivered := Reader.run?_tokens d [] false []
  rw [List.append_nil] at delivered
  rw [Document.read?, lexed]
  exact delivered

end PromptStream
