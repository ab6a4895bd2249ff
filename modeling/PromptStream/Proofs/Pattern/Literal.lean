import PromptStream.Stop
import PromptStream.Proofs.Text.Occurrence

/-!
# Escaped texts as patterns

A text that is escaped and read back as a pattern matches that text and nothing
else, so its leftmost match is the first occurrence of the text
(`Stop.find?_of_compile?_escape`).  Reading may refuse a text that is too long,
and that is the only way in which it can fail.

*Reading.*  Outside of the verbose flag every character of an escaped text adds
one leaf to the open group, whether it stands for itself or after a backslash
(`run?_escaped`).  The group is therefore the sequence of its characters.

*Matching.*  Expressions are read backwards, so the marks of a sequence are built
from its last character on.  At every stage the marks tell at which gaps the rest
of the word begins (`begins_cats_leaves`).
-/

namespace PromptStream

namespace Pattern

/-- The expression of one character. -/
def leaf (c : Char) : Node := .one (.char c)

/-! ## Matching a word -/

theorem CharSet.mem_char (c d : Char) : (CharSet.char c).mem d = (c == d) := by
  simp only [CharSet.char, CharSet.mem]
  rw [Bool.eq_iff_iff, Bool.and_eq_true, decide_eq_true_iff, decide_eq_true_iff, beq_iff_eq]
  constructor
  · rintro ⟨low, high⟩
    exact Char.toNat_inj.1 (Nat.le_antisymm low high)
  · rintro rfl
    exact ⟨Nat.le_refl _, Nat.le_refl _⟩

/-- For each gap of a text, whether a word begins there. -/
def wordMarks (word : List Char) : List Char → Marks
  | [] => [word.isEmpty]
  | c :: cs => word.isPrefixOf (c :: cs) :: wordMarks word cs

theorem wordMarks_nil (before : Option Char) (cs : List Char) :
    wordMarks [] cs = (gapsFrom before cs).map fun _ => true := by
  induction cs generalizing before with
  | nil => rfl
  | cons c cs ih => rw [wordMarks, gapsFrom, List.map_cons, ih (some c)]; rfl

theorem wordMarks_eq_cons (word cs : List Char) :
    wordMarks word cs = word.isPrefixOf cs :: (wordMarks word cs).drop 1 := by
  cases cs with
  | nil => cases word <;> rfl
  | cons c cs => rfl

/-- A word begins where its first character stands before the rest of it. -/
theorem begins_leaf (before : Option Char) (c : Char) (word cs : List Char) :
    (leaf c).begins (gapsFrom before cs) (wordMarks word cs) = wordMarks (c :: word) cs := by
  simp only [leaf, Node.begins]
  induction cs generalizing before with
  | nil => rfl
  | cons d cs ih =>
      rw [gapsFrom, wordMarks, List.drop_one, List.tail_cons, wordMarks_eq_cons word cs,
        List.cons_append, List.zipWith_cons_cons, ih, wordMarks]
      simp [CharSet.mem_char, List.isPrefixOf]

theorem begins_cats_cons (gs : List Gap) (p : Node) (ps : List Node) (m : Marks) :
    (Node.cats (p :: ps)).begins gs m = p.begins gs ((Node.cats ps).begins gs m) := by
  cases ps with
  | nil => rfl
  | cons q qs => rfl

/-- A sequence of characters begins where the word that they spell begins. -/
theorem begins_cats_leaves (before : Option Char) (word cs : List Char) :
    (Node.cats (word.map leaf)).begins (gapsFrom before cs)
      ((gapsFrom before cs).map fun _ => true) = wordMarks word cs := by
  induction word with
  | nil => exact (wordMarks_nil before cs).symm
  | cons c word ih => rw [List.map_cons, begins_cats_cons, ih, begins_leaf]

theorem firstOffset?_wordMarks (word cs : List Char) :
    (wordMarks word cs).firstOffset? cs = firstOccurrence? word cs := by
  induction cs with
  | nil =>
      cases word with
      | nil => rfl
      | cons c word => rfl
  | cons c cs ih =>
      rw [wordMarks, firstOccurrence?]
      cases word.isPrefixOf (c :: cs) with
      | true => rfl
      | false => rw [Marks.firstOffset?, ih]; rfl

theorem findStart?_cats_leaves (word cs : List Char) :
    (Node.cats (word.map leaf)).findStart? cs = firstOccurrence? word cs := by
  rw [Node.findStart?, gaps, begins_cats_leaves, firstOffset?_wordMarks]

/-! ## Reading an escaped word -/

theorem readEscape?_of_mem {c : Char} (h : c ∈ metaChars) (f : Flags) (cs : List Char) :
    readEscape? f (c :: cs) = some (.char c, cs) := by
  simp only [metaChars, List.mem_cons, List.not_mem_nil, or_false] at h
  rcases h with rfl | rfl | rfl | rfl | rfl | rfl | rfl | rfl | rfl | rfl | rfl | rfl | rfl | rfl
    | rfl | rfl | rfl | rfl <;> rfl

/-- A state that reads characters as they stand: no case folding and no skips. -/
def State.Plain (s : State) : Prop := s.flags = {}

theorem State.Plain.pushLeaf {s : State} (h : s.Plain) (n : Node) : (s.pushLeaf n).Plain := h

theorem State.Plain.skip {s : State} (h : s.Plain) (cs : List Char) : s.flags.skip cs = cs := by
  rw [h]; rfl

theorem State.Plain.charSet {s : State} (h : s.Plain) (c : Char) :
    s.flags.charSet c = .char c := by
  rw [h]; rfl

/-- A character without a meaning of its own adds itself as a leaf. -/
theorem step?_of_not_mem {s : State} (plain : s.Plain) {c : Char} (h : c ∉ metaChars)
    (cs : List Char) : s.step? c cs = some (s.pushLeaf (leaf c), cs) := by
  simp only [metaChars, List.mem_cons, List.not_mem_nil, or_false, not_or] at h
  unfold State.step?
  split
  case h_13 => rw [plain.charSet, leaf]
  all_goals simp_all

/-- A character with a meaning of its own adds itself as a leaf after a backslash. -/
theorem step?_backslash {s : State} (plain : s.Plain) {c : Char} (h : c ∈ metaChars)
    (cs : List Char) : s.step? '\\' (c :: cs) = some (s.pushLeaf (leaf c), cs) := by
  simp only [State.step?]
  rw [readEscape?_of_mem h, Option.map_some, escapeNode, plain.charSet, leaf]

/-- The state once the leaves of a word are added. -/
def State.pushWord (s : State) (word : List Char) : State :=
  word.foldl (fun s c => s.pushLeaf (leaf c)) s

/-- Reading an escaped word adds its characters as leaves, one after another. -/
theorem run?_escaped {s : State} (plain : s.Plain) (word : List Char) {fuel : Nat}
    (enough : (word.flatMap escapeChar).length < fuel) (top : s.outer = []) :
    run? fuel s (word.flatMap escapeChar) = some (s.pushWord word).current.whole := by
  induction word generalizing s fuel with
  | nil =>
      cases fuel with
      | zero => exact absurd enough (Nat.not_lt_zero _)
      | succ fuel =>
          rw [List.flatMap_nil, run?, plain.skip]
          simp [top, State.pushWord]
  | cons c word ih =>
      cases fuel with
      | zero => exact absurd enough (Nat.not_lt_zero _)
      | succ fuel =>
          rw [List.flatMap_cons, run?, plain.skip]
          by_cases isMeta : c ∈ metaChars
          · have spelled : escapeChar c = ['\\', c] := by
              rw [escapeChar, if_pos (List.contains_iff_mem.2 isMeta)]
            rw [List.flatMap_cons, spelled] at enough
            rw [spelled]
            simp only [List.cons_append, List.nil_append, step?_backslash plain isMeta]
            refine ih (plain.pushLeaf _) ?_ top
            simp only [List.cons_append, List.nil_append, List.length_cons] at enough
            omega
          · have spelled : escapeChar c = [c] := by
              rw [escapeChar, if_neg (fun found => isMeta (List.contains_iff_mem.1 found))]
            rw [List.flatMap_cons, spelled] at enough
            rw [spelled]
            simp only [List.cons_append, List.nil_append, step?_of_not_mem plain isMeta]
            refine ih (plain.pushLeaf _) ?_ top
            simp only [List.cons_append, List.nil_append, List.length_cons] at enough
            omega

theorem pushWord_parts (s : State) (word : List Char) :
    (s.pushWord word).current.parts
      = (word.map fun c => some ⟨leaf c, 0⟩).reverse ++ s.current.parts := by
  induction word generalizing s with
  | nil => rfl
  | cons c word ih =>
      rw [State.pushWord, List.foldl_cons, ← State.pushWord, ih, List.map_cons, List.reverse_cons,
        List.append_assoc]
      rfl

theorem pushWord_before (s : State) (word : List Char) :
    (s.pushWord word).current.before = s.current.before := by
  induction word generalizing s with
  | nil => rfl
  | cons c word ih => exact ih (s.pushLeaf (leaf c))

/-- A group that holds nothing but leaves is the sequence of its characters. -/
theorem whole_node_of_leaves {g : Group} {word : List Char} (before : g.before = [])
    (parts : g.parts = (word.map fun c => some ⟨leaf c, 0⟩).reverse) :
    g.whole.node = Node.cats (word.map leaf) := by
  rw [Group.whole, before]
  simp only [Group.alternative]
  match word with
  | [] =>
      rw [parts]
      rfl
  | [c] =>
      rw [parts]
      rfl
  | c :: d :: word =>
      split
      next none => rw [none] at parts; simp at parts
      next p single =>
        rw [single] at parts
        have lengths := congrArg List.length parts
        simp at lengths
      next =>
        rw [parts, List.reverse_reverse, List.filterMap_map]
        simp [Function.comp_def]

/-- The expression that an escaped word spells, if it is not too long to be read. -/
theorem read?_escaped {word : List Char} {node : Node}
    (h : read? (word.flatMap escapeChar) = some node) : node = Node.cats (word.map leaf) := by
  have start : State.Plain ⟨{ flags := {} }, [], []⟩ := rfl
  rw [read?, run?_escaped start word (Nat.lt_succ_self _) rfl] at h
  dsimp only at h
  split at h
  · cases h
    refine whole_node_of_leaves (pushWord_before _ _) ?_
    rw [pushWord_parts]
    exact List.append_nil _
  · cases h

end Pattern

/-! ## Literal stops -/

/-- The stop that an escaped text describes matches first where the text first
occurs. -/
theorem Stop.find?_of_compile?_escape {word : String} {stop : Stop}
    (h : Stop.compile? (Pattern.escape word) = some stop) (s : String) :
    stop.find? s = firstOccurrence? word.toList s.toList := by
  simp only [Stop.compile?, Pattern.compile?, Pattern.escape, String.toList_ofList,
    Option.map_map, Option.map_eq_some_iff, Function.comp_apply] at h
  obtain ⟨node, spelled, rfl⟩ := h
  rw [Pattern.read?_escaped spelled]
  exact Pattern.findStart?_cats_leaves word.toList s.toList

theorem Stop.source_of_compile? {source : String} {stop : Stop}
    (h : Stop.compile? source = some stop) : stop.source = source := by
  simp only [Stop.compile?, Pattern.compile?, Option.map_map, Option.map_eq_some_iff,
    Function.comp_apply] at h
  obtain ⟨node, -, rfl⟩ := h
  rfl

/-- An escaped text is at least as long as the text. -/
theorem Pattern.byteLength_le_escape (word : String) :
    byteLength word.toList ≤ (Pattern.escape word).utf8ByteSize := by
  rw [← byteLength_eq_utf8ByteSize, Pattern.escape, String.toList_ofList]
  induction word.toList with
  | nil => exact Nat.le_refl 0
  | cons c cs ih =>
      rw [List.flatMap_cons, byteLength_append, byteLength_cons]
      refine Nat.add_le_add ?_ ih
      rw [Pattern.escapeChar]
      split
      · rw [byteLength_cons, byteLength_cons]
        omega
      · rw [byteLength_cons]
        exact Nat.le_add_right _ _

end PromptStream
