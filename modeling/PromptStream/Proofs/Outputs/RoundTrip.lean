import Mathlib.Data.List.Forall2
import PromptStream.Proofs.Dict.Sorted
import PromptStream.Proofs.Json.Tokens
import PromptStream.Proofs.Outputs.Write

/-!
# Outputs as JSON text

A tree is written as the text of a document (`OutputValue.document`), and read back from it.
The reader tries the shapes of a value in turn, so what an array is depends on what is in
it: strings make a list of texts, objects a list of subtrees.  An empty array has nothing
that tells, and counts as a list of texts (`OutputValue.normalized`).  Nothing else about a
tree is lost, and the text is the same again.

The levels of a tree are kept in order (`Outputs.Ordered`), as every write keeps them
(`Outputs.Ordered.insertAt`); and the reader goes down `Json.maxDepth` levels of text, so a
deeper tree is not read at all (`Outputs.read?_compact`).
-/

namespace PromptStream

/-! ## Levels of JSON -/

mutual

/-- How deep the lists and objects of a value are nested. -/
def Json.nesting : Json → Nat
  | .array items => Json.itemsNesting items + 1
  | .object members => Json.membersNesting members + 1
  | _ => 0

/-- How deep the items of a list are nested. -/
def Json.itemsNesting : List Json → Nat
  | [] => 0
  | v :: rest => max v.nesting (Json.itemsNesting rest)

/-- How deep the members of an object are nested. -/
def Json.membersNesting : List (String × Json) → Nat
  | [] => 0
  | (_, v) :: rest => max v.nesting (Json.membersNesting rest)

end

/-! ## Trees -/

/-- Every level of a value has its keys in order. -/
inductive OutputValue.Ordered : OutputValue → Prop where
  | text (s : String) : OutputValue.Ordered (.text s)
  | textList (items : List String) : OutputValue.Ordered (.textList items)
  | nested {entries : Outputs} (sorted : Dict.Sorted entries)
      (below : ∀ e ∈ entries, OutputValue.Ordered e.2) : OutputValue.Ordered (.nested entries)
  | nestedList {items : List Outputs} (sorted : ∀ o ∈ items, Dict.Sorted o)
      (below : ∀ o ∈ items, ∀ e ∈ o, OutputValue.Ordered e.2) :
      OutputValue.Ordered (.nestedList items)

/-- No list of subtrees within a value is empty. -/
inductive OutputValue.Filled : OutputValue → Prop where
  | text (s : String) : OutputValue.Filled (.text s)
  | textList (items : List String) : OutputValue.Filled (.textList items)
  | nested {entries : Outputs} (below : ∀ e ∈ entries, OutputValue.Filled e.2) :
      OutputValue.Filled (.nested entries)
  | nestedList {items : List Outputs} (nonempty : items ≠ [])
      (below : ∀ o ∈ items, ∀ e ∈ o, OutputValue.Filled e.2) :
      OutputValue.Filled (.nestedList items)

mutual

/-- A value with every empty list of subtrees replaced by an empty list of texts. -/
def OutputValue.normalized : OutputValue → OutputValue
  | .text s => .text s
  | .textList items => .textList items
  | .nested entries => .nested (OutputValue.normalizedEntries entries)
  | .nestedList [] => .textList []
  | .nestedList (o :: rest) => .nestedList (OutputValue.normalizedTrees (o :: rest))

/-- The entries of a tree, normalized. -/
def OutputValue.normalizedEntries : List (String × OutputValue) → List (String × OutputValue)
  | [] => []
  | (k, v) :: rest => (k, v.normalized) :: OutputValue.normalizedEntries rest

/-- The trees of a list, normalized. -/
def OutputValue.normalizedTrees :
    List (List (String × OutputValue)) → List (List (String × OutputValue))
  | [] => []
  | o :: rest => OutputValue.normalizedEntries o :: OutputValue.normalizedTrees rest

end

mutual

/-- The document that a value is written as. -/
def OutputValue.document : OutputValue → Document
  | .text s => .text (some s)
  | .textList items => .array (items.map fun s => .text (some s))
  | .nested entries => .object (OutputValue.entriesDocument entries)
  | .nestedList items => .array (OutputValue.treesDocument items)

/-- The members that the entries of a tree are written as. -/
def OutputValue.entriesDocument :
    List (String × OutputValue) → List (Option String × Document)
  | [] => []
  | (k, v) :: rest => (some k, v.document) :: OutputValue.entriesDocument rest

/-- The items that a list of trees is written as. -/
def OutputValue.treesDocument : List (List (String × OutputValue)) → List Document
  | [] => []
  | o :: rest =>
      .object (OutputValue.entriesDocument o) :: OutputValue.treesDocument rest

end

namespace Outputs

/-- Every level of a tree has its keys in order. -/
structure Ordered (o : Outputs) : Prop where
  sorted : Dict.Sorted o
  below : ∀ e ∈ o, e.2.Ordered

/-- No list of subtrees within a tree is empty. -/
def Filled (o : Outputs) : Prop := ∀ e ∈ o, e.2.Filled

/-- A tree with every empty list of subtrees replaced by an empty list of texts. -/
def normalized (o : Outputs) : Outputs := OutputValue.normalizedEntries o

/-! ### Writes keep the order -/

variable {o : Outputs}

theorem Ordered.empty : Ordered [] := ⟨List.Pairwise.nil, nofun⟩

theorem Ordered.insert (h : o.Ordered) (key : String) {v : OutputValue} (value : v.Ordered) :
    Ordered (Dict.insert key v o) := by
  refine ⟨h.sorted.insert key v, fun e mem => ?_⟩
  rcases Dict.mem_insert mem with rfl | mem
  · exact value
  · exact h.below e mem

theorem Ordered.asNested (h : o.Ordered) (key : String) :
    Ordered (OutputValue.asNested (Dict.find? key o)) := by
  cases found : Dict.find? key o with
  | none => exact .empty
  | some v =>
      cases h.below _ (Dict.mem_of_find? found) with
      | nested sorted below => exact ⟨sorted, below⟩
      | _ => exact .empty

theorem Ordered.asNestedList (h : o.Ordered) (key : String) :
    ∀ o' ∈ OutputValue.asNestedList (Dict.find? key o), Ordered o' := by
  cases found : Dict.find? key o with
  | none => exact nofun
  | some v =>
      cases h.below _ (Dict.mem_of_find? found) with
      | nestedList sorted below => exact fun o' mem => ⟨sorted o' mem, below o' mem⟩
      | _ => exact nofun

theorem ordered_nestedList {items : List Outputs} (h : ∀ o ∈ items, Ordered o) :
    OutputValue.Ordered (.nestedList items) :=
  .nestedList (fun o mem => (h o mem).sorted) fun o mem => (h o mem).below

/-- A change of one level that keeps the order keeps the order of the tree. -/
theorem Ordered.modifyAt {f : Outputs → Outputs}
    (keeps : ∀ {o : Outputs}, o.Ordered → (f o).Ordered) (h : o.Ordered) (address : List String) :
    (modifyAt f address o).1.Ordered := by
  induction address using Address.induction generalizing o with
  | nil => exact keeps h
  | nested key rest plain ih =>
      obtain ⟨sorted, below⟩ := ih (h.asNested key)
      rw [modifyAt_nested f o key plain]
      exact h.insert key (.nested sorted below)
  | item key segment i rest position ih =>
      have items := h.asNestedList key
      by_cases far : (OutputValue.asNestedList (Dict.find? key o)).length + maxIndexGap < i
      · rw [modifyAt_far f o key rest position far]
        exact h.insert key (ordered_nestedList items)
      · rw [modifyAt_item f o key rest position (Nat.le_of_not_lt far)]
        refine h.insert key (ordered_nestedList fun o' mem => ?_)
        rcases List.mem_or_eq_of_mem_set mem with mem | rfl
        · rcases List.mem_append.1 mem with mem | mem
          · exact items o' mem
          · exact (List.eq_of_mem_replicate mem).symm ▸ .empty
        · refine ih ?_
          rw [List.getD_eq_getElem?_getD]
          cases entry : (OutputValue.asNestedList (Dict.find? key o))[i]? with
          | none => exact .empty
          | some o' => exact items o' (List.mem_of_getElem? entry)

/-- A write keeps the order of every level. -/
theorem Ordered.insertAt (h : o.Ordered) (address : List String) (key : String)
    {v : OutputValue} (value : v.Ordered) : (o.insertAt address key v).Ordered :=
  h.modifyAt (fun h => h.insert key value) address

end Outputs

namespace OutputValue

/-! ## The text of a tree -/

mutual

/-- A value is written as the text of its document. -/
theorem spells_document (v : OutputValue) : Spells v.toJson.writeCompact v.document.tokens := by
  match v with
  | .text s => exact spells_quote s
  | .textList items =>
      refine .cons (by decide) (spells_items ?_)
      rw [List.forall₂_map_left_iff, List.forall₂_map_right_iff, List.forall₂_same]
      exact fun s _ => spells_quote s
  | .nested entries => exact .cons (by decide) (spells_members (spells_entries entries))
  | .nestedList items => exact .cons (by decide) (spells_items (spells_trees items))

theorem spells_entries (entries : List (String × OutputValue)) :
    List.Forall₂ (fun m d => d.1 = some m.1 ∧ Spells m.2.writeCompact d.2.tokens)
      (entriesJson entries) (entriesDocument entries) := by
  match entries with
  | [] => exact .nil
  | (k, v) :: rest => exact .cons ⟨rfl, spells_document v⟩ (spells_entries rest)

theorem spells_trees (items : List (List (String × OutputValue))) :
    List.Forall₂ (fun v d => Spells v.writeCompact d.tokens)
      (treesJson items) (treesDocument items) := by
  match items with
  | [] => exact .nil
  | o :: rest =>
      exact .cons (.cons (by decide) (spells_members (spells_entries o))) (spells_trees rest)

end

/-! ## What is read -/

theorem mapM_text? (items : List String) :
    (items.map fun s => Document.text (some s)).mapM Document.text? = some items := by
  induction items with
  | nil => rfl
  | cons s rest ih => simp [ih, Document.text?]

theorem itemsNesting_texts (items : List String) : Json.itemsNesting (items.map .text) = 0 := by
  induction items with
  | nil => rfl
  | cons s rest ih => simp [Json.itemsNesting, Json.nesting, ih]

/-- Normalizing keeps the keys. -/
theorem sorted_normalizedEntries {entries : List (String × OutputValue)}
    (sorted : Dict.Sorted entries) : Dict.Sorted (normalizedEntries entries) := by
  have keys : ∀ es : List (String × OutputValue),
      (normalizedEntries es).map Prod.fst = es.map Prod.fst := by
    intro es
    induction es with
    | nil => rfl
    | cons e rest ih => simp [normalizedEntries, ih]
  rw [Dict.Sorted, ← List.pairwise_map (f := Prod.fst)] at sorted ⊢
  exact (keys entries).symm ▸ sorted

mutual

/-- A value is read back normalized, if it is not nested too deep. -/
theorem ofDocument?_document {v : OutputValue} (ordered : v.Ordered) (depth : Nat) :
    ofDocument? depth v.document
      = if v.toJson.nesting ≤ depth then some v.normalized else none := by
  match v, ordered with
  | .text s, _ => rfl
  | .textList items, _ =>
      cases depth with
      | zero => rfl
      | succ depth =>
          simp only [document, ofDocument?, mapM_text?, toJson, Json.nesting, itemsNesting_texts,
            normalized]
          rw [if_pos (by omega)]
  | .nested entries, .nested sorted below =>
      cases depth with
      | zero => rfl
      | succ depth =>
          simp only [document, ofDocument?, toJson, Json.nesting, normalized,
            ofMembers?_entries below depth, Nat.succ_le_succ_iff]
          split
          · rw [Option.map_some, (sorted_normalizedEntries sorted).ofList_eq]
          · rfl
  | .nestedList [], _ =>
      cases depth with
      | zero => rfl
      | succ depth => rfl
  | .nestedList (o :: rest), .nestedList sorted below =>
      cases depth with
      | zero => rfl
      | succ depth =>
          have noTexts : (treesDocument (o :: rest)).mapM Document.text? = none := rfl
          simp only [document, ofDocument?, toJson, Json.nesting, normalized, noTexts,
            ofItems?_trees sorted below depth, Nat.succ_le_succ_iff]
          split <;> rfl

theorem ofMembers?_entries {entries : List (String × OutputValue)}
    (below : ∀ e ∈ entries, e.2.Ordered) (depth : Nat) :
    ofMembers? depth (entriesDocument entries)
      = if Json.membersNesting (entriesJson entries) ≤ depth then some (normalizedEntries entries)
        else none := by
  match entries with
  | [] => rfl
  | (k, v) :: rest =>
      have first := ofDocument?_document (below (k, v) List.mem_cons_self) depth
      have others := ofMembers?_entries (fun e mem => below e (List.mem_cons_of_mem _ mem)) depth
      simp only [entriesDocument, ofMembers?, first, others, entriesJson, Json.membersNesting,
        normalizedEntries, max_le_iff]
      split_ifs <;> simp_all

theorem ofItems?_trees {items : List (List (String × OutputValue))}
    (sorted : ∀ o ∈ items, Dict.Sorted o) (below : ∀ o ∈ items, ∀ e ∈ o, e.2.Ordered)
    (depth : Nat) :
    ofItems? depth (treesDocument items)
      = if Json.itemsNesting (treesJson items) ≤ depth then some (normalizedTrees items)
        else none := by
  match items with
  | [] => rfl
  | o :: rest =>
      cases depth with
      | zero => simp [treesDocument, ofItems?, treesJson, Json.itemsNesting, Json.nesting]
      | succ depth =>
          have first := ofMembers?_entries (below o List.mem_cons_self) depth
          have others := ofItems?_trees (fun o mem => sorted o (List.mem_cons_of_mem _ mem))
            (fun o mem => below o (List.mem_cons_of_mem _ mem)) (depth + 1)
          have same := (sorted_normalizedEntries (sorted o List.mem_cons_self)).ofList_eq
          simp only [treesDocument, ofItems?, first, others, treesJson, Json.itemsNesting,
            Json.nesting, normalizedTrees, max_le_iff, Nat.succ_le_succ_iff]
          split_ifs <;> simp_all

end

/-! ## What is lost -/

mutual

/-- Normalizing does not change the text. -/
theorem toJson_normalized (v : OutputValue) : v.normalized.toJson = v.toJson := by
  match v with
  | .text s => rfl
  | .textList items => rfl
  | .nested entries => exact congrArg Json.object (entriesJson_normalized entries)
  | .nestedList [] => rfl
  | .nestedList (o :: rest) => exact congrArg Json.array (treesJson_normalized (o :: rest))

theorem entriesJson_normalized (entries : List (String × OutputValue)) :
    entriesJson (normalizedEntries entries) = entriesJson entries := by
  match entries with
  | [] => rfl
  | (k, v) :: rest =>
      rw [normalizedEntries, entriesJson, entriesJson, toJson_normalized v,
        entriesJson_normalized rest]

theorem treesJson_normalized (items : List (List (String × OutputValue))) :
    treesJson (normalizedTrees items) = treesJson items := by
  match items with
  | [] => rfl
  | o :: rest =>
      rw [normalizedTrees, treesJson, treesJson, entriesJson_normalized o,
        treesJson_normalized rest]

end

mutual

/-- Only an empty list of subtrees is changed. -/
theorem normalized_eq_iff (v : OutputValue) : v.normalized = v ↔ v.Filled := by
  match v with
  | .text s => exact iff_of_true rfl (.text s)
  | .textList items => exact iff_of_true rfl (.textList items)
  | .nested entries =>
      rw [normalized, nested.injEq, normalizedEntries_eq_iff entries]
      exact ⟨.nested, fun | .nested below => below⟩
  | .nestedList [] => exact iff_of_false nofun fun | .nestedList nonempty _ => nonempty rfl
  | .nestedList (o :: rest) =>
      rw [normalized, nestedList.injEq, normalizedTrees_eq_iff (o :: rest)]
      exact ⟨.nestedList (List.cons_ne_nil o rest), fun | .nestedList _ below => below⟩

theorem normalizedEntries_eq_iff (entries : List (String × OutputValue)) :
    normalizedEntries entries = entries ↔ ∀ e ∈ entries, e.2.Filled := by
  match entries with
  | [] => exact iff_of_true rfl nofun
  | (k, v) :: rest =>
      rw [normalizedEntries, List.cons.injEq, Prod.mk.injEq, normalized_eq_iff v,
        normalizedEntries_eq_iff rest, List.forall_mem_cons]
      exact and_congr_left fun _ => and_iff_right rfl

theorem normalizedTrees_eq_iff (items : List (List (String × OutputValue))) :
    normalizedTrees items = items ↔ ∀ o ∈ items, ∀ e ∈ o, e.2.Filled := by
  match items with
  | [] => exact iff_of_true rfl nofun
  | o :: rest =>
      rw [normalizedTrees, List.cons.injEq, normalizedEntries_eq_iff o,
        normalizedTrees_eq_iff rest, List.forall_mem_cons]

end

end OutputValue

namespace Outputs

/-- What is read from the text of a tree: the tree, normalized, unless it is nested too
deep. -/
theorem read?_compact {o : Outputs} (ordered : o.Ordered) :
    read? o.toJson.compact
      = if o.toJson.nesting ≤ Json.maxDepth then some o.normalized else none := by
  have spelled : Spells o.toJson.writeCompact
      (Document.object (OutputValue.entriesDocument o)).tokens :=
    .cons (by decide) (spells_members (OutputValue.spells_entries o))
  rw [read?, Json.compact, Document.read?_of_spells spelled]
  simp only [Option.bind_some, ofDocument?, toJson, Json.nesting, Json.maxDepth,
    OutputValue.ofMembers?_entries ordered.below, Nat.reduceSub]
  split_ifs
  · rw [Option.map_some,
      (OutputValue.sorted_normalizedEntries ordered.sorted).ofList_eq]
    rfl
  · omega
  · omega
  · rfl

/-- A tree that is not nested too deep survives being written as text and read again, up to
its empty lists of subtrees, whatever its keys and texts are; and what is read is written as
the same text again. -/
theorem read?_compact_eq_normalized {o : Outputs} (ordered : o.Ordered)
    (shallow : o.toJson.nesting ≤ 127) :
    read? o.toJson.compact = some o.normalized ∧
    (o.normalized = o ↔ o.Filled) ∧
    ∀ o' ∈ read? o.toJson.compact, o'.toJson.compact = o.toJson.compact := by
  have read : read? o.toJson.compact = some o.normalized :=
    (read?_compact ordered).trans (if_pos shallow)
  refine ⟨read, OutputValue.normalizedEntries_eq_iff o, fun o' mem => ?_⟩
  cases read.symm.trans mem
  exact congrArg (fun ms => (Json.object ms).compact) (OutputValue.entriesJson_normalized o)

/-- An empty list of subtrees beside a list with an escaped key and an escaped text. -/
theorem read?_compact_eq_normalized_of_empty_list :
    let o : Outputs :=
      [("a", .nestedList []), ("b", .nestedList [[("\"", .text "\x01\\😀")], []])]
    (o.Ordered ∧ o.toJson.nesting ≤ 127) ∧
    read? o.toJson.compact = some
      [("a", .textList []), ("b", .nestedList [[("\"", .text "\x01\\😀")], []])] ∧
    ¬ o.Filled := by
  intro o
  have ordered : o.Ordered := by
    have sorted : "a" < "b" := by decide
    refine ⟨by simpa [Dict.Sorted, o] using sorted, fun e mem => ?_⟩
    rcases List.mem_cons.1 mem with rfl | mem
    · exact ordered_nestedList nofun
    · rw [List.mem_singleton.1 mem]
      refine ordered_nestedList fun o' mem => ?_
      rcases List.mem_cons.1 mem with rfl | mem
      · exact Ordered.empty.insert "\"" (.text _)
      · exact List.mem_singleton.1 mem ▸ .empty
  have shallow : o.toJson.nesting ≤ 127 := by decide
  obtain ⟨read, filled, -⟩ := read?_compact_eq_normalized ordered shallow
  refine ⟨⟨ordered, shallow⟩, read, fun full => absurd (filled.2 full) ?_⟩
  simp [o, normalized, OutputValue.normalizedEntries, OutputValue.normalized]

end Outputs

end PromptStream
