import PromptStream.Json.Record
import PromptStream.Json.Writer
import PromptStream.Json.Reader
import PromptStream.Text.Index

/-!
# Outputs

The named results of a run form a tree.  A result is written under a key at an
address, a path of segments, and every level on the way is created when it is
missing.  A segment followed by one that reads as a position holds a list of
subtrees, and the position selects one of them; that is how the iterations of a
loop keep their results apart.  Any other segment holds one subtree.

What stands in the way of a write is replaced by a level of the needed shape.
A list grows to reach the position that is written, but only so far: a write
more than `maxIndexGap` past the end of a list is dropped.  Levels above that
list have been created by then, and stay.
-/

namespace PromptStream

/-- A result, or a level of the tree. -/
inductive OutputValue where
  /-- A text. -/
  | text (s : String)
  /-- Several texts. -/
  | textList (items : List String)
  /-- A subtree. -/
  | nested (entries : List (String × OutputValue))
  /-- A list of subtrees. -/
  | nestedList (items : List (List (String × OutputValue)))
  deriving Repr, Inhabited, BEq

/-- The tree of the results of a run. -/
abbrev Outputs := Dict OutputValue

/-- How far past the end of a list a write may reach. -/
def maxIndexGap : Nat := 1024

namespace OutputValue

/-- The name of the kind of a value. -/
def kind : OutputValue → String
  | .text _ => "text"
  | .textList _ => "text_list"
  | .nested _ => "nested"
  | .nestedList _ => "nested_list"

/-- The text that a value is, if it is one. -/
def text? : OutputValue → Option String
  | .text s => some s
  | _ => none

/-- The subtree that a value is; any other value counts as an empty one. -/
def asNested : Option OutputValue → Outputs
  | some (.nested entries) => entries
  | _ => []

/-- The list of subtrees that a value is; any other value counts as an empty
one. -/
def asNestedList : Option OutputValue → List Outputs
  | some (.nestedList items) => items
  | _ => []

end OutputValue

namespace Outputs

/-! ## Reading -/

mutual

/-- Follows a path through subtrees and lists. -/
def lookup? (o : Outputs) : List String → Option OutputValue
  | [] => none
  | key :: rest =>
      match Dict.find? key o with
      | none => none
      | some v => lookupIn? v rest

/-- Follows a path from a value on. -/
def lookupIn? (v : OutputValue) : List String → Option OutputValue
  | [] => some v
  | segment :: rest =>
      match v with
      | .text _ => none
      | .textList _ => none
      | .nested entries =>
          match Dict.find? segment entries with
          | none => none
          | some w => lookupIn? w rest
      | .nestedList items =>
          match readIndex? segment with
          | none => none
          | some i =>
              match items[i]? with
              | none => none
              | some entries => lookup? entries rest

end

/-- The text directly under a key. -/
def textAt? (o : Outputs) (key : String) : Option String :=
  (Dict.find? key o).bind OutputValue.text?

/-! ## Writing -/

/-- A list of subtrees, filled up with empty ones to at least a length. -/
def padTo (length : Nat) (items : List Outputs) : List Outputs :=
  items ++ List.replicate (length - items.length) []

/-- Changes the subtree at an address, creating the levels on the way.  Says
also whether the address was reached. -/
def modifyAt (f : Outputs → Outputs) : List String → Outputs → Outputs × Bool
  | [], o => (f o, true)
  | [key], o =>
      (o.insert key (.nested (f (OutputValue.asNested (o.find? key)))), true)
  | key :: segment :: rest, o =>
      match readIndex? segment with
      | some i =>
          let items := OutputValue.asNestedList (o.find? key)
          if items.length + maxIndexGap < i then (o.insert key (.nestedList items), false)
          else
            let items := padTo (i + 1) items
            let (entry, reached) := modifyAt f rest (items.getD i [])
            (o.insert key (.nestedList (items.set i entry)), reached)
      | none =>
          let (entry, reached) :=
            modifyAt f (segment :: rest) (OutputValue.asNested (o.find? key))
          (o.insert key (.nested entry), reached)

/-- Writes a value under a key at an address. -/
def insertAt (o : Outputs) (address : List String) (key : String) (value : OutputValue) :
    Outputs :=
  (modifyAt (fun entries => entries.insert key value) address o).1

/-- Whether a write at an address is dropped. -/
def drops (o : Outputs) (address : List String) : Bool := !(modifyAt id address o).2

end Outputs

/-! ## JSON -/

mutual

/-- A value as JSON. -/
def OutputValue.toJson : OutputValue → Json
  | .text s => .text s
  | .textList items => .array (items.map .text)
  | .nested entries => .object (OutputValue.entriesJson entries)
  | .nestedList items => .array (OutputValue.treesJson items)

/-- The entries of a tree as members of an object. -/
def OutputValue.entriesJson : List (String × OutputValue) → List (String × Json)
  | [] => []
  | (k, v) :: rest => (k, v.toJson) :: OutputValue.entriesJson rest

/-- A list of trees as JSON. -/
def OutputValue.treesJson : List (List (String × OutputValue)) → List Json
  | [] => []
  | o :: rest => .object (OutputValue.entriesJson o) :: OutputValue.treesJson rest

end

mutual

/-- The value that a document describes, with at most the given number of nested
containers.  An array of strings, empty or not, is a list of texts; an array of
objects is a list of subtrees. -/
def OutputValue.ofDocument? (depth : Nat) : Document → Option OutputValue
  | .text s => s.map .text
  | .object members =>
      match depth with
      | 0 => none
      | depth + 1 => (OutputValue.ofMembers? depth members).map fun es => .nested (Dict.ofList es)
  | .array items =>
      match depth with
      | 0 => none
      | depth + 1 =>
          match items.mapM Document.text? with
          | some texts => some (.textList texts)
          | none => (OutputValue.ofItems? depth items).map .nestedList
  | _ => none

/-- The entries that the members of an object describe. -/
def OutputValue.ofMembers? (depth : Nat) :
    List (Option String × Document) → Option (List (String × OutputValue))
  | [] => some []
  | (k, d) :: rest =>
      match k, OutputValue.ofDocument? depth d, OutputValue.ofMembers? depth rest with
      | some k, some v, some entries => some ((k, v) :: entries)
      | _, _, _ => none

/-- The trees that the items of an array describe. -/
def OutputValue.ofItems? (depth : Nat) :
    List Document → Option (List (List (String × OutputValue)))
  | [] => some []
  | .object members :: rest =>
      match depth with
      | 0 => none
      | inner + 1 =>
          match OutputValue.ofMembers? inner members, OutputValue.ofItems? depth rest with
          | some entries, some trees => some (Dict.ofList entries :: trees)
          | _, _ => none
  | _ => none

end

namespace Outputs

/-- A tree as JSON. -/
def toJson (o : Outputs) : Json := .object (OutputValue.entriesJson o)

/-- The tree that a document describes. -/
def ofDocument? : Document → Option Outputs
  | .object members =>
      (OutputValue.ofMembers? (Json.maxDepth - 1) members).map Dict.ofList
  | _ => none

/-- The tree that JSON text describes. -/
def read? (s : String) : Option Outputs := (Document.read? s).bind ofDocument?

end Outputs

end PromptStream
