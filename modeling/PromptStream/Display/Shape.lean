import PromptStream.Text.Quoted

/-!
# Shapes

What a person looks at when debugging is a data structure on one line.  A shape
is such a structure with its names, and `Shape.text` is the one place that
decides on brackets, commas and spaces.
-/

namespace PromptStream

/-- A data structure as it is shown. -/
inductive Shape where
  /-- A word. -/
  | word (s : String)
  /-- A name and its arguments. -/
  | call (name : String) (arguments : List Shape)
  /-- A name and its fields; `more` if there are fields that are not shown. -/
  | record (name : String) (fields : List (String × Shape)) (more : Bool)
  /-- Items in order. -/
  | list (items : List Shape)
  /-- Values by their keys. -/
  | table (entries : List (String × Shape))
  /-- A name in front of another shape. -/
  | titled (name : String) (s : Shape)
  deriving Repr, Inhabited

namespace Shape

/-- Parts between two brackets, separated by commas. -/
def between (before after : String) (parts : List String) : String :=
  before ++ String.intercalate ", " parts ++ after

mutual

/-- A shape on one line. -/
def text : Shape → String
  | .word s => s
  | .call name arguments => between (name ++ "(") ")" (texts arguments)
  | .record name fields more =>
      between (name ++ " \x7b ") " \x7d" (fieldTexts fields ++ (if more then [".."] else []))
  | .list items => between "[" "]" (texts items)
  | .table entries => between "\x7b" "\x7d" (entryTexts entries)
  | .titled name s => name ++ " " ++ s.text

/-- Shapes on one line each. -/
def texts : List Shape → List String
  | [] => []
  | s :: rest => s.text :: texts rest

/-- Fields with their names. -/
def fieldTexts : List (String × Shape) → List String
  | [] => []
  | (name, s) :: rest => (name ++ ": " ++ s.text) :: fieldTexts rest

/-- Entries with their keys. -/
def entryTexts : List (String × Shape) → List String
  | [] => []
  | (key, s) :: rest => (displayText key ++ ": " ++ s.text) :: entryTexts rest

end

/-- A text in quotes. -/
def quoted (s : String) : Shape := .word (displayText s)

/-- A truth value. -/
def bool (b : Bool) : Shape := .word (if b then "true" else "false")

/-- A natural number. -/
def nat (n : Nat) : Shape := .word (toString n)

/-- A value that may be missing. -/
def option {α : Type} (shape : α → Shape) : Option α → Shape
  | none => .word "None"
  | some a => .call "Some" [shape a]

/-- Texts in order. -/
def quotedList (items : List String) : Shape := .list (items.map quoted)

end Shape

end PromptStream
