import PromptStream.Json.Value
import PromptStream.Numeric.Layout

/-!
# Writing JSON

`Json.compact` writes a value without any blank.  `Json.pretty` puts each item
and member on a line of its own, indented by two spaces a level, with empty
containers kept together.

Strings escape the quote, the backslash and the characters below U+0020, of
which five have short escapes; every other character is written as it is.
-/

namespace PromptStream

namespace Json

/-! ## Leaves -/

/-- The hexadecimal digit, in lower case, of a number below sixteen. -/
def hexDigit (n : Nat) : Char := if n < 10 then Char.ofNat (48 + n) else Char.ofNat (87 + n)

/-- A character inside a string. -/
def escapeChar (c : Char) : List Char :=
  if c = '"' then ['\\', '"']
  else if c = '\\' then ['\\', '\\']
  else if c = '\n' then ['\\', 'n']
  else if c = '\r' then ['\\', 'r']
  else if c = '\t' then ['\\', 't']
  else if c = '\x08' then ['\\', 'b']
  else if c = '\x0c' then ['\\', 'f']
  else if c.toNat < 0x20 then
    ['\\', 'u', '0', '0', hexDigit (c.toNat / 16), hexDigit (c.toNat % 16)]
  else [c]

/-- A string with its quotes. -/
def quote (s : String) : List Char := '"' :: (s.toList.flatMap escapeChar ++ ['"'])

/-- A number. -/
def writeNumber : JsonNumber → List Char
  | .natural n => decimalDigits n
  | .negative n => '-' :: decimalDigits n
  | .float x => (Layout.json.write x).toList
  | .single x => (Layout.jsonSingle.write x).toList

/-! ## Compact text -/

mutual

/-- A value without blanks. -/
def writeCompact : Json → List Char
  | .null => "null".toList
  | .bool true => "true".toList
  | .bool false => "false".toList
  | .number n => writeNumber n
  | .text s => quote s
  | .array items => '[' :: writeItems items
  | .object members => '\x7b' :: writeMembers members

/-- The items of an array and its closing bracket. -/
def writeItems : List Json → List Char
  | [] => [']']
  | [v] => writeCompact v ++ [']']
  | v :: rest => writeCompact v ++ ',' :: writeItems rest

/-- The members of an object and its closing bracket. -/
def writeMembers : List (String × Json) → List Char
  | [] => ['\x7d']
  | [(k, v)] => quote k ++ ':' :: (writeCompact v ++ ['\x7d'])
  | (k, v) :: rest => quote k ++ ':' :: (writeCompact v ++ ',' :: writeMembers rest)

end

/-- The text of a value without blanks. -/
def compact (v : Json) : String := String.ofList v.writeCompact

/-! ## Text on several lines -/

/-- A new line at a level of nesting. -/
def lineAt (level : Nat) : List Char := '\n' :: List.replicate (2 * level) ' '

mutual

/-- A value that starts at a level of nesting. -/
def writePretty (level : Nat) : Json → List Char
  | .array [] => ['[', ']']
  | .array (v :: rest) =>
      '[' :: (lineAt (level + 1) ++ writePretty (level + 1) v ++ writePrettyItems level rest)
  | .object [] => ['\x7b', '\x7d']
  | .object ((k, v) :: rest) =>
      '\x7b' :: (lineAt (level + 1) ++ quote k ++ ':' :: ' ' :: writePretty (level + 1) v
        ++ writePrettyMembers level rest)
  | .null => "null".toList
  | .bool true => "true".toList
  | .bool false => "false".toList
  | .number n => writeNumber n
  | .text s => quote s

/-- The further items of an array and its closing bracket. -/
def writePrettyItems (level : Nat) : List Json → List Char
  | [] => lineAt level ++ [']']
  | v :: rest =>
      ',' :: (lineAt (level + 1) ++ writePretty (level + 1) v ++ writePrettyItems level rest)

/-- The further members of an object and its closing bracket. -/
def writePrettyMembers (level : Nat) : List (String × Json) → List Char
  | [] => lineAt level ++ ['\x7d']
  | (k, v) :: rest =>
      ',' :: (lineAt (level + 1) ++ quote k ++ ':' :: ' ' :: writePretty (level + 1) v
        ++ writePrettyMembers level rest)

end

/-- The text of a value on several lines. -/
def pretty (v : Json) : String := String.ofList (v.writePretty 0)

end Json

end PromptStream
