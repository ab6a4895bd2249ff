import PromptStream.Unicode.PropertyTable

/-!
# Quoted text

Text shown inside the display of a data structure stands in double quotes.  The
quote, the backslash and the characters that would disturb a line are escaped.
-/

namespace PromptStream

/-- A number in hexadecimal, in lower case and without leading zeros. -/
def hexadecimal (n : Nat) : List Char := Nat.toDigits 16 n

/-- The categories of characters that leave no mark of their own. -/
def unshownCategories : List Unicode.Category :=
  .cn :: (Unicode.Category.assignedOthers ++ Unicode.Category.separators)

/-- Whether a character is shown by its number: it leaves no mark, or it would
attach itself to the character before. -/
def isUnshown (c : Char) : Bool :=
  c != ' ' && unshownCategories.contains (Unicode.Category.ofChar c)
    || Unicode.Property.graphemeExtend.holds c

/-- A character inside quotes. -/
def displayChar (c : Char) : List Char :=
  if c = '"' then ['\\', '"']
  else if c = '\\' then ['\\', '\\']
  else if c = '\n' then ['\\', 'n']
  else if c = '\r' then ['\\', 'r']
  else if c = '\t' then ['\\', 't']
  else if c = '\x00' then ['\\', '0']
  else if isUnshown c then '\\' :: 'u' :: '\x7b' :: (hexadecimal c.toNat ++ ['\x7d'])
  else [c]

/-- A text in quotes. -/
def displayText (s : String) : String :=
  String.ofList ('"' :: (s.toList.flatMap displayChar ++ ['"']))

/-- Items in brackets, separated by commas. -/
def displayItems (items : List String) : String := "[" ++ String.intercalate ", " items ++ "]"

end PromptStream
