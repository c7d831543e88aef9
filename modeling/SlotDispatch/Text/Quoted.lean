import SlotDispatch.Text.Property

/-!
# Quoted texts

How a message shows a text: in quotes, and such that every character of it can be told. What a
reader would not see, or would see as part of another character, is shown by its number.
-/

namespace SlotDispatch.Text

/-- Whether a character is put on the one before it. Of the extending characters only the sound
    marks of halfwidth Katakana are not: they stand beside it. -/
def isAttached (c : Char) : Bool := isExtender c && c ≠ '\uff9e' && c ≠ '\uff9f'

/-- Whether a character is shown as it is. The blank is, although it is not printed. -/
def isLegible (c : Char) : Bool :=
  ' ' ≤ c && c ≤ '~' || !(isUnprinted c || isAttached c || isIgnorable c)

/-- A character inside a quoted text. -/
def quoteChar (c : Char) : List Char :=
  if c = '"' then ['\\', '"']
  else if c = '\\' then ['\\', '\\']
  else if c = '\n' then ['\\', 'n']
  else if c = '\r' then ['\\', 'r']
  else if c = '\t' then ['\\', 't']
  else if c = '\x00' then ['\\', '0']
  else if isLegible c then [c]
  else '\\' :: 'u' :: '\x7b' :: Nat.toDigits 16 c.toNat ++ ['\x7d']

/-- A text in quotes. -/
def quoted (text : String) : String :=
  String.ofList ('"' :: text.toList.flatMap quoteChar ++ ['"'])

end SlotDispatch.Text
