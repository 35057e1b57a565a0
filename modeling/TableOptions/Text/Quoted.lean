import TableOptions.Text.Hex
import TableOptions.Text.Printable

/-!
# Quoted text

Text in messages stands between double quotes, with escapes for what could not be read there: the
quote and the backslash, the common controls by letter, and every character that is unprintable or
joins the one before it by its code point in lower-case hexadecimal.
-/

namespace TableOptions.Text

/-- A character as it stands inside quotes. -/
def escapeChar (c : Char) : List Char :=
  if c = '\x00' then ['\\', '0']
  else if c = '\t' then ['\\', 't']
  else if c = '\r' then ['\\', 'r']
  else if c = '\n' then ['\\', 'n']
  else if c = '"' then ['\\', '"']
  else if c = '\\' then ['\\', '\\']
  else if extendsGrapheme c || !isPrintable c then
    '\\' :: 'u' :: '\x7b' :: (hexDigits c.toNat ++ ['\x7d'])
  else [c]

/-- A text between quotes. -/
def quoted (s : List Char) : List Char :=
  '"' :: (s.flatMap escapeChar ++ ['"'])

/-- Texts between quotes in brackets, separated by commas. -/
def quotedList (texts : List (List Char)) : List Char :=
  '[' :: (List.intercalate [',', ' '] (texts.map quoted) ++ [']'])

end TableOptions.Text
