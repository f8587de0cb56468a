import VizSession.Text.Combining
import VizSession.Text.Graphic

/-!
# Quoted texts

A text as it stands in a diagnostic : between double quotes, with escapes for the quote,
the backslash and everything that would not show as itself. A character without a form of
its own is given by its code point, as in `\u{200b}`.
-/

namespace VizSession.Text

/-- The code point of a character as an escape. -/
def codePoint (c : Char) : List Char :=
  ['\\', 'u', '{'] ++ Nat.toDigits 16 c.toNat ++ ['}']

/-- A character as it stands in a quoted text. -/
def showChar (c : Char) : List Char :=
  if c = '\x00' then ['\\', '0']
  else if c = '\t' then ['\\', 't']
  else if c = '\n' then ['\\', 'n']
  else if c = '\r' then ['\\', 'r']
  else if c = '"' then ['\\', '"']
  else if c = '\\' then ['\\', '\\']
  else if isCombining c || !isGraphic c then codePoint c
  else [c]

/-- A text between quotes. -/
def quoted (s : String) : String := String.ofList ('"' :: (s.toList.flatMap showChar ++ ['"']))

/-- Texts between quotes, as a list in brackets. -/
def quotedList (texts : List String) : String :=
  "[" ++ ", ".intercalate (texts.map quoted) ++ "]"

end VizSession.Text
