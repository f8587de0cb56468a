/-!
# Character classes of names

Names and labels are judged by two classes of characters, both over all of Unicode :
the blanks (the property `White_Space`) and the control characters (the category `Cc`).
A text is blank when every character of it is, so the empty text is blank.
-/

namespace VizSession.Text

/-- Whether a character is a blank : one of the 25 with the property `White_Space`. -/
def isBlank (c : Char) : Bool :=
  let n := c.toNat
  (0x09 ≤ n && n ≤ 0x0d) || n == 0x20 || n == 0x85 || n == 0xa0 || n == 0x1680 ||
    (0x2000 ≤ n && n ≤ 0x200a) || n == 0x2028 || n == 0x2029 || n == 0x202f || n == 0x205f ||
    n == 0x3000

/-- Whether a character is a control character : below the space, or from delete to the
end of the second control block. -/
def isControl (c : Char) : Bool :=
  let n := c.toNat
  n < 0x20 || (0x7f ≤ n && n ≤ 0x9f)

/-- Whether a text holds nothing but blanks. -/
def isBlankText (s : String) : Bool := s.toList.all isBlank

/-- Whether a text holds a blank. -/
def hasBlank (s : String) : Bool := s.toList.any isBlank

/-- Whether a text holds a control character. -/
def hasControl (s : String) : Bool := s.toList.any isControl

/-- The text without its blanks. -/
def squeeze (s : String) : String := String.ofList (s.toList.filter fun c => !isBlank c)

end VizSession.Text
