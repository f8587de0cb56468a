/-!
# Exported names

A name can be exported when it is an identifier : ASCII letters, digits and underscores,
not starting with a digit. `ExportName.fault?` gives the first reason against a name. A
contributed name that starts with an underscore stays private (`isPublic`), and a label
gives the identifier left when all other characters are dropped (`ofLabel?`).
-/

namespace VizSession

/-- Why a name cannot be exported. -/
inductive NameFault where
  /-- It has no characters. -/
  | empty
  /-- Its first character is a digit. -/
  | leadingDigit
  /-- This character is the first that does not belong in a name. -/
  | badCharacter (c : Char)
deriving DecidableEq

/-- The words for a name that cannot be exported. -/
def NameFault.message : NameFault → String
  | empty => "name is empty"
  | leadingDigit => "name starts with a digit"
  | badCharacter c => "'" ++ c.toString ++ "' is not allowed in a name"

namespace ExportName

/-- Whether a character belongs in a name : an ASCII letter or digit, or an underscore. -/
def isNameChar (c : Char) : Bool := c.isAlphanum || c == '_'

/-- The first reason against a name given by its characters. -/
def faultOf? : List Char → Option NameFault
  | [] => some .empty
  | c :: cs =>
    if c.isDigit then some .leadingDigit
    else ((c :: cs).find? fun c => !isNameChar c).map .badCharacter

/-- The first reason against exporting a name. -/
def fault? (name : String) : Option NameFault := faultOf? name.toList

/-- Whether a name can be exported. -/
def isValid (name : String) : Bool := (fault? name).isNone

/-- Whether a contributed name is meant for export : a leading underscore keeps it private. -/
def isPublic (name : String) : Bool := name.toList.head? != some '_' && isValid name

/-- The identifier in a label : its name characters, if they make a name. -/
def ofLabel? (label : String) : Option String :=
  let name := String.ofList (label.toList.filter isNameChar)
  if isValid name then some name else none

end ExportName

end VizSession
