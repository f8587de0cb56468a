import VizSession.Toml.Quoted
import VizSession.Toml.Scalar
import VizSession.Toml.Table

/-!
# Reading TOML documents

`Toml.parse?` reads a text line by line : blank lines and comments, keys with values, and
headers of sections. Then the lines are put together to the table they describe, which
fails if they contradict each other.

Every function on the way takes what is left of the text and gives what it read together
with what is left then. Recursion is bounded by the length of the text, which is more than
the number of parts in it. Two limits are part of the rules : how many keys a path may
have, and how deep arrays and tables in braces may nest.
-/

namespace VizSession.Toml

/-- How many keys a path may have. -/
def pathLimit : Nat := 79

/-- How deep arrays and tables in braces may nest. -/
def depthLimit : Nat := 79

/-! ## Blanks, comments and line endings -/

/-- What is left after the blanks in front. -/
def skipSpace (cs : List Char) : List Char := cs.dropWhile isSpace

/-- What is left after a comment, if one is next. -/
def skipComment : List Char → List Char
  | '#' :: cs => cs.dropWhile isPlain
  | cs => cs

/-- What is left after the rest of a line, if nothing but blanks and a comment is in it. The
last line needs no line ending. -/
def endOfLine? (cs : List Char) : Option (List Char) :=
  match skipComment (skipSpace cs) with
  | [] => some []
  | cs => newline? cs

/-- What is left after blanks, line endings and comments, which may stand between the parts
of an array. The flag says whether a comment is being read. -/
def skipLayout : Bool → List Char → List Char
  | _, [] => []
  | _, '\r' :: '\n' :: cs => skipLayout false cs
  | inComment, c :: cs =>
    if c = '\n' then skipLayout false cs
    else if inComment then
      if isPlain c then skipLayout true cs else c :: cs
    else if c = '#' then skipLayout true cs
    else if isSpace c then skipLayout false cs
    else c :: cs

/-! ## Keys -/

/-- Whether a character may stand in a key without quotes. -/
def isBare (c : Char) : Bool := c.isAlphanum || c == '_' || c == '-'

/-- The key that is next : bare, or a string within its line. -/
def key? : List Char → Option (String × List Char)
  | '"' :: cs => (basic? false .text cs).map fun r => (String.ofList r.1, r.2)
  | '\'' :: cs => (literal? false cs).map fun r => (String.ofList r.1, r.2)
  | cs =>
    let name := cs.takeWhile isBare
    if name = [] then none else some (String.ofList name, cs.dropWhile isBare)

/-- The keys of a path with points between them, at most as many as the first argument says;
blanks around a key do not count. -/
def keys? : Nat → List Char → Option (List String × List Char)
  | 0, _ => none
  | limit + 1, cs => do
    let (k, cs) ← key? (skipSpace cs)
    match skipSpace cs with
    | '.' :: cs => do
      let (ks, cs) ← keys? limit cs
      return (k :: ks, cs)
    | cs => return ([k], cs)

/-- The path of keys, of which there is at least one. -/
def Path.ofKeys : List String → Path
  | [] => ⟨[], ""⟩
  | [k] => ⟨[], k⟩
  | k :: ks =>
    let p := Path.ofKeys ks
    ⟨k :: p.parents, p.key⟩

/-- The path that is next. -/
def path? (cs : List Char) : Option (Path × List Char) :=
  (keys? pathLimit cs).map fun r => (Path.ofKeys r.1, r.2)

/-! ## Values -/

mutual

/-- The value that is next; arrays and tables in it may nest so many levels deep. -/
def value? : Nat → Nat → List Char → Option (Node × List Char)
  | 0, _, _ => none
  | bound + 1, levels, cs =>
    match cs with
    | 't' :: 'r' :: 'u' :: 'e' :: cs => some (.bool true, cs)
    | 'f' :: 'a' :: 'l' :: 's' :: 'e' :: cs => some (.bool false, cs)
    | '[' :: cs =>
      match levels with
      | 0 => none
      | levels + 1 => (items? bound levels cs).map fun r => (.array r.1, r.2)
    | '{' :: cs =>
      match levels with
      | 0 => none
      | levels + 1 =>
        match skipSpace cs with
        | '}' :: cs => some (.table .inline [], cs)
        | cs => do
          let (pairs, cs) ← pairs? bound levels cs
          return (.table .inline (← fill? [] pairs), cs)
    | cs =>
      match opening? cs with
      | some _ => (string? cs).map fun r => (.text r.1, r.2)
      | none => (scalar? cs).map fun cs => (.other, cs)

/-- The items of an array up to its closing bracket. A comma may stand after the last. -/
def items? : Nat → Nat → List Char → Option (List Node × List Char)
  | 0, _, _ => none
  | bound + 1, levels, cs =>
    match skipLayout false cs with
    | ']' :: cs => some ([], cs)
    | cs => do
      let (v, cs) ← value? bound levels cs
      match skipLayout false cs with
      | ',' :: cs => do
        let (vs, cs) ← items? bound levels cs
        return (v :: vs, cs)
      | ']' :: cs => return ([v], cs)
      | _ => none

/-- The values of a table up to its closing brace. No comma may stand after the last. -/
def pairs? : Nat → Nat → List Char → Option (List (Path × Node) × List Char)
  | 0, _, _ => none
  | bound + 1, levels, cs => do
    let (path, cs) ← path? cs
    match cs with
    | '=' :: cs => do
      let (v, cs) ← value? bound levels (skipSpace cs)
      match skipSpace cs with
      | ',' :: cs => do
        let (ps, cs) ← pairs? bound levels cs
        return ((path, v) :: ps, cs)
      | '}' :: cs => return ([(path, v)], cs)
      | _ => none
    | _ => none

end

/-! ## Lines -/

/-- A line that says something. -/
inductive Line where
  /-- A key and its value. -/
  | pair (path : Path) (value : Node)
  /-- The header of a section, which may be one of several with that name. -/
  | header (repeated : Bool) (path : Path)

/-- The header in brackets, the first of which was read. -/
def header? : List Char → Option (Line × List Char)
  | '[' :: cs => do
    match ← path? cs with
    | (path, ']' :: ']' :: cs) => return (.header true path, cs)
    | _ => none
  | cs => do
    match ← path? cs with
    | (path, ']' :: cs) => return (.header false path, cs)
    | _ => none

/-- The key and value that are next. -/
def pair? (cs : List Char) : Option (Line × List Char) := do
  match ← path? cs with
  | (path, '=' :: cs) =>
    let cs := skipSpace cs
    let (v, cs) ← value? (2 * cs.length + 2) depthLimit cs
    return (.pair path v, cs)
  | _ => none

/-- What a line says that is not blank. -/
def line? (cs : List Char) : Option (Line × List Char) :=
  match skipSpace cs with
  | '[' :: cs => header? cs
  | cs => pair? cs

/-- The lines of a text that say something. -/
def lines? : Nat → List Char → Option (List Line)
  | 0, _ => none
  | bound + 1, cs =>
    if cs = [] then some []
    else
      match endOfLine? cs with
      | some cs => lines? bound cs
      | none => do
        let (line, cs) ← line? cs
        let cs ← endOfLine? cs
        return line :: (← lines? bound cs)

/-! ## Documents -/

/-- The document of some lines : a value belongs to the last section above it. -/
def Document.ofLines : List Line → Document
  | [] => ⟨[], []⟩
  | .pair path v :: ls =>
    let d := Document.ofLines ls
    { d with pairs := (path, v) :: d.pairs }
  | .header repeated path :: ls =>
    let d := Document.ofLines ls
    ⟨[], ⟨repeated, path, d.pairs⟩ :: d.sections⟩

/-- What is left after the mark for the order of bytes, which may stand in front. -/
def skipMark : List Char → List Char
  | '\ufeff' :: cs => cs
  | cs => cs

/-- The table that a text describes. -/
def parse? (s : String) : Option Table := do
  let cs := skipMark s.toList
  (Document.ofLines (← lines? (cs.length + 1) cs)).table?

end VizSession.Toml
