import TokenNet.Text.Blank

namespace TokenNet
namespace Text

/-!
# Lines and fields

A text is cut into physical lines at line feeds; one carriage return before a
line feed belongs to the line's end.  The content lines are those that, once
trimmed of white space, are neither empty nor a comment introduced by a number
sign; each carries its physical number, counted from one, and its fields.
-/

/-- Drops one carriage return at the end. -/
def dropReturn (line : List Char) : List Char :=
  if line.getLast? = some '\r' then line.dropLast else line

/-- The physical lines of a text, where `line` holds, last character first, what
has been read of the current one. -/
def linesFrom : List Char → List Char → List (List Char)
  | line, [] => if line.isEmpty then [] else [line.reverse]
  | line, c :: rest =>
      if c = '\n' then dropReturn line.reverse :: linesFrom [] rest
      else linesFrom (c :: line) rest

/-- The physical lines of a text.  A text that ends in a line feed has no empty
line after it. -/
def physicalLines (text : List Char) : List (List Char) := linesFrom [] text

/-- A line without the white space at both ends. -/
def trim (line : List Char) : List Char :=
  ((line.dropWhile isBlank).reverse.dropWhile isBlank).reverse

/-- The fields of a line, where `field` holds, last character first, what has
been read of the current one. -/
def fieldsFrom : List Char → List Char → List (List Char)
  | field, [] => if field.isEmpty then [] else [field.reverse]
  | field, c :: rest =>
      if isBlank c then
        if field.isEmpty then fieldsFrom [] rest
        else field.reverse :: fieldsFrom [] rest
      else fieldsFrom (c :: field) rest

/-- The longest runs of characters that are not white space. -/
def fields (line : List Char) : List (List Char) := fieldsFrom [] line

/-- A line that carries content. -/
structure ContentLine where
  /-- The number of the physical line, counted from one. -/
  number : Nat
  /-- The fields of the line. -/
  fields : List (List Char)
deriving DecidableEq, Repr

/-- Whether a trimmed line carries content: it is neither empty nor a comment. -/
def hasContent (line : List Char) : Bool :=
  match line with
  | [] => false
  | c :: _ => c ≠ '#'

/-- The content lines among physical lines, the first of which has the number
`first`. -/
def contentLinesFrom (first : Nat) : List (List Char) → List ContentLine
  | [] => []
  | line :: rest =>
      -- Lines without content count for the numbers of the later ones.
      if hasContent (trim line) then
        ⟨first, Text.fields (trim line)⟩ :: contentLinesFrom (first + 1) rest
      else contentLinesFrom (first + 1) rest

/-- The content lines of a text, in order. -/
def contentLines (text : String) : List ContentLine :=
  contentLinesFrom 1 (physicalLines text.toList)

end Text
end TokenNet
