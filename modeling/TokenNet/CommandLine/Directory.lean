import TokenNet.SortedMap.Basic

namespace TokenNet
namespace CommandLine

/-!
# Directories of texts

A directory holds texts under names and no directory of its own.  A path is read
component by component; empty components and single dots stay where they are, and
two dots leave the directory for surroundings of which nothing is known.
-/

/-- The text of a file, or why it cannot be read. -/
abbrev Files : Type := String → Except String String

/-- Why nothing can be read under a path. -/
inductive ReadError where
  /-- There is nothing under the path. -/
  | missing
  /-- The path goes on behind a text. -/
  | notDirectory
  /-- The path ends at a directory. -/
  | isDirectory
  /-- The path or one of its components is too long. -/
  | nameTooLong
deriving DecidableEq, Repr

/-- The text of a reason, with its number. -/
def ReadError.message : ReadError → String
  | missing => "No such file or directory (os error 2)"
  | notDirectory => "Not a directory (os error 20)"
  | isDirectory => "Is a directory (os error 21)"
  | nameTooLong => "File name too long (os error 36)"

/-- The texts of a directory by their names. -/
abbrev Directory : Type := SortedMap String String

/-- Where a path has led. -/
inductive Place where
  /-- The directory itself. -/
  | directory
  /-- A directory around it. -/
  | surroundings
  /-- A text. -/
  | text (content : String)
deriving DecidableEq, Repr

namespace Directory

/-- The number of bytes that a component may have. -/
def maxComponent : Nat := 255

/-- The number of bytes that a path may have. -/
def maxPath : Nat := 4095

/-- Follows one component of a path. -/
def follow (directory : Directory) (place : Place) (component : String) :
    Except ReadError Place :=
  match place with
  | .text _ => .error .notDirectory
  | .directory =>
      if component = "" ∨ component = "." then .ok .directory
      else if component = ".." then .ok .surroundings
      else if maxComponent < component.utf8ByteSize then .error .nameTooLong
      else
        match directory.get? component with
        | some content => .ok (.text content)
        | none => .error .missing
  | .surroundings =>
      if component = "" ∨ component = "." ∨ component = ".." then .ok .surroundings
      else if maxComponent < component.utf8ByteSize then .error .nameTooLong
      else .error .missing

/-- Where a path begins: a leading slash leaves the directory. -/
def origin (path : String) : Place :=
  if path.toList.head? = some '/' then .surroundings else .directory

/-- The components of a path: its parts between slashes. -/
def components (path : String) : List String := (path.toList.splitOn '/').map String.ofList

/-- Follows a path to its end. -/
def resolve (directory : Directory) (path : String) : Except ReadError Place :=
  if path = "" then .error .missing
  else if maxPath < path.utf8ByteSize then .error .nameTooLong
  else (components path).foldlM directory.follow (origin path)

/-- Reads the text under a path. -/
def read? (directory : Directory) (path : String) : Except ReadError String := do
  match ← directory.resolve path with
  | .text content => return content
  | _ => .error .isDirectory

/-- The texts of a directory as files. -/
def files (directory : Directory) : Files := fun path =>
  (directory.read? path).mapError ReadError.message

end Directory

end CommandLine
end TokenNet
