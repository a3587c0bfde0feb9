import SpatialQuery.Text.Basic

/-!
# Paths of files

A path is written without empty parts and without parts that stay where they are.
-/

set_option autoImplicit false

namespace SpatialQuery.Text

def pathParts : List Mark → List (List Mark)
  | [] => [[]]
  | mark :: rest =>
    if mark = .char '/' then [] :: pathParts rest
    else
      match pathParts rest with
      | part :: parts => (mark :: part) :: parts
      | [] => [[mark]]

/-- What a path starts with.  Two slashes are not the same as one, but more than two are. -/
def pathRoot (marks : List Mark) : Text :=
  match (marks.takeWhile (· == .char '/')).length with
  | 0 => ""
  | 2 => "//"
  | _ => "/"

/-- The normal form of a path.  A path without parts is the place itself. -/
def normalPath (path : Text) : Text :=
  let parts := (pathParts path.marks).filter fun part => !part.isEmpty && part != [.char '.']
  let text := pathRoot path.marks ++ intercalate "/" (parts.map Text.mk)
  if text = "" then "." else text

/-- A path from a directory on.  One that starts at the root is not within any other. -/
def pathWithin (directory path : Text) : Text :=
  if path.marks.head? = some (.char '/') then normalPath path
  else
    let base := normalPath directory
    let separator : Text := if base.marks.getLast? = some (.char '/') then "" else "/"
    normalPath (base ++ separator ++ path)

end SpatialQuery.Text
