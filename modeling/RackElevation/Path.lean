/-!
# Paths

A path is a row of names, read from the root or from the current directory.  Repeated slashes and
single points between slashes say nothing and are dropped; two points stay.
-/

namespace RackElevation

/-- A path. -/
structure Path where
  /-- The slashes it starts with: none, one, or exactly two. -/
  root : String := ""
  names : List String := []
  deriving DecidableEq, Repr

namespace Path

/-- The parts of a text between slashes. -/
def parts (text : String) : List String :=
  (text.toList.foldr (fun c parts =>
    if c == '/' then [] :: parts
    else
      match parts with
      | part :: parts => (c :: part) :: parts
      | [] => [[c]]) [[]]).map String.ofList

/-- The slashes that a text starts with, as far as they count. -/
def rootOf (text : String) : String :=
  match text.toList with
  | '/' :: '/' :: '/' :: _ => "/"
  | '/' :: '/' :: _ => "//"
  | '/' :: _ => "/"
  | _ => ""

/-- The path that a text says. -/
def ofText (text : String) : Path where
  root := rootOf text
  names := (parts text).filter fun name => name != "" && name != "."

/-- The text of a path; the path without names is a single point. -/
def text (path : Path) : String :=
  if path.root == "" && path.names.isEmpty then "."
  else path.root ++ "/".intercalate path.names

/-- The part of the last name from its last point on, which stands neither first nor last in it. -/
def suffix (path : Path) : String :=
  match path.names.getLast? with
  | none => ""
  | some name =>
      let reversed := name.toList.reverse
      let ending := reversed.takeWhile (· != '.')
      let stem := (reversed.drop ending.length).drop 1
      if ending.isEmpty || stem.isEmpty then "" else String.ofList ('.' :: ending.reverse)

end Path

end RackElevation
