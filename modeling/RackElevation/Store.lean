import RackElevation.Failure
import RackElevation.Path
import RackElevation.Raster.Png

/-!
# Stores of files

A store is what a directory holds: further directories and files, each with the names on the way to
it.  Paths are followed name by name, and the first name that cannot be followed tells why.
-/

namespace RackElevation

/-- What a file holds. -/
inductive Content where
  | bytes (data : List UInt8)
  | text (data : String)
  | picture (canvas : Raster.Canvas)
  deriving DecidableEq, Repr

/-- The bytes of a file. -/
def Content.toBytes : Content → List UInt8
  | .bytes data => data
  | .text data => data.toUTF8.data.toList
  | .picture canvas => canvas.png.data.toList

/-- Directories and files, by the names that lead to them. -/
structure Store where
  directories : List (List String) := []
  files : List (List String × Content) := []
  deriving DecidableEq, Repr

/-- What a path leads to. -/
inductive Place where
  /-- A directory. -/
  | directory (names : List String)
  /-- A file, or a name in a directory that is free for one. -/
  | file (names : List String) (content : Option Content)
  deriving DecidableEq, Repr

namespace Store

/-- The content of the file with given names. -/
def file? (store : Store) (names : List String) : Option Content :=
  (store.files.find? (·.1 == names)).map (·.2)

/-- Whether some names lead to a directory. -/
def isDirectory (store : Store) (names : List String) : Bool :=
  names.isEmpty || store.directories.contains names

/-- The number of bytes that a name may have. -/
def nameLimit : Nat := 255

/-- The number of bytes that a path may have. -/
def pathLimit : Nat := 4095

/-- The place that one name leads to from a directory. -/
def enter (store : Store) (shown : String) (here : List String) (name : String) :
    Except Failure Place :=
  let names := here ++ [name]
  if name == ".." then .ok (.directory here.dropLast)
  else if nameLimit < name.utf8ByteSize then .error (.pathTooLong shown)
  else if store.isDirectory names then .ok (.directory names)
  else .ok (.file names (store.file? names))

/-- The place that some names lead to from a directory. -/
def follow (store : Store) (shown : String) (here : List String) :
    List String → Except Failure Place
  | [] => .ok (.directory here)
  | [name] => store.enter shown here name
  | name :: rest => do
      match ← store.enter shown here name with
      | .directory names => store.follow shown names rest
      | .file _ (some _) => .error (.notDirectory shown)
      | .file _ none => .error (.noSuchPath shown)

/-- The place that a path leads to, where failures show a given text.  A store holds nothing of what
lies outside its own directory. -/
def find (store : Store) (path : Path) (shown : String) : Except Failure Place :=
  if shown.toList.contains '\x00' then .error .nullInPath
  else if shown.isEmpty then .error (.noSuchPath shown)
  else if pathLimit < shown.utf8ByteSize then .error (.pathTooLong shown)
  else if path.root == "" then store.follow shown [] path.names
  else if path.names.isEmpty then .ok (.directory [])
  else .error (.noSuchPath shown)

/-- The content of the file that a path leads to. -/
def read (store : Store) (path : Path) : Except Failure Content := do
  match ← store.find path path.text with
  | .directory _ => throw (.isDirectory path.text)
  | .file _ (some content) => return content
  | .file _ none => throw (.noSuchPath path.text)

/-- The store with a file put in, in place of one of the same names. -/
def put (store : Store) (names : List String) (content : Content) : Store :=
  { store with files := store.files.filter (·.1 != names) ++ [(names, content)] }

/-- The store after writing to the file that a path leads to, where failures show a given text.  A
slash at the end of that text asks for a directory. -/
def writeShown (store : Store) (path : Path) (shown : String) (content : Content) :
    Except Failure Store := do
  match ← store.find path shown with
  | .directory _ => throw (.isDirectory shown)
  | .file names old =>
      if shown.toList.getLast? == some '/' then
        throw (if old.isSome then .notDirectory shown else .isDirectory shown)
      else return store.put names content

/-- The store after writing to the file that a path leads to. -/
def write (store : Store) (path : Path) (content : Content) : Except Failure Store :=
  store.writeShown path path.text content

/-- The names from the top of the store that a path comes to when every two points go up. -/
def resolved (names : List String) : List String :=
  names.foldl (fun here name => if name == ".." then here.dropLast else here ++ [name]) []

/-- The names in the directory itself, in order. -/
def listing (store : Store) : List String :=
  let names := (store.directories ++ store.files.map (·.1)).filterMap fun names =>
    if names.length == 1 then names.head? else none
  names.mergeSort fun a b => !decide (b < a)

end Store

end RackElevation
