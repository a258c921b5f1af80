/-
# Files and directories

A file system is a list of places and what is there, and a working directory.
A place is the list of names that lead to it from the root.

A path is walked name by name.  Between slashes, nothing and `.` stay where
they are and `..` goes up; every step needs a directory to stand in, so a slash
after a file is a fault.  `FileSystem.openPath` opens what a path leads to: a
directory opens as well, but reading it is a fault.  Some places are the
standard input under another name.
-/

import LineMachine.Source

namespace LineMachine

/-- What is at a place. -/
inductive Entry where
  | file (content : Bytes)
  | directory
  /-- The standard input. -/
  | input
deriving DecidableEq, Repr

/-- The names that lead to a place from the root. -/
abbrev Place := List Text

/-- Where a name leads from a place. -/
def Place.step (place : Place) (name : Text) : Place :=
  if name = [] ∨ name = ['.'] then place
  else if name = ['.', '.'] then place.dropLast
  else place ++ [name]

/-- The places that names lead to from a place, one after another. -/
def Place.trail (place : Place) : List Text → List Place
  | [] => []
  | name :: names => place.step name :: (place.step name).trail names

/-- What is where, and where paths begin. -/
structure FileSystem where
  entries : List (Place × Entry)
  working : Place := []
deriving DecidableEq, Repr

namespace FileSystem

/-- What is at a place.  The root is a directory. -/
def entryAt (fs : FileSystem) (place : Place) : Option Entry :=
  if place = [] then some .directory else fs.entries.lookup place

/-- The most bytes a name may have. -/
def nameLimit : Nat := 255

/-- The most bytes a path may have. -/
def pathLimit : Nat := 4095

/-- What the names lead to from a place. -/
def walk (fs : FileSystem) (place : Place) : List Text → Except Fault Entry
  | [] =>
    match fs.entryAt place with
    | none => .error .notFound
    | some entry => .ok entry
  | name :: names =>
    match fs.entryAt place with
    | none => .error .notFound
    | some .directory =>
      if nameLimit < name.size then .error .nameTooLong else walk fs (place.step name) names
    | some _ => .error .notDirectory

/-- The names of a path, the empty ones too. -/
def names (path : Text) : List Text :=
  let (before, last) := Lines.cut '/' path
  before ++ [last]

/-- What a path leads to.  A path that begins with a slash begins at the root,
every other in the working directory. -/
def resolve (fs : FileSystem) (path : Text) : Except Fault Entry :=
  if Char.ofNat 0 ∈ path then .error .nulInName
  else if pathLimit < path.size then .error .nameTooLong
  else if path = [] then .error .notFound
  else walk fs (if path.head? = some '/' then [] else fs.working) (names path)

/-- Opens what a path leads to, with so much left of the standard input. -/
def openPath (fs : FileSystem) (input : Source) (path : Text) : Except Fault Source :=
  (fs.resolve path).map fun
    | .file content => { bytes := content }
    | .directory => { bytes := [], fault := some .isDirectory }
    | .input => input

/-- The path leads to the standard input. -/
def isInput (fs : FileSystem) (path : Text) : Bool :=
  match fs.resolve path with
  | .ok .input => true
  | _ => false

/-- A file or a directory under a working directory, and the directories that
lead to it. -/
def placed (working : Place) (path : Text) (entry : Entry) : List (Place × Entry) :=
  let places := working.trail (names path)
  (places.getLastD working, entry) :: places.dropLast.map fun place => (place, .directory)

/-- Directories that every system has. -/
def commonDirectories : List Text :=
  ["bin", "dev", "dev/fd", "etc", "home", "proc", "proc/self", "proc/self/fd", "root", "sys",
   "tmp", "usr", "var"].map String.toList

/-- The names under which every system has the standard input. -/
def inputNames : List Text := ["dev/stdin", "dev/fd/0", "proc/self/fd/0"].map String.toList

/-- Places that every system has: directories, the standard input, and a device
that holds nothing. -/
def surroundings : List (Place × Entry) :=
  commonDirectories.map (fun path => (names path, .directory)) ++
    inputNames.map (fun path => (names path, .input)) ++
    [(names "dev/null".toList, .file [])]

/-- The file system that holds the given files and directories under a working
directory, with the directories that lead to them and what every system has.  Of
two for the same place the later one is there. -/
def ofList (working : Place) (files : List (Text × Entry)) : FileSystem where
  working := working
  entries :=
    (files.reverse.flatMap fun (path, entry) => placed working path entry) ++
    (Place.trail [] working).map (fun place => (place, .directory)) ++ surroundings

/-- Names that go nowhere do not matter. -/
example :
    let fs := ofList ["work".toList] [("a//./b".toList, .file [1])]
    (fs.resolve "./a/../a/b".toList).toOption = some (.file [1]) := by
  decide +kernel

end FileSystem

end LineMachine
