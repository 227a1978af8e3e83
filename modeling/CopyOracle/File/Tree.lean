import CopyOracle.File.Error
import CopyOracle.File.Path

/-!
# File trees

A file tree is a value: a list of places with what stands there. Reading and writing files and
making directories are functions on it, with the errors that an operating system gives. Paths
that do not start at the root start at the working directory.
-/
namespace CopyOracle

/-- A file that is none: what is read from it and written to it is not kept anywhere. -/
inductive Device where
  /-- It is empty and forgets what is written. -/
  | null
  /-- It is an endless row of zero bytes and forgets what is written. -/
  | zero
  /-- It is an endless row of zero bytes and has no room for anything. -/
  | full
  /-- It is an endless row of bytes without order and forgets what is written. -/
  | noise
  /-- The terminal of a program, which has none. -/
  | terminal
  /-- What stands under a number in the program that opens it. -/
  | descriptor (number : Nat)
deriving DecidableEq, Repr

/-- What stands at a place. -/
inductive FileEntry where
  /-- A file with its bytes, and whether it may be run. -/
  | file (content : ByteArray) (isExecutable : Bool := false)
  /-- A directory. -/
  | directory
  /-- A program of the system, which can only be run. -/
  | program (name : String)
  /-- A device. -/
  | device (device : Device)

/-- The same file with other bytes; what is no file stays. -/
def FileEntry.withContent (content : ByteArray) : FileEntry → FileEntry
  | .file _ isExecutable => .file content isExecutable
  | other => other

/-- Entries are compared by kind and by content. -/
instance FileEntry.decidableEq : DecidableEq FileEntry
  | .file left leftMode, .file right rightMode =>
    decidable_of_iff (left.data = right.data ∧ leftMode = rightMode) (by
      simp [ByteArray.ext_iff])
  | .program left, .program right => decidable_of_iff (left = right) (by simp)
  | .device left, .device right => decidable_of_iff (left = right) (by simp)
  | .directory, .directory => .isTrue rfl
  | .file _ _, .directory | .file _ _, .program _ | .file _ _, .device _
  | .directory, .file _ _ | .directory, .program _ | .directory, .device _
  | .program _, .file _ _ | .program _, .directory | .program _, .device _
  | .device _, .file _ _ | .device _, .directory | .device _, .program _ => .isFalse (by simp)

/-- A place: the names from the root down to it. -/
abbrev Place := List String

/-- Files and directories by place, with a working directory. -/
structure FileTree where
  /-- What stands where, each place once. The root is a directory without an entry. -/
  entries : List (Place × FileEntry) := []
  /-- The working directory. -/
  workingDirectory : Place := []
deriving DecidableEq

namespace FileTree

/-- What stands at a place. -/
def get? (tree : FileTree) (place : Place) : Option FileEntry :=
  if place = [] then some .directory else tree.entries.lookup place

/-- The entries with that of a place replaced or added. -/
def putEntry (place : Place) (entry : FileEntry) :
    List (Place × FileEntry) → List (Place × FileEntry)
  | [] => [(place, entry)]
  | (other, standing) :: rest =>
    if other = place then (place, entry) :: rest
    else (other, standing) :: putEntry place entry rest

/-- The tree with another entry at a place. -/
def put (tree : FileTree) (place : Place) (entry : FileEntry) : FileTree :=
  { tree with entries := putEntry place entry tree.entries }

/-- Whether a directory stands at a place. -/
def isDirectoryAt (tree : FileTree) (place : Place) : Bool :=
  tree.get? place = some .directory

/-- The most bytes of a name. -/
def longestName : Nat := 255

/-- The most bytes of a path. -/
def longestPath : Nat := 4095

/-- The place that names lead to from a place. Every name is taken from a directory; the place
at the end need not exist. -/
def walk (tree : FileTree) : Place → List String → Except FileError Place
  | place, [] => .ok place
  | place, name :: rest =>
    match tree.get? place with
    | some .directory =>
      if longestName < name.utf8ByteSize then .error .nameTooLong
      else tree.walk (if name = "." then place else if name = ".." then place.dropLast
        else place ++ [name]) rest
    | some _ => .error .notDirectory
    | none => .error .notFound

/-- A path taken apart: the names in it, and whether a slash ends it. -/
def steps (path : String) : List String × Bool :=
  let pieces := (path.toList.splitOn '/').map String.ofList
  (pieces.filter (· ≠ ""), pieces.getLast? = some "")

/-- Where the names of a path start. -/
def startOf (tree : FileTree) (path : String) : Place :=
  if Path.isAbsolute path then [] else tree.workingDirectory

/-- Refuses a text that is no path at all. -/
def checkPath (path : String) : Except FileError Unit :=
  if path = "" then .error .notFound
  else if path.toList.contains '\x00' then .error .zeroInPath
  else if longestPath < path.utf8ByteSize then .error .nameTooLong
  else .ok ()

/-- The place of a path. A slash at its end asks for a directory, like a single dot. -/
def locate (tree : FileTree) (path : String) : Except FileError Place := do
  checkPath path
  let (names, isDirectory) := steps path
  tree.walk (tree.startOf path) (names ++ if isDirectory then ["."] else [])

/-- Where something of a new name may be made. -/
inductive Site where
  /-- At a place in a directory. -/
  | fresh (place : Place)
  /-- At no place of its own: the path ends with a dot, two dots, or at the root. -/
  | taken
deriving DecidableEq, Repr

/-- The site of a path, whose parent must be a directory; and whether a slash ends the path. -/
def site (tree : FileTree) (path : String) : Except FileError (Site × Bool) := do
  checkPath path
  let (names, isDirectory) := steps path
  match names.getLast? with
  | none => .ok (.taken, isDirectory)
  | some name =>
    let above ← tree.walk (tree.startOf path) (names.dropLast ++ ["."])
    if name = "." || name = ".." then .ok (.taken, isDirectory)
    else .ok (.fresh (← tree.walk above [name]), isDirectory)

/-- What stands at a path. -/
def standing? (tree : FileTree) (path : String) : Option FileEntry :=
  match tree.locate path with
  | .ok place => tree.get? place
  | .error _ => none

/-- What stands at a path, or why nothing can be found there. -/
def entry (tree : FileTree) (path : String) : Except FileError FileEntry := do
  match tree.get? (← tree.locate path) with
  | some entry => .ok entry
  | none => .error .notFound

/-- Whether a path leads to a directory. -/
def isDirectory (tree : FileTree) (path : String) : Bool := tree.standing? path = some .directory

/-- Whether a path leads to a file. -/
def isFile (tree : FileTree) (path : String) : Bool :=
  match tree.standing? path with
  | some (.file _ _) | some (.program _) => true
  | _ => false

/-- The bytes of a file. -/
def readBytes (tree : FileTree) (path : String) : Except FileError ByteArray := do
  match ← tree.entry path with
  | .file content _ => .ok content
  | .directory => .error .isDirectory
  | .device .terminal | .device (.descriptor _) => .error .noDevice
  | .device _ | .program _ => .ok .empty

/-- The text of a file. -/
def readText (tree : FileTree) (path : String) : Except FileError String := do
  let content ← tree.readBytes path
  match String.fromUTF8? content with
  | some text => .ok text
  | none => .error .invalidText

/-- The place of a file that is written. A path that asks for a directory is refused. -/
def writtenPlace (tree : FileTree) (path : String) : Except FileError Place := do
  match ← tree.site path with
  | (.fresh place, false) => .ok place
  | (_, _) => .error .isDirectory

/-- The tree with a file at a path; a file there already is replaced. -/
def writeBytes (tree : FileTree) (path : String) (content : ByteArray) :
    Except FileError FileTree := do
  let place ← tree.writtenPlace path
  match tree.get? place with
  | some .directory => .error .isDirectory
  | some (.device .full) => if content.isEmpty then .ok tree else .error .noSpace
  | some (.device .terminal) | some (.device (.descriptor _)) => .error .noDevice
  | some (.device _) => .ok tree
  | some (.program _) => .error .permissionDenied
  | some (.file _ isExecutable) => .ok (tree.put place (.file content isExecutable))
  | none => .ok (tree.put place (.file content))

/-- The tree with a file of a text at a path. -/
def writeText (tree : FileTree) (path text : String) : Except FileError FileTree :=
  tree.writeBytes path text.toUTF8

/-- The tree with a new directory at a path, whose parent is there. -/
def makeDirectory (tree : FileTree) (path : String) : Except FileError FileTree := do
  match ← tree.site path with
  | (.taken, _) => .error .exists
  | (.fresh place, _) =>
    match tree.get? place with
    | some _ => .error .exists
    | none => .ok (tree.put place .directory)

/-- The tree with a directory at a path and at its parents, tried from the path upwards; a path
that is a directory already is left as it is. -/
def makeDirectories (tree : FileTree) : (depth : Nat) → (path : String) →
    Except FileError FileTree
  | 0, _ => .ok tree
  | depth + 1, path =>
    if path = "" then .ok tree
    else match tree.makeDirectory path with
    | .ok made => .ok made
    | .error .notFound =>
      match Path.parent? path with
      | none => .error .notFound
      | some above => do
        let tree ← tree.makeDirectories depth above
        match tree.makeDirectory path with
        | .ok made => .ok made
        | .error error => if tree.isDirectory path then .ok tree else .error error
    | .error error => if tree.isDirectory path then .ok tree else .error error

/-- The tree with a directory at a path and at all its parents. -/
def makeDirectoryAll (tree : FileTree) (path : String) : Except FileError FileTree :=
  tree.makeDirectories (path.length + 1) path

/-- The tree without what stands at a place and below it. -/
def removePlace (tree : FileTree) (place : Place) : FileTree :=
  { tree with entries := tree.entries.filter fun (other, _) => !place.isPrefixOf other }

/-- The tree without what stands at a path and below it. -/
def remove (tree : FileTree) (path : String) : FileTree :=
  match tree.locate path with
  | .error _ => tree
  | .ok place => tree.removePlace place

/-- The tree in which all that stands at a place and below it stands at another place. -/
def movePlace (tree : FileTree) (source target : Place) : FileTree :=
  let cleared := if source = target then tree else tree.removePlace target
  { cleared with
    entries := cleared.entries.map fun (other, entry) =>
      if source.isPrefixOf other then (target ++ other.drop source.length, entry)
      else (other, entry) }

/-- The names in the directory at a place. -/
def namesAt (tree : FileTree) (place : Place) : List String :=
  tree.entries.filterMap fun (other, _) =>
    match other.getLast? with
    | some name => if other.dropLast = place then some name else none
    | none => none

/-- The names in the directory at a path. -/
def list (tree : FileTree) (path : String) : Except FileError (List String) := do
  let place ← tree.locate path
  match tree.get? place with
  | some .directory => .ok (tree.namesAt place)
  | some _ => .error .notDirectory
  | none => .error .notFound

end FileTree

end CopyOracle
