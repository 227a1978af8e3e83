import CopyOracle.File.Tree

/-!
# Changes of file trees

Files and empty directories are taken away, and what stands at a path is given another one. A
change is refused as an operating system refuses it, and then nothing is changed.
-/
namespace CopyOracle.FileTree

/-- The tree without the file at a path. -/
def removeFile (tree : FileTree) (path : String) : Except FileError FileTree := do
  let place ← tree.locate path
  match tree.get? place with
  | none => .error .notFound
  | some .directory => .error .isDirectory
  | some _ => .ok (tree.removePlace place)

/-- The tree without the empty directory at a path. -/
def removeDirectory (tree : FileTree) (path : String) : Except FileError FileTree := do
  let place ← tree.locate path
  match tree.get? place with
  | none => .error .notFound
  | some .directory =>
    match (steps path).1.getLast? with
    | some "." => .error .invalid
    | _ =>
      if place = [] || !(tree.namesAt place).isEmpty then .error .notEmpty
      else .ok (tree.removePlace place)
  | some _ => .error .notDirectory

/-- The place at which a path makes something new, where a directory may have a slash at its
end. -/
def newPlace (tree : FileTree) (path : String) (isDirectory : Bool) : Except FileError Place := do
  match ← tree.site path with
  | (.taken, _) => .error .exists
  | (.fresh place, hasSlash) => if hasSlash && !isDirectory then .error .notDirectory else .ok place

/-- The tree in which what stands at one path stands at another one instead of what was there. A
directory replaces only an empty directory and is not moved below itself. -/
def rename (tree : FileTree) (source target : String) : Except FileError FileTree := do
  let old ← tree.locate source
  match tree.get? old with
  | none => .error .notFound
  | some entry =>
    let isDirectory : Bool := entry = .directory
    let new ← tree.newPlace target isDirectory
    if old = new then .ok tree
    else if old.isPrefixOf new then .error .invalid
    else match tree.get? new, isDirectory with
    | some .directory, false => .error .isDirectory
    | some .directory, true =>
      if (tree.namesAt new).isEmpty then .ok (tree.movePlace old new) else .error .notEmpty
    | some _, true => .error .notDirectory
    | _, _ => .ok (tree.movePlace old new)

/-- The tree in which a file may be run or not. -/
def setExecutable (tree : FileTree) (path : String) (isExecutable : Bool) :
    Except FileError FileTree := do
  let place ← tree.locate path
  match tree.get? place with
  | none => .error .notFound
  | some (.file content _) => .ok (tree.put place (.file content isExecutable))
  | some _ => .ok tree

/-- The tree in which a file has so many bytes: zero bytes are added where some are missing. -/
def resize (tree : FileTree) (path : String) (size : Nat) : Except FileError FileTree := do
  let place ← tree.writtenPlace path
  match tree.get? place with
  | none => .ok (tree.put place (.file ⟨Array.replicate size 0⟩))
  | some (.file content isExecutable) =>
    let added : ByteArray := ⟨Array.replicate (size - content.size) 0⟩
    .ok (tree.put place (.file (content.extract 0 size ++ added) isExecutable))
  | some .directory => .error .isDirectory
  | some _ => .error .invalid

/-- The names in the directory at a path in the order of their bytes. -/
def sortedNames (tree : FileTree) (path : String) : Except FileError (List String) := do
  return (← tree.list path).mergeSort fun left right => !(right < left)

end CopyOracle.FileTree
