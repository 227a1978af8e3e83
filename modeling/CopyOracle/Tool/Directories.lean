import CopyOracle.File.Change
import CopyOracle.Tool.Options

/-!
# Making, listing and removing directories
-/
namespace CopyOracle.Tool

open Host

/-- What stands at a path, or why nothing can be found there. -/
def entryAt (path : ByteText) : Work (Except FileError FileEntry) :=
  return (← call .files).entry (ByteText.asString path)

/-- Whether a path leads to a directory. -/
def isDirectoryAt (path : ByteText) : Work Bool :=
  return (← call .files).isDirectory (ByteText.asString path)

/-- A name below a directory. -/
def below (directory : ByteText) (name : ByteText) : ByteText :=
  if directory.getLast? = some '/' then directory ++ name else directory ++ '/' :: name

/-- A complaint about a file: what cannot be done with it, and why. -/
def faultAbout (wording : String) (path : ByteText) (error : FileError) : Work Unit :=
  fault 1 (wording.toList ++ quoted path ++ ": ".toList ++ error.reason.toList)

/-- The paths of the directories above what a path leads to, from the front on. -/
def pathsAbove (path : ByteText) : List ByteText :=
  ((List.range path.length).filter fun index => path[index]? = some '/').filterMap fun index =>
    let front := path.take index
    if front.isEmpty || front.getLast? = some '/' then none else some front

/-- Whether a text is a mode in digits of base eight. -/
def isNumberMode (text : ByteText) : Bool :=
  !text.isEmpty && text.all (fun c => '0' ≤ c && c ≤ '7') && Nat.ofDigitChars 8 text 0 ≤ 0o7777

/-- One step of a mode in letters: the three classes of users that may run a file afterwards. -/
def modeStep (users : Bool × Bool × Bool) (sign : Char) (letters : ByteText)
    (before : Bool × Bool × Bool) : Bool × Bool × Bool :=
  let sets := letters.contains 'x' ||
    (letters.contains 'X' && (before.1 || before.2.1 || before.2.2)) ||
    (letters.contains 'u' && before.1) || (letters.contains 'g' && before.2.1) ||
    (letters.contains 'o' && before.2.2)
  let change (isMeant was : Bool) : Bool :=
    if !isMeant then was
    else match sign with
    | '+' => was || sets
    | '-' => was && !sets
    | _ => sets
  (change users.1 before.1, change users.2.1 before.2.1, change users.2.2 before.2.2)

/-- The steps of one part of a mode in letters. -/
def modeSteps (users : Bool × Bool × Bool) : (fuel : Nat) → ByteText → Bool × Bool × Bool →
    Option (Bool × Bool × Bool)
  | 0, _, state | _, [], state => some state
  | fuel + 1, sign :: rest, state =>
    if sign ∈ ['+', '-', '='] then
      let letters := rest.takeWhile fun c => c ∈ ['r', 'w', 'x', 'X', 's', 't', 'u', 'g', 'o']
      modeSteps users fuel (rest.drop letters.length) (modeStep users sign letters state)
    else none

/-- Who may run a file after a mode is applied, if it is one. -/
def applyMode? (mode : ByteText) (isExecutable : Bool) : Option Bool :=
  if isNumberMode mode then some (Nat.ofDigitChars 8 mode 0 &&& 0o111 ≠ 0)
  else do
    let state ← (mode.splitOn ',').foldlM (fun state part => do
      let who := part.takeWhile fun c => c ∈ ['u', 'g', 'o', 'a']
      let isAll := who.isEmpty || who.contains 'a'
      let users := (isAll || who.contains 'u', isAll || who.contains 'g', isAll || who.contains 'o')
      let steps := part.drop who.length
      if steps.isEmpty then none else modeSteps users (steps.length + 1) steps state)
      (isExecutable, isExecutable, isExecutable)
    return state.1 || state.2.1 || state.2.2

/-- Makes a directory, and says so if that is asked for. -/
def makeDirectory (isVerbose : Bool) (path : ByteText) : Work Unit := do
  match ← call (.change fun files => files.makeDirectory (ByteText.asString path)) with
  | .ok _ =>
    if isVerbose then
      putLine ((← nameStart) ++ "created directory ".toList ++ quoted path)
  | .error error => faultAbout "cannot create directory " path error

/-- Makes a directory and those above it; ones that are there are left as they are. -/
def makeDirectoriesTo (isVerbose : Bool) (path : ByteText) : List ByteText → Work Unit
  | [] => do unless ← isDirectoryAt path do makeDirectory isVerbose path
  | above :: rest => do
    match ← entryAt above with
    | .ok .directory => makeDirectoriesTo isVerbose path rest
    | .ok _ => faultAbout "cannot create directory " above .notDirectory
    | .error _ =>
      makeDirectory isVerbose above
      if ← isDirectoryAt above then makeDirectoriesTo isVerbose path rest

/-- Makes directories. -/
def mkdir : Main := program fun arguments => do
  let asked ← askedFor (OptionTable.of "m:pv" [("mode", .argument, 'm'),
    ("parents", .nothing, 'p'), ("verbose", .nothing, 'v')]) arguments
  if asked.operands.isEmpty then missingOperand
  if let some mode := asked.argument? 'm' then
    if (applyMode? mode true).isNone then fail 1 ("invalid mode ".toList ++ quoted mode)
  let isVerbose := asked.has 'v'
  for path in asked.operands do
    if asked.has 'p' then makeDirectoriesTo isVerbose path (pathsAbove path)
    else makeDirectory isVerbose path

/-- Removes empty directories. -/
def rmdir : Main := program fun arguments => do
  let asked ← askedFor (OptionTable.of "pv" [("parents", .nothing, 'p'),
    ("verbose", .nothing, 'v'), ("ignore-fail-on-non-empty", .nothing, 'i')]) arguments
  if asked.operands.isEmpty then missingOperand
  for path in asked.operands do
    let paths := if asked.has 'p' then path :: (pathsAbove path).reverse else [path]
    let _ ← paths.foldlM (fun isGoing path => do
      if !isGoing then return false
      if asked.has 'v' then putLine ((← nameStart) ++ "removing directory, ".toList ++ quoted path)
      match ← call (.change fun files => files.removeDirectory (ByteText.asString path)) with
      | .ok _ => return true
      | .error error =>
        unless error = .notEmpty && asked.has 'i' do faultAbout "failed to remove " path error
        return false) true

/-- How names are listed. -/
structure Listing where
  /-- Whether names that begin with a dot are listed. -/
  showsHidden : Bool := false
  /-- Whether the directory itself and the one above it are listed. -/
  showsDots : Bool := false
  /-- Whether directories are listed as such, and not what is in them. -/
  isFlat : Bool := false
  /-- Whether the order is turned round. -/
  isReversed : Bool := false
  /-- Whether directories within directories are listed. -/
  isDeep : Bool := false
  /-- Whether names of directories have a slash at the end. -/
  marksDirectories : Bool := false
  /-- Whether names of programs have a sign at the end. -/
  marksPrograms : Bool := false
  /-- Whether names are in quotes. -/
  quotes : Bool := false
  /-- Whether much is said of each file. -/
  isLong : Bool := false
  /-- Whether users are numbers. -/
  isNumeric : Bool := false
  /-- What stands between names, where each has no line of its own. -/
  separator : Option ByteText := none
  /-- Whether the largest files come first. -/
  isBySize : Bool := false

namespace Listing

/-- The size of a file. -/
def sizeOf : FileEntry → Nat
  | .file content _ => content.size
  | .directory => 4096
  | _ => 0

/-- What a long line says of a file before its name. -/
def details (listing : Listing) (entry : FileEntry) : ByteText :=
  let mode := match entry with
    | .directory => "drwxr-xr-x 2"
    | .file _ true | .program _ => "-rwxr-xr-x 1"
    | .file _ false => "-rw-r--r-- 1"
    | .device _ => "crw-rw-rw- 1"
  let user := if listing.isNumeric then " 0 0 " else " root root "
  mode.toList ++ user.toList ++ Numeral.digits (sizeOf entry) ++ " Jan  1 00:00 ".toList

/-- A name as it is listed. -/
def item (listing : Listing) (name : ByteText) (entry : FileEntry) : ByteText :=
  let shown := if listing.quotes then '"' :: name ++ ['"'] else name
  let mark := match entry with
    | .directory => if listing.marksDirectories then ['/'] else []
    | .file _ true | .program _ => if listing.marksPrograms then ['*'] else []
    | _ => []
  (if listing.isLong then listing.details entry else []) ++ shown ++ mark

/-- Names with what stands there, in the order of the list. -/
def ordered (listing : Listing) (entries : List (ByteText × FileEntry)) :
    List (ByteText × FileEntry) :=
  let sorted := entries.mergeSort fun (left, first) (right, second) =>
    if listing.isBySize && sizeOf first ≠ sizeOf second then sizeOf second < sizeOf first
    else ByteText.atMost left right
  if listing.isReversed then sorted.reverse else sorted

/-- Prints names with what stands there. -/
def print (listing : Listing) (entries : List (ByteText × FileEntry)) : Work Unit := do
  let items := (listing.ordered entries).map fun (name, entry) => listing.item name entry
  match listing.separator, items with
  | _, [] => return ()
  | none, items => items.forM putLine
  | some separator, items => putLine (separator.intercalate items)

/-- What a directory holds, by names. -/
def within (listing : Listing) (files : FileTree) (path : ByteText) :
    List (ByteText × FileEntry) :=
  let names := match files.list (ByteText.asString path) with
    | .ok names => names.map ByteText.ofString
    | .error _ => []
  let names := if listing.showsHidden then names else names.filter fun name =>
    name.head? ≠ some '.'
  let dots : List ByteText := if listing.showsDots then [['.'], ['.', '.']] else []
  (dots ++ names).filterMap fun name =>
    (files.standing? (ByteText.asString (below path name))).map (name, ·)

/-- Prints what directories hold, each under its path if there are several. -/
def directories (listing : Listing) (isTitled : Bool) : (fuel : Nat) → (isFirst : Bool) →
    List ByteText → Work Unit
  | 0, _, _ | _, _, [] => return ()
  | fuel + 1, isFirst, path :: rest => do
    let files ← call .files
    let entries := listing.within files path
    unless isFirst do putLine []
    if isTitled then putLine (path ++ [':'])
    if listing.isLong then putLine ("total ".toList ++
      Numeral.digits (4 * (entries.filter fun (_, entry) => sizeOf entry ≠ 0).length))
    listing.print entries
    let deeper := if listing.isDeep then
        (listing.ordered entries).filterMap fun (name, entry) =>
          if entry = .directory && name ≠ ['.'] && name ≠ ['.', '.'] then some (below path name)
          else none
      else []
    directories listing isTitled fuel false (deeper ++ rest)

end Listing

/-- Lists files and what directories hold. -/
def ls : Main := program fun arguments => do
  let asked ← askedFor (OptionTable.of "1aAdrRFpQmCxlnogtSUshiqLHkcufvNbBGXw:T:I:"
    [("all", .nothing, 'a'), ("almost-all", .nothing, 'A'), ("directory", .nothing, 'd'),
      ("reverse", .nothing, 'r'), ("recursive", .nothing, 'R'), ("classify", .joined, 'F'),
      ("quote-name", .nothing, 'Q'), ("size", .nothing, 's'), ("color", .joined, 'k')])
    arguments 2
  let listing : Listing :=
    { showsHidden := asked.has 'a' || asked.has 'A' || asked.has 'f'
      showsDots := asked.lastOf ['a', 'A', 'f'] = some 'a' || asked.has 'f'
      isFlat := asked.has 'd', isReversed := asked.has 'r', isDeep := asked.has 'R'
      marksDirectories := asked.has 'F' || asked.has 'p', marksPrograms := asked.has 'F'
      quotes := asked.has 'Q', isBySize := asked.has 'S'
      isLong := asked.has 'l' || asked.has 'n' || asked.has 'o' || asked.has 'g'
      isNumeric := asked.has 'n'
      separator := match asked.lastOf ['1', 'm', 'C', 'x', 'l'] with
        | some 'm' => some [',', ' ']
        | some 'C' | some 'x' => some [' ', ' ']
        | _ => none }
  let files ← call .files
  let operands := if asked.operands.isEmpty then [['.']] else asked.operands
  let found ← operands.filterMapM fun path => do
    match files.entry (ByteText.asString path) with
    | .ok entry => return some (path, entry)
    | .error error =>
      faultAbout "cannot access " path error
      modify fun desk => { desk with status := 2 }
      return none
  let isListed (entry : FileEntry) : Bool := entry ≠ .directory || listing.isFlat
  let single := found.filter fun (_, entry) => isListed entry
  let opened := listing.ordered (found.filter fun (_, entry) => !isListed entry)
  listing.print single
  let isTitled := 1 < operands.length || listing.isDeep
  listing.directories isTitled 10000 single.isEmpty (opened.map Prod.fst)

end CopyOracle.Tool
