import CopyOracle.Tool.Directories
import CopyOracle.Tool.Streams
import CopyOracle.Tool.Words

/-!
# Making, copying, moving and removing files
-/
namespace CopyOracle.Tool

open Host

/-- Asks a question and reads whether the answer is yes. -/
def confirms (question : ByteText) : Work Bool := do
  flush
  let _ ← call (.write 2 ((← nameStart) ++ question))
  let (answer, source) ← nextLine "standard input".toList { descriptor := 0 }
  call (.giveBack 0 source.ahead.length)
  return match answer with
    | some (c :: _, _) => c = 'y' || c = 'Y'
    | _ => false

/-- The kind of a file in questions. -/
def kindOf : FileEntry → String
  | .directory => "directory"
  | .file content _ => if content.isEmpty then "regular empty file" else "regular file"
  | .program _ => "regular file"
  | .device _ => "character special file"

/-- How files are removed. -/
structure Removal where
  /-- Whether directories are removed with all that is in them. -/
  isDeep : Bool := false
  /-- Whether empty directories are removed. -/
  removesEmpty : Bool := false
  /-- Whether files that are not there are passed over in silence. -/
  isForced : Bool := false
  /-- Whether each file is asked about. -/
  asks : Bool := false
  /-- Whether each file is reported. -/
  isVerbose : Bool := false

/-- Whether a path ends with one or two dots. -/
def endsWithDots (path : ByteText) : Bool :=
  let name := baseOf path
  name = ['.'] || name = ['.', '.']

/-- Removes what stands at a path, and says whether it did. -/
def Removal.remove (removal : Removal) : (depth : Nat) → ByteText → Work Bool
  | 0, _ => return false
  | depth + 1, path => do
    match ← entryAt path with
    | .error error =>
      unless removal.isForced && (error = .notFound || error = .notDirectory) do
        faultAbout "cannot remove " path error
      return false
    | .ok entry =>
      let isDirectory : Bool := entry = .directory
      if isDirectory && !removal.isDeep && !removal.removesEmpty then
        faultAbout "cannot remove " path .isDirectory
        return false
      let files ← call .files
      let names := match files.list (ByteText.asString path) with
        | .ok names => names.map ByteText.ofString
        | .error _ => []
      if removal.asks && isDirectory && !names.isEmpty && removal.isDeep then
        unless ← confirms ("descend into directory ".toList ++ quoted path ++ "? ".toList) do
          return false
      if isDirectory && removal.isDeep then
        for name in names do
          let _ ← removal.remove depth (below path name)
      if removal.asks then
        unless ← confirms
            (s!"remove {kindOf entry} ".toList ++ quoted path ++ "? ".toList) do
          return false
      let text := ByteText.asString path
      match ← call (.change fun files =>
          if isDirectory then files.removeDirectory text else files.removeFile text) with
      | .ok _ =>
        if removal.isVerbose then
          putLine ((if isDirectory then "removed directory " else "removed ").toList ++ quoted path)
        return true
      | .error error =>
        faultAbout "cannot remove " path error
        return false

/-- Removes files. -/
def rm : Main := program fun arguments => do
  let asked ← askedFor (OptionTable.of "dfirRIv" [("dir", .nothing, 'd'), ("force", .nothing, 'f'),
    ("recursive", .nothing, 'r'), ("verbose", .nothing, 'v'), ("interactive", .joined, 'i'),
    ("one-file-system", .nothing, 'o'), ("no-preserve-root", .nothing, 'N'),
    ("preserve-root", .joined, 'P')]) arguments
  let removal : Removal :=
    { isDeep := asked.has 'r' || asked.has 'R', removesEmpty := asked.has 'd'
      isForced := asked.lastOf ['f', 'i'] = some 'f'
      asks := asked.lastOf ['f', 'i'] = some 'i', isVerbose := asked.has 'v' }
  if asked.operands.isEmpty then
    if removal.isForced then leave 0 else missingOperand
  for path in asked.operands do
    if (removal.isDeep || removal.removesEmpty) && endsWithDots path then
      fault 1 ("refusing to remove '.' or '..' directory: skipping ".toList ++ quoted path)
    else if removal.isDeep && !path.isEmpty && (withoutSlashes path).isEmpty then
      fault 1 "it is dangerous to operate recursively on '/'".toList
      complain "use --no-preserve-root to override this failsafe".toList
    else
      let _ ← removal.remove 1000 path

/-- How files are copied or moved. -/
structure Transfer where
  /-- Whether directories are copied with all that is in them. -/
  isDeep : Bool := false
  /-- Whether files that are there stay. -/
  keeps : Bool := false
  /-- Whether it is asked before a file is replaced. -/
  asks : Bool := false
  /-- Whether each file is reported. -/
  isVerbose : Bool := false
  /-- Whether the files are taken away from where they were. -/
  moves : Bool := false

namespace Transfer

/-- Reports a file. -/
def report (transfer : Transfer) (source target : ByteText) : Work Unit := do
  if transfer.isVerbose then
    putLine ((if transfer.moves then "renamed ".toList else []) ++ quoted source ++
      " -> ".toList ++ quoted target)

/-- Copies the bytes of a file. -/
def copyContent (source target : ByteText) (entry : FileEntry) : Work Unit := do
  let files ← call .files
  let isNew := (files.standing? (ByteText.asString target)).isNone
  match entry with
  | .program _ =>
    let text := ByteText.asString target
    match ← call (.change fun files => do return files.put (← files.writtenPlace text) entry) with
    | .ok _ => return ()
    | .error error => faultAbout "cannot create regular file " target error
  | _ =>
    match ← call (.openFile source .read) with
    | .error error => fault 1 ("cannot open ".toList ++ quoted source ++ " for reading: ".toList ++
        error.reason.toList)
    | .ok input =>
      if isNew && target.getLast? = some '/' then
        faultAbout "cannot create regular file " target .notDirectory
      else match ← call (.openFile target .write) with
      | .error error => faultAbout "cannot create regular file " target error
      | .ok output =>
        let text ← all ("error reading ".toList ++ quoted source) input
        match ← call (.write output text) with
        | .ok _ => pure ()
        | .error error => faultAbout "error writing " target error
        let _ ← call (.close output)
      let _ ← call (.close input)
      if let .file _ true := entry then
        if isNew then
          let _ ← call (.change fun files => files.setExecutable (ByteText.asString target) true)

/-- The place of a path, if it has one. -/
def placeOf (path : ByteText) : Work (Option Place) := do
  match (← call .files).locate (ByteText.asString path) with
  | .ok place => return some place
  | .error _ => return none

/-- Moves what stands at a path. -/
def move (transfer : Transfer) (source target : ByteText) : Work Unit := do
  match ← call (.change fun files =>
      files.rename (ByteText.asString source) (ByteText.asString target)) with
  | .ok _ => transfer.report source target
  | .error .invalid =>
    fault 1 ("cannot move ".toList ++ quoted source ++ " to a subdirectory of itself, ".toList ++
      quoted target)
  | .error .notEmpty => faultAbout "cannot overwrite " target .notEmpty
  | .error error =>
    fault 1 ("cannot move ".toList ++ quoted source ++ " to ".toList ++ quoted target ++
      ": ".toList ++ error.reason.toList)

/-- Why what stands at a path cannot replace what stands at another one. -/
def obstacle? (source target : ByteText) (isDirectory : Bool) (standing : Option FileEntry) :
    Option ByteText :=
  match standing, isDirectory with
  | some .directory, false =>
    some ("cannot overwrite directory ".toList ++ quoted target ++ " with non-directory".toList)
  | some .directory, true | none, _ => none
  | some _, true =>
    some ("cannot overwrite non-directory ".toList ++ quoted target ++ " with directory ".toList ++
      quoted source)
  | some _, false => none

/-- Copies a directory with all that is in it, apart from the copy itself. -/
def copyDirectory (source target : ByteText) (again : ByteText → ByteText → Work Unit) :
    Work Unit := do
  let files ← call .files
  let names := match files.list (ByteText.asString source) with
    | .ok names => names.map ByteText.ofString
    | .error _ => []
  let sourcePlace ← placeOf source
  let targetPlace ← placeOf target
  let isWithin := match sourcePlace, targetPlace with
    | some source, some target => source.isPrefixOf target
    | _, _ => false
  unless files.isDirectory (ByteText.asString target) do
    match ← call (.change fun files => files.makeDirectory (ByteText.asString target)) with
    | .ok _ => pure ()
    | .error error => faultAbout "cannot create directory " target error
  if ← isDirectoryAt target then
    for name in names do
      let inner := below source name
      unless isWithin && (← placeOf inner).any fun place =>
          (targetPlace.any fun target => place.isPrefixOf target) do
        again inner (below target name)
  if isWithin then
    fault 1 ("cannot copy a directory, ".toList ++ quoted source ++ ", into itself, ".toList ++
      quoted target)

/-- Copies or moves what stands at a path. -/
def file (transfer : Transfer) : (depth : Nat) → (source target : ByteText) → Work Unit
  | 0, _, _ => return ()
  | depth + 1, source, target => do
    match ← entryAt source with
    | .error error => faultAbout "cannot stat " source error
    | .ok entry =>
      let isDirectory : Bool := entry = .directory
      let standing := (← call .files).standing? (ByteText.asString target)
      if isDirectory && !transfer.isDeep && !transfer.moves then
        fault 1 ("-r not specified; omitting directory ".toList ++ quoted source)
      else if standing.isSome && (← placeOf source) = (← placeOf target) then
        fault 1 (quoted source ++ " and ".toList ++ quoted target ++ " are the same file".toList)
      else if standing.isSome && transfer.keeps && !isDirectory then
        if transfer.moves then fault 1 ("not replacing ".toList ++ quoted target)
      else match obstacle? source target isDirectory standing with
      | some wording => fault 1 wording
      | none =>
        if standing.isSome && transfer.asks && !isDirectory then
          unless ← confirms ("overwrite ".toList ++ quoted target ++ "? ".toList) do
            modify fun desk => { desk with status := 1 }
            return ()
        if transfer.moves then transfer.move source target
        else
          transfer.report source target
          if isDirectory then copyDirectory source target (transfer.file depth)
          else copyContent source target entry

/-- Copies or moves the files of operands to the last one. -/
def operands (transfer : Transfer) (asked : Asked) : Work Unit := do
  let inDirectory := asked.argument? 't'
  match inDirectory, asked.operands.reverse with
  | _, [] => misuse 1 "missing file operand".toList
  | none, [only] => misuse 1 ("missing destination file operand after ".toList ++ quoted only)
  | none, [target, source] =>
    if !asked.has 'T' && (← isDirectoryAt target) then
      transfer.file 1000 source (below target (baseOf source))
    else transfer.file 1000 source target
  | none, target :: sources =>
    if asked.has 'T' then misuse 1 ("extra operand ".toList ++ quoted target)
    match ← entryAt target with
    | .ok .directory => into target sources.reverse
    | .ok _ => fail 1 ("target ".toList ++ quoted target ++ ": Not a directory".toList)
    | .error error =>
      fail 1 ("target ".toList ++ quoted target ++ ": ".toList ++ error.reason.toList)
  | some target, sources =>
    match ← entryAt target with
    | .ok .directory => into target sources.reverse
    | .ok _ => fail 1 ("target directory ".toList ++ quoted target ++ ": Not a directory".toList)
    | .error error =>
      fail 1 ("target directory ".toList ++ quoted target ++ ": ".toList ++ error.reason.toList)
where
  /-- Copies or moves files into a directory. -/
  into (target : ByteText) (sources : List ByteText) : Work Unit :=
    sources.forM fun source => transfer.file 1000 source (below target (baseOf source))

end Transfer

/-- Copies files. -/
def cp : Main := program fun arguments => do
  let asked ← askedFor (OptionTable.of "abdfHilLnprRst:TuvxP" [("archive", .nothing, 'a'),
    ("force", .nothing, 'f'), ("interactive", .nothing, 'i'), ("no-clobber", .nothing, 'n'),
    ("recursive", .nothing, 'r'), ("verbose", .nothing, 'v'),
    ("target-directory", .argument, 't'), ("no-target-directory", .nothing, 'T'),
    ("preserve", .joined, 'p'), ("update", .joined, 'u')]) arguments
  if asked.has 'n' then complain ("warning: behavior of -n is non-portable and may change in ".toList
    ++ "future; use --update=none instead".toList)
  Transfer.operands
    { isDeep := asked.has 'r' || asked.has 'R' || asked.has 'a', keeps := asked.has 'n'
      asks := asked.lastOf ['i', 'n'] = some 'i', isVerbose := asked.has 'v' } asked

/-- Moves files. -/
def mv : Main := program fun arguments => do
  let asked ← askedFor (OptionTable.of "bfint:Tuv" [("force", .nothing, 'f'),
    ("interactive", .nothing, 'i'), ("no-clobber", .nothing, 'n'), ("verbose", .nothing, 'v'),
    ("target-directory", .argument, 't'), ("no-target-directory", .nothing, 'T'),
    ("update", .joined, 'u')]) arguments
  let last := asked.lastOf ['f', 'i', 'n']
  Transfer.operands
    { moves := true, keeps := last = some 'n', asks := last = some 'i'
      isVerbose := asked.has 'v' } asked

/-- Gives files a further name, under which they are copied. -/
def ln : Main := program fun arguments => do
  let asked ← askedFor (OptionTable.of "bdfFinsrPLt:Tv" [("force", .nothing, 'f'),
    ("symbolic", .nothing, 's'), ("verbose", .nothing, 'v')]) arguments
  let kind := if asked.has 's' then "symbolic" else "hard"
  let link (source target : ByteText) : Work Unit := do
    match ← entryAt source with
    | .error error => unless asked.has 's' do faultAbout "failed to access " source error
    | .ok entry =>
      if entry = .directory && !asked.has 's' then
        fault 1 (source ++ ": hard link not allowed for directory".toList)
      else
        let standing := (← call .files).standing? (ByteText.asString target)
        if standing.isSome && !asked.has 'f' then
          faultAbout s!"failed to create {kind} link " target .exists
        else Transfer.file { isDeep := true } 1000 source target
  match asked.operands with
  | [] => misuse 1 "missing file operand".toList
  | [only] => link only (below ['.'] (baseOf only))
  | [source, target] =>
    if !asked.has 'T' && (← isDirectoryAt target) then link source (below target (baseOf source))
    else link source target
  | operands =>
    let target := operands.getLastD []
    if ← isDirectoryAt target then
      operands.dropLast.forM fun source => link source (below target (baseOf source))
    else fail 1 ("target ".toList ++ quoted target ++ ": Not a directory".toList)

/-- Makes files that are not there. -/
def touch : Main := program fun arguments => do
  let asked ← askedFor (OptionTable.of "acd:fhmr:t:" [("no-create", .nothing, 'c'),
    ("date", .argument, 'd'), ("reference", .argument, 'r')]) arguments
  if asked.operands.isEmpty then misuse 1 "missing file operand".toList
  for path in asked.operands do
    match ← entryAt path with
    | .ok _ => pure ()
    | .error error =>
      if path.getLast? = some '/' then faultAbout "setting times of " path error
      else unless asked.has 'c' do
        match ← call (.openFile path { writes := true, creates := true }) with
        | .ok descriptor =>
          let _ ← call (.close descriptor)
        | .error error => faultAbout "cannot touch " path error

/-- The paths of a directory and of all that is below it. -/
def pathsWithin (files : FileTree) : (depth : Nat) → ByteText → List ByteText
  | 0, path => [path]
  | depth + 1, path =>
    match files.sortedNames (ByteText.asString path) with
    | .ok names =>
      path :: names.flatMap fun name =>
        pathsWithin files depth (below path (ByteText.ofString name))
    | .error _ => [path]

/-- Changes who may run files. -/
def chmod : Main := program fun arguments => do
  let isMode (word : ByteText) : Bool :=
    match word with
    | '-' :: letters@(_ :: _) =>
      letters.all fun c => c ∈ ['r', 'w', 'x', 'X', 's', 't', 'u', 'g', 'o', ',', '+', '=']
    | _ => false
  let (modes, others) := match arguments.find? isMode with
    | some mode => ([mode], arguments.filter (· ≠ mode))
    | none => ([], arguments)
  let asked ← askedFor (OptionTable.of "Rcfv" [("recursive", .nothing, 'R'),
    ("changes", .nothing, 'c'), ("silent", .nothing, 'f'), ("quiet", .nothing, 'f'),
    ("verbose", .nothing, 'v'), ("reference", .argument, 'r')]) others
  match modes ++ asked.operands with
  | [] => missingOperand
  | [mode] => misuse 1 ("missing operand after ".toList ++ quoted mode)
  | mode :: paths =>
    if (applyMode? mode true).isNone then misuse 1 ("invalid mode: ".toList ++ quoted mode)
    let files ← call .files
    let paths := if asked.has 'R' then paths.flatMap (pathsWithin files 1000) else paths
    for path in paths do
      match ← entryAt path with
      | .error error =>
        if asked.has 'f' then modify fun desk => { desk with status := 1 }
        else faultAbout "cannot access " path error
      | .ok (.file _ isExecutable) =>
        let wanted := (applyMode? mode isExecutable).getD isExecutable
        let _ ← call (.change fun files => files.setExecutable (ByteText.asString path) wanted)
      | .ok _ => pure ()

/-- Changes the sizes of files. -/
def truncate : Main := program fun arguments => do
  let asked ← askedFor (OptionTable.of "cor:s:" [("no-create", .nothing, 'c'),
    ("size", .argument, 's'), ("reference", .argument, 'r')]) arguments
  match asked.argument? 's' with
  | none => misuse 1 "you must specify either '--size' or '--reference'".toList
  | some word =>
    let (sign, digits) := match word with
      | '+' :: digits => ('+', digits)
      | '-' :: digits => ('-', digits)
      | digits => (' ', digits)
    match sized? digits with
    | none => fail 1 ("Invalid number: ".toList ++ quoted word)
    | some amount =>
      if asked.operands.isEmpty then misuse 1 "missing file operand".toList
      for path in asked.operands do
        let files ← call .files
        let size := match files.standing? (ByteText.asString path) with
          | some (.file content _) => some content.size
          | some _ => some 0
          | none => none
        unless size.isNone && asked.has 'c' do
          let wanted := if sign = '+' then size.getD 0 + amount
            else if sign = '-' then size.getD 0 - amount else amount
          match ← call (.change fun files => files.resize (ByteText.asString path) wanted) with
          | .ok _ => pure ()
          | .error error => fault 1 ("cannot open ".toList ++ quoted path ++ " for writing: ".toList ++
              error.reason.toList)

/-- Letters and digits for new names. -/
def nameLetters : List Char :=
  "0123456789ABCDEFGHIJKLMNOPQRSTUVWXYZabcdefghijklmnopqrstuvwxyz".toList

/-- So many letters that stand for a number. -/
def nameFor : (count number : Nat) → ByteText
  | 0, _ => []
  | count + 1, number =>
    nameLetters.getD (number % 62) '0' :: nameFor count (number / 62 * 31 + number % 31 + 7)

/-- Makes a file or a directory with a new name and prints it. -/
def mktemp : Main := program fun arguments => do
  let asked ← askedFor (OptionTable.of "dqutp:V" [("directory", .nothing, 'd'),
    ("dry-run", .nothing, 'u'), ("quiet", .nothing, 'q'), ("tmpdir", .joined, 'p'),
    ("suffix", .argument, 's')]) arguments
  if 1 < asked.operands.length then misuse 1 "too many templates".toList
  let template := asked.operands.headD "tmp.XXXXXXXXXX".toList
  let directory := if asked.has 'p' || asked.has 't' || asked.operands.isEmpty then
      match (asked.argument? 'p').getD [] with
      | [] => "/tmp".toList
      | directory => directory
    else []
  let path := if directory.isEmpty then template else below directory template
  let count := (path.reverse.takeWhile (· = 'X')).length
  if count < 3 then fail 1 ("too few X's in template ".toList ++ quoted template)
  let start := path.take (path.length - count)
  let (number, _) ← call .identity
  let files ← call .files
  let free := (List.range 1000).find? fun index =>
    (files.standing? (ByteText.asString (start ++ nameFor count (number * 1000 + index)))).isNone
  let chosen := start ++ nameFor count (number * 1000 + free.getD 0)
  let made ← if asked.has 'u' then pure (Except.ok ())
    else call (.change fun files =>
      if asked.has 'd' then files.makeDirectory (ByteText.asString chosen)
      else files.writeBytes (ByteText.asString chosen) .empty)
  match made with
  | .ok _ => putLine chosen
  | .error error =>
    let kind := if asked.has 'd' then "directory" else "file"
    fault 1 (s!"failed to create {kind} via template ".toList ++ quoted path ++ ": ".toList ++
      error.reason.toList)

/-- Prints the paths of programs. -/
def which : Main := program fun arguments => do
  let files ← call .files
  let entries := (← get).environment.filter fun entry => "PATH=".toList.isPrefixOf entry
  let directories := ((entries.headD []).drop 5).splitOn ':'
  let isProgram (path : ByteText) : Bool :=
    match files.standing? (ByteText.asString path) with
    | some (.file _ true) | some (.program _) => true
    | _ => false
  for name in arguments do
    let candidates := if name.contains '/' then [name]
      else directories.map fun directory => below directory name
    match candidates.find? isProgram with
    | some path => putLine path
    | none => modify fun desk => { desk with status := 1 }

/-- Prints the paths of files from the root on. -/
def realpath : Main := program fun arguments => do
  let asked ← askedFor (OptionTable.of "emqsz") arguments
  if asked.operands.isEmpty then missingOperand
  let files ← call .files
  for path in asked.operands do
    match files.locate (ByteText.asString path) with
    | .ok place =>
      if asked.has 'e' && (files.get? place).isNone then
        fault 1 (path ++ ": No such file or directory".toList)
      else putLine ('/' :: ['/'].intercalate (place.map ByteText.ofString))
    | .error error => fault 1 (path ++ ": ".toList ++ error.reason.toList)

/-- Prints where links lead, of which there are none. -/
def readlink : Main := program fun arguments => do
  let asked ← askedFor (OptionTable.of "femnqsvz") arguments
  if asked.operands.isEmpty then missingOperand
  let files ← call .files
  for path in asked.operands do
    match files.locate (ByteText.asString path) with
    | .ok place =>
      if asked.has 'f' || asked.has 'm' || (asked.has 'e' && (files.get? place).isSome) then
        putLine ('/' :: ['/'].intercalate (place.map ByteText.ofString))
      else modify fun desk => { desk with status := 1 }
    | .error _ => modify fun desk => { desk with status := 1 }

/-- What is said of a file by a format. -/
def describe (path : ByteText) (entry : FileEntry) : (fuel : Nat) → ByteText → ByteText
  | 0, _ | _, [] => []
  | fuel + 1, '%' :: letter :: rest =>
    let text := match letter, entry with
      | 'n', _ => path
      | 'N', _ => quoted path
      | 's', .file content _ => Numeral.digits content.size
      | 's', .directory => "4096".toList
      | 'F', entry => (kindOf entry).toList
      | 'a', .file _ false => "644".toList
      | 'a', _ => "755".toList
      | 'A', .directory => "drwxr-xr-x".toList
      | 'A', .file _ false => "-rw-r--r--".toList
      | 'A', _ => "-rwxr-xr-x".toList
      | 'u', _ | 'g', _ | 's', _ => ['0']
      | 'U', _ | 'G', _ => "root".toList
      | '%', _ => ['%']
      | _, _ => ['?']
    text ++ describe path entry fuel rest
  | fuel + 1, c :: rest => c :: describe path entry fuel rest

/-- Prints what is known of files. -/
def stat : Main := program fun arguments => do
  let asked ← askedFor (OptionTable.of "Lfc:t" [("format", .argument, 'c'),
    ("printf", .argument, 'p')]) arguments
  if asked.operands.isEmpty then missingOperand
  for path in asked.operands do
    match ← entryAt path with
    | .error error => faultAbout "cannot statx " path error
    | .ok entry =>
      let format := (asked.argument? 'c').getD "%n %s".toList
      putLine (describe path entry (format.length + 1) format)

end CopyOracle.Tool
