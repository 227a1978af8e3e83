import CopyOracle.Tool.Sed.Editing
import CopyOracle.Tool.Sed.Reader

/-!
# The editor of lines
-/
namespace CopyOracle.Tool.Sed

open Host

/-- A part of a script: what was written among the arguments, or what a file holds. -/
inductive Part where
  /-- An argument. -/
  | argument (text : ByteText)
  /-- A file. -/
  | file (path text : ByteText)

/-- The text of a part. -/
def Part.text : Part → ByteText
  | .argument text | .file _ text => text

/-- Where in the parts of a script a fault stands, after so many characters. -/
def place (used : Nat) : (count : Nat) → List Part → ByteText
  | _, [] => []
  | count, part :: rest =>
    let length := part.text.length
    let count := match part with
      | .argument _ => count + 1
      | .file _ _ => count
    if length < used && !rest.isEmpty then place (used - length - 1) count rest
    else match part with
    | .argument _ =>
      "-e expression #".toList ++ Numeral.digits count ++ ", char ".toList ++ Numeral.digits used
    | .file path text =>
      let lines := (text.take used).count '\n'
      "file ".toList ++ path ++ " line ".toList ++ Numeral.digits (lines + 1)

/-- Shows how the tool is used and ends it. -/
def showUsage {α : Type} : Work α := do
  let _ ← call (.write 2 ("Usage: sed [OPTION]... \x7bscript-only-if-no-other-script\x7d ".toList ++
    "[input-file]...\n".toList))
  quit 1

/-- The options. -/
def options : OptionTable :=
  .of "bsnrzuEe:f:l:i::V:" [("regexp-extended", .nothing, 'r'), ("in-place", .joined, 'i'),
    ("expression", .argument, 'e'), ("file", .argument, 'f'), ("quiet", .nothing, 'n'),
    ("silent", .nothing, 'n'), ("null-data", .nothing, 'z'), ("separate", .nothing, 's'),
    ("unbuffered", .nothing, 'u'), ("line-length", .argument, 'l'), ("posix", .nothing, 'p'),
    ("debug", .nothing, 'd'), ("sandbox", .nothing, 'S')]

/-- The parts of a script that options hold. -/
def partOf (letter : Char) (word : ByteText) : Work (Option Part) := do
  match letter with
  | 'e' => return some (.argument word)
  | 'f' =>
    match ← openOperand word with
    | .ok descriptor =>
      let text ← all word descriptor
      closeOperand descriptor
      let text := if text.getLast? = some '\n' then text.dropLast else text
      return some (.file word text)
    | .error error =>
      fail 4 ("couldn't open file ".toList ++ word ++ ": ".toList ++ error.reason.toList)
  | _ => return none

/-- The files that a script writes to. -/
def outputsOf (script : Script) : List ByteText :=
  (script.commands.toList.filterMap fun command =>
    match command.action with
    | .writeFile path _ => some path
    | .substitute substitution => substitution.file
    | _ => none).eraseDups

/-- The labels that commands go on at. -/
def labelsOf (script : Script) : List ByteText :=
  script.commands.toList.filterMap fun command =>
    match command.action with
    | .branch label | .branchIf label | .branchUnless label =>
      if label.isEmpty then none else some label
    | _ => none

/-- The state before the first line. -/
def startEditing (script : Script) (paths : List ByteText)
    (outputs : List (ByteText × Nat)) : Editing where
  paths := if paths.isEmpty then [['-']] else paths
  within := script.commands.map fun command =>
    match command.selector.first, command.selector.last with
    | some (.line 0), some _ => some none
    | _, _ => none
  outputs := outputs

end CopyOracle.Tool.Sed

namespace CopyOracle.Tool

open Host Sed

/-- Edits lines by a script. -/
def sed : Main := program fun arguments => do
  match readOptions Sed.options (arguments.length + 1) arguments {} with
  | .error fault =>
    complain fault.message
    showUsage
  | .ok asked =>
    let parts ← asked.options.filterMapM fun (letter, word) => partOf letter word
    let (parts, paths) ← match parts, asked.operands with
      | [], [] => showUsage
      | [], script :: paths => pure ([Part.argument script], paths)
      | parts, paths => pure (parts, paths)
    let text := ['\n'].intercalate (parts.map Part.text)
    match Sed.read (asked.has 'E' || asked.has 'r') text with
    | .error (some used, fault) =>
      fail 1 (place used 0 parts ++ ": ".toList ++ fault.message.toList)
    | .error (none, fault) =>
      fail 1 ("-e expression #1, char 0: ".toList ++ fault.message.toList)
    | .ok script =>
      if let some label := (labelsOf script).find? fun label =>
          (script.labels.lookup label).isNone then
        fail 4 ("can't find label for jump to ".toList ++ (named (String.ofList label)).toList)
      let outputs ← (outputsOf script).filterMapM fun path => do
        if path = "/dev/stdout".toList || path = "/dev/stderr".toList then return none
        match ← call (.openFile path .write) with
        | .ok descriptor => return some (path, descriptor)
        | .error error =>
          fail 4 ("couldn't open file ".toList ++ path ++ ": ".toList ++ error.reason.toList)
      let settings : Settings :=
        { script, isSilent := asked.has 'n' || script.isSilent
          isSeparate := asked.has 's' || asked.has 'i', replaces := asked.argument? 'i'
          ending := if asked.has 'z' then Char.ofNat 0 else '\n'
          width := ((asked.argument? 'l').bind Numeral.value?).getD 70 }
      let (status, _) ← (edit settings limit false).run (startEditing script paths outputs)
      flush
      if status ≠ 0 then quit status

end CopyOracle.Tool
