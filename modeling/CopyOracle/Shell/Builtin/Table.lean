import CopyOracle.Shell.Builtin.Names
import CopyOracle.Shell.Builtin.Options
import CopyOracle.Shell.Builtin.Output
import CopyOracle.Shell.Builtin.Processes
import CopyOracle.Shell.Builtin.Surroundings
import CopyOracle.Shell.Builtin.Variables

/-!
# The commands of the shell by their names
-/
namespace CopyOracle.Shell

namespace Execution

/-- The commands of the shell, except those that it handles itself. -/
def builtinTable : List (String × Builtin) :=
  [(":", fun _ _ _ => return 0), ("true", fun _ _ _ => return 0),
    ("false", fun _ _ _ => return 1), (".", source), ("[", bracket), ("alias", «alias»),
    ("bg", moveJob), ("break", «break»), ("cd", cd), ("chdir", cd), ("command", command),
    ("continue", «continue»), ("echo", echo), ("eval", eval), ("exec", exec), ("exit", exit),
    ("export", «export»), ("fg", moveJob), ("getopts", getopts), ("hash", hash), ("jobs", jobs),
    ("kill", kill), ("local", «local»), ("printf", printf), ("pwd", pwd), ("read", read),
    ("readonly", readonly), ("return", «return»), ("set", set), ("shift", shift), ("test", test),
    ("times", times), ("trap", trap), ("type", type), ("ulimit", ulimit), ("umask", umask),
    ("unalias", unalias), ("unset", unset), ("wait", wait)]

/-- The command of the shell of some name. -/
def builtin? (name : ByteText) : Option Builtin := builtinTable.lookup (String.ofList name)

/-- Whether the arguments of a command that are assignments are expanded like assignments. -/
def takesAssignments (name : ByteText) : Bool :=
  ["export", "readonly", "local", "alias"].contains (String.ofList name)

end Execution

end CopyOracle.Shell
