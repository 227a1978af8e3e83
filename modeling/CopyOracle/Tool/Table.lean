import CopyOracle.Tool.Arguments
import CopyOracle.Tool.Awk.Command
import CopyOracle.Tool.Columns
import CopyOracle.Tool.Comparison
import CopyOracle.Tool.Counts
import CopyOracle.Tool.Dump
import CopyOracle.Tool.Encoding
import CopyOracle.Tool.Expression
import CopyOracle.Tool.Files
import CopyOracle.Tool.Finding
import CopyOracle.Tool.Grep
import CopyOracle.Tool.Order
import CopyOracle.Tool.Sed.Command
import CopyOracle.Tool.Starting
import CopyOracle.Tool.Streams
import CopyOracle.Tool.System
import CopyOracle.Tool.Translation
import CopyOracle.Tool.Words

/-!
# The tools by their names
-/
namespace CopyOracle.Tool

open Host

/-- The tools of a system. -/
def table : List (String × Main) :=
  [("[", bracket), ("arch", arch), ("awk", awk), ("base64", base64), ("basename", basename),
    ("cat", cat), ("chmod", chmod), ("cksum", cksum), ("cmp", cmp), ("comm", comm), ("cp", cp),
    ("cut", cut), ("date", date), ("diff", diff), ("dirname", dirname), ("echo", echo),
    ("egrep", egrep), ("env", env), ("expand", expand), ("expr", expr), ("false", false_),
    ("fgrep", fgrep), ("find", find), ("fold", fold), ("grep", grep), ("groups", groups),
    ("head", head), ("hostname", hostname), ("id", id), ("kill", kill), ("ln", ln), ("ls", ls),
    ("mawk", awk), ("md5sum", md5sum), ("mkdir", mkdir), ("mktemp", mktemp), ("mv", mv),
    ("nice", nice), ("nl", nl), ("nohup", nohup), ("nproc", nproc), ("od", od), ("paste", paste),
    ("printenv", printenv), ("printf", printf), ("pwd", pwd), ("readlink", readlink),
    ("realpath", realpath), ("rev", rev), ("rm", rm), ("rmdir", rmdir), ("sed", sed), ("seq", seq),
    ("setsid", setsid), ("sha1sum", sha1sum), ("sha256sum", sha256sum), ("sleep", sleep),
    ("sort", sort), ("stat", stat), ("stdbuf", stdbuf), ("sync", sync), ("tac", tac),
    ("tail", tail), ("tee", tee), ("test", test), ("timeout", timeout), ("touch", touch),
    ("tr", tr), ("true", true_), ("truncate", truncate), ("tty", tty), ("uname", uname),
    ("unexpand", unexpand), ("uniq", uniq), ("unlink", unlink), ("wc", wc), ("which", which),
    ("whoami", whoami), ("xargs", xargs), ("yes", yes)]

end CopyOracle.Tool
