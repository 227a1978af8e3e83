import CopyOracle.Algorithm
import CopyOracle.File.Tree
import CopyOracle.Judgement.Run

/-!
# How a solver is invoked

A solver is given its input file, the algorithm and the wanted dialect on its command line.
Builds differ in how they take the algorithm: as a dashed option, of which the exact one needs
none, or as a word after the input file. What a solver does is not known here: it is run by a
launcher, and what is proved of runs holds for every launcher.
-/
namespace CopyOracle

/-- What runs programs: from a program, its arguments and the time that it may take, how the run
ends and what files it leaves. -/
structure Launcher where
  /-- Runs a program with arguments for at most a time. -/
  launch : (program : String) → (arguments : List String) → (timeout : Duration) →
    StateM FileTree RunOutcome
  /-- A program changes no working directory but its own. -/
  home : ∀ program arguments timeout files,
    ((launch program arguments timeout).run files).2.workingDirectory = files.workingDirectory

/-- How a solver takes the algorithm. -/
inductive Convention where
  /-- As the option `-a`, for the approximate algorithm only. -/
  | dashed
  /-- As a word after the input file. -/
  | positional
deriving DecidableEq, Repr

namespace Convention

/-- All conventions. -/
def all : List Convention := [.dashed, .positional]

/-- The name of a convention. -/
def name : Convention → String
  | .dashed => "dashed"
  | .positional => "positional"

end Convention

/-- Which dialect a solver is asked for. -/
inductive OutputRequest where
  /-- None; it prints what it likes. -/
  | default
  /-- The verbose dialect. -/
  | verbose
  /-- The compact dialect. -/
  | compact
deriving DecidableEq, Repr

namespace OutputRequest

/-- All requests. -/
def all : List OutputRequest := [.default, .verbose, .compact]

/-- The name of a request. -/
def name : OutputRequest → String
  | .default => "default"
  | .verbose => "verbose"
  | .compact => "compact"

/-- The option for a dialect. -/
def option? : OutputRequest → Option String
  | .default => none
  | .verbose => some "-v"
  | .compact => some "-r"

end OutputRequest

/-- A configured invocation of a solver. -/
structure Solver where
  /-- The program file. -/
  program : String
  /-- Arguments before the input file. -/
  leadingArgs : List String := []
  /-- How the algorithm is given. -/
  convention : Convention := .dashed
  /-- Which dialect is asked for. -/
  output : OutputRequest := .default
  /-- The time that a run may take. -/
  timeout : Duration := .ofMilliseconds 30000
deriving DecidableEq, Repr

namespace Solver

/-- The words that give the algorithm. -/
def algorithmArgs (convention : Convention) (algorithm : Algorithm) : List String :=
  match convention, algorithm with
  | .dashed, .exact => []
  | .dashed, .approximate => ["-a"]
  | .positional, algorithm => [algorithm.name]

/-- The arguments of a run on an input file. -/
def args (solver : Solver) (input : String) (algorithm : Algorithm) : List String :=
  solver.leadingArgs ++ input :: algorithmArgs solver.convention algorithm ++
    solver.output.option?.toList

/-- Runs a solver on an input file. -/
def run (launcher : Launcher) (solver : Solver) (input : String) (algorithm : Algorithm) :
    StateM FileTree RunOutcome :=
  launcher.launch solver.program (solver.args input algorithm) solver.timeout

end Solver

end CopyOracle
