import CopyOracle.Batch.Basic
import CopyOracle.CommandLine.Value
import CopyOracle.Generate.Family
import CopyOracle.Job.Solver

/-!
# Requests

A command line asks for one of four things: to run a solver on corpora, to run it on random
cases, to write corpora, or to judge an answer that was kept. The first argument names the
command, and the others are its own.
-/
namespace CopyOracle

/-- The solver of a command, how its runs are judged, and what is kept of them. -/
structure SolverOptions where
  /-- The program file. -/
  program : String := ""
  /-- Arguments before the input file. -/
  args : List String := []
  /-- The algorithms as they were given. -/
  algorithms : List Algorithm := []
  /-- The seconds that a run may take. -/
  timeoutSeconds : Nat := 30
  /-- How many runs there are at once. -/
  workers : Option Nat := none
  /-- How the algorithm is given to the solver. -/
  convention : Convention := .dashed
  /-- Which dialect is asked for. -/
  outputFormat : OutputRequest := .default
  /-- The file for the records. -/
  output : Option String := none
  /-- The directory for the inputs of failed runs. -/
  archive : Option String := none
  /-- After how many failures the batch stops. -/
  maxFailures : Option Nat := none
  /-- Whether copies out of order are a fault. -/
  strictOrder : Bool := false
deriving DecidableEq, Repr

namespace SolverOptions

/-- The parameters of a solver. -/
def parameters : List (Parameter SolverOptions) :=
  [(Parameter.reading "solver" ArgumentValue.path fun program options =>
      { options with program }).required,
    ((Parameter.reading "solver-arg" ArgumentValue.text fun argument options =>
      { options with args := options.args ++ [argument] }).repeated).dashed,
    (Parameter.reading "algorithm" ArgumentValue.algorithm fun algorithm options =>
      { options with algorithms := options.algorithms ++ [algorithm] }).repeated,
    .reading "timeout" ArgumentValue.positive fun timeoutSeconds options =>
      { options with timeoutSeconds },
    .reading "workers" ArgumentValue.number fun workers options =>
      { options with workers := some workers },
    .reading "convention" (ArgumentValue.oneOf Convention.all Convention.name)
      fun convention options => { options with convention },
    .reading "output-format" (ArgumentValue.oneOf OutputRequest.all OutputRequest.name)
      fun outputFormat options => { options with outputFormat },
    .reading "output" ArgumentValue.path fun output options =>
      { options with output := some output },
    .reading "archive-dir" ArgumentValue.path fun archive options =>
      { options with archive := some archive },
    .reading "max-failures" ArgumentValue.number fun maxFailures options =>
      { options with maxFailures := some maxFailures },
    .flag "strict-order" fun options => { options with strictOrder := true }]

/-- The algorithms to run: all unless some are named, and each once, in order. -/
def chosenAlgorithms (options : SolverOptions) : List Algorithm :=
  if options.algorithms.isEmpty then Algorithm.all
  else Algorithm.all.filter options.algorithms.contains

/-- The solver. -/
def solver (options : SolverOptions) : Solver where
  program := options.program
  leadingArgs := options.args
  convention := options.convention
  output := options.outputFormat
  timeout := .ofParts options.timeoutSeconds 0

/-- The settings of the batch, whose failed inputs are kept in a directory. -/
def batchSettings (options : SolverOptions) (archive : Option String) : BatchSettings where
  workers := options.workers.getD 1
  strictOrder := options.strictOrder
  maxFailures := options.maxFailures
  archive := archive

end SolverOptions

/-- What to run a solver on corpora with. -/
structure BatchRequest where
  /-- The solver. -/
  options : SolverOptions := {}
  /-- The directories of the corpora. -/
  corpora : List String := []
deriving DecidableEq, Repr

namespace BatchRequest

/-- The parameters of the request. -/
def parameters : Parameters BatchRequest where
  options := SolverOptions.parameters.map fun parameter =>
    parameter.within BatchRequest.options fun options request => { request with options }
  places :=
    [((Parameter.reading "corpus" ArgumentValue.path fun corpus request =>
      { request with corpora := request.corpora ++ [corpus] }).repeated).required]

end BatchRequest

/-- What to run a solver on random cases with. -/
structure FuzzRequest where
  /-- The solver. -/
  options : SolverOptions := {}
  /-- How many cases there are. -/
  count : Nat := 100
  /-- The seed of the campaign. -/
  seed : Option UInt64 := none
  /-- The probability that a case is forced to be impossible. -/
  impossibleProbability : Float := 0.1
  /-- The probability that the pattern is planted in the target. -/
  plantedProbability : Float := 0.0
deriving Repr

namespace FuzzRequest

/-- The parameters of the request. -/
def parameters : Parameters FuzzRequest where
  options :=
    (SolverOptions.parameters.map fun parameter =>
      parameter.within FuzzRequest.options fun options request => { request with options }) ++
    [.reading "count" ArgumentValue.number fun count request => { request with count },
      .reading "seed" ArgumentValue.seed fun seed request => { request with seed := some seed },
      .reading "impossible-probability" ArgumentValue.probability
        fun impossibleProbability request => { request with impossibleProbability },
      .reading "planted-probability" ArgumentValue.probability
        fun plantedProbability request => { request with plantedProbability }]

end FuzzRequest

/-- Which corpora to write, and where. -/
structure GenerateRequest where
  /-- The directory that gets a directory for each corpus. -/
  directory : String := "corpus"
  /-- The families as they were given. -/
  families : List Family := []
  /-- The seed. -/
  seed : UInt64 := 0
  /-- How many random cases there are besides. -/
  fuzzCount : Nat := 0
  /-- The probability that a random case is forced to be impossible. -/
  impossibleProbability : Float := 0.1
deriving Repr

namespace GenerateRequest

/-- The parameters of the request. -/
def parameters : Parameters GenerateRequest where
  options :=
    [.reading "out-dir" ArgumentValue.path fun directory request => { request with directory },
      (Parameter.reading "family" (ArgumentValue.oneOf Family.all Family.name)
        fun family request =>
          { request with families := request.families ++ [family] }).repeated,
      .reading "seed" ArgumentValue.seed fun seed request => { request with seed },
      .reading "fuzz-count" ArgumentValue.number fun fuzzCount request =>
        { request with fuzzCount },
      .reading "impossible-probability" ArgumentValue.probability
        fun impossibleProbability request => { request with impossibleProbability }]

/-- The families to write: all unless some are named. -/
def chosenFamilies (request : GenerateRequest) : List Family :=
  if request.families.isEmpty then Family.all else request.families

end GenerateRequest

/-- Which answer to judge. -/
structure CheckRequest where
  /-- The file with the case. -/
  input : String := ""
  /-- The file with what the solver printed. -/
  stdout : String := ""
  /-- The file with what it printed on its error stream. -/
  stderr : Option String := none
  /-- Its exit status. -/
  status : Int := 0
  /-- Whether copies out of order are a fault. -/
  strictOrder : Bool := false
deriving DecidableEq, Repr

namespace CheckRequest

/-- The parameters of the request. -/
def parameters : Parameters CheckRequest where
  options :=
    [.reading "stderr" ArgumentValue.path fun stderr request =>
        { request with stderr := some stderr },
      (Parameter.reading "exit-code" ArgumentValue.status fun status request =>
        { request with status }).dashed,
      .flag "strict-order" fun request => { request with strictOrder := true }]
  places :=
    [(Parameter.reading "input" ArgumentValue.path fun input request =>
        { request with input }).required,
      (Parameter.reading "stdout" ArgumentValue.path fun stdout request =>
        { request with stdout }).required]

end CheckRequest

/-- What a command line asks for. -/
inductive Request where
  /-- To run a solver on corpora. -/
  | batch (request : BatchRequest)
  /-- To run a solver on random cases. -/
  | fuzz (request : FuzzRequest)
  /-- To write corpora. -/
  | generate (request : GenerateRequest)
  /-- To judge an answer. -/
  | check (request : CheckRequest)
deriving Repr

/-- The word that names a command. -/
inductive Command where
  /-- Runs a solver on corpora. -/
  | batch
  /-- Runs a solver on random cases. -/
  | fuzz
  /-- Writes corpora. -/
  | generate
  /-- Judges an answer. -/
  | check
  /-- Shows help. -/
  | help
deriving DecidableEq, Repr

namespace Command

/-- All commands. -/
def all : List Command := [.batch, .fuzz, .generate, .check, .help]

/-- The name of a command. -/
def name : Command → String
  | .batch => "batch"
  | .fuzz => "fuzz"
  | .generate => "generate"
  | .check => "check"
  | .help => "help"

/-- The command of a name. -/
def ofName? (word : String) : Option Command := all.find? fun command => command.name = word

end Command

namespace Request

/-- What asking for help with some command gives. -/
def helpFault : List String → UsageFault
  | [] => .help
  | [word] => if (Command.ofName? word).isSome then .help else .unknownCommand
  | _ => .unknownCommand

/-- The request of a command and its arguments. -/
def ofCommand (arguments : List String) : Command → Except UsageFault Request
  | .batch => (BatchRequest.parameters.understand {} arguments).map .batch
  | .fuzz => (FuzzRequest.parameters.understand {} arguments).map .fuzz
  | .generate => (GenerateRequest.parameters.understand {} arguments).map .generate
  | .check => (CheckRequest.parameters.understand {} arguments).map .check
  | .help => .error (helpFault arguments)

/-- What is wrong with a first word that names no command. -/
def strayFault (word : String) : UsageFault :=
  match word.toList with
  | '-' :: '-' :: name =>
    if name = "help".toList then .help
    else if "help=".toList.isPrefixOf name then .unneededValue
    else .unknownArgument
  | '-' :: 'h' :: _ => .help
  | '-' :: _ :: _ => .unknownArgument
  | _ => .unknownCommand

/-- What a command line asks for. After two dashes no command is taken. -/
def parse : List String → Except UsageFault Request
  | [] | ["--"] => .error .noCommand
  | "--" :: word :: _ =>
    .error (if (Command.ofName? word).isSome then .unknownArgument else .unknownCommand)
  | word :: arguments =>
    match Command.ofName? word with
    | some command => ofCommand arguments command
    | none => .error (strayFault word)

end Request

end CopyOracle
