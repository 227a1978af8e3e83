import CopyOracle.Judgement.Basic
import CopyOracle.Proofs.Answer.Reader
import CopyOracle.Proofs.Search
import Mathlib.Data.List.Find
/-!
# What a judgement takes from printed lines

A case, a claim, a time and the excerpt of a failure are read line by line, and no phrase of a
diagnostic has a line end. So a judgement depends on the lines of the input and of the two streams
alone, and carriage returns before the line feeds change nothing.

Which diagnostic is announced is not told line by line, though. The entry that compares the sizes
of the graphs has two phrases, and they are found on two lines that have nothing to do with each
other, in front of every refusal that a line announces for itself. `sizesApart` says where that
happens; everywhere else the first of the diagnostics of single lines is announced.
-/

namespace CopyOracle

namespace Diagnostic

/-- Every phrase of the entry stands on one of the lines, each on its own. -/
def spread (lines : List Text) (entry : List Text × Diagnostic) : Bool :=
  entry.1.all fun phrase => lines.any fun line => line.contains phrase

/-- One of the lines has every phrase of the entry. -/
def together (lines : List Text) (entry : List Text × Diagnostic) : Bool :=
  lines.any fun line => entry.1.all line.contains

/-- The first diagnostic of the table that one of the lines announces for itself. -/
def onLine? (lines : List Text) : Option Diagnostic :=
  (table.map Prod.snd).find? fun diagnostic =>
    lines.any fun line => recognise? line == some diagnostic

/-- The place of a diagnostic in the table. -/
def priority (diagnostic : Diagnostic) : Nat := (table.map Prod.snd).idxOf diagnostic

/-- No two diagnostics have the same place. -/
theorem priority_injective : Function.Injective priority := by
  intro first second
  cases first <;> cases second <;> decide

/-- The entries of one diagnostic stand together in the table. -/
theorem table_ordered :
    table.Pairwise fun entry later => priority entry.2 ≤ priority later.2 := by decide

/-- No phrase is empty or has a line end. -/
theorem phrases_unbroken : ∀ entry ∈ table, ∀ phrase ∈ entry.1,
    phrase ≠ [] ∧ ∀ c ∈ phrase, c ≠ '\n' ∧ c ≠ '\r' := by decide

/-- A text whose phrases are those of some lines announces what is spread over these lines. -/
theorem recognise?_eq_spread {text : Text} {lines : List Text}
    (shown : ∀ phrase : Text, phrase ≠ [] → (∀ c ∈ phrase, c ≠ '\n' ∧ c ≠ '\r') →
      (phrase <:+: text ↔ ∃ line ∈ lines, phrase <:+: line)) :
    recognise? text = (table.find? (spread lines)).map Prod.snd := by
  refine congrArg (Option.map Prod.snd) (List.find?_congr fun entry member => ?_)
  rw [spread, Bool.eq_iff_iff, List.all_eq_true, List.all_eq_true]
  refine forall₂_congr fun phrase named => ?_
  obtain ⟨nonempty, unbroken⟩ := phrases_unbroken entry member phrase named
  rw [Text.contains_eq_true_iff, shown phrase nonempty unbroken, List.any_eq_true]
  simp only [Text.contains_eq_true_iff]

/-- A text announces what is spread over its lines. -/
theorem recognise?_eq_lines (text : Text) :
    recognise? text = (table.find? (spread text.lines)).map Prod.snd :=
  recognise?_eq_spread fun _ nonempty unbroken => Text.occurs_iff_exists_line nonempty unbroken

/-- Two streams announce what is spread over the lines of both. -/
theorem recognise?_eq_streams (stdout stderr : Text) :
    recognise? (stdout ++ '\n' :: stderr) =
      (table.find? (spread (stdout.lines ++ stderr.lines))).map Prod.snd := by
  refine recognise?_eq_spread fun phrase nonempty unbroken => ?_
  have inOne : '\n' ∉ phrase := fun member => (unbroken '\n' member).1 rfl
  rw [Text.occurs_append_feed_iff inOne, Text.occurs_iff_exists_line nonempty unbroken,
    Text.occurs_iff_exists_line nonempty unbroken, ← exists_or]
  refine exists_congr fun line => ?_
  rw [List.mem_append, or_and_right]

/-- What single lines announce is the first entry whose phrases stand together on one. -/
theorem onLine?_eq_together (lines : List Text) :
    onLine? lines = (table.find? (together lines)).map Prod.snd :=
  find?_any_eq_first priority_injective table_ordered
    (fun entry (line : Text) => entry.1.all line.contains) lines

/-- The entry that compares the sizes of the graphs, the only one with two phrases. -/
def sizeComparison : List Text × Diagnostic :=
  (["n2=".toList, "< n1=".toList], .targetTooSmall)

/-- The entry of the sizes is the fourth of the table. -/
theorem table_eq : table = table.take 3 ++ sizeComparison :: table.drop 4 := rfl

/-- Every entry but that of the sizes has one phrase. -/
theorem phrases_single : ∀ entry ∈ table.take 3 ++ table.drop 4, ∃ phrase, entry.1 = [phrase] := by
  have lengths : ∀ entry ∈ table.take 3 ++ table.drop 4, entry.1.length = 1 := by decide
  exact fun entry member => List.length_eq_one_iff.mp (lengths entry member)

/-- An entry with one phrase is spread over lines exactly when one of them has it. -/
theorem spread_eq_together {entry : List Text × Diagnostic} {phrase : Text}
    (single : entry.1 = [phrase]) (lines : List Text) :
    spread lines entry = together lines entry := by
  simp [spread, together, single]

/-- Whether both phrases of the comparison of sizes are printed, while no line announces a target
that is too small or trouble with the input. -/
def sizesApart (lines : List Text) : Bool :=
  spread lines sizeComparison && match onLine? lines with
    | none | some .impossibleCopies | some .noSolution => true
    | some .unreadableInput | some .malformedInput | some .targetTooSmall => false

/-- What stands together is spread. -/
theorem spread_of_together {entry : List Text × Diagnostic} {lines : List Text}
    (found : together lines entry = true) : spread lines entry = true := by
  obtain ⟨line, listed, every⟩ := List.any_eq_true.mp found
  exact List.all_eq_true.mpr fun phrase named =>
    List.any_eq_true.mpr ⟨line, listed, List.all_eq_true.mp every phrase named⟩

/-- The entries before that of the sizes tell of trouble with the input. -/
theorem before_sizes : ∀ entry ∈ table.take 3,
    entry.2 = .unreadableInput ∨ entry.2 = .malformedInput := by decide

/-- The entries after that of the sizes tell of a refusal. -/
theorem after_sizes : ∀ entry ∈ table.drop 4,
    entry.2 = .targetTooSmall ∨ entry.2 = .impossibleCopies ∨ entry.2 = .noSolution := by decide

/-- The table is searched before the entry of the sizes, then there, then after it. -/
theorem find?_table (accepts : List Text × Diagnostic → Bool) :
    table.find? accepts = ((table.take 3).find? accepts).or
      (if accepts sizeComparison then some sizeComparison else (table.drop 4).find? accepts) := by
  conv_lhs => rw [table_eq, List.find?_append, List.find?_cons]
  cases accepts sizeComparison <;> rfl

/-- Two streams announce the first of the diagnostics that their lines announce one by one, except
where the two phrases of the comparison of sizes stand on lines that do not announce it. -/
theorem announced_by_lines (stdout stderr : Text) :
    recognise? (stdout ++ '\n' :: stderr) =
      if sizesApart (stdout.lines ++ stderr.lines) then some .targetTooSmall
      else onLine? (stdout.lines ++ stderr.lines) := by
  rw [recognise?_eq_streams]
  generalize stdout.lines ++ stderr.lines = lines
  have others {entries : List (List Text × Diagnostic)}
      (known : entries ⊆ table.take 3 ++ table.drop 4) :
      entries.find? (spread lines) = entries.find? (together lines) := by
    refine List.find?_congr fun entry member => ?_
    obtain ⟨_, single⟩ := phrases_single entry (known member)
    exact spread_eq_together single lines
  rw [sizesApart, onLine?_eq_together, find?_table (spread lines), find?_table (together lines),
    others (List.subset_append_left _ _), others (List.subset_append_right _ _)]
  cases earlier : (table.take 3).find? (together lines) with
  | some entry =>
    rcases before_sizes entry (List.mem_of_find?_eq_some earlier) with trouble | trouble <;>
      simp [trouble]
  | none =>
    rw [Option.none_or, Option.none_or]
    cases compared : spread lines sizeComparison with
    | false =>
      have apart : together lines sizeComparison = false := by
        rw [Bool.eq_false_iff]
        intro found
        rw [spread_of_together found] at compared
        contradiction
      simp [apart]
    | true =>
      cases together lines sizeComparison with
      | true => simp [sizeComparison]
      | false =>
        cases later : (table.drop 4).find? (together lines) with
        | none => rfl
        | some entry =>
          rcases after_sizes entry (List.mem_of_find?_eq_some later) with
            refusal | refusal | refusal <;> simp [refusal, sizeComparison]

/-- What is printed by a solver that speaks of the sizes on two lines and then refuses the number of
copies. -/
def refusesCopies : Capture :=
  ⟨"levels searched: 0 (< n1=1)\nn2=1, k=2\n".toList,
    "ERROR: Impossible - k > C(n2,n1)\n".toList, some 1, .zero⟩

/-- A right refusal of two copies of a vertex on one vertex is taken for that of a small target, and
judged wrong, though no line speaks of a small target. -/
theorem announced_by_no_line :
    recognise? (refusesCopies.stdout ++ '\n' :: refusesCopies.stderr) = some .targetTooSmall ∧
    (∀ line ∈ refusesCopies.stdout.lines ++ refusesCopies.stderr.lines,
      recognise? line ≠ some .targetTooSmall) ∧
    onLine? (refusesCopies.stdout.lines ++ refusesCopies.stderr.lines) = some .impossibleCopies ∧
    (Judgement.ofRun false (Case.parse "1\n0\n1\n0\n2\n") (.completed refusesCopies)).verdict =
      .fail [.rejectedAsTooSmall 1 1] := by
  decide +kernel

end Diagnostic

/-- A text without carriage returns, and what is printed for it: the same, or the text with a
carriage return before every line feed. -/
structure Text.Printed (printed plain : Text) : Prop where
  /-- There are no carriage returns to begin with. -/
  bare : '\r' ∉ plain
  /-- Line feeds are printed in one way throughout. -/
  ends : printed = plain ∨ printed = plain.withReturns

/-- Whichever way line feeds are printed, the lines are the same. -/
theorem Text.Printed.lines_eq {printed plain : Text} (prints : Printed printed plain) :
    printed.lines = plain.lines := by
  rcases prints.ends with rfl | rfl
  · rfl
  · exact lines_withReturns prints.bare

/-- Every reader takes two texts for the same, with the numbers of the lines that it reports. -/
structure Text.ReadAlike (left right : Text) : Prop where
  /-- They are the same case as an input, or have the same error. -/
  case : Case.parse (.ofList left) = Case.parse (.ofList right)
  /-- They make the same claim about every case, or have the same error. -/
  claim : ∀ sizes, Claim.read sizes left = Claim.read sizes right
  /-- They report the same time. -/
  time : Timing.reported? left = Timing.reported? right
  /-- They announce the same diagnostic. -/
  diagnostic : Diagnostic.recognise? left = Diagnostic.recognise? right

/-- Texts with the same lines are read alike. -/
theorem Text.readAlike_of_lines {left right : Text} (same : left.lines = right.lines) :
    ReadAlike left right where
  case := by
    rw [Case.parse, Case.parse, String.toList_ofList, String.toList_ofList, Case.read, Case.read,
      contentLines, contentLines, numberedLines, numberedLines, same]
  claim := Claim.read_of_lines same
  time := by rw [Timing.reported?, Timing.reported?, Timing.token?, Timing.token?, same]
  diagnostic := by rw [Diagnostic.recognise?_eq_lines, Diagnostic.recognise?_eq_lines, same]

/-- Two captures with the same lines on both streams, of solvers that took the same time and exited
with the same status. -/
structure Capture.SameLines (left right : Capture) : Prop where
  /-- The lines of the output. -/
  stdout : left.stdout.lines = right.stdout.lines
  /-- The lines of the error stream. -/
  stderr : left.stderr.lines = right.stderr.lines
  /-- The exit status. -/
  status : left.status = right.status
  /-- The measured time. -/
  elapsed : left.elapsed = right.elapsed

namespace Judgement

/-- Captures with the same lines announce the same. -/
theorem recognise?_of_lines {left right : Capture} (same : left.SameLines right) :
    Diagnostic.recognise? (left.stdout ++ '\n' :: left.stderr) =
      Diagnostic.recognise? (right.stdout ++ '\n' :: right.stderr) := by
  rw [Diagnostic.recognise?_eq_streams, Diagnostic.recognise?_eq_streams, same.stdout, same.stderr]

/-- Captures with the same lines are judged alike, whatever the input was. -/
theorem ofCapture_of_lines {left right : Capture} (same : left.SameLines right) (strict : Bool)
    (input : Except InputError Case) :
    ofCapture strict input left = ofCapture strict input right := by
  have read := Text.readAlike_of_lines same.stdout
  have excerpt : left.excerpt = right.excerpt := by
    rw [Capture.excerpt, Capture.excerpt, same.stdout, same.stderr]
  rw [ofCapture.eq_def, ofCapture.eq_def, recognise?_of_lines same, read.time, same.elapsed,
    same.status]
  cases input with
  | error error => simp only [judgeMalformed.eq_def, excerpt]
  | ok problem => simp only [ofOutput, ofFailure.eq_def, read.claim, excerpt, same.status]

/-- The way in which line feeds are printed changes no judgement: not the reading of any of the
texts, not what the two streams announce, and no part of the judgement on the run. -/
theorem line_ends_ignored {input input' stdout stdout' stderr stderr' : Text}
    (inputEnds : input'.Printed input) (outputEnds : stdout'.Printed stdout)
    (errorEnds : stderr'.Printed stderr) (strict : Bool) (status : Option Int)
    (elapsed : Duration) :
    input'.ReadAlike input ∧ stdout'.ReadAlike stdout ∧ stderr'.ReadAlike stderr ∧
    Diagnostic.recognise? (stdout' ++ '\n' :: stderr') =
      Diagnostic.recognise? (stdout ++ '\n' :: stderr) ∧
    ofRun strict (Case.parse (.ofList input')) (.completed ⟨stdout', stderr', status, elapsed⟩) =
      ofRun strict (Case.parse (.ofList input)) (.completed ⟨stdout, stderr, status, elapsed⟩) := by
  have inputAlike := Text.readAlike_of_lines inputEnds.lines_eq
  have same : Capture.SameLines ⟨stdout', stderr', status, elapsed⟩
      ⟨stdout, stderr, status, elapsed⟩ := ⟨outputEnds.lines_eq, errorEnds.lines_eq, rfl, rfl⟩
  refine ⟨inputAlike, Text.readAlike_of_lines same.stdout, Text.readAlike_of_lines same.stderr,
    recognise?_of_lines same, ?_⟩
  rw [inputAlike.case]
  exact ofCapture_of_lines same strict _

/-- A report printed with carriage returns fails at the word at which it fails without them, though
the word stands at the end of its line. -/
theorem line_ends_ignored_report :
    Text.Printed "1\r\n0\r\n1\r\n0\r\n1\r\n".toList "1\n0\n1\n0\n1\n".toList ∧
    Text.Printed
      "Extension cost: 0\r\nMappings:\r\nCopy 1: 0->x\r\nExtended graph:\r\n0\r\n".toList
      "Extension cost: 0\nMappings:\nCopy 1: 0->x\nExtended graph:\n0\n".toList ∧
    Text.Printed "slow disk\n".toList "slow disk\n".toList ∧
    (ofRun false (Case.parse (.ofList "1\r\n0\r\n1\r\n0\r\n1\r\n".toList)) (.completed
      ⟨"Extension cost: 0\r\nMappings:\r\nCopy 1: 0->x\r\nExtended graph:\r\n0\r\n".toList,
        "slow disk\n".toList, some 0, .zero⟩)).verdict = .parseError (.invalidInteger 3 "x") := by
  have input : Text.Printed "1\r\n0\r\n1\r\n0\r\n1\r\n".toList "1\n0\n1\n0\n1\n".toList :=
    ⟨by decide +kernel, .inr (by decide +kernel)⟩
  have output : Text.Printed
      "Extension cost: 0\r\nMappings:\r\nCopy 1: 0->x\r\nExtended graph:\r\n0\r\n".toList
      "Extension cost: 0\nMappings:\nCopy 1: 0->x\nExtended graph:\n0\n".toList :=
    ⟨by decide +kernel, .inr (by decide +kernel)⟩
  have errors : Text.Printed "slow disk\n".toList "slow disk\n".toList :=
    ⟨by decide +kernel, .inl rfl⟩
  refine ⟨input, output, errors, ?_⟩
  rw [(line_ends_ignored input output errors false (some 0) .zero).2.2.2.2]
  decide +kernel

end Judgement

end CopyOracle
