import CopyOracle.Judgement.Basic
import CopyOracle.Proofs.Answer.Compact
import CopyOracle.Proofs.Answer.Parts
import CopyOracle.Proofs.Embedding.Copies
import CopyOracle.Proofs.Embedding.Violation
import CopyOracle.Proofs.Graph.Cost
/-!
# The shape of an answer

Whatever a solver prints, an answer that is read from it has a matrix of the size of the target,
and copies of the size of the pattern exactly when it was printed as a report. So the checks never
find a matrix or a mapping of another size, and the readers never come upon rows that form no
graph for another reason than their length.
-/

namespace CopyOracle

/-- The answer has the shape that answers of its dialect to a case of such sizes have. -/
structure Answer.Shaped (sizes : Sizes) (dialect : Dialect) (answer : Answer) : Prop where
  /-- The extended graph has the vertices of the target. -/
  order : answer.extended.order = sizes.target
  /-- Its matrix has a row for each of them. -/
  rows : answer.extended.toRows.length = sizes.target
  /-- Each row has an entry for each of them. -/
  entries : ∀ row ∈ answer.extended.toRows, row.length = sizes.target
  /-- Copies are listed exactly in a report. -/
  listed : answer.copies.isSome = true ↔ dialect = .verbose
  /-- They cover the vertices of the pattern. -/
  sources : ∀ copies, answer.copies = some copies →
    ∀ mapping ∈ copies, mapping.sources = sizes.pattern

/-- An answer has its shape when its graph and its copies have the right sizes. -/
theorem Answer.Shaped.of_sizes {sizes : Sizes} {dialect : Dialect} {answer : Answer}
    (order : answer.extended.order = sizes.target)
    (listed : answer.copies.isSome = true ↔ dialect = .verbose)
    (sources : ∀ copies, answer.copies = some copies →
      ∀ mapping ∈ copies, mapping.sources = sizes.pattern) : answer.Shaped sizes dialect where
  order := order
  rows := by
    rw [← order]
    simp [Graph.toRows]
  entries row member := by rw [← order, Graph.length_of_mem_toRows member]
  listed := listed
  sources := sources

/-- The graph of some rows has a vertex for each of them. -/
theorem Graph.order_of_ofRows {matrix : List (List UInt32)} {graph : Graph}
    (made : ofRows matrix = .ok graph) : graph.order = matrix.length := by
  rw [ofRows] at made
  split at made
  · contradiction
  · obtain rfl := Except.ok.inj made
    rfl

/-- Rows that form no graph are refused for their length. -/
theorem Graph.exists_of_ofRows_eq_error {matrix : List (List UInt32)} {fault : GraphError}
    (refused : ofRows matrix = .error fault) :
    ∃ row expected actual, fault = .notSquare row expected actual := by
  rw [ofRows] at refused
  split at refused
  · exact ⟨_, _, _, (Except.error.inj refused).symm⟩
  · contradiction

namespace Verbose

variable {sizes : Sizes} {lines : List Line}

/-- Not more rows are read than asked for. -/
theorem length_le_of_readRows {count : Nat} {rows : List (Nat × List UInt32)}
    (read : readRows count lines = .ok rows) : rows.length ≤ count := by
  induction lines generalizing count rows with
  | nil =>
    have ended : readRows count [] = .ok [] := by cases count <;> rfl
    obtain rfl := Except.ok.inj (ended.symm.trans read)
    exact Nat.zero_le count
  | cons line lines ih =>
    cases count with
    | zero =>
      obtain rfl := Except.ok.inj read
      exact Nat.zero_le 0
    | succ count =>
      rw [readRows] at read
      split at read
      · exact ih read
      · dsimp only at read
        split at read
        · obtain ⟨entries, _, read⟩ := bind_eq_ok_iff.mp read
          obtain ⟨later, behind, made⟩ := bind_eq_ok_iff.mp read
          obtain rfl := Except.ok.inj made
          exact Nat.succ_le_succ (ih behind)
        · obtain rfl := Except.ok.inj read
          exact Nat.zero_le _

/-- The extended graph has as many vertices as rows were asked for. -/
theorem order_of_readExtended {order : Nat} {graph : Graph}
    (read : readExtended order lines = .ok graph) : graph.order = order := by
  obtain ⟨rows, drawn, enough, made⟩ := readExtended_eq_ok_iff.mp read
  have length := Graph.order_of_ofRows made
  rw [List.length_map] at length
  rw [length]
  exact Nat.le_antisymm (length_le_of_readRows drawn) enough

/-- Arranged copies cover the vertices of the pattern. -/
theorem Collects.sources {listed : List (Nat × Mapping)}
    (collects : Collects sizes.pattern lines listed) {mapping : Mapping}
    (member : mapping ∈ arrange sizes listed) : mapping.sources = sizes.pattern := by
  have covers {number : Nat} {mapping : Mapping} (member : (number, mapping) ∈ listed) :
      mapping.sources = sizes.pattern := by
    obtain ⟨_, _, _, _, _, records⟩ := collects.exists_line member
    exact records.sources
  rw [arrange_eq_append collects.ascending, List.mem_append, List.mem_map, List.mem_map] at member
  rcases member with ⟨place, _, rfl⟩ | ⟨⟨number, mapping⟩, kept, rfl⟩
  · cases found : listed.lookup (place + 1) with
    | none => exact List.length_replicate
    | some mapping => exact covers ((lookup_eq_some_iff_mem collects.ascending).mp found)
  · exact covers (List.mem_filter.mp kept).1

/-- The answer in a report has the shape of one. -/
theorem shaped_of_ofLines {answer : Answer} (read : ofLines sizes lines = .ok answer) :
    answer.Shaped sizes .verbose := by
  obtain ⟨_, ⟨copies, arranged, kept⟩, _, _, drawn⟩ := ofLines_eq_ok_iff.mp read
  obtain ⟨listing, listed, _, collects, rfl⟩ := readMappings_eq_ok_iff.mp arranged
  refine .of_sizes (order_of_readExtended drawn) (by simp [kept]) ?_
  intro copies same mapping member
  rw [kept, Option.some.injEq] at same
  exact collects.sources (same ▸ member)

end Verbose

/-- The answer that a text of a dialect holds has the shape of one. -/
theorem Dialect.shaped_of_read {dialect : Dialect} {sizes : Sizes} {text : Text} {answer : Answer}
    (read : dialect.read sizes text = .ok (.found answer)) : answer.Shaped sizes dialect := by
  cases dialect with
  | verbose => exact Verbose.shaped_of_ofLines (Verbose.read_verbose_eq_found_iff.mp read).2
  | compact =>
    obtain ⟨order, none⟩ := (Compact.read_compact_eq_found_iff.mp read).2.shape
    exact .of_sizes order (by simp [none]) (by simp [none])

/-- The answer that a printed text holds has the shape of one of its dialect. -/
theorem Claim.shaped_of_read {sizes : Sizes} {text : Text} {answer : Answer}
    (read : Claim.read sizes text = .ok (.found answer)) :
    answer.Shaped sizes (Dialect.sniff text) := by
  rw [Claim.read] at read
  split at read
  · contradiction
  · exact Dialect.shaped_of_read read

/-- The fault is another one than rows that form no graph. -/
def AnswerError.NotMatrix : AnswerError → Prop
  | .invalidMatrix _ => False
  | _ => True

namespace MatrixFaults

variable {ε : Type} {faults : MatrixFaults ε} {allowed : ε → Prop}

/-- The reader of a matrix fails only with the faults that it is given. -/
theorem readGraph_failsOnly (number : ∀ line token, allowed (faults.notNumber line token))
    (missing : ∀ row, allowed (faults.rowMissing row))
    (length : ∀ line row expected actual, allowed (faults.rowLength line row expected actual))
    (order : Nat) (lines : List Line) : FailsOnly allowed (faults.readGraph order lines) := by
  have entries (line : Line) : FailsOnly allowed (faults.readEntries line) := by
    refine .mapM fun token _ => ?_
    split
    · exact .ok _
    · exact .error (number _ _)
  have row (index : Nat) (line : Line) : FailsOnly allowed (faults.readRow order index line) := by
    refine (entries line).bind fun entries => ?_
    split
    · exact .ok _
    · exact .error (length _ _ _ _)
  have rows (count index : Nat) (lines : List Line) :
      FailsOnly allowed (faults.readRows order count index lines) := by
    induction count generalizing index lines with
    | zero => exact .ok _
    | succ count ih =>
      cases lines with
      | nil => exact .error (missing index)
      | cons line lines => exact (row index line).bind fun _ => (ih _ _).bind fun _ => .ok _
  exact (rows order 0 lines).bind fun _ => .ok _

end MatrixFaults

namespace AnswerError

/-- A size that is not read is no numeral. -/
theorem readSize_failsOnly (line : Nat) (token : Text) :
    FailsOnly NotMatrix (readSize line token) := by
  rw [readSize]
  split
  · exact .ok _
  · exact .error trivial

/-- A word that is not read is no numeral. -/
theorem readWord_failsOnly (line : Nat) (token : Text) :
    FailsOnly NotMatrix (readWord line token) := by
  rw [readWord]
  split
  · exact .ok _
  · exact .error trivial

end AnswerError

open AnswerError (NotMatrix readSize_failsOnly readWord_failsOnly)

/-- Bare answers are not refused for rows that form no graph. -/
theorem Compact.read_failsOnly (sizes : Sizes) (text : Text) :
    FailsOnly NotMatrix (Compact.read sizes text) := by
  rw [Compact.read]
  cases text.numberedLines.filter isContent with
  | nil => exact .error trivial
  | cons line lines =>
    refine (readSize_failsOnly _ _).bind fun printed => ?_
    split
    · exact .error trivial
    · refine (MatrixFaults.readGraph_failsOnly (fun _ _ => trivial) (fun _ => trivial)
        (fun _ _ _ _ => trivial) _ _).bind fun shown => ?_
      obtain ⟨extended, rest⟩ := shown
      cases rest with
      | nil => exact .error trivial
      | cons last later =>
        refine (readWord_failsOnly _ _).bind fun cost => ?_
        cases later with
        | nil => exact .ok _
        | cons extra later => exact .error trivial

namespace Verbose

variable (sizes : Sizes) (lines : List Line)

/-- The cost is refused for its digits. -/
theorem readCost_failsOnly : FailsOnly NotMatrix (readCost lines) := by
  rw [readCost]
  split
  · exact .error trivial
  · split
    · exact .error trivial
    · exact readWord_failsOnly _ _

/-- A token is refused for its numerals or its vertex. -/
theorem assign_failsOnly (order line copy : Nat) (mapping : Mapping) (token : Text) :
    FailsOnly NotMatrix (assign order line copy mapping token) := by
  rw [assign]
  split
  · exact .ok _
  · refine (readSize_failsOnly _ _).bind fun vertex => ?_
    refine (readSize_failsOnly _ _).bind fun target => ?_
    split
    · exact .ok _
    · exact .error trivial

/-- A copy is refused for its number or its tokens. -/
theorem listCopy_failsOnly (listed : List (Nat × Mapping)) (line : Line) :
    FailsOnly NotMatrix (listCopy sizes listed line) := by
  rw [listCopy]
  split
  · exact .ok _
  · refine (readSize_failsOnly _ _).bind fun copy => ?_
    split
    · exact .error trivial
    · split
      · exact .error trivial
      · exact (FailsOnly.foldlM (assign_failsOnly _ _ _) _ _).bind fun _ => .ok _

/-- The copies are refused for their label or one of their lines. -/
theorem readMappings_failsOnly : FailsOnly NotMatrix (readMappings sizes lines) := by
  rw [readMappings]
  split
  · exact .error trivial
  · exact (FailsOnly.foldlM (listCopy_failsOnly sizes) _ _).map _

/-- Rows are refused for their numerals. -/
theorem readRows_failsOnly (count : Nat) : FailsOnly NotMatrix (readRows count lines) := by
  have entries (number : Nat) (row : Text) : FailsOnly NotMatrix (readEntries number row) := by
    refine .mapM fun token _ => ?_
    split
    · exact .ok _
    · exact .error trivial
  induction lines generalizing count with
  | nil => cases count <;> exact .ok _
  | cons line lines ih =>
    cases count with
    | zero => exact .ok _
    | succ count =>
      rw [readRows]
      split
      · exact ih (count + 1)
      · dsimp only
        split
        · exact (entries _ _).bind fun _ => (ih count).bind fun _ => .ok _
        · exact .ok _

/-- The extended graph is refused for its rows, their number or their lengths. -/
theorem readExtended_failsOnly (order : Nat) :
    FailsOnly NotMatrix (readExtended order lines) := by
  refine (readRows_failsOnly lines order).bind fun rows => ?_
  split
  · exact .error trivial
  · rw [graphOfRows]
    cases made : Graph.ofRows (rows.map Prod.snd) with
    | ok graph => exact .ok _
    | error fault =>
      obtain ⟨row, expected, actual, rfl⟩ := Graph.exists_of_ofRows_eq_error made
      exact .error trivial

/-- Reports are not refused for rows that form no graph. -/
theorem ofLines_failsOnly : FailsOnly NotMatrix (ofLines sizes lines) := by
  refine (readCost_failsOnly lines).bind fun cost => ?_
  refine (readMappings_failsOnly sizes lines).bind fun copies => ?_
  split
  · exact .error trivial
  · exact (readExtended_failsOnly _ _).bind fun _ => .ok _

end Verbose

/-- No text of a dialect is refused for rows that form no graph. -/
theorem Dialect.read_failsOnly (dialect : Dialect) (sizes : Sizes) (text : Text) :
    FailsOnly NotMatrix (dialect.read sizes text) := by
  have ofClaim {reader : Except AnswerError Answer} (reads : FailsOnly NotMatrix reader) :
      FailsOnly NotMatrix
        (if reportsNoSolution text then .ok .notFound else reader.map Claim.found) := by
    split
    · exact .ok _
    · exact reads.map _
  cases dialect with
  | verbose => exact ofClaim (Verbose.ofLines_failsOnly sizes text.numberedLines)
  | compact => exact ofClaim (Compact.read_failsOnly sizes text)

/-- Nothing that a solver prints is refused for rows that form no graph. -/
theorem Claim.read_failsOnly (sizes : Sizes) (text : Text) :
    FailsOnly NotMatrix (Claim.read sizes text) := by
  rw [Claim.read]
  split
  · exact .error trivial
  · exact (Dialect.sniff text).read_failsOnly sizes text

/-- The fault of an answer whose graph has other vertices than the target, or which has a copy of
other vertices than those of the pattern. -/
def AnswerViolation.Misshapen : AnswerViolation → Prop
  | .cost (.orderMismatch _ _) => True
  | .copies (.invalidEmbedding _ (.sourceCount _ _)) => True
  | _ => False

namespace Answer

variable {problem : Case} {answer : Answer} {dialect : Dialect}

/-- What holds of the faults of a result holds of the faults that it is reported with. -/
theorem of_mem_faults {α : Type} {allowed : AnswerViolation → Prop}
    {result : Except AnswerViolation α} (fails : FailsOnly allowed result) :
    ∀ violation ∈ faults result, allowed violation := by
  cases result with
  | ok value => exact fun violation member => absurd member List.not_mem_nil
  | error fault =>
    intro violation member
    exact List.mem_singleton.mp member ▸ fails fault rfl

/-- The check of the cost finds the vertices of the target. -/
theorem Shaped.cost (shaped : answer.Shaped problem.sizes dialect) :
    FailsOnly (fun violation : AnswerViolation => ¬violation.Misshapen)
      ((problem.target.checkCost answer.extended answer.cost).mapError .cost) := by
  refine .mapError (.bind (fun fault refused => ?_) fun actual => ?_)
  · cases Graph.extensionCost_eq_error_iff.mp refused with
    | orderMismatch differs => exact absurd shaped.order.symm differs
    | edgeRemoved => exact id
  · split
    · exact .ok _
    · exact .error id

/-- The check of the copies finds the vertices of the pattern. -/
theorem Shaped.copies (shaped : answer.Shaped problem.sizes dialect) :
    FailsOnly (fun violation : AnswerViolation => ¬violation.Misshapen)
      (answer.checkCopies problem) := by
  rw [Answer.checkCopies]
  split
  · exact .ok _
  · next copies listed =>
    refine .mapError fun fault refused => ?_
    cases FirstCopyViolation.of_reported refused with
    | countMismatch | duplicateImage => exact id
    | @invalidEmbedding index mapping fault _ placed rejected =>
      cases FirstEmbeddingViolation.of_reported rejected with
      | incomplete | notInjective | targetOutOfRange | shortfall => exact id
      | sourceCount differs =>
        exact absurd (shaped.sources copies listed mapping (List.mem_of_getElem? placed)) differs

/-- The check of the order is not about sizes. -/
theorem checkOrder_failsOnly (answer : Answer) :
    FailsOnly (fun violation : AnswerViolation => ¬violation.Misshapen) answer.checkOrder := by
  rw [Answer.checkOrder]
  split
  · exact .ok _
  · exact .mapError fun _ _ => id

/-- The report on an answer that has its shape finds nothing about it. -/
theorem Shaped.report (shaped : answer.Shaped problem.sizes dialect) (strict : Bool) :
    (∀ violation ∈ (answer.report problem strict).violations, ¬violation.Misshapen) ∧
      ∀ violation ∈ (answer.report problem strict).warnings, ¬violation.Misshapen := by
  have cost := of_mem_faults shaped.cost
  have copies := of_mem_faults shaped.copies
  have order := of_mem_faults answer.checkOrder_failsOnly
  cases strict with
  | true =>
    refine ⟨?_, fun violation member => absurd member List.not_mem_nil⟩
    simp only [Answer.report, if_true, List.forall_mem_append]
    exact ⟨⟨cost, copies⟩, order⟩
  | false =>
    refine ⟨?_, order⟩
    simp only [Answer.report, Bool.false_eq_true, if_false, List.append_nil, List.forall_mem_append]
    exact ⟨cost, copies⟩

end Answer

/-- Nothing in the verdict is about the shape of an answer, and no text is refused for rows that
form no graph. -/
def Verdict.Shaped : Verdict → Prop
  | .fail reasons => ∀ violation, .violated violation ∈ reasons → ¬violation.Misshapen
  | .parseError error => error.NotMatrix
  | _ => True

/-- Nothing in the judgement is about the shape of an answer. -/
structure Judgement.Shaped (judgement : Judgement) : Prop where
  /-- Nothing in the verdict is. -/
  verdict : judgement.verdict.Shaped
  /-- No remark is. -/
  remarks : ∀ violation, .warning violation ∈ judgement.notes → ¬violation.Misshapen

namespace Judgement

/-- A refusal is not judged for an answer. -/
theorem judgeRefusal_shaped (problem : Case) (diagnostic : Diagnostic) :
    (judgeRefusal problem diagnostic).Shaped := by
  cases diagnostic with
  | unreadableInput | noSolution => exact trivial
  | malformedInput => simp [judgeRefusal, Verdict.Shaped]
  | targetTooSmall | impossibleCopies =>
    rw [judgeRefusal]
    split
    · exact trivial
    · simp [Verdict.Shaped]

/-- A run of a malformed input is not judged for an answer. -/
theorem judgeMalformed_shaped (error : InputError) (capture : Capture)
    (diagnostic : Option Diagnostic) : (judgeMalformed error capture diagnostic).Shaped := by
  rw [judgeMalformed.eq_def]
  split
  · exact trivial
  · exact trivial
  · simp [Verdict.Shaped]

/-- A claimed answer that has its shape is not judged for it. -/
theorem judgeAnswer_shaped {problem : Case} {report : AnswerReport}
    (shaped : ∀ violation ∈ report.violations, ¬violation.Misshapen) :
    (judgeAnswer problem report).Shaped := by
  have kept : ∀ violation, Reason.violated violation ∈
      (if problem.isImpossible then [answeredImpossible problem] else []) ++
        report.violations.map .violated → ¬violation.Misshapen := by
    intro violation member
    rcases List.mem_append.mp member with impossible | violated
    · split at impossible
      · rw [List.mem_singleton, answeredImpossible] at impossible
        split at impossible <;> contradiction
      · exact absurd impossible List.not_mem_nil
    · obtain ⟨found, listed, same⟩ := List.mem_map.mp violated
      exact Reason.violated.inj same ▸ shaped found listed
  rw [judgeAnswer]
  generalize (if problem.isImpossible then [answeredImpossible problem] else []) ++
    report.violations.map Reason.violated = reasons at kept ⊢
  cases reasons with
  | nil => exact trivial
  | cons reason reasons => exact kept

/-- Whatever was printed, the judgement on it is not about the shape of an answer. -/
theorem ofOutput_shaped (strict : Bool) (problem : Case) (capture : Capture)
    (diagnostic : Option Diagnostic) (time : Option Duration) :
    (ofOutput strict problem capture diagnostic time).Shaped := by
  rw [ofOutput]
  split
  · exact ⟨trivial, fun violation member => absurd member List.not_mem_nil⟩
  · next answer read =>
    have shaped := (Claim.shaped_of_read read).report strict
    refine ⟨judgeAnswer_shaped shaped.1, fun violation member => ?_⟩
    rcases List.mem_append.mp member with warned | unavailable
    · obtain ⟨found, listed, same⟩ := List.mem_map.mp warned
      exact Note.warning.inj same ▸ shaped.2 found listed
    · split at unavailable <;> simp at unavailable
  · next error unread =>
    split
    · exact ⟨judgeRefusal_shaped _ _, fun violation member => absurd member List.not_mem_nil⟩
    · exact ⟨Claim.read_failsOnly _ _ error unread,
        fun violation member => absurd member List.not_mem_nil⟩

/-- No judgement on a run is about the shape of an answer. -/
theorem ofRun_shaped (strict : Bool) (input : Except InputError Case) (outcome : RunOutcome) :
    (ofRun strict input outcome).Shaped := by
  cases outcome with
  | timedOut | failed =>
    exact ⟨trivial, fun violation member => absurd member List.not_mem_nil⟩
  | completed capture =>
    cases input with
    | error error =>
      refine ⟨judgeMalformed_shaped _ _ _, fun violation member => ?_⟩
      simp only [ofRun, ofCapture] at member
      split at member <;> simp at member
    | ok problem =>
      simp only [ofRun, ofCapture]
      split
      · exact ofOutput_shaped _ _ _ _ _
      · rw [ofFailure.eq_def]
        split
        · exact ⟨judgeRefusal_shaped _ _, fun violation member => absurd member List.not_mem_nil⟩
        · exact ⟨trivial, fun violation member => absurd member List.not_mem_nil⟩

end Judgement

/-- Whatever is printed, and whether it is read as a given dialect or as the one that it is told
for, an answer in it has its shape and the text is not refused for rows that form no graph. So no
run of any input is judged for a graph or a mapping of another size. -/
theorem answers_shaped :
    (∀ (sizes : Sizes) (text : Text),
      (∀ (dialect : Dialect) (answer : Answer),
        dialect.read sizes text = .ok (.found answer) → answer.Shaped sizes dialect) ∧
      (∀ answer : Answer,
        Claim.read sizes text = .ok (.found answer) → answer.Shaped sizes (Dialect.sniff text)) ∧
      (∀ (dialect : Dialect) (error : GraphError),
        dialect.read sizes text ≠ .error (.invalidMatrix error)) ∧
      ∀ error : GraphError, Claim.read sizes text ≠ .error (.invalidMatrix error)) ∧
    ∀ strict input outcome, (Judgement.ofRun strict input outcome).Shaped := by
  refine ⟨fun sizes text => ⟨fun dialect answer => Dialect.shaped_of_read,
    fun answer => Claim.shaped_of_read, fun dialect error refused => ?_, fun error refused => ?_⟩,
    Judgement.ofRun_shaped⟩
  · exact dialect.read_failsOnly sizes text _ refused
  · exact Claim.read_failsOnly sizes text _ refused

/-- A report with more copies than asked for and a bare answer, both read. -/
theorem answers_shaped_both :
    let report : Text := ("Extension cost: 1\nMappings:\nCopy 1: 0->1\nCopy 2:\n" ++
      "Extended graph:\n[0] 0 1\n\n[1] 0 0\n").toList
    let bare : Text := "2\n0 1\n0 0\n1\n".toList
    (∃ answer, Dialect.verbose.read ⟨1, 2, 1⟩ report = .ok (.found answer) ∧
      answer.Shaped ⟨1, 2, 1⟩ .verbose) ∧
    ∃ answer, Claim.read ⟨1, 2, 1⟩ bare = .ok (.found answer) ∧
      answer.Shaped ⟨1, 2, 1⟩ (Dialect.sniff bare) := by
  intro report bare
  let drawn : Graph := .ofFn 2 fun u v => if u < v then 1 else 0
  have reported : Dialect.verbose.read ⟨1, 2, 1⟩ report =
      .ok (.found ⟨drawn, some [⟨[some 1]⟩, ⟨[none]⟩], 1⟩) := by decide +kernel
  have printed : Claim.read ⟨1, 2, 1⟩ bare = .ok (.found ⟨drawn, none, 1⟩) := by decide +kernel
  exact ⟨⟨_, reported, (answers_shaped.1 _ _).1 _ _ reported⟩,
    ⟨_, printed, (answers_shaped.1 _ _).2.1 _ printed⟩⟩

end CopyOracle
