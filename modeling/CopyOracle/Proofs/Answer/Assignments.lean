import CopyOracle.Answer.Check
import CopyOracle.Proofs.Answer.Parts
/-!
# What becomes of the assignments on a copy line

The mapping of a listed copy assigns nothing that its line does not, and every vertex that the line
names has a target. Where the line names a vertex more than once, the last target is kept, and
nothing tells that there was another one: all assignments are kept exactly when the line gives no
vertex two targets. So a line that contradicts itself is read, and can be accepted.
-/

namespace CopyOracle

namespace Verbose

/-- The tokens give no vertex two targets. -/
def Consistent (tokens : List Text) : Prop :=
  ∀ token ∈ tokens, ∀ other ∈ tokens, ∀ source target target',
    Assigns token source target → Assigns other source target' → target = target'

/-- What a mapping has of the assignments that tokens make. -/
structure Keeps (order : Nat) (tokens : List Text) (mapping : Mapping) : Prop where
  /-- The mapping covers the pattern. -/
  sources : mapping.sources = order
  /-- A token with an arrow assigns a vertex of the pattern. -/
  readable : ∀ token ∈ tokens, ['-', '>'] <:+: token →
    ∃ source target, Assigns token source target ∧ source < order
  /-- Nothing is assigned that is not on a token. -/
  noneInvented : ∀ source target, mapping.get? source = some target →
    ∃ token ∈ tokens, Assigns token source target
  /-- Every vertex on a token has a target. -/
  named : ∀ token ∈ tokens, ∀ source target, Assigns token source target →
    ∃ kept, mapping.get? source = some kept
  /-- The target is that of the last token. -/
  last : ∀ source target, mapping.get? source = some target ↔ LastAssigned tokens source target
  /-- None is lost exactly when no vertex is given two targets. -/
  noneLost : (∀ token ∈ tokens, ∀ source target, Assigns token source target →
    mapping.get? source = some target) ↔ Consistent tokens

/-- A mapping that tokens write keeps their last assignments. -/
theorem Records.keeps {order : Nat} {tokens : List Text} {mapping : Mapping}
    (records : Records order tokens mapping) : Keeps order tokens mapping where
  sources := records.sources
  readable token member arrow := by
    obtain ⟨source, target, assigns, inside, _⟩ := records.readable token member arrow
    exact ⟨source, target, assigns, inside⟩
  noneInvented source target entry := ((records.entries source target).mp entry).exists_token
  named token member source target assigns := by
    obtain ⟨kept, last⟩ := exists_lastAssigned member assigns
    exact ⟨kept, (records.entries source kept).mpr last⟩
  last := records.entries
  noneLost := by
    constructor
    · intro kept token member other listed source target target' here there
      have first := kept token member source target here
      have second := kept other listed source target' there
      exact Option.some.inj (first.symm.trans second)
    · intro consistent token member source target assigns
      obtain ⟨kept, last⟩ := exists_lastAssigned member assigns
      obtain ⟨other, listed, there⟩ := last.exists_token
      obtain rfl := consistent token member other listed source target kept assigns there
      exact (records.entries source target).mpr last

/-- In every report that is read, the mapping at the place of a copy keeps the last assignments on
the line of the copy. -/
theorem assignments_kept {sizes : Sizes} {text : Text} {answer : Answer}
    (read : Dialect.verbose.read sizes text = .ok (.found answer)) :
    ∃ listing numbers copies, mappingLines? text.numberedLines = some listing ∧
      answer.copies = some copies ∧ Numbering sizes listing numbers copies ∧
      ∀ line ∈ listing, ∀ number assignments, CopyLine line.content number assignments →
        ∃ mapping, copies[placeOf sizes.copies numbers number]? = some mapping ∧
          Keeps sizes.pattern (assignmentTokens assignments) mapping := by
  obtain ⟨_, parts⟩ := read_verbose_eq_found_iff.mp read
  obtain ⟨_, ⟨copies, arranged, kept⟩, _⟩ := ofLines_eq_ok_iff.mp parts
  obtain ⟨listing, listed, located, collects, rfl⟩ := readMappings_eq_ok_iff.mp arranged
  have numbering := collects.numbering
  refine ⟨listing, numbersOf listed, arrange sizes listed, located, kept, numbering, ?_⟩
  intro line member number assignments shape
  obtain ⟨mapping, placed, records⟩ := numbering.held line member number assignments shape
  exact ⟨mapping, placed, records.keeps⟩

/-- A line that names a vertex twice with one target loses nothing. -/
theorem assignments_kept_repeated :
    let text : Text := ("Extension cost: 0\nMappings:\nCopy 1: 0->1, 1->0 0->1\n" ++
      "Extended graph:\n0 0\n0 0\n").toList
    Dialect.verbose.read ⟨2, 2, 1⟩ text = .ok (.found ⟨.empty 2, some [⟨[some 1, some 0]⟩], 0⟩) ∧
      ∃ listing numbers, mappingLines? text.numberedLines = some listing ∧
        ∀ line ∈ listing, ∀ number assignments, CopyLine line.content number assignments →
          ∃ mapping, [⟨[some 1, some 0]⟩][placeOf 1 numbers number]? = some mapping ∧
            Keeps 2 (assignmentTokens assignments) mapping := by
  intro text
  have read : Dialect.verbose.read ⟨2, 2, 1⟩ text =
      .ok (.found ⟨.empty 2, some [⟨[some 1, some 0]⟩], 0⟩) := by decide +kernel
  obtain ⟨listing, numbers, _, located, kept, _, keeps⟩ := assignments_kept read
  obtain rfl := Option.some.inj kept
  exact ⟨read, listing, numbers, located, keeps⟩

/-- A copy line gives a vertex two targets, and the report is read with the second one only; the
answer passes all checks. -/
theorem assignment_replaced :
    let text : Text := ("Extension cost: 0\nMappings:\nCopy 1: 0->0, 0->1\n" ++
      "Extended graph:\n0 0\n0 0\n").toList
    let copy : Mapping := ⟨[some 1]⟩
    let answer : Answer := ⟨.empty 2, some [copy], 0⟩
    let problem : Case := ⟨.empty 1, .empty 2, 1, by decide, by decide⟩
    Dialect.verbose.read problem.sizes text = .ok (.found answer) ∧
      mappingLines? text.numberedLines = some [⟨3, "Copy 1: 0->0, 0->1".toList⟩] ∧
      (∃ assignments, CopyLine "Copy 1: 0->0, 0->1".toList 1 assignments ∧
        ∃ token ∈ assignmentTokens assignments, Assigns token 0 0 ∧
          ∃ other ∈ assignmentTokens assignments, Assigns other 0 1) ∧
      copy.get? 0 ≠ some 0 ∧ answer.check problem true = .ok 0 := by
  intro text copy answer problem
  have zero : Numeral.Denotes ['0'] 0 := Numeral.denotes_digits 0
  have one : Numeral.Denotes ['1'] 1 := Numeral.denotes_digits 1
  have line : CopyLine "Copy 1: 0->0, 0->1".toList 1 " 0->0, 0->1".toList :=
    ⟨"Copy".toList, " 1".toList, by decide, by decide, by decide, by decide, one⟩
  refine ⟨by decide +kernel, by decide +kernel, ?_, by decide, by decide +kernel⟩
  refine ⟨_, line, "0->0".toList, by decide +kernel, ⟨['0'], ['0'], by decide, zero, zero⟩,
    "0->1".toList, by decide +kernel, ['0'], ['1'], by decide, zero, one⟩

end Verbose

end CopyOracle
