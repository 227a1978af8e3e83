import CopyOracle.Proofs.Tally.Records
import CopyOracle.Proofs.Tally.Slices
/-!
# A tally is a partition of the recorded runs

The slices of a tally split the recorded runs by a key, the algorithm or the source: there is one
slice for each key that was recorded, it counts the runs with its key and no other, and each
counter adds up over the slices to that over all. Nothing in a tally depends on the order in which
the runs were recorded.
-/

namespace CopyOracle

namespace Slices

variable {κ : Type} [Ord κ]

/-- The slices of recorded runs by a key. -/
def ofRecords (key : Record → κ) (records : List Record) : Slices κ :=
  records.foldl (fun slices record =>
    slices.advance (key record) (·.record record.verdict record.time)) []

variable {key : Record → κ}

/-- The last record advances the slice of its key. -/
theorem ofRecords_concat (records : List Record) (last : Record) :
    ofRecords key (records ++ [last]) =
      (ofRecords key records).advance (key last) (·.record last.verdict last.time) :=
  List.foldl_append

/-- Each counter of the slices adds up to that over all records. -/
theorem sum_ofRecords {counter : Counts → Nat} (member : counter ∈ Counts.counters)
    (records : List Record) :
    ((ofRecords key records).map fun slice => counter slice.2).sum =
      counter (Counts.ofRecords records) := by
  induction records using List.reverseRecOn with
  | nil => exact (Counts.counter_empty member).symm
  | append_singleton records last ih =>
    rw [ofRecords_concat, Counts.ofRecords_concat, Counts.counter_record _ _ _ member, ← ih]
    exact sum_advance (fun counts => Counts.counter_record counts _ _ member)
      (Counts.counter_empty member) _ _

variable [Std.TransOrd κ] [Std.LawfulEqOrd κ]

/-- The keys ascend. -/
theorem ascending_ofRecords (records : List Record) : (ofRecords key records).Ascending := by
  induction records using List.reverseRecOn with
  | nil => exact List.Pairwise.nil
  | append_singleton records last ih =>
    rw [ofRecords_concat]
    exact ih.advance

omit [Std.TransOrd κ] in
/-- The keys are those of the records. -/
theorem mem_keys_ofRecords {records : List Record} {other : κ} :
    other ∈ (ofRecords key records).map Prod.fst ↔ ∃ record ∈ records, key record = other := by
  induction records using List.reverseRecOn with
  | nil => simp [ofRecords]
  | append_singleton records last ih =>
    rw [ofRecords_concat, mem_keys_advance, ih]
    simp only [List.mem_append, List.mem_singleton, or_and_right, exists_or, exists_eq_left]
    rw [or_comm, eq_comm]

variable [DecidableEq κ]

/-- What is found under a recorded key are the counts of the records with that key. -/
theorem lookup_ofRecords (records : List Record) (other : κ) :
    (ofRecords key records).lookup other =
      if ∃ record ∈ records, key record = other
        then some (Counts.ofRecords (records.filter fun record => key record = other))
        else none := by
  induction records using List.reverseRecOn with
  | nil => simp [ofRecords]
  | append_singleton records last ih =>
    rw [ofRecords_concat, lookup_advance (ascending_ofRecords records), List.filter_append]
    by_cases same : other = key last
    · subst same
      have standing : ((ofRecords key records).lookup (key last)).getD {} =
          Counts.ofRecords (records.filter fun record => key record = key last) := by
        rw [ih]
        split
        · rfl
        · next fresh =>
          have none : records.filter (fun record => key record = key last) = [] :=
            List.filter_eq_nil_iff.mpr fun record member same =>
              fresh ⟨record, member, of_decide_eq_true same⟩
          rw [none]
          rfl
      rw [if_pos rfl, if_pos ⟨last, by simp, rfl⟩, standing, ← Counts.ofRecords_concat,
        List.filter_singleton, decide_eq_true rfl]
      rfl
    · rw [if_neg same, ih, List.filter_singleton, decide_eq_false (Ne.symm same)]
      simp [Ne.symm same]

/-- How slices split recorded runs by a key, with the counts over all. -/
structure Partition (slices : Slices κ) (overall : Counts) (key : Record → κ)
    (records : List Record) : Prop where
  /-- Each key stands once. -/
  ascending : slices.Ascending
  /-- The keys are the recorded ones. -/
  keys : ∀ other, other ∈ slices.map Prod.fst ↔ ∃ record ∈ records, key record = other
  /-- A slice holds what recording its own runs and no others gives. -/
  counts : ∀ slice ∈ slices,
    slice.2 = Counts.ofRecords (records.filter fun record => key record = slice.1)
  /-- Each counter over all is the sum of that counter over the slices. -/
  sums : ∀ counter ∈ Counts.counters,
    counter overall = (slices.map fun slice => counter slice.2).sum

/-- The slices of recorded runs split them. -/
theorem partition_ofRecords (key : Record → κ) (records : List Record) :
    (ofRecords key records).Partition (Counts.ofRecords records) key records where
  ascending := ascending_ofRecords records
  keys _ := mem_keys_ofRecords
  counts slice member := by
    have found := (mem_iff_lookup (ascending_ofRecords records)).mp member
    rw [lookup_ofRecords] at found
    split at found
    · exact (Option.some.inj found).symm
    · contradiction
  sums _ member := (sum_ofRecords member records).symm

/-- The order of the records does not matter. -/
theorem ofRecords_perm {left right : List Record} (perm : left.Perm right) :
    ofRecords key left = ofRecords key right := by
  refine eq_of_lookup_eq (ascending_ofRecords left) (ascending_ofRecords right) fun other => ?_
  rw [lookup_ofRecords, lookup_ofRecords, Counts.ofRecords_perm (perm.filter _)]
  simp only [perm.mem_iff]

end Slices

/-- How a tally accounts for recorded runs. -/
structure Tally.Exact (tally : Tally) (records : List Record) : Prop where
  /-- Over all, it holds the counts of all runs. -/
  overall : tally.overall = Counts.ofRecords records
  /-- They say what they are to say. -/
  account : tally.overall.Account records
  /-- The slices by algorithm split the runs. -/
  byAlgorithm : tally.byAlgorithm.Partition tally.overall Record.algorithm records
  /-- The slices by source split the runs. -/
  bySource : tally.bySource.Partition tally.overall Record.source records
  /-- All runs passed exactly when every verdict passes. -/
  allPassed : tally.allPassed = true ↔ ∀ record ∈ records, record.verdict.isPass = true

namespace BatchReport

/-- The slices by algorithm are those of all records. -/
theorem byAlgorithm_tallyOf (records : List Record) :
    (tallyOf records).byAlgorithm = Slices.ofRecords Record.algorithm records :=
  (List.foldl_hom Tally.byAlgorithm fun _ _ => rfl).symm

/-- The slices by source are those of all records. -/
theorem bySource_tallyOf (records : List Record) :
    (tallyOf records).bySource = Slices.ofRecords Record.source records :=
  (List.foldl_hom Tally.bySource fun _ _ => rfl).symm

/-- The tally of fewer recorded runs than there are 32-bit words accounts for them exactly, and it
is the same for any order of the runs. -/
theorem tallyOf_exact (records : List Record) (few : records.length < UInt32.size) :
    (tallyOf records).Exact records ∧
      ∀ other : List Record, other.Perm records → tallyOf other = tallyOf records := by
  constructor
  · have overall := overall_tallyOf records
    exact
      { overall := overall
        account := overall ▸ Counts.account_ofRecords few
        byAlgorithm := by
          rw [overall, byAlgorithm_tallyOf]
          exact Slices.partition_ofRecords Record.algorithm records
        bySource := by
          rw [overall, bySource_tallyOf]
          exact Slices.partition_ofRecords Record.source records
        allPassed := by
          rw [Tally.allPassed, decide_eq_true_eq, failed_tallyOf, List.countP_eq_zero]
          simp [Record.passed] }
  · intro other perm
    have parts (tally : Tally) : tally = ⟨tally.overall, tally.byAlgorithm, tally.bySource⟩ := rfl
    rw [parts (tallyOf other), parts (tallyOf records)]
    simp only [overall_tallyOf, byAlgorithm_tallyOf, bySource_tallyOf, Counts.ofRecords_perm perm,
      Slices.ofRecords_perm perm]

/-- Three runs, of two algorithms and two sources: the two that passed have a mean time, and each of
the four slices has its own counts. -/
theorem tallyOf_exact_three :
    let passed := ⟨"path", "tricky", .exact, none, some ⟨4⟩, none, .ok, none, []⟩
    let refused := ⟨"case-1", "fuzz", .approximate, none, some ⟨3⟩, none, .impossible, some 1, []⟩
    let late := ⟨"star", "tricky", .approximate, none, some ⟨9⟩, none, .timeout, none, []⟩
    let tally := tallyOf [passed, refused, late]
    tally.Exact [passed, refused, late] ∧ tallyOf [late, passed, refused] = tally ∧
      tally.overall.meanPassingTime? = some ⟨3⟩ ∧ tally.overall.failed = 1 ∧
      tally.byAlgorithm = [(.exact, Counts.ofRecords [passed]),
        (.approximate, Counts.ofRecords [refused, late])] ∧
      tally.bySource = [("fuzz", Counts.ofRecords [refused]),
        ("tricky", Counts.ofRecords [passed, late])] := by
  intro passed refused late tally
  obtain ⟨exact, unordered⟩ := tallyOf_exact [passed, refused, late] (by decide)
  refine ⟨exact, unordered _ ?_, by decide, by decide, by decide, by decide⟩
  exact (List.perm_append_comm : ([late] ++ [passed, refused]).Perm _)

end BatchReport

end CopyOracle
