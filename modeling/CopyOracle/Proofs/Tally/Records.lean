import CopyOracle.Batch.Basic
import Mathlib.Algebra.Ring.Nat
import Mathlib.Data.List.Induction
import Mathlib.Data.List.Perm.Basic
/-!
# The counts of recorded runs

Every record adds one to the total, and one to the runs that passed exactly when its verdict
passes. What it adds to a counter depends on its verdict alone, and of two records it does not
matter which is counted first, although the sum of their times stops at the largest duration. So
counters that start from zero and count recorded runs one by one hold their number, how many of
them passed, and the mean time of those that passed and have one, in whatever order the runs were
recorded.
-/

namespace CopyOracle

/-- The time of a run that passed, if it has one. -/
def Record.passingTime? (record : Record) : Option Duration :=
  if record.passed then record.time else none

namespace Counts

section Step

variable (counts : Counts) (verdict : Verdict) (time : Option Duration)

/-- A verdict is counted once. -/
theorem total_count : (counts.count verdict).total = counts.total + 1 := by
  cases verdict with
  | noSolution expected => cases expected <;> simp only [count, total] <;> omega
  | _ =>
    simp only [count, total]
    omega

/-- A verdict is counted as passed exactly when it passes. -/
theorem passed_count :
    (counts.count verdict).passed = counts.passed + if verdict.isPass then 1 else 0 := by
  cases verdict with
  | noSolution expected =>
    cases expected with
    | true => exact (Nat.add_assoc _ _ _).symm
    | false => rfl
  | ok | impossible =>
    simp only [count, passed, Verdict.isPass, if_true]
    omega
  | fail | parseError | timeout | runError => rfl

/-- A time is not counted as a run. -/
theorem total_addTime (time : Duration) : (counts.addTime time).total = counts.total := rfl

/-- A time is not counted as a run that passed. -/
theorem passed_addTime (time : Duration) : (counts.addTime time).passed = counts.passed := rfl

/-- A record counts one run. -/
theorem total_record : (counts.record verdict time).total = counts.total + 1 := by
  rw [record.eq_def]
  split
  · rw [apply_ite total, total_addTime, ite_self, total_count]
  · exact total_count counts verdict

/-- A record counts one run that passed exactly when its verdict passes. -/
theorem passed_record :
    (counts.record verdict time).passed = counts.passed + if verdict.isPass then 1 else 0 := by
  rw [record.eq_def]
  split
  · rw [apply_ite passed, passed_addTime, ite_self, passed_count]
  · exact passed_count counts verdict

/-- The counters of the outcomes, one for each. -/
def counters : List (Counts → Nat) :=
  [ok, validationFailures, parseErrors, expectedNoSolution, unexpectedNoSolution, impossible,
    timeouts, runErrors]

/-- The counters start from zero. -/
theorem counter_empty {counter : Counts → Nat} (member : counter ∈ counters) : counter {} = 0 := by
  simp only [counters, List.mem_cons, List.not_mem_nil, or_false] at member
  rcases member with rfl | rfl | rfl | rfl | rfl | rfl | rfl | rfl <;> rfl

/-- What a verdict adds to a counter does not depend on what stands there. -/
theorem counter_count {counter : Counts → Nat} (member : counter ∈ counters) :
    counter (counts.count verdict) = counter counts + counter (({} : Counts).count verdict) := by
  simp only [counters, List.mem_cons, List.not_mem_nil, or_false] at member
  cases verdict with
  | noSolution expected =>
    cases expected <;>
      rcases member with rfl | rfl | rfl | rfl | rfl | rfl | rfl | rfl <;> simp [count]
  | _ => rcases member with rfl | rfl | rfl | rfl | rfl | rfl | rfl | rfl <;> simp [count]

/-- A time is counted by no counter of the outcomes. -/
theorem counter_addTime {counter : Counts → Nat} (member : counter ∈ counters) (time : Duration) :
    counter (counts.addTime time) = counter counts := by
  simp only [counters, List.mem_cons, List.not_mem_nil, or_false] at member
  rcases member with rfl | rfl | rfl | rfl | rfl | rfl | rfl | rfl <;> rfl

/-- What a record adds to a counter is what its verdict adds. -/
theorem counter_record {counter : Counts → Nat} (member : counter ∈ counters) :
    counter (counts.record verdict time) =
      counter counts + counter (({} : Counts).count verdict) := by
  rw [← counter_count counts verdict member, record.eq_def]
  split
  · rw [apply_ite counter, counter_addTime _ member, ite_self]
  · rfl

/-- Of two verdicts it does not matter which is counted first. -/
theorem count_comm (other : Verdict) :
    (counts.count verdict).count other = (counts.count other).count verdict := by
  cases verdict with
  | noSolution expected =>
    cases expected <;> cases other with
    | noSolution expected => cases expected <;> rfl
    | _ => rfl
  | _ =>
    cases other with
    | noSolution expected => cases expected <;> rfl
    | _ => rfl

/-- A verdict and a time do not meet. -/
theorem count_addTime (time : Duration) :
    (counts.addTime time).count verdict = (counts.count verdict).addTime time := by
  cases verdict with
  | noSolution expected => cases expected <;> rfl
  | _ => rfl

/-- Of two times it does not matter which is added first. -/
theorem addTime_comm (first second : Duration) :
    (counts.addTime first).addTime second = (counts.addTime second).addTime first := by
  simp only [addTime, Duration.add, Counts.mk.injEq, Duration.mk.injEq, true_and, and_true]
  omega

/-- Of two records it does not matter which is counted first. -/
theorem record_comm (other : Verdict) (otherTime : Option Duration) :
    (counts.record verdict time).record other otherTime =
      (counts.record other otherTime).record verdict time := by
  cases time <;> cases otherTime <;> simp only [record] <;> (repeat' split) <;>
    simp only [count_addTime, count_comm _ verdict other, addTime_comm]

end Step

/-- The counters after recorded runs. -/
def ofRecords (records : List Record) : Counts :=
  records.foldl (fun counts record => counts.record record.verdict record.time) {}

/-- The last record is counted last. -/
theorem ofRecords_concat (records : List Record) (last : Record) :
    ofRecords (records ++ [last]) = (ofRecords records).record last.verdict last.time :=
  List.foldl_append

/-- The order of the records does not matter. -/
theorem ofRecords_perm {left right : List Record} (perm : left.Perm right) :
    ofRecords left = ofRecords right :=
  perm.foldl_eq' (fun _ _ _ _ counts => record_comm counts _ _ _ _) {}

/-- The total is the number of records. -/
theorem total_ofRecords (records : List Record) : (ofRecords records).total = records.length := by
  induction records using List.reverseRecOn with
  | nil => rfl
  | append_singleton records last ih =>
    rw [ofRecords_concat, total_record, ih, List.length_append, List.length_singleton]

/-- The runs that passed are the records that passed. -/
theorem passed_ofRecords (records : List Record) :
    (ofRecords records).passed = records.countP Record.passed := by
  induction records using List.reverseRecOn with
  | nil => rfl
  | append_singleton records last ih =>
    rw [ofRecords_concat, passed_record, ih, List.countP_append, List.countP_singleton]
    rfl

/-- A time is added and counted exactly when the run passed and has one. -/
theorem times_record (counts : Counts) (record : Record) :
    ((counts.record record.verdict record.time).passingTime,
        (counts.record record.verdict record.time).timedPasses) =
      match record.passingTime? with
      | some time => (counts.passingTime.add time, min (counts.timedPasses + 1) (UInt32.size - 1))
      | none => (counts.passingTime, counts.timedPasses) := by
  have counted (verdict : Verdict) : (counts.count verdict).passingTime = counts.passingTime ∧
      (counts.count verdict).timedPasses = counts.timedPasses := by
    cases verdict with
    | noSolution expected => cases expected <;> exact ⟨rfl, rfl⟩
    | _ => exact ⟨rfl, rfl⟩
  obtain ⟨sum, number⟩ := counted record.verdict
  rw [Counts.record.eq_def, Record.passingTime?, Record.passed]
  cases time : record.time with
  | none => simp only [ite_self, sum, number]
  | some time =>
    cases passes : record.verdict.isPass with
    | true => simp only [if_true, addTime, sum, number]
    | false => simp only [Bool.false_eq_true, if_false, sum, number]

/-- The times of runs that passed are added up to the largest duration at most, and counted up to
the largest 32-bit word at most. -/
theorem times_ofRecords (records : List Record) :
    (ofRecords records).passingTime.nanoseconds =
        min ((records.filterMap Record.passingTime?).map Duration.nanoseconds).sum
          Duration.largest.nanoseconds ∧
      (ofRecords records).timedPasses =
        min (records.filterMap Record.passingTime?).length (UInt32.size - 1) := by
  induction records using List.reverseRecOn with
  | nil => exact ⟨rfl, rfl⟩
  | append_singleton records last ih =>
    obtain ⟨sum, number⟩ := ih
    have step := times_record (ofRecords records) last
    rw [ofRecords_concat, List.filterMap_append, List.map_append, List.sum_append,
      List.length_append]
    cases timed : last.passingTime? with
    | none =>
      simp only [timed, Prod.mk.injEq] at step
      simp [timed, step.1, step.2, sum, number]
    | some time =>
      simp only [timed, Prod.mk.injEq] at step
      simp only [timed, step.1, step.2, Duration.add, sum, number, List.filterMap_cons,
        List.filterMap_nil, List.map_cons, List.map_nil, List.sum_cons, List.sum_nil,
        List.length_singleton]
      omega

/-- What counters say about the runs they count. -/
structure Account (counts : Counts) (records : List Record) : Prop where
  /-- The total is their number. -/
  total : counts.total = records.length
  /-- Those with a verdict that passes have passed. -/
  passed : counts.passed = records.countP fun record => record.verdict.isPass
  /-- The others have failed, so the difference that counts them does not fall below zero. -/
  failed : counts.passed + counts.failed = counts.total
  /-- The mean is over the runs that passed and have a time. -/
  mean : counts.meanPassingTime? =
    if records.filterMap Record.passingTime? = [] then none
    else some ⟨min ((records.filterMap Record.passingTime?).map Duration.nanoseconds).sum
      Duration.largest.nanoseconds / (records.filterMap Record.passingTime?).length⟩

/-- The counters of recorded runs say what they are to say, if the runs can be counted. -/
theorem account_ofRecords {records : List Record} (few : records.length < UInt32.size) :
    (ofRecords records).Account records where
  total := total_ofRecords records
  passed := passed_ofRecords records
  failed := by
    rw [failed]
    have most := List.countP_le_length (p := Record.passed) (l := records)
    rw [← total_ofRecords, ← passed_ofRecords] at most
    omega
  mean := by
    obtain ⟨sum, number⟩ := times_ofRecords records
    have most := List.length_filterMap_le Record.passingTime? records
    rw [Nat.min_eq_left (by omega)] at number
    rw [meanPassingTime?, Duration.divide?, sum, number]
    simp only [List.length_eq_zero_iff]

end Counts

namespace BatchReport

/-- The counts over all are those of all records. -/
theorem overall_tallyOf (records : List Record) :
    (tallyOf records).overall = Counts.ofRecords records :=
  (List.foldl_hom Tally.overall fun _ _ => rfl).symm

/-- The failed runs of a tally are the records that did not pass. -/
theorem failed_tallyOf (records : List Record) :
    (tallyOf records).overall.failed = records.countP fun record => !record.passed := by
  have split := List.length_eq_countP_add_countP Record.passed (l := records)
  rw [overall_tallyOf, Counts.failed, Counts.total_ofRecords, Counts.passed_ofRecords]
  simp only [Bool.not_eq_true, Bool.decide_eq_false] at split
  omega

end BatchReport

end CopyOracle
