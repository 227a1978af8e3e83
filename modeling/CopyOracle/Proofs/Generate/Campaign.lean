import CopyOracle.Generate.Basic
import CopyOracle.Proofs.Corpus.RoundTrip
import CopyOracle.Proofs.Generate.Fuzz
import CopyOracle.Proofs.Job
import CopyOracle.Proofs.Result
/-!
# The cases of a campaign are told apart

Seeds of a campaign never repeat. The mixing of a word is undone step by step: a sum and an
exclusive or with a fixed word by their other operand, a product by an odd constant by the inverse
of the constant. Folding high bits into low ones has no such inverse at hand. It is additive for the
exclusive or, so two words that fold to one differ in a word that is its own shift, and only zero
is.

A campaign names each case by its seed, so the cases are written into different files of a
directory, and the jobs that run them under different algorithms keep their inputs under different
names.
-/

namespace CopyOracle

namespace Seed

/-- Only zero is its own shift. -/
theorem eq_zero_of_shiftRight_eq {word amount : UInt64} (positive : 0 < amount.toNat % 64)
    (same : word >>> amount = word) : word = 0 := by
  have quotient : word.toNat / 2 ^ (amount.toNat % 64) = word.toNat := by
    have numbers := congrArg UInt64.toNat same
    rwa [UInt64.toNat_shiftRight, Nat.shiftRight_eq_div_pow] at numbers
  have power : 1 < 2 ^ (amount.toNat % 64) := Nat.one_lt_two_pow (by omega)
  have small : word.toNat = 0 := by
    by_contra nonzero
    have less := Nat.div_lt_self (Nat.pos_of_ne_zero nonzero) power
    omega
  exact UInt64.toNat_inj.mp small

/-- Folding high bits into low ones is injective. -/
theorem fold_injective {amount : UInt64} (positive : 0 < amount.toNat % 64) :
    Function.Injective fun word : UInt64 => word ^^^ (word >>> amount) := by
  intro left right (same : left ^^^ (left >>> amount) = right ^^^ (right >>> amount))
  -- Folding is additive, so what both words differ in is folded to zero.
  have shifted : (left ^^^ right) >>> amount = left ^^^ right := by
    have moved : left >>> amount = left ^^^ (right ^^^ (right >>> amount)) := by
      rw [← same, ← UInt64.xor_assoc, UInt64.xor_self, UInt64.zero_xor]
    rw [UInt64.shiftRight_xor, moved, UInt64.xor_assoc, UInt64.xor_assoc, UInt64.xor_self,
      UInt64.xor_zero]
  exact UInt64.xor_eq_zero_iff.mp (eq_zero_of_shiftRight_eq positive shifted)

/-- Multiplying by a constant with an inverse is injective. -/
theorem mul_injective {constant inverse : UInt64} (unit : constant * inverse = 1) :
    Function.Injective fun word : UInt64 => word * constant := by
  intro left right same
  have undone := congrArg (· * inverse) same
  simpa only [UInt64.mul_assoc, unit, UInt64.mul_one] using undone

/-- The inverse of the spacing. -/
theorem spacing_unit : spacing * 0xF1DE83E19937733D = 1 := by decide

/-- Mixing is injective. -/
theorem mix_injective : Function.Injective mix := by
  have first : Function.Injective fun word : UInt64 => word + spacing := fun _ _ same =>
    (UInt64.add_left_inj _).mp same
  have fold30 : Function.Injective fun word : UInt64 => word ^^^ (word >>> 30) :=
    fold_injective (by decide)
  have second : Function.Injective fun word : UInt64 => word * 0xBF58476D1CE4E5B9 :=
    mul_injective (show 0xBF58476D1CE4E5B9 * 0x96DE1B173F119089 = (1 : UInt64) by decide)
  have fold27 : Function.Injective fun word : UInt64 => word ^^^ (word >>> 27) :=
    fold_injective (by decide)
  have third : Function.Injective fun word : UInt64 => word * 0x94D049BB133111EB :=
    mul_injective (show 0x94D049BB133111EB * 0x319642B2D24D8EC3 = (1 : UInt64) by decide)
  have fold31 : Function.Injective fun word : UInt64 => word ^^^ (word >>> 31) :=
    fold_injective (by decide)
  exact fold31.comp (third.comp (fold27.comp (second.comp (fold30.comp first))))

/-- Two iterations of one campaign have different seeds. -/
theorem ofIteration_injective (base : UInt64) : Function.Injective (ofIteration base) := by
  intro left right same
  have mixed : base ^^^ ((left + 1) * spacing) = base ^^^ ((right + 1) * spacing) :=
    mix_injective same
  have spaced := (UInt64.xor_right_inj base).mp mixed
  exact (UInt64.add_left_inj 1).mp (mul_injective spacing_unit spaced)

/-- Two campaigns have different seeds at one iteration. -/
theorem ofIteration_base_injective (iteration : UInt64) :
    Function.Injective fun base => ofIteration base iteration := by
  intro left right same
  exact (UInt64.xor_left_inj _).mp (mix_injective same)

end Seed

namespace Fuzzer

/-- The name of the random case of a seed. -/
def nameOf (seed : UInt64) : String := s!"fuzz_{seed}"

/-- A name tells its seed. -/
theorem nameOf_injective : Function.Injective nameOf := fun _ _ same =>
  Job.toString_seed_inj.mp ((String.append_right_inj "fuzz_").mp same)

/-- A random case can be stored under its name. -/
theorem storable_nameOf (seed : UInt64) : Corpus.StorableName (nameOf seed) := by
  have letters : (nameOf seed).toList = "fuzz_".toList ++ (toString seed).toList :=
    String.toList_append
  refine ⟨fun empty => ?_, ?_, ?_⟩
  · rw [empty] at letters
    exact absurd letters (by simp)
  · rw [letters, List.mem_append, not_or]
    exact ⟨by decide, Job.slash_not_mem_seed seed⟩
  · rw [letters]
    exact fun marked => absurd (Option.some.inj marked) (by decide)

/-- The generated case is that of the seed. -/
structure OfSeed (seed : UInt64) (generated : GeneratedCase) : Prop where
  /-- It is named by the seed. -/
  name : generated.name = nameOf seed
  /-- It is a random case. -/
  source : generated.source = Fuzzer.source
  /-- It keeps the seed. -/
  seed : generated.seed = some seed

/-- Usable settings give a case for every seed. -/
theorem generate_eq_ok (fuzzer : Fuzzer) (seed : UInt64) :
    ∃ generated, fuzzer.generate seed = .ok generated ∧ OfSeed seed generated := by
  obtain ⟨_, _, generated, made, named, ofSource, -⟩ :=
    fuzzer.exists_makes (nameOf seed) (.ofSeed seed)
  refine ⟨{ generated with seed := some seed }, ?_, named, ofSource, rfl⟩
  exact map_eq_ok_iff.mpr ⟨generated, made, rfl⟩

/-- The seeds of a campaign in the order of its iterations. -/
def seeds (base : UInt64) (count : Nat) : List UInt64 :=
  (List.range count).map fun iteration => Seed.ofIteration base (.ofNat iteration)

/-- The seeds of a campaign are different. -/
theorem nodup_seeds (base count : UInt64) : (seeds base count.toNat).Nodup := by
  rw [seeds, List.Nodup, List.pairwise_map]
  refine List.Pairwise.imp_of_mem (fun {i j} here there apart same => ?_) List.nodup_range
  have below := count.toNat_lt
  have first : i < UInt64.size := (List.mem_range.mp here).trans below
  have second : j < UInt64.size := (List.mem_range.mp there).trans below
  have words : UInt64.ofNat i = UInt64.ofNat j := Seed.ofIteration_injective base same
  have numbers := congrArg UInt64.toNat words
  rw [UInt64.toNat_ofNat_of_lt' first, UInt64.toNat_ofNat_of_lt' second] at numbers
  exact apart numbers

/-- Usable settings give the cases of all seeds of a campaign. -/
theorem campaign_eq_ok (fuzzer : Fuzzer) (base : UInt64) (count : Nat) :
    ∃ cases, fuzzer.campaign base count = .ok cases ∧
      List.Forall₂ OfSeed (seeds base count) cases := by
  have each : ∀ iteration ∈ List.range count, ∃ generated,
      fuzzer.generate (Seed.ofIteration base (.ofNat iteration)) = .ok generated ∧
        OfSeed (Seed.ofIteration base (.ofNat iteration)) generated :=
    fun iteration _ => fuzzer.generate_eq_ok _
  obtain ⟨cases, given, ofSeeds⟩ := exists_mapM_eq_ok each
  exact ⟨cases, given, List.forall₂_map_left_iff.mpr ofSeeds⟩

end Fuzzer

namespace Job

/-- The jobs of two random cases keep their inputs under one name only when cases and algorithms
are the same. -/
theorem apart_ofGenerated {left right : GeneratedCase} {seed other : UInt64}
    (first : Fuzzer.OfSeed seed left) (second : Fuzzer.OfSeed other right)
    {algorithm algorithm' : Algorithm}
    (differ : left.name ≠ right.name ∨ algorithm ≠ algorithm') :
    (ofGenerated left algorithm).Apart (ofGenerated right algorithm') := by
  rw [Apart, ofGenerated, ofGenerated, first.seed, second.seed]
  intro same
  obtain ⟨rfl, rfl⟩ := Prod.mk.inj same
  rcases differ with names | algorithms
  · exact names (first.name.trans second.name.symm)
  · exact algorithms rfl

/-- The jobs of random cases with different names under different algorithms keep their inputs
under different names. -/
theorem nodup_archiveFile {cases : List GeneratedCase} {algorithms : List Algorithm}
    (random : ∀ generated ∈ cases, ∃ seed, Fuzzer.OfSeed seed generated)
    (distinct : (cases.map (·.name)).Nodup) (different : algorithms.Nodup) :
    ((cases.flatMap fun generated => algorithms.map (ofGenerated generated)).map
      archiveFile).Nodup := by
  rw [List.Nodup, List.pairwise_map, List.pairwise_flatMap]
  constructor
  · intro generated own
    obtain ⟨seed, ofSeed⟩ := random generated own
    rw [List.pairwise_map]
    exact different.imp fun apart =>
      archiveFile_ne_iff.mpr (apart_ofGenerated ofSeed ofSeed (.inr apart))
  · rw [List.Nodup, List.pairwise_map] at distinct
    refine distinct.imp_of_mem fun {left right} here there apart => ?_
    obtain ⟨seed, ofSeed⟩ := random left here
    obtain ⟨other, ofOther⟩ := random right there
    intro job listed job' listed'
    obtain ⟨algorithm, -, rfl⟩ := List.mem_map.mp listed
    obtain ⟨algorithm', -, rfl⟩ := List.mem_map.mp listed'
    exact archiveFile_ne_iff.mpr (apart_ofGenerated ofSeed ofOther (.inl apart))

end Job

namespace Fuzzer

/-- What tells the cases of a campaign apart. -/
structure ToldApart (fuzzer : Fuzzer) (base count : UInt64) (cases : List GeneratedCase) :
    Prop where
  /-- Each case is named by the seed of its iteration. -/
  named : cases.map (·.name) = (List.range count.toNat).map fun iteration =>
    s!"fuzz_{Seed.ofIteration base (.ofNat iteration)}"
  /-- The names are different. -/
  names : (cases.map (·.name)).Nodup
  /-- So are the files of a directory into which the cases are written. -/
  places (files : FileTree) (directory : String) : (cases.map fun generated =>
    files.aim (Corpus.pathOf directory generated.name)).Nodup
  /-- Every case that is written can be read at the end, unless devices stand in the way. -/
  kept {files written : FileTree} {directory : String} :
    Corpus.Ordinary files directory cases →
    (Corpus.write directory cases).Gives files () written → ∀ generated ∈ cases,
      written.readText (Corpus.pathOf directory generated.name) = .ok generated.problem.render
  /-- Different algorithms give a job for each case and algorithm, and the inputs of the jobs are
  kept under different names. -/
  jobs {algorithms : List Algorithm} : algorithms.Nodup →
    ∃ jobs, Job.ofCampaign fuzzer base count.toNat algorithms = .ok jobs ∧
      jobs.length = cases.length * algorithms.length ∧ (jobs.map Job.archiveFile).Nodup

/-- The seeds of a campaign never repeat, neither those of different iterations nor those of
different campaigns at one iteration. So whatever the settings, the seed of the campaign and the
number of its cases, the campaign gives cases that are told apart by their names, their files and
the names under which their jobs keep their inputs. -/
theorem campaign_told_apart (fuzzer : Fuzzer) :
    (∀ base, Function.Injective (Seed.ofIteration base)) ∧
    (∀ iteration, Function.Injective fun base => Seed.ofIteration base iteration) ∧
    ∀ base count : UInt64, ∃ cases, fuzzer.campaign base count.toNat = .ok cases ∧
      ToldApart fuzzer base count cases := by
  refine ⟨Seed.ofIteration_injective, Seed.ofIteration_base_injective, fun base count => ?_⟩
  obtain ⟨cases, given, ofSeeds⟩ := fuzzer.campaign_eq_ok base count.toNat
  have random : ∀ generated ∈ cases, ∃ seed, OfSeed seed generated := by
    intro generated own
    obtain ⟨seed, -, ofSeed⟩ := exists_of_mem_forall₂ ofSeeds own
    exact ⟨seed, ofSeed⟩
  have named : (seeds base count.toNat).map nameOf = cases.map (·.name) :=
    map_eq_map_of_forall₂ (ofSeeds.imp fun _ _ own => own.name.symm)
  have distinct : (cases.map (·.name)).Nodup := by
    rw [← named]
    exact (nodup_seeds base count).map nameOf_injective
  have storable : ∀ generated ∈ cases, Corpus.StorableName generated.name := by
    intro generated own
    obtain ⟨seed, ofSeed⟩ := random generated own
    rw [ofSeed.name]
    exact storable_nameOf seed
  refine ⟨cases, given, ⟨?_, distinct, ?_, ?_, ?_⟩⟩
  · rw [← named, seeds, List.map_map]
    rfl
  · exact Corpus.nodup_places storable distinct
  · exact Corpus.readText_of_write storable distinct
  · intro algorithms different
    refine ⟨_, map_eq_ok_iff.mpr ⟨cases, given, rfl⟩, ?_, ?_⟩
    · simp [List.length_flatMap]
    · exact Job.nodup_archiveFile random distinct different

end Fuzzer

end CopyOracle
