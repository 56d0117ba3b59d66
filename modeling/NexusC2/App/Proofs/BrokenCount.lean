import NexusC2.App.AuditTamper
import NexusC2.App.VerifyUi
import NexusC2.Core.Proofs.ChainCheckers

/-!
# What the reported count counts

`ChainVerifyResult.summary`, the server and the verify page say `n of total` with `n` the number
of errors. The walk makes up to two errors at a record, so `n` is the number of records with an
error exactly where no record has both.
-/

namespace NexusC2

open HashChain

section

variable {F : Type} [PyFloatOps F] [Sha256]

/-- The indices of the records at which the walk of `verify_audit_chain` adds an error. -/
def errorIndices (records : List (Record F)) : List Nat :=
  (List.range records.length).filter fun i =>
    (verifyAuditChain (records.take (i + 1))).errors ≠ (verifyAuditChain (records.take i)).errors

/-- The record links, or has the digest of its body. -/
def NotBothWrong (prev : String) (record : Record F) : Prop :=
  Linked prev record ∨ Assoc.get record "hash" = some (.str (bodyDigest record))

theorem flaws_length_le_one {prev : String} {record : Record F} :
    (flaws prev record).length ≤ 1 ↔ NotBothWrong prev record := by
  unfold flaws NotBothWrong Linked
  rw [← isStr_iff, ← isStr_iff]
  split <;> split <;> simp_all

theorem errors_snoc (records : List (Record F)) (record : Record F) :
    (verifyAuditChain (records ++ [record])).errors =
      (verifyAuditChain records).errors ++
        (flaws (tip nextHash genesisPrev records) record).map
          ("record[" ++ toString records.length ++ "] " ++ ·) := by
  unfold verifyAuditChain
  dsimp only
  rw [ChainWalk.walk_append, ChainWalk.walk, ChainWalk.walk, ChainWalk.errors_visit_eq,
    ChainWalk.prev_walk, Nat.zero_add]

/-- A record that is appended adds its index where it has an error. -/
theorem errorIndices_snoc (records : List (Record F)) (record : Record F) :
    errorIndices (records ++ [record]) = errorIndices records ++
      if flaws (tip nextHash genesisPrev records) record = [] then [] else [records.length] := by
  have hbefore : ∀ i ≤ records.length, (records ++ [record]).take i = records.take i :=
    fun i hi => List.take_append_of_le_length hi
  have hlast : (records ++ [record]).take (records.length + 1) = records ++ [record] :=
    List.take_of_length_le (by simp)
  unfold errorIndices
  rw [List.length_append, List.length_singleton, List.range_succ, List.filter_append]
  congr 1
  · refine List.filter_congr fun i hi => ?_
    have hlt := List.mem_range.mp hi
    rw [hbefore i hlt.le, hbefore (i + 1) hlt]
  · rw [List.filter_singleton, hlast, hbefore _ le_rfl, List.take_length, errors_snoc]
    split <;> simp_all

/-- Where no record has both errors there are as many errors as records with an error, and
otherwise there are more. -/
theorem length_errorIndices (records : List (Record F)) :
    (errorIndices records).length ≤ (verifyAuditChain records).errors.length ∧
    ((errorIndices records).length = (verifyAuditChain records).errors.length ↔
      Valid NotBothWrong nextHash genesisPrev records) := by
  induction records using List.reverseRecOn with
  | nil => exact ⟨Nat.le_refl 0, iff_of_true rfl trivial⟩
  | append_singleton records record ih =>
    obtain ⟨hle, hiff⟩ := ih
    rw [valid_snoc, ← hiff, ← flaws_length_le_one, errors_snoc, errorIndices_snoc,
      List.length_append, List.length_append, List.length_map]
    cases hflaws : flaws (tip nextHash genesisPrev records) record with
    | nil => simp [hle]
    | cons flaw rest =>
      simp only [reduceCtorEq, if_false, List.length_cons, List.length_nil]
      omega

theorem length_errorIndices_le (records : List (Record F)) :
    (errorIndices records).length ≤ records.length := by
  have hfilter := List.length_filter_le (fun i => decide ((verifyAuditChain
    (records.take (i + 1))).errors ≠ (verifyAuditChain (records.take i)).errors))
    (List.range records.length)
  rwa [List.length_range] at hfilter

/-- The summary, the answers of the server and what the verify page shows all state this number
of broken links. -/
structure StatesBroken (records : List (Record F)) (n : Nat) : Prop where
  summary : (verifyAuditChain records).summary =
    "broken links: " ++ toString n ++ " of " ++ toString records.length
  dictBroken : (chainVerifyDict (F := F) (verifyAuditChain records)).field "broken" = .int n
  dictLabel : (chainVerifyDict (F := F) (verifyAuditChain records)).field "label" =
    .str (toString n ++ " of " ++ toString records.length)
  healthBroken : (ocsfHealth records).field "broken" = .int n
  healthLabel : (ocsfHealth records).field "label" =
    .str (toString n ++ " of " ++ toString records.length)
  auditBroken : (auditHealth records).field "broken" = .int n
  auditLabel : (auditHealth records).field "label" =
    .str (toString n ++ " of " ++ toString records.length)

/-- What they state is the number of errors. -/
theorem statesBroken_iff (records : List (Record F)) (n : Nat) :
    StatesBroken records n ↔ n = (verifyAuditChain records).errors.length := by
  have hbroken : (if (verifyAuditChain records).ok then 0
      else if (verifyAuditChain records).errors.isEmpty then 1
      else (verifyAuditChain records).errors.length) = (verifyAuditChain records).errors.length := by
    change (if (verifyAuditChain records).errors.isEmpty then 0 else _) = _
    split <;> simp_all
  constructor
  · intro h
    have hdict : Json.int (F := F) (if (verifyAuditChain records).ok then 0
        else if (verifyAuditChain records).errors.isEmpty then 1
        else (verifyAuditChain records).errors.length : Nat) = .int n := h.dictBroken
    rw [hbroken] at hdict
    exact (Int.ofNat.inj (Json.int.inj hdict)).symm
  · rintro rfl
    have hlabel := congrArg (fun k : Nat => Json.str (F := F)
      (toString k ++ " of " ++ toString records.length)) hbroken
    have hint := congrArg (fun k : Nat => Json.int (F := F) k) hbroken
    refine ⟨?_, hint, hlabel, hint, hlabel, hint, hlabel⟩
    unfold ChainVerifyResult.summary
    by_cases hnil : (verifyAuditChain records).errors = []
    · have hok : (verifyAuditChain records).ok = true := List.isEmpty_iff.mpr hnil
      rw [if_pos hok, hnil]
      rfl
    · have hok : (verifyAuditChain records).ok = false := by
        change (verifyAuditChain records).errors.isEmpty = false
        simpa using hnil
      have hempty : (verifyAuditChain records).errors.isEmpty = false := hok
      simp only [hok, hempty, Bool.false_eq_true, if_false]
      rfl

/-- The number that the reports state is at most the number of records, zero exactly for a trail
that verifies, and the number of records with an error, exactly where every record links or
carries its digest. -/
theorem broken_count_counts_records (records : List (Record F)) :
    (∃ n, StatesBroken records n ∧ n ≤ records.length ∧
      (n = 0 ↔ (verifyAuditChain records).ok = true) ∧ n = (errorIndices records).length) ↔
    ∀ (before after : List (Record F)) (record : Record F),
      records = before ++ record :: after →
        NotBothWrong (tip nextHash genesisPrev before) record := by
  obtain ⟨-, hcount⟩ := length_errorIndices records
  have hle := length_errorIndices_le records
  rw [← valid_iff_forall, ← hcount]
  constructor
  · rintro ⟨n, hstates, -, -, heq⟩
    rw [← heq, (statesBroken_iff records n).mp hstates]
  · intro heq
    refine ⟨_, (statesBroken_iff records _).mpr rfl, heq ▸ hle, ?_, heq.symm⟩
    rw [List.length_eq_zero_iff]
    exact List.isEmpty_iff.symm

end

/-- One record that links to nothing and whose hash is no digest of it. -/
def brokenTwice : Record Whole := [("prev_hash", .str "x"), ("hash", .str "y")]

theorem broken_count_two_of_one :
    letI := plainHash
    (verifyAuditChain [brokenTwice]).summary = "broken links: 2 of 1" ∧
      ¬ ∃ n, StatesBroken [brokenTwice] n ∧ n ≤ [brokenTwice].length ∧
        (n = 0 ↔ (verifyAuditChain [brokenTwice]).ok = true) ∧
        n = (errorIndices [brokenTwice]).length := by
  let := plainHash
  have hlength : (verifyAuditChain [brokenTwice]).errors.length = 2 := by decide +kernel
  refine ⟨by decide +kernel, ?_⟩
  rintro ⟨n, hstates, hle, -⟩
  rw [(statesBroken_iff _ _).mp hstates, hlength] at hle
  exact absurd hle (by decide)

end NexusC2
