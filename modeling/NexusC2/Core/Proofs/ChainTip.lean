import NexusC2.Core.Proofs.AppendOnly
import NexusC2.Misc.JsonCanonical

/-!
# The chain tip commits to the trail

With a hash that has no collisions, the hash stored in the last record of a trail that verifies
determines every record of it. The hash gives the body of the last record, up to the order of
fields, because canonical JSON tells bodies apart; the body gives the hash before it.
-/

namespace NexusC2

open HashChain

section

variable {F : Type}

/-- The hash stored in the last record. -/
def storedTip (records : List (Record F)) : Option (Json F) :=
  records.getLast?.bind fun record => Assoc.get record "hash"

theorem wf_recordBody {record : Record F} (h : (Json.obj record).wf = true) :
    (Json.obj (recordBody record)).wf = true := by
  obtain ⟨hkeys, hfields⟩ := Json.wf_obj_iff.mp h
  refine Json.wf_obj_iff.mpr ⟨Assoc.nodup_erase hkeys "hash", Json.wfFields_iff.mpr ?_⟩
  intro p hp
  exact Json.wfFields_iff.mp hfields p (List.mem_of_mem_filter hp)

variable [PyFloat F] [Sha256]

/-- Two sealed records with one digest are the same and link to the same hash. -/
theorem Sealed.same {prev prev' : String} {record record' : Record F} (h : Sealed prev record)
    (h' : Sealed prev' record') (hwf : (Json.obj record).wf = true)
    (hwf' : (Json.obj record').wf = true) (hinj : Function.Injective Sha256.hex)
    (hdigest : bodyDigest record = bodyDigest record') :
    prev = prev' ∧ Json.Same (.obj record) (.obj record') := by
  have hkeys := (Json.wf_obj_iff.mp hwf).1
  have hkeys' := (Json.wf_obj_iff.mp hwf').1
  have hbody := Json.canonical_inj (wf_recordBody hwf) (wf_recordBody hwf') (hinj hdigest)
  have hlookup := (Json.same_obj_iff (Assoc.nodup_erase hkeys "hash")
    (Assoc.nodup_erase hkeys' "hash")).mp hbody
  have hget : ∀ k, "hash" ≠ k →
      (Assoc.get record k).map Json.sortKeys = (Assoc.get record' k).map Json.sortKeys := by
    intro k hk
    have := hlookup k
    rwa [Assoc.get_erase, Assoc.get_erase, if_neg hk, if_neg hk] at this
  constructor
  · have hprev := hget "prev_hash" (by decide)
    rw [h.1, h'.1] at hprev
    simpa [Json.sortKeys] using hprev
  · refine (Json.same_obj_iff hkeys hkeys').mpr fun k => ?_
    by_cases hk : "hash" = k
    · subst hk
      rw [h.2, h'.2, hdigest]
    · exact hget k hk

/-- The hash stored in the last record is the tip of the chain. -/
theorem storedTip_eq {records : List (Record F)} {g : String} (h : Valid Sealed nextHash g records)
    (hne : records ≠ []) : storedTip records = some (.str (tip nextHash g records)) := by
  obtain ⟨init, last, rfl⟩ := List.eq_nil_or_concat records |>.resolve_left hne
  rw [List.concat_eq_append] at h ⊢
  obtain ⟨_, hlast⟩ := (valid_snoc _ _ _).mp h
  rw [tip_append, tip_cons, tip_nil, hlast.nextHash_eq]
  simp [storedTip, hlast.2]

/-- Taking the hash to be injective, two trails of one length that verify and store the same
hash in their last records are the same record by record. -/
theorem chain_tip_commits (hinj : Function.Injective Sha256.hex)
    (records records' : List (JsonObject F))
    (hverify : (verifyAuditChain (records.map (·.fields))).ok = true)
    (hverify' : (verifyAuditChain (records'.map (·.fields))).ok = true)
    (hlength : records.length = records'.length)
    (htip : storedTip (records.map (·.fields)) = storedTip (records'.map (·.fields))) :
    List.Forall₂ (fun r r' => Json.Same (.obj r.fields) (.obj r'.fields)) records records' := by
  have hvalid := (verifyAuditChain_ok _).mp hverify
  have hvalid' := (verifyAuditChain_ok _).mp hverify'
  have hwf : ∀ (rs : List (JsonObject F)), ∀ r ∈ rs.map (·.fields), (Json.obj r).wf = true := by
    intro rs r hr
    obtain ⟨o, _, rfl⟩ := List.mem_map.mp hr
    exact o.wf
  have hlen : (records.map (·.fields)).length = (records'.map (·.fields)).length := by
    rw [List.length_map, List.length_map, hlength]
  have htips : tip nextHash genesisPrev (records.map (·.fields)) =
      tip nextHash genesisPrev (records'.map (·.fields)) := by
    by_cases hnil : records = []
    · obtain rfl : records' = [] := List.eq_nil_of_length_eq_zero (by rw [← hlength, hnil]; rfl)
      rw [hnil]
    · have hnil' : records' ≠ [] := by
        rintro rfl
        exact hnil (List.eq_nil_of_length_eq_zero hlength)
      rw [storedTip_eq hvalid (by simpa using hnil), storedTip_eq hvalid' (by simpa using hnil')]
        at htip
      simpa using htip
  have hsame : List.Forall₂ (fun r r' => Json.Same (.obj r) (.obj r')) (records.map (·.fields))
      (records'.map (·.fields)) := by
    refine hvalid.forall₂_of_tip hvalid' hlen htips ?_
    intro l l' r r' hr hr' hs hs' hnext
    rw [hs.nextHash_eq, hs'.nextHash_eq] at hnext
    exact hs.same hs' (hwf _ r hr) (hwf _ r' hr') hinj hnext
  rw [List.forall₂_map_left_iff, List.forall₂_map_right_iff] at hsame
  exact hsame

end

/-- A decision, sealed by `append` on an empty trail. -/
def decisionRecord [Sha256] : JsonObject Whole :=
  ⟨sealRecord genesisPrev "gate_decision" "High" "t0" [("coa_id", .str "a")],
    wf_sealRecord _ _ _ _ _ (by decide)⟩

/-- The same record with its fields the other way round. -/
def reversedRecord [Sha256] : JsonObject Whole :=
  ⟨decisionRecord.fields.reverse, by
    rw [Json.wf_obj_iff]
    constructor
    · change ["hash", "prev_hash", "metadata", "time", "severity", "activity_name",
        "class_name"].Nodup
      decide
    · rfl⟩

theorem chain_tip_commits_reversed :
    letI := plainHash
    List.Forall₂ (fun r r' => Json.Same (.obj r.fields) (.obj r'.fields)) [decisionRecord]
      [reversedRecord] := by
  let := plainHash
  have hempty : (verifyAuditChain ([] : List (Record Whole))).ok = true := rfl
  have hsealed : (verifyAuditChain [decisionRecord.fields]).ok = true :=
    (verify_snoc hempty _ _ _ _ _).mpr rfl
  exact chain_tip_commits (fun _ _ h => h) [decisionRecord] [reversedRecord] hsealed
    (by decide +kernel) rfl rfl

end NexusC2
