import NexusC2.App.Proofs.TamperRestore
import NexusC2.Core.Proofs.ChainCheckers

/-!
# The one-character tamper is caught where it is

`inject_one_char_tamper` picks the status, the verdict or the time, and adds metadata where there
is none. Whatever it picks, one value of the record becomes a different one and neither `hash` nor
`prev_hash` is touched, so the links stay whole and the digest of that record alone is wrong.
-/

namespace NexusC2

open HashChain

/-! ## What is flipped changes -/

namespace Text

theorem flipFirst_ne {s : String} (h : s ≠ "") : flipFirst s ≠ s := by
  unfold flipFirst
  split
  · rename_i hnil
    exact absurd (String.toList_eq_nil_iff.mp hnil) h
  · rename_i c cs hcs
    intro heq
    have htoList := congrArg String.toList heq
    rw [String.toList_ofList, hcs] at htoList
    have hhead := (List.cons.inj htoList).1
    split at hhead
    · rename_i hX
      rw [hX] at hhead
      exact absurd hhead (by decide)
    · rename_i hX
      exact hX hhead.symm

theorem flipDigit_ne {cs ds : List Char} (h : flipDigit cs = some ds) : ds ≠ cs := by
  induction cs generalizing ds with
  | nil => cases h
  | cons c cs ih =>
    rw [flipDigit] at h
    split at h
    · cases h
      intro heq
      have hhead := (List.cons.inj heq).1
      split at hhead
      · rename_i h0
        rw [h0] at hhead
        exact absurd hhead (by decide)
      · rename_i h0
        exact h0 hhead.symm
    · obtain ⟨es, hes, rfl⟩ := Option.map_eq_some_iff.mp h
      exact fun heq => ih hes (List.cons.inj heq).2

end Text

theorem flipTime_ne {ts : String} (h : ts ≠ "") : flipTime ts ≠ ts := by
  unfold flipTime
  split
  · rename_i cs hcs
    intro heq
    exact Text.flipDigit_ne hcs (by rw [← heq, String.toList_ofList])
  · exact Text.flipFirst_ne h

section

variable {F : Type}

/-- A flipped value is a string that was another string. -/
theorem flipApproved_eq_some {metadata metadata' : Fields F} {key : String}
    (h : flipApproved metadata key = some metadata') :
    ∃ old new : String, Assoc.get metadata key = some (.str old) ∧ new ≠ old ∧
      metadata' = Assoc.set metadata key (.str new) := by
  unfold flipApproved at h
  split at h
  · rename_i old hold
    split at h
    · rename_i happroved
      cases h
      exact ⟨old, "XPPROVED", hold, by rw [happroved]; decide, rfl⟩
    · split at h
      · cases h
      · rename_i hne
        cases h
        exact ⟨old, _, hold, Text.flipFirst_ne hne, rfl⟩
  · cases h

/-- The metadata a tamper works on is the record's own, where there is any. -/
theorem get_withMetadata {rec : Record F} {metadata : Fields F}
    (h : Assoc.get (withMetadata rec) "metadata" = some (.obj metadata)) :
    metadata = [] ∧ Assoc.get rec "metadata" = none ∨
      Assoc.get rec "metadata" = some (.obj metadata) := by
  unfold withMetadata at h
  split at h
  · exact Or.inr h
  · rename_i hnone
    rw [Assoc.get_set, if_pos rfl] at h
    cases h
    exact Or.inl ⟨rfl, hnone⟩

theorem wf_withMetadata {rec : Record F} (h : (Json.obj rec).wf = true) :
    (Json.obj (withMetadata rec)).wf = true := by
  unfold withMetadata
  split
  · exact h
  · exact Json.wf_set h _ rfl

variable [PyFloatOps F]

/-- The text of a time is the text of a value that is there. -/
theorem timeText_eq {rec : Record F} (h : timeText rec ≠ "") :
    ∃ v, Assoc.get rec "time" = some v ∧ v.pyStr = timeText rec := by
  unfold timeText at h ⊢
  split at h
  · rename_i v hv
    split at h
    · rename_i htruth
      exact ⟨v, hv, by rw [if_pos htruth]⟩
    · exact absurd rfl h
  · exact absurd rfl h

omit [PyFloatOps F] in
/-- Flipping a value of the metadata makes another record. -/
theorem metadata_flipped {rec : Record F} {metadata metadata' : Fields F} {key : String}
    (hwf : (Json.obj rec).wf = true)
    (hmetadata : Assoc.get (withMetadata rec) "metadata" = some (.obj metadata))
    (hflip : flipApproved metadata key = some metadata') :
    (Json.obj (Assoc.set (withMetadata rec) "metadata" (.obj metadata'))).wf = true ∧
      ¬ Json.Same (.obj (Assoc.set (withMetadata rec) "metadata" (.obj metadata')))
        (.obj rec) := by
  have hwf₀ := wf_withMetadata hwf
  have hwfm := Json.wf_of_get hwf₀ hmetadata
  obtain ⟨old, new, hold, hne, rfl⟩ := flipApproved_eq_some hflip
  have hwfm' := Json.wf_set hwfm key (v := .str new) rfl
  have hwf' := Json.wf_set hwf₀ "metadata" hwfm'
  refine ⟨hwf', ?_⟩
  rcases get_withMetadata hmetadata with ⟨rfl, -⟩ | hrec
  · -- metadata that was not there has no value to flip
    cases hold
  · have hstr : ¬ Json.Same (F := F) (.str new) (.str old) :=
      Json.not_same_str (by simpa using Ne.symm hne)
    have hobj : ¬ Json.Same (.obj (Assoc.set metadata key (.str new))) (.obj metadata) :=
      Json.not_same_of_get hwfm' hwfm (by rw [Assoc.get_set, if_pos rfl]) hold hstr
    exact Json.not_same_of_get hwf' hwf (by rw [Assoc.get_set, if_pos rfl]) hrec hobj

/-- Flipping the time makes another record. -/
theorem time_flipped {rec : Record F} (hwf : (Json.obj rec).wf = true)
    (htime : timeText (withMetadata rec) ≠ "") :
    (Json.obj (Assoc.set (withMetadata rec) "time"
        (.str (flipTime (timeText (withMetadata rec)))))).wf = true ∧
      ¬ Json.Same (.obj (Assoc.set (withMetadata rec) "time"
        (.str (flipTime (timeText (withMetadata rec)))))) (.obj rec) := by
  have hwf' := Json.wf_set (wf_withMetadata hwf) "time"
    (v := .str (flipTime (timeText (withMetadata rec)))) rfl
  refine ⟨hwf', ?_⟩
  obtain ⟨v, hv, htext⟩ := timeText_eq htime
  rw [withMetadata_get rec (by decide)] at hv
  refine Json.not_same_of_get hwf' hwf (by rw [Assoc.get_set, if_pos rfl]) hv
    (Json.not_same_str ?_)
  rintro rfl
  exact flipTime_ne htime htext

/-- A tampered record is another record. -/
theorem tamperRecord_spec {rec rec' : Record F} (hwf : (Json.obj rec).wf = true)
    (h : tamperRecord rec = .ok rec') :
    (Json.obj rec').wf = true ∧ ¬ Json.Same (.obj rec') (.obj rec) := by
  unfold tamperRecord at h
  split at h
  · rename_i metadata hmetadata
    split at h
    · rename_i metadata' hflip
      cases h
      cases hstatus : flipApproved metadata "status" with
      | some _ =>
        rw [hstatus] at hflip
        exact metadata_flipped hwf hmetadata (hstatus.trans hflip)
      | none =>
        rw [hstatus] at hflip
        exact metadata_flipped hwf hmetadata hflip
    · split at h
      · cases h
      · rename_i htime
        cases h
        exact time_flipped hwf htime
  · cases h

end

section

variable {F : Type} [PyFloat F] [Sha256]

/-- A record that links but has the wrong digest, between records that were chained under the
digest it was sealed with: the full check reports it and nothing else, and the links are whole. -/
theorem one_mismatch {before after : List (Record F)} {rec rec' : Record F}
    (h : (verifyAuditChain (before ++ rec :: after)).ok = true)
    (hhash : Assoc.get rec' "hash" = Assoc.get rec "hash")
    (hprev : Assoc.get rec' "prev_hash" = Assoc.get rec "prev_hash")
    (hdigest : bodyDigest rec' ≠ bodyDigest rec) :
    chainBreakIndex (before ++ rec' :: after) = none ∧
      verifyAuditChain (before ++ rec' :: after) =
        { ok := false
          total := (before ++ rec' :: after).length
          breakIndex := some before.length
          reason := some "hash mismatch"
          errors := ["record[" ++ toString before.length ++ "] " ++ "hash mismatch"] } := by
  have hlinks := (chainBreakIndex_eq_none _).mp (chainBreakIndex_of_verify h)
  have hvalid := (verifyAuditChain_ok _).mp h
  obtain ⟨hbefore, hsealed, hafter⟩ := (valid_append _ _ _).mp hvalid
  constructor
  · rw [chainBreakIndex_eq_none]
    obtain ⟨hlinked, hlink, hrest⟩ := (valid_append _ _ _).mp hlinks
    refine (valid_append _ _ _).mpr ⟨hlinked, ?_, ?_⟩
    · rwa [Linked, hprev]
    · have htext : hashText rec' = hashText rec := by
        unfold hashText
        rw [hhash]
      beta_reduce at hrest ⊢
      rwa [htext]
  · have hnext : ∀ prev, nextHash prev rec' = nextHash prev rec := fun prev => by
      unfold nextHash
      rw [hhash]
    have hlink : Linked (tip nextHash genesisPrev before) rec' := by
      rw [Linked, hprev]
      exact hsealed.1
    have hwrong : Assoc.get rec' "hash" ≠ some (.str (bodyDigest rec')) := by
      rw [hhash, hsealed.2]
      intro heq
      exact hdigest (Json.str.inj (Option.some.inj heq)).symm
    let w : ChainWalk := ⟨tip nextHash genesisPrev before, [], none, none⟩
    have hwalk : (ChainWalk.mk genesisPrev [] none none).walk 0 before = w :=
      ChainWalk.walk_valid (w := ⟨genesisPrev, [], none, none⟩) hbefore 0
    have hvisit := ChainWalk.visit_mismatch (w := w) hlink hwrong before.length
    have hrest := ChainWalk.walk_valid (w := w.visit before.length rec')
      (by rw [hvisit, hnext]; exact hafter) (before.length + 1)
    unfold verifyAuditChain
    rw [ChainWalk.walk_append, Nat.zero_add, hwalk, ChainWalk.walk, hrest, hvisit]
    rfl

/-- A tampered record no longer has the digest it was sealed with. -/
theorem tamperRecord_digest (hinj : Function.Injective Sha256.hex) {rec : JsonObject F}
    {rec' : Record F} {prev : String} (hsealed : Sealed prev rec.fields)
    (h : tamperRecord rec.fields = .ok rec') : bodyDigest rec' ≠ bodyDigest rec.fields := by
  obtain ⟨hwf', hne⟩ := tamperRecord_spec rec.wf h
  intro hdigest
  -- with the digest of the record it came from, the tampered one would be sealed as well
  have hsealed' : Sealed prev rec' := by
    unfold Sealed Linked
    rw [tamperRecord_get h (k := "prev_hash") (by decide) (by decide),
      tamperRecord_get h (k := "hash") (by decide) (by decide), hdigest]
    exact hsealed
  exact hne (hsealed'.same hsealed hwf' rec.wf hinj hdigest).2

/-- Taking the hash to be injective: on a trail that verifies, a tamper that returns changes the
record at the index and no other. The links of the result are whole and the full check has one
error, a hash mismatch at the index. -/
theorem inject_one_char_tamper_caught (hinj : Function.Injective Sha256.hex)
    (records : List (JsonObject F))
    (hverify : (verifyAuditChain (records.map (·.fields))).ok = true) (index : Int)
    (tampered : List (Record F))
    (h : injectOneCharTamper (records.map (·.fields)) index = .ok tampered) :
    ∃ i : Nat, index = i ∧
      (∃ rec rec', records[i]? = some rec ∧ tampered[i]? = some rec' ∧
        ¬ Json.Same (.obj rec') (.obj rec.fields)) ∧
      (∀ j, j ≠ i → tampered[j]? = (records.map (·.fields))[j]?) ∧
      chainBreakIndex tampered = none ∧
      verifyAuditChain tampered =
        { ok := false
          total := records.length
          breakIndex := some i
          reason := some "hash mismatch"
          errors := ["record[" ++ toString i ++ "] " ++ "hash mismatch"] } := by
  obtain ⟨i, fields, rec', hindex, hget, htamper, rfl⟩ := injectOneCharTamper_eq_ok h
  obtain ⟨rec, hrec, rfl⟩ : ∃ rec, records[i]? = some rec ∧ rec.fields = fields := by
    rwa [List.getElem?_map, Option.map_eq_some_iff] at hget
  obtain ⟨hlt, heq⟩ := List.getElem?_eq_some_iff.mp hget
  obtain ⟨-, hne⟩ := tamperRecord_spec rec.wf htamper
  have hlength : ((records.map (·.fields)).take i).length = i := by
    rw [List.length_take, Nat.min_eq_left hlt.le]
  have hsplit : records.map (·.fields) =
      (records.map (·.fields)).take i ++ rec.fields :: (records.map (·.fields)).drop (i + 1) := by
    rw [← heq, List.getElem_cons_drop, List.take_append_drop]
  have hset : (records.map (·.fields)).set i rec' =
      (records.map (·.fields)).take i ++ rec' :: (records.map (·.fields)).drop (i + 1) := by
    rw [List.set_eq_take_append_cons_drop, if_pos hlt]
  have hhash := tamperRecord_get htamper (k := "hash") (by decide) (by decide)
  have hprev := tamperRecord_get htamper (k := "prev_hash") (by decide) (by decide)
  have hdigest : bodyDigest rec' ≠ bodyDigest rec.fields := by
    have hvalid := (verifyAuditChain_ok _).mp hverify
    rw [hsplit, valid_append] at hvalid
    exact tamperRecord_digest hinj hvalid.2.1 htamper
  rw [hsplit] at hverify
  obtain ⟨hlinks, hresult⟩ := one_mismatch hverify hhash hprev hdigest
  rw [← hset] at hlinks hresult
  refine ⟨i, hindex, ⟨rec, rec', hrec, ?_, hne⟩, fun j hj => ?_, hlinks, ?_⟩
  · rw [List.getElem?_set_self hlt]
  · rw [List.getElem?_set_ne hj.symm]
  · rw [hresult, hlength, List.length_set, List.length_map]

end

/-- The decision has neither status nor verdict: its time is tampered with. -/
theorem inject_one_char_tamper_caught_time :
    letI := plainHash
    ∃ i : Nat, (0 : Int) = i ∧
      (∃ rec rec', [decisionRecord][i]? = some rec ∧
        [Assoc.set decisionRecord.fields "time" (.str "t1")][i]? = some rec' ∧
        ¬ Json.Same (.obj rec') (.obj rec.fields)) ∧
      (∀ j, j ≠ i → [Assoc.set decisionRecord.fields "time" (.str "t1")][j]? =
        ([decisionRecord].map (·.fields))[j]?) ∧
      chainBreakIndex [Assoc.set decisionRecord.fields "time" (.str "t1")] = none ∧
      verifyAuditChain [Assoc.set decisionRecord.fields "time" (.str "t1")] =
        { ok := false
          total := [decisionRecord].length
          breakIndex := some i
          reason := some "hash mismatch"
          errors := ["record[" ++ toString i ++ "] " ++ "hash mismatch"] } := by
  let := plainHash
  have hempty : (verifyAuditChain ([] : List (Record Whole))).ok = true := rfl
  have htamper : tamperRecord decisionRecord.fields =
      .ok (Assoc.set decisionRecord.fields "time" (.str (flipTime "t0"))) := rfl
  have hflip : flipTime "t0" = "t1" := by decide +kernel
  have hreturns : injectOneCharTamper [decisionRecord.fields] 0 =
      (do let rec' ← tamperRecord decisionRecord.fields; .ok [rec']) := rfl
  rw [htamper, hflip] at hreturns
  exact inject_one_char_tamper_caught (fun _ _ h => h) [decisionRecord]
    ((verify_snoc hempty _ _ _ _ _).mpr rfl) 0 _ hreturns

end NexusC2
