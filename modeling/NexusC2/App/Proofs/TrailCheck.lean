import NexusC2.App.PictureToTasking
import NexusC2.App.Proofs.FinalAcks
import NexusC2.App.Proofs.TamperCaught

/-!
# What the client's check of the trail says

The check compares `prev_hash` and `hash` of neighbours and computes no digest. Over a trail whose
hashes are strings the walk from genesis decides only the text of the answer: its verdict is that of
the segment. A tampered record keeps both hashes and its id, so the check cannot see it.
-/

namespace NexusC2

open HashChain

section

variable {F : Type}

/-- Every record has a hash that is a string. -/
def Hashed (records : List (Record F)) : Prop :=
  ∀ r ∈ records, ∃ hash, Assoc.get r "hash" = some (.str hash)

theorem coaIdInRecord_of_acknowledges [PyFloatOps F] {coaId : String} {r : Record F}
    (h : acknowledges coaId r = true) :
    coaIdInRecord r coaId = true ∧
      isStr (Assoc.get r "activity_name") "recipient_ack" = true := by
  unfold acknowledges at h
  rw [Option.any_eq_true] at h
  obtain ⟨data, hdata, hid⟩ := h
  unfold eventData at hdata
  split at hdata
  · rename_i hname
    refine ⟨?_, hname⟩
    obtain ⟨metadata, hmetadata, hobj⟩ := Option.bind_eq_some_iff.mp hdata
    obtain ⟨v, hv, hstr⟩ := Option.bind_eq_some_iff.mp (of_decide_eq_true hid)
    obtain rfl : metadata = .obj data := by
      cases metadata <;> cases hobj
      rfl
    obtain rfl : v = .str coaId := by
      cases v <;> cases hstr
      rfl
    have hnonempty : data.isEmpty = false := by
      cases data with
      | nil => cases hv
      | cons => rfl
    simp [coaIdInRecord, getOrNone, hmetadata, Json.orElse, Json.truth, hnonempty, hv, isStr]
  · cases hdata

/-- `rec.get("hash") or ""` of a hash that is a string. -/
theorem hash_orElse [PyFloatOps F] {r : Record F} {hash : String} (h : Assoc.get r "hash" = some (.str hash)) :
    (getOrNone r "hash").orElse (.str "") = .str hash := by
  rw [getOrNone, h]
  unfold Json.orElse Json.truth
  by_cases hempty : hash = "" <;> simp [hempty]

variable [PyMixedEq F]

/-- A trail whose links are whole is one to the client, where its hashes are strings. -/
theorem linkedFrom_of_valid {prev : String} {records : List (Record F)}
    (h : Valid Linked (fun _ r => hashText r) prev records) (hhash : Hashed records) :
    linkedFrom (.str prev) records = true := by
  induction records generalizing prev with
  | nil => rfl
  | cons r records ih =>
    obtain ⟨hlink, hrest⟩ := h
    obtain ⟨hash, hget⟩ := hhash r List.mem_cons_self
    have hnext : (getOrNone r "hash").orElse (.str "") = .str (hashText r) := by
      rw [hash_orElse hget, hashText_of_str hget]
    rw [linkedFrom, hnext, getOrNone, show Assoc.get r "prev_hash" = _ from hlink,
      Option.getD_some, Json.pyEq_str, decide_eq_true rfl, Bool.true_and]
    exact ih hrest fun r hr => hhash r (List.mem_cons_of_mem _ hr)

/-- Where the walk from genesis finds the links whole, each record links to the one before it. -/
theorem link_of_linkedFrom {prev : Json F} {records : List (Record F)}
    (h : linkedFrom prev records = true) (hhash : Hashed records) {i : Nat}
    (hi : i < records.length) :
    (getOrNone (records.getD i []) "prev_hash").pyEq
      (if i = 0 then prev else getOrNone (records.getD (i - 1) []) "hash") = true := by
  induction records generalizing prev i with
  | nil => exact absurd hi (Nat.not_lt_zero _)
  | cons r records ih =>
    rw [linkedFrom, Bool.and_eq_true] at h
    cases i with
    | zero => exact h.1
    | succ i =>
      have hstep := ih h.2 (fun r hr => hhash r (List.mem_cons_of_mem _ hr))
        (Nat.lt_of_succ_lt_succ hi)
      obtain ⟨hash, hget⟩ := hhash r List.mem_cons_self
      have hself : (getOrNone r "hash").orElse (.str "") = getOrNone r "hash" := by
        rw [hash_orElse hget, getOrNone, hget, Option.getD_some]
      rw [hself] at hstep
      cases i with
      | zero => exact hstep
      | succ i => exact hstep

/-! ## The verdict -/

/-- Where the records of an id are. -/
def relatedAt (records : List (Record F)) (coaId : String) : List Nat :=
  (List.range records.length).filter fun i => coaIdInRecord (records.getD i []) coaId

theorem mem_relatedAt {records : List (Record F)} {coaId : String} {i : Nat} :
    i ∈ relatedAt records coaId ↔
      i < records.length ∧ coaIdInRecord (records.getD i []) coaId = true := by
  rw [relatedAt, List.mem_filter, List.mem_range]

theorem relatedAt_between {records : List (Record F)} {coaId : String} {i : Nat}
    (hi : i ∈ relatedAt records coaId) :
    (relatedAt records coaId).headD 0 ≤ i ∧ i ≤ (relatedAt records coaId).getLastD 0 := by
  have hsorted : (relatedAt records coaId).Pairwise (· ≤ ·) :=
    (List.pairwise_lt_range.imp Nat.le_of_lt).filter _
  have hne := List.ne_nil_of_mem hi
  rw [List.headD_eq_head?_getD, List.head?_eq_some_head hne, List.getLastD_eq_getLast?,
    List.getLast?_eq_some_getLast hne]
  exact ⟨hsorted.rel_head hi, hsorted.rel_getLast hi⟩

theorem relatedAt_ends {records : List (Record F)} {coaId : String}
    (h : relatedAt records coaId ≠ []) :
    (relatedAt records coaId).headD 0 ∈ relatedAt records coaId ∧
      (relatedAt records coaId).getLastD 0 ∈ relatedAt records coaId := by
  rw [List.headD_eq_head?_getD, List.head?_eq_some_head h, List.getLastD_eq_getLast?,
    List.getLast?_eq_some_getLast h]
  exact ⟨List.head_mem h, List.getLast_mem h⟩

/-- There is an acknowledgement among the records of an id. -/
def AcksId (records : List (Record F)) (coaId : String) : Prop :=
  ∃ r ∈ records, coaIdInRecord r coaId = true ∧
    isStr (Assoc.get r "activity_name") "recipient_ack" = true

theorem ackHits_pos {records : List (Record F)} {coaId : String} :
    0 < (relatedAt records coaId).countP (fun i =>
        isStr (Assoc.get (records.getD i []) "activity_name") "recipient_ack") ↔
      AcksId records coaId := by
  rw [List.countP_pos_iff]
  constructor
  · rintro ⟨i, hi, hname⟩
    obtain ⟨hlt, hrelated⟩ := mem_relatedAt.mp hi
    have hat : records.getD i [] = records[i] := by simp [hlt]
    rw [hat] at hrelated hname
    exact ⟨_, List.getElem_mem hlt, hrelated, hname⟩
  · rintro ⟨r, hr, hrelated, hname⟩
    obtain ⟨i, hi, rfl⟩ := List.mem_iff_getElem.mp hr
    have hat : records.getD i [] = records[i] := by simp [hi]
    exact ⟨i, mem_relatedAt.mpr ⟨hi, by rwa [hat]⟩, by rwa [hat]⟩

/-- From the first record of an id to its last each links to the one before it. -/
def SegmentLinked (records : List (Record F)) (coaId : String) : Prop :=
  ∀ i ∈ relatedAt records coaId, ∀ l ∈ relatedAt records coaId, ∀ j, i ≤ j → j ≤ l →
    linkedAt records j = true

theorem segmentLinked_iff {records : List (Record F)} {coaId : String}
    (h : relatedAt records coaId ≠ []) :
    SegmentLinked records coaId ↔ (List.range' ((relatedAt records coaId).headD 0)
      ((relatedAt records coaId).getLastD 0 + 1 - (relatedAt records coaId).headD 0)).find?
        (fun i => !linkedAt records i) = none := by
  obtain ⟨hhead, hlast⟩ := relatedAt_ends h
  have hle := (relatedAt_between hhead).2
  simp only [List.find?_eq_none, List.mem_range'_1, Bool.not_eq_true', Bool.not_eq_false]
  constructor
  · intro hlinked j hj
    exact hlinked _ hhead _ hlast j hj.1 (by omega)
  · intro hlinked i hi l hl j hij hjl
    have hfirst := (relatedAt_between hi).1
    have hend := (relatedAt_between hl).2
    exact hlinked j (by omega)

theorem verifyAckInTrail_verdict (records : List (Record F)) (coaId : String) :
    (verifyAckInTrail records coaId).1 = true ↔ AcksId records coaId ∧
      (linkedFrom (.str genesisPrev) records = true ∨ SegmentLinked records coaId) := by
  unfold verifyAckInTrail
  by_cases hempty : records.isEmpty = true
  · rw [if_pos hempty]
    refine ⟨nofun, ?_⟩
    rintro ⟨⟨r, hr, -⟩, -⟩
    rw [List.isEmpty_iff.mp hempty] at hr
    cases hr
  rw [if_neg hempty]
  dsimp only
  rw [show (List.range records.length).filter (fun i => coaIdInRecord (records.getD i []) coaId) =
    relatedAt records coaId from rfl]
  by_cases hhits : (relatedAt records coaId).countP (fun i =>
      isStr (Assoc.get (records.getD i []) "activity_name") "recipient_ack") < 1
  · rw [if_pos hhits]
    refine ⟨nofun, fun h => ?_⟩
    exact absurd (ackHits_pos.mpr h.1) (by omega)
  rw [if_neg hhits]
  have hacks : AcksId records coaId := ackHits_pos.mp (by omega)
  by_cases hfull : linkedFrom (.str genesisPrev) records = true
  · rw [if_pos hfull]
    exact ⟨fun _ => ⟨hacks, Or.inl hfull⟩, fun _ => rfl⟩
  rw [if_neg hfull]
  have hrelated : relatedAt records coaId ≠ [] := by
    rintro hnil
    rw [hnil] at hhits
    exact hhits Nat.one_pos
  cases hfind : (List.range' ((relatedAt records coaId).headD 0)
      ((relatedAt records coaId).getLastD 0 + 1 - (relatedAt records coaId).headD 0)).find?
        (fun i => !linkedAt records i) with
  | none =>
    exact ⟨fun _ => ⟨hacks, Or.inr ((segmentLinked_iff hrelated).mpr hfind)⟩, fun _ => rfl⟩
  | some i =>
    refine ⟨nofun, fun h => ?_⟩
    rw [(segmentLinked_iff hrelated).mp (h.2.resolve_left hfull)] at hfind
    cases hfind

/-- The verdict on a trail whose hashes are strings: there is an acknowledgement and the segment of
the id is linked. That the whole trail is decides only the text. -/
theorem verifyAckInTrail_iff (records : List (Record F)) (hhash : Hashed records) (coaId : String) :
    (verifyAckInTrail records coaId).1 = true ↔
      AcksId records coaId ∧ SegmentLinked records coaId := by
  rw [verifyAckInTrail_verdict]
  refine and_congr_right fun _ => ⟨fun h => h.elim (fun hfull => ?_) id, Or.inr⟩
  intro i _ l hl j _ hj
  exact link_of_linkedFrom hfull hhash (lt_of_le_of_lt hj (mem_relatedAt.mp hl).1)

/-- A trail that lost its first record: what is left is about two ids. -/
def truncatedTrail [Sha256] : List (Record Whole) :=
  let lost : Record Whole := sealRecord genesisPrev "coa_proposed" "Medium" "t0" []
  let other := sealRecord (hashText lost) "gate_decision" "High" "t1" [("coa_id", .str "b")]
  [other, sealRecord (hashText other) "recipient_ack" "High" "t2" [("coa_id", .str "a")]]

/-- The client accepts it for the second id, though its links are broken. -/
theorem verifyAckInTrail_iff_truncated :
    letI := plainHash
    linkedFrom (.str genesisPrev) truncatedTrail = false ∧
      AcksId truncatedTrail "a" ∧ SegmentLinked truncatedTrail "a" := by
  let := plainHash
  have hhash : Hashed truncatedTrail := by
    intro r hr
    rcases List.mem_pair.mp hr with rfl | rfl <;> exact ⟨_, get_hash_sealRecord _ _ _ _ _⟩
  exact ⟨by decide +kernel, (verifyAckInTrail_iff truncatedTrail hhash "a").mp (by decide +kernel)⟩

/-! ## A tampered trail -/

/-- Two records in which the check reads the same. -/
def ReadsSame (coaId : String) (r r' : Record F) : Prop :=
  coaIdInRecord r coaId = coaIdInRecord r' coaId ∧
    ∀ k ∈ ["activity_name", "hash", "prev_hash"], Assoc.get r k = Assoc.get r' k

theorem linkedFrom_congr {coaId : String} {records records' : List (Record F)}
    (hlength : records.length = records'.length)
    (hsame : ∀ i, ReadsSame coaId (records.getD i []) (records'.getD i [])) (prev : Json F) :
    linkedFrom prev records = linkedFrom prev records' := by
  induction records generalizing records' prev with
  | nil => rw [List.length_eq_zero_iff.mp hlength.symm]
  | cons r records ih =>
    cases records' with
    | nil => cases hlength
    | cons r' records' =>
      have hread : ReadsSame coaId r r' := hsame 0
      rw [linkedFrom, linkedFrom, getOrNone, getOrNone, getOrNone, getOrNone,
        hread.2 "prev_hash" (by simp), hread.2 "hash" (by simp),
        ih (Nat.succ.inj hlength) fun i => hsame (i + 1)]

/-- The check says the same of two trails in which it reads the same. -/
theorem verifyAckInTrail_congr {coaId : String} {records records' : List (Record F)}
    (hlength : records.length = records'.length)
    (hsame : ∀ i, ReadsSame coaId (records.getD i []) (records'.getD i [])) :
    verifyAckInTrail records coaId = verifyAckInTrail records' coaId := by
  have hempty : records.isEmpty = records'.isEmpty := by
    rw [Bool.eq_iff_iff, List.isEmpty_iff_length_eq_zero, List.isEmpty_iff_length_eq_zero, hlength]
  have hlinked : linkedAt records = linkedAt records' := by
    funext i
    unfold linkedAt getOrNone
    rw [(hsame i).2 "prev_hash" (by simp), (hsame (i - 1)).2 "hash" (by simp)]
  unfold verifyAckInTrail
  simp only [hempty, hlength, hlinked, linkedFrom_congr hlength hsame, (hsame _).1,
    (hsame _).2 "activity_name" List.mem_cons_self]

omit [PyMixedEq F] in
theorem flipApproved_get {metadata metadata' : Fields F} {key k : String}
    (h : flipApproved metadata key = some metadata') (hk : key ≠ k) :
    Assoc.get metadata' k = Assoc.get metadata k := by
  obtain ⟨old, new, -, -, rfl⟩ := flipApproved_eq_some h
  rw [Assoc.get_set, if_neg hk]

/-- Of the metadata the check reads three fields. -/
theorem coaIdInRecord_congr {r r' : Record F} {metadata metadata' : Fields F} {coaId : String}
    (hr : (getOrNone r "metadata").orElse (.obj []) = .obj metadata)
    (hr' : (getOrNone r' "metadata").orElse (.obj []) = .obj metadata')
    (hget : ∀ k ∈ ["coa_id", "coa", "token"], Assoc.get metadata k = Assoc.get metadata' k) :
    coaIdInRecord r coaId = coaIdInRecord r' coaId := by
  unfold coaIdInRecord dictCoaId
  rw [hr, hr']
  dsimp only
  rw [hget "coa_id" (by simp), hget "coa" (by simp), hget "token" (by simp)]

/-- The metadata that is there is the one the check reads. -/
theorem metadata_orElse {r : Record F} {metadata : Fields F}
    (h : Assoc.get r "metadata" = some (.obj metadata)) :
    (getOrNone r "metadata").orElse (.obj []) = .obj metadata := by
  rw [getOrNone, h]
  cases metadata <;> rfl

theorem metadata_of_withMetadata {r : Record F} {metadata : Fields F}
    (h : Assoc.get (withMetadata r) "metadata" = some (.obj metadata)) :
    (getOrNone r "metadata").orElse (.obj []) = .obj metadata := by
  rcases get_withMetadata h with ⟨rfl, hnone⟩ | hsome
  · rw [getOrNone, hnone]
    rfl
  · exact metadata_orElse hsome

/-- A tampered record is about the same id. -/
theorem coaIdInRecord_tamperRecord {rec rec' : Record F} (h : tamperRecord rec = .ok rec')
    (coaId : String) : coaIdInRecord rec' coaId = coaIdInRecord rec coaId := by
  unfold tamperRecord at h
  split at h
  · rename_i metadata hmetadata
    split at h
    · rename_i metadata' hflip
      cases h
      refine coaIdInRecord_congr (metadata_orElse (by rw [Assoc.get_set, if_pos rfl]))
        (metadata_of_withMetadata hmetadata) fun k hk => ?_
      obtain ⟨key, hkey, hflip⟩ : ∃ key ∈ ["status", "verdict"],
          flipApproved metadata key = some metadata' := by
        cases hstatus : flipApproved metadata "status" with
        | some m =>
          rw [hstatus] at hflip
          exact ⟨"status", by simp, hstatus.trans hflip⟩
        | none =>
          rw [hstatus] at hflip
          exact ⟨"verdict", by simp, hflip⟩
      refine flipApproved_get hflip ?_
      simp only [List.mem_cons, List.not_mem_nil, or_false] at hk hkey
      rcases hkey with rfl | rfl <;> rcases hk with rfl | rfl | rfl <;> decide
    · split at h
      · cases h
      · cases h
        refine coaIdInRecord_congr (metadata_orElse ?_)
          (metadata_of_withMetadata hmetadata) fun _ _ => rfl
        rw [Assoc.get_set, if_neg (by decide)]
        exact hmetadata
  · cases h

/-- In a tampered record the check reads the same. -/
theorem readsSame_tamperRecord {rec rec' : Record F} (h : tamperRecord rec = .ok rec')
    (coaId : String) : ReadsSame coaId rec' rec := by
  refine ⟨coaIdInRecord_tamperRecord h coaId, fun k hk => tamperRecord_get h ?_ ?_⟩
  all_goals
    rintro rfl
    simp at hk

/-- Tampering with a record leaves the answer to the client as it was, whatever the trail. -/
theorem verifyAckInTrail_tampered (records : List (Record F)) (index : Int)
    (tampered : List (Record F)) (h : injectOneCharTamper records index = .ok tampered)
    (coaId : String) : verifyAckInTrail tampered coaId = verifyAckInTrail records coaId := by
  obtain ⟨i, rec, rec', -, hrec, htamper, rfl⟩ := injectOneCharTamper_eq_ok h
  obtain ⟨hi, hat⟩ := List.getElem?_eq_some_iff.mp hrec
  refine verifyAckInTrail_congr List.length_set fun j => ?_
  by_cases hj : i = j
  · subst hj
    rw [List.getD_eq_getElem?_getD, List.getElem?_set_self hi, List.getD_eq_getElem?_getD, hrec]
    exact readsSame_tamperRecord htamper coaId
  · rw [List.getD_eq_getElem?_getD, List.getElem?_set_ne hj, List.getD_eq_getElem?_getD]
    exact ⟨rfl, fun _ _ => rfl⟩

/-- However often a trail is tampered with, the client is told the same of every COA. -/
theorem verifyAckInTrail_tamperings (records tampered : List (Record F)) (indices : List Int)
    (h : indices.foldlM injectOneCharTamper records = .ok tampered) (coaId : String) :
    verifyAckInTrail tampered coaId = verifyAckInTrail records coaId := by
  induction indices generalizing records with
  | nil =>
    cases h
    rfl
  | cons index indices ih =>
    rw [List.foldlM_cons] at h
    obtain ⟨once, honce, hrest⟩ := except_bind_eq_ok.mp h
    rw [ih once hrest]
    exact verifyAckInTrail_tampered records index once honce coaId

end

/-- A decision whose time was flipped and, as it says "t1" then, flipped again. -/
theorem verifyAckInTrail_tamperings_time :
    letI := plainHash
    verifyAckInTrail [Assoc.set (Assoc.set decisionRecord.fields "time" (.str "t1"))
        "time" (.str "t0")] "a" = verifyAckInTrail [decisionRecord.fields] "a" := by
  let := plainHash
  have hone : ∀ r : Record Whole, injectOneCharTamper [r] 0 =
      (do let rec' ← tamperRecord r; .ok [rec']) := fun _ => rfl
  have hfirst : tamperRecord decisionRecord.fields =
      .ok (Assoc.set decisionRecord.fields "time" (.str (flipTime "t0"))) := rfl
  have hsecond : tamperRecord (Assoc.set decisionRecord.fields "time" (.str "t1")) =
      .ok (Assoc.set (Assoc.set decisionRecord.fields "time" (.str "t1"))
        "time" (.str (flipTime "t1"))) := rfl
  have hflips : flipTime "t0" = "t1" ∧ flipTime "t1" = "t0" := by decide +kernel
  have hreturns : [0, 0].foldlM injectOneCharTamper [decisionRecord.fields] =
      .ok [Assoc.set (Assoc.set decisionRecord.fields "time" (.str "t1"))
        "time" (.str "t0")] := by
    rw [List.foldlM_cons, hone, hfirst, hflips.1]
    change [0].foldlM injectOneCharTamper [Assoc.set decisionRecord.fields "time" (.str "t1")] = _
    rw [List.foldlM_cons, hone, hsecond, hflips.2]
    rfl
  exact verifyAckInTrail_tamperings _ _ [0, 0] hreturns "a"

end NexusC2
