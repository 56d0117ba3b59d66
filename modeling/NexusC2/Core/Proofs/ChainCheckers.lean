import NexusC2.Core.Proofs.ChainTip

/-!
# The chain checkers side by side

`chain_break_index`, `broken_link_count` and `verify_audit_chain` carry the hash of the record
before differently, and so may go apart on a record that is no string under `hash`. They do not
before the first error: a record that carries its digest leaves the same hash in all three.
-/

namespace NexusC2

open HashChain

section

variable {F : Type} [PyFloatOps F]

theorem chainBreakFrom_eq_some {prev : String} {i k : Nat} {records : List (Record F)}
    (h : chainBreakFrom prev i records = some k) :
    ∃ j, k = i + j ∧ FirstMisfit Linked (fun _ r => hashText r) prev records j := by
  induction records generalizing prev i with
  | nil => cases h
  | cons record records ih =>
    rw [chainBreakFrom] at h
    by_cases hlink : isStr (Assoc.get record "prev_hash") prev = true
    · rw [if_pos hlink] at h
      obtain ⟨j, rfl, hj⟩ := ih h
      exact ⟨j + 1, Nat.add_right_comm i 1 j, isStr_iff.mp hlink, hj⟩
    · rw [if_neg hlink] at h
      cases h
      exact ⟨0, rfl, mt isStr_iff.mpr hlink⟩

/-- `chain_break_index` gives the first record that does not link. -/
theorem chainBreakIndex_eq_some {records : List (Record F)} {i : Nat}
    (h : chainBreakIndex records = some i) :
    FirstMisfit Linked (fun _ r => hashText r) genesisPrev records i := by
  obtain ⟨j, rfl, hj⟩ := chainBreakFrom_eq_some h
  rwa [Nat.zero_add]

theorem brokenLinksFrom_eq_zero (prev : String) (records : List (Record F)) :
    brokenLinksFrom prev records = 0 ↔ Valid Linked (fun _ r => hashText r) prev records := by
  induction records generalizing prev with
  | nil => simp [brokenLinksFrom, Valid]
  | cons record records ih =>
    rw [brokenLinksFrom, Nat.add_eq_zero_iff, ih, Valid, Linked, ← isStr_iff]
    split <;> simp_all

variable [Sha256]

/-- What `verify_audit_chain` finds wrong with a record. -/
def flaws (prev : String) (record : Record F) : List String :=
  (if isStr (Assoc.get record "prev_hash") prev then [] else ["broken prev_hash link"]) ++
    if isStr (Assoc.get record "hash") (bodyDigest record) then [] else ["hash mismatch"]

theorem flaws_eq_nil {prev : String} {record : Record F} :
    flaws prev record = [] ↔ Sealed prev record := by
  simp [flaws, Sealed, Linked, isStr_iff]

namespace ChainWalk

theorem walk_append (w : ChainWalk) (i : Nat) (rs qs : List (Record F)) :
    w.walk i (rs ++ qs) = (w.walk i rs).walk (i + rs.length) qs := by
  induction rs generalizing w i with
  | nil => rfl
  | cons record rs ih =>
    rw [List.cons_append, walk, walk, ih, List.length_cons, Nat.add_right_comm, Nat.add_assoc]

/-- A sealed record only moves the hash on. -/
theorem visit_sealed {w : ChainWalk} {record : Record F} (h : Sealed w.prev record) (i : Nat) :
    w.visit i record = { w with prev := nextHash w.prev record } := by
  simp only [visit, isStr_iff.mpr h.1, isStr_iff.mpr h.2, if_true]
  rfl

theorem walk_valid {w : ChainWalk} {records : List (Record F)}
    (h : Valid Sealed nextHash w.prev records) (i : Nat) :
    w.walk i records = { w with prev := tip nextHash w.prev records } := by
  induction records generalizing w i with
  | nil => rfl
  | cons record records ih =>
    rw [walk, visit_sealed h.1, ih h.2]
    rfl

/-- A record that links and has a wrong digest is one error. -/
theorem visit_mismatch {w : ChainWalk} {record : Record F} (hlink : Linked w.prev record)
    (hdigest : Assoc.get record "hash" ≠ some (.str (bodyDigest record))) (i : Nat) :
    w.visit i record = { w.note i "hash mismatch" with prev := nextHash w.prev record } := by
  simp only [visit, isStr_iff.mpr hlink, Bool.eq_false_iff.mpr (mt isStr_iff.mp hdigest), if_true]
  rfl

theorem errors_visit_eq (w : ChainWalk) (i : Nat) (record : Record F) :
    (w.visit i record).errors =
      w.errors ++ (flaws w.prev record).map ("record[" ++ toString i ++ "] " ++ ·) := by
  unfold visit flaws
  dsimp only
  split <;> split <;> simp [note]

theorem prev_walk (w : ChainWalk) (i : Nat) (records : List (Record F)) :
    (w.walk i records).prev = tip nextHash w.prev records := by
  induction records generalizing w i with
  | nil => rfl
  | cons record records ih => exact ih (w.visit i record) (i + 1)

/-- The first error sets the break index. -/
theorem breakIndex_visit (w : ChainWalk) (i : Nat) (record : Record F) :
    (w.visit i record).breakIndex =
      if w.breakIndex = none ∧ flaws w.prev record ≠ [] then some i else w.breakIndex := by
  unfold visit flaws
  dsimp only
  split <;> split <;> grind [note]

theorem breakIndex_walk_some {w : ChainWalk} {k : Nat} (h : w.breakIndex = some k) (i : Nat)
    (records : List (Record F)) : (w.walk i records).breakIndex = some k := by
  induction records generalizing w i with
  | nil => exact h
  | cons record records ih => 
    refine ih ?_ (i + 1)
    rw [breakIndex_visit, h]
    rfl

theorem breakIndex_walk {w : ChainWalk} (hw : w.breakIndex = none) (i : Nat)
    {records : List (Record F)} {j : Nat} (h : FirstMisfit Sealed nextHash w.prev records j) :
    (w.walk i records).breakIndex = some (i + j) := by
  induction records generalizing w i j with
  | nil => exact h.elim
  | cons record records ih =>
    cases j with
    | zero =>
      refine breakIndex_walk_some ?_ (i + 1) records
      rw [breakIndex_visit, if_pos ⟨hw, mt flaws_eq_nil.mp h⟩, Nat.add_zero]
    | succ j =>
      obtain ⟨hsealed, hrest⟩ := h
      have hnone : (w.visit i record).breakIndex = none := by
        rw [breakIndex_visit, flaws_eq_nil.mpr hsealed, if_neg fun hne => hne.2 rfl, hw]
      rw [walk, ih hnone (i + 1) hrest, Nat.add_right_comm, Nat.add_assoc]

end ChainWalk

/-- `break_index` is the first record that does not link or does not carry its digest. -/
theorem verifyAuditChain_of_misfit {records : List (Record F)} {i : Nat}
    (h : FirstMisfit Sealed nextHash genesisPrev records i) :
    (verifyAuditChain records).ok = false ∧ (verifyAuditChain records).breakIndex = some i := by
  constructor
  · exact Bool.eq_false_iff.mpr (mt (verifyAuditChain_ok records).mp h.not_valid)
  · have hwalk := ChainWalk.breakIndex_walk (w := ⟨genesisPrev, [], none, none⟩) rfl 0 h
    rwa [Nat.zero_add] at hwalk

/-- The three checkers on every list of records: the two that check links agree, the full one
passes only where they do, and breaks no later than they do. -/
theorem chain_checkers_agree (records : List (Record F)) :
    (chainBreakIndex records = none ↔ brokenLinkCount records = 0) ∧
    ((verifyAuditChain records).ok = true → chainBreakIndex records = none) ∧
    (∀ i, chainBreakIndex records = some i → (verifyAuditChain records).ok = false ∧
      ∃ j ≤ i, (verifyAuditChain records).breakIndex = some j) ∧
    ∀ (d d' : Disk) (text : List Char), d.live = some text → loadText text = some records →
      quarantineIfBroken F d = some d' → d'.archived ≠ d.archived →
      (verifyAuditChain records).ok = false := by
  have hmisfit : ∀ i, chainBreakIndex records = some i →
      (verifyAuditChain records).ok = false ∧
        ∃ j ≤ i, (verifyAuditChain records).breakIndex = some j := by
    intro i hi
    obtain ⟨j, hle, hj⟩ : ∃ j ≤ i, FirstMisfit Sealed nextHash genesisPrev records j :=
      (chainBreakIndex_eq_some hi).mono (fun _ _ hs => hs.1) fun _ _ hs => hs.hashText_eq
    obtain ⟨hok, hbreak⟩ := verifyAuditChain_of_misfit hj
    exact ⟨hok, j, hle, hbreak⟩
  refine ⟨?_, chainBreakIndex_of_verify, hmisfit, ?_⟩
  · rw [chainBreakIndex_eq_none, brokenLinkCount, brokenLinksFrom_eq_zero]
  · intro d d' text hlive hload hquarantine harchived
    cases hbreak : chainBreakIndex records with
    | some i => exact (hmisfit i hbreak).1
    | none =>
      -- a trail whose links are whole stays where it is
      have hsame : quarantineIfBroken F d = some d := by
        simp [quarantineIfBroken, hlive, hload, hbreak]
      cases hsame.symm.trans hquarantine
      exact absurd rfl harchived

end

/-! ## One record replaced -/

section

variable {F : Type} [PyFloat F] [Sha256]

/-- What was chained after a record is not chained after a different one. -/
theorem Sealed.not_sealed_next (hinj : Function.Injective Sha256.hex) {prev prev' : String}
    {record record' next : Record F} (h : Sealed prev record) (h' : Sealed prev' record')
    (hwf : (Json.obj record).wf = true) (hwf' : (Json.obj record').wf = true)
    (hne : ¬ Json.Same (.obj record') (.obj record)) (hnext : Linked (nextHash prev record) next) :
    ¬ Sealed (nextHash prev' record') next := by
  rintro ⟨hlink, -⟩
  have hhash : nextHash prev' record' = nextHash prev record := by
    simpa using hlink.symm.trans hnext
  rw [h.nextHash_eq, h'.nextHash_eq] at hhash
  exact hne (h'.same h hwf' hwf hinj hhash).2

/-- Taking the hash to be injective: a trail that verifies, with one record replaced by a
different one, breaks at that record or at the next. The exception is the last record replaced by
one that links to the hash before it and carries its own digest, and then the trail verifies. -/
theorem replaced_record_found (hinj : Function.Injective Sha256.hex)
    (records : List (JsonObject F))
    (hverify : (verifyAuditChain (records.map (·.fields))).ok = true) (k : Nat)
    (hk : k < records.length) (record' : JsonObject F)
    (hne : ¬ Json.Same (.obj record'.fields) (.obj records[k].fields)) :
    let before := (records.take k).map (·.fields)
    let result := verifyAuditChain ((records.set k record').map (·.fields))
    let exception := k + 1 = records.length ∧ Sealed (lastHash before) record'.fields
    (¬ exception → result.ok = false ∧
      (result.breakIndex = some k ∨ result.breakIndex = some (k + 1))) ∧
    (exception → result.ok = true) := by
  intro before result exception
  have hvalid := (verifyAuditChain_ok _).mp hverify
  have hsplit : records.map (·.fields) =
      before ++ records[k].fields :: (records.drop (k + 1)).map (·.fields) := by
    rw [← List.map_cons, ← List.map_append, List.getElem_cons_drop, List.take_append_drop]
  have hset : (records.set k record').map (·.fields) =
      before ++ record'.fields :: (records.drop (k + 1)).map (·.fields) := by
    rw [List.set_eq_take_append_cons_drop, if_pos hk, List.map_append, List.map_cons]
  have hlength : before.length = k := by
    rw [List.length_map, List.length_take, Nat.min_eq_left hk.le]
  rw [hsplit, valid_append] at hvalid
  obtain ⟨hbefore, hsealed, hafter⟩ := hvalid
  have hlast : lastHash before = tip nextHash genesisPrev before :=
    lastHash_of_verify ((verifyAuditChain_ok _).mpr hbefore)
  by_cases hsealed' : Sealed (lastHash before) record'.fields
  · rw [hlast] at hsealed'
    cases hrest : (records.drop (k + 1)).map (·.fields) with
    | nil =>
      have hk' : k + 1 = records.length := by
        have := List.drop_eq_nil_iff.mp (List.map_eq_nil_iff.mp hrest)
        omega
      refine ⟨fun hnot => absurd ⟨hk', hlast ▸ hsealed'⟩ hnot, fun _ => ?_⟩
      rw [verifyAuditChain_ok, hset, hrest]
      exact (valid_snoc _ _ _).mpr ⟨hbefore, hsealed'⟩
    | cons next rest =>
      have hk' : k + 1 ≠ records.length := by
        intro h
        rw [List.drop_eq_nil_of_le h.ge] at hrest
        cases hrest
      rw [hrest] at hafter
      have hbroken := hsealed.not_sealed_next hinj hsealed' records[k].wf record'.wf hne hafter.1.1
      refine ⟨fun _ => ?_, fun h => absurd h.1 hk'⟩
      have hmisfit : FirstMisfit Sealed nextHash genesisPrev (before ++ record'.fields :: next ::
          rest) (before.length + 1) := firstMisfit_append hbefore ⟨hsealed', hbroken⟩
      rw [hlength, ← hrest, ← hset] at hmisfit
      obtain ⟨hok, hbreak⟩ := verifyAuditChain_of_misfit hmisfit
      exact ⟨hok, Or.inr hbreak⟩
  · refine ⟨fun _ => ?_, fun h => absurd h.2 hsealed'⟩
    rw [hlast] at hsealed'
    have hmisfit : FirstMisfit Sealed nextHash genesisPrev (before ++ record'.fields ::
        (records.drop (k + 1)).map (·.fields)) (before.length + 0) :=
      firstMisfit_append hbefore hsealed'
    rw [hlength, ← hset] at hmisfit
    obtain ⟨hok, hbreak⟩ := verifyAuditChain_of_misfit hmisfit
    exact ⟨hok, Or.inl hbreak⟩

end

/-- Another decision, sealed by `append` after the first. -/
def secondRecord [Sha256] : JsonObject Whole :=
  ⟨sealRecord (lastHash [decisionRecord.fields]) "gate_decision" "High" "t1" [("coa_id", .str "b")],
    wf_sealRecord _ _ _ _ _ (by decide)⟩

/-- The first decision with another metadata, sealed again. -/
def resealedRecord [Sha256] : JsonObject Whole :=
  ⟨sealRecord genesisPrev "gate_decision" "High" "t0" [("coa_id", .str "c")],
    wf_sealRecord _ _ _ _ _ (by decide)⟩

theorem replaced_record_found_resealed :
    letI := plainHash
    let before := ([decisionRecord, secondRecord].take 0).map (·.fields)
    let result := verifyAuditChain (([decisionRecord, secondRecord].set 0 resealedRecord).map
      (·.fields))
    let exception := 0 + 1 = [decisionRecord, secondRecord].length ∧
      Sealed (lastHash before) resealedRecord.fields
    (¬ exception → result.ok = false ∧
      (result.breakIndex = some 0 ∨ result.breakIndex = some (0 + 1))) ∧
    (exception → result.ok = true) := by
  let := plainHash
  have hempty : (verifyAuditChain ([] : List (Record Whole))).ok = true := rfl
  have hfirst : (verifyAuditChain [decisionRecord.fields]).ok = true :=
    (verify_snoc hempty _ _ _ _ _).mpr rfl
  refine replaced_record_found (fun _ _ h => h) [decisionRecord, secondRecord]
    ((verify_snoc hfirst _ _ _ _ _).mpr rfl) 0 (by decide) resealedRecord fun hsame => ?_
  have hmetadata := (Json.same_obj_iff (Json.wf_obj_iff.mp resealedRecord.wf).1
    (Json.wf_obj_iff.mp decisionRecord.wf).1).mp hsame "metadata"
  exact absurd hmetadata (by simp [resealedRecord, decisionRecord, sealRecord, eventBody,
    Assoc.get, Json.sortKeys, Json.sortFields])

end NexusC2
