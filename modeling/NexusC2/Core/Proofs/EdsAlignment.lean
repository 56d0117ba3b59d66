import NexusC2.Core.AuditEds
import NexusC2.Core.Proofs.AuditChain
import NexusC2.Misc.Run

/-!
# The sidecar and the trail

The sidecar is aligned with the trail when the two have one record for each other, the one in the
sidecar a seal of the other without its hash, numbered by its place. The trail never waits for
the sidecar: a call of the bridge that fails costs the sidecar a record, and so does what is
done to the trail while EDS is off.
-/

namespace NexusC2

variable {F : Type} [PyFloatOps F]

/-- The record of the sidecar seals a payload under a number. -/
def Seals (bridge : EdsBridge) (i : Nat) (payload : String) (e : EdsAuditRecord) : Prop :=
  ∃ req : SignRequest, req.sequence = i ∧ req.payload = payload ∧ e = bridge.signRecord req

/-- The sidecar has a seal of each record of the trail, in order. -/
def Aligned (bridge : EdsBridge) (sidecar : List EdsAuditRecord) (records : List (Record F)) :
    Prop :=
  sidecar.length = records.length ∧ ∀ i e rec, sidecar[i]? = some e → records[i]? = some rec →
    e.sequence = i + 1 ∧ Seals bridge (i + 1) (sealedPayload rec) e

namespace Aligned

variable {bridge : EdsBridge} {sidecar : List EdsAuditRecord} {records : List (Record F)}

theorem nil : Aligned bridge [] ([] : List (Record F)) :=
  ⟨rfl, fun i e rec h => (by cases h)⟩

theorem snoc (h : Aligned bridge sidecar records) {rec : Record F} {e : EdsAuditRecord}
    (hseal : Seals bridge (sidecar.length + 1) (sealedPayload rec) e) :
    Aligned bridge (sidecar ++ [e]) (records ++ [rec]) := by
  obtain ⟨hlength, hseals⟩ := h
  refine ⟨by simp [hlength], fun i e' rec' he hrec => ?_⟩
  by_cases hi : i < sidecar.length
  · rw [List.getElem?_append_left hi] at he
    rw [List.getElem?_append_left (hlength ▸ hi)] at hrec
    exact hseals i e' rec' he hrec
  · rw [List.getElem?_append_right (Nat.le_of_not_lt hi)] at he
    rw [List.getElem?_append_right (hlength ▸ Nat.le_of_not_lt hi), ← hlength] at hrec
    obtain ⟨hlt, heq⟩ := List.getElem?_eq_some_iff.mp he
    have hzero : i - sidecar.length = 0 := by simpa using hlt
    obtain rfl : i = sidecar.length := by omega
    rw [Nat.sub_self] at he hrec
    cases he
    cases hrec
    obtain ⟨req, hsequence, -, rfl⟩ := id hseal
    exact ⟨(bridge.sequence_signRecord req).trans hsequence, hseal⟩

/-- The last record of an aligned sidecar has the number of records. -/
theorem last_sequence (h : Aligned bridge sidecar records) {e : EdsAuditRecord}
    (he : sidecar.getLast? = some e) : e.sequence = sidecar.length := by
  rw [List.getLast?_eq_getElem?] at he
  obtain ⟨hlt, -⟩ := List.getElem?_eq_some_iff.mp he
  have hlt' : sidecar.length - 1 < records.length := h.1 ▸ hlt
  have hsequence := (h.2 _ _ _ he (List.getElem?_eq_getElem hlt')).1
  omega

end Aligned

/-- None of the calls fails. -/
def EdsCalls.Succeed (calls : EdsCalls) : Prop :=
  ∀ i, calls.signFails i = false ∧ calls.hashFails i = false

/-- A writer that goes on from the sidecar, aligned with the trail. -/
structure WriterCurrent (bridge : EdsBridge) (w : EdsChainWriter) (sidecar : List EdsAuditRecord)
    (records : List (Record F)) : Prop where
  aligned : Aligned bridge sidecar records
  sequence : w.sequence = sidecar.length

theorem writerCurrent_clear (bridge : EdsBridge) (w : EdsChainWriter) :
    WriterCurrent bridge w.clear [] ([] : List (Record F)) := ⟨.nil, rfl⟩

/-- One record more on either side, when the calls succeed. -/
theorem WriterCurrent.appendPayload {bridge : EdsBridge} {w : EdsChainWriter}
    {sidecar : List EdsAuditRecord} {records : List (Record F)}
    (h : WriterCurrent bridge w sidecar records) {calls : EdsCalls} (hcalls : calls.Succeed)
    (i : Nat) (rec : Record F) (objectRef : String) :
    WriterCurrent bridge (w.appendPayload bridge calls i sidecar (sealedPayload rec) objectRef).1
      (w.appendPayload bridge calls i sidecar (sealedPayload rec) objectRef).2
      (records ++ [rec]) := by
  obtain ⟨hsign, hhash⟩ := hcalls i
  unfold EdsChainWriter.appendPayload
  rw [hsign, hhash]
  refine ⟨h.aligned.snoc ⟨_, ?_, rfl, rfl⟩, ?_⟩
  · exact congrArg (· + 1) h.sequence
  · change w.sequence + 1 = (sidecar ++ [_]).length
    rw [h.sequence, List.length_append]
    rfl

theorem WriterCurrent.sealRecords {bridge : EdsBridge} {w : EdsChainWriter}
    {sidecar : List EdsAuditRecord} {before : List (Record F)}
    (h : WriterCurrent bridge w sidecar before) {calls : EdsCalls} (hcalls : calls.Succeed)
    (i : Nat) (records : List (Record F)) :
    WriterCurrent bridge (NexusC2.sealRecords bridge calls i w sidecar records).1
      (NexusC2.sealRecords bridge calls i w sidecar records).2 (before ++ records) := by
  induction records generalizing i w sidecar before with
  | nil =>
    rw [List.append_nil]
    exact h
  | cons rec records ih =>
    have hrest := ih (h.appendPayload hcalls i rec
      ("gate/" ++ toString i ++ "/" ++ activityName rec)) (i + 1)
    rw [List.append_assoc] at hrest
    exact hrest

/-! ## Runs -/

/-- What is done with the logger and its files. -/
inductive DualOp (F : Type) where
  | reopen (key : Option (List UInt8)) (quarantineBroken : Bool) (calls : EdsCalls)
  | append (eventName severity time : String) (data : Fields F) (calls : EdsCalls)
  | replaceRecords (records : List (Record F)) (calls : EdsCalls)

namespace DualLog

/-- No file yet, and no logger. -/
def fresh : DualLog F := ⟨⟨[], genesisPrev⟩, none, []⟩

/-- Where EDS is enabled the writer goes on from an aligned sidecar; where it is not, the sidecar
is aligned or not there. -/
def Consistent (bridge : EdsBridge) (d : DualLog F) : Prop :=
  match d.eds with
  | some w => WriterCurrent bridge w d.sidecar d.trail.records
  | none => d.sidecar = [] ∨ Aligned bridge d.sidecar d.trail.records

theorem Consistent.sidecar {bridge : EdsBridge} {d : DualLog F} (h : d.Consistent bridge) :
    d.sidecar = [] ∨ Aligned bridge d.sidecar d.trail.records := by
  unfold Consistent at h
  split at h
  · exact Or.inr h.aligned
  · exact h

/-- A writer whose calls succeed starts from the last record of its sidecar. -/
theorem rewind_succeeds (bridge : EdsBridge) {calls : EdsCalls} (hcalls : calls.Succeed)
    (key : List UInt8) (sidecar : List EdsAuditRecord) :
    ∃ w, EdsChainWriter.rewind bridge calls key sidecar = some w ∧
      (sidecar = [] → w.sequence = 0) ∧
      ∀ e, sidecar.getLast? = some e → w.sequence = e.sequence := by
  unfold EdsChainWriter.rewind
  cases hlast : sidecar.getLast? with
  | none => exact ⟨_, rfl, fun _ => rfl, fun e h => (by cases h)⟩
  | some e =>
    dsimp only
    rw [(hcalls 0).2]
    refine ⟨_, rfl, fun hnil => ?_, fun e' h => ?_⟩
    · rw [hnil] at hlast
      cases hlast
    · cases h
      rfl

theorem Consistent.initEds_some {bridge : EdsBridge} {d : DualLog F} (h : d.Consistent bridge)
    {calls : EdsCalls} (hcalls : calls.Succeed) (key : List UInt8) :
    ∃ w, (d.initEds bridge calls (some key)).eds = some w ∧
      WriterCurrent bridge w (d.initEds bridge calls (some key)).sidecar
        (d.initEds bridge calls (some key)).trail.records := by
  obtain ⟨w, hrewind, hzero, hlast⟩ := rewind_succeeds bridge hcalls key d.sidecar
  unfold DualLog.initEds
  dsimp only
  rw [hrewind]
  dsimp only
  by_cases hempty : d.sidecar = []
  · rw [if_pos hempty]
    have hstart : WriterCurrent bridge w [] ([] : List (Record F)) := ⟨.nil, hzero hempty⟩
    exact ⟨_, rfl, hstart.sealRecords hcalls 1 d.trail.records⟩
  · rw [if_neg hempty]
    have haligned := h.sidecar.resolve_left hempty
    obtain ⟨e, he⟩ := Option.ne_none_iff_exists'.mp (mt List.getLast?_eq_none_iff.mp hempty)
    exact ⟨w, rfl, haligned, (hlast e he).trans (haligned.last_sequence he)⟩

theorem consistent_of_some {bridge : EdsBridge} {d : DualLog F} {w : EdsChainWriter}
    (heds : d.eds = some w) (h : WriterCurrent bridge w d.sidecar d.trail.records) :
    d.Consistent bridge := by
  unfold Consistent
  rw [heds]
  exact h

/-- A broken trail takes the sidecar with it, unless EDS is off. -/
theorem Consistent.quarantine {bridge : EdsBridge} {d : DualLog F} (h : d.Consistent bridge)
    (hoff : d.eds = none → d.sidecar = [] ∨ chainBreakIndex d.trail.records = none) :
    d.quarantine.Consistent bridge := by
  unfold DualLog.quarantine
  split
  · exact h
  · rename_i hbroken
    cases heds : d.eds with
    | none => exact Or.inl ((hoff heds).resolve_right hbroken)
    | some w => exact writerCurrent_clear bridge w

variable [Sha256]

/-- What an operation leaves. -/
def next (bridge : EdsBridge) (d : DualLog F) : DualOp F → DualLog F
  | .reopen key quarantineBroken calls => d.reopen bridge calls key quarantineBroken
  | .append eventName severity time data calls => d.append bridge calls eventName severity time data
  | .replaceRecords records calls => d.replaceRecords bridge calls records

/-- No call of the bridge fails, and while EDS is off the trail is not changed beside a sidecar. -/
def Careful (d : DualLog F) : DualOp F → Prop
  | .reopen none quarantineBroken _ =>
    quarantineBroken = true → d.sidecar = [] ∨ chainBreakIndex d.trail.records = none
  | .reopen (some _) _ calls => calls.Succeed
  | .append _ _ _ _ calls | .replaceRecords _ calls =>
    match d.eds with
    | some _ => calls.Succeed
    | none => d.sidecar = []

omit [Sha256] in
theorem Consistent.replaceRecords {bridge : EdsBridge} {d : DualLog F} {calls : EdsCalls}
    (hcalls : d.eds ≠ none → calls.Succeed) (hoff : d.eds = none → d.sidecar = [])
    (records : List (Record F)) : (d.replaceRecords bridge calls records).Consistent bridge := by
  unfold DualLog.replaceRecords
  cases heds : d.eds with
  | none => exact Or.inl (hoff heds)
  | some w => exact (writerCurrent_clear bridge w).sealRecords (hcalls (by simp [heds])) 1 records

theorem Consistent.append {bridge : EdsBridge} {d : DualLog F} (h : d.Consistent bridge)
    {calls : EdsCalls} (hcalls : d.eds ≠ none → calls.Succeed)
    (hoff : d.eds = none → d.sidecar = []) (eventName severity time : String) (data : Fields F) :
    (d.append bridge calls eventName severity time data).Consistent bridge := by
  unfold DualLog.append
  cases heds : d.eds with
  | none => exact Or.inl (hoff heds)
  | some w =>
    unfold Consistent at h
    rw [heds] at h
    have hpayload : sealedPayload (sealRecord d.trail.prev eventName severity time data) =
        canonicalJson (.obj (eventBody d.trail.prev eventName severity time data)) := by
      rw [sealedPayload, recordBody_sealRecord]
    dsimp only
    rw [← hpayload]
    exact h.appendPayload (hcalls (by simp [heds])) 1 _ _

omit [Sha256] [PyFloatOps F] in
/-- What a careful write to the trail needs. -/
theorem careful_write {d : DualLog F} {calls : EdsCalls}
    (h : match d.eds with
      | some _ => calls.Succeed
      | none => d.sidecar = []) :
    (d.eds ≠ none → calls.Succeed) ∧ (d.eds = none → d.sidecar = []) := by
  cases heds : d.eds with
  | none =>
    rw [heds] at h
    exact ⟨fun hsome => absurd rfl hsome, fun _ => h⟩
  | some w =>
    rw [heds] at h
    exact ⟨fun _ => h, fun hnone => by cases hnone⟩

theorem Consistent.next {bridge : EdsBridge} {d : DualLog F} (h : d.Consistent bridge)
    {op : DualOp F} (hcareful : d.Careful op) : (d.next bridge op).Consistent bridge := by
  cases op with
  | reopen key quarantineBroken calls =>
    change (DualLog.rewindFromDisk _).Consistent bridge
    cases key with
    | none =>
      have hinit : (d.initEds bridge calls none).Consistent bridge := h.sidecar
      cases quarantineBroken with
      | false => exact hinit
      | true => exact hinit.quarantine fun _ => hcareful rfl
    | some key =>
      obtain ⟨w, heds, hinit⟩ := h.initEds_some hcareful key
      have hinit := consistent_of_some heds hinit
      cases quarantineBroken with
      | false => exact hinit
      | true =>
        refine hinit.quarantine fun hnone => ?_
        rw [heds] at hnone
        cases hnone
  | append eventName severity time data calls =>
    obtain ⟨hcalls, hoff⟩ := careful_write hcareful
    exact h.append hcalls hoff eventName severity time data
  | replaceRecords records calls =>
    obtain ⟨hcalls, hoff⟩ := careful_write hcareful
    exact Consistent.replaceRecords hcalls hoff records

/-- What an operation does to the trail of a logger that has no sidecar. -/
def onTrail (t : AuditTrail F) : DualOp F → AuditTrail F
  | .reopen _ quarantineBroken _ =>
    if quarantineBroken then t.reopen else ⟨t.records, lastHash t.records⟩
  | .append eventName severity time data _ => (t.append eventName severity time data).2
  | .replaceRecords records _ => .replaceRecords records

/-- Whatever becomes of the sidecar, the trail is what it is without one. -/
theorem trail_next (bridge : EdsBridge) (d : DualLog F) (op : DualOp F) :
    (d.next bridge op).trail = onTrail d.trail op := by
  cases op with
  | reopen key quarantineBroken calls =>
    have hinit : (d.initEds bridge calls key).trail = d.trail := by
      unfold DualLog.initEds
      split
      · rfl
      · split
        · rfl
        · split <;> rfl
    unfold next onTrail DualLog.reopen rewindFromDisk DualLog.quarantine AuditTrail.reopen
    cases quarantineBroken with
    | false => simp only [Bool.false_eq_true, if_false, hinit]
    | true =>
      simp only [if_true, hinit]
      split
      · rw [hinit]
      · rfl
  | append eventName severity time data calls =>
    unfold next onTrail DualLog.append
    cases d.eds <;> rfl
  | replaceRecords records calls =>
    unfold next onTrail DualLog.replaceRecords
    cases d.eds <;> rfl

/-- One operation. -/
def Step (bridge : EdsBridge) (d : DualLog F) (op : DualOp F) (t : DualLog F) : Prop :=
  t = d.next bridge op

/-- From files that are aligned, or with no sidecar yet: while no call of the bridge fails and the
trail is left alone where EDS is off and a sidecar is there, an enabled sidecar is aligned. -/
theorem chains_stay_aligned {bridge : EdsBridge} {d t : DualLog F} (h : d.Consistent bridge)
    {tr : List (Transition (DualLog F) (DualOp F))}
    (hrun : Run (Guarded Careful (Step bridge)) d tr t) :
    ∀ w, t.eds = some w → Aligned bridge t.sidecar t.trail.records := by
  have hconsistent : t.Consistent bridge := hrun.invariant h fun u op v hu hstep => by
    rw [hstep.2]
    exact hu.next hstep.1
  intro w hw
  unfold Consistent at hconsistent
  rw [hw] at hconsistent
  exact hconsistent.aligned

/-! ## Examples -/

/-- A bridge that keeps the payload for its hash. -/
def plainBridge : EdsBridge where
  signRecord req :=
    { sequence := req.sequence
      timestampMs := req.timestampMs
      payloadHash := req.payload.toList.map fun c => UInt8.ofNat c.toNat
      signature := req.privateKey
      prevRecordHash := req.prevRecordHash.getD zeroHash
      deviceId := req.deviceId
      objectRef := req.objectRef }
  recordHash e := e.payloadHash
  sequence_signRecord _ := rfl

/-- Calls of which none fails. -/
def allSucceed : EdsCalls := ⟨fun _ => 0, fun _ => false, fun _ => false⟩

/-- A proposal is appended, as `calls` go. -/
def appendProposal (calls : EdsCalls) : DualOp Whole :=
  .append "coa_proposed" "Medium" "t0" [("coa_id", .str "a")] calls

/-- The signing of the one record fails. -/
def signFailure : List (DualOp Whole) :=
  [.reopen (some []) true allSucceed, appendProposal { allSucceed with signFails := fun _ => true }]

/-- A record is appended with EDS, one without, and then EDS is back. -/
def switchedOff : List (DualOp Whole) :=
  [.reopen (some []) true allSucceed, appendProposal allSucceed, .reopen none true allSucceed,
    appendProposal allSucceed, .reopen (some []) true allSucceed]

/-- The operations leave EDS on and the chains out of step. -/
def OutOfStep (ops : List (DualOp Whole)) : Prop :=
  (ops.foldl (next plainBridge) fresh).eds.isSome = true ∧
    ¬ Aligned plainBridge (ops.foldl (next plainBridge) fresh).sidecar
      (ops.foldl (next plainBridge) fresh).trail.records

omit [Sha256] in
theorem chains_not_aligned :
    letI := plainHash
    OutOfStep signFailure ∧ OutOfStep switchedOff := by
  let := plainHash
  have hlengths : ∀ ops ∈ [signFailure, switchedOff],
      (ops.foldl (next plainBridge) fresh).eds.isSome = true ∧
        (ops.foldl (next plainBridge) fresh).sidecar.length ≠
          (ops.foldl (next plainBridge) fresh).trail.records.length := by decide +kernel
  have hout : ∀ ops ∈ [signFailure, switchedOff], OutOfStep ops :=
    fun ops hops => ⟨(hlengths ops hops).1, fun h => (hlengths ops hops).2 h.1⟩
  exact ⟨hout _ List.mem_cons_self, hout _ (List.mem_cons_of_mem _ List.mem_cons_self)⟩

/-- EDS is enabled over an old trail, a record is appended, and the trail is replaced. -/
def enabledLater : List (DualOp Whole) :=
  [.reopen none true allSucceed, appendProposal allSucceed, .reopen (some []) true allSucceed,
    appendProposal allSucceed, .replaceRecords [] allSucceed]

omit [Sha256] in
theorem chains_stay_aligned_enabledLater :
    letI := plainHash
    Aligned plainBridge (enabledLater.foldl (next plainBridge) fresh).sidecar
      (enabledLater.foldl (next plainBridge) fresh).trail.records := by
  let := plainHash
  have hsucceed : allSucceed.Succeed := fun _ => ⟨rfl, rfl⟩
  have hfresh : (fresh : DualLog Whole).Consistent plainBridge := Or.inl rfl
  have hon : (enabledLater.foldl (next plainBridge) fresh).eds.isSome = true := by decide +kernel
  obtain ⟨w, hw⟩ := Option.isSome_iff_exists.mp hon
  refine chains_stay_aligned hfresh (Run.of_trace enabledLater fresh ?_) w hw
  intro x hx
  refine ⟨?_, trace_post (next plainBridge) fresh enabledLater x hx⟩
  rcases hx with _ | ⟨_, _ | ⟨_, _ | ⟨_, _ | ⟨_, _ | ⟨_, hx⟩⟩⟩⟩⟩
  · exact fun _ => Or.inl rfl
  · exact rfl
  · exact hsucceed
  · exact hsucceed
  · exact hsucceed
  · cases hx

end DualLog

end NexusC2
