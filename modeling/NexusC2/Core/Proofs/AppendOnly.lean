import NexusC2.Core.Proofs.AuditChain

/-!
# The audit trail is append-only

One logger on one file, over any run of appends and restarts. An append seals the record in
memory, before the file has it; that the file then verifies rests on the decoder reading back
what the encoder wrote (`loadText_append`), so that the digest recomputed from the line is the
one sealed.
-/

namespace NexusC2

open HashChain

/-- A `dict` of JSON values: keys are distinct at every depth. -/
structure JsonObject (F : Type) where
  fields : Fields F
  wf : (Json.obj fields).wf = true

/-- What the owner of a trail does: append an event, or start again from the file. -/
inductive AuditOp (F : Type) where
  | append (eventName severity time : String) (data : JsonObject F)
  | restart

/-- A logger and the directory it writes to. -/
structure AuditState where
  logger : AuditLogger
  disk : Disk

section

variable {F : Type} [PyFloatOps F]

/-- `AuditLogger(path)`. -/
def AuditState.start (F : Type) [PyFloatOps F] (d : Disk) : Option AuditState := do
  let (logger, disk) ← AuditLogger.open F d
  some ⟨logger, disk⟩

/-- The file has these records, and what is appended to it starts a new line. -/
structure OnDisk (d : Disk) (records : List (Record F)) : Prop where
  load : loadAuditRecords d.live = some records
  ends : Text.EndsLine (d.live.getD [])

variable [Sha256]

/-- One operation, with the records it returns; `none` is a raise. -/
def AuditState.step (s : AuditState) : AuditOp F → Option (List (Record F) × AuditState)
  | .append eventName severity time data =>
    let (record, logger, disk) := s.logger.append s.disk eventName severity time data.fields
    some ([record], ⟨logger, disk⟩)
  | .restart => do
    let s' ← AuditState.start F s.disk
    some ([], s')

/-- A run of operations, with the records returned, oldest first. -/
def AuditState.run (s : AuditState) : List (AuditOp F) → Option (List (Record F) × AuditState)
  | [] => some ([], s)
  | op :: ops => do
    let (new, s') ← s.step op
    let (rest, s'') ← s'.run ops
    some (new ++ rest, s'')

/-- The event, severity, time and metadata of a record. -/
def recordPayload (record : Record F) : List (Option (Json F)) :=
  ["activity_name", "severity", "time", "metadata"].map (Assoc.get record)

/-- The same of the record an operation asks for. -/
def AuditOp.payload : AuditOp F → Option (List (Option (Json F)))
  | .append eventName severity time data =>
    some [some (.str eventName), some (.str severity), some (.str time), some (.obj data.fields)]
  | .restart => none

/-- The file has these records and they verify. -/
structure Intact (d : Disk) (records : List (Record F)) : Prop extends OnDisk d records where
  verifies : (verifyAuditChain records).ok = true

/-- The logger is where the file is. -/
structure InStep (s : AuditState) (records : List (Record F)) : Prop extends
    Intact s.disk records where
  prev : s.logger.prev = lastHash records

end

section

variable {F : Type} [PyFloat F] [Sha256]

omit [Sha256] in
/-- Writing the line of a record puts the record at the end, whatever hash it links to. -/
theorem OnDisk.write {d : Disk} {records : List (Record F)} (h : OnDisk d records)
    {record : Record F} (hwf : (Json.obj record).wf = true) :
    OnDisk { d with live := some (d.live.getD [] ++ recordLine record) } (records ++ [record]) := by
  refine ⟨?_, (endsLine_recordLine record).append h.ends⟩
  have hload : loadText (d.live.getD []) = some records := by
    have := h.load
    cases hlive : d.live with
    | none =>
      rw [hlive] at this
      simpa [loadAuditRecords, loadText, Text.translateNewlines, Text.lines, loadLines] using this
    | some text =>
      rw [hlive] at this
      exact this
  exact loadText_append hload h.ends hwf

/-- The logger and its file come to this trail. -/
structure AuditState.Refines (s : AuditState) (t : AuditTrail F) : Prop where
  onDisk : OnDisk s.disk t.records
  prev : s.logger.prev = t.prev

/-- An append to the file is an append to the trail, and returns the same record. -/
theorem AuditState.Refines.append {s : AuditState} {t : AuditTrail F} (h : s.Refines t)
    (eventName severity time : String) (data : JsonObject F) :
    ∃ s' : AuditState, s.step (.append eventName severity time data) =
        some ([(t.append eventName severity time data.fields).1], s') ∧
      s'.Refines (t.append eventName severity time data.fields).2 := by
  obtain ⟨records, prev⟩ := t
  obtain rfl : s.logger.prev = prev := h.prev
  have hwf := wf_sealRecord s.logger.prev eventName severity time data.fields data.wf
  exact ⟨_, rfl, h.onDisk.write hwf, rfl⟩

/-- A sealed record extends an intact trail exactly when it links to its last hash. -/
theorem verify_snoc {records : List (Record F)} (h : (verifyAuditChain records).ok = true)
    (prev eventName severity time : String) (data : Fields F) :
    (verifyAuditChain (records ++ [sealRecord prev eventName severity time data])).ok = true ↔
      prev = lastHash records := by
  rw [verifyAuditChain_ok, valid_snoc, ← lastHash_of_verify h]
  constructor
  · intro hsealed
    exact ((linked_sealRecord _ _ _ _ _).mp hsealed.2.1).symm
  · intro hprev
    exact ⟨(verifyAuditChain_ok _).mp h, hprev ▸ sealed_sealRecord _ _ _ _ _⟩

/-- The logger of an intact trail starts in step with it and moves nothing aside. -/
theorem Intact.start {d : Disk} {records : List (Record F)} (h : Intact d records) :
    AuditState.start F d = some ⟨⟨lastHash records⟩, d⟩ := by
  have hquarantine : quarantineIfBroken F d = some d := by
    have hload := h.load
    unfold quarantineIfBroken
    cases hlive : d.live with
    | none => rfl
    | some text =>
      rw [hlive] at hload
      simp only [loadAuditRecords] at hload
      simp [hload, chainBreakIndex_of_verify h.verifies]
  simp [AuditState.start, AuditLogger.open, hquarantine, rewindFromDisk, h.load]

/-- One operation keeps the logger in step and adds what it returns. -/
theorem InStep.step {s : AuditState} {records : List (Record F)} (h : InStep s records)
    (op : AuditOp F) : ∃ new s', s.step op = some (new, s') ∧ InStep s' (records ++ new) ∧
      s'.disk.archived = s.disk.archived ∧ new.map recordPayload = op.payload.toList := by
  cases op with
  | append eventName severity time data =>
    have hwf := wf_sealRecord s.logger.prev eventName severity time data.fields data.wf
    have hverifies := (verify_snoc h.verifies s.logger.prev eventName severity time
      data.fields).mpr h.prev
    refine ⟨[sealRecord s.logger.prev eventName severity time data.fields], _, rfl,
      ⟨⟨h.toOnDisk.write hwf, hverifies⟩, ?_⟩, rfl, rfl⟩
    simp [lastHash, get_hash_sealRecord, Json.pyStr]
  | restart =>
    refine ⟨[], ⟨⟨lastHash records⟩, s.disk⟩, ?_, ?_, rfl, rfl⟩
    · simp [AuditState.step, h.toIntact.start]
    · rw [List.append_nil]
      exact ⟨h.toIntact, rfl⟩

/-- A run keeps the logger in step and adds what its operations return. -/
theorem InStep.run {s : AuditState} {records : List (Record F)} (h : InStep s records)
    (ops : List (AuditOp F)) : ∃ new s', s.run ops = some (new, s') ∧ InStep s' (records ++ new) ∧
      s'.disk.archived = s.disk.archived ∧
      new.map recordPayload = ops.filterMap AuditOp.payload := by
  induction ops generalizing s records with
  | nil => exact ⟨[], s, rfl, by rwa [List.append_nil], rfl, rfl⟩
  | cons op ops ih =>
    obtain ⟨new, s', hstep, hs', harch, hnew⟩ := h.step op
    obtain ⟨rest, s'', hrun, hs'', harch', hrest⟩ := ih hs'
    refine ⟨new ++ rest, s'', ?_, ?_, harch'.trans harch, ?_⟩
    · simp [AuditState.run, hstep, hrun]
    · rwa [← List.append_assoc]
    · rw [List.map_append, hnew, hrest]
      cases hp : op.payload <;> simp [hp]

/-- From an intact trail, over any run of appends and restarts: nothing raises, the file has
the records it had followed by the ones the appends returned, one for each event asked for, the
logger has the hash of the last one, and the trail verifies. -/
theorem audit_trail_append_only (d : Disk) (records : List (Record F)) (h : Intact d records)
    (ops : List (AuditOp F)) :
    ∃ s new s', AuditState.start F d = some s ∧ s.run ops = some (new, s') ∧
      new.map recordPayload = ops.filterMap AuditOp.payload ∧
      loadAuditRecords s'.disk.live = some (records ++ new) ∧
      s'.logger.prev = lastHash (records ++ new) ∧
      chainBreakIndex (records ++ new) = none ∧
      (verifyAuditChain (records ++ new)).ok = true := by
  have hstart : InStep ⟨⟨lastHash records⟩, d⟩ records := ⟨h, rfl⟩
  obtain ⟨new, s', hrun, hs', _, hnew⟩ := hstart.run ops
  exact ⟨_, new, s', h.start, hrun, hnew, hs'.load, hs'.prev,
    chainBreakIndex_of_verify hs'.verifies, hs'.verifies⟩

end

/-- An event with a float in its metadata, a restart, one more event. -/
def firstRun : List (AuditOp Whole) :=
  [.append "coa_proposed" "Medium" "t0"
      ⟨[("coa_id", .str "a"), ("confidence", .float (.num 1))], by decide⟩,
    .restart, .append "gate_decision" "High" "t1" ⟨[("coa_id", .str "a")], by decide⟩]

/-- A first run, with no file yet. -/
theorem audit_trail_append_only_first_run :
    letI := plainHash
    ∃ s new s', AuditState.start Whole ⟨none, []⟩ = some s ∧ s.run firstRun = some (new, s') ∧
      new.map recordPayload = firstRun.filterMap AuditOp.payload ∧
      loadAuditRecords s'.disk.live = some ([] ++ new) ∧
      s'.logger.prev = lastHash ([] ++ new) ∧
      chainBreakIndex ([] ++ new) = none ∧
      (verifyAuditChain ([] ++ new)).ok = true :=
  letI := plainHash
  audit_trail_append_only ⟨none, []⟩ [] ⟨⟨rfl, Or.inl rfl⟩, rfl⟩ firstRun

end NexusC2
