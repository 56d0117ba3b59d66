import NexusC2.Core.Proofs.AppendOnly

/-!
# Two loggers on one file

The server and `run_c2_cycle` each open an `AuditLogger` on the same path. Each keeps the hash
of the last record it knows of in memory and appends under it without reading the file again.
The file still verifies after a run of appends exactly when every append was made by a logger
whose cached hash was the last one on disk at that moment; one append out of step forks the
chain for good, since a longer trail never verifies where a shorter one does not.
-/

namespace NexusC2

open HashChain

/-- The owners of the two loggers. -/
inductive Writer where
  | server
  | cycle
  deriving DecidableEq, Repr

/-- Two loggers on one directory. -/
structure TwoWriters where
  server : AuditLogger
  cycle : AuditLogger
  disk : Disk

/-- One append by one of them. -/
structure WriteOp (F : Type) where
  writer : Writer
  eventName : String
  severity : String
  time : String
  data : JsonObject F

namespace TwoWriters

def logger (w : TwoWriters) : Writer → AuditLogger
  | .server => w.server
  | .cycle => w.cycle

def setLogger (w : TwoWriters) (l : AuditLogger) : Writer → TwoWriters
  | .server => { w with server := l }
  | .cycle => { w with cycle := l }

variable {F : Type} [PyFloatOps F] [Sha256]

/-- One append: the logger of its writer and the file change, the other logger does not. -/
def write (w : TwoWriters) (op : WriteOp F) : TwoWriters :=
  let (_, logger, disk) :=
    (w.logger op.writer).append w.disk op.eventName op.severity op.time op.data.fields
  { w.setLogger logger op.writer with disk := disk }

/-- An interleaving of appends. -/
def run (w : TwoWriters) (ops : List (WriteOp F)) : TwoWriters := ops.foldl write w

/-- The cached hash of the writer is the last one on disk. -/
def Current (F : Type) [PyFloatOps F] (w : TwoWriters) (writer : Writer) : Prop :=
  (loadAuditRecords (F := F) w.disk.live).map lastHash = some (w.logger writer).prev

/-- Before every append of the interleaving the cached hash of its writer is the last one on
disk. -/
def AlwaysCurrent : TwoWriters → List (WriteOp F) → Prop
  | _, [] => True
  | w, op :: ops => w.Current F op.writer ∧ (w.write op).AlwaysCurrent ops

variable (F) in
/-- The file can be read, and both checkers pass it. -/
def Verifies (w : TwoWriters) : Prop :=
  ∃ records, loadAuditRecords (F := F) w.disk.live = some records ∧
    (verifyAuditChain records).ok = true ∧ chainBreakIndex records = none

/-- The record an append writes. -/
def recordOf (w : TwoWriters) (op : WriteOp F) : Record F :=
  sealRecord (w.logger op.writer).prev op.eventName op.severity op.time op.data.fields

theorem write_disk (w : TwoWriters) (op : WriteOp F) :
    (w.write op).disk =
      { w.disk with live := some (w.disk.live.getD [] ++ recordLine (w.recordOf op)) } := rfl

end TwoWriters

section

variable {F : Type} [PyFloat F] [Sha256]

namespace TwoWriters

theorem onDisk_write {w : TwoWriters} {records : List (Record F)} (h : OnDisk w.disk records)
    (op : WriteOp F) : OnDisk (w.write op).disk (records ++ [w.recordOf op]) := by
  rw [write_disk]
  exact h.write (wf_sealRecord _ _ _ _ _ op.data.wf)

/-- The file only grows. -/
theorem onDisk_run {w : TwoWriters} {records : List (Record F)} (h : OnDisk w.disk records)
    (ops : List (WriteOp F)) : ∃ new, OnDisk (w.run ops).disk (records ++ new) := by
  induction ops generalizing w records with
  | nil => exact ⟨[], by rwa [List.append_nil]⟩
  | cons op ops ih =>
    obtain ⟨new, hnew⟩ := ih (onDisk_write h op)
    refine ⟨w.recordOf op :: new, ?_⟩
    rw [List.append_assoc, List.singleton_append] at hnew
    exact hnew

omit [Sha256] in
theorem current_iff {w : TwoWriters} {records : List (Record F)} (h : OnDisk w.disk records)
    (writer : Writer) : w.Current F writer ↔ (w.logger writer).prev = lastHash records := by
  simp only [Current, h.load, Option.map_some, Option.some.injEq]
  exact eq_comm

/-- An interleaving leaves a file that verifies exactly when no append was out of step. -/
theorem verifies_run {w : TwoWriters} {records : List (Record F)} (h : Intact w.disk records)
    (ops : List (WriteOp F)) : (w.run ops).Verifies F ↔ w.AlwaysCurrent ops := by
  induction ops generalizing w records with
  | nil =>
    constructor
    · intro _
      trivial
    · intro _
      exact ⟨records, h.load, h.verifies, chainBreakIndex_of_verify h.verifies⟩
  | cons op ops ih =>
    have hdisk := onDisk_write h.toOnDisk op
    have hsnoc := verify_snoc h.verifies (w.logger op.writer).prev op.eventName op.severity op.time
      op.data.fields
    by_cases hcur : w.Current F op.writer
    · have hverifies := hsnoc.mpr ((current_iff h.toOnDisk op.writer).mp hcur)
      have hintact : Intact (w.write op).disk (records ++ [w.recordOf op]) := ⟨hdisk, hverifies⟩
      rw [AlwaysCurrent, and_iff_right hcur, ← ih hintact]
      rfl
    · -- the forked record stays in every longer trail
      have hfork : ¬ (verifyAuditChain (records ++ [w.recordOf op])).ok = true := fun hok =>
        hcur ((current_iff h.toOnDisk op.writer).mpr (hsnoc.mp hok))
      constructor
      · rintro ⟨final, hload, hok, _⟩
        obtain ⟨new, hnew⟩ := onDisk_run hdisk ops
        have hfinal : final = records ++ [w.recordOf op] ++ new :=
          Option.some.inj (hload.symm.trans hnew.load)
        rw [hfinal, verifyAuditChain_ok] at hok
        exact absurd ((verifyAuditChain_ok _).mpr ((valid_append _ _ _).mp hok).1) hfork
      · rintro ⟨hcur', _⟩
        exact absurd hcur' hcur

end TwoWriters

/-- Two loggers on one intact trail, each with any hash cached: the file verifies after an
interleaving of appends if and only if before each append the cached hash of its writer was the
last one on disk. -/
theorem two_writers_verify_iff (w : TwoWriters) (records : List (Record F))
    (h : Intact w.disk records) (ops : List (WriteOp F)) :
    (w.run ops).Verifies F ↔ w.AlwaysCurrent ops :=
  TwoWriters.verifies_run h ops

end

/-- Two loggers opened on a path with no file yet. -/
def freshWriters : TwoWriters := ⟨⟨genesisPrev⟩, ⟨genesisPrev⟩, ⟨none, []⟩⟩

/-- An append of an empty event. -/
def emptyEvent (writer : Writer) (eventName : String) : WriteOp Whole :=
  ⟨writer, eventName, "High", "t", ⟨[], by decide⟩⟩

/-- Two appends by the server, with the other logger idle. -/
theorem two_writers_verify_iff_one_writer :
    letI := plainHash
    (freshWriters.run [emptyEvent .server "coa_proposed", emptyEvent .server "gate_decision"]).Verifies Whole ↔
      freshWriters.AlwaysCurrent
        [emptyEvent .server "coa_proposed", emptyEvent .server "gate_decision"] :=
  letI := plainHash
  two_writers_verify_iff freshWriters [] ⟨⟨rfl, Or.inl rfl⟩, rfl⟩ _

/-- One append by each of two loggers opened on the same path: the second record links to the
genesis value, not to the first one. -/
theorem two_writers_fork :
    letI := plainHash
    AuditState.start Whole freshWriters.disk = some ⟨freshWriters.server, freshWriters.disk⟩ ∧
      AuditState.start Whole freshWriters.disk = some ⟨freshWriters.cycle, freshWriters.disk⟩ ∧
      ¬ (freshWriters.run
        [emptyEvent .server "coa_proposed", emptyEvent .cycle "gate_decision"]).Verifies Whole := by
  refine ⟨rfl, rfl, ?_⟩
  let := plainHash
  have hdisk : Intact (F := Whole) freshWriters.disk [] := ⟨⟨rfl, Or.inl rfl⟩, rfl⟩
  rw [TwoWriters.verifies_run hdisk]
  rintro ⟨_, hcur, _⟩
  have hfirst := TwoWriters.onDisk_write hdisk.toOnDisk (emptyEvent .server "coa_proposed")
  have heq : genesisPrev =
      Json.canonical (.obj (eventBody genesisPrev "coa_proposed" "High" "t" [])) :=
    (TwoWriters.current_iff hfirst .cycle).mp hcur
  -- the digest of the first record starts with its brace, the genesis value with a zero
  obtain ⟨cs, hbrace⟩ := Json.canonical_obj_toList (F := Whole)
    (eventBody genesisPrev "coa_proposed" "High" "t" [])
  have hzero : genesisPrev.toList = List.replicate 64 '0' := String.toList_ofList
  have hhead := hzero.symm.trans ((congrArg String.toList heq).trans hbrace)
  exact absurd (List.cons.inj hhead).1 (by decide)

end NexusC2
