import NexusC2.Core.EdsChain
import NexusC2.Core.Proofs.EdsCodec

/-!
# The EDS writer after an append that failed

A writer is in step with its file when it has the sequence and the hash that `_rewind` computes
from it. `append_payload` moves both on as soon as the library has signed and hashed, before the
file is read and rewritten; what fails after that leaves the writer ahead of its file.
-/

namespace NexusC2

namespace Ctypes

section

variable (F : Type) [PyTextOps F]

/-- The writer has what `_rewind` computes from the file. -/
def InStep (s : EdsState) : Prop :=
  rewind F s.writer.bridge s.writer.path s.file = .ok (s.writer.sequence, s.writer.prevHash)

/-- The bridge is there and signs and hashes. -/
structure Signs (steps : AppendSteps) (w : EdsChainWriter) : Prop where
  bridge : w.bridge.isSome
  backend : w.backend = "ctypes"
  privateKey : ∃ privateKey, w.privateKey = some privateKey ∧ privateKey.length = 32
  prevHash : w.prevHash = zeroHash ∨ w.prevHash.length = 32
  sign : steps.sign = none
  hash : steps.hash = none

/-- The file can be read and written, or the failing write has changed it. -/
structure Stores (steps : AppendSteps) (file : Option (List Char)) : Prop where
  read : steps.read = none
  write : ∀ e left, steps.write = some (e, left) → left ≠ file

/-- What was signed is in the writer. -/
def EdsState.advance (s : EdsState) (digest : List UInt8) : EdsState :=
  { s with
    writer := { s.writer with
      prevHash := digest
      sequence := s.writer.sequence + 1 } }

variable {F}

omit [PyTextOps F] in
/-- A signature is made, or it is an `EdsError`. -/
theorem EdsLib.sign_cases (lib : EdsLib) (failed : Option LibError) (deviceId objectRef : String)
    (sequence timestampMs : Int) (payload prevHash privateKey : List UInt8) :
    (∃ rec, lib.sign failed deviceId sequence timestampMs payload
        (if prevHash = zeroHash then none else some prevHash) objectRef privateKey = .ok rec) ∧
      (privateKey.length = 32 ∧ (prevHash = zeroHash ∨ prevHash.length = 32) ∧ failed = none) ∨
    (∃ message, lib.sign failed deviceId sequence timestampMs payload
        (if prevHash = zeroHash then none else some prevHash) objectRef privateKey =
          .error (.edsError message)) ∧
      ¬ (privateKey.length = 32 ∧ (prevHash = zeroHash ∨ prevHash.length = 32) ∧ failed = none) := by
  unfold EdsLib.sign
  by_cases hkey : privateKey.length = 32
  · rw [if_neg (not_not.mpr hkey)]
    by_cases hprev : prevHash = zeroHash ∨ prevHash.length = 32
    · have hany : ¬ (if prevHash = zeroHash then none else some prevHash).any
          (·.length ≠ 32) = true := by
        split <;> simp_all
      rw [if_neg hany]
      cases failed with
      | none => exact Or.inl ⟨⟨_, rfl⟩, hkey, hprev, rfl⟩
      | some e => exact Or.inr ⟨⟨_, rfl⟩, fun h => by cases h.2.2⟩
    · have hany : (if prevHash = zeroHash then none else some prevHash).any
          (·.length ≠ 32) = true := by
        obtain ⟨hzero, hlength⟩ := not_or.mp hprev
        rw [if_neg hzero]
        exact decide_eq_true hlength
      rw [if_pos hany]
      exact Or.inr ⟨⟨_, rfl⟩, fun h => hprev h.2.1⟩
  · rw [if_pos hkey]
    exact Or.inr ⟨⟨_, rfl⟩, fun h => hkey h.1⟩

/-- An append before the record is stored: nothing is done, or the writer has moved on. -/
theorem appendPayload_cases (s : EdsState) (steps : AppendSteps) (payload : List UInt8)
    (objectRef : String) (timestampMs : Option Int) :
    (¬ Signs steps s.writer ∧
      appendPayload F steps payload objectRef timestampMs s = (.ok none, s)) ∨
    (Signs steps s.writer ∧ ∃ rec digest,
      appendPayload F steps payload objectRef timestampMs s =
        Handler.tryCatch (storeRecord F steps rec) (caughtEds F) (s.advance digest)) := by
  unfold appendPayload
  rw [Handler.get_bind]
  cases hlib : s.writer.bridge with
  | none => exact Or.inl ⟨fun h => (by simpa [hlib] using h.bridge), rfl⟩
  | some lib =>
    cases hkey : s.writer.privateKey with
    | none =>
      refine Or.inl ⟨fun h => ?_, rfl⟩
      obtain ⟨key, hsome, -⟩ := h.privateKey
      rw [hkey] at hsome
      cases hsome
    | some privateKey =>
      dsimp only
      by_cases hbackend : s.writer.backend = "ctypes"
      · rw [if_pos hbackend]
        unfold Handler.tryCatch signAndStore
        rw [Handler.get_bind]
        rcases lib.sign_cases steps.sign s.writer.deviceId objectRef (s.writer.sequence + 1)
          (timestampMs.getD steps.timeMs) payload s.writer.prevHash privateKey with
          ⟨⟨rec, hsign⟩, hlength, hprev, hnone⟩ | ⟨⟨message, hsign⟩, hnot⟩
        · rw [hsign, Handler.ofExcept_ok_bind]
          cases hhash : steps.hash with
          | none =>
            refine Or.inr ⟨⟨by rw [hlib]; rfl, hbackend, ⟨privateKey, hkey, hlength⟩, hprev, hnone,
              hhash⟩, rec, lib.recordHash rec, ?_⟩
            rfl
          | some e =>
            refine Or.inl ⟨fun h => ?_, rfl⟩
            have hhash' := h.hash
            rw [hhash] at hhash'
            cases hhash'
        · rw [hsign]
          refine Or.inl ⟨fun h => hnot ?_, rfl⟩
          obtain ⟨key, hsome, hlength⟩ := h.privateKey
          cases hkey.symm.trans hsome
          exact ⟨hlength, h.prevHash, h.sign⟩
      · rw [if_neg hbackend]
        exact Or.inl ⟨fun h => hbackend h.backend, rfl⟩

/-- Storing a record where the file can be parsed: the read fails, the write fails, or neither. -/
theorem storeRecord_cases {s : EdsState} {stored : List (Fields F)}
    (hrecords : records F s.writer.path s.file = .ok stored) (steps : AppendSteps)
    (rec : EdsAuditRecord) :
    (∃ e, steps.read = some e ∧ storeRecord F steps rec s = (.error e, s)) ∨
    (∃ e left, steps.read = none ∧ steps.write = some (e, left) ∧
      storeRecord F steps rec s = (.error e, { s with file := left })) ∨
    ∃ text, steps.read = none ∧ steps.write = none ∧
      storeRecord F steps rec s =
        (.ok (some (recordToJsonDict rec)), { s with file := some text }) := by
  unfold storeRecord
  rw [Handler.get_bind]
  cases hread : steps.read with
  | some e => exact Or.inl ⟨e, rfl, rfl⟩
  | none =>
    dsimp only
    rw [hrecords, Handler.ofExcept_ok_bind]
    cases hwrite : steps.write with
    | some failed => exact Or.inr (Or.inl ⟨failed.1, failed.2, rfl, rfl, rfl⟩)
    | none => exact Or.inr (Or.inr ⟨_, rfl, rfl, rfl⟩)

omit [PyTextOps F] in
/-- An append that failed returns no record, and leaves what its `try` left. -/
theorem caughtEds_of_error {m : Handler EdsExc EdsState (Option (Fields F))} {s s' : EdsState}
    {e : EdsExc} (h : m s = (.error e, s')) :
    (∀ dict, (Handler.tryCatch m (caughtEds F) s).1 ≠ .ok (some dict)) ∧
      (Handler.tryCatch m (caughtEds F) s).2 = s' := by
  unfold Handler.tryCatch
  rw [h]
  cases e with
  | edsError message => exact ⟨fun dict heq => (by cases heq), rfl⟩
  | raised e => exact ⟨fun dict heq => (by cases heq), rfl⟩

/-- A restart on a file that ends in a signed record goes on from that record. -/
theorem rewind_recordToJsonDict (lib : EdsLib) {path : String} {file : Option (List Char)}
    {stored : List (Fields F)} {rec : EdsAuditRecord} (hdevice : Padded rec.deviceId)
    (hobject : Padded rec.objectRef)
    (hrecords : records F path file = .ok (stored ++ [recordToJsonDict rec])) :
    rewind F (some lib) path file = .ok (rec.sequence.toNat, lib.recordHash rec) := by
  unfold rewind
  rw [hrecords]
  simp only [bind, Except.bind, List.getLast?_concat,
    jsonDictToRecord_recordToJsonDict hdevice hobject]
  rfl

/-- A writer that moved on and its file as it was. -/
theorem not_inStep_advance {s : EdsState} (h : InStep F s) (digest : List UInt8) :
    ¬ InStep F (s.advance digest) := by
  unfold InStep at h ⊢
  change rewind F s.writer.bridge s.writer.path s.file ≠ .ok (s.writer.sequence + 1, digest)
  rw [h]
  intro heq
  have hsequence := (Prod.mk.inj (Except.ok.inj heq)).1
  omega

/-- An append that returns nothing or raises and leaves the file as it was leaves the writer in
step with it, exactly where the record was not signed and hashed, or was stored as well. -/
theorem failed_append_in_step (s : EdsState) (h : InStep F s) (steps : AppendSteps)
    (payload : List UInt8) (objectRef : String) (timestampMs : Option Int) :
    let result := appendPayload F steps payload objectRef timestampMs s
    ((∀ dict, result.1 ≠ .ok (some dict)) → result.2.file = s.file → InStep F result.2) ↔
      (Signs steps s.writer → Stores steps s.file) := by
  intro result
  rcases appendPayload_cases (F := F) s steps payload objectRef timestampMs with
    ⟨hnot, heq⟩ | ⟨hsigns, rec, digest, heq⟩
  · rw [show result = (.ok none, s) from heq]
    exact iff_of_true (fun _ _ => h) fun hsigns => absurd hsigns hnot
  · rw [show result = _ from heq]
    obtain ⟨stored, hstored, -⟩ := except_bind_eq_ok.mp h
    have hrecords : records F (s.advance digest).writer.path (s.advance digest).file = .ok stored :=
      hstored
    rcases storeRecord_cases hrecords steps rec with
      ⟨e, hread, hstore⟩ | ⟨e, left, hread, hwrite, hstore⟩ | ⟨text, hread, hwrite, hstore⟩
    · -- the read fails
      obtain ⟨hnone, hleft⟩ := caughtEds_of_error hstore
      refine iff_of_false (fun hstep => ?_) fun hstores => ?_
      · have hahead := hstep hnone (by rw [hleft]; rfl)
        rw [hleft] at hahead
        exact not_inStep_advance h digest hahead
      · have hread' := (hstores hsigns).read
        rw [hread] at hread'
        cases hread'
    · -- the write fails
      obtain ⟨hnone, hleft⟩ := caughtEds_of_error hstore
      rw [hleft]
      by_cases hfile : left = s.file
      · subst hfile
        refine iff_of_false (fun hstep => not_inStep_advance h digest (hstep hnone rfl)) ?_
        exact fun hstores => (hstores hsigns).write e _ hwrite rfl
      · refine iff_of_true (fun _ hsame => absurd hsame hfile) fun _ => ⟨hread, ?_⟩
        intro e' left' hwrite'
        cases hwrite.symm.trans hwrite'
        exact hfile
    · -- the append returns the record
      refine iff_of_true (fun hnone => absurd ?_ (hnone (recordToJsonDict rec))) fun _ =>
        ⟨hread, fun e left hfails => ?_⟩
      · unfold Handler.tryCatch
        rw [hstore]
      · rw [hwrite] at hfails
        cases hfails

end

/-- A library that signs with zeros and hashes to ones. -/
def plainLib : EdsLib where
  signRecord call := { EdsAuditRecord.zero with sequence := call.sequence }
  recordHash _ := List.replicate 32 1

/-- A new writer, with no file yet. -/
def freshWriter : EdsState :=
  { writer :=
      { path := "audit/eds.json"
        deviceId := defaultDeviceId
        bridge := some plainLib
        privateKey := some (List.replicate 32 7)
        prevHash := zeroHash
        sequence := 0
        backend := "ctypes" }
    file := none }

/-- The disk is full. -/
def fullDisk : AppendSteps :=
  { timeMs := 0
    sign := none
    hash := none
    read := none
    write := some (.raised (.osError "No space left on device"), none) }

/-- Every step succeeds. -/
def noFailure : AppendSteps := { fullDisk with write := none }

/-- After an append that a full disk failed, the first record of the file is the second. -/
theorem full_disk_skips_sequence :
    let failed := appendPayload Whole fullDisk [] "gate/1/a" none freshWriter
    let next := appendPayload Whole noFailure [] "gate/1/a" none failed.2
    InStep Whole freshWriter ∧ failed.1 = .error (.raised (.osError "No space left on device")) ∧
      failed.2.file = freshWriter.file ∧ ¬ InStep Whole failed.2 ∧
      ∃ dict, next.1 = .ok (some dict) ∧ Assoc.get dict "sequence" = some (.int 2) := by
  intro failed next
  refine ⟨rfl, rfl, rfl, ?_, ?_⟩
  · exact not_inStep_advance (s := freshWriter) rfl _
  · exact ⟨_, rfl, rfl⟩

theorem failed_append_in_step_full_disk :
    let result := appendPayload Whole fullDisk [] "gate/1/a" none freshWriter
    ((∀ dict, result.1 ≠ .ok (some dict)) → result.2.file = freshWriter.file →
      InStep Whole result.2) ↔ (Signs fullDisk freshWriter.writer → Stores fullDisk none) :=
  failed_append_in_step freshWriter rfl fullDisk [] "gate/1/a" none

end Ctypes

end NexusC2
