import NexusC2.App.AuditTamper
import NexusC2.App.Proofs.GateRuns
import NexusC2.Core.Proofs.AuditChain

/-!
# What a restore gives back

Records are appended to the trail, tampered with and restored, in any order. A tampered trail
still ends in the hash its last record was sealed with, so what is appended to it continues the
trail as it was sealed. A restore writes the snapshot of the last inject.
-/

namespace NexusC2

open HashChain

section

variable {F : Type} [PyFloatOps F]

/-! ## The hashes of a tampered trail -/

omit [PyFloatOps F] in
theorem withMetadata_get (rec : Record F) {k : String} (hk : k ≠ "metadata") :
    Assoc.get (withMetadata rec) k = Assoc.get rec k := by
  unfold withMetadata
  split
  · rfl
  · rw [Assoc.get_set, if_neg hk.symm]

/-- A tampered record keeps everything but its metadata and its time. -/
theorem tamperRecord_get {rec rec' : Record F} (h : tamperRecord rec = .ok rec') {k : String}
    (hmetadata : k ≠ "metadata") (htime : k ≠ "time") : Assoc.get rec' k = Assoc.get rec k := by
  rw [← withMetadata_get rec hmetadata]
  unfold tamperRecord at h
  split at h
  · split at h
    · cases h
      rw [Assoc.get_set, if_neg hmetadata.symm]
    · split at h
      · cases h
      · cases h
        rw [Assoc.get_set, if_neg htime.symm]
  · cases h

/-- A call that returns gives the records with one replaced. -/
theorem injectOneCharTamper_eq_ok {records tampered : List (Record F)} {index : Int}
    (h : injectOneCharTamper records index = .ok tampered) :
    ∃ (i : Nat) (rec rec' : Record F), index = i ∧ records[i]? = some rec ∧
      tamperRecord rec = .ok rec' ∧ tampered = records.set i rec' := by
  unfold injectOneCharTamper at h
  split at h
  · cases h
  · rename_i rec hrec
    obtain ⟨rec', hrec', h⟩ := except_bind_eq_ok.mp h
    cases h
    split at hrec
    · cases hrec
    · rename_i hneg
      exact ⟨index.toNat, rec, rec', (Int.toNat_of_nonneg (Int.not_lt.mp hneg)).symm, hrec, hrec',
        rfl⟩

/-- A tampered trail has the records' hashes where they were. -/
theorem injectOneCharTamper_hashes {records tampered : List (Record F)} {index : Int}
    (h : injectOneCharTamper records index = .ok tampered) :
    tampered.map (Assoc.get · "hash") = records.map (Assoc.get · "hash") := by
  obtain ⟨i, rec, rec', -, hrec, hrec', rfl⟩ := injectOneCharTamper_eq_ok h
  obtain ⟨hlt, rfl⟩ := List.getElem?_eq_some_iff.mp hrec
  rw [List.map_set, tamperRecord_get hrec' (by decide) (by decide)]
  refine List.ext_getElem (by simp) fun i hi hi' => ?_
  rw [List.getElem_set]
  split
  · rename_i heq
    subst heq
    rw [List.getElem_map]
  · rfl

theorem lastHash_map (records : List (Record F)) : lastHash records =
    match (records.map (Assoc.get · "hash")).getLast? with
    | some (some v) => v.pyStr
    | _ => genesisPrev := by
  unfold lastHash
  rw [List.getLast?_map]
  cases records.getLast? with
  | none => rfl
  | some rec =>
    dsimp only [Option.map_some]
    split <;> simp_all

end

/-! ## Runs -/

section

variable {F G : Type} [PyFloatOps F] [Sha256]

/-- What is done to the trail. -/
inductive TamperEvent (F : Type) where
  | append (eventName severity time : String) (data : Fields F)
  | inject (index : Int)
  | restore

/-- The server, with the records that were sealed, as they were sealed. -/
structure TamperState (F G : Type) where
  runtime : C2Runtime F G
  sealedRecords : List (Record F)

namespace TamperState

/-- What an event leaves, also where it raises. -/
def next (s : TamperState F G) : TamperEvent F → TamperState F G
  | .append eventName severity time data =>
    let (record, audit) := s.runtime.audit.append eventName severity time data
    ⟨{ s.runtime with audit := audit }, s.sealedRecords ++ [record]⟩
  | .inject index => ⟨(injectAuditTamper index s.runtime).2, s.sealedRecords⟩
  | .restore => ⟨(restoreAuditTamper s.runtime).2, s.sealedRecords⟩

/-- The trail verifies and is what was sealed. -/
def Untampered (s : TamperState F G) : Prop :=
  (verifyAuditChain s.runtime.audit.records).ok = true ∧
    s.runtime.audit.records = s.sealedRecords

/-- A restore returns. -/
def Restorable (s : TamperState F G) : Prop :=
  (restoreAuditTamper s.runtime).1.isOk = true

/-- A server on an intact trail that it has not tampered with. -/
structure Intact (s : TamperState F G) : Prop where
  untampered : s.Untampered
  prev : s.runtime.audit.prev = lastHash s.runtime.audit.records
  snapshot : s.runtime.auditPreTamper = none

/-- An inject that takes a snapshot finds what was sealed, and a restore finds no more records than
the snapshot has. -/
def Careful (s : TamperState F G) : TamperEvent F → Prop
  | .append .. => True
  | .inject _ => 2 ≤ s.runtime.audit.records.length → s.runtime.audit.records = s.sealedRecords
  | .restore => ∀ snapshot, s.runtime.auditPreTamper = some snapshot →
      s.runtime.audit.records.length ≤ snapshot.length

/-- What careful events keep. -/
structure Tracked (s : TamperState F G) : Prop where
  valid : Valid Sealed nextHash genesisPrev s.sealedRecords
  tip : s.runtime.audit.prev = HashChain.tip nextHash genesisPrev s.sealedRecords
  last : lastHash s.runtime.audit.records = s.runtime.audit.prev
  length : s.runtime.audit.records.length = s.sealedRecords.length
  snapshot : ∀ snapshot, s.runtime.auditPreTamper = some snapshot → snapshot <+: s.sealedRecords

theorem Intact.tracked {s : TamperState F G} (h : s.Intact) : s.Tracked := by
  obtain ⟨⟨hok, hsealed⟩, hprev, hnone⟩ := h
  have hlast := lastHash_of_verify hok
  rw [hsealed] at hok hlast
  refine ⟨(verifyAuditChain_ok _).mp hok, ?_, hprev.symm, congrArg List.length hsealed, ?_⟩
  · rw [hprev, hsealed, hlast]
  · rw [hnone]
    intro snapshot h
    cases h

theorem Tracked.append {s : TamperState F G} (h : s.Tracked) (eventName severity time : String)
    (data : Fields F) : (s.next (.append eventName severity time data)).Tracked := by
  have hsealed := sealed_sealRecord s.runtime.audit.prev eventName severity time data
  constructor
  · refine (valid_snoc _ _ _).mpr ⟨h.valid, ?_⟩
    rw [← h.tip]
    exact hsealed
  · change _ = HashChain.tip nextHash genesisPrev (s.sealedRecords ++ [_])
    rw [tip_append, tip_cons, tip_nil, ← h.tip]
    rfl
  · change lastHash (s.runtime.audit.records ++ [_]) = _
    rw [lastHash, List.getLast?_append, List.getLast?_singleton]
    rfl
  · change (s.runtime.audit.records ++ [_]).length = (s.sealedRecords ++ [_]).length
    rw [List.length_append, List.length_append, h.length]
  · intro snapshot hsnapshot
    exact (h.snapshot snapshot hsnapshot).trans (List.prefix_append _ _)

/-- The snapshot is taken where there are two records; tampering with it may raise. -/
theorem inject_cases (index : Int) (s : C2Runtime F G) :
    (s.audit.records.length < 2 ∧ (injectAuditTamper index s).2 = s) ∨
    (2 ≤ s.audit.records.length ∧
      (injectAuditTamper index s).2 = { s with auditPreTamper := some s.audit.records }) ∨
    (2 ≤ s.audit.records.length ∧ ∃ tampered,
      injectOneCharTamper s.audit.records index = .ok tampered ∧
      (injectAuditTamper index s).2 =
        { s with
          auditPreTamper := some s.audit.records
          audit := .replaceRecords tampered }) := by
  unfold injectAuditTamper
  rw [Handler.get_bind]
  by_cases hlt : s.audit.records.length < 2
  · rw [if_pos hlt]
    exact Or.inl ⟨hlt, rfl⟩
  · rw [if_neg hlt, Handler.modify_bind]
    cases htampered : injectOneCharTamper s.audit.records index with
    | error e => exact Or.inr (Or.inl ⟨Nat.le_of_not_lt hlt, rfl⟩)
    | ok tampered => exact Or.inr (Or.inr ⟨Nat.le_of_not_lt hlt, tampered, rfl, rfl⟩)

theorem Tracked.inject {s : TamperState F G} (h : s.Tracked) {index : Int}
    (hcareful : s.Careful (.inject index)) : (s.next (.inject index)).Tracked := by
  have hsnapshot : 2 ≤ s.runtime.audit.records.length → ∀ snapshot,
      some s.runtime.audit.records = some snapshot → snapshot <+: s.sealedRecords := by
    intro htwo snapshot heq
    cases heq
    rw [hcareful htwo]
  unfold next
  dsimp only
  rcases inject_cases index s.runtime with ⟨-, heq⟩ | ⟨htwo, heq⟩ | ⟨htwo, tampered, hok, heq⟩
  · rw [heq]
    exact h
  · rw [heq]
    exact ⟨h.valid, h.tip, h.last, h.length, hsnapshot htwo⟩
  · have hhashes := injectOneCharTamper_hashes hok
    have hlast : lastHash tampered = s.runtime.audit.prev := by
      rw [lastHash_map, hhashes, ← lastHash_map, h.last]
    have hlength : tampered.length = s.runtime.audit.records.length := by
      simpa using congrArg List.length hhashes
    rw [heq]
    exact ⟨h.valid, hlast.trans h.tip, rfl, hlength.trans h.length, hsnapshot htwo⟩

/-- A restore that returns has a snapshot and leaves it as the trail. -/
theorem restore_of_restorable {s : TamperState F G} (h : s.Restorable) : ∃ snapshot,
    s.runtime.auditPreTamper = some snapshot ∧
      s.next .restore =
        ⟨{ s.runtime with audit := .replaceRecords snapshot }, s.sealedRecords⟩ := by
  unfold Restorable at h
  unfold next restoreAuditTamper at *
  rw [Handler.get_bind] at *
  cases hsnapshot : s.runtime.auditPreTamper with
  | none =>
    rw [hsnapshot] at h
    cases h
  | some snapshot => exact ⟨snapshot, rfl, rfl⟩

theorem restore_of_not_restorable {s : TamperState F G} (h : ¬ s.Restorable) :
    s.next .restore = s := by
  unfold Restorable at h
  unfold next restoreAuditTamper at *
  rw [Handler.get_bind] at *
  cases hsnapshot : s.runtime.auditPreTamper with
  | none => rfl
  | some snapshot =>
    rw [hsnapshot] at h
    exact absurd rfl h

/-- A restore gives back what was sealed exactly when nothing was sealed after the snapshot. -/
theorem Tracked.untampered_restore {s : TamperState F G} (h : s.Tracked) (hok : s.Restorable) :
    (s.next .restore).Untampered ↔ s.Careful .restore := by
  obtain ⟨snapshot, hsnapshot, heq⟩ := restore_of_restorable hok
  rw [heq]
  constructor
  · rintro ⟨-, hsealed⟩ snapshot' hsnapshot'
    cases hsnapshot.symm.trans hsnapshot'
    change snapshot = s.sealedRecords at hsealed
    rw [hsealed, h.length]
  · intro hcareful
    have hlength := hcareful snapshot hsnapshot
    rw [h.length] at hlength
    have hsealed := (h.snapshot snapshot hsnapshot).eq_of_length_le hlength
    refine ⟨?_, hsealed⟩
    change (verifyAuditChain snapshot).ok = true
    rw [hsealed]
    exact (verifyAuditChain_ok _).mpr h.valid

theorem Tracked.restore {s : TamperState F G} (h : s.Tracked) (hcareful : s.Careful .restore) :
    (s.next .restore).Tracked := by
  by_cases hok : s.Restorable
  · obtain ⟨hverify, hsealed⟩ := (h.untampered_restore hok).mpr hcareful
    have hlast := lastHash_of_verify hverify
    obtain ⟨snapshot, hsnapshot, heq⟩ := restore_of_restorable hok
    rw [heq] at hlast hsealed ⊢
    change snapshot = s.sealedRecords at hsealed
    change lastHash snapshot = HashChain.tip nextHash genesisPrev snapshot at hlast
    refine ⟨h.valid, ?_, rfl, congrArg List.length hsealed, h.snapshot⟩
    change lastHash snapshot = _
    rw [hlast, hsealed]
  · rw [restore_of_not_restorable hok]
    exact h

theorem Tracked.next {s : TamperState F G} (h : s.Tracked) {e : TamperEvent F}
    (hcareful : s.Careful e) : (s.next e).Tracked := by
  cases e with
  | append eventName severity time data => exact h.append eventName severity time data
  | inject index => exact h.inject hcareful
  | restore => exact h.restore hcareful

/-- One event. -/
def Step (s : TamperState F G) (e : TamperEvent F) (t : TamperState F G) : Prop := t = s.next e

/-- In a run in which every inject that takes a snapshot finds what was sealed and every restore
finds nothing sealed after the snapshot, each restore that returns gives back all that was sealed,
as it was sealed. A restore after such a run does so exactly when nothing was sealed after the
snapshot; one after an inject that finds something else does not. -/
theorem restores_give_back {s t : TamperState F G} (hs : s.Intact)
    {tr : List (Transition (TamperState F G) (TamperEvent F))}
    (hrun : Run (Guarded Careful Step) s tr t) :
    (∀ x ∈ tr, x.label = .restore → x.pre.Restorable → x.post.Untampered) ∧
    (t.Restorable → ((t.next .restore).Untampered ↔ t.Careful .restore)) ∧
    ∀ index, ((t.next (.inject index)).next .restore).Untampered → t.Careful (.inject index) := by
  have htracked : t.Tracked := hrun.invariant hs.tracked fun u e v hu hstep => by
    rw [hstep.2]
    exact hu.next hstep.1
  refine ⟨?_, htracked.untampered_restore, ?_⟩
  · refine hrun.forall_transitions (I := Tracked) hs.tracked ?_
    rintro u e v hu ⟨hcareful, rfl⟩
    refine ⟨hu.next hcareful, ?_⟩
    rintro rfl hok
    exact (hu.untampered_restore hok).mpr hcareful
  · intro index huntampered htwo
    -- the snapshot is the trail the inject found, and the restore writes it back
    have hsnapshot : (t.next (.inject index)).runtime.auditPreTamper =
        some t.runtime.audit.records := by
      unfold next
      dsimp only
      rcases inject_cases index t.runtime with ⟨hlt, -⟩ | ⟨-, heq⟩ | ⟨-, tampered, -, heq⟩
      · exact absurd htwo (Nat.not_le_of_lt hlt)
      · rw [heq]
      · rw [heq]
    have hok : (t.next (.inject index)).Restorable := by
      unfold Restorable restoreAuditTamper
      rw [Handler.get_bind, hsnapshot]
      rfl
    obtain ⟨snapshot, hsome, heq⟩ := restore_of_restorable hok
    cases hsnapshot.symm.trans hsome
    rw [heq] at huntampered
    exact huntampered.2

/-- A server on an empty trail. -/
def start : TamperState Whole Unit := ⟨demoServer, []⟩

/-- A proposal and its approval. -/
def approvedOnce : List (TamperEvent Whole) :=
  [.append "coa_proposed" "Medium" "t0" [("coa_id", .str "a")],
    .append "gate_decision" "High" "t1" [("coa_id", .str "a"), ("verdict", .str "APPROVED")]]

/-- Tampered with twice before the restore. -/
def tamperedTwice : List (TamperEvent Whole) :=
  approvedOnce ++ [.inject 1, .inject 1, .restore]

/-- An acknowledgement between the inject and the restore. -/
def sealedBetween : List (TamperEvent Whole) :=
  approvedOnce ++ [.inject 1, .append "recipient_ack" "Low" "t2" [("coa_id", .str "a")], .restore]

/-- The verdict of a record is an approval. -/
def isApproval (rec : Record Whole) : Bool :=
  match Assoc.get rec "metadata" with
  | some (.obj metadata) => isStr (Assoc.get metadata "verdict") "APPROVED"
  | _ => false

omit [Sha256] in
theorem restore_does_not_give_back :
    letI := plainHash
    start.Intact ∧
      (¬ ∀ x ∈ trace next start tamperedTwice, x.label = .restore → x.pre.Restorable →
        x.post.Untampered) ∧
      ¬ ∀ x ∈ trace next start sealedBetween, x.label = .restore → x.pre.Restorable →
        x.post.Untampered := by
  let := plainHash
  refine ⟨⟨⟨rfl, rfl⟩, rfl, rfl⟩, fun h => ?_, fun h => ?_⟩
  · have hsealed := (h _ (List.mem_of_getLast? rfl) rfl rfl).2
    exact absurd (congrArg (List.map isApproval) hsealed) (by decide)
  · have hsealed := (h _ (List.mem_of_getLast? rfl) rfl rfl).2
    exact absurd (congrArg List.length hsealed) (by decide)

/-- Tampered with once, and restored. -/
def tamperedOnce : List (TamperEvent Whole) := approvedOnce ++ [.inject 1, .restore]

omit [Sha256] in
theorem restores_give_back_tamperedOnce :
    letI := plainHash
    (∀ x ∈ trace next start tamperedOnce, x.label = .restore → x.pre.Restorable →
      x.post.Untampered) ∧
    ((tamperedOnce.foldl next start).Restorable →
      (((tamperedOnce.foldl next start).next .restore).Untampered ↔
        (tamperedOnce.foldl next start).Careful .restore)) ∧
    ∀ index, (((tamperedOnce.foldl next start).next (.inject index)).next .restore).Untampered →
      (tamperedOnce.foldl next start).Careful (.inject index) := by
  let := plainHash
  refine restores_give_back ⟨⟨rfl, rfl⟩, rfl, rfl⟩ (Run.of_trace tamperedOnce start ?_)
  intro x hx
  refine ⟨?_, trace_post next start tamperedOnce x hx⟩
  rcases hx with _ | ⟨_, _ | ⟨_, _ | ⟨_, _ | ⟨_, hx⟩⟩⟩⟩
  · trivial
  · trivial
  · exact fun _ => rfl
  · rintro snapshot hsnapshot
    cases hsnapshot
    exact Nat.le_refl _
  · cases hx

end TamperState

end

end NexusC2
