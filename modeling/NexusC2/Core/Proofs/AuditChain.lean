import NexusC2.Core.Audit
import NexusC2.Misc.HashChain
import NexusC2.Misc.JsonRoundTrip

/-!
# The chain checkers and the file

Both checkers of `core/audit.py` are instances of `HashChain.Valid`: `chain_break_index` checks
the links, `verify_audit_chain` the links and the digests. A record that `append` seals fits
the hash it was sealed under, and a text that ends its last line grows by one record when the
line of a record is appended to it.
-/

namespace NexusC2

open HashChain

section

variable {F : Type} [PyFloatOps F]

omit [PyFloatOps F] in
theorem isStr_iff {v : Option (Json F)} {s : String} : isStr v s = true ↔ v = some (.str s) := by
  unfold isStr
  split <;> simp_all

/-- The record links to a hash. -/
def Linked (prev : String) (record : Record F) : Prop :=
  Assoc.get record "prev_hash" = some (.str prev)

/-- The hash a record leaves for the next one, as `verify_audit_chain` keeps it. -/
def nextHash (prev : String) (record : Record F) : String :=
  match Assoc.get record "hash" with
  | some (.str stored) => stored
  | _ => prev

theorem chainBreakFrom_eq_none (prev : String) (i : Nat) (records : List (Record F)) :
    chainBreakFrom prev i records = none ↔ Valid Linked (fun _ r => hashText r) prev records := by
  induction records generalizing prev i with
  | nil => simp [chainBreakFrom, Valid]
  | cons record records ih =>
    simp only [chainBreakFrom, Valid, Linked]
    by_cases h : isStr (Assoc.get record "prev_hash") prev = true
    · rw [if_pos h, ih]
      simp [isStr_iff.mp h]
    · rw [if_neg h]
      simp [mt isStr_iff.mpr h]

/-- `chain_break_index` finds nothing exactly when every record links. -/
theorem chainBreakIndex_eq_none (records : List (Record F)) :
    chainBreakIndex records = none ↔ Valid Linked (fun _ r => hashText r) genesisPrev records :=
  chainBreakFrom_eq_none genesisPrev 0 records

variable [Sha256]

/-- The record links to a hash and carries the digest of its own body. -/
def Sealed (prev : String) (record : Record F) : Prop :=
  Linked prev record ∧ Assoc.get record "hash" = some (.str (bodyDigest record))

omit [Sha256] in
theorem ChainWalk.errors_note (w : ChainWalk) (i : Nat) (what : String) :
    (w.note i what).errors ≠ [] := by
  simp [ChainWalk.note]

theorem ChainWalk.errors_visit (w : ChainWalk) (i : Nat) (record : Record F) :
    (w.visit i record).errors = [] ↔ w.errors = [] ∧ Sealed w.prev record := by
  unfold ChainWalk.visit Sealed Linked
  rw [← isStr_iff, ← isStr_iff]
  cases isStr (Assoc.get record "prev_hash") w.prev <;>
    cases isStr (Assoc.get record "hash") (bodyDigest record) <;>
    simp [ChainWalk.errors_note]

theorem ChainWalk.prev_visit (w : ChainWalk) (i : Nat) (record : Record F) :
    (w.visit i record).prev = nextHash w.prev record := rfl

theorem ChainWalk.errors_walk (w : ChainWalk) (i : Nat) (records : List (Record F)) :
    (w.walk i records).errors = [] ↔ w.errors = [] ∧ Valid Sealed nextHash w.prev records := by
  induction records generalizing w i with
  | nil => simp [ChainWalk.walk, Valid]
  | cons record records ih =>
    rw [ChainWalk.walk, ih, ChainWalk.errors_visit, ChainWalk.prev_visit, Valid, and_assoc]

/-- `verify_audit_chain` passes exactly when every record links and carries its digest. -/
theorem verifyAuditChain_ok (records : List (Record F)) :
    (verifyAuditChain records).ok = true ↔ Valid Sealed nextHash genesisPrev records := by
  have h := ChainWalk.errors_walk (ChainWalk.mk genesisPrev [] none none) 0 records
  simpa [verifyAuditChain] using h

theorem Sealed.nextHash_eq {prev : String} {record : Record F} (h : Sealed prev record) :
    nextHash prev record = bodyDigest record := by
  simp only [nextHash, h.2]

omit [Sha256] in
theorem hashText_of_str {record : Record F} {s : String}
    (h : Assoc.get record "hash" = some (.str s)) : hashText record = s := by
  simp only [hashText, h, Json.truth, Json.pyStr, decide_not, Bool.not_eq_eq_eq_not, Bool.not_true,
    decide_eq_false_iff_not, ite_not]
  split
  · rename_i hs
    exact hs.symm
  · rfl

theorem Sealed.hashText_eq {prev : String} {record : Record F} (h : Sealed prev record) :
    hashText record = nextHash prev record := by
  rw [h.nextHash_eq, hashText_of_str h.2]

/-- A trail that verifies has no broken link. -/
theorem chainBreakIndex_of_verify {records : List (Record F)}
    (h : (verifyAuditChain records).ok = true) : chainBreakIndex records = none :=
  (chainBreakIndex_eq_none records).mpr <|
    ((verifyAuditChain_ok records).mp h).mono (fun _ _ hs => hs.1) fun _ _ hs => hs.hashText_eq

/-- The hash of the last record of a trail that verifies is the tip of its chain. -/
theorem lastHash_of_verify {records : List (Record F)}
    (h : (verifyAuditChain records).ok = true) :
    lastHash records = tip nextHash genesisPrev records := by
  have hvalid := (verifyAuditChain_ok records).mp h
  rcases List.eq_nil_or_concat records with rfl | ⟨init, last, rfl⟩
  · rfl
  · rw [List.concat_eq_append] at hvalid ⊢
    obtain ⟨_, hlast⟩ := (valid_snoc _ _ _).mp hvalid
    rw [tip_append, tip_cons, tip_nil, hlast.nextHash_eq]
    simp [lastHash, hlast.2, Json.pyStr]

/-! ## Sealed records -/

variable (prev eventName severity time : String) (data : Fields F)

theorem get_hash_sealRecord : Assoc.get (sealRecord prev eventName severity time data) "hash" =
    some (.str (digestOf (.obj (eventBody prev eventName severity time data)))) := rfl

theorem recordBody_sealRecord : recordBody (sealRecord prev eventName severity time data) =
    eventBody prev eventName severity time data := by
  simp [recordBody, sealRecord, eventBody]

/-- A record fits the hash it was sealed under. -/
theorem sealed_sealRecord : Sealed prev (sealRecord prev eventName severity time data) := by
  refine ⟨rfl, ?_⟩
  rw [get_hash_sealRecord, bodyDigest, recordBody_sealRecord]

theorem linked_sealRecord {prev' : String} :
    Linked prev' (sealRecord prev eventName severity time data) ↔ prev' = prev := by
  have hget : Assoc.get (sealRecord prev eventName severity time data) "prev_hash" =
      some (.str prev) := rfl
  simp only [Linked, hget, Option.some.injEq, Json.str.injEq]
  exact eq_comm

theorem wf_sealRecord (hdata : (Json.obj data).wf = true) :
    (Json.obj (sealRecord prev eventName severity time data)).wf = true := by
  have hkeys : (Assoc.keys (sealRecord prev eventName severity time data)).Nodup := by
    change ["class_name", "activity_name", "severity", "time", "metadata", "prev_hash",
      "hash"].Nodup
    decide
  rw [Json.wf, decide_eq_true hkeys, Bool.true_and]
  simp only [sealRecord, eventBody, List.cons_append, List.nil_append, Json.wfFields, hdata]
  rfl

end

/-! ## A trail that goes on -/

section

variable {F : Type} [PyFloatOps F]

/-- The links of the trail are whole, and the logger and a new logger have the hash they end in. -/
structure AuditTrail.Live (t : AuditTrail F) : Prop where
  links : Valid Linked (fun _ r => hashText r) genesisPrev t.records
  prev : t.prev = tip (fun _ r => hashText r) genesisPrev t.records
  last : lastHash t.records = t.prev

theorem AuditTrail.live_empty : (⟨[], genesisPrev⟩ : AuditTrail F).Live := ⟨trivial, rfl, rfl⟩

theorem AuditTrail.Live.append [Sha256] {t : AuditTrail F} (h : t.Live)
    (eventName severity time : String) (data : Fields F) :
    (t.append eventName severity time data).2.Live := by
  have hhash := get_hash_sealRecord t.prev eventName severity time data
  constructor
  · refine (valid_snoc _ _ _).mpr ⟨h.links, ?_⟩
    rw [linked_sealRecord, ← h.prev]
  · show _ = tip _ genesisPrev (t.records ++ [sealRecord t.prev eventName severity time data])
    rw [tip_append, tip_cons, tip_nil, hashText_of_str hhash]
    rfl
  · show lastHash (t.records ++ [sealRecord t.prev eventName severity time data]) = _
    simp only [lastHash, List.getLast?_append, List.getLast?_singleton, Option.some_or, hhash]
    rfl

/-- A live trail is opened again as it was left. -/
theorem AuditTrail.Live.reopen {t : AuditTrail F} (h : t.Live) : t.reopen = t := by
  unfold AuditTrail.reopen
  rw [if_pos ((chainBreakIndex_eq_none _).mpr h.links), h.last]

end

/-! ## The file -/

section

variable {F : Type} [PyFloat F]

omit [PyFloat F] in
theorem loadLines_append [PyFloatOps F] (ls ms : List (List Char)) :
    loadLines (F := F) (ls ++ ms) = (do some ((← loadLines ls) ++ (← loadLines ms))) := by
  induction ls with
  | nil => simp [loadLines]
  | cons l ls ih =>
    simp only [List.cons_append, loadLines, ih]
    cases loadLine (F := F) l with
    | none => rfl
    | some a =>
      cases loadLines (F := F) ls with
      | none => rfl
      | some b =>
        cases loadLines (F := F) ms with
        | none => rfl
        | some c => simp

/-- The line of a record gives the record back. -/
theorem loadLine_recordLine {record : Record F} (hwf : (Json.obj record).wf = true) :
    loadLine (recordLine record) = some [record] := by
  obtain ⟨m, hm⟩ := Json.toText_obj record
  have hstrip : Text.stripChars (recordLine record) = Json.toText (.obj record) := by
    rw [recordLine, hm]
    exact Text.stripChars_line (by decide) (by decide)
  unfold loadLine
  rw [hstrip, hm]
  dsimp only
  rw [← hm, Json.loads_toText hwf]

theorem recordLine_ne_cr (record : Record F) : ∀ c ∈ recordLine record, c ≠ '\r' := by
  intro c hc
  rcases List.mem_append.mp hc with hc | hc
  · exact (Json.inline_toText (Json.obj record) c hc).2
  · rw [List.mem_singleton.mp hc]
    decide

theorem loadText_recordLine {record : Record F} (hwf : (Json.obj record).wf = true) :
    loadText (recordLine record) = some [record] := by
  have hlines : Text.lines (recordLine record) = [recordLine record] :=
    Text.lines_line fun c hc => (Json.inline_toText (Json.obj record) c hc).1
  rw [loadText, Text.translateNewlines_eq_self (recordLine_ne_cr record), hlines]
  simp only [loadLines, loadLine_recordLine hwf, Option.bind_eq_bind, Option.bind_some,
    List.append_nil]

omit [PyFloat F] in
theorem endsLine_recordLine [PyFloatOps F] (record : Record F) :
    Text.EndsLine (recordLine record) := Or.inr ⟨_, rfl⟩

/-- A text that ends its last line grows by one record when a record is appended to it. -/
theorem loadText_append {text : List Char} {records : List (Record F)}
    (hload : loadText text = some records) (hend : Text.EndsLine text) {record : Record F}
    (hwf : (Json.obj record).wf = true) :
    loadText (text ++ recordLine record) = some (records ++ [record]) := by
  have hline := loadText_recordLine hwf
  unfold loadText at hload hline ⊢
  rw [Text.translateNewlines_append hend, Text.lines_append hend.translateNewlines,
    loadLines_append, hload, hline]
  rfl

end

end NexusC2
