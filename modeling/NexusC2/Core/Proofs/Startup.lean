import NexusC2.Core.Proofs.AppendOnly
import NexusC2.Misc.JsonExtend

/-!
# Which logs a logger starts on

`AuditLogger(path)` on an arbitrary file: bytes that need be no UTF-8, lines that need be no
JSON, a last line without an end, records without a `hash`. Loading raises at a line that is no
JSON; an append joins what the file leaves open; `_rewind_from_disk` reads a missing or false
`hash` otherwise than `chain_break_index` does. Apart from these the trail links, now and after
any appends.
-/

namespace NexusC2

open HashChain

/-- `path.open(encoding="utf-8")`: the characters of the file, `none` where the bytes are no
UTF-8. Everything the logger writes is, so only the first reading needs this. -/
def decodeFile (content : Option ByteArray) : Option (Option (List Char)) :=
  match content with
  | none => some none
  | some bytes => (String.fromUTF8? bytes).map fun s => some s.toList

section

variable {F : Type} [PyFloatOps F]

variable (F) in
/-- `AuditLogger(path)` on a file with these bytes. -/
def AuditState.boot (content : Option ByteArray) : Option AuditState := do
  let live ← decodeFile content
  AuditState.start F ⟨live, []⟩

end

section

variable {F : Type} [PyFloat F]

/-! ## Appending to an arbitrary file -/

omit [PyFloat F] in
theorem loadLine_congr [PyFloatOps F] {l m : List Char}
    (h : Text.stripChars l = Text.stripChars m) : loadLine (F := F) l = loadLine m := by
  unfold loadLine
  rw [h]

omit [PyFloat F] in
theorem loadLines_open [PyFloatOps F] {l : List Char} (h : ∀ c ∈ l, c ≠ '\n') :
    loadLines (F := F) (Text.lines l) = loadLine l := by
  by_cases hne : l = []
  · subst hne
    rfl
  · rw [Text.lines_open h hne]
    simp only [loadLines]
    cases loadLine (F := F) l <;> simp

/-- A file with the line of a record appended reads as the lines that were ended, then the open
one joined with the line of the record. -/
theorem loadText_snoc (text : List Char) (record : Record F) : ∃ ended : List (List Char),
    loadText (F := F) text = (do
      some ((← loadLines ended) ++ (← loadLine (Text.openLine (Text.translateNewlines text))))) ∧
    loadText (F := F) (text ++ recordLine record) = (do
      some ((← loadLines ended) ++
        (← loadLine (Text.openLine (Text.translateNewlines text) ++ recordLine record)))) := by
  obtain ⟨u, hu, ht⟩ := Text.exists_ended (Text.translateNewlines text)
  obtain ⟨m, hm⟩ := Json.toText_obj record
  have hhead : (recordLine record).head? ≠ some '\n' := by
    rw [recordLine, hm]
    simp
  refine ⟨Text.lines u, ?_, ?_⟩
  · unfold loadText
    conv_lhs => rw [ht, Text.lines_append hu, loadLines_append, loadLines_open Text.openLine_ne]
  · unfold loadText
    rw [Text.translateNewlines_append_of_head hhead,
      Text.translateNewlines_eq_self (recordLine_ne_cr record)]
    conv_lhs => rw [ht, List.append_assoc, Text.lines_append hu, loadLines_append]
    have hline : Text.lines (Text.openLine (Text.translateNewlines text) ++ recordLine record) =
        [Text.openLine (Text.translateNewlines text) ++ recordLine record] := by
      rw [recordLine, ← List.append_assoc]
      refine Text.lines_line fun c hc => ?_
      rcases List.mem_append.mp hc with hc | hc
      · exact Text.openLine_ne c hc
      · exact (Json.inline_toText (Json.obj record) c hc).1
    rw [hline]
    simp only [loadLines]
    cases loadLine (F := F) (Text.openLine (Text.translateNewlines text) ++ recordLine record) <;>
      simp

/-- After a blank open line a record is read as one more record. -/
theorem loadText_append_blank {text : List Char} {records : List (Record F)}
    (hload : loadText text = some records)
    (hblank : Text.stripChars (Text.openLine (Text.translateNewlines text)) = [])
    {record : Record F} (hwf : (Json.obj record).wf = true) :
    loadText (text ++ recordLine record) = some (records ++ [record]) := by
  obtain ⟨ended, hbefore, hafter⟩ := loadText_snoc text record
  have hempty : loadLine (F := F) (Text.openLine (Text.translateNewlines text)) = some [] := by
    unfold loadLine
    rw [hblank]
  have hline := loadLine_congr (F := F)
    (Text.stripChars_append_blank hblank (recordLine record))
  rw [loadLine_recordLine hwf] at hline
  rw [hafter, hline]
  rw [hload, hempty] at hbefore
  cases hended : loadLines (F := F) ended with
  | none =>
    rw [hended] at hbefore
    cases hbefore
  | some rs =>
    rw [hended] at hbefore
    simpa using hbefore.symm

variable [Sha256]

/-- The file has these records, which link, an append starts a line of its own, and the logger
has the hash the links end in. -/
structure Ready (s : AuditState) (records : List (Record F)) : Prop where
  load : loadAuditRecords s.disk.live = some records
  blank : Text.stripChars (Text.openLine (Text.translateNewlines (s.disk.live.getD []))) = []
  links : Valid Linked (fun _ r => hashText r) genesisPrev records
  prev : s.logger.prev = tip (fun _ r => hashText r) genesisPrev records

theorem Ready.append {s : AuditState} {records : List (Record F)} (h : Ready s records)
    (eventName severity time : String) (data : JsonObject F) :
    ∃ new s', s.step (.append eventName severity time data) = some (new, s') ∧
      Ready s' (records ++ new) := by
  have hwf := wf_sealRecord s.logger.prev eventName severity time data.fields data.wf
  have htext : loadText (s.disk.live.getD []) = some records := by
    have hload := h.load
    cases hlive : s.disk.live with
    | none =>
      rw [hlive] at hload
      exact hload
    | some text =>
      rw [hlive] at hload
      exact hload
  refine ⟨[sealRecord s.logger.prev eventName severity time data.fields], _, rfl, ?_⟩
  constructor
  · exact loadText_append_blank htext h.blank hwf
  · have hends : Text.EndsLine (Text.translateNewlines (s.disk.live.getD [] ++
        recordLine (sealRecord s.logger.prev eventName severity time data.fields))) := by
      refine Text.EndsLine.translateNewlines ?_
      rw [recordLine, ← List.append_assoc]
      exact Or.inr ⟨_, rfl⟩
    change Text.stripChars (Text.openLine (Text.translateNewlines (s.disk.live.getD [] ++
      recordLine (sealRecord s.logger.prev eventName severity time data.fields)))) = []
    rw [hends.openLine]
    rfl
  · refine (valid_snoc _ _ _).mpr ⟨h.links, ?_⟩
    rw [linked_sealRecord, h.prev]
  · rw [tip_append, tip_cons, tip_nil,
      hashText_of_str (get_hash_sealRecord s.logger.prev eventName severity time data.fields)]

theorem Ready.run {s : AuditState} {records : List (Record F)} (h : Ready s records)
    (ops : List (AuditOp F)) (happends : AuditOp.restart ∉ ops) :
    ∃ new s', s.run ops = some (new, s') ∧ Ready s' (records ++ new) := by
  induction ops generalizing s records with
  | nil => exact ⟨[], s, rfl, by rwa [List.append_nil]⟩
  | cons op ops ih =>
    cases op with
    | restart => exact absurd List.mem_cons_self happends
    | append eventName severity time data =>
      obtain ⟨new, s', hstep, hs'⟩ := h.append eventName severity time data
      obtain ⟨rest, s'', hrun, hs''⟩ := ih hs' fun hmem =>
        happends (List.mem_cons_of_mem _ hmem)
      refine ⟨new ++ rest, s'', ?_, ?_⟩
      · simp [AuditState.run, hstep, hrun]
      · rwa [← List.append_assoc]

end

end NexusC2
