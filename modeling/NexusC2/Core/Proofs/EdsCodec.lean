import NexusC2.Core.EdsRecord
import NexusC2.Misc.Handler
import Mathlib.Data.List.TakeWhile

/-!
# What the EDS codec keeps

A record whose texts are padded with zeros is read back from its object byte for byte. The other
way round the codec takes more than it gives: an object is given back exactly where its integers
fit their fields, its arrays fill theirs and its texts are strings without NUL.
-/

namespace NexusC2

namespace Ctypes

/-! ## One field -/

/-- A loop that assigns integers leaves the rest of the buffer. -/
theorem fill_ok {α : Type} {n : Nat} {int : α → Except Exc Int} {f : α → Int} {xs : List α}
    (hint : ∀ x ∈ xs, int x = .ok (f x)) (buf : Vector UInt8 n) (i : Nat)
    (hfits : i + xs.length ≤ n) :
    ∃ buf', fill int buf i xs = .ok buf' ∧
      buf'.toList = buf.toList.take i ++ xs.map (fun x => UInt8.ofInt (f x)) ++
        buf.toList.drop (i + xs.length) := by
  induction xs generalizing buf i with
  | nil => exact ⟨buf, rfl, by simp⟩
  | cons x xs ih =>
    rw [List.length_cons] at hfits
    have hi : i < n := by omega
    obtain ⟨buf', hfill, hlist⟩ := ih (fun y hy => hint y (List.mem_cons_of_mem x hy))
      (buf.set i (UInt8.ofInt (f x))) (i + 1) (by omega)
    refine ⟨buf', ?_, ?_⟩
    · rw [fill, hint x List.mem_cons_self]
      change (if h : i < n then _ else _) = _
      rw [dif_pos hi]
      exact hfill
    · have htake : (buf.toList.set i (UInt8.ofInt (f x))).take (i + 1) =
          buf.toList.take i ++ [UInt8.ofInt (f x)] := by
        rw [List.take_add_one, List.take_set_of_le (Nat.le_refl i),
          List.getElem?_set_self (by rwa [Vector.length_toList])]
        rfl
      rw [hlist, Vector.toList_set, htake, List.drop_set_of_lt (by omega), List.map_cons,
        List.length_cons, Nat.add_right_comm i 1, List.append_assoc, List.append_assoc,
        List.append_assoc]
      rfl

theorem ofInt_toNat8 (b : UInt8) : UInt8.ofInt b.toNat = b := by
  have hlt := b.toNat_lt
  unfold UInt8.ofInt
  rw [Int.emod_eq_of_lt (Int.natCast_nonneg _) (by omega), Int.toNat_natCast, UInt8.ofNat_toNat]

/-- Bytes in a buffer of zeros. -/
theorem fill_bytes {n : Nat} {bs : List UInt8} (hfits : bs.length ≤ n) :
    ∃ buf : Vector UInt8 n, fill (fun b : UInt8 => .ok b.toNat) (.replicate n 0) 0 bs = .ok buf ∧
      buf.toList = bs ++ List.replicate (n - bs.length) 0 := by
  obtain ⟨buf, hfill, hlist⟩ := fill_ok (f := fun b : UInt8 => (b.toNat : Int))
    (fun b (_ : b ∈ bs) => rfl) (Vector.replicate n 0) 0 (by rwa [Nat.zero_add])
  refine ⟨buf, hfill, ?_⟩
  simp only [ofInt_toNat8, List.map_id'] at hlist
  rw [hlist, Vector.toList_replicate, Nat.zero_add, List.drop_replicate, List.take_zero,
    List.nil_append]

theorem fill_map {α β : Type} {n : Nat} (int : β → Except Exc Int) (g : α → β)
    (buf : Vector UInt8 n) (i : Nat) (xs : List α) :
    fill int buf i (xs.map g) = fill (fun x => int (g x)) buf i xs := by
  induction xs generalizing buf i with
  | nil => rfl
  | cons x xs ih =>
    rw [List.map_cons, fill, fill]
    simp only [ih]

theorem ofInt_toNat64 (n : UInt64) : UInt64.ofInt n.toNat = n := by
  have hlt := n.toNat_lt
  unfold UInt64.ofInt
  rw [Int.emod_eq_of_lt (Int.natCast_nonneg _) (by omega), Int.toNat_natCast, UInt64.ofNat_toNat]

theorem raising_eq_ok {α : Type} {m : Except Exc α} {a : α} : raising m = .ok a ↔ m = .ok a := by
  cases m <;> simp [raising, Except.mapError]

section

variable {F : Type}

theorem item_eq_ok {data : Fields F} {key : String} {v : Json F} :
    item data key = .ok v ↔ Assoc.get data key = some v := by
  unfold item
  cases Assoc.get data key <;> simp

/-- What the object holds under a key is an integer that fits 64 bits. -/
def StoredInt (data : Fields F) (key : String) : Prop :=
  ∃ n : Nat, n < 2 ^ 64 ∧ Assoc.get data key = some (.int n)

/-- What the object holds under a key is an array of so many bytes. -/
def StoredBytes (n : Nat) (data : Fields F) (key : String) : Prop :=
  ∃ bs : List UInt8, bs.length = n ∧ Assoc.get data key = some (.arr (bs.map fun b => .int b.toNat))

/-- What the object holds under a key is a string without NUL. -/
def StoredText (data : Fields F) (key : String) : Prop :=
  ∃ s : String, '\x00' ∉ s.toList ∧ Assoc.get data key = some (.str s)

variable [PyTextOps F]

/-- An integer field is given back where it held the integer. -/
theorem intField_eq_ok {data : Fields F} {key : String} {n : UInt64}
    (h : intField data key = .ok n) :
    Assoc.get data key = some (.int n.toNat) ↔ StoredInt data key := by
  constructor
  · intro hget
    exact ⟨n.toNat, n.toNat_lt, hget⟩
  · rintro ⟨m, hm, hget⟩
    obtain ⟨v, hv, hint⟩ := except_bind_eq_ok.mp (raising_eq_ok.mp h)
    cases (item_eq_ok.mp hv).symm.trans hget
    cases hint
    have hfits : (UInt64.ofNat m).toNat = m := UInt64.toNat_ofNat_of_lt' hm
    have hback := ofInt_toNat64 (UInt64.ofNat m)
    rw [hfits] at hback
    rw [hget, hback, hfits]

theorem bytesField_of_stored {n : Nat} {data : Fields F} {key : String} {bs : List UInt8}
    (hlength : bs.length = n)
    (hget : Assoc.get data key = some (.arr (bs.map fun b => .int b.toNat))) :
    ∃ buf : Vector UInt8 n, bytesField n data key = .ok buf ∧ buf.toList = bs := by
  obtain ⟨buf, hfill, hlist⟩ := fill_bytes (n := n) hlength.le
  refine ⟨buf, raising_eq_ok.mpr ?_, ?_⟩
  · rw [item_eq_ok.mpr hget]
    change fill pyInt _ 0 (bs.map fun b => .int b.toNat) = _
    rw [fill_map]
    exact hfill
  · rw [hlist, hlength, Nat.sub_self, List.replicate_zero, List.append_nil]

theorem bytesField_byteList {n : Nat} {data : Fields F} {key : String} {buf : Vector UInt8 n}
    (hget : Assoc.get data key = some (byteList buf)) : bytesField n data key = .ok buf := by
  obtain ⟨buf', hbuf', hlist⟩ := bytesField_of_stored Vector.length_toList hget
  rw [hbuf', Vector.toList_inj.mp hlist]

/-- An array is given back where it held as many bytes as it has places. -/
theorem bytesField_eq_ok {n : Nat} {data : Fields F} {key : String} {buf : Vector UInt8 n}
    (h : bytesField n data key = .ok buf) :
    Assoc.get data key = some (byteList buf) ↔ StoredBytes n data key := by
  constructor
  · intro hget
    exact ⟨buf.toList, Vector.length_toList, hget⟩
  · rintro ⟨bs, hlength, hget⟩
    obtain ⟨buf', hbuf', hlist⟩ := bytesField_of_stored hlength hget
    cases h.symm.trans hbuf'
    rw [byteList, hlist, hget]

omit [PyTextOps F] in
/-- A text in its buffer, padded with zeros. -/
theorem textBuffer_ok {n : Nat} {cs : List Char} (hfits : (Utf8.encode cs).length ≤ n) :
    ∃ buf : Vector UInt8 n, textBuffer n (Utf8.encode cs) = .ok buf ∧
      buf.toList = Utf8.encode cs ++ List.replicate (n - (Utf8.encode cs).length) 0 := by
  obtain ⟨buf, hfill, hlist⟩ := fill_bytes hfits
  exact ⟨buf, raising_eq_ok.mpr hfill, hlist⟩

/-- A text is read back from its buffer up to the first NUL. -/
theorem decodeCstr_padded {n m : Nat} {buf : Vector UInt8 n} {cs : List Char}
    (h : buf.toList = Utf8.encode cs ++ List.replicate m 0) :
    decodeCstr buf = String.ofList (cs.takeWhile (· ≠ '\x00')) := by
  rw [decodeCstr, h, Utf8.takeWhile_encode, Utf8.decodeReplace_encode]

/-- What the record reads from a text is given back where the object held a string without NUL. -/
theorem textField_eq_ok {n : Nat} {data : Fields F} {key : String} {bs : List UInt8}
    {buf : Vector UInt8 n} (h : textField data key = .ok bs) (hfits : bs.length ≤ n)
    (hbuf : textBuffer n bs = .ok buf) :
    Assoc.get data key = some (.str (decodeCstr buf)) ↔ StoredText data key := by
  obtain ⟨v, hv, hbs⟩ := except_bind_eq_ok.mp (raising_eq_ok.mp h)
  obtain rfl := Except.ok.inj hbs
  obtain ⟨buf', hbuf', hlist⟩ := textBuffer_ok hfits
  cases hbuf.symm.trans hbuf'
  have hget := item_eq_ok.mp hv
  rw [decodeCstr_padded hlist, hget]
  constructor
  · intro hsame
    refine ⟨_, ?_, hget.trans hsame⟩
    rw [String.toList_ofList]
    intro hmem
    exact absurd (List.mem_takeWhile_imp hmem) (by simp)
  · rintro ⟨s, hnul, hs⟩
    cases hget.symm.trans hs
    have hall : s.toList.takeWhile (· ≠ '\x00') = s.toList :=
      List.takeWhile_eq_self_iff.mpr fun c hc => decide_eq_true fun hzero => hnul (hzero ▸ hc)
    rw [Json.pyStr, hall, String.ofList_toList]

/-! ## The record -/

/-- What a record is made of. -/
theorem jsonDictToRecord_eq_ok {data : Fields F} {rec : EdsAuditRecord} :
    jsonDictToRecord data = .ok rec ↔
      intField data "sequence" = .ok rec.sequence ∧
      intField data "timestamp_ms" = .ok rec.timestampMs ∧
      bytesField 32 data "payload_hash" = .ok rec.payloadHash ∧
      bytesField 64 data "signature" = .ok rec.signature ∧
      bytesField 32 data "prev_record_hash" = .ok rec.prevRecordHash ∧
      ∃ did oref, textField data "device_id" = .ok did ∧ textField data "object_ref" = .ok oref ∧
        did.length ≤ 255 ∧ oref.length ≤ 511 ∧
        textBuffer 256 did = .ok rec.deviceId ∧ textBuffer 512 oref = .ok rec.objectRef := by
  unfold jsonDictToRecord
  constructor
  · intro h
    obtain ⟨sequence, hsequence, h⟩ := except_bind_eq_ok.mp h
    obtain ⟨timestampMs, htimestamp, h⟩ := except_bind_eq_ok.mp h
    obtain ⟨payloadHash, hpayload, h⟩ := except_bind_eq_ok.mp h
    obtain ⟨signature, hsignature, h⟩ := except_bind_eq_ok.mp h
    obtain ⟨prevRecordHash, hprev, h⟩ := except_bind_eq_ok.mp h
    obtain ⟨did, hdid, h⟩ := except_bind_eq_ok.mp h
    obtain ⟨oref, horef, h⟩ := except_bind_eq_ok.mp h
    split at h
    · cases h
    · rename_i hlength
      obtain ⟨deviceId, hdevice, h⟩ := except_bind_eq_ok.mp h
      obtain ⟨objectRef, hobject, h⟩ := except_bind_eq_ok.mp h
      cases h
      exact ⟨hsequence, htimestamp, hpayload, hsignature, hprev, did, oref, hdid, horef, by omega,
        by omega, hdevice, hobject⟩
  · rintro ⟨hsequence, htimestamp, hpayload, hsignature, hprev, did, oref, hdid, horef, hdlength,
      holength, hdevice, hobject⟩
    rw [hsequence, htimestamp, hpayload, hsignature, hprev, hdid, horef]
    change (if _ then _ else _) = _
    rw [if_neg (by omega), hdevice, hobject]
    rfl

/-- A text without NUL in a buffer, with zeros after it. -/
def Padded {n : Nat} (buf : Vector UInt8 n) : Prop :=
  ∃ cs : List Char, '\x00' ∉ cs ∧ (Utf8.encode cs).length < n ∧
    buf.toList = Utf8.encode cs ++ List.replicate (n - (Utf8.encode cs).length) 0

omit [PyTextOps F] in
/-- A padded text is read, encoded and written back. -/
theorem Padded.textBuffer {n : Nat} {buf : Vector UInt8 n} (h : Padded buf) :
    (Utf8.encode (decodeCstr buf).toList).length < n ∧
      textBuffer n (Utf8.encode (decodeCstr buf).toList) = .ok buf := by
  obtain ⟨cs, hnul, hlength, hlist⟩ := h
  have hall : cs.takeWhile (· ≠ '\x00') = cs :=
    List.takeWhile_eq_self_iff.mpr fun c hc => decide_eq_true fun hzero => hnul (hzero ▸ hc)
  rw [decodeCstr_padded hlist, hall, String.toList_ofList]
  obtain ⟨buf', hbuf', hlist'⟩ := textBuffer_ok hlength.le
  refine ⟨hlength, ?_⟩
  rw [hbuf', Vector.toList_inj.mp (hlist'.trans hlist.symm)]

/-- An object as the codec writes it. -/
structure Stored (data : Fields F) : Prop where
  deviceId : StoredText data "device_id"
  sequence : StoredInt data "sequence"
  timestampMs : StoredInt data "timestamp_ms"
  payloadHash : StoredBytes 32 data "payload_hash"
  signature : StoredBytes 64 data "signature"
  prevRecordHash : StoredBytes 32 data "prev_record_hash"
  objectRef : StoredText data "object_ref"

/-- The object has the values of the record's seven fields. -/
def SameValues (rec : EdsAuditRecord) (data : Fields F) : Prop :=
  ∀ key v, Assoc.get (recordToJsonDict rec) key = some v → Assoc.get data key = some v

omit [PyTextOps F] in
theorem sameValues_iff {rec : EdsAuditRecord} {data : Fields F} :
    SameValues rec data ↔
      Assoc.get data "device_id" = some (.str (decodeCstr rec.deviceId)) ∧
      Assoc.get data "sequence" = some (.int rec.sequence.toNat) ∧
      Assoc.get data "timestamp_ms" = some (.int rec.timestampMs.toNat) ∧
      Assoc.get data "payload_hash" = some (byteList rec.payloadHash) ∧
      Assoc.get data "signature" = some (byteList rec.signature) ∧
      Assoc.get data "prev_record_hash" = some (byteList rec.prevRecordHash) ∧
      Assoc.get data "object_ref" = some (.str (decodeCstr rec.objectRef)) := by
  constructor
  · intro h
    exact ⟨h _ _ rfl, h _ _ rfl, h _ _ rfl, h _ _ rfl, h _ _ rfl, h _ _ rfl, h _ _ rfl⟩
  · rintro ⟨hdevice, hsequence, htimestamp, hpayload, hsignature, hprev, hobject⟩ key v hget
    have hmem := Assoc.mem_of_get hget
    simp only [recordToJsonDict, List.mem_cons, Prod.mk.injEq, List.not_mem_nil, or_false] at hmem
    rcases hmem with ⟨rfl, rfl⟩ | ⟨rfl, rfl⟩ | ⟨rfl, rfl⟩ | ⟨rfl, rfl⟩ | ⟨rfl, rfl⟩ | ⟨rfl, rfl⟩ |
      ⟨rfl, rfl⟩ <;> assumption

/-- A record with padded texts is read back from its object byte for byte. -/
theorem jsonDictToRecord_recordToJsonDict {rec : EdsAuditRecord} (hdevice : Padded rec.deviceId)
    (hobject : Padded rec.objectRef) :
    jsonDictToRecord (recordToJsonDict (F := F) rec) = .ok rec := by
  obtain ⟨hdlength, hdbuffer⟩ := hdevice.textBuffer
  obtain ⟨holength, hobuffer⟩ := hobject.textBuffer
  exact jsonDictToRecord_eq_ok.mpr ⟨congrArg Except.ok (ofInt_toNat64 rec.sequence),
    congrArg Except.ok (ofInt_toNat64 rec.timestampMs), bytesField_byteList rfl,
    bytesField_byteList rfl, bytesField_byteList rfl, _, _, rfl, rfl,
    Nat.le_of_lt_succ hdlength, Nat.le_of_lt_succ holength, hdbuffer, hobuffer⟩

/-- The two directions of the codec: a record with padded texts is read back byte for byte, and an
object that is read is given back exactly where it is one that the codec writes. -/
theorem eds_codec (F : Type) [PyTextOps F] :
    (∀ rec : EdsAuditRecord, Padded rec.deviceId → Padded rec.objectRef →
      jsonDictToRecord (recordToJsonDict (F := F) rec) = .ok rec) ∧
    ∀ (data : Fields F) (rec : EdsAuditRecord), jsonDictToRecord data = .ok rec →
      (SameValues rec data ↔ Stored data) := by
  constructor
  · intro rec hdevice hobject
    exact jsonDictToRecord_recordToJsonDict hdevice hobject
  · intro data rec h
    obtain ⟨hsequence, htimestamp, hpayload, hsignature, hprev, did, oref, hdid, horef, hdlength,
      holength, hdbuffer, hobuffer⟩ := jsonDictToRecord_eq_ok.mp h
    rw [sameValues_iff, textField_eq_ok hdid (by omega) hdbuffer,
      textField_eq_ok horef (by omega) hobuffer, intField_eq_ok hsequence,
      intField_eq_ok htimestamp, bytesField_eq_ok hpayload, bytesField_eq_ok hsignature,
      bytesField_eq_ok hprev]
    constructor
    · rintro ⟨h₁, h₂, h₃, h₄, h₅, h₆, h₇⟩
      exact ⟨h₁, h₂, h₃, h₄, h₅, h₆, h₇⟩
    · rintro ⟨h₁, h₂, h₃, h₄, h₅, h₆, h₇⟩
      exact ⟨h₁, h₂, h₃, h₄, h₅, h₆, h₇⟩

end

/-- A stored record with one number, which is no byte, for the payload hash. -/
def shortRecord : Fields Whole :=
  [("device_id", .str "nexus-c2"), ("sequence", .int 1), ("timestamp_ms", .int 0),
    ("payload_hash", .arr [.int 256]), ("signature", .arr []), ("prev_record_hash", .arr []),
    ("object_ref", .str "gate/1/a")]

theorem short_record_read_as_another :
    ∃ rec, jsonDictToRecord shortRecord = .ok rec ∧ ¬ SameValues rec shortRecord := by
  have hok : (jsonDictToRecord shortRecord).isOk = true := by decide +kernel
  cases hread : jsonDictToRecord shortRecord with
  | error e =>
    rw [hread] at hok
    cases hok
  | ok rec =>
    refine ⟨rec, rfl, fun hsame => ?_⟩
    -- the record gives 32 numbers
    have hpayload := (sameValues_iff.mp hsame).2.2.2.1
    have hlength := congrArg List.length (Json.arr.inj (Option.some.inj hpayload))
    rw [List.length_map, Vector.length_toList] at hlength
    exact absurd hlength (by decide)

end Ctypes

end NexusC2
