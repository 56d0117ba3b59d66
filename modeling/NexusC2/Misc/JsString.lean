import NexusC2.Misc.JsonRoundTrip
import NexusC2.Misc.Utf8

/-!
# Strings of JavaScript

A string of JavaScript is a sequence of UTF-16 units, in which a surrogate may stand alone;
`TextEncoder` encodes U+FFFD in its place. The bitwise operators work on 32 bits, whatever number
they are given.
-/

namespace NexusC2

namespace Utf16

open Json (isHighSurrogate isLowSurrogate)

/-- What a unit outside a pair is read as. -/
def scalarValue (n : Nat) : Char :=
  if isHighSurrogate n ∨ isLowSurrogate n then '\uFFFD' else Char.ofNat n

/-- `s.toWellFormed()`: the scalar values of the units. -/
def scalarValues : List Nat → List Char
  | [] => []
  | [n] => [scalarValue n]
  | n :: m :: us =>
    if isHighSurrogate n ∧ isLowSurrogate m then
      Char.ofNat (0x10000 + (n - 0xd800) * 0x400 + (m - 0xdc00)) :: scalarValues us
    else scalarValue n :: scalarValues (m :: us)

/-- A surrogate that stands alone becomes U+FFFD, also where one of the other kind precedes it. -/
example : scalarValues [0x61, 0xdc00, 0xd83d, 0xde00, 0xd83d] = ['a', '\uFFFD', '😀', '\uFFFD'] := by
  decide

/-- Units that spell characters are read as these. -/
theorem scalarValues_of_joinUnits {us : List Nat} {cs : List Char}
    (h : Json.joinUnits us = some cs) : scalarValues us = cs := by
  fun_induction scalarValues us generalizing cs with
  | case1 =>
    cases h
    rfl
  | case2 n =>
    unfold Json.joinUnits at h
    split at h
    · cases h
    · cases h
      rw [scalarValue, if_neg ‹_›]
  | case3 n m us hpair ih =>
    rw [Json.joinUnits, if_pos hpair] at h
    obtain ⟨rest, hrest, h⟩ := Option.bind_eq_some_iff.mp h
    cases h
    rw [ih hrest]
  | case4 n m us hpair ih =>
    rw [Json.joinUnits, if_neg hpair] at h
    split at h
    · cases h
    · obtain ⟨rest, hrest, h⟩ := Option.bind_eq_some_iff.mp h
      cases h
      rw [ih hrest, scalarValue, if_neg ‹_›]

theorem toNat_ofNat_le (n : Nat) : (Char.ofNat n).toNat ≤ n := by
  unfold Char.ofNat
  by_cases hvalid : n.isValidChar
  · rw [dif_pos hvalid]
    exact Nat.le_refl n
  · rw [dif_neg hvalid]
    exact Nat.zero_le n

theorem utf8Size_scalarValue {n : Nat} (h : n < 0x10000) : (scalarValue n).utf8Size ≤ 3 := by
  have hsmall : (scalarValue n).toNat ≤ 0xffff := by
    unfold scalarValue
    split
    · decide
    · have hle := toNat_ofNat_le n
      omega
  rcases (scalarValue n).utf8Size_eq with h | h | h | h
  · omega
  · omega
  · omega
  · have hlarge : 0xffff < (scalarValue n).toNat := Char.utf8Size_eq_four_iff.mp h
    omega

/-- A unit is encoded in three bytes at most, a pair in four. -/
theorem length_encode_scalarValues {us : List Nat} (h : ∀ n ∈ us, n < 0x10000) :
    (Utf8.encode (scalarValues us)).length ≤ 3 * us.length := by
  fun_induction scalarValues us with
  | case1 => exact Nat.le_refl 0
  | case2 n =>
    have hsize := utf8Size_scalarValue (h n (by simp))
    simpa using hsize
  | case3 n m us hpair ih =>
    have hrest := ih fun k hk => h k (by simp [hk])
    have hsize := (Char.ofNat (0x10000 + (n - 0xd800) * 0x400 + (m - 0xdc00))).utf8Size_le_four
    rw [Utf8.encode_cons, List.length_append, String.length_utf8EncodeChar, List.length_cons,
      List.length_cons]
    omega
  | case4 n m us hpair ih =>
    have hrest := ih fun k hk => h k (List.mem_cons_of_mem n hk)
    have hsize := utf8Size_scalarValue (h n (by simp))
    rw [Utf8.encode_cons, List.length_append, String.length_utf8EncodeChar, List.length_cons]
    omega

end Utf16

/-- A string: no more units than V8's `String::kMaxLength`, beyond which making one is a
`RangeError`. -/
structure JsString where
  units : List UInt16
  length_le : units.length ≤ 2 ^ 29 - 24

namespace JsString

/-- `s.toWellFormed()`. -/
def scalarValues (s : JsString) : List Char := Utf16.scalarValues (s.units.map UInt16.toNat)

/-- `new TextEncoder().encode(s)`. -/
def encode (s : JsString) : List UInt8 := Utf8.encode s.scalarValues

/-- The lengths of encoded strings have 32 bits. -/
theorem length_encode_lt (s : JsString) : s.encode.length < 2 ^ 32 := by
  have hunits : ∀ n ∈ s.units.map UInt16.toNat, n < 0x10000 := by
    intro n hn
    obtain ⟨u, -, rfl⟩ := List.mem_map.mp hn
    exact u.toNat_lt
  have hbytes := Utf16.length_encode_scalarValues hunits
  have hlength := s.length_le
  rw [List.length_map] at hbytes
  unfold encode scalarValues
  omega

/-- Encoding tells apart what has different scalar values. -/
theorem encode_inj {s t : JsString} : s.encode = t.encode ↔ s.scalarValues = t.scalarValues := by
  constructor
  · intro h
    rw [← Utf8.decodeReplace_encode s.scalarValues, ← Utf8.decodeReplace_encode t.scalarValues]
    exact congrArg Utf8.decodeReplace h
  · intro h
    exact congrArg Utf8.encode h

/-- The units are those of the text. -/
def Spells (s : JsString) (text : String) : Prop :=
  s.units.map UInt16.toNat = text.toList.flatMap Json.units

theorem Spells.scalarValues {s : JsString} {text : String} (h : s.Spells text) :
    s.scalarValues = text.toList := by
  unfold JsString.scalarValues
  rw [h]
  exact Utf16.scalarValues_of_joinUnits (Json.joinUnits_flatMap text.toList)

end JsString

/-! ## Bits that are gathered in a loop -/

namespace Js

/-- `n | 0`, the operand of a bitwise operator. -/
def toInt32 (n : Nat) : BitVec 32 := BitVec.ofNat 32 n

theorem toInt32_inj {m n : Nat} (hm : m < 2 ^ 32) (hn : n < 2 ^ 32) :
    toInt32 m = toInt32 n ↔ m = n := by
  constructor
  · intro h
    have hmod := congrArg BitVec.toNat h
    unfold toInt32 at hmod
    rwa [BitVec.toNat_ofNat, BitVec.toNat_ofNat, Nat.mod_eq_of_lt hm, Nat.mod_eq_of_lt hn] at hmod
  · intro h
    rw [h]

end Js

/-- What an operation keeps just when both operands have it, a loop keeps just when the start and
all that is added have it. -/
theorem foldl_gathers {α β : Type} {op : α → α → α} {p : α → Prop}
    (hop : ∀ x y, p (op x y) ↔ p x ∧ p y) (f : β → α) (l : List β) (start : α) :
    p (l.foldl (fun acc i => op acc (f i)) start) ↔ p start ∧ ∀ i ∈ l, p (f i) := by
  induction l generalizing start with
  | nil => simp
  | cons i l ih => rw [List.foldl_cons, ih, hop, List.forall_mem_cons, and_assoc]

/-- Lists of one length that agree where they are filled up with a value are the same. -/
theorem eq_of_padded {α : Type} (pad : α) {xs ys : List α} (hlen : xs.length = ys.length)
    (h : ∀ i < xs.length, xs[i]?.getD pad = ys[i]?.getD pad) : xs = ys := by
  apply List.ext_getElem hlen
  intro i hi hi'
  have hsame := h i hi
  rwa [List.getElem?_eq_getElem hi, List.getElem?_eq_getElem hi'] at hsame

end NexusC2
