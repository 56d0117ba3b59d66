import NexusC2.Deploy.Proofs.FrontDoor

/-!
# The comparison of tokens

`timingSafeEqual` gathers the differences of two encodings in one number of 32 bits, first that of
their lengths and then that of each two bytes. Filled up with zeros, two encodings of different
lengths can agree in every byte; then their lengths differ in their last 32 bits, because no string
is so long that its length has more.
-/

namespace NexusC2

theorem toInt32_byte_xor {x y : UInt8} :
    Js.toInt32 x.toNat ^^^ Js.toInt32 y.toNat = 0#32 ↔ x = y := by
  have hsmall : ∀ z : UInt8, z.toNat < 2 ^ 32 := fun z => Nat.lt_trans z.toNat_lt (by decide)
  rw [BitVec.xor_eq_zero_iff, Js.toInt32_inj (hsmall x) (hsmall y), UInt8.toNat_inj]

/-- Whatever their lengths are, the two agree in the last 32 bits of these and in each byte. -/
theorem sameBytes_iff (ba bb : List UInt8) :
    sameBytes ba bb = true ↔ Js.toInt32 ba.length = Js.toInt32 bb.length ∧
      ∀ i < max ba.length bb.length, ba[i]?.getD 0 = bb[i]?.getD 0 := by
  unfold sameBytes
  dsimp only
  rw [decide_eq_true_iff, foldl_gathers (p := fun d => d = 0#32) fun _ _ => BitVec.or_eq_zero_iff,
    BitVec.xor_eq_zero_iff]
  simp only [List.mem_range, toInt32_byte_xor]

/-- Encodings whose lengths have 32 bits are compared exactly. -/
theorem sameBytes_eq_true {ba bb : List UInt8} (ha : ba.length < 2 ^ 32)
    (hb : bb.length < 2 ^ 32) : sameBytes ba bb = true ↔ ba = bb := by
  rw [sameBytes_iff, Js.toInt32_inj ha hb]
  constructor
  · rintro ⟨hlen, hbytes⟩
    exact eq_of_padded 0 hlen fun i hi => hbytes i (Nat.lt_of_lt_of_le hi (Nat.le_max_left _ _))
  · rintro rfl
    exact ⟨rfl, fun _ _ => rfl⟩

/-- Bytes without a limit would be taken for the same with so many zeros more that the lengths agree
in 32 bits. -/
theorem sameBytes_append_zeros (bs : List UInt8) (n : Nat) :
    sameBytes bs (bs ++ List.replicate (2 ^ 32 * n) 0) = true := by
  rw [sameBytes_iff]
  constructor
  · rw [List.length_append, List.length_replicate]
    apply BitVec.eq_of_toNat_eq
    simp only [Js.toInt32, BitVec.toNat_ofNat, Nat.add_mul_mod_self_left]
  · intro i _
    by_cases hi : i < bs.length
    · rw [List.getElem?_append_left hi]
    · rw [List.getElem?_append_right (Nat.le_of_not_lt hi), List.getElem?_replicate,
        List.getElem?_eq_none (Nat.le_of_not_lt hi)]
      split <;> rfl

namespace JsString

/-- The comparison is true just when the encodings are the same bytes. -/
theorem timing_safe_equal_exact (a b : JsString) :
    a.timingSafeEqual b = true ↔ a.encode = b.encode :=
  sameBytes_eq_true a.length_encode_lt b.length_encode_lt

/-- A prefix is not the same, and neither is a string with a NUL more. -/
example :
    timingSafeEqual ⟨[0x61, 0x62], by decide⟩ ⟨[0x61], by decide⟩ = false ∧
      timingSafeEqual ⟨[], by decide⟩ ⟨[0], by decide⟩ = false := by
  decide +kernel

/-- Only U+FFFD and what stands alone of a pair are taken for one another. -/
theorem timingSafeEqual_iff_scalarValues (a b : JsString) :
    a.timingSafeEqual b = true ↔ a.scalarValues = b.scalarValues :=
  (sameBytes_eq_true a.length_encode_lt b.length_encode_lt).trans encode_inj

/-- On texts it is the comparison that authorizes a request. -/
theorem timingSafeEqual_of_spells {a b : JsString} {s t : String} (ha : a.Spells s)
    (hb : b.Spells t) : a.timingSafeEqual b = NexusC2.timingSafeEqual s t := by
  rw [Bool.eq_iff_iff, timingSafeEqual_iff_scalarValues, timingSafeEqual_iff, ha.scalarValues,
    hb.scalarValues, String.toList_inj]

end JsString

end NexusC2
