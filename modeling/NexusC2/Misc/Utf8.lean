import Mathlib.Tactic.Basic

/-!
# UTF-8 text in a buffer

`str.encode("utf-8")` and `bytes.decode("utf-8", errors="replace")` over lists of bytes, and a text
that ends at its first NUL. Core's `ByteArray.utf8DecodeChar?` says which character some bytes
start with; where they start with none, the decoder takes the longest start of a character, or
one byte, for one U+FFFD.
-/

namespace NexusC2

namespace Utf8

/-- `s.encode("utf-8")`. -/
def encode (cs : List Char) : List UInt8 := cs.flatMap String.utf8EncodeChar

/-- The character that the bytes start with. -/
def char? (bs : List UInt8) : Option Char := bs.toByteArray.utf8DecodeChar? 0

def isTail (b : UInt8) : Bool := 0x80 ≤ b && b ≤ 0xBF

/-- A byte that may follow the first byte of a character. -/
def isSecond (first b : UInt8) : Bool :=
  if 0xC2 ≤ first && first ≤ 0xDF then isTail b
  else if first = 0xE0 then 0xA0 ≤ b && b ≤ 0xBF
  else if first = 0xED then 0x80 ≤ b && b ≤ 0x9F
  else if 0xE1 ≤ first && first ≤ 0xEF then isTail b
  else if first = 0xF0 then 0x90 ≤ b && b ≤ 0xBF
  else if first = 0xF4 then 0x80 ≤ b && b ≤ 0x8F
  else if 0xF1 ≤ first && first ≤ 0xF3 then isTail b
  else false

/-- How many bytes one U+FFFD stands for, where the bytes start with no character. -/
def replaced : List UInt8 → Nat
  | first :: second :: third :: _ =>
    if isSecond first second then (if 0xF0 ≤ first && isTail third then 3 else 2) else 1
  | [first, second] => if isSecond first second then 2 else 1
  | _ => 1

/-- The decoder's loop, for at most so many characters. -/
def decodeUpTo : Nat → List UInt8 → List Char
  | 0, _ => []
  | _, [] => []
  | n + 1, bs@(_ :: _) =>
    match char? bs with
    | some c => c :: decodeUpTo n (bs.drop c.utf8Size)
    | none => '\uFFFD' :: decodeUpTo n (bs.drop (replaced bs))

/-- `bs.decode("utf-8", errors="replace")`. -/
def decodeReplace (bs : List UInt8) : List Char := decodeUpTo bs.length bs

@[simp] theorem encode_nil : encode [] = [] := rfl

@[simp] theorem encode_cons (c : Char) (cs : List Char) :
    encode (c :: cs) = String.utf8EncodeChar c ++ encode cs := rfl

theorem char?_encode_cons (c : Char) (cs : List Char) : char? (encode (c :: cs)) = some c := by
  rw [encode_cons, char?, List.toByteArray_append]
  exact ByteArray.utf8DecodeChar?_utf8EncodeChar_append

theorem length_le_length_encode (cs : List Char) : cs.length ≤ (encode cs).length := by
  induction cs with
  | nil => exact Nat.le_refl 0
  | cons c cs ih =>
    rw [encode_cons, List.length_append, List.length_cons, String.length_utf8EncodeChar]
    have hpos := c.utf8Size_pos
    omega

theorem decodeUpTo_encode (cs : List Char) {n : Nat} (h : cs.length ≤ n) :
    decodeUpTo n (encode cs) = cs := by
  induction cs generalizing n with
  | nil => cases n <;> rfl
  | cons c cs ih =>
    obtain ⟨m, rfl⟩ : ∃ m, n = m + 1 := Nat.exists_eq_succ_of_ne_zero (by
      rw [List.length_cons] at h
      omega)
    have hchar := char?_encode_cons c cs
    have hdrop : (encode (c :: cs)).drop c.utf8Size = encode cs := by
      rw [encode_cons, ← String.length_utf8EncodeChar c, List.drop_left]
    cases hbytes : encode (c :: cs) with
    | nil =>
      rw [hbytes] at hchar
      cases hchar
    | cons b bs =>
      rw [decodeUpTo, ← hbytes, hchar]
      dsimp only
      rw [hdrop, ih (Nat.le_of_succ_le_succ h)]

/-- A text is decoded back. -/
theorem decodeReplace_encode (cs : List Char) : decodeReplace (encode cs) = cs :=
  decodeUpTo_encode cs (length_le_length_encode cs)

/-- The start of a character that breaks off is one U+FFFD, and so is a stray byte. -/
example : decodeReplace [0xE2, 0x82, 0x41, 0x80] = ['\uFFFD', 'A', '\uFFFD'] := by decide +kernel

/-! ## Texts that end at a NUL -/

theorem ofNat_eq_zero {n : Nat} (h : 0 = UInt8.ofNat n) (hlt : n < 256) : n = 0 := by
  have htoNat := congrArg UInt8.toNat h
  rw [UInt8.toNat_ofNat', Nat.mod_eq_of_lt hlt] at htoNat
  exact htoNat.symm

/-- The only character with a zero byte is NUL. -/
theorem zero_mem_utf8EncodeChar {c : Char} (h : 0 ∈ String.utf8EncodeChar c) : c = '\x00' := by
  unfold String.utf8EncodeChar at h
  dsimp only at h
  split at h
  · rename_i hsmall
    have hzero := ofNat_eq_zero (List.mem_singleton.mp h) (Nat.lt_of_le_of_lt hsmall (by decide))
    exact Char.ext (UInt32.toNat_inj.mp hzero)
  -- the bytes of a longer character have their first bit set
  · split at h
    · simp only [List.mem_cons, List.not_mem_nil, or_false] at h
      rcases h with h | h
      all_goals
        have := ofNat_eq_zero h (by omega)
        omega
    · split at h
      · simp only [List.mem_cons, List.not_mem_nil, or_false] at h
        rcases h with h | h | h
        all_goals
          have := ofNat_eq_zero h (by omega)
          omega
      · simp only [List.mem_cons, List.not_mem_nil, or_false] at h
        rcases h with h | h | h | h
        all_goals
          have := ofNat_eq_zero h (by omega)
          omega

/-- A text in a buffer of zeros, read up to the first NUL. -/
theorem takeWhile_encode (cs : List Char) (n : Nat) :
    (encode cs ++ List.replicate n 0).takeWhile (· ≠ 0) = encode (cs.takeWhile (· ≠ '\x00')) := by
  induction cs with
  | nil => cases n <;> simp [List.replicate_succ]
  | cons c cs ih =>
    by_cases hc : c = '\x00'
    · subst hc
      simp [String.utf8EncodeChar]
    · have hbytes : ∀ b ∈ String.utf8EncodeChar c, decide (b ≠ 0) = true := fun b hb =>
        decide_eq_true fun hzero => hc (zero_mem_utf8EncodeChar (hzero ▸ hb))
      rw [encode_cons, List.append_assoc, List.takeWhile_append_of_pos hbytes, ih, ← encode_cons]
      simp [hc]

end Utf8

end NexusC2
