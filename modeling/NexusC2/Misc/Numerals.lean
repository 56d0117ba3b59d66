import NexusC2.Misc.Regex
import NexusC2.Misc.Float
import NexusC2.Misc.Text

/-!
# Numerals in a text

The characters of `str` as the regular expressions of Python class them (`PyChars`): `\d` takes the
decimal digits of every script, and with `re.IGNORECASE` a letter takes four characters that are not
ASCII. A number is read from the digits of a text (`intOf`), or from digits with a fraction.
-/

namespace NexusC2

/-- The classes of characters the Unicode database gives. -/
class PyChars where
  /-- The value of a decimal digit. -/
  decimal : Char → Option Nat
  /-- `c.isalnum()`. -/
  isAlnum : Char → Bool
  isAlnum_of_decimal (c : Char) : (decimal c).isSome = true → isAlnum c = true
  decimal_ascii (c : Char) : c.toNat < 128 →
    decimal c = if c.isDigit then some (c.toNat - '0'.toNat) else none
  decimal_space (c : Char) : Text.isSpace c = true → decimal c = none
  decimal_letter (c : Char) : c ∈ ['İ', 'ı', 'ſ', 'K'] → decimal c = none
  decimal_degree : decimal '°' = none

/-- `float` as it reads numerals, and its `%`. -/
class PyNumeralOps (F : Type) extends PyFloatOps F where
  /-- `float(s)` of decimal digits with a fraction or without one. -/
  ofNumeral : List Char → F
  /-- `a % b`. -/
  mod : F → F → F

/-- No letters and digits but those of ASCII. -/
abbrev asciiChars : PyChars where
  decimal c := if c.isDigit then some (c.toNat - '0'.toNat) else none
  isAlnum c := c.isAlphanum
  isAlnum_of_decimal c h := by
    cases hc : c.isDigit with
    | true => simp [Char.isAlphanum, hc]
    | false => simp [hc] at h
  decimal_ascii _ _ := rfl
  decimal_space c h := by simp [Text.not_isDigit_of_isSpace h]
  decimal_letter c h := by
    simp only [List.mem_cons, List.not_mem_nil, or_false] at h
    rcases h with rfl | rfl | rfl | rfl <;> rfl
  decimal_degree := rfl

instance : PyNumeralOps Whole where
  ofNumeral cs := .num (ofIntText (cs.takeWhile Char.isDigit))
  mod := Whole.lift fun a b => a % b

/-- A small letter as `re.IGNORECASE` reads it. -/
def sameLetter (l c : Char) : Bool :=
  c.toLower == l || (l == 'i' && (c == 'İ' || c == 'ı')) || (l == 's' && c == 'ſ') ||
    (l == 'k' && c == 'K')

/-- `[A-Za-z]` with `re.IGNORECASE`. -/
def isLatin (c : Char) : Bool := c.isAlpha || c == 'İ' || c == 'ı' || c == 'ſ' || c == 'K'

section

variable [PyChars]

/-- `\d`. -/
def isDecimal (c : Char) : Bool := (PyChars.decimal c).isSome

/-- `\w`. -/
def isWord (c : Char) : Bool := PyChars.isAlnum c || c == '_'

/-- A character of a numeral. -/
def isNumeralChar (c : Char) : Bool := isDecimal c || c == '.'

/-- `int(s)` of decimal digits. -/
def intOf (cs : List Char) : Int := cs.foldl (fun n c => 10 * n + (PyChars.decimal c).getD 0) 0

/-- Decimal digits, at least one. -/
def IsDigits (cs : List Char) : Prop := cs ≠ [] ∧ ∀ c ∈ cs, isDecimal c = true

/-- Decimal digits, and a point with digits behind it or nothing. -/
def IsNumeral (cs : List Char) : Prop :=
  ∃ ds fs, cs = ds ++ fs ∧ IsDigits ds ∧ (fs = [] ∨ ∃ es, fs = '.' :: es ∧ IsDigits es)

theorem isDecimal_ascii {c : Char} (h : c.toNat < 128) : isDecimal c = c.isDigit := by
  unfold isDecimal
  rw [PyChars.decimal_ascii c h]
  cases c.isDigit <;> rfl

theorem isDecimal_space {c : Char} (h : Text.isSpace c = true) : isDecimal c = false := by
  simp [isDecimal, PyChars.decimal_space c h]

theorem isDecimal_degree : isDecimal '°' = false := by
  simp [isDecimal, PyChars.decimal_degree]

/-- What an ASCII letter is the small letter of is an ASCII letter. -/
theorem isDecimal_toLower {c : Char} (h : c.toLower.isLower = true) : isDecimal c = false := by
  have hrange : 65 ≤ c.toNat ∧ c.toNat ≤ 122 := by
    unfold Char.toLower at h
    split at h
    · have hlow : 65 ≤ c.toNat := (‹_ ∧ _› : _ ∧ _).1
      have hhigh : c.toNat ≤ 90 := (‹_ ∧ _› : _ ∧ _).2
      omega
    · obtain ⟨hlow, hhigh⟩ := (Bool.and_eq_true _ _).mp h
      have hlow : 97 ≤ c.toNat := of_decide_eq_true hlow
      have hhigh : c.toNat ≤ 122 := of_decide_eq_true hhigh
      omega
  rw [isDecimal_ascii (by omega), Char.isDigit]
  simp only [Bool.and_eq_false_iff, decide_eq_false_iff_not]
  refine Or.inr fun hle => ?_
  have hle : c.toNat ≤ 57 := hle
  omega

/-- No digit is read as a letter. -/
theorem isDecimal_sameLetter {l c : Char} (hl : l.isLower = true) (h : sameLetter l c = true) :
    isDecimal c = false := by
  simp only [sameLetter, Bool.or_eq_true, Bool.and_eq_true, beq_iff_eq] at h
  have hother : c ∈ ['İ', 'ı', 'ſ', 'K'] → isDecimal c = false := by
    intro hc
    simp [isDecimal, PyChars.decimal_letter c hc]
  rcases h with ((h | ⟨-, h⟩) | ⟨-, h⟩) | ⟨-, h⟩
  · exact isDecimal_toLower (h ▸ hl)
  · exact hother (by rcases h with rfl | rfl <;> simp)
  · exact hother (by simp [h])
  · exact hother (by simp [h])

theorem isNumeralChar_of_isDecimal {c : Char} (h : isDecimal c = true) : isNumeralChar c = true := by
  simp [isNumeralChar, h]

theorem IsDigits.isNumeral {cs : List Char} (h : IsDigits cs) : IsNumeral cs :=
  ⟨cs, [], (List.append_nil cs).symm, h, Or.inl rfl⟩

theorem IsNumeral.chars {cs : List Char} (h : IsNumeral cs) :
    cs ≠ [] ∧ ∀ c ∈ cs, isNumeralChar c = true := by
  obtain ⟨ds, fs, rfl, ⟨hne, hds⟩, hfs⟩ := h
  constructor
  · simp [hne]
  · intro c hc
    rcases List.mem_append.mp hc with hc | hc
    · exact isNumeralChar_of_isDecimal (hds c hc)
    · rcases hfs with rfl | ⟨es, rfl, -, hes⟩
      · cases hc
      · rcases List.mem_cons.mp hc with rfl | hc
        · simp [isNumeralChar]
        · exact isNumeralChar_of_isDecimal (hes c hc)

end

end NexusC2
