import Mathlib.Data.Nat.Sqrt
import Mathlib.Tactic.IntervalCases

/-!
# Python floats

What the modelled code relies on of the type `float`, as a class: comparisons that NaN fails,
arithmetic, the functions of `math` (`none` is the `ValueError` they raise), conversions and the
spelling of a value. The laws are the documented ones of `float.__repr__`: a finite value is
spelled as a decimal literal, and reading the spelling gives the value back.
-/

namespace NexusC2

/-! ## Decimal literals -/

/-- The integer part of a literal: no leading zero. -/
def IsIntPart (ds : List Char) : Prop :=
  ds = ['0'] ∨ ∃ d es, ds = d :: es ∧ d ≠ '0' ∧ d.isDigit = true ∧ ∀ c ∈ es, c.isDigit = true

/-- A fraction, or nothing. -/
def IsFracPart (ds : List Char) : Prop :=
  ds = [] ∨ ∃ d es, ds = '.' :: d :: es ∧ d.isDigit = true ∧ ∀ c ∈ es, c.isDigit = true

/-- An exponent, or nothing. -/
def IsExpPart (ds : List Char) : Prop :=
  ds = [] ∨ ∃ m sg d es, ds = m :: (sg ++ d :: es) ∧ (m = 'e' ∨ m = 'E') ∧
    (sg = [] ∨ sg = ['+'] ∨ sg = ['-']) ∧ d.isDigit = true ∧ ∀ c ∈ es, c.isDigit = true

/-- A literal that reads as a float: a fraction or an exponent is there. -/
def IsFloatLit (t : List Char) : Prop :=
  ∃ sg ip fp xp, t = sg ++ (ip ++ (fp ++ xp)) ∧ (sg = [] ∨ sg = ['-']) ∧ IsIntPart ip ∧
    IsFracPart fp ∧ IsExpPart xp ∧ fp ++ xp ≠ []

/-- A character of a literal. -/
def IsLitChar (c : Char) : Prop := c.isDigit = true ∨ c ∈ ['.', 'e', 'E', '+', '-']

theorem IsIntPart.isLitChar {ds : List Char} (h : IsIntPart ds) {c : Char} (hc : c ∈ ds) :
    IsLitChar c := by
  rcases h with rfl | ⟨d, es, rfl, -, hd, hes⟩
  · obtain rfl := List.mem_singleton.mp hc
    exact Or.inl (by decide)
  · rcases List.mem_cons.mp hc with rfl | hmem
    · exact Or.inl hd
    · exact Or.inl (hes c hmem)

theorem IsFracPart.isLitChar {ds : List Char} (h : IsFracPart ds) {c : Char} (hc : c ∈ ds) :
    IsLitChar c := by
  rcases h with rfl | ⟨d, es, rfl, hd, hes⟩
  · cases hc
  · rcases List.mem_cons.mp hc with rfl | hc
    · exact Or.inr (by decide)
    rcases List.mem_cons.mp hc with rfl | hmem
    · exact Or.inl hd
    · exact Or.inl (hes c hmem)

theorem IsExpPart.isLitChar {ds : List Char} (h : IsExpPart ds) {c : Char} (hc : c ∈ ds) :
    IsLitChar c := by
  rcases h with rfl | ⟨m, sg, d, es, rfl, hm, hsg, hd, hes⟩
  · cases hc
  · rcases List.mem_cons.mp hc with rfl | hc
    · rcases hm with rfl | rfl <;> exact Or.inr (by decide)
    rcases List.mem_append.mp hc with hc | hc
    · rcases hsg with rfl | rfl | rfl
      · cases hc
      · obtain rfl := List.mem_singleton.mp hc
        exact Or.inr (by decide)
      · obtain rfl := List.mem_singleton.mp hc
        exact Or.inr (by decide)
    · rcases List.mem_cons.mp hc with rfl | hmem
      · exact Or.inl hd
      · exact Or.inl (hes c hmem)

theorem IsFloatLit.isLitChar {t : List Char} (h : IsFloatLit t) {c : Char} (hc : c ∈ t) :
    IsLitChar c := by
  obtain ⟨sg, ip, fp, xp, rfl, hsg, hip, hfp, hxp, -⟩ := h
  rcases List.mem_append.mp hc with hc | hc
  · rcases hsg with rfl | rfl
    · cases hc
    · obtain rfl := List.mem_singleton.mp hc
      exact Or.inr (by decide)
  rcases List.mem_append.mp hc with hc | hc
  · exact hip.isLitChar hc
  rcases List.mem_append.mp hc with hc | hc
  · exact hfp.isLitChar hc
  · exact hxp.isLitChar hc

/-- No literal has a colon or a comma. -/
theorem IsFloatLit.notMem {t : List Char} (h : IsFloatLit t) : ':' ∉ t ∧ ',' ∉ t := by
  constructor <;>
    · intro hc
      rcases h.isLitChar hc with hdigit | hmem
      · exact absurd hdigit (by decide)
      · exact absurd hmem (by decide)

/-! ## The class -/

/-- The operations of `float`. -/
class PyFloatOps (F : Type) extends Add F, Sub F, Mul F, Div F, OfScientific F where
  /-- `a < b`, `a <= b` and `a == b`: false when one of them is NaN. -/
  lt : F → F → Bool
  le : F → F → Bool
  eq : F → F → Bool
  isFinite : F → Bool
  radians : F → F
  sin : F → Option F
  cos : F → Option F
  asin : F → Option F
  sqrt : F → Option F
  /-- `float(n)` of an integer; `none` is `OverflowError`. -/
  ofInt : Int → Option F
  /-- `float(s)` of a string; `none` is `ValueError`. -/
  ofStr : String → Option F
  /-- `repr(x)`. -/
  repr : F → String
  /-- `f"{x:.0f}"`. -/
  fmt0 : F → String

namespace PyFloatOps

variable {F : Type} [PyFloatOps F]

/-- How the JSON encoder spells a value that is not finite. -/
def nonfiniteText (x : F) : String :=
  if lt (0.0 : F) x then "Infinity" else if lt x (0.0 : F) then "-Infinity" else "NaN"

/-- How the JSON encoder spells a float. -/
def jsonText (x : F) : String := if isFinite x then repr x else nonfiniteText x

/-- `max(a, b)`: the second only when it is greater. -/
def max (a b : F) : F := if lt a b then b else a

/-- `bool(x)`: NaN is true. -/
def truth (x : F) : Bool := !eq x (0.0 : F)

end PyFloatOps

/-- `float`, with the documented laws of its spelling. -/
class PyFloat (F : Type) extends PyFloatOps F where
  repr_literal (x : F) : PyFloatOps.isFinite x = true → IsFloatLit (PyFloatOps.repr x).toList
  ofStr_repr (x : F) : PyFloatOps.isFinite x = true →
    PyFloatOps.ofStr (PyFloatOps.repr x) = some x
  ofStr_nonfinite (x : F) : PyFloatOps.isFinite x = false →
    PyFloatOps.ofStr (PyFloatOps.nonfiniteText x) = some x

namespace PyFloat

variable {F : Type} [PyFloat F]

/-- Finite values are spelled in different ways. -/
theorem repr_inj {x y : F} (hx : PyFloatOps.isFinite x = true) (hy : PyFloatOps.isFinite y = true)
    (h : PyFloatOps.repr x = PyFloatOps.repr y) : x = y := by
  have hread := ofStr_repr x hx
  rw [h, ofStr_repr y hy] at hread
  exact (Option.some.inj hread).symm

theorem ofStr_jsonText (x : F) : PyFloatOps.ofStr (PyFloatOps.jsonText x) = some x := by
  unfold PyFloatOps.jsonText
  cases h : PyFloatOps.isFinite x with
  | true => exact ofStr_repr x h
  | false => exact ofStr_nonfinite x h

theorem jsonText_cases (x : F) : IsFloatLit (PyFloatOps.jsonText x).toList ∨
    PyFloatOps.jsonText x = "Infinity" ∨ PyFloatOps.jsonText x = "-Infinity" ∨
    PyFloatOps.jsonText x = "NaN" := by
  unfold PyFloatOps.jsonText
  cases h : PyFloatOps.isFinite x with
  | true => exact Or.inl (repr_literal x h)
  | false =>
    refine Or.inr ?_
    simp only [Bool.false_eq_true, if_false, PyFloatOps.nonfiniteText]
    split
    · exact Or.inl rfl
    · split
      · exact Or.inr (Or.inl rfl)
      · exact Or.inr (Or.inr rfl)

end PyFloat

/-- `<=` is a total order of the finite values. -/
class PyFloatOrder (F : Type) [PyFloatOps F] : Prop where
  le_total (a b : F) : PyFloatOps.isFinite a = true → PyFloatOps.isFinite b = true →
    PyFloatOps.le a b = true ∨ PyFloatOps.le b a = true
  le_trans (a b c : F) : PyFloatOps.isFinite a = true → PyFloatOps.isFinite b = true →
    PyFloatOps.isFinite c = true → PyFloatOps.le a b = true → PyFloatOps.le b c = true →
    PyFloatOps.le a c = true

/-- Of two finite values, one is less where the other is not at most it. -/
class PyFloatLinear (F : Type) [PyFloatOps F] : Prop extends PyFloatOrder F where
  lt_iff (a b : F) : PyFloatOps.isFinite a = true → PyFloatOps.isFinite b = true →
    (PyFloatOps.lt a b = true ↔ PyFloatOps.le b a = false)

namespace PyFloatLinear

variable {F : Type} [PyFloatOps F] [PyFloatLinear F] {a b c : F}

theorem not_lt_iff (ha : PyFloatOps.isFinite a = true) (hb : PyFloatOps.isFinite b = true) :
    ¬ PyFloatOps.lt a b = true ↔ PyFloatOps.le b a = true := by
  rw [lt_iff a b ha hb]
  simp

theorem not_lt_trans (ha : PyFloatOps.isFinite a = true) (hb : PyFloatOps.isFinite b = true)
    (hc : PyFloatOps.isFinite c = true) (hab : ¬ PyFloatOps.lt a b = true)
    (hbc : ¬ PyFloatOps.lt b c = true) : ¬ PyFloatOps.lt a c = true := by
  rw [not_lt_iff ha hb] at hab
  rw [not_lt_iff hb hc] at hbc
  rw [not_lt_iff ha hc]
  exact PyFloatOrder.le_trans c b a hc hb ha hbc hab

theorem lt_trans (ha : PyFloatOps.isFinite a = true) (hb : PyFloatOps.isFinite b = true)
    (hc : PyFloatOps.isFinite c = true) (hab : PyFloatOps.lt a b = true)
    (hbc : PyFloatOps.lt b c = true) : PyFloatOps.lt a c = true := by
  by_contra hac
  rw [not_lt_iff ha hc] at hac
  have hle : PyFloatOps.le b c = true := by
    apply (PyFloatOrder.le_total b c hb hc).resolve_right
    intro hcb
    exact (not_lt_iff hb hc).mpr hcb hbc
  exact (not_lt_iff ha hb).mpr (PyFloatOrder.le_trans b c a hb hc ha hle hac) hab

end PyFloatLinear

/-- What rounding keeps: decimals are read in their order, and a sum with what is not negative is
not less. -/
class PyFloatRounded (F : Type) [PyFloatOps F] : Prop extends PyFloatLinear F where
  le_of_lt (a b : F) : PyFloatOps.lt a b = true → PyFloatOps.le a b = true
  finite_between (a x b : F) : PyFloatOps.isFinite a = true → PyFloatOps.isFinite b = true →
    PyFloatOps.le a x = true → PyFloatOps.le x b = true → PyFloatOps.isFinite x = true
  finite_zero : PyFloatOps.isFinite (0.0 : F) = true
  finite_one : PyFloatOps.isFinite (1.0 : F) = true
  le_decimal (m e n k : Nat) : m * 10 ^ k ≤ n * 10 ^ e →
    PyFloatOps.le (OfScientific.ofScientific m true e : F)
      (OfScientific.ofScientific n true k) = true
  le_add (x y : F) : PyFloatOps.isFinite x = true → PyFloatOps.isFinite y = true →
    PyFloatOps.le (0.0 : F) y = true → PyFloatOps.le x (x + y) = true

/-! ## Decimal digits of an integer -/

/-- `int.__repr__`. -/
def intText (n : Int) : List Char :=
  if n < 0 then '-' :: Nat.toDigits 10 n.natAbs else Nat.toDigits 10 n.natAbs

/-- The integer a sign and its digits spell. -/
def ofIntText : List Char → Int
  | '-' :: ds => -(Nat.ofDigitChars 10 ds 0 : Int)
  | ds => (Nat.ofDigitChars 10 ds 0 : Int)

theorem isDigit_of_mem_toDigits {n : Nat} {c : Char} (h : c ∈ Nat.toDigits 10 n) :
    c.isDigit = true := Nat.isDigit_of_mem_toDigits (by decide : 0 < 10) (by decide) h

theorem toDigits_eq_cons {n : Nat} (hn : 0 < n) :
    ∃ d es, Nat.toDigits 10 n = d :: es ∧ d ≠ '0' := by
  induction n using Nat.strongRecOn with
  | ind n ih =>
    by_cases h : n < 10
    · refine ⟨n.digitChar, [], Nat.toDigits_of_lt_base h, ?_⟩
      interval_cases n <;> decide
    · obtain ⟨d, es, heq, hd⟩ := ih (n / 10) (by omega) (by omega)
      exact ⟨d, es ++ [(n % 10).digitChar],
        by rw [Nat.toDigits_of_base_le (by decide) (by omega), heq]; rfl, hd⟩

theorem isIntPart_toDigits (n : Nat) : IsIntPart (Nat.toDigits 10 n) := by
  rcases Nat.eq_zero_or_pos n with rfl | hn
  · exact Or.inl (Nat.toDigits_zero 10)
  · obtain ⟨d, es, heq, hd⟩ := toDigits_eq_cons hn
    have hdigit : ∀ c ∈ d :: es, c.isDigit = true := fun c hc =>
      isDigit_of_mem_toDigits (heq ▸ hc)
    exact Or.inr ⟨d, es, heq, hd, hdigit d (by simp), fun c hc => hdigit c (by simp [hc])⟩

/-- An integer is spelled as a sign and an integer part. -/
theorem intText_eq (n : Int) :
    ∃ sg ip, intText n = sg ++ ip ∧ (sg = [] ∨ sg = ['-']) ∧ IsIntPart ip := by
  unfold intText
  split
  · exact ⟨['-'], _, rfl, Or.inr rfl, isIntPart_toDigits _⟩
  · exact ⟨[], _, rfl, Or.inl rfl, isIntPart_toDigits _⟩

theorem ofIntText_of_isDigit {ds : List Char} (h : ∀ c ∈ ds, c.isDigit = true) :
    ofIntText ds = (Nat.ofDigitChars 10 ds 0 : Int) := by
  unfold ofIntText
  split
  · exact absurd (h '-' (by simp)) (by decide)
  · rfl

theorem ofIntText_intText (n : Int) : ofIntText (intText n) = n := by
  have hround : (Nat.ofDigitChars 10 (Nat.toDigits 10 n.natAbs) 0 : Int) = (n.natAbs : Int) := by
    rw [Nat.ofDigitChars_ten_toDigits]
  unfold intText
  split
  · simp only [ofIntText, hround]
    omega
  · rw [ofIntText_of_isDigit fun c => isDigit_of_mem_toDigits, hround]
    omega

/-! ## Whole numbers as floats -/

/-- The floats with an integer value, the infinities and NaN: values of the class that can be
evaluated. The functions of `math` are cut to whole numbers. -/
inductive Whole where
  | nan
  | inf (neg : Bool)
  | num (n : Int)
  deriving DecidableEq, Repr

namespace Whole

/-- A binary operation on the numbers; anything else is NaN. -/
def lift (f : Int → Int → Int) : Whole → Whole → Whole
  | num a, num b => num (f a b)
  | _, _ => nan

def lt : Whole → Whole → Bool
  | num a, num b => a < b
  | inf true, num _ => true
  | num _, inf false => true
  | inf true, inf false => true
  | _, _ => false

def eq : Whole → Whole → Bool
  | nan, _ => false
  | a, b => a = b

def isFinite : Whole → Bool
  | num _ => true
  | _ => false

/-- `repr` of a whole number, as `-12.0`. -/
def repr : Whole → String
  | num n => String.ofList (intText n ++ ['.', '0'])
  | inf false => "inf"
  | inf true => "-inf"
  | nan => "nan"

def ofStr (s : String) : Option Whole :=
  if s = "NaN" then some nan
  else if s = "Infinity" then some (inf false)
  else if s = "-Infinity" then some (inf true)
  else match s.toList.reverse with
    | '0' :: '.' :: ds => some (num (ofIntText ds.reverse))
    | _ => none

instance : PyFloatOps Whole where
  add := lift (· + ·)
  sub := lift (· - ·)
  mul := lift (· * ·)
  div := lift (· / ·)
  ofScientific m s e := num (if s then (m / 10 ^ e : Nat) else (m * 10 ^ e : Nat))
  lt := lt
  le a b := lt a b || eq a b
  eq := eq
  isFinite := isFinite
  radians
    | num n => num (n * 314159 / 18000000)
    | x => x
  sin
    | num n => some (num n.sign)
    | nan => some nan
    | inf _ => none
  cos
    | num n => some (num (if n = 0 then 1 else 0))
    | nan => some nan
    | inf _ => none
  asin
    | num n => some (num n)
    | x => some x
  sqrt
    | num n => if n < 0 then none else some (num n.toNat.sqrt)
    | inf true => none
    | x => some x
  ofInt n := some (num n)
  ofStr := ofStr
  repr := repr
  fmt0
    | num n => String.ofList (intText n)
    | x => repr x

theorem ofStr_repr_num (n : Int) : ofStr (repr (num n)) = some (num n) := by
  have hrev : (repr (num n)).toList.reverse = '0' :: '.' :: (intText n).reverse := by
    simp [repr]
  have hne : ∀ s : String, s.toList.reverse.head? ≠ some '0' → repr (num n) ≠ s := by
    rintro s hs rfl
    exact hs (by rw [hrev]; rfl)
  unfold ofStr
  rw [if_neg (hne _ (by decide)), if_neg (hne _ (by decide)), if_neg (hne _ (by decide)), hrev]
  simp [ofIntText_intText]

instance : PyFloat Whole where
  repr_literal x hx := by
    cases x with
    | num n =>
      obtain ⟨sg, ip, heq, hsg, hip⟩ := intText_eq n
      refine ⟨sg, ip, ['.', '0'], [], ?_, hsg, hip, ?_, Or.inl rfl, by simp⟩
      · change (repr (num n)).toList = _
        simp [repr, heq]
      · exact Or.inr ⟨'0', [], rfl, by decide, by simp⟩
    | nan => cases hx
    | inf neg => cases hx
  ofStr_repr x hx := by
    cases x with
    | num n => exact ofStr_repr_num n
    | nan => cases hx
    | inf neg => cases hx
  ofStr_nonfinite x hx := by
    cases x with
    | num n => cases hx
    | nan => decide
    | inf neg => cases neg <;> decide

theorem le_num {a b : Int} : PyFloatOps.le (num a) (num b) = true ↔ a ≤ b := by
  simp only [PyFloatOps.le, lt, eq, Bool.or_eq_true, decide_eq_true_eq, num.injEq]
  omega

instance : PyFloatOrder Whole where
  le_total a b ha hb := by
    cases a <;> cases b <;> simp_all [PyFloatOps.isFinite, isFinite, le_num]
    omega
  le_trans a b c ha hb hc hab hbc := by
    cases a <;> cases b <;> cases c <;> simp_all [PyFloatOps.isFinite, isFinite, le_num]
    omega

instance : PyFloatLinear Whole where
  lt_iff a b ha hb := by
    cases a with
    | nan => cases ha
    | inf neg => cases ha
    | num p =>
      cases b with
      | nan => cases hb
      | inf neg => cases hb
      | num q =>
        rw [← Bool.not_eq_true, le_num]
        simp only [PyFloatOps.lt, lt, decide_eq_true_eq, not_le]

end Whole

end NexusC2
