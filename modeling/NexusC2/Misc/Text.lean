import Mathlib.Data.List.Basic
import Mathlib.Data.List.DropRight
import Mathlib.Tactic.Basic

/-!
# Text as Python reads it

The string methods and the line iteration of text files that the modelled code uses, on lists
of characters. A file opened in text mode has its line ends translated to a line feed before it
is split into lines (`translateNewlines`, `lines`).
-/

namespace NexusC2

namespace Text

/-- `str.isspace` of one character. -/
def isSpace (c : Char) : Bool :=
  let n := c.toNat
  (9 ≤ n && n ≤ 13) || (28 ≤ n && n ≤ 32) || n = 0x85 || n = 0xa0 || n = 0x1680 ||
    (0x2000 ≤ n && n ≤ 0x200a) || n = 0x2028 || n = 0x2029 || n = 0x202f || n = 0x205f ||
    n = 0x3000

/-- `str.strip()` on the characters of a string. -/
def stripChars (cs : List Char) : List Char :=
  ((cs.dropWhile isSpace).reverse.dropWhile isSpace).reverse

/-- `str.strip()`. -/
def strip (s : String) : String := String.ofList (stripChars s.toList)

/-- `str.lower()` of the letters A to Z. -/
def lower (s : String) : String := String.ofList (s.toList.map Char.toLower)

/-- `str.upper()` of the letters a to z. -/
def upper (s : String) : String := String.ofList (s.toList.map Char.toUpper)

/-- The capital letters of one letter, where they are among A to Z: `str.upper()` has two or three
of them for a ligature and for the sharp s. Any other character stands for itself. -/
def capitals (c : Char) : List Char :=
  if c = 'ı' then ['I']
  else if c = 'ſ' then ['S']
  else if c = 'ß' then ['S', 'S']
  else if c = 'ﬀ' then ['F', 'F']
  else if c = 'ﬁ' then ['F', 'I']
  else if c = 'ﬂ' then ['F', 'L']
  else if c = 'ﬃ' then ['F', 'F', 'I']
  else if c = 'ﬄ' then ['F', 'F', 'L']
  else if c = 'ﬅ' ∨ c = 'ﬆ' then ['S', 'T']
  else [c.toUpper]

/-- `str.upper()` of a string that is compared with a word of the letters A to Z. -/
def upperWord (s : String) : String := String.ofList (s.toList.flatMap capitals)

theorem not_isDigit_of_isSpace {c : Char} (h : isSpace c = true) : c.isDigit = false := by
  by_contra hd
  rw [Bool.not_eq_false, Char.isDigit_iff_toNat] at hd
  simp only [isSpace, Bool.or_eq_true, Bool.and_eq_true, decide_eq_true_eq] at h
  have h0 : '0'.toNat = 48 := rfl
  have h9 : '9'.toNat = 57 := rfl
  omega

theorem toUpper_isLower (c : Char) : c.toUpper.isLower = false := by
  unfold Char.toUpper
  split <;> rename_i h <;> refine Bool.and_eq_false_iff.mpr ?_ <;>
    simp only [decide_eq_false_iff_not, ge_iff_le]
  · -- the letter is moved below the small ones
    have hlow : 97 ≤ c.val.toNat := h.1
    have hhigh : c.val.toNat ≤ 122 := h.2
    have hshift : ('A'.val - 'a'.val).toNat = 4294967264 := by decide
    refine Or.inl fun hle => ?_
    have hle : 97 ≤ (c.val + ('A'.val - 'a'.val)).toNat := hle
    rw [UInt32.toNat_add] at hle
    omega
  · by_cases hlow : 'a'.val ≤ c.val
    · exact Or.inr fun hhigh => h ⟨hlow, hhigh⟩
    · exact Or.inl hlow

theorem capitals_isLower {c d : Char} (h : d ∈ capitals c) : d.isLower = false := by
  unfold capitals at h
  repeat' split at h
  all_goals simp only [List.mem_cons, List.not_mem_nil, or_false] at h
  all_goals first
    | (subst h; exact toUpper_isLower c)
    | (subst h; decide)
    | (rcases h with rfl | rfl | rfl <;> decide)

/-- A word with a small letter is no result of `str.upper`. -/
theorem upperWord_ne {w : String} (hw : w.toList.any Char.isLower = true) (s : String) :
    upperWord s ≠ w := by
  rintro rfl
  obtain ⟨d, hmem, hlower⟩ := List.any_eq_true.mp hw
  unfold upperWord at hmem
  rw [String.toList_ofList] at hmem
  obtain ⟨c, -, hd⟩ := List.mem_flatMap.mp hmem
  rw [capitals_isLower hd] at hlower
  cases hlower

/-- The characters `str.splitlines` ends a line at. -/
def isLineBreak (c : Char) : Bool :=
  let n := c.toNat
  (10 ≤ n && n ≤ 13) || (28 ≤ n && n ≤ 30) || n = 0x85 || n = 0x2028 || n = 0x2029

/-- `str.splitlines()`. -/
def splitlines : List Char → List (List Char)
  | [] => []
  | '\r' :: '\n' :: cs => [] :: splitlines cs
  | c :: cs =>
    if isLineBreak c then [] :: splitlines cs
    else match splitlines cs with
      | [] => [[c]]
      | l :: ls => (c :: l) :: ls

/-- Universal newlines: `\r\n` and `\r` are read as a line feed. -/
def translateNewlines : List Char → List Char
  | '\r' :: '\n' :: cs => '\n' :: translateNewlines cs
  | '\r' :: cs => '\n' :: translateNewlines cs
  | c :: cs => c :: translateNewlines cs
  | [] => []

/-- `for line in fh`: every line with the line feed that ends it. -/
def lines : List Char → List (List Char)
  | [] => []
  | c :: cs =>
    if c = '\n' then ['\n'] :: lines cs
    else match lines cs with
      | [] => [[c]]
      | l :: ls => (c :: l) :: ls

/-- The text is empty or ends with a line feed, so what is appended starts a new line. -/
def EndsLine (t : List Char) : Prop := t = [] ∨ ∃ u, t = u ++ ['\n']

/-- What follows the last line feed. -/
def openLine (t : List Char) : List Char := t.rtakeWhile (· ≠ '\n')

theorem EndsLine.append {t u : List Char} (hu : EndsLine u) (ht : EndsLine t) :
    EndsLine (t ++ u) := by
  rcases hu with rfl | ⟨v, rfl⟩
  · simpa using ht
  · exact Or.inr ⟨t ++ v, by simp⟩

theorem EndsLine.tail {c : Char} {cs : List Char} (h : EndsLine (c :: cs)) :
    EndsLine cs ∧ (cs = [] → c = '\n') := by
  rcases h with h | ⟨u, hu⟩
  · simp at h
  · cases u with
    | nil =>
      simp only [List.nil_append, List.cons.injEq] at hu
      exact ⟨Or.inl hu.2, fun _ => hu.1⟩
    | cons d u =>
      simp only [List.cons_append, List.cons.injEq] at hu
      exact ⟨Or.inr ⟨u, hu.2⟩, fun hcs => by simp [hcs] at hu⟩

theorem translateNewlines_cons {c : Char} (hc : c ≠ '\r') (cs : List Char) :
    translateNewlines (c :: cs) = c :: translateNewlines cs := by
  rw [translateNewlines.eq_def]
  split <;> simp_all

theorem translateNewlines_cr {cs : List Char} (h : ∀ ds, cs ≠ '\n' :: ds) :
    translateNewlines ('\r' :: cs) = '\n' :: translateNewlines cs := by
  rw [translateNewlines.eq_def]
  split
  · rename_i hcs
    exact absurd (by simpa using hcs) (h _)
  · rename_i hcs
    simp_all
  · rename_i hcr hcs
    exact absurd (List.cons.inj hcs).1.symm (hcr)
  · simp_all

theorem translateNewlines_eq_nil {t : List Char} (h : translateNewlines t = []) : t = [] := by
  revert h
  fun_cases translateNewlines t <;> simp_all

theorem translateNewlines_append {t : List Char} (ht : EndsLine t) (u : List Char) :
    translateNewlines (t ++ u) = translateNewlines t ++ translateNewlines u := by
  fun_induction translateNewlines t with
  | case1 cs ih =>
    have := ih (ht.tail.1.tail.1)
    simp [translateNewlines, this]
  | case2 cs hne ih =>
    obtain ⟨hcs, hlast⟩ := ht.tail
    have hne' : ∀ ds, cs ++ u ≠ '\n' :: ds := by
      intro ds hds
      cases cs with
      | nil => exact absurd (hlast rfl) (by decide)
      | cons d cs => exact hne cs (by simp at hds; simp [hds.1])
    rw [List.cons_append, translateNewlines_cr hne', ih hcs, List.cons_append]
  | case3 c cs hcrlf hcr ih =>
    have hc : c ≠ '\r' := by
      rintro rfl
      exact hcr rfl
    rw [List.cons_append, translateNewlines_cons hc, ih ht.tail.1, List.cons_append]
  | case4 => rfl

theorem translateNewlines_eq_self {t : List Char} (h : ∀ c ∈ t, c ≠ '\r') :
    translateNewlines t = t := by
  induction t with
  | nil => rfl
  | cons c cs ih =>
    rw [translateNewlines_cons (h c (by simp)), ih fun d hd => h d (by simp [hd])]

theorem EndsLine.translateNewlines {t : List Char} (ht : EndsLine t) :
    EndsLine (translateNewlines t) := by
  fun_induction Text.translateNewlines t with
  | case1 cs ih => exact (ih ht.tail.1.tail.1).append (t := ['\n']) (Or.inr ⟨[], rfl⟩)
  | case2 cs hne ih => exact (ih ht.tail.1).append (t := ['\n']) (Or.inr ⟨[], rfl⟩)
  | case3 c cs hcrlf hcr ih =>
    obtain ⟨hcs, hlast⟩ := ht.tail
    rcases ih hcs with h | ⟨v, hv⟩
    · have hnil := translateNewlines_eq_nil h
      exact Or.inr ⟨[], by simp [h, hlast hnil]⟩
    · exact Or.inr ⟨c :: v, by simp [hv]⟩
  | case4 => exact Or.inl rfl

theorem lines_append {t : List Char} (ht : EndsLine t) (u : List Char) :
    lines (t ++ u) = lines t ++ lines u := by
  induction t with
  | nil => rfl
  | cons c cs ih =>
    obtain ⟨hcs, hlast⟩ := ht.tail
    rw [List.cons_append, lines, lines, ih hcs]
    by_cases hc : c = '\n'
    · simp [hc]
    · have hne : lines cs ≠ [] := by
        cases cs with
        | nil => exact absurd (hlast rfl) hc
        | cons d ds =>
          rw [lines]
          split
          · simp
          · split <;> simp
      rw [if_neg hc, if_neg hc]
      cases hl : lines cs with
      | nil => exact absurd hl hne
      | cons l ls => simp

theorem lines_line {l : List Char} (h : ∀ c ∈ l, c ≠ '\n') : lines (l ++ ['\n']) = [l ++ ['\n']] := by
  induction l with
  | nil => simp [lines]
  | cons c cs ih =>
    have hc : c ≠ '\n' := h c (by simp)
    rw [List.cons_append, lines, if_neg hc, ih fun d hd => h d (by simp [hd])]

/-- `strip` drops the line feed of a line whose text starts and ends with a character that is
not a space. -/
theorem stripChars_line {a b : Char} {m : List Char} (ha : isSpace a = false)
    (hb : isSpace b = false) :
    stripChars (a :: (m ++ [b]) ++ ['\n']) = a :: (m ++ [b]) := by
  have hn : isSpace '\n' = true := by decide
  simp [stripChars, ha, hb, hn]

/-! ## The last line -/

/-- A line feed that starts what is appended is the only one that joins with what was there. -/
theorem translateNewlines_append_of_head {u : List Char} (hu : u.head? ≠ some '\n')
    (t : List Char) : translateNewlines (t ++ u) = translateNewlines t ++ translateNewlines u := by
  fun_induction translateNewlines t with
  | case1 cs ih => simp [translateNewlines, ih]
  | case2 cs hne ih =>
    have hne' : ∀ ds, cs ++ u ≠ '\n' :: ds := by
      intro ds hds
      cases cs with
      | nil => exact hu (by rw [← List.nil_append u, hds]; rfl)
      | cons d cs => exact hne cs (by simp at hds; simp [hds.1])
    rw [List.cons_append, translateNewlines_cr hne', ih, List.cons_append]
  | case3 c cs hcrlf hcr ih =>
    have hc : c ≠ '\r' := by
      rintro rfl
      exact hcr rfl
    rw [List.cons_append, translateNewlines_cons hc, ih, List.cons_append]
  | case4 => rfl

theorem openLine_ne {t : List Char} : ∀ c ∈ openLine t, c ≠ '\n' := by
  intro c hc
  simpa using List.mem_rtakeWhile_imp hc

/-- A text is its ended lines and the open one. -/
theorem exists_ended (t : List Char) : ∃ u, EndsLine u ∧ t = u ++ openLine t := by
  refine ⟨t.rdropWhile (· ≠ '\n'), ?_, List.rdropWhile_append_rtakeWhile.symm⟩
  by_cases hnil : t.rdropWhile (· ≠ '\n') = []
  · exact Or.inl hnil
  · refine Or.inr ⟨(t.rdropWhile (· ≠ '\n')).dropLast, ?_⟩
    have hlast : (t.rdropWhile (· ≠ '\n')).getLast hnil = '\n' := by
      simpa using List.rdropWhile_last_not (· ≠ '\n') t hnil
    have hsplit := List.dropLast_append_getLast hnil
    rw [hlast] at hsplit
    exact hsplit.symm

theorem EndsLine.openLine {t : List Char} (h : EndsLine t) : openLine t = [] := by
  rcases h with rfl | ⟨u, rfl⟩
  · rfl
  · exact List.rtakeWhile_concat_neg _ _ _ (by simp)

theorem lines_open {l : List Char} (h : ∀ c ∈ l, c ≠ '\n') (hne : l ≠ []) : lines l = [l] := by
  induction l with
  | nil => exact absurd rfl hne
  | cons c cs ih =>
    have hc : c ≠ '\n' := h c (by simp)
    rw [lines, if_neg hc]
    by_cases hcs : cs = []
    · rw [hcs]
      rfl
    · rw [ih (fun d hd => h d (by simp [hd])) hcs]

theorem stripChars_eq_nil {l : List Char} : stripChars l = [] ↔ ∀ c ∈ l, isSpace c = true := by
  rw [stripChars, List.reverse_eq_nil_iff, List.dropWhile_eq_nil_iff]
  constructor
  · intro h
    by_contra hne
    push Not at hne
    obtain ⟨c, hc, hspace⟩ := hne
    have hdrop : l.dropWhile isSpace ≠ [] := by
      intro hnil
      exact hspace (List.dropWhile_eq_nil_iff.mp hnil c hc)
    have hhead := List.head_dropWhile_not isSpace hdrop
    rw [h _ (List.mem_reverse.mpr (List.head_mem hdrop))] at hhead
    cases hhead
  · intro h c hc
    exact h c ((List.dropWhile_sublist _).subset (List.mem_reverse.mp hc))

theorem stripChars_append_blank {l : List Char} (h : stripChars l = []) (u : List Char) :
    stripChars (l ++ u) = stripChars u := by
  have hdrop : l.dropWhile isSpace = [] := List.dropWhile_eq_nil_iff.mpr (stripChars_eq_nil.mp h)
  rw [stripChars, List.dropWhile_append, hdrop]
  rfl

end Text

end NexusC2
