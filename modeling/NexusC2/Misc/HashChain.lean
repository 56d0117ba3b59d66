import Mathlib.Data.List.Forall2
import Mathlib.Data.List.Induction
import Mathlib.Tactic.Basic

/-!
# Linked lists of records

A chain is a list of records in which every record fits the link its predecessor leaves, the
first one fitting a given genesis link. What fits and what is left are parameters, so the same
rules serve a check of the links alone and a check that also recomputes digests.
-/

namespace NexusC2

namespace HashChain

variable {R L : Type}

/-- Every record fits the link before it. -/
def Valid (fits : L → R → Prop) (next : L → R → L) : L → List R → Prop
  | _, [] => True
  | g, r :: rs => fits g r ∧ Valid fits next (next g r) rs

/-- The link left by the last record, the genesis link when there is none. -/
def tip (next : L → R → L) (g : L) (rs : List R) : L := rs.foldl next g

variable {fits fits' : L → R → Prop} {next next' : L → R → L}

@[simp] theorem tip_nil (g : L) : tip next g ([] : List R) = g := rfl

@[simp] theorem tip_cons (g : L) (r : R) (rs : List R) :
    tip next g (r :: rs) = tip next (next g r) rs := rfl

@[simp] theorem tip_append (g : L) (rs qs : List R) :
    tip next g (rs ++ qs) = tip next (tip next g rs) qs := List.foldl_append

theorem valid_append (g : L) (rs qs : List R) :
    Valid fits next g (rs ++ qs) ↔ Valid fits next g rs ∧ Valid fits next (tip next g rs) qs := by
  induction rs generalizing g with
  | nil => simp [Valid]
  | cons r rs ih => simp only [List.cons_append, Valid, ih, tip_cons, and_assoc]

/-- A record extends a chain exactly when it fits the tip. -/
theorem valid_snoc (g : L) (rs : List R) (r : R) :
    Valid fits next g (rs ++ [r]) ↔ Valid fits next g rs ∧ fits (tip next g rs) r := by
  rw [valid_append]
  simp [Valid]

theorem valid_iff_forall {g : L} {rs : List R} : Valid fits next g rs ↔
    ∀ (ps qs : List R) (r : R), rs = ps ++ r :: qs → fits (tip next g ps) r := by
  induction rs generalizing g with
  | nil => simp [Valid]
  | cons r rs ih =>
    rw [Valid, ih]
    constructor
    · rintro ⟨hr, hrs⟩ ps qs q heq
      rcases List.cons_eq_append_iff.mp heq with ⟨rfl, hq⟩ | ⟨ps', rfl, hq⟩
      · cases hq
        exact hr
      · exact hrs ps' qs q hq
    · intro h
      exact ⟨h [] rs r rfl, fun ps qs q heq => h (r :: ps) qs q (by rw [heq, List.cons_append])⟩

/-- A chain stays one under a weaker check, where the two checks leave the same link after a
record that passes the stronger one. -/
theorem Valid.mono {g : L} {rs : List R} (h : Valid fits next g rs)
    (hfits : ∀ l r, fits l r → fits' l r) (hnext : ∀ l r, fits l r → next' l r = next l r) :
    Valid fits' next' g rs := by
  induction rs generalizing g with
  | nil => trivial
  | cons r rs ih =>
    obtain ⟨hr, hrs⟩ := h
    refine ⟨hfits g r hr, ?_⟩
    rw [hnext g r hr]
    exact ih hrs

/-- Where the link that a record leaves tells the record and the link it fits, two chains of one
length with one tip have the same records. -/
theorem Valid.forall₂_of_tip {same : R → R → Prop} {g g' : L} {rs rs' : List R}
    (h : Valid fits next g rs) (h' : Valid fits next g' rs') (hlen : rs.length = rs'.length)
    (htip : tip next g rs = tip next g' rs')
    (hinj : ∀ l l' r r', r ∈ rs → r' ∈ rs' → fits l r → fits l' r' → next l r = next l' r' →
      l = l' ∧ same r r') : List.Forall₂ same rs rs' := by
  induction rs using List.reverseRecOn generalizing rs' with
  | nil =>
    obtain rfl : rs' = [] := List.eq_nil_of_length_eq_zero hlen.symm
    exact .nil
  | append_singleton rs r ih =>
    rcases List.eq_nil_or_concat rs' with rfl | ⟨qs, q, rfl⟩
    · simp at hlen
    rw [List.concat_eq_append] at *
    obtain ⟨hrs, hr⟩ := (valid_snoc _ _ _).mp h
    obtain ⟨hqs, hq⟩ := (valid_snoc _ _ _).mp h'
    rw [tip_append, tip_cons, tip_nil, tip_append, tip_cons, tip_nil] at htip
    -- the last records agree, and with them the links they fit
    obtain ⟨htip', hsame⟩ := hinj _ _ r q (List.mem_append_right _ List.mem_cons_self)
      (List.mem_append_right _ List.mem_cons_self) hr hq htip
    have hlen' : rs.length = qs.length := by simpa using hlen
    have hinit := ih hrs hqs hlen' htip' fun l l' r r' hmem hmem' =>
      hinj l l' r r' (List.mem_append_left _ hmem) (List.mem_append_left _ hmem')
    exact List.rel_append hinit (.cons hsame .nil)

/-! ## Where a chain breaks -/

/-- The first record that does not fit the link before it is at this index. -/
def FirstMisfit (fits : L → R → Prop) (next : L → R → L) : L → List R → Nat → Prop
  | _, [], _ => False
  | g, r :: _, 0 => ¬ fits g r
  | g, r :: rs, i + 1 => fits g r ∧ FirstMisfit fits next (next g r) rs i

theorem FirstMisfit.not_valid {g : L} {rs : List R} {i : Nat}
    (h : FirstMisfit fits next g rs i) : ¬ Valid fits next g rs := by
  induction rs generalizing g i with
  | nil => exact h.elim
  | cons r rs ih =>
    rintro ⟨hr, hrs⟩
    cases i with
    | zero => exact h hr
    | succ i => exact ih h.2 hrs

/-- What does not fit a weaker check does not fit a stronger one, which may find a misfit before
it. -/
theorem FirstMisfit.mono {g : L} {rs : List R} {i : Nat} (h : FirstMisfit fits' next' g rs i)
    (hfits : ∀ l r, fits l r → fits' l r) (hnext : ∀ l r, fits l r → next' l r = next l r) :
    ∃ j ≤ i, FirstMisfit fits next g rs j := by
  induction rs generalizing g i with
  | nil => exact h.elim
  | cons r rs ih =>
    by_cases hr : fits g r
    · cases i with
      | zero => exact absurd (hfits g r hr) h
      | succ i =>
        have hrest := h.2
        rw [hnext g r hr] at hrest
        obtain ⟨j, hle, hj⟩ := ih hrest
        exact ⟨j + 1, Nat.succ_le_succ hle, hr, hj⟩
    · exact ⟨0, Nat.zero_le i, hr⟩

/-- After records that fit, the first misfit is among the ones that follow. -/
theorem firstMisfit_append {g : L} {rs qs : List R} (h : Valid fits next g rs) {i : Nat}
    (hi : FirstMisfit fits next (tip next g rs) qs i) :
    FirstMisfit fits next g (rs ++ qs) (rs.length + i) := by
  induction rs generalizing g with
  | nil =>
    rw [List.length_nil, Nat.zero_add]
    exact hi
  | cons r rs ih =>
    rw [List.length_cons, Nat.add_right_comm]
    exact ⟨h.1, ih h.2 hi⟩

end HashChain

end NexusC2
