import NexusC2.Misc.JsonRoundTrip

/-!
# Canonical JSON

Two values are the same when they differ only in the order in which objects list their fields,
which is how `dict`s compare. The canonical text of a value decides this: it is the spelling of
the value with its fields sorted, and the decoder reads a spelling back (`canonical_inj`).
-/

namespace NexusC2

namespace Json

variable {F : Type}

/-- The same JSON value, whatever the order of the fields. -/
def Same (v w : Json F) : Prop := sortKeys v = sortKeys w

theorem Same.refl (v : Json F) : Same v v := rfl

/-! ## Sorted fields -/

/-- The fields of an object as `sortKeys` leaves them. -/
def sortedFields (fs : Fields F) : Fields F := (sortFields fs).insertionSort fun p q => p.1 ≤ q.1

theorem sortKeys_obj (fs : Fields F) : sortKeys (.obj fs) = .obj (sortedFields fs) := rfl

theorem keys_sortFields (fs : Fields F) : Assoc.keys (sortFields fs) = Assoc.keys fs := by
  induction fs with
  | nil => rfl
  | cons p fs ih =>
    obtain ⟨k, v⟩ := p
    simp only [Assoc.keys] at ih
    simp [sortFields, Assoc.keys, ih]

theorem get_sortFields (fs : Fields F) (k : String) :
    Assoc.get (sortFields fs) k = (Assoc.get fs k).map sortKeys := by
  induction fs with
  | nil => rfl
  | cons p fs ih =>
    obtain ⟨k', v⟩ := p
    rw [sortFields, Assoc.get_cons, Assoc.get_cons, ih]
    by_cases hk : k' = k <;> simp [hk]

theorem sortedFields_perm (fs : Fields F) : (sortedFields fs).Perm (sortFields fs) :=
  List.perm_insertionSort _ _

theorem keys_sortedFields_perm (fs : Fields F) :
    (Assoc.keys (sortedFields fs)).Perm (Assoc.keys fs) := by
  rw [← keys_sortFields fs]
  exact (sortedFields_perm fs).map Prod.fst

theorem nodup_sortedFields {fs : Fields F} (h : (Assoc.keys fs).Nodup) :
    (Assoc.keys (sortedFields fs)).Nodup := (keys_sortedFields_perm fs).nodup_iff.mpr h

/-- Sorting changes no lookup, up to the order inside what is found. -/
theorem get_sortedFields {fs : Fields F} (h : (Assoc.keys fs).Nodup) (k : String) :
    Assoc.get (sortedFields fs) k = (Assoc.get fs k).map sortKeys := by
  have hsorted := nodup_sortedFields h
  have hfields : (Assoc.keys (sortFields fs)).Nodup := by rwa [keys_sortFields]
  rw [← get_sortFields]
  refine Option.ext fun v => ⟨fun hv => ?_, fun hv => ?_⟩
  · exact Assoc.get_of_mem hfields ((sortedFields_perm fs).mem_iff.mp (Assoc.mem_of_get hv))
  · exact Assoc.get_of_mem hsorted ((sortedFields_perm fs).mem_iff.mpr (Assoc.mem_of_get hv))

instance : Std.Total fun p q : String × Json F => p.1 ≤ q.1 := ⟨fun p q => String.le_total p.1 q.1⟩

instance : IsTrans (String × Json F) fun p q => p.1 ≤ q.1 := ⟨fun _ _ _ => String.le_trans⟩

theorem pairwise_sortedFields (fs : Fields F) :
    (sortedFields fs).Pairwise fun p q => p.1 ≤ q.1 := List.pairwise_insertionSort _ _

/-- Sorted fields are told apart by what they answer. -/
theorem sortedFields_ext {fs gs : Fields F} (hfs : (Assoc.keys fs).Nodup)
    (hgs : (Assoc.keys gs).Nodup)
    (h : ∀ k, Assoc.get (sortedFields fs) k = Assoc.get (sortedFields gs) k) :
    sortedFields fs = sortedFields gs := by
  have hmem : ∀ p, p ∈ sortedFields fs ↔ p ∈ sortedFields gs := by
    intro p
    obtain ⟨k, v⟩ := p
    constructor
    · intro hp
      exact Assoc.mem_of_get ((h k).symm.trans (Assoc.get_of_mem (nodup_sortedFields hfs) hp))
    · intro hp
      exact Assoc.mem_of_get ((h k).trans (Assoc.get_of_mem (nodup_sortedFields hgs) hp))
  have hperm : (sortedFields fs).Perm (sortedFields gs) :=
    (List.perm_ext_iff_of_nodup (nodup_sortedFields hfs).of_map
      (nodup_sortedFields hgs).of_map).mpr hmem
  refine hperm.eq_of_pairwise ?_ (pairwise_sortedFields fs) (pairwise_sortedFields gs)
  -- two fields under one key are one field, as keys are distinct
  intro p q hp hq hpq hqp
  obtain ⟨k, v⟩ := p
  obtain ⟨k', w⟩ := q
  obtain rfl : k = k' := String.le_antisymm hpq hqp
  have hv := Assoc.get_of_mem (nodup_sortedFields hgs) ((hmem _).mp hp)
  have hw := Assoc.get_of_mem (nodup_sortedFields hgs) hq
  rw [Option.some.inj (hv.symm.trans hw)]

/-- Two objects are the same exactly when they answer every key with the same value. -/
theorem same_obj_iff {fs gs : Fields F} (hfs : (Assoc.keys fs).Nodup)
    (hgs : (Assoc.keys gs).Nodup) :
    Same (.obj fs) (.obj gs) ↔ ∀ k, (Assoc.get fs k).map sortKeys = (Assoc.get gs k).map sortKeys := by
  unfold Same
  rw [sortKeys_obj, sortKeys_obj, Json.obj.injEq]
  constructor
  · intro h k
    rw [← get_sortedFields hfs, ← get_sortedFields hgs, h]
  · intro h
    refine sortedFields_ext hfs hgs fun k => ?_
    rw [get_sortedFields hfs, get_sortedFields hgs, h k]

/-! ## Well-formedness -/

theorem wfFields_iff {fs : Fields F} : wfFields fs = true ↔ ∀ p ∈ fs, p.2.wf = true := by
  induction fs with
  | nil => simp [wfFields]
  | cons p fs ih =>
    obtain ⟨k, v⟩ := p
    simp [wfFields, ih]

theorem wf_obj_iff {fs : Fields F} :
    (Json.obj fs).wf = true ↔ (Assoc.keys fs).Nodup ∧ wfFields fs = true := by
  simp [wf]

/-- An object with another value under a key is not the same. -/
theorem not_same_of_get {fs gs : Fields F} (hfs : (Json.obj fs).wf = true)
    (hgs : (Json.obj gs).wf = true) {k : String} {v w : Json F} (hv : Assoc.get fs k = some v)
    (hw : Assoc.get gs k = some w) (hne : ¬ Same v w) :
    ¬ Same (.obj fs) (.obj gs) := by
  intro h
  have hget := (same_obj_iff (wf_obj_iff.mp hfs).1 (wf_obj_iff.mp hgs).1).mp h k
  rw [hv, hw] at hget
  exact hne (Option.some.inj hget)

theorem not_same_str {s : String} {v : Json F} (h : v ≠ .str s) : ¬ Same (.str s) v := by
  intro hsame
  unfold Same at hsame
  cases v with
  | str t =>
    simp only [sortKeys, str.injEq] at hsame
    exact h (congrArg str hsame.symm)
  | _ => simp [sortKeys] at hsame

theorem wf_of_get {fs : Fields F} (h : (Json.obj fs).wf = true) {k : String} {v : Json F}
    (hget : Assoc.get fs k = some v) : v.wf = true :=
  wfFields_iff.mp (wf_obj_iff.mp h).2 (k, v) (Assoc.mem_of_get hget)

theorem wf_set {fs : Fields F} (h : (Json.obj fs).wf = true) (k : String) {v : Json F}
    (hv : v.wf = true) : (Json.obj (Assoc.set fs k v)).wf = true := by
  have hkeys := Assoc.nodup_set (wf_obj_iff.mp h).1 k v
  refine wf_obj_iff.mpr ⟨hkeys, wfFields_iff.mpr fun p hp => ?_⟩
  have hget := Assoc.get_of_mem hkeys hp
  rw [Assoc.get_set] at hget
  split at hget
  · cases hget
    exact hv
  · exact wf_of_get h hget

mutual

theorem wf_sortKeys : (v : Json F) → v.wf = true → (sortKeys v).wf = true
  | .null, _ => rfl
  | .bool _, _ => rfl
  | .int _, _ => rfl
  | .float _, _ => rfl
  | .str _, _ => rfl
  | .arr vs, h => by
    simp only [wf, sortKeys] at h ⊢
    exact wf_sortItems vs h
  | .obj fs, h => by
    obtain ⟨hkeys, hfs⟩ := wf_obj_iff.mp h
    rw [sortKeys_obj, wf_obj_iff]
    refine ⟨nodup_sortedFields hkeys, wfFields_iff.mpr fun p hp => ?_⟩
    exact wfFields_iff.mp (wf_sortFields fs hfs) p ((sortedFields_perm fs).mem_iff.mp hp)

theorem wf_sortItems : (vs : List (Json F)) → wfItems vs = true → wfItems (sortItems vs) = true
  | [], _ => rfl
  | v :: vs, h => by
    simp only [wfItems, sortItems, Bool.and_eq_true] at h ⊢
    exact ⟨wf_sortKeys v h.1, wf_sortItems vs h.2⟩

theorem wf_sortFields : (fs : Fields F) → wfFields fs = true → wfFields (sortFields fs) = true
  | [], _ => rfl
  | (k, v) :: fs, h => by
    simp only [wfFields, sortFields, Bool.and_eq_true] at h ⊢
    exact ⟨wf_sortKeys v h.1, wf_sortFields fs h.2⟩

end

/-- The canonical text tells values apart, up to the order of fields. -/
theorem canonical_inj [PyFloat F] {v w : Json F} (hv : v.wf = true) (hw : w.wf = true)
    (h : v.canonical = w.canonical) : Same v w := by
  have hgap : ∀ c ∈ ([] : List Char), isWs c = true := by simp
  have htext : dumps [] (sortKeys v) = dumps [] (sortKeys w) := String.ofList_injective h
  have hreads := loads_dumps hgap (wf_sortKeys v hv)
  rw [htext, loads_dumps hgap (wf_sortKeys w hw)] at hreads
  exact (Option.some.inj hreads).symm

end Json

end NexusC2
