import Mathlib.Data.List.Nodup

/-!
# Insertion-ordered dictionaries

A dictionary is an association list whose keys are distinct, in the order in which the keys
were first set. `Assoc` has the operations on bare association lists (the fields of a JSON
object are one), `Dict` carries the distinctness of its keys as a field. Every lemma below is
about lookups, or about the values up to their order: two operations are compared by what they
answer, not by the order they keep.
-/

namespace NexusC2

namespace Assoc

variable {κ υ : Type} [DecidableEq κ]

/-- The keys of an association list, oldest first. -/
def keys (l : List (κ × υ)) : List κ := l.map Prod.fst

/-- The value under a key; the first one where a key occurs twice. -/
def get (l : List (κ × υ)) (k : κ) : Option υ :=
  match l with
  | [] => none
  | (k', v) :: l => if k' = k then some v else get l k

/-- `d[k] = v`: an existing key keeps its place, a new one goes to the end. -/
def set (l : List (κ × υ)) (k : κ) (v : υ) : List (κ × υ) :=
  match l with
  | [] => [(k, v)]
  | (k', v') :: l => if k' = k then (k, v) :: l else (k', v') :: set l k v

/-- `del d[k]`. -/
def erase (l : List (κ × υ)) (k : κ) : List (κ × υ) :=
  l.filter fun p => p.1 ≠ k

@[simp] theorem get_nil (k : κ) : get ([] : List (κ × υ)) k = none := rfl

theorem get_cons (k' : κ) (v : υ) (l : List (κ × υ)) (k : κ) :
    get ((k', v) :: l) k = if k' = k then some v else get l k := rfl

theorem get_append (l l' : List (κ × υ)) (k : κ) : get (l ++ l') k = (get l k).or (get l' k) := by
  induction l with
  | nil => rfl
  | cons p l ih =>
    obtain ⟨k', v⟩ := p
    rw [List.cons_append, get_cons, get_cons, ih]
    split <;> rfl

/-- A filter by keys that keeps the key. -/
theorem get_filter_of_keeps {p : κ × υ → Bool} {k : κ} (h : ∀ v, p (k, v) = true)
    (l : List (κ × υ)) : get (l.filter p) k = get l k := by
  induction l with
  | nil => rfl
  | cons q l ih =>
    obtain ⟨k', v⟩ := q
    rw [get_cons, List.filter_cons]
    by_cases hk : k' = k
    · subst hk
      rw [if_pos (h v), get_cons, if_pos rfl, if_pos rfl]
    · rw [if_neg hk, ← ih]
      split
      · rw [get_cons, if_neg hk]
      · rfl

theorem set_cons (k' : κ) (v' : υ) (l : List (κ × υ)) (k : κ) (v : υ) :
    set ((k', v') :: l) k v = if k' = k then (k, v) :: l else (k', v') :: set l k v := rfl

theorem erase_cons (p : κ × υ) (l : List (κ × υ)) (k : κ) :
    erase (p :: l) k = if p.1 = k then erase l k else p :: erase l k := by
  by_cases h : p.1 = k <;> simp [erase, h]

@[simp] theorem get_set (l : List (κ × υ)) (k : κ) (v : υ) (x : κ) :
    get (set l k v) x = if k = x then some v else get l x := by
  induction l with
  | nil => simp [set, get_cons]
  | cons p l ih =>
    obtain ⟨k', v'⟩ := p
    rw [set_cons]
    by_cases hk : k' = k
    · subst hk
      rw [if_pos rfl, get_cons, get_cons]
      by_cases hx : k' = x <;> simp [hx]
    · rw [if_neg hk, get_cons, get_cons, ih]
      by_cases hx : k' = x
      · subst hx
        simp [Ne.symm hk]
      · simp [hx]

@[simp] theorem get_erase (l : List (κ × υ)) (k x : κ) :
    get (erase l k) x = if k = x then none else get l x := by
  induction l with
  | nil => simp [erase]
  | cons p l ih =>
    obtain ⟨k', v'⟩ := p
    rw [erase_cons]
    by_cases hk : k' = k
    · subst hk
      rw [if_pos rfl, ih, get_cons]
      by_cases hx : k' = x <;> simp [hx]
    · rw [if_neg hk, get_cons, get_cons, ih]
      by_cases hx : k' = x
      · subst hx
        simp [Ne.symm hk]
      · simp [hx]

theorem mem_of_get {l : List (κ × υ)} {k : κ} {v : υ} (h : get l k = some v) : (k, v) ∈ l := by
  induction l with
  | nil => simp at h
  | cons p l ih =>
    obtain ⟨k', v'⟩ := p
    by_cases hk : k' = k
    · simp [get_cons, hk] at h
      simp [hk, h]
    · simp [get_cons, hk] at h
      exact List.mem_cons_of_mem _ (ih h)

theorem get_of_mem {l : List (κ × υ)} (hl : (keys l).Nodup) {k : κ} {v : υ} (h : (k, v) ∈ l) :
    get l k = some v := by
  induction l with
  | nil => simp at h
  | cons p l ih =>
    obtain ⟨k', v'⟩ := p
    obtain ⟨hnew, hl⟩ := List.nodup_cons.mp hl
    rcases List.mem_cons.mp h with heq | hmem
    · cases heq
      simp [get_cons]
    · have hne : k' ≠ k := by
        rintro rfl
        exact hnew (List.mem_map.mpr ⟨(k', v), hmem, rfl⟩)
      simp [get_cons, hne, ih hl hmem]

theorem keys_set (l : List (κ × υ)) (k : κ) (v : υ) :
    keys (set l k v) = if k ∈ keys l then keys l else keys l ++ [k] := by
  induction l with
  | nil => simp [set, keys]
  | cons p l ih =>
    obtain ⟨k', v'⟩ := p
    by_cases hk : k' = k
    · subst hk
      simp [set, keys]
    · simp only [set, hk, if_false, keys, List.map_cons] at ih ⊢
      rw [ih]
      by_cases hmem : k ∈ l.map Prod.fst <;> simp [hmem, Ne.symm hk]

theorem nodup_set {l : List (κ × υ)} (hl : (keys l).Nodup) (k : κ) (v : υ) :
    (keys (set l k v)).Nodup := by
  rw [keys_set]
  split
  · exact hl
  · rename_i hmem
    exact List.nodup_append.mpr ⟨hl, by simp, by
      intro a ha b hb
      rintro rfl
      exact hmem (by simpa using (List.mem_singleton.mp hb) ▸ ha)⟩

theorem nodup_erase {l : List (κ × υ)} (hl : (keys l).Nodup) (k : κ) :
    (keys (erase l k)).Nodup :=
  hl.sublist (List.filter_sublist.map Prod.fst)

/-- A new key goes to the end. -/
theorem set_of_not_mem {l : List (κ × υ)} {k : κ} (h : k ∉ keys l) (v : υ) :
    set l k v = l ++ [(k, v)] := by
  induction l with
  | nil => rfl
  | cons p l ih =>
    obtain ⟨k', v'⟩ := p
    have hne : k' ≠ k := by
      rintro rfl
      exact h List.mem_cons_self
    rw [set_cons, if_neg hne, ih fun hmem => h (List.mem_cons_of_mem _ hmem), List.cons_append]

/-- The assignments `d[k] = v` of a list, in order. -/
def setAll (d l : List (κ × υ)) : List (κ × υ) := l.foldl (fun d p => set d p.1 p.2) d

theorem length_set (l : List (κ × υ)) (k : κ) (v : υ) :
    (set l k v).length = if k ∈ keys l then l.length else l.length + 1 := by
  have hkeys := congrArg List.length (keys_set l k v)
  split at hkeys <;> simp_all [keys]

theorem length_setAll_le (d l : List (κ × υ)) : (setAll d l).length ≤ d.length + l.length := by
  induction l generalizing d with
  | nil => simp [setAll]
  | cons p l ih =>
    have hle := ih (set d p.1 p.2)
    have hset := length_set d p.1 p.2
    change (setAll (set d p.1 p.2) l).length ≤ d.length + (l.length + 1)
    split at hset <;> omega

/-- Every assignment makes a new entry exactly when no key was there before. -/
theorem length_setAll_eq_iff {d : List (κ × υ)} (hd : (keys d).Nodup) (l : List (κ × υ)) :
    (setAll d l).length = d.length + l.length ↔ (keys (d ++ l)).Nodup := by
  induction l generalizing d with
  | nil => simpa [setAll] using hd
  | cons p l ih =>
    change (setAll (set d p.1 p.2) l).length = d.length + (l.length + 1) ↔ _
    by_cases hmem : p.1 ∈ keys d
    · -- an entry that is overwritten is never made up for
      have hle := length_setAll_le (set d p.1 p.2) l
      rw [length_set, if_pos hmem] at hle
      have hdup : ¬ (keys (d ++ p :: l)).Nodup := by
        intro hnodup
        simp only [keys, List.map_append, List.map_cons] at hnodup
        exact (List.nodup_append.mp hnodup).2.2 _ hmem _ List.mem_cons_self rfl
      simp only [hdup, iff_false]
      omega
    · have hset : set d p.1 p.2 = d ++ [p] := set_of_not_mem hmem p.2
      have hnodup : (keys (set d p.1 p.2)).Nodup := nodup_set hd p.1 p.2
      rw [List.append_cons, ← hset, ← ih hnodup, length_set, if_neg hmem]
      omega

/-! The entry of one key and the others -/

theorem erase_of_get {l : List (κ × υ)} {k : κ} (h : get l k = none) : erase l k = l := by
  induction l with
  | nil => rfl
  | cons p l ih =>
    obtain ⟨k', v'⟩ := p
    by_cases hk : k' = k
    · simp [get_cons, hk] at h
    · simp only [get_cons, if_neg hk] at h
      rw [erase_cons, if_neg hk, ih h]

theorem erase_set (l : List (κ × υ)) (k : κ) (v : υ) : erase (set l k v) k = erase l k := by
  induction l with
  | nil => simp [set, erase]
  | cons p l ih =>
    obtain ⟨k', v'⟩ := p
    rw [set_cons, erase_cons]
    by_cases hk : k' = k
    · rw [if_pos hk, if_pos hk, erase_cons, if_pos rfl]
    · rw [if_neg hk, if_neg hk, erase_cons, if_neg hk, ih]

/-- Up to their order, the entries are that of a key and the others. -/
theorem perm_of_get {l : List (κ × υ)} (hl : (keys l).Nodup) {k : κ} {v : υ}
    (h : get l k = some v) : l.Perm ((k, v) :: erase l k) := by
  induction l with
  | nil => cases h
  | cons p l ih =>
    obtain ⟨k', v'⟩ := p
    obtain ⟨hnew, hl⟩ := List.nodup_cons.mp hl
    rw [get_cons] at h
    rw [erase_cons]
    by_cases hk : k' = k
    · subst hk
      cases hv : get l k' with
      | none =>
        rw [if_pos rfl] at h ⊢
        cases h
        rw [erase_of_get hv]
      | some w => exact absurd (List.mem_map_of_mem (mem_of_get hv)) hnew
    · rw [if_neg hk] at h ⊢
      exact ((ih hl h).cons _).trans (List.Perm.swap _ _ _)

/-! Changing the values -/

variable {ω : Type}

/-- The same keys with other values. -/
def mapValues (f : υ → ω) (l : List (κ × υ)) : List (κ × ω) := l.map fun p => (p.1, f p.2)

omit [DecidableEq κ] in
@[simp] theorem keys_mapValues (f : υ → ω) (l : List (κ × υ)) : keys (mapValues f l) = keys l := by
  simp [keys, mapValues]

@[simp] theorem get_mapValues (f : υ → ω) (l : List (κ × υ)) (k : κ) :
    get (mapValues f l) k = (get l k).map f := by
  induction l with
  | nil => rfl
  | cons p l ih =>
    obtain ⟨k', v⟩ := p
    change get ((k', f v) :: mapValues f l) k = _
    rw [get_cons, get_cons, ih]
    by_cases hk : k' = k <;> simp [hk]

theorem mapValues_set (f : υ → ω) (l : List (κ × υ)) (k : κ) (v : υ) :
    mapValues f (set l k v) = set (mapValues f l) k (f v) := by
  induction l with
  | nil => rfl
  | cons p l ih =>
    obtain ⟨k', v'⟩ := p
    change _ = set ((k', f v') :: mapValues f l) k (f v)
    rw [set_cons, set_cons]
    by_cases hk : k' = k
    · rw [if_pos hk, if_pos hk]
      rfl
    · rw [if_neg hk, if_neg hk, ← ih]
      rfl

theorem mapValues_erase (f : υ → ω) (l : List (κ × υ)) (k : κ) :
    mapValues f (erase l k) = erase (mapValues f l) k := by
  simp [mapValues, erase, List.filter_map, Function.comp_def]

end Assoc

/-- A dictionary: an association list with distinct keys. -/
structure Dict (κ υ : Type) where
  entries : List (κ × υ)
  nodup : (Assoc.keys entries).Nodup

namespace Dict

variable {κ υ : Type} [DecidableEq κ]

/-- `{}`. -/
def empty : Dict κ υ := ⟨[], List.nodup_nil⟩

instance : EmptyCollection (Dict κ υ) := ⟨empty⟩

/-- `d.get(k)`. -/
def get (d : Dict κ υ) (k : κ) : Option υ := Assoc.get d.entries k

/-- `d[k] = v`. -/
def set (d : Dict κ υ) (k : κ) (v : υ) : Dict κ υ :=
  ⟨Assoc.set d.entries k v, Assoc.nodup_set d.nodup k v⟩

/-- `del d[k]`, where the key is there; nothing where it is not. -/
def erase (d : Dict κ υ) (k : κ) : Dict κ υ :=
  ⟨Assoc.erase d.entries k, Assoc.nodup_erase d.nodup k⟩

/-- `d.values()`. -/
def values (d : Dict κ υ) : List υ := d.entries.map Prod.snd

@[simp] theorem get_empty (k : κ) : (∅ : Dict κ υ).get k = none := rfl

@[simp] theorem get_set (d : Dict κ υ) (k : κ) (v : υ) (x : κ) :
    (d.set k v).get x = if k = x then some v else d.get x := Assoc.get_set _ _ _ _

@[simp] theorem get_erase (d : Dict κ υ) (k x : κ) :
    (d.erase k).get x = if k = x then none else d.get x := Assoc.get_erase _ _ _

theorem mem_entries {d : Dict κ υ} {k : κ} {v : υ} : (k, v) ∈ d.entries ↔ d.get k = some v :=
  ⟨Assoc.get_of_mem d.nodup, Assoc.mem_of_get⟩

theorem get_of_not_mem {d : Dict κ υ} {k : κ} (h : k ∉ Assoc.keys d.entries) : d.get k = none := by
  cases hget : d.get k with
  | none => rfl
  | some v => exact absurd (List.mem_map_of_mem (mem_entries.mpr hget)) h

theorem mem_values {d : Dict κ υ} {v : υ} : v ∈ d.values ↔ ∃ k, d.get k = some v := by
  constructor
  · intro h
    obtain ⟨⟨k, w⟩, hmem, rfl⟩ := List.mem_map.mp h
    exact ⟨k, mem_entries.mp hmem⟩
  · rintro ⟨k, h⟩
    exact List.mem_map.mpr ⟨(k, v), mem_entries.mpr h, rfl⟩

omit [DecidableEq κ] in
theorem ext_entries {d e : Dict κ υ} (h : d.entries = e.entries) : d = e := by
  cases d
  cases e
  cases h
  rfl

theorem entries_set (d : Dict κ υ) (k : κ) (v : υ) :
    (d.set k v).entries = Assoc.set d.entries k v := rfl

theorem erase_of_get {d : Dict κ υ} {k : κ} (h : d.get k = none) : d.erase k = d :=
  ext_entries (Assoc.erase_of_get h)

/-- The values are that of a key and those of the others. -/
theorem values_perm {d : Dict κ υ} {k : κ} {v : υ} (h : d.get k = some v) :
    d.values.Perm (v :: (d.erase k).values) :=
  (Assoc.perm_of_get d.nodup h).map Prod.snd

/-- Setting a key replaces its value and leaves those of the others. -/
theorem values_set_perm (d : Dict κ υ) (k : κ) (v : υ) :
    (d.set k v).values.Perm (v :: (d.erase k).values) := by
  have hperm := values_perm (show (d.set k v).get k = some v by simp)
  have herase : (d.set k v).erase k = d.erase k := ext_entries (Assoc.erase_set _ _ _)
  rwa [herase] at hperm

/-! ## Changing the values -/

section

variable {ω ψ : Type}

/-- The same keys, in the same order, with other values. -/
def mapValues (f : υ → ω) (d : Dict κ υ) : Dict κ ω :=
  ⟨Assoc.mapValues f d.entries, by
    rw [Assoc.keys_mapValues]
    exact d.nodup⟩

@[simp] theorem get_mapValues (f : υ → ω) (d : Dict κ υ) (k : κ) :
    (d.mapValues f).get k = (d.get k).map f := Assoc.get_mapValues _ _ _

omit [DecidableEq κ] in
@[simp] theorem mapValues_empty (f : υ → ω) : (∅ : Dict κ υ).mapValues f = ∅ := rfl

@[simp] theorem mapValues_set (f : υ → ω) (d : Dict κ υ) (k : κ) (v : υ) :
    (d.set k v).mapValues f = (d.mapValues f).set k (f v) :=
  ext_entries (Assoc.mapValues_set f _ _ _)

@[simp] theorem mapValues_erase (f : υ → ω) (d : Dict κ υ) (k : κ) :
    (d.erase k).mapValues f = (d.mapValues f).erase k :=
  ext_entries (Assoc.mapValues_erase f _ _)

omit [DecidableEq κ] in
theorem mapValues_mapValues (f : υ → ω) (g : ω → ψ) (d : Dict κ υ) :
    (d.mapValues f).mapValues g = d.mapValues fun v => g (f v) := by
  unfold mapValues
  simp [Assoc.mapValues, Function.comp_def]

omit [DecidableEq κ] in
@[simp] theorem mapValues_id (d : Dict κ υ) : d.mapValues (fun v => v) = d := by
  unfold mapValues
  simp [Assoc.mapValues]

/-- `for k, v in rows: d[k] = f(v)`, where `f` may skip a row (`some none`) or fail (`none`). -/
def collect (f : υ → Option (Option ω)) (d : Dict κ ω) : List (κ × υ) → Option (Dict κ ω)
  | [] => some d
  | (k, v) :: rows =>
    match f v with
    | none => none
    | some none => collect f d rows
    | some (some w) => collect f (d.set k w) rows

/-- Reading back the rows of a dictionary whose values were written with `g`. -/
theorem collect_rows {f : υ → Option (Option ω)} {g : ψ → υ} {r : ψ → ω}
    (h : ∀ v, f (g v) = some (some (r v))) (e d : Dict κ ψ)
    (hdisjoint : ∀ k ∈ Assoc.keys d.entries, k ∉ Assoc.keys e.entries) :
    ∃ c, collect f (e.mapValues r) (d.mapValues g).entries = some c ∧
      c.entries = Assoc.mapValues r (e.entries ++ d.entries) := by
  obtain ⟨rows, hrows⟩ := d
  induction rows generalizing e with
  | nil => exact ⟨_, rfl, by rw [List.append_nil]; rfl⟩
  | cons p rows ih =>
    obtain ⟨k, v⟩ := p
    obtain ⟨hnew, hnodup⟩ := List.nodup_cons.mp hrows
    have hk : k ∉ Assoc.keys e.entries := hdisjoint k List.mem_cons_self
    have hset : (e.set k v).entries = e.entries ++ [(k, v)] := Assoc.set_of_not_mem hk v
    obtain ⟨c, hc, hentries⟩ := ih (e.set k v) hnodup (by
      intro k' hmem hin
      rw [hset, Assoc.keys, List.map_append, List.mem_append] at hin
      rcases hin with hin | hin
      · exact hdisjoint k' (List.mem_cons_of_mem _ hmem) hin
      · rw [List.mem_singleton.mp hin] at hmem
        exact hnew hmem)
    refine ⟨c, ?_, ?_⟩
    · change collect f (e.mapValues r) ((k, g v) :: Assoc.mapValues g rows) = some c
      simp only [collect, h]
      rw [← mapValues_set]
      exact hc
    · rw [hentries, hset, List.append_assoc]
      rfl

/-- A dictionary that is written row by row is read back with its values as the reader has them. -/
theorem collect_mapValues {f : υ → Option (Option ω)} {g : ψ → υ} {r : ψ → ω}
    (h : ∀ v, f (g v) = some (some (r v))) (d : Dict κ ψ) :
    collect f ∅ (d.mapValues g).entries = some (d.mapValues r) := by
  obtain ⟨c, hc, hentries⟩ := collect_rows h ∅ d (fun _ _ hmem => by cases hmem)
  rw [mapValues_empty] at hc
  rw [hc]
  exact congrArg some (ext_entries hentries)

end

end Dict

end NexusC2
