import NexusC2.Core.Interlock

/-!
# Which COAs count as duplicates

The active set holds ids and keys together, and a key joins target, intent and coordinates with
colons that are not escaped. So a COA can be refused for another one that it only shares a text
with. It is told apart from all registered ones exactly when no text is shared that way.
-/

namespace NexusC2

namespace DeterministicInterlock

variable {F : Type} [PyFloatOps F]

open PyFloatOps

/-- The COAs are registered one after the other, from an empty active set. -/
def registerAll (i : DeterministicInterlock F) (cs : List (CourseOfAction F)) :
    DeterministicInterlock F :=
  cs.foldl registerActive { i with activeCoaIds := ∅ }

/-- The same id, or the same target, intent and coordinates, which Python compares with `==`. -/
def SameTask (c x : CourseOfAction F) : Prop :=
  c.coaId = x.coaId ∨
    (c.targetEntityId = x.targetEntityId ∧ c.intent = x.intent ∧
      eq c.targetCoordinates.1 x.targetCoordinates.1 = true ∧
      eq c.targetCoordinates.2 x.targetCoordinates.2 = true)

/-- The id or the key of one of them is the id or the key of the other. -/
def SharesText (c x : CourseOfAction F) : Prop :=
  (x.coaId = c.coaId ∨ x.coaId = dupKey c) ∨ (dupKey x = c.coaId ∨ dupKey x = dupKey c)

/-- A text is shared by COAs for two tasks. -/
def Mistaken (c x : CourseOfAction F) : Prop := SharesText c x ∧ ¬ SameTask c x

/-- Two COAs for one task share no text: equal coordinates are spelled in two ways, as `0.0` and
`-0.0`. -/
def Overlooked (c x : CourseOfAction F) : Prop := SameTask c x ∧ ¬ SharesText c x

/-- A registered COA for the task of `x` shares a text with it. Or none is mistaken for `x` and none
is overlooked, unless there is one of each. -/
def ToldApart (cs : List (CourseOfAction F)) (x : CourseOfAction F) : Prop :=
  (∃ c ∈ cs, SameTask c x ∧ SharesText c x) ∨ (∀ c ∈ cs, ¬ Mistaken c x ∧ ¬ Overlooked c x) ∨
    (∃ c ∈ cs, Mistaken c x) ∧ ∃ c ∈ cs, Overlooked c x

theorem mem_foldl_registerActive {s : String} (cs : List (CourseOfAction F)) :
    ∀ i : DeterministicInterlock F, s ∈ (cs.foldl registerActive i).activeCoaIds ↔
      s ∈ i.activeCoaIds ∨ ∃ c ∈ cs, s = c.coaId ∨ s = dupKey c := by
  induction cs with
  | nil => simp
  | cons c cs ih =>
    intro i
    rw [List.foldl_cons, ih]
    simp only [registerActive, Finset.mem_insert, List.mem_cons, exists_eq_or_imp]
    rw [← or_assoc (a := s = dupKey c), or_right_comm, or_comm (a := s = dupKey c)]
    exact or_comm

theorem mem_registerAll {s : String} (i : DeterministicInterlock F)
    (cs : List (CourseOfAction F)) :
    s ∈ (i.registerAll cs).activeCoaIds ↔ ∃ c ∈ cs, s = c.coaId ∨ s = dupKey c := by
  rw [registerAll, mem_foldl_registerActive]
  simp

/-- The other checks read nothing that a registration changes. -/
theorem Clear.foldl {x : CourseOfAction F} (cs : List (CourseOfAction F)) :
    ∀ {i : DeterministicInterlock F}, i.Clear x → (cs.foldl registerActive i).Clear x := by
  induction cs with
  | nil => exact fun h => h
  | cons c cs ih =>
    intro i h
    exact ih (i := i.registerActive c) ⟨⟨h.target, h.speed, h.zones⟩, h.debris⟩

theorem Clear.registerAll {i : DeterministicInterlock F} {x : CourseOfAction F} (h : i.Clear x)
    (cs : List (CourseOfAction F)) : (i.registerAll cs).Clear x :=
  Clear.foldl cs (i := { i with activeCoaIds := ∅ }) ⟨⟨h.target, h.speed, h.zones⟩, h.debris⟩

/-- A COA that passes the other checks is refused for a text it shares with a registered one. -/
theorem refused_iff_sharesText {i : DeterministicInterlock F} {x : CourseOfAction F}
    (h : i.Clear x) (cs : List (CourseOfAction F)) :
    (∃ reason, (i.registerAll cs).verify x = .ok (false, reason)) ↔
      ∃ c ∈ cs, SharesText c x := by
  rw [verify_eq_false_iff (h.registerAll cs), mem_registerAll, mem_registerAll]
  constructor
  · rintro (⟨c, hc, hid⟩ | ⟨c, hc, hkey⟩)
    · exact ⟨c, hc, Or.inl hid⟩
    · exact ⟨c, hc, Or.inr hkey⟩
  · rintro ⟨c, hc, hid | hkey⟩
    · exact Or.inl ⟨c, hc, hid⟩
    · exact Or.inr ⟨c, hc, hkey⟩

/-- The refused COAs are those for a registered task exactly when they are told apart. -/
theorem duplicates_exact_iff {i : DeterministicInterlock F} {x : CourseOfAction F}
    (h : i.Clear x) (cs : List (CourseOfAction F)) :
    ((∃ reason, (i.registerAll cs).verify x = .ok (false, reason)) ↔ ∃ c ∈ cs, SameTask c x) ↔
      ToldApart cs x := by
  rw [refused_iff_sharesText h]
  constructor
  · intro hexact
    by_cases hboth : ∃ c ∈ cs, SameTask c x ∧ SharesText c x
    · exact Or.inl hboth
    refine Or.inr ?_
    by_cases htext : ∃ c ∈ cs, SharesText c x
    · -- the text and the task belong to two different COAs
      obtain ⟨d, hd, hsame⟩ := hexact.mp htext
      obtain ⟨c, hc, hshares⟩ := htext
      exact Or.inr ⟨⟨c, hc, hshares, fun hs => hboth ⟨c, hc, hs, hshares⟩⟩,
        ⟨d, hd, hsame, fun ht => hboth ⟨d, hd, hsame, ht⟩⟩⟩
    · exact Or.inl fun c hc => ⟨fun hm => htext ⟨c, hc, hm.1⟩,
        fun ho => htext (hexact.mpr ⟨c, hc, ho.1⟩)⟩
  · rintro (⟨c, hc, hsame, hshares⟩ | hnone | ⟨⟨c, hc, hmistaken⟩, ⟨d, hd, hoverlooked⟩⟩)
    · exact ⟨fun _ => ⟨c, hc, hsame⟩, fun _ => ⟨c, hc, hshares⟩⟩
    · constructor
      · rintro ⟨c, hc, hshares⟩
        exact ⟨c, hc, Classical.not_not.mp fun hs => (hnone c hc).1 ⟨hshares, hs⟩⟩
      · rintro ⟨c, hc, hsame⟩
        exact ⟨c, hc, Classical.not_not.mp fun ht => (hnone c hc).2 ⟨hsame, ht⟩⟩
    · exact ⟨fun _ => ⟨d, hd, hoverlooked.1⟩, fun _ => ⟨c, hc, hmistaken.1⟩⟩

/-! ## What a key tells apart -/

/-- The lists are cut at the last separator in only one way. -/
theorem append_cons_inj_right {α : Type} {sep : α} {a b s t : List α} (hs : sep ∉ s) (ht : sep ∉ t)
    (h : a ++ sep :: s = b ++ sep :: t) : a = b ∧ s = t := by
  induction a generalizing b with
  | nil =>
    cases b with
    | nil => exact ⟨rfl, (List.cons.inj h).2⟩
    | cons y b =>
      rw [List.nil_append, List.cons_append, List.cons.injEq] at h
      exact absurd (h.2 ▸ by simp : sep ∈ s) hs
  | cons x a ih =>
    cases b with
    | nil =>
      rw [List.nil_append, List.cons_append, List.cons.injEq] at h
      exact absurd (h.2 ▸ by simp : sep ∈ t) ht
    | cons y b =>
      rw [List.cons_append, List.cons_append, List.cons.injEq] at h
      obtain ⟨rfl, hst⟩ := ih h.2
      exact ⟨by rw [h.1], hst⟩

/-- Finite coordinates can be read off a key, so two keys differ unless target and intent, joined
by a colon, are one text. -/
theorem dupKey_eq_iff {F : Type} [PyFloat F] {c x : CourseOfAction F}
    (hc₁ : isFinite c.targetCoordinates.1 = true) (hc₂ : isFinite c.targetCoordinates.2 = true)
    (hx₁ : isFinite x.targetCoordinates.1 = true) (hx₂ : isFinite x.targetCoordinates.2 = true) :
    dupKey c = dupKey x ↔
      c.targetEntityId ++ ":" ++ c.intent = x.targetEntityId ++ ":" ++ x.intent ∧
        c.targetCoordinates = x.targetCoordinates := by
  have hlist : ∀ c : CourseOfAction F, (dupKey c).toList =
      (c.targetEntityId ++ ":" ++ c.intent).toList ++ ':' :: '(' ::
        ((repr c.targetCoordinates.1).toList ++ ',' :: ' ' ::
          ((repr c.targetCoordinates.2).toList ++ [')'])) := by
    intro c
    simp [dupKey]
  have hcolon : ∀ {c : CourseOfAction F}, isFinite c.targetCoordinates.1 = true →
      isFinite c.targetCoordinates.2 = true → ':' ∉ '(' ::
        ((repr c.targetCoordinates.1).toList ++ ',' :: ' ' ::
          ((repr c.targetCoordinates.2).toList ++ [')'])) := by
    intro c h₁ h₂
    simp [(PyFloat.repr_literal _ h₁).notMem.1, (PyFloat.repr_literal _ h₂).notMem.1]
  have hcomma : ∀ {z : F}, isFinite z = true → ',' ∉ ' ' :: ((repr z).toList ++ [')']) := by
    intro z hz
    simp [(PyFloat.repr_literal _ hz).notMem.2]
  constructor
  · intro h
    have htexts := congrArg String.toList h
    rw [hlist, hlist] at htexts
    obtain ⟨htask, hrest⟩ :=
      append_cons_inj_right (hcolon hc₁ hc₂) (hcolon hx₁ hx₂) htexts
    obtain ⟨hlat, hrest⟩ :=
      append_cons_inj_right (hcomma hc₂) (hcomma hx₂) (List.cons.inj hrest).2
    have hlon := List.append_cancel_right (List.cons.inj hrest).2
    exact ⟨String.toList_inj.mp htask, Prod.ext (PyFloat.repr_inj hc₁ hx₁ (String.toList_inj.mp hlat))
      (PyFloat.repr_inj hc₂ hx₂ (String.toList_inj.mp hlon))⟩
  · rintro ⟨htask, hcoordinates⟩
    simp only [dupKey, htask, hcoordinates]

end DeterministicInterlock

/-! ## A colon in a target -/

open DeterministicInterlock

/-- An interlock without zones and POIs. -/
def plainInterlock : DeterministicInterlock Whole :=
  { forbiddenZones := []
    maxSpeedKt := .num 40
    rejectNullCoordinates := true
    activeCoaIds := ∅
    cniPois := [] }

/-- A COA with this id, target and intent. -/
def taskFor (coaId target intent : String) : CourseOfAction Whole :=
  { coaId := coaId
    tier := .tier1Hitl
    targetEntityId := target
    targetCoordinates := (.num 1, .num 2)
    intent := intent
    timeoutSeconds := .num 5
    preConditions := []
    postConditions := []
    invariants := []
    confidence := .num 0
    corroboratingSources := []
    rawInputDigest := ""
    speedKt := none
    metadata := [] }

theorem clear_taskFor (coaId target : String) : plainInterlock.Clear (taskFor coaId target "b") :=
  ⟨⟨rfl, rfl, rfl⟩, ⟨none, rfl⟩⟩

theorem duplicates_exact_iff_twoTargets :
    ((∃ reason, (plainInterlock.registerAll [taskFor "c1" "T-1" "b"]).verify
      (taskFor "c2" "T-2" "b") = .ok (false, reason)) ↔
        ∃ c ∈ [taskFor "c1" "T-1" "b"], SameTask c (taskFor "c2" "T-2" "b")) ↔
      ToldApart [taskFor "c1" "T-1" "b"] (taskFor "c2" "T-2" "b") :=
  duplicates_exact_iff (clear_taskFor "c2" "T-2") _

/-- A task is refused for another one: the colon of the target moves into the intent. -/
theorem not_duplicates_exact :
    ¬ ∀ (i : DeterministicInterlock Whole) (cs : List (CourseOfAction Whole))
      (x : CourseOfAction Whole), i.Clear x →
        ((∃ reason, (i.registerAll cs).verify x = .ok (false, reason)) ↔
          ∃ c ∈ cs, SameTask c x) := by
  intro h
  have hshares : SharesText (taskFor "c1" "T" "a:b") (taskFor "c2" "T:a" "b") :=
    Or.inr (Or.inr (by decide))
  have hrefused := (refused_iff_sharesText (clear_taskFor "c2" "T:a") _).mpr
    ⟨_, List.mem_singleton_self _, hshares⟩
  obtain ⟨c, hc, hsame⟩ := (h _ _ _ (clear_taskFor "c2" "T:a")).mp hrefused
  obtain rfl := List.mem_singleton.mp hc
  rcases hsame with hid | ⟨htarget, -⟩
  · exact absurd hid (by decide)
  · exact absurd htarget (by decide)

end NexusC2
