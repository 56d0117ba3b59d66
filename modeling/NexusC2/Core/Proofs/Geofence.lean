import Mathlib.Tactic.FinCases
import Mathlib.Tactic.Linarith
import Mathlib.Tactic.NormNum
import NexusC2.Core.Interlock
import NexusC2.Misc.ExtRat
import NexusC2.Misc.RingEdges

/-!
# The geofence

`point_in_polygon` over exact rationals. The ray is cut by an edge at a latitude that the code finds
with `1e-15` added to the denominator, whichever way the edge is followed; the point is inside when
it lies below an odd number of cuts.
-/

namespace NexusC2

namespace Geofence

open PyFloatOps

/-! ## One edge -/

/-- The ends of the edge are on two sides of the ray. -/
def straddles (lon : ℚ) (e : (ℚ × ℚ) × (ℚ × ℚ)) : Bool :=
  decide (lon < e.2.2) != decide (lon < e.1.2)

/-- The denominator of the cut, for an edge followed from its first end to its second. -/
def cutWidth (e : (ℚ × ℚ) × (ℚ × ℚ)) : ℚ := e.1.2 - e.2.2 + 1e-15

/-- The latitude at which the code has the edge cut the ray. -/
def cutLat (lon : ℚ) (e : (ℚ × ℚ) × (ℚ × ℚ)) : ℚ :=
  (e.1.1 - e.2.1) * (lon - e.2.2) / cutWidth e + e.2.1

/-- The point lies below the cut of the edge. -/
def below (lat lon : ℚ) (e : (ℚ × ℚ) × (ℚ × ℚ)) : Bool :=
  straddles lon e && decide (lat < cutLat lon e)

theorem straddles_swap (lon : ℚ) (e : (ℚ × ℚ) × (ℚ × ℚ)) :
    straddles lon e.swap = straddles lon e := Bool.xor_comm ..

theorem straddles_loop (lon : ℚ) {e : (ℚ × ℚ) × (ℚ × ℚ)} (h : e.1 = e.2) :
    straddles lon e = false := by
  unfold straddles
  rw [h, bne_self_eq_false]

/-- The width is lost in one direction or the other when the edge is as wide as what is added. -/
theorem cutWidth_eq_zero {e : (ℚ × ℚ) × (ℚ × ℚ)} :
    cutWidth e = 0 ∨ cutWidth e.swap = 0 ↔ |e.1.2 - e.2.2| = 1e-15 := by
  unfold cutWidth
  rw [abs_eq (by norm_num), or_comm]
  constructor
  · rintro (h | h)
    · exact Or.inl (by simp only [Prod.fst_swap, Prod.snd_swap] at h; linarith)
    · exact Or.inr (by linarith)
  · rintro (h | h)
    · exact Or.inl (by simp only [Prod.fst_swap, Prod.snd_swap]; linarith)
    · exact Or.inr (by linarith)

/-- The cut of the edge cannot be found: its width is lost. -/
def collapses (lon : ℚ) (e : (ℚ × ℚ) × (ℚ × ℚ)) : Bool :=
  straddles lon e && decide (cutWidth e = 0)

/-- The point lies between the cuts of the edge followed one way and the other. -/
def between (lat lon : ℚ) (e : (ℚ × ℚ) × (ℚ × ℚ)) : Bool :=
  straddles lon e && (decide (lat < cutLat lon e) != decide (lat < cutLat lon e.swap))

theorem between_eq (lat lon : ℚ) (e : (ℚ × ℚ) × (ℚ × ℚ)) :
    between lat lon e = (below lat lon e ^^ (below lat lon ∘ Prod.swap) e) := by
  unfold between Function.comp below
  rw [straddles_swap]
  cases straddles lon e <;> rfl

/-! ## Rings -/

/-- No edge over the ray is as wide as what is added to its width, and the point lies between the two
cuts of an even number of edges. -/
structure WellCut (lat lon : ℚ) (ring : List (ℚ × ℚ)) : Prop where
  wide : ∀ e ∈ ringEdges ring, straddles lon e = true → |e.1.2 - e.2.2| ≠ 1e-15
  even : Even ((ringEdges ring).countP (between lat lon))

/-- Between the two cuts of an even number of edges, both ways round count alike. -/
theorem even_between_iff {lat lon : ℚ} {edges : List ((ℚ × ℚ) × (ℚ × ℚ))} :
    Even (edges.countP (between lat lon)) ↔
      (edges.countP (below lat lon)).bodd = (edges.countP (below lat lon ∘ Prod.swap)).bodd := by
  rw [funext (between_eq lat lon), Nat.even_iff, Nat.mod_two_of_bodd, bodd_countP_xor]
  cases (edges.countP (below lat lon)).bodd <;>
    cases (edges.countP (below lat lon ∘ Prod.swap)).bodd <;> simp

/-- Where every edge over the ray has a width, every writing of the ring does. -/
theorem any_collapses_eq_false {lon : ℚ} {ring written : List (ℚ × ℚ)}
    (hwide : ∀ e ∈ ringEdges ring, straddles lon e = true → |e.1.2 - e.2.2| ≠ 1e-15)
    (h : Rewritten ring written) : (ringEdges written).any (collapses lon) = false := by
  rw [List.any_eq_false]
  intro e he hcollapses
  obtain ⟨hstraddles, hzero⟩ := Bool.and_eq_true_iff.mp hcollapses
  have hwidth := of_decide_eq_true hzero
  rcases h.mem_ringEdges he with hin | hturned | hloop
  · exact hwide e hin hstraddles (cutWidth_eq_zero.mp (Or.inl hwidth))
  · refine hwide e.swap hturned (straddles_swap lon e ▸ hstraddles) (cutWidth_eq_zero.mp (Or.inr ?_))
    rwa [Prod.swap_swap]
  · rw [straddles_loop lon hloop] at hstraddles
    cases hstraddles

/-! ## The code -/

section

variable [RatMath]

/-- The edge is crossed when the point is below its cut, if that can be found. -/
theorem edgeCrosses_rat (lat lon : ℚ) (e : (ℚ × ℚ) × (ℚ × ℚ)) :
    edgeCrosses lat lon e.2 e.1 =
      if collapses lon e then .error .zeroDivision else .ok (below lat lon e) := by
  have hguard : (lt lon e.2.2 ≠ lt lon e.1.2) ↔ straddles lon e = true := by
    unfold straddles
    rw [bne_iff_ne]
    rfl
  have hzero : PyFloatOps.eq (e.1.2 - e.2.2 + (1e-15 : ℚ)) (0.0 : ℚ) = decide (cutWidth e = 0) := by
    change decide (cutWidth e = (0.0 : ℚ)) = decide (cutWidth e = 0)
    norm_num
  unfold edgeCrosses pyDiv collapses
  rw [hzero]
  by_cases hstraddles : straddles lon e = true
  · rw [if_pos (hguard.mpr hstraddles), hstraddles, Bool.true_and]
    by_cases hwidth : cutWidth e = 0
    · rw [decide_eq_true hwidth]
      rfl
    · rw [decide_eq_false hwidth]
      change Except.ok (decide (lat < cutLat lon e)) = Except.ok (below lat lon e)
      rw [below, hstraddles, Bool.true_and]
  · rw [if_neg (mt hguard.mp hstraddles), below]
    rw [Bool.not_eq_true] at hstraddles
    rw [hstraddles]
    rfl

/-- What the loop answers: it stops at the first edge whose cut cannot be found, and turns over what
it holds at each edge the point is below. -/
theorem polygonLoop_rat (lat lon : ℚ) :
    ∀ (ring : List (ℚ × ℚ)) (j : ℚ × ℚ) (inside : Bool),
      polygonLoop lat lon j ring inside =
        if ((j :: ring).zip ring).any (collapses lon) then .error .zeroDivision
        else .ok (inside ^^ (((j :: ring).zip ring).countP (below lat lon)).bodd) := by
  intro ring
  induction ring with
  | nil =>
    intro j inside
    simp [polygonLoop]
  | cons i ring ih =>
    intro j inside
    unfold polygonLoop
    rw [edgeCrosses_rat lat lon (j, i), List.zip_cons_cons, List.any_cons, List.countP_cons]
    by_cases hcollapses : collapses lon (j, i) = true
    · rw [if_pos hcollapses, hcollapses]
      rfl
    · rw [if_neg hcollapses, Bool.eq_false_iff.mpr hcollapses, Bool.false_or]
      simp only [bind, Except.bind, ih]
      congr 2
      rw [Nat.bodd_add]
      cases below lat lon (j, i) <;> simp [Bool.xor_comm]

/-- `point_in_polygon` of a ring: inside is below an odd number of cuts. -/
theorem pointInPolygon_rat (lat lon : ℚ) {ring : List (ℚ × ℚ)} (h : 3 ≤ ring.length) :
    pointInPolygon lat lon ring =
      if (ringEdges ring).any (collapses lon) then .error .zeroDivision
      else .ok ((ringEdges ring).countP (below lat lon)).bodd := by
  unfold pointInPolygon
  rw [if_neg (Nat.not_lt.mpr h)]
  cases hlast : ring.getLast? with
  | none =>
    rw [List.getLast?_eq_none_iff] at hlast
    rw [hlast] at h
    cases h
  | some last =>
    have hwalk := zip_perm_ringEdges hlast
    simp only [polygonLoop_rat, hwalk.any_eq, hwalk.countP_eq, Bool.false_xor]

/-- The answer for the point is that of the ring, however it is written. -/
def RingDecides (lat lon : ℚ) (ring : List (ℚ × ℚ)) : Prop :=
  ∃ inside, ∀ written, Rewritten ring written → pointInPolygon lat lon written = .ok inside

/-- Every writing of a ring that is well cut answers alike. -/
theorem pointInPolygon_of_wellCut {lat lon : ℚ} {ring written : List (ℚ × ℚ)}
    (hcut : WellCut lat lon ring) (hlength : 3 ≤ ring.length) (h : Rewritten ring written) :
    pointInPolygon lat lon written = .ok ((ringEdges ring).countP (below lat lon)).bodd := by
  rw [pointInPolygon_rat lat lon (hlength.trans h.length_le), any_collapses_eq_false hcut.wide h,
    if_neg Bool.false_ne_true]
  have hloop (x : ℚ × ℚ) : below lat lon (x, x) = false := by
    rw [below, straddles_loop lon rfl, Bool.false_and]
  rcases h.countP_ringEdges hloop with hsame | hturned
  · rw [hsame]
  · rw [hturned, even_between_iff.mp hcut.even]

/-- The ring decides for a point exactly when it is well cut there. -/
theorem ringDecides_iff (lat lon : ℚ) {ring : List (ℚ × ℚ)} (hlength : 3 ≤ ring.length) :
    RingDecides lat lon ring ↔ WellCut lat lon ring := by
  constructor
  · rintro ⟨inside, h⟩
    have hforward := h ring .same
    have hback := h ring.reverse (.reverse .same)
    rw [pointInPolygon_rat lat lon hlength] at hforward
    rw [pointInPolygon_rat lat lon (by rwa [List.length_reverse]), (ringEdges_reverse ring).any_eq,
      (ringEdges_reverse ring).countP_eq, List.any_map, List.countP_map] at hback
    split at hforward
    · cases hforward
    rename_i hone
    split at hback
    · cases hback
    rename_i hother
    refine ⟨fun e he hstraddles hwidth => ?_, ?_⟩
    · rcases cutWidth_eq_zero.mpr hwidth with hzero | hzero
      · refine hone (List.any_eq_true.mpr ⟨e, he, ?_⟩)
        rw [collapses, hstraddles, decide_eq_true hzero]
        rfl
      · refine hother (List.any_eq_true.mpr ⟨e, he, ?_⟩)
        rw [Function.comp_apply, collapses, straddles_swap, hstraddles, decide_eq_true hzero]
        rfl
    · rw [even_between_iff, Except.ok.inj hforward, Except.ok.inj hback]
  · intro hcut
    exact ⟨_, fun written h => pointInPolygon_of_wellCut hcut hlength h⟩

end

/-- A triangle over three degrees decides for a point in it. -/
theorem ringDecides_iff_triangle :
    letI := noMath
    RingDecides 1 1 [(0, 0), (0, 3), (3, 0)] :=
  letI := noMath
  (ringDecides_iff 1 1 (by decide)).mpr
    { wide := by
        intro e he _
        fin_cases he <;> norm_num [abs_of_nonneg, abs_of_nonpos]
      even := ⟨0, by decide +kernel⟩ }

/-- A triangle whose first corners are as far apart as what is added: a point level with the first one
is divided by zero. -/
theorem not_ringDecides :
    letI := noMath
    ¬ ∀ (lat lon : ℚ) (ring : List (ℚ × ℚ)), 3 ≤ ring.length → RingDecides lat lon ring := by
  let := noMath
  intro h
  have hraise : pointInPolygon (0 : ℚ) 0 [(0, 0), (1, 1e-15), (2, 0)] = .error .zeroDivision := by
    decide +kernel
  obtain ⟨inside, hring⟩ := h 0 0 [(0, 0), (1, 1e-15), (2, 0)] (by decide)
  rw [hring _ .same] at hraise
  cases hraise

/-! ## Rectangles -/

/-- A rectangle of the map that is wider than what is added to a width. -/
structure Rectangle where
  minLat : ℚ
  maxLat : ℚ
  minLon : ℚ
  maxLon : ℚ
  ordered : minLat ≤ maxLat
  wide : 1e-15 < maxLon - minLon

namespace Rectangle

def corners (r : Rectangle) : List (ℚ × ℚ) :=
  [(r.minLat, r.minLon), (r.minLat, r.maxLon), (r.maxLat, r.maxLon), (r.maxLat, r.minLon)]

/-- The point lies in the rectangle or on its southern or western side. -/
def Holds (r : Rectangle) (lat lon : ℚ) : Prop :=
  (r.minLat ≤ lat ∧ lat < r.maxLat) ∧ r.minLon ≤ lon ∧ lon < r.maxLon

instance (r : Rectangle) (lat lon : ℚ) : Decidable (r.Holds lat lon) :=
  inferInstanceAs (Decidable (_ ∧ _))

/-- An edge along a meridian is not over the ray, and one along a parallel is cut where it runs. -/
theorem mem_edges {r : Rectangle} {lon : ℚ} {e : (ℚ × ℚ) × (ℚ × ℚ)}
    (he : e ∈ ringEdges r.corners) (hstraddles : straddles lon e = true) :
    e.1.1 = e.2.1 ∧ |e.1.2 - e.2.2| = r.maxLon - r.minLon := by
  have hpositive : 0 ≤ r.maxLon - r.minLon := le_trans (by norm_num) r.wide.le
  have hedges : e = ((r.minLat, r.minLon), (r.minLat, r.maxLon)) ∨
      e = ((r.minLat, r.maxLon), (r.maxLat, r.maxLon)) ∨
      e = ((r.maxLat, r.maxLon), (r.maxLat, r.minLon)) ∨
      e = ((r.maxLat, r.minLon), (r.minLat, r.minLon)) := by
    simpa [ringEdges, corners] using he
  rcases hedges with rfl | rfl | rfl | rfl
  · exact ⟨rfl, by rw [abs_sub_comm, abs_of_nonneg hpositive]⟩
  · simp [straddles] at hstraddles
  · exact ⟨rfl, abs_of_nonneg hpositive⟩
  · simp [straddles] at hstraddles

theorem cutLat_of_level {lon : ℚ} {e : (ℚ × ℚ) × (ℚ × ℚ)} (h : e.1.1 = e.2.1) :
    cutLat lon e = e.2.1 := by
  rw [cutLat, h, sub_self, zero_mul, zero_div, zero_add]

/-- The corners are well cut everywhere. -/
theorem wellCut (r : Rectangle) (lat lon : ℚ) : WellCut lat lon r.corners where
  wide e he hstraddles := by
    rw [(mem_edges he hstraddles).2]
    exact ne_of_gt r.wide
  even := by
    have hnone : (ringEdges r.corners).countP (between lat lon) = 0 := by
      rw [List.countP_eq_zero]
      intro e he hbetween
      obtain ⟨hstraddles, hne⟩ := Bool.and_eq_true_iff.mp hbetween
      have hlevel := (mem_edges he hstraddles).1
      rw [cutLat_of_level hlevel, cutLat_of_level (by exact hlevel.symm), Prod.snd_swap, hlevel,
        bne_self_eq_false] at hne
      cases hne
    exact ⟨0, hnone⟩

/-- One rectangle begins where the other ends. -/
def Abuts (r s : Rectangle) : Prop :=
  (s.minLon = r.maxLon ∧ s.minLat = r.minLat ∧ s.maxLat = r.maxLat) ∨
    s.minLat = r.maxLat ∧ s.minLon = r.minLon ∧ s.maxLon = r.maxLon

/-- The point lies in the two together. -/
def Spans (r s : Rectangle) (lat lon : ℚ) : Prop :=
  (r.minLat ≤ lat ∧ lat < s.maxLat) ∧ r.minLon ≤ lon ∧ lon < s.maxLon

/-- Abutting rectangles leave no gap. -/
theorem holds_or_holds {r s : Rectangle} (habuts : Abuts r s) {lat lon : ℚ}
    (h : Spans r s lat lon) : r.Holds lat lon ∨ s.Holds lat lon := by
  obtain ⟨⟨hsouth, hnorth⟩, hwest, heast⟩ := h
  rcases habuts with ⟨hside, hlow, hhigh⟩ | ⟨hside, hlow, hhigh⟩
  · rcases lt_or_ge lon r.maxLon with hlt | hge
    · exact Or.inl ⟨⟨hsouth, hhigh ▸ hnorth⟩, hwest, hlt⟩
    · exact Or.inr ⟨⟨hlow.trans_le hsouth, hnorth⟩, hside.trans_le hge, heast⟩
  · rcases lt_or_ge lat r.maxLat with hlt | hge
    · exact Or.inl ⟨⟨hsouth, hlt⟩, hwest, hhigh ▸ heast⟩
    · exact Or.inr ⟨⟨hside.trans_le hge, hnorth⟩, hlow.trans_le hwest, heast⟩

/-- A parallel is over the rays between its ends. -/
theorem straddles_sides (r : Rectangle) (lon a b : ℚ) :
    straddles lon ((a, r.minLon), (b, r.maxLon)) = decide (r.minLon ≤ lon ∧ lon < r.maxLon) := by
  have hwest : r.minLon < r.maxLon := sub_pos.mp (lt_trans (by norm_num) r.wide)
  by_cases hmin : lon < r.minLon
  · simp [straddles, hmin, hmin.trans hwest]
  · simp [straddles, hmin, not_lt.mp hmin]

/-- The parallels below which a point lies cancel outside the rectangle. -/
theorem bodd_countP_below (r : Rectangle) (lat lon : ℚ) :
    ((ringEdges r.corners).countP (below lat lon)).bodd = decide (r.Holds lat lon) := by
  have hsouth : below lat lon ((r.minLat, r.minLon), (r.minLat, r.maxLon)) =
      (decide (r.minLon ≤ lon ∧ lon < r.maxLon) && decide (lat < r.minLat)) := by
    rw [below, cutLat_of_level rfl, straddles_sides]
  have hnorth : below lat lon ((r.maxLat, r.maxLon), (r.maxLat, r.minLon)) =
      (decide (r.minLon ≤ lon ∧ lon < r.maxLon) && decide (lat < r.maxLat)) := by
    rw [below, cutLat_of_level rfl, ← straddles_swap, Prod.swap_prod_mk, straddles_sides]
  have hmeridian (a b lon' : ℚ) : below lat lon ((a, lon'), (b, lon')) = false := by
    rw [below, straddles, bne_self_eq_false, Bool.false_and]
  have hedges : ringEdges r.corners = [((r.minLat, r.minLon), (r.minLat, r.maxLon)),
      ((r.minLat, r.maxLon), (r.maxLat, r.maxLon)), ((r.maxLat, r.maxLon), (r.maxLat, r.minLon)),
      ((r.maxLat, r.minLon), (r.minLat, r.minLon))] := rfl
  simp only [hedges, List.countP_cons, List.countP_nil, hsouth, hnorth, hmeridian, Nat.bodd_add]
  by_cases hlon : r.minLon ≤ lon ∧ lon < r.maxLon
  · by_cases hlow : lat < r.minLat
    · simp [Holds, hlon, hlow, hlow.trans_le r.ordered, not_le.mpr hlow]
    · by_cases hhigh : lat < r.maxLat
      · simp [Holds, hlon, hlow, hhigh, not_lt.mp hlow]
      · simp [Holds, hlow, hhigh]
  · simp [Holds, hlon]

end Rectangle

section

variable {F : Type} [PyFloatOps F]

/-- Where no zone holds the target, every zone was looked at. -/
theorem geofenceLoop_none {lat lon : F} {zones : List (Zone F)}
    (h : DeterministicInterlock.geofenceLoop lat lon zones = .ok none) {zone : Zone F}
    (hzone : zone ∈ zones) : pointInPolygon lat lon zone.polygon = .ok false := by
  induction zones with
  | nil => cases hzone
  | cons first rest ih =>
    unfold DeterministicInterlock.geofenceLoop at h
    cases hfirst : pointInPolygon lat lon first.polygon with
    | error e =>
      rw [hfirst] at h
      cases h
    | ok inside =>
      rw [hfirst] at h
      cases inside with
      | true => cases h
      | false =>
        rcases List.mem_cons.mp hzone with rfl | hrest
        · exact hfirst
        · exact ih h hrest

end

section

variable [RatMath]

/-- A rectangle is exact, however its ring is written: no point of it is ever accepted, and abutting
ones leave no gap. -/
theorem rectangle_exact (r : Rectangle) :
    (∀ ring, Rewritten r.corners ring → ∀ lat lon : ℚ,
      pointInPolygon lat lon ring = .ok (decide (r.Holds lat lon))) ∧
    (∀ (i : DeterministicInterlock ℚ) (coa : CourseOfAction ℚ), ∀ zone ∈ i.forbiddenZones,
      Rewritten r.corners zone.polygon →
      r.Holds coa.targetCoordinates.1 coa.targetCoordinates.2 →
      ∀ reason, i.verify coa ≠ .ok (true, reason)) ∧
    ∀ s : Rectangle, r.Abuts s → ∀ ring ring', Rewritten r.corners ring →
      Rewritten s.corners ring' → ∀ lat lon : ℚ, r.Spans s lat lon →
      pointInPolygon lat lon ring = .ok true ∨ pointInPolygon lat lon ring' = .ok true := by
  have hexact (q : Rectangle) {ring : List (ℚ × ℚ)} (h : Rewritten q.corners ring) (lat lon : ℚ) :
      pointInPolygon lat lon ring = .ok (decide (q.Holds lat lon)) := by
    rw [pointInPolygon_of_wellCut (q.wellCut lat lon) (Nat.le_succ 3) h, q.bodd_countP_below]
  refine ⟨fun ring h => hexact r h, ?_, ?_⟩
  · intro i coa zone hzone h hholds reason hverify
    have hout := geofenceLoop_none (DeterministicInterlock.clear_of_verify hverify).zones hzone
    rw [hexact r h, decide_eq_true hholds] at hout
    cases hout
  · intro s habuts ring ring' h h' lat lon hspans
    rw [hexact r h, hexact s h']
    rcases Rectangle.holds_or_holds habuts hspans with hholds | hholds
    · exact Or.inl (by rw [decide_eq_true hholds])
    · exact Or.inr (by rw [decide_eq_true hholds])

end

/-- A degree by a degree. -/
def square : Rectangle where
  minLat := 0
  maxLat := 1
  minLon := 0
  maxLon := 1
  ordered := by decide
  wide := by norm_num

/-- The other way round, and closed. -/
theorem rectangle_exact_square :
    letI := noMath
    pointInPolygon (0 : ℚ) 0 [(1, 0), (1, 1), (0, 1), (0, 0), (1, 0)] = .ok true :=
  letI := noMath
  (rectangle_exact square).1 _ (.close (.reverse .same)) 0 0

end Geofence

end NexusC2
