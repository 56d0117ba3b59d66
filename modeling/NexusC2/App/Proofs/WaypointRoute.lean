import NexusC2.App.KinematicsSim
import NexusC2.Core.Proofs.FlatEarth

/-!
# The way of the simulated vessel

`step` and `run_until_arrival` over exact reals. The metres of a degree of longitude are taken anew
at each latitude, so the distance to the waypoint is measured differently after each step. The part
of the way that is behind the vessel is what every step adds to: the vessel stays on the straight
line of latitudes and longitudes, and is there after as many steps as the line is long.
-/

namespace NexusC2

/-- The point with the part `x` of the way from `p` to `q` behind it. -/
def along (p q : ℝ × ℝ) (x : ℝ) : ℝ × ℝ := (p.1 + x * (q.1 - p.1), p.2 + x * (q.2 - p.2))

theorem along_zero (p q : ℝ × ℝ) : along p q 0 = p := by simp [along]

theorem along_one (p q : ℝ × ℝ) : along p q 1 = q := by simp [along]

/-- The part `y` of what is left. -/
theorem along_along (p q : ℝ × ℝ) (x y : ℝ) :
    along (along p q x) q y = along p q (x + y * (1 - x)) := by
  simp only [along, Prod.mk.injEq]
  constructor <;> ring

theorem along_latitude_mem {p q : ℝ × ℝ} {x : ℝ} (h0 : 0 ≤ x) (h1 : x ≤ 1) :
    (along p q x).1 ∈ Set.uIcc p.1 q.1 := by
  rw [Set.mem_uIcc]
  change p.1 ≤ p.1 + x * (q.1 - p.1) ∧ p.1 + x * (q.1 - p.1) ≤ q.1 ∨
    q.1 ≤ p.1 + x * (q.1 - p.1) ∧ p.1 + x * (q.1 - p.1) ≤ p.1
  rcases le_total p.1 q.1 with hle | hle
  · exact Or.inl ⟨by nlinarith, by nlinarith⟩
  · exact Or.inr ⟨by nlinarith, by nlinarith⟩

/-- The length of the line from `p` to `q` where a degree of longitude is as long as one of
latitude. -/
noncomputable def routeMetres (p q : ℝ × ℝ) : ℝ :=
  latMetres * Real.sqrt ((q.1 - p.1) ^ 2 + (q.2 - p.2) ^ 2)

namespace KinematicsSim

section

variable [RealMath]

open PyFloatOps RealMath

/-- `dist`: the distance to a point, measured at the latitude of the vessel. -/
noncomputable def distanceTo (s : KinematicsSim ℝ) (q : ℝ × ℝ) : ℝ :=
  Real.sqrt (((q.1 - s.latitude) * latMetres) ^ 2 +
    ((q.2 - s.longitude) * lonMetres s.latitude) ^ 2)

/-- What `step` does towards a waypoint. -/
theorem advance_real (s : KinematicsSim ℝ) (q : ℝ × ℝ) (dt : ℝ) :
    s.advance q dt = if s.distanceTo q < 1 then .ok (s.arrive q).record
      else s.move ((q.1 - s.latitude) * latMetres) ((q.2 - s.longitude) * lonMetres s.latitude)
        (s.distanceTo q) (lonMetres s.latitude) dt := by
  have hlt : PyFloatOps.lt (s.distanceTo q) (1.0 : ℝ) = true ↔ s.distanceTo q < 1 := by
    rw [RealMath.lt_iff, RealMath.decimals.2.1]
  calc s.advance q dt
      = if PyFloatOps.lt (Real.sqrt (((q.1 - s.latitude) * (111320.0 : ℝ)) ^ 2 +
            ((q.2 - s.longitude) * ((111320.0 : ℝ) * cosDeg s.latitude)) ^ 2)) (1.0 : ℝ) = true then
          .ok (s.arrive q).record
        else s.move ((q.1 - s.latitude) * (111320.0 : ℝ))
          ((q.2 - s.longitude) * ((111320.0 : ℝ) * cosDeg s.latitude))
          (Real.sqrt (((q.1 - s.latitude) * (111320.0 : ℝ)) ^ 2 +
            ((q.2 - s.longitude) * ((111320.0 : ℝ) * cosDeg s.latitude)) ^ 2))
          ((111320.0 : ℝ) * cosDeg s.latitude) dt := rfl
    _ = if PyFloatOps.lt (s.distanceTo q) (1.0 : ℝ) = true then .ok (s.arrive q).record
        else s.move ((q.1 - s.latitude) * latMetres) ((q.2 - s.longitude) * lonMetres s.latitude)
          (s.distanceTo q) (lonMetres s.latitude) dt := by
      rw [latMetres_eq]
      rfl
    _ = _ := by simp only [hlt]

/-- A move that does not reach changes the position and the heading. -/
theorem move_real (s : KinematicsSim ℝ) (north east k dt : ℝ) {d : ℝ} (hd : d ≠ 0) :
    ∃ heading, s.move north east d k dt = .ok (record { s with
      latitude := s.latitude + north / d * Min.min (s.speedMps * dt) d / latMetres
      longitude := s.longitude + east / d * Min.min (s.speedMps * dt) d / Max.max k 1e-6
      headingDeg := heading }) := by
  have hk : Max.max k 1e-6 ≠ 0 := (lt_of_lt_of_le (by norm_num) (le_max_right k 1e-6)).ne'
  refine ⟨PyAngleOps.mod (PyAngleOps.degrees (PyAngleOps.atan2 east north) + (360.0 : ℝ))
    (360.0 : ℝ), ?_⟩
  unfold move
  rw [pyDiv_real hd, pyDiv_real hd, RealMath.min_eq, RealMath.max_eq]
  have hlat : ∀ x : ℝ, pyDiv x (111320.0 : ℝ) = .ok (x / latMetres) := fun x => by
    rw [latMetres_eq, pyDiv_real latMetres_pos.ne']
  have hlon : ∀ x : ℝ, pyDiv x (Max.max k (1e-6 : ℝ)) = .ok (x / Max.max k 1e-6) := fun x =>
    pyDiv_real hk
  simp only [bind, Except.bind, hlat, hlon]

omit [RealMath] in
/-- A move in metres as a part of the line to the waypoint. -/
theorem moved_position {s : KinematicsSim ℝ} {q : ℝ × ℝ} {d σ m k : ℝ} (hd : d ≠ 0) (hm : m ≠ 0)
    (hk : k ≠ 0) :
    (s.latitude + (q.1 - s.latitude) * m / d * σ / m,
      s.longitude + (q.2 - s.longitude) * k / d * σ / k) = along s.position q (σ / d) := by
  have hpart : ∀ u c : ℝ, c ≠ 0 → u * c / d * σ / c = σ / d * u := by
    intro u c hc
    field_simp
  rw [hpart _ m hm, hpart _ k hk]
  rfl

/-! ## One step -/

/-- The vessel is under way to `q`, the part `x` of the way from `p` behind it. -/
structure OnRoute (p q : ℝ × ℝ) (v x : ℝ) (s : KinematicsSim ℝ) : Prop where
  waypoint : s.waypoint = some q
  speed : s.speedMps = v
  position : s.position = along p q x
  nonneg : 0 ≤ x
  le_one : x ≤ 1

/-- The vessel lies at `q`. -/
structure Arrived (q : ℝ × ℝ) (s : KinematicsSim ℝ) : Prop where
  waypoint : s.waypoint = none
  speed : s.speedMps = 0
  position : s.position = q

/-- A degree of longitude is never longer than one of latitude. -/
theorem lonMetres_sq_le (lat : ℝ) : lonMetres lat ^ 2 ≤ latMetres ^ 2 := by
  have hcircle := cosDeg_sq_add_sinDeg_sq lat
  have hcos : cosDeg lat ^ 2 ≤ 1 := by nlinarith [sq_nonneg (sinDeg lat)]
  calc lonMetres lat ^ 2 = latMetres ^ 2 * cosDeg lat ^ 2 := by rw [lonMetres, mul_pow]
    _ ≤ latMetres ^ 2 := mul_le_of_le_one_right (sq_nonneg _) hcos

/-- What is left is no longer than the rest of the line. -/
theorem OnRoute.distanceTo_le {p q : ℝ × ℝ} {v x : ℝ} {s : KinematicsSim ℝ}
    (h : OnRoute p q v x s) : s.distanceTo q ≤ (1 - x) * routeMetres p q := by
  have hlat : q.1 - s.latitude = (1 - x) * (q.1 - p.1) := by
    have hpos : s.latitude = p.1 + x * (q.1 - p.1) := congrArg Prod.fst h.position
    rw [hpos]
    ring
  have hlon : q.2 - s.longitude = (1 - x) * (q.2 - p.2) := by
    have hpos : s.longitude = p.2 + x * (q.2 - p.2) := congrArg Prod.snd h.position
    rw [hpos]
    ring
  have hrest : 0 ≤ 1 - x := by linarith [h.le_one]
  have hroute : 0 ≤ (1 - x) * routeMetres p q :=
    mul_nonneg hrest (mul_nonneg latMetres_pos.le (Real.sqrt_nonneg _))
  have hline : routeMetres p q ^ 2 = latMetres ^ 2 * ((q.1 - p.1) ^ 2 + (q.2 - p.2) ^ 2) := by
    rw [routeMetres, mul_pow, Real.sq_sqrt (by positivity)]
  have heast := mul_le_mul_of_nonneg_left (lonMetres_sq_le s.latitude)
    (sq_nonneg ((1 - x) * (q.2 - p.2)))
  unfold distanceTo
  rw [Real.sqrt_le_left hroute, hlat, hlon]
  calc ((1 - x) * (q.1 - p.1) * latMetres) ^ 2 + ((1 - x) * (q.2 - p.2) * lonMetres s.latitude) ^ 2
      = ((1 - x) * (q.1 - p.1)) ^ 2 * latMetres ^ 2 +
          ((1 - x) * (q.2 - p.2)) ^ 2 * lonMetres s.latitude ^ 2 := by ring
    _ ≤ ((1 - x) * (q.1 - p.1)) ^ 2 * latMetres ^ 2 +
          ((1 - x) * (q.2 - p.2)) ^ 2 * latMetres ^ 2 := by linarith
    _ = ((1 - x) * routeMetres p q) ^ 2 := by
      rw [mul_pow (1 - x) (routeMetres p q), hline]
      ring

/-- A step ends the way, or adds to what is behind the vessel: all of the rest, or what the speed
is of the line. -/
theorem OnRoute.step {p q : ℝ × ℝ} {v x dt : ℝ} {s : KinematicsSim ℝ} (h : OnRoute p q v x s)
    (hv : 0 < v) (hdt : 0 < dt) (hsea : ∀ lat ∈ Set.uIcc p.1 q.1, 1e-6 ≤ lonMetres lat) :
    ∃ s' y, s.step dt = .ok s' ∧ s'.history = s.history ++ [along p q y] ∧
      s'.position = along p q y ∧ x ≤ y ∧ y ≤ 1 ∧
      (Arrived q s' ∨ OnRoute p q v y s' ∧ x * routeMetres p q < routeMetres p q ∧
        (y = 1 ∨ x * routeMetres p q + v * dt ≤ y * routeMetres p q)) := by
  have hstep : s.step dt = s.advance q dt := by
    have hmoving : ¬ PyFloatOps.le s.speedMps (0.0 : ℝ) = true := by
      rw [RealMath.le_iff, RealMath.decimals.1, h.speed, not_le]
      exact hv
    unfold KinematicsSim.step
    rw [h.waypoint]
    exact if_neg hmoving
  rw [hstep, advance_real]
  by_cases hnear : s.distanceTo q < 1
  · rw [if_pos hnear]
    exact ⟨_, 1, rfl, by rw [along_one]; rfl, by rw [along_one]; rfl, h.le_one, le_rfl,
      Or.inl ⟨rfl, RealMath.decimals.1, rfl⟩⟩
  rw [if_neg hnear]
  have hfar : 1 ≤ s.distanceTo q := not_lt.mp hnear
  have hd : 0 < s.distanceTo q := by linarith
  have hleft := h.distanceTo_le
  have hlat : s.latitude ∈ Set.uIcc p.1 q.1 := by
    have hpos : s.latitude = (along p q x).1 := congrArg Prod.fst h.position
    rw [hpos]
    exact along_latitude_mem h.nonneg h.le_one
  have hdivisor : Max.max (lonMetres s.latitude) 1e-6 = lonMetres s.latitude :=
    max_eq_left (hsea _ hlat)
  have hk : lonMetres s.latitude ≠ 0 := by linarith [hsea _ hlat]
  -- the part of the rest that the step makes
  set σ := Min.min (s.speedMps * dt) (s.distanceTo q) with hσ
  have hσd : σ ≤ s.distanceTo q := min_le_right _ _
  have hσ0 : 0 ≤ σ := le_min (by rw [h.speed]; exact (mul_pos hv hdt).le) hd.le
  have hpart0 : 0 ≤ σ / s.distanceTo q := div_nonneg hσ0 hd.le
  have hpart1 : σ / s.distanceTo q ≤ 1 := (div_le_one hd).mpr hσd
  obtain ⟨heading, hmove⟩ := move_real s ((q.1 - s.latitude) * latMetres)
    ((q.2 - s.longitude) * lonMetres s.latitude) (lonMetres s.latitude) dt hd.ne'
  rw [hdivisor, ← hσ] at hmove
  have hposition : (s.latitude + (q.1 - s.latitude) * latMetres / s.distanceTo q * σ / latMetres,
      s.longitude + (q.2 - s.longitude) * lonMetres s.latitude / s.distanceTo q * σ /
        lonMetres s.latitude) = along p q (x + σ / s.distanceTo q * (1 - x)) := by
    rw [← along_along, ← h.position]
    exact moved_position hd.ne' latMetres_pos.ne' hk
  have hrest : 0 ≤ 1 - x := by linarith [h.le_one]
  have hmade : σ ≤ σ / s.distanceTo q * (1 - x) * routeMetres p q := by
    calc σ = σ / s.distanceTo q * s.distanceTo q := (div_mul_cancel₀ σ hd.ne').symm
      _ ≤ σ / s.distanceTo q * ((1 - x) * routeMetres p q) :=
        mul_le_mul_of_nonneg_left hleft hpart0
      _ = σ / s.distanceTo q * (1 - x) * routeMetres p q := by ring
  have hadd : 0 ≤ σ / s.distanceTo q * (1 - x) := mul_nonneg hpart0 hrest
  have hle : x + σ / s.distanceTo q * (1 - x) ≤ 1 := by nlinarith
  refine ⟨_, x + σ / s.distanceTo q * (1 - x), hmove, ?_, hposition, by linarith, hle,
    Or.inr ⟨⟨h.waypoint, h.speed, hposition, by linarith [h.nonneg], hle⟩, by linarith, ?_⟩⟩
  · exact congrArg (fun p => s.history ++ [p]) hposition
  · rcases le_total (s.speedMps * dt) (s.distanceTo q) with hslow | hfast
    · right
      rw [hσ, min_eq_left hslow, h.speed] at hmade
      rw [hσ, min_eq_left hslow, h.speed]
      linarith
    · left
      rw [hσ, min_eq_right hfast, div_self hd.ne']
      ring

/-! ## A whole way -/

/-- The points a run has recorded, by the parts of the way they lie at, and where it ends. A vessel
that is still under way has not had the time for the whole line. -/
theorem OnRoute.run {p q : ℝ × ℝ} {v dt : ℝ} (hv : 0 < v) (hdt : 0 < dt)
    (hsea : ∀ lat ∈ Set.uIcc p.1 q.1, 1e-6 ≤ lonMetres lat) (n : Nat) :
    ∀ {x : ℝ} {s : KinematicsSim ℝ}, OnRoute p q v x s →
      ∃ s' xs, s.runUntilArrival dt n = .ok s' ∧
        s'.history = s.history ++ xs.map (along p q) ∧
        (x :: xs).Pairwise (· ≤ ·) ∧ (∀ y ∈ xs, y ≤ 1) ∧ xs.length ≤ n ∧
        (∃ y ∈ (x :: xs).getLast?, s'.position = along p q y) ∧
        (Arrived q s' ∨ ∀ m : Nat, n = m + 1 →
          x * routeMetres p q + m * (v * dt) < routeMetres p q) := by
  induction n with
  | zero =>
    intro x s h
    exact ⟨s, [], rfl, by simp, by simp, by simp, le_rfl, ⟨x, rfl, h.position⟩,
      Or.inr fun m hm => (by cases hm)⟩
  | succ n ih =>
    intro x s h
    obtain ⟨s₁, y, hstep, hhistory, hposition, hxy, hy1, hend⟩ := h.step hv hdt hsea
    have hrun : s.runUntilArrival dt (n + 1) = s₁.runUntilArrival dt n := by
      rw [runUntilArrival_succ h.waypoint, hstep]
      rfl
    rw [hrun]
    rcases hend with harrived | ⟨hroute, hbefore, hmade⟩
    · rw [runUntilArrival_of_none harrived.waypoint]
      exact ⟨s₁, [y], rfl, hhistory, by simpa using hxy, by simpa using hy1, by simp,
        ⟨y, rfl, hposition⟩, Or.inl harrived⟩
    · obtain ⟨s', xs, hok, hhist, hsorted, hle, hlen, ⟨z, hz, hlast⟩, hend⟩ := ih hroute
      refine ⟨s', y :: xs, hok, ?_, ?_, ?_, by simpa using hlen, ⟨z, hz, hlast⟩, ?_⟩
      · rw [hhist, hhistory, List.append_assoc]
        rfl
      · rw [List.pairwise_cons] at hsorted ⊢
        refine ⟨fun z hz => ?_, List.pairwise_cons.mpr hsorted⟩
        rcases List.mem_cons.mp hz with rfl | hz
        · exact hxy
        · exact hxy.trans (hsorted.1 z hz)
      · exact List.forall_mem_cons.mpr ⟨hy1, hle⟩
      · refine hend.imp_right fun hshort m hm => ?_
        obtain rfl : n = m := by omega
        cases n with
        | zero => simpa using hbefore
        | succ k =>
          -- the steps after this one were too few for what it left
          have hrest := hshort k rfl
          have hk : (0 : ℝ) ≤ k * (v * dt) := by positivity
          push_cast
          rcases hmade with rfl | hmade
          · linarith
          · linarith

/-- The vessel never leaves the straight line to its waypoint, never turns back and never passes
it, and it lies there once it has had the time for the whole line and one step more. -/
theorem runUntilArrival_route {s : KinematicsSim ℝ} {q : ℝ × ℝ} {dt : ℝ} (n : Nat)
    (hway : s.waypoint = some q) (hspeed : 0 < s.speedMps) (hdt : 0 < dt)
    (hsea : ∀ lat ∈ Set.uIcc s.latitude q.1, 1e-6 ≤ lonMetres lat) :
    ∃ s' xs, s.runUntilArrival dt n = .ok s' ∧
      s'.history = s.history ++ xs.map (along s.position q) ∧
      (0 :: xs).Pairwise (· ≤ ·) ∧ (∀ y ∈ xs, y ≤ 1) ∧ xs.length ≤ n ∧
      (∃ y ∈ (0 :: xs).getLast?, s'.position = along s.position q y) ∧
      (routeMetres s.position q / (s.speedMps * dt) + 1 ≤ n →
        s'.position = q ∧ s'.waypoint = none ∧ s'.speedMps = 0) := by
  have hstart : OnRoute s.position q s.speedMps 0 s :=
    ⟨hway, rfl, (along_zero _ _).symm, le_rfl, zero_le_one⟩
  obtain ⟨s', xs, hok, hhist, hsorted, hle, hlen, hlast, hend⟩ := hstart.run hspeed hdt hsea n
  refine ⟨s', xs, hok, hhist, hsorted, hle, hlen, hlast, fun htime => ?_⟩
  have hmove : 0 < s.speedMps * dt := mul_pos hspeed hdt
  rcases hend with harrived | hshort
  · exact ⟨harrived.position, harrived.waypoint, harrived.speed⟩
  · exfalso
    have hlong : 0 ≤ routeMetres s.position q / (s.speedMps * dt) :=
      div_nonneg (mul_nonneg latMetres_pos.le (Real.sqrt_nonneg _)) hmove.le
    obtain ⟨m, rfl⟩ : ∃ m, n = m + 1 := by
      cases n with
      | zero =>
        push_cast at htime
        linarith
      | succ m => exact ⟨m, rfl⟩
    have hm : routeMetres s.position q / (s.speedMps * dt) ≤ m := by
      push_cast at htime
      linarith
    rw [div_le_iff₀ hmove] at hm
    have hlt := hshort m rfl
    linarith

end

/-- A degree of longitude is long enough up to sixty degrees of latitude. -/
theorem lonMetres_analysis {lat : ℝ} (h : |lat| ≤ 60) :
    letI := analysis
    1e-6 ≤ lonMetres lat := by
  let := analysis
  have hangle : |lat * (Real.pi / 180)| ≤ Real.pi / 3 := by
    rw [abs_mul, abs_of_pos (by positivity : (0 : ℝ) < Real.pi / 180)]
    nlinarith [Real.pi_pos]
  have hcos : 1 / 2 ≤ Real.cos (lat * (Real.pi / 180)) := by
    rw [← Real.cos_abs, ← Real.cos_pi_div_three]
    exact Real.cos_le_cos_of_nonneg_of_le_pi (abs_nonneg _) (by linarith [Real.pi_pos]) hangle
  change 1e-6 ≤ latMetres * Real.cos (lat * (Real.pi / 180))
  unfold latMetres
  linarith

/-- The simulated vessel two kilometres south of its waypoint. -/
noncomputable def northbound : KinematicsSim ℝ := ⟨0, 0, 15, 0, some (1 / 50, 0), []⟩

theorem runUntilArrival_route_northbound :
    letI := analysis
    ∃ s', northbound.runUntilArrival 1 200 = .ok s' ∧ s'.position = (1 / 50, 0) := by
  let := analysis
  obtain ⟨s', xs, hok, -, -, -, -, -, harrived⟩ :=
    runUntilArrival_route (s := northbound) (q := (1 / 50, 0)) 200 rfl
      (by norm_num [northbound]) (one_pos : (0 : ℝ) < 1) fun lat hlat => (by
        have hbounds : lat ∈ Set.uIcc (0 : ℝ) (1 / 50) := hlat
        rw [Set.uIcc_of_le (by norm_num)] at hbounds
        exact lonMetres_analysis (abs_le.mpr ⟨by linarith [hbounds.1], by linarith [hbounds.2]⟩))
  refine ⟨s', hok, (harrived ?_).1⟩
  have hline : routeMetres northbound.position (1 / 50, 0) = 111320 * (1 / 50) := by
    change 111320 * Real.sqrt ((1 / 50 - 0) ^ 2 + (0 - 0) ^ 2) = 111320 * (1 / 50)
    rw [show ((1 / 50 - 0) ^ 2 + (0 - 0) ^ 2 : ℝ) = (1 / 50) ^ 2 by norm_num,
      Real.sqrt_sq (by norm_num)]
  rw [hline]
  change 111320 * (1 / 50) / (15 * 1) + 1 ≤ ((200 : Nat) : ℝ)
  norm_num

end KinematicsSim

end NexusC2
