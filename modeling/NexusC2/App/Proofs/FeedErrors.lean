import NexusC2.App.OpenFeed
import NexusC2.App.Southbound

/-!
# Malformed snapshots of an open feed

A row of a snapshot is converted in order: its position, where everything but an overflow is caught,
then its speed and its confidence, where nothing is. So a row reads, is refused with a `ValueError`,
or crashes (`RowCrashes`), and a snapshot crashes where its first row that does not read does. What
is made of an event after that raises no more than a `ValueError`.
-/

namespace NexusC2

/-- A `ValueError`, of which pydantic's `ValidationError` is one. -/
def Exc.IsValueError (e : Exc) : Prop := ∃ m, e = .valueError m

/-- A computation that raises something else. -/
def Crashes {α : Type} (x : Except Exc α) : Prop := ∃ e, x = .error e ∧ ¬ e.IsValueError

@[simp] theorem crashes_ok {α : Type} (a : α) : ¬ Crashes (.ok a : Except Exc α) := by
  rintro ⟨e, he, -⟩
  cases he

@[simp] theorem crashes_error {α : Type} (e : Exc) :
    Crashes (.error e : Except Exc α) ↔ ¬ e.IsValueError := by
  constructor
  · rintro ⟨e', he', hvalue⟩
    cases he'
    exact hvalue
  · intro hvalue
    exact ⟨e, rfl, hvalue⟩

@[simp] theorem crashes_map {α β : Type} {x : Except Exc α} {f : α → β} :
    Crashes (x.map f) ↔ Crashes x := by
  cases x with
  | error e => exact (crashes_error e).trans (crashes_error e).symm
  | ok a => exact iff_of_false (crashes_ok _) (crashes_ok _)

/-- What follows crashes, where the first step returned; else the first step does. -/
theorem crashes_bind {α β : Type} {x : Except Exc α} {f : α → Except Exc β} :
    Crashes (x >>= f) ↔ Crashes x ∨ ∃ a, x = .ok a ∧ Crashes (f a) := by
  cases x with
  | error e =>
    constructor
    · rintro ⟨e', he', hvalue⟩
      cases he'
      exact Or.inl ⟨e, rfl, hvalue⟩
    · rintro (⟨e', he', hvalue⟩ | ⟨a, ha, -⟩)
      · cases he'
        exact ⟨e, rfl, hvalue⟩
      · cases ha
  | ok a =>
    constructor
    · intro h
      exact Or.inr ⟨a, rfl, h⟩
    · rintro (h | ⟨a', ha', h⟩)
      · exact absurd h (crashes_ok a)
      · cases ha'
        exact h

/-- A loop crashes in the first of its steps that raises. -/
theorem crashes_mapM {α β : Type} {f : α → Except Exc β} {xs : List α} :
    Crashes (xs.mapM f) ↔ ∃ before x after, xs = before ++ x :: after ∧
      (∀ y ∈ before, ∃ b, f y = .ok b) ∧ Crashes (f x) := by
  constructor
  · rintro ⟨e, he, hvalue⟩
    obtain ⟨before, x, after, heq, hbefore, hx⟩ := except_mapM_eq_error.mp he
    exact ⟨before, x, after, heq, hbefore, e, hx, hvalue⟩
  · rintro ⟨before, x, after, heq, hbefore, e, hx, hvalue⟩
    exact ⟨e, except_mapM_eq_error.mpr ⟨before, x, after, heq, hbefore, hx⟩, hvalue⟩

section

variable {F : Type} [PyFloatOps F]

/-! ## Conversions -/

/-- An integer that is no float. -/
def Json.overflows : Json F → Bool
  | .int n => (PyFloatOps.ofInt (F := F) n).isNone
  | .bool b => (PyFloatOps.ofInt (F := F) (if b then 1 else 0)).isNone
  | _ => false

/-- `float(v)` raises a `TypeError` or an `OverflowError`. -/
def Json.crashes (v : Json F) : Bool :=
  match v with
  | .null | .arr _ | .obj _ => true
  | v => v.overflows

/-- `float(v)` returns. -/
def Json.converts (v : Json F) : Bool := (pyFloat v).isOk

theorem converts_iff {v : Json F} : v.converts = true ↔ ∃ x, pyFloat v = .ok x := except_isOk_iff

theorem crashes_pyFloat (v : Json F) : Crashes (pyFloat v) ↔ v.crashes = true := by
  cases v with
  | null => simp [pyFloat, Json.crashes, Exc.IsValueError]
  | arr vs => simp [pyFloat, Json.crashes, Exc.IsValueError]
  | obj fs => simp [pyFloat, Json.crashes, Exc.IsValueError]
  | float x => simp [pyFloat, Json.crashes, Json.overflows]
  | int n =>
    cases h : PyFloatOps.ofInt (F := F) n <;>
      simp [pyFloat, Json.crashes, Json.overflows, Exc.IsValueError, h]
  | bool b =>
    cases h : PyFloatOps.ofInt (F := F) (if b then 1 else 0) <;>
      simp [pyFloat, Json.crashes, Json.overflows, Exc.IsValueError, h]
  | str s =>
    cases h : PyFloatOps.ofStr (F := F) s <;>
      simp [pyFloat, Json.crashes, Json.overflows, Exc.IsValueError, h]

/-! ## Rows -/

/-- The speed of a row, and its confidence. -/
def rowSpeed : FeedKind → Fields F → Json F
  | .ais, raw => (Assoc.get raw "speed_kt").getD (.float (0.0 : F))
  | .air, raw =>
    match (Assoc.get raw "velocity_kt").getD
        ((Assoc.get raw "speed_kt").getD (.float (0.0 : F))) with
    | .null => .float (0.0 : F)
    | v => v

def rowConfidence : FeedKind → Fields F → Json F
  | .ais, raw => (Assoc.get raw "confidence").getD (.float (0.7 : F))
  | .air, raw => (Assoc.get raw "confidence").getD (.float (0.65 : F))

/-- The row has a coordinate that converts. -/
def HasCoordinate (raw : Fields F) (key : String) : Prop :=
  ∃ v, Assoc.get raw key = some v ∧ v.converts = true

/-- The row has an integer for a coordinate that is no float. -/
def CoordinateOverflows (raw : Fields F) (key : String) : Prop :=
  ∃ v, Assoc.get raw key = some v ∧ v.overflows = true

/-- Everything in the row converts. -/
def RowReads (feed : FeedKind) (raw : Fields F) : Prop :=
  HasCoordinate raw "latitude" ∧ HasCoordinate raw "longitude" ∧
    (rowSpeed feed raw).converts = true ∧ (rowConfidence feed raw).converts = true

/-- The first thing in the row that does not convert is a coordinate that overflows, or a speed or
a confidence that is null, a list, an object or too large. -/
def RowCrashes (feed : FeedKind) (raw : Fields F) : Prop :=
  CoordinateOverflows raw "latitude" ∨
    HasCoordinate raw "latitude" ∧ CoordinateOverflows raw "longitude" ∨
    HasCoordinate raw "latitude" ∧ HasCoordinate raw "longitude" ∧
      ((rowSpeed feed raw).crashes = true ∨
        (rowSpeed feed raw).converts = true ∧ (rowConfidence feed raw).crashes = true)

/-- A coordinate converts, overflows, or raises what `rowPosition` catches. -/
theorem coordinate_cases (raw : Fields F) (key : String) :
    (HasCoordinate raw key ∧ ¬ CoordinateOverflows raw key ∧
      ∃ x, (item raw key >>= pyFloat) = .ok x) ∨
    (¬ HasCoordinate raw key ∧ CoordinateOverflows raw key ∧
      ∃ m, (item raw key >>= pyFloat) = .error (.overflowError m)) ∨
    (¬ HasCoordinate raw key ∧ ¬ CoordinateOverflows raw key ∧ ∃ m,
      (item raw key >>= pyFloat) = .error (.keyError m) ∨
        (item raw key >>= pyFloat) = .error (.typeError m) ∨
        (item raw key >>= pyFloat) = .error (.valueError m)) := by
  unfold HasCoordinate CoordinateOverflows item
  cases Assoc.get raw key with
  | none => exact Or.inr (Or.inr ⟨by simp, by simp, key, Or.inl rfl⟩)
  | some v =>
    have hbind : ((Except.ok v : Except Exc (Json F)) >>= pyFloat) = pyFloat v := rfl
    simp only [hbind, Option.some.injEq, exists_eq_left', Json.converts]
    cases v with
    | null => simp [pyFloat, Json.overflows, Except.isOk, Except.toBool]
    | arr vs => simp [pyFloat, Json.overflows, Except.isOk, Except.toBool]
    | obj fs => simp [pyFloat, Json.overflows, Except.isOk, Except.toBool]
    | float x => simp [pyFloat, Json.overflows, Except.isOk, Except.toBool]
    | int n =>
      cases h : PyFloatOps.ofInt (F := F) n <;>
        simp [pyFloat, Json.overflows, Except.isOk, Except.toBool, h]
    | bool b =>
      cases h : PyFloatOps.ofInt (F := F) (if b then 1 else 0) <;>
        simp [pyFloat, Json.overflows, Except.isOk, Except.toBool, h]
    | str s =>
      cases h : PyFloatOps.ofStr (F := F) s <;>
        simp [pyFloat, Json.overflows, Except.isOk, Except.toBool, h]

/-- The position of a row. -/
theorem rowPosition_spec (name : String) (raw : Fields F) :
    ((∃ p, rowPosition name raw = .ok p) ↔
      HasCoordinate raw "latitude" ∧ HasCoordinate raw "longitude") ∧
    (Crashes (rowPosition name raw) ↔ CoordinateOverflows raw "latitude" ∨
      HasCoordinate raw "latitude" ∧ CoordinateOverflows raw "longitude") := by
  have hread : ∀ {x y : Except Exc F}, (item raw "latitude" >>= pyFloat) = x →
      (item raw "longitude" >>= pyFloat) = y → (do
        let lat ← pyFloat (← item raw "latitude")
        let lon ← pyFloat (← item raw "longitude")
        .ok (lat, lon) : Except Exc (F × F)) = (do .ok (← x, ← y)) := by
    rintro _ _ rfl rfl
    cases item raw "latitude" with
    | error e => rfl
    | ok v => cases item raw "longitude" <;> rfl
  unfold rowPosition
  rcases coordinate_cases raw "latitude" with ⟨hlat, hlat', x, hx⟩ | ⟨hlat, hlat', m, hx⟩ |
    ⟨hlat, hlat', m, hx⟩
  · rcases coordinate_cases raw "longitude" with ⟨hlon, hlon', y, hy⟩ | ⟨hlon, hlon', m, hy⟩ |
      ⟨hlon, hlon', m, hy⟩
    · rw [hread hx hy]
      simp [hlat, hlat', hlon, hlon', bind, Except.bind]
    · rw [hread hx hy]
      simp [hlat, hlon, hlon', bind, Except.bind, Exc.IsValueError]
    · rcases hy with hy | hy | hy <;> rw [hread hx hy] <;>
        simp [hlat, hlat', hlon, hlon', bind, Except.bind, Exc.IsValueError]
  · rw [hread hx rfl]
    simp [hlat, hlat', bind, Except.bind, Exc.IsValueError]
  · rcases hx with hx | hx | hx <;> rw [hread hx rfl] <;>
      simp [hlat, hlat', bind, Except.bind, Exc.IsValueError]

/-! ## Events -/

/-- The event of a row. -/
def feedEvent : FeedKind → Fields F → Nat → Fields F → F × F → Except Exc (Json F)
  | .ais => vesselEvent
  | .air => aircraftEvent

/-- The event has numbers where the normalisation converts, and is no canonical row. -/
structure NumericEvent (fields : Fields F) : Prop where
  service : Assoc.get fields "service" = none
  sourceId : ∃ v, Assoc.get fields "source_id" = some v
  latitude : ∃ x, Assoc.get fields "latitude" = some (.float x)
  longitude : ∃ x, Assoc.get fields "longitude" = some (.float x)
  speedKt : ∃ x, Assoc.get fields "speed_kt" = some (.float x)
  confidence : ∃ x, Assoc.get fields "confidence" = some (.float x)

theorem feedEvent_eq (feed : FeedKind) (payload raw : Fields F) (idx : Nat) (position : F × F) :
    ∃ fields : F → F → Fields F, feedEvent feed payload idx raw position = (do
        let speed ← pyFloat (rowSpeed feed raw)
        let confidence ← pyFloat (rowConfidence feed raw)
        .ok (.obj (fields speed confidence))) ∧
      ∀ speed confidence, NumericEvent (fields speed confidence) := by
  cases feed with
  | ais =>
    refine ⟨_, rfl, fun speed confidence => ?_⟩
    exact ⟨rfl, ⟨_, rfl⟩, ⟨_, rfl⟩, ⟨_, rfl⟩, ⟨_, rfl⟩, ⟨_, rfl⟩⟩
  | air =>
    unfold feedEvent aircraftEvent rowSpeed rowConfidence
    dsimp only
    generalize (Assoc.get raw "velocity_kt").getD
      ((Assoc.get raw "speed_kt").getD (.float (0.0 : F))) = velocity
    cases velocity <;>
      exact ⟨_, rfl, fun speed confidence =>
        ⟨rfl, ⟨_, rfl⟩, ⟨_, rfl⟩, ⟨_, rfl⟩, ⟨_, rfl⟩, ⟨_, rfl⟩⟩⟩

/-- When the event of a row is made, and when that crashes. -/
theorem feedEvent_spec (feed : FeedKind) (payload raw : Fields F) (idx : Nat) (position : F × F) :
    ((∃ event, feedEvent feed payload idx raw position = .ok event) ↔
      (rowSpeed feed raw).converts = true ∧ (rowConfidence feed raw).converts = true) ∧
    (Crashes (feedEvent feed payload idx raw position) ↔ (rowSpeed feed raw).crashes = true ∨
      (rowSpeed feed raw).converts = true ∧ (rowConfidence feed raw).crashes = true) ∧
    ∀ event, feedEvent feed payload idx raw position = .ok event →
      ∃ fields, event = .obj fields ∧ NumericEvent fields := by
  obtain ⟨fields, heq, hnumeric⟩ := feedEvent_eq feed payload raw idx position
  rw [heq]
  simp only [except_bind_returns_iff, crashes_bind, crashes_pyFloat, converts_iff, crashes_ok]
  refine ⟨?_, ?_, ?_⟩
  · simp
  · simp
  · intro event h
    obtain ⟨speed, -, h⟩ := except_bind_eq_ok.mp h
    obtain ⟨confidence, -, h⟩ := except_bind_eq_ok.mp h
    cases h
    exact ⟨_, rfl, hnumeric speed confidence⟩

/-- When a row gives an event, and when it crashes. -/
theorem feedRow_spec (feed : FeedKind) (list : String) (payload : Fields F) (row : Json F × Nat) :
    ((∃ event, feedRow list (feedEvent feed payload) row = .ok event) ↔
      ∃ raw, row.1 = .obj raw ∧ RowReads feed raw) ∧
    (Crashes (feedRow list (feedEvent feed payload) row) ↔
      ∃ raw, row.1 = .obj raw ∧ RowCrashes feed raw) ∧
    ∀ event, feedRow list (feedEvent feed payload) row = .ok event →
      ∃ fields, event = .obj fields ∧ NumericEvent fields := by
  obtain ⟨value, idx⟩ := row
  unfold feedRow
  cases value with
  | obj raw =>
    obtain ⟨hreads, hcrashes⟩ := rowPosition_spec (list ++ "[" ++ toString idx ++ "]") raw
    have hevent := fun position => feedEvent_spec feed payload raw idx position
    dsimp only
    rw [except_bind_returns_iff, crashes_bind]
    simp only [(hevent _).1, (hevent _).2.1, hcrashes, Json.obj.injEq, exists_eq_left',
      exists_and_right, hreads]
    refine ⟨?_, ?_, ?_⟩
    · unfold RowReads
      simp only [and_assoc]
    · unfold RowCrashes
      simp only [and_assoc, or_assoc]
    · intro event h
      obtain ⟨position, -, h⟩ := except_bind_eq_ok.mp h
      exact (hevent position).2.2 event h
  | null => simp [Exc.IsValueError]
  | bool b => simp [Exc.IsValueError]
  | int n => simp [Exc.IsValueError]
  | float x => simp [Exc.IsValueError]
  | str s => simp [Exc.IsValueError]
  | arr vs => simp [Exc.IsValueError]

/-! ## Snapshots -/

/-- The list a snapshot has its rows in. -/
def FeedKind.list : FeedKind → String
  | ais => "vessels"
  | air => "aircraft"

/-- The rows of a snapshot. -/
def snapshotRows (feed : FeedKind) (payload : Fields F) : List (Json F) :=
  match Assoc.get payload feed.list with
  | some (.arr rows) => rows
  | _ => []

/-- The first row that does not read crashes. -/
def CrashesFirst (feed : FeedKind) (payload : Fields F) : Prop :=
  ∃ before raw after, snapshotRows feed payload = before ++ .obj raw :: after ∧
    (∀ row ∈ before, ∃ raw, row = .obj raw ∧ RowReads feed raw) ∧ RowCrashes feed raw

theorem mapM_feedRow_crashes (feed : FeedKind) (list : String) (payload : Fields F)
    (rows : List (Json F)) :
    Crashes (rows.zipIdx.mapM (feedRow list (feedEvent feed payload))) ↔
      ∃ before raw after, rows = before ++ .obj raw :: after ∧
        (∀ row ∈ before, ∃ raw, row = .obj raw ∧ RowReads feed raw) ∧ RowCrashes feed raw := by
  have hspec := feedRow_spec feed list payload
  rw [crashes_mapM]
  constructor
  · rintro ⟨before, row, after, heq, hbefore, hrow⟩
    obtain ⟨raw, hraw, hcrashes⟩ := (hspec row).2.1.mp hrow
    refine ⟨before.map Prod.fst, raw, after.map Prod.fst, ?_, ?_, hcrashes⟩
    · have hrows := congrArg (List.map Prod.fst) heq
      rw [List.zipIdx_map_fst, List.map_append, List.map_cons, hraw] at hrows
      exact hrows
    · intro value hvalue
      obtain ⟨row', hrow', rfl⟩ := List.mem_map.mp hvalue
      exact (hspec row').1.mp (hbefore row' hrow')
  · rintro ⟨before, raw, after, rfl, hbefore, hcrashes⟩
    refine ⟨before.zipIdx, (.obj raw, before.length), after.zipIdx (before.length + 1), ?_, ?_, ?_⟩
    · simp [List.zipIdx_append]
    · intro row hrow
      apply (hspec row).1.mpr
      apply hbefore
      rw [← List.zipIdx_map_fst 0 before]
      exact List.mem_map_of_mem hrow
    · exact (hspec _).2.1.mpr ⟨raw, rfl, hcrashes⟩

/-- The events of a snapshot: one for a row, and a crash where the first row that does not read
crashes. -/
theorem openFeedToEvents_spec (feed : FeedKind) (payload : Fields F) :
    (Crashes (openFeedToEvents feed payload) ↔ CrashesFirst feed payload) ∧
    ∀ events, openFeedToEvents feed payload = .ok events →
      events.length = (snapshotRows feed payload).length ∧
      ∀ event ∈ events, ∃ fields, event = .obj fields ∧ NumericEvent fields := by
  obtain ⟨message, hfeed⟩ : ∃ message, openFeedToEvents feed payload =
      feedRows feed.list message payload (feedEvent feed payload) := by
    cases feed <;> exact ⟨_, rfl⟩
  rw [hfeed]
  unfold feedRows CrashesFirst snapshotRows
  split
  · -- there are rows
    rename_i row rows heq
    rw [heq]
    refine ⟨mapM_feedRow_crashes feed feed.list payload (row :: rows), ?_⟩
    intro events h
    constructor
    · have hlength := (except_mapM_eq_ok.mp h).length_eq
      rw [← hlength, List.length_zipIdx]
    · intro event hevent
      obtain ⟨row', -, hrow'⟩ := except_mapM_mem h hevent
      exact (feedRow_spec feed feed.list payload row').2.2 event hrow'
  · rename_i hnone
    have hrows : (match Assoc.get payload feed.list with
        | some (.arr rows) => rows
        | _ => []) = [] := by
      split
      · rename_i rows heq
        cases rows with
        | nil => rfl
        | cons row rows => exact absurd heq (hnone row rows)
      · rfl
    rw [hrows]
    refine ⟨iff_of_false (by simp [Exc.IsValueError]) (by simp), ?_⟩
    intro events h
    cases h

end

/-! ## Observations -/

section

variable {F D : Type} [PyTextOps F] [PyDateTime D] [Sha256]

/-- The checks of pydantic raise a `ValidationError`. -/
structure Southbound.Host.Validates (host : Southbound.Host F D) : Prop where
  heading : ∀ v e, host.validHeading v = .error e → e.IsValueError
  observedAt : ∀ v e, host.validObservedAt v = .error e → e.IsValueError

omit [PyTextOps F] [PyDateTime D] [Sha256] in
theorem not_crashes_of_valueErrors {α : Type} {x : Except Exc α}
    (h : ∀ e, x = .error e → e.IsValueError) : ¬ Crashes x := by
  rintro ⟨e, he, hvalue⟩
  exact hvalue (h e he)

omit [Sha256] in
theorem not_crashes_parseIso (s : String) : ¬ Crashes (Southbound.parseIso s : Except Exc D) := by
  unfold Southbound.parseIso
  dsimp only
  split
  · exact crashes_ok _
  · exact not_crashes_of_valueErrors fun e he => by
      cases he
      exact ⟨_, rfl⟩

/-- The event of a row does not crash any more. -/
theorem not_crashes_normalizeSensorEvent {host : Southbound.Host F D} (hhost : host.Validates)
    {fields : Fields F} (h : NumericEvent fields) :
    ¬ Crashes (Southbound.normalizeSensorEvent host fields) := by
  have haccepted : Southbound.acceptedEvent host fields = .ok fields := by
    unfold Southbound.acceptedEvent Southbound.has
    simp [h.service]
  have htime : ∀ raw, ¬ Crashes (Southbound.eventTime host raw) := by
    intro raw
    cases raw with
    | str s => simp [Southbound.eventTime, not_crashes_parseIso]
    | null => simp [Southbound.eventTime]
    | bool b => simp [Southbound.eventTime]
    | int n => simp [Southbound.eventTime]
    | float x => simp [Southbound.eventTime]
    | arr vs => simp [Southbound.eventTime]
    | obj fs => simp [Southbound.eventTime]
  have hvalid : ∀ raw parsed, ¬ Crashes (Southbound.validTime host raw parsed) := by
    intro raw parsed
    cases parsed with
    | some d => simp [Southbound.validTime]
    | none => exact not_crashes_of_valueErrors (hhost.observedAt raw)
  have hheading : ∀ v, ¬ Crashes (host.validHeading v) :=
    fun v => not_crashes_of_valueErrors (hhost.heading v)
  obtain ⟨v, hsource⟩ := h.sourceId
  obtain ⟨lat, hlat⟩ := h.latitude
  obtain ⟨lon, hlon⟩ := h.longitude
  obtain ⟨speed, hspeed⟩ := h.speedKt
  obtain ⟨confidence, hconfidence⟩ := h.confidence
  unfold Southbound.normalizeSensorEvent Southbound.observationOf
  simp [haccepted, crashes_bind, htime, hvalid, hheading, item, hsource, hlat, hlon, hspeed,
    hconfidence, pyFloat]

/-- The adapter normalises an event as `normalize_sensor_event` does, at some time and with some
id. -/
def OpenFeeds.Normalizes (feeds : OpenFeeds F (Observation F D)) : Prop :=
  ∀ fields, ∃ host : Southbound.Host F D, host.Validates ∧
    feeds.normalizeSensorEvent (.obj fields) = Southbound.normalizeSensorEvent host fields

/-- One observation for each row, or a `ValueError`. -/
def AnswersRows (feed : FeedKind) (payload : Fields F)
    (answer : Except Exc (List (Observation F D) × String)) : Prop :=
  (∃ observations resolved, answer = .ok (observations, resolved) ∧
    observations.length = (snapshotRows feed payload).length) ∨
  ∃ e, answer = .error e ∧ e.IsValueError

theorem observations_answer_iff {feeds : OpenFeeds F (Observation F D)}
    (hnormalize : feeds.Normalizes) (feed : FeedKind) (payload : Fields F) (resolved : String) :
    AnswersRows feed payload (feeds.observations feed payload resolved) ↔
      ¬ CrashesFirst feed payload := by
  obtain ⟨hcrashes, hevents⟩ := openFeedToEvents_spec feed payload
  have hfine : Crashes (feeds.observations feed payload resolved) ↔ CrashesFirst feed payload := by
    unfold OpenFeeds.observations
    rw [← hcrashes, crashes_bind]
    constructor
    · rintro (h | ⟨events, hok, h⟩)
      · exact h
      · rcases crashes_bind.mp h with h | ⟨observations, -, h⟩
        · -- no event of a row crashes
          obtain ⟨before, event, after, heq, -, hevent⟩ := crashes_mapM.mp h
          obtain ⟨fields, rfl, hnumeric⟩ := (hevents events hok).2 event (by rw [heq]; simp)
          obtain ⟨host, hhost, hsame⟩ := hnormalize fields
          rw [hsame] at hevent
          exact absurd hevent (not_crashes_normalizeSensorEvent hhost hnumeric)
        · exact absurd h (crashes_ok _)
    · exact Or.inl
  rw [← hfine]
  constructor
  · rintro (⟨observations, resolved', h, -⟩ | ⟨e, h, hvalue⟩)
    · rw [h]
      exact crashes_ok _
    · rw [h, crashes_error]
      exact not_not_intro hvalue
  · intro hnot
    cases hanswer : feeds.observations feed payload resolved with
    | error e =>
      rw [hanswer, crashes_error, not_not] at hnot
      exact Or.inr ⟨e, rfl, hnot⟩
    | ok answer =>
      obtain ⟨observations, resolved'⟩ := answer
      unfold OpenFeeds.observations at hanswer
      obtain ⟨events, hok, hanswer⟩ := except_bind_eq_ok.mp hanswer
      obtain ⟨observations', hmapped, hanswer⟩ := except_bind_eq_ok.mp hanswer
      cases hanswer
      refine Or.inl ⟨observations, resolved, rfl, ?_⟩
      rw [← (except_mapM_eq_ok.mp hmapped).length_eq, (hevents events hok).1]

omit [Sha256] [PyTextOps F] [PyDateTime D] in
theorem parseOpenFeedSource_valueError {raw : String} {e : Exc}
    (h : parseOpenFeedSource raw = .error e) : e.IsValueError := by
  unfold parseOpenFeedSource at h
  dsimp only at h
  repeat' split at h
  all_goals cases h
  exact ⟨_, rfl⟩

/-- A snapshot that is handed over gives one observation for each row or a `ValueError`, unless the
first row that does not read crashes. -/
theorem malformed_feed_answered {feeds : OpenFeeds F (Observation F D)} {env : String}
    (henv : feeds.openFeedSourceFromEnv = parseOpenFeedSource env) (hnormalize : feeds.Normalizes)
    {feed : FeedKind} {useFixture : Bool} (hused : feed = .air → useFixture = false)
    (payload : Fields F) (source : Option OpenFeedSource) (limit : Int) :
    AnswersRows feed payload
        (feeds.openFeedToObservations feed (some payload) useFixture source limit) ↔
      ¬ CrashesFirst feed payload ∨
        (feed = .ais ∧ source = none ∧ (parseOpenFeedSource env).isOk = false) := by
  cases feed with
  | air =>
    cases hused rfl
    simp only [OpenFeeds.openFeedToObservations, Option.isNone_some, Bool.and_false,
      Bool.false_and, Bool.false_eq_true, if_false, reduceCtorEq, false_and, or_false]
    exact observations_answer_iff hnormalize .air payload "payload"
  | ais =>
    have hgiven : ∀ source', AnswersRows .ais payload
        (feeds.resolveOpenAisPayload source' (some payload) useFixture limit >>= fun snapshot =>
          feeds.observations .ais snapshot.1 snapshot.2) ↔ ¬ CrashesFirst .ais payload :=
      fun source' => observations_answer_iff hnormalize .ais payload "payload"
    simp only [OpenFeeds.openFeedToObservations, Option.isNone_some, Bool.and_false,
      Bool.false_and, Bool.false_eq_true, if_false, if_true, true_and]
    cases source with
    | some source =>
      simp only [reduceCtorEq, false_and, or_false]
      exact hgiven source
    | none =>
      -- the environment is asked before the rows are read
      rw [henv]
      cases hparse : parseOpenFeedSource env with
      | error e =>
        refine iff_of_true (Or.inr ⟨e, rfl, parseOpenFeedSource_valueError hparse⟩) (Or.inr ?_)
        exact ⟨rfl, rfl⟩
      | ok source =>
        have hok : (Except.ok source : Except Exc OpenFeedSource).isOk = true := rfl
        simp only [hok, Bool.true_eq_false, and_false, or_false]
        exact hgiven source

end

/-- Feeds without a source of their own. -/
def plainFeeds [PyTextOps Rat] [Sha256] : OpenFeeds Rat (Observation Rat Instant) :=
  { loadOpenAisFixture := .ok []
    loadOpenAirFixture := .ok []
    loadOpenAisFromIndago := fun _ => .ok []
    loadOpenAisFromLive := .ok []
    openFeedSourceFromEnv := parseOpenFeedSource ""
    normalizeSensorEvent := fun event =>
      Southbound.normalizeSensorEvent Southbound.stoppedHost (event.obj?.getD []) }

/-- A snapshot of one vessel with that speed. -/
def vesselSnapshot (speedKt : Json Rat) : Fields Rat :=
  [("vessels", .arr [.obj [("latitude", .int 1), ("longitude", .int 103),
    ("speed_kt", speedKt)]])]

/-- `float(None)` is a `TypeError`, which nothing catches. -/
theorem null_speed_crashes :
    letI := plainHash
    letI := exactText
    plainFeeds.openFeedToObservations .ais (some (vesselSnapshot .null)) false none 80 =
        .error (.typeError "float() argument must be a string or a real number") ∧
      ¬ AnswersRows .ais (vesselSnapshot .null)
        (plainFeeds.openFeedToObservations .ais (some (vesselSnapshot .null)) false none 80) := by
  let := plainHash
  let := exactText
  have hraises : plainFeeds.openFeedToObservations .ais (some (vesselSnapshot .null)) false none 80 =
      .error (.typeError "float() argument must be a string or a real number") := rfl
  refine ⟨hraises, ?_⟩
  rw [hraises]
  rintro (⟨observations, resolved, h, -⟩ | ⟨e, h, m, rfl⟩)
  · cases h
  · cases h

theorem malformed_feed_answered_knots :
    letI := plainHash
    letI := exactText
    AnswersRows .ais (vesselSnapshot (.int 3))
      (plainFeeds.openFeedToObservations .ais (some (vesselSnapshot (.int 3))) false none 80) := by
  let := plainHash
  let := exactText
  have hvalidates : Southbound.stoppedHost.Validates := by
    constructor
    · intro v e h
      cases h
    · intro v e h
      cases h
      exact ⟨_, rfl⟩
  have hreads : ¬ CrashesFirst .ais (vesselSnapshot (.int 3)) := by
    rw [← (openFeedToEvents_spec .ais (vesselSnapshot (.int 3))).1]
    obtain ⟨events, hevents⟩ := except_isOk_iff.mp (by decide +kernel :
      (openFeedToEvents .ais (vesselSnapshot (.int 3))).isOk = true)
    rw [hevents]
    exact crashes_ok events
  have henv : plainFeeds.openFeedSourceFromEnv = parseOpenFeedSource "" := rfl
  have hnormalize : plainFeeds.Normalizes := fun fields =>
    ⟨Southbound.stoppedHost, hvalidates, rfl⟩
  have hair : FeedKind.ais = .air → false = false := fun _ => rfl
  exact (malformed_feed_answered henv hnormalize hair (vesselSnapshot (.int 3)) none 80).mpr
    (Or.inl hreads)

end NexusC2
