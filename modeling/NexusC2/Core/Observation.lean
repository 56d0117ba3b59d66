import NexusC2.Core.Coa

/-!
# Observations

`Observation` (`core/schema.py`). Datetimes are values of a class that relies on what the code
uses of them: the clock in UTC, the spelling of a JSON dump and reading it back.
-/

namespace NexusC2

/-- `datetime`. -/
class PyDateTime (D : Type) where
  /-- The value in UTC, in microseconds since the epoch, where a naive value counts as UTC; `none` is
  the `OverflowError` of `astimezone`. -/
  utcMicros : D → Option Int
  /-- `ts.replace(tzinfo=UTC)` of a naive value, any other one itself. -/
  withUtc : D → D
  /-- The spelling in a JSON dump. -/
  isoformat : D → String
  /-- `datetime.fromisoformat`; `none` is `ValueError`. -/
  fromIsoformat : String → Option D
  fromIsoformat_isoformat (d : D) : fromIsoformat (isoformat d) = some d

/-- `Observation` (`core/schema.py:28-50`). -/
structure Observation (F D : Type) where
  observationId : String
  sourceId : String
  entityHint : String
  latitude : F
  longitude : F
  altitudeM : Option F
  speedMps : F
  headingDeg : Option F
  confidence : F
  observedAt : D
  modality : String
  attributes : Fields F
  rawDigest : String

namespace Observation

variable {F D : Type}

/-- A number that may be missing, as JSON. -/
def optFloat : Option F → Json F
  | none => .null
  | some x => .float x

/-- `model_dump(mode="json", exclude={"raw_digest"})`. -/
def body [PyDateTime D] (o : Observation F D) : Fields F :=
  [("observation_id", .str o.observationId), ("source_id", .str o.sourceId),
    ("entity_hint", .str o.entityHint), ("latitude", .float o.latitude),
    ("longitude", .float o.longitude), ("altitude_m", optFloat o.altitudeM),
    ("speed_mps", .float o.speedMps), ("heading_deg", optFloat o.headingDeg),
    ("confidence", .float o.confidence),
    ("observed_at", .str (PyDateTime.isoformat o.observedAt)), ("modality", .str o.modality),
    ("attributes", .obj o.attributes)]

/-- `model_dump(mode="json")`. -/
def modelDump [PyDateTime D] (o : Observation F D) : Json F :=
  .obj (o.body ++ [("raw_digest", .str o.rawDigest)])

/-- `entity_hint or source_id`: the id of the track the observation asks for. -/
def preferredId (o : Observation F D) : String :=
  if o.entityHint = "" then o.sourceId else o.entityHint

section

variable [PyFloatOps F] [PyDateTime D]

/-- `ensure_digest` (`core/schema.py:45-50`), with the observation it leaves. -/
def ensureDigest [Sha256] (o : Observation F D) : Observation F D :=
  if o.rawDigest = "" then { o with rawDigest := digestOf (.obj o.body) } else o

@[simp] theorem observationId_ensureDigest [Sha256] (o : Observation F D) :
    o.ensureDigest.observationId = o.observationId := by
  unfold ensureDigest
  split <;> rfl

@[simp] theorem preferredId_ensureDigest [Sha256] (o : Observation F D) :
    o.ensureDigest.preferredId = o.preferredId := by
  unfold ensureDigest
  split <;> rfl

@[simp] theorem confidence_ensureDigest [Sha256] (o : Observation F D) :
    o.ensureDigest.confidence = o.confidence := by
  unfold ensureDigest
  split <;> rfl

/-- A digest that is there stays. -/
@[simp] theorem ensureDigest_ensureDigest [Sha256] (o : Observation F D) :
    o.ensureDigest.ensureDigest = o.ensureDigest := by
  by_cases h : o.rawDigest = ""
  · have hbody : ∀ digest, ({ o with rawDigest := digest } : Observation F D).body = o.body :=
      fun _ => rfl
    simp only [ensureDigest, if_pos h, hbody]
    split <;> rfl
  · simp only [ensureDigest, if_neg h]

/-- A number of a dump that may be missing. -/
def optFloatOf : Json F → Option (Option F)
  | .null => some none
  | v => (pyFloat v).toOption.map some

/-- `model_validate` of a dump (`core/schema.py:28-42`). Every field is there; a payload without one
is nothing the server has written. -/
def ofDump (v : Json F) : Option (Observation F D) := do
  let fs ← v.obj?
  some
    { observationId := ← (← Assoc.get fs "observation_id").str?
      sourceId := ← (← Assoc.get fs "source_id").str?
      entityHint := ← (← Assoc.get fs "entity_hint").str?
      latitude := ← (pyFloat (← Assoc.get fs "latitude")).toOption
      longitude := ← (pyFloat (← Assoc.get fs "longitude")).toOption
      altitudeM := ← optFloatOf (← Assoc.get fs "altitude_m")
      speedMps := ← (pyFloat (← Assoc.get fs "speed_mps")).toOption
      headingDeg := ← optFloatOf (← Assoc.get fs "heading_deg")
      confidence := ← (pyFloat (← Assoc.get fs "confidence")).toOption
      observedAt := ← PyDateTime.fromIsoformat (← (← Assoc.get fs "observed_at").str?)
      modality := ← (← Assoc.get fs "modality").str?
      attributes := ← (← Assoc.get fs "attributes").obj?
      rawDigest := ← (← Assoc.get fs "raw_digest").str? }

@[simp] theorem ofDump_modelDump (o : Observation F D) : ofDump o.modelDump = some o := by
  obtain ⟨observationId, sourceId, entityHint, latitude, longitude, altitude, speed, heading,
    confidence, observedAt, modality, attributes, rawDigest⟩ := o
  -- the datetime is the one field whose reading needs a law
  have htime := PyDateTime.fromIsoformat_isoformat observedAt
  cases altitude <;> cases heading <;>
    exact congrArg (Option.bind · fun d => some (Observation.mk observationId sourceId entityHint
      latitude longitude _ speed _ confidence d modality attributes rawDigest)) htime

end

end Observation

/-! ## Datetimes that can be evaluated -/

/-- A datetime in UTC, by its microseconds since the epoch. -/
structure Instant where
  micros : Int
  deriving DecidableEq, Repr

instance : PyDateTime Instant where
  utcMicros d := some d.micros
  withUtc d := d
  isoformat d := String.ofList (intText d.micros)
  fromIsoformat s := some ⟨ofIntText s.toList⟩
  fromIsoformat_isoformat d := by
    rw [String.toList_ofList, ofIntText_intText]

end NexusC2
