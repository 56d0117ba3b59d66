import NexusC2.Core.Schema
import NexusC2.Misc.FloatMath

/-!
# Courses of action

`CourseOfAction` (`core/coa.py`), the exceptions the core and the server raise, and `float()` and
`int()` of a JSON value.
-/

namespace NexusC2

/-- What the modelled code raises. `http` is `HTTPException`, which FastAPI answers with its
status; any other one is answered with 500. -/
inductive Exc where
  | http (status : Nat) (detail : String)
  | keyError (message : String)
  | indexError (message : String)
  | valueError (message : String)
  | typeError (message : String)
  | overflowError (message : String)
  | zeroDivision
  | osError (message : String)
  | runtimeError (message : String)
  | attributeError (message : String)
  | assertion
  deriving DecidableEq, Repr

/-- `str(exc)`. -/
def Exc.message : Exc → String
  | .http _ detail => detail
  | .keyError m => String.ofList (Json.reprStr m)
  | .indexError m | .valueError m | .typeError m | .overflowError m | .osError m
  | .runtimeError m | .attributeError m => m
  | .zeroDivision => "float division by zero"
  | .assertion => ""

section

variable {F : Type} [PyFloatOps F]

omit [PyFloatOps F] in
/-- `d[key]`. -/
def item (d : Fields F) (key : String) : Except Exc (Json F) :=
  match Assoc.get d key with
  | some v => .ok v
  | none => .error (.keyError key)

/-- `float(v)`. -/
def pyFloat : Json F → Except Exc F
  | .float x => .ok x
  | .int n => match PyFloatOps.ofInt n with
    | some x => .ok x
    | none => .error (.overflowError "int too large to convert to float")
  | .bool b => match PyFloatOps.ofInt (F := F) (if b then 1 else 0) with
    | some x => .ok x
    | none => .error (.overflowError "int too large to convert to float")
  | .str s => match PyFloatOps.ofStr s with
    | some x => .ok x
    | none => .error (.valueError
        ("could not convert string to float: " ++ String.ofList (Json.reprStr s)))
  | _ => .error (.typeError "float() argument must be a string or a real number")

/-- A function of `math`, which raises `ValueError` outside its domain. -/
def mathFn (r : Option F) : Except Exc F :=
  match r with
  | some x => .ok x
  | none => .error (.valueError "math domain error")

/-- `a / b`. -/
def pyDiv (a b : F) : Except Exc F :=
  if PyFloatOps.eq b (0.0 : F) then .error .zeroDivision else .ok (a / b)

end

section

variable {F : Type} [PyTextOps F]

/-- `int(v)`. -/
def pyInt : Json F → Except Exc Int
  | .int n => .ok n
  | .bool b => .ok (if b then 1 else 0)
  | .float x => match PyTextOps.trunc x with
    | some n => .ok n
    | none =>
      if PyFloatOps.eq x x then .error (.overflowError "cannot convert float infinity to integer")
      else .error (.valueError "cannot convert float NaN to integer")
  | .str s => match PyTextOps.intOfStr F s with
    | some n => .ok n
    | none => .error (.valueError
        ("invalid literal for int() with base 10: " ++ String.ofList (Json.reprStr s)))
  | _ => .error (.typeError
      "int() argument must be a string, a bytes-like object or a real number")

end

/-- `ActionTier` (`core/coa.py:19-22`). -/
inductive ActionTier where
  | tier0Autonomous
  | tier1Hitl
  | tier2DualKey
  deriving DecidableEq, Repr

def ActionTier.value : ActionTier → Int
  | tier0Autonomous => 0
  | tier1Hitl => 1
  | tier2DualKey => 2

/-- `ActionTier(n)`. -/
def ActionTier.ofValue : Int → Option ActionTier
  | 0 => some tier0Autonomous
  | 1 => some tier1Hitl
  | 2 => some tier2DualKey
  | _ => none

/-- `CourseOfAction` (`core/coa.py:32-48`). -/
structure CourseOfAction (F : Type) where
  coaId : String
  tier : ActionTier
  targetEntityId : String
  targetCoordinates : F × F
  intent : String
  timeoutSeconds : F
  preConditions : Fields F
  postConditions : Fields F
  invariants : Fields F
  confidence : F
  corroboratingSources : List String
  rawInputDigest : String
  speedKt : Option F
  metadata : Fields F

namespace CourseOfAction

variable {F : Type}

/-- `model_dump(mode="json")`. -/
def modelDump (coa : CourseOfAction F) : Json F :=
  .obj [("coa_id", .str coa.coaId), ("tier", .int coa.tier.value),
    ("target_entity_id", .str coa.targetEntityId),
    ("target_coordinates",
      .arr [.float coa.targetCoordinates.1, .float coa.targetCoordinates.2]),
    ("intent", .str coa.intent), ("timeout_seconds", .float coa.timeoutSeconds),
    ("pre_conditions", .obj coa.preConditions), ("post_conditions", .obj coa.postConditions),
    ("invariants", .obj coa.invariants), ("confidence", .float coa.confidence),
    ("corroborating_sources", .arr (coa.corroboratingSources.map .str)),
    ("raw_input_digest", .str coa.rawInputDigest),
    ("speed_kt", match coa.speedKt with
      | some x => .float x
      | none => .null),
    ("metadata", .obj coa.metadata)]

section

variable [PyFloatOps F]

def tierOf : Json F → Option ActionTier
  | .int n => ActionTier.ofValue n
  | _ => none

def coordinatesOf : Json F → Option (F × F)
  | .arr [lat, lon] => do some (← (pyFloat lat).toOption, ← (pyFloat lon).toOption)
  | _ => none

def speedOf : Json F → Option (Option F)
  | .null => some none
  | v => (pyFloat v).toOption.map some

/-- `model_validate` of a dump (`core/coa.py:32-48`). Every field is there; a payload without one
is nothing the server has written. -/
def ofDump (v : Json F) : Option (CourseOfAction F) := do
  let fs ← v.obj?
  some
    { coaId := ← (← Assoc.get fs "coa_id").str?
      tier := ← tierOf (← Assoc.get fs "tier")
      targetEntityId := ← (← Assoc.get fs "target_entity_id").str?
      targetCoordinates := ← coordinatesOf (← Assoc.get fs "target_coordinates")
      intent := ← (← Assoc.get fs "intent").str?
      timeoutSeconds := ← (pyFloat (← Assoc.get fs "timeout_seconds")).toOption
      preConditions := ← (← Assoc.get fs "pre_conditions").obj?
      postConditions := ← (← Assoc.get fs "post_conditions").obj?
      invariants := ← (← Assoc.get fs "invariants").obj?
      confidence := ← (pyFloat (← Assoc.get fs "confidence")).toOption
      corroboratingSources := ← (← Assoc.get fs "corroborating_sources").strs?
      rawInputDigest := ← (← Assoc.get fs "raw_input_digest").str?
      speedKt := ← speedOf (← Assoc.get fs "speed_kt")
      metadata := ← (← Assoc.get fs "metadata").obj? }

@[simp] theorem ofDump_modelDump (coa : CourseOfAction F) : ofDump coa.modelDump = some coa := by
  obtain ⟨coaId, tier, entity, coordinates, intent, timeout, pre, post, invariants, confidence,
    sources, digest, speed, metadata⟩ := coa
  have hsources := Json.strs?_map (F := F) sources
  cases tier <;> cases speed <;>
    exact congrArg (Option.bind · fun l => some (CourseOfAction.mk coaId _ entity coordinates
      intent timeout pre post invariants confidence l digest _ metadata)) hsources

end

/-- Target, intent and coordinates: what two taskings for one thing have in common. -/
def triple (coa : CourseOfAction F) : String × String × (F × F) :=
  (coa.targetEntityId, coa.intent, coa.targetCoordinates)

end CourseOfAction

end NexusC2
