import NexusC2.Misc.Json

/-!
# Schemas

`sha256_hex`, `canonical_json` and the decision token (`core/schema.py`). The hash is a
parameter: an arbitrary function from text to text.
-/

namespace NexusC2

/-- `sha256_hex` (`core/schema.py:18-21`). -/
class Sha256 where
  hex : String → String

/-- The text itself as its digest: a hash without collisions that can be evaluated. -/
abbrev plainHash : Sha256 := ⟨id⟩

section

variable {F : Type} [PyFloatOps F] [Sha256]

/-- `canonical_json` (`core/schema.py:24-25`). -/
def canonicalJson (data : Json F) : String := data.canonical

/-- `sha256_hex(canonical_json(data))`. -/
def digestOf (data : Json F) : String := Sha256.hex (canonicalJson data)

end

/-- `GateVerdict` (`core/coa.py:25-29`). -/
inductive GateVerdict where
  | approved
  | rejectedFast
  | rejectedOperator
  | timedOutFallback
  deriving DecidableEq, Repr

/-- The value of a verdict. -/
def GateVerdict.value : GateVerdict → String
  | approved => "APPROVED"
  | rejectedFast => "REJECTED_FAST"
  | rejectedOperator => "REJECTED_OPERATOR"
  | timedOutFallback => "TIMED_OUT_FALLBACK"

/-- A string that may be missing, as JSON. -/
def Json.ofOption {F : Type} : Option String → Json F
  | none => .null
  | some s => .str s

/-! ## Reading a dump back -/

namespace Json

variable {F : Type}

def str? : Json F → Option String
  | .str s => some s
  | _ => none

def optStr? : Json F → Option (Option String)
  | .str s => some (some s)
  | .null => some none
  | _ => none

def obj? : Json F → Option (Fields F)
  | .obj fs => some fs
  | _ => none

def strs? : Json F → Option (List String)
  | .arr vs => vs.mapM str?
  | _ => none

@[simp] theorem optStr?_ofOption (s : Option String) :
    (Json.ofOption s : Json F).optStr? = some s := by
  cases s <;> rfl

@[simp] theorem strs?_map (l : List String) : (.arr (l.map .str) : Json F).strs? = some l := by
  simp only [strs?]
  induction l with
  | nil => rfl
  | cons s l ih =>
    rw [List.map_cons, List.mapM_cons, ih]
    rfl

end Json

/-- `DecisionToken` (`core/schema.py:53-65`). -/
structure DecisionToken where
  tokenId : String
  coaId : String
  verdict : String
  issuedAt : String
  operatorId : Option String
  reason : Option String
  digest : String
  deriving DecidableEq, Repr

namespace DecisionToken

variable {F : Type} [PyFloatOps F] [Sha256]

/-- `model_dump(mode="json", exclude={"digest"})`. -/
def body (t : DecisionToken) : Fields F :=
  [("token_id", .str t.tokenId), ("coa_id", .str t.coaId), ("verdict", .str t.verdict),
    ("issued_at", .str t.issuedAt), ("operator_id", Json.ofOption t.operatorId),
    ("reason", Json.ofOption t.reason)]

/-- `model_dump(mode="json")`. -/
def modelDump (t : DecisionToken) : Json F := .obj (t.body ++ [("digest", .str t.digest)])

omit [PyFloatOps F] [Sha256] in
/-- The token a dump is of. -/
def ofDump (v : Json F) : Option DecisionToken := do
  let fs ← v.obj?
  some
    { tokenId := ← (← Assoc.get fs "token_id").str?
      coaId := ← (← Assoc.get fs "coa_id").str?
      verdict := ← (← Assoc.get fs "verdict").str?
      issuedAt := ← (← Assoc.get fs "issued_at").str?
      operatorId := ← (← Assoc.get fs "operator_id").optStr?
      reason := ← (← Assoc.get fs "reason").optStr?
      digest := ← (← Assoc.get fs "digest").str? }

omit [PyFloatOps F] [Sha256] in
@[simp] theorem ofDump_modelDump (t : DecisionToken) : ofDump (t.modelDump (F := F)) = some t := by
  obtain ⟨tokenId, coaId, verdict, issuedAt, operatorId, reason, digest⟩ := t
  cases operatorId <;> cases reason <;> rfl

variable (F) in
/-- `seal` (`core/schema.py:62-65`). -/
def sealed (t : DecisionToken) : DecisionToken :=
  { t with digest := digestOf (.obj (t.body (F := F))) }

end DecisionToken

end NexusC2
