import Mathlib.Data.List.Sort
import NexusC2.Misc.Dict
import NexusC2.Misc.Float

/-!
# JSON values and `json.dumps`

A JSON value as Python holds it: integers are unbounded, floats are a type of their own, an
object keeps the order of its fields. `dumps` is the encoder with its default `ensure_ascii`;
its `gap` is what follows a comma and a colon, one blank by default and nothing under
`separators=(",", ":")`. Strings are sequences of characters, so a lone surrogate is no string.
-/

namespace NexusC2

/-- A JSON value. -/
inductive Json (F : Type) where
  | null
  | bool (b : Bool)
  | int (n : Int)
  | float (x : F)
  | str (s : String)
  | arr (vs : List (Json F))
  | obj (fs : List (String × Json F))

/-- The fields of a JSON object: a `dict` with string keys. -/
abbrev Fields (F : Type) : Type := List (String × Json F)

namespace Json

variable {F : Type}

/-! ## Well-formedness -/

mutual

/-- The keys of every object in the value are distinct, as those of a `dict` are. -/
def wf : Json F → Bool
  | .arr vs => wfItems vs
  | .obj fs => decide (Assoc.keys fs).Nodup && wfFields fs
  | _ => true

def wfItems : List (Json F) → Bool
  | [] => true
  | v :: vs => wf v && wfItems vs

def wfFields : List (String × Json F) → Bool
  | [] => true
  | (_, v) :: fs => wf v && wfFields fs

end

/-! ## Strings -/

/-- Four hexadecimal digits, in lower case. -/
def hex4 (n : Nat) : List Char :=
  [Nat.digitChar (n / 4096 % 16), Nat.digitChar (n / 256 % 16), Nat.digitChar (n / 16 % 16),
    Nat.digitChar (n % 16)]

/-- A `\u` escape of a UTF-16 unit. -/
def unitEscape (n : Nat) : List Char := '\x5c' :: 'u' :: hex4 n

/-- The UTF-16 units of a character, a surrogate pair outside the basic plane. -/
def units (c : Char) : List Nat :=
  if c.toNat < 0x10000 then [c.toNat]
  else [0xd800 + (c.toNat - 0x10000) / 0x400, 0xdc00 + (c.toNat - 0x10000) % 0x400]

/-- The encoder's escapes of one character. -/
def escape (c : Char) : List Char :=
  if c = '\x22' then ['\x5c', '\x22']
  else if c = '\x5c' then ['\x5c', '\x5c']
  else if c = '\n' then ['\x5c', 'n']
  else if c = '\r' then ['\x5c', 'r']
  else if c = '\t' then ['\x5c', 't']
  else if c = '\x0c' then ['\x5c', 'f']
  else if c = '\x08' then ['\x5c', 'b']
  else if 32 ≤ c.toNat ∧ c.toNat ≤ 126 then [c]
  else (units c).flatMap unitEscape

/-- `py_encode_basestring_ascii`, with the quotes. -/
def quote (s : String) : List Char := '\x22' :: (s.toList.flatMap escape ++ ['\x22'])

/-! ## The encoder -/

variable [PyFloatOps F]

mutual

/-- `json.dumps`. -/
def dumps (gap : List Char) : Json F → List Char
  | .null => "null".toList
  | .bool true => "true".toList
  | .bool false => "false".toList
  | .int n => intText n
  | .float x => (PyFloatOps.jsonText x).toList
  | .str s => quote s
  | .arr [] => ['[', ']']
  | .arr (v :: vs) => '[' :: (dumps gap v ++ dumpsItems gap vs)
  | .obj [] => ['\x7b', '\x7d']
  | .obj ((k, v) :: fs) => '\x7b' :: (quote k ++ (':' :: (gap ++ (dumps gap v ++ dumpsFields gap fs))))

/-- The rest of an array after an element. -/
def dumpsItems (gap : List Char) : List (Json F) → List Char
  | [] => [']']
  | v :: vs => ',' :: (gap ++ (dumps gap v ++ dumpsItems gap vs))

/-- The rest of an object after a field. -/
def dumpsFields (gap : List Char) : List (String × Json F) → List Char
  | [] => ['\x7d']
  | (k, v) :: fs => ',' :: (gap ++ (quote k ++ (':' :: (gap ++ (dumps gap v ++ dumpsFields gap fs)))))

end

/-- `json.dumps(v)`. -/
def toText (v : Json F) : List Char := dumps [' '] v

omit [PyFloatOps F] in
mutual

/-- The value with the fields of every object sorted by key. -/
def sortKeys : Json F → Json F
  | .arr vs => .arr (sortItems vs)
  | .obj fs => .obj ((sortFields fs).insertionSort fun p q => p.1 ≤ q.1)
  | v => v

def sortItems : List (Json F) → List (Json F)
  | [] => []
  | v :: vs => sortKeys v :: sortItems vs

def sortFields : List (String × Json F) → List (String × Json F)
  | [] => []
  | (k, v) :: fs => (k, sortKeys v) :: sortFields fs

end

/-- `json.dumps(v, sort_keys=True, separators=(",", ":"))`. -/
def canonical (v : Json F) : String := String.ofList (dumps [] (sortKeys v))

theorem canonical_obj_toList (fs : Fields F) :
    ∃ cs, (canonical (.obj fs)).toList = '\x7b' :: cs := by
  have htext : (canonical (.obj fs)).toList =
      dumps [] (.obj ((sortFields fs).insertionSort fun p q => p.1 ≤ q.1)) := String.toList_ofList
  rw [htext]
  cases (sortFields fs).insertionSort fun p q => p.1 ≤ q.1 with
  | nil => exact ⟨_, rfl⟩
  | cons p ps => exact ⟨_, rfl⟩

/-- `bool(v)`. -/
def truth : Json F → Bool
  | .null => false
  | .bool b => b
  | .int n => n ≠ 0
  | .float x => PyFloatOps.truth x
  | .str s => s ≠ ""
  | .arr vs => !vs.isEmpty
  | .obj fs => !fs.isEmpty

/-! ## `str` of a value -/

/-- `repr` of a string. Every character from U+00A1 on counts as printable. -/
def reprStr (s : String) : List Char :=
  let q := if '\x27' ∈ s.toList ∧ '\x22' ∉ s.toList then '\x22' else '\x27'
  let char (c : Char) : List Char :=
    if c = q ∨ c = '\x5c' then ['\x5c', c]
    else if c = '\n' then ['\x5c', 'n']
    else if c = '\r' then ['\x5c', 'r']
    else if c = '\t' then ['\x5c', 't']
    else if c.toNat < 32 ∨ (127 ≤ c.toNat ∧ c.toNat ≤ 160) then
      ['\x5c', 'x', Nat.digitChar (c.toNat / 16 % 16), Nat.digitChar (c.toNat % 16)]
    else [c]
  q :: (s.toList.flatMap char ++ [q])

mutual

/-- `repr(v)`. -/
def pyRepr : Json F → List Char
  | .null => "None".toList
  | .bool true => "True".toList
  | .bool false => "False".toList
  | .int n => intText n
  | .float x => (PyFloatOps.repr x).toList
  | .str s => reprStr s
  | .arr [] => ['[', ']']
  | .arr (v :: vs) => '[' :: (pyRepr v ++ pyReprItems vs)
  | .obj [] => ['\x7b', '\x7d']
  | .obj ((k, v) :: fs) => '\x7b' :: (reprStr k ++ (':' :: ' ' :: (pyRepr v ++ pyReprFields fs)))

def pyReprItems : List (Json F) → List Char
  | [] => [']']
  | v :: vs => ',' :: ' ' :: (pyRepr v ++ pyReprItems vs)

def pyReprFields : List (String × Json F) → List Char
  | [] => ['\x7d']
  | (k, v) :: fs => ',' :: ' ' :: (reprStr k ++ (':' :: ' ' :: (pyRepr v ++ pyReprFields fs)))

end

/-- `str(v)`. -/
def pyStr : Json F → String
  | .str s => s
  | v => String.ofList (pyRepr v)

/-- `v or w`. -/
def orElse (v w : Json F) : Json F := if v.truth then v else w

end Json

/-- `d.get(key)`, where a missing key is `None`. -/
def getOrNone {F : Type} (d : Fields F) (key : String) : Json F := (Assoc.get d key).getD .null

end NexusC2
