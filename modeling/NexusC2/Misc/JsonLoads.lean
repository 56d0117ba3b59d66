import NexusC2.Misc.Json

/-!
# `json.loads`

The decoder, in its strict mode: no control character in a string, `NaN` and the infinities
read as floats, the last of several fields under one key kept. The scanner recurses on fuel;
`loads` gives it one more than the number of characters, which is always enough
(`Json.loads_of_parseValue`).
-/

namespace NexusC2

namespace Json

/-- The decoder's white space. -/
def isWs (c : Char) : Bool := c = ' ' || c = '\t' || c = '\n' || c = '\r'

def skipWs (cs : List Char) : List Char := cs.dropWhile isWs

/-! ## Numbers -/

/-- The leading digits and the rest. -/
def scanDigits (cs : List Char) : List Char × List Char :=
  (cs.takeWhile Char.isDigit, cs.dropWhile Char.isDigit)

/-- `-?` -/
def scanSign : List Char → List Char × List Char
  | '-' :: cs => (['-'], cs)
  | cs => ([], cs)

/-- `0|[1-9][0-9]*` -/
def scanInt : List Char → Option (List Char × List Char)
  | [] => none
  | c :: cs =>
    if c = '0' then some (['0'], cs)
    else if c.isDigit then some (c :: (scanDigits cs).1, (scanDigits cs).2)
    else none

/-- `(\.[0-9]+)?` -/
def scanFrac : List Char → List Char × List Char
  | '.' :: d :: cs =>
    if d.isDigit then ('.' :: d :: (scanDigits cs).1, (scanDigits cs).2) else ([], '.' :: d :: cs)
  | cs => ([], cs)

/-- `[-+]?` -/
def scanExpSign : List Char → List Char × List Char
  | '-' :: cs => (['-'], cs)
  | '+' :: cs => (['+'], cs)
  | cs => ([], cs)

/-- `([eE][-+]?[0-9]+)?` -/
def scanExp (cs : List Char) : List Char × List Char :=
  match cs with
  | [] => ([], [])
  | m :: ds =>
    if m = 'e' ∨ m = 'E' then
      match (scanExpSign ds).2 with
      | d :: es =>
        if d.isDigit then
          (m :: ((scanExpSign ds).1 ++ d :: (scanDigits es).1), (scanDigits es).2)
        else ([], cs)
      | [] => ([], cs)
    else ([], cs)

/-- A number: its integer part with the sign, what makes it a float, and the rest. -/
def scanNumber (cs : List Char) : Option ((List Char × List Char) × List Char) := do
  let (sg, cs) := scanSign cs
  let (ip, cs) ← scanInt cs
  let (fp, cs) := scanFrac cs
  let (xp, cs) := scanExp cs
  some ((sg ++ ip, fp ++ xp), cs)

/-! ## Strings -/

/-- The value of a hexadecimal digit. -/
def hexVal (c : Char) : Option Nat :=
  let n := c.toNat
  if 48 ≤ n ∧ n ≤ 57 then some (n - 48)
  else if 97 ≤ n ∧ n ≤ 102 then some (n - 87)
  else if 65 ≤ n ∧ n ≤ 70 then some (n - 55)
  else none

def hexVal4 (a b c d : Char) : Option Nat := do
  some ((← hexVal a) * 4096 + (← hexVal b) * 256 + (← hexVal c) * 16 + (← hexVal d))

/-- The character after a backslash. -/
def unescape (c : Char) : Option Nat :=
  if c = '\x22' ∨ c = '\x5c' ∨ c = '/' then some c.toNat
  else if c = 'b' then some 8
  else if c = 'f' then some 12
  else if c = 'n' then some 10
  else if c = 'r' then some 13
  else if c = 't' then some 9
  else none

/-- The units of a string up to its closing quote, and the rest. -/
def scanUnits : List Char → Option (List Nat × List Char)
  | [] => none
  | '\x22' :: cs => some ([], cs)
  | '\x5c' :: 'u' :: a :: b :: c :: d :: cs => do
    let n ← hexVal4 a b c d
    let (us, r) ← scanUnits cs
    some (n :: us, r)
  | '\x5c' :: e :: cs => do
    let n ← unescape e
    let (us, r) ← scanUnits cs
    some (n :: us, r)
  | c :: cs =>
    if c.toNat < 32 ∨ c = '\x5c' then none
    else do
      let (us, r) ← scanUnits cs
      some (c.toNat :: us, r)

def isHighSurrogate (n : Nat) : Bool := 0xd800 ≤ n && n ≤ 0xdbff

def isLowSurrogate (n : Nat) : Bool := 0xdc00 ≤ n && n ≤ 0xdfff

/-- The characters the units spell; a surrogate outside a pair spells none. -/
def joinUnits : List Nat → Option (List Char)
  | [] => some []
  | [n] =>
    if isHighSurrogate n ∨ isLowSurrogate n then none else some [Char.ofNat n]
  | n :: m :: us =>
    if isHighSurrogate n ∧ isLowSurrogate m then do
      some (Char.ofNat (0x10000 + (n - 0xd800) * 0x400 + (m - 0xdc00)) :: (← joinUnits us))
    else if isHighSurrogate n ∨ isLowSurrogate n then none
    else do some (Char.ofNat n :: (← joinUnits (m :: us)))

/-- A string after its opening quote, and the rest. -/
def scanString (cs : List Char) : Option (String × List Char) := do
  let (us, r) ← scanUnits cs
  some (String.ofList (← joinUnits us), r)

/-! ## Values -/

variable {F : Type} [PyFloatOps F]

/-- `dict(pairs)`. -/
def ofPairs (ps : Fields F) : Fields F := ps.foldl (fun fs p => Assoc.set fs p.1 p.2) []

/-- A float under the spelling the decoder read. -/
def floatLit (t : String) (cs : List Char) : Option (Json F × List Char) :=
  (PyFloatOps.ofStr t).map fun x => (.float x, cs)

mutual

/-- A value at the head of the text, and the rest. -/
def parseValue : Nat → List Char → Option (Json F × List Char)
  | 0, _ => none
  | fuel + 1, cs =>
    match cs with
    | '\x22' :: cs => (scanString cs).map fun (s, r) => (.str s, r)
    | '[' :: cs =>
      match skipWs cs with
      | ']' :: r => some (.arr [], r)
      | cs => (parseItems fuel cs).map fun (vs, r) => (.arr vs, r)
    | '\x7b' :: cs =>
      match skipWs cs with
      | '\x7d' :: r => some (.obj [], r)
      | cs => (parseFields fuel cs).map fun (fs, r) => (.obj (ofPairs fs), r)
    | 'n' :: 'u' :: 'l' :: 'l' :: r => some (.null, r)
    | 't' :: 'r' :: 'u' :: 'e' :: r => some (.bool true, r)
    | 'f' :: 'a' :: 'l' :: 's' :: 'e' :: r => some (.bool false, r)
    | 'N' :: 'a' :: 'N' :: r => floatLit "NaN" r
    | 'I' :: 'n' :: 'f' :: 'i' :: 'n' :: 'i' :: 't' :: 'y' :: r => floatLit "Infinity" r
    | '-' :: 'I' :: 'n' :: 'f' :: 'i' :: 'n' :: 'i' :: 't' :: 'y' :: r => floatLit "-Infinity" r
    | cs =>
      match scanNumber cs with
      | some ((ip, []), r) => some (.int (ofIntText ip), r)
      | some ((ip, fx), r) => floatLit (String.ofList (ip ++ fx)) r
      | none => none

/-- The elements of an array from one of them on, up to the closing bracket. -/
def parseItems : Nat → List Char → Option (List (Json F) × List Char)
  | 0, _ => none
  | fuel + 1, cs => do
    let (v, cs) ← parseValue fuel cs
    match skipWs cs with
    | ']' :: r => some ([v], r)
    | ',' :: cs =>
      let (vs, r) ← parseItems fuel (skipWs cs)
      some (v :: vs, r)
    | _ => none

/-- The fields of an object from one of them on, up to the closing brace. -/
def parseFields : Nat → List Char → Option (Fields F × List Char)
  | 0, _ => none
  | fuel + 1, cs =>
    match cs with
    | '\x22' :: cs => do
      let (k, cs) ← scanString cs
      match skipWs cs with
      | ':' :: cs =>
        let (v, cs) ← parseValue fuel (skipWs cs)
        match skipWs cs with
        | '\x7d' :: r => some ([(k, v)], r)
        | ',' :: cs =>
          let (fs, r) ← parseFields fuel (skipWs cs)
          some ((k, v) :: fs, r)
        | _ => none
      | _ => none
    | _ => none

end

/-- `json.loads`; `none` is a `JSONDecodeError`. -/
def loads (cs : List Char) : Option (Json F) := do
  let (v, r) ← parseValue (cs.length + 1) (skipWs cs)
  if skipWs r = [] then some v else none

end Json

end NexusC2
