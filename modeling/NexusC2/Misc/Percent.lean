import NexusC2.Misc.JsonLoads

/-!
# Percent-decoding

`urllib.parse.unquote` with its defaults: escapes and ASCII characters are bytes, which are read
as UTF-8 with a replacement character for what is none; any other character stays what it is.
The reader of UTF-8 goes byte by byte and keeps where it stands inside a character.
-/

namespace NexusC2

namespace Percent

open Json (hexVal)

/-! ## UTF-8 -/

/-- U+FFFD. -/
def replacement : Char := '\ufffd'

/-- Inside a character: its value so far, how many bytes are owed, and the least and the greatest
value the next one may have. -/
structure Pending where
  value : Nat
  owed : Nat
  low : Nat
  high : Nat
  deriving DecidableEq, Repr

/-- After the first byte of a longer character. -/
def lead (b : Nat) : Option Pending :=
  if 0xc2 ≤ b ∧ b ≤ 0xdf then some ⟨b - 0xc0, 1, 0x80, 0xbf⟩
  else if 0xe0 ≤ b ∧ b ≤ 0xef then
    some ⟨b - 0xe0, 2, if b = 0xe0 then 0xa0 else 0x80, if b = 0xed then 0x9f else 0xbf⟩
  else if 0xf0 ≤ b ∧ b ≤ 0xf4 then
    some ⟨b - 0xf0, 3, if b = 0xf0 then 0x90 else 0x80, if b = 0xf4 then 0x8f else 0xbf⟩
  else none

/-- A byte between characters: what it completes, and where it leaves the reader. -/
def firstByte (b : Nat) : List Char × Option Pending :=
  if b < 0x80 then ([Char.ofNat b], none)
  else match lead b with
    | some p => ([], some p)
    | none => ([replacement], none)

/-- A byte. One that cannot go on with a character ends it and is read again. -/
def nextByte : Option Pending → Nat → List Char × Option Pending
  | none, b => firstByte b
  | some p, b =>
    if p.low ≤ b ∧ b ≤ p.high then
      let value := p.value * 64 + (b - 0x80)
      if p.owed = 1 then ([Char.ofNat value], none)
      else ([], some ⟨value, p.owed - 1, 0x80, 0xbf⟩)
    else (replacement :: (firstByte b).1, (firstByte b).2)

/-- What is read where the bytes end. -/
def flush : Option Pending → List Char
  | none => []
  | some _ => [replacement]

/-! ## Escapes -/

/-- A part of a quoted text: a byte, or a character beyond ASCII. -/
inductive Part where
  | byte (b : Nat)
  | char (c : Char)
  deriving DecidableEq, Repr

/-- A character that is not part of an escape. -/
def part (c : Char) : Part := if c.toNat < 0x80 then .byte c.toNat else .char c

/-- The parts of a quoted text. A percent sign without two hex digits is one itself. -/
def parts : List Char → List Part
  | [] => []
  | '%' :: a :: b :: cs =>
    match hexVal a, hexVal b with
    | some x, some y => .byte (x * 16 + y) :: parts cs
    | _, _ => part '%' :: parts (a :: b :: cs)
  | c :: cs => part c :: parts cs

/-- The text of parts, from where the reader stands. -/
def decode : Option Pending → List Part → List Char
  | st, [] => flush st
  | st, .byte b :: ps => (nextByte st b).1 ++ decode (nextByte st b).2 ps
  | st, .char c :: ps => flush st ++ c :: decode none ps

/-- `unquote(s)`. -/
def unquote (s : String) : String := String.ofList (decode none (parts s.toList))

theorem decode_part (c : Char) (ps : List Part) : decode none (part c :: ps) = c :: decode none ps := by
  by_cases hascii : c.toNat < 0x80
  · simp [part, hascii, decode, nextByte, firstByte]
  · simp [part, hascii, decode, flush]

theorem parts_cons {c : Char} (hc : c ≠ '%') (cs : List Char) :
    parts (c :: cs) = part c :: parts cs := by
  rw [parts]
  intro a b cs' heq
  exact absurd heq hc

/-- Characters before the first percent sign are read as they are. -/
theorem decode_plain {cs : List Char} (h : '%' ∉ cs) (ds : List Char) :
    decode none (parts (cs ++ ds)) = cs ++ decode none (parts ds) := by
  induction cs with
  | nil => rfl
  | cons c cs ih =>
    obtain ⟨hc, hcs⟩ := not_or.mp (mt List.mem_cons.mpr h)
    rw [List.cons_append, parts_cons (Ne.symm hc), decode_part, ih hcs, List.cons_append]

/-- A text without a percent sign is read as it is. -/
theorem unquote_plain {s : String} (h : '%' ∉ s.toList) : unquote s = s := by
  have hdecode := decode_plain h []
  simp only [List.append_nil, parts, decode, flush] at hdecode
  rw [unquote, hdecode, String.ofList_toList]

example : unquote "/%61pi/caf%C3%A9/%E2%82x%4" = "/api/café/\ufffdx%4" := by decide +kernel

end Percent

end NexusC2
