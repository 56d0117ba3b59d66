import NexusC2.Misc.Numerals

/-!
# Counts and bearings of a social text

`app/adapters/osint_text.py` reads a count, a bearing and an objective out of a text with six
regular expressions. A filtered estimate goes before a number of airframes, and this before a number
behind a tilde; a count outside 1 to 500 is dropped for the fallback.
-/

namespace NexusC2

namespace OsintText

open Regex

/-- A word with `re.IGNORECASE`. -/
def word (s : String) : Regex Char := seqs (s.toList.map fun l => chr (sameLetter l))

/-- A character that is no letter. -/
def sign (c : Char) : Regex Char := chr (· == c)

/-- `\s*`. -/
def spaces : Regex Char := rep Text.isSpace 0 none true

/-- `\s+`. -/
def spaces1 : Regex Char := rep Text.isSpace 1 none true

section

variable [PyChars]

/-- `\d{1,3}`. -/
def digits3 : Regex Char := rep isDecimal 1 (some 3) true

/-- `\d+`. -/
def digits1 : Regex Char := rep isDecimal 1 none true

/-- `_FILTERED_COUNT`. -/
def filteredCount : Pattern Char where
  lead := seqs
    [alts (seqs [word "filtered", spaces1, opt (seq (word "osint") spaces1), word "estimate"])
      [seqs [word "osint", spaces1, word "estimate"], seq (word "estimate") (opt (word "d"))],
    spaces, opt (chr fun c => c == ':' || c == '='), spaces, opt (sign '~'), spaces]
  group := digits3
  trail := empty

/-- `_AIRFRAME_COUNT`. -/
def airframeCount : Pattern Char where
  lead := boundary isWord
  group := digits3
  trail := seqs
    [spaces,
    alts (seqs [word "shahed", opt (seq (sign '-') digits1), opt (seq spaces1 (word "class"))])
      [seq (word "airframe") (opt (word "s")), seq (word "drone") (opt (word "s")),
        seq (word "uav") (opt (word "s")), seq (word "contact") (opt (word "s"))],
    boundary isWord]

/-- `_BARE_TILDE_COUNT`. -/
def bareTildeCount : Pattern Char where
  lead := sign '~'
  group := digits3
  trail := boundary isWord

/-- `_BEARING`. -/
def bearing : Pattern Char where
  lead := seqs
    [boundary isWord, alts (word "bearing") [word "heading", word "hdg", word "brg"], spaces,
    opt (chr fun c => c == ':' || c == '='), spaces]
  group := seq digits3 (opt (seq (sign '.') digits1))
  trail := seq spaces (opt (sign '°'))

/-- `_CARDINAL_BEARING`. -/
def cardinalBearing : Pattern Char where
  lead := seqs [boundary isWord, alts (word "from") [word "due"], spaces1, word "the", spaces1]
  group := alts (seq (word "north") (opt (alts (word "east") [word "west"])))
    [seq (word "south") (opt (alts (word "east") [word "west"])), word "east", word "west",
      word "ne", word "nw", word "se", word "sw", word "n", word "s", word "e", word "w"]
  trail := boundary isWord

/-- `_TOWARD_OBJECTIVE`. -/
def towardObjective : Pattern Char where
  lead := seqs [boundary isWord, word "toward", opt (word "s"), spaces1]
  group := seqs
    [chr isLatin, chr fun c => isLatin c || c.isDigit,
    rep (fun c => isLatin c || c.isDigit || c == ' ' || c == '-') 0 (some 40) false]
  trail := look (alts (chr fun c => c == ',' || c == '.' || c == ';')
    [seq (word "t") (sign '+'), finish (· == '\n')])

end

variable {F : Type} [PyNumeralOps F]

/-- `_CARDINALS`. -/
def cardinals : List (String × F) :=
  [("n", 0.0), ("north", 0.0), ("ne", 45.0), ("northeast", 45.0), ("e", 90.0), ("east", 90.0),
    ("se", 135.0), ("southeast", 135.0), ("s", 180.0), ("south", 180.0), ("sw", 225.0),
    ("southwest", 225.0), ("w", 270.0), ("west", 270.0), ("nw", 315.0), ("northwest", 315.0)]

structure OsintParseResult (F : Type) where
  claimedCount : Option Int := none
  bearingDeg : Option F := none
  objective : Option String := none
  rawCountMatch : Option String := none
  notes : List String := []
  deriving DecidableEq

variable [PyChars]

/-- The first of the three expressions for a count that matches, and its note. -/
def countMatch (raw : List Char) : Option (Match raw × String) :=
  match filteredCount.search raw with
  | some filtered => some (filtered, "filtered_estimate")
  | none =>
    match airframeCount.search raw with
    | some airframe => some (airframe, "airframe_count")
    | none => (bareTildeCount.search raw).map fun tilde => (tilde, "tilde_count")

/-- The count, the text it was read from and the notes. -/
def readCount (raw : List Char) : Option Int × Option String × List String :=
  match countMatch raw with
  | none => (none, none, [])
  | some (m, note) =>
    let count := intOf m.group.taken
    if 1 ≤ count ∧ count ≤ 500 then (some count, some (String.ofList m.phrase), [note])
    else (none, none, [note, "count_out_of_range"])

/-- The bearing and its note. -/
def readBearing (raw : List Char) : Option F × List String :=
  match bearing.search raw with
  | some m => (some (PyNumeralOps.mod (PyNumeralOps.ofNumeral m.group.taken) (360.0 : F)),
      ["bearing_numeric"])
  | none =>
    match cardinalBearing.search raw with
    | none => (none, [])
    | some m =>
      match cardinals.lookup (String.ofList ((m.group.taken.map Char.toLower).filter (· != '-'))) with
      | some deg => (some deg, ["bearing_cardinal"])
      | none => (none, [])

/-- `" ".join(text.split())`. -/
def joinWords (cs : List Char) : String :=
  " ".intercalate (((cs.splitOnP Text.isSpace).filter (· ≠ [])).map String.ofList)

/-- The objective and its note. -/
def readObjective (raw : List Char) : Option String × List String :=
  match towardObjective.search raw with
  | some m => (some (joinWords m.group.taken), ["objective"])
  | none => (none, [])

/-- What is read out of a text that is not empty. -/
def parseRaw (raw : List Char) (fallbackCount : Option Int) : OsintParseResult F :=
  let (count, rawMatch, countNotes) := readCount raw
  let fallbackNotes := if count.isNone ∧ fallbackCount.isSome then ["fallback_count"] else []
  let (bearing, bearingNotes) := readBearing raw
  let (objective, objectiveNotes) := readObjective raw
  { claimedCount := count.or fallbackCount
    bearingDeg := bearing
    objective := objective
    rawCountMatch := rawMatch
    notes := countNotes ++ fallbackNotes ++ bearingNotes ++ objectiveNotes }

/-- `parse_osint_text(text, fallback_count=..)`. -/
def parseOsintText (text : Option String) (fallbackCount : Option Int) : OsintParseResult F :=
  match text.map fun t => Text.stripChars t.toList with
  | none | some [] =>
    { claimedCount := fallbackCount
      notes := if fallbackCount.isSome then ["empty_text"] else ["empty_text", "no_fallback"] }
  | some raw => parseRaw raw fallbackCount

end OsintText

end NexusC2
