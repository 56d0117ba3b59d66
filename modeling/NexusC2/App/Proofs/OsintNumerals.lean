import NexusC2.App.OsintText

/-!
# Numerals of a social text

The expressions for a filtered estimate and for a bearing take at most three digits and ask for
nothing behind them, so that of a longer number the first three digits are read. The expressions for
airframes and for a tilde end at the end of a word and read a number as a whole.
-/

namespace NexusC2

namespace OsintText

open Regex

/-- The text without the white space around it. -/
def stripped (text : Option String) : List Char :=
  (text.map fun t => Text.stripChars t.toList).getD []

section

variable [PyChars]

/-- The digits that stand where the group of a match begins. -/
def digitsAt {raw : List Char} (m : Match raw) : List Char := m.lead.rest.takeWhile isDecimal

/-- A count that is not the fallback is in its range, and is the number of a whole run of digits in
the matched phrase. -/
def CountReadWhole {F : Type} (raw : List Char) (fallbackCount : Option Int)
    (r : OsintParseResult F) : Prop :=
  ∀ n, r.claimedCount = some n → fallbackCount ≠ some n → 1 ≤ n ∧ n ≤ 500 ∧
    ∃ m note, countMatch raw = some (m, note) ∧ r.rawCountMatch = some (String.ofList m.phrase) ∧
      ∃ ds, m.Reads IsDigits ds ∧ n = intOf ds

/-- A numeric bearing is a whole numeral in what `_BEARING` matches, modulo 360. -/
def BearingReadWhole {F : Type} [PyNumeralOps F] (raw : List Char) (r : OsintParseResult F) :
    Prop :=
  "bearing_numeric" ∈ r.notes → ∃ m, bearing.search raw = some m ∧ ∃ ds, m.Reads IsNumeral ds ∧
    r.bearingDeg = some (PyNumeralOps.mod (PyNumeralOps.ofNumeral ds) (360.0 : F))

/-- No estimate and no bearing goes on behind its third digit, unless the estimate is dropped or is
the fallback. -/
def WithinThree (raw : List Char) (fallbackCount : Option Int) : Prop :=
  (∀ m, filteredCount.search raw = some m → (digitsAt m).length ≤ 3 ∨
    ¬ (1 ≤ intOf ((digitsAt m).take 3) ∧ intOf ((digitsAt m).take 3) ≤ 500) ∨
    fallbackCount = some (intOf ((digitsAt m).take 3))) ∧
  ∀ m, bearing.search raw = some m → (digitsAt m).length ≤ 3

/-! ## What the parts of the expressions take -/

theorem isNumeralChar_sameLetter {l c : Char} (hl : l.isLower = true)
    (h : sameLetter l c = true) : isNumeralChar c = false := by
  have hdot : c ≠ '.' := by
    rintro rfl
    have heq : '.' = l := by simpa [sameLetter] using h
    subst heq
    cases hl
  simp [isNumeralChar, isDecimal_sameLetter hl h, hdot]

theorem avoids_word {s : String} (hs : s.toList.all Char.isLower = true) :
    (word s).Avoids isNumeralChar := by
  simp only [word, avoids_seqs, List.mem_map]
  rintro r ⟨l, hl, rfl⟩ c hc
  exact isNumeralChar_sameLetter (List.all_eq_true.mp hs l hl) hc

theorem begins_word {s : String} {l : Char} {ls : List Char} (hs : s.toList = l :: ls)
    (hl : l.isLower = true) : (word s).Begins fun c => !isNumeralChar c := by
  rw [word, hs]
  refine Or.inl fun c hc => ?_
  simp [isNumeralChar_sameLetter hl hc]

theorem isNumeralChar_space {c : Char} (h : Text.isSpace c = true) : isNumeralChar c = false := by
  have hdot : c ≠ '.' := by
    rintro rfl
    cases h
  simp [isNumeralChar, isDecimal_space h, hdot]

theorem isNumeralChar_ascii {c : Char} (h : c.toNat < 128) (hc : (c.isDigit || c == '.') = false) :
    isNumeralChar c = false := by
  rw [isNumeralChar, isDecimal_ascii h]
  exact hc

/-- The marks that may stand before a number. -/
theorem isNumeralChar_mark : isNumeralChar ':' = false ∧ isNumeralChar '=' = false ∧
    isNumeralChar '~' = false :=
  ⟨isNumeralChar_ascii (by decide) rfl, isNumeralChar_ascii (by decide) rfl,
    isNumeralChar_ascii (by decide) rfl⟩

theorem filteredCount_lead_avoids : filteredCount.lead.Avoids isNumeralChar := by
  have hspace : ∀ c, Text.isSpace c = true → isNumeralChar c = false :=
    fun c => isNumeralChar_space
  simpa [filteredCount, avoids_word, spaces, spaces1, sign, isNumeralChar_mark, Avoids] using hspace

theorem bearing_lead_avoids : bearing.lead.Avoids isNumeralChar := by
  have hspace : ∀ c, Text.isSpace c = true → isNumeralChar c = false :=
    fun c => isNumeralChar_space
  simpa [bearing, avoids_word, spaces, isNumeralChar_mark, Avoids] using hspace

theorem bearing_trail_avoids : bearing.trail.Avoids isNumeralChar := by
  have hspace : ∀ c, Text.isSpace c = true → isNumeralChar c = false :=
    fun c => isNumeralChar_space
  have hdegree : isNumeralChar '°' = false := by
    simp [isNumeralChar, isDecimal_degree]
  simpa [bearing, spaces, sign, hdegree, Avoids] using hspace

theorem filteredCount_lead_begins : filteredCount.lead.Begins fun c => !isNumeralChar c := by
  refine Or.inl (begins_alts.mpr ⟨?_, ?_⟩)
  · exact Or.inl (begins_word rfl rfl)
  · simp only [List.mem_cons, List.not_mem_nil, or_false, forall_eq_or_imp, forall_eq]
    exact ⟨Or.inl (begins_word rfl rfl), Or.inl (begins_word rfl rfl)⟩

theorem bearing_lead_begins : bearing.lead.Begins fun c => !isNumeralChar c := by
  refine Or.inr ⟨trivial, Or.inl (begins_alts.mpr ⟨begins_word rfl rfl, ?_⟩)⟩
  simp only [List.mem_cons, List.not_mem_nil, or_false, forall_eq_or_imp, forall_eq]
  exact ⟨begins_word rfl rfl, begins_word rfl rfl, begins_word rfl rfl⟩

/-- Behind the number of airframes stands white space or a letter. -/
theorem airframeCount_trail_begins : airframeCount.trail.Begins fun c => !isNumeralChar c := by
  refine Or.inr ⟨fun c hc => by simp [isNumeralChar_space hc], Or.inl (begins_alts.mpr ⟨?_, ?_⟩)⟩
  · exact Or.inl (begins_word rfl rfl)
  · simp only [List.mem_cons, List.not_mem_nil, or_false, forall_eq_or_imp, forall_eq]
    exact ⟨Or.inl (begins_word rfl rfl), Or.inl (begins_word rfl rfl), Or.inl (begins_word rfl rfl),
      Or.inl (begins_word rfl rfl)⟩

/-! ## Where a number ends -/

/-- A numeral goes on behind its digits with a point and digits, or not at all. -/
theorem numeral_tail {ds v : List Char} (hds : ∀ c ∈ ds, isDecimal c = true)
    (hv : ∀ c, v.head? = some c → isDecimal c = false) (h : IsNumeral (ds ++ v)) :
    v = [] ∨ ∃ es, v = '.' :: es ∧ IsDigits es := by
  obtain ⟨ds', fs, heq, ⟨-, hds'⟩, hfs⟩ := h
  have hdot : isDecimal '.' = false := isDecimal_ascii (by decide)
  have hstop : ∀ w : List Char, (∀ c, w.head? = some c → isDecimal c = false) →
      w.takeWhile isDecimal = [] := by
    intro w hw
    cases w with
    | nil => rfl
    | cons c cs => simp [hw c rfl]
  have hfs' : fs.takeWhile isDecimal = [] := by
    apply hstop
    intro c hc
    rcases hfs with rfl | ⟨es, rfl, -⟩
    · cases hc
    · obtain rfl : '.' = c := Option.some.inj hc
      exact hdot
  have hsame := congrArg (List.takeWhile isDecimal) heq
  rw [List.takeWhile_append_of_pos hds, List.takeWhile_append_of_pos hds', hstop v hv, hfs',
    List.append_nil, List.append_nil] at hsame
  subst hsame
  rw [List.append_cancel_left heq]
  exact hfs

theorem isDigits_of_mem_run {prev : Option Char} {text : List Char} {a : Split text}
    (h : a ∈ digits3.run prev text) : IsDigits a.taken := by
  obtain ⟨hdigits, hlen⟩ := of_mem_run_rep h
  refine ⟨?_, hdigits⟩
  intro hnil
  rw [hnil] at hlen
  cases hlen

/-- Digits that no digit follows do not go on. -/
theorem digits_right {ds rest v : List Char} (hrest : ∀ c, rest.head? = some c → isDecimal c = false)
    (hv : v <+: rest) (h : IsDigits (ds ++ v)) : v = [] := by
  cases v with
  | nil => rfl
  | cons c cs =>
    obtain ⟨w, rfl⟩ := hv
    have htrue := h.2 c (by simp)
    rw [hrest c rfl] at htrue
    cases htrue

/-- Nothing of a numeral stands left of a group behind words and marks. -/
theorem lead_last {raw : List Char} {m : Match raw} {r : Regex Char} {prev : Option Char}
    (havoids : r.Avoids isNumeralChar) (hbegins : r.Begins fun c => !isNumeralChar c)
    (hlead : m.lead ∈ r.run prev m.before.rest) {c : Char}
    (hc : (m.before.taken ++ m.lead.taken).getLast? = some c) : isNumeralChar c = false := by
  obtain ⟨d, ds, htaken, -⟩ := begins_of_mem_run hbegins hlead
  apply avoids_of_mem_run havoids hlead
  rw [List.getLast?_append_of_ne_nil _ (by simp [htaken])] at hc
  exact List.mem_of_getLast? hc

theorem isDecimal_of_not_isNumeralChar {c : Char} (h : isNumeralChar c = false) :
    isDecimal c = false := by
  rw [isNumeralChar, Bool.or_eq_false_iff] at h
  exact h.1

/-! ## Estimates -/

section

variable {raw : List Char} {m : Match raw}

/-- The estimate takes the digits that stand there, or three of them, and nothing behind them. -/
theorem filteredCount_group (h : filteredCount.search raw = some m) :
    m.group = Split.cut m.lead.rest (min 3 (digitsAt m).length) ∧ m.trail = .none m.group.rest := by
  constructor
  · have htotal : filteredCount.trail.Total := trivial
    exact head?_run_rep (Pattern.group_of_search htotal h)
  · exact List.mem_singleton.mp (Pattern.parts_of_search h).2.2

theorem filteredCount_taken (h : filteredCount.search raw = some m) :
    m.group.taken = (digitsAt m).take 3 := by
  rw [(filteredCount_group h).1]
  exact (take_eq_takeWhile (Nat.min_le_right 3 _)).trans List.take_eq_take_min.symm

theorem filteredCount_reads (h : filteredCount.search raw = some m)
    (hlen : (digitsAt m).length ≤ 3) : m.Reads IsDigits m.group.taken := by
  obtain ⟨hlead, hgroup, -⟩ := Pattern.parts_of_search h
  have hrest : m.group.rest = m.lead.rest.drop (digitsAt m).length := by
    rw [(filteredCount_group h).1, Nat.min_eq_right hlen]
    rfl
  apply Match.reads_group
  apply Maximal.intro (fun cs hcs => hcs.2) (isDigits_of_mem_run hgroup)
  · intro c hc
    exact isDecimal_of_not_isNumeralChar
      (lead_last filteredCount_lead_avoids filteredCount_lead_begins hlead hc)
  · intro v hv hlong
    apply digits_right ?_ hv hlong
    intro c hc
    rw [hrest] at hc
    exact drop_takeWhile hc

/-- Of a longer number, the estimate has no whole run of digits. -/
theorem filteredCount_not_reads (h : filteredCount.search raw = some m)
    (hlen : 3 < (digitsAt m).length) (ds : List Char) : ¬ m.Reads IsDigits ds := by
  obtain ⟨hlead, hgroup, -⟩ := Pattern.parts_of_search h
  obtain ⟨hcut, htrail⟩ := filteredCount_group h
  obtain ⟨c, rest, hdrop, hc⟩ := drop_eq_cons hlen
  have hafter : m.after = c :: rest := by
    show m.trail.rest = c :: rest
    rw [htrail]
    show m.group.rest = c :: rest
    rw [hcut, Nat.min_eq_left (Nat.le_of_lt hlen)]
    exact hdrop
  have havoids : ∀ d ∈ m.lead.taken, isDecimal d = false := fun d hd =>
    isDecimal_of_not_isNumeralChar (avoids_of_mem_run filteredCount_lead_avoids hlead d hd)
  exact Match.not_reads (fun cs hcs => hcs) (fun cs hne hcs => ⟨hne, hcs⟩) havoids
    (isDigits_of_mem_run hgroup).2 (congrArg Split.taken htrail) hafter hc

/-! ## Airframes and tildes -/

theorem isWord_of_isDecimal {c : Char} (h : isDecimal c = true) : isWord c = true := by
  rw [isWord, PyChars.isAlnum_of_decimal c h]
  rfl

theorem airframeCount_reads (h : airframeCount.search raw = some m) :
    m.Reads IsDigits m.group.taken := by
  obtain ⟨hlead, hgroup, htrail⟩ := Pattern.parts_of_search h
  obtain ⟨hboundary, hnone⟩ := mem_run_boundary.mp hlead
  have hdigits := isDigits_of_mem_run hgroup
  apply Match.reads_group
  apply Maximal.intro (fun cs hcs => hcs.2) hdigits
  · -- a word begins with the number
    intro c hc
    by_contra hdecimal
    rw [Bool.not_eq_false] at hdecimal
    have hlast : m.before.last none = some c := by
      rw [hnone] at hc
      simpa [Split.none, Split.last] using hc
    obtain ⟨d, ds, hcons⟩ := List.exists_cons_of_ne_nil hdigits.1
    have hhead : m.before.rest.head? = some d := by
      have hjoined := m.group.joined
      rw [hcons] at hjoined
      have hrest : m.lead.rest = m.before.rest := by rw [hnone]; rfl
      rw [← hrest, ← hjoined]
      rfl
    rw [hlast, hhead] at hboundary
    apply hboundary
    have hd := hdigits.2 d (hcons ▸ List.mem_cons_self)
    simp [isWord_of_isDecimal hdecimal, isWord_of_isDecimal hd]
  · intro v hv hlong
    apply digits_right ?_ hv hlong
    intro c hc
    obtain ⟨d, ds, htaken, hd⟩ := begins_of_mem_run airframeCount_trail_begins htrail
    rw [m.rest_eq, htaken] at hc
    obtain rfl : d = c := Option.some.inj hc
    exact isDecimal_of_not_isNumeralChar (by simpa using hd)

theorem bareTildeCount_reads (h : bareTildeCount.search raw = some m) :
    m.Reads IsDigits m.group.taken := by
  obtain ⟨hlead, hgroup, htrail⟩ := Pattern.parts_of_search h
  obtain ⟨hboundary, -⟩ := mem_run_boundary.mp htrail
  have hdigits := isDigits_of_mem_run hgroup
  apply Match.reads_group
  apply Maximal.intro (fun cs hcs => hcs.2) hdigits
  · intro c hc
    obtain ⟨d, htaken, hd⟩ := mem_run_chr hlead
    rw [htaken, List.getLast?_append_of_ne_nil _ (by simp)] at hc
    obtain rfl : d = c := by simpa using hc
    obtain rfl : d = '~' := by simpa using hd
    exact isDecimal_ascii (by decide)
  · -- a word ends with the number
    intro v hv hlong
    apply digits_right ?_ hv hlong
    intro c hc
    by_contra hdecimal
    rw [Bool.not_eq_false] at hdecimal
    have hlast : m.group.last (m.lead.last (m.before.last none)) =
        some (m.group.taken.getLast hdigits.1) := by
      rw [Split.last, List.getLast?_eq_some_getLast hdigits.1]
      rfl
    rw [hlast, hc] at hboundary
    apply hboundary
    have hd := hdigits.2 _ (List.getLast_mem hdigits.1)
    simp [isWord_of_isDecimal hdecimal, isWord_of_isDecimal hd]

/-! ## Bearings -/

/-- `\.\d+`. -/
abbrev fraction : Regex Char := seq (sign '.') digits1

/-- A fraction has all digits behind its point. -/
theorem fraction_taken {prev : Option Char} {text : List Char} {c : Split text}
    (h : (fraction.run prev text).head? = some c) :
    ∃ es, c.taken = '.' :: es ∧ IsDigits es ∧ ∀ d, c.rest.head? = some d → isDecimal d = false := by
  cases text with
  | nil => cases h
  | cons x cs =>
    rw [fraction, sign, run_seq_chr] at h
    split at h
    · rw [List.head?_map] at h
      obtain ⟨e, he, rfl⟩ := Option.map_eq_some_iff.mp h
      obtain rfl : x = '.' := by simpa using ‹(x == '.') = true›
      obtain ⟨hdigits, hlen⟩ := of_mem_run_rep (List.mem_of_head? he)
      refine ⟨e.taken, rfl, ⟨?_, hdigits⟩, ?_⟩
      · intro hnil
        rw [hnil] at hlen
        cases hlen
      · intro d hd
        obtain rfl := head?_run_rep he
        exact drop_takeWhile hd
    · cases h

/-- There is one wherever a digit stands behind a point. -/
theorem fraction_nil {prev : Option Char} {text : List Char} (h : fraction.run prev text = [])
    {d : Char} {cs : List Char} (htext : text = '.' :: d :: cs) : isDecimal d = false := by
  by_contra hd
  rw [Bool.not_eq_false] at hd
  subst htext
  rw [fraction, sign, run_seq_chr, if_pos (beq_self_eq_true '.'), List.map_eq_nil_iff] at h
  have hmem : Split.cut (d :: cs) 1 ∈ digits1.run (some '.') (d :: cs) := by
    apply mem_run_rep.mpr
    refine ⟨1, Nat.le_refl 1, ?_, rfl⟩
    simp [reach, hd]
  rw [h] at hmem
  cases hmem

/-- A bearing begins with the digits that stand there, or three of them, and a fraction is taken
wherever there is one. -/
theorem bearing_group (h : bearing.search raw = some m) :
    ∃ b c, m.group = Split.more b c ∧ IsDigits b.taken ∧
      b = Split.cut m.lead.rest (min 3 (digitsAt m).length) ∧
      ((∃ es, c.taken = '.' :: es ∧ IsDigits es ∧
          ∀ d, c.rest.head? = some d → isDecimal d = false) ∨
        (c = .none b.rest ∧ ∀ d cs, b.rest = '.' :: d :: cs → isDecimal d = false)) := by
  have htotal : bearing.trail.Total := ⟨rfl, Or.inr trivial⟩
  have hopt : (opt fraction).Total := Or.inr trivial
  obtain ⟨b, hb, c, hc, hmore⟩ := head?_run_seq hopt (Pattern.group_of_search htotal h)
  refine ⟨b, c, hmore, isDigits_of_mem_run (List.mem_of_head? hb), head?_run_rep hb, ?_⟩
  rcases head?_run_opt hc with hc | ⟨hnil, hnone⟩
  · exact Or.inl (fraction_taken hc)
  · exact Or.inr ⟨hnone, fun d cs => fraction_nil hnil⟩

theorem bearing_reads (h : bearing.search raw = some m) (hlen : (digitsAt m).length ≤ 3) :
    m.Reads IsNumeral m.group.taken := by
  obtain ⟨hlead, -, -⟩ := Pattern.parts_of_search h
  obtain ⟨b, c, hgroup, hdigits, hcut, hc⟩ := bearing_group h
  have hrest : ∀ d, b.rest.head? = some d → isDecimal d = false := by
    intro d hd
    rw [hcut, Nat.min_eq_right hlen] at hd
    exact drop_takeWhile hd
  have htaken : m.group.taken = b.taken ++ c.taken := by rw [hgroup]; rfl
  have hleft : m.group.rest = c.rest := by rw [hgroup]; rfl
  apply Match.reads_group
  rw [htaken, hleft]
  apply Maximal.intro (fun cs hcs => hcs.chars.2)
  · rcases hc with ⟨es, hfrac, hes, -⟩ | ⟨rfl, -⟩
    · exact ⟨b.taken, c.taken, rfl, hdigits, Or.inr ⟨es, hfrac, hes⟩⟩
    · exact ⟨b.taken, [], rfl, hdigits, Or.inl rfl⟩
  · intro d hd
    exact lead_last bearing_lead_avoids bearing_lead_begins hlead hd
  · intro v hv hlong
    rcases hc with ⟨es, hfrac, hes, hend⟩ | ⟨rfl, hpoint⟩
    · -- a fraction goes on with no digit
      rw [hfrac, List.append_assoc] at hlong
      have hdot : ∀ d, ('.' :: es ++ v).head? = some d → isDecimal d = false := by
        intro d hd
        obtain rfl : '.' = d := Option.some.inj hd
        exact isDecimal_ascii (by decide)
      rcases numeral_tail hdigits.2 hdot hlong with hnil | ⟨w, hw, hwdigits⟩
      · cases hnil
      · obtain rfl : es ++ v = w := (List.cons.inj hw).2
        exact digits_right hend hv hwdigits
    · -- and digits go on with no fraction
      rw [Split.none, List.append_nil] at hlong
      obtain ⟨w, hw⟩ := hv
      have hw : v ++ w = b.rest := hw
      have hhead : ∀ d, v.head? = some d → isDecimal d = false := by
        intro d hd
        apply hrest
        rw [← hw, List.head?_append, hd]
        rfl
      rcases numeral_tail hdigits.2 hhead hlong with hnil | ⟨es, rfl, hes⟩
      · exact hnil
      · obtain ⟨d, ds, rfl⟩ := List.exists_cons_of_ne_nil hes.1
        have hfalse := hpoint d (ds ++ w) hw.symm
        rw [hes.2 d List.mem_cons_self] at hfalse
        cases hfalse

/-- Of a longer number, the bearing has no whole numeral. -/
theorem bearing_not_reads (h : bearing.search raw = some m) (hlen : 3 < (digitsAt m).length)
    (ds : List Char) : ¬ m.Reads IsNumeral ds := by
  obtain ⟨hlead, -, htrail⟩ := Pattern.parts_of_search h
  obtain ⟨b, c, hgroup, hdigits, hcut, hc⟩ := bearing_group h
  obtain ⟨e, rest, hdrop, he⟩ := drop_eq_cons hlen
  have hrest : b.rest = e :: rest := by
    rw [hcut, Nat.min_eq_left (Nat.le_of_lt hlen)]
    exact hdrop
  have hnone : c = .none b.rest := by
    rcases hc with ⟨es, hfrac, -, -⟩ | ⟨hnone, -⟩
    · have hjoined := c.joined.trans hrest
      rw [hfrac] at hjoined
      obtain rfl : '.' = e := (List.cons.inj hjoined).1
      rw [isDecimal_ascii (by decide)] at he
      cases he
    · exact hnone
  have htaken : m.group.taken = b.taken := by
    rw [hgroup, hnone]
    exact List.append_nil b.taken
  have hbehind : m.trail.taken ++ m.after = e :: rest := by
    rw [← m.rest_eq, hgroup, hnone]
    exact hrest
  have htrailnil : m.trail.taken = [] := by
    cases htrailtaken : m.trail.taken with
    | nil => rfl
    | cons x xs =>
      rw [htrailtaken] at hbehind
      obtain rfl : x = e := (List.cons.inj hbehind).1
      have hx := avoids_of_mem_run bearing_trail_avoids htrail x (htrailtaken ▸ List.mem_cons_self)
      rw [isDecimal_of_not_isNumeralChar hx] at he
      cases he
  have hafter : m.after = e :: rest := by
    rw [htrailnil] at hbehind
    exact hbehind
  exact Match.not_reads (fun cs hcs => hcs.chars)
    (fun cs hne hcs => IsDigits.isNumeral ⟨hne, hcs⟩)
    (avoids_of_mem_run bearing_lead_avoids hlead) (htaken ▸ hdigits.2) htrailnil hafter he

end

/-! ## What is returned -/

section

variable {F : Type} [PyNumeralOps F] {raw : List Char} {fallbackCount : Option Int}

/-- The match of a count is the first of its expression, where no expression before it matches. -/
theorem countMatch_cases {m : Match raw} {note : String} (h : countMatch raw = some (m, note)) :
    (filteredCount.search raw = some m ∧ note = "filtered_estimate") ∨
      (airframeCount.search raw = some m ∧ note = "airframe_count") ∨
      (bareTildeCount.search raw = some m ∧ note = "tilde_count") := by
  unfold countMatch at h
  split at h
  · obtain ⟨rfl, rfl⟩ := Prod.mk.inj (Option.some.inj h)
    exact Or.inl ⟨‹_›, rfl⟩
  · split at h
    · obtain ⟨rfl, rfl⟩ := Prod.mk.inj (Option.some.inj h)
      exact Or.inr (Or.inl ⟨‹_›, rfl⟩)
    · obtain ⟨tilde, htilde, heq⟩ := Option.map_eq_some_iff.mp h
      obtain ⟨rfl, rfl⟩ := Prod.mk.inj heq
      exact Or.inr (Or.inr ⟨htilde, rfl⟩)

theorem note_ne_numeric {m : Match raw} {note : String} (h : countMatch raw = some (m, note)) :
    "bearing_numeric" ≠ note := by
  rcases countMatch_cases h with ⟨-, rfl⟩ | ⟨-, rfl⟩ | ⟨-, rfl⟩ <;> decide

/-- A count is read from the match, in its range, or there is none. -/
theorem readCount_cases (raw : List Char) :
    (∃ m note, countMatch raw = some (m, note) ∧ 1 ≤ intOf m.group.taken ∧
        intOf m.group.taken ≤ 500 ∧
        readCount raw = (some (intOf m.group.taken), some (String.ofList m.phrase), [note])) ∨
      ((readCount raw).1 = none ∧ "bearing_numeric" ∉ (readCount raw).2.2) := by
  cases hmatch : countMatch raw with
  | none => exact Or.inr (by simp [readCount, hmatch])
  | some found =>
    obtain ⟨m, note⟩ := found
    by_cases hrange : 1 ≤ intOf m.group.taken ∧ intOf m.group.taken ≤ 500
    · refine Or.inl ⟨m, note, rfl, hrange.1, hrange.2, ?_⟩
      simp only [readCount, hmatch]
      exact if_pos hrange
    · have hcount : readCount raw = (none, none, [note, "count_out_of_range"]) := by
        simp only [readCount, hmatch]
        exact if_neg hrange
      have hnote := note_ne_numeric hmatch
      exact Or.inr (by simp [hcount, hnote])

theorem readCount_note : "bearing_numeric" ∉ (readCount raw).2.2 := by
  rcases readCount_cases raw with ⟨m, note, hmatch, -, -, hcount⟩ | ⟨-, hnote⟩
  · have hnote := note_ne_numeric hmatch
    simp [hcount, hnote]
  · exact hnote

/-- Only a numeric bearing is noted as one. -/
theorem numeric_of_note (h : "bearing_numeric" ∈ (parseRaw (F := F) raw fallbackCount).notes) :
    ∃ m, bearing.search raw = some m ∧ (parseRaw (F := F) raw fallbackCount).bearingDeg =
      some (PyNumeralOps.mod (PyNumeralOps.ofNumeral m.group.taken) (360.0 : F)) := by
  have hbearing : "bearing_numeric" ∈ (readBearing (F := F) raw).2 := by
    simp only [parseRaw, List.mem_append] at h
    rcases h with ((h | h) | h) | h
    · exact absurd h readCount_note
    · split at h <;> simp at h
    · exact h
    · unfold readObjective at h
      split at h <;> simp at h
  show ∃ m, bearing.search raw = some m ∧ (readBearing (F := F) raw).1 = _
  cases hsearch : bearing.search raw with
  | some m => exact ⟨m, rfl, by simp [readBearing, hsearch]⟩
  | none =>
    simp only [readBearing, hsearch] at hbearing
    split at hbearing
    · simp at hbearing
    · split at hbearing <;> simp at hbearing

theorem note_of_numeric {m : Match raw} (h : bearing.search raw = some m) :
    "bearing_numeric" ∈ (parseRaw (F := F) raw fallbackCount).notes := by
  simp [parseRaw, readBearing, h]

/-- A count that is not the fallback is the number of the first expression that matches. -/
theorem count_of_claimed {n : Int}
    (h : (parseRaw (F := F) raw fallbackCount).claimedCount = some n) (hne : fallbackCount ≠ some n) :
    1 ≤ n ∧ n ≤ 500 ∧ ∃ m note, countMatch raw = some (m, note) ∧ n = intOf m.group.taken ∧
      (parseRaw (F := F) raw fallbackCount).rawCountMatch = some (String.ofList m.phrase) := by
  have hclaimed : (readCount raw).1.or fallbackCount = some n := h
  rcases readCount_cases raw with ⟨m, note, hmatch, hlow, hhigh, hcount⟩ | ⟨hnone, -⟩
  · rw [hcount] at hclaimed
    obtain rfl : intOf m.group.taken = n := Option.some.inj hclaimed
    refine ⟨hlow, hhigh, m, note, hmatch, rfl, ?_⟩
    show (readCount raw).2.1 = _
    rw [hcount]
  · rw [hnone] at hclaimed
    exact absurd hclaimed hne

/-- Whatever matches for a count, a number of at most three digits is read as a whole. -/
theorem countMatch_reads {m : Match raw} {note : String} (h : countMatch raw = some (m, note))
    (hlen : filteredCount.search raw = some m → (digitsAt m).length ≤ 3) :
    m.Reads IsDigits m.group.taken := by
  rcases countMatch_cases h with ⟨hsearch, -⟩ | ⟨hsearch, -⟩ | ⟨hsearch, -⟩
  · exact filteredCount_reads hsearch (hlen hsearch)
  · exact airframeCount_reads hsearch
  · exact bareTildeCount_reads hsearch

theorem countReadWhole_iff :
    CountReadWhole raw fallbackCount (parseRaw (F := F) raw fallbackCount) ↔
      ∀ m, filteredCount.search raw = some m → (digitsAt m).length ≤ 3 ∨
        ¬ (1 ≤ intOf ((digitsAt m).take 3) ∧ intOf ((digitsAt m).take 3) ≤ 500) ∨
        fallbackCount = some (intOf ((digitsAt m).take 3)) := by
  constructor
  · intro hwhole m hm
    by_contra hcond
    push Not at hcond
    obtain ⟨hlen, hrange, hfallback⟩ := hcond
    have hmatch : countMatch raw = some (m, "filtered_estimate") := by
      simp only [countMatch, hm]
    rw [← filteredCount_taken hm] at hrange hfallback
    have hclaimed : (parseRaw (F := F) raw fallbackCount).claimedCount =
        some (intOf m.group.taken) := by
      simp only [parseRaw, readCount, hmatch, if_pos hrange]
      rfl
    obtain ⟨-, -, m', note, hmatch', -, ds, hds, -⟩ := hwhole _ hclaimed hfallback
    rw [hmatch] at hmatch'
    obtain ⟨rfl, -⟩ := Prod.mk.inj (Option.some.inj hmatch')
    exact filteredCount_not_reads hm hlen ds hds
  · intro hcond n hn hne
    obtain ⟨hlow, hhigh, m, note, hmatch, rfl, hphrase⟩ := count_of_claimed hn hne
    refine ⟨hlow, hhigh, m, note, hmatch, hphrase, m.group.taken, ?_, rfl⟩
    apply countMatch_reads hmatch
    intro hm
    rcases hcond m hm with hlen | hrange | hfallback
    · exact hlen
    · rw [← filteredCount_taken hm] at hrange
      exact absurd ⟨hlow, hhigh⟩ hrange
    · rw [← filteredCount_taken hm] at hfallback
      exact absurd hfallback hne

theorem bearingReadWhole_iff :
    BearingReadWhole raw (parseRaw (F := F) raw fallbackCount) ↔
      ∀ m, bearing.search raw = some m → (digitsAt m).length ≤ 3 := by
  constructor
  · intro hwhole m hm
    obtain ⟨m', hm', ds, hds, -⟩ := hwhole (note_of_numeric hm)
    rw [hm] at hm'
    obtain rfl := Option.some.inj hm'
    by_contra hlen
    exact bearing_not_reads hm (by omega) ds hds
  · intro hcond hnote
    obtain ⟨m, hm, hdeg⟩ := numeric_of_note hnote
    exact ⟨m, hm, m.group.taken, bearing_reads hm (hcond m hm), hdeg⟩

end

theorem parseOsintText_of_empty {F : Type} [PyNumeralOps F] {text : Option String}
    {fallbackCount : Option Int} (h : stripped text = []) :
    parseOsintText (F := F) text fallbackCount =
      { claimedCount := fallbackCount
        notes := if fallbackCount.isSome then ["empty_text"] else ["empty_text", "no_fallback"] } := by
  cases text with
  | none => rfl
  | some t =>
    have hnil : Text.stripChars t.toList = [] := h
    simp only [parseOsintText, Option.map_some, hnil]

theorem parseOsintText_of_text {F : Type} [PyNumeralOps F] {text : Option String}
    {fallbackCount : Option Int} (h : stripped text ≠ []) :
    parseOsintText (F := F) text fallbackCount = parseRaw (stripped text) fallbackCount := by
  cases text with
  | none => exact absurd rfl h
  | some t =>
    cases hraw : Text.stripChars t.toList with
    | nil => exact absurd hraw h
    | cons c cs =>
      have hstripped : stripped (some t) = c :: cs := hraw
      rw [hstripped]
      simp only [parseOsintText, Option.map_some, hraw]

/-- Nothing stands in a text that is empty. -/
theorem digitsAt_nil (m : Match ([] : List Char)) : digitsAt m = [] := by
  have hbefore := (List.append_eq_nil_iff.mp m.before.joined).2
  have hlead := (List.append_eq_nil_iff.mp (m.lead.joined.trans hbefore)).2
  rw [digitsAt, hlead]
  rfl

/-- Numbers are read as a whole where no estimate and no bearing is longer than three digits, and
nowhere else but where the estimate that is cut is dropped or is the fallback. -/
theorem numerals_read_whole {F : Type} [PyNumeralOps F] (text : Option String)
    (fallbackCount : Option Int) :
    (CountReadWhole (stripped text) fallbackCount (parseOsintText (F := F) text fallbackCount) ∧
        BearingReadWhole (stripped text) (parseOsintText (F := F) text fallbackCount)) ↔
      WithinThree (stripped text) fallbackCount := by
  by_cases hempty : stripped text = []
  · rw [parseOsintText_of_empty hempty, hempty]
    constructor
    · intro _
      constructor
      · intro m _
        simp [digitsAt_nil m]
      · intro m _
        simp [digitsAt_nil m]
    · intro _
      constructor
      · intro n hn hne
        exact absurd hn hne
      · intro hnote
        split at hnote <;> simp at hnote
  · rw [parseOsintText_of_text hempty]
    exact and_congr countReadWhole_iff bearingReadWhole_iff

end

/-- A text with two numbers of four digits. -/
def longNumbers : Option String := some "osint estimate 1234, bearing 2345"

/-- Their first three digits are read. -/
theorem long_numbers_cut :
    letI := asciiChars
    (parseOsintText (F := Whole) longNumbers none).claimedCount = some 123 ∧
      (parseOsintText (F := Whole) longNumbers none).bearingDeg = some (.num 234) ∧
      ¬ CountReadWhole (stripped longNumbers) none (parseOsintText (F := Whole) longNumbers none) ∧
      ¬ BearingReadWhole (stripped longNumbers) (parseOsintText (F := Whole) longNumbers none) := by
  let _ := asciiChars
  have hestimate : ((filteredCount.search (stripped longNumbers)).map fun m =>
      ((digitsAt m).length, intOf ((digitsAt m).take 3))) = some (4, 123) := by decide +kernel
  have hbearing : ((bearing.search (stripped longNumbers)).map fun m => (digitsAt m).length) =
      some 4 := by decide +kernel
  have hempty : stripped longNumbers ≠ [] := by decide +kernel
  refine ⟨by decide +kernel, by decide +kernel, ?_, ?_⟩
  · intro hwhole
    rw [parseOsintText_of_text hempty] at hwhole
    obtain ⟨m, hm, hread⟩ := Option.map_eq_some_iff.mp hestimate
    obtain ⟨hlen, hcount⟩ := Prod.mk.inj hread
    rcases countReadWhole_iff.mp hwhole m hm with hle | hrange | hfallback
    · omega
    · rw [hcount] at hrange
      exact hrange (by decide)
    · cases hfallback
  · intro hwhole
    rw [parseOsintText_of_text hempty] at hwhole
    obtain ⟨m, hm, hlen⟩ := Option.map_eq_some_iff.mp hbearing
    have hle := bearingReadWhole_iff.mp hwhole m hm
    omega

end OsintText

end NexusC2
