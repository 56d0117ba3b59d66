import NexusC2.Misc.JsonLoads

/-!
# The decoder reads back what the encoder wrote

`loads_dumps`: for a value whose objects have distinct keys, decoding its text gives the value
back, floats and the order of fields included. The proof goes bottom up as the scanner does:
numbers, then strings through their UTF-16 units, then values by recursion on the value.
-/

namespace NexusC2

namespace Json

/-! ## Numbers -/

/-- The text ends here, or goes on with what may follow a value inside an array or object. -/
def Stop (r : List Char) : Prop := r = [] ∨ ∃ c cs, r = c :: cs ∧ (c = ',' ∨ c = ']' ∨ c = '\x7d')

/-- The text does not go on with a digit. -/
def NoDigit (r : List Char) : Prop := ∀ c cs, r = c :: cs → c.isDigit = false

theorem Stop.noDigit {r : List Char} (h : Stop r) : NoDigit r := by
  rintro c cs rfl
  rcases h with h | ⟨d, ds, heq, hd⟩
  · simp at h
  · obtain ⟨rfl, rfl⟩ := List.cons.inj heq
    rcases hd with rfl | rfl | rfl <;> decide

theorem scanDigits_append {ds r : List Char} (hd : ∀ c ∈ ds, c.isDigit = true) (hr : NoDigit r) :
    scanDigits (ds ++ r) = (ds, r) := by
  unfold scanDigits
  induction ds with
  | nil =>
    cases r with
    | nil => rfl
    | cons c cs => simp [hr c cs rfl]
  | cons d ds ih =>
    have hdd : d.isDigit = true := hd d (by simp)
    have htail := ih fun c hc => hd c (by simp [hc])
    simp only [Prod.mk.injEq] at htail
    simp [hdd, htail.1, htail.2]

theorem isDigit_ne {d c : Char} (hd : d.isDigit = true) (hc : c.isDigit = false) : d ≠ c := by
  rintro rfl
  rw [hd] at hc
  cases hc

/-- An integer part starts with a digit. -/
theorem intPart_head {ip : List Char} (h : IsIntPart ip) :
    ∃ d es, ip = d :: es ∧ d.isDigit = true := by
  rcases h with rfl | ⟨d, es, rfl, _, hd, _⟩
  · exact ⟨'0', [], rfl, by decide⟩
  · exact ⟨d, es, rfl, hd⟩

theorem scanInt_append {ip r : List Char} (h : IsIntPart ip) (hr : NoDigit r) :
    scanInt (ip ++ r) = some (ip, r) := by
  rcases h with rfl | ⟨d, es, rfl, hne, hd, hes⟩
  · rfl
  · simp only [List.cons_append, scanInt, if_neg hne, hd, if_true, scanDigits_append hes hr]

theorem scanSign_append {sg ip r : List Char} (hsg : sg = [] ∨ sg = ['-']) (h : IsIntPart ip) :
    scanSign (sg ++ (ip ++ r)) = (sg, ip ++ r) := by
  obtain ⟨d, es, rfl, hd⟩ := intPart_head h
  rcases hsg with rfl | rfl
  · have hne : d ≠ '-' := isDigit_ne hd (by decide)
    simp only [List.nil_append, List.cons_append]
    unfold scanSign
    split
    · rename_i heq
      exact absurd (List.cons.inj heq).1 hne
    · rfl
  · rfl

/-- The text does not go on as an exponent. -/
def NoExp (r : List Char) : Prop := ∀ c cs, r = c :: cs → c ≠ 'e' ∧ c ≠ 'E'

/-- The text does not go on as a fraction. -/
def NoFrac (r : List Char) : Prop := ∀ c cs, r = c :: cs → c ≠ '.'

theorem Stop.noExp {r : List Char} (h : Stop r) : NoExp r := by
  rintro c cs rfl
  rcases h with h | ⟨d, ds, heq, hd⟩
  · simp at h
  · obtain ⟨rfl, rfl⟩ := List.cons.inj heq
    rcases hd with rfl | rfl | rfl <;> decide

theorem Stop.noFrac {r : List Char} (h : Stop r) : NoFrac r := by
  rintro c cs rfl
  rcases h with h | ⟨d, ds, heq, hd⟩
  · simp at h
  · obtain ⟨rfl, rfl⟩ := List.cons.inj heq
    rcases hd with rfl | rfl | rfl <;> decide

theorem scanExp_append {xp r : List Char} (h : IsExpPart xp) (hr : Stop r) :
    scanExp (xp ++ r) = (xp, r) := by
  rcases h with rfl | ⟨m, sg, d, es, rfl, hm, hsg, hd, hes⟩
  · cases r with
    | nil => rfl
    | cons c cs =>
      have hc := hr.noExp c cs rfl
      simp [scanExp, hc.1, hc.2]
  · have hsign : scanExpSign (sg ++ d :: (es ++ r)) = (sg, d :: (es ++ r)) := by
      rcases hsg with rfl | rfl | rfl
      · have hminus : d ≠ '-' := isDigit_ne hd (by decide)
        have hplus : d ≠ '+' := isDigit_ne hd (by decide)
        simp only [List.nil_append]
        unfold scanExpSign
        split
        · rename_i heq
          exact absurd (List.cons.inj heq).1 hminus
        · rename_i heq
          exact absurd (List.cons.inj heq).1 hplus
        · rfl
      · rfl
      · rfl
    have hshape : m :: (sg ++ d :: es) ++ r = m :: (sg ++ d :: (es ++ r)) := by simp
    rw [hshape]
    simp only [scanExp, if_pos hm, hsign, hd, if_true, scanDigits_append hes hr.noDigit]

theorem expPart_noDigit {xp r : List Char} (h : IsExpPart xp) (hr : Stop r) :
    NoDigit (xp ++ r) := by
  rcases h with rfl | ⟨m, sg, d, es, rfl, hm, _, _, _⟩
  · exact hr.noDigit
  · rintro c cs heq
    obtain ⟨rfl, _⟩ := List.cons.inj heq
    rcases hm with rfl | rfl <;> decide

theorem scanFrac_append {fp xp r : List Char} (hf : IsFracPart fp) (hx : IsExpPart xp)
    (hr : Stop r) : scanFrac (fp ++ (xp ++ r)) = (fp, xp ++ r) := by
  rcases hf with rfl | ⟨d, es, rfl, hd, hes⟩
  · have hdot : NoFrac (xp ++ r) := by
      rcases hx with rfl | ⟨m, sg, d, es, rfl, hm, _, _, _⟩
      · exact hr.noFrac
      · rintro c cs heq
        obtain ⟨rfl, _⟩ := List.cons.inj heq
        rcases hm with rfl | rfl <;> decide
    rw [List.nil_append]
    unfold scanFrac
    split
    · rename_i heq
      exact absurd rfl (hdot _ _ heq)
    · rfl
  · simp only [List.cons_append, scanFrac, hd, if_true, scanDigits_append hes (expPart_noDigit hx hr)]

theorem fracPart_noDigit {fp xp r : List Char} (hf : IsFracPart fp) (hx : IsExpPart xp)
    (hr : Stop r) : NoDigit (fp ++ (xp ++ r)) := by
  rcases hf with rfl | ⟨d, es, rfl, _, _⟩
  · rw [List.nil_append]
    exact expPart_noDigit hx hr
  · rintro c cs heq
    obtain ⟨rfl, _⟩ := List.cons.inj heq
    decide

/-- A literal is read whole, its parts apart. -/
theorem scanNumber_append {sg ip fp xp r : List Char} (hsg : sg = [] ∨ sg = ['-'])
    (hip : IsIntPart ip) (hf : IsFracPart fp) (hx : IsExpPart xp) (hr : Stop r) :
    scanNumber (sg ++ (ip ++ (fp ++ (xp ++ r)))) = some ((sg ++ ip, fp ++ xp), r) := by
  simp only [scanNumber, scanSign_append hsg hip, scanInt_append hip (fracPart_noDigit hf hx hr),
    scanFrac_append hf hx hr, scanExp_append hx hr, Option.bind_eq_bind, Option.bind_some]

/-! ## Strings -/

theorem hexVal_digitChar {n : Nat} (h : n < 16) : hexVal (Nat.digitChar n) = some n := by
  interval_cases n <;> decide

theorem hexVal4_hex4 {n : Nat} (h : n < 0x10000) :
    hexVal4 (Nat.digitChar (n / 4096 % 16)) (Nat.digitChar (n / 256 % 16))
      (Nat.digitChar (n / 16 % 16)) (Nat.digitChar (n % 16)) = some n := by
  simp only [hexVal4, hexVal_digitChar (Nat.mod_lt _ (by decide : 0 < 16)),
    Option.bind_eq_bind, Option.bind_some, Option.some.injEq]
  omega

theorem scanUnits_unitEscape {n : Nat} (h : n < 0x10000) (cs : List Char) :
    scanUnits (unitEscape n ++ cs) = (scanUnits cs).map fun p => (n :: p.1, p.2) := by
  simp only [unitEscape, hex4, List.cons_append, List.nil_append, scanUnits, hexVal4_hex4 h]
  cases scanUnits cs <;> rfl

theorem char_toNat_cases (c : Char) :
    c.toNat < 0xd800 ∨ (0xdfff < c.toNat ∧ c.toNat < 0x110000) := by
  have h := c.valid
  simp only [UInt32.isValidChar, Nat.isValidChar] at h
  change c.val.toNat < _ ∨ (_ < c.val.toNat ∧ c.val.toNat < _)
  omega

theorem units_lt (c : Char) : ∀ n ∈ units c, n < 0x10000 := by
  have hc := char_toNat_cases c
  unfold units
  split
  · simpa
  · intro n hn
    simp only [List.mem_cons, List.not_mem_nil, or_false] at hn
    rcases hn with hn | hn <;> omega

theorem scanUnits_flatMap {us : List Nat} (h : ∀ n ∈ us, n < 0x10000) (cs : List Char) :
    scanUnits (us.flatMap unitEscape ++ cs) = (scanUnits cs).map fun p => (us ++ p.1, p.2) := by
  induction us with
  | nil => cases h : scanUnits cs <;> simp [h]
  | cons n us ih =>
    rw [List.flatMap_cons, List.append_assoc, scanUnits_unitEscape (h n (by simp)),
      ih fun m hm => h m (by simp [hm])]
    cases scanUnits cs <;> simp

theorem scanUnits_cons {c : Char} (hq : c ≠ '\x22') (hb : c ≠ '\x5c') (h : 32 ≤ c.toNat)
    (cs : List Char) : scanUnits (c :: cs) = (scanUnits cs).map fun p => (c.toNat :: p.1, p.2) := by
  rw [scanUnits.eq_def]
  split
  · rename_i heq
    cases heq
  · rename_i heq
    exact absurd (List.cons.inj heq).1 hq
  · rename_i heq
    exact absurd (List.cons.inj heq).1 hb
  · rename_i heq
    exact absurd (List.cons.inj heq).1 hb
  · rename_i heq
    obtain ⟨rfl, rfl⟩ := List.cons.inj heq
    rw [if_neg (by simp [hb, h])]
    cases scanUnits cs <;> rfl

/-- An escaped character is read as the units it has. -/
theorem scanUnits_escape (c : Char) (cs : List Char) :
    scanUnits (escape c ++ cs) = (scanUnits cs).map fun p => (units c ++ p.1, p.2) := by
  -- the seven characters with an escape of their own, then the printable ones, then the rest
  have hshort : ∀ (d e : Char), unescape e = some d.toNat → e ≠ 'u' → d.toNat < 0x10000 →
      scanUnits ('\x5c' :: e :: cs) = (scanUnits cs).map fun p => (units d ++ p.1, p.2) := by
    intro d e he hu hd
    rw [scanUnits.eq_4 _ _ (by simp [hu]), he, units, if_pos hd]
    cases scanUnits cs <;> rfl
  unfold escape
  split
  · rename_i h; subst h
    exact hshort _ _ (by decide) (by decide) (by decide)
  split
  · rename_i h; subst h
    exact hshort _ _ (by decide) (by decide) (by decide)
  split
  · rename_i h; subst h
    exact hshort _ _ (by decide) (by decide) (by decide)
  split
  · rename_i h; subst h
    exact hshort _ _ (by decide) (by decide) (by decide)
  split
  · rename_i h; subst h
    exact hshort _ _ (by decide) (by decide) (by decide)
  split
  · rename_i h; subst h
    exact hshort _ _ (by decide) (by decide) (by decide)
  split
  · rename_i h; subst h
    exact hshort _ _ (by decide) (by decide) (by decide)
  split
  · rename_i hq hb _ _ _ _ _ h
    have hlow : c.toNat < 0x10000 := by omega
    rw [List.singleton_append, scanUnits_cons hq hb h.1, units, if_pos hlow]
    rfl
  · exact scanUnits_flatMap (units_lt c) cs

theorem scanUnits_quote (s rest : List Char) :
    scanUnits (s.flatMap escape ++ '\x22' :: rest) = some (s.flatMap units, rest) := by
  induction s with
  | nil => rfl
  | cons c s ih => rw [List.flatMap_cons, List.append_assoc, scanUnits_escape, ih]; rfl

/-- Units of a character are joined to it, whatever follows. -/
theorem joinUnits_units (c : Char) (us : List Nat) :
    joinUnits (units c ++ us) = (joinUnits us).map fun cs => c :: cs := by
  have hc := char_toNat_cases c
  unfold units
  split
  · have hhigh : isHighSurrogate c.toNat = false := by
      simp only [isHighSurrogate, Bool.and_eq_false_iff, decide_eq_false_iff_not]
      omega
    have hlow : isLowSurrogate c.toNat = false := by
      simp only [isLowSurrogate, Bool.and_eq_false_iff, decide_eq_false_iff_not]
      omega
    cases us with
    | nil => simp [joinUnits, hhigh, hlow]
    | cons n us =>
      simp only [List.singleton_append, joinUnits, hhigh, hlow, Char.ofNat_toNat]
      cases joinUnits (n :: us) <;> simp
  · have hhigh : isHighSurrogate (0xd800 + (c.toNat - 0x10000) / 0x400) = true := by
      simp only [isHighSurrogate, Bool.and_eq_true, decide_eq_true_eq]
      omega
    have hlow : isLowSurrogate (0xdc00 + (c.toNat - 0x10000) % 0x400) = true := by
      simp only [isLowSurrogate, Bool.and_eq_true, decide_eq_true_eq]
      omega
    have hback : 0x10000 + (0xd800 + (c.toNat - 0x10000) / 0x400 - 0xd800) * 0x400 +
        (0xdc00 + (c.toNat - 0x10000) % 0x400 - 0xdc00) = c.toNat := by omega
    simp only [List.cons_append, List.nil_append, joinUnits, hhigh, hlow, hback, Char.ofNat_toNat]
    cases joinUnits us <;> simp

theorem joinUnits_flatMap (s : List Char) : joinUnits (s.flatMap units) = some s := by
  induction s with
  | nil => rfl
  | cons c s ih => rw [List.flatMap_cons, joinUnits_units, ih]; rfl

theorem scanString_quote (s : String) (rest : List Char) :
    scanString (s.toList.flatMap escape ++ '\x22' :: rest) = some (s, rest) := by
  simp only [scanString, scanUnits_quote, joinUnits_flatMap, Option.bind_eq_bind, Option.bind_some,
    String.ofList_toList]

/-! ## Values -/

variable {F : Type}

mutual

/-- The fuel the decoder needs for the text of a value. -/
def size : Json F → Nat
  | .arr vs => 1 + sizeItems vs
  | .obj fs => 1 + sizeFields fs
  | _ => 1

def sizeItems : List (Json F) → Nat
  | [] => 0
  | v :: vs => 1 + size v + sizeItems vs

def sizeFields : List (String × Json F) → Nat
  | [] => 0
  | (_, v) :: fs => 1 + size v + sizeFields fs

end

/-- Setting the fields of a `dict` one by one in an empty one gives the same fields. -/
theorem ofPairs_of_nodup {fs : Fields F} (h : (Assoc.keys fs).Nodup) : ofPairs fs = fs := by
  have hset : ∀ (l : Fields F) (k : String) (v : Json F), k ∉ Assoc.keys l →
      Assoc.set l k v = l ++ [(k, v)] := by
    intro l k v hk
    induction l with
    | nil => rfl
    | cons p l ih =>
      obtain ⟨k', v'⟩ := p
      simp only [Assoc.keys, List.map_cons, List.mem_cons, not_or] at hk
      rw [Assoc.set_cons, if_neg (Ne.symm hk.1), ih hk.2]
      rfl
  have hfold : ∀ (l acc : Fields F), (Assoc.keys (acc ++ l)).Nodup →
      l.foldl (fun fs p => Assoc.set fs p.1 p.2) acc = acc ++ l := by
    intro l
    induction l with
    | nil => simp
    | cons p l ih =>
      intro acc hnd
      have hk : p.1 ∉ Assoc.keys acc := by
        simp only [Assoc.keys, List.map_append, List.map_cons, List.nodup_append] at hnd
        intro hmem
        exact hnd.2.2 p.1 hmem p.1 (by simp) rfl
      rw [List.foldl_cons, hset acc p.1 p.2 hk, ih (acc ++ [(p.1, p.2)]) (by simpa using hnd)]
      simp
  exact hfold fs [] h

variable [PyFloat F]

/-- A number starts with a digit, after a minus sign or not. -/
def NumberHead (cs : List Char) : Prop :=
  ∃ d es, d.isDigit = true ∧ (cs = d :: es ∨ cs = '-' :: d :: es)

theorem numberHead_append {sg ip : List Char} (hsg : sg = [] ∨ sg = ['-']) (hip : IsIntPart ip)
    (r : List Char) : NumberHead (sg ++ (ip ++ r)) := by
  obtain ⟨d, es, rfl, hd⟩ := intPart_head hip
  rcases hsg with rfl | rfl
  · exact ⟨d, es ++ r, hd, Or.inl (by simp)⟩
  · exact ⟨d, es ++ r, hd, Or.inr (by simp)⟩

theorem NumberHead.ne {cs : List Char} (h : NumberHead cs) {c : Char} {r : List Char}
    (hc : c.isDigit = false) (hm : c ≠ '-') : cs ≠ c :: r := by
  rintro rfl
  obtain ⟨d, es, hd, heq | heq⟩ := h
  · obtain ⟨rfl, _⟩ := List.cons.inj heq
    rw [hd] at hc
    cases hc
  · exact hm (List.cons.inj heq).1

theorem NumberHead.ne_minus {cs : List Char} (h : NumberHead cs) {c : Char} {r : List Char}
    (hc : c.isDigit = false) : cs ≠ '-' :: c :: r := by
  rintro rfl
  obtain ⟨d, es, hd, heq | heq⟩ := h
  · obtain ⟨rfl, _⟩ := List.cons.inj heq
    exact absurd hd (by decide)
  · obtain ⟨rfl, _⟩ := List.cons.inj (List.cons.inj heq).2
    rw [hd] at hc
    cases hc

theorem parseValue_number {cs : List Char} (h : NumberHead cs) (fuel : Nat) :
    parseValue (F := F) (fuel + 1) cs = match scanNumber cs with
      | some ((ip, []), r) => some (.int (ofIntText ip), r)
      | some ((ip, fx), r) => floatLit (String.ofList (ip ++ fx)) r
      | none => none := by
  unfold parseValue
  split
  case h_10 => rfl
  case h_9 => exact absurd rfl (h.ne_minus (by decide))
  -- the other first characters are neither digits nor a minus sign
  all_goals exact absurd rfl (h.ne (by decide) (by decide))

theorem skipWs_append {gap : List Char} (hgap : ∀ c ∈ gap, isWs c = true) {c : Char}
    (hc : isWs c = false) (cs : List Char) : skipWs (gap ++ c :: cs) = c :: cs := by
  unfold skipWs
  induction gap with
  | nil => simp [hc]
  | cons d gap ih =>
    rw [List.cons_append, List.dropWhile_cons, if_pos (hgap d (by simp))]
    exact ih fun e he => hgap e (by simp [he])

theorem skipWs_cons {c : Char} (hc : isWs c = false) (cs : List Char) :
    skipWs (c :: cs) = c :: cs := by
  have hgap : ∀ d ∈ ([] : List Char), isWs d = true := by simp
  exact skipWs_append hgap hc cs

theorem isWs_of_isDigit {d : Char} (hd : d.isDigit = true) : isWs d = false := by
  have h1 : d ≠ ' ' := isDigit_ne hd (by decide)
  have h2 : d ≠ '\t' := isDigit_ne hd (by decide)
  have h3 : d ≠ '\n' := isDigit_ne hd (by decide)
  have h4 : d ≠ '\r' := isDigit_ne hd (by decide)
  simp [isWs, h1, h2, h3, h4]

/-- The text of a value starts with a character that is neither white space nor a bracket that
closes. -/
theorem dumps_head (gap : List Char) (v : Json F) :
    ∃ c cs, dumps gap v = c :: cs ∧ isWs c = false ∧ c ≠ ']' := by
  have hnum : ∀ {t : List Char}, NumberHead t → ∃ c cs, t = c :: cs ∧ isWs c = false ∧ c ≠ ']' := by
    rintro t ⟨d, es, hd, rfl | rfl⟩
    · exact ⟨d, es, rfl, isWs_of_isDigit hd, isDigit_ne hd (by decide)⟩
    · exact ⟨'-', d :: es, rfl, by decide, by decide⟩
  cases v with
  | null => exact ⟨'n', _, rfl, by decide, by decide⟩
  | bool b =>
    cases b with
    | false => exact ⟨'f', _, rfl, by decide, by decide⟩
    | true => exact ⟨'t', _, rfl, by decide, by decide⟩
  | int n =>
    obtain ⟨sg, ip, heq, hsg, hip⟩ := intText_eq n
    have := numberHead_append hsg hip []
    rw [List.append_nil, ← heq] at this
    simpa only [dumps] using hnum this
  | float x =>
    simp only [dumps]
    rcases PyFloat.jsonText_cases x with ⟨sg, ip, fp, xp, heq, hsg, hip, _⟩ | h | h | h
    · rw [heq]
      exact hnum (numberHead_append hsg hip _)
    · rw [h]
      exact ⟨'I', _, rfl, by decide, by decide⟩
    · rw [h]
      exact ⟨'-', _, rfl, by decide, by decide⟩
    · rw [h]
      exact ⟨'N', _, rfl, by decide, by decide⟩
  | str s => exact ⟨'\x22', _, rfl, by decide, by decide⟩
  | arr vs =>
    cases vs with
    | nil => exact ⟨'[', _, rfl, by decide, by decide⟩
    | cons v vs => exact ⟨'[', _, rfl, by decide, by decide⟩
  | obj fs =>
    rcases fs with _ | ⟨⟨k, v⟩, fs⟩
    · exact ⟨'\x7b', _, rfl, by decide, by decide⟩
    · exact ⟨'\x7b', _, rfl, by decide, by decide⟩

theorem parseValue_int (n : Int) (fuel : Nat) {rest : List Char} (hr : Stop rest) :
    parseValue (F := F) (fuel + 1) (intText n ++ rest) = some (.int n, rest) := by
  obtain ⟨sg, ip, heq, hsg, hip⟩ := intText_eq n
  have hf : IsFracPart [] := Or.inl rfl
  have hx : IsExpPart [] := Or.inl rfl
  have hscan := scanNumber_append hsg hip hf hx hr
  have hhead : NumberHead (intText n ++ rest) := by
    rw [heq, List.append_assoc]
    exact numberHead_append hsg hip rest
  rw [parseValue_number hhead]
  simp only [List.nil_append] at hscan
  rw [heq, List.append_assoc, hscan]
  simp only [← heq, ofIntText_intText]

theorem parseValue_float (x : F) (fuel : Nat) {rest : List Char} (hr : Stop rest) :
    parseValue (fuel + 1) ((PyFloatOps.jsonText x).toList ++ rest) = some (.float x, rest) := by
  have hread := PyFloat.ofStr_jsonText x
  rcases PyFloat.jsonText_cases x with ⟨sg, ip, fp, xp, heq, hsg, hip, hfp, hxp, hne⟩ | h | h | h
  · have hscan := scanNumber_append hsg hip hfp hxp hr
    have hhead : NumberHead ((PyFloatOps.jsonText x).toList ++ rest) := by
      rw [heq, List.append_assoc, List.append_assoc]
      exact numberHead_append hsg hip _
    have htext : String.ofList (sg ++ ip ++ (fp ++ xp)) = PyFloatOps.jsonText x := by
      rw [List.append_assoc, ← heq, String.ofList_toList]
    have hassoc : sg ++ (ip ++ (fp ++ xp)) ++ rest = sg ++ (ip ++ (fp ++ (xp ++ rest))) := by simp
    rw [parseValue_number hhead, heq, hassoc, hscan]
    obtain ⟨c, cs, hcons⟩ := List.exists_cons_of_ne_nil hne
    rw [hcons] at htext ⊢
    simp only [htext, floatLit, hread, Option.map_some]
  · rw [h] at hread ⊢
    simp [parseValue, floatLit, hread]
  · rw [h] at hread ⊢
    simp [parseValue, floatLit, hread]
  · rw [h] at hread ⊢
    simp [parseValue, floatLit, hread]

theorem dumpsItems_stop (gap : List Char) (vs : List (Json F)) (rest : List Char) :
    Stop (dumpsItems gap vs ++ rest) := by
  cases vs with
  | nil => exact Or.inr ⟨']', rest, by simp [dumpsItems], by simp⟩
  | cons v vs => exact Or.inr ⟨',', _, by simp only [dumpsItems, List.cons_append]; rfl, by simp⟩

theorem dumpsFields_stop (gap : List Char) (fs : Fields F) (rest : List Char) :
    Stop (dumpsFields gap fs ++ rest) := by
  rcases fs with _ | ⟨⟨k, v⟩, fs⟩
  · exact Or.inr ⟨'\x7d', rest, by simp [dumpsFields], by simp⟩
  · exact Or.inr ⟨',', _, by simp only [dumpsFields, List.cons_append]; rfl, by simp⟩

/-- What the decoder reads back with a given fuel: every value, every array from an element on
and every object from a field on that the fuel is enough for. -/
structure ReadsBack (F : Type) [PyFloat F] (gap : List Char) (fuel : Nat) : Prop where
  value (v : Json F) (rest : List Char) : v.wf = true → size v ≤ fuel → Stop rest →
    parseValue fuel (dumps gap v ++ rest) = some (v, rest)
  items (v : Json F) (vs : List (Json F)) (rest : List Char) : v.wf = true →
    wfItems vs = true → sizeItems (v :: vs) ≤ fuel →
    parseItems fuel (dumps gap v ++ (dumpsItems gap vs ++ rest)) = some (v :: vs, rest)
  fields (k : String) (v : Json F) (fs : Fields F) (rest : List Char) : v.wf = true →
    wfFields fs = true → sizeFields ((k, v) :: fs) ≤ fuel →
    parseFields fuel (quote k ++ ':' :: (gap ++ (dumps gap v ++ (dumpsFields gap fs ++ rest)))) =
      some ((k, v) :: fs, rest)

variable {gap : List Char}

theorem ReadsBack.value_succ {fuel : Nat} (ih : ReadsBack F gap fuel) (v : Json F)
    (rest : List Char) (hwf : v.wf = true) (hsize : size v ≤ fuel + 1) (hr : Stop rest) :
    parseValue (fuel + 1) (dumps gap v ++ rest) = some (v, rest) := by
  cases v with
  | null => simp [dumps, parseValue]
  | bool b => cases b <;> simp [dumps, parseValue]
  | int n => exact parseValue_int n fuel hr
  | float x => exact parseValue_float x fuel hr
  | str s =>
    have hshape : dumps (F := F) gap (.str s) ++ rest =
        '\x22' :: (s.toList.flatMap escape ++ '\x22' :: rest) := by simp [dumps, quote]
    rw [hshape, parseValue, scanString_quote]
    rfl
  | arr vs =>
    cases vs with
    | nil => simp [dumps, parseValue, skipWs, isWs]
    | cons v vs =>
      simp only [wf, wfItems, Bool.and_eq_true] at hwf
      simp only [size] at hsize
      have hitems := ih.items v vs rest hwf.1 hwf.2 (by omega)
      obtain ⟨c, cs, hhead, hws, hne⟩ := dumps_head gap v
      have hshape : dumps gap (.arr (v :: vs)) ++ rest =
          '[' :: (dumps gap v ++ (dumpsItems gap vs ++ rest)) := by simp [dumps]
      rw [hshape, parseValue]
      rw [hhead, List.cons_append] at hitems ⊢
      rw [skipWs_cons hws]
      split
      · rename_i heq
        exact absurd (List.cons.inj heq).1 hne
      · rw [hitems]
        rfl
  | obj fs =>
    rcases fs with _ | ⟨⟨k, v⟩, fs⟩
    · simp [dumps, parseValue, skipWs, isWs]
    · simp only [wf, wfFields, Bool.and_eq_true, decide_eq_true_eq] at hwf
      simp only [size] at hsize
      have hfields := ih.fields k v fs rest hwf.2.1 hwf.2.2 (by omega)
      have hshape : dumps gap (.obj ((k, v) :: fs)) ++ rest = '\x7b' ::
          (quote k ++ ':' :: (gap ++ (dumps gap v ++ (dumpsFields gap fs ++ rest)))) := by
        simp [dumps]
      rw [hshape, parseValue]
      rw [quote, List.cons_append] at hfields ⊢
      rw [skipWs_cons (by decide)]
      split
      · rename_i heq
        exact absurd (List.cons.inj heq).1 (by decide)
      · simp only [hfields, Option.map_some, ofPairs_of_nodup hwf.1]

theorem ReadsBack.items_succ {fuel : Nat} (hgap : ∀ c ∈ gap, isWs c = true)
    (ih : ReadsBack F gap fuel) (v : Json F) (vs : List (Json F)) (rest : List Char)
    (hwf : v.wf = true) (hwfs : wfItems vs = true) (hsize : sizeItems (v :: vs) ≤ fuel + 1) :
    parseItems (fuel + 1) (dumps gap v ++ (dumpsItems gap vs ++ rest)) = some (v :: vs, rest) := by
  simp only [sizeItems] at hsize
  have hvalue := ih.value v _ hwf (by omega) (dumpsItems_stop gap vs rest)
  rw [parseItems, hvalue]
  cases vs with
  | nil => simp [dumpsItems, skipWs, isWs]
  | cons w ws =>
    simp only [wfItems, Bool.and_eq_true] at hwfs
    simp only [sizeItems] at hsize
    have hitems := ih.items w ws rest hwfs.1 hwfs.2 (by simp only [sizeItems]; omega)
    obtain ⟨c, cs, hhead, hws, _⟩ := dumps_head gap w
    have hshape : dumpsItems gap (w :: ws) ++ rest =
        ',' :: (gap ++ (dumps gap w ++ (dumpsItems gap ws ++ rest))) := by simp [dumpsItems]
    simp only [hshape, Option.bind_eq_bind, Option.bind_some, skipWs_cons (c := ',') (by decide)]
    rw [hhead, List.cons_append] at hitems ⊢
    rw [skipWs_append hgap hws, hitems, Option.bind_some]

theorem ReadsBack.fields_succ {fuel : Nat} (hgap : ∀ c ∈ gap, isWs c = true)
    (ih : ReadsBack F gap fuel) (k : String) (v : Json F) (fs : Fields F) (rest : List Char)
    (hwf : v.wf = true) (hwfs : wfFields fs = true)
    (hsize : sizeFields ((k, v) :: fs) ≤ fuel + 1) :
    parseFields (fuel + 1) (quote k ++ ':' :: (gap ++ (dumps gap v ++ (dumpsFields gap fs ++ rest)))) =
      some ((k, v) :: fs, rest) := by
  simp only [sizeFields] at hsize
  have hvalue := ih.value v _ hwf (by omega) (dumpsFields_stop gap fs rest)
  obtain ⟨c, cs, hhead, hws, _⟩ := dumps_head gap v
  have hkey : ∀ r : List Char, quote k ++ r = '\x22' :: (k.toList.flatMap escape ++ '\x22' :: r) := by
    intro r
    simp [quote]
  rw [hkey, parseFields, scanString_quote]
  simp only [Option.bind_eq_bind, Option.bind_some, skipWs_cons (c := ':') (by decide)]
  rw [hhead, List.cons_append] at hvalue ⊢
  rw [skipWs_append hgap hws, hvalue, Option.bind_some]
  rcases fs with _ | ⟨⟨l, w⟩, fs⟩
  · simp [dumpsFields, skipWs, isWs]
  · simp only [wfFields, Bool.and_eq_true] at hwfs
    simp only [sizeFields] at hsize
    have hfields := ih.fields l w fs rest hwfs.1 hwfs.2 (by simp only [sizeFields]; omega)
    have hshape : dumpsFields gap ((l, w) :: fs) ++ rest = ',' :: (gap ++
        (quote l ++ ':' :: (gap ++ (dumps gap w ++ (dumpsFields gap fs ++ rest))))) := by
      simp [dumpsFields]
    simp only [hshape, skipWs_cons (c := ',') (by decide)]
    rw [quote, List.cons_append] at hfields ⊢
    rw [skipWs_append hgap (by decide), hfields, Option.bind_some]

/-- Reading back, by induction on the fuel. -/
theorem readsBack (hgap : ∀ c ∈ gap, isWs c = true) (fuel : Nat) : ReadsBack F gap fuel := by
  induction fuel with
  | zero =>
    refine ⟨fun v rest _ h _ => ?_, fun v vs rest _ _ h => ?_, fun k v fs rest _ _ h => ?_⟩
    · cases v <;> simp [size] at h
    · simp [sizeItems] at h
    · simp [sizeFields] at h
  | succ fuel ih => exact ⟨ih.value_succ, ih.items_succ hgap, ih.fields_succ hgap⟩

mutual

/-- The text of a value is at least as long as the fuel it needs. -/
theorem size_le_length (gap : List Char) : (v : Json F) → size v ≤ (dumps gap v).length
  | .arr [] => by simp [size, sizeItems, dumps]
  | .arr (v :: vs) => by
    have h1 := size_le_length gap v
    have h2 := sizeItems_le_length gap vs
    simp only [size, sizeItems, dumps, List.length_cons, List.length_append]
    omega
  | .obj [] => by simp [size, sizeFields, dumps]
  | .obj ((k, v) :: fs) => by
    have h1 := size_le_length gap v
    have h2 := sizeFields_le_length gap fs
    simp only [size, sizeFields, dumps, List.length_cons, List.length_append]
    omega
  | .null => by simp [size, dumps]
  | .bool b => by cases b <;> simp [size, dumps]
  | .int n => by
    obtain ⟨c, cs, h, _⟩ := dumps_head gap (.int n : Json F)
    rw [h]
    simp [size]
  | .float x => by
    obtain ⟨c, cs, h, _⟩ := dumps_head gap (.float x)
    rw [h]
    simp [size]
  | .str s => by simp [size, dumps, quote]

theorem sizeItems_le_length (gap : List Char) :
    (vs : List (Json F)) → sizeItems vs + 1 ≤ (dumpsItems gap vs).length
  | [] => by simp [sizeItems, dumpsItems]
  | v :: vs => by
    have h1 := size_le_length gap v
    have h2 := sizeItems_le_length gap vs
    simp only [sizeItems, dumpsItems, List.length_cons, List.length_append]
    omega

theorem sizeFields_le_length (gap : List Char) :
    (fs : List (String × Json F)) → sizeFields fs + 1 ≤ (dumpsFields gap fs).length
  | [] => by simp [sizeFields, dumpsFields]
  | (k, v) :: fs => by
    have h1 := size_le_length gap v
    have h2 := sizeFields_le_length gap fs
    simp only [sizeFields, dumpsFields, List.length_cons, List.length_append]
    omega

end

/-- Decoding the text of a value gives the value back. -/
theorem loads_dumps (hgap : ∀ c ∈ gap, isWs c = true) {v : Json F} (hwf : v.wf = true) :
    loads (dumps gap v) = some v := by
  obtain ⟨c, cs, hhead, hws, _⟩ := dumps_head gap v
  have hread := (readsBack hgap ((dumps gap v).length + 1)).value v [] hwf
    (by have := size_le_length gap v; omega) (Or.inl rfl)
  have hskip : skipWs (dumps gap v) = dumps gap v := by
    rw [hhead]
    exact skipWs_cons hws cs
  rw [List.append_nil] at hread
  simp only [loads, hskip, hread, Option.bind_eq_bind, Option.bind_some]
  rfl

theorem loads_toText {v : Json F} (hwf : v.wf = true) : loads (toText v) = some v :=
  loads_dumps (by simp [isWs]) hwf

/-! ## The text is one line -/

/-- Neither a line feed nor a carriage return. -/
def Inline (c : Char) : Prop := c ≠ '\n' ∧ c ≠ '\r'

theorem inline_of_isDigit {c : Char} (h : c.isDigit = true) : Inline c :=
  ⟨isDigit_ne h (by decide), isDigit_ne h (by decide)⟩

theorem inline_intPart {sg ip : List Char} (hsg : sg = [] ∨ sg = ['-']) (hip : IsIntPart ip) :
    ∀ c ∈ sg ++ ip, Inline c := by
  intro c hc
  rcases List.mem_append.mp hc with hc | hc
  · rcases hsg with rfl | rfl
    · simp at hc
    · rw [List.mem_singleton.mp hc]
      exact ⟨by decide, by decide⟩
  · rcases hip with rfl | ⟨d, es, rfl, _, hd, hes⟩
    · rw [List.mem_singleton.mp hc]
      exact ⟨by decide, by decide⟩
    · rcases List.mem_cons.mp hc with rfl | hc
      · exact inline_of_isDigit hd
      · exact inline_of_isDigit (hes c hc)

theorem inline_fracPart {fp : List Char} (h : IsFracPart fp) : ∀ c ∈ fp, Inline c := by
  intro c hc
  rcases h with rfl | ⟨d, es, rfl, hd, hes⟩
  · simp at hc
  · simp only [List.mem_cons] at hc
    rcases hc with rfl | rfl | hc
    · exact ⟨by decide, by decide⟩
    · exact inline_of_isDigit hd
    · exact inline_of_isDigit (hes c hc)

theorem inline_expPart {xp : List Char} (h : IsExpPart xp) : ∀ c ∈ xp, Inline c := by
  intro c hc
  rcases h with rfl | ⟨m, sg, d, es, rfl, hm, hsg, hd, hes⟩
  · simp at hc
  · simp only [List.mem_cons, List.mem_append] at hc
    rcases hc with rfl | hc | rfl | hc
    · rcases hm with rfl | rfl <;> exact ⟨by decide, by decide⟩
    · rcases hsg with rfl | rfl | rfl
      · simp at hc
      · rw [List.mem_singleton.mp hc]
        exact ⟨by decide, by decide⟩
      · rw [List.mem_singleton.mp hc]
        exact ⟨by decide, by decide⟩
    · exact inline_of_isDigit hd
    · exact inline_of_isDigit (hes c hc)

theorem inline_jsonText (x : F) : ∀ c ∈ (PyFloatOps.jsonText x).toList, Inline c := by
  have hword : ∀ t ∈ ["Infinity", "-Infinity", "NaN"], ∀ c ∈ t.toList, Inline c := by
    simp [Inline]
  intro c hc
  rcases PyFloat.jsonText_cases x with ⟨sg, ip, fp, xp, heq, hsg, hip, hfp, hxp, _⟩ | h | h | h
  · rw [heq] at hc
    simp only [List.mem_append] at hc
    rcases hc with hc | hc | hc | hc
    · exact inline_intPart hsg hip c (by simp [hc])
    · exact inline_intPart hsg hip c (by simp [hc])
    · exact inline_fracPart hfp c hc
    · exact inline_expPart hxp c hc
  · exact hword _ (by simp) c (h ▸ hc)
  · exact hword _ (by simp) c (h ▸ hc)
  · exact hword _ (by simp) c (h ▸ hc)

theorem inline_unitEscape (n : Nat) : ∀ c ∈ unitEscape n, Inline c := by
  have hdigit : ∀ m < 16, Inline (Nat.digitChar m) := by
    unfold Inline
    decide
  intro c hc
  simp only [unitEscape, hex4, List.mem_cons, List.not_mem_nil, or_false] at hc
  rcases hc with rfl | rfl | rfl | rfl | rfl | rfl
  · exact ⟨by decide, by decide⟩
  · exact ⟨by decide, by decide⟩
  all_goals exact hdigit _ (Nat.mod_lt _ (by decide))

theorem inline_escape (d : Char) : ∀ c ∈ escape d, Inline c := by
  have hshort : ∀ e ∈ ['\x22', '\x5c', 'n', 'r', 't', 'f', 'b'], ∀ c ∈ ['\x5c', e], Inline c := by
    simp [Inline]
  unfold escape
  split; · exact hshort _ (by simp)
  split; · exact hshort _ (by simp)
  split; · exact hshort _ (by simp)
  split; · exact hshort _ (by simp)
  split; · exact hshort _ (by simp)
  split; · exact hshort _ (by simp)
  split; · exact hshort _ (by simp)
  split
  · rename_i hn hr _ _ _ _
    intro c hc
    rw [List.mem_singleton.mp hc]
    exact ⟨hn, hr⟩
  · intro c hc
    obtain ⟨n, _, hn⟩ := List.mem_flatMap.mp hc
    exact inline_unitEscape n c hn

theorem inline_quote (s : String) : ∀ c ∈ quote s, Inline c := by
  intro c hc
  simp only [quote, List.mem_cons, List.mem_append, List.not_mem_nil, or_false] at hc
  rcases hc with rfl | hc | rfl
  · exact ⟨by decide, by decide⟩
  · obtain ⟨d, _, hd⟩ := List.mem_flatMap.mp hc
    exact inline_escape d c hd
  · exact ⟨by decide, by decide⟩

theorem inline_append {a b : List Char} (ha : ∀ c ∈ a, Inline c) (hb : ∀ c ∈ b, Inline c) :
    ∀ c ∈ a ++ b, Inline c := by
  intro c hc
  rcases List.mem_append.mp hc with hc | hc
  · exact ha c hc
  · exact hb c hc

theorem inline_cons {a : Char} {b : List Char} (ha : Inline a) (hb : ∀ c ∈ b, Inline c) :
    ∀ c ∈ a :: b, Inline c :=
  inline_append (a := [a]) (by simpa using ha) hb

section

variable (hgap : ∀ c ∈ gap, Inline c)

include hgap

mutual

theorem inline_dumps : (v : Json F) → ∀ c ∈ dumps gap v, Inline c
  | .arr [] => by
    unfold Inline
    simp [dumps]
  | .arr (v :: vs) => by
    simp only [dumps]
    exact inline_cons ⟨by decide, by decide⟩
      (inline_append (inline_dumps v) (inline_dumpsItems vs))
  | .obj [] => by
    unfold Inline
    simp [dumps]
  | .obj ((k, v) :: fs) => by
    simp only [dumps]
    exact inline_cons ⟨by decide, by decide⟩ (inline_append (inline_quote k)
      (inline_cons ⟨by decide, by decide⟩
        (inline_append hgap (inline_append (inline_dumps v) (inline_dumpsFields fs)))))
  | .null => by
    unfold Inline
    simp [dumps]
  | .bool b => by
    unfold Inline
    cases b <;> simp [dumps]
  | .int n => by
    obtain ⟨sg, ip, heq, hsg, hip⟩ := intText_eq n
    simp only [dumps, heq]
    exact inline_intPart hsg hip
  | .float x => by
    simp only [dumps]
    exact inline_jsonText x
  | .str s => by
    simp only [dumps]
    exact inline_quote s

theorem inline_dumpsItems : (vs : List (Json F)) → ∀ c ∈ dumpsItems gap vs, Inline c
  | [] => by
    unfold Inline
    simp [dumpsItems]
  | v :: vs => by
    simp only [dumpsItems]
    exact inline_cons ⟨by decide, by decide⟩
      (inline_append hgap (inline_append (inline_dumps v) (inline_dumpsItems vs)))

theorem inline_dumpsFields : (fs : List (String × Json F)) → ∀ c ∈ dumpsFields gap fs, Inline c
  | [] => by
    unfold Inline
    simp [dumpsFields]
  | (k, v) :: fs => by
    simp only [dumpsFields]
    exact inline_cons ⟨by decide, by decide⟩ (inline_append hgap (inline_append (inline_quote k)
      (inline_cons ⟨by decide, by decide⟩
        (inline_append hgap (inline_append (inline_dumps v) (inline_dumpsFields fs))))))

end

end

theorem inline_toText (v : Json F) : ∀ c ∈ toText v, Inline c := by
  have hgap : ∀ c ∈ [' '], Inline c := by simp [Inline]
  exact inline_dumps hgap v

theorem dumpsFields_last (gap : List Char) (fs : Fields F) :
    ∃ m, dumpsFields gap fs = m ++ ['\x7d'] := by
  induction fs with
  | nil => exact ⟨[], rfl⟩
  | cons p fs ih =>
    obtain ⟨k, v⟩ := p
    obtain ⟨m, hm⟩ := ih
    exact ⟨_, by simp only [dumpsFields, hm, ← List.append_assoc, ← List.cons_append]; rfl⟩

/-- The text of an object starts and ends with its braces. -/
theorem toText_obj (fs : Fields F) : ∃ m, toText (.obj fs) = '\x7b' :: (m ++ ['\x7d']) := by
  rcases fs with _ | ⟨⟨k, v⟩, fs⟩
  · exact ⟨[], rfl⟩
  · obtain ⟨m, hm⟩ := dumpsFields_last [' '] fs
    refine ⟨quote k ++ ':' :: ([' '] ++ (dumps [' '] v ++ m)), ?_⟩
    simp [toText, dumps, hm]

end Json

end NexusC2
