import Mathlib.Data.List.Basic
import Mathlib.Data.List.TakeWhile
import Mathlib.Tactic.Basic

/-!
# Regular expressions that backtrack

A regular expression is run at a position of a text and gives every way it can match there, in the
order a backtracking matcher tries them (`Regex.run`). A pattern has one group (`Pattern`), and
`Pattern.search` gives its leftmost match. What is said of a match is read off its expression: what
it never takes (`Regex.Avoids`), what it begins with (`Regex.Begins`), and that it matches anywhere
(`Regex.Total`).
-/

namespace NexusC2

variable {α : Type}

/-- Two parts of a text. -/
structure Split (text : List α) where
  taken : List α
  rest : List α
  joined : taken ++ rest = text
  deriving DecidableEq

namespace Split

variable {text : List α}

/-- The first `n` characters and the others. -/
def cut (text : List α) (n : Nat) : Split text :=
  ⟨text.take n, text.drop n, List.take_append_drop n text⟩

/-- Nothing is taken. -/
def none (text : List α) : Split text := ⟨[], text, rfl⟩

/-- More is taken of what is left. -/
def more (a : Split text) (b : Split a.rest) : Split text :=
  ⟨a.taken ++ b.taken, b.rest, by rw [List.append_assoc, b.joined, a.joined]⟩

/-- The character left of what is left, where `prev` stands left of the text. -/
def last (a : Split text) (prev : Option α) : Option α := a.taken.getLast?.or prev

/-- The splits of a text from left to right. -/
def all (text : List α) : List (Split text) := (List.range (text.length + 1)).map (cut text)

end Split

/-- A regular expression over characters. -/
inductive Regex (α : Type) where
  | empty
  /-- One character of a class. -/
  | chr (p : α → Bool)
  /-- `[..]{lo,hi}`, with no bound for `none`; a `?` behind it makes it lazy. -/
  | rep (p : α → Bool) (lo : Nat) (hi : Option Nat) (greedy : Bool)
  | seq (r s : Regex α)
  | alt (r s : Regex α)
  /-- `\b`. -/
  | boundary (isWord : α → Bool)
  /-- `(?=..)`. -/
  | look (r : Regex α)
  /-- `$`: the end of the text, or of what stands before a last line feed. -/
  | finish (isBreak : α → Bool)

namespace Regex

/-- How many characters of a class stand there, up to the bound. -/
def reach (p : α → Bool) (hi : Option Nat) (text : List α) : Nat :=
  match hi with
  | none => (text.takeWhile p).length
  | some n => min n (text.takeWhile p).length

/-- Every match at the beginning of the text, in the order in which they are tried; `prev` is the
character left of the text. -/
def run : Regex α → Option α → (text : List α) → List (Split text)
  | empty, _, text => [.none text]
  | chr _, _, [] => []
  | chr p, _, c :: cs => if p c then [⟨[c], cs, rfl⟩] else []
  | rep p lo hi greedy, _, text =>
    let lengths := List.range' lo (reach p hi text + 1 - lo)
    (if greedy then lengths.reverse else lengths).map (Split.cut text)
  | seq r s, prev, text => (run r prev text).flatMap fun a => (run s (a.last prev) a.rest).map a.more
  | alt r s, prev, text => run r prev text ++ run s prev text
  | boundary isWord, prev, text => if prev.any isWord = text.head?.any isWord then [] else [.none text]
  | look r, prev, text => if (run r prev text).isEmpty then [] else [.none text]
  | finish isBreak, _, text =>
    match text with
    | [] => [.none []]
    | [c] => if isBreak c then [.none [c]] else []
    | _ :: _ :: _ => []

/-- `(?:..)?`. -/
def opt (r : Regex α) : Regex α := alt r empty

/-- One expression after the other. -/
def seqs : List (Regex α) → Regex α
  | [] => empty
  | r :: rs => seq r (seqs rs)

/-- One of several expressions. -/
def alts (r : Regex α) : List (Regex α) → Regex α
  | [] => r
  | s :: rs => alt r (alts s rs)

/-! ## What a match takes -/

/-- No match takes a character of the class. -/
def Avoids (q : α → Bool) : Regex α → Prop
  | chr p => ∀ c, p c = true → q c = false
  | rep p _ _ _ => ∀ c, p c = true → q c = false
  | seq r s => r.Avoids q ∧ s.Avoids q
  | alt r s => r.Avoids q ∧ s.Avoids q
  | _ => True

/-- Every match takes something, and first of all a character of the class. -/
def Begins (q : α → Bool) : Regex α → Prop
  | chr p => ∀ c, p c = true → q c = true
  | rep p lo _ _ => 0 < lo ∧ ∀ c, p c = true → q c = true
  | seq r s => r.Begins q ∨ (r.Avoids (fun c => !q c) ∧ s.Begins q)
  | alt r s => r.Begins q ∧ s.Begins q
  | _ => False

/-- There is a match anywhere. -/
def Total : Regex α → Prop
  | empty => True
  | rep _ lo _ _ => lo = 0
  | seq r s => r.Total ∧ s.Total
  | alt r s => r.Total ∨ s.Total
  | _ => False

variable {r s : Regex α} {prev : Option α} {text : List α} {p q : α → Bool}

@[simp] theorem avoids_opt : (opt r).Avoids q ↔ r.Avoids q := and_iff_left trivial

@[simp] theorem avoids_seqs {rs : List (Regex α)} :
    (seqs rs).Avoids q ↔ ∀ r ∈ rs, r.Avoids q := by
  induction rs with
  | nil => simp [seqs, Avoids]
  | cons r rs ih => simp [seqs, Avoids, ih]

@[simp] theorem avoids_alts {rs : List (Regex α)} :
    (alts r rs).Avoids q ↔ r.Avoids q ∧ ∀ s ∈ rs, s.Avoids q := by
  induction rs generalizing r with
  | nil => simp [alts]
  | cons s rs ih => simp [alts, Avoids, ih]

@[simp] theorem begins_alts {rs : List (Regex α)} :
    (alts r rs).Begins q ↔ r.Begins q ∧ ∀ s ∈ rs, s.Begins q := by
  induction rs generalizing r with
  | nil => simp [alts]
  | cons s rs ih => simp [alts, Begins, ih]

theorem mem_run_boundary {isWord : α → Bool} {a : Split text} :
    a ∈ (boundary isWord).run prev text ↔
      prev.any isWord ≠ text.head?.any isWord ∧ a = .none text := by
  rw [run]
  split <;> simp [*]

theorem mem_run_chr {a : Split text} (h : a ∈ (chr p).run prev text) :
    ∃ c, a.taken = [c] ∧ p c = true := by
  cases text with
  | nil => cases h
  | cons c cs =>
    rw [run] at h
    split at h
    · obtain rfl := List.mem_singleton.mp h
      exact ⟨c, rfl, ‹_›⟩
    · cases h

theorem mem_run_seq {a : Split text} : a ∈ (seq r s).run prev text ↔
    ∃ b ∈ r.run prev text, ∃ c ∈ s.run (b.last prev) b.rest, a = b.more c := by
  simp only [run, List.mem_flatMap, List.mem_map, eq_comm]

theorem reach_le (p : α → Bool) (hi : Option Nat) (text : List α) :
    reach p hi text ≤ (text.takeWhile p).length := by
  unfold reach
  split
  · exact Nat.le_refl _
  · exact Nat.min_le_right _ _

theorem mem_run_rep {lo : Nat} {hi : Option Nat} {greedy : Bool} {a : Split text} :
    a ∈ (rep p lo hi greedy).run prev text ↔
      ∃ n, lo ≤ n ∧ n ≤ reach p hi text ∧ a = Split.cut text n := by
  have hmem : ∀ n, n ∈ (if greedy then (List.range' lo (reach p hi text + 1 - lo)).reverse
      else List.range' lo (reach p hi text + 1 - lo)) ↔ lo ≤ n ∧ n ≤ reach p hi text := by
    intro n
    split <;> simp only [List.mem_reverse, List.mem_range'_1] <;> omega
  simp only [run, List.mem_map, hmem, and_assoc, eq_comm]

/-- What a repeated class can take is of the class. -/
theorem take_eq_takeWhile {n : Nat} (h : n ≤ (text.takeWhile p).length) :
    text.take n = (text.takeWhile p).take n := by
  conv_lhs => rw [← List.takeWhile_append_dropWhile (p := p) (l := text)]
  exact List.take_append_of_le_length h

/-- Where the class goes on, one more character of it stands there. -/
theorem drop_eq_cons {n : Nat} (h : n < (text.takeWhile p).length) :
    ∃ c cs, text.drop n = c :: cs ∧ p c = true := by
  have hdrop : text.drop n = (text.takeWhile p).drop n ++ text.dropWhile p := by
    conv_lhs => rw [← List.takeWhile_append_dropWhile (p := p) (l := text)]
    exact List.drop_append_of_le_length (Nat.le_of_lt h)
  have hne : (text.takeWhile p).drop n ≠ [] := by
    intro hnil
    have := List.drop_eq_nil_iff.mp hnil
    omega
  obtain ⟨c, cs, hcons⟩ := List.exists_cons_of_ne_nil hne
  refine ⟨c, cs ++ text.dropWhile p, by rw [hdrop, hcons]; rfl, ?_⟩
  exact List.mem_takeWhile_imp (List.mem_of_mem_drop (hcons ▸ List.mem_cons_self))

/-- Behind all of the class stands nothing of it. -/
theorem drop_takeWhile {c : α} (h : (text.drop (text.takeWhile p).length).head? = some c) :
    p c = false := by
  have hdrop : (text.takeWhile p ++ text.dropWhile p).drop (text.takeWhile p).length =
      text.dropWhile p := List.drop_left
  rw [List.takeWhile_append_dropWhile] at hdrop
  rw [hdrop] at h
  have hne : text.dropWhile p ≠ [] := by
    intro hnil
    rw [hnil] at h
    cases h
  have hhead := List.head_dropWhile_not p hne
  rw [List.head?_eq_some_head hne] at h
  rw [Option.some.inj h] at hhead
  simpa using hhead

/-- What a repeated class takes is of the class. -/
theorem of_mem_run_rep {lo : Nat} {hi : Option Nat} {greedy : Bool} {a : Split text}
    (h : a ∈ (rep p lo hi greedy).run prev text) :
    (∀ c ∈ a.taken, p c = true) ∧ lo ≤ a.taken.length := by
  obtain ⟨n, hlo, hhi, rfl⟩ := mem_run_rep.mp h
  have htake : text.take n = (text.takeWhile p).take n :=
    take_eq_takeWhile (Nat.le_trans hhi (reach_le p hi text))
  constructor
  · intro c hc
    have hc : c ∈ text.take n := hc
    rw [htake] at hc
    exact List.mem_takeWhile_imp (List.mem_of_mem_take hc)
  · show lo ≤ (text.take n).length
    rw [htake, List.length_take]
    have := reach_le p hi text
    omega

theorem avoids_of_mem_run {a : Split text} (h : r.Avoids q) (ha : a ∈ r.run prev text) :
    ∀ c ∈ a.taken, q c = false := by
  induction r generalizing prev text with
  | empty =>
    obtain rfl := List.mem_singleton.mp ha
    intro c hc
    cases hc
  | chr p =>
    obtain ⟨d, htaken, hd⟩ := mem_run_chr ha
    intro c hc
    rw [htaken] at hc
    obtain rfl := List.mem_singleton.mp hc
    exact h c hd
  | rep p lo hi greedy => exact fun c hc => h c ((of_mem_run_rep ha).1 c hc)
  | seq r s ihr ihs =>
    obtain ⟨b, hb, d, hd, rfl⟩ := mem_run_seq.mp ha
    intro c hc
    rcases List.mem_append.mp hc with hc | hc
    · exact ihr h.1 hb c hc
    · exact ihs h.2 hd c hc
  | alt r s ihr ihs =>
    rcases List.mem_append.mp ha with ha | ha
    · exact ihr h.1 ha
    · exact ihs h.2 ha
  | boundary isWord =>
    obtain ⟨-, rfl⟩ := mem_run_boundary.mp ha
    intro c hc
    cases hc
  | look r =>
    rw [run] at ha
    split at ha
    · cases ha
    · obtain rfl := List.mem_singleton.mp ha
      intro c hc
      cases hc
  | finish isBreak =>
    have hnone : a.taken = [] := by
      unfold run at ha
      split at ha
      · obtain rfl := List.mem_singleton.mp ha
        rfl
      · split at ha
        · obtain rfl := List.mem_singleton.mp ha
          rfl
        · cases ha
      · cases ha
    intro c hc
    rw [hnone] at hc
    cases hc

theorem begins_of_mem_run {a : Split text} (h : r.Begins q) (ha : a ∈ r.run prev text) :
    ∃ c cs, a.taken = c :: cs ∧ q c = true := by
  induction r generalizing prev text with
  | chr p =>
    obtain ⟨d, htaken, hd⟩ := mem_run_chr ha
    exact ⟨d, [], htaken, h d hd⟩
  | rep p lo hi greedy =>
    obtain ⟨hclass, hlen⟩ := of_mem_run_rep ha
    cases htaken : a.taken with
    | nil =>
      rw [htaken] at hlen
      have hlo : 0 < lo := h.1
      simp only [List.length_nil] at hlen
      omega
    | cons c cs => exact ⟨c, cs, rfl, h.2 c (hclass c (htaken ▸ List.mem_cons_self))⟩
  | seq r s ihr ihs =>
    obtain ⟨b, hb, d, hd, rfl⟩ := mem_run_seq.mp ha
    rcases h with h | ⟨havoids, h⟩
    · obtain ⟨c, cs, htaken, hc⟩ := ihr h hb
      exact ⟨c, cs ++ d.taken, by simp [Split.more, htaken], hc⟩
    · obtain ⟨c, cs, htaken, hc⟩ := ihs h hd
      cases hb' : b.taken with
      | nil => exact ⟨c, cs, by simp [Split.more, htaken, hb'], hc⟩
      | cons e es =>
        have he := avoids_of_mem_run havoids hb e (hb' ▸ List.mem_cons_self)
        exact ⟨e, es ++ d.taken, by simp [Split.more, hb'], by simpa using he⟩
  | alt r s ihr ihs =>
    rcases List.mem_append.mp ha with ha | ha
    · exact ihr h.1 ha
    · exact ihs h.2 ha
  | empty => exact h.elim
  | boundary isWord => exact h.elim
  | look r => exact h.elim
  | finish isBreak => exact h.elim

/-! ## The match that is tried first -/

theorem ne_nil_of_total (h : r.Total) (prev : Option α) (text : List α) : r.run prev text ≠ [] := by
  induction r generalizing prev text with
  | empty => exact List.cons_ne_nil _ _
  | rep p lo hi greedy =>
    have hlo : lo = 0 := h
    exact List.ne_nil_of_mem (mem_run_rep.mpr ⟨0, by omega, Nat.zero_le _, rfl⟩)
  | seq r s ihr ihs =>
    obtain ⟨b, hb⟩ := List.exists_mem_of_ne_nil _ (ihr h.1 prev text)
    obtain ⟨c, hc⟩ := List.exists_mem_of_ne_nil _ (ihs h.2 (b.last prev) b.rest)
    exact List.ne_nil_of_mem (mem_run_seq.mpr ⟨b, hb, c, hc, rfl⟩)
  | alt r s ihr ihs =>
    rw [run]
    intro hnil
    rcases h with h | h
    · exact ihr h prev text (List.append_eq_nil_iff.mp hnil).1
    · exact ihs h prev text (List.append_eq_nil_iff.mp hnil).2
  | chr p => exact h.elim
  | boundary isWord => exact h.elim
  | look r => exact h.elim
  | finish isBreak => exact h.elim

/-- The first of the matches a list of lists holds is in its first one, where none is empty. -/
theorem head?_flatMap_of_ne_nil {β γ : Type} {l : List β} {f : β → List γ} {x : γ}
    (hf : ∀ b ∈ l, f b ≠ []) (h : (l.flatMap f).head? = some x) :
    ∃ b, l.head? = some b ∧ (f b).head? = some x := by
  cases l with
  | nil => cases h
  | cons b bs =>
    refine ⟨b, rfl, ?_⟩
    have hne := hf b List.mem_cons_self
    rw [List.flatMap_cons, List.head?_append_of_ne_nil _ hne] at h
    exact h

/-- A sequence whose second part matches anywhere begins with the first match of its first part. -/
theorem head?_run_seq {a : Split text} (hs : s.Total)
    (h : ((seq r s).run prev text).head? = some a) :
    ∃ b, (r.run prev text).head? = some b ∧
      ∃ c, (s.run (b.last prev) b.rest).head? = some c ∧ a = b.more c := by
  rw [run] at h
  obtain ⟨b, hb, hx⟩ := head?_flatMap_of_ne_nil (fun b _ hnil =>
    ne_nil_of_total hs (b.last prev) b.rest (List.map_eq_nil_iff.mp hnil)) h
  rw [List.head?_map] at hx
  obtain ⟨c, hc, heq⟩ := Option.map_eq_some_iff.mp hx
  exact ⟨b, hb, c, hc, heq.symm⟩

/-- An optional part is left out only where it does not match. -/
theorem head?_run_opt {a : Split text} (h : ((opt r).run prev text).head? = some a) :
    (r.run prev text).head? = some a ∨ (r.run prev text = [] ∧ a = .none text) := by
  have hrun : (opt r).run prev text = r.run prev text ++ [.none text] := rfl
  rw [hrun] at h
  cases hr : r.run prev text with
  | nil =>
    rw [hr] at h
    exact Or.inr ⟨rfl, (Option.some.inj h).symm⟩
  | cons b bs =>
    rw [hr] at h
    exact Or.inl h

/-- A sequence that begins with one character. -/
theorem run_seq_chr (c : α) (cs : List α) : (seq (chr p) s).run prev (c :: cs) =
    if p c then (s.run (some c) cs).map fun b => Split.more ⟨[c], cs, rfl⟩ b else [] := by
  simp only [run]
  split
  · exact List.flatMap_singleton ..
  · rfl

/-- A repeated class takes all it can first. -/
theorem head?_run_rep {lo : Nat} {hi : Option Nat} {a : Split text}
    (h : ((rep p lo hi true).run prev text).head? = some a) :
    a = Split.cut text (reach p hi text) := by
  have hmem := List.mem_of_head? h
  obtain ⟨n, hlo, hhi, -⟩ := mem_run_rep.mp hmem
  simp only [run, if_true, List.head?_map, List.head?_reverse] at h
  obtain ⟨k, hk, heq⟩ := Option.map_eq_some_iff.mp h
  rw [List.getLast?_range'] at hk
  rw [if_neg (by omega)] at hk
  have hk : k = reach p hi text := by
    have := Option.some.inj hk
    omega
  rw [← heq, hk]

end Regex

/-! ## Patterns -/

/-- An expression with one group. -/
structure Pattern (α : Type) where
  lead : Regex α
  group : Regex α
  trail : Regex α

/-- A match of a pattern in a text. -/
structure Match (text : List α) where
  before : Split text
  lead : Split before.rest
  group : Split lead.rest
  trail : Split group.rest

namespace Match

variable {text : List α}

/-- `m.group(0)`. -/
def phrase (m : Match text) : List α := m.lead.taken ++ m.group.taken ++ m.trail.taken

/-- What stands behind the match. -/
def after (m : Match text) : List α := m.trail.rest

/-- The text goes on behind the group with what the pattern's end takes. -/
theorem rest_eq (m : Match text) : m.group.rest = m.trail.taken ++ m.after := m.trail.joined.symm

end Match

namespace Pattern

variable {text : List α}

/-- The matches that begin at one place. -/
def here (p : Pattern α) (before : Split text) : List (Match text) :=
  (p.lead.run (before.last none) before.rest).flatMap fun lead =>
    (p.group.run (lead.last (before.last none)) lead.rest).flatMap fun group =>
      (p.trail.run (group.last (lead.last (before.last none))) group.rest).map fun trail =>
        ⟨before, lead, group, trail⟩

/-- `pattern.search(text)`. -/
def search (p : Pattern α) (text : List α) : Option (Match text) :=
  ((Split.all text).flatMap p.here).head?

theorem mem_here {p : Pattern α} {before : Split text} {m : Match text}
    (h : m ∈ p.here before) : m.before = before ∧
      m.lead ∈ p.lead.run (m.before.last none) m.before.rest ∧
      m.group ∈ p.group.run (m.lead.last (m.before.last none)) m.lead.rest ∧
      m.trail ∈ p.trail.run (m.group.last (m.lead.last (m.before.last none))) m.group.rest := by
  obtain ⟨lead, hlead, h⟩ := List.mem_flatMap.mp h
  obtain ⟨group, hgroup, h⟩ := List.mem_flatMap.mp h
  obtain ⟨trail, htrail, rfl⟩ := List.mem_map.mp h
  exact ⟨rfl, hlead, hgroup, htrail⟩

/-- A match is made of matches of the pattern's parts. -/
theorem parts_of_search {p : Pattern α} {m : Match text} (h : p.search text = some m) :
    m.lead ∈ p.lead.run (m.before.last none) m.before.rest ∧
      m.group ∈ p.group.run (m.lead.last (m.before.last none)) m.lead.rest ∧
      m.trail ∈ p.trail.run (m.group.last (m.lead.last (m.before.last none))) m.group.rest := by
  obtain ⟨before, -, hmem⟩ := List.mem_flatMap.mp (List.mem_of_head? h)
  exact (mem_here hmem).2

/-- A group whose end matches anywhere is the first match of its expression. -/
theorem group_of_search {p : Pattern α} {m : Match text} (htotal : p.trail.Total)
    (h : p.search text = some m) :
    (p.group.run (m.lead.last (m.before.last none)) m.lead.rest).head? = some m.group := by
  rw [search, List.head?_flatMap] at h
  obtain ⟨before, -, h⟩ := List.exists_of_findSome?_eq_some h
  rw [here, List.head?_flatMap] at h
  obtain ⟨lead, -, h⟩ := List.exists_of_findSome?_eq_some h
  obtain ⟨group, hgroup, h⟩ := Regex.head?_flatMap_of_ne_nil (fun _ _ hnil =>
    Regex.ne_nil_of_total htotal _ _ (List.map_eq_nil_iff.mp hnil)) h
  rw [List.head?_map] at h
  obtain ⟨trail, -, rfl⟩ := Option.map_eq_some_iff.mp h
  exact hgroup

end Pattern

/-! ## Parts that cannot be longer -/

/-- A part of a text with a property that no longer part around it has. -/
def Maximal (P : List α → Prop) (left part right : List α) : Prop :=
  P part ∧ ∀ u v, u <:+ left → v <+: right → P (u ++ part ++ v) → u = [] ∧ v = []

/-- A maximal part of the text lies in what the match takes. -/
def Match.Reads {text : List α} (m : Match text) (P : List α → Prop) (part : List α) : Prop :=
  ∃ u v, m.phrase = u ++ part ++ v ∧ Maximal P (m.before.taken ++ u) part (v ++ m.after)

section Maximal

variable {P : List α → Prop} {q : α → Bool} {left part right : List α}

/-- A part is maximal where no character of such parts stands left of it, and it does not go on to
the right. -/
theorem Maximal.intro (hchars : ∀ cs, P cs → ∀ c ∈ cs, q c = true) (hpart : P part)
    (hleft : ∀ c, left.getLast? = some c → q c = false)
    (hright : ∀ v, v <+: right → P (part ++ v) → v = []) : Maximal P left part right := by
  refine ⟨hpart, ?_⟩
  intro u v hu hv hlong
  have hnil : u = [] := by
    by_contra hne
    obtain ⟨w, rfl⟩ := hu
    have hlast : (w ++ u).getLast? = some (u.getLast hne) := by
      rw [List.getLast?_append_of_ne_nil _ hne, List.getLast?_eq_some_getLast hne]
    have hmem : u.getLast hne ∈ u ++ part ++ v := by
      simp [List.getLast_mem]
    have htrue := hchars _ hlong _ hmem
    rw [hleft _ hlast] at htrue
    cases htrue
  subst hnil
  exact ⟨rfl, hright v hv hlong⟩

/-- The group is such a part. -/
theorem Match.reads_group {text : List α} {m : Match text}
    (h : Maximal P (m.before.taken ++ m.lead.taken) m.group.taken m.group.rest) :
    m.Reads P m.group.taken :=
  ⟨m.lead.taken, m.trail.taken, rfl, m.rest_eq ▸ h⟩

/-- Nothing is read where all such characters of the match are in the group, of a class whose runs
are such parts, and one more of the class stands behind the match. -/
theorem Match.not_reads {text : List α} {m : Match text} {d : α → Bool} {c : α} {rest : List α}
    (hchars : ∀ cs, P cs → cs ≠ [] ∧ ∀ c ∈ cs, q c = true)
    (hruns : ∀ cs, cs ≠ [] → (∀ c ∈ cs, d c = true) → P cs)
    (hlead : ∀ c ∈ m.lead.taken, q c = false) (hgroup : ∀ c ∈ m.group.taken, d c = true)
    (htrail : m.trail.taken = []) (hafter : m.after = c :: rest) (hc : d c = true) :
    ¬ m.Reads P part := by
  rintro ⟨u, v, hphrase, hpart, hmax⟩
  obtain ⟨hne, hmem⟩ := hchars part hpart
  -- the part lies in the group
  obtain ⟨w, hw⟩ : ∃ w, m.group.taken = w ++ (part ++ v) := by
    rw [phrase, htrail, List.append_nil, List.append_assoc, List.append_eq_append_iff] at hphrase
    rcases hphrase with ⟨w, -, hw⟩ | ⟨w, hw, hrest⟩
    · exact ⟨w, hw⟩
    · cases w with
      | nil => exact ⟨[], hrest.symm⟩
      | cons e es =>
        obtain ⟨x, xs, rfl⟩ := List.exists_cons_of_ne_nil hne
        obtain rfl : x = e := (List.cons.inj hrest).1
        have hx := hmem x List.mem_cons_self
        rw [hlead x (by simp [hw])] at hx
        cases hx
  -- and what stands behind it is of the class as well
  obtain ⟨e, es, hnext, he⟩ : ∃ e es, v ++ m.after = e :: es ∧ d e = true := by
    cases v with
    | nil => exact ⟨c, rest, hafter, hc⟩
    | cons e es => exact ⟨e, es ++ m.after, rfl, hgroup e (by simp [hw])⟩
  have hlong : P (part ++ [e]) := by
    apply hruns
    · simp
    · intro x hx
      rcases List.mem_append.mp hx with hx | hx
      · exact hgroup x (by simp [hw, hx])
      · obtain rfl := List.mem_singleton.mp hx
        exact he
  have hnil := (hmax [] [e] List.nil_suffix ⟨es, by rw [hnext]; rfl⟩ hlong).2
  cases hnil

end Maximal

end NexusC2
