import NexusC2.Core.RuntimeStore

/-!
# A replace that does not commit

Statements that succeed stay pending on the connection until the next commit. A
`replace_observations` that raises after its delete has emptied the working table and filled it
with the rows before the one that failed, and the next write of anything commits that.
-/

namespace NexusC2

namespace RuntimeStore

variable {F : Type}

/-! ## Later writes -/

/-- A write of the store. -/
inductive Write (F : Type) where
  | clear
  | setScenarioId (value : Option String)
  | upsertObservation (row : String × Json F)
  | replaceObservations (rows : List (String × Json F))
  | setFinding (finding : Option (Json F))
  | upsertProposal (coaId : String) (payload : Json F)
  | deleteProposal (coaId : String)
  | upsertInbox (coaId : String) (tasking : Json F)
  | addAcked (coaId : String)

/-- The store after a write. -/
def Write.run (s : RuntimeStore F) : Write F → RuntimeStore F
  | .clear => s.clear
  | .setScenarioId value => s.setScenarioId value
  | .upsertObservation row => s.upsertObservation row
  | .replaceObservations rows => s.replaceObservations rows
  | .setFinding finding => s.setFinding finding
  | .upsertProposal coaId payload => s.upsertProposal coaId payload
  | .deleteProposal coaId => s.deleteProposal coaId
  | .upsertInbox coaId tasking => s.upsertInbox coaId tasking
  | .addAcked coaId => s.addAcked coaId

/-- The statements of a write. -/
def Write.tables (t : Tables F) : Write F → Tables F
  | .clear => Tables.empty
  | .setScenarioId value => { t with scenarioId := value }
  | .upsertObservation row => { t with observations := t.observations.set row.1 row.2 }
  | .replaceObservations rows => { t with observations := (insertRows ∅ rows).1 }
  | .setFinding finding => { t with finding := finding }
  | .upsertProposal coaId payload => { t with proposals := t.proposals.set coaId payload }
  | .deleteProposal coaId => { t with proposals := t.proposals.erase coaId }
  | .upsertInbox coaId tasking => { t with inbox := t.inbox.set coaId tasking }
  | .addAcked coaId => { t with acked := insert coaId t.acked }

/-- There is a connection, and no statement of the write raises. -/
def Write.Succeeds (s : RuntimeStore F) (w : Write F) : Prop :=
  s.connected = true ∧ ∀ rows, w = .replaceObservations rows → (insertRows ∅ rows).2 = true

/-- The tables that are there after these writes and a restart. -/
def storedAfter (s : RuntimeStore F) (ws : List (Write F)) : Tables F :=
  ((ws.foldl Write.run s).reopen true).committed

/-- A write that succeeds is its statements and a commit. -/
theorem Write.run_of_succeeds {s : RuntimeStore F} {w : Write F} (h : w.Succeeds s) :
    w.run s = { s with working := w.tables s.working, committed := w.tables s.working } := by
  have hwrite : w.run s = s.write fun t => w.tables t := by
    cases w with
    | replaceObservations rows =>
      simp only [run, RuntimeStore.replaceObservations, h.2 rows rfl, if_true]
      rfl
    | _ => rfl
  rw [hwrite, write, if_pos h.1]

/-- Writes that succeed, one at least, store what they make of the working tables. -/
theorem storedAfter_cons {s : RuntimeStore F} {w : Write F} {ws : List (Write F)}
    (h : ∀ v ∈ w :: ws, v.Succeeds s) :
    storedAfter s (w :: ws) = (w :: ws).foldl Write.tables s.working := by
  induction ws generalizing s w with
  | nil =>
    unfold storedAfter
    rw [List.foldl_cons, Write.run_of_succeeds (h w List.mem_cons_self)]
    rfl
  | cons v vs ih =>
    have hrun := Write.run_of_succeeds (h w List.mem_cons_self)
    have hrest : ∀ u ∈ v :: vs, u.Succeeds (w.run s) := fun u hu => by
      rw [hrun]
      exact h u (List.mem_cons_of_mem w hu)
    have hstored := ih hrest
    rw [hrun] at hstored
    rw [List.foldl_cons, ← hstored]
    unfold storedAfter
    rw [List.foldl_cons, hrun]

/-- What writes make of the observations rests on the observations alone. -/
theorem observations_foldl_tables {t t' : Tables F} (h : t.observations = t'.observations)
    (ws : List (Write F)) :
    (ws.foldl Write.tables t).observations = (ws.foldl Write.tables t').observations := by
  induction ws generalizing t t' with
  | nil => exact h
  | cons w ws ih =>
    refine ih ?_
    cases w with
    | upsertObservation row => simp only [Write.tables, h]
    | clear => rfl
    | replaceObservations rows => rfl
    | _ => exact h

/-! ## The inserts -/

/-- The first inserts of a list: none raises and no key comes twice. -/
def Inserts (faults : ReplaceFaults) (rows : List (String × Json F)) (n : Nat) : Prop :=
  (∀ i < n, faults.insert i = false) ∧ (Assoc.keys (rows.take n)).Nodup

theorem Inserts.mono {faults : ReplaceFaults} {rows : List (String × Json F)} {m n : Nat}
    (h : Inserts faults rows n) (hle : m ≤ n) : Inserts faults rows m := by
  refine ⟨fun i hi => h.1 i (by omega), ?_⟩
  refine h.2.sublist (List.Sublist.map Prod.fst ?_)
  exact (List.take_sublist_take_left hle)

/-- The next insert goes through where it does not raise and its key is new. -/
theorem Inserts.next_iff {faults : ReplaceFaults} {p rows : List (String × Json F)} {k : String}
    {v : Json F} (hp : Inserts faults (p ++ (k, v) :: rows) p.length) :
    Inserts faults (p ++ (k, v) :: rows) (p.length + 1) ↔
      faults.insert p.length = false ∧ k ∉ Assoc.keys p := by
  have htake : (p ++ (k, v) :: rows).take (p.length + 1) = p ++ [(k, v)] := by
    rw [List.take_length_add_append]
    rfl
  unfold Inserts
  rw [htake]
  constructor
  · rintro ⟨hfaults, hkeys⟩
    refine ⟨hfaults p.length (Nat.lt_succ_self _), fun hmem => ?_⟩
    rw [Assoc.keys, List.map_append] at hkeys
    exact (List.nodup_append.mp hkeys).2.2 k hmem k List.mem_cons_self rfl
  · rintro ⟨hfault, hkey⟩
    have hkeys := hp.2
    rw [List.take_left] at hkeys
    refine ⟨fun i hi => ?_, ?_⟩
    · rcases Nat.lt_succ_iff_lt_or_eq.mp hi with hlt | rfl
      · exact hp.1 i hlt
      · exact hfault
    · rw [Assoc.keys, List.map_append]
      refine List.nodup_append.mpr ⟨hkeys, List.nodup_singleton k, ?_⟩
      rintro a ha b hb rfl
      obtain rfl : a = k := List.mem_singleton.mp hb
      exact hkey ha

/-- The inserts stop where the next would be the first that fails. -/
theorem insertRowsWith_eq (faults : ReplaceFaults) {p rows : List (String × Json F)}
    {d : Dict String (Json F)} (hd : d.entries = p) (hp : Inserts faults (p ++ rows) p.length) :
    ∃ n, Inserts faults (p ++ rows) n ∧
      (insertRowsWith faults p.length d rows).1.entries = (p ++ rows).take n ∧
      (((insertRowsWith faults p.length d rows).2 = true ∧ n = (p ++ rows).length) ∨
        ((insertRowsWith faults p.length d rows).2 = false ∧ n < (p ++ rows).length ∧
          ¬ Inserts faults (p ++ rows) (n + 1))) := by
  induction rows generalizing p d with
  | nil =>
    refine ⟨p.length, hp, ?_, Or.inl ⟨rfl, by rw [List.append_nil]⟩⟩
    rw [List.append_nil, List.take_length]
    exact hd
  | cons row rows ih =>
    obtain ⟨k, v⟩ := row
    have hnext : Inserts faults (p ++ (k, v) :: rows) (p.length + 1) ↔
        faults.insert p.length = false ∧ k ∉ Assoc.keys d.entries := by
      rw [hd]
      exact hp.next_iff
    rw [insertRowsWith]
    by_cases hinsert : faults.insert p.length = false ∧ k ∉ Assoc.keys d.entries
    · obtain ⟨hfault, hkeys⟩ := id hinsert
      rw [hfault, Dict.get_of_not_mem hkeys]
      have hset : (d.set k v).entries = p ++ [(k, v)] := by
        rw [Dict.entries_set, Assoc.set_of_not_mem hkeys, hd]
      have hdone := hnext.mpr hinsert
      rw [List.append_cons] at hdone ⊢
      have hrest := ih hset (by rwa [List.length_append, List.length_singleton])
      rwa [List.length_append, List.length_singleton] at hrest
    · have hstop : (faults.insert p.length || (d.get k).isSome) = true := by
        rw [Bool.or_eq_true]
        by_cases hfault : faults.insert p.length = false
        · obtain ⟨⟨k', v'⟩, hmem, rfl⟩ := List.mem_map.mp (not_not.mp (not_and.mp hinsert hfault))
          rw [Dict.mem_entries.mp hmem]
          exact Or.inr rfl
        · exact Or.inl (Bool.eq_true_of_not_eq_false hfault)
      rw [if_pos hstop]
      refine ⟨p.length, hp, ?_, Or.inr ⟨rfl, by simp, mt hnext.mp hinsert⟩⟩
      rw [List.take_left]
      exact hd

/-! ## The call -/

/-- The statement that raises, by the number of inserts before it: an insert, or the commit. -/
def StopsAt (faults : ReplaceFaults) (rows : List (String × Json F)) (n : Nat) : Prop :=
  Inserts faults rows n ∧
    ((n = rows.length ∧ faults.commit = true) ∨
      (n < rows.length ∧ ¬ Inserts faults rows (n + 1)))

/-- A statement raises after as many inserts as go through, and at no other place. -/
theorem StopsAt.unique {faults : ReplaceFaults} {rows : List (String × Json F)} {m n : Nat}
    (hm : StopsAt faults rows m) (hn : StopsAt faults rows n) : m = n := by
  have hle : ∀ {a b}, StopsAt faults rows a → StopsAt faults rows b → b ≤ a := by
    intro a b ha hb
    by_contra hlt
    have hb' : b ≤ rows.length := by
      rcases hb.2 with ⟨h, -⟩ | ⟨h, -⟩ <;> omega
    rcases ha.2 with ⟨hlength, -⟩ | ⟨-, hnot⟩
    · omega
    · exact hnot (hb.1.mono (by omega))
  exact Nat.le_antisymm (hle hn hm) (hle hm hn)

/-- What a call does: nothing, without a connection or a delete; or it leaves pending the rows before
the statement that raises; or no statement raises and the new list is committed. -/
theorem replaceObservationsWith_cases (faults : ReplaceFaults) (s : RuntimeStore F)
    (rows : List (String × Json F)) :
    ((s.connected = false ∨ faults.delete = true) ∧
      replaceObservationsWith faults s rows = (s, false)) ∨
    (s.connected = true ∧ faults.delete = false ∧ ∃ n d, StopsAt faults rows n ∧
      d.entries = rows.take n ∧ replaceObservationsWith faults s rows =
        ({ s with working := { s.working with observations := d } }, false)) ∨
    ((∀ n, ¬ StopsAt faults rows n) ∧ (replaceObservationsWith faults s rows).2 = true) := by
  have hstart : Inserts faults rows 0 :=
    ⟨fun i hi => absurd hi (Nat.not_lt_zero i), List.nodup_nil⟩
  have hinserted := insertRowsWith_eq faults (p := []) (d := (∅ : Dict String (Json F))) rfl hstart
  change ∃ n, Inserts faults rows n ∧ (insertRowsWith faults 0 ∅ rows).1.entries = rows.take n ∧
    ((insertRowsWith faults 0 ∅ rows).2 = true ∧ n = rows.length ∨
      (insertRowsWith faults 0 ∅ rows).2 = false ∧ n < rows.length ∧
        ¬ Inserts faults rows (n + 1)) at hinserted
  unfold replaceObservationsWith
  by_cases hskip : (!s.connected || faults.delete) = true
  · rw [if_pos hskip]
    refine Or.inl ⟨?_, rfl⟩
    rcases Bool.or_eq_true_iff.mp hskip with hclosed | hdelete
    · exact Or.inl (by simpa using hclosed)
    · exact Or.inr hdelete
  · rw [if_neg hskip]
    obtain ⟨hopen, hdelete⟩ : s.connected = true ∧ faults.delete = false := by simpa using hskip
    cases hrun : insertRowsWith faults 0 ∅ rows with
    | mk d ok =>
      rw [hrun] at hinserted
      obtain ⟨n, hinserts, hentries, ⟨hok, hlength⟩ | ⟨hok, hlt, hnext⟩⟩ := hinserted
      · obtain rfl : ok = true := hok
        cases hcommit : faults.commit with
        | true =>
          exact Or.inr (Or.inl ⟨hopen, hdelete, n, d, ⟨hinserts, Or.inl ⟨hlength, hcommit⟩⟩,
            hentries, rfl⟩)
        | false =>
          refine Or.inr (Or.inr ⟨fun m hm => ?_, rfl⟩)
          rcases hm.2 with ⟨-, hfails⟩ | ⟨hlt, hnext⟩
          · rw [hcommit] at hfails
            cases hfails
          · exact hnext (hinserts.mono (by omega))
      · obtain rfl : ok = false := hok
        exact Or.inr (Or.inl ⟨hopen, hdelete, n, d, ⟨hinserts, Or.inr ⟨hlt, hnext⟩⟩, hentries, rfl⟩)

/-- What a call that does not commit leaves pending is what is stored: nothing else was pending
and the delete raises, or the rows before the statement that raises are the stored ones. -/
structure LeavesStored (faults : ReplaceFaults) (s : RuntimeStore F)
    (rows : List (String × Json F)) : Prop where
  delete : s.connected = true → faults.delete = true →
    s.working.observations = s.committed.observations
  insert : s.connected = true → faults.delete = false → ∀ n, StopsAt faults rows n →
    s.committed.observations.entries = rows.take n

/-- What is pending on a store shows in a later write, and only there. -/
theorem observations_storedAfter_iff {s t : RuntimeStore F} (hconnected : t.connected = s.connected)
    (hcommitted : t.committed = s.committed) :
    (∀ ws : List (Write F), (∀ w ∈ ws, w.Succeeds s) →
      (storedAfter t ws).observations = (ws.foldl Write.tables s.committed).observations) ↔
    (s.connected = true → t.working.observations = s.committed.observations) := by
  constructor
  · intro h hopen
    have hsucceeds : ∀ u : RuntimeStore F, u.connected = true →
        ∀ w ∈ [Write.setScenarioId none], w.Succeeds u := by
      intro u hu w hw
      obtain rfl := List.mem_singleton.mp hw
      exact ⟨hu, fun rows heq => by cases heq⟩
    have hmeta := h _ (hsucceeds s hopen)
    rwa [storedAfter_cons (hsucceeds t (hconnected.trans hopen))] at hmeta
  · intro h ws hws
    cases ws with
    | nil => exact congrArg Tables.observations hcommitted
    | cons w ws =>
      have hopen := (hws w List.mem_cons_self).1
      rw [storedAfter_cons fun v hv => ⟨hconnected.trans hopen, (hws v hv).2⟩]
      exact observations_foldl_tables (h hopen) (w :: ws)

/-- A call that does not commit all of the new list leaves the stored observations to every later
write and restart, exactly where what it leaves pending is what is stored. -/
theorem replace_observations_atomic (faults : ReplaceFaults) (s : RuntimeStore F)
    (rows : List (String × Json F)) :
    ((replaceObservationsWith faults s rows).2 = false →
      ∀ ws : List (Write F), (∀ w ∈ ws, w.Succeeds s) →
        (storedAfter (replaceObservationsWith faults s rows).1 ws).observations =
          (ws.foldl Write.tables s.committed).observations) ↔
      LeavesStored faults s rows := by
  have hcall : ∀ t : RuntimeStore F, t.connected = s.connected → t.committed = s.committed →
      replaceObservationsWith faults s rows = (t, false) →
      (((replaceObservationsWith faults s rows).2 = false →
        ∀ ws : List (Write F), (∀ w ∈ ws, w.Succeeds s) →
          (storedAfter (replaceObservationsWith faults s rows).1 ws).observations =
            (ws.foldl Write.tables s.committed).observations) ↔
        (s.connected = true → t.working.observations = s.committed.observations)) := by
    intro t hconnected hcommitted heq
    rw [heq]
    exact Iff.trans ⟨fun h => h rfl, fun h _ => h⟩
      (observations_storedAfter_iff hconnected hcommitted)
  rcases replaceObservationsWith_cases faults s rows with
    ⟨hskip, heq⟩ | ⟨hopen, hdelete, n, d, hstops, hentries, heq⟩ | ⟨hnone, htrue⟩
  · rw [hcall s rfl rfl heq]
    constructor
    · intro h
      refine ⟨fun hopen _ => h hopen, fun hopen hdelete => ?_⟩
      rcases hskip with hclosed | hfails
      · rw [hclosed] at hopen
        cases hopen
      · rw [hfails] at hdelete
        cases hdelete
    · intro h hopen
      rcases hskip with hclosed | hfails
      · rw [hclosed] at hopen
        cases hopen
      · exact h.delete hopen hfails
  · let t : RuntimeStore F := { s with working := { s.working with observations := d } }
    refine (hcall t rfl rfl heq).trans ⟨fun h => ?_, fun h _ => ?_⟩
    · refine ⟨fun _ hfails => ?_, fun _ _ m hm => ?_⟩
      · rw [hdelete] at hfails
        cases hfails
      · rw [hm.unique hstops, ← hentries, ← h hopen]
    · exact Dict.ext_entries (hentries.trans (h.insert hopen hdelete n hstops).symm)
  · refine iff_of_true (fun hfalse => ?_) ⟨fun hopen hfails => ?_, fun _ _ n hn => absurd hn (hnone n)⟩
    · rw [htrue] at hfalse
      cases hfalse
    · have hskip : (!s.connected || faults.delete) = true := by rw [hfails, Bool.or_true]
      unfold replaceObservationsWith at htrue
      rw [if_pos hskip] at htrue
      cases htrue

/-- The statements of the call raise only on a key that is there. -/
def noFaults : ReplaceFaults := ⟨false, fun _ => false, false⟩

theorem insertRowsWith_noFaults (i : Nat) (d : Dict String (Json F))
    (rows : List (String × Json F)) : insertRowsWith noFaults i d rows = insertRows d rows := by
  induction rows generalizing i d with
  | nil => rfl
  | cons row rows ih =>
    rw [insertRowsWith, insertRows, ih]
    rfl

/-- Without other faults the call is `replaceObservations`. -/
theorem replaceObservationsWith_noFaults (s : RuntimeStore F) (rows : List (String × Json F)) :
    (replaceObservationsWith noFaults s rows).1 = s.replaceObservations rows := by
  unfold replaceObservationsWith replaceObservations write
  rw [insertRowsWith_noFaults]
  cases hinserts : insertRows ∅ rows with
  | mk d ok =>
    cases hopen : s.connected <;> cases ok <;> rfl

/-- A store with one observation. -/
def oneStored : RuntimeStore Whole :=
  (⟨true, Tables.empty, Tables.empty⟩ : RuntimeStore Whole).upsertObservation ("a", .int 1)

/-- Two observations under one id. -/
def sameId : List (String × Json Whole) := [("b", .int 2), ("b", .int 3)]

/-- Replacing by two observations under one id: the next finding commits the first of the two and
loses what was stored. -/
theorem same_id_publishes_partial_list :
    oneStored.committed.observations.entries = [("a", .int 1)] ∧
      (replaceObservationsWith noFaults oneStored sameId).2 = false ∧
      (storedAfter (replaceObservationsWith noFaults oneStored sameId).1
        [.setFinding none]).observations.entries = [("b", .int 2)] ∧
      ¬ ∀ ws : List (Write Whole), (∀ w ∈ ws, w.Succeeds oneStored) →
        (storedAfter (replaceObservationsWith noFaults oneStored sameId).1 ws).observations =
          (ws.foldl Write.tables oneStored.committed).observations := by
  refine ⟨rfl, rfl, rfl, fun h => ?_⟩
  have hfinding := h [.setFinding none] (by
    intro w hw
    obtain rfl := List.mem_singleton.mp hw
    exact ⟨rfl, fun rows heq => by cases heq⟩)
  have hkeys := congrArg (fun d => Assoc.keys d.entries) hfinding
  exact absurd hkeys (by decide)

end RuntimeStore

end NexusC2
