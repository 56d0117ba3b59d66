import NexusC2.App.Proofs.GateRuns
import NexusC2.Deploy.AuditSnapshot

/-!
# Puts in order

Within an epoch the trail only grows, so the copies of one epoch are prefixes of one another. A put
extends the stored value when its copy is of the epoch that wrote it and no shorter, or of an epoch
restored from it; any other put may replace a longer trail by a shorter one. What the container
does with a request is what the core does with it (`next_requestEvent`).
-/

namespace NexusC2

namespace SnapshotWorker

variable {R : Type}

/-- One of two lists is a prefix of the other. -/
def Comparable (a b : List R) : Prop := a <+: b ∨ b <+: a

theorem Comparable.symm {a b : List R} (h : Comparable a b) : Comparable b a := Or.symm h

theorem Comparable.prefix_of_le {a b : List R} (h : Comparable a b) (hlen : a.length ≤ b.length) :
    a <+: b := by
  rcases h with h | h
  · exact h
  · rw [h.eq_of_length_le hlen]

/-- A put of a copy keeps the order: nothing is stored, the trail of the copy was restored from
what is stored, or what is stored is a copy from the same epoch and no longer. -/
def InOrder (w : SnapshotWorker R) (c : TrailCopy R) : Prop :=
  w.snapshot.records = [] ∨ c.source = some w.snapshot.version ∨
    (w.snapshot.writer = some c.epoch ∧ w.snapshot.records.length ≤ c.records.length)

/-- An event puts its copy in order, if it puts one. -/
def PutsInOrder (w : SnapshotWorker R) : SnapshotEvent R → Prop
  | .put i true => ∀ c ∈ w.reads[i]?, w.InOrder c
  | _ => True

instance [DecidableEq R] (w : SnapshotWorker R) (c : TrailCopy R) : Decidable (w.InOrder c) :=
  inferInstanceAs (Decidable (_ ∨ _ ∨ _))

instance [DecidableEq R] (w : SnapshotWorker R) : DecidablePred w.PutsInOrder
  | .put i true => inferInstanceAs (Decidable (∀ c ∈ w.reads[i]?, w.InOrder c))
  | .put _ false | .enter _ | .serve _ _ | .clientPut _ | .serveFails | .read _ | .readFails
  | .ends | .onStop | .onError | .evict => isTrue trivial

/-- What a copy has to do with the stored value. -/
structure Traced (s : Snapshot R) (epochs : Nat) (c : TrailCopy R) : Prop where
  epoch : c.epoch < epochs
  source : ∀ v, c.source = some v → v ≤ s.version
  restored : c.source = some s.version → s.records <+: c.records
  written : s.writer = some c.epoch → Comparable s.records c.records

/-- The copies of an epoch are prefixes of one another, the trail of the instance the longest. -/
structure Ordered (s : Snapshot R) (running : Option (TrailCopy R)) (copies : List (TrailCopy R))
    (epochs : Nat) : Prop where
  writer : ∀ e, s.writer = some e → e < epochs
  reads : ∀ c ∈ copies, Traced s epochs c
  read_read : ∀ c ∈ copies, ∀ d ∈ copies, c.epoch = d.epoch → Comparable c.records d.records
  container : ∀ i, running = some i → Traced s epochs i
  written : ∀ i, running = some i → s.writer = some i.epoch → s.records <+: i.records
  read : ∀ i, running = some i → ∀ c ∈ copies, c.epoch = i.epoch → c.records <+: i.records

theorem Traced.mono {s : Snapshot R} {epochs epochs' : Nat} {c : TrailCopy R}
    (h : Traced s epochs c) (hle : epochs ≤ epochs') : Traced s epochs' c :=
  { h with epoch := Nat.lt_of_lt_of_le h.epoch hle }

namespace Ordered

variable {s : Snapshot R} {running : Option (TrailCopy R)} {copies : List (TrailCopy R)}
  {epochs : Nat}

/-- Reads may be forgotten. -/
theorem sublist (h : Ordered s running copies epochs) {copies' : List (TrailCopy R)}
    (hsub : copies' ⊆ copies) : Ordered s running copies' epochs where
  writer := h.writer
  reads c hc := h.reads c (hsub hc)
  read_read c hc d hd := h.read_read c (hsub hc) d (hsub hd)
  container := h.container
  written := h.written
  read i hi c hc := h.read i hi c (hsub hc)

/-- The instance may end. -/
theorem ends (h : Ordered s running copies epochs) : Ordered s none copies epochs where
  writer := h.writer
  reads := h.reads
  read_read := h.read_read
  container i hi := by cases hi
  written i hi := by cases hi
  read i hi := by cases hi

/-- A trail of a new epoch: an empty or foreign one, or the stored one. -/
theorem renew (h : Ordered s running copies epochs) (records : List R) {source : Option Nat}
    (hsource : source = none ∨ source = some s.version ∧ records = s.records) :
    Ordered s (some ⟨records, epochs, source⟩) copies (epochs + 1) where
  writer e he := Nat.lt_succ_of_lt (h.writer e he)
  reads c hc := (h.reads c hc).mono (Nat.le_succ _)
  read_read := h.read_read
  container := by
    rintro i hi
    cases hi
    refine ⟨Nat.lt_succ_self _, ?_, ?_, ?_⟩
    · intro v hv
      rcases hsource with rfl | ⟨rfl, _⟩
      · cases hv
      · cases hv
        exact Nat.le_refl _
    · intro hv
      rcases hsource with rfl | ⟨_, rfl⟩
      · cases hv
      · exact List.prefix_rfl
    · intro hw
      exact absurd (h.writer _ hw) (Nat.lt_irrefl _)
  written := by
    rintro i hi hw
    cases hi
    exact absurd (h.writer _ hw) (Nat.lt_irrefl _)
  read := by
    rintro i hi c hc heq
    cases hi
    have hlt := (h.reads c hc).epoch
    rw [heq] at hlt
    exact absurd hlt (Nat.lt_irrefl _)

/-- The trail of the instance may grow. -/
theorem grow {i : TrailCopy R} (h : Ordered s (some i) copies epochs) (new : List R) :
    Ordered s (some { i with records := i.records ++ new }) copies epochs where
  writer := h.writer
  reads := h.reads
  read_read := h.read_read
  container := by
    rintro j hj
    cases hj
    have hi := h.container i rfl
    refine ⟨hi.epoch, hi.source, ?_, ?_⟩
    · intro hv
      exact (hi.restored hv).trans (List.prefix_append _ _)
    · intro hw
      exact Or.inl ((h.written i rfl hw).trans (List.prefix_append _ _))
  written := by
    rintro j hj hw
    cases hj
    exact (h.written i rfl hw).trans (List.prefix_append _ _)
  read := by
    rintro j hj c hc heq
    cases hj
    exact (h.read i rfl c hc heq).trans (List.prefix_append _ _)

/-- The trail of the instance may be read. -/
theorem snoc {i : TrailCopy R} (h : Ordered s (some i) copies epochs) :
    Ordered s (some i) (copies ++ [i]) epochs where
  writer := h.writer
  reads := by
    intro c hc
    rcases List.mem_append.mp hc with hc | hc
    · exact h.reads c hc
    · rw [List.mem_singleton.mp hc]
      exact h.container i rfl
  read_read := by
    intro c hc d hd heq
    rcases List.mem_append.mp hc with hc | hc <;> rcases List.mem_append.mp hd with hd | hd
    · exact h.read_read c hc d hd heq
    · rw [List.mem_singleton.mp hd] at heq ⊢
      exact Or.inl (h.read i rfl c hc heq)
    · rw [List.mem_singleton.mp hc] at heq ⊢
      exact Or.inr (h.read i rfl d hd heq.symm)
    · rw [List.mem_singleton.mp hc, List.mem_singleton.mp hd]
      exact Or.inl List.prefix_rfl
  container := h.container
  written := h.written
  read := by
    rintro j hj c hc heq
    cases hj
    rcases List.mem_append.mp hc with hc | hc
    · exact h.read i rfl c hc heq
    · rw [List.mem_singleton.mp hc]

/-- A copy that has been read may be put, in order or not. -/
theorem put (h : Ordered s running copies epochs) {c : TrailCopy R} (hc : c ∈ copies) :
    Ordered ⟨c.records, s.version + 1, some c.epoch⟩ running copies epochs where
  writer := by
    rintro e he
    cases he
    exact (h.reads c hc).epoch
  reads := by
    intro d hd
    have hold := h.reads d hd
    refine ⟨hold.epoch, fun v hv => Nat.le_succ_of_le (hold.source v hv), ?_, ?_⟩
    · intro hv
      exact absurd (hold.source _ hv) (Nat.not_succ_le_self _)
    · intro hw
      exact h.read_read c hc d hd (Option.some.inj hw)
  read_read := h.read_read
  container := by
    intro i hi
    have hold := h.container i hi
    refine ⟨hold.epoch, fun v hv => Nat.le_succ_of_le (hold.source v hv), ?_, ?_⟩
    · intro hv
      exact absurd (hold.source _ hv) (Nat.not_succ_le_self _)
    · intro hw
      exact Or.inl (h.read i hi c hc (Option.some.inj hw))
  written i hi hw := h.read i hi c hc (Option.some.inj hw)
  read := h.read

end Ordered

/-- The order of a Durable Object. -/
def IsOrdered (w : SnapshotWorker R) : Prop := Ordered w.snapshot w.container w.reads w.epochs

theorem isOrdered_boot (records : List R) : (boot records).IsOrdered := by
  constructor <;> simp [boot]

@[simp] theorem start_snapshot (w : SnapshotWorker R) : w.start.snapshot = w.snapshot := by
  unfold start
  cases w.container <;> rfl

@[simp] theorem start_reads (w : SnapshotWorker R) : w.start.reads = w.reads := by
  unfold start
  cases w.container <;> rfl

theorem start_container (w : SnapshotWorker R) : w.start.container = some w.current := by
  unfold start current
  cases hrun : w.container with
  | none => rfl
  | some i => exact hrun

namespace IsOrdered

variable {w : SnapshotWorker R}

theorem start (h : w.IsOrdered) : w.start.IsOrdered := by
  unfold SnapshotWorker.start
  cases hrun : w.container with
  | none =>
    have hcurrent : w.current = ⟨[], w.epochs, none⟩ := by rw [current, hrun]; rfl
    rw [hcurrent]
    exact Ordered.renew h [] (Or.inl rfl)
  | some i => exact h

/-- The instance a fetch reaches, among the copies. -/
theorem started (h : w.IsOrdered) : Ordered w.snapshot (some w.current) w.reads w.start.epochs := by
  have hstart := h.start
  rw [IsOrdered, start_container, start_snapshot, start_reads] at hstart
  exact hstart

theorem evicted (h : w.IsOrdered) : w.evicted.IsOrdered := Ordered.sublist h (List.nil_subset _)

/-- The stored trail may be restored. -/
theorem restored (h : w.IsOrdered) :
    (w.replaceTrail w.snapshot.records (some w.snapshot.version)).IsOrdered :=
  Ordered.renew h _ (Or.inr ⟨rfl, rfl⟩)

theorem restoreAudit (h : w.IsOrdered) (outcome : RestoreOutcome) :
    (w.restoreAudit outcome).IsOrdered := by
  unfold SnapshotWorker.restoreAudit
  split
  · exact h
  · cases outcome with
    | replaced => exact h.restored
    | refused => exact h
    | threw late =>
      cases late with
      | false => exact h.evicted
      | true => exact h.restored.evicted

theorem enter (h : w.IsOrdered) (outcome : RestoreOutcome) : (w.enter outcome).IsOrdered := by
  unfold SnapshotWorker.enter
  split
  · exact h
  · exact h.start.restoreAudit outcome

theorem serve (h : w.IsOrdered) (new : List R) (persists : Bool) :
    (w.serve new persists).IsOrdered := by
  have hgrown := h.started.grow new
  rw [← start_snapshot, ← start_reads] at hgrown
  exact hgrown

/-- Every event keeps the order, puts out of order among them. -/
theorem next (h : w.IsOrdered) (e : SnapshotEvent R) : (w.next e).IsOrdered := by
  cases e with
  | enter outcome => exact h.enter outcome
  | serve new persists => exact h.serve new persists
  | clientPut records => exact Ordered.renew h.start records (Or.inl rfl)
  | read ok =>
    have hread : Ordered w.snapshot (some w.current) (if ok then w.reads ++ [w.current] else w.reads)
        w.start.epochs := by
      cases ok with
      | false => exact h.started
      | true => exact h.started.snoc
    rw [← start_container, ← start_snapshot] at hread
    exact hread
  | put i ok =>
    simp only [SnapshotWorker.next]
    split
    · exact h
    · rename_i c hread
      have hsub := (List.eraseIdx_sublist w.reads i).subset
      cases ok with
      | false => exact Ordered.sublist h hsub
      | true => exact (Ordered.put h (List.mem_of_getElem? hread)).sublist hsub
  | ends => exact Ordered.ends h
  | evict => exact h.evicted
  | _ => exact h

/-- A copy that is put in order extends what is stored. -/
theorem prefix_of_inOrder (h : w.IsOrdered) {c : TrailCopy R} (hc : c ∈ w.reads)
    (horder : w.InOrder c) : w.snapshot.records <+: c.records := by
  have htraced := Ordered.reads h c hc
  rcases horder with hempty | hsource | ⟨hwriter, hlen⟩
  · rw [hempty]
    exact List.nil_prefix
  · exact htraced.restored hsource
  · exact (htraced.written hwriter).prefix_of_le hlen

end IsOrdered

@[simp] theorem enter_snapshot (w : SnapshotWorker R) (outcome : RestoreOutcome) :
    (w.enter outcome).snapshot = w.snapshot := by
  unfold enter
  split
  · rfl
  · unfold restoreAudit
    split
    · exact start_snapshot w
    · rcases outcome with _ | _ | _ | _ <;> exact start_snapshot w

/-- Only a put that succeeds writes the stored value. -/
theorem next_snapshot (w : SnapshotWorker R) {e : SnapshotEvent R}
    (hput : ∀ i, e ≠ .put i true) : (w.next e).snapshot = w.snapshot := by
  cases e with
  | enter outcome => exact enter_snapshot w outcome
  | serve new persists => exact start_snapshot w
  | clientPut records => exact start_snapshot w
  | read ok => exact start_snapshot w
  | put i ok =>
    cases ok with
    | false =>
      simp only [next]
      split <;> rfl
    | true => exact absurd rfl (hput i)
  | _ => rfl

/-- An event that puts nothing out of order extends what is stored. -/
theorem prefix_next {w : SnapshotWorker R} {e : SnapshotEvent R} (h : w.IsOrdered)
    (horder : w.PutsInOrder e) : w.snapshot.records <+: (w.next e).snapshot.records := by
  by_cases hput : ∃ i, e = .put i true
  · obtain ⟨i, rfl⟩ := hput
    simp only [next]
    split
    · exact List.prefix_rfl
    · rename_i c hread
      exact h.prefix_of_inOrder (List.mem_of_getElem? hread) (horder c hread)
  · rw [next_snapshot w (not_exists.mp hput)]

end SnapshotWorker

open SnapshotWorker

/-- In every run a put in order extends what is stored, and where all puts are in order nothing
that was stored at the start is lost. -/
theorem snapshot_extends {R : Type} (records : List R)
    {tr : List (Transition (SnapshotWorker R) (SnapshotEvent R))} {w : SnapshotWorker R}
    (h : Run SnapshotWorker.Step (boot records) tr w) :
    (∀ x ∈ tr, x.pre.PutsInOrder x.label → x.pre.snapshot.records <+: x.post.snapshot.records) ∧
      ((∀ x ∈ tr, x.pre.PutsInOrder x.label) → records <+: w.snapshot.records) := by
  constructor
  · refine h.forall_transitions (I := IsOrdered) (isOrdered_boot records) ?_
    rintro w e w' hordered ⟨_, rfl⟩
    exact ⟨hordered.next e, prefix_next hordered⟩
  · intro horder
    have hinv : w.IsOrdered ∧ records <+: w.snapshot.records := by
      refine (h.guard horder).invariant
        (I := fun w => w.IsOrdered ∧ records <+: w.snapshot.records)
        ⟨isOrdered_boot records, List.prefix_rfl⟩ ?_
      rintro w e w' ⟨hordered, hprefix⟩ ⟨hput, _, rfl⟩
      exact ⟨hordered.next e, hprefix.trans (prefix_next hordered hput)⟩
    exact hinv.2

/-! ## The core in the container -/

section

variable {F Obs G : Type} [PyFloatOps F] [Sha256] [EntityGraph F Obs G]

/-- A request that puts a snapshot replaces the trail of the core, any other makes it grow. -/
theorem serve_records (s : C2Runtime F G) (r : Served F Obs G) :
    (∃ records, r.req = .auditSnapshot records ∧ (serve s r).audit.records = records) ∨
      ((∀ records, r.req ≠ .auditSnapshot records) ∧
        s.audit.records <+: (serve s r).audit.records) := by
  by_cases hreq : ∃ records, r.req = .auditSnapshot records
  · left
    obtain ⟨env, req⟩ := r
    obtain ⟨records, rfl⟩ := hreq
    refine ⟨records, rfl, ?_⟩
    simp only [serve, handle, respond_snd]
    rfl
  · right
    refine ⟨not_exists.mp hreq, ?_⟩
    obtain ⟨script, hscript, hgate⟩ := handle_script r s
    have haudit : (serve s r).audit = _ := congrArg GateState.audit hgate
    rw [haudit]
    refine GateState.records_foldl (s := s.gate) ?_
    intro records hmem
    have hsub := (GateState.ran_sublist r.env.appendRaises script).subset
    exact hreq ⟨records, (hscript.of_restored (hsub hmem)).1⟩

/-- The event of the object in which its container serves a request. -/
def requestEvent (s : C2Runtime F G) (r : Served F Obs G) (persists : Bool) :
    SnapshotEvent (Record F) :=
  match r.req with
  | .auditSnapshot records => .clientPut records
  | _ => .serve ((serve s r).audit.records.drop s.audit.records.length) persists

/-- A container with the trail of the core has it after each request as well. -/
theorem next_requestEvent {w : SnapshotWorker (Record F)} {s : C2Runtime F G}
    (htrail : w.container.map TrailCopy.records = some s.audit.records) (r : Served F Obs G)
    (persists : Bool) :
    (w.next (requestEvent s r persists)).container.map TrailCopy.records =
      some (serve s r).audit.records := by
  obtain ⟨i, hrun, hi⟩ := Option.map_eq_some_iff.mp htrail
  unfold requestEvent
  rcases serve_records s r with ⟨records, hreq, hrecords⟩ | ⟨hreq, new, hnew⟩
  · rw [hreq, hrecords]
    rfl
  · split
    · rename_i records heq
      exact absurd heq (hreq records)
    · simp [next, SnapshotWorker.serve, current, hrun, hi, ← hnew]

end

/-! ## Concrete runs -/

/-- Events from an object that has stored nothing, as transitions. -/
def snapshotTrace (events : List (SnapshotEvent Nat)) :
    List (Transition (SnapshotWorker Nat) (SnapshotEvent Nat)) :=
  trace next (boot []) events

theorem run_snapshotTrace (events : List (SnapshotEvent Nat))
    (h : ∀ x ∈ snapshotTrace events, x.pre.canHappen x.label = true) :
    Run SnapshotWorker.Step (boot []) (snapshotTrace events) (events.foldl next (boot [])) :=
  Run.of_trace events (boot []) fun x hx => ⟨h x hx, trace_post next (boot []) events x hx⟩

/-- A mutating request and the copy of its trail. -/
def storedRequest (record : Nat) : List (SnapshotEvent Nat) :=
  [.enter .replaced, .serve [record] true, .read true, .put 0 true]

/-- Two requests to one instance, its end, and one to the next instance. -/
def restartEvents : List (SnapshotEvent Nat) :=
  storedRequest 1 ++ storedRequest 2 ++ [.ends, .onError] ++ storedRequest 3

/-- The instance ends, and the copy that `onStop` stores is that of a new one. -/
def sleepEvents : List (SnapshotEvent Nat) :=
  storedRequest 1 ++ [.ends, .onStop, .read true, .put 0 true]

/-- Each of the three puts is in order, for one of the three reasons. -/
theorem snapshot_extends_restart :
    (∀ x ∈ snapshotTrace restartEvents,
        x.pre.snapshot.records <+: x.post.snapshot.records) ∧
      [] <+: (restartEvents.foldl next (boot [])).snapshot.records := by
  have hrun : Run SnapshotWorker.Step (boot []) (snapshotTrace restartEvents) _ :=
    run_snapshotTrace restartEvents (by decide)
  have horder : ∀ x ∈ snapshotTrace restartEvents, x.pre.PutsInOrder x.label := by decide
  obtain ⟨heach, hall⟩ := snapshot_extends [] hrun
  exact ⟨fun x hx => heach x hx (horder x hx), hall horder⟩

/-- A container that sleeps: `onStop` reads the trail of the instance its own fetch has started,
and stores an empty trail over one with a record. -/
theorem sleep_loses_snapshot :
    ∃ (tr : List (Transition (SnapshotWorker Nat) (SnapshotEvent Nat))) (w : SnapshotWorker Nat),
      Run SnapshotWorker.Step (boot []) tr w ∧
        (∀ x ∈ tr, ∀ records, x.label ≠ .clientPut records) ∧
          ∃ x ∈ tr, ¬ x.pre.snapshot.records <+: x.post.snapshot.records := by
  refine ⟨_, _, run_snapshotTrace sleepEvents (by decide), ?_, ?_⟩
  · intro x hx records
    simp only [snapshotTrace, sleepEvents, storedRequest, trace, List.cons_append, List.nil_append,
      List.mem_cons, List.not_mem_nil, or_false] at hx
    rcases hx with rfl | rfl | rfl | rfl | rfl | rfl | rfl | rfl <;> simp
  · exact by decide

end NexusC2
