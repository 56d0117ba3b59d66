import Mathlib.Data.List.Basic

/-!
# The durable snapshot of the trail

`C2Container` (`deploy/cloudflare/src/index.ts:12-93`): the Durable Object that forwards
requests to a container, stores a copy of its trail after each request that may have changed it,
and puts the stored copy back into a container that has lost its disk. A fetch through the
container class reaches the instance that runs, or starts one with an empty trail. The block of
`fetch` that hydrates is one event, since `blockConcurrencyWhile` delivers no other meanwhile; a
background `persistAudit` is two, its read and its put. The demo requests that rewrite the trail
(`/api/admin/audit/tamper` and `restore`) are refused there: `C2_DEMO_TAMPER` is none of the
variables the container is given.

Epochs, sources, versions and writers are no part of the program: they say which copy comes from
where.
-/

namespace NexusC2

/-- A copy of a trail: that of an instance, or one that `persistAudit` has read. An epoch is what
lies between a start or a replacement of a trail and the next; `source` is the version of the
snapshot the trail of the epoch was restored from. -/
structure TrailCopy (R : Type) where
  records : List R
  epoch : Nat
  source : Option Nat

/-- The value under `audit_records`, an absent one being empty, the number of puts before it and
the epoch of the trail it is a copy of. -/
structure Snapshot (R : Type) where
  records : List R
  version : Nat
  writer : Option Nat

/-- The Durable Object, its storage and the container. -/
structure SnapshotWorker (R : Type) where
  snapshot : Snapshot R
  container : Option (TrailCopy R)
  /-- Instances that have ended and whose callback is still to come. -/
  ended : Nat
  /-- `containerHydrated`. -/
  hydrated : Bool
  /-- Requests past the block of `fetch`. -/
  admitted : Nat
  /-- Calls of `persistAudit` that have not read the trail yet. -/
  waiting : Nat
  /-- What the others have read and not put yet. -/
  reads : List (TrailCopy R)
  epochs : Nat

/-- How the restore of a snapshot ends: the core has replaced its trail, it has answered with an
error, or the fetch has thrown, before the core has replaced its trail or after. -/
inductive RestoreOutcome where
  | replaced
  | refused
  | threw (late : Bool)
  deriving DecidableEq, Repr

/-- What happens to the Durable Object. -/
inductive SnapshotEvent (R : Type) where
  | enter (outcome : RestoreOutcome)
  | serve (new : List R) (persists : Bool)
  | clientPut (records : List R)
  | serveFails
  | read (ok : Bool)
  | readFails
  | put (i : Nat) (ok : Bool)
  | ends
  | onStop
  | onError
  | evict

namespace SnapshotWorker

variable {R : Type}

/-- A Durable Object with a stored value, before its first request. -/
def boot (records : List R) : SnapshotWorker R :=
  { snapshot := ⟨records, 0, none⟩
    container := none
    ended := 0
    hydrated := false
    admitted := 0
    waiting := 0
    reads := []
    epochs := 0 }

/-- The instance a fetch reaches. -/
def current (w : SnapshotWorker R) : TrailCopy R := w.container.getD ⟨[], w.epochs, none⟩

/-- The container runs. `onStart` (`:32-35`) where it did not. -/
def start (w : SnapshotWorker R) : SnapshotWorker R :=
  match w.container with
  | some _ => w
  | none => { w with container := some w.current, epochs := w.epochs + 1, hydrated := false }

/-- `PUT /api/admin/audit/snapshot` on the instance that runs. -/
def replaceTrail (w : SnapshotWorker R) (records : List R) (source : Option Nat) :
    SnapshotWorker R :=
  { w with container := some ⟨records, w.epochs, source⟩, epochs := w.epochs + 1 }

/-- The object is restarted: its memory and its background tasks are gone. -/
def evicted (w : SnapshotWorker R) : SnapshotWorker R :=
  { w with hydrated := false, admitted := 0, waiting := 0, reads := [] }

/-- `restoreAudit` (`:77-92`), and `containerHydrated = true` unless it throws. -/
def restoreAudit (w : SnapshotWorker R) (outcome : RestoreOutcome) : SnapshotWorker R :=
  if w.snapshot.records.isEmpty then { w with hydrated := true, admitted := w.admitted + 1 }
  else match outcome with
    | .replaced =>
      { w.replaceTrail w.snapshot.records (some w.snapshot.version) with
        hydrated := true
        admitted := w.admitted + 1 }
    | .refused => { w with hydrated := true, admitted := w.admitted + 1 }
    | .threw false => w.evicted
    | .threw true => (w.replaceTrail w.snapshot.records (some w.snapshot.version)).evicted

/-- The block of `fetch` (`:49-55`). -/
def enter (w : SnapshotWorker R) (outcome : RestoreOutcome) : SnapshotWorker R :=
  if w.hydrated then { w with admitted := w.admitted + 1 } else w.start.restoreAudit outcome

/-- The rest of `fetch` (`:56-60`): the core appends to its trail. -/
def serve (w : SnapshotWorker R) (new : List R) (persists : Bool) : SnapshotWorker R :=
  let i := w.current
  { w.start with
    container := some { i with records := i.records ++ new }
    admitted := w.admitted - 1
    waiting := if persists then w.waiting + 1 else w.waiting }

/-- Whether an event can happen. -/
def canHappen (w : SnapshotWorker R) : SnapshotEvent R → Bool
  | .serve _ _ | .clientPut _ | .serveFails => 0 < w.admitted
  | .read _ | .readFails => 0 < w.waiting
  | .put i _ => i < w.reads.length
  | .ends => w.container.isSome
  | .onStop | .onError => 0 < w.ended
  | .enter _ | .evict => true

/-- What an event leads to. -/
def next (w : SnapshotWorker R) : SnapshotEvent R → SnapshotWorker R
  | .enter outcome => w.enter outcome
  | .serve new persists => w.serve new persists
  | .clientPut records => { w.start.replaceTrail records none with admitted := w.admitted - 1 }
  -- the fetch throws and has reached no instance
  | .serveFails => { w with admitted := w.admitted - 1 }
  | .readFails => { w with waiting := w.waiting - 1 }
  -- `persistAudit` (`:63-75`) up to its `put`, and the rest
  | .read ok =>
    { w.start with
      waiting := w.waiting - 1
      reads := if ok then w.reads ++ [w.current] else w.reads }
  | .put i ok =>
    match w.reads[i]? with
    | none => w
    | some c =>
      { w with
        snapshot := if ok then ⟨c.records, w.snapshot.version + 1, some c.epoch⟩ else w.snapshot
        reads := w.reads.eraseIdx i }
  | .ends => { w with container := none, ended := w.ended + 1 }
  -- `onStop` (`:37-41`)
  | .onStop => { w with ended := w.ended - 1, hydrated := false, waiting := w.waiting + 1 }
  -- `onError` (`:43-46`)
  | .onError => { w with ended := w.ended - 1, hydrated := false }
  | .evict => w.evicted

/-- The step relation of the Durable Object. -/
def Step (w : SnapshotWorker R) (e : SnapshotEvent R) (w' : SnapshotWorker R) : Prop :=
  w.canHappen e = true ∧ w' = w.next e

end SnapshotWorker

end NexusC2
