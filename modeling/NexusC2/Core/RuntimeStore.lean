import Mathlib.Data.Finset.Insert
import NexusC2.Misc.Dict
import NexusC2.Misc.Json

/-!
# The SQLite picture store

`RuntimeStore` (`core/runtime_store.py`). A row holds the JSON value its payload column spells.
Statements see and change the working tables of the connection, `commit` makes them the stored
ones; the only statement that fails is an insert under a key that is there.
-/

namespace NexusC2

/-- The tables of `_init_schema` (`core/runtime_store.py:45-74`). -/
structure Tables (F : Type) where
  scenarioId : Option String
  observations : Dict String (Json F)
  finding : Option (Json F)
  proposals : Dict String (Json F)
  inbox : Dict String (Json F)
  acked : Finset String

/-- Empty tables. -/
def Tables.empty {F : Type} : Tables F := ⟨none, ∅, none, ∅, ∅, ∅⟩

/-- `RuntimeStore`: whether the connection is open, its working tables and the stored ones. -/
structure RuntimeStore (F : Type) where
  connected : Bool
  working : Tables F
  committed : Tables F

namespace RuntimeStore

variable {F : Type}

/-- Statements that succeed, and a commit. -/
def write (s : RuntimeStore F) (f : Tables F → Tables F) : RuntimeStore F :=
  if s.connected then { s with working := f s.working, committed := f s.working } else s

/-- `clear` (`core/runtime_store.py:81-97`). -/
def clear (s : RuntimeStore F) : RuntimeStore F := s.write fun _ => Tables.empty

/-- `set_meta("scenario_id", value)` (`core/runtime_store.py:99-113`). -/
def setScenarioId (s : RuntimeStore F) (value : Option String) : RuntimeStore F :=
  s.write fun t => { t with scenarioId := value }

/-- `upsert_observation` (`core/runtime_store.py:125-137`), of a row. -/
def upsertObservation (s : RuntimeStore F) (row : String × Json F) : RuntimeStore F :=
  s.write fun t => { t with observations := t.observations.set row.1 row.2 }

/-- The inserts of `replace_observations`, up to the first that fails. -/
def insertRows (d : Dict String (Json F)) :
    List (String × Json F) → Dict String (Json F) × Bool
  | [] => (d, true)
  | (k, v) :: rows => if (d.get k).isSome then (d, false) else insertRows (d.set k v) rows

/-- `replace_observations` (`core/runtime_store.py:139-155`). -/
def replaceObservations (s : RuntimeStore F) (rows : List (String × Json F)) : RuntimeStore F :=
  let (observations, ok) := insertRows ∅ rows
  if ok then s.write fun t => { t with observations := observations }
  else if s.connected then { s with working := { s.working with observations := observations } }
  else s

/-- The statements of one `replace_observations` that raise `sqlite3.Error`: the delete, an insert by
its place, the commit. An insert under a key that is there raises as well. -/
structure ReplaceFaults where
  delete : Bool
  insert : Nat → Bool
  commit : Bool

/-- The inserts of `replace_observations` from one on, up to the first that raises. -/
def insertRowsWith (faults : ReplaceFaults) (i : Nat) (d : Dict String (Json F)) :
    List (String × Json F) → Dict String (Json F) × Bool
  | [] => (d, true)
  | (k, v) :: rows =>
    if faults.insert i || (d.get k).isSome then (d, false)
    else insertRowsWith faults (i + 1) (d.set k v) rows

/-- `replace_observations` (`core/runtime_store.py:139-155`) where statements may raise: the store,
and whether the new list was committed. What was done before a statement raises stays pending. -/
def replaceObservationsWith (faults : ReplaceFaults) (s : RuntimeStore F)
    (rows : List (String × Json F)) : RuntimeStore F × Bool :=
  if !s.connected || faults.delete then (s, false)
  else
    let (observations, ok) := insertRowsWith faults 0 ∅ rows
    let working := { s.working with observations := observations }
    if ok && !faults.commit then ({ s with working := working, committed := working }, true)
    else ({ s with working := working }, false)

/-- `set_finding` (`core/runtime_store.py:157-169`). -/
def setFinding (s : RuntimeStore F) (finding : Option (Json F)) : RuntimeStore F :=
  s.write fun t => { t with finding := finding }

/-- `upsert_proposal` (`core/runtime_store.py:171-182`). -/
def upsertProposal (s : RuntimeStore F) (coaId : String) (payload : Json F) : RuntimeStore F :=
  s.write fun t => { t with proposals := t.proposals.set coaId payload }

/-- `delete_proposal` (`core/runtime_store.py:184-191`). -/
def deleteProposal (s : RuntimeStore F) (coaId : String) : RuntimeStore F :=
  s.write fun t => { t with proposals := t.proposals.erase coaId }

/-- `upsert_inbox` (`core/runtime_store.py:193-204`). -/
def upsertInbox (s : RuntimeStore F) (coaId : String) (tasking : Json F) : RuntimeStore F :=
  s.write fun t => { t with inbox := t.inbox.set coaId tasking }

/-- `add_acked` (`core/runtime_store.py:206-213`). -/
def addAcked (s : RuntimeStore F) (coaId : String) : RuntimeStore F :=
  s.write fun t => { t with acked := insert coaId t.acked }

/-- `RuntimeStore(path)` on the file of a store that is gone (`core/runtime_store.py:33-43`), where
`opens` is whether the file can be opened: what was not committed is lost. -/
def reopen (s : RuntimeStore F) (opens : Bool) : RuntimeStore F := ⟨opens, s.committed, s.committed⟩

end RuntimeStore

end NexusC2
