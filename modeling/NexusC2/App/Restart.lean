import NexusC2.App.Ingress

/-!
# Restarts

A process that is gone leaves its database file and its audit log. `C2Runtime.__init__` and
`_hydrate_from_store` (`app/c2_server.py`) build a new runtime on them; `load_all`
(`core/runtime_store.py`) reads the rows. A start that raises leaves no server. `Operation` is
what can happen to the server from outside: a request of either kind, or a restart.
-/

namespace NexusC2

/-- What `load_all` returns. -/
structure Picture (F Obs : Type) where
  scenarioId : Option String
  observations : List Obs
  finding : Option (Fields F)
  proposals : Dict String (Pending F)
  inbox : Dict String (Tasking F)
  acked : Finset String

/-- The picture of an empty database, or of one that cannot be read. -/
def Picture.empty {F Obs : Type} : Picture F Obs := ⟨none, [], none, ∅, ∅, ∅⟩

/-- What a starting process reads: the policy file, the POI file, and whether the database file
can be opened. -/
structure Boot (F : Type) where
  policy : Except Exc (PolicyFile F)
  loadPois : Except Exc (List (Poi F))
  storeOpens : Bool

section

variable {F Obs G : Type} [PyFloatOps F] [EntityGraph F Obs G]

/-- The `try` of `load_all` (`core/runtime_store.py:231-266`); `none` is a row that raises. -/
def Tables.picture (G : Type) [EntityGraph F Obs G] (t : Tables F) : Option (Picture F Obs) := do
  let observations ← t.observations.values.mapM (EntityGraph.validate (F := F) G)
  let proposals ← Dict.collect Pending.ofPayload ∅ t.proposals.entries
  let inbox ← Dict.collect Tasking.ofPayload ∅ t.inbox.entries
  some
    { scenarioId := t.scenarioId
      observations := observations
      finding := t.finding.bind Json.obj?
      proposals := proposals
      inbox := inbox
      acked := t.acked }

/-- `load_all` (`core/runtime_store.py:215-269`). -/
def RuntimeStore.loadAll (G : Type) [EntityGraph F Obs G] (s : RuntimeStore F) : Picture F Obs :=
  if s.connected then (s.working.picture G).getD Picture.empty else Picture.empty

namespace C2Runtime

variable (Obs) in
/-- `_hydrate_from_store` (`app/c2_server.py:251-265`). -/
def hydrateFromStore : C2Handler F G Unit := do
  let s ← Handler.get
  let picture : Picture F Obs := s.store.loadAll G
  Handler.forEach (fun o => do let _ ← C2Runtime.ingest o) picture.observations
  Handler.modify fun s => { s with
    finding := picture.finding.bind Finding.ofDump
    scenarioId := picture.scenarioId
    proposals := picture.proposals
    inbox := picture.inbox
    acked := picture.acked }

variable (Obs) in
/-- A new runtime on the files of one that is gone, before it is hydrated
(`app/c2_server.py:231-248`). -/
def reopened (s : C2Runtime F G) (policy : TieredPolicy F) (storeOpens : Bool) : C2Runtime F G :=
  { policy := policy
    audit := s.audit.reopen
    store := s.store.reopen storeOpens
    graph := EntityGraph.empty F Obs
    finding := none
    scenarioId := none
    proposals := ∅
    inbox := ∅
    acked := ∅
    auditPreTamper := none
    lastGuardrail := none
    log := s.log }

omit [PyFloatOps F] in
/-- The policy of a starting process, with the POIs where their file can be read. -/
def bootPolicy (boot : Boot F) : Except Exc (TieredPolicy F) := do
  let policy := TieredPolicy.fromYaml (← boot.policy)
  match boot.loadPois with
  | .ok pois => .ok { policy with interlock := policy.interlock.setCniPois pois }
  | .error (.osError _) => .ok policy
  | .error e => .error e

variable (Obs) in
/-- `C2Runtime(...)` on the files of a runtime that is gone (`app/c2_server.py:223-249`). -/
def restart (boot : Boot F) (s : C2Runtime F G) : Except Exc (C2Runtime F G) :=
  match bootPolicy boot with
  | .error e => .error e
  | .ok policy =>
    match hydrateFromStore Obs (s.reopened Obs policy boot.storeOpens) with
    | (.ok _, s') => .ok s'
    | (.error e, _) => .error e

/-- A start succeeds when its policy is read and the database is read in without an exception. -/
theorem restart_eq_ok {boot : Boot F} {s s' : C2Runtime F G} :
    restart Obs boot s = .ok s' ↔ ∃ policy, bootPolicy boot = .ok policy ∧
      hydrateFromStore Obs (s.reopened Obs policy boot.storeOpens) = (.ok (), s') := by
  unfold restart
  cases bootPolicy boot with
  | error e =>
    constructor
    · intro h
      cases h
    · rintro ⟨policy, h, -⟩
      cases h
  | ok policy =>
    dsimp only
    cases hrun : hydrateFromStore Obs (s.reopened Obs policy boot.storeOpens) with
    | mk r t =>
      constructor
      · intro h
        cases r with
        | error e => cases h
        | ok _ =>
          cases h
          exact ⟨policy, rfl, hrun⟩
      · rintro ⟨_, hpolicy, h⟩
        cases hpolicy
        cases hrun.symm.trans h
        rfl

end C2Runtime

/-- What happens to a server. -/
inductive Operation (F Obs G : Type) where
  | request (r : Served F Obs G)
  | ingress (i : Ingress F Obs G)
  | restart (boot : Boot F)

/-- One operation on a server. A start that raises is none: no server comes of it. -/
inductive Operation.Step [Sha256] : C2Runtime F G → Operation F Obs G → C2Runtime F G → Prop where
  | request (s : C2Runtime F G) (r : Served F Obs G) : Step s (.request r) (serve s r)
  | ingress (s : C2Runtime F G) (i : Ingress F Obs G) : Step s (.ingress i) (handleIngress i s).2
  | restart (s : C2Runtime F G) (boot : Boot F) (s' : C2Runtime F G)
      (h : C2Runtime.restart Obs boot s = .ok s') : Step s (.restart boot) s'

end

end NexusC2
