import NexusC2.App.Proofs.GateRuns
import NexusC2.App.Proofs.RequestFrame
import NexusC2.Misc.Raises

/-!
# What a refused request leaves

A request is refused when its handler raises an `HTTPException`. The handlers of the gate raise
one before they write anything of their own, but those that load a scenario have replaced the
picture by then.
-/

namespace NexusC2

open Handler (Raises Quiet)

/-- `HTTPException`. -/
abbrev Http (e : Exc) : Prop := isHttp e = true

/-! ## What raises no `HTTPException` -/

section

variable {F : Type} [PyFloatOps F]

omit [PyFloatOps F] in
theorem mathFn_quiet (r : Option F) : QuietExcept Http (mathFn r) := by
  cases r with
  | none => exact .error (by decide)
  | some x => exact .ok

theorem pyDiv_quiet (a b : F) : QuietExcept Http (pyDiv a b) := by
  unfold pyDiv
  split
  · exact .error (by decide)
  · exact .ok

theorem pyFloat_quiet (v : Json F) : QuietExcept Http (pyFloat v) := by
  unfold pyFloat
  split
  · exact .ok
  · split
    · exact .ok
    · exact .error (by decide)
  · split
    · exact .ok
    · exact .error (by decide)
  · split
    · exact .ok
    · exact .error (by simp [isHttp])
  · exact .error (by decide)

theorem haversineM_quiet (lat1 lon1 lat2 lon2 : F) :
    QuietExcept Http (haversineM lat1 lon1 lat2 lon2) := by
  unfold haversineM
  refine .bind (mathFn_quiet _) fun s1 => ?_
  refine .bind (mathFn_quiet _) fun c1 => ?_
  refine .bind (mathFn_quiet _) fun c2 => ?_
  refine .bind (mathFn_quiet _) fun s2 => ?_
  refine .bind (mathFn_quiet _) fun root => ?_
  exact .bind (mathFn_quiet _) fun arc => .ok

theorem polygonLoop_quiet (lat lon : F) (j : F × F) (polygon : List (F × F)) (inside : Bool) :
    QuietExcept Http (polygonLoop lat lon j polygon inside) := by
  induction polygon generalizing j inside with
  | nil => exact .ok
  | cons i rest ih =>
    refine .bind ?_ fun crosses => ih i _
    unfold edgeCrosses
    split
    · exact .bind (pyDiv_quiet _ _) fun q => .ok
    · exact .ok

theorem geofenceLoop_quiet (lat lon : F) (zones : List (Zone F)) :
    QuietExcept Http (DeterministicInterlock.geofenceLoop lat lon zones) := by
  induction zones with
  | nil => exact .ok
  | cons zone zones ih =>
    refine .bind ?_ fun inside => ?_
    · unfold pointInPolygon
      split
      · exact .ok
      · split
        · exact .ok
        · exact polygonLoop_quiet _ _ _ _ _
    · split
      · exact .ok
      · exact ih

theorem debrisLoop_quiet (lat lon footprint : F) (pois : List (Poi F)) :
    QuietExcept Http (DeterministicInterlock.debrisLoop lat lon footprint pois) := by
  induction pois with
  | nil => exact .ok
  | cons poi pois ih =>
    unfold DeterministicInterlock.debrisLoop
    split
    · exact ih
    · refine .bind (haversineM_quiet _ _ _ _) fun d => ?_
      split
      · exact .ok
      · exact ih

theorem verifyCniDebris_quiet (i : DeterministicInterlock F) (coa : CourseOfAction F) :
    QuietExcept Http (i.verifyCniDebris coa) := by
  have hchecked : ∀ harmless : Bool, QuietExcept Http (if harmless then .ok (true, none) else do
      let altitude ← pyFloat ((Assoc.get coa.metadata "altitude_m").getD (.float (71.0 : F)))
      DeterministicInterlock.debrisLoop coa.targetCoordinates.1 coa.targetCoordinates.2
        (debrisFootprintRadiusM altitude) i.cniPois) := by
    intro harmless
    cases harmless with
    | true => exact .ok
    | false => exact .bind (pyFloat_quiet _) fun altitude => debrisLoop_quiet _ _ _ _
  exact hchecked _

/-- The interlock raises errors of arithmetic only. -/
theorem verify_quiet (i : DeterministicInterlock F) (coa : CourseOfAction F) :
    QuietExcept Http (i.verify coa) := by
  unfold DeterministicInterlock.verify
  dsimp only
  split
  · exact .ok
  split
  · exact .ok
  refine .bind (geofenceLoop_quiet _ _ _) fun zone => ?_
  split
  · exact .ok
  refine .bind (verifyCniDebris_quiet i coa) fun (ok, reason) => ?_
  split
  · exact .ok
  split
  · exact .ok
  split
  · exact .ok
  · exact .ok

end

section

variable {F Obs G : Type} [PyFloatOps F] [Sha256] [EntityGraph F Obs G]

/-- Appending to the trail raises no `HTTPException`. -/
def Env.PlainTrail (env : Env F Obs G) : Prop :=
  ∀ event i e, env.appendRaises event i = some e → ¬ Http e

omit [EntityGraph F Obs G] in
theorem auditAppend_quiet {env : Env F Obs G} (henv : env.PlainTrail) (i : Nat)
    (event severity : String) (data : Fields F) :
    Quiet Http (auditAppend env i event severity data) := by
  unfold auditAppend
  split
  · exact .raise (henv event i _ ‹_›)
  · refine .bind .get fun s => ?_
    exact .bind .modify fun _ => .pure

omit [Sha256] in
theorem gateVerify_quiet (timeout : F) (coa : CourseOfAction F) :
    Quiet Http (gateVerify timeout coa : C2Handler F G _) := by
  unfold gateVerify
  refine .bind .get fun s => ?_
  refine .bind (.ofExcept (verify_quiet _ _)) fun result => ?_
  exact .bind .modify fun _ => .pure

omit [EntityGraph F Obs G] in
theorem issueUnits_quiet {env : Env F Obs G} (henv : env.PlainTrail) (req : ApproveRequest)
    (d : SealedDecision F) (index : Nat) (units : List String) :
    Quiet Http (issueUnits env req d index units) := by
  induction units generalizing index with
  | nil => exact .pure
  | cons uid units ih =>
    refine .bind .modify fun _ => ?_
    refine .bind .modify fun _ => ?_
    exact .bind (auditAppend_quiet henv _ _ _ _) fun _ => ih (index + 1)

/-! ## What a refused request is to leave alone -/

/-- The parts of the runtime a request is about. -/
structure Held (F G : Type) where
  graph : G
  finding : Option (Finding F)
  scenarioId : Option String
  proposals : Dict String (Pending F)
  inbox : Dict String (Tasking F)
  acked : Finset String
  active : Finset String
  store : RuntimeStore F
  audit : AuditTrail F

omit [PyFloatOps F] [Sha256] [EntityGraph F Obs G] in
def C2Runtime.held (s : C2Runtime F G) : Held F G :=
  { graph := s.graph
    finding := s.finding
    scenarioId := s.scenarioId
    proposals := s.proposals
    inbox := s.inbox
    acked := s.acked
    active := s.policy.interlock.activeCoaIds
    store := s.store
    audit := s.audit }

/-! ## Loading a scenario -/

/-- The picture a scenario has made when its loading ends: the graph, the id once the events are
in it, and what the detector answered once it has. -/
structure Showing (F G : Type) where
  graph : G
  scenarioId : Option String
  finding : Option (Option (Finding F))

/-- How the loading of a scenario ends, and the picture it has made by then. -/
def Scenario.load (env : Env F Obs G) (scenarioId : String) (sc : Scenario F G) :
    Except Exc (Finding F) × Showing F G :=
  let observations : Except Exc (List Obs) := sc.buildEvents.bind (·.mapM env.normalizeSensorEvent)
  match observations with
  | .error e => (.error e, ⟨EntityGraph.empty F Obs, none, none⟩)
  | .ok os =>
    match Handler.forEach (fun o => do let _ ← EntityGraph.ingest F o) os
        (EntityGraph.empty F Obs : G) with
    | (.error e, g) => (.error e, ⟨g, none, none⟩)
    | (.ok _, g) =>
      match sc.detect g with
      | .error e => (.error e, ⟨g, some sc.id, none⟩)
      | .ok none => (.error (.http 404 ("No finding for scenario " ++ scenarioId)),
          ⟨g, some sc.id, some none⟩)
      | .ok (some finding) => (.ok finding, ⟨g, some sc.id, some (some finding)⟩)

variable (Obs) in
/-- The runtime with the picture. One that shows something is stored. -/
def Showing.put (p : Showing F G) (s : C2Runtime F G) : C2Runtime F G :=
  let s : C2Runtime F G :=
    { s with
      graph := p.graph
      scenarioId := p.scenarioId.or s.scenarioId
      finding := p.finding.getD s.finding }
  match p.finding with
  | some (some _) => s.persistPicture Obs
  | _ => s

variable (Obs) in
/-- The runtime has the picture already, in memory and, if it shows something, in the store. -/
structure Showing.In (p : Showing F G) (s : C2Runtime F G) : Prop where
  graph : s.graph = p.graph
  scenarioId : ∀ id, p.scenarioId = some id → s.scenarioId = some id
  finding : ∀ f, p.finding = some f → s.finding = f
  stored : ∀ f, p.finding = some (some f) → (s.persistPicture Obs).store = s.store

omit [PyFloatOps F] [Sha256] in
/-- A picture that is there already is put in without a change. -/
theorem Showing.put_of_in {p : Showing F G} {s : C2Runtime F G} (h : p.In Obs s) :
    (p.put Obs s).held = s.held := by
  obtain ⟨g, id, finding⟩ := p
  obtain ⟨hgraph, hid, hfinding, hstored⟩ := h
  dsimp only at hgraph hid hfinding hstored
  have hid' : id.or s.scenarioId = s.scenarioId := by
    cases id with
    | none => rfl
    | some id => exact (hid id rfl).symm
  have hfinding' : finding.getD s.finding = s.finding := by
    cases finding with
    | none => rfl
    | some f => exact (hfinding f rfl).symm
  have hsame : ({ s with
      graph := g
      scenarioId := id.or s.scenarioId
      finding := finding.getD s.finding } : C2Runtime F G) = s := by
    rw [hid', hfinding', ← hgraph]
  unfold Showing.put
  dsimp only
  rw [hsame]
  split
  · rename_i f
    unfold C2Runtime.held
    rw [hstored f rfl]
    rfl
  · rfl

omit [PyFloatOps F] [Sha256] in
/-- A picture is put in without a change exactly when it is there already. -/
theorem Showing.put_held_iff {p : Showing F G} {s : C2Runtime F G} :
    (p.put Obs s).held = s.held ↔ p.In Obs s := by
  refine ⟨fun h => ?_, Showing.put_of_in⟩
  obtain ⟨g, id, finding⟩ := p
  have hput : (Showing.put Obs ⟨g, id, finding⟩ s).graph = g ∧
      (Showing.put Obs ⟨g, id, finding⟩ s).scenarioId = id.or s.scenarioId ∧
      (Showing.put Obs ⟨g, id, finding⟩ s).finding = finding.getD s.finding := by
    unfold Showing.put
    dsimp only
    split <;> exact ⟨rfl, rfl, rfl⟩
  have hgraph : s.graph = g := (congrArg Held.graph h).symm.trans hput.1
  have hid : s.scenarioId = id.or s.scenarioId := (congrArg Held.scenarioId h).symm.trans hput.2.1
  have hfinding : s.finding = finding.getD s.finding :=
    (congrArg Held.finding h).symm.trans hput.2.2
  refine ⟨hgraph, ?_, ?_, ?_⟩
  · rintro i rfl
    exact hid
  · rintro f rfl
    exact hfinding
  · rintro f rfl
    have hstore : (Showing.put Obs ⟨g, id, some (some f)⟩ s).store = s.store :=
      congrArg Held.store h
    have hsame : ({ s with
        graph := g
        scenarioId := id.or s.scenarioId
        finding := some f } : C2Runtime F G) = s := by
      rw [← hid, ← hgraph, ← show s.finding = some f from hfinding]
    unfold Showing.put at hstore
    dsimp only [Option.getD] at hstore
    rwa [hsame] at hstore

omit [PyFloatOps F] [Sha256] in
/-- Loading a scenario puts its picture in. -/
theorem ingestScenario_apply {env : Env F Obs G} {id : String} {sc : Scenario F G}
    (hsc : env.getScenario id = .ok sc) (s : C2Runtime F G) :
    ingestScenario env id s = ((sc.load env id).1, (sc.load env id).2.put Obs s) := by
  unfold ingestScenario Scenario.load
  rw [hsc, Handler.ofExcept_ok_bind, Handler.modify_bind]
  cases sc.buildEvents with
  | error e => rfl
  | ok events =>
    rw [Handler.ofExcept_ok_bind]
    dsimp only [Except.bind]
    cases events.mapM env.normalizeSensorEvent with
    | error e => rfl
    | ok os =>
      dsimp only
      rw [Handler.ofExcept_ok_bind, forEach_ingest_zoom, Handler.bind_apply, Handler.zoom_apply]
      dsimp only
      cases Handler.forEach (fun o => do let _ ← EntityGraph.ingest F o) os
          (EntityGraph.empty F Obs : G) with
      | mk r g =>
        cases r with
        | error e => rfl
        | ok _ =>
          dsimp only
          rw [Handler.modify_bind, Handler.get_bind]
          dsimp only
          cases sc.detect g with
          | error e => rfl
          | ok finding => cases finding <;> rfl

omit [PyFloatOps F] [Sha256] in
/-- A load that returns a finding shows it. -/
theorem Scenario.load_finding {env : Env F Obs G} {id : String} {sc : Scenario F G}
    {f : Finding F} (h : (sc.load env id).1 = .ok f) :
    (sc.load env id).2.finding = some (some f) := by
  revert h
  unfold Scenario.load
  dsimp only
  split
  · intro h
    cases h
  · split
    · intro h
      cases h
    · split <;> intro h <;> cases h
      rfl

variable (Obs) in
omit [PyFloatOps F] [Sha256] in
theorem Showing.put_graph (p : Showing F G) (s : C2Runtime F G) : (p.put Obs s).graph = p.graph := by
  unfold Showing.put
  dsimp only
  split <;> rfl

variable (Obs) in
omit [PyFloatOps F] [Sha256] in
theorem Showing.put_finding (p : Showing F G) (s : C2Runtime F G) :
    (p.put Obs s).finding = p.finding.getD s.finding := by
  unfold Showing.put
  dsimp only
  split <;> rfl

variable (Obs) in
omit [PyFloatOps F] [Sha256] in
theorem Showing.put_policy (p : Showing F G) (s : C2Runtime F G) :
    (p.put Obs s).policy = s.policy := by
  unfold Showing.put
  dsimp only
  split <;> rfl

/-- The COA of a scenario that is loaded, before the policy's defaults. -/
def Scenario.draft (env : Env F Obs G) (id : String) (sc : Scenario F G) (timeout : F) :
    Except Exc (CourseOfAction F) :=
  (sc.load env id).1.bind fun f => sc.buildCoa (sc.load env id).2.graph f timeout

/-- The interpretation of a scenario that is loaded, before the policy's defaults. -/
def Scenario.interpretation (env : Env F Obs G) (id : String) (sc : Scenario F G) (timeout : F)
    (forceHeuristic : Bool) : Except Exc (InterpretationResult F) :=
  (sc.load env id).1.bind fun f =>
    env.interpret (sc.load env id).2.graph f timeout forceHeuristic

omit [Sha256] in
theorem loadScenario_apply {env : Env F Obs G} {id : String} {sc : Scenario F G}
    (hsc : env.getScenario id = .ok sc) (timeout : F) (s : C2Runtime F G) :
    loadScenario env id timeout s =
      ((sc.draft env id timeout).map s.policy.applyDefaults, (sc.load env id).2.put Obs s) := by
  unfold loadScenario Scenario.draft
  rw [Handler.bind_apply, ingestScenario_apply hsc]
  cases (sc.load env id).1 with
  | error e => rfl
  | ok f =>
    dsimp only
    rw [hsc, Handler.ofExcept_ok_bind, Handler.get_bind, Showing.put_graph, Showing.put_policy]
    dsimp only [Except.bind]
    cases sc.buildCoa (sc.load env id).2.graph f timeout <;> rfl

omit [Sha256] in
theorem interpretScenario_apply {env : Env F Obs G} {id : String} {sc : Scenario F G}
    (hsc : env.getScenario id = .ok sc) (timeout : F) (forceHeuristic : Bool)
    (s : C2Runtime F G) :
    interpretScenario env id timeout forceHeuristic s =
      ((sc.interpretation env id timeout forceHeuristic).map fun result =>
        { result with candidateCoa := s.policy.applyDefaults result.candidateCoa },
        (sc.load env id).2.put Obs s) := by
  unfold interpretScenario Scenario.interpretation
  rw [Handler.bind_apply, ingestScenario_apply hsc]
  cases hload : (sc.load env id).1 with
  | error e => rfl
  | ok f =>
    dsimp only
    rw [Handler.get_bind, Showing.put_finding, Scenario.load_finding hload]
    dsimp only [Option.getD, Except.bind]
    rw [Showing.put_graph, Showing.put_policy]
    cases env.interpret (sc.load env id).2.graph f timeout forceHeuristic <;> rfl

omit [PyFloatOps F] [Sha256] in
/-- What no scenario of that name is found for has changed nothing. -/
theorem ingestScenario_absent {env : Env F Obs G} {id : String} {e : Exc}
    (h : env.getScenario id = .error e) (s : C2Runtime F G) :
    ingestScenario env id s = (.error e, s) := by
  unfold ingestScenario
  rw [h]
  rfl

/-! ## Where a handler refuses -/

/-- `HTTPException`, or the `KeyError` that is turned into one. -/
def isRefusal : Exc → Bool
  | .http _ _ | .keyError _ => true
  | _ => false

/-- The computation raises an exception of the kind. -/
def Raised {α : Type} (kinds : Exc → Bool) (r : Except Exc α) : Prop :=
  ∃ e, r = .error e ∧ kinds e = true

/-- A handler refuses before it has changed anything or after it has loaded a scenario, and after
loading it refuses those `P` says. -/
structure RefusedAfter (env : Env F Obs G) (m : C2Handler F G (Json F)) (s : C2Runtime F G)
    (P : String → Scenario F G → Prop) : Prop where
  left : ∀ t, Raises Http m s t → t.held = s.held ∨
    ∃ id sc, P id sc ∧ t.held = ((sc.load env id).2.put Obs s).held
  refused : ∀ id sc, P id sc →
    ∃ t, Raises Http m s t ∧ t.held = ((sc.load env id).2.put Obs s).held

omit [PyFloatOps F] [Sha256] in
/-- Such a handler refuses without a change when the pictures it loads are there already. -/
theorem RefusedAfter.unchanged_iff {env : Env F Obs G} {m : C2Handler F G (Json F)}
    {s : C2Runtime F G} {P : String → Scenario F G → Prop} (h : RefusedAfter env m s P) :
    (∀ t, Raises Http m s t → t.held = s.held) ↔
      ∀ id sc, P id sc → (sc.load env id).2.In Obs s := by
  constructor
  · intro hunchanged id sc hrefused
    obtain ⟨t, hraises, hheld⟩ := h.refused id sc hrefused
    exact Showing.put_held_iff.mp (hheld.symm.trans (hunchanged t hraises))
  · intro hin t hraises
    obtain hheld | ⟨id, sc, hrefused, hheld⟩ := h.left t hraises
    · exact hheld
    · exact hheld.trans (Showing.put_of_in (hin id sc hrefused))

omit [PyFloatOps F] [Sha256] in
theorem RefusedAfter.congr {env : Env F Obs G} {m : C2Handler F G (Json F)} {s : C2Runtime F G}
    {P Q : String → Scenario F G → Prop} (hPQ : ∀ id sc, P id sc ↔ Q id sc)
    (h : RefusedAfter env m s P) : RefusedAfter env m s Q := by
  have hP : P = Q := funext fun id => funext fun sc => propext (hPQ id sc)
  exact hP ▸ h

omit [PyFloatOps F] [Sha256] in
/-- A handler that refuses only before it changes anything. -/
theorem RefusedAfter.of_early {env : Env F Obs G} {m : C2Handler F G (Json F)}
    {s : C2Runtime F G} (h : ∀ t, Raises Http m s t → t = s) :
    RefusedAfter env m s fun _ _ => False :=
  ⟨fun t ht => .inl (congrArg C2Runtime.held (h t ht)), fun _ _ h => h.elim⟩

/-- The handler refuses from the state under the condition, and what it leaves then has these
parts. -/
structure RefusesIf {α : Type} (m : C2Handler F G α) (s : C2Runtime F G) (held : Held F G)
    (cond : Prop) : Prop where
  left : ∀ t, Raises Http m s t → cond ∧ t.held = held
  refused : cond → ∃ t, Raises Http m s t

namespace RefusesIf

variable {α β : Type} {m : C2Handler F G α} {s : C2Runtime F G} {held : Held F G} {cond : Prop}

omit [PyFloatOps F] [Sha256] [EntityGraph F Obs G] in
theorem of_error {e : Exc} {t : C2Runtime F G} (hrun : m s = (.error e, t)) (ht : t.held = held)
    (hcond : cond ↔ Http e) : RefusesIf m s held cond := by
  constructor
  · rintro t' ⟨e', he, hrun'⟩
    rw [hrun] at hrun'
    cases hrun'
    exact ⟨hcond.mpr he, ht⟩
  · intro h
    exact ⟨t, e, hcond.mp h, hrun⟩

omit [PyFloatOps F] [Sha256] [EntityGraph F Obs G] in
theorem of_quiet (hm : Quiet Http m) (hcond : ¬ cond) : RefusesIf m s held cond :=
  ⟨fun t ht => (hm s t ht).elim, fun h => (hcond h).elim⟩

omit [PyFloatOps F] [Sha256] [EntityGraph F Obs G] in
theorem of_bind {f : α → C2Handler F G β} {a : α} {u : C2Runtime F G} (hrun : m s = (.ok a, u))
    (hf : RefusesIf (f a) u held cond) : RefusesIf (m >>= f) s held cond := by
  constructor
  · intro t ht
    exact hf.left t ((Handler.raises_bind_of_ok hrun).mp ht)
  · intro h
    obtain ⟨t, ht⟩ := hf.refused h
    exact ⟨t, (Handler.raises_bind_of_ok hrun).mpr ht⟩

end RefusesIf

omit [PyFloatOps F] [Sha256] in
/-- A handler that refuses when the scenario is not there, or is loaded and then no good. -/
theorem RefusedAfter.of_load {env : Env F Obs G} {m : C2Handler F G (Json F)}
    {s : C2Runtime F G} {id : String} {P : Scenario F G → Prop}
    (habsent : ∀ e, env.getScenario id = .error e → ∀ t, Raises Http m s t → t.held = s.held)
    (hload : ∀ sc, env.getScenario id = .ok sc →
      RefusesIf m s ((sc.load env id).2.put Obs s).held (P sc)) :
    RefusedAfter env m s fun id' sc => id' = id ∧ env.getScenario id = .ok sc ∧ P sc := by
  constructor
  · intro t ht
    cases hsc : env.getScenario id with
    | error e => exact .inl (habsent e hsc t ht)
    | ok sc =>
      obtain ⟨hP, hheld⟩ := (hload sc hsc).left t ht
      exact .inr ⟨id, sc, ⟨rfl, rfl, hP⟩, hheld⟩
  · rintro _ sc ⟨rfl, hsc, hP⟩
    obtain ⟨t, ht⟩ := (hload sc hsc).refused hP
    exact ⟨t, ht, ((hload sc hsc).left t ht).2⟩

omit [PyFloatOps F] [Sha256] [EntityGraph F Obs G] in
/-- A `KeyError` becomes an `HTTPException`, and what was one stays one. -/
theorem raises_keyErrorAs404 {α : Type} {m : C2Handler F G α} {s t : C2Runtime F G} :
    Raises Http (keyErrorAs404 m) s t ↔ Raises (isRefusal · = true) m s t := by
  unfold Raises keyErrorAs404 Handler.tryCatch
  cases m s with
  | mk r u =>
    cases r with
    | ok a => simp
    | error e => cases e <;> simp [Handler.raise, isRefusal, isHttp, Http]

omit [PyFloatOps F] [Sha256] [EntityGraph F Obs G] in
/-- A handler that refuses where another raises does so when the outcome of that is a raise. -/
theorem refusesIf_of_apply {α β γ : Type} {kinds : Exc → Bool} {m : C2Handler F G γ}
    {n : C2Handler F G β} {s u : C2Runtime F G} {r : Except Exc α} {f : α → β}
    (hm : ∀ t, Raises Http m s t ↔ Raises (kinds · = true) n s t) (hn : n s = (r.map f, u)) :
    RefusesIf m s u.held (Raised kinds r) := by
  have hraises (t : C2Runtime F G) : Raises Http m s t ↔ Raised kinds r ∧ t = u := by
    rw [hm, Handler.raises_iff, hn]
    refine and_congr_left fun _ => ?_
    cases r <;> simp [Raised, Except.map]
  constructor
  · intro t ht
    obtain ⟨h, rfl⟩ := (hraises t).mp ht
    exact ⟨h, rfl⟩
  · intro h
    exact ⟨u, (hraises u).mpr ⟨h, rfl⟩⟩

section

variable {env : Env F Obs G} {s : C2Runtime F G}

omit [Sha256] in
theorem interpretScenario_refused {id : String} {timeout : F} {forceHeuristic : Bool}
    {m : C2Handler F G (Json F)}
    (hm : ∀ t, Raises Http m s t ↔
      Raises (isRefusal · = true) (interpretScenario env id timeout forceHeuristic) s t) :
    RefusedAfter env m s fun id' sc => id' = id ∧ env.getScenario id = .ok sc ∧
      Raised isRefusal (sc.interpretation env id timeout forceHeuristic) := by
  refine .of_load (fun e habsent t ht => ?_) fun sc hsc => ?_
  · obtain ⟨e', _, hrun⟩ := (hm t).mp ht
    unfold interpretScenario at hrun
    rw [Handler.bind_error (ingestScenario_absent habsent s)] at hrun
    cases hrun
    rfl
  · exact refusesIf_of_apply hm (interpretScenario_apply hsc _ _ s)

omit [Sha256] in
theorem loadScenario_refused {id : String} {timeout : F} {m : C2Handler F G (Json F)}
    (hm : ∀ t, Raises Http m s t ↔ Raises Http (loadScenario env id timeout) s t) :
    RefusedAfter env m s fun id' sc => id' = id ∧ env.getScenario id = .ok sc ∧
      Raised isHttp (sc.draft env id timeout) := by
  refine .of_load (fun e habsent t ht => ?_) fun sc hsc => ?_
  · obtain ⟨e', _, hrun⟩ := (hm t).mp ht
    unfold loadScenario at hrun
    rw [Handler.bind_error (ingestScenario_absent habsent s)] at hrun
    cases hrun
    rfl
  · exact refusesIf_of_apply hm (loadScenario_apply hsc _ s)

theorem interpretPicture_refused (henv : env.PlainTrail) (req : InterpretRequest F) :
    RefusedAfter env (interpretPicture env req) s fun id sc =>
      id = req.scenarioId ∧ env.getScenario req.scenarioId = .ok sc ∧
        Raised isRefusal (sc.interpretation env req.scenarioId
          (timeoutOr req.timeoutSeconds s.policy.defaultTimeoutSeconds) req.forceHeuristic) := by
  refine interpretScenario_refused fun t => ?_
  unfold interpretPicture
  rw [Handler.raises_get_bind, Handler.raises_bind_quiet, raises_keyErrorAs404]
  intro result
  refine .bind (auditAppend_quiet henv _ _ _ _) fun _ => ?_
  exact .bind .get fun _ => .pure

theorem gateProposals_raises (henv : env.PlainTrail) (req : ProposalRequest F)
    (t : C2Runtime F G) :
    Raises Http (gateProposals env req) s t ↔ Raises Http (proposedCoa env req) s t := by
  unfold gateProposals
  rw [Handler.raises_get_bind]
  refine Handler.raises_bind_quiet fun (coa, interpretation) => ?_
  refine .bind (gateVerify_quiet _ _) fun (ok, reason) => ?_
  dsimp only
  split
  · exact .bind (auditAppend_quiet henv _ _ _ _) fun _ => .pure
  split
  · refine .bind .modify fun _ => .bind .modify fun _ => .bind .modify fun _ => ?_
    refine .bind (auditAppend_quiet henv _ _ _ _) fun _ => ?_
    exact .bind .get fun _ => .pure
  · refine .bind .modify fun _ => .bind .modify fun _ => .bind .get fun _ => ?_
    exact .bind (auditAppend_quiet henv _ _ _ _) fun _ => .pure

theorem gateProposals_refused (henv : env.PlainTrail) (req : ProposalRequest F) :
    RefusedAfter env (gateProposals env req) s fun id sc =>
      id = req.scenarioId.getD "" ∧ id ≠ "" ∧ env.getScenario id = .ok sc ∧
        if req.interpret then
          Raised isRefusal (sc.interpretation env id
            (timeoutOr req.timeoutSeconds s.policy.defaultTimeoutSeconds) req.forceHeuristic)
        else
          Raised isHttp (sc.draft env id
            (timeoutOr req.timeoutSeconds s.policy.defaultTimeoutSeconds)) := by
  by_cases hid : req.scenarioId.getD "" = ""
  · -- no scenario is loaded
    refine .congr (fun id sc => ?_) (.of_early fun t ht => ?_)
    · constructor
      · exact False.elim
      · rintro ⟨rfl, hne, _⟩
        exact hne hid
    · rw [gateProposals_raises henv] at ht
      unfold proposedCoa at ht
      rw [Handler.raises_get_bind] at ht
      dsimp only at ht
      rw [hid, if_neg (by simp), if_neg (by simp)] at ht
      split at ht
      · exact absurd ht (Quiet.pure s t)
      · exact (Handler.raises_raise.mp ht).2
  · by_cases hinterpret : req.interpret = true
    · have hm (t : C2Runtime F G) : Raises Http (gateProposals env req) s t ↔
          Raises (isRefusal · = true) (interpretScenario env (req.scenarioId.getD "")
            (timeoutOr req.timeoutSeconds s.policy.defaultTimeoutSeconds) req.forceHeuristic) s t := by
        rw [gateProposals_raises henv]
        unfold proposedCoa
        rw [Handler.raises_get_bind]
        dsimp only
        rw [if_pos ⟨hid, hinterpret⟩, Handler.raises_bind_quiet fun _ => .pure,
          raises_keyErrorAs404]
      refine .congr (fun id sc => ?_) (interpretScenario_refused hm)
      rw [if_pos hinterpret]
      constructor
      · rintro ⟨rfl, hsc, h⟩
        exact ⟨rfl, hid, hsc, h⟩
      · rintro ⟨rfl, _, hsc, h⟩
        exact ⟨rfl, hsc, h⟩
    · have hm (t : C2Runtime F G) : Raises Http (gateProposals env req) s t ↔
          Raises Http (loadScenario env (req.scenarioId.getD "")
            (timeoutOr req.timeoutSeconds s.policy.defaultTimeoutSeconds)) s t := by
        rw [gateProposals_raises henv]
        unfold proposedCoa
        rw [Handler.raises_get_bind]
        dsimp only
        rw [if_neg fun h => hinterpret h.2, if_pos hid, Handler.raises_bind_quiet fun _ => .pure]
      refine .congr (fun id sc => ?_) (loadScenario_refused hm)
      rw [if_neg hinterpret]
      constructor
      · rintro ⟨rfl, hsc, h⟩
        exact ⟨rfl, hid, hsc, h⟩
      · rintro ⟨rfl, _, hsc, h⟩
        exact ⟨rfl, hsc, h⟩

theorem gateApprove_refused (henv : env.PlainTrail) (req : ApproveRequest) :
    RefusedAfter env (gateApprove env req) s fun _ _ => False := by
  refine .of_early fun t ht => ?_
  unfold gateApprove at ht
  rw [Handler.raises_get_bind, Handler.raises_bind_quiet] at ht
  · exact (Handler.raises_ofExcept.mp ht).2
  intro d
  refine .bind .modify fun _ => .bind .modify fun _ => ?_
  refine .bind (auditAppend_quiet henv _ _ _ _) fun _ => ?_
  dsimp only
  split
  · refine .bind (issueUnits_quiet henv _ _ _ _) fun _ => ?_
    exact .bind .modify fun _ => .pure
  · exact .pure

theorem recipientAck_refused (henv : env.PlainTrail) (req : AckRequest F) :
    RefusedAfter env (recipientAck env req) s fun _ _ => False := by
  refine .of_early fun t ht => ?_
  unfold recipientAck at ht
  rw [Handler.raises_get_bind] at ht
  split at ht
  · exact (Handler.raises_raise.mp ht).2
  · split at ht
    · exact (Handler.raises_raise.mp ht).2
    · refine absurd ht (Quiet.bind .modify (fun _ => ?_) s t)
      refine .bind .modify fun _ => .bind .modify fun _ => .bind .modify fun _ => ?_
      exact .bind (auditAppend_quiet henv _ _ _ _) fun _ => .pure

/-! ## The guardrail -/

/-- The policy the guardrail checks with. -/
def refreshedPolicy (env : Env F Obs G) (policy : TieredPolicy F) : Except Exc (TieredPolicy F) :=
  match env.loadPois with
  | .ok pois => .ok { policy with interlock := policy.interlock.setCniPois pois }
  | .error (.osError _) => .ok policy
  | .error e => .error e

/-- The answer on Option B, if the guardrail gets there. -/
def Scenario.optionB (env : Env F Obs G) (policy : TieredPolicy F) (id : String)
    (sc : Scenario F G) (timeout : F) : Except Exc (Bool × Option String) := do
  let coa ← sc.draft env id timeout
  let finding ← (sc.load env id).1
  let dangerous := dangerousDraft (policy.applyDefaults coa)
  let _ ← policy.interlock.verify dangerous
  let fallback ← buildOptionBFallback env dangerous (some finding)
  policy.interlock.verify (policy.applyDefaults fallback)

/-- The guardrail is refused after it has loaded the scenario. -/
def Scenario.VetoRefused (env : Env F Obs G) (policy : TieredPolicy F) (id : String)
    (sc : Scenario F G) (timeout : F) : Prop :=
  ∃ policy', refreshedPolicy env policy = .ok policy' ∧
    (Raised isHttp (sc.optionB env policy' id timeout) ∨
      ∃ reason, sc.optionB env policy' id timeout = .ok (false, reason))

omit [PyFloatOps F] [Sha256] [EntityGraph F Obs G] in
theorem refreshPois_apply (env : Env F Obs G) (s : C2Runtime F G) :
    refreshPois env s = match refreshedPolicy env s.policy with
      | .ok policy => (.ok (), { s with policy := policy })
      | .error e => (.error e, s) := by
  unfold refreshPois refreshedPolicy
  cases env.loadPois with
  | ok pois => rfl
  | error e => cases e <;> rfl

omit [PyFloatOps F] [Sha256] [EntityGraph F Obs G] in
theorem refreshedPolicy_active {env : Env F Obs G} {policy policy' : TieredPolicy F}
    (h : refreshedPolicy env policy = .ok policy') :
    policy'.interlock.activeCoaIds = policy.interlock.activeCoaIds := by
  unfold refreshedPolicy at h
  split at h <;> cases h <;> rfl

variable (Obs) in
omit [PyFloatOps F] [Sha256] in
/-- A picture put in under another policy leaves the same, if the same taskings are active. -/
theorem Showing.put_held_policy (p : Showing F G) {s : C2Runtime F G} {policy : TieredPolicy F}
    (h : policy.interlock.activeCoaIds = s.policy.interlock.activeCoaIds) :
    (p.put Obs { s with policy := policy }).held = (p.put Obs s).held := by
  unfold Showing.put
  dsimp only
  split
  · unfold C2Runtime.held C2Runtime.persistPicture
    dsimp only
    rw [h]
  · unfold C2Runtime.held
    dsimp only
    rw [h]

/-- The answer on Option B is no, or is an `HTTPException`. -/
def RefusesB (answer : Except Exc (Bool × Option String)) : Prop :=
  Raised isHttp answer ∨ ∃ reason, answer = .ok (false, reason)

omit [Sha256] [EntityGraph F Obs G] in
/-- A check of the interlock, and what is done with its answer. -/
theorem RefusesIf.check {timeout : F} {coa : CourseOfAction F} {u : C2Runtime F G}
    {policy : TieredPolicy F} (hpolicy : u.policy = policy)
    {k : Bool × Option String → C2Handler F G (Json F)}
    {g : Bool × Option String → Except Exc (Bool × Option String)}
    (h : ∀ answer : Bool × Option String,
      RefusesIf (k answer) (u.noteVerified coa answer.1) u.held (RefusesB (g answer))) :
    RefusesIf (gateVerify timeout coa >>= k) u u.held
      (RefusesB (policy.interlock.verify coa >>= g)) := by
  have hcheck := gateVerify_apply timeout coa u
  rw [hpolicy] at hcheck
  cases hverify : policy.interlock.verify coa with
  | error e =>
    rw [hverify] at hcheck
    exact .of_error (Handler.bind_error hcheck) rfl (by simp [RefusesB, Raised, bind, Except.bind])
  | ok answer =>
    rw [hverify] at hcheck
    exact .of_bind hcheck (h answer)

theorem guardrail_refused (henv : env.PlainTrail) (req : GuardrailDemoRequest F) :
    RefusedAfter env (gateDemoEvaluateWithGuardrail env req) s fun id sc =>
      id = req.scenarioId ∧ env.getScenario req.scenarioId = .ok sc ∧
        sc.VetoRefused env s.policy req.scenarioId
          (timeoutOr req.timeoutSeconds s.policy.defaultTimeoutSeconds) := by
  unfold gateDemoEvaluateWithGuardrail
  have hrefresh := refreshPois_apply env s
  cases hpolicy : refreshedPolicy env s.policy with
  | error e =>
    rw [hpolicy] at hrefresh
    refine .congr (fun id sc => ?_) (.of_early fun t ht => ?_)
    · refine ⟨False.elim, ?_⟩
      rintro ⟨_, _, policy', hpolicy', _⟩
      rw [hpolicy] at hpolicy'
      cases hpolicy'
    · rw [Handler.raises_get_bind, Handler.raises_bind_of_error hrefresh] at ht
      exact ht.2
  | ok policy =>
    rw [hpolicy] at hrefresh
    have hactive := refreshedPolicy_active hpolicy
    refine .of_load (fun e habsent t ht => ?_) fun sc hsc => ?_
    · have hload : loadScenario env req.scenarioId
          (timeoutOr req.timeoutSeconds s.policy.defaultTimeoutSeconds)
          { s with policy := policy } = (.error e, { s with policy := policy }) :=
        Handler.bind_error (ingestScenario_absent habsent _)
      rw [Handler.raises_get_bind, Handler.raises_bind_of_ok hrefresh,
        Handler.raises_bind_of_error hload] at ht
      rw [ht.2]
      unfold C2Runtime.held
      rw [hactive]
    have hload := loadScenario_apply hsc
      (timeoutOr req.timeoutSeconds s.policy.defaultTimeoutSeconds) { s with policy := policy }
    have hheld := Showing.put_held_policy Obs (sc.load env req.scenarioId).2 hactive
    have hcond : sc.VetoRefused env s.policy req.scenarioId
        (timeoutOr req.timeoutSeconds s.policy.defaultTimeoutSeconds) ↔ _ :=
      ⟨fun ⟨p, hp, h⟩ => Except.ok.inj (hpolicy.symm.trans hp) ▸ h, fun h => ⟨policy, hpolicy, h⟩⟩
    rw [hcond]
    refine .of_bind (a := s) (u := s) rfl (.of_bind hrefresh ?_)
    generalize timeoutOr req.timeoutSeconds s.policy.defaultTimeoutSeconds = timeout at hload ⊢
    have hfound := Showing.put_finding Obs (sc.load env req.scenarioId).2
      ({ s with policy := policy } : C2Runtime F G)
    have hkept := Showing.put_policy Obs (sc.load env req.scenarioId).2
      ({ s with policy := policy } : C2Runtime F G)
    rw [← hheld]
    generalize (sc.load env req.scenarioId).2.put Obs { s with policy := policy } = u
      at hload hfound hkept ⊢
    unfold Scenario.optionB
    cases hdraft : sc.draft env req.scenarioId timeout with
    | error e =>
      rw [hdraft] at hload
      exact .of_error (Handler.bind_error hload) rfl (by simp [Raised, bind, Except.bind])
    | ok coa =>
      rw [hdraft] at hload
      obtain ⟨f, hf⟩ : ∃ f, (sc.load env req.scenarioId).1 = .ok f :=
        (except_bind_eq_ok.mp hdraft).imp fun _ h => h.1
      rw [Scenario.load_finding hf] at hfound
      rw [hf]
      refine .of_bind hload ?_
      change RefusesIf _ _ _ (RefusesB (policy.interlock.verify (dangerousDraft (policy.applyDefaults coa))
        >>= fun _ => buildOptionBFallback env (dangerousDraft (policy.applyDefaults coa)) (some f)
        >>= fun fallback => policy.interlock.verify (policy.applyDefaults fallback)))
      dsimp only
      generalize dangerousDraft (policy.applyDefaults coa) = dangerous
      change u.policy = policy at hkept
      refine .check hkept fun (ok, reason) => ?_
      refine .of_bind (a := u.noteVerified dangerous ok) (u := u.noteVerified dangerous ok) rfl ?_
      dsimp only
      rw [show (u.noteVerified dangerous ok).finding = some f from hfound]
      cases hfallback : buildOptionBFallback env dangerous (some f) with
      | error e =>
        exact .of_error (t := u.noteVerified dangerous ok) rfl rfl
          (by simp [RefusesB, Raised, bind, Except.bind])
      | ok fallback =>
      refine .of_bind (a := fallback) (u := u.noteVerified dangerous ok) rfl ?_
      rw [show (u.noteVerified dangerous ok).policy = policy from hkept]
      change RefusesIf _ _ _ (RefusesB (policy.interlock.verify (policy.applyDefaults fallback)))
      rw [← bind_pure (policy.interlock.verify (policy.applyDefaults fallback))]
      refine .check (u := u.noteVerified dangerous ok) hkept fun (okB, reasonB) => ?_
      cases okB with
      | false => exact .of_error rfl rfl (by simp [RefusesB, Http, isHttp, pure, Except.pure])
      | true =>
        refine .of_quiet ?_ (by simp [RefusesB, Raised, pure, Except.pure])
        refine .bind .modify fun _ => .bind .modify fun _ => ?_
        refine .bind (auditAppend_quiet henv _ _ _ _) fun _ => ?_
        exact .bind .get fun _ => .pure

end

/-! ## Refused requests -/

omit [PyFloatOps F] [Sha256] [EntityGraph F Obs G] in
/-- The five requests of the gate. -/
def Request.IsGate : Request F → Prop
  | .interpret _ | .proposals _ | .guardrail _ | .approve _ | .ack _ => True
  | _ => False

/-- The request loads the scenario under this id and refuses it. -/
def Request.RefusedOn (env : Env F Obs G) (policy : TieredPolicy F) :
    Request F → String → Scenario F G → Prop
  | .interpret req, id, sc => id = req.scenarioId ∧ env.getScenario req.scenarioId = .ok sc ∧
      Raised isRefusal (sc.interpretation env req.scenarioId
        (timeoutOr req.timeoutSeconds policy.defaultTimeoutSeconds) req.forceHeuristic)
  | .proposals req, id, sc =>
    id = req.scenarioId.getD "" ∧ id ≠ "" ∧ env.getScenario id = .ok sc ∧
      if req.interpret then
        Raised isRefusal (sc.interpretation env id
          (timeoutOr req.timeoutSeconds policy.defaultTimeoutSeconds) req.forceHeuristic)
      else
        Raised isHttp (sc.draft env id
          (timeoutOr req.timeoutSeconds policy.defaultTimeoutSeconds))
  | .guardrail req, id, sc => id = req.scenarioId ∧ env.getScenario req.scenarioId = .ok sc ∧
      sc.VetoRefused env policy req.scenarioId
        (timeoutOr req.timeoutSeconds policy.defaultTimeoutSeconds)
  | _, _, _ => False

omit [PyFloatOps F] [Sha256] [EntityGraph F Obs G] in
/-- A handler that is answered with an error has raised it. -/
theorem respond_json_error {m : C2Handler F G (Json F)} {s : C2Runtime F G} {e : Exc} :
    (respond .json m s).1 = .error e ↔ (m s).1 = .error e := by
  unfold respond
  cases m s with
  | mk r t => cases r <;> simp

omit [PyFloatOps F] [Sha256] in
/-- What a refused request leaves, in terms of its handler. -/
theorem RefusedAfter.respond_iff {env : Env F Obs G} {m : C2Handler F G (Json F)}
    {s : C2Runtime F G} {P : String → Scenario F G → Prop} (h : RefusedAfter env m s P) :
    (∀ e, (respond .json m s).1 = .error e → Http e → (respond .json m s).2.held = s.held) ↔
      ∀ id sc, P id sc → (sc.load env id).2.In Obs s := by
  rw [← h.unchanged_iff, respond_snd]
  constructor
  · intro hheld t ht
    obtain ⟨⟨e, he, hp⟩, rfl⟩ := Handler.raises_iff.mp ht
    exact hheld e (respond_json_error.mpr he) hp
  · intro hheld e he hp
    exact hheld _ (Handler.raises_iff.mpr ⟨⟨e, respond_json_error.mp he, hp⟩, rfl⟩)

/-- A refused request of the gate leaves everything as it was exactly when every scenario it
loads and refuses shows the picture that is there already. -/
theorem refused_unchanged_iff {env : Env F Obs G} (henv : env.PlainTrail) {req : Request F}
    (hreq : req.IsGate) (s : C2Runtime F G) :
    (∀ e, (handle env req s).1 = .error e → isHttp e = true →
        (handle env req s).2.held = s.held) ↔
      ∀ id sc, req.RefusedOn env s.policy id sc → (sc.load env id).2.In Obs s := by
  cases req with
  | interpret req => exact (interpretPicture_refused henv req).respond_iff
  | proposals req => exact (gateProposals_refused henv req).respond_iff
  | guardrail req => exact (guardrail_refused henv req).respond_iff
  | approve req => exact (gateApprove_refused henv req).respond_iff
  | ack req => exact (recipientAck_refused henv req).respond_iff
  | _ => exact hreq.elim

end

/-- Another scenario of the registry. -/
def swarmScenario : Scenario Whole Unit := { trojanScenario with id := "S2_osint_swarm" }

/-- What a request finds outside when both scenarios are there. -/
def twoScenarios : Env Whole Unit Unit :=
  { demoEnv fun _ _ => none with
    getScenario := fun id =>
      if id = "S2_osint_swarm" then .ok swarmScenario
      else (demoEnv fun _ _ => none).getScenario id }

/-- The guardrail is run, its Option B is approved, and another scenario is proposed. -/
def approvedOptionB : List (Served Whole Unit Unit) :=
  [⟨twoScenarios, .guardrail ⟨"S1_trojan", "u1", "navy", none⟩⟩,
    ⟨twoScenarios, .approve ⟨"uuid-3", "yes", "op"⟩⟩,
    ⟨twoScenarios, .proposals ⟨some "S2_osint_swarm", none, "u1", none, false, false⟩⟩]

/-- The guardrail is run again. -/
def guardrailAgain : Request Whole := .guardrail ⟨"S1_trojan", "u1", "navy", none⟩

/-- The answer is an `HTTPException`. -/
def Response.refused {F : Type} : Response F → Bool
  | .error e => isHttp e
  | _ => false

/-- Option B is a duplicate of the one approved, so the request is refused, but the picture is
that of the scenario it loaded. -/
theorem refused_replaces_picture :
    letI := plainHash
    ∃ (tr : List DemoTransition) (s : C2Runtime Whole Unit), Run Step demoServer tr s ∧
      ¬ ∀ req : Request Whole, req.IsGate → ∀ e, (handle twoScenarios req s).1 = .error e →
        isHttp e = true → (handle twoScenarios req s).2.held = s.held := by
  let := plainHash
  refine ⟨_, _, run_demoTrace approvedOptionB, fun h => ?_⟩
  have hrefused : (handle twoScenarios guardrailAgain
      (approvedOptionB.foldl serve demoServer)).1.refused = true := by decide +kernel
  have hpicture : (handle twoScenarios guardrailAgain
      (approvedOptionB.foldl serve demoServer)).2.scenarioId ≠
        (approvedOptionB.foldl serve demoServer).scenarioId := by decide +kernel
  have hunchanged := h guardrailAgain trivial
  generalize handle twoScenarios guardrailAgain (approvedOptionB.foldl serve demoServer) = answer
    at hrefused hpicture hunchanged
  generalize approvedOptionB.foldl serve demoServer = s at hpicture hunchanged
  obtain ⟨_ | _ | e, t⟩ := answer
  · cases hrefused
  · cases hrefused
  · exact hpicture (congrArg Held.scenarioId (hunchanged e rfl hrefused))

theorem refused_unchanged_iff_approvedOptionB :
    letI := plainHash
    (∀ e, (handle twoScenarios guardrailAgain (approvedOptionB.foldl serve demoServer)).1 =
        .error e → isHttp e = true →
        (handle twoScenarios guardrailAgain (approvedOptionB.foldl serve demoServer)).2.held =
          (approvedOptionB.foldl serve demoServer).held) ↔
      ∀ id sc, guardrailAgain.RefusedOn twoScenarios
          (approvedOptionB.foldl serve demoServer).policy id sc →
        (sc.load twoScenarios id).2.In Unit (approvedOptionB.foldl serve demoServer) := by
  let := plainHash
  have htrail : twoScenarios.PlainTrail := fun _ _ _ h => by cases h
  have hgate : guardrailAgain.IsGate := trivial
  exact refused_unchanged_iff htrail hgate _

end NexusC2
