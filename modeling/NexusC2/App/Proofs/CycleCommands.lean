import NexusC2.App.C2Cycle
import NexusC2.App.Proofs.GateRuns
import NexusC2.Core.Proofs.AuditChain
import NexusC2.Core.Proofs.GateVerdicts

/-!
# The commands of the command-line cycle

The decision of the gate is in the trail before the effector is asked for anything, and what the
decisions of the trail call for is what the effectors were asked for, in the same order. So a COA is
dispatched only where its approval is on record, whatever raises on the way.
-/

namespace NexusC2

/-- What the effector is to do after a decision. -/
inductive Order where
  | dispatch (coaId : String)
  | stationKeep
  deriving DecidableEq, Repr

/-- What a command does. -/
def Command.order {F : Type} : Command F → Order
  | .dispatch coa => .dispatch coa.coaId
  | .stationKeep => .stationKeep

/-- What a verdict calls for. -/
def GateVerdict.orders (coaId : String) : GateVerdict → List Order
  | .approved => [.dispatch coaId]
  | .timedOutFallback => [.stationKeep]
  | .rejectedFast | .rejectedOperator => []

section

variable {F : Type}

/-- The metadata of a record of a gate decision. -/
def recordDecision (r : Record F) : Option (Fields F) :=
  if isStr (Assoc.get r "activity_name") "gate_decision" then
    (Assoc.get r "metadata").bind Json.obj?
  else none

/-- What the verdict in the metadata of a decision calls for. -/
def dataOrders (data : Fields F) : List Order :=
  let coaId := ((Assoc.get data "coa_id").bind Json.str?).getD ""
  if isStr (Assoc.get data "verdict") "APPROVED" then [.dispatch coaId]
  else if isStr (Assoc.get data "verdict") "TIMED_OUT_FALLBACK" then [.stationKeep]
  else []

/-- What a record calls for. -/
def recordOrders (r : Record F) : List Order :=
  match recordDecision r with
  | some data => dataOrders data
  | none => []

/-- The metadata `run_c2_cycle` records a decision with. -/
def cycleDecision (scenarioId : String) (coa : CourseOfAction F) (verdict : GateVerdict)
    (token : DecisionToken) : Fields F :=
  [("coa_id", .str coa.coaId), ("verdict", .str verdict.value), ("token", token.modelDump),
    ("scenario", .str scenarioId)]

variable [PyFloatOps F] [Sha256] {prev severity time : String}

theorem recordDecision_sealRecord {event : String} {data : Fields F} :
    recordDecision (sealRecord prev event severity time data) =
      if event = "gate_decision" then some data else none := by
  change (if isStr (some (.str event)) "gate_decision" then _ else _) = _
  by_cases h : event = "gate_decision"
  · rw [if_pos h, if_pos (by simp [isStr, h])]
    rfl
  · rw [if_neg h, if_neg (by simp [isStr, h])]

theorem recordOrders_of_ne {event : String} (h : event ≠ "gate_decision") (data : Fields F) :
    recordOrders (sealRecord prev event severity time data) = [] := by
  unfold recordOrders
  rw [recordDecision_sealRecord, if_neg h]

theorem recordOrders_decision (scenarioId : String) (coa : CourseOfAction F) (verdict : GateVerdict)
    (token : DecisionToken) :
    recordOrders (sealRecord prev "gate_decision" severity time
      (cycleDecision scenarioId coa verdict token)) = verdict.orders coa.coaId := by
  unfold recordOrders
  rw [recordDecision_sealRecord, if_pos rfl]
  cases verdict <;> rfl

end

/-! ## What a run leaves -/

section

variable {F D S : Type} [PyMathOps F] [Sha256]

/-- The gate of a run with this policy file. -/
def CycleEnv.gate (env : CycleEnv F D S) (file : PolicyFile F) : LatencyBoundedGate F :=
  ⟨env.timeout (.fromYaml file), (TieredPolicy.fromYaml file).interlock⟩

/-- The run puts this COA before its gate: the scenario builds it for a finding of its own detector,
and the policy of this file fills in the defaults. -/
def CycleEnv.Proposes (env : CycleEnv F D S) (file : PolicyFile F) (coa : CourseOfAction F) : Prop :=
  ∃ scenario graph finding built, env.scenario = .ok scenario ∧ env.policyFile = .ok file ∧
    scenario.detect graph = .ok (some finding) ∧
    scenario.buildCoa graph finding (env.timeout (.fromYaml file)) = .ok built ∧
    coa = (TieredPolicy.fromYaml file).applyDefaults built

/-- The run puts this COA before its gate, and this is the answer. -/
def CycleEnv.Decides (env : CycleEnv F D S) (coa : CourseOfAction F) (verdict : GateVerdict)
    (token : DecisionToken) : Prop :=
  ∃ file, env.Proposes file coa ∧
    (env.gate file).evaluate coa (env.queue (.fromYaml file)) env.tokenStamp = .ok (verdict, token)

/-- Between two states: the trail goes on and is live, what its new decisions call for was commanded,
up to what is still due, and a new decision is one of the run. -/
structure Account (env : CycleEnv F D S) (s₀ : CycleState F S) (due : List Order)
    (s : CycleState F S) : Prop where
  live : s.audit.Live
  grown : ∃ added cmds, s.audit.records = s₀.audit.records ++ added ∧
    s.commands = s₀.commands ++ cmds ∧
    added.flatMap recordOrders = cmds.map Command.order ++ due ∧
    (cmds = [] → s.effector = s₀.effector) ∧
    (∀ r ∈ added, ∀ data, recordDecision r = some data → ∃ scenarioId coa verdict token,
      data = cycleDecision scenarioId coa verdict token ∧ env.Decides coa verdict token) ∧
    ∀ coa, Command.dispatch coa ∈ cmds → ∃ token, env.Decides coa .approved token

variable {env : CycleEnv F D S} {s₀ s : CycleState F S} {due : List Order}

theorem Account.start (hlive : s.audit.Live) : Account env s [] s :=
  ⟨hlive, [], [], by simp, by simp, rfl, fun _ => rfl, by simp, by simp⟩

/-- A new record, with what it calls for. -/
theorem Account.append {event severity time : String} {data : Fields F}
    (h : Account env s₀ due s)
    (hdecision : event = "gate_decision" → ∃ scenarioId coa verdict token,
      data = cycleDecision scenarioId coa verdict token ∧ env.Decides coa verdict token) :
    Account env s₀ (due ++ recordOrders (sealRecord s.audit.prev event severity time data))
      { s with audit := (s.audit.append event severity time data).2 } := by
  obtain ⟨hlive, added, cmds, hrecords, hcommands, horders, hstill, hdecided, hdispatched⟩ := h
  refine ⟨hlive.append _ _ _ _, added ++ [sealRecord s.audit.prev event severity time data], cmds,
    ?_, hcommands, ?_, hstill, ?_, hdispatched⟩
  · exact (congrArg (· ++ [_]) hrecords).trans (List.append_assoc _ _ _)
  · rw [List.flatMap_append, horders, List.append_assoc]
    simp
  · intro r hr data' hdata
    rcases List.mem_append.mp hr with hr | hr
    · exact hdecided r hr data' hdata
    rw [List.mem_singleton.mp hr, recordDecision_sealRecord] at hdata
    split at hdata
    · cases hdata
      exact hdecision ‹_›
    · cases hdata

theorem cycleAppend_spec {event severity : String} {data : Fields F} {new : List Order}
    (hdecision : event = "gate_decision" → ∃ scenarioId coa verdict token,
      data = cycleDecision scenarioId coa verdict token ∧ env.Decides coa verdict token)
    (hnew : ∀ prev time, recordOrders (sealRecord prev event severity time data) = new) :
    Handler.Triple (Account env s₀ due) (cycleAppend env event severity data)
      (fun _ => Account env s₀ (due ++ new)) (fun _ => Account env s₀ due) := by
  unfold cycleAppend
  cases env.appendRaises event with
  | some e => exact .raise fun _ h => h
  | none =>
    refine .modify fun s h => ?_
    have happend := hnew s.audit.prev (env.utcNow event) ▸ h.append hdecision
    exact happend

/-- A record of another event. -/
theorem account_append {event : String} (hevent : event ≠ "gate_decision") (severity : String)
    (data : Fields F) :
    Handler.Keeps (Account env s₀ due) (cycleAppend env event severity data) := by
  have hspec : Handler.Triple (Account env s₀ due) (cycleAppend env event severity data)
      (fun _ => Account env s₀ (due ++ [])) (fun _ => Account env s₀ due) :=
    cycleAppend_spec (fun heq => absurd heq hevent) fun _ _ => recordOrders_of_ne hevent data
  rwa [List.append_nil] at hspec

/-- The command that is due is given; the effector may end anyhow. -/
theorem Account.command {command : Command F} (h : Account env s₀ [command.order] s)
    (hcommand : ∀ coa, command = .dispatch coa → ∃ token, env.Decides coa .approved token)
    (effector : S) : Account env s₀ []
      { s with commands := s.commands ++ [command], effector := effector } := by
  obtain ⟨hlive, added, cmds, hrecords, hcommands, horders, -, hdecided, hdispatched⟩ := h
  refine ⟨hlive, added, cmds ++ [command], hrecords, ?_, ?_, ?_, hdecided, ?_⟩
  · show s.commands ++ [command] = _
    rw [hcommands, List.append_assoc]
  · rw [horders, List.map_append, List.append_nil]
    rfl
  · simp
  · intro coa hcoa
    rcases List.mem_append.mp hcoa with hcoa | hcoa
    · exact hdispatched coa hcoa
    · exact hcommand coa (List.mem_singleton.mp hcoa).symm

/-- A run may end with a command that is still due where its effector was not to be had. -/
def Settled (env : CycleEnv F D S) (s₀ s : CycleState F S) : Prop :=
  ∃ due, Account env s₀ due s ∧ (due ≠ [] → env.effector.isOk = false)

theorem Settled.live (h : Settled env s₀ s) : s.audit.Live := by
  obtain ⟨due, haccount, -⟩ := h
  exact haccount.live

theorem Account.settled (h : Account env s₀ [] s) : Settled env s₀ s := ⟨[], h, fun h => absurd rfl h⟩

theorem commandEffector_spec (command : Command F) {call : Handler Exc S (ExecutionReceipt F)}
    (hcommand : ∀ coa, command = .dispatch coa → ∃ token, env.Decides coa .approved token) :
    Handler.Triple (Account env s₀ [command.order]) (commandEffector command call)
      (fun _ => Account env s₀ []) (fun _ => Settled env s₀) := by
  intro s h
  have hrun : commandEffector command call s = ((call s.effector).1,
      { s with commands := s.commands ++ [command], effector := (call s.effector).2 }) := rfl
  have hafter := h.command hcommand (call s.effector).2
  rw [hrun]
  cases (call s.effector).1 with
  | ok receipt => exact hafter
  | error e => exact hafter.settled

/-- What the verdict calls for is done, and then recorded. -/
theorem cycleEffect_spec {coa : CourseOfAction F} {verdict : GateVerdict} {token : DecisionToken}
    (hdecides : env.Decides coa verdict token) :
    Handler.Triple (Account env s₀ (verdict.orders coa.coaId)) (cycleEffect env coa verdict)
      (fun _ => Account env s₀ []) (fun _ => Settled env s₀) := by
  have hnote : ∀ event data, event ≠ "gate_decision" →
      Handler.Ends (Account env s₀ []) (Settled env s₀) (cycleAppend env event "High" data) :=
    fun event data hevent =>
      (account_append hevent "High" data).ends fun _ h => h.settled
  unfold cycleEffect
  cases heffector : env.effector with
  | error e => exact .raise fun s h => ⟨_, h, fun _ => by rw [heffector]; rfl⟩
  | ok effector =>
    refine .bind (Q := fun _ => Account env s₀ (verdict.orders coa.coaId))
      (.ofExcept (fun _ _ _ h => h) fun _ _ he => by cases he) fun effector => ?_
    cases verdict with
    | approved =>
      refine .bind (commandEffector_spec (.dispatch coa) ?_) fun _ =>
        hnote _ _ (by decide)
      rintro _ ⟨⟩
      exact ⟨token, hdecides⟩
    | timedOutFallback =>
      refine .bind (commandEffector_spec .stationKeep ?_) fun _ =>
        hnote _ _ (by decide)
      rintro _ ⟨⟩
    | rejectedFast => exact .pure fun _ h => h
    | rejectedOperator => exact .pure fun _ h => h

/-- From the finding on. -/
theorem cycleTasking_spec {scenario : Scenario F (SpatialEntityGraph F D)} {file : PolicyFile F}
    {graph : SpatialEntityGraph F D} {finding : Finding F} (hscenario : env.scenario = .ok scenario)
    (hfile : env.policyFile = .ok file) (hfinding : scenario.detect graph = .ok (some finding)) :
    Handler.Ends (Account env s₀ []) (Settled env s₀)
      (cycleTasking env scenario (.fromYaml file) graph finding) := by
  have hsettled : ∀ s, Account env s₀ [] s → Settled env s₀ s := fun _ h => h.settled
  unfold cycleTasking
  refine .ofExcept_bind hsettled fun built hbuilt => ?_
  refine .bind ((account_append (by decide) _ _).ends hsettled) fun _ => ?_
  refine .ofExcept_bind hsettled fun decided hdecided => ?_
  have hdecides : env.Decides ((TieredPolicy.fromYaml file).applyDefaults built) decided.1
      decided.2 :=
    ⟨file, ⟨scenario, graph, finding, built, hscenario, hfile, hfinding, hbuilt, rfl⟩, hdecided⟩
  refine Handler.Triple.bind (Q := fun _ => Account env s₀ (decided.1.orders _)) ?_ fun _ =>
    .bind (cycleEffect_spec hdecides) fun _ => .pure fun _ h => h
  exact (cycleAppend_spec
    (fun _ => ⟨scenario.id, _, decided.1, decided.2, rfl, hdecides⟩)
    fun prev time => recordOrders_decision scenario.id _ decided.1 decided.2).conseq
      (fun _ h => h) (fun _ _ h => h) fun _ s => hsettled s

variable [PyDateTime D]

/-- Before the finding, nothing is decided. -/
theorem cyclePicture_spec (scenario : Scenario F (SpatialEntityGraph F D)) :
    Handler.Keeps (Account env s₀ []) (cyclePicture env scenario) := by
  unfold cyclePicture
  refine .ofExcept_bind fun events _ => .ofExcept_bind fun observations _ =>
    .ofExcept_bind fun graph _ => .bind (account_append (by decide) _ _) fun _ =>
    .ofExcept_bind fun extra _ => ?_
  split
  · exact .pure
  · exact .ofExcept_bind fun graph _ => .bind (account_append (by decide) _ _) fun _ => .pure

/-- A whole run, from the trail it opens. -/
theorem runC2Cycle_spec :
    Handler.Ends (Account env s₀ []) (Settled env s₀) (runC2Cycle env) := by
  have hsettled : ∀ s, Account env s₀ [] s → Settled env s₀ s := fun _ h => h.settled
  unfold runC2Cycle
  refine .ofExcept_bind hsettled fun scenario hscenario =>
    .ofExcept_bind hsettled fun file hfile => ?_
  refine .bind (.modify fun s h => ?_) fun _ => ?_
  · rwa [h.live.reopen]
  refine .bind ((cyclePicture_spec scenario).ends hsettled) fun graph =>
    .ofExcept_bind hsettled fun found hfound => ?_
  cases found with
  | none => exact .bind ((account_append (by decide) _ _).ends hsettled) fun _ => .pure
  | some finding => exact cycleTasking_spec hscenario hfile hfound

end

/-! ## Runs one after the other -/

section

variable {F D S : Type} [PyMathOps F] [Sha256]

/-- What runs have added to the trail and asked of the effectors. -/
structure CycleLedger (envs : List (CycleEnv F D S)) (s t : CycleState F S) (added : List (Record F))
    (cmds : List (Command F)) : Prop where
  live : t.audit.Live
  records : t.audit.records = s.audit.records ++ added
  commands : t.commands = s.commands ++ cmds
  recorded : (cmds.map Command.order).Sublist (added.flatMap recordOrders)
  given : (∀ env ∈ envs, env.effector.isOk = true) →
    cmds.map Command.order = added.flatMap recordOrders
  untouched : cmds = [] → t.effector = s.effector
  decided : ∀ r ∈ added, ∀ data, recordDecision r = some data →
    ∃ env ∈ envs, ∃ scenarioId coa verdict token,
      data = cycleDecision scenarioId coa verdict token ∧ env.Decides coa verdict token
  dispatched : ∀ coa, Command.dispatch coa ∈ cmds → ∃ env ∈ envs, ∃ file, env.Proposes file coa ∧
    (env.gate file).Accepts coa ∧ (env.gate file).Authorized coa (env.queue (.fromYaml file))

theorem CycleLedger.nil {s : CycleState F S} (hlive : s.audit.Live) :
    CycleLedger ([] : List (CycleEnv F D S)) s s [] [] :=
  ⟨hlive, by simp, by simp, by simp, fun _ => rfl, fun _ => rfl, by simp, by simp⟩

/-- What a run that is approved says of its gate. -/
theorem CycleEnv.Decides.approved {env : CycleEnv F D S} {coa : CourseOfAction F}
    {token : DecisionToken} (h : env.Decides coa .approved token) :
    ∃ file, env.Proposes file coa ∧ (env.gate file).Accepts coa ∧
      (env.gate file).Authorized coa (env.queue (.fromYaml file)) := by
  obtain ⟨file, hproposes, hdecided⟩ := h
  refine ⟨file, hproposes, ?_⟩
  have hdeny := (env.gate file).evaluate_default_deny coa (env.queue (.fromYaml file)) env.tokenStamp
  apply hdeny.approved.mp
  rw [LatencyBoundedGate.verdict, hdecided]
  rfl

/-- A run, and the runs after it. -/
theorem CycleLedger.cons {env : CycleEnv F D S} {envs : List (CycleEnv F D S)}
    {s t u : CycleState F S} {added : List (Record F)} {cmds : List (Command F)} (h : Settled env s t)
    (hrest : CycleLedger envs t u added cmds) :
    ∃ first given, CycleLedger (env :: envs) s u (first ++ added) (given ++ cmds) := by
  obtain ⟨due, ⟨-, first, given, hrecords, hcommands, horders, hstill, hdecided, hdispatched⟩,
    hdue⟩ := h
  refine ⟨first, given, hrest.live, ?_, ?_, ?_, ?_, ?_, ?_, ?_⟩
  · rw [hrest.records, hrecords, List.append_assoc]
  · rw [hrest.commands, hcommands, List.append_assoc]
  · rw [List.map_append, List.flatMap_append, horders]
    exact (List.sublist_append_left _ due).append hrest.recorded
  · intro hok
    have hnone : due = [] := by
      by_contra hne
      have hfails := hdue hne
      rw [hok env List.mem_cons_self] at hfails
      cases hfails
    rw [List.map_append, List.flatMap_append, horders, hnone, List.append_nil,
      hrest.given fun env' h => hok env' (List.mem_cons_of_mem _ h)]
  · intro hnil
    obtain ⟨hgiven, hcmds⟩ := List.append_eq_nil_iff.mp hnil
    rw [hrest.untouched hcmds, hstill hgiven]
  · intro r hr data hdata
    rcases List.mem_append.mp hr with hr | hr
    · exact ⟨env, List.mem_cons_self, hdecided r hr data hdata⟩
    · obtain ⟨env', hmem, hfrom⟩ := hrest.decided r hr data hdata
      exact ⟨env', List.mem_cons_of_mem _ hmem, hfrom⟩
  · intro coa hcoa
    rcases List.mem_append.mp hcoa with hcoa | hcoa
    · obtain ⟨token, htoken⟩ := hdispatched coa hcoa
      exact ⟨env, List.mem_cons_self, htoken.approved⟩
    · obtain ⟨env', hmem, hfrom⟩ := hrest.dispatched coa hcoa
      exact ⟨env', List.mem_cons_of_mem _ hmem, hfrom⟩

variable [PyDateTime D]

theorem runC2Cycle_settled {env : CycleEnv F D S} {s : CycleState F S} (hlive : s.audit.Live) :
    Settled env s (runC2Cycle env s).2 := by
  have hspec : Handler.Ends (Account env s []) (Settled env s) (runC2Cycle env) := runC2Cycle_spec
  have hrun := hspec s (.start hlive)
  cases hr : runC2Cycle env s with
  | mk r t =>
    rw [hr] at hrun
    cases r with
    | ok verdict => exact Account.settled hrun
    | error e => exact hrun

/-- The runs keep an account: no run needs to know how the ones before it ended. -/
theorem cycleRuns_ledger (envs : List (CycleEnv F D S)) {s : CycleState F S}
    (hlive : s.audit.Live) : ∃ added cmds, CycleLedger envs s (cycleRuns envs s) added cmds := by
  induction envs generalizing s with
  | nil => exact ⟨[], [], .nil hlive⟩
  | cons env envs ih =>
    have hsettled : Settled env s (runC2Cycle env s).2 := runC2Cycle_settled hlive
    obtain ⟨added, cmds, hrest⟩ := ih hsettled.live
    obtain ⟨first, given, hledger⟩ := CycleLedger.cons hsettled hrest
    exact ⟨_, _, hledger⟩

/-- Whatever becomes of the runs, what the effectors were asked is called for by the decisions on
record, in the order of the record, and no call is left out where every effector was to be had. A
dispatched COA is one that the gate of its run accepts and that is authorized there. -/
theorem cycleRuns_commands (envs : List (CycleEnv F D S)) {s : CycleState F S}
    (hlive : s.audit.Live) : ∃ added cmds,
    (cycleRuns envs s).audit.records = s.audit.records ++ added ∧
    (cycleRuns envs s).commands = s.commands ++ cmds ∧
    (cmds.map Command.order).Sublist (added.flatMap recordOrders) ∧
    ((∀ env ∈ envs, env.effector.isOk = true) →
      cmds.map Command.order = added.flatMap recordOrders) ∧
    (cmds = [] → (cycleRuns envs s).effector = s.effector) ∧
    ∀ coa, Command.dispatch coa ∈ cmds → ∃ env ∈ envs, ∃ file, env.Proposes file coa ∧
      (env.gate file).Accepts coa ∧ (env.gate file).Authorized coa (env.queue (.fromYaml file)) := by
  obtain ⟨added, cmds, h⟩ := cycleRuns_ledger envs hlive
  exact ⟨added, cmds, h.records, h.commands, h.recorded, h.given, h.untouched, h.dispatched⟩

end

/-- The policy file of the runs below. -/
def demoPolicyFile : PolicyFile Whole :=
  { defaultTimeoutSeconds := .num 5
    confidenceAutoApproveMin := .num 1
    minCorroboratingSourcesTier1 := 2
    forbiddenZones := []
    maxSpeedKt := .num 40
    rejectNullCoordinates := true }

/-- A run on the terminal intercept over the tank farm. -/
def demoCycle (coa : CourseOfAction Whole) (line : OperatorLine Whole) :
    CycleEnv Whole Instant (StubEffector Whole) :=
  letI := plainHash
  { scenario := .ok
      { id := trojanScenario.id
        buildEvents := .ok []
        detect := fun _ => trojanScenario.detect ()
        buildCoa := fun _ _ _ => .ok coa }
    policyFile := .ok demoPolicyFile
    gateTimeoutSec := none
    autoDecision := none
    operatorLine := line
    normalizeSensorEvent := fun _ _ => .error .assertion
    openFeeds := []
    observationsFromOpenFeeds := .ok []
    effector := .ok StubEffector.proxy
    appendRaises := fun _ => none
    utcNow := fun _ => "2026-01-01T00:00:00+00:00"
    tokenStamp := ⟨"token-1", "2026-01-01T00:00:00+00:00"⟩
    receiptStamp := ⟨"receipt-1", "2026-01-01T00:00:00+00:00"⟩ }

/-- Before any run. -/
def newCycle : CycleState Whole (StubEffector Whole) :=
  { audit := ⟨[], genesisPrev⟩
    effector := ⟨[], 0⟩
    commands := [] }

/-- An intercept over the tank farm, approved in time, and a run nobody answers. -/
def intercepts : List (CycleEnv Whole Instant (StubEffector Whole)) :=
  [demoCycle (demoCoa "coa-1" "TERMINAL_SAM_INTERCEPT" .tier1Hitl) (.typed (.num 2) "Yes "),
    demoCycle (demoCoa "coa-2" "OBSERVE_ONLY" .tier1Hitl) .silent]

theorem cycleRuns_commands_intercepts :
    letI := plainHash
    (cycleRuns intercepts newCycle).commands.map Command.order = [.dispatch "coa-1", .stationKeep] ∧
    ∃ added cmds, (cycleRuns intercepts newCycle).audit.records = newCycle.audit.records ++ added ∧
      (cycleRuns intercepts newCycle).commands = newCycle.commands ++ cmds ∧
      (cmds.map Command.order).Sublist (added.flatMap recordOrders) := by
  let := plainHash
  obtain ⟨added, cmds, hrecords, hcommands, hrecorded, -⟩ :=
    cycleRuns_commands intercepts (s := newCycle) AuditTrail.live_empty
  exact ⟨by decide +kernel, added, cmds, hrecords, hcommands, hrecorded⟩

/-! ## What is refused -/

section

variable {F D S : Type} [PyMathOps F]

/-- The interlock of a policy file has nothing to say of debris and duplicates. -/
theorem refused_fromYaml {file : PolicyFile F} {coa : CourseOfAction F} {reason : Option String}
    (h : (TieredPolicy.fromYaml file).interlock.verify coa = .ok (false, reason)) :
    ¬ (TieredPolicy.fromYaml file).interlock.PassesFirst coa ∧
      ∃ text, reason = some text ∧ DeterministicInterlock.FirstReason text := by
  rcases DeterministicInterlock.verify_cases h with hclear | ⟨-, ⟨-, hdebris⟩ | hfirst⟩
  · have hunregistered := (DeterministicInterlock.verify_eq_true_iff
      (i := (TieredPolicy.fromYaml file).interlock)).mpr
      ⟨hclear, Finset.notMem_empty _, Finset.notMem_empty _⟩
    obtain ⟨why, haccepts⟩ := hunregistered
    rw [haccepts] at h
    cases h
  · -- no POI is loaded
    have hnone : (TieredPolicy.fromYaml file).interlock.verifyCniDebris coa = .ok (true, none) := by
      unfold DeterministicInterlock.verifyCniDebris
      exact if_pos (Bool.or_true _)
    rw [hnone] at hdebris
    cases hdebris
  · exact hfirst

variable [PyDateTime D] [Sha256]

/-- However many runs share the trail, a COA is refused fast for a null target, its speed or a
geofence, and for nothing else: no debris is looked at, and what an earlier run dispatched is
forgotten. -/
theorem cycleRuns_refusals (envs : List (CycleEnv F D S)) {s : CycleState F S}
    (hlive : s.audit.Live) : ∃ added, (cycleRuns envs s).audit.records = s.audit.records ++ added ∧
    ∀ r ∈ added, ∀ data, recordDecision r = some data →
      Assoc.get data "verdict" = some (.str "REJECTED_FAST") →
      ∃ env ∈ envs, ∃ file scenarioId coa token text, env.Proposes file coa ∧
        data = cycleDecision scenarioId coa .rejectedFast token ∧
        ¬ (env.gate file).interlock.PassesFirst coa ∧ token.reason = some text ∧
        DeterministicInterlock.FirstReason text := by
  obtain ⟨added, cmds, h⟩ := cycleRuns_ledger envs hlive
  refine ⟨added, h.records, fun r hr data hdata hverdict => ?_⟩
  obtain ⟨env, hmem, scenarioId, coa, verdict, token, rfl, file, hproposes, hdecided⟩ :=
    h.decided r hr data hdata
  have hfast : verdict = .rejectedFast := by
    have hvalue : verdict.value = "REJECTED_FAST" := Json.str.inj (Option.some.inj hverdict)
    cases verdict with
    | rejectedFast => rfl
    | approved | rejectedOperator | timedOutFallback => exact absurd hvalue (by decide)
  subst hfast
  have hdeny := (env.gate file).evaluate_default_deny coa (env.queue (.fromYaml file)) env.tokenStamp
  obtain ⟨reason, hrefused⟩ := hdeny.rejectedFast.mp (by
    rw [LatencyBoundedGate.verdict, hdecided]
    rfl)
  obtain ⟨hfirst, text, rfl, htext⟩ := refused_fromYaml hrefused
  rw [LatencyBoundedGate.evaluate_refused hrefused] at hdecided
  cases hdecided
  exact ⟨env, hmem, file, scenarioId, coa, _, text, hproposes, rfl, hfirst, rfl, htext⟩

end

/-- A COA with no target, before and after an intercept over the tank farm. -/
def nullTargets : List (CycleEnv Whole Instant (StubEffector Whole)) :=
  demoCycle { demoCoa "coa-0" "OBSERVE_ONLY" .tier1Hitl with targetCoordinates := (.num 0, .num 0) }
    .silent :: intercepts

theorem cycleRuns_refusals_nullTargets :
    letI := plainHash
    ∃ added, (cycleRuns nullTargets newCycle).audit.records = newCycle.audit.records ++ added ∧
      ∀ r ∈ added, ∀ data, recordDecision r = some data →
        Assoc.get data "verdict" = some (.str "REJECTED_FAST") →
        ∃ token text, Assoc.get data "token" = some (DecisionToken.modelDump token) ∧
          token.reason = some text ∧ DeterministicInterlock.FirstReason text := by
  let := plainHash
  obtain ⟨added, hrecords, hrefused⟩ :=
    cycleRuns_refusals nullTargets (s := newCycle) AuditTrail.live_empty
  refine ⟨added, hrecords, fun r hr data hdata hverdict => ?_⟩
  obtain ⟨env, -, file, scenarioId, coa, token, text, -, rfl, -, hreason, htext⟩ :=
    hrefused r hr data hdata hverdict
  exact ⟨token, text, rfl, hreason, htext⟩

end NexusC2
