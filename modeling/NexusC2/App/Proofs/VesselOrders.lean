import NexusC2.App.Proofs.CycleCommands
import NexusC2.App.UsvRest

/-!
# The orders of the vessel

Between the approval of a COA and a vessel under way lie a gate, an effector and a link that may fail
on either side of a request. What the receipts of the trail say was done was done, what was done was
commanded, and what was commanded is called for by a decision on record, each in the order of the
next and no more than once.
-/

namespace NexusC2

/-! ## What an effector does with commands -/

/-- What it is for an effector to have carried out commands, from one state to another. -/
structure Conduct (F S : Type) where
  Did : S → List (Command F) → S → Prop
  none : ∀ s, Did s [] s
  append : ∀ {s t u cmds cmds'}, Did s cmds t → Did t cmds' u → Did s (cmds ++ cmds') u

section

variable {F S : Type}

/-- The receipt of a command. -/
def Command.Receipted (receipt : ExecutionReceipt F) : Command F → Prop
  | .dispatch coa => receipt.coaId = coa.coaId
  | .stationKeep => True

/-- The call carries its command out at most once, and has done so where it returns. -/
def Conduct.Obeyed (c : Conduct F S) (command : Command F)
    (call : Handler Exc S (ExecutionReceipt F)) : Prop :=
  ∀ s, Handler.Triple (fun t => t = s) call
    (fun receipt t => c.Did s [command] t ∧ command.Receipted receipt)
    (fun _ t => c.Did s [] t ∨ c.Did s [command] t)

/-- However the call ends, its command is carried out. -/
def Conduct.Reached (c : Conduct F S) (command : Command F)
    (call : Handler Exc S (ExecutionReceipt F)) : Prop :=
  ∀ s, c.Did s [command] (call s).2

/-- What a command is to an effector. -/
def Command.call (command : Command F) (effector : EffectorProxy F S) (stamp : ReceiptStamp) :
    Handler Exc S (ExecutionReceipt F) :=
  match command with
  | .dispatch coa => effector.dispatch stamp coa
  | .stationKeep => effector.emergencyStationKeep stamp

/-- The effector does what it is told, once, or raises. -/
def Conduct.Obeys (c : Conduct F S) (effector : EffectorProxy F S) : Prop :=
  ∀ command stamp, c.Obeyed command (command.call effector stamp)

/-- No command to the effector is lost. -/
def Conduct.Reaches (c : Conduct F S) (effector : EffectorProxy F S) : Prop :=
  ∀ command stamp, c.Reached command (command.call effector stamp)

/-! ## What the receipts say -/

/-- The COA of the receipt in a record. -/
def receiptCoaId (r : Record F) : String :=
  let receipt := ((Assoc.get r "metadata").bind Json.obj?).bind fun data =>
    (Assoc.get data "receipt").bind Json.obj?
  ((receipt.bind fun fields => Assoc.get fields "coa_id").bind Json.str?).getD ""

/-- What a record says has been done. -/
def receiptOrders (r : Record F) : List Order :=
  if isStr (Assoc.get r "activity_name") "dispatch" then [.dispatch (receiptCoaId r)]
  else if isStr (Assoc.get r "activity_name") "station_keep" then [.stationKeep]
  else []

/-- The event a command is recorded as. -/
def Command.event : Command F → String
  | .dispatch _ => "dispatch"
  | .stationKeep => "station_keep"

variable [PyFloatOps F] [Sha256] {prev severity time : String}

theorem receiptOrders_of_ne {event : String} (hdispatch : event ≠ "dispatch")
    (hkeep : event ≠ "station_keep") (data : Fields F) :
    receiptOrders (sealRecord prev event severity time data) = [] := by
  change (if isStr (some (.str event)) "dispatch" then _
    else if isStr (some (.str event)) "station_keep" then _ else _) = _
  rw [if_neg (by simp [isStr, hdispatch]), if_neg (by simp [isStr, hkeep])]

theorem receiptOrders_receipt {command : Command F} {receipt : ExecutionReceipt F}
    (h : command.Receipted receipt) :
    receiptOrders (sealRecord prev command.event severity time [("receipt", receipt.modelDump)]) =
      [command.order] := by
  cases command with
  | dispatch coa =>
    change [Order.dispatch receipt.coaId] = [Order.dispatch coa.coaId]
    rw [show receipt.coaId = coa.coaId from h]
  | stationKeep => rfl

end

/-! ## A run -/

section

variable {F S : Type} [PyMathOps F]

/-- Between two states, with the receipts that are still to be recorded: what the receipts say was
done, what was done was commanded, and `sure` leaves no command out. -/
structure Carried (c : Conduct F S) (sure : Prop) (s₀ : CycleState F S) (owed : List Order)
    (s : CycleState F S) : Prop where
  live : s.audit.Live
  grown : ∃ added cmds done, s.audit.records = s₀.audit.records ++ added ∧
    s.commands = s₀.commands ++ cmds ∧ c.Did s₀.effector done s.effector ∧
    (added.flatMap receiptOrders ++ owed).Sublist (done.map Command.order) ∧
    done.Sublist cmds ∧ (sure → done = cmds)

variable {c : Conduct F S} {sure : Prop} {s₀ s : CycleState F S} {owed : List Order}

theorem Carried.start (hlive : s.audit.Live) : Carried c sure s [] s :=
  ⟨hlive, [], [], [], by simp, by simp, c.none _, by simp, .slnil, fun _ => rfl⟩

/-- A receipt need not be recorded. -/
theorem Carried.waive (h : Carried c sure s₀ owed s) : Carried c sure s₀ [] s := by
  obtain ⟨hlive, added, cmds, done, hrecords, hcommands, hdid, hdone, hrest⟩ := h
  refine ⟨hlive, added, cmds, done, hrecords, hcommands, hdid, ?_, hrest⟩
  rw [List.append_nil]
  exact (List.sublist_append_left _ _).trans hdone

/-- A command, and what the effector did with it. -/
theorem Carried.command {command : Command F} {done : List (Command F)} {effector : S}
    (h : Carried c sure s₀ [] s) (hdid : c.Did s.effector done effector)
    (hdone : done = [] ∧ ¬ sure ∧ owed = [] ∨ done = [command] ∧ owed.Sublist [command.order]) :
    Carried c sure s₀ owed { s with commands := s.commands ++ [command], effector := effector } := by
  obtain ⟨hlive, added, cmds, before, hrecords, hcommands, hbefore, horders, hsub, hsure⟩ := h
  rw [List.append_nil] at horders
  refine ⟨hlive, added, cmds ++ [command], before ++ done, hrecords, ?_, c.append hbefore hdid, ?_,
    ?_, ?_⟩
  · show s.commands ++ [command] = _
    rw [hcommands, List.append_assoc]
  · rw [List.map_append]
    refine horders.append ?_
    rcases hdone with ⟨-, -, rfl⟩ | ⟨rfl, howed⟩
    · exact List.nil_sublist _
    · exact howed
  · refine hsub.append ?_
    rcases hdone with ⟨rfl, -, -⟩ | ⟨rfl, -⟩
    · exact List.nil_sublist _
    · exact .refl _
  · intro h
    rcases hdone with ⟨-, hnot, -⟩ | ⟨rfl, -⟩
    · exact absurd h hnot
    · rw [hsure h]

/-- A command to an effector that obeys: where it returns, its receipt is to be recorded. -/
theorem commandEffector_carried {command : Command F} {call : Handler Exc S (ExecutionReceipt F)}
    (hobeyed : c.Obeyed command call) (hreached : sure → c.Reached command call) :
    Handler.Triple (Carried c sure s₀ []) (commandEffector command call)
      (fun receipt s => Carried c sure s₀ [command.order] s ∧ command.Receipted receipt)
      (fun _ => Carried c sure s₀ []) := by
  intro s h
  have hrun : commandEffector command call s = ((call s.effector).1,
      { s with commands := s.commands ++ [command], effector := (call s.effector).2 }) := rfl
  have hcall := hobeyed s.effector s.effector rfl
  rw [hrun]
  cases hr : call s.effector with
  | mk r t =>
    rw [hr] at hcall
    cases r with
    | ok receipt =>
      obtain ⟨hdid, hreceipt⟩ := hcall
      exact ⟨h.command hdid (.inr ⟨rfl, .refl _⟩), hreceipt⟩
    | error e =>
      by_cases hs : sure
      · have hdid := hreached hs s.effector
        rw [hr] at hdid
        exact h.command hdid (.inr ⟨rfl, List.nil_sublist _⟩)
      · rcases hcall with hnone | hdid
        · exact h.command hnone (.inl ⟨rfl, hs, rfl⟩)
        · exact h.command hdid (.inr ⟨rfl, List.nil_sublist _⟩)

variable {D : Type} [Sha256] {env : CycleEnv F D S}

/-- A new record, with the receipts in it. -/
theorem Carried.record {event severity time : String} {data : Fields F}
    (h : Carried c sure s₀ owed s)
    (hnew : receiptOrders (sealRecord s.audit.prev event severity time data) = owed) :
    Carried c sure s₀ [] { s with audit := (s.audit.append event severity time data).2 } := by
  obtain ⟨hlive, added, cmds, done, hrecords, hcommands, hdid, hdone, hrest⟩ := h
  refine ⟨hlive.append _ _ _ _, added ++ [sealRecord s.audit.prev event severity time data], cmds,
    done, ?_, hcommands, hdid, ?_, hrest⟩
  · exact (congrArg (· ++ [_]) hrecords).trans (List.append_assoc _ _ _)
  · rw [List.flatMap_append, List.flatMap_singleton, hnew, List.append_nil]
    exact hdone

theorem cycleAppend_carried {event severity : String} {data : Fields F}
    (hnew : ∀ prev time, receiptOrders (sealRecord prev event severity time data) = owed) :
    Handler.Triple (Carried c sure s₀ owed) (cycleAppend env event severity data)
      (fun _ => Carried c sure s₀ []) (fun _ => Carried c sure s₀ []) := by
  unfold cycleAppend
  cases env.appendRaises event with
  | some e => exact .raise fun _ h => h.waive
  | none => exact .modify fun s h => h.record (hnew _ _)

/-- The effector of the run, where it is to be had, obeys, and no command to it is lost if `sure`. -/
def CycleEnv.Conducts (env : CycleEnv F D S) (c : Conduct F S) (sure : Prop) : Prop :=
  ∀ effector, env.effector = .ok effector → c.Obeys effector ∧ (sure → c.Reaches effector)

/-- A command and its receipt on record. -/
theorem command_recorded (command : Command F) {effector : EffectorProxy F S}
    (hobeys : c.Obeys effector) (hreaches : sure → c.Reaches effector) :
    Handler.Keeps (Carried c sure s₀ [])
      (commandEffector command (command.call effector env.receiptStamp) >>= fun receipt =>
        cycleAppend env command.event "High" [("receipt", receipt.modelDump)]) := by
  refine Handler.Triple.bind (commandEffector_carried (hobeys command env.receiptStamp)
    fun h => hreaches h command env.receiptStamp) fun receipt => ?_
  intro s ⟨hcarried, hreceipt⟩
  exact cycleAppend_carried (fun _ _ => receiptOrders_receipt hreceipt) s hcarried

/-- What follows the verdict. -/
theorem cycleEffect_carried (h : env.Conducts c sure) (coa : CourseOfAction F)
    (verdict : GateVerdict) :
    Handler.Keeps (Carried c sure s₀ []) (cycleEffect env coa verdict) := by
  unfold cycleEffect
  refine .ofExcept_bind fun effector heffector => ?_
  obtain ⟨hobeys, hreaches⟩ := h effector heffector
  cases verdict with
  | approved => exact command_recorded (.dispatch coa) hobeys hreaches
  | timedOutFallback => exact command_recorded .stationKeep hobeys hreaches
  | rejectedFast | rejectedOperator => exact .pure

variable [PyDateTime D]

/-- A run is appends, and what follows the verdict. -/
theorem runC2Cycle_keeps {I : CycleState F S → Prop} (hlive : ∀ s, I s → s.audit.Live)
    (happend : ∀ event severity data, event ≠ "dispatch" → event ≠ "station_keep" →
      Handler.Keeps I (cycleAppend env event severity data))
    (heffect : ∀ coa verdict, Handler.Keeps I (cycleEffect env coa verdict)) :
    Handler.Keeps I (runC2Cycle env) := by
  have hpicture : ∀ scenario, Handler.Keeps I (cyclePicture env scenario) := by
    intro scenario
    unfold cyclePicture
    refine .ofExcept_bind fun events _ => .ofExcept_bind fun observations _ =>
      .ofExcept_bind fun graph _ => .bind (happend _ _ _ (by decide) (by decide)) fun _ =>
      .ofExcept_bind fun extra _ => ?_
    split
    · exact .pure
    · exact .ofExcept_bind fun graph _ =>
        .bind (happend _ _ _ (by decide) (by decide)) fun _ => .pure
  have htasking : ∀ scenario policy graph finding,
      Handler.Keeps I (cycleTasking env scenario policy graph finding) := by
    intro scenario policy graph finding
    unfold cycleTasking
    exact .ofExcept_bind fun built _ => .bind (happend _ _ _ (by decide) (by decide)) fun _ =>
      .ofExcept_bind fun decided _ => .bind (happend _ _ _ (by decide) (by decide)) fun _ =>
      .bind (heffect _ _) fun _ => .pure
  unfold runC2Cycle
  refine .ofExcept_bind fun scenario _ => .ofExcept_bind fun file _ => ?_
  refine .bind (.modify fun s h => ?_) fun _ => ?_
  · rwa [(hlive s h).reopen]
  refine .bind (hpicture scenario) fun graph => .ofExcept_bind fun found _ => ?_
  cases found with
  | none => exact .bind (happend _ _ _ (by decide) (by decide)) fun _ => .pure
  | some finding => exact htasking _ _ _ _

theorem runC2Cycle_carried (h : env.Conducts c sure) :
    Handler.Keeps (Carried c sure s₀ []) (runC2Cycle env) :=
  runC2Cycle_keeps (fun _ h => h.live)
    (fun _ _ data hdispatch hkeep =>
      cycleAppend_carried fun _ _ => receiptOrders_of_ne hdispatch hkeep data)
    (cycleEffect_carried h)

theorem cycleRuns_carried {envs : List (CycleEnv F D S)} (h : ∀ env ∈ envs, env.Conducts c sure)
    (hs : Carried c sure s₀ [] s) : Carried c sure s₀ [] (cycleRuns envs s) := by
  induction envs generalizing s with
  | nil => exact hs
  | cons env envs ih =>
    exact ih (fun env' hmem => h env' (List.mem_cons_of_mem _ hmem))
      ((runC2Cycle_carried (h env List.mem_cons_self)).snd hs)

end

/-! ## The vessel -/

section

variable {F : Type} [PyAngleOps F]

/-- The request of a command. -/
def Command.request : Command F → UsvRequest F
  | .dispatch coa => .navigate (navigateRequest coa)
  | .stationKeep => .emergencyStop

/-- The vessel has served the requests of the commands. -/
def vesselConduct : Conduct F (UsvWorld F) where
  Did w cmds w' := w'.served = w.served ++ cmds.map Command.request ∧
    w'.vessel = (cmds.map Command.request).foldl UsvState.serve w.vessel
  none w := ⟨(List.append_nil _).symm, rfl⟩
  append h h' := by
    constructor
    · rw [h'.1, h.1, List.map_append, List.append_assoc]
    · rw [h'.2, h.2, List.map_append, List.foldl_append]

/-- The vessel does what was ordered. -/
def UsvState.Follows (v : UsvState F) : Order → Prop
  | .dispatch coaId => v.mode = "navigating" ∧ v.emergency = false ∧
      ∃ req, v.lastWaypoint = some req ∧ req.missionId = some coaId
  | .stationKeep => v.mode = "station_keep" ∧ v.emergency = true ∧ v.speedKt = (0.0 : F)

theorem serve_follows (v : UsvState F) (command : Command F) :
    (v.serve command.request).Follows command.order := by
  cases command with
  | dispatch coa => exact ⟨rfl, rfl, _, rfl, rfl⟩
  | stationKeep => exact ⟨rfl, rfl, rfl⟩

/-- The last command decides. -/
theorem vesselConduct_last {w w' : UsvWorld F} {done : List (Command F)}
    (h : vesselConduct.Did w done w') : done = [] ∧ w'.vessel = w.vessel ∨
      ∃ before command, ∃ v : UsvState F, done = before ++ [command] ∧ w'.vessel = v.serve command.request := by
  rcases List.eq_nil_or_concat done with rfl | ⟨before, command, rfl⟩
  · exact .inl ⟨rfl, h.2⟩
  · refine .inr ⟨before, command, (before.map Command.request).foldl UsvState.serve w.vessel,
      List.concat_eq_append, ?_⟩
    rw [h.2, List.concat_eq_append, List.map_append, List.foldl_append]
    rfl

/-- A link on which requests may fail, but only after they are served. -/
def Lossless (faults : Nat → Option LinkFault) : Prop :=
  ∀ n fault, faults n = some fault → fault.served = true

theorem usvPost_of_none {faults : Nat → Option LinkFault} {w : UsvWorld F}
    (h : faults w.sent = none) (request : UsvRequest F) :
    usvPost faults request w = (.ok request.response, w.sending.serve request) := by
  unfold usvPost
  rw [Handler.get_bind, Handler.modify_bind, h]
  rfl

theorem usvPost_of_some {faults : Nat → Option LinkFault} {w : UsvWorld F} {fault : LinkFault}
    (h : faults w.sent = some fault) (request : UsvRequest F) :
    usvPost faults request w =
      (.error fault.raised, if fault.served then w.sending.serve request else w.sending) := by
  unfold usvPost
  rw [Handler.get_bind, Handler.modify_bind, h]
  rfl

theorem usvPost_spec (faults : Nat → Option LinkFault) (command : Command F) (w : UsvWorld F) :
    Handler.Triple (fun w' => w' = w) (usvPost faults command.request)
      (fun _ w' => vesselConduct.Did w [command] w')
      (fun _ w' => vesselConduct.Did w [] w' ∨ vesselConduct.Did w [command] w') := by
  intro w' hw
  subst hw
  cases h : faults w'.sent with
  | none =>
    rw [usvPost_of_none h]
    exact ⟨rfl, rfl⟩
  | some fault =>
    rw [usvPost_of_some h]
    cases fault.served with
    | true => exact .inr ⟨rfl, rfl⟩
    | false => exact .inl ⟨(List.append_nil _).symm, rfl⟩

theorem usvPost_reached {faults : Nat → Option LinkFault} (h : Lossless faults)
    (command : Command F) (w : UsvWorld F) :
    vesselConduct.Did w [command] (usvPost faults command.request w).2 := by
  cases hfault : faults w.sent with
  | none =>
    rw [usvPost_of_none hfault]
    exact ⟨rfl, rfl⟩
  | some fault =>
    rw [usvPost_of_some hfault, if_pos (h _ _ hfault)]
    exact ⟨rfl, rfl⟩

variable [Sha256]

theorem usvRestAdapter_obeys (faults : Nat → Option LinkFault) :
    (vesselConduct (F := F)).Obeys (usvRestAdapter faults) := by
  intro command stamp w
  cases command with
  | dispatch coa =>
    refine .bind (usvPost_spec faults (.dispatch coa) w) fun body => ?_
    refine .bind (Q := fun _ => vesselConduct.Did w [.dispatch coa])
      (.ofExcept (fun _ _ _ h => h) fun _ _ _ h => .inr h) fun sim => .pure fun _ h => ⟨h, rfl⟩
  | stationKeep =>
    exact .bind (usvPost_spec faults .stationKeep w) fun body => .pure fun _ h => ⟨h, trivial⟩

theorem usvRestAdapter_reaches {faults : Nat → Option LinkFault} (h : Lossless faults) :
    (vesselConduct (F := F)).Reaches (usvRestAdapter faults) := by
  intro command stamp w
  cases command with
  | dispatch coa =>
    refine Handler.Keeps.bind_snd (I := vesselConduct.Did w [.dispatch coa])
      (usvPost_reached h (.dispatch coa) w) fun body => .bind .ofExcept fun sim => .pure
  | stationKeep =>
    exact Handler.Keeps.bind_snd (I := vesselConduct.Did w [.stationKeep])
      (usvPost_reached h .stationKeep w) fun body => .pure

/-! ## Runs with the vessel -/

/-- Every effector that is to be had is a REST adapter of the vessel. -/
def OverLinks {D : Type} (envs : List (CycleEnv F D (UsvWorld F))) : Prop :=
  ∀ env ∈ envs, ∀ effector, env.effector = .ok effector →
    ∃ faults, effector = usvRestAdapter faults

/-- No effector is missing, and none loses a request before it is served. -/
def NothingLost {D : Type} (envs : List (CycleEnv F D (UsvWorld F))) : Prop :=
  ∀ env ∈ envs, ∃ faults, env.effector = .ok (usvRestAdapter faults) ∧ Lossless faults

variable {D : Type} {envs : List (CycleEnv F D (UsvWorld F))}

theorem OverLinks.conducts (h : OverLinks envs) :
    ∀ env ∈ envs, env.Conducts vesselConduct (NothingLost envs) := by
  intro env henv effector heffector
  obtain ⟨faults, rfl⟩ := h env henv effector heffector
  refine ⟨usvRestAdapter_obeys faults, fun hserved => ?_⟩
  obtain ⟨faults', hlossless, hnone⟩ := hserved env henv
  rw [heffector] at hlossless
  rw [Except.ok.inj hlossless]
  exact usvRestAdapter_reaches hnone

theorem NothingLost.effectors (h : NothingLost envs) : ∀ env ∈ envs, env.effector.isOk = true := by
  intro env henv
  obtain ⟨faults, heffector, -⟩ := h env henv
  rw [heffector]
  rfl

/-- What there is to say of runs with the vessel. -/
theorem cycleRuns_served [PyDateTime D] {s : CycleState F (UsvWorld F)} (hlive : s.audit.Live)
    (hlinks : OverLinks envs) : ∃ added cmds done,
    CycleLedger envs s (cycleRuns envs s) added cmds ∧
    vesselConduct.Did s.effector done (cycleRuns envs s).effector ∧
    (added.flatMap receiptOrders).Sublist (done.map Command.order) ∧ done.Sublist cmds ∧
    (NothingLost envs → done = cmds) := by
  obtain ⟨added, cmds, hledger⟩ := cycleRuns_ledger envs hlive
  obtain ⟨-, added', cmds', done, hrecords, hcommands, hdid, hdone, hsub, hsure⟩ :=
    cycleRuns_carried hlinks.conducts (.start hlive)
  rw [hledger.records, List.append_cancel_left_eq] at hrecords
  rw [hledger.commands, List.append_cancel_left_eq] at hcommands
  subst hrecords hcommands
  rw [List.append_nil] at hdone
  exact ⟨added, cmds, done, hledger, hdid, hdone, hsub, hsure⟩

/-- However requests and appends fail, the receipts on record are of requests the vessel served, it
served only what was commanded, and that is called for by the decisions on record: each in the order
of the next, and none more often. Where no request is lost it served every command. -/
theorem cycleRuns_vessel [PyDateTime D] {s : CycleState F (UsvWorld F)} (hlive : s.audit.Live)
    (hlinks : OverLinks envs) : ∃ added cmds done,
    (cycleRuns envs s).audit.records = s.audit.records ++ added ∧
    (cycleRuns envs s).commands = s.commands ++ cmds ∧
    (cycleRuns envs s).effector.served = s.effector.served ++ done.map Command.request ∧
    (added.flatMap receiptOrders).Sublist (done.map Command.order) ∧ done.Sublist cmds ∧
    (cmds.map Command.order).Sublist (added.flatMap recordOrders) ∧
    (NothingLost envs → done = cmds ∧ cmds.map Command.order = added.flatMap recordOrders) := by
  obtain ⟨added, cmds, done, hledger, hdid, hdone, hsub, hsure⟩ := cycleRuns_served hlive hlinks
  exact ⟨added, cmds, done, hledger.records, hledger.commands, hdid.1, hdone, hsub,
    hledger.recorded, fun hserved => ⟨hsure hserved, hledger.given hserved.effectors⟩⟩

end

/-- A run with a vessel behind a link. -/
def vesselCycle (coa : CourseOfAction Whole) (line : OperatorLine Whole)
    (faults : Nat → Option LinkFault) : CycleEnv Whole Instant (UsvWorld Whole) :=
  letI := plainHash
  { demoCycle coa line with effector := .ok (usvRestAdapter faults) }

/-- Before any run. -/
def moored : CycleState Whole (UsvWorld Whole) :=
  { audit := ⟨[], genesisPrev⟩
    effector := ⟨.idle, 0, []⟩
    commands := [] }

/-- The answer to the second request is lost. -/
def lateAnswer : Nat → Option LinkFault
  | 1 => some ⟨true, .osError "timed out"⟩
  | _ => none

/-- An intercept over the tank farm, approved in time, and a run nobody answers, over this link. -/
def sailings : List (CycleEnv Whole Instant (UsvWorld Whole)) :=
  [vesselCycle (demoCoa "coa-1" "TERMINAL_SAM_INTERCEPT" .tier1Hitl) (.typed (.num 2) "Yes ")
      lateAnswer,
    vesselCycle (demoCoa "coa-2" "OBSERVE_ONLY" .tier1Hitl) .silent lateAnswer]

theorem sailings_linked :
    letI := plainHash
    OverLinks sailings ∧ NothingLost sailings := by
  have hlossless : Lossless lateAnswer := by
    intro n fault h
    unfold lateAnswer at h
    split at h <;> cases h
    rfl
  refine ⟨fun env henv effector heffector => ?_, fun env henv => ?_⟩
  · simp only [sailings, List.mem_cons, List.not_mem_nil, or_false] at henv
    rcases henv with rfl | rfl <;> exact ⟨lateAnswer, (Except.ok.inj heffector).symm⟩
  · simp only [sailings, List.mem_cons, List.not_mem_nil, or_false] at henv
    rcases henv with rfl | rfl <;> exact ⟨lateAnswer, rfl, hlossless⟩

theorem cycleRuns_vessel_sailings :
    letI := plainHash
    (cycleRuns sailings moored).effector.vessel.mode = "station_keep" ∧
    ∃ (added : List (Record Whole)) (cmds : List (Command Whole)),
      (cycleRuns sailings moored).audit.records = moored.audit.records ++ added ∧
      (cycleRuns sailings moored).effector.served =
        moored.effector.served ++ cmds.map Command.request ∧
      (added.flatMap receiptOrders).Sublist (cmds.map Command.order) ∧
      cmds.map Command.order = added.flatMap recordOrders := by
  let := plainHash
  obtain ⟨added, cmds, done, hrecords, -, hserved, hdone, -, -, hall⟩ :=
    cycleRuns_vessel (s := moored) AuditTrail.live_empty sailings_linked.1
  obtain ⟨rfl, hgiven⟩ := hall sailings_linked.2
  exact ⟨by decide +kernel, added, done, hrecords, hserved, hdone, hgiven⟩

section

variable {F D : Type} [PyAngleOps F] [Sha256] [PyDateTime D] {envs : List (CycleEnv F D (UsvWorld F))}

/-- A vessel that was sent anywhere is under way to the target of a COA that the gate of its run
accepts and that is authorized there, or holds its station as a decision on record has it. Where no
request is lost, it does what the last order on record says. -/
theorem cycleRuns_underway {s : CycleState F (UsvWorld F)} (hlive : s.audit.Live)
    (hlinks : OverLinks envs) : ∃ added,
    (cycleRuns envs s).audit.records = s.audit.records ++ added ∧
    ((cycleRuns envs s).effector.vessel = s.effector.vessel ∨
      (cycleRuns envs s).effector.vessel.Follows .stationKeep ∧
        .stationKeep ∈ added.flatMap recordOrders ∨
      ∃ env ∈ envs, ∃ file coa, env.Proposes file coa ∧ (env.gate file).Accepts coa ∧
        (env.gate file).Authorized coa (env.queue (.fromYaml file)) ∧
        .dispatch coa.coaId ∈ added.flatMap recordOrders ∧
        (cycleRuns envs s).effector.vessel.Follows (.dispatch coa.coaId) ∧
        (cycleRuns envs s).effector.vessel.lastWaypoint = some (navigateRequest coa)) ∧
    (NothingLost envs → ∀ order ∈ (added.flatMap recordOrders).getLast?,
      (cycleRuns envs s).effector.vessel.Follows order) := by
  obtain ⟨added, cmds, done, hledger, hdid, -, hsub, hsure⟩ := cycleRuns_served hlive hlinks
  refine ⟨added, hledger.records, ?_, ?_⟩
  · rcases vesselConduct_last hdid with ⟨-, hstill⟩ | ⟨before, command, v, rfl, hvessel⟩
    · exact .inl hstill
    have hgiven : command ∈ cmds := hsub.subset (by simp)
    have hrecorded : command.order ∈ added.flatMap recordOrders :=
      hledger.recorded.subset (List.mem_map_of_mem hgiven)
    rw [hvessel]
    have hfollows := serve_follows v command
    cases command with
    | stationKeep => exact .inr (.inl ⟨hfollows, hrecorded⟩)
    | dispatch coa =>
      obtain ⟨env, henv, file, hproposes, haccepts, hauthorized⟩ := hledger.dispatched coa hgiven
      exact .inr (.inr ⟨env, henv, file, coa, hproposes, haccepts, hauthorized, hrecorded, hfollows,
        rfl⟩)
  · intro hserved order horder
    have hgiven : cmds.map Command.order = added.flatMap recordOrders :=
      hledger.given hserved.effectors
    rw [← hgiven, ← hsure hserved] at horder
    rcases vesselConduct_last hdid with ⟨rfl, -⟩ | ⟨before, command, v, rfl, hvessel⟩
    · cases horder
    · rw [List.map_append, List.map_singleton, List.getLast?_concat] at horder
      rw [hvessel, ← Option.some.inj horder]
      exact serve_follows v command

end

theorem cycleRuns_underway_sailings :
    letI := plainHash
    ∃ added, (cycleRuns sailings moored).audit.records = moored.audit.records ++ added ∧
      ∀ order ∈ (added.flatMap recordOrders).getLast?,
        (cycleRuns sailings moored).effector.vessel.Follows order := by
  let := plainHash
  obtain ⟨added, hrecords, -, hlast⟩ :=
    cycleRuns_underway (s := moored) AuditTrail.live_empty sailings_linked.1
  exact ⟨added, hrecords, hlast sailings_linked.2⟩

end NexusC2
