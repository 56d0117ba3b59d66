import NexusC2.App.Proofs.GateRuns
import NexusC2.App.Proofs.WriteThrough
import NexusC2.Core.Proofs.AuditChain

/-!
# Runs with ingress and restarts

What an operation does to the gate: a request runs one of its scripts, ingress appends records,
and a restart on a database that mirrors the gate leaves the proposals as they are stored, inbox
and acked ids as they were, and nothing active (`Operation.Step.gate`). Mirroring is kept by all
three, so it holds along every run whose restarts can open the database.
-/

namespace NexusC2

open GateState

section

variable {F Obs G : Type} [PyFloatOps F] [Sha256] [EntityGraph F Obs G]

/-- No restart fails to open the database. -/
def Operation.StoreOpens : Operation F Obs G → Prop
  | .restart boot => boot.storeOpens = true
  | _ => True

/-- No record fails to be written and no restart fails to open the database. -/
def Operation.NoStorageError : Operation F Obs G → Prop
  | .request r => ∀ name place, r.env.appendRaises name place = none
  | .ingress i => ∀ name place, i.env.appendRaises name place = none
  | .restart boot => boot.storeOpens = true

/-- The operation does not put a snapshot in the place of the trail. -/
def Operation.KeepsTrail : Operation F Obs G → Prop
  | .request r => ∀ records, r.req ≠ .auditSnapshot records
  | _ => True

/-- The scenarios a request loads are loaded, evidence is accepted, and no start fails to open the
database. -/
def Operation.Succeeds (s : C2Runtime F G) :
    Operation F Obs G → Prop
  | .request r => ∀ id, r.req.Loads id → (ingestScenario r.env id s).1.isOk = true
  | .ingress i => i.Accepted s
  | .restart boot => boot.storeOpens = true

omit [PyFloatOps F] [Sha256] [EntityGraph F Obs G] in
theorem Operation.NoStorageError.storeOpens {op : Operation F Obs G} (h : op.NoStorageError) :
    op.StoreOpens := by
  cases op with
  | restart boot => exact h
  | _ => trivial

omit [PyFloatOps F] [Sha256] [EntityGraph F Obs G] in
/-- A request whose records are all written runs the whole of its script. -/
theorem Operation.NoStorageError.ran {r : Served F Obs G}
    (h : (Operation.request r).NoStorageError) (es : List (GateEvent F)) :
    GateState.ran r.env.appendRaises es = es :=
  ran_eq_self fun name _ _ place _ _ => h name place

/-- The gate after a restart. -/
def GateState.restarted (s : GateState F) : GateState F :=
  { s with
    proposals := s.proposals.mapValues Pending.stored
    active := ∅
    audit := s.audit.reopen }

/-- What an operation does to the gate. -/
inductive GateEffect (s : C2Runtime F G) : Operation F Obs G → GateState F → Prop where
  | request (r : Served F Obs G) (script : List (GateEvent F)) (h : Script s r script) :
      GateEffect s (.request r) ((ran r.env.appendRaises script).foldl apply s.gate)
  | ingress (i : Ingress F Obs G) (es : List (GateEvent F)) (h : ∀ e ∈ es, e.IsIngress) :
      GateEffect s (.ingress i) (es.foldl apply s.gate)
  | restart (boot : Boot F) : GateEffect s (.restart boot) s.gate.restarted

variable {s s' : C2Runtime F G} {op : Operation F Obs G}

theorem Operation.Step.mirrored (h : Operation.Step s op s') (hopens : op.StoreOpens)
    (hs : s.Mirrored Obs) : s'.Mirrored Obs := by
  cases h with
  | request r => exact mirrored_serve r hs
  | ingress i => exact mirrored_ingress i hs
  | restart boot _ hboot => exact (restart_gate hs hopens hboot).2

theorem Operation.Step.gate (h : Operation.Step s op s') (hopens : op.StoreOpens)
    (hs : s.Mirrored Obs) : GateEffect s op s'.gate := by
  cases h with
  | request r =>
    obtain ⟨script, hscript, hgate⟩ := handle_script r s
    rw [show (serve s r).gate = _ from hgate]
    exact .request r script hscript
  | ingress i =>
    obtain ⟨es, hes, hgate, _⟩ := handleIngress_gate i s
    rw [hgate]
    exact .ingress i es hes
  | restart boot _ hboot =>
    rw [(restart_gate hs hopens hboot).1]
    exact .restart boot

theorem Run.mirrored {cond : C2Runtime F G → Operation F Obs G → Prop}
    {tr : List (Transition (C2Runtime F G) (Operation F Obs G))}
    (h : Run (Guarded cond Operation.Step) s tr s') (hmirrored : s.Mirrored Obs)
    (hopens : ∀ s op, cond s op → op.StoreOpens) : s'.Mirrored Obs := by
  refine h.invariant (I := fun s => s.Mirrored Obs) hmirrored ?_
  rintro s op s' hs ⟨hcond, hop⟩
  exact hop.mirrored (hopens s op hcond) hs

/-- A law of the gate that every operation preserves holds in every state a run reaches from a
server whose database mirrors it. -/
theorem Run.gate_invariant {cond : C2Runtime F G → Operation F Obs G → Prop}
    {I : GateState F → Prop} {tr : List (Transition (C2Runtime F G) (Operation F Obs G))}
    (h : Run (Guarded cond Operation.Step) s tr s') (hmirrored : s.Mirrored Obs) (h0 : I s.gate)
    (hopens : ∀ s op, cond s op → op.StoreOpens)
    (hstep : ∀ (s : C2Runtime F G) op g, I s.gate → cond s op → GateEffect s op g → I g) :
    I s'.gate := by
  have hinv : s'.Mirrored Obs ∧ I s'.gate := by
    refine h.invariant (I := fun s => s.Mirrored Obs ∧ I s.gate) ⟨hmirrored, h0⟩ ?_
    rintro s op s' ⟨hs, hI⟩ ⟨hcond, hop⟩
    have hopen := hopens s op hcond
    exact ⟨hop.mirrored hopen hs, hstep s op s'.gate hI hcond (hop.gate hopen hs)⟩
  exact hinv.2

/-! ## The trail -/

omit [EntityGraph F Obs G] in
theorem live_foldl {es : List (GateEvent F)} (hes : ∀ records, .restored records ∉ es)
    {s : GateState F} (hs : s.audit.Live) : (es.foldl apply s).audit.Live := by
  refine foldl_apply (I := fun t => t.audit.Live) hs ?_
  intro e hmem t ht
  cases e with
  | recorded name severity time place data => exact ht.append name severity time data
  | restored records => exact absurd hmem (hes records)
  | _ => exact ht

theorem live_effect {s : C2Runtime F G} {op : Operation F Obs G} {g : GateState F}
    (hs : s.gate.audit.Live) (hop : op.KeepsTrail) (heffect : GateEffect s op g) :
    g.audit.Live := by
  cases heffect with
  | request r script hscript =>
    refine live_foldl (fun records hmem => ?_) hs
    have hsub := (ran_sublist r.env.appendRaises script).subset
    exact hop records (hscript.of_restored (hsub hmem)).1
  | ingress i es hes => exact live_foldl (fun records hmem => hes _ hmem) hs
  | restart boot =>
    show s.gate.audit.reopen.Live
    rw [hs.reopen]
    exact hs

/-! ## Ingress -/

omit [EntityGraph F Obs G] in
/-- Records of ingress leave everything but the trail. -/
theorem ingress_foldl {es : List (GateEvent F)} (hes : ∀ e ∈ es, e.IsIngress) (s : GateState F) :
    es.foldl apply s = { s with audit := (es.foldl apply s).audit } := by
  induction es generalizing s with
  | nil => rfl
  | cons e es ih =>
    have he := hes e List.mem_cons_self
    cases e with
    | recorded name severity time place data =>
      rw [List.foldl_cons, ih fun e hmem => hes e (List.mem_cons_of_mem _ hmem)]
      rfl
    | _ => exact he.elim

/-! ## Operations as a function -/

/-- The state after an operation; a start that raises leaves the files as they are. -/
def operate (s : C2Runtime F G) : Operation F Obs G → C2Runtime F G
  | .request r => serve s r
  | .ingress i => (handleIngress i s).2
  | .restart boot => (C2Runtime.restart Obs boot s).toOption.getD s

theorem step_operate {s : C2Runtime F G} {op : Operation F Obs G}
    (h : ∀ boot, op = .restart boot → (C2Runtime.restart Obs boot s).isOk = true) :
    Operation.Step s op (operate s op) := by
  cases op with
  | request r => exact .request s r
  | ingress i => exact .ingress s i
  | restart boot =>
    have hok := h boot rfl
    cases hboot : C2Runtime.restart Obs boot s with
    | error e =>
      rw [hboot] at hok
      cases hok
    | ok s' =>
      have hnext : operate s (.restart boot : Operation F Obs G) = s' := by
        simp [operate, hboot, Except.toOption]
      rw [hnext]
      exact .restart s boot s' hboot

/-- The operations of a list make a run, when each meets the condition and no restart raises. -/
theorem run_operate {cond : C2Runtime F G → Operation F Obs G → Prop}
    {ops : List (Operation F Obs G)} {s : C2Runtime F G}
    (h : ∀ x ∈ trace operate s ops, cond x.pre x.label ∧ ∀ boot, x.label = .restart boot →
      (C2Runtime.restart Obs boot x.pre).isOk = true) :
    Run (Guarded cond Operation.Step) s (trace operate s ops) (ops.foldl operate s) := by
  apply Run.of_trace
  intro x hx
  rw [trace_post operate s ops x hx]
  exact ⟨(h x hx).1, step_operate (h x hx).2⟩

end

/-- A start on the policy file of the new server. -/
def demoBoot : Boot Whole :=
  { policy := .ok
      { defaultTimeoutSeconds := .num 5
        confidenceAutoApproveMin := .num 1
        minCorroboratingSourcesTier1 := 2
        forbiddenZones := []
        maxSpeedKt := .num 40
        rejectNullCoordinates := true }
    loadPois := .ok [tankFarm]
    storeOpens := true }

end NexusC2
