import NexusC2.App.Proofs.OperationRuns

/-!
# What the inbox holds

Three places issue a tasking: the Tier-0 branch of `gate_proposals`, the approval of an entry and
the copy of it for a navy unit. Each mints the token for the COA it issues and files it under the
id of that COA; an acknowledgement changes neither, and the database gives both back.
-/

namespace NexusC2

open GateState

section

variable {F Obs G : Type} [PyFloatOps F] [Sha256] [EntityGraph F Obs G]

/-- The tasking is filed under the id of its COA and of its token, which approves it and is sealed
with the digest of its own body. -/
structure Tasking.SealedUnder (k : String) (t : Tasking F) : Prop where
  coa : k = t.coa.coaId
  token : k = t.token.coaId
  verdict : t.token.verdict = "APPROVED"
  digest : t.token.digest = digestOf (.obj (t.token.body (F := F)))

omit [EntityGraph F Obs G] in
/-- A minted approval seals the COA it is for. -/
theorem Tasking.sealed_mint {t : Tasking F} {stamp : TokenStamp} {operatorId reason : Option String}
    (h : t.token = LatencyBoundedGate.mint F stamp t.coa.coaId .approved operatorId reason) :
    t.SealedUnder t.coa.coaId := by
  constructor
  · rfl
  · rw [h]
    rfl
  · rw [h]
    rfl
  · rw [h]
    rfl

/-- Whatever is issued is sealed. -/
theorem Script.issued_sealed {s : C2Runtime F G} {r : Served F Obs G} {es : List (GateEvent F)}
    (hs : Script s r es) {t : Tasking F} (h : .issued t ∈ es) : t.SealedUnder t.coa.coaId := by
  rcases hs.of_issued h with ⟨req, coa, _, _, _, _, _, _, rfl⟩ |
    ⟨req, d, _, hseal, hverdict, i, uid, _, rfl⟩
  · exact Tasking.sealed_mint rfl
  · have htoken := sealDecision_token hseal
    rw [hverdict] at htoken
    by_cases hi : i = 0
    · apply Tasking.sealed_mint
      simp only [approvedTasking, if_pos hi]
      exact htoken
    · apply Tasking.sealed_mint
      simp only [approvedTasking, if_neg hi, hverdict]
      rfl

/-- Every tasking of the inbox is sealed. -/
def SealedInbox (s : GateState F) : Prop := ∀ k t, s.inbox.get k = some t → t.SealedUnder k

theorem sealedInbox_effect {s : C2Runtime F G} {op : Operation F Obs G} {g : GateState F}
    (h : SealedInbox s.gate) (heffect : GateEffect s op g) : SealedInbox g := by
  intro k t hget
  cases heffect with
  | request r script hscript =>
    have hsub := (ran_sublist r.env.appendRaises script).subset
    rcases inbox_foldl hget with hget | ⟨hissued, rfl⟩ | hacked
    · exact h k t hget
    · exact hscript.issued_sealed (hsub hissued)
    · -- an acknowledgement keeps COA and token
      obtain ⟨_, u, _, _, hu, rfl⟩ := hscript.of_acked (hsub hacked)
      have hsealed := h k u hu
      exact ⟨hsealed.coa, hsealed.token, hsealed.verdict, hsealed.digest⟩
  | ingress i es hes =>
    rw [ingress_foldl hes] at hget
    exact h k t hget
  | restart boot => exact h k t hget

/-- In every state that requests, ingress and restarts reach from a new server, every tasking of
the inbox is filed under the id of its COA, which is the one its token approves, and the digest
of the token is the one of its body. -/
theorem inbox_sealed (policy : TieredPolicy F) (audit : AuditTrail F)
    {tr : List (Transition (C2Runtime F G) (Operation F Obs G))} {s : C2Runtime F G}
    (h : Run (Guarded (fun _ op => op.StoreOpens) Operation.Step)
      (C2Runtime.fresh F Obs policy audit true) tr s)
    {k : String} {t : Tasking F} (hget : s.inbox.get k = some t) :
    k = t.coa.coaId ∧ k = t.token.coaId ∧ t.token.verdict = "APPROVED" ∧
      t.token.digest = digestOf (.obj (t.token.body (F := F))) := by
  have hstart : SealedInbox (C2Runtime.fresh F Obs policy audit true : C2Runtime F G).gate := by
    intro k t hget
    simp [C2Runtime.fresh, C2Runtime.gate] at hget
  have hinv : SealedInbox s.gate :=
    h.gate_invariant (mirrored_fresh policy audit) hstart (fun _ _ hopens => hopens)
      fun _ _ _ hI _ heffect => sealedInbox_effect hI heffect
  have hsealed := hinv k t hget
  exact ⟨hsealed.coa, hsealed.token, hsealed.verdict, hsealed.digest⟩

end

/-- A proposal, its approval and a restart. -/
def approvedRestartRun : List (Operation Whole Unit Unit) :=
  [.request (served (propose (demoCoa "a" "INSPECT" .tier1Hitl))),
    .request (served (.approve ⟨"a", "yes", "op"⟩)), .restart demoBoot]

/-- The tasking is there after the restart, sealed. -/
theorem inbox_sealed_restart :
    letI := plainHash
    ∃ t, (approvedRestartRun.foldl operate demoServer).inbox.get "a" = some t ∧
      "a" = t.coa.coaId ∧ "a" = t.token.coaId ∧ t.token.verdict = "APPROVED" ∧
        t.token.digest = digestOf (.obj (t.token.body (F := Whole))) := by
  let := plainHash
  have hsome : ((approvedRestartRun.foldl operate demoServer).inbox.get "a").isSome = true := by
    decide +kernel
  have hboot : (C2Runtime.restart Unit demoBoot
      ((approvedRestartRun.take 2).foldl operate demoServer)).isOk = true := by
    decide +kernel
  obtain ⟨t, hget⟩ := Option.isSome_iff_exists.mp hsome
  refine ⟨t, hget, inbox_sealed demoPolicy ⟨[], genesisPrev⟩ (run_operate ?_) hget⟩
  intro x hx
  simp only [approvedRestartRun, trace, List.mem_cons, List.not_mem_nil, or_false] at hx
  rcases hx with rfl | rfl | rfl
  · exact ⟨trivial, by simp⟩
  · exact ⟨trivial, by simp⟩
  · refine ⟨rfl, ?_⟩
    intro boot hb
    cases hb
    exact hboot

end NexusC2
