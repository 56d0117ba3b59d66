import NexusC2.Core.Gate

/-!
# The verdicts of the gate

`evaluate` denies by default: whatever the interlock says, the COA is and the operator sends, an
approval is the autonomous tier or an approving word in time. Where the interlock raises, there is
no verdict.
-/

namespace NexusC2

namespace LatencyBoundedGate

variable {F : Type} [PyFloatOps F] [Sha256]

/-- The queue delivers this string within the window of the COA. -/
def Hears (g : LatencyBoundedGate F) (coa : CourseOfAction F) (queue : OperatorQueue F)
    (decision : String) : Prop :=
  ∃ delay, queue = .delivers delay decision ∧ inTime (g.window coa) delay = true

/-- The interlock accepts the COA. -/
def Accepts (g : LatencyBoundedGate F) (coa : CourseOfAction F) : Prop :=
  ∃ reason, g.interlock.verify coa = .ok (true, reason)

/-- The interlock refuses the COA. -/
def Refuses (g : LatencyBoundedGate F) (coa : CourseOfAction F) : Prop :=
  ∃ reason, g.interlock.verify coa = .ok (false, reason)

/-- The COA is autonomous, or an approving word is heard. -/
def Authorized (g : LatencyBoundedGate F) (coa : CourseOfAction F) (queue : OperatorQueue F) : Prop :=
  coa.tier = .tier0Autonomous ∨
    ∃ decision, g.Hears coa queue decision ∧ normDecision decision ∈ approveWords

/-- The COA is not autonomous, and another word is heard. -/
def Denied (g : LatencyBoundedGate F) (coa : CourseOfAction F) (queue : OperatorQueue F) : Prop :=
  coa.tier ≠ .tier0Autonomous ∧
    ∃ decision, g.Hears coa queue decision ∧ normDecision decision ∉ approveWords

/-- The verdict for a COA the interlock accepts. -/
def verdictFor (g : LatencyBoundedGate F) (coa : CourseOfAction F) (queue : OperatorQueue F) :
    GateVerdict :=
  if coa.tier = .tier0Autonomous then .approved
  else
    match queue with
    | .absent | .silent => .timedOutFallback
    | .delivers delay decision =>
      if inTime (g.window coa) delay then
        if normDecision decision ∈ approveWords then .approved else .rejectedOperator
      else .timedOutFallback

/-- The verdict `evaluate` returns. -/
def verdict (g : LatencyBoundedGate F) (coa : CourseOfAction F) (queue : OperatorQueue F)
    (stamp : TokenStamp) : Except Exc GateVerdict :=
  (g.evaluate coa queue stamp).map Prod.fst

theorem evaluate_refused {g : LatencyBoundedGate F} {coa : CourseOfAction F}
    {reason : Option String} (h : g.interlock.verify coa = .ok (false, reason))
    (queue : OperatorQueue F) (stamp : TokenStamp) :
    g.evaluate coa queue stamp =
      .ok (.rejectedFast, mint F stamp coa.coaId .rejectedFast none reason) := by
  have hgate : g.verifyDeterministicInterlocks coa = .ok (false, reason) := h
  unfold evaluate
  rw [hgate]
  rfl

theorem evaluate_accepted {g : LatencyBoundedGate F} {coa : CourseOfAction F}
    {reason : Option String} (h : g.interlock.verify coa = .ok (true, reason))
    (queue : OperatorQueue F) (stamp : TokenStamp) : ∃ operatorId reason,
    g.evaluate coa queue stamp = .ok (g.verdictFor coa queue,
      mint F stamp coa.coaId (g.verdictFor coa queue) operatorId reason) := by
  have hgate : g.verifyDeterministicInterlocks coa = .ok (true, reason) := h
  unfold evaluate verdictFor
  rw [hgate]
  simp only [bind, Except.bind, Bool.not_true, Bool.false_eq_true, if_false]
  by_cases htier : coa.tier = .tier0Autonomous
  · simp only [if_pos htier]
    exact ⟨_, _, rfl⟩
  simp only [if_neg htier]
  cases queue with
  | absent => exact ⟨_, _, rfl⟩
  | silent => exact ⟨_, _, rfl⟩
  | delivers delay decision =>
    by_cases htime : inTime (g.window coa) delay = true
    · by_cases hword : normDecision decision ∈ approveWords
      · simp only [htime, if_true, if_pos hword]
        exact ⟨_, _, rfl⟩
      · simp only [htime, if_true, if_neg hword]
        exact ⟨_, _, rfl⟩
    · simp only [if_neg htime]
      exact ⟨_, _, rfl⟩

theorem evaluate_raised {g : LatencyBoundedGate F} {coa : CourseOfAction F} {e : Exc}
    (h : g.interlock.verify coa = .error e) (queue : OperatorQueue F) (stamp : TokenStamp) :
    g.evaluate coa queue stamp = .error e := by
  have hgate : g.verifyDeterministicInterlocks coa = .error e := h
  unfold evaluate
  rw [hgate]
  rfl

omit [Sha256] in
/-- What the verdict says of the tier and the queue. -/
theorem verdictFor_spec (g : LatencyBoundedGate F) (coa : CourseOfAction F)
    (queue : OperatorQueue F) :
    (g.verdictFor coa queue = .approved ↔ g.Authorized coa queue) ∧
      (g.verdictFor coa queue = .rejectedOperator ↔ g.Denied coa queue) ∧
      g.verdictFor coa queue ≠ .rejectedFast := by
  unfold verdictFor Authorized Denied Hears
  by_cases htier : coa.tier = .tier0Autonomous
  · simp [htier]
  simp only [ne_eq, htier, false_or, not_false_eq_true, true_and]
  cases queue with
  | absent => simp
  | silent => simp
  | delivers delay decision =>
    by_cases htime : inTime (g.window coa) delay = true <;>
      by_cases hword : normDecision decision ∈ approveWords <;> simp [htime, hword]

variable (F) in
/-- The token names the verdict and the COA, and its digest is that of its own fields. -/
def Vouches (token : DecisionToken) (verdict : GateVerdict)
    (coaId : String) : Prop :=
  token.verdict = verdict.value ∧ token.coaId = coaId ∧
    token.digest = digestOf (.obj (token.body (F := F)))

theorem vouches_mint (stamp : TokenStamp) (coaId : String) (verdict : GateVerdict)
    (operatorId reason : Option String) :
    Vouches F (mint F stamp coaId verdict operatorId reason) verdict coaId := ⟨rfl, rfl, rfl⟩

/-- What the verdicts of the gate mean: `remaining` is every case in which the interlock answers and
that is none of the others. -/
structure DefaultDeny (g : LatencyBoundedGate F) (coa : CourseOfAction F) (queue : OperatorQueue F)
    (stamp : TokenStamp) : Prop where
  approved : g.verdict coa queue stamp = .ok .approved ↔ g.Accepts coa ∧ g.Authorized coa queue
  rejectedFast : g.verdict coa queue stamp = .ok .rejectedFast ↔ g.Refuses coa
  rejectedOperator : g.verdict coa queue stamp = .ok .rejectedOperator ↔
    g.Accepts coa ∧ g.Denied coa queue
  remaining : g.verdict coa queue stamp = .ok .timedOutFallback ↔
    (g.Accepts coa ∨ g.Refuses coa) ∧ ¬ (g.Accepts coa ∧ g.Authorized coa queue) ∧
      ¬ g.Refuses coa ∧ ¬ (g.Accepts coa ∧ g.Denied coa queue)
  token : ∀ verdict token, g.evaluate coa queue stamp = .ok (verdict, token) →
    Vouches F token verdict coa.coaId
  raised : ∀ e, g.evaluate coa queue stamp = .error e ↔ g.interlock.verify coa = .error e

theorem evaluate_default_deny (g : LatencyBoundedGate F) (coa : CourseOfAction F)
    (queue : OperatorQueue F) (stamp : TokenStamp) : g.DefaultDeny coa queue stamp := by
  cases hverify : g.interlock.verify coa with
  | error e =>
    have heval := evaluate_raised hverify queue stamp
    have haccepts : ¬ g.Accepts coa := fun ⟨_, h⟩ => by rw [hverify] at h; cases h
    have hrefuses : ¬ g.Refuses coa := fun ⟨_, h⟩ => by rw [hverify] at h; cases h
    constructor <;> simp [verdict, heval, hverify, haccepts, hrefuses, Except.map]
  | ok answer =>
    obtain ⟨ok, reason⟩ := answer
    cases ok with
    | false =>
      have heval := evaluate_refused hverify queue stamp
      have haccepts : ¬ g.Accepts coa := fun ⟨_, h⟩ => by rw [hverify] at h; cases h
      have hrefuses : g.Refuses coa := ⟨reason, hverify⟩
      constructor
      case token =>
        intro v t h
        rw [heval] at h
        cases h
        exact vouches_mint _ _ _ _ _
      all_goals simp [verdict, heval, hverify, haccepts, hrefuses, Except.map]
    | true =>
      obtain ⟨operatorId, why, heval⟩ := evaluate_accepted hverify queue stamp
      have haccepts : g.Accepts coa := ⟨reason, hverify⟩
      have hrefuses : ¬ g.Refuses coa := fun ⟨_, h⟩ => by rw [hverify] at h; cases h
      have hverdict : g.verdict coa queue stamp = .ok (g.verdictFor coa queue) := by
        rw [verdict, heval]
        rfl
      obtain ⟨hauthorized, hdenied, hfast⟩ := verdictFor_spec g coa queue
      constructor
      case approved => simp [hverdict, haccepts, hauthorized]
      case rejectedFast => simp [hverdict, hrefuses, hfast]
      case rejectedOperator => simp [hverdict, haccepts, hdenied]
      case remaining =>
        -- the verdict that is left when the other three are not it
        simp only [hverdict, haccepts, hrefuses, true_and, or_false, not_false_eq_true,
          ← hauthorized, ← hdenied, Except.ok.injEq]
        cases hv : g.verdictFor coa queue <;> simp_all
      case token =>
        intro v t h
        rw [heval] at h
        cases h
        exact vouches_mint _ _ _ _ _
      case raised =>
        intro e
        rw [heval, hverify]
        constructor <;>
          · intro h
            cases h

end LatencyBoundedGate

end NexusC2
