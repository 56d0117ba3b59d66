import Mathlib.Data.Nat.Bitwise
import NexusC2.App.Proofs.GateRuns
import NexusC2.Deploy.Worker

/-!
# What the front door guards

`pathRequiresBearer` looks for a literal `/api` in the path the client has spelled, the core for
its routes in the path with the escapes read. A request that can change the core is refused
without a token exactly when its path is spelled with `/api/`: the forms under `/verify` and an
escaped spelling of `/api` go through.
-/

namespace NexusC2

/-! ## Tokens -/

theorem foldl_or_eq_zero (f : Nat → Nat) (l : List Nat) (n : Nat) :
    l.foldl (fun diff i => diff ||| f i) n = 0 ↔ n = 0 ∧ ∀ i ∈ l, f i = 0 :=
  foldl_gathers (p := fun diff => diff = 0) (fun _ _ => Nat.or_eq_zero_iff) f l n

/-- The comparison of tokens is equality. -/
theorem timingSafeEqual_iff (a b : String) : timingSafeEqual a b = true ↔ a = b := by
  constructor
  · intro h
    obtain ⟨hlen, hbytes⟩ := (foldl_or_eq_zero _ _ _).mp (of_decide_eq_true h)
    rw [Nat.xor_eq_zero_iff] at hlen
    have hlist : Js.encode a = Js.encode b := by
      refine eq_of_padded 0 hlen fun i hi => ?_
      have hin : i ∈ List.range (max (Js.encode a).length (Js.encode b).length) :=
        List.mem_range.mpr (Nat.lt_of_lt_of_le hi (Nat.le_max_left _ _))
      exact UInt8.toNat_inj.mp (Nat.xor_eq_zero_iff.mp (hbytes i hin))
    apply String.toByteArray_inj.mp
    apply ByteArray.ext
    exact Array.toList_inj.mp hlist
  · rintro rfl
    refine decide_eq_true ((foldl_or_eq_zero _ _ _).mpr ⟨Nat.xor_self _, ?_⟩)
    intro i _
    exact Nat.xor_self _

/-- The request carries the token. -/
def HasBearer (request : WorkerRequest) (token : String) : Prop :=
  extractBearer request ≠ "" ∧ extractBearer request = Js.trim token

/-- Without the token a request is refused exactly when its path is guarded and there is a token
to ask for. -/
theorem authorizeRequest_iff {request : WorkerRequest} {token : String}
    (hbearer : ¬ HasBearer request token) :
    authorizeRequest request ⟨some token⟩ = some unauthorizedResponse ↔
      Js.trim token ≠ "" ∧ pathRequiresBearer request.pathname request.method = true := by
  unfold authorizeRequest
  by_cases hpath : pathRequiresBearer request.pathname request.method = true
  · by_cases htoken : Js.trim token = ""
    · simp [hpath, htoken]
    · have hrefused : extractBearer request = "" ∨
          timingSafeEqual (extractBearer request) (Js.trim token) = false := by
        by_cases hempty : extractBearer request = ""
        · exact Or.inl hempty
        · right
          rw [Bool.eq_false_iff, ne_eq, timingSafeEqual_iff]
          intro heq
          exact hbearer ⟨hempty, heq⟩
      rcases hrefused with hrefused | hrefused <;> simp [hpath, htoken, hrefused]
  · simp [hpath]

/-! ## Routes -/

theorem RoutesToMutation.spec {method path : String} (h : RoutesToMutation method path) :
    Text.upper method ≠ "OPTIONS" ∧ path ≠ "/api" ∧ path ≠ "/health" := by
  obtain ⟨route, hmem, rfl, hpath⟩ := h
  have htable : ∀ route ∈ mutatingRoutes, Text.upper route.1 ≠ "OPTIONS" ∧
      (route.2 ≠ "/api" ∧ route.2 ≠ "/health") ∧
        route.2 ++ "\n" ≠ "/api" ∧ route.2 ++ "\n" ≠ "/health" := by
    decide +kernel
  obtain ⟨hmethod, hplain, hline⟩ := htable route hmem
  refine ⟨hmethod, ?_⟩
  rcases hpath with rfl | rfl
  · exact hplain
  · exact hline

/-- A request that can change the core, without the token of the secret, is refused exactly when
the secret is not blank and the path is spelled with `/api/`. -/
theorem mutation_refused_iff (request : WorkerRequest) (token : String)
    (hroute : RoutesToMutation request.method (Percent.unquote request.pathname))
    (hbearer : ¬ HasBearer request token) :
    authorizeRequest request ⟨some token⟩ = some unauthorizedResponse ↔
      Js.trim token ≠ "" ∧ Js.startsWith request.pathname "/api/" = true := by
  obtain ⟨hmethod, hapi, hhealth⟩ := hroute.spec
  rw [authorizeRequest_iff hbearer]
  have hne : request.pathname ≠ "/api" ∧ request.pathname ≠ "/health" := by
    constructor
    · intro heq
      rw [heq] at hapi
      exact hapi (Percent.unquote_plain (by decide +kernel))
    · intro heq
      rw [heq] at hhealth
      exact hhealth (Percent.unquote_plain (by decide +kernel))
  simp [pathRequiresBearer, hmethod, hne]

/-- An approval without a token. -/
def approvePost (pathname : String) : WorkerRequest := ⟨"POST", pathname, none⟩

/-- The approval by the interface is refused, its secret being none of blanks only. -/
theorem mutation_refused_api_approve :
    authorizeRequest (approvePost "/api/gate/approve") ⟨some "secret"⟩ = some unauthorizedResponse ↔
      Js.trim "secret" ≠ "" ∧ Js.startsWith (approvePost "/api/gate/approve").pathname "/api/" = true := by
  refine mutation_refused_iff (approvePost "/api/gate/approve") "secret" ?_ ?_
  · refine ⟨("POST", "/api/gate/approve"), by simp [mutatingRoutes], rfl, Or.inl ?_⟩
    exact Percent.unquote_plain (by decide +kernel)
  · rintro ⟨hempty, _⟩
    exact hempty (by decide +kernel)

/-- The approval by the form goes through without a token, and it issues a tasking. -/
theorem form_approval_unauthenticated :
    letI := plainHash
    RoutesToMutation "POST" (Percent.unquote "/verify/command/approve") ∧
      ¬ HasBearer (approvePost "/verify/command/approve") "secret" ∧
        authorizeRequest (approvePost "/verify/command/approve") ⟨some "secret"⟩ = none ∧
          (Request.verifyApprove (F := Whole) "a" "yes").route = ("POST", "/verify/command/approve") ∧
            ∃ s : C2Runtime Whole Unit, s.inbox.get "a" = none ∧
              ((serve s (served (.verifyApprove "a" "yes"))).inbox.get "a").isSome = true := by
  let := plainHash
  refine ⟨?_, ?_, by decide +kernel, rfl, ?_⟩
  · refine ⟨("POST", "/verify/command/approve"), by simp [mutatingRoutes], rfl, Or.inl ?_⟩
    exact Percent.unquote_plain (by decide +kernel)
  · rintro ⟨hempty, _⟩
    exact hempty (by decide +kernel)
  · exact ⟨serve demoServer (served (propose (demoCoa "a" "INSPECT" .tier1Hitl))), rfl, rfl⟩

theorem startsWith_iff (s p : String) : Js.startsWith s p = true ↔ p.toList <+: s.toList :=
  List.isPrefixOf_iff_prefix

/-- A path without an escape in its first five characters is one at `/api` or below it, if it is
read as one. -/
theorem api_of_unquote {pathname : String} (hplain : '%' ∉ pathname.toList.take 5)
    (hapi : Percent.unquote pathname = "/api" ∨
      Js.startsWith (Percent.unquote pathname) "/api/" = true) :
    pathname = "/api" ∨ Js.startsWith pathname "/api/" = true := by
  have hread : (Percent.unquote pathname).toList = pathname.toList.take 5 ++
      Percent.decode none (Percent.parts (pathname.toList.drop 5)) := by
    rw [← Percent.decode_plain hplain, List.take_append_drop, Percent.unquote,
      String.toList_ofList]
  by_cases hlen : 5 ≤ pathname.toList.length
  · have htake : (pathname.toList.take 5).length = 5 := by
      rw [List.length_take]
      omega
    right
    rw [startsWith_iff]
    rcases hapi with hapi | hapi
    · -- the text read has at least five characters
      have hlen' := congrArg List.length hread
      rw [hapi, List.length_append, htake, show "/api".toList.length = 4 from rfl] at hlen'
      omega
    · rw [startsWith_iff, hread] at hapi
      have hfirst : "/api/".toList <+: pathname.toList.take 5 :=
        List.prefix_of_prefix_length_le hapi (List.prefix_append _ _) htake.ge
      exact hfirst.trans (List.take_prefix _ _)
  · -- a shorter path has no escape at all
    have hall : pathname.toList.take 5 = pathname.toList := List.take_of_length_le (by omega)
    rw [hall] at hplain
    rwa [Percent.unquote_plain hplain] at hapi

/-- A path whose escapes read as `/api` or as one below it is guarded exactly when its first five
characters have no escape, for every method but `OPTIONS` in some letter case. -/
theorem api_guarded_iff (pathname method : String)
    (hapi : Percent.unquote pathname = "/api" ∨
      Js.startsWith (Percent.unquote pathname) "/api/" = true) :
    pathRequiresBearer pathname method = true ↔
      '%' ∉ pathname.toList.take 5 ∧ Text.upper method ≠ "OPTIONS" := by
  constructor
  · intro h
    have hmethod : Text.upper method ≠ "OPTIONS" := by
      intro hoptions
      simp [pathRequiresBearer, hoptions] at h
    have hpath : pathname = "/api" ∨ Js.startsWith pathname "/api/" = true := by
      by_cases hhealth : pathname = "/health"
      · simp [pathRequiresBearer, hhealth] at h
      · simpa [pathRequiresBearer, hmethod, hhealth] using h
    refine ⟨?_, hmethod⟩
    rcases hpath with rfl | hpath
    · decide
    · obtain ⟨rest, hrest⟩ := (startsWith_iff _ _).mp hpath
      have hfive : "/api/".toList.length = 5 := rfl
      rw [← hrest, ← hfive, List.take_left]
      decide
  · rintro ⟨hplain, hmethod⟩
    have hpath := api_of_unquote hplain hapi
    have hhealth : pathname ≠ "/health" := by
      rintro rfl
      exact absurd hpath (by decide)
    simpa [pathRequiresBearer, hmethod, hhealth] using hpath

/-- The canonical spelling of a route is guarded. -/
theorem api_guarded_canonical :
    pathRequiresBearer "/api/gate/approve" "POST" = true ↔
      '%' ∉ "/api/gate/approve".toList.take 5 ∧ Text.upper "POST" ≠ "OPTIONS" := by
  refine api_guarded_iff "/api/gate/approve" "POST" (Or.inr ?_)
  rw [Percent.unquote_plain (by decide +kernel)]
  decide +kernel

/-- With one letter of `/api` escaped it is not. -/
theorem escaped_api_unguarded :
    Percent.unquote "/%61pi/gate/approve" = "/api/gate/approve" ∧
      Js.startsWith (Percent.unquote "/%61pi/gate/approve") "/api/" = true ∧ "POST" ≠ "OPTIONS" ∧
        pathRequiresBearer "/%61pi/gate/approve" "POST" = false := by
  refine ⟨by decide +kernel, by decide +kernel, by decide, by decide +kernel⟩

end NexusC2
