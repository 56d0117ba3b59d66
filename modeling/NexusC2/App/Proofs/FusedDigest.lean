import NexusC2.App.Agent
import NexusC2.Misc.SortedWords

/-!
# The digest of a track

`fused_digest` hashes the digests of a track in order of their texts, joined with bars. The order
makes it the same for any two orders of ingest; and hex digests have no bar and are not empty, so
the joined text gives them back.
-/

namespace NexusC2

/-- A digest of 64 hex digits. -/
def IsHexDigest (d : String) : Prop :=
  d.length = 64 ∧ ∀ c ∈ d.toList, c ∈ "0123456789abcdefABCDEF".toList

theorem IsHexDigest.word {d : String} (h : IsHexDigest d) : d ≠ "" ∧ '|' ∉ d.toList := by
  constructor
  · rintro rfl
    exact absurd h.1 (by decide)
  · intro hbar
    exact absurd (h.2 _ hbar) (by decide)

section

variable {F D : Type} [Sha256]

/-- The fused digests of two tracks are the same just when their digests are, up to the order. -/
theorem fusedDigest_eq_iff (hsha : Function.Injective Sha256.hex) {t t' : Track F D}
    (h : ∀ d ∈ t.digests, IsHexDigest d) (h' : ∀ d ∈ t'.digests, IsHexDigest d) :
    t.fusedDigest = t'.fusedDigest ↔ t.digests.Perm t'.digests := by
  have hsorted : ∀ {t : Track F D}, (∀ d ∈ t.digests, IsHexDigest d) →
      ∀ w ∈ t.digests.insertionSort fun a b => a ≤ b, w ≠ "" ∧ '|' ∉ w.toList := by
    intro t h w hw
    exact (h w ((List.mem_insertionSort _).mp hw)).word
  have hcanonical : (t.digests.insertionSort fun a b => a ≤ b) =
      (t'.digests.insertionSort fun a b => a ≤ b) ↔ t.digests.Perm t'.digests :=
    insertionSort_eq_iff_perm
  unfold Track.fusedDigest
  rw [hsha.eq_iff, ← hcanonical]
  constructor
  · intro heq
    exact intercalate_inj (hsorted h) (hsorted h') heq
  · intro heq
    rw [heq]

variable [PyMathOps F]

/-- The evidence of a COA is that of the track it tasks. -/
theorem makeTier1Coa_rawInputDigest {graph : SpatialEntityGraph F D} {finding : Finding F}
    {coaId intent : String} {timeoutSeconds : F} {speed : Option F} {contact : Bool}
    {coa : CourseOfAction F}
    (h : makeTier1Coa coaId graph finding intent timeoutSeconds speed contact = .ok coa) :
    ∃ t, graph.getTrack finding.trackId = some t ∧ coa.rawInputDigest = t.fusedDigest := by
  obtain ⟨track, skt, lat, lon, contactSpeed, htrack, ⟨-, poi, h⟩ | ⟨-, rfl⟩⟩ :=
    makeTier1Coa_cases h
  · obtain ⟨target, metadata, rfl⟩ := CourseOfAction.applyLeadPursuit_ok h
    exact ⟨track, htrack, rfl⟩
  · exact ⟨track, htrack, rfl⟩

/-- The fused digest identifies the evidence of a track up to the order of ingest, and a COA carries
that of the track it tasks. -/
theorem fused_digest_identifies (hsha : Function.Injective Sha256.hex) :
    (∀ t t' : Track F D, (∀ d ∈ t.digests, IsHexDigest d) → (∀ d ∈ t'.digests, IsHexDigest d) →
      (t.fusedDigest = t'.fusedDigest ↔ t.digests.Perm t'.digests)) ∧
    ∀ (graph : SpatialEntityGraph F D) (finding : Finding F) (coaId intent : String)
      (timeoutSeconds : F) (speed : Option F) (contact : Bool) (coa : CourseOfAction F),
      makeTier1Coa coaId graph finding intent timeoutSeconds speed contact = .ok coa →
        ∃ t, graph.getTrack finding.trackId = some t ∧ coa.rawInputDigest = t.fusedDigest := by
  constructor
  · intro t t' h h'
    exact fusedDigest_eq_iff hsha h h'
  · intro graph finding coaId intent timeoutSeconds speed contact coa h
    exact makeTier1Coa_rawInputDigest h

end

/-- A track of these digests. -/
def evidenceTrack (digests : List String) : Track Rat Instant :=
  { trackId := "C-1"
    latitude := 1
    longitude := 103
    speedMps := 0
    confidence := 1
    sourceIds := ["ais"]
    modalities := []
    observationIds := []
    digests := digests
    updatedAt := ⟨0⟩
    attributes := [] }

/-- Two digests in either order, and one of them alone. -/
theorem fused_digest_identifies_two :
    letI := plainHash
    let a := String.ofList (List.replicate 64 'a')
    let b := String.ofList (List.replicate 64 'b')
    (evidenceTrack [a, b]).fusedDigest = (evidenceTrack [b, a]).fusedDigest ∧
      (evidenceTrack [a]).fusedDigest ≠ (evidenceTrack [a, a]).fusedDigest := by
  let := plainHash
  let := exactMath
  have hhex : ∀ c ∈ "ab".toList, IsHexDigest (String.ofList (List.replicate 64 c)) := by
    intro c hc
    constructor
    · simp
    · intro c' hc'
      rw [String.toList_ofList, List.mem_replicate] at hc'
      obtain ⟨-, rfl⟩ := hc'
      have hdigit : ∀ c ∈ "ab".toList, c ∈ "0123456789abcdefABCDEF".toList := by simp
      exact hdigit c' hc
  intro a b
  have ha : IsHexDigest a := hhex 'a' (by decide)
  have hb : IsHexDigest b := hhex 'b' (by decide)
  have hidentifies := (fused_digest_identifies (F := Rat) (D := Instant) Function.injective_id).1
  constructor
  · apply (hidentifies _ _ ?_ ?_).mpr (List.Perm.swap _ _ _)
    · simp [evidenceTrack, ha, hb]
    · simp [evidenceTrack, ha, hb]
  · intro heq
    have hperm := (hidentifies _ _ ?_ ?_).mp heq
    · exact absurd hperm.length_eq (by decide)
    · simp [evidenceTrack, ha]
    · simp [evidenceTrack, ha]

end NexusC2
