import NexusC2.App.AuditTamper
import NexusC2.App.Restart
import NexusC2.Core.Ontology

/-!
# Calls

Everything that comes to a server from outside, in one type: its requests, the two endpoints that
only look (`recipient_inbox` and `ontology_state` of `app/c2_server.py`), the tamper demonstration
and restarts; and what the sender of a sequence of calls gets to see.
-/

namespace NexusC2

/-! ## The picture -/

section

variable {F D : Type} [PyDateTime D]

omit [PyDateTime D] in
/-- A track of `ontology_state` (`app/c2_server.py:472-485`), by the `isoformat` of `datetime`. -/
def Track.state (isoformat : D → String) (t : Track F D) : Json F :=
  .obj [("track_id", .str t.trackId), ("latitude", .float t.latitude),
    ("longitude", .float t.longitude), ("speed_mps", .float t.speedMps),
    ("confidence", .float t.confidence), ("source_ids", Json.strs t.sourceIds),
    ("modalities", Json.strs t.modalities), ("updated_at", .str (isoformat t.updatedAt)),
    ("attributes", .obj t.attributes)]

/-- `amber_alert` of `ontology_state` (`app/c2_server.py:487-496`). -/
def amberAlert : Option (Finding F) → Json F
  | none => .null
  | some f => .obj [("alert", Json.ofOption f.amberAlert), ("threat_class", .str f.threatClass),
      ("mismatch_m", .float f.mismatchM), ("picture_summary", .str f.pictureSummary),
      ("source_breakdown", .obj f.sourceBreakdown), ("scenario_id", .str f.scenarioId)]

/-- `ontology_state` (`app/c2_server.py:470-504`). -/
def ontologyState (isoformat : D → String) (s : C2Runtime F (SpatialEntityGraph F D)) : Json F :=
  .obj [("scenario_id", Json.ofOption s.scenarioId),
    ("tracks", .arr (s.graph.tracks.values.map (Track.state isoformat))),
    ("observations", .arr (s.graph.observations.map Observation.modelDump)),
    ("amber_alert", amberAlert s.finding),
    ("pending_proposals", Json.strs (Assoc.keys s.proposals.entries)),
    ("inbox_depth", .int ((Assoc.keys s.inbox.entries).filter fun k => k ∉ s.acked).length)]

end

/-! ## Calls and answers -/

/-- What comes to a server. -/
inductive Call (F Obs G : Type) where
  | request (r : Served F Obs G)
  | ingress (i : Ingress F Obs G)
  | inbox (unitId : String)
  | ontology
  | tamper (index : Int)
  | restoreTrail
  | restart (boot : Boot F)

/-- What comes back. -/
inductive Answer (F : Type) where
  | response (r : Response F)
  | inbox (items : List (Tasking F))
  | ontology (body : Json F)
  | started
  | failed (e : Exc)

section

variable {F Obs G : Type} [PyFloatOps F] [Sha256] [EntityGraph F Obs G]

/-- The answer to a call, where `view` is `ontology_state`. -/
def Call.answer (view : C2Runtime F G → Json F) (s : C2Runtime F G) : Call F Obs G → Answer F
  | .request r => .response (handle r.env r.req s).1
  | .ingress i => .response (handleIngress i s).1
  | .inbox unitId => .inbox (recipientInbox s unitId)
  | .ontology => .ontology (view s)
  | .tamper index => .response (respond .json (injectAuditTamper index) s).1
  | .restoreTrail => .response (respond .json restoreAuditTamper s).1
  | .restart boot =>
    match C2Runtime.restart Obs boot s with
    | .ok _ => .started
    | .error e => .failed e

/-- The server after a call; there is none after a start that raises. -/
def Call.after (s : C2Runtime F G) : Call F Obs G → Option (C2Runtime F G)
  | .request r => some (serve s r)
  | .ingress i => some (handleIngress i s).2
  | .inbox _ => some s
  | .ontology => some s
  | .tamper index => some (injectAuditTamper index s).2
  | .restoreTrail => some (restoreAuditTamper s).2
  | .restart boot => (C2Runtime.restart Obs boot s).toOption

/-- The step relation of the calls. -/
def Call.Step (s : C2Runtime F G) (c : Call F Obs G) (s' : C2Runtime F G) : Prop :=
  c.after s = some s'

/-- The answers to calls that come one after the other, as long as there is a server. -/
def answersTo (view : C2Runtime F G → Json F) (s : C2Runtime F G) :
    List (Call F Obs G) → List (Answer F)
  | [] => []
  | c :: cs => c.answer view s :: match c.after s with
    | some s' => answersTo view s' cs
    | none => []

end

end NexusC2
