import NexusC2.App.VerifyUi
import NexusC2.Misc.JsString
import NexusC2.Misc.Percent

/-!
# The Worker in front of the core

The authorization of `deploy/cloudflare/src/index.ts`, and the routes of the core it stands in
front of. `pathname` is that of a WHATWG URL, which keeps escapes as they are; the core routes
the path `unquote` makes of it.
-/

namespace NexusC2

/-! ## JavaScript strings -/

namespace Js

/-- White space and line terminators: what `\s` matches and `trim` removes. -/
def isSpace (c : Char) : Bool :=
  let n := c.toNat
  (9 ≤ n && n ≤ 13) || n = 0x20 || n = 0xa0 || n = 0x1680 || (0x2000 ≤ n && n ≤ 0x200a) ||
    n = 0x2028 || n = 0x2029 || n = 0x202f || n = 0x205f || n = 0x3000 || n = 0xfeff

/-- `s.trim()`. -/
def trim (s : String) : String :=
  String.ofList ((s.toList.dropWhile isSpace).reverse.dropWhile isSpace).reverse

/-- `s.startsWith(p)`. -/
def startsWith (s p : String) : Bool := p.toList.isPrefixOf s.toList

/-- `new TextEncoder().encode(s)`. -/
def encode (s : String) : List UInt8 := s.toUTF8.data.toList

end Js

/-! ## Requests -/

/-- A request as the Worker reads it: method, `URL.pathname` and the `Authorization` header. -/
structure WorkerRequest where
  method : String
  pathname : String
  authorization : Option String

/-- `EnvWithAuth` (`deploy/cloudflare/src/index.ts:6`). -/
structure WorkerEnv where
  c2ApiToken : Option String

/-- A response of the Worker itself. -/
structure WorkerResponse where
  status : Nat
  headers : List (String × String)
  body : String
  deriving DecidableEq, Repr

/-- `pathRequiresBearer` (`deploy/cloudflare/src/index.ts:121-129`). Methods are ASCII. -/
def pathRequiresBearer (pathname method : String) : Bool :=
  if Text.upper method = "OPTIONS" then false
  else if pathname = "/health" then false
  else pathname = "/api" || Js.startsWith pathname "/api/"

/-- `unauthorizedResponse` (`deploy/cloudflare/src/index.ts:131-139`). -/
def unauthorizedResponse : WorkerResponse :=
  { status := 401
    headers := [("content-type", "application/json"),
      ("www-authenticate", "Bearer realm=\x22sdth-c2-core\x22")]
    body := "\x7b\x22detail\x22:\x22Unauthorized\x22\x7d" }

/-- `timingSafeEqual` (`deploy/cloudflare/src/index.ts:141-151`). -/
def timingSafeEqual (a b : String) : Bool :=
  let ba := Js.encode a
  let bb := Js.encode b
  let diff := (List.range (max ba.length bb.length)).foldl
    (fun diff i => diff ||| ((ba[i]?.getD 0).toNat ^^^ (bb[i]?.getD 0).toNat))
    (ba.length ^^^ bb.length)
  diff = 0

/-- `timingSafeEqual` from the encodings on (`deploy/cloudflare/src/index.ts:145-150`). A byte that
is missing counts as 0. -/
def sameBytes (ba bb : List UInt8) : Bool :=
  let len := max ba.length bb.length
  let diff := (List.range len).foldl
    (fun diff i => diff ||| (Js.toInt32 (ba[i]?.getD 0).toNat ^^^ Js.toInt32 (bb[i]?.getD 0).toNat))
    (Js.toInt32 ba.length ^^^ Js.toInt32 bb.length)
  diff = 0#32

/-- `timingSafeEqual` on any two strings (`deploy/cloudflare/src/index.ts:141-151`), where the
tokens of a request are texts. -/
def JsString.timingSafeEqual (a b : JsString) : Bool := sameBytes a.encode b.encode

/-- The group of `/^Bearer\s+(\S+)/i`. -/
def bearerMatch (header : List Char) : Option (List Char) :=
  let rest := header.drop 6
  let token := (rest.dropWhile Js.isSpace).takeWhile fun c => !Js.isSpace c
  if (header.take 6).map Char.toLower = "bearer".toList ∧ (rest.takeWhile Js.isSpace) ≠ [] ∧
      token ≠ [] then some token
  else none

/-- `extractBearer` (`deploy/cloudflare/src/index.ts:153-157`). -/
def extractBearer (request : WorkerRequest) : String :=
  String.ofList ((bearerMatch (Js.trim (request.authorization.getD "")).toList).getD [])

/-- `authorizeRequest` (`deploy/cloudflare/src/index.ts:163-178`). -/
def authorizeRequest (request : WorkerRequest) (env : WorkerEnv) : Option WorkerResponse :=
  if !pathRequiresBearer request.pathname request.method then none
  else
    let expected := (env.c2ApiToken.map Js.trim).getD ""
    if expected = "" then none
    else
      let presented := extractBearer request
      if presented = "" || !timingSafeEqual presented expected then some unauthorizedResponse
      else none

/-! ## The routes of the core -/

/-- The routes whose handlers can change proposals, inbox, acked ids, graph, interlock or trail
(`app/c2_server.py:507-1147`, `app/verify_ui.py:352-627`). -/
def mutatingRoutes : List (String × String) :=
  [("POST", "/api/ingress/candidate-event"), ("POST", "/api/ingress/open-feed"),
    ("POST", "/api/interpret"), ("POST", "/api/gate/demo-evaluate-with-guardrail"),
    ("POST", "/api/gate/proposals"), ("POST", "/api/gate/approve"), ("POST", "/api/recipient/ack"),
    ("PUT", "/api/admin/audit/snapshot"), ("POST", "/api/admin/audit/tamper"),
    ("POST", "/api/admin/audit/restore"), ("POST", "/api/admin/reset"),
    ("POST", "/verify/command/propose"), ("POST", "/verify/command/approve"),
    ("POST", "/verify/command/guardrail"), ("POST", "/verify/command/ingress"),
    ("POST", "/verify/command/reset"), ("POST", "/verify/recipient/ack"),
    ("POST", "/verify/audit/tamper"), ("POST", "/verify/audit/restore")]

/-- The core has a handler for a method and a path, and it can change the state. The pattern of a
route ends in `$`, which also matches before a line feed at the end. -/
def RoutesToMutation (method path : String) : Prop :=
  ∃ route ∈ mutatingRoutes, method = route.1 ∧ (path = route.2 ∨ path = route.2 ++ "\n")

/-- The route of a request. -/
def Request.route {F : Type} : Request F → String × String
  | .interpret _ => ("POST", "/api/interpret")
  | .proposals _ => ("POST", "/api/gate/proposals")
  | .guardrail _ => ("POST", "/api/gate/demo-evaluate-with-guardrail")
  | .approve _ => ("POST", "/api/gate/approve")
  | .ack _ => ("POST", "/api/recipient/ack")
  | .reset => ("POST", "/api/admin/reset")
  | .verifyPropose _ _ => ("POST", "/verify/command/propose")
  | .verifyApprove _ _ => ("POST", "/verify/command/approve")
  | .verifyGuardrail _ _ _ => ("POST", "/verify/command/guardrail")
  | .verifyAck _ _ => ("POST", "/verify/recipient/ack")
  | .verifyReset => ("POST", "/verify/command/reset")
  | .auditSnapshot _ => ("PUT", "/api/admin/audit/snapshot")

/-- Every request of the server comes in by one of these routes. -/
theorem route_mem {F : Type} (r : Request F) : r.route ∈ mutatingRoutes := by
  cases r <;> simp [Request.route, mutatingRoutes]

end NexusC2
