import CrossVenue.Address.Derived
import CrossVenue.Service.Body
import CrossVenue.Service.Form
import CrossVenue.Transaction.Wire

/-!
# The service

Requests are answered from a strategy that is loaded when the service starts.  Without it the service
is not ready, and whatever needs the strategy breaks down.

* `respond_of_unknown`, `respond_of_method` : unknown paths are not found, and an endpoint has one
  method;
* `respond_of_path` : what a good request is answered.
-/

set_option autoImplicit false

namespace CrossVenue

/-- A request to the service. -/
structure Request where
  method : Text
  path : Text
  body : Bytes

/-- What the service offers. -/
inductive Endpoint
  | health
  | liveness
  | readiness
  | arbitrage
  | swap
  | programAddress
  | transaction
deriving DecidableEq, Repr

namespace Endpoint

/-- All that the service offers. -/
def all : List Endpoint :=
  [health, liveness, readiness, arbitrage, swap, programAddress, transaction]

/-- The path of an endpoint. -/
def path : Endpoint → Text
  | health => "/health"
  | liveness => "/health/live"
  | readiness => "/health/ready"
  | arbitrage => "/arbitrage"
  | swap => "/swap"
  | programAddress => "/svm/find-program-address"
  | transaction => "/svm/transactions"

/-- The method of an endpoint. -/
def method : Endpoint → Text
  | health => "GET"
  | liveness => "GET"
  | readiness => "GET"
  | _ => "POST"

/-- Is a path another one, or that with an end of line after it? -/
def isAt (path known : Text) : Bool := path = known || path = known ++ "\n"

/-- The endpoint of a path. -/
def ofPath? (path : Text) : Option Endpoint := all.find? fun e => isAt path e.path

theorem ofPath?_path (e : Endpoint) : ofPath? e.path = some e := by cases e <;> decide

end Endpoint

/-- What a path leads to: an endpoint, or a page that describes the service. -/
inductive Resource
  | endpoint (e : Endpoint)
  | page
deriving DecidableEq, Repr

namespace Resource

/-- The paths of the pages that describe the service. -/
def pagePaths : List Text := ["/openapi.json", "/docs", "/docs/oauth2-redirect", "/redoc"]

/-- What a path leads to. -/
def ofPath? (path : Text) : Option Resource :=
  match Endpoint.ofPath? path with
  | some e => some (.endpoint e)
  | none => if pagePaths.any (Endpoint.isAt path) then some .page else none

/-- The methods that a resource takes. -/
def methods : Resource → List Text
  | endpoint e => [e.method]
  | page => ["GET", "HEAD"]

/-- The path without closing slashes. -/
def withoutSlashes (path : Text) : Text := ⟨Text.trimEnd (· = .char '/') path.toList⟩

/-- Does a path lead to something once its closing slashes are dropped? -/
def isRedirected (path : Text) : Bool :=
  path.toList.getLast? = some (.char '/') && (ofPath? (withoutSlashes path)).isSome

theorem ofPath?_path (e : Endpoint) : ofPath? e.path = some (.endpoint e) := by
  simp [ofPath?, Endpoint.ofPath?_path]

end Resource

/-- The service with the strategy that it has loaded. -/
structure Service where
  strategy : Option Strategy

namespace Service

/-- The strategy, or a breakdown if none is loaded. -/
def loaded (s : Service) : Attempt Strategy :=
  match s.strategy with
  | some strategy => .ok strategy
  | none => breakDown .unsupported

/-- A status with a message. -/
def statusFields (status message : Text) : Json.Fields :=
  [("status", .str status), ("message", .str message)]

/-- That the service runs. -/
def healthBody : Json := .obj (statusFields "healthy" "Service is operational")

/-- That the service answers. -/
def livenessBody : Json := .obj (statusFields "alive" "Application is responsive")

/-- Whether the service is ready, and for which pairs. -/
def readinessBody (s : Service) : Json :=
  match s.strategy with
  | some strategy =>
    .obj (statusFields "ready" "Application is ready to serve traffic" ++
      [(("pairs" : Text), Json.strings strategy.registry.pairs)])
  | none => .obj (statusFields "not_ready" "Venue registry not loaded")

/-- The pools of a form: those quoted in it, or else those of its state. -/
def formPools (room : Room) (s : Service) (form : Form.Arbitrage) : Attempt (List Pool) :=
  match form.pools, form.state with
  | [], none => .ok []
  | [], some state => do
    let strategy ← s.loaded
    strategy.quotePools room (some form.request.pair) state
  | listings, _ => (listings.mapM Listing.toPool : Except Rejection (List Pool))

/-- Plans a round trip. -/
def arbitrage (room : Room) (s : Service) (form : Form.Arbitrage) : Attempt Json := do
  let pools ← s.formPools room form
  let strategy ← s.loaded
  let decision ← strategy.arbitrage room form.request pools
  .ok decision.toJson

/-- Encodes a single swap. -/
def swap (room : Room) (s : Service) (request : SwapRequest) : Attempt Json := do
  let strategy ← s.loaded
  let decision ← strategy.swap room request
  .ok decision.toJson

/-- Derives an address. -/
def programAddress (form : Form.Derivation) : Attempt Json := do
  let (address, bump) ← (findProgramAddress (form.seeds.map RawKey.bytes)
    (.value (.str form.program)) : Except Rejection (Pubkey × Nat))
  .ok (.obj [("address", .str address.toText), ("bump", .int bump)])

/-- The budget of a form, or the one of the settings. -/
def formBudget (s : Service) (form : Form.Batch) : Attempt Int :=
  match form.budget with
  | some budget => .ok budget
  | none => do
    let strategy ← s.loaded
    .ok strategy.settings.svmComputeBudget.val

/-- Compiles instructions. -/
def transaction (s : Service) (form : Form.Batch) : Attempt Json := do
  let budget ← s.formBudget form
  let tx ← buildTransaction form.instructions (Json.strings form.signers) (.int budget)
  .ok tx.toJson

/-- What an endpoint answers to a body. -/
def answer (room : Room) (s : Service) (body : Bytes) : Endpoint → Attempt Reply
  | .health => .ok (.done healthBody)
  | .liveness => .ok (.done livenessBody)
  | .readiness => .ok (.done s.readinessBody)
  | .arbitrage => Body.handle room body Form.arbitrage fun form => (s.arbitrage room form).reply
  | .swap => Body.handle room body Form.swap fun request => (s.swap room request).reply
  | .programAddress => Body.handle room body Form.derivation fun form => (programAddress form).reply
  | .transaction => Body.handle room body Form.batch fun form => (s.transaction form).reply

/-- What a resource answers to a body. -/
def serve (room : Room) (s : Service) (body : Bytes) : Resource → Attempt Reply
  | .endpoint e => s.answer room body e
  | .page => .ok .page

/-- What the service answers to a request, before it is sent. -/
def reply (room : Room) (s : Service) (r : Request) : Attempt Reply :=
  match Resource.ofPath? r.path with
  | some resource =>
    if r.method ∈ resource.methods then s.serve room r.body resource else .ok .wrongMethod
  | none => .ok (if Resource.isRedirected r.path then .redirected else .notFound)

/-- What the service sends to a request. -/
def respond (room : Room) (s : Service) (r : Request) : Attempt Reply := do
  let reply ← s.reply room r
  reply.sent

theorem respond_of_unknown {room : Room} {s : Service} {r : Request} (h : Resource.ofPath? r.path = none)
    (hr : Resource.isRedirected r.path = false) : s.respond room r = .ok .notFound := by
  simp [respond, reply, h, hr, Reply.sent, bind, Except.bind]

theorem respond_of_method {room : Room} {s : Service} {r : Request} {e : Endpoint} (h : r.path = e.path)
    (hm : r.method ≠ e.method) : s.respond room r = .ok .wrongMethod := by
  simp [respond, reply, h, Resource.ofPath?_path, Resource.methods, hm, Reply.sent, bind,
    Except.bind]

theorem respond_of_path {room : Room} {s : Service} {r : Request} {e : Endpoint} (h : r.path = e.path)
    (hm : r.method = e.method) : s.respond room r = (s.answer room r.body e).bind Reply.sent := by
  simp [respond, reply, h, Resource.ofPath?_path, Resource.methods, hm, serve, bind]

end Service

end CrossVenue
