import BundleLedger.Access.Permission
import BundleLedger.Reconciliation.Run
import BundleLedger.Request.Route
import BundleLedger.Service.Delivery

/-!
# Answering requests

Every request runs under a correlation id, its own if it sends a usable one and a made one otherwise. It is
counted and logged under the label of its path, and its answer carries the correlation id, unless handling
it failed. Permissions are checked before parameters are read.
-/

set_option autoImplicit false

namespace BundleLedger

/-- What an answer holds. -/
inductive Content where
  | health (settings : Settings)
  | refreshed (result : RefreshResult)
  | checked (database : Database) (scope : Option Uuid) (results : List CheckResult)
  | metrics
  | detail (text : String)
  /-- Complaints about parameters. -/
  | unprocessable
  | document (kind : String)

/-- A status with what is answered under it. -/
structure Reply where
  status : Nat
  content : Content

/-- An answer as it is sent: nothing is sent of a request that failed. -/
structure Response where
  status : Nat
  correlation : Option String
  content : Option Content

namespace Request

/-- An answer that only states a reason. -/
def reason (status : Nat) (text : String) : Reply :=
  ⟨status, .detail text⟩

/-- Whether whoever sent the request may go on with permissions; what is logged on the way is logged. -/
def admission (r : Request) (permissions : List String) : Procedure Admission := fun s ↦
  let policy := s.settings.map fun settings ↦ TokenPolicy.ofSettings settings s.clock
  match authorize policy (r.headers.get? "authorization") permissions with
  | .error cause => (.error (.cause cause), s)
  | .ok a => (.ok a.admission, a.notices.foldl Service.log s)

/-! ### The services -/

/-- The answer to a refresh. -/
def refreshReply : Except Failure RefreshResult → Except Failure Reply
  | .ok result => .ok ⟨200, .refreshed result⟩
  | .error (.refresh e) =>
    .ok (if e.isAccountNotFound then reason 404 "account not found" else reason 502 e.text)
  | .error failure => .error failure

/-- The refresh of an account. -/
def refreshBundles (account : String) : Procedure Reply := fun s ↦
  match Uuid.ofText? account with
  | none => (.ok ⟨422, .unprocessable⟩, s)
  | some id =>
    let (outcome, t) := Service.refresh id s.correlation s
    (refreshReply outcome, t)

/-- A run of the checks, limited as the parameter says. -/
def checkScope (scope : Option Uuid) : Procedure Reply := fun s ↦
  let run := Reconciliation.run s.database scope s.correlation
  let t := s.observe run.telemetry
  match run.outcome with
  | .ok results => (.ok ⟨200, .checked s.database scope results⟩, t)
  | .error fault => (.error (.cause (.database fault)), t)

/-- A run of the checks. -/
def checkBundles (r : Request) : Procedure Reply :=
  match r.parameter? "account_id" with
  | none => checkScope none
  | some text =>
    match Uuid.ofText? text with
    | some id => checkScope (some id)
    | none => Procedure.pure ⟨422, .unprocessable⟩

/-- The state of the service. -/
def health : Procedure Reply := fun s ↦
  ((s.settings.map fun settings ↦ ⟨200, .health settings⟩).mapError .cause, s)

/-- The page of metrics, if the settings enable it. -/
def metrics : Procedure Reply := fun s ↦
  ((s.settings.map fun settings ↦
    if settings.metricsEnabled then ⟨200, .metrics⟩ else reason 404 "not found").mapError .cause, s)

/-- The service of a route, for whoever has the permissions. -/
def service (r : Request) : Route → Procedure Reply
  | .refreshBundles account => refreshBundles account
  | .checkBundles => checkBundles r
  | .health => health
  | .metrics => metrics
  | .documentation path =>
    Procedure.pure ⟨200, .document ((Route.documents.find? fun d ↦ d.1 = path).map (·.2) |>.getD "")⟩

/-- The answer on a route: permissions come first. -/
def onRoute (r : Request) (route : Route) : Procedure Reply := do
  if route.methods.contains r.method then
    match ← r.admission route.permissions with
    | .denied missing => return reason 403 (Admission.detail missing)
    | .allowed => service r route
  else return reason 405 "Method Not Allowed"

/-- The answer to a request that is not redirected. -/
def reply (r : Request) : Procedure Reply :=
  match Route.ofPath? r.path with
  | some route => onRoute r route
  | none => Procedure.pure (reason 404 "Not Found")

/-! ### Observation -/

/-- The correlation id of a request: its own, or the next made one. -/
def identified (r : Request) (s : Service) : String × Service :=
  match r.headers.correlation? with
  | some id => (id, s)
  | none =>
    ("generated-" ++ Text.natural (s.generated + 1), { s with generated := s.generated + 1 })

/-- What is observed of a request with a status. -/
def observed (r : Request) (status : Nat) (notice : Notice) (s : Service) : Service :=
  let label := Route.label r.path
  (s.count [⟨.httpRequests r.method label status, 1⟩, ⟨.httpDuration r.method label, 1⟩]).log notice

/-- A computation under the correlation id of a request, observed, and the correlation id. -/
def observing (r : Request) (p : Procedure Reply) : Service → Option Reply × String × Service := fun s ↦
  let (id, s) := identified r s
  let label := Route.label r.path
  let (outcome, t) := p { s with correlation := some id }
  match outcome with
  | .ok reply =>
    let t := observed r reply.status (.requestServed r.method label reply.status) t
    (some reply, id, { t with correlation := s.correlation })
  | .error failure =>
    let t := observed r 500 (.requestFailed r.method label failure) t
    (none, id, { t with correlation := s.correlation })

/-- The answer to a request, and the system after it. -/
def answer (r : Request) (s : Service) : Response × Service :=
  match observing r (reply r) s with
  | (some reply, id, t) => (⟨reply.status, some id, some reply.content⟩, t)
  | (none, _, t) => (⟨500, none, none⟩, t)

/-- The answer to a request whose sender follows redirections. -/
def handle (r : Request) (s : Service) : Response × Service :=
  match Route.redirect? r.path with
  | some target =>
    let (_, _, t) := observing r (Procedure.pure ⟨307, .unprocessable⟩) s
    answer { r with path := pathText target.toList } t
  | none => answer r s

end Request
end BundleLedger
