import BundleLedger.Proofs.Access.Authorization
import BundleLedger.Proofs.Service.Frame
import BundleLedger.Request.Handling

/-!
# Refused requests

A request on a protected route whose sender lacks the permission is answered before anything is read of the database,
the events, or the setting that opens the metrics, and it changes nothing but what is logged and counted of requests
(`Service.Unmoved`). Main statement: two systems with the same policy for tokens, whatever else differs between them,
answer every sequence of such requests alike and are not moved, and every answer is the refusal exactly if no request
presents a token whose reading fails (`Request.refused_alike`).
-/

set_option autoImplicit false

namespace BundleLedger

/-! ### Systems that are not moved -/

/-- The counters of requests, which count what is refused too. -/
def Counter.IsOfRequests : Counter → Prop
  | .httpRequests .. | .httpDuration .. => True
  | _ => False

namespace Service

/-- The settings of a system are valid and give a policy for tokens at its time. -/
def HasPolicy (policy : TokenPolicy) (s : Service) : Prop :=
  ∃ settings, s.settings = .ok settings ∧ TokenPolicy.ofSettings settings s.clock = policy

/-- Nothing differs between two systems but what is logged, the counters of requests and the correlation ids. -/
structure Unmoved (s t : Service) : Prop where
  database : t.database = s.database
  environment : t.environment = s.environment
  bus : t.bus = s.bus
  clock : t.clock = s.clock
  counters : ∀ counter : Counter, ¬counter.IsOfRequests → t.telemetry.total counter = s.telemetry.total counter

namespace Unmoved

variable {s t u : Service}

theorem refl (s : Service) : Unmoved s s :=
  ⟨rfl, rfl, rfl, rfl, fun _ _ ↦ rfl⟩

theorem trans (h : Unmoved s t) (hnext : Unmoved t u) : Unmoved s u where
  database := hnext.database.trans h.database
  environment := hnext.environment.trans h.environment
  bus := hnext.bus.trans h.bus
  clock := hnext.clock.trans h.clock
  counters counter hcounter := (hnext.counters counter hcounter).trans (h.counters counter hcounter)

theorem settings (h : Unmoved s t) : t.settings = s.settings := by
  rw [Service.settings, Service.settings, h.environment]

theorem hasPolicy {policy : TokenPolicy} (h : Unmoved s t) (hs : s.HasPolicy policy) : t.HasPolicy policy := by
  rw [HasPolicy, h.settings, h.clock]
  exact hs

theorem log (s : Service) (notice : Notice) : Unmoved s (s.log notice) := by
  refine ⟨rfl, rfl, rfl, rfl, fun counter _ ↦ ?_⟩
  simp [Service.log, observe, Telemetry.total]

theorem logs (s : Service) (notices : List Notice) : Unmoved s (notices.foldl Service.log s) := by
  induction notices generalizing s with
  | nil => exact refl s
  | cons notice rest ih => exact (log s notice).trans (ih _)

theorem correlated (s : Service) (correlation : Option String) : Unmoved s { s with correlation } :=
  ⟨rfl, rfl, rfl, rfl, fun _ _ ↦ rfl⟩

end Unmoved
end Service

/-- What an answer tells whoever sent the request, beside the correlation id. -/
def Response.told (a : Response) : ℕ × Option Content :=
  (a.status, a.content)

namespace Request

open Service (HasPolicy Unmoved)

variable {policy : TokenPolicy} {r : Request} {permission : String} {s : Service}

/-! ### Observation moves nothing -/

theorem unmoved_identified (r : Request) (s : Service) : Unmoved s (identified r s).2 := by
  unfold identified
  split
  · exact .refl s
  · exact ⟨rfl, rfl, rfl, rfl, fun _ _ ↦ rfl⟩

theorem unmoved_observed (r : Request) (status : ℕ) (notice : Notice) (s : Service) :
    Unmoved s (observed r status notice s) := by
  have hcount : Unmoved s (s.count [⟨.httpRequests r.method (Route.label r.path) status, 1⟩,
      ⟨.httpDuration r.method (Route.label r.path), 1⟩]) := by
    refine ⟨rfl, rfl, rfl, rfl, fun counter hcounter ↦ ?_⟩
    cases counter <;> simp_all [Counter.IsOfRequests, Service.count, Service.observe, Telemetry.total,
      Telemetry.totalOf_append, Telemetry.totalOf]
  exact hcount.trans (.log _ notice)

/-- A request is answered from a system like the one that it meets, and what is observed of it comes after. -/
theorem exists_answer (r : Request) (s : Service) : ∃ start, Unmoved s start ∧
    (∀ reply t, r.reply start = (.ok reply, t) →
      ∃ a u, answer r s = (a, u) ∧ Unmoved t u ∧ a.told = (reply.status, some reply.content)) ∧
    ∀ failure t, r.reply start = (.error failure, t) →
      ∃ a u, answer r s = (a, u) ∧ Unmoved t u ∧ a.told = (500, none) := by
  refine ⟨{ (identified r s).2 with correlation := some (identified r s).1 },
    (unmoved_identified r s).trans (.correlated _ _), fun reply t hreply ↦ ?_, fun failure t hreply ↦ ?_⟩
  · simp only [answer, observing, hreply]
    exact ⟨_, _, rfl, (unmoved_observed ..).trans (.correlated _ _), rfl⟩
  · simp only [answer, observing, hreply]
    exact ⟨_, _, rfl, (unmoved_observed ..).trans (.correlated _ _), rfl⟩

/-! ### Refusal -/

/-- A request is for the service of a route that requires one permission. -/
def Requires (r : Request) (permission : String) : Prop :=
  ∃ route, Route.ofPath? r.path = some route ∧ r.method ∈ route.methods ∧ route.permissions = [permission]

/-- A request is for a protected service, and its sender lacks the permission. -/
def Lacks (policy : TokenPolicy) (r : Request) : Prop :=
  ∃ permission, r.Requires permission ∧ ¬Grants policy (r.headers.get? "authorization") permission

/-- A request presents a token whose reading fails. -/
def Breaks (policy : TokenPolicy) (r : Request) : Prop :=
  PresentsBreaking policy (r.headers.get? "authorization")

/-- An answer refuses a request for lack of the permission that it requires. -/
def Refuses (r : Request) (a : Response) : Prop :=
  ∃ permission, r.Requires permission ∧ a.told = (403, some (.detail ("Missing permissions: " ++ permission)))

theorem exists_admission (r : Request) (permission : String) (hs : s.HasPolicy policy) :
    (¬r.Breaks policy → ¬Grants policy (r.headers.get? "authorization") permission →
      ∃ t, r.admission [permission] s = (.ok (.denied [permission]), t) ∧ Unmoved s t) ∧
    (r.Breaks policy → ∃ failure, r.admission [permission] s = (.error failure, s)) := by
  obtain ⟨settings, hsettings, rfl⟩ := hs
  unfold admission Breaks
  simp only [hsettings, Except.map]
  cases ha : authorize (.ok (TokenPolicy.ofSettings settings s.clock)) (r.headers.get? "authorization") [permission] with
  | error cause =>
    refine ⟨fun hsound ↦ ?_, fun _ ↦ ⟨_, rfl⟩⟩
    obtain ⟨a, hok⟩ := exists_authorize_iff.2 hsound
    cases ha.symm.trans hok
  | ok a =>
    refine ⟨fun _ hlacks ↦ ?_, fun hbreaks ↦ absurd hbreaks (exists_authorize_iff.1 ⟨a, ha⟩)⟩
    rw [← (decides_of_authorize ha).denied_of_not_grants hlacks]
    exact ⟨_, rfl, .logs s a.notices⟩

theorem onRoute_of_denied {route : Route} {missing : List String} {t : Service} (hmethod : r.method ∈ route.methods)
    (h : r.admission route.permissions s = (.ok (.denied missing), t)) :
    r.onRoute route s = (.ok (reason 403 (Admission.detail missing)), t) := by
  unfold onRoute
  rw [if_pos (List.contains_iff_mem.2 hmethod)]
  exact Procedure.run_bind_of_ok h

theorem onRoute_of_error {route : Route} {failure : Failure} {t : Service} (hmethod : r.method ∈ route.methods)
    (h : r.admission route.permissions s = (.error failure, t)) : r.onRoute route s = (.error failure, t) := by
  unfold onRoute
  rw [if_pos (List.contains_iff_mem.2 hmethod)]
  exact Procedure.run_bind_of_error h

/-- The reply to a request that lacks its permission is the refusal, and there is none if reading its token fails. -/
theorem exists_reply (hs : s.HasPolicy policy) (hrequires : r.Requires permission)
    (hlacks : ¬Grants policy (r.headers.get? "authorization") permission) :
    (¬r.Breaks policy → ∃ t, r.reply s = (.ok (reason 403 (Admission.detail [permission])), t) ∧ Unmoved s t) ∧
    (r.Breaks policy → ∃ failure, r.reply s = (.error failure, s)) := by
  obtain ⟨route, hroute, hmethod, hpermissions⟩ := hrequires
  have hreply : r.reply = r.onRoute route := by
    simp only [reply, hroute]
  obtain ⟨hdenied, hfailed⟩ := exists_admission r permission hs
  rw [← hpermissions] at hdenied hfailed
  rw [hreply]
  constructor
  · intro hsound
    obtain ⟨t, hadmission, hmoved⟩ := hdenied hsound hlacks
    exact ⟨t, hpermissions ▸ onRoute_of_denied hmethod hadmission, hmoved⟩
  · intro hbreaks
    obtain ⟨failure, hadmission⟩ := hfailed hbreaks
    exact ⟨failure, onRoute_of_error hmethod hadmission⟩

/-- A request that lacks its permission moves nothing. It is refused if its token can be read or it has none, and it
fails otherwise. -/
theorem exists_handle (hs : s.HasPolicy policy) (hlacks : r.Lacks policy) :
    ∃ a t, r.handle s = (a, t) ∧ Unmoved s t ∧
      (¬r.Breaks policy → r.Refuses a) ∧ (r.Breaks policy → a.told = (500, none)) := by
  obtain ⟨permission, hrequires, hnot⟩ := hlacks
  have hserved : (Route.ofPath? r.path).isSome := by
    obtain ⟨route, hroute, -⟩ := hrequires
    simp [hroute]
  have hhandle : r.handle s = r.answer s := by
    rw [handle, Route.redirect?_eq_none hserved]
  obtain ⟨start, hstart, hreplied, hfailed⟩ := exists_answer r s
  obtain ⟨hrefused, hbroken⟩ := exists_reply (hstart.hasPolicy hs) hrequires hnot
  rw [hhandle]
  by_cases hbreaks : r.Breaks policy
  · obtain ⟨failure, hreply⟩ := hbroken hbreaks
    obtain ⟨a, u, ha, hmoved, htold⟩ := hfailed failure start hreply
    exact ⟨a, u, ha, hstart.trans hmoved, absurd hbreaks, fun _ ↦ htold⟩
  · obtain ⟨t, hreply, ht⟩ := hrefused hbreaks
    obtain ⟨a, u, ha, hmoved, htold⟩ := hreplied _ t hreply
    exact ⟨a, u, ha, hstart.trans (ht.trans hmoved), fun _ ↦ ⟨permission, hrequires, htold⟩, fun h ↦ absurd h hbreaks⟩

/-! ### Sequences of requests -/

/-- The answers to requests in turn, and the system after them. -/
def handleAll : List Request → Service → List Response × Service
  | [], s => ([], s)
  | r :: rest, s =>
    let (a, t) := r.handle s
    let (answers, u) := handleAll rest t
    (a :: answers, u)

theorem Requires.unique {other : String} (h : r.Requires permission) (hother : r.Requires other) :
    permission = other := by
  obtain ⟨route, hroute, -, hpermissions⟩ := h
  obtain ⟨route', hroute', -, hother⟩ := hother
  obtain rfl : route = route' := Option.some.inj (hroute.symm.trans hroute')
  exact (List.cons.inj (hpermissions.symm.trans hother)).1

theorem Refuses.told_eq {a b : Response} (ha : r.Refuses a) (hb : r.Refuses b) : b.told = a.told := by
  obtain ⟨permission, hrequires, ha⟩ := ha
  obtain ⟨other, hother, hb⟩ := hb
  rw [ha, hb, hrequires.unique hother]

/-- What two systems do with requests that lack their permissions: the answers tell the same, neither system is moved,
and every answer is the refusal exactly if no request presents a token whose reading fails. -/
structure RefusedAlike (policy : TokenPolicy) (requests : List Request) (s t : Service) : Prop where
  alike : (handleAll requests t).1.map Response.told = (handleAll requests s).1.map Response.told
  unmoved : Unmoved s (handleAll requests s).2 ∧ Unmoved t (handleAll requests t).2
  refused : List.Forall₂ Refuses requests (handleAll requests s).1 ∧
    List.Forall₂ Refuses requests (handleAll requests t).1 ↔ ∀ r ∈ requests, ¬r.Breaks policy

/-- Two systems with the same policy for tokens answer requests that lack their permissions alike, and none of these
requests moves either. -/
theorem refused_alike (policy : TokenPolicy) (requests : List Request) (s t : Service) (hs : s.HasPolicy policy)
    (ht : t.HasPolicy policy) (hlack : ∀ r ∈ requests, r.Lacks policy) : RefusedAlike policy requests s t := by
  induction requests generalizing s t with
  | nil => exact ⟨rfl, ⟨.refl s, .refl t⟩, by simp [handleAll]⟩
  | cons r rest ih =>
    obtain ⟨hr, hrest⟩ := List.forall_mem_cons.1 hlack
    obtain ⟨a, s', ha, hs', hrefused, hfailed⟩ := exists_handle hs hr
    obtain ⟨b, t', hb, ht', hrefused', hfailed'⟩ := exists_handle ht hr
    -- Systems that are not moved keep their policy, so the rest is answered alike too.
    have hnext := ih s' t' (hs'.hasPolicy hs) (ht'.hasPolicy ht) hrest
    have htold : b.told = a.told := by
      by_cases hbreaks : r.Breaks policy
      · rw [hfailed hbreaks, hfailed' hbreaks]
      · exact (hrefused hbreaks).told_eq (hrefused' hbreaks)
    have hrefuses : r.Refuses a ∧ r.Refuses b ↔ ¬r.Breaks policy := by
      constructor
      · rintro ⟨⟨permission, -, hdenied⟩, -⟩ hbreaks
        rw [hfailed hbreaks] at hdenied
        cases hdenied
      · intro hsound
        exact ⟨hrefused hsound, hrefused' hsound⟩
    refine ⟨?_, ?_, ?_⟩
    · simp only [handleAll, ha, hb, List.map_cons, htold, hnext.alike]
    · simp only [handleAll, ha, hb]
      exact ⟨hs'.trans hnext.unmoved.1, ht'.trans hnext.unmoved.2⟩
    · simp only [handleAll, ha, hb, List.forall₂_cons, List.forall_mem_cons, ← hnext.refused, ← hrefuses]
      exact and_and_and_comm

/-! ### Requests without a token, and with one that breaks its reading -/

/-- A request on each protected route: without a header, with a text that is no token, and with another scheme. -/
def Sample.requests : List Request :=
  [⟨"POST", "/api/analytics/accounts/00000000-0000-0000-0000-000000000009/bundles/refresh", [], []⟩,
    ⟨"GET", "/api/analytics/sanity/bundles", [], [("Authorization", "Bearer secret")]⟩,
    ⟨"GET", "/metrics", [], [("authorization", "Basic secret")]⟩]

/-- A system with metrics and a published event, and without a table of records. -/
def Sample.opened : Service :=
  { Service.start Sample.tokenPolicy.now with
    database := { Database.empty with entries := none }
    environment := [("METRICS_ENABLED", "true")]
    bus := ⟨[], [[("event_type", .text "bundle.changed")]]⟩ }

theorem not_grants_of_no_token {authorization : Option String}
    (h : (bearerToken? authorization).bind Token.ofText? = none) : ¬Grants policy authorization permission := by
  rintro ⟨roles, ⟨token, claims, htoken, ⟨message, payload, code, hreads, -⟩, -⟩, -⟩
  obtain ⟨t, hwritten⟩ := hreads.exists_isWritten
  rw [bearerToken?_eq_some_iff.2 htoken, Option.bind_some, Token.ofText?_eq_some_iff.2 hwritten] at h
  cases h

theorem not_breaks_of_no_token (h : (bearerToken? (r.headers.get? "authorization")).bind Token.ofText? = none) :
    ¬r.Breaks policy := by
  rintro ⟨token, htoken, hbreaks⟩
  obtain ⟨t, hwritten⟩ := hbreaks.exists_isWritten
  rw [bearerToken?_eq_some_iff.2 htoken, Option.bind_some, Token.ofText?_eq_some_iff.2 hwritten] at h
  cases h

theorem no_token_requests :
    ∀ r ∈ Sample.requests, (bearerToken? (r.headers.get? "authorization")).bind Token.ofText? = none := by
  decide +kernel

theorem lacks_requests : ∀ r ∈ Sample.requests, r.Lacks Sample.tokenPolicy := by
  have hrequires : ∀ r ∈ Sample.requests, ∃ permission, r.Requires permission := by
    simp only [Sample.requests, List.forall_mem_cons, List.not_mem_nil, false_implies, implies_true, and_true]
    refine ⟨?_, ?_, ?_⟩
    · exact ⟨_, .refreshBundles "00000000-0000-0000-0000-000000000009", by decide +kernel, by decide, rfl⟩
    · exact ⟨_, .checkBundles, by decide +kernel, by decide, rfl⟩
    · exact ⟨_, .metrics, by decide +kernel, by decide, rfl⟩
  intro r hr
  obtain ⟨permission, hpermission⟩ := hrequires r hr
  exact ⟨permission, hpermission, not_grants_of_no_token (no_token_requests r hr)⟩

/-- The requests are refused alike by a system with metrics and a published event and by one with neither. -/
theorem refused_alike_sample :
    Sample.opened.HasPolicy Sample.tokenPolicy ∧
      (Service.start Sample.tokenPolicy.now).HasPolicy Sample.tokenPolicy ∧
      (∀ r ∈ Sample.requests, r.Lacks Sample.tokenPolicy) ∧
      RefusedAlike Sample.tokenPolicy Sample.requests Sample.opened (.start Sample.tokenPolicy.now) ∧
      List.Forall₂ Refuses Sample.requests (handleAll Sample.requests Sample.opened).1 := by
  have hopened : Sample.opened.HasPolicy Sample.tokenPolicy := ⟨_, rfl, rfl⟩
  have hstart : (Service.start Sample.tokenPolicy.now).HasPolicy Sample.tokenPolicy := ⟨_, rfl, rfl⟩
  have halike := refused_alike _ _ _ _ hopened hstart lacks_requests
  have hsound : ∀ r ∈ Sample.requests, ¬r.Breaks Sample.tokenPolicy := fun r hr ↦
    not_breaks_of_no_token (no_token_requests r hr)
  exact ⟨hopened, hstart, lacks_requests, halike, (halike.refused.2 hsound).1⟩

theorem not_refused_of_breaks (hs : s.HasPolicy policy) (hlacks : r.Lacks policy) (hbreaks : r.Breaks policy) :
    ¬List.Forall₂ Refuses [r] (handleAll [r] s).1 := by
  obtain ⟨a, t, ha, -, -, hfailed⟩ := exists_handle hs hlacks
  simp only [handleAll, ha, List.forall₂_cons, List.Forall₂.nil, and_true]
  rintro ⟨permission, -, hdenied⟩
  rw [hfailed hbreaks] at hdenied
  cases hdenied

/-- A request for the metrics with a token whose time of expiry is null. -/
def Sample.timelessRequest : Request :=
  ⟨"GET", "/metrics", [], [("authorization", "Bearer " ++ Sample.timeless)]⟩

/-- Requests that lack their permissions are not always refused. -/
theorem not_refused_sample :
    (Service.start Sample.tokenPolicy.now).HasPolicy Sample.tokenPolicy ∧
      Sample.timelessRequest.Lacks Sample.tokenPolicy ∧
      ¬List.Forall₂ Refuses [Sample.timelessRequest]
        (handleAll [Sample.timelessRequest] (.start Sample.tokenPolicy.now)).1 := by
  have hstart : (Service.start Sample.tokenPolicy.now).HasPolicy Sample.tokenPolicy := ⟨_, rfl, rfl⟩
  have hheader : Sample.timelessRequest.headers.get? "authorization" = some ("Bearer " ++ Sample.timeless) := by
    decide +kernel
  have hlacks : Sample.timelessRequest.Lacks Sample.tokenPolicy := by
    refine ⟨"system.metrics.read", ⟨.metrics, by decide +kernel, by decide +kernel, rfl⟩, ?_⟩
    rw [hheader]
    rintro ⟨roles, ⟨token, claims, htoken, hverified, -⟩, -⟩
    rw [htoken.unique presents_timeless] at hverified
    exact not_verified_timeless claims hverified
  have hbreaks : Sample.timelessRequest.Breaks Sample.tokenPolicy := by
    rw [Breaks, hheader]
    exact ⟨Sample.timeless, presents_timeless, breaks_timeless⟩
  exact ⟨hstart, hlacks, not_refused_of_breaks hstart hlacks hbreaks⟩

end Request

end BundleLedger
