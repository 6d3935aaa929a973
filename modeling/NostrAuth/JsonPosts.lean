import NostrAuth.HostBinding

/-! The media type of a POST: seven of the nine handlers refuse anything but JSON before they
do anything else; `/unlink` and `/link/challenge` read no body and do not check. -/

set_option autoImplicit false

namespace NostrAuth.Server

open Interaction

/-- The functions behind the `POST` routes. -/
def Endpoint.isPost : Endpoint → Bool
  | .authenticate_endpoint | .link_challenge_endpoint | .link_endpoint | .unlink_endpoint
  | .add_identity_endpoint | .admin_add_identity_endpoint | .admin_revoke_identity_endpoint _
  | .admin_rename_identity_endpoint _ | .admin_unlink_endpoint => true
  | _ => false

theorem exists_route {request : Request} {endpoint : Endpoint}
    (h : endpointOf request = some endpoint) :
    ∃ route ∈ routes, route.takes request.method = true ∧
      ∃ param, endpoint = route.endpoint param := by
  obtain ⟨route, hroute, h⟩ := List.exists_of_findSome?_eq_some h
  split at h
  · next htakes =>
    obtain ⟨param, _, rfl⟩ := Option.map_eq_some_iff.mp h
    exact ⟨route, hroute, htakes, _, rfl⟩
  · cases h

theorem isPost_of_route {request : Request} {endpoint : Endpoint} (hpost : request.method = "POST")
    (h : endpointOf request = some endpoint) : endpoint.isPost = true := by
  obtain ⟨route, hroute, htakes, param, rfl⟩ := exists_route h
  rw [hpost] at htakes
  have hall : ∀ route ∈ routes, route.takes "POST" = true → (route.endpoint param).isPost = true := by
    simp [routes, Route.takes, Endpoint.isPost]
  exact hall route hroute htakes

/-- A handler that begins with the check refuses the request without a call. -/
theorem handle_refused (sdk : NostrSdk) {job : Job} {endpoint : Endpoint}
    (hroute : endpointOf job.request = some endpoint) (hpost : endpoint.isPost = true)
    (hunlink : endpoint ≠ .unlink_endpoint) (hchallenge : endpoint ≠ .link_challenge_endpoint)
    (hmedia : mediaType job.request ≠ "application/json") :
    ∃ response, handle sdk job = .ret response ∧ response.status_code = 415 := by
  have hcheck : _require_json job.request =
      .raise (.apiError 415 "Content-Type must be application/json") := by
    simp [_require_json, Prog.ensure, hmedia]
  refine ⟨answer (.error (.apiError 415 "Content-Type must be application/json")), ?_, rfl⟩
  unfold handle
  rw [hroute]
  have hraise : endpoint.handler sdk job.settings job.request =
      .raise (.apiError 415 "Content-Type must be application/json") := by
    cases endpoint with
    | authenticate_endpoint =>
      simp only [Endpoint.handler, authenticate_endpoint, hcheck, Prog.bind_eq, Prog.raise_bind]
    | link_endpoint =>
      simp only [Endpoint.handler, link_endpoint, redeemLink, hcheck, Prog.bind_eq, Prog.raise_bind]
    | add_identity_endpoint =>
      simp only [Endpoint.handler, add_identity_endpoint, redeemLink, hcheck, Prog.bind_eq,
        Prog.raise_bind]
    | admin_add_identity_endpoint =>
      simp only [Endpoint.handler, admin_add_identity_endpoint, hcheck, Prog.bind_eq, Prog.raise_bind]
    | admin_revoke_identity_endpoint id =>
      simp only [Endpoint.handler, admin_revoke_identity_endpoint, hcheck, Prog.bind_eq,
        Prog.raise_bind]
    | admin_rename_identity_endpoint id =>
      simp only [Endpoint.handler, admin_rename_identity_endpoint, hcheck, Prog.bind_eq,
        Prog.raise_bind]
    | admin_unlink_endpoint =>
      simp only [Endpoint.handler, admin_unlink_endpoint, hcheck, Prog.bind_eq, Prog.raise_bind]
    | unlink_endpoint => exact absurd rfl hunlink
    | link_challenge_endpoint => exact absurd rfl hchallenge
    | _ => cases hpost
  simp only [hraise, Prog.attempt_raise, Prog.ret_bind]

/-- The status codes of a response: success, a refusal of the endpoint, or 500. -/
theorem status_of_ended {sdk : NostrSdk} {job : Job} {endpoint : Endpoint} {h : Trace}
    {response : Response} (hroute : endpointOf job.request = some endpoint)
    (hends : Ended sdk job h (.ok response)) : response.status_code = 200 ∨
      response.status_code = 307 ∨ response.status_code ∈ endpoint.refusals ∨
      response.status_code = 500 := by
  obtain ⟨response', heq, hends⟩ := hends
  cases heq
  rw [hroute] at hends
  rcases hends with ha | ⟨e, he, rfl⟩
  · cases endpoint with
    | root_redirect => exact Or.inr (Or.inl ha)
    | authenticate_endpoint => exact Or.inl ha.1
    | link_endpoint => exact Or.inl ha.1
    | add_identity_endpoint => exact Or.inl ha.1
    | _ => exact Or.inl ha
  · unfold answer
    split
    · next heq => cases heq
    · next s m heq =>
      cases heq
      exact Or.inr (Or.inr (Or.inl (he s m rfl)))
    · exact Or.inr (Or.inr (Or.inr rfl))

/-- **Non-JSON POSTs.** In every reachable state a POST with another media type, served with
whatever portal-api answers, is refused with 415 and changes neither store if and only if it
is not for `/unlink` or `/link/challenge`. -/
theorem non_json_post (sdk : NostrSdk) (w : World) (c : Run) (i : Nat) (job : Job)
    (inp : Nat → Oracle) (endpoint : Endpoint) (hc : Reachable (service sdk) w c)
    (hi : c.job i = none) (hpost : job.request.method = "POST")
    (hroute : endpointOf job.request = some endpoint)
    (hmedia : mediaType job.request ≠ "application/json") :
    (∃ response, ((service sdk).after c i job inp).running i = some (.ret response) ∧
        response.status_code = 415 ∧
        ((service sdk).after c i job inp).world.challenges = c.world.challenges ∧
        ((service sdk).after c i job inp).world.mappings = c.world.mappings) ↔
      endpoint ≠ .unlink_endpoint ∧ endpoint ≠ .link_challenge_endpoint := by
  constructor
  · rintro ⟨response, hrun, hstatus, _⟩
    have hguarded := service_guarded (hc.after hi job inp)
    have hends := hguarded.rest i job _ (by simp [Machine.after]) hrun
    have hcode := status_of_ended hroute hends
    rw [hstatus] at hcode
    refine ⟨?_, ?_⟩
    · rintro rfl
      simp [Endpoint.refusals] at hcode
    · rintro rfl
      simp [Endpoint.refusals] at hcode
  · rintro ⟨hunlink, hchallenge⟩
    obtain ⟨response, hhandle, hstatus⟩ :=
      handle_refused sdk hroute (isPost_of_route hpost hroute) hunlink hchallenge hmedia
    refine ⟨response, ?_, hstatus, ?_, ?_⟩ <;>
      simp [Machine.after, service, hhandle, Machine.serve, finished]

/-! ## A form post to `/unlink` -/

/-- A `POST` with the cookie of an open session and a body that is a form. -/
def formPost (path : List String) : Job where
  settings := .default
  request :=
    { method := "POST"
      path := path
      headers := headersOf [("host", "a.example"), ("cookie", "yunohost.portal=token"),
        ("content-type", "application/x-www-form-urlencoded")]
      query_params := fun _ => none
      json := jsonBody none
      client := some "127.0.0.1" }

/-- The service that knows `alice`, before any request. -/
def idle : Run := Config.init aliceLinked

def unlinked : Run :=
  (service (sampleEvent "yunohost-login").sdk).after idle 0 (formPost ["unlink"]) sampleInput

/-- The form is accepted and the identity of `alice` is gone. -/
theorem form_post_unlinks : ∃ response : Response,
    Reachable (service (sampleEvent "yunohost-login").sdk) aliceLinked idle ∧
      (formPost ["unlink"]).request.method = "POST" ∧
      endpointOf (formPost ["unlink"]).request = some .unlink_endpoint ∧
      mediaType (formPost ["unlink"]).request ≠ "application/json" ∧
      unlinked.running 0 = some (.ret response) ∧ response.status_code = 200 ∧
      unlinked.world.mappings ≠ idle.world.mappings := by
  have hstatus : statusOf unlinked 0 = some 200 := by decide +kernel
  obtain ⟨response, hrun, hcode⟩ := response_of_statusOf hstatus
  refine ⟨response, Reachable.init, rfl, by decide +kernel, by decide +kernel, hrun, hcode,
    fun hsame => ?_⟩
  have hbefore : idle.world.mappings.identities.rows.length = 1 := by decide +kernel
  have hafter : unlinked.world.mappings.identities.rows.length = 0 := by decide +kernel
  rw [hsame, hbefore] at hafter
  cases hafter

theorem form_post_refused : ∃ response : Response,
    ((service (sampleEvent "yunohost-login").sdk).after idle 0 (formPost ["link"])
      sampleInput).running 0 = some (.ret response) ∧ response.status_code = 415 := by
  obtain ⟨response, hrun, hstatus, _⟩ := (non_json_post (sampleEvent "yunohost-login").sdk
    aliceLinked idle 0 (formPost ["link"]) sampleInput .link_endpoint Reachable.init rfl rfl
    (by decide +kernel) (by decide +kernel)).mpr ⟨by decide, by decide⟩
  exact ⟨response, hrun, hstatus⟩

end NostrAuth.Server
