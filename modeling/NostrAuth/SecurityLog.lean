import NostrAuth.RefusedRequests

/-! The log that bans addresses: which failed logins, links and unlinks write a line with the address
of the client. -/

set_option autoImplicit false

namespace NostrAuth.Server

open Interaction Handler Prog

/-- The warnings that a request logged. -/
def warnings (h : Trace) : List String :=
  h.filterMap fun v => match v.op with
    | .log .warning message => some message
    | _ => none

/-- `... failure from <ip>: ...`, with the address of the request's client. -/
def FailureLine (request : Request) (line : String) : Prop :=
  ∃ subject reason, line = subject ++ " failure from " ++ _client_ip request ++ ": " ++ reason

/-- Exactly one warning was logged, and it is a failure line. -/
def OneFailureLine (request : Request) (h : Trace) : Prop :=
  ∃ line, FailureLine request line ∧ warnings h = [line]

/-- The endpoints whose failures the log is for. -/
def Endpoint.watched : Endpoint → Bool
  | .authenticate_endpoint | .link_endpoint | .add_identity_endpoint | .unlink_endpoint => true
  | _ => false

/-- An endpoint that wants a cookie, and a request without one. -/
def LacksCookie (endpoint : Endpoint) (request : Request) : Prop :=
  endpoint ≠ .authenticate_endpoint ∧ NoCookie request

/-- How a handler ends, and what it has logged then. -/
def LogEnds (endpoint : Endpoint) (request : Request) (h : Trace) : Except Exn Response → Prop
  | .ok response => response.status_code = 200 ∧ warnings h = []
  | .error e => Refuses [400, 403, 415, 502] e ∨
      (LacksCookie endpoint request ∧ warnings h = [] ∧ ∃ m, e = .apiError 401 m) ∨
      (¬LacksCookie endpoint request ∧ OneFailureLine request h ∧ ∃ m, e = .apiError 401 m)

/-- What is left of a handler, after the calls `h`. -/
structure Logs (endpoint : Endpoint) (request : Request) (h : Trace) (p : Handler Response) : Prop where
  wp : p.wp Rely (fun _ _ => True) (LogEnds endpoint request) h

section Logs

variable {endpoint : Endpoint} {request : Request} {h : Trace}

theorem logs_raise {e : Exn} (he : Refuses [400, 403, 415, 502] e) :
    Logs endpoint request h (.raise e) := ⟨Or.inl he⟩

theorem logs_call {o : Op} {k : o.Ans → Handler Response}
    (hk : ∀ r, Rely ⟨o, r⟩ → Logs endpoint request (h ++ [⟨o, r⟩]) (k r)) :
    Logs endpoint request h (.call o k) :=
  ⟨trivial, fun r hr => (hk r hr).wp⟩

/-- A call of `login.py` or `linking.py` logs nothing. -/
theorem warnings_inner {v : Event Op Op.Ans} (hv : Inner v.op) : warnings (h ++ [v]) = warnings h := by
  obtain ⟨o, r⟩ := v
  simp only [warnings, List.filterMap_append]
  cases o with
  | log level message => exact hv.elim
  | _ => exact List.append_nil _

/-- What runs inside logs nothing, and what follows takes over with its outcome. -/
theorem logs_inner {α : Type} {p : Handler α} {Q : Except Exn α → Prop} {f : Except Exn α → Handler Response}
    (hp : p.Within Rely Inner Q) (hquiet : warnings h = [])
    (hf : ∀ h x, warnings h = [] → Q x → Logs endpoint request h (f x)) :
    Logs endpoint request h (p.attempt.bind f) := by
  induction p generalizing h with
  | ret a => exact hf h _ hquiet hp
  | raise e => exact hf h _ hquiet hp
  | call o k ih =>
    apply logs_call
    intro r hr
    exact ih r (hp.2 r hr) ((warnings_inner hp.1).trans hquiet)

theorem warnings_info {message : String} : warnings (h ++ [⟨.log .info message, ()⟩]) = warnings h := by
  simp [warnings]

/-- The last thing a failure does: one line, and 401. -/
theorem logs_failure (subject : String) {e : String} (hlacks : ¬LacksCookie endpoint request)
    (hquiet : warnings h = []) : Logs endpoint request h
      ((log .warning (subject ++ " failure from " ++ _client_ip request ++ ": " ++ e)).bind fun _ =>
        refuse 401 e) := by
  apply logs_call
  intro _ _
  refine ⟨Or.inr (Or.inr ⟨hlacks, ⟨_, ⟨subject, e, rfl⟩, ?_⟩, e, rfl⟩)⟩
  simp only [warnings, List.filterMap_append] at hquiet ⊢
  rw [hquiet]
  rfl

theorem logs_concludeLogin {outcome : Except Exn MintedSession} (h' : FromStore outcome)
    (hquiet : warnings h = []) :
    Logs .authenticate_endpoint request h (concludeLogin request outcome) := by
  unfold concludeLogin
  split
  · exact logs_call fun _ _ => ⟨rfl, warnings_info.trans hquiet⟩
  · next e => exact logs_failure "nostr login" (fun hlacks => hlacks.1 rfl) hquiet
  · exact logs_call fun _ _ => logs_raise (refuses_apiError (by simp))
  · exact logs_raise (Refuses.mono (by simp) h')

theorem logs_concludeLinking {failure success : String} {answer : String → Handler Response}
    {outcome : Except Exn String} (h' : FromStore outcome) (hcookie : ¬NoCookie request)
    (hquiet : warnings h = [])
    (hanswer : ∀ username h, warnings h = [] → Logs endpoint request h (answer username)) :
    Logs endpoint request h (concludeLinking request failure success answer outcome) := by
  unfold concludeLinking
  split
  · exact logs_call fun _ _ => hanswer _ _ (warnings_info.trans hquiet)
  · exact logs_failure _ (fun hlacks => hcookie hlacks.2) hquiet
  · exact logs_raise (Refuses.mono (by simp) h')

/-- Taking the named challenge. -/
theorem logs_consumeNamed {event : List (PyStr × Json)} {f : Option Challenge → Handler Response}
    (hf : ∀ challenge h, warnings h = [] → Logs endpoint request h (f challenge)) :
    Logs endpoint request [] ((consumeNamed event).bind f) := by
  unfold consumeNamed
  split
  · split
    · apply logs_call
      intro r hr
      cases r with
      | error e =>
        have he : Refuses [] e := hr
        exact logs_raise (he.mono (by simp))
      | ok challenge => exact hf challenge _ rfl
    · exact hf none [] rfl
  · exact hf none [] rfl

theorem logs_checks {α : Type} {p : Handler α} {P : α → Prop} {codes : List Nat}
    {f : α → Handler Response} (hp : p.Returns P (Refuses codes)) (hcodes : codes ⊆ [400, 403, 415, 502])
    (hf : ∀ a, P a → Logs endpoint request [] (f a)) : Logs endpoint request [] (p.bind f) := by
  rcases hp with ⟨a, rfl, ha⟩ | ⟨e, rfl, he⟩
  · exact hf a ha
  · exact logs_raise (he.mono hcodes)

/-- Checks that ask for a cookie: without one they end with 401, before anything is logged. -/
theorem logs_cookieChecks {α : Type} {p : Handler α} {P : α → Prop} {f : α → Handler Response}
    (hendpoint : endpoint ≠ .authenticate_endpoint) (hp : p.Returns P (CheckFails request))
    (hf : ∀ a, P a → Logs endpoint request [] (f a)) : Logs endpoint request [] (p.bind f) := by
  rcases hp with ⟨a, rfl, ha⟩ | ⟨e, rfl, he | ⟨hnone, rfl⟩⟩
  · exact hf a ha
  · exact logs_raise (he.mono (by simp))
  · exact ⟨Or.inr (Or.inl ⟨⟨hendpoint, hnone⟩, rfl, _, rfl⟩)⟩

end Logs

section Endpoints

variable {sdk : NostrSdk} {settings : Settings} {request : Request}

theorem logs_authenticate :
    Logs .authenticate_endpoint request [] (authenticate_endpoint sdk settings request) := by
  rw [authenticate_stages]
  apply logs_checks (loginChecks_returns settings request) (by simp)
  intro event _
  apply logs_consumeNamed
  intro challenge h hquiet
  exact logs_inner (authenticate_within _ _ _) hquiet fun h outcome hquiet hends =>
    logs_concludeLogin hends hquiet

theorem logs_redeemLink {endpoint : Endpoint} {replace : Bool} {failure success : String}
    {answer : String → Handler Response} (hendpoint : endpoint ≠ .authenticate_endpoint)
    (hanswer : ∀ username h, warnings h = [] → Logs endpoint request h (answer username)) :
    Logs endpoint request [] (redeemLink sdk settings request replace failure success answer) := by
  rw [redeemLink_stages]
  apply logs_cookieChecks hendpoint (linkChecks_returns settings request)
  intro input hinput
  apply logs_consumeNamed
  intro challenge h hquiet
  exact logs_inner (confirm_and_link_within _ _ _ _ _ _ _ _ _) hquiet fun h outcome hquiet hends =>
    logs_concludeLinking hends hinput.2.1 hquiet hanswer

theorem logs_linked {endpoint : Endpoint} (username : String) (h : Trace) (hquiet : warnings h = []) :
    Logs endpoint request h (linked username) := ⟨rfl, hquiet⟩

theorem logs_added {endpoint : Endpoint} (username : String) (h : Trace) (hquiet : warnings h = []) :
    Logs endpoint request h (added sdk username) := by
  apply logs_call
  intro r hr
  have hquiet' := (warnings_inner (v := ⟨.mapping (.get_by_username username), r⟩) trivial).trans hquiet
  cases r with
  | error e => exact logs_raise ((rely_mapping_error hr).mono (by simp))
  | ok identity =>
    show Logs endpoint request _ ((_identity_json? sdk identity).bind _)
    rcases identity_json?_returns sdk identity with ⟨value, hvalue, -⟩ | ⟨e, hvalue, he⟩
    · rw [hvalue]
      exact ⟨rfl, hquiet'⟩
    · rw [hvalue]
      exact logs_raise (he.mono (by simp))

theorem confirm_and_unlink_within (cookie_header host base_url : String) :
    (Linking.confirm_and_unlink cookie_header host base_url).Within Rely Inner FromStore := by
  refine (currentUser_within _ _ _).bind (fun username _ => ?_) fun _ he => he
  refine (encoded_returns username).within_bind (fun username _ => ?_) fun _ he => he
  exact (mappings_within _).bind (fun _ _ => trivial) fun _ he => he

theorem logs_unlink : Logs .unlink_endpoint request [] (unlink_endpoint settings request) := by
  have hne : Endpoint.unlink_endpoint ≠ .authenticate_endpoint := by
    intro h
    cases h
  apply logs_cookieChecks hne (requireCookie_fails request)
  intro cookie hcookie
  exact logs_inner (confirm_and_unlink_within _ _ _) rfl fun h outcome hquiet hends =>
    logs_concludeLinking hends hcookie.1 hquiet logs_linked

theorem watched_logs {endpoint : Endpoint} (hwatched : endpoint.watched = true) :
    Logs endpoint request [] (endpoint.handler sdk settings request) := by
  cases endpoint with
  | authenticate_endpoint => exact logs_authenticate
  | link_endpoint => exact logs_redeemLink (by simp) logs_linked
  | add_identity_endpoint => exact logs_redeemLink (by simp) logs_added
  | unlink_endpoint => exact logs_unlink
  | _ => cases hwatched

end Endpoints

/-! ## Runs -/

/-- What the log of a request shows, given its answer. -/
def Shown (endpoint : Endpoint) (request : Request) (h : Trace) (response : Response) : Prop :=
  (response.status_code = 401 → (OneFailureLine request h ↔ ¬LacksCookie endpoint request)) ∧
    (response.status_code = 200 → warnings h = [])

theorem LogEnds.shown {endpoint : Endpoint} {request : Request} {h : Trace}
    {outcome : Except Exn Response} (hends : LogEnds endpoint request h outcome) :
    Shown endpoint request h (answer outcome) := by
  cases outcome with
  | ok response =>
    obtain ⟨h200, hquiet⟩ := hends
    refine ⟨fun h401 => ?_, fun _ => hquiet⟩
    rw [answer, h200] at h401
    cases h401
  | error e =>
    rcases hends with hrefused | ⟨hlacks, hquiet, m, rfl⟩ | ⟨hlacks, hline, m, rfl⟩
    · cases e with
      | apiError s m =>
        have hcode := hrefused s m rfl
        refine ⟨fun h401 => ?_, fun h200 => ?_⟩
        · obtain rfl : s = 401 := h401
          simp at hcode
        · obtain rfl : s = 200 := h200
          simp at hcode
      | _ =>
        constructor
        · rintro ⟨⟩
        · rintro ⟨⟩
    · refine ⟨fun _ => iff_of_false ?_ (not_not.mpr hlacks), ?_⟩
      · rintro ⟨line, -, hlogged⟩
        rw [hquiet] at hlogged
        cases hlogged
      · rintro ⟨⟩
    · refine ⟨fun _ => iff_of_true hline hlacks, ?_⟩
      rintro ⟨⟩

theorem Logs.shown {endpoint : Endpoint} {request : Request} {h : Trace} {p : Handler Response}
    (hp : Logs endpoint request h p) : p.wp Rely (fun _ _ => True)
      (fun h x => ∀ response, Except.ok (answer x) = (.ok response : Except Exn Response) →
        Shown endpoint request h response) h := by
  refine wp_mono (fun _ _ h => h) (fun h x hends => ?_) _ hp.wp
  rintro response ⟨⟩
  exact hends.shown

/-- What the log shows of a request to a watched endpoint, once it is answered. -/
def LogShown (job : Job) (h : Trace) (outcome : Except Exn Response) : Prop :=
  ∀ endpoint response, endpointOf job.request = some endpoint → endpoint.watched = true →
    outcome = .ok response → Shown endpoint job.request h response

theorem handle_shown (sdk : NostrSdk) (job : Job) :
    (handle sdk job).wp Rely (fun _ _ => True) (LogShown job) [] := by
  by_cases hwatched : ∃ endpoint, endpointOf job.request = some endpoint ∧ endpoint.watched = true
  · obtain ⟨endpoint, hroute, hwatched⟩ := hwatched
    apply handle_wp hroute
    refine wp_mono (fun _ _ h => h) (fun h x hshown => ?_) _
      (@watched_logs sdk job.settings job.request endpoint hwatched).shown
    intro endpoint' response hroute' _ hresponse
    obtain rfl := Option.some.inj (hroute.symm.trans hroute')
    exact hshown response hresponse
  · refine wp_mono (fun _ _ _ => trivial) (fun _ _ _ endpoint response hroute h => ?_) _
      (handle_spec sdk job)
    exact absurd ⟨endpoint, hroute, h⟩ hwatched

/-- **Failures are logged**: of the requests to a watched endpoint that are answered with 401, exactly
those that do not lack a cookie leave one line with the address of their client. No request that is
answered with 200 leaves one. -/
theorem failures_logged (sdk : NostrSdk) (w : World) (c : Run) (hc : Reachable (service sdk) w c)
    (i : Nat) (job : Job) (endpoint : Endpoint) (response : Response) (hjob : c.job i = some job)
    (hroute : endpointOf job.request = some endpoint) (hwatched : endpoint.watched = true)
    (hrun : c.running i = some (.ret response)) :
    (response.status_code = 401 →
      (OneFailureLine job.request (calls i c.log) ↔ ¬LacksCookie endpoint job.request)) ∧
    (response.status_code = 200 → warnings (calls i c.log) = []) :=
  (hc.guarded rely_exec (handle_shown sdk)).rest i job _ hjob hrun endpoint response hroute hwatched rfl

/-! ## A link without a cookie -/

theorem cookielessRun_reachable :
    Reachable (service (sampleEvent "yunohost-login").sdk) aliceLinked cookielessRun :=
  challengeIssued_reachable.after rfl _ _

theorem cookieless_route : endpointOf cookielessAdd.request = some .add_identity_endpoint := by
  decide +kernel

/-- A link without a cookie is answered with 401, and the log says nothing. -/
theorem cookieless_unlogged : ¬∀ (sdk : NostrSdk) (w : World) (c : Run), Reachable (service sdk) w c →
    ∀ (i : Nat) (job : Job) (endpoint : Endpoint) (response : Response), c.job i = some job →
      endpointOf job.request = some endpoint → endpoint.watched = true →
      c.running i = some (.ret response) → response.status_code = 401 →
      OneFailureLine job.request (calls i c.log) := by
  intro h
  have hstatus : statusOf cookielessRun 1 = some 401 := by decide +kernel
  obtain ⟨response, hrun, h401⟩ := response_of_statusOf hstatus
  have hquiet : warnings (calls 1 cookielessRun.log) = [] := by decide +kernel
  obtain ⟨line, -, hlogged⟩ := h (sampleEvent "yunohost-login").sdk aliceLinked cookielessRun
    cookielessRun_reachable 1 cookielessAdd .add_identity_endpoint response rfl cookieless_route rfl hrun h401
  rw [hquiet] at hlogged
  cases hlogged

/-- A login that presents the same challenge a second time. -/
def repeatedLogin : Run :=
  (service (sampleEvent "yunohost-login").sdk).after (loggedIn "a.example") 2 (loginJob "a.example")
    sampleInput

theorem repeatedLogin_logged : OneFailureLine (loginJob "a.example").request (calls 2 repeatedLogin.log) := by
  have hstatus : statusOf repeatedLogin 2 = some 401 := by decide +kernel
  obtain ⟨response, hrun, h401⟩ := response_of_statusOf hstatus
  have hroute : endpointOf (loginJob "a.example").request = some .authenticate_endpoint := by
    decide +kernel
  have hreachable : Reachable (service (sampleEvent "yunohost-login").sdk) aliceLinked repeatedLogin :=
    (loggedIn_reachable "a.example").after rfl _ _
  have hlogged := failures_logged (sampleEvent "yunohost-login").sdk aliceLinked repeatedLogin hreachable
    2 (loginJob "a.example") .authenticate_endpoint response rfl hroute rfl hrun
  exact (hlogged.1 h401).mpr fun hlacks => hlacks.1 rfl

end NostrAuth.Server
