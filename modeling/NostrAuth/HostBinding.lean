import NostrAuth.LoginSoundness

/-! The host of a login or link: nothing compares the host of the request that redeems a
challenge with the host the challenge was issued for. They agree exactly when the signed
event names the host of the request. -/

set_option autoImplicit false

namespace NostrAuth.Server

open Interaction

/-- The routes that redeem a challenge. -/
def Endpoint.redeems : Endpoint → Bool
  | .authenticate_endpoint | .link_endpoint | .add_identity_endpoint => true
  | _ => false

/-- The request `i` took one challenge, of the host it names itself; and where it minted a
session, the session and the cookie are for that host. -/
def HostBound (c : Run) (i : Nat) (job : Job) (response : Response) : Prop :=
  ∃ nonce challenge, took nonce challenge ∈ calls i c.log ∧
    job.request.headers "host" = some challenge.domain ∧
    ∀ username host reply, ⟨.mint username host, reply⟩ ∈ calls i c.log →
      host = challenge.domain ∧ ∀ cookie, response.cookie = some cookie → cookie.domain = "." ++ host

/-- The first `domain` tag of the event in the body is the host of the request. -/
def NamesHost (sdk : NostrSdk) (job : Job) : Prop :=
  ∃ fields event host, eventOf job.request = some fields ∧
    sdk.from_json (Json.dumps (.obj fields)) = .ok event ∧
    NostrVerify._tag_value (sdk.tags event) "domain" = some host ∧
    job.request.headers "host" = some host

section

variable {sdk : NostrSdk} {w : World} {c : Run} {i : Nat} {job : Job} {response : Response}

/-- A response with status 200 is no refusal. -/
theorem answered_of_ok {endpoint : Endpoint} {e : Exn} (he : Refuses endpoint.refusals e)
    (hstatus : (answer (.error e)).status_code = 200) : 200 ∈ endpoint.refusals := by
  unfold answer at hstatus
  split at hstatus
  · next heq => cases heq
  · next s m heq =>
    cases heq
    simp only at hstatus
    exact hstatus ▸ he s m rfl
  · simp at hstatus

theorem answered_ok (hc : Reachable (service sdk) w c) {endpoint : Endpoint}
    (hjob : c.job i = some job) (hrun : c.running i = some (.ret response))
    (hroute : endpointOf job.request = some endpoint) (hstatus : response.status_code = 200) :
    Answered sdk job endpoint (calls i c.log) response := by
  obtain ⟨response', hok, hends⟩ := (service_guarded hc).rest i job _ hjob hrun
  cases hok
  rw [hroute] at hends
  rcases hends with hanswered | ⟨e, he, rfl⟩
  · exact hanswered
  · have hcode := answered_of_ok he hstatus
    cases endpoint <;> simp [Endpoint.refusals] at hcode

/-- A request takes one challenge. -/
theorem took_once (hc : Reachable (service sdk) w c) {nonce nonce' : Json}
    {challenge challenge' : Challenge} (h : took nonce challenge ∈ calls i c.log)
    (h' : took nonce' challenge' ∈ calls i c.log) : challenge = challenge' := by
  have hfirst : ∀ (m : Nat) (e : LogEntry), c.log[m]? = some e →
      (∃ nonce challenge, e.event = took nonce challenge) →
      ∀ v ∈ calls e.who (c.log.take m), ¬∃ nonce challenge, v = took nonce challenge := by
    intro m e he ⟨nonce, challenge, hevent⟩ v hv _
    obtain ⟨job', endpoint, _, _, hallowed⟩ := allowed_of_log hc he
    have hop : e.op = .consume nonce := congrArg Event.op hevent
    rw [hop] at hallowed
    -- a request consumes before it calls anything else
    generalize hh : calls e.who (c.log.take m) = h at hallowed hv
    cases hallowed <;> cases hv
  obtain ⟨k, e, he, hwho, hevent⟩ := exists_of_mem_calls h
  obtain ⟨k', e', he', hwho', hevent'⟩ := exists_of_mem_calls h'
  obtain rfl := position_unique (P := fun v => ∃ nonce challenge, v = took nonce challenge) hfirst
    he he' (hwho.trans hwho'.symm) ⟨_, _, hevent⟩ ⟨_, _, hevent'⟩
  rw [he] at he'
  cases he'
  rw [hevent] at hevent'
  cases hevent'
  rfl

/-- A session is minted at `/authenticate`, for the host of the challenge. -/
theorem mint_host (hc : Reachable (service sdk) w c) {nonce : Json} {challenge : Challenge}
    (htook : took nonce challenge ∈ calls i c.log) {username host : String} {reply : MintReply}
    (hmint : (⟨.mint username host, reply⟩ : Event Op Op.Ans) ∈ calls i c.log) :
    host = challenge.domain ∧ ∃ job, c.job i = some job ∧
      endpointOf job.request = some .authenticate_endpoint := by
  obtain ⟨m, e, he, rfl, hevent⟩ := exists_of_mem_calls hmint
  obtain ⟨job', endpoint, hjob, hroute, hallowed⟩ := allowed_of_log hc he
  have hop : e.op = .mint username host := congrArg Event.op hevent
  rw [hop] at hallowed
  obtain ⟨rfl, _, nonce', challenge', _, _, _, hh, _, _, _, rfl⟩ := allowed_mint hallowed
  have htook' : took nonce' challenge' ∈ calls e.who (c.log.take m) := by rw [hh]; simp
  obtain ⟨k, e', _, he', hwho', hevent'⟩ := exists_of_mem_calls_take htook'
  have hmem := mem_calls_of_getElem? he'
  rw [hwho', hevent'] at hmem
  rw [took_once hc hmem htook]
  exact ⟨rfl, job', hjob, hroute⟩

/-- The challenge behind a success, and the event that attests to it. -/
theorem answered_took {endpoint : Endpoint} {h : Trace} (hredeems : endpoint.redeems = true)
    (ha : Answered sdk job endpoint h response) : ∃ nonce challenge pubkey,
      took nonce challenge ∈ h ∧ SignedBy sdk job challenge pubkey := by
  cases endpoint with
  | authenticate_endpoint =>
    obtain ⟨_, nonce, challenge, pubkey, _, _, _, htook, hsigned, _⟩ := ha
    exact ⟨nonce, challenge, pubkey, htook, hsigned⟩
  | link_endpoint => exact ha.2
  | add_identity_endpoint => exact ha.2
  | _ => cases hredeems

/-- **Host binding.** In every run, a login or link that was answered with 200 is bound to
the host of its request if and only if the signed event names that host. -/
theorem host_binding (sdk : NostrSdk) (w : World) (c : Run) (i : Nat) (job : Job)
    (endpoint : Endpoint) (response : Response) (hc : Reachable (service sdk) w c)
    (hjob : c.job i = some job) (hrun : c.running i = some (.ret response))
    (hroute : endpointOf job.request = some endpoint) (hredeems : endpoint.redeems = true)
    (hstatus : response.status_code = 200) : HostBound c i job response ↔ NamesHost sdk job := by
  have hanswered := answered_ok hc hjob hrun hroute hstatus
  obtain ⟨nonce, challenge, pubkey, htook, fields, event, hevent, hattests, _⟩ :=
    answered_took hredeems hanswered
  constructor
  · rintro ⟨nonce', challenge', htook', hhost, _⟩
    rw [took_once hc htook' htook] at hhost
    exact ⟨fields, event, challenge.domain, hevent, hattests.parsed, hattests.domain, hhost⟩
  · rintro ⟨fields', event', host, hevent', hparsed, htag, hhost⟩
    obtain rfl : fields = fields' := by simpa [hevent] using hevent'
    obtain rfl : event = event' := by simpa [hattests.parsed] using hparsed
    obtain rfl : challenge.domain = host := by simpa [hattests.domain] using htag
    refine ⟨nonce, challenge, htook, hhost, fun username host reply hmint => ?_⟩
    obtain ⟨rfl, job', hjob', hlogin⟩ := mint_host hc htook hmint
    refine ⟨rfl, fun cookie hcookie => ?_⟩
    obtain rfl : job = job' := by simpa [hjob] using hjob'
    obtain rfl : endpoint = .authenticate_endpoint := by simpa [hroute] using hlogin
    obtain ⟨_, _, _, _, _, _, _, _, _, _, hset⟩ := hanswered
    rw [hset] at hcookie
    cases hcookie
    simp [sessionCookie, hhost]

end

/-! ## A login at two hosts -/

def loginJob (host : String) : Job := ⟨.default, loginRequest host⟩

/-- The domains of the challenges a request took. -/
def domainsTaken (h : Trace) : List String :=
  h.filterMap fun v => match v with
    | ⟨.consume _, .ok (some challenge)⟩ => some challenge.domain
    | _ => none

theorem mem_domainsTaken {h : Trace} {nonce : Json} {challenge : Challenge}
    (hmem : took nonce challenge ∈ h) : challenge.domain ∈ domainsTaken h :=
  List.mem_filterMap.mpr ⟨_, hmem, rfl⟩

/-- The status code of a finished request. -/
def statusOf (c : Run) (i : Nat) : Option Nat :=
  match c.running i with
  | some (.ret response) => some response.status_code
  | _ => none

theorem response_of_statusOf {c : Run} {i s : Nat} (h : statusOf c i = some s) :
    ∃ response, c.running i = some (.ret response) ∧ response.status_code = s := by
  unfold statusOf at h
  split at h
  · next response hrun => exact ⟨response, hrun, Option.some.inj h⟩
  · cases h

/-- A challenge issued for `a.example` is redeemed at `b.example`. -/
theorem redeemed_elsewhere : ∃ response : Response,
    Reachable (service (sampleEvent "yunohost-login").sdk) aliceLinked (loggedIn "b.example") ∧
      (loggedIn "b.example").job 1 = some (loginJob "b.example") ∧
      endpointOf (loginRequest "b.example") = some .authenticate_endpoint ∧
      (loggedIn "b.example").running 1 = some (.ret response) ∧ response.status_code = 200 ∧
      ¬HostBound (loggedIn "b.example") 1 (loginJob "b.example") response := by
  have hstatus : statusOf (loggedIn "b.example") 1 = some 200 := by decide +kernel
  obtain ⟨response, hrun, hcode⟩ := response_of_statusOf hstatus
  refine ⟨response, loggedIn_reachable "b.example", rfl, by decide +kernel, hrun, hcode, ?_⟩
  rintro ⟨nonce, challenge, htook, hhost, _⟩
  have hdomains : domainsTaken (calls 1 (loggedIn "b.example").log) = ["a.example"] := by
    decide +kernel
  have hdomain := mem_domainsTaken htook
  rw [hdomains, List.mem_singleton] at hdomain
  rw [hdomain] at hhost
  exact absurd hhost (by decide +kernel)

theorem host_binding_loggedIn : ∃ response : Response,
    HostBound (loggedIn "a.example") 1 (loginJob "a.example") response := by
  have hstatus : statusOf (loggedIn "a.example") 1 = some 200 := by decide +kernel
  obtain ⟨response, hrun, hcode⟩ := response_of_statusOf hstatus
  refine ⟨response, (host_binding (sampleEvent "yunohost-login").sdk aliceLinked
    (loggedIn "a.example") 1 (loginJob "a.example") .authenticate_endpoint response
    (loggedIn_reachable "a.example") rfl hrun (by decide +kernel) rfl hcode).mpr ?_⟩
  exact ⟨loginEvent, sampleEvent "yunohost-login", "a.example", rfl, rfl, by decide +kernel,
    by decide +kernel⟩

end NostrAuth.Server
