import NostrAuth.HostBinding

/-! The endpoints that redeem a challenge: whatever they can refuse without looking at the
signed event, they refuse before they take the challenge out of the store. -/

set_option autoImplicit false

namespace NostrAuth.Server

open Interaction Handler PortalClient Prog

/-- The nonce in the first `challenge` tag of the request's event. -/
def named (request : Request) : Option Json :=
  (eventOf request).bind fun event => NostrVerify.extract_tag_from_raw_event event "challenge"

def NoCookie (request : Request) : Prop := orElse (request.headers "cookie") "" = ""

/-- The refusals that do not look at the event's signature. `/authenticate` reads no cookie, so
no 401 of it is for want of one. -/
def Early (endpoint : Endpoint) (request : Request) (status_code : Nat) : Prop :=
  status_code ∈ [400, 403, 415] ∨
    (status_code = 401 ∧ endpoint ≠ .authenticate_endpoint ∧ NoCookie request)

/-! ## The two stages -/

section Stages

variable (sdk : NostrSdk) (settings : Settings) (request : Request)

/-- `authenticate_endpoint` up to the event. -/
def loginChecks : Handler (List (PyStr × Json)) := do
  _require_json request
  Prog.ensure (settings.allow_nostr_login = true) (.apiError 403 "Nostr login is currently disabled")
  let body ← readJson request
  readEvent body

/-- `authenticate_endpoint` from the event on. -/
def login (event : List (PyStr × Json)) : Handler Response := do
  let challenge ← consumeNamed event
  let outcome ← (Login.authenticate sdk challenge (Json.dumps (.obj event))
    settings.clock_skew_seconds).attempt
  concludeLogin request outcome

/-- What `redeemLink` reads before it takes the challenge. -/
structure LinkInput where
  event : List (PyStr × Json)
  signer_type : String
  label : Option PyStr
  cookie_header : String

/-- `redeemLink` up to the challenge. -/
def linkChecks : Handler LinkInput := do
  _require_json request
  Prog.ensure (settings.allow_identity_linking = true) linkingDisabled
  let body ← readJson request
  let event ← readEvent body
  let metadata ← _identity_metadata body
  let cookie_header ← requireCookie request
  return ⟨event, metadata.1, metadata.2, cookie_header⟩

/-- `redeemLink` from the challenge on. -/
def redeem (replace : Bool) (failure success : String) (answer : String → Handler Response)
    (input : LinkInput) : Handler Response := do
  let challenge ← consumeNamed input.event
  let outcome ← (Linking.confirm_and_link sdk replace input.cookie_header (hostOf request) challenge
    (Json.dumps (.obj input.event)) settings.portal_api_base_url settings.clock_skew_seconds
    input.signer_type input.label).attempt
  concludeLinking request failure success answer outcome

theorem authenticate_stages : authenticate_endpoint sdk settings request =
    (loginChecks settings request).bind (login sdk settings request) := by
  simp only [authenticate_endpoint, loginChecks, Prog.bind_eq, bind_assoc]
  rfl

theorem redeemLink_stages (replace : Bool) (failure success : String)
    (answer : String → Handler Response) :
    redeemLink sdk settings request replace failure success answer =
      (linkChecks settings request).bind
        (redeem sdk settings request replace failure success answer) := by
  simp only [redeemLink, linkChecks, Prog.bind_eq, bind_assoc, Prog.pure_eq, ret_bind]
  rfl

theorem loginChecks_returns : (loginChecks settings request).Returns
    (fun event => mediaType request = "application/json" ∧ settings.allow_nostr_login = true ∧
      eventOf request = some event) (Refuses [400, 403, 415]) := by
  refine Returns.bind ((require_json_returns request).mono (fun _ h => h)
    fun _ he => he.mono (by simp)) fun _ hmedia => ?_
  refine Returns.bind (Returns.ensure fun _ => refuses_apiError (by simp)) fun _ hswitch => ?_
  refine Returns.bind ((readJson_returns request).mono (fun _ h => h)
    fun _ he => he.mono (by simp)) fun body hbody => ?_
  exact (readEvent_returns hbody).mono (fun _ h => ⟨hmedia, hswitch, h⟩)
    fun _ he => he.mono (by simp)

/-- How the checks of `redeemLink` fail: with 401 only for want of a cookie. -/
def CheckFails (request : Request) (e : Exn) : Prop :=
  Refuses [400, 403, 415] e ∨ (NoCookie request ∧ e = notLoggedIn)

theorem CheckFails.refuses {request : Request} {e : Exn} (h : CheckFails request e) :
    Refuses [400, 401, 403, 415] e := by
  rcases h with h | ⟨-, rfl⟩
  · exact h.mono (by simp)
  · exact refuses_apiError (by simp)

theorem requireCookie_fails : (requireCookie request).Returns
    (fun cookie => ¬NoCookie request ∧ cookie = orElse (request.headers "cookie") "")
    (CheckFails request) := by
  simp only [requireCookie]
  split
  · next hnone => exact .raise (Or.inr ⟨hnone, rfl⟩)
  · next hcookie => exact .ret ⟨hcookie, rfl⟩

/-- Past its checks the request has a cookie; without one it ends there, with 401. -/
theorem linkChecks_returns : (linkChecks settings request).Returns
    (fun input => eventOf request = some input.event ∧ ¬NoCookie request ∧
      ∃ body, request.json = .ok body ∧ _identity_metadata body = .ret (input.signer_type, input.label))
    (CheckFails request) := by
  have herr : ∀ {codes : List Nat}, codes ⊆ [400, 403, 415] → ∀ e, Refuses codes e → CheckFails request e :=
    fun hcodes e he => Or.inl (he.mono hcodes)
  refine Returns.bind ((require_json_returns request).mono (fun _ h => h) (herr (by simp))) fun _ _ => ?_
  refine Returns.bind (Returns.ensure fun _ => Or.inl (refuses_apiError (by simp))) fun _ _ => ?_
  refine Returns.bind ((readJson_returns request).mono (fun _ h => h) (herr (by simp)))
    fun body hbody => ?_
  refine Returns.bind ((readEvent_returns hbody).mono (fun _ h => h) (herr (by simp)))
    fun event hevent => ?_
  refine Returns.bind ((identity_metadata_returns body).self.mono (fun _ h => h.1) (herr (by simp)))
    fun metadata hmetadata => ?_
  refine Returns.bind (requireCookie_fails request) fun cookie hcookie => ?_
  exact .ret ⟨hevent, hcookie.1, body, hbody, hmetadata⟩

end Stages

/-! ## After the challenge was taken -/

/-- The calls of the second stage leave the challenges alone. -/
def AfterTaking : Op → Prop
  | .issue .. | .consume _ => False
  | _ => True

/-- The calls that `login.py` and `linking.py` make. -/
def Inner : Op → Prop
  | .me .. | .mapping _ | .mint .. => True
  | _ => False

theorem Inner.afterTaking {o : Op} (h : Inner o) : AfterTaking o := by
  cases o with
  | issue domain action => exact h
  | consume nonce => exact h
  | _ => trivial

/-- How the second stage ends. -/
def Settled : Except Exn Response → Prop
  | .ok response => response.status_code = 200
  | .error e => Refuses [401, 502] e

section Within

variable {sdk : NostrSdk} {settings : Settings} {request : Request}

theorem mappings_within (c : MappingCall) :
    (mappings c).Within Rely Inner FromStore := by
  refine ⟨trivial, fun r hr => ?_⟩
  cases r with
  | ok _ => trivial
  | error e => exact rely_mapping_error hr

theorem log_within {level : Level} {message : String} {Q : Except Exn Response → Prop}
    {k : Handler Response} (hk : k.Within Rely AfterTaking Q) :
    ((log level message).bind fun _ => k).Within Rely AfterTaking Q :=
  ⟨trivial, fun _ _ => hk⟩

theorem mint_within (u host : String) :
    (Login.create_ynh_session u host).Within Rely Inner FromStore := by
  refine ⟨trivial, fun r _ => ?_⟩
  cases r with
  | minted token max_age => trivial
  | failed message => exact nofun
  | raised className message => exact nofun

theorem authenticate_within (challenge : Option Challenge) (event_json : String) (skew : Int) :
    (Login.authenticate sdk challenge event_json skew).Within Rely Inner FromStore := by
  unfold Login.authenticate
  split
  · exact nofun
  · split
    · exact nofun
    · split
      · exact nofun
      · next e _ hv => exact verify_refuses hv
      · refine (mappings_within _).bind (fun identity _ => ?_) fun _ he => he
        split
        · exact nofun
        · split
          · exact (mappings_within _).bind (fun _ _ => mint_within _ _) fun _ he => he
          · exact (mappings_within _).bind (fun _ _ => mint_within _ _) fun _ he => he

theorem concludeLogin_within {outcome : Except Exn MintedSession} (h : FromStore outcome) :
    (concludeLogin request outcome).Within Rely AfterTaking Settled := by
  unfold concludeLogin
  split
  · exact log_within rfl
  · exact log_within (refuses_apiError (by simp))
  · exact log_within (refuses_apiError (by simp))
  · exact Refuses.mono (by simp) h

theorem currentUser_within (cookie_header host base_url : String) :
    (Linking.currentUser cookie_header host base_url).Within Rely Inner FromStore := by
  simp only [Linking.currentUser, get_authenticated_username, get_authenticated_session,
    Prog.bind_eq, call_bind, attempt_call]
  refine ⟨trivial, fun reply _ => ?_⟩
  cases hs : readSession reply with
  | ok session =>
    simp only [hs, ofExcept_ok, ret_bind, attempt_ret]
    trivial
  | error e =>
    have he := readSession_error hs
    simp only [hs, ofExcept_error, raise_bind, attempt_raise, ret_bind]
    split
    · next heq => cases heq
    · intro s m h
      cases h
    · next heq =>
      cases heq
      exact he

theorem record_within (replace : Bool) (u p : String) (metadata : MappingStore.Metadata) :
    (Linking.record replace u p metadata).Within Rely Inner FromStore := by
  unfold Linking.record
  split
  · exact mappings_within _
  · exact (mappings_within _).bind (fun _ _ => trivial) fun _ he => he

theorem rowTexts_within (replace : Bool) (username : PyStr) (pubkey : String)
    (label : Option PyStr) :
    (rowTexts replace username pubkey label).Within Rely Inner FromStore := by
  rcases rowTexts_cases replace username pubkey label with ⟨u, l, -, -, hret⟩ | ⟨-, t, hcall⟩
  · rw [hret]
    trivial
  · rw [hcall]
    exact (mappings_within _).bind nofun fun _ he => he

theorem recordTexts_within (replace : Bool) (username : PyStr) (pubkey signer_type : String)
    (label : Option PyStr) :
    (Linking.recordTexts replace username pubkey signer_type label).Within Rely Inner FromStore :=
  (rowTexts_within replace username pubkey label).bind (fun texts _ =>
    (record_within replace texts.1 pubkey _).bind (fun _ _ => trivial) fun _ he => he) fun _ he => he

theorem confirm_and_link_within (replace : Bool) (cookie_header host : String)
    (challenge : Option Challenge) (event_json base_url : String) (skew : Int)
    (signer_type : String) (label : Option PyStr) :
    (Linking.confirm_and_link sdk replace cookie_header host challenge event_json base_url skew
      signer_type label).Within Rely Inner FromStore := by
  unfold Linking.confirm_and_link
  split
  · exact nofun
  · split
    · exact nofun
    · refine (currentUser_within _ _ _).bind (fun username _ => ?_) fun _ he => he
      split
      · exact nofun
      · next e _ hv => exact verify_refuses hv
      · refine (recordTexts_within _ _ _ _ _).attempt_bind fun outcome houtcome => ?_
        split
        · trivial
        · exact nofun
        · exact houtcome

theorem concludeLinking_within {failure success : String} {answer : String → Handler Response}
    {outcome : Except Exn String} (h : FromStore outcome)
    (hanswer : ∀ username, (answer username).Within Rely AfterTaking Settled) :
    (concludeLinking request failure success answer outcome).Within Rely AfterTaking Settled := by
  unfold concludeLinking
  split
  · exact log_within (hanswer _)
  · exact log_within (refuses_apiError (by simp))
  · exact Refuses.mono (by simp) h

theorem added_within (username : String) :
    (added sdk username).Within Rely AfterTaking Settled := by
  refine ((mappings_within _).mono (fun _ => Inner.afterTaking) fun _ h => h).bind (fun identity _ => ?_)
    fun _ he => Refuses.mono (by simp) he
  exact (identity_json?_returns sdk identity).within_bind (fun _ _ => rfl)
    fun _ he => he.mono (by simp)

end Within

/-! ## One request -/

/-- The calls of the redeeming endpoints: they take no challenge but the named one. -/
def TakesNamed (request : Request) (_ : Trace) : Op → Prop
  | .issue .. => False
  | .consume nonce => named request = some nonce
  | _ => True

/-- An early refusal comes before the first call. -/
def EarlyFirst (endpoint : Endpoint) (request : Request) (h : Trace) :
    Except Exn Response → Prop
  | .ok response => response.status_code = 200
  | .error e => ∀ s m, e = .apiError s m → Early endpoint request s → h = []

/-- The rest of a handler of `endpoint` takes no challenge but the named one, and refuses
early before its first call only. -/
structure Frugal (endpoint : Endpoint) (request : Request) (h : Trace) (p : Handler Response) :
    Prop where
  wp : p.wp Rely (TakesNamed request) (EarlyFirst endpoint request) h

variable {sdk : NostrSdk} {settings : Settings} {request : Request} {endpoint : Endpoint}

/-- Nothing has been called yet when a check fails. -/
theorem frugal_checks {α : Type} {p : Handler α} {P : α → Prop} {codes : List Nat}
    {f : α → Handler Response} (hp : p.Returns P (Refuses codes))
    (hf : ∀ a, P a → Frugal endpoint request [] (f a)) : Frugal endpoint request [] (p.bind f) :=
  ⟨hp.wp_bind (fun a ha => (hf a ha).wp) fun _ _ _ _ _ _ => rfl⟩

/-- After the challenge was taken, no refusal is early. -/
theorem frugal_within {h : Trace} {p : Handler Response}
    (hlate : ∀ s, s = 401 ∨ s = 502 → ¬Early endpoint request s)
    (hp : p.Within Rely AfterTaking Settled) : Frugal endpoint request h p := by
  refine ⟨wp_mono (fun _ o ho => ?_) (fun h x hx => ?_) _ hp.wp⟩
  · cases o with
    | issue => exact ho
    | consume => exact ho.elim
    | _ => trivial
  · cases x with
    | ok response => exact hx
    | error e =>
      intro s m he hearly
      have hcode := hx s m he
      exact absurd hearly (hlate s (by simpa using hcode))

/-- Taking the named challenge, and what follows. -/
theorem frugal_consumeNamed {event : List (PyStr × Json)} (hevent : eventOf request = some event)
    {f : Option Challenge → Handler Response}
    (hf : ∀ challenge h, Frugal endpoint request h (f challenge)) :
    Frugal endpoint request [] ((consumeNamed event).bind f) := by
  unfold consumeNamed
  split
  · next nonce hnonce =>
    split
    · refine ⟨?_, fun r hr => ?_⟩
      · simp only [TakesNamed, named, hevent]
        exact hnonce
      · cases r with
        | error e =>
          have he : Refuses [] e := hr
          exact fun s m hs _ => absurd (he s m hs) (by simp)
        | ok challenge => exact (hf challenge _).wp
    · exact hf _ _
  · exact hf _ _

theorem authenticate_frugal : Frugal .authenticate_endpoint request []
    (authenticate_endpoint sdk settings request) := by
  rw [authenticate_stages]
  apply frugal_checks (loginChecks_returns settings request)
  intro event hchecked
  refine frugal_consumeNamed hchecked.2.2 fun challenge h => frugal_within ?_ ?_
  · rintro s hs (hcode | ⟨_, hne, _⟩)
    · rcases hs with rfl | rfl <;> simp at hcode
    · exact hne rfl
  · exact ((authenticate_within _ _ _).mono (fun _ => Inner.afterTaking) fun _ h => h).attempt_bind
      fun _ h => concludeLogin_within h

theorem redeemLink_frugal {replace : Bool} {failure success : String}
    {answer : String → Handler Response}
    (hanswer : ∀ username, (answer username).Within Rely AfterTaking Settled) :
    Frugal endpoint request []
      (redeemLink sdk settings request replace failure success answer) := by
  rw [redeemLink_stages]
  apply frugal_checks ((linkChecks_returns settings request).mono (fun _ h => h) fun _ => CheckFails.refuses)
  intro input hinput
  refine frugal_consumeNamed hinput.1 fun challenge h => frugal_within ?_ ?_
  · rintro s hs (hcode | ⟨_, _, hcookie⟩)
    · rcases hs with rfl | rfl <;> simp at hcode
    · exact hinput.2.1 hcookie
  · exact ((confirm_and_link_within _ _ _ _ _ _ _ _ _).mono (fun _ => Inner.afterTaking)
      fun _ h => h).attempt_bind fun _ h => concludeLinking_within h hanswer

theorem redeems_frugal (hredeems : endpoint.redeems = true) :
    Frugal endpoint request [] (endpoint.handler sdk settings request) := by
  cases endpoint with
  | authenticate_endpoint => exact authenticate_frugal
  | link_endpoint => exact redeemLink_frugal fun _ => rfl
  | add_identity_endpoint => exact redeemLink_frugal added_within
  | _ => cases hredeems

theorem handle_frugal (sdk : NostrSdk) (job : Job) : (handle sdk job).wp Rely
    (fun h o => ∀ endpoint, endpointOf job.request = some endpoint → endpoint.redeems = true →
      TakesNamed job.request h o)
    (fun h outcome => ∀ endpoint response, endpointOf job.request = some endpoint →
      endpoint.redeems = true → outcome = .ok response →
      Early endpoint job.request response.status_code → h = []) [] := by
  by_cases hredeems : ∃ endpoint, endpointOf job.request = some endpoint ∧ endpoint.redeems = true
  · obtain ⟨endpoint, hroute, hredeems⟩ := hredeems
    unfold handle
    rw [hroute]
    simp only [wp_bind, wp_attempt]
    refine wp_mono (fun h o ho endpoint' _ _ => ho) (fun h outcome hends => ?_) _
      (@redeems_frugal sdk job.settings job.request endpoint hredeems).wp
    rintro endpoint' response heq - hresponse hearly
    cases heq
    cases hresponse
    cases outcome with
    | ok response =>
      have hstatus : response.status_code = 200 := hends
      simp [Early, answer, hstatus] at hearly
    | error e =>
      cases e with
      | apiError s m => exact hends s m rfl hearly
      | _ => simp [Early, answer] at hearly
  · refine wp_mono (fun _ _ _ endpoint hroute h => ?_) (fun _ _ _ endpoint _ hroute h => ?_) _
      (handle_spec sdk job)
    · exact absurd ⟨endpoint, hroute, h⟩ hredeems
    · exact absurd ⟨endpoint, hroute, h⟩ hredeems

/-- A call that takes no challenge but the named one keeps the rows of other nonces. -/
theorem takesNamed_challenges {request : Request} {h : Trace} {o : Op} (ho : TakesNamed request h o)
    (inp : Oracle) (w : World) {r : ChallengeRow}
    (hr : ∀ nonce, named request = some nonce → bindText nonce ≠ .ok (some r.nonce)) :
    r ∈ (exec o inp w).2.challenges ↔ r ∈ w.challenges := by
  cases o with
  | issue domain action => exact ho.elim
  | consume nonce =>
    have hother := hr nonce ho
    simp only [exec, ChallengeStore.run_consume]
    cases hkey : bindText nonce with
    | error e => rfl
    | ok key =>
      have hnot : ∀ a : ChallengeRow, a.nonce = r.nonce → ChallengeTable.pending key a = false := by
        intro a ha
        cases hp : ChallengeTable.pending key a with
        | false => rfl
        | true =>
          rw [(ChallengeTable.pending_iff.mp hp).1, ha] at hkey
          exact absurd hkey hother
      simp only [ChallengeStore.consumed]
      split
      · rfl
      · rw [ChallengeTable.mem_markConsumed]
        constructor
        · rintro (⟨hmem, _⟩ | ⟨a, _, hp, rfl⟩)
          · exact hmem
          · rw [hnot a rfl] at hp
            cases hp
        · exact fun hmem => Or.inl ⟨hmem, hnot r rfl⟩
  | _ => rfl

/-! ## Requests of a run -/

/-- What a refused request, or one of its calls, has done to the stores. -/
structure Spared (endpoint : Endpoint) (request : Request) (status_code : Nat)
    (before after : World) : Prop where
  early : Early endpoint request status_code →
    after.challenges = before.challenges ∧ after.mappings = before.mappings
  /-- Only the challenge that the event names may have changed. -/
  late : 400 ≤ status_code → ∀ r : ChallengeRow,
    (∀ nonce, named request = some nonce → bindText nonce ≠ .ok (some r.nonce)) →
      (r ∈ after.challenges ↔ r ∈ before.challenges)

variable {sdk : NostrSdk} {w : World} {c : Run}

theorem spared_call (hc : Reachable (service sdk) w c) {i : Nat} {job : Job} {endpoint : Endpoint}
    {response : Response} (hjob : c.job i = some job) (hroute : endpointOf job.request = some endpoint)
    (hredeems : endpoint.redeems = true) (hrun : c.running i = some (.ret response)) {e : LogEntry}
    (he : e ∈ c.log) (hwho : e.who = i) :
    Spared endpoint job.request response.status_code e.before e.after := by
  subst hwho
  have hguarded := hc.guarded rely_exec (handle_frugal sdk)
  have hends := hguarded.rest e.who job _ hjob hrun
  obtain ⟨m, hm⟩ := List.mem_iff_getElem?.mp he
  refine ⟨fun hearly => ?_, fun _ r hr => ?_⟩
  · -- an early refusal made no call at all
    have hnone := hends endpoint response hroute hredeems rfl hearly
    have hcall := mem_calls_of_getElem? hm
    rw [hnone] at hcall
    cases hcall
  · obtain ⟨job', hjob', hG⟩ := hguarded.log m e hm
    rw [hjob] at hjob'
    cases hjob'
    rw [hc.after_eq hm]
    exact takesNamed_challenges (hG endpoint hroute hredeems) e.input e.before hr

theorem Spared.refl {endpoint : Endpoint} {request : Request} {s : Nat} (w : World) :
    Spared endpoint request s w w := ⟨fun _ => ⟨rfl, rfl⟩, fun _ _ _ => Iff.rfl⟩

theorem Spared.trans {endpoint : Endpoint} {request : Request} {s : Nat} {w₁ w₂ w₃ : World}
    (h : Spared endpoint request s w₁ w₂) (h' : Spared endpoint request s w₂ w₃) :
    Spared endpoint request s w₁ w₃ where
  early := fun hearly =>
    ⟨(h'.early hearly).1.trans (h.early hearly).1, (h'.early hearly).2.trans (h.early hearly).2⟩
  late := fun hlate r hr => (h'.late hlate r hr).trans (h.late hlate r hr)

/-- **A refused request burns nothing**: neither its own calls, among those of any other
requests, nor the request as a whole where it is served alone. -/
theorem refused_burns_nothing (sdk : NostrSdk) (w : World) (c : Run) (i : Nat) (job : Job)
    (endpoint : Endpoint) (hc : Reachable (service sdk) w c)
    (hroute : endpointOf job.request = some endpoint) (hredeems : endpoint.redeems = true) :
    (∀ response, c.job i = some job → c.running i = some (.ret response) →
      ∀ e ∈ c.log, e.who = i →
        Spared endpoint job.request response.status_code e.before e.after) ∧
    ∀ inp response, c.job i = none →
      ((service sdk).after c i job inp).running i = some (.ret response) →
        Spared endpoint job.request response.status_code c.world
          ((service sdk).after c i job inp).world := by
  refine ⟨fun response hjob hrun e he hwho => spared_call hc hjob hroute hredeems hrun he hwho,
    fun inp response hi hrun => ?_⟩
  apply serve_frame Spared.refl (fun _ _ _ => Spared.trans)
  intro e he
  have hlog : e ∈ ((service sdk).after c i job inp).log := List.mem_append_right _ he
  exact spared_call (hc.after hi job inp) (Function.update_self ..) hroute hredeems hrun hlog
    (serve_who e he)

/-! ## A link without a cookie -/

/-- The request to add the key of `loginEvent`'s author, without a cookie. -/
def cookielessAdd : Job where
  settings := .default
  request := { loginRequest "a.example" with path := ["identities", "link"] }

def cookielessRun : Run :=
  (service (sampleEvent "yunohost-login").sdk).after challengeIssued 1 cookielessAdd sampleInput

theorem cookielessRun_spared : ∃ response : Response,
    cookielessRun.running 1 = some (.ret response) ∧ response.status_code = 401 ∧
      Early .add_identity_endpoint cookielessAdd.request 401 ∧
      Spared .add_identity_endpoint cookielessAdd.request 401 challengeIssued.world
        cookielessRun.world := by
  have hstatus : statusOf cookielessRun 1 = some 401 := by decide +kernel
  obtain ⟨response, hrun, hcode⟩ := response_of_statusOf hstatus
  have hspared := (refused_burns_nothing (sampleEvent "yunohost-login").sdk aliceLinked
    challengeIssued 1 cookielessAdd .add_identity_endpoint challengeIssued_reachable
    (by decide +kernel) rfl).2 sampleInput response rfl hrun
  have hcookie : orElse (cookielessAdd.request.headers "cookie") "" = "" := by decide +kernel
  rw [hcode] at hspared
  exact ⟨response, hrun, hcode, Or.inr ⟨rfl, nofun, hcookie⟩, hspared⟩

end NostrAuth.Server
