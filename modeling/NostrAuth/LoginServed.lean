import NostrAuth.RefusedRequests
import NostrAuth.MappingAuthority
import NostrAuth.JsonPosts

/-! A login that is served alone: which requests get as far as the session-mint helper, and
what every login leaves behind. -/

set_option autoImplicit false

namespace NostrAuth.Server

open Interaction Handler Prog Transaction

/-- The event of the request names the challenge and attests to it; `pubkey` signed it. -/
def Presents (sdk : NostrSdk) (job : Job) (challenge : Challenge) (pubkey : String) : Prop :=
  ∃ event nonce, eventOf job.request = some event ∧
    NostrVerify.extract_tag_from_raw_event event "challenge" = some nonce ∧ nonce.truthy = true ∧
    bindText nonce = .ok (some challenge.nonce) ∧
    Login.verifyAgainst sdk challenge (Json.dumps (.obj event)) job.settings.clock_skew_seconds =
      .ok pubkey

/-- The login is in order up to the helper: in the world `w`, at the reading `t`, its request
redeems `challenge` for the account that owns `row`. -/
structure InOrder (sdk : NostrSdk) (job : Job) (w : World) (t : Int) (challenge : Challenge)
    (row : IdentityRow) : Prop where
  media : mediaType job.request = "application/json"
  switch : job.settings.allow_nostr_login = true
  presents : Presents sdk job challenge row.pubkey
  action : challenge.action = LOGIN_ACTION
  pending : Pending w challenge
  fresh : t ≤ challenge.expires_at
  linked : row ∈ w.mappings
  enabled : row.enabled = 1
  /-- Every id that SQLite assigns. -/
  fits : fitsInt64 row.identity_id = true

/-! ## The calls of a login -/

theorem exec_consume {w : World} {challenge : Challenge} {nonce : Json} {inp : Oracle}
    (hbound : bindText nonce = .ok (some challenge.nonce)) (hpending : Pending w challenge)
    (hfresh : inp.clock 0 ≤ challenge.expires_at) :
    (exec (.consume nonce) inp w).1 = .ok (some challenge) := by
  have hrow : ChallengeTable.selectPending (some challenge.nonce) w.challenges =
      some ⟨challenge, none⟩ := ChallengeTable.selectPending_eq_some.mpr ⟨hpending, rfl, rfl⟩
  have hlate : ¬challenge.expires_at < inp.clock 0 := by omega
  simp [exec, ChallengeStore.run_consume, hbound, hrow, ChallengeStore.unlessExpired, hlate]

/-- What `consume` finds was bound from the nonce it was given. -/
theorem bound_of_consume {nonce : Json} {inp : Oracle} {w : World} {challenge : Challenge}
    (h : (exec (.consume nonce) inp w).1 = .ok (some challenge)) :
    bindText nonce = .ok (some challenge.nonce) :=
  (consume_found h).1

theorem exec_consume_mappings (nonce : Json) (inp : Oracle) (w : World) :
    (exec (.consume nonce) inp w).2.mappings = w.mappings := rfl

theorem exec_find_pubkey (pubkey : String) (inp : Oracle) (w : World) :
    exec (.mapping (.get_by_pubkey pubkey)) inp w =
      (.ok ((w.mappings.identities.find fun r => r.pubkey == pubkey && r.enabled == 1).map
        MappingStore._row_to_identity), w) := by
  simp [exec, MappingCall.method, MappingStore.run_get_by_pubkey]

theorem exec_get_by_pubkey {row : IdentityRow} {w : World} (hrow : row ∈ w.mappings)
    (hon : row.enabled = 1) (inp : Oracle) :
    exec (.mapping (.get_by_pubkey row.pubkey)) inp w =
      (.ok (some (MappingStore._row_to_identity row)), w) := by
  rw [exec_find_pubkey, MappingStore.find_pubkey_eq_some.mpr ⟨hrow, rfl, hon⟩]
  rfl

/-- The world after `touch_identity`. -/
def touchedWorld (inp : Oracle) (row : IdentityRow) (w : World) : World :=
  { w with mappings := (MappingDb.touchRow (inp.clock 0) row.identity_id w.mappings).1 }

theorem exec_touch {row : IdentityRow} (hfits : fitsInt64 row.identity_id = true) (inp : Oracle)
    (w : World) :
    exec (.mapping (.touch_identity row.identity_id)) inp w = (.ok (), touchedWorld inp row w) := by
  have hbind := bindInt_eq_ok.mpr ⟨hfits, rfl⟩
  simp [exec, MappingCall.method, MappingStore.run_touch_identity, hbind, touchedWorld]

theorem exec_mint (u host : String) (inp : Oracle) (w : World) :
    exec (.mint u host) inp w = (inp.minted, w) := rfl

/-- `login.authenticate` with a challenge that is in order: it looks the pubkey up, records
the use of the row and asks the helper for a session. -/
theorem serve_authenticate {sdk : NostrSdk} {i : Nat} {challenge : Challenge} {row : IdentityRow}
    {event_json : String} {skew : Int} {w : World} (haction : challenge.action = LOGIN_ACTION)
    (hverify : Login.verifyAgainst sdk challenge event_json skew = .ok row.pubkey)
    (hrow : row ∈ w.mappings) (hon : row.enabled = 1) (hfits : fitsInt64 row.identity_id = true)
    (f : Except Exn MintedSession → Handler Response) (inp : Nat → Oracle) :
    (service sdk).serve i ((Login.authenticate sdk (some challenge) event_json skew).attempt.bind f)
        inp w =
      let rest := (service sdk).serve i (f (readMinted (inp 2).minted)) (fun n => inp (n + 3))
        (touchedWorld (inp 1) row w)
      ((service sdk).entry i (.mapping (.get_by_pubkey row.pubkey)) (inp 0) w ::
        (service sdk).entry i (.mapping (.touch_identity row.identity_id)) (inp 1) w ::
        (service sdk).entry i (.mint row.ynh_username challenge.domain) (inp 2)
          (touchedWorld (inp 1) row w) :: rest.1, rest.2) := by
  have hok : ¬challenge.action ≠ Login.LOGIN_ACTION := not_not.mpr haction
  have hexec : (service sdk).exec = exec := rfl
  simp only [Login.authenticate, if_neg hok, hverify, mappings, Prog.bind_eq, call_bind, attempt_call,
    serve_call, hexec, exec_get_by_pubkey hrow hon, ofExcept_ok, ret_bind,
    MappingStore._row_to_identity, exec_touch hfits, Login.create_ynh_session, mint_session, exec_mint]
  cases readMinted (inp 2).minted <;> rfl

/-! ## A login that is in order -/

/-- From the outcome of `login.authenticate` to the response. -/
def concluded (request : Request) (outcome : Except Exn MintedSession) : Handler Response :=
  (concludeLogin request outcome).attempt.bind fun x => .ret (answer x)

/-- The answer does not change the stores, and it is 200 just where a session was minted. -/
theorem serve_concluded {sdk : NostrSdk} {i : Nat} (request : Request) (reply : MintReply)
    (inp : Nat → Oracle) (w : World) :
    ((service sdk).serve i (concluded request (readMinted reply)) inp w).2.2 = w ∧
      ∃ response, ((service sdk).serve i (concluded request (readMinted reply)) inp w).2.1 =
        .ok response ∧ (response.status_code = 200 ↔ ∃ token max_age, reply = .minted token max_age) := by
  cases reply with
  | minted token max_age => exact ⟨rfl, _, rfl, fun _ => ⟨token, max_age, rfl⟩, fun _ => rfl⟩
  | failed message => exact ⟨rfl, _, rfl, nofun, nofun⟩
  | raised className message => exact ⟨rfl, _, rfl, nofun, nofun⟩

theorem loginChecks_ok {settings : Settings} {request : Request} {event : List (PyStr × Json)}
    (hmedia : mediaType request = "application/json") (hswitch : settings.allow_nostr_login = true)
    (hevent : eventOf request = some event) : loginChecks settings request = .ret event := by
  unfold eventOf at hevent
  cases hjson : request.json with
  | error e => simp [hjson] at hevent
  | ok body =>
    cases body with
    | obj fields =>
      simp only [hjson] at hevent
      split at hevent
      · next event' hlookup =>
        cases hevent
        simp [loginChecks, _require_json, Prog.ensure, hmedia, hswitch, readJson, hjson, readEvent,
          getField, hlookup]
      · cases hevent
    | _ => simp [hjson] at hevent

theorem linkChecks_ok {settings : Settings} {request : Request} {event : List (PyStr × Json)}
    {body : Json} {metadata : String × Option PyStr} (hmedia : mediaType request = "application/json")
    (hswitch : settings.allow_identity_linking = true) (hevent : eventOf request = some event)
    (hjson : request.json = .ok body) (hmetadata : _identity_metadata body = .ret metadata)
    (hcookie : ¬NoCookie request) : linkChecks settings request =
      .ret ⟨event, metadata.1, metadata.2, orElse (request.headers "cookie") ""⟩ := by
  simp only [eventOf, hjson] at hevent
  cases body with
  | obj fields =>
    simp only at hevent
    split at hevent
    · next event' hlookup =>
      cases hevent
      have hrequire : requireCookie request = .ret (orElse (request.headers "cookie") "") := if_neg hcookie
      simp [linkChecks, _require_json, Prog.ensure, hmedia, hswitch, readJson, hjson, readEvent,
        getField, hlookup, hmetadata, hrequire]
    · cases hevent
  | _ => cases hevent

/-- Past its checks, a login takes the challenge and goes on. -/
theorem handle_login {sdk : NostrSdk} {job : Job} {event : List (PyStr × Json)}
    (hroute : endpointOf job.request = some .authenticate_endpoint)
    (hchecks : loginChecks job.settings job.request = .ret event) :
    handle sdk job = (consumeNamed event).attempt.bind fun x =>
      ((Prog.ofExcept x).bind fun challenge => (Login.authenticate sdk challenge
        (Json.dumps (.obj event)) job.settings.clock_skew_seconds).attempt.bind
          (concludeLogin job.request)).attempt.bind fun x => .ret (answer x) := by
  unfold handle
  rw [hroute]
  show ((authenticate_endpoint sdk job.settings job.request).attempt.bind _) = _
  rw [authenticate_stages, hchecks]
  simp only [ret_bind, login, Prog.bind_eq]
  generalize consumeNamed event = p
  induction p with
  | ret a => rfl
  | raise e => rfl
  | call o k ih => exact congrArg (call o) (funext ih)

theorem handle_login_refused {sdk : NostrSdk} {job : Job} {e : Exn}
    (hroute : endpointOf job.request = some .authenticate_endpoint)
    (hchecks : loginChecks job.settings job.request = .raise e) :
    handle sdk job = .ret (answer (.error e)) := by
  unfold handle
  rw [hroute]
  show ((authenticate_endpoint sdk job.settings job.request).attempt.bind _) = _
  rw [authenticate_stages, hchecks]
  rfl

/-- What a login in order does: the calls it makes, the rows it leaves, and its answer. -/
structure Served (sdk : NostrSdk) (i : Nat) (job : Job) (inp : Nat → Oracle) (w : World)
    (challenge : Challenge) (row : IdentityRow) : Prop where
  mints : ∃ e ∈ ((service sdk).serve i (handle sdk job) inp w).1,
    e.op = .mint row.ynh_username challenge.domain
  touches : ((service sdk).serve i (handle sdk job) inp w).2.2.mappings =
    (MappingDb.touchRow ((inp 2).clock 0) row.identity_id w.mappings).1
  answers : ∃ response, ((service sdk).serve i (handle sdk job) inp w).2.1 = .ok response ∧
    (response.status_code = 200 ↔ ∃ token max_age, (inp 3).minted = .minted token max_age)

theorem serve_inOrder {sdk : NostrSdk} {i : Nat} {job : Job} {inp : Nat → Oracle} {w : World}
    {challenge : Challenge} {row : IdentityRow}
    (hroute : endpointOf job.request = some .authenticate_endpoint)
    (h : InOrder sdk job w ((inp 0).clock 0) challenge row) :
    Served sdk i job inp w challenge row := by
  obtain ⟨event, nonce, hevent, hnamed, htruthy, hbound, hverify⟩ := h.presents
  have htake := exec_consume hbound h.pending h.fresh
  have hrest := serve_authenticate (i := i)
    h.action hverify (w := (exec (.consume nonce) (inp 0) w).2) h.linked h.enabled h.fits
    (concluded job.request) fun n => inp (n + 1)
  have hserve : (service sdk).serve i (handle sdk job) inp w =
      ((service sdk).entry i (.consume nonce) (inp 0) w ::
        ((service sdk).serve i ((Login.authenticate sdk (some challenge) (Json.dumps (.obj event))
          job.settings.clock_skew_seconds).attempt.bind (concluded job.request))
            (fun n => inp (n + 1)) (exec (.consume nonce) (inp 0) w).2).1,
        ((service sdk).serve i ((Login.authenticate sdk (some challenge) (Json.dumps (.obj event))
          job.settings.clock_skew_seconds).attempt.bind (concluded job.request))
            (fun n => inp (n + 1)) (exec (.consume nonce) (inp 0) w).2).2) := by
    have hexec : (service sdk).exec = exec := rfl
    rw [handle_login hroute (loginChecks_ok h.media h.switch hevent)]
    simp only [consumeNamed, hnamed, if_pos htruthy, consume, attempt_call, call_bind, serve_call,
      hexec, htake, ofExcept_ok, attempt_ret, ret_bind, attempt_attempt_bind, bind_assoc]
    rfl
  obtain ⟨hworld, response, hanswer, hstatus⟩ := @serve_concluded sdk i job.request
    (inp 3).minted (fun n => inp (n + 4)) (touchedWorld (inp 2) row (exec (.consume nonce) (inp 0) w).2)
  rw [hrest] at hserve
  refine ⟨?_, ?_, response, ?_, hstatus⟩
  · rw [hserve]
    refine ⟨(service sdk).entry i (.mint row.ynh_username challenge.domain) (inp 3)
      (touchedWorld (inp 2) row (exec (.consume nonce) (inp 0) w).2), ?_, rfl⟩
    simp
  · rw [hserve]
    exact congrArg World.mappings hworld
  · rw [hserve]
    exact hanswer

/-! ## Any other login -/

/-- The call writes no identity. -/
def Keeps (o : Op) : Prop := ∀ c, o = .mapping c → c.writes = false

theorem exec_keeps {o : Op} (ho : Keeps o) (inp : Oracle) (w : World) :
    (exec o inp w).2.mappings = w.mappings := by
  rcases exec_mappings o inp w with hsame | ⟨c, rfl, heffect⟩
  · exact hsame
  · have hwrites := heffect.writes
    rw [ho c rfl] at hwrites
    cases hwrites

theorem serve_keeps {sdk : NostrSdk} {i : Nat} {p : Handler Response}
    (hp : p.Within Rely Keeps fun _ => True) (inp : Nat → Oracle) (w : World) :
    ((service sdk).serve i p inp w).2.2.mappings = w.mappings := by
  have hcalls := (serve_within (M := service sdk) rely_exec (i := i) hp inp w).1
  refine serve_frame (S := fun w w' : World => w'.mappings = w.mappings) (fun _ => rfl)
    (fun _ _ _ h h' => h'.trans h) fun e he => ?_
  obtain ⟨hkeeps, hafter⟩ := hcalls e he
  rw [hafter]
  exact exec_keeps hkeeps e.input e.before

theorem concluded_keeps (request : Request) (outcome : Except Exn MintedSession) :
    (concluded request outcome).Within Rely Keeps fun _ => True := by
  unfold concluded concludeLogin
  split
  · exact ⟨nofun, fun _ _ => trivial⟩
  · exact ⟨nofun, fun _ _ => trivial⟩
  · exact ⟨nofun, fun _ _ => trivial⟩
  · trivial

/-- `login.authenticate` touches a row only where it asks for a session afterwards. -/
theorem serve_authenticate_keeps {sdk : NostrSdk} {i : Nat} {job : Job} {w : World}
    {challenge : Option Challenge} {event : List (PyStr × Json)} {inp : Nat → Oracle}
    (h : ∀ c row, challenge = some c → c.action = LOGIN_ACTION →
      Login.verifyAgainst sdk c (Json.dumps (.obj event)) job.settings.clock_skew_seconds =
        .ok row.pubkey → row ∈ w.mappings → row.enabled = 1 → fitsInt64 row.identity_id = true → False) :
    ((service sdk).serve i ((Login.authenticate sdk challenge (Json.dumps (.obj event))
      job.settings.clock_skew_seconds).attempt.bind (concluded job.request)) inp w).2.2.mappings =
        w.mappings := by
  have hconcluded : ∀ e inp, ((service sdk).serve i (concluded job.request (.error e)) inp
      w).2.2.mappings = w.mappings := fun e inp =>
    serve_keeps (concluded_keeps job.request (.error e)) inp w
  have hexec : (service sdk).exec = exec := rfl
  unfold Login.authenticate
  split
  · exact hconcluded _ inp
  · next c =>
    split
    · exact hconcluded _ inp
    · next haction =>
      split
      · exact hconcluded _ inp
      · exact hconcluded _ inp
      · next pubkey hverify =>
        simp only [mappings, Prog.bind_eq, call_bind, attempt_call, serve_call, hexec]
        rw [exec_find_pubkey]
        cases hfind : w.mappings.identities.find fun r => r.pubkey == pubkey && r.enabled == 1 with
        | none => exact hconcluded _ _
        | some row =>
          obtain ⟨hrow, rfl, hon⟩ := MappingStore.find_pubkey_eq_some.mp hfind
          have hunfit : ¬fitsInt64 row.identity_id = true :=
            h c row rfl (not_not.mp haction) hverify hrow hon
          have htouch : exec (.mapping (.touch_identity row.identity_id)) (inp 1) w =
              (.error (.uncaught "OverflowError" "Python int too large to convert to SQLite INTEGER"),
                w) := by
            simp [exec, MappingCall.method, MappingStore.run_touch_identity, MappingStore.bindInt,
              hunfit]
          simp only [Option.map_some, ofExcept_ok, ret_bind, MappingStore._row_to_identity,
            call_bind, attempt_call, serve_call, hexec, htouch]
          exact hconcluded _ _

/-- **A login that is not in order leaves the identities as they were.** -/
theorem serve_not_inOrder {sdk : NostrSdk} {i : Nat} {job : Job} {inp : Nat → Oracle} {w : World}
    (hroute : endpointOf job.request = some .authenticate_endpoint)
    (h : ∀ challenge row, ¬InOrder sdk job w ((inp 0).clock 0) challenge row) :
    ((service sdk).serve i (handle sdk job) inp w).2.2.mappings = w.mappings := by
  have hexec : (service sdk).exec = exec := rfl
  rcases loginChecks_returns job.settings job.request with
    ⟨event, hchecks, hmedia, hswitch, hevent⟩ | ⟨e, hchecks, _⟩
  · have hnone : ∀ inp w', w'.mappings = w.mappings →
        ((service sdk).serve i ((Login.authenticate sdk none (Json.dumps (.obj event))
          job.settings.clock_skew_seconds).attempt.bind (concluded job.request)) inp
            w').2.2.mappings = w.mappings := fun inp w' hw' =>
      (serve_authenticate_keeps (fun _ _ hnone => by cases hnone)).trans hw'
    rw [handle_login hroute hchecks]
    unfold consumeNamed
    split
    · next nonce hnamed =>
      split
      · next htruthy =>
        simp only [consume, attempt_call, call_bind, serve_call, hexec]
        cases hr : (exec (.consume nonce) (inp 0) w).1 with
        | error e => rfl
        | ok challenge =>
          simp only [ofExcept_ok, attempt_ret, ret_bind, attempt_attempt_bind, bind_assoc]
          refine (serve_authenticate_keeps fun c row hsome haction hverify hrow hon hfits => ?_).trans
            (exec_consume_mappings nonce (inp 0) w)
          subst hsome
          obtain ⟨hpending, hfresh, _⟩ := consumed_pending hr
          exact h c row ⟨hmedia, hswitch, ⟨event, nonce, hevent, hnamed, htruthy, bound_of_consume hr,
            hverify⟩, haction, hpending, hfresh, hrow, hon, hfits⟩
      · simp only [attempt_ret, ret_bind, ofExcept_ok, attempt_attempt_bind, bind_assoc]
        exact hnone inp w rfl
    · simp only [attempt_ret, ret_bind, ofExcept_ok, attempt_attempt_bind, bind_assoc]
      exact hnone inp w rfl
  · rw [handle_login_refused hroute hchecks]
    rfl

end NostrAuth.Server
