import NostrAuth.ChallengeHistory

/-! Logins and links of a run: each stands on one challenge that the service issued, that
the request took in time and that the signed event attests to, and no challenge carries two
of them. -/

set_option autoImplicit false

namespace NostrAuth

open Interaction

/-- The calls that record a new identity. -/
def MappingCall.records : MappingCall → Bool
  | .link .. | .add_identity .. => true
  | _ => false

namespace Server

open PortalClient

/-! ## What stands behind a call -/

/-- A call is allowed by what its request did before. -/
theorem allowed_of_log {sdk : NostrSdk} {w : World} {c : Run} (hc : Reachable (service sdk) w c)
    {m : Nat} {e : LogEntry} (he : c.log[m]? = some e) :
    ∃ job endpoint, c.job e.who = some job ∧ endpointOf job.request = some endpoint ∧
      Allowed sdk job endpoint (calls e.who (c.log.take m)) e.op := by
  obtain ⟨job, hjob, endpoint, hroute, hallowed⟩ := (service_guarded hc).log m e he
  exact ⟨job, endpoint, hjob, hroute, hallowed⟩

theorem allowed_mint {sdk : NostrSdk} {job : Job} {endpoint : Endpoint} {h : Trace}
    {username host : String} (ha : Allowed sdk job endpoint h (.mint username host)) :
    endpoint = .authenticate_endpoint ∧ job.settings.allow_nostr_login = true ∧
      ∃ nonce challenge pubkey identity identity_id,
        h = [took nonce challenge, found pubkey identity,
          ⟨.mapping (.touch_identity identity_id), .ok ()⟩] ∧
        challenge.action = LOGIN_ACTION ∧ SignedBy sdk job challenge pubkey ∧
        username = identity.ynh_username ∧ host = challenge.domain := by
  cases ha with
  | mint nonce challenge pubkey identity identity_id hswitch haction hsigned =>
    exact ⟨rfl, hswitch, nonce, challenge, pubkey, identity, identity_id, rfl, haction, hsigned,
      rfl, rfl⟩

/-- How a self-service route comes to record an identity. -/
theorem allowed_record {sdk : NostrSdk} {job : Job} {endpoint : Endpoint} {h : Trace}
    {c : MappingCall} (ha : Allowed sdk job endpoint h (.mapping c)) (hc : c.records = true)
    (hself : endpoint.administers = false) :
    (endpoint = .link_endpoint ∨ endpoint = .add_identity_endpoint) ∧
      job.settings.allow_identity_linking = true ∧
      ∃ nonce challenge pubkey reply session username metadata,
        h = [took nonce challenge, asked job reply] ∧ session.username = .text username ∧
        (c = .link username pubkey metadata ∨ c = .add_identity username pubkey metadata) ∧
        challenge.action = LINK_ACTION ∧ SignedBy sdk job challenge pubkey ∧
        readSession reply = .ok session ∧ metadata.linked_by = "self-service" := by
  cases ha with
  | record _ _ nonce challenge pubkey reply session metadata hkind hswitch haction hsigned hs hby =>
    obtain ⟨username, hu, hkind⟩ := hkind
    refine ⟨hkind.imp And.left And.left, hswitch, nonce, challenge, pubkey, reply, session, username,
      metadata, rfl, hu, hkind.imp And.right And.right, haction, hsigned, hs, hby⟩
  | touch => cases hc
  | edit_own _ _ _ _ _ hedits => cases c <;> simp_all [MappingCall.edits, MappingCall.records]
  | admin_edit _ _ _ _ hadmin => rw [hself] at hadmin; cases hadmin
  | admin_record => cases hself
  | read _ _ _ hreads => cases c <;> simp_all [MappingCall.writes, MappingCall.records]

/-- What the request took, it took at a call of its own, in time. -/
theorem consumed_of_took {sdk : NostrSdk} {w : World} {c : Run} (hc : Reachable (service sdk) w c)
    {i m : Nat} {nonce : Json} {challenge : Challenge}
    (h : took nonce challenge ∈ calls i (c.log.take m)) :
    ∃ k e, k < m ∧ c.log[k]? = some e ∧ e.who = i ∧ e.event = took nonce challenge ∧
      e.input.clock 0 ≤ challenge.expires_at := by
  obtain ⟨k, e, hkm, he, hwho, hevent⟩ := exists_of_mem_calls_take h
  obtain ⟨c', _, _, _, hentry⟩ := hc.snapshot he
  refine ⟨k, e, hkm, he, hwho, hevent, ?_⟩
  rw [hentry] at hevent
  exact (consumed_entry hevent).2.1

theorem found_entry {sdk : NostrSdk} {i : Nat} {o : Op} {inp : Oracle} {w : World}
    {pubkey : String} {identity : Identity}
    (h : ((service sdk).entry i o inp w).event = found pubkey identity) :
    ∃ r ∈ w.mappings, r.pubkey = pubkey ∧ r.enabled = 1 ∧
      identity = MappingStore._row_to_identity r := by
  injection h with hop hans
  have hop' : o = .mapping (.get_by_pubkey pubkey) := hop
  subst hop'
  have hfind : (exec (.mapping (.get_by_pubkey pubkey)) inp w).1 = .ok (some identity) :=
    eq_of_heq hans
  simp only [exec, MappingCall.method, MappingStore.run_get_by_pubkey, Except.ok.injEq,
    Option.map_eq_some_iff] at hfind
  obtain ⟨r, hr, hrow⟩ := hfind
  obtain ⟨hmem, hp, hon⟩ := MappingStore.find_pubkey_eq_some.mp hr
  exact ⟨r, hmem, hp, hon, hrow.symm⟩

/-! ## Logins and links -/

/-- A world without challenges, with any identities. -/
def World.withoutChallenges (ttl_seconds : Ttl) (mappings : MappingDb) : World :=
  ⟨ttl_seconds, Table.empty, mappings⟩

/-- The request `who` took, at `k`, the challenge issued at `j`: it was issued for this host
and action, it had not expired, and the event of the request attests to it and was signed by
`pubkey`. -/
structure Redemption (sdk : NostrSdk) (c : Run) (who j k : Nat) (job : Job) (action host : String)
    (challenge : Challenge) (pubkey : String) : Prop where
  arrived : c.job who = some job
  redeems : Redeems c.log j k challenge
  issued : ∃ e, c.log[j]? = some e ∧ e.event = ⟨.issue host action, .ok challenge⟩
  domain : challenge.domain = host
  action : challenge.action = action
  fresh : ∃ e nonce, c.log[k]? = some e ∧ e.who = who ∧ e.event = took nonce challenge ∧
    e.input.clock 0 ≤ challenge.expires_at
  signed : SignedBy sdk job challenge pubkey

/-- At a call before `m` the request looked up `pubkey`, and the identities held an enabled
row for it, owned by `username`. -/
def LookedUp (c : Run) (who m : Nat) (pubkey username : String) : Prop :=
  ∃ l e, l < m ∧ c.log[l]? = some e ∧ e.who = who ∧ e.op = .mapping (.get_by_pubkey pubkey) ∧
    ∃ r ∈ e.before.mappings, r.pubkey = pubkey ∧ r.enabled = 1 ∧ r.ynh_username = username

/-- The call at `m` asks the helper for a session. -/
def Mints (c : Run) (m : Nat) : Prop :=
  ∃ e username host, c.log[m]? = some e ∧ e.op = .mint username host

/-- The call at `m` records an identity through `/link` or `/identities/link`. -/
def Links (c : Run) (m : Nat) : Prop :=
  ∃ e job call, c.log[m]? = some e ∧ c.job e.who = some job ∧
    (endpointOf job.request = some .link_endpoint ∨
      endpointOf job.request = some .add_identity_endpoint) ∧
    e.op = .mapping call ∧ call.records = true

/-- The session asked for at `m` is justified by the challenge issued at `j`. -/
def MintJustified (sdk : NostrSdk) (c : Run) (m j : Nat) : Prop :=
  ∃ e job username host k challenge pubkey, c.log[m]? = some e ∧ e.op = .mint username host ∧
    endpointOf job.request = some .authenticate_endpoint ∧ k < m ∧
    Redemption sdk c e.who j k job LOGIN_ACTION host challenge pubkey ∧
    LookedUp c e.who m pubkey username

/-- The identity recorded at `m` is justified by the challenge issued at `j`. -/
def LinkJustified (sdk : NostrSdk) (c : Run) (m j : Nat) : Prop :=
  ∃ e job username metadata k challenge pubkey, c.log[m]? = some e ∧
    (e.op = .mapping (.link username pubkey metadata) ∨
      e.op = .mapping (.add_identity username pubkey metadata)) ∧ k < m ∧
    Redemption sdk c e.who j k job LINK_ACTION challenge.domain challenge pubkey

theorem redemption_of_took {sdk : NostrSdk} {w : World} (hw : ∀ challenge, ¬Pending w challenge)
    {c : Run} (hc : Reachable (service sdk) w c) {who m : Nat} {job : Job} {nonce : Json}
    {challenge : Challenge} {pubkey : String} (hjob : c.job who = some job)
    (htook : took nonce challenge ∈ calls who (c.log.take m))
    (hsigned : SignedBy sdk job challenge pubkey) :
    ∃ j k, k < m ∧
      Redemption sdk c who j k job challenge.action challenge.domain challenge pubkey := by
  obtain ⟨k, e, hkm, he, hwho, hevent, hclock⟩ := consumed_of_took hc htook
  obtain ⟨j, hredeems⟩ := redeems_of_consumed hw hc ⟨e, nonce, he, hevent⟩
  obtain ⟨e', domain, action, he', hevent'⟩ := hredeems.issued
  obtain ⟨_, _, _, _, hentry⟩ := hc.snapshot he'
  have hnew := issued_entry (hentry ▸ hevent')
  have hissued : e'.event = ⟨.issue challenge.domain challenge.action, .ok challenge⟩ := by
    rw [hevent', hnew]
    rfl
  exact ⟨j, k, hkm, hjob, hredeems, ⟨e', he', hissued⟩, rfl, rfl,
    ⟨e, nonce, he, hwho, hevent, hclock⟩, hsigned⟩

section Justified

variable {sdk : NostrSdk} {w : World} {c : Run} {m : Nat}

theorem mint_justified (hw : ∀ challenge, ¬Pending w challenge)
    (hc : Reachable (service sdk) w c) (hm : Mints c m) : ∃ j, MintJustified sdk c m j := by
  obtain ⟨e, username, host, he, hop⟩ := hm
  obtain ⟨job, endpoint, hjob, hroute, hallowed⟩ := allowed_of_log hc he
  rw [hop] at hallowed
  obtain ⟨rfl, _, nonce, challenge, pubkey, identity, id, hh, haction, hsigned, rfl, rfl⟩ :=
    allowed_mint hallowed
  have htook : took nonce challenge ∈ calls e.who (c.log.take m) := by
    rw [hh]
    exact List.mem_cons_self
  obtain ⟨j, k, hkm, hredemption⟩ := redemption_of_took hw hc hjob htook hsigned
  rw [haction] at hredemption
  refine ⟨j, e, job, _, _, k, challenge, pubkey, he, hop, hroute, hkm, hredemption, ?_⟩
  obtain ⟨l, e', hlm, he', hwho, hevent⟩ : ∃ l e', l < m ∧ c.log[l]? = some e' ∧
      e'.who = e.who ∧ e'.event = found pubkey identity :=
    exists_of_mem_calls_take (by rw [hh]; simp)
  obtain ⟨_, _, _, _, hentry⟩ := hc.snapshot he'
  obtain ⟨r, hr, hp, hen, rfl⟩ := found_entry (hentry ▸ hevent)
  exact ⟨l, e', hlm, he', hwho, congrArg Event.op hevent, r, hr, hp, hen, rfl⟩

theorem link_justified (hw : ∀ challenge, ¬Pending w challenge)
    (hc : Reachable (service sdk) w c) (hm : Links c m) : ∃ j, LinkJustified sdk c m j := by
  obtain ⟨e, job, call, he, hjob, hroute, hop, hrecords⟩ := hm
  obtain ⟨job', endpoint, hjob', hroute', hallowed⟩ := allowed_of_log hc he
  obtain rfl : job = job' := by simpa [hjob] using hjob'
  have hself : endpoint.administers = false := by
    rw [hroute'] at hroute
    rcases hroute with h | h <;> cases h <;> rfl
  rw [hop] at hallowed
  obtain ⟨_, _, nonce, challenge, pubkey, reply, session, username, metadata, hh, hu, hcall, haction,
    hsigned, _⟩ := allowed_record hallowed hrecords hself
  have htook : took nonce challenge ∈ calls e.who (c.log.take m) := by
    rw [hh]
    exact List.mem_cons_self
  obtain ⟨j, k, hkm, hredemption⟩ := redemption_of_took hw hc hjob htook hsigned
  rw [haction] at hredemption
  exact ⟨j, e, job, username, metadata, k, challenge, pubkey, he,
    hcall.imp (fun h => by rw [hop, h]) (fun h => by rw [hop, h]), hkm, hredemption⟩

/-- A call that only a redeemed challenge permits. -/
def redeeming : Op → Bool
  | .mint .. => true
  | .mapping c => c.records
  | _ => false

/-- Before such a call its request made no other. -/
theorem sole_redeeming (hc : Reachable (service sdk) w c) {m' : Nat}
    {e e' : LogEntry} (he : c.log[m]? = some e) (he' : c.log[m']? = some e')
    (hwho : e'.who = e.who) (hm : redeeming e.op = true)
    (hm' : Mints c m' ∨ Links c m') : ¬m < m' := by
  intro hlt
  have hmem := mem_calls_take hlt he
  rw [← hwho] at hmem
  obtain ⟨job, endpoint, hjob, hroute, hallowed⟩ := allowed_of_log hc he'
  rcases hm' with ⟨f, username, host, hf, hop⟩ | ⟨f, job', call, hf, hjob', hroute', hop, hrecords⟩
  · rw [he'] at hf
    cases hf
    rw [hop] at hallowed
    obtain ⟨_, _, nonce, challenge, pubkey, identity, id, hh, _⟩ := allowed_mint hallowed
    rw [hh] at hmem
    simp only [List.mem_cons, List.not_mem_nil, or_false] at hmem
    rcases hmem with h | h | h <;>
    · have hop := congrArg Event.op h
      simp only [took, found] at hop
      rw [hop] at hm
      cases hm
  · rw [he'] at hf
    cases hf
    obtain rfl : job' = job := by simpa [hjob'] using hjob
    have hself : endpoint.administers = false := by
      rw [hroute] at hroute'
      rcases hroute' with h | h <;> cases h <;> rfl
    rw [hop] at hallowed
    obtain ⟨_, _, nonce, challenge, pubkey, reply, session, username, metadata, hh, _⟩ :=
      allowed_record hallowed hrecords hself
    rw [hh] at hmem
    simp only [List.mem_cons, List.not_mem_nil, or_false] at hmem
    rcases hmem with h | h <;>
    · have hop := congrArg Event.op h
      simp only [took, asked] at hop
      rw [hop] at hm
      cases hm

/-- The challenge of a justified call, the call that took it, and the request of both. -/
theorem redeems_of_justified {j : Nat}
    (h : MintJustified sdk c m j ∨ LinkJustified sdk c m j) :
    ∃ k challenge e e', Redeems c.log j k challenge ∧ c.log[m]? = some e ∧
      c.log[k]? = some e' ∧ e'.who = e.who ∧ redeeming e.op = true := by
  rcases h with ⟨e, job, username, host, k, challenge, pubkey, he, hop, _, _, hr, _⟩ |
    ⟨e, job, username, metadata, k, challenge, pubkey, he, hop, _, hr⟩
  · obtain ⟨e', nonce, he', hwho, _⟩ := hr.fresh
    exact ⟨k, challenge, e, e', hr.redeems, he, he', hwho, by rw [hop]; rfl⟩
  · obtain ⟨e', nonce, he', hwho, _⟩ := hr.fresh
    exact ⟨k, challenge, e, e', hr.redeems, he, he', hwho, by rcases hop with h | h <;> rw [h] <;> rfl⟩

/-- No challenge justifies two sessions, or two links, or one of each. -/
theorem justified_inj (hc : Reachable (service sdk) w c) {m' j : Nat}
    (hm : Mints c m ∨ Links c m) (hm' : Mints c m' ∨ Links c m')
    (h : MintJustified sdk c m j ∨ LinkJustified sdk c m j)
    (h' : MintJustified sdk c m' j ∨ LinkJustified sdk c m' j) : m = m' := by
  obtain ⟨k, challenge, e, f, hr, he, hf, hwho, hop⟩ := redeems_of_justified h
  obtain ⟨k', challenge', e', f', hr', he', hf', hwho', hop'⟩ := redeems_of_justified h'
  -- one challenge is taken once, so both calls belong to the request that took it
  obtain rfl := redeems_inj hc hr hr'
  obtain rfl : f = f' := by simpa [hf] using hf'
  have hsame : e'.who = e.who := hwho'.symm.trans hwho
  have hle := sole_redeeming hc he he' hsame hop hm'
  have hge := sole_redeeming hc he' he hsame.symm hop' hm
  omega

end Justified

/-- **Login soundness with injective agreement.** In every run there is a map from sessions
and links to issued challenges that justifies each of them and is injective on all of them. -/
theorem login_sound (sdk : NostrSdk) (ttl_seconds : Ttl) (mappings : MappingDb) (c : Run)
    (hc : Reachable (service sdk) (World.withoutChallenges ttl_seconds mappings) c) :
    ∃ just : Nat → Nat,
      (∀ m, Mints c m → MintJustified sdk c m (just m)) ∧
      (∀ m, Links c m → LinkJustified sdk c m (just m)) ∧
      ∀ m m', Mints c m ∨ Links c m → Mints c m' ∨ Links c m' → just m = just m' → m = m' := by
  classical
  have hw : ∀ challenge, ¬Pending (World.withoutChallenges ttl_seconds mappings) challenge :=
    fun challenge h => Table.not_mem_empty _ h
  have hboth : ∀ m, Mints c m → ¬Links c m := by
    rintro m ⟨e, username, host, he, hop⟩ ⟨e', job, call, he', _, _, hop', _⟩
    rw [he] at he'
    cases he'
    rw [hop] at hop'
    cases hop'
  have hjust : ∀ m, ∃ j, (Mints c m → MintJustified sdk c m j) ∧
      (Links c m → LinkJustified sdk c m j) := by
    intro m
    by_cases hm : Mints c m
    · obtain ⟨j, hj⟩ := mint_justified hw hc hm
      exact ⟨j, fun _ => hj, fun hl => absurd hl (hboth m hm)⟩
    · by_cases hl : Links c m
      · obtain ⟨j, hj⟩ := link_justified hw hc hl
        exact ⟨j, fun h => absurd h hm, fun _ => hj⟩
      · exact ⟨0, fun h => absurd h hm, fun h => absurd h hl⟩
  choose just hmint hlink using hjust
  refine ⟨just, hmint, hlink, fun m m' hm hm' heq => ?_⟩
  apply justified_inj hc hm hm' (hm.imp (hmint m) (hlink m))
  rw [heq]
  exact hm'.imp (hmint m') (hlink m')

/-! ## A login -/

/-- What `nostr_sdk` parses of a signed event. -/
structure SignedEvent where
  kind : Nat
  tags : List (List String)
  created_at : Nat
  author : String

/-- The SDK, where the only text it is given is that of one signed event. -/
def SignedEvent.sdk (event : SignedEvent) : NostrSdk where
  Event := SignedEvent
  from_json _ := .ok event
  verify _ := true
  kind := SignedEvent.kind
  tags := SignedEvent.tags
  created_at := SignedEvent.created_at
  author := SignedEvent.author
  to_hex _ := .error "not a public key"
  to_bech32 _ := .error "not a public key"

def aliceKey : String := "c29a61b469b2c28601ca30792aa85238390dba46e4c74c734a22cd999f2a1526"

/-- The key of another device of hers. -/
def laptopKey : String := "b49254bcc34b0ec4250dd3694658df271594d1f9bd1ca9df8d2ae3f68e474f43"

def sampleNonce : String := "Zk3v0qH8b1TfYw5nLr2JxQm7Ue9sDg4CaPoI6tKjV_E"

/-- The raw event that `sampleEvent` is parsed from; id and signature are those of the action. -/
def rawEvent (id sig action : String) : List (PyStr × Json) :=
  [("id", .str id), ("pubkey", .str aliceKey), ("created_at", .int 1767225605),
    ("kind", .int 22242),
    ("tags", .arr [.arr [.str "challenge", .str sampleNonce], .arr [.str "domain", .str "a.example"],
      .arr [.str "action", .str action]]), ("content", .str ""), ("sig", .str sig)]

def sampleEvent (action : String) : SignedEvent where
  kind := 22242
  tags := [["challenge", sampleNonce], ["domain", "a.example"], ["action", action]]
  created_at := 1767225605
  author := aliceKey

/-- The SDK on the key of `alice`, and on no other. -/
def keySdk : NostrSdk :=
  { (sampleEvent "yunohost-link").sdk with
    to_hex := fun text => if text = aliceKey then .ok text else .error "not a public key"
    to_bech32 := fun pubkey =>
      if pubkey = aliceKey then
        .ok "npub1c2dxrdrfktpgvqw2xpuj42zj8qusmwjxunr5cu62ytxen8e2z5nqtmpvgl"
      else .error "not a public key" }

def loginEvent : List (PyStr × Json) :=
  rawEvent "07adb95ce18d8045784bec15a9057b4b96da3d3af862d65bf6358320018a29cf"
    ("b1e7b4491f40f9de85239d29607765794a679ea5d87ce27f835d32215a520338" ++
      "2844a4f80d19deeda83fe0f88fdd111d183fcb9fb1d5f3fa5d9ba8b2b40363d1") "yunohost-login"

def headersOf (fields : List (String × String)) (name : String) : Option String :=
  (fields.find? fun f => f.1 == name).map Prod.snd

def challengeRequest : Request where
  method := "GET"
  path := ["challenge"]
  headers := headersOf [("host", "a.example")]
  query_params _ := none
  json := jsonBody none
  client := some "127.0.0.1"

def loginRequest (host : String) : Request where
  method := "POST"
  path := ["authenticate"]
  headers := headersOf [("host", host), ("content-type", "application/json")]
  query_params _ := none
  json := .ok (.obj [("event", .obj loginEvent)])
  client := some "127.0.0.1"

/-- One moment, in which portal-api names `alice` and the helper mints a session. -/
def sampleInput (_ : Nat) : Oracle where
  clock _ := 1767225600
  nonce := sampleNonce
  portal := .body (.obj [("username", .str "alice"), ("groups", .arr [.str "all_users"])])
  minted := .minted (.str "token") (.int 3600)
  settings := .default

def aliceDb : MappingDb :=
  ((MappingStore.link "alice" aliceKey ⟨"nip07", none, "admin"⟩).run (fun _ => 1767225000)
    MappingDb.empty none).2

def aliceLinked : World := World.withoutChallenges DEFAULT_TTL_SECONDS aliceDb

/-- A challenge is issued for `a.example`. -/
def challengeIssued : Run :=
  (service (sampleEvent "yunohost-login").sdk).after (Config.init aliceLinked) 0
    ⟨.default, challengeRequest⟩ sampleInput

/-- Then the signed event is sent to `host`. -/
def loggedIn (host : String) : Run :=
  (service (sampleEvent "yunohost-login").sdk).after challengeIssued 1
    ⟨.default, loginRequest host⟩ sampleInput

theorem challengeIssued_reachable :
    Reachable (service (sampleEvent "yunohost-login").sdk) aliceLinked challengeIssued :=
  Reachable.init.after rfl _ _

theorem loggedIn_reachable (host : String) :
    Reachable (service (sampleEvent "yunohost-login").sdk) aliceLinked (loggedIn host) :=
  challengeIssued_reachable.after rfl _ _

/-- The account and the host that a call asks a session for. -/
def sessionFor (e : LogEntry) : Option (String × String) :=
  match e.op with
  | .mint username host => some (username, host)
  | _ => none

theorem mints_of_sessionFor {c : Run} {m : Nat} {x : String × String}
    (h : c.log[m]?.bind sessionFor = some x) : Mints c m := by
  obtain ⟨e, he, hx⟩ := Option.bind_eq_some_iff.mp h
  unfold sessionFor at hx
  split at hx
  · next username host hop => exact ⟨e, username, host, he, hop⟩
  · cases hx

theorem login_sound_loggedIn : ∃ just : Nat → Nat, Mints (loggedIn "a.example") 4 ∧
    MintJustified (sampleEvent "yunohost-login").sdk (loggedIn "a.example") 4 (just 4) := by
  obtain ⟨just, hmint, _⟩ := login_sound (sampleEvent "yunohost-login").sdk DEFAULT_TTL_SECONDS
    aliceDb (loggedIn "a.example") (loggedIn_reachable "a.example")
  have hm : Mints (loggedIn "a.example") 4 :=
    mints_of_sessionFor (show _ = some ("alice", "a.example") by decide +kernel)
  exact ⟨just, hm, hmint 4 hm⟩

end Server

end NostrAuth
