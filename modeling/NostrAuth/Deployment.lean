import NostrAuth.Lib.Delegation
import NostrAuth.HostBinding
import NostrAuth.Minting

/-! The service beside the session-mint server. A login opens a connection there, and either of the
two may fail or be restarted while it waits. -/

set_option autoImplicit false

namespace NostrAuth.Deployment

open Interaction Delegation Server Sockets MintSessionServer
open Minting (MintEntry touched Apart AsksFor)

/-- What the service receives on a connection that ended so. -/
inductive Delivered : Option (Except String (Option Bytes)) → Received → Prop
  | whole {bytes : Bytes} {chunks : List Bytes} :
      Segmented chunks bytes → Delivered (some (.ok (some bytes))) (.ok chunks)
  | closed {ending : Option (Except String (Option Bytes))} :
      (∀ bytes, ending ≠ some (.ok (some bytes))) → Delivered ending (.ok [])
  | failed {ending : Option (Except String (Option Bytes))} (e : String) : Delivered ending (.error e)

/-- `mint_session` over the socket: the request is sent whole, and the reply is decoded. Peers with
another uid than that of the service connect as they like. -/
def protocol (texts : PythonTexts) (allowed_uid : Int) :
    Protocol Op Oracle String (Option Bytes) Connection where
  delegated o := ∃ username host, o = .mint username host
  opens o conn := ∃ username host, o = .mint username host ∧
    Segmented conn.chunks (Sessions.request username host)
  answers _ inp ending := ∃ received, Delivered ending received ∧
    readMinted inp.minted = Sessions.mint_session texts received
  strange conn := conn.peer_uid ≠ .ok allowed_uid

abbrev Deployed := Joint Op Op.Ans Exn Response Oracle World Job MintOp MintOp.Ans String
  (Option Bytes) MintInput SessionFolder Connection

/-- The runs of the service and of the mint server together. -/
abbrev Reachable (texts : PythonTexts) (lib : StandardLibrary) (allowed_uid : Int) (sdk : NostrSdk)
    (w : World) (start : SessionFolder) : Deployed → Prop :=
  Delegation.Reachable (service sdk) (minters texts lib allowed_uid) (protocol texts allowed_uid) w start

/-! ## Strangers -/

theorem handler_apart {python : PythonJson} {lib : StandardLibrary} {allowed_uid : Int}
    {conn : Connection} (h : conn.peer_uid ≠ .ok allowed_uid) :
    (handler python lib allowed_uid conn).Within (fun _ => True) Apart fun _ => True := by
  unfold handler
  split
  · exact ⟨fun name => by rintro ⟨⟩, fun _ _ => trivial⟩
  · next uid huid =>
    split
    · exact ⟨fun name => by rintro ⟨⟩, fun _ _ => trivial⟩
    · next heq =>
      rw [huid, not_ne_iff.mp heq] at h
      exact absurd rfl h

section Runs

variable {texts : PythonTexts} {lib : StandardLibrary} {allowed_uid : Int} {sdk : NostrSdk}
variable {w : World} {start : SessionFolder} {x : Deployed}

/-- A file is touched for a connection that the service opened. -/
theorem touched_opened (hx : Reachable texts lib allowed_uid sdk w start x) {k : Nat} {e : MintEntry}
    {name : String} (he : x.inner.log[k]? = some e) (hv : e.event = touched name) :
    ∃ p, x.opening e.who = some p := by
  have hguard := hx.inner.guarded (G := fun conn _ o => conn.peer_uid ≠ .ok allowed_uid → Apart o)
    (R := fun _ => True) (Q := fun _ _ _ => True) (fun _ _ _ => trivial) fun conn => by
      by_cases h : conn.peer_uid ≠ .ok allowed_uid
      · exact ((handler_apart h).mono (fun _ ho _ => ho) fun _ h => h).wp
      · exact ((handler texts lib allowed_uid conn).within_any.mono (fun _ _ h' => absurd h' h)
          fun _ h => h).wp
  obtain ⟨conn, hjob, hapart⟩ := hguard.log k e he
  rcases hx.kept.jobs e.who conn hjob with hstrange | hopened
  · have hop : e.op = .touch name := congrArg Event.op hv
    exact absurd hop (hapart hstrange name)
  · exact hopened

/-! ## Whom a session stands for -/

/-- The request `i` had redeemed, after `n` calls, a login challenge that was issued at `j` for this
host, with a key that was linked to this account. -/
def LoggedIn (sdk : NostrSdk) (c : Run) (i n j : Nat) (username host : String) : Prop :=
  ∃ job k challenge pubkey, endpointOf job.request = some .authenticate_endpoint ∧ k < n ∧
    Redemption sdk c i j k job LOGIN_ACTION host challenge pubkey ∧ LookedUp c i n pubkey username

theorem loggedIn_of_allowed (hw : ∀ challenge, ¬Server.Pending w challenge) {c : Run}
    (hc : Interaction.Reachable (service sdk) w c) {i n : Nat} {job : Job} {endpoint : Endpoint}
    {username host : String} (hjob : c.job i = some job)
    (hroute : endpointOf job.request = some endpoint)
    (hallowed : Allowed sdk job endpoint (calls i (c.log.take n)) (.mint username host)) :
    ∃ j, LoggedIn sdk c i n j username host := by
  obtain ⟨rfl, _, nonce, challenge, pubkey, identity, id, hh, haction, hsigned, rfl, rfl⟩ :=
    allowed_mint hallowed
  have htook : took nonce challenge ∈ calls i (c.log.take n) := by
    rw [hh]
    exact List.mem_cons_self
  have hfound : found pubkey identity ∈ calls i (c.log.take n) := by
    rw [hh]
    exact List.mem_cons_of_mem _ List.mem_cons_self
  obtain ⟨j, k, hkn, hredemption⟩ := redemption_of_took hw hc hjob htook hsigned
  obtain ⟨l, e, hln, he, hwho, hevent⟩ := exists_of_mem_calls_take hfound
  obtain ⟨_, _, _, _, hentry⟩ := hc.snapshot he
  obtain ⟨r, hr, hp, hen, rfl⟩ := found_entry (hentry ▸ hevent)
  exact ⟨j, job, k, challenge, pubkey, hroute, hkn, haction ▸ hredemption, l, e, hln, he, hwho,
    congrArg Event.op hevent, r, hr, hp, hen, rfl⟩

/-- The file was made for the login on the challenge that was issued at `j`. -/
def BackedBy (lib : StandardLibrary) (sdk : NostrSdk) (x : Deployed) (name : String) (j : Nat) : Prop :=
  ∃ (k : Nat) (e : MintEntry) (p : Opening Op) (username host token : String),
    x.inner.log[k]? = some e ∧ e.event = touched name ∧ x.opening e.who = some p ∧
    p.op = .mint username host ∧ LoggedIn sdk x.outer p.who p.since j username host ∧
    name = PortalCookie.short_hash lib username ++ token

/-- A connection that carries the request of the service asks for what the service asked. -/
theorem asks_of_opens {conn : Connection} {u h username : String} {host : Json}
    (hsent : Segmented conn.chunks (Sessions.request u h)) (hasks : AsksFor texts conn username host) :
    username = u ∧ host = .str h := by
  have hread : MintSessionServer.readRequest texts conn.chunks = .ok (.str u, .str h) :=
    mint_request_read texts hsent
  unfold AsksFor at hasks
  rw [hread] at hasks
  cases hasks
  exact ⟨rfl, rfl⟩

/-- What was known when a connection was opened. -/
theorem loggedIn_of_opening (hw : ∀ challenge, ¬Server.Pending w challenge)
    (hx : Reachable texts lib allowed_uid sdk w start x) {j : Nat} {p : Opening Op}
    (hopening : x.opening j = some p) {username host : String} (hop : p.op = .mint username host) :
    ∃ j, LoggedIn sdk x.outer p.who p.since j username host := by
  obtain ⟨job, hjob, endpoint, hroute, hallowed⟩ :=
    hx.opened_guard rely_exec (handle_spec sdk) hopening
  exact loggedIn_of_allowed hw hx.outer hjob hroute (hop ▸ hallowed)

/-- One program opens one connection: before it asks for a session it has not asked for one. -/
theorem opening_unique (hx : Reachable texts lib allowed_uid sdk w start x) {j j' : Nat}
    {p p' : Opening Op} (hp : x.opening j = some p) (hp' : x.opening j' = some p')
    (hwho : p.who = p'.who) : j = j' := by
  have hfirst : ∀ {j j' : Nat} {p p' : Opening Op}, x.opening j = some p → x.opening j' = some p' → p.who = p'.who →
      ¬WentOn (x.outer.log.take p'.since) p := by
    rintro j j' p p' hp hp' hwho ⟨m, e, _, he, hwho', hop⟩
    obtain ⟨u, h, hmint⟩ := (hx.kept.opened j p hp).delegated
    obtain ⟨u', h', hmint'⟩ := (hx.kept.opened j' p' hp').delegated
    obtain ⟨job, hjob, endpoint, hroute, hallowed⟩ := hx.opened_guard rely_exec (handle_spec sdk) hp'
    rw [hmint'] at hallowed
    obtain ⟨_, _, nonce, challenge, pubkey, identity, id, hh, _⟩ := allowed_mint hallowed
    have hmem := mem_calls_of_getElem? he
    rw [hwho', hwho, hh] at hmem
    have hevent : ∀ v ∈ [took nonce challenge, found pubkey identity,
        ⟨.mapping (.touch_identity id), .ok ()⟩], v.op ≠ .mint u h := by
      intro v hv
      simp only [List.mem_cons, List.not_mem_nil, or_false] at hv
      rcases hv with rfl | rfl | rfl <;> rintro ⟨⟩
    exact hevent _ hmem (hop.trans hmint)
  rcases hx.kept.apart j j' p p' hp hp' hwho with heq | hwent | hwent
  · exact heq
  · exact absurd hwent (hfirst hp hp' hwho)
  · exact absurd hwent (hfirst hp' hp hwho.symm)

theorem backed (hw : ∀ challenge, ¬Server.Pending w challenge)
    (hx : Reachable texts lib allowed_uid sdk w start x) {name : String} (hname : name ∈ x.inner.world)
    (hnew : name ∉ start) : ∃ j, BackedBy lib sdk x name j := by
  obtain ⟨e, he, hv⟩ := ((Minting.mem_folder hx.inner name).mp hname).resolve_left hnew
  obtain ⟨k, hk⟩ := List.mem_iff_getElem?.mp he
  obtain ⟨p, hopening⟩ := touched_opened hx hk hv
  obtain ⟨conn, hjob, username, host, hop, hsent⟩ := (hx.kept.opened _ p hopening).opens
  obtain ⟨_, conn', username', host', token, _, _, hjob', hasks, _, _, _, rfl⟩ :=
    Minting.maker hx.inner hk hv
  obtain rfl := Option.some.inj (hjob.symm.trans hjob')
  obtain ⟨rfl, _⟩ := asks_of_opens hsent hasks
  obtain ⟨j, hj⟩ := loggedIn_of_opening hw hx hopening hop
  exact ⟨j, k, e, p, username', host, token, hk, hv, hopening, hop, hj, rfl⟩

/-- One challenge is redeemed by one request, which opens one connection, which touches one file. -/
theorem backed_unique (hx : Reachable texts lib allowed_uid sdk w start x) {name name' : String}
    {j : Nat} (h : BackedBy lib sdk x name j) (h' : BackedBy lib sdk x name' j) : name = name' := by
  obtain ⟨k, e, p, _, _, _, he, hv, hopening, _, ⟨job, l, challenge, _, _, _, hr, _⟩, _⟩ := h
  obtain ⟨k', e', p', _, _, _, he', hv', hopening', _, ⟨job', l', challenge', _, _, _, hr', _⟩, _⟩ := h'
  obtain rfl := redeems_inj hx.outer hr.redeems hr'.redeems
  obtain ⟨f, _, hf, hwho, _⟩ := hr.fresh
  obtain ⟨f', _, hf', hwho', _⟩ := hr'.fresh
  obtain rfl := Option.some.inj (hf.symm.trans hf')
  have hsame : e.who = e'.who := opening_unique hx hopening hopening' (hwho.symm.trans hwho')
  have hlater : ∀ {k k' : Nat} {e e' : MintEntry} {name name' : String},
      x.inner.log[k]? = some e → x.inner.log[k']? = some e' → e.event = touched name → e'.event = touched name' → e.who = e'.who → ¬k < k' := by
    intro k k' e e' name name' he he' hv hv' hwho hlt
    have hearlier := mem_calls_take hlt he
    rw [hwho, hv] at hearlier
    exact (Minting.maker hx.inner he' hv').1 name _ hearlier
  rcases Nat.lt_trichotomy k k' with hlt | rfl | hlt
  · exact absurd hlt (hlater he he' hv hv' hsame)
  · obtain rfl := Option.some.inj (he.symm.trans he')
    cases hv.symm.trans hv'
    rfl
  · exact absurd hlt (hlater he' he hv' hv hsame.symm)

end Runs

/-- **Every session is somebody's login.** Whatever the two services, their clients and the peers of
the socket do: each file that was not in the session folder at the start is named for an account, and
was made for a request that had redeemed a login challenge with a key linked to this account; no two
files were made for one challenge. -/
theorem sessions_justified (texts : PythonTexts) (lib : StandardLibrary) (allowed_uid : Int)
    (sdk : NostrSdk) (ttl_seconds : Ttl) (mappings : MappingDb) (start : SessionFolder) (x : Deployed)
    (hx : Reachable texts lib allowed_uid sdk (World.withoutChallenges ttl_seconds mappings) start x) :
    ∃ just : String → Nat,
      (∀ name ∈ x.inner.world, name ∉ start → BackedBy lib sdk x name (just name)) ∧
      ∀ name ∈ x.inner.world, ∀ name' ∈ x.inner.world, name ∉ start → name' ∉ start →
        just name = just name' → name = name' := by
  classical
  have hw : ∀ challenge, ¬Server.Pending (World.withoutChallenges ttl_seconds mappings) challenge :=
    fun challenge h => Table.not_mem_empty _ h
  have hjust : ∀ name, ∃ j, name ∈ x.inner.world → name ∉ start → BackedBy lib sdk x name j := by
    intro name
    by_cases hname : name ∈ x.inner.world ∧ name ∉ start
    · obtain ⟨j, hj⟩ := backed hw hx hname.1 hname.2
      exact ⟨j, fun _ _ => hj⟩
    · exact ⟨0, fun h h' => absurd ⟨h, h'⟩ hname⟩
  choose just hback using hjust
  refine ⟨just, hback, fun name hname name' hname' hnew hnew' heq => ?_⟩
  exact backed_unique hx (hback name hname hnew) (heq ▸ hback name' hname' hnew')

/-! ## What a login receives -/

/-- Nothing was sent before the connection was closed. -/
theorem mint_session_closed (texts : PythonTexts) (minted : MintedSession) :
    Sessions.mint_session texts (.ok []) ≠ .ok minted := by
  have hdecode : decode [] = some "" := by decide +kernel
  have hloads : Json.loads texts.floatRepr "" = none := rfl
  have hnone : loads texts (Sessions._read_line []) =
      .error (.uncaught "JSONDecodeError" (texts.reason [])) := by
    simp only [Sessions._read_line, readLoop, loads, PythonTexts.python, PythonTexts.json_loads,
      hdecode, hloads]
    rfl
  simp only [Sessions.mint_session, hnone]
  rintro ⟨⟩

/-- A session that the service received is one that its connection minted. -/
theorem minted_of_delivered {texts : PythonTexts} {conn : Connection}
    {h : History MintOp MintOp.Ans} {ending : Option (Except String (Option Bytes))}
    (hends : ∀ end', ending = some end' → Minting.Ends texts conn h end') {received : Received}
    (hdelivered : Delivered ending received) {minted : MintedSession}
    (hread : Sessions.mint_session texts received = .ok minted) :
    ∃ (username : String) (host : Json) (created : PortalCookie.MintedSession),
      AsksFor texts conn username host ∧ Minting.Issued username host h created ∧
      minted = ⟨"yunohost.portal", .str created.token, .int created.max_age⟩ := by
  cases hdelivered with
  | @whole bytes chunks hsegmented =>
    have hend := hends _ rfl
    generalize hanswer : (Except.ok (some bytes) : Except String (Option Bytes)) = answer at hend
    cases hend with
    | failed hfailed _ =>
      cases hanswer
      rcases hfailed with hnone | ⟨message, hbytes⟩
      · cases hnone
      · cases hbytes
        rw [mint_failure_read texts message hsegmented] at hread
        cases hread
    | @minted username host created hasks hissued =>
      cases hanswer
      rw [mint_reply_read texts created hsegmented] at hread
      exact ⟨username, host, created, hasks, hissued, (Except.ok.inj hread).symm⟩
  | closed _ => exact absurd hread (mint_session_closed texts minted)
  | failed e => cases hread

/-- The file was touched on the connection of the request `i`. -/
def TouchedFor (x : Deployed) (i : Nat) (name : String) : Prop :=
  ∃ (k : Nat) (e : MintEntry) (p : Opening Op), x.inner.log[k]? = some e ∧ e.event = touched name ∧
    x.opening e.who = some p ∧ p.who = i

/-- The response sets the cookie of a session that was made for the request, for the account and the
host of its login, and whose file is in the folder. -/
def SetsSession (payload : String → Option Json) (sdk : NostrSdk) (start : SessionFolder) (x : Deployed)
    (i : Nat) (job : Job) (response : Response) (session_id : String) : Prop :=
  session_id ∈ x.inner.world ∧ session_id ∉ start ∧ TouchedFor x i session_id ∧
    ∃ (username host token : String) (max_age : Int) (n j : Nat),
      LoggedIn sdk x.outer i n j username host ∧
      response.cookie =
        some (sessionCookie job.request ⟨"yunohost.portal", .str token, .int max_age⟩) ∧
      Minting.Carries payload token "id" (.str session_id) ∧
      Minting.Carries payload token "user" (.str username) ∧
      Minting.Carries payload token "host" (.str host)

section Logins

variable {texts : PythonTexts} {lib : StandardLibrary} {allowed_uid : Int} {sdk : NostrSdk}
variable {w : World} {start : SessionFolder} {x : Deployed}

/-- A session is fresh, so that no two connections touch one file. -/
theorem touchedFor_unique (hlength : ∀ u, (PortalCookie.short_hash lib u).length = 40)
    (hx : Reachable texts lib allowed_uid sdk w start x)
    (hfresh : Minting.Fresh lib start x.inner.log) {i i' : Nat} {name : String}
    (h : TouchedFor x i name) (h' : TouchedFor x i' name) : i = i' := by
  obtain ⟨k, e, p, he, hv, hopening, rfl⟩ := h
  obtain ⟨k', e', p', he', hv', hopening', rfl⟩ := h'
  have hlater : ∀ {k k' : Nat} {e e' : MintEntry}, x.inner.log[k]? = some e →
      x.inner.log[k']? = some e' → e.event = touched name → e'.event = touched name → ¬k < k' := by
    intro k k' e e' he he' hv hv' hlt
    obtain ⟨c, hc, hlog, hworld, _⟩ := hx.inner.snapshot he'
    refine Minting.touched_new hlength hx.inner hfresh he' hv' ?_
    rw [← hworld, Minting.mem_folder hc, hlog]
    refine Or.inr ⟨e, List.mem_of_getElem? (i := k) ?_, hv⟩
    rw [List.getElem?_take, if_pos hlt, he]
  rcases Nat.lt_trichotomy k k' with hlt | rfl | hlt
  · exact absurd hlt (hlater he he' hv hv')
  · obtain rfl := Option.some.inj (he.symm.trans he')
    rw [Option.some.inj (hopening.symm.trans hopening')]
  · exact absurd hlt (hlater he' he hv' hv)

theorem sets_session {payload : String → Option Json}
    (hw : ∀ challenge, ¬Server.Pending w challenge)
    (hx : Reachable texts lib allowed_uid sdk w start x)
    (hfresh : Minting.Fresh lib start x.inner.log) (hdecodes : Minting.Decodes payload x.inner.log)
    {i : Nat} {job : Job} {response : Response} (hjob : x.outer.job i = some job)
    (hrun : x.outer.running i = some (.ret response))
    (hroute : endpointOf job.request = some .authenticate_endpoint)
    (hstatus : response.status_code = 200) :
    ∃ session_id, SetsSession payload sdk start x i job response session_id := by
  obtain ⟨_, nonce, challenge, pubkey, username, token, max_age, _, _, hmint, hcookie⟩ :=
    answered_ok hx.outer hjob hrun hroute hstatus
  obtain ⟨m, e, he, rfl, hevent⟩ := exists_of_mem_calls hmint
  have hop : e.op = .mint username challenge.domain := congrArg Event.op hevent
  have hinput : e.input.minted = .minted token max_age :=
    congrArg Prod.fst (hx.outer.exec_of_event he hevent)
  have hanswered := hx.answered (fun _ _ _ => trivial) (fun _ => Minting.handler_ends allowed_uid) he
    ⟨_, _, hop⟩
  have hread : readMinted e.input.minted = .ok ⟨"yunohost.portal", token, max_age⟩ := by
    rw [hinput]
    rfl
  rcases hanswered with ⟨received, hdelivered, hsame⟩ |
    ⟨j, p, ending, hopening, hwho, hop', _, ⟨received, hdelivered, hsame⟩, n, _, conn, hconn, hends⟩
  · -- without an end nothing is received
    have hnothing : ∀ end', none = some end' → Minting.Ends texts ⟨.ok allowed_uid, []⟩ [] end' := by
      intro _ h
      cases h
    obtain ⟨_, _, _, _, ⟨_, _, _, _, _, hnil, _⟩, _⟩ :=
      minted_of_delivered hnothing hdelivered (hsame.symm.trans hread)
    simp at hnil
  · obtain ⟨username', host, created, hasks, hissued, hcreated⟩ :=
      minted_of_delivered (fun end' h => Option.some.inj h ▸ hends) hdelivered
        (hsame.symm.trans hread)
    cases hcreated
    obtain ⟨conn', hconn', u, d, hasked, hsent⟩ := (hx.kept.opened j p hopening).opens
    obtain rfl := Option.some.inj (hconn.symm.trans hconn')
    cases hasked.symm.trans (hop'.trans hop)
    obtain ⟨rfl, rfl⟩ := asks_of_opens hsent hasks
    obtain ⟨issued_at, hlogged⟩ := loggedIn_of_opening hw hx hopening (hop'.trans hop)
    obtain ⟨earlier, pwd, email, fullname, secret, hcalls, _, hencoded⟩ := hissued
    have hlast : touched created.session_id ∈ calls j (x.inner.log.take n) := by
      rw [hcalls]
      exact List.mem_append_right _ List.mem_cons_self
    obtain ⟨k, t, _, ht, rfl, hv⟩ := exists_of_mem_calls_take hlast
    obtain ⟨_, _, _, _, token, l, drawn, _, _, hl, _, hdrawn, hname⟩ := Minting.maker hx.inner ht hv
    obtain ⟨l', encoder, _, hl', _, hencoder⟩ :=
      exists_of_mem_calls_take (hcalls ▸ List.mem_append_left _ hencoded)
    have hpayload := hdecodes encoder (List.mem_of_getElem? hl') _ _ _ hencoder
    refine ⟨created.session_id, ?_, ?_, ⟨k, t, p, ht, hv, hopening, hwho⟩, username',
      challenge.domain,
      created.token, created.max_age, p.since, issued_at, hwho ▸ hlogged, hcookie,
      ⟨_, hpayload, rfl⟩, ⟨_, hpayload, rfl⟩, ⟨_, hpayload, rfl⟩⟩
    · exact (Minting.mem_folder hx.inner _).mpr (Or.inr ⟨t, List.mem_of_getElem? ht, hv⟩)
    · rw [hname]
      exact hfresh.unused l drawn token hl hdrawn _

end Logins

/-- The request was answered as a login. -/
def LetIn (x : Deployed) (i : Nat) (job : Job) (response : Response) : Prop :=
  x.outer.job i = some job ∧ x.outer.running i = some (.ret response) ∧
    endpointOf job.request = some .authenticate_endpoint ∧ response.status_code = 200

/-- **Every login has a session of its own.** Where tokens are drawn at random, each request that was
answered 200 set the cookie of a new session, with its file in the folder, for the account and the
host of its login; no two requests were given the same one. -/
theorem logins_have_sessions (texts : PythonTexts) (lib : StandardLibrary) (allowed_uid : Int)
    (sdk : NostrSdk) (ttl_seconds : Ttl) (mappings : MappingDb) (start : SessionFolder) (x : Deployed)
    (payload : String → Option Json) (hlength : ∀ u, (PortalCookie.short_hash lib u).length = 40)
    (hx : Reachable texts lib allowed_uid sdk (World.withoutChallenges ttl_seconds mappings) start x)
    (hfresh : Minting.Fresh lib start x.inner.log) (hdecodes : Minting.Decodes payload x.inner.log) :
    ∃ session : Nat → String,
      (∀ i job response, LetIn x i job response →
        SetsSession payload sdk start x i job response (session i)) ∧
      ∀ i i' job job' response response', LetIn x i job response → LetIn x i' job' response' →
        session i = session i' → i = i' := by
  classical
  have hw : ∀ challenge, ¬Server.Pending (World.withoutChallenges ttl_seconds mappings) challenge :=
    fun challenge h => Table.not_mem_empty _ h
  have hsets : ∀ i, ∃ session_id, ∀ job response, LetIn x i job response →
      SetsSession payload sdk start x i job response session_id := by
    intro i
    by_cases hi : ∃ job response, LetIn x i job response
    · obtain ⟨job, response, hjob, hrun, hroute, hstatus⟩ := hi
      obtain ⟨session_id, hsession⟩ := sets_session hw hx hfresh hdecodes hjob hrun hroute hstatus
      refine ⟨session_id, fun job' response' h => ?_⟩
      obtain rfl := Option.some.inj (hjob.symm.trans h.1)
      cases hrun.symm.trans h.2.1
      exact hsession
    · exact ⟨"", fun job response h => absurd ⟨job, response, h⟩ hi⟩
  choose session hsession using hsets
  refine ⟨session, hsession, fun i i' job job' response response' h h' heq => ?_⟩
  exact touchedFor_unique hlength hx hfresh (hsession i job response h).2.2.1
    (heq ▸ (hsession i' job' response' h').2.2.1)

/-! ## A login of `alice` -/

instance (texts : PythonTexts) (allowed_uid : Int) : DecidablePred (protocol texts allowed_uid).delegated
  | .mint username host => isTrue ⟨username, host, rfl⟩
  | .issue .. | .consume .. | .me .. | .mapping .. | .log .. => isFalse (by rintro ⟨_, _, ⟨⟩⟩)

section Alice

open Minting (sampleTexts twoUsers mattSession aliceSession aliceToken aliceInput)

abbrev aliceSdk : NostrSdk := (sampleEvent "yunohost-login").sdk

/-- A challenge is issued, and its login comes to the point of asking for a session. -/
def asking : Deployed :=
  play (service aliceSdk) (protocol sampleTexts 1000) (Joint.init aliceLinked {mattSession})
    ([.arrive 0 ⟨.default, challengeRequest⟩] ++ List.replicate 3 (.call 0 (sampleInput 0)) ++
      [.arrive 1 ⟨.default, loginRequest "a.example"⟩] ++ List.replicate 9 (.call 1 (sampleInput 0)))

theorem asking_reachable :
    Reachable sampleTexts twoUsers 1000 aliceSdk aliceLinked {mattSession} asking :=
  Delegation.Reachable.play .refl _

def askedFor (c : Run) (i : Nat) : Option (String × String) :=
  match c.running i with
  | some (.call (.mint username host) _) => some (username, host)
  | _ => none

theorem running_of_askedFor {c : Run} {i : Nat} {username host : String}
    (h : askedFor c i = some (username, host)) :
    ∃ k, c.running i = some (.call (.mint username host) k) := by
  unfold askedFor at h
  split at h
  · next k hk =>
    cases h
    exact ⟨k, hk⟩
  · cases h

theorem asking_asks : askedFor asking.outer 1 = some ("alice", "a.example") := by decide +kernel

def connection : Connection := ⟨.ok 1000, [Sessions.request "alice" "a.example"]⟩

theorem connection_whole : Segmented connection.chunks (Sessions.request "alice" "a.example") :=
  ⟨by simp [connection, Sessions.request, line], by simp [connection]⟩

/-- What the server runs for the connection. -/
def aliceProgram : Minter (Option Bytes) :=
  (mintFor twoUsers (.str "alice") (.str "a.example")).attempt.bind
    (conclude (.str "alice") (.str "a.example"))

theorem program_connection :
    (minters sampleTexts twoUsers 1000).program connection = aliceProgram := by
  have hread : readRequest sampleTexts connection.chunks = .ok (.str "alice", .str "a.example") :=
    mint_request_read sampleTexts connection_whole
  simp only [minters, handler, hread]
  rfl

def connected : Deployed :=
  { asking with
    inner := arrived (minters sampleTexts twoUsers 1000) asking.inner 0 connection
    waiting := Function.update asking.waiting 1 (some 0)
    opening := Function.update asking.opening 0
      (some ⟨1, .mint "alice" "a.example", asking.outer.log.length⟩) }

/-- The server has minted the session, and the service waits for the reply. -/
def minted : Deployed :=
  { connected with
    inner := served (minters sampleTexts twoUsers 1000) connected.inner 0 aliceProgram
      fun _ => aliceInput }

theorem minted_reachable :
    Reachable sampleTexts twoUsers 1000 aliceSdk aliceLinked {mattSession} minted := by
  obtain ⟨k, hk⟩ := running_of_askedFor asking_asks
  have hwaits : asking.waiting 1 = none := by decide +kernel
  have hjob : asking.inner.job 0 = none := rfl
  have hconnected : Reachable sampleTexts twoUsers 1000 aliceSdk aliceLinked {mattSession} connected :=
    asking_reachable.tail (.opens 1 0 _ k connection hk ⟨_, _, rfl⟩ hwaits hjob
      ⟨_, _, rfl, connection_whole⟩)
  refine hconnected.served (fun _ => aliceInput) ?_
  rw [← program_connection]
  exact Function.update_self (0 : Nat) _ asking.inner.running

theorem sessions_justified_minted : ∃ just : String → Nat,
    BackedBy twoUsers aliceSdk minted aliceSession (just aliceSession) := by
  have hworld : minted.inner.world = {aliceSession, mattSession} := rfl
  obtain ⟨just, hback, _⟩ := sessions_justified sampleTexts twoUsers 1000 aliceSdk
    DEFAULT_TTL_SECONDS aliceDb {mattSession} minted minted_reachable
  refine ⟨just, hback aliceSession ?_ ?_⟩
  · rw [hworld]
    simp
  · decide

def letIn : Deployed :=
  play (service aliceSdk) (protocol sampleTexts 1000)
    (goOn (service aliceSdk) minted 1
      { sampleInput 0 with minted := .minted (.str aliceToken) (.int 258600) })
    (List.replicate 3 (.call 1 (sampleInput 0)))

def hostClaims : Json :=
  PortalCookie.claims aliceSession (.str "a.example") (.str "alice")
    "WRLwRVyugY5f2xfL3IhpdA==|B8khXpYMWPE/sgV35i6rCQ==" "alice@example.org" "Alice Example"

/-- The calls of the connection, the third a draw, the last the touch. -/
def connectionEvents : List MintEvent :=
  [.search (.str "alice"), .read_text, .token_hex 10, .aes (encode "0123456789abcdef0123456789abcdef"),
    .urandom 16, .encrypt (encode "0123456789abcdef0123456789abcdef") Minting.aliceIv PortalCookie.padded,
    .jwt_encode hostClaims "0123456789abcdef0123456789abcdef", .touch aliceSession].map
      fun o => ⟨o, aliceInput o⟩

theorem connection_event {k : Nat} {e : MintEntry} (he : letIn.inner.log[k]? = some e) :
    connectionEvents[k]? = some e.event := by
  have hinner : letIn.inner = minted.inner := (play_inner ..).trans (goOn_inner ..)
  have hevents : minted.inner.log.map Entry.event = connectionEvents := rfl
  rw [hinner] at he
  rw [← hevents, List.getElem?_map, he]
  rfl

theorem letIn_drew {k : Nat} {e : MintEntry} {token : String} (he : letIn.inner.log[k]? = some e)
    (hv : e.event = Minting.drew token) : k = 2 ∧ token = "3fa90c51d27e6b84a1f0" := by
  have hevent := connection_event he
  rw [hv] at hevent
  rcases k with _ | _ | _ | _ | _ | _ | _ | _ | k <;> cases hevent
  exact ⟨rfl, rfl⟩

theorem letIn_fresh : Minting.Fresh twoUsers {mattSession} letIn.inner.log where
  once m m' e e' token hm hm' hdrew hdrew' := by
    obtain ⟨rfl, -⟩ := letIn_drew hm hdrew
    obtain ⟨rfl, -⟩ := letIn_drew hm' hdrew'
    rfl
  unused m e token hm hdrew u hmem := by
    obtain ⟨-, rfl⟩ := letIn_drew hm hdrew
    have hname : mattSession = PortalCookie.short_hash twoUsers "matt" ++ "c07d5e1b93a8f2640d7b" := by
      rw [Minting.hash_matt]
      rfl
    have htoken := Minting.token_unique Minting.hash_length (hname ▸ Finset.mem_singleton.mp hmem)
    exact absurd htoken (by decide)

theorem letIn_decodes :
    Minting.Decodes (fun token => if token = aliceToken then some hostClaims else none)
      letIn.inner.log := by
  intro e he claims secret token hv
  obtain ⟨k, hk⟩ := List.mem_iff_getElem?.mp he
  have hevent := connection_event hk
  rw [hv] at hevent
  rcases k with _ | _ | _ | _ | _ | _ | _ | _ | k <;> cases hevent
  exact if_pos rfl

theorem letIn_reachable :
    Reachable sampleTexts twoUsers 1000 aliceSdk aliceLinked {mattSession} letIn := by
  have hwaits : minted.waiting 1 = some 0 := rfl
  have hending : ending minted.inner 0 =
      some (.ok (some (reply (.ok ⟨aliceToken, aliceSession, 258600⟩)))) := rfl
  have hsegmented : Segmented [reply (.ok ⟨aliceToken, aliceSession, 258600⟩)]
      (reply (.ok ⟨aliceToken, aliceSession, 258600⟩)) :=
    ⟨by simp [reply, line], by simp⟩
  apply Delegation.Reachable.play
  refine minted_reachable.goOn hwaits fun o => ?_
  rw [hending]
  exact ⟨_, .whole hsegmented, (mint_reply_read sampleTexts _ hsegmented).symm⟩

theorem logins_have_sessions_letIn : ∃ response session_id,
    LetIn letIn 1 ⟨.default, loginRequest "a.example"⟩ response ∧
    SetsSession (fun token => if token = aliceToken then some hostClaims else none) aliceSdk
      {mattSession} letIn 1 ⟨.default, loginRequest "a.example"⟩ response session_id := by
  obtain ⟨session, hsession, _⟩ := logins_have_sessions sampleTexts twoUsers 1000 aliceSdk
    DEFAULT_TTL_SECONDS aliceDb {mattSession} letIn
    (fun token => if token = aliceToken then some hostClaims else none) Minting.hash_length
    letIn_reachable letIn_fresh letIn_decodes
  have hstatus : Server.statusOf letIn.outer 1 = some 200 := by decide +kernel
  obtain ⟨response, hrun, hcode⟩ := Server.response_of_statusOf hstatus
  have hletIn : LetIn letIn 1 ⟨.default, loginRequest "a.example"⟩ response :=
    ⟨rfl, hrun, rfl, hcode⟩
  exact ⟨response, session 1, hletIn, hsession 1 _ _ hletIn⟩

end Alice

end NostrAuth.Deployment
