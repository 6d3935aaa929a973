import NostrAuth.LoginServed
import NostrAuth.Revocation
import NostrAuth.WellFormedRows

/-! Taking a revocation back: what the three ways of adding a pubkey do where its row is still there,
disabled. -/

set_option autoImplicit false

namespace NostrAuth.Relinking

open Interaction Prog Server AdminCli MappingDb MappingStore PortalClient

/-- The pubkey is an enabled identity of the account again, next to all its other rows. -/
structure Readded (before after : MappingDb) (u p : String) : Prop where
  enabled : ∀ t, ∃ identity, ((get_by_pubkey p).run t after none).1 = .ok (some identity) ∧
    identity.ynh_username = u ∧ identity.enabled = true
  others : ∀ r : IdentityRow, r.ynh_username = u → r.pubkey ≠ p → (r ∈ after ↔ r ∈ before)

/-! ## The three ways -/

/-- A request to `/identities/link` that is in order: a browser logged in as `u` redeems a linking
challenge with an event that the key `p` signed. -/
structure PageAdds (sdk : NostrSdk) (job : Job) (w : World) (inp : Nat → Oracle) (u p : String) :
    Prop where
  route : endpointOf job.request = some .add_identity_endpoint
  media : mediaType job.request = "application/json"
  switch : job.settings.allow_identity_linking = true
  metadata : ∃ body metadata, job.request.json = .ok body ∧ _identity_metadata body = .ret metadata
  cookie : ¬NoCookie job.request
  challenge : ∃ challenge, Presents sdk job challenge p ∧ challenge.action = LINK_ACTION ∧
    Server.Pending w challenge ∧ (inp 0).clock 0 ≤ challenge.expires_at
  session : ∃ session, readSession (inp 1).portal = .ok session ∧ session.username = .text u

/-- A request of an administrator to add `p` to the account `u`, without replacing. -/
structure AdminAdds (sdk : NostrSdk) (job : Job) (inp : Nat → Oracle) (u p : String) : Prop where
  route : endpointOf job.request = some .admin_add_identity_endpoint
  media : mediaType job.request = "application/json"
  cookie : ¬NoCookie job.request
  session : ∃ session, readSession (inp 0).portal = .ok session ∧ session.is_admin = true
  body : ∃ body metadata replace, job.request.json = .ok body ∧ _admin_target body = .ret u ∧
    adminPubkey sdk body = .ret p ∧ _identity_metadata body = .ret metadata ∧
    getField body "replace" = .ret replace ∧ (replace.getD (.bool false)).truthy = false

/-- Adding `p` to the account `u`, as a request or as a command. -/
inductive Adds (sdk : NostrSdk) (w : World) (inp : Nat → Oracle) (u p : String) :
    Job ⊕ Command → Prop
  | page (job : Job) (h : PageAdds sdk job w inp u p) : Adds sdk w inp u p (.inl job)
  | admin (job : Job) (h : AdminAdds sdk job inp u p) : Adds sdk w inp u p (.inl job)
  | command (pubkey_or_npub : String) (signer_type label : Option String) (hu : u ≠ "")
    (hkey : pubkey_or_npub ≠ "") (hsigner : signer_type.getD "unknown" ∈ signerTypes)
    (hp : Npub.parse_to_hex sdk pubkey_or_npub = .ok p) :
    Adds sdk w inp u p (.inr (.link u pubkey_or_npub true signer_type label))

/-- How the job ends, and the world it leaves, where nothing else runs. -/
def served (sdk : NostrSdk) (job : Job ⊕ Command) (inp : Nat → Oracle) (w : World) :
    Except Exn (Response ⊕ Int) × World :=
  (((system sdk).program job).runAlone (system sdk).exec inp w).2

/-- The job is turned down: 401 for a page, 409 for an administrator, exit code 1 for a command. -/
def TurnedDown : Except Exn (Response ⊕ Int) → Prop
  | .ok (.inl response) => response.status_code = 401 ∨ response.status_code = 409
  | .ok (.inr exit_code) => exit_code = 1
  | .error _ => False

/-! ## The store refuses -/

section Refused

variable {sdk : NostrSdk} {w : World} {inp : Nat → Oracle} {u p : String}

theorem exec_add_taken (hp : ∃ r ∈ w.mappings, r.pubkey = p) (u : String)
    (metadata : MappingStore.Metadata) (o : Oracle) : ∃ message,
      NostrAuth.exec (.mapping (.add_identity u p metadata)) o w =
        (.error (.pubkeyAlreadyLinked message), w) := by
  obtain ⟨message, hraise⟩ := MappingOwnership.add_taken (u := u) o.clock metadata hp
  exact ⟨message, exec_raises hraise⟩

/-- The pubkey is looked up before a text is bound that SQLite cannot encode. -/
theorem exec_unencodable_taken (hp : ∃ r ∈ w.mappings, r.pubkey = p) (u : PyStr) (text : LoneText)
    (o : Oracle) : ∃ message, NostrAuth.exec (.mapping (.link_unencodable false u p text)) o w =
      (.error (.pubkeyAlreadyLinked message), w) := by
  obtain ⟨r, hr, hkey⟩ := hp
  have howner : ownerOf p w.mappings = some r.ynh_username := ownerOf_eq_some.mpr ⟨r, hr, hkey, rfl⟩
  have hcheck : ∃ message, checkText false u (some r.ynh_username) =
      .error (.pubkeyAlreadyLinked message) := by
    cases u with
    | lone t => exact ⟨_, rfl⟩
    | text u =>
      simp only [checkText, checkAny, Bool.false_eq_true, if_false]
      split
      · exact ⟨_, rfl⟩
      · exact ⟨_, rfl⟩
  obtain ⟨message, hcheck⟩ := hcheck
  refine ⟨message, exec_raises ?_⟩
  simp only [MappingCall.alone_eq, MappingCall.method, run_linkUnencodable, howner, hcheck, Except.map]

variable (inp) in
/-- The call that records, whatever the texts are. -/
theorem rowTexts_refused {β : Type} (hp : ∃ r ∈ w.mappings, r.pubkey = p) (u : PyStr)
    (label : Option PyStr) {f : String × Option String → Handler β}
    (hf : ∀ u l, ∃ message, ((f (u, l)).runAlone NostrAuth.exec inp w).2 =
      (.error (.pubkeyAlreadyLinked message), w)) : ∃ message,
      (((Handler.rowTexts false u p label).bind f).runAlone NostrAuth.exec inp w).2 =
        (.error (.pubkeyAlreadyLinked message), w) := by
  rcases Handler.rowTexts_cases false u p label with ⟨u, l, rfl, rfl, hret⟩ | ⟨-, text, hcall⟩
  · rw [hret, ret_bind]
    exact hf u l
  · obtain ⟨message, hrefused⟩ := exec_unencodable_taken hp u text (inp 0)
    refine ⟨message, ?_⟩
    rw [hcall]
    simp only [Handler.mappings, call_bind, runAlone_call, hrefused, ofExcept_error, raise_bind]
    rfl

variable (inp) in
/-- `confirm_and_link` where the store refuses to add the key. -/
theorem confirm_refused {challenge : Challenge} {event_json : String} {skew : Int}
    {session : AuthenticatedSession} (haction : challenge.action = LINK_ACTION)
    (hsession : readSession (inp 0).portal = .ok session)
    (hverify : Login.verifyAgainst sdk challenge event_json skew = .ok p)
    (hp : ∃ r ∈ w.mappings, r.pubkey = p) (cookie_header host base_url signer_type : String)
    (label : Option PyStr) : ∃ message,
      ((Linking.confirm_and_link sdk false cookie_header host (some challenge) event_json base_url skew
        signer_type label).runAlone NostrAuth.exec inp w).2 = (.error (.linkingError message), w) := by
  have hrecord : ∃ message, ((Linking.recordTexts false session.username p signer_type label).runAlone
      NostrAuth.exec (fun n => inp (n + 1)) w).2 = (.error (.pubkeyAlreadyLinked message), w) := by
    apply rowTexts_refused (fun n => inp (n + 1)) hp
    intro u l
    obtain ⟨message, hadd⟩ := exec_add_taken hp u { signer_type := signer_type, label := l } (inp 1)
    refine ⟨message, ?_⟩
    simp only [Linking.record, Handler.mappings, Prog.bind_eq, call_bind, runAlone_call, hadd,
      ofExcept_error, raise_bind, Bool.false_eq_true, if_false, Nat.zero_add]
    rfl
  obtain ⟨message, hrecord⟩ := hrecord
  have hask : NostrAuth.exec (.me cookie_header host base_url) (inp 0) w = ((inp 0).portal, w) := rfl
  have hok : ¬challenge.action ≠ Linking.LINK_ACTION := not_not.mpr haction
  refine ⟨message, ?_⟩
  simp only [Linking.confirm_and_link, if_neg hok, Linking.currentUser, get_authenticated_username,
    get_authenticated_session, Prog.bind_eq, call_bind, attempt_call, runAlone_call, hask, hsession,
    ofExcept_ok, ret_bind, attempt_ret, Prog.pure_eq, hverify]
  exact runAlone_attempt_bind hrecord

/-- The request of a page takes its challenge and is turned down. -/
theorem page_refused {job : Job} (h : PageAdds sdk job w inp u p)
    (hp : ∃ r ∈ w.mappings, r.pubkey = p) : ∃ message challenges,
      ((handle sdk job).runAlone NostrAuth.exec inp w).2 =
        (.ok (answer (.error (.apiError 401 message))), { w with challenges := challenges }) := by
  obtain ⟨body, metadata, hjson, hmetadata⟩ := h.metadata
  obtain ⟨challenge, hpresents, haction, hpending, hfresh⟩ := h.challenge
  obtain ⟨event, nonce, hevent, hnamed, htruthy, hbound, hverify⟩ := hpresents
  obtain ⟨session, hsession, _⟩ := h.session
  have hchecks := linkChecks_ok h.media h.switch hevent hjson hmetadata h.cookie
  have htake : (consumeNamed event).runAlone NostrAuth.exec inp w =
      ([⟨.consume nonce, .ok (some challenge)⟩], .ok (some challenge),
        (NostrAuth.exec (.consume nonce) (inp 0) w).2) := by
    simp only [consumeNamed, hnamed, if_pos htruthy, Handler.consume, runAlone_call,
      exec_consume hbound hpending hfresh, ofExcept_ok, runAlone]
  obtain ⟨message, hconfirm⟩ := confirm_refused (w := (NostrAuth.exec (.consume nonce) (inp 0) w).2)
    (fun n => inp (n + 1)) haction hsession hverify hp (orElse (job.request.headers "cookie") "")
    (hostOf job.request) job.settings.portal_api_base_url metadata.1 metadata.2
  have hredeem : ((add_identity_endpoint sdk job.settings job.request).runAlone NostrAuth.exec inp w).2 =
      (.error (.apiError 401 message), (NostrAuth.exec (.consume nonce) (inp 0) w).2) := by
    rw [add_identity_endpoint, redeemLink_stages, hchecks, ret_bind, redeem, Prog.bind_eq,
      runAlone_bind_ok htake, Prog.bind_eq]
    exact runAlone_attempt_bind hconfirm
  refine ⟨message, (NostrAuth.exec (.consume nonce) (inp 0) w).2.challenges, ?_⟩
  rw [handle, h.route]
  exact runAlone_attempt_bind hredeem

/-- The request of an administrator is turned down. -/
theorem admin_refused {job : Job} (h : AdminAdds sdk job inp u p) (hp : ∃ r ∈ w.mappings, r.pubkey = p) :
    ∃ message, ((handle sdk job).runAlone NostrAuth.exec inp w).2 =
      (.ok (answer (.error (.apiError 409 message))), w) := by
  obtain ⟨body, metadata, replace, hjson, htarget, hpubkey, hmetadata, hreplace, hkeep⟩ := h.body
  obtain ⟨session, hsession, hadmin⟩ := h.session
  have hrecord : ∃ message, ((adminRecordTexts false u p metadata.1 metadata.2).runAlone
      NostrAuth.exec (fun n => inp (n + 1)) w).2 = (.error (.pubkeyAlreadyLinked message), w) := by
    apply rowTexts_refused (fun n => inp (n + 1)) hp
    intro u l
    obtain ⟨message, hadd⟩ := exec_add_taken hp u ⟨metadata.1, l, "admin"⟩ (inp 1)
    refine ⟨message, ?_⟩
    simp only [adminRecord, Handler.mappings, Prog.bind_eq, call_bind, runAlone_call, hadd,
      ofExcept_error, raise_bind, Bool.false_eq_true, if_false, Nat.zero_add]
    rfl
  obtain ⟨message, hrecord⟩ := hrecord
  have hcookie : requireCookie job.request = .ret (orElse (job.request.headers "cookie") "") :=
    if_neg h.cookie
  have hask : ∀ cookie, NostrAuth.exec (.me cookie (hostOf job.request) job.settings.portal_api_base_url)
      (inp 0) w = ((inp 0).portal, w) := fun _ => rfl
  have hrefused : ((admin_add_identity_endpoint sdk job.settings job.request).runAlone NostrAuth.exec
      inp w).2 = (.error (.apiError 409 message), w) := by
    simp only [admin_add_identity_endpoint, _require_json, Prog.ensure, h.media, _authenticated_admin,
      hcookie, get_authenticated_session, readJson, hjson, htarget, hpubkey, hmetadata, hreplace,
      hkeep, Prog.bind_eq, ret_bind, call_bind, attempt_call, runAlone_call, hask, hsession,
      hadmin, ofExcept_ok, attempt_ret, Prog.pure_eq, if_true]
    exact runAlone_attempt_bind hrecord
  refine ⟨message, ?_⟩
  rw [handle, h.route]
  exact runAlone_attempt_bind hrefused

/-- Opening the store keeps every row. -/
theorem mem_opened {a : IdentityRow} (ha : a ∈ w.mappings) (o : Oracle) :
    a ∈ (AdminCli.exec .open_store o w).2.mappings := by
  show a ∈ (init.run o.clock w.mappings none).2
  rw [run_init]
  split
  · exact ha
  · exact mem_copyUsers_of_mem _ ha

variable (inp) in
/-- The command opens the store and is turned down. -/
theorem command_refused {pubkey_or_npub : String} {signer_type : Option String}
    (label : Option String) (hu : u ≠ "")
    (hkey : pubkey_or_npub ≠ "") (hsigner : signer_type.getD "unknown" ∈ signerTypes)
    (hparse : Npub.parse_to_hex sdk pubkey_or_npub = .ok p) (hp : ∃ r ∈ w.mappings, r.pubkey = p) :
    ((main sdk (.link u pubkey_or_npub true signer_type label)).runAlone AdminCli.exec inp w).2 =
      (.ok 1, (AdminCli.exec .open_store (inp 0) w).2) := by
  obtain ⟨r, hr, hkept⟩ := hp
  obtain ⟨message, hadd⟩ := exec_add_taken (w := (AdminCli.exec .open_store (inp 0) w).2)
    ⟨r, mem_opened hr (inp 0), hkept⟩ u ⟨signer_type.getD "unknown", storedLabel label, "admin"⟩ (inp 1)
  have hcall : ∀ world, AdminCli.exec (.mapping (.add_identity u p
      ⟨signer_type.getD "unknown", storedLabel label, "admin"⟩)) (inp 1) world =
        NostrAuth.exec (.mapping (.add_identity u p
          ⟨signer_type.getD "unknown", storedLabel label, "admin"⟩)) (inp 1) world := fun _ => rfl
  simp only [main, if_pos hsigner, withStore, _link, if_neg hu, if_neg hkey, hparse, AdminCli.record,
    if_true, AdminCli.mappings, Prog.bind_eq, call_bind, attempt_call, runAlone_call, hcall, hadd,
    ofExcept_error, raise_bind, attempt_raise, ret_bind, Nat.zero_add]
  rfl

end Refused

theorem not_readded {before after : MappingDb} {u : String} {a : IdentityRow} (ha : a ∈ after)
    (hoff : a.enabled ≠ 1) : ¬Readded before after u a.pubkey := by
  intro h
  obtain ⟨identity, hfound, _⟩ := h.enabled fun _ => 0
  have hnone : ∀ r ∈ after, r.pubkey = a.pubkey → r.enabled ≠ 1 := by
    intro r hr hp
    rw [Serial.eq_of_key hr ha hp]
    exact hoff
  rw [run_get_by_pubkey, find_pubkey_eq_none.mpr hnone] at hfound
  cases hfound

/-- Every way of adding a key that has a row is turned down, and the row stays. -/
theorem turnedDown {sdk : NostrSdk} {w : World} {inp : Nat → Oracle} {u : String} {a : IdentityRow}
    (ha : a ∈ w.mappings) {job : Job ⊕ Command} (h : Adds sdk w inp u a.pubkey job) :
    TurnedDown (served sdk job inp w).1 ∧ a ∈ (served sdk job inp w).2.mappings := by
  cases h with
  | page job h =>
    obtain ⟨message, challenges, hrun⟩ := page_refused h ⟨a, ha, rfl⟩
    have hserved : served sdk (.inl job) inp w = _ := runAlone_inl (service sdk) (commands sdk) hrun
    rw [hserved]
    exact ⟨Or.inl rfl, ha⟩
  | admin job h =>
    obtain ⟨message, hrun⟩ := admin_refused h ⟨a, ha, rfl⟩
    have hserved : served sdk (.inl job) inp w = _ := runAlone_inl (service sdk) (commands sdk) hrun
    rw [hserved]
    exact ⟨Or.inr rfl, ha⟩
  | command pubkey_or_npub signer_type label hu hkey hsigner hp =>
    have hrun := command_refused inp label hu hkey hsigner hp ⟨a, ha, rfl⟩
    have hserved : served sdk (.inr (.link u pubkey_or_npub true signer_type label)) inp w = _ :=
      runAlone_inr (service sdk) (commands sdk) hrun
    rw [hserved]
    exact ⟨rfl, mem_opened ha (inp 0)⟩

/-- **Revoked keys.** Where the row of `p` is disabled, every way of adding `p` to an account is turned
down, and `p` stays disabled. -/
theorem revoked_never_readded (sdk : NostrSdk) (w : World) (inp : Nat → Oracle) (u : String)
    (a : IdentityRow) (ha : a ∈ w.mappings) (hoff : a.enabled ≠ 1) (job : Job ⊕ Command)
    (h : Adds sdk w inp u a.pubkey job) : TurnedDown (served sdk job inp w).1 ∧
      a ∈ (served sdk job inp w).2.mappings ∧
        ¬Readded w.mappings (served sdk job inp w).2.mappings u a.pubkey := by
  obtain ⟨hdown, hstays⟩ := turnedDown ha h
  exact ⟨hdown, hstays, not_readded hstays hoff⟩

/-! ## A key of `alice` -/

/-- `alice` gets her key from the command line, it is revoked there, and she asks for a challenge to
link it again. -/
def revokedRun : SystemRun :=
  (system keySdk).after ((system keySdk).after ((system keySdk).after (Config.init noIdentities) 0
    (.inr (.link "alice" aliceKey true (some "nip07") none)) sampleInput) 1
    (.inr (.revoke "alice" "1")) sampleInput) 2 (.inl ⟨.default, linkChallengeRequest⟩) sampleInput

theorem revokedRun_reachable : Reachable (system keySdk) noIdentities revokedRun :=
  ((Reachable.init.after rfl _ _).after rfl _ _).after rfl _ _

/-- The row that the revocation left. -/
def revokedRow : IdentityRow where
  identity_id := 1
  ynh_username := "alice"
  pubkey := aliceKey
  created_at := 1767225600
  last_used := none
  enabled := 0
  signer_type := "nip07"
  label := none
  linked_by := "admin"
  revoked_at := some 1767225600

theorem revokedRow_mem : revokedRow ∈ revokedRun.world.mappings := by
  show revokedRow ∈ revokedRun.world.mappings.identities.rows
  decide +kernel

/-- Adding the key again from the command line leaves it revoked. -/
theorem revoked_stays_out : ¬∀ (sdk : NostrSdk) (w : World) (c : SystemRun), Reachable (system sdk) w c →
    ∀ (inp : Nat → Oracle) (u : String) (a : IdentityRow) (job : Job ⊕ Command), a ∈ c.world.mappings →
      a.ynh_username = u → a.enabled ≠ 1 → Adds sdk c.world inp u a.pubkey job →
        Readded c.world.mappings (served sdk job inp c.world).2.mappings u a.pubkey := by
  intro h
  have hadds : Adds keySdk revokedRun.world sampleInput "alice" revokedRow.pubkey
      (.inr (.link "alice" aliceKey true none none)) :=
    .command aliceKey none none (by decide) (by decide) (by decide) (by decide +kernel)
  have hoff : revokedRow.enabled ≠ 1 := by decide
  exact not_readded (turnedDown revokedRow_mem hadds).2 hoff (h keySdk noIdentities revokedRun
    revokedRun_reachable sampleInput "alice" revokedRow _ revokedRow_mem rfl hoff hadds)

/-- The request of her page. -/
def addAgain : Job := ⟨.default, { linkRequest with path := ["identities", "link"] }⟩

def linkChallenge : Challenge := ⟨sampleNonce, "a.example", "yunohost-link", 1767225600, 1767225690⟩

theorem addAgain_inOrder : PageAdds keySdk addAgain revokedRun.world sampleInput "alice" aliceKey where
  route := by decide +kernel
  media := by decide +kernel
  switch := rfl
  metadata := ⟨_, ("nip07", none), rfl, rfl⟩
  cookie := by
    show ¬orElse (addAgain.request.headers "cookie") "" = ""
    decide +kernel
  challenge := by
    refine ⟨linkChallenge, ⟨linkEvent, .str sampleNonce, rfl, rfl, ?_, rfl, ?_⟩, rfl, ?_, by decide⟩
    · decide +kernel
    · decide +kernel
    · show (⟨linkChallenge, none⟩ : ChallengeRow) ∈ revokedRun.world.challenges.rows
      decide +kernel
  session := ⟨_, rfl, rfl⟩

theorem addAgain_turnedDown : TurnedDown (served keySdk (.inl addAgain) sampleInput revokedRun.world).1 :=
  (revoked_never_readded keySdk revokedRun.world sampleInput "alice" revokedRow revokedRow_mem
    (by decide) (.inl addAgain) (.page addAgain addAgain_inOrder)).1

end NostrAuth.Relinking
