import NostrAuth.Lib.Alone
import NostrAuth.PageLogins
import NostrAuth.LoginCompleteness

/-! A login that nobody disturbs: what the page asks its signer to sign is what the service wants
to see signed, so the user of a linked identity gets in. -/

set_option autoImplicit false

namespace NostrAuth.PageLogins

open Interaction Server Prog Browser LoginPage
open AccountPage (FetchResult property)

/-! ## The two requests -/

/-- What the page is told of a challenge. -/
def describedFields (challenge : Challenge) : List (PyStr × Json) :=
  [("kind", .int NostrVerify.CHALLENGE_EVENT_KIND),
    ("nonce", .str challenge.nonce),
    ("domain", .str challenge.domain),
    ("action", .str challenge.action),
    ("issued_at", .int challenge.issued_at),
    ("expires_at", .int challenge.expires_at)]

def described (challenge : Challenge) : Response := respond (describedFields challenge)

theorem challenge_endpoint_login {settings : Settings} {request : Request} {domain : String}
    (hquery : request.query_params "action" = none)
    (hhost : orElse (request.headers "host") "" = domain) (hdomain : domain ≠ "")
    (hlogin : settings.allow_nostr_login = true) : challenge_endpoint settings request =
      (Handler.issue domain LOGIN_ACTION).bind fun challenge => .ret (described challenge) := by
  simp only [challenge_endpoint, hquery, Option.getD_none, issueChallenge, hhost, hdomain, hlogin,
    Prog.ensure, Prog.bind_eq, ALLOWED_ACTIONS, List.mem_cons, true_or, if_true, ret_bind, if_false,
    Bool.true_eq_false, and_false, not_false_eq_true]
  rfl

theorem serve_challenge (sdk : NostrSdk) (i : Nat) {around : Surroundings} {inp : Nat → Oracle}
    {w : World} {domain : String} {challenge : Challenge}
    (hhost : around.headers "host" = some domain) (hdomain : domain ≠ "")
    (hlogin : around.settings.allow_nostr_login = true)
    (hissued : (exec (.issue domain LOGIN_ACTION) (inp 0) w).1 = .ok challenge) :
    ((service sdk).serve i (handle sdk (LoginPage.challengeRequest.job around)) inp w).2 =
      (.ok (described challenge), (exec (.issue domain LOGIN_ACTION) (inp 0) w).2) := by
  have hread : orElse ((LoginPage.challengeRequest.request around).headers "host") "" = domain := by
    show orElse (around.headers "host") "" = domain
    rw [hhost]
    exact if_neg hdomain
  have hexec : ((service sdk).exec (.issue domain LOGIN_ACTION) (inp 0) w).1 = .ok challenge := hissued
  have hhandle : handle sdk (LoginPage.challengeRequest.job around) =
      ((challenge_endpoint around.settings (LoginPage.challengeRequest.request around)).attempt.bind
        fun x => .ret (answer x)) := rfl
  rw [hhandle, challenge_endpoint_login rfl hread hdomain hlogin]
  simp only [Handler.issue, call_bind, attempt_call, serve_call, hexec]
  rfl

/-- The signer signs what the page asks it to, and `nostr_sdk` parses the event as it was signed. -/
def Signs (sdk : NostrSdk) (inp : PageInput) (challenge : Challenge) (pubkey : String) : Prop :=
  let tags := [["challenge", challenge.nonce], ["domain", challenge.domain], ["action", challenge.action]]
  ∃ fields event,
    inp.signEvent (unsignedEvent (.int NostrVerify.CHALLENGE_EVENT_KIND) (.str challenge.nonce)
      (.str challenge.domain) (.str challenge.action) inp.now) = .ok (.obj fields) ∧
    Json.lookup fields "tags" = some (NostrVerify.rawTags tags) ∧
    sdk.from_json (Json.dumps (.obj fields)) = .ok event ∧ sdk.verify event = true ∧
    sdk.kind event = NostrVerify.CHALLENGE_EVENT_KIND ∧ sdk.tags event = tags ∧
    (sdk.created_at event : Int) = inp.now ∧ sdk.author event = pubkey

theorem firstTag_cons {tag : List String} {tags : List (List String)} {name value n v : String}
    (htag : tag = [n, v]) (hne : n ≠ name) (h : NostrVerify.FirstTag tags name value) :
    NostrVerify.FirstTag (tag :: tags) name value := by
  obtain ⟨before, extra, after, rfl, hbefore⟩ := h
  refine ⟨tag :: before, extra, after, rfl, fun tag' htag' v' more heq => ?_⟩
  rcases List.mem_cons.mp htag' with rfl | hmem
  · rw [htag] at heq
    exact hne (List.cons.inj heq).1
  · exact hbefore tag' hmem v' more heq

theorem media_authenticate (signedEvent : Json) (around : Surroundings) :
    mediaType ((authenticateRequest signedEvent).request around) = "application/json" := by
  have hheader : ((authenticateRequest signedEvent).request around).headers "content-type" =
      some "application/json" := rfl
  rw [mediaType, hheader]
  decide +kernel

/-- What was signed for the page presents the challenge to the service. -/
theorem presents_signed {sdk : NostrSdk} {inp : PageInput} {challenge : Challenge} {pubkey : String}
    (hsigns : Signs sdk inp challenge pubkey) (hnonce : challenge.nonce ≠ "")
    (hearly : challenge.issued_at - inp.around.settings.clock_skew_seconds ≤ inp.now)
    (hlate : inp.now ≤ challenge.expires_at + inp.around.settings.clock_skew_seconds) :
    ∃ signedEvent, inp.signEvent (unsignedEvent (.int NostrVerify.CHALLENGE_EVENT_KIND)
        (.str challenge.nonce) (.str challenge.domain) (.str challenge.action) inp.now) =
        .ok signedEvent ∧
      Presents sdk ((authenticateRequest signedEvent).job inp.around) challenge pubkey := by
  obtain ⟨fields, event, hsigned, htags, hparsed, hverified, hkind, hkept, hcreated, rfl⟩ := hsigns
  refine ⟨.obj fields, hsigned, ?_⟩
  have hnamed : ∀ name value rest, NostrVerify.FirstTag ([name, value] :: rest) name value :=
    fun name value rest => ⟨[], [], rest, rfl, by simp⟩
  have hanswers : Answers sdk ((authenticateRequest (.obj fields)).job inp.around) challenge _ event :=
    { body := ⟨fields, rfl, htags, hparsed⟩
      preserved := hkept
      verified := hverified
      kind := hkind
      nonce := hnamed ..
      domain := firstTag_cons rfl (by decide) (hnamed ..)
      action := firstTag_cons rfl (by decide) (firstTag_cons rfl (by decide) (hnamed ..))
      not_before := by rw [hcreated]; exact hearly
      not_after := by rw [hcreated]; exact hlate }
  exact presents_of_answers hanswers hnonce

/-! ## The page -/

abbrev Scene := Clients.Scene Op Op.Ans Exn Response Oracle World Job Page

section Alone

variable {α : Type} {sdk : NostrSdk} {inp : PageInput} {v v' : Scene}

/-- How a part of the script ends that runs alone. -/
abbrev alone (sdk : NostrSdk) (inp : PageInput) (p : Login α) (v : Scene) : Except String α × Scene :=
  Clients.alone (service sdk) loginPage inp p v

/-- What the service answers to a request that it serves next. -/
def Replied (sdk : NostrSdk) (f : Fetch) (around : Surroundings) (machine : Run)
    (supply : Clients.Supply Oracle) (response : Response) : Prop :=
  ((service sdk).serve (supply 0).1 (handle sdk (f.job around)) (supply 0).2 machine.world).2.1 =
    .ok response

/-- The scene after a request. -/
def Scene.fetch (sdk : NostrSdk) (inp : PageInput) (f : Fetch) (v : Scene) : Scene :=
  { v with
    machine := (service sdk).after v.machine (v.supply 0).1 (f.job inp.around) (v.supply 0).2
    supply := fun n => v.supply (n + 1) }

theorem loginPage_job (f : Fetch) (page : Page) (inp : PageInput) :
    loginPage.job (.inl f) page inp = f.job inp.around := rfl

theorem alone_step {o : PageOp} {f : o.Ans → Login α} :
    alone sdk inp ((perform o).bind f) v =
      alone sdk inp (f (o.exec inp v.state).1) { v with state := (o.exec inp v.state).2 } :=
  Clients.alone_bind rfl

theorem alone_fetch {f : Fetch} {g : FetchResult → Login α} {response : Response}
    (h : Replied sdk f inp.around v.machine v.supply response) :
    alone sdk inp ((fetchJSON f).bind g) v =
      alone sdk inp (g (resultOf response)) (v.fetch sdk inp f) := by
  have hserved : ((service sdk).serve (v.supply 0).1 ((service sdk).program (f.job inp.around))
    (v.supply 0).2 v.machine.world).2.1 = .ok response := h
  have hreply : Clients.replyOf (((service sdk).after v.machine (v.supply 0).1 (f.job inp.around)
      (v.supply 0).2).running (v.supply 0).1) = some response := by
    simp [Machine.after, hserved, finished, Clients.replyOf]
  refine Clients.alone_bind ?_
  simp only [fetchJSON, Clients.alone, loginPage_job]
  rw [hreply]
  rfl

/-- What is done at the end does not change how the script ends. -/
theorem alone_finishing {p : Login α} {last : Login Unit} {x : Except String α} {v'' : Scene}
    (hp : alone sdk inp p v = (x, v')) (hl : alone sdk inp last v' = (.ok (), v'')) :
    alone sdk inp (finishing p last) v = (x, v'') := by
  rw [finishing, alone, Clients.alone_bind (Clients.alone_attempt hp), Clients.alone_bind hl]
  cases x <;> rfl

theorem alone_catching {p : Login α} {handler : String → Login α} {a : α}
    (hp : alone sdk inp p v = (.ok a, v')) : alone sdk inp (catching p handler) v = (.ok a, v') := by
  rw [catching, alone, Clients.alone_bind (Clients.alone_attempt hp)]
  rfl

theorem alone_concludeSignIn {response : Response} (hok : (resultOf response).ok = true)
    (hstorage : inp.storage = none) :
    alone sdk inp (concludeSignIn (resultOf response)) v =
      (.ok (), { v with state :=
        { v.state with setLoggedIn := true, location := "/yunohost/sso/" } }) := by
  have hset : PageOp.setLoggedIn.exec inp v.state =
      (.ok (), { v.state with setLoggedIn := true }) := by
    simp only [PageOp.exec, hstorage]
  have hstored : alone sdk inp (attempting .setLoggedIn rfl) v =
      (.ok (), { v with state := { v.state with setLoggedIn := true } }) := by
    show alone sdk inp (Prog.ofExcept (PageOp.setLoggedIn.exec inp v.state).1)
      { v with state := (PageOp.setLoggedIn.exec inp v.state).2 } = _
    rw [hset]
    rfl
  rw [concludeSignIn, if_pos hok, bind_eq]
  exact (Clients.alone_bind hstored).trans rfl

/-- The sign-in once the page has been told of a challenge. -/
theorem alone_signChallenge {challenge : Challenge} {signedEvent : Json} {response : Response}
    (signer : Signer) (hstorage : inp.storage = none)
    (hsigned : inp.signEvent (unsignedEvent (.int NostrVerify.CHALLENGE_EVENT_KIND)
      (.str challenge.nonce) (.str challenge.domain) (.str challenge.action) inp.now) = .ok signedEvent)
    (hlogin : Replied sdk (authenticateRequest signedEvent) inp.around v.machine v.supply response)
    (hok : (resultOf response).ok = true) :
    alone sdk inp (signChallenge signer (resultOf (described challenge)).body) v =
      (.ok (), { v.fetch sdk inp (authenticateRequest signedEvent) with state :=
        { v.state with setLoggedIn := true, location := "/yunohost/sso/" } }) := by
  have hread : ∀ key value, Json.lookup (describedFields challenge) key = some value →
      (Browser.read key (resultOf (described challenge)).body : Login Json) = .ret value := by
    intro key value hkey
    simp [Browser.read, property, described, respond, resultOf, hkey]
  simp only [signChallenge, bind_eq]
  rw [hread "kind" _ rfl, ret_bind, alone_step]
  simp only [hread "nonce" _ rfl, hread "domain" _ rfl, hread "action" _ rfl, ret_bind]
  rw [alone_step]
  simp only [PageOp.exec]
  rw [hsigned]
  exact (alone_fetch hlogin).trans (alone_concludeSignIn hok hstorage)

/-- The page as a sign-in leaves it that succeeded. -/
def enter (page : Page) : Page :=
  { page with
    message := ("", "")
    disabled := fun _ => false
    qrBoxHidden := true
    setLoggedIn := true
    location := "/yunohost/sso/" }

/-- **A sign-in alone** ends with the page signed in, where the service answers both requests. -/
theorem alone_performSignIn {challenge : Challenge} {signedEvent : Json} {response : Response}
    {told : Scene} (signer : Signer) (hstorage : inp.storage = none)
    (hchallenge : Replied sdk LoginPage.challengeRequest inp.around v.machine v.supply
      (described challenge))
    (htold : v.fetch sdk inp LoginPage.challengeRequest = told)
    (hsigned : inp.signEvent (unsignedEvent (.int NostrVerify.CHALLENGE_EVENT_KIND)
      (.str challenge.nonce) (.str challenge.domain) (.str challenge.action) inp.now) = .ok signedEvent)
    (hlogin : Replied sdk (authenticateRequest signedEvent) inp.around told.machine told.supply response)
    (hok : (resultOf response).ok = true) :
    alone sdk inp (performSignIn signer) v =
      (.ok (), { told.fetch sdk inp (authenticateRequest signedEvent) with state := enter v.state }) := by
  -- the four steps before the requests
  let begun : Scene := { v with state :=
    { v.state with message := ("", ""), disabled := fun _ => true, buttonText := "Waiting for signature…" } }
  have hbegin : alone sdk inp (performSignIn signer) v = alone sdk inp
      (finishing (catching (requestChallenge signer) fun _ => perform (.showMessage
        "Could not reach the server. Check your connection and try again." "error"))
      (do
        perform (.setAllButtonsDisabled false)
        perform (.setButtonText v.state.buttonText)
        perform (.hideQrBox true))) begun := by
    simp only [performSignIn, bind_eq]
    rfl
  have hfetch : begun.fetch sdk inp LoginPage.challengeRequest = { told with state := begun.state } := by
    rw [← htold]
    rfl
  have hgiven : (resultOf (described challenge)).ok = true := rfl
  have hrequest : alone sdk inp (requestChallenge signer) begun = (.ok (),
      { told.fetch sdk inp (authenticateRequest signedEvent) with state :=
        { begun.state with setLoggedIn := true, location := "/yunohost/sso/" } }) := by
    rw [requestChallenge, bind_eq, alone_fetch (v := begun) hchallenge, if_pos hgiven, hfetch]
    exact alone_signChallenge (v := { told with state := begun.state }) signer hstorage hsigned hlogin hok
  rw [hbegin]
  refine alone_finishing (alone_catching hrequest) ?_
  exact alone_step.trans (alone_step.trans rfl)

end Alone

/-- The service lets a login in that is in order, and asks for the session. -/
theorem let_in {sdk : NostrSdk} {machine : Run} {i : Nat} {job : Job} {inp : Nat → Oracle}
    {token max_age : Json} {challenge : Challenge} {row : IdentityRow}
    (hroute : endpointOf job.request = some .authenticate_endpoint)
    (horder : InOrder sdk job machine.world ((inp 0).clock 0) challenge row)
    (hminted : (inp 3).minted = .minted token max_age) :
    ∃ response, (resultOf response).ok = true ∧
      ((service sdk).serve i (handle sdk job) inp machine.world).2.1 = .ok response ∧
      ∃ e ∈ ((service sdk).serve i (handle sdk job) inp machine.world).1, e.who = i ∧
        e.op = .mint row.ynh_username challenge.domain := by
  obtain ⟨⟨e, he, hop⟩, _, response, hanswer, hstatus⟩ := serve_inOrder (i := i) hroute horder
  have hcode := hstatus.mpr ⟨token, max_age, hminted⟩
  exact ⟨response, by simp [resultOf, hcode], hanswer, e, he, serve_who e he, hop⟩

/-- What a NIP-07 sign-in needs that starts from these states of the page and of the service: the page
and the service agree on what is signed and on the time, and the key is linked and switched on. -/
structure Honest (sdk : NostrSdk) (inp : PageInput) (v : Scene) (domain : String)
    (challenge : Challenge) (row : IdentityRow) : Prop where
  found : inp.hasNip07 = true
  storage : inp.storage = none
  switch : inp.around.settings.allow_nostr_login = true
  host : inp.around.headers "host" = some domain
  named : domain ≠ ""
  issued : (exec (.issue domain LOGIN_ACTION) ((v.supply 0).2 0) v.machine.world).1 = .ok challenge
  nonce : challenge.nonce ≠ ""
  signs : Signs sdk inp challenge row.pubkey
  early : challenge.issued_at - inp.around.settings.clock_skew_seconds ≤ inp.now
  late : inp.now ≤ challenge.expires_at + inp.around.settings.clock_skew_seconds
  redeemed : ((v.supply 1).2 0).clock 0 ≤ challenge.expires_at
  linked : row ∈ v.machine.world.mappings
  enabled : row.enabled = 1
  fits : fitsInt64 row.identity_id = true
  minted : ∃ token max_age, ((v.supply 1).2 3).minted = .minted token max_age

theorem fetch_log (sdk : NostrSdk) (inp : PageInput) (f : Fetch) (v : Scene) :
    (v.fetch sdk inp f).machine.log = v.machine.log ++
      ((service sdk).serve (v.supply 0).1 (handle sdk (f.job inp.around)) (v.supply 0).2
        v.machine.world).1 := rfl

/-- The script of an honest sign-in, alone. -/
theorem alone_signIn {sdk : NostrSdk} {inp : PageInput} {v : Scene} {domain : String}
    {challenge : Challenge} {row : IdentityRow} (h : Honest sdk inp v domain challenge row) :
    ∃ final, alone sdk inp (loginPage.program (.inl .signIn)) v = (.ok (), final) ∧
      SignedIn final.state ∧ ∃ served, final.machine.log = v.machine.log ++ served ∧
        ∃ e ∈ served, e.who = (v.supply 1).1 ∧ e.op = .mint row.ynh_username domain := by
  have hserved := serve_challenge sdk (v.supply 0).1 h.host h.named h.switch h.issued
  obtain ⟨told, htold⟩ : ∃ told, v.fetch sdk inp LoginPage.challengeRequest = told := ⟨_, rfl⟩
  have hworld : told.machine.world =
      (exec (.issue domain LOGIN_ACTION) ((v.supply 0).2 0) v.machine.world).2 := by
    rw [← htold]
    exact congrArg Prod.snd hserved
  have hsupply : told.supply 0 = v.supply 1 := by
    rw [← htold]
    rfl
  obtain ⟨hnew, _⟩ := issue_ok h.issued
  obtain ⟨signedEvent, hsigned, hpresents⟩ := presents_signed h.signs h.nonce h.early h.late
  have horder : InOrder sdk ((authenticateRequest signedEvent).job inp.around) told.machine.world
      (((told.supply 0).2 0).clock 0) challenge row :=
    { media := media_authenticate signedEvent inp.around
      switch := h.switch
      presents := hpresents
      action := by rw [hnew]; rfl
      pending := by rw [hworld]; exact issue_pending h.issued
      fresh := by rw [hsupply]; exact h.redeemed
      linked := by rw [hworld]; exact h.linked
      enabled := h.enabled
      fits := h.fits }
  obtain ⟨token, max_age, hminted⟩ := h.minted
  rw [← hsupply] at hminted
  obtain ⟨response, hok, hlet, e, he, hwho, hop⟩ := let_in (i := (told.supply 0).1) rfl horder hminted
  have hchallenge : Replied sdk LoginPage.challengeRequest inp.around v.machine v.supply
    (described challenge) := congrArg Prod.fst hserved
  have hperformed := alone_performSignIn (v := v) .nip07 h.storage hchallenge htold hsigned hlet hok
  obtain ⟨served, hlog⟩ : ∃ served, told.machine.log = v.machine.log ++ served :=
    ⟨_, htold ▸ fetch_log sdk inp LoginPage.challengeRequest v⟩
  refine ⟨_, alone_step.trans ((congrArg (fun p => alone sdk inp p v) (if_pos h.found)).trans hperformed),
    Or.inl rfl, served ++ _, (fetch_log sdk inp _ told).trans ?_, e, List.mem_append_right _ he, ?_, ?_⟩
  · rw [hlog, List.append_assoc]
  · rw [hwho, hsupply]
  · rw [hop, hnew]
    rfl

/-- **An honest login gets in.** In every reachable state, a page on which the extension is asked,
and which nobody disturbs from then on, comes to the end of its script and is signed in, with a
session for the account that holds the key: the signer signs what the page asks it to, the clocks of
the page and of the service are not further apart than the service allows, and the challenge has
not expired when it is redeemed. -/
theorem honest_login (sdk : NostrSdk) (w : World) (c : Pages) (a k : Nat) (inp : PageInput)
    (supply : Clients.Supply Oracle) (domain : String) (challenge : Challenge) (row : IdentityRow)
    (hc : Reachable sdk w c) (ha : c.activity a = none)
    (husable : (c.state k).usable .button = true) (hfresh : ∀ n, c.server.job (supply n).1 = none)
    (hids : ∀ n n', (supply n).1 = (supply n').1 → n = n')
    (hhonest : Honest sdk inp ⟨c.state k, c.server, supply⟩ domain challenge row) :
    ∃ final c', alone sdk inp (loginPage.program (.inl .signIn)) ⟨c.state k, c.server, supply⟩ =
        (.ok (), final) ∧
      Clients.Undisturbed (service sdk) loginPage a k (.inl .signIn) c c' ∧ Reachable sdk w c' ∧
      c'.activity a = some ⟨k, .inl .signIn, .ret (), none⟩ ∧
      c'.state = Function.update c.state k final.state ∧ c'.server = final.machine ∧
      SignedIn (c'.state k) ∧ ∃ served, c'.server.log = c.server.log ++ served ∧
        ∃ e ∈ served, e.who = (supply 1).1 ∧ e.op = .mint row.ynh_username domain := by
  obtain ⟨final, halone, hin, served, hlog, hminted⟩ := alone_signIn hhonest
  have hbegins : loginPage.begins (.inl .signIn) (c.state k) = some (c.state k) := if_pos husable
  obtain ⟨c', hrun, hactivity, hstate, hserver⟩ :=
    Clients.undisturbed_alone (M := service sdk) inp supply ha hbegins hfresh hids
  rw [alone] at halone
  rw [halone] at hactivity hstate hserver
  refine ⟨final, c', halone, hrun, hc.undisturbed hrun, hactivity, hstate, hserver, ?_, served, ?_, hminted⟩
  · rw [hstate, Function.update_self]
    exact hin
  · rw [hserver]
    exact hlog

def pageChallenge : Challenge :=
  new_challenge sampleNonce "a.example" LOGIN_ACTION DEFAULT_TTL_SECONDS 1767225600

theorem honest_login_openedPage : ∃ c', Clients.Undisturbed (service (sampleEvent "yunohost-login").sdk)
      loginPage 1 0 (.inl .signIn) openedPage c' ∧ SignedIn (c'.state 0) ∧
    ∃ e ∈ c'.server.log, e.who = 2 ∧ e.op = .mint "alice" "a.example" := by
  have husable : (openedPage.state 0).usable .button = true := by decide +kernel
  have hjobs : ∀ n, openedPage.server.job (n + 1) = none := fun _ => rfl
  have hworld : openedPage.server.world = aliceLinked := rfl
  have hissued : (exec (.issue "a.example" LOGIN_ACTION) (sampleInput 0) openedPage.server.world).1 =
      .ok pageChallenge := by
    rw [hworld]
    rfl
  have hrow : aliceRow ∈ openedPage.server.world.mappings := by
    rw [hworld]
    show aliceRow ∈ aliceLinked.mappings.identities.rows
    decide +kernel
  have hhonest : Honest (sampleEvent "yunohost-login").sdk samplePageInput
      ⟨openedPage.state 0, openedPage.server, fun n => (n + 1, sampleInput)⟩ "a.example" pageChallenge
      aliceRow :=
    { found := rfl, storage := rfl, switch := rfl, host := rfl, named := by decide, issued := hissued
      nonce := by decide
      signs := ⟨loginEvent, sampleEvent "yunohost-login", rfl, rfl, rfl, rfl, rfl, rfl, rfl, rfl⟩
      early := by decide, late := by decide, redeemed := by decide
      linked := hrow, enabled := rfl, fits := by decide
      minted := ⟨.str "token", .int 3600, rfl⟩ }
  obtain ⟨_, c', _, hrun, _, _, _, _, hin, served, hlog, e, he, hwho, hop⟩ :=
    honest_login (sampleEvent "yunohost-login").sdk aliceLinked openedPage 1 0 samplePageInput
      (fun n => (n + 1, sampleInput)) "a.example" pageChallenge aliceRow openedPage_reachable rfl husable
      hjobs (fun n n' h => by omega) hhonest
  exact ⟨c', hrun, hin, e, by rw [hlog]; exact List.mem_append_right _ he, hwho, hop⟩

end NostrAuth.PageLogins
