import NostrAuth.PageRuns
import NostrAuth.LoginPage
import NostrAuth.LoginSoundness

/-! Login pages beside the service. What a page leaves in the browser after a login rests on a
session that the service had minted for that page, and on a challenge of its own. -/

set_option autoImplicit false

namespace NostrAuth.PageLogins

open Interaction Server Prog Browser LoginPage
open AccountPage (FetchResult property)

abbrev Pages := PageSystem PageOp.Ans Page Action

/-- The runs of the service with any number of login pages, and whatever others send to it. -/
abbrev Reachable (sdk : NostrSdk) (w : World) : Pages → Prop :=
  Clients.Reachable (service sdk) loginPage w

/-! ## What a page asks and when it signs in -/

/-- The requests of the login page. -/
def Asks (f : Fetch) : Prop :=
  f = policyRequest ∨ f = LoginPage.challengeRequest ∨ ∃ signedEvent, f = authenticateRequest signedEvent

/-- A signed event was sent, and the answer was a success. -/
def Succeeded (got : Fetch → Response → Prop) : Prop :=
  ∃ signedEvent response, got (authenticateRequest signedEvent) response ∧ (resultOf response).ok = true

/-- The calls that a login ends with. -/
def signsIn : PageOp → Bool
  | .setLoggedIn | .navigate _ => true
  | _ => false

/-- What a call of the page rests on. -/
def Rule (h : Calls PageOp PageOp.Ans) : PageOp ⊕ Sent → Prop
  | .inl o => signsIn o = true → Succeeded (Answers h)
  | .inr (.inl f) => Asks f
  | .inr (.inr _) => False

/-- The page has told the browser that the user is logged in, or has left for the portal. -/
def SignedIn (page : Page) : Prop :=
  page.setLoggedIn = true ∨ page.location ≠ "/nostr-login"

section Scripts

variable {α β : Type}

theorem rule_of_signsIn {o : PageOp} (ho : signsIn o = false) (h : Calls PageOp PageOp.Ans) :
    Rule h (.inl o) := by
  intro hsigns
  rw [ho] at hsigns
  cases hsigns

theorem keeps_perform {o : PageOp} (ho : signsIn o = false) : Keeps Rule (perform o) :=
  keeps_call (rule_of_signsIn ho) keeps_ret

theorem keeps_step {o : PageOp} {f : o.Ans → Login β} (ho : signsIn o = false)
    (hf : ∀ r, Keeps Rule (f r)) : Keeps Rule ((perform o).bind f) :=
  keeps_call (rule_of_signsIn ho) hf

theorem keeps_attempting {o : PageOp} (h : o.Ans = Except String α) (ho : signsIn o = false) :
    Keeps Rule (attempting o h) :=
  keeps_call (rule_of_signsIn ho) fun _ => keeps_ofExcept _

theorem keeps_try {o : PageOp} {h : o.Ans = Except String α} {f : α → Login β}
    (ho : signsIn o = false) (hf : ∀ a, Keeps Rule (f a)) : Keeps Rule ((attempting o h).bind f) :=
  (keeps_attempting h ho).bind hf

theorem keeps_asks {f : Fetch} (hf : Asks f) : Keeps Rule (fetchJSON f : Login FetchResult) :=
  keeps_fetchJSON fun _ _ => hf

/-- The answer to `/authenticate` is all that a login rests on. -/
theorem keeps_authenticate (signedEvent : Json) :
    Keeps Rule ((fetchJSON (authenticateRequest signedEvent)).bind concludeSignIn) := by
  intro h _
  refine ⟨Or.inr (Or.inr ⟨signedEvent, rfl⟩), fun r _ => ?_⟩
  cases r with
  | none => trivial
  | some response =>
    simp only [ret_bind, concludeSignIn]
    split
    · next hok =>
      have hreplied : ∀ h' : Calls PageOp PageOp.Ans,
          h ++ [⟨.inr (.inl (authenticateRequest signedEvent)), some response⟩] ⊆ h' →
          Succeeded (Answers h') :=
        fun h' hsub => ⟨signedEvent, response, hsub (by simp), hok⟩
      refine ⟨fun _ => hreplied _ (List.Subset.refl _), fun stored _ => ?_⟩
      cases stored with
      | error e => trivial
      | ok _ => exact ⟨fun _ => hreplied _ (List.subset_append_left ..), fun _ _ => trivial⟩
    · exact keeps_perform rfl _ (List.nil_subset _)

theorem keeps_signChallenge (signer : Signer) (challenge : Json) : Keeps Rule (signChallenge signer challenge) := by
  refine (keeps_read _ _).bind fun kind => ?_
  refine keeps_step rfl fun created_at => ?_
  refine (keeps_read _ _).bind fun nonce => ?_
  refine (keeps_read _ _).bind fun domain => ?_
  refine (keeps_read _ _).bind fun action => ?_
  refine keeps_step rfl fun signed => ?_
  cases signed with
  | error e => exact keeps_perform rfl
  | ok signedEvent => exact keeps_authenticate signedEvent

theorem keeps_requestChallenge (signer : Signer) : Keeps Rule (requestChallenge signer) := by
  refine (keeps_asks (Or.inr (Or.inl rfl))).bind fun challengeResult => ?_
  split
  · exact keeps_signChallenge signer _
  · exact keeps_perform rfl

theorem keeps_performSignIn (signer : Signer) : Keeps Rule (performSignIn signer) := by
  refine keeps_step rfl fun _ => keeps_step rfl fun _ => keeps_step rfl fun originalText => keeps_step rfl fun _ => ?_
  refine ((keeps_requestChallenge signer).catching fun _ => keeps_perform rfl).finishing ?_
  exact keeps_step rfl fun _ => keeps_step rfl fun _ => keeps_perform rfl

theorem keeps_signInWithSigner (signer : Signer) : Keeps Rule (signInWithSigner signer) := by
  refine (keeps_performSignIn signer).finishing ?_
  exact keeps_attempting rfl rfl

theorem keeps_signInWithNip07 : Keeps Rule signInWithNip07 := by
  refine keeps_step rfl fun found => ?_
  split
  · exact keeps_performSignIn .nip07
  · exact keeps_perform rfl

theorem keeps_reconnect : Keeps Rule reconnect := by
  refine keeps_step rfl fun _ => keeps_step rfl fun _ => ?_
  refine Keeps.finishing (Keeps.catching ?_ fun _ => ?_) (keeps_perform rfl)
  · refine keeps_try rfl fun signer => ?_
    split
    · exact keeps_signInWithSigner .saved
    · exact keeps_perform rfl
  · exact keeps_step rfl fun _ => keeps_step rfl fun _ => keeps_perform rfl

theorem keeps_signInWithLocalKey : Keeps Rule signInWithLocalKey := by
  refine keeps_step rfl fun _ => keeps_try rfl fun signer => ?_
  split
  · exact keeps_signInWithSigner .localKey
  · exact keeps_perform rfl

theorem keeps_signInWithPasskey : Keeps Rule signInWithPasskey := by
  refine keeps_step rfl fun _ => keeps_step rfl fun _ => ?_
  refine Keeps.finishing (Keeps.catching ?_ fun _ => keeps_perform rfl) (keeps_perform rfl)
  refine keeps_step rfl fun stored => ?_
  split
  · exact keeps_try rfl fun _ => keeps_signInWithSigner .passkey
  · exact keeps_perform rfl

theorem keeps_connectBunker : Keeps Rule connectBunker := by
  refine keeps_step rfl fun _ => keeps_step rfl fun text => ?_
  dsimp only
  split
  · exact keeps_perform rfl
  · refine keeps_step rfl fun _ => keeps_step rfl fun _ => ?_
    refine Keeps.finishing (Keeps.catching ?_ fun _ => keeps_perform rfl)
      (keeps_step rfl fun _ => keeps_perform rfl)
    exact keeps_try rfl fun _ => keeps_signInWithSigner _

theorem keeps_showQr : Keeps Rule showQr := by
  refine keeps_step rfl fun _ => keeps_step rfl fun _ => keeps_step rfl fun _ => keeps_step rfl fun _ => ?_
  refine keeps_step rfl fun _ => keeps_step rfl fun _ => keeps_step rfl fun _ => ?_
  refine Keeps.finishing (Keeps.catching ?_ fun _ => ?_) ?_
  · exact keeps_try rfl fun _ => keeps_step rfl fun _ => keeps_signInWithSigner .qr
  · refine keeps_try rfl fun wasAborted => ?_
    split
    · exact keeps_ret ()
    · exact keeps_perform rfl
  · refine keeps_step rfl fun _ => keeps_step rfl fun _ => keeps_step rfl fun _ => keeps_step rfl fun _ => ?_
    exact keeps_step rfl fun saved => keeps_step rfl fun _ => keeps_perform rfl

theorem keeps_applyPolicy : Keeps Rule applyPolicy := by
  refine (keeps_asks (Or.inl rfl)).bind fun result => ?_
  unfold applyAnswer
  split
  · refine (keeps_read _ _).bind fun allow => ?_
    split
    · exact keeps_perform rfl
    · exact keeps_ret ()
  · exact keeps_ret ()

theorem keeps_lookForExtension : Keeps Rule lookForExtension := by
  refine keeps_step rfl fun found => ?_
  split
  · exact keeps_ret ()
  · exact keeps_perform rfl

/-- **Every action** asks what the page may ask, and signs in on a success only. -/
theorem keeps_program (act : Action) : Keeps Rule act.program := by
  cases act with
  | openPage saved localKey passkey => exact keeps_applyPolicy.finishing (keeps_perform rfl)
  | lookForExtension => exact keeps_lookForExtension
  | signIn => exact keeps_signInWithNip07
  | reconnect => exact keeps_reconnect
  | localKey => exact keeps_signInWithLocalKey
  | passkey => exact keeps_signInWithPasskey
  | typeBunker value => exact keeps_ret ()
  | connectBunker => exact keeps_connectBunker
  | showQr => exact keeps_showQr
  | cancelQr => exact keeps_ret ()

end Scripts

/-! ## The state of a page -/

theorem begins_signedIn {act : Action} {page page' : Page} (h : act.begins page = some page')
    (hin : SignedIn page') : SignedIn page := by
  unfold Action.begins at h
  split at h <;> split at h <;> cases h <;> exact hin

theorem exec_signedIn {o : PageOp} {inp : PageInput} {page : Page}
    (hin : SignedIn (o.exec inp page).2) : SignedIn page ∨ signsIn o = true := by
  cases o with
  | setLoggedIn => exact Or.inr rfl
  | navigate url => exact Or.inr rfl
  | _ => exact Or.inl hin

/-- A page that is signed in was given a success by the service. -/
def FromSuccess (got : Fetch → Response → Prop) (page : Page) : Prop := SignedIn page → Succeeded got

theorem loginPage_rests : Clients.Rests loginPage (rule fun _ => Rule)
    (fun _ => Sum.elim (fun _ => True) fun _ => True) (fun got => FromSuccess (ofPage got)) := by
  refine pages_rests (B := fun _ _ => True) keeps_program ?_ ?_ ?_ (fun _ _ _ _ h => h) ?_
  · intro got hin
    rcases hin with h | h
    · cases h
    · exact absurd rfl h
  · intro got act page page' hbegin hpage
    exact ⟨trivial, fun hin => hpage (begins_signedIn hbegin hin)⟩
  · intro got act h o inp page hrule hgot hpage hin
    rcases exec_signedIn hin with hin | hsigns
    · exact hpage hin
    · obtain ⟨signedEvent, response, hreply, hok⟩ := hrule hsigns
      exact ⟨signedEvent, response, hgot _ _ hreply, hok⟩
  · intro got got' page hmore hpage hin
    obtain ⟨signedEvent, response, hgot, hok⟩ := hpage hin
    exact ⟨signedEvent, response, hmore _ _ hgot, hok⟩

/-! ## What a success stands for -/

/-- A script of the page `k` sent a signed event to `/authenticate`, as the job `i`, and was answered
with 200. -/
def LetIn (sdk : NostrSdk) (w : World) (c : Pages) (k i : Nat) : Prop :=
  ∃ act signedEvent around response, c.server.job i = some ((authenticateRequest signedEvent).job around) ∧
    TookFor sdk loginPage w c k act i (authenticateRequest signedEvent) response ∧
    response.status_code = 200

/-- The call at `m` minted a session for the job `i`. -/
def MintedFor (c : Pages) (i m : Nat) : Prop :=
  ∃ e username host token max_age, c.server.log[m]? = some e ∧ e.who = i ∧
    e.event = ⟨.mint username host, .minted token max_age⟩

section Runs

variable {sdk : NostrSdk} {w : World} {c : Pages}

theorem letIn_of_signedIn (hc : Reachable sdk w c) {k : Nat} (hin : SignedIn (c.state k)) :
    ∃ i m, LetIn sdk w c k i ∧ MintedFor c i m := by
  have hsourced := Clients.Reachable.sourced (told_lasting sdk w) loginPage_rests hc
  obtain ⟨signedEvent, response, hgot, hok⟩ := hsourced.state k hin
  obtain ⟨i, act, around, htook, hjob, htold⟩ := tookFor_of_received hgot
  have hroute : endpointOf ((authenticateRequest signedEvent).job around).request =
      some .authenticate_endpoint := rfl
  obtain ⟨n, h200, nonce, challenge, pubkey, username, token, max_age, _, _, hmint, _⟩ :=
    answered_of_told htold hroute hok
  obtain ⟨m, e, _, he, hwho, hevent⟩ := exists_of_mem_calls_take hmint
  exact ⟨i, m, ⟨act, signedEvent, around, response, hjob, htook, h200⟩, e, username, challenge.domain,
    token, max_age, he, hwho, hevent⟩

theorem mints_of_mintedFor {i m : Nat} (h : MintedFor c i m) : Mints c.server m := by
  obtain ⟨e, username, host, token, max_age, he, _, hevent⟩ := h
  exact ⟨e, username, host, he, congrArg Event.op hevent⟩

theorem mintedFor_unique {i i' m : Nat} (h : MintedFor c i m) (h' : MintedFor c i' m) : i = i' := by
  obtain ⟨e, _, _, _, _, he, rfl, _⟩ := h
  obtain ⟨e', _, _, _, _, he', rfl, _⟩ := h'
  rw [he] at he'
  cases he'
  rfl

theorem letIn_unique {k k' i : Nat} (h : LetIn sdk w c k i) (h' : LetIn sdk w c k' i) : k = k' := by
  obtain ⟨_, _, _, _, _, htook, _⟩ := h
  obtain ⟨_, _, _, _, _, htook', _⟩ := h'
  exact (htook.sentFor.unique htook'.sentFor).1

/-- **Signed in.** In every run of any number of login pages, whatever others send to the service, a
page that tells its browser that the user is logged in, or goes on to the portal, was answered with
200 to a request of its own to `/authenticate`, for which a session was minted; that session rests
on a challenge that was issued, taken once and in time, and signed with a key that an enabled
identity of the account holds; and no challenge lets two pages in. -/
theorem signed_in_justified (sdk : NostrSdk) (ttl_seconds : Ttl) (mappings : MappingDb) (c : Pages)
    (hc : Reachable sdk (World.withoutChallenges ttl_seconds mappings) c) :
    ∃ request session challenge : Nat → Nat,
      (∀ k, SignedIn (c.state k) →
        LetIn sdk (World.withoutChallenges ttl_seconds mappings) c k (request k) ∧
          MintedFor c (request k) (session k) ∧
          MintJustified sdk c.server (session k) (challenge k)) ∧
      ∀ k k', SignedIn (c.state k) → SignedIn (c.state k') → challenge k = challenge k' → k = k' := by
  classical
  have hw : ∀ challenge, ¬Server.Pending (World.withoutChallenges ttl_seconds mappings) challenge :=
    fun challenge h => Table.not_mem_empty _ h
  have hjust : ∀ k, ∃ i m j, SignedIn (c.state k) →
      LetIn sdk (World.withoutChallenges ttl_seconds mappings) c k i ∧ MintedFor c i m ∧
        MintJustified sdk c.server m j := by
    intro k
    by_cases hin : SignedIn (c.state k)
    · obtain ⟨i, m, hi, hm⟩ := letIn_of_signedIn hc hin
      obtain ⟨j, hj⟩ := mint_justified hw hc.server (mints_of_mintedFor hm)
      exact ⟨i, m, j, fun _ => ⟨hi, hm, hj⟩⟩
    · exact ⟨0, 0, 0, fun h => absurd h hin⟩
  choose request session challenge hall using hjust
  refine ⟨request, session, challenge, hall, fun k k' hin hin' hsame => ?_⟩
  obtain ⟨hi, hm, hj⟩ := hall k hin
  obtain ⟨hi', hm', hj'⟩ := hall k' hin'
  rw [← hsame] at hj'
  have hsession := justified_inj hc.server (Or.inl (mints_of_mintedFor hm))
    (Or.inl (mints_of_mintedFor hm')) (Or.inl hj) (Or.inl hj')
  rw [← hsession] at hm'
  have hrequest := mintedFor_unique hm hm'
  rw [← hrequest] at hi'
  exact letIn_unique hi hi'

end Runs

/-! ## A page that signs in -/

def samplePageInput : PageInput where
  around := ⟨.default, headersOf [("host", "a.example")], some "127.0.0.1"⟩
  now := 1767225605
  hasNip07 := true
  hasStoredPasskey := false
  hasSaved := false
  connected := .ok true
  signEvent _ := .ok (.obj loginEvent)
  disposed := .ok ()
  storage := none

abbrev PageMove := Clients.Move PageInput Oracle (Action ⊕ Job)

/-- One `fetchJSON`, as the job `i` of `calls` calls, and the `rest` steps of the script after it. -/
def fetches (a i calls rest : Nat) : List PageMove :=
  [.send a i samplePageInput] ++ List.replicate calls (.call i (sampleInput 0)) ++ [.receive a] ++
    List.replicate rest (.act a samplePageInput)

def openMoves : List PageMove := [.begin 0 0 (.inl (.openPage false false false))] ++ fetches 0 0 0 1

/-- A page that was opened beside the service, which knows the key of `alice`. -/
def openedPage : Pages :=
  (Clients.init loginPage aliceLinked).play (service (sampleEvent "yunohost-login").sdk) loginPage openMoves

theorem openedPage_reachable : Reachable (sampleEvent "yunohost-login").sdk aliceLinked openedPage :=
  Clients.Reachable.init.play openMoves

def signInMoves : List PageMove :=
  [.begin 1 0 (.inl .signIn)] ++ List.replicate 5 (.act 1 samplePageInput) ++ fetches 1 1 1 2 ++ fetches 1 2 5 5

def signedInPage : Pages :=
  openedPage.play (service (sampleEvent "yunohost-login").sdk) loginPage signInMoves

theorem signedInPage_signedIn : SignedIn (signedInPage.state 0) := by
  have hset : (signedInPage.state 0).setLoggedIn = true := by decide +kernel
  exact Or.inl hset

theorem signed_in_signedInPage : ∃ request session challenge : Nat → Nat,
    LetIn (sampleEvent "yunohost-login").sdk aliceLinked signedInPage 0 (request 0) ∧
      MintedFor signedInPage (request 0) (session 0) ∧
      MintJustified (sampleEvent "yunohost-login").sdk signedInPage.server (session 0) (challenge 0) := by
  obtain ⟨request, session, challenge, hall, _⟩ := signed_in_justified (sampleEvent "yunohost-login").sdk
    DEFAULT_TTL_SECONDS aliceDb signedInPage (openedPage_reachable.play signInMoves)
  exact ⟨request, session, challenge, hall 0 signedInPage_signedIn⟩

end NostrAuth.PageLogins
