import NostrAuth.AccountPage
import NostrAuth.MappingOwnership
import NostrAuth.MappingAuthority

/-! Account pages next to each other: every page acts on the list that it loaded last, and the
service handles their requests call by call. Which identities are lost, and by whose action. -/

set_option autoImplicit false

namespace NostrAuth.TwoPages

open Interaction Server AccountPage MappingCall Handler

/-- Any number of account pages and the service. -/
abbrev Pages := Clients Op Op.Ans Exn Response Oracle World Job PageOp.Ans Call Unit Page Action

abbrev Reachable (sdk : NostrSdk) (w : World) : Pages → Prop :=
  Clients.Reachable (service sdk) accountPage w

/-! ## What a page shows -/

/-- The button reads what the page offers, and the choice between adding and replacing is shown
only with an active identity. -/
structure Shows (page : Page) : Prop where
  button : page.linkBtnText = page.offer.text
  mode : page.linkModeLabelHidden = false → page.hasActiveIdentity = true

theorem shows_list (page : Page) : Shows page.showList := by
  by_cases h : page.hasActiveIdentity = true
  · have hlist : page.showList.hasActiveIdentity = true := by
      simp [Page.showList, h]
      exact h
    refine ⟨?_, fun _ => hlist⟩
    rw [Page.offer, if_pos hlist]
    simp only [Page.showList, if_pos h]
    cases page.linkMode <;> rfl
  · have hlist : ¬page.showList.hasActiveIdentity = true := by
      simp only [Page.showList, if_neg h]
      exact h
    refine ⟨?_, fun hshown => ?_⟩
    · rw [Page.offer, if_neg hlist]
      simp only [Page.showList, if_neg h]
      rfl
    · simp [Page.showList, h] at hshown

theorem Shows.policy {page : Page} (h : Shows page) : Shows page.showPolicy := by
  unfold Page.showPolicy
  split
  · exact h
  · exact ⟨h.button, nofun⟩

theorem Shows.begins {act : Action} {page page' : Page} (h : act.begins page = some page')
    (hshows : Shows page) : Shows page' := by
  cases act with
  | chooseMode mode =>
    simp only [Action.begins, Option.ite_none_right_eq_some, Bool.and_eq_true, Bool.not_eq_true',
      Option.some.injEq] at h
    obtain ⟨⟨⟨_, hshown⟩, _⟩, rfl⟩ := h
    have hactive := hshows.mode hshown
    refine ⟨?_, fun _ => hactive⟩
    have hactive' : (page.changeMode mode).hasActiveIdentity = true := hactive
    rw [Page.offer, if_pos hactive']
    cases mode <;> rfl
  | openPage =>
    simp only [Action.begins, Option.ite_none_left_eq_some, Option.some.injEq] at h
    obtain ⟨_, rfl⟩ := h
    exact ⟨hshows.button, hshows.mode⟩
  | _ =>
    simp only [Action.begins, Option.ite_none_right_eq_some, Option.some.injEq] at h
    obtain ⟨_, rfl⟩ := h
    exact ⟨hshows.button, hshows.mode⟩

theorem Shows.exec (o : PageOp) (inp : PageInput) {page : Page} (h : Shows page) :
    Shows (o.exec inp page).2 := by
  cases o with
  | renderIdentities payload =>
    simp only [PageOp.exec, Page.renderIdentities]
    split
    · exact ⟨h.button, h.mode⟩
    · exact (shows_list _).policy
  | _ => exact ⟨h.button, h.mode⟩

theorem shows {sdk : NostrSdk} {w : World} {c : Pages} (hc : Reachable sdk w c) (k : Nat) :
    Shows (c.state k) :=
  hc.state_invariant ⟨rfl, nofun⟩ (fun _ _ _ h hshows => hshows.begins h)
    (fun o inp _ h => h.exec o inp) k

/-! ## The requests of an action -/

/-- The requests of `loadIdentity`. -/
def Loads (r : Call) : Prop := r = .plain "GET" ["policy"] none ∨ r = .plain "GET" ["identities"] none

/-- The requests that an action may lead to. -/
def Requests : Action → Call → Prop
  | .openPage, r | .chooseMode _, r | .typeLabel _, r => Loads r
  | .link .., r => Loads r ∨ r = .plain "POST" ["link", "challenge"] none ∨
      ∃ signedEvent signerType, r = .submit signedEvent signerType
  | .unlink, r => Loads r ∨ r = .plain "POST" ["unlink"] none
  | .revoke identityId, r =>
    Loads r ∨ r = .plain "DELETE" ["identities", toString identityId] none
  | .rename identityId, r =>
    Loads r ∨ ∃ body, r = .plain "PATCH" ["identities", toString identityId] body

/-- The script sends only the requests in `P`. -/
abbrev Sends {α : Type} (P : Call → Prop) (p : Script α) : Prop :=
  p.Within (fun _ => True) (Sum.elim (fun _ => True) P) fun _ => True

section Scripts

variable {P : Call → Prop} {α β : Type}

theorem Sends.bind {p : Script α} {f : α → Script β} (hp : Sends P p) (hf : ∀ a, Sends P (f a)) :
    Sends P (p.bind f) := Prog.Within.bind hp (fun a _ => hf a) fun _ _ => trivial

theorem sends_perform (o : PageOp) : Sends P (perform o) := ⟨trivial, fun _ _ => trivial⟩

theorem sends_fetchJSON {r : Call} (hr : P r) : Sends P (fetchJSON r) :=
  ⟨hr, fun reply _ => by cases reply <;> trivial⟩

theorem sends_read (key : String) (value : Json) : Sends P (AccountPage.read key value) := by
  unfold AccountPage.read
  split <;> trivial

theorem sends_catching {p : Script Unit} (hp : Sends P p) : Sends P (catching p) := by
  refine Prog.Within.attempt_bind hp fun outcome _ => ?_
  cases outcome with
  | ok _ => trivial
  | error _ => exact sends_perform _

theorem sends_readPolicy (policyResult : FetchResult) : Sends P (readPolicy policyResult) := by
  unfold readPolicy
  split
  · refine (sends_read _ _).bind fun allow => ?_
    split <;> exact sends_perform _
  · trivial

theorem sends_loadIdentity (hP : ∀ r, Loads r → P r) : Sends P loadIdentity := by
  refine (sends_fetchJSON (hP _ (Or.inl rfl))).bind fun policyResult => ?_
  refine (sends_readPolicy policyResult).bind fun _ => ?_
  refine (sends_fetchJSON (hP _ (Or.inr rfl))).bind fun result => ?_
  split
  · exact sends_perform _
  · split
    · refine (sends_perform _).bind fun done => ?_
      unfold Prog.ensure
      split <;> trivial
    · exact sends_perform _

theorem sends_finish (hP : ∀ r, Loads r → P r) (result : FetchResult) (success failure : String) :
    Sends P (finish result success failure) := by
  unfold finish
  split
  · exact (sends_perform _).bind fun _ => sends_loadIdentity hP
  · exact sends_perform _

theorem sends_linkWithChallenge (hP : ∀ r, Loads r → P r)
    (hsubmit : ∀ signedEvent signerType, P (.submit signedEvent signerType)) (signerType : String)
    (challenge : Json) : Sends P (linkWithChallenge signerType challenge) := by
  refine (sends_read _ _).bind fun kind => ?_
  refine (sends_perform _).bind fun created_at => ?_
  refine (sends_read _ _).bind fun nonce => ?_
  refine (sends_read _ _).bind fun domain => ?_
  refine (sends_read _ _).bind fun action => ?_
  refine (sends_perform _).bind fun signed => ?_
  split
  · exact sends_perform _
  · exact (sends_fetchJSON (hsubmit _ _)).bind fun result => sends_finish hP result _ _

theorem sends_performLink (hP : ∀ r, Loads r → P r)
    (hchallenge : P (.plain "POST" ["link", "challenge"] none))
    (hsubmit : ∀ signedEvent signerType, P (.submit signedEvent signerType)) (signerType : String) :
    Sends P (performLink signerType) := by
  refine (sends_perform _).bind fun _ => ?_
  refine (sends_perform _).bind fun _ => ?_
  refine Sends.bind (sends_catching ?_) fun _ => sends_perform _
  refine (sends_fetchJSON hchallenge).bind fun result => ?_
  split
  · exact sends_linkWithChallenge hP hsubmit signerType _
  · exact sends_perform _

theorem sends_linkWith (hP : ∀ r, Loads r → P r)
    (hchallenge : P (.plain "POST" ["link", "challenge"] none))
    (hsubmit : ∀ signedEvent signerType, P (.submit signedEvent signerType)) (signer : Signer) :
    Sends P (linkWith signer) := by
  have hlink := sends_performLink hP hchallenge hsubmit
  have hsigner : ∀ signer connected, Sends P (linkWithSigner signer connected) := by
    intro signer connected
    unfold linkWithSigner
    split
    · exact hlink _
    · exact sends_perform _
    · trivial
  have hask : ∀ signer, Sends P (askSigner signer) := fun signer =>
    (sends_perform _).bind fun _ => (sends_perform _).bind fun _ => (sends_perform _).bind
      fun connected => (hsigner signer connected).bind fun _ => sends_perform _
  cases signer with
  | nip07 =>
    refine (sends_perform _).bind fun found => ?_
    split
    · exact hlink _
    · exact sends_perform _
  | nip46 => exact hask .nip46
  | passkey => exact hask .passkey
  | localKey => exact hsigner .localKey (.ok ())

end Scripts

/-- **Every action keeps to its requests.** -/
theorem program_sends (act : Action) : Sends (Requests act) act.program := by
  cases act with
  | openPage =>
    exact Prog.Within.attempt_bind (sends_loadIdentity fun _ hr => hr) fun _ _ => sends_perform _
  | chooseMode mode => trivial
  | typeLabel label => trivial
  | link signer offer =>
    have hsubmit : ∀ signedEvent signerType,
        Requests (.link signer offer) (.submit signedEvent signerType) :=
      fun signedEvent signerType => Or.inr (Or.inr ⟨signedEvent, signerType, rfl⟩)
    exact sends_linkWith (P := Requests (.link signer offer)) (fun _ hr => Or.inl hr)
      (Or.inr (Or.inl rfl)) hsubmit signer
  | unlink =>
    refine (sends_perform _).bind fun _ => ?_
    refine (sends_perform _).bind fun confirmed => ?_
    split
    · refine (sends_perform _).bind fun _ => ?_
      refine Sends.bind (sends_catching ?_) fun _ => sends_perform _
      exact (sends_fetchJSON (Or.inr rfl)).bind fun result =>
        sends_finish (fun _ hr => Or.inl hr) result _ _
    · trivial
  | revoke identityId =>
    refine (sends_perform _).bind fun _ => ?_
    refine (sends_perform _).bind fun confirmed => ?_
    split
    · apply sends_catching
      exact (sends_fetchJSON (Or.inr rfl)).bind fun result =>
        sends_finish (fun _ hr => Or.inl hr) result _ _
    · trivial
  | rename identityId =>
    refine (sends_perform _).bind fun label => ?_
    split
    · trivial
    · split
      · exact sends_perform _
      · refine (sends_perform _).bind fun _ => sends_catching ?_
        exact (sends_fetchJSON (Or.inr ⟨_, rfl⟩)).bind fun result =>
          sends_finish (fun _ hr => Or.inl hr) result _ _

/-! ## What the service does for an action -/

/-- The calls on the store that an action may lead to. -/
def Writes : Action → MappingCall → Prop
  | .link .., .link .. | .link .., .add_identity .. => True
  | .unlink, _ | .revoke _, _ => True
  | .rename _, c => ∃ identityId u label, c = .update_identity_label identityId u label
  | _, _ => False

/-- Where the requests of an action lead. -/
def Leads : Action → Endpoint → Prop
  | .link .., endpoint => endpoint = .link_endpoint ∨ endpoint = .add_identity_endpoint
  | .unlink, endpoint => endpoint = .unlink_endpoint
  | .revoke _, endpoint => ∃ id, endpoint = .revoke_identity_endpoint id
  | .rename _, endpoint => ∃ id, endpoint = .update_identity_endpoint id
  | _, _ => False

/-- Open to a page, and without a writing call. -/
def Quiet (endpoint : Endpoint) : Prop :=
  endpoint = .policy_endpoint ∨ endpoint = .identities_endpoint ∨ endpoint = .link_challenge_endpoint

theorem endpointOf_load {r : Call} (hr : Loads r) (page : Page) (inp : PageInput) {endpoint : Endpoint}
    (h : endpointOf (r.job page inp).request = some endpoint) : Quiet endpoint := by
  rcases hr with rfl | rfl
  · cases h
    exact Or.inl rfl
  · cases h
    exact Or.inr (Or.inl rfl)

/-- The routes of one identity. -/
theorem endpointOf_identities {request : Request} {id : String} {endpoint : Endpoint}
    (hpath : request.path = ["identities", id]) (h : endpointOf request = some endpoint) :
    (request.method = "PATCH" → endpoint = .update_identity_endpoint id) ∧
      (request.method = "DELETE" → endpoint = .revoke_identity_endpoint id) := by
  unfold endpointOf at h
  rw [hpath] at h
  by_cases hid : id = ""
  · subst hid
    constructor <;> intro hmethod <;> rw [hmethod] at h <;> cases h
  · constructor <;> intro hmethod <;> rw [hmethod] at h <;>
      simp [routes, words, Route.takes, Route.endpointAt, matchPath, hid] at h <;>
      exact h.symm

theorem endpointOf_request {act : Action} {r : Call} (hr : Requests act r) (page : Page)
    (inp : PageInput) {endpoint : Endpoint}
    (h : endpointOf (r.job page inp).request = some endpoint) : Quiet endpoint ∨ Leads act endpoint := by
  cases act with
  | openPage => exact Or.inl (endpointOf_load hr page inp h)
  | chooseMode mode => exact Or.inl (endpointOf_load hr page inp h)
  | typeLabel label => exact Or.inl (endpointOf_load hr page inp h)
  | link signer offer =>
    rcases hr with hr | rfl | ⟨signedEvent, signerType, rfl⟩
    · exact Or.inl (endpointOf_load hr page inp h)
    · cases h
      exact Or.inl (Or.inr (Or.inr rfl))
    · right
      by_cases hadding : adding page = true
      · simp only [Call.job, request, if_pos hadding] at h
        cases h
        exact Or.inr rfl
      · simp only [Call.job, request, if_neg hadding] at h
        cases h
        exact Or.inl rfl
  | unlink =>
    rcases hr with hr | rfl
    · exact Or.inl (endpointOf_load hr page inp h)
    · cases h
      exact Or.inr rfl
  | revoke identityId =>
    rcases hr with hr | rfl
    · exact Or.inl (endpointOf_load hr page inp h)
    · exact Or.inr ⟨_, (endpointOf_identities rfl h).2 rfl⟩
  | rename identityId =>
    rcases hr with hr | ⟨body, rfl⟩
    · exact Or.inl (endpointOf_load hr page inp h)
    · exact Or.inr ⟨_, (endpointOf_identities rfl h).1 rfl⟩

/-- The call, if it writes an identity, writes its label. -/
def Labels (o : Op) : Prop :=
  ∀ c, o = .mapping c → c.writes = true →
    ∃ identityId u label, c = .update_identity_label identityId u label

/-- The handler writes labels only. -/
structure Relabels {α : Type} (p : Handler α) : Prop where
  within : p.Within Rely Labels fun _ => True

section Relabels

variable {α β : Type} {p : Handler α}

theorem Relabels.bind {f : α → Handler β} (hp : Relabels p) (hf : ∀ a, Relabels (f a)) :
    Relabels (p.bind f) := ⟨hp.within.bind (fun a _ => (hf a).within) fun _ _ => trivial⟩

theorem Relabels.attempt_bind {f : Except Exn α → Handler β} (hp : Relabels p)
    (hf : ∀ x, Relabels (f x)) : Relabels ((p.attempt : Handler (Except Exn α)).bind f) :=
  ⟨hp.within.attempt_bind fun x _ => (hf x).within⟩

theorem relabels_of_returns {P : α → Prop} {E : Exn → Prop} (hp : p.Returns P E) : Relabels p :=
  ⟨hp.within (fun _ _ => trivial) fun _ _ => trivial⟩

theorem relabels_call {o : Op} {k : o.Ans → Handler α} (ho : Labels o) (hk : ∀ r, Relabels (k r)) :
    Relabels (.call o k) := ⟨ho, fun r _ => (hk r).within⟩

theorem relabels_ofExcept (x : Except Exn α) : Relabels (Prog.ofExcept x : Handler α) := by
  cases x <;> exact ⟨trivial⟩

theorem relabels_refuse (s : Nat) (m : String) : Relabels (refuse s m : Handler α) := ⟨trivial⟩

end Relabels

theorem relabels_username (settings : Settings) (request : Request) :
    Relabels (_authenticated_username settings request) := by
  refine (relabels_of_returns (requireCookie_returns request)).bind fun cookie => ?_
  have hask : Relabels (PortalClient.get_authenticated_username cookie (hostOf request)
      settings.portal_api_base_url) := by
    have hsession : Relabels (PortalClient.get_authenticated_session cookie (hostOf request)
        settings.portal_api_base_url) := relabels_call nofun fun reply => relabels_ofExcept _
    exact hsession.bind fun _ => ⟨trivial⟩
  refine hask.attempt_bind fun outcome => ?_
  split
  · exact ⟨trivial⟩
  · exact relabels_refuse _ _
  · exact ⟨trivial⟩

/-- `PATCH /identities/<id>` writes labels only. -/
theorem relabels_update_identity (sdk : NostrSdk) (settings : Settings) (request : Request)
    (identity_id : String) :
    Relabels (update_identity_endpoint sdk settings request identity_id) := by
  have hensure : ∀ (c : Prop) [Decidable c] (e : Exn), Relabels (Prog.ensure c e : Handler Unit) := by
    intro c _ e
    unfold Prog.ensure
    split <;> exact ⟨trivial⟩
  refine (hensure _ _).bind fun _ => ?_
  refine (relabels_of_returns (readJson_returns request)).bind fun body => ?_
  refine (relabels_of_returns (newLabel_returns body)).bind fun label => ?_
  refine (relabels_username settings request).bind fun username => ?_
  refine (relabels_of_returns (identityId_returns identity_id)).bind fun id => ?_
  refine (hensure _ _).bind fun _ => ?_
  refine (relabels_of_returns (encodedLabel_returns label)).bind fun label => ?_
  refine (relabels_of_returns (encodedAfter_returns id username)).bind fun username => ?_
  have hupdate : Relabels (mappings (.update_identity_label id username label)) := by
    refine relabels_call ?_ fun reply => relabels_ofExcept reply
    rintro c ⟨⟩ _
    exact ⟨id, username, label, rfl⟩
  refine hupdate.bind fun identity => ?_
  split
  · exact relabels_refuse _ _
  · next identity =>
    have hlog : ∀ level message, Relabels (log level message) := fun level message =>
      relabels_call nofun fun _ => ⟨trivial⟩
    refine (hlog _ _).bind fun _ => ?_
    exact (relabels_of_returns (identity_json_returns sdk identity)).bind fun _ => ⟨trivial⟩

/-- What a job that was routed to that endpoint calls. -/
def RelabelsThere (job : Job) (_ : Trace) (o : Op) : Prop :=
  ∀ id, endpointOf job.request = some (.update_identity_endpoint id) → Labels o

theorem handle_relabels (sdk : NostrSdk) (job : Job) :
    (handle sdk job).wp Rely (RelabelsThere job) (fun _ _ => True) [] := by
  by_cases hroute : ∃ id, endpointOf job.request = some (.update_identity_endpoint id)
  · obtain ⟨id, hroute⟩ := hroute
    have hlabels : Relabels (handle sdk job) := by
      unfold Server.handle
      rw [hroute]
      exact (relabels_update_identity sdk job.settings job.request id).attempt_bind
        fun _ => ⟨trivial⟩
    exact Prog.wp_mono (fun _ _ ho _ _ => ho) (fun _ _ h => h) _ hlabels.within.wp
  · exact Prog.wp_mono (fun _ _ _ id hid => absurd ⟨id, hid⟩ hroute) (fun _ _ h => h) _
      (Prog.within_any _).wp

/-! ## From the log to the action -/

/-- The job was sent for this action. -/
abbrev TakenFor (c : Pages) (i : Nat) (act : Action) : Prop := Clients.SentBy c i act

section Calls

variable {sdk : NostrSdk} {w : World} {c : Pages}

/-- What the endpoints of a page may write. -/
theorem allowed_write {job : Job} {endpoint : Endpoint} {h : Trace} {call : MappingCall}
    (ha : Allowed sdk job endpoint h (.mapping call)) (hwrites : call.writes = true) :
    ¬Quiet endpoint ∧ (endpoint = .link_endpoint ∨ endpoint = .add_identity_endpoint →
      call.records = true) := by
  refine ⟨?_, ?_⟩
  · rintro (rfl | rfl | rfl) <;> cases ha with
    | edit_own _ _ _ _ h => cases h
    | admin_edit _ _ _ _ h => cases h
    | read _ _ _ h => cases h.symm.trans hwrites
    | record _ _ _ _ _ _ _ _ h => obtain ⟨_, _, ⟨⟨⟩, _⟩ | ⟨⟨⟩, _⟩⟩ := h
  · rintro (rfl | rfl) <;> cases ha with
    | edit_own _ _ _ _ h => cases h
    | admin_edit _ _ _ _ h => cases h
    | read _ _ _ h => cases h.symm.trans hwrites
    | record _ _ _ _ _ _ _ _ h => obtain ⟨_, _, ⟨_, rfl⟩ | ⟨_, rfl⟩⟩ := h <;> rfl

/-- Every writing call of the log belongs to an action that may lead to it. -/
theorem writes_of_log (hc : Reachable sdk w c) {e : LogEntry} (he : e ∈ c.server.log)
    {call : MappingCall} (hop : e.op = .mapping call) (hwrites : call.writes = true) :
    ∃ act, TakenFor c e.who act ∧ Writes act call := by
  obtain ⟨m, hm⟩ := List.mem_iff_getElem?.mp he
  obtain ⟨job, endpoint, hjob, hroute, hallowed⟩ := allowed_of_log hc.server hm
  obtain ⟨act, r, page, inp, hsent, hr, rfl⟩ := (hc.kept program_sends).sent e.who job hjob
  refine ⟨act, hsent, ?_⟩
  rw [hop] at hallowed
  rcases endpointOf_request hr page inp hroute with hquiet | hleads
  · exact absurd hquiet (allowed_write hallowed hwrites).1
  · cases act with
    | link signer offer =>
      have hrecords := (allowed_write hallowed hwrites).2 hleads
      cases call with
      | link u p metadata => trivial
      | add_identity u p metadata => trivial
      | _ => cases hrecords
    | unlink => exact trivial
    | revoke identityId => exact trivial
    | rename identityId =>
      obtain ⟨id, rfl⟩ := hleads
      obtain ⟨job', hjob', hlabels⟩ :=
        (hc.server.guarded rely_exec (handle_relabels sdk)).log m e hm
      obtain rfl := Option.some.inj (hjob.symm.trans hjob')
      exact hlabels id hroute call hop hwrites
    | openPage => cases hleads
    | chooseMode mode => cases hleads
    | typeLabel label => cases hleads

/-! ## Lost identities -/

/-- The call found the identity enabled, and after it no enabled identity has that id. -/
def Lost (e : LogEntry) (r : IdentityRow) : Prop :=
  r ∈ e.before.mappings ∧ r.enabled = 1 ∧
    ∀ r' ∈ e.after.mappings, r'.identity_id = r.identity_id → r'.enabled ≠ 1

theorem entry_after (hc : Reachable sdk w c) {e : LogEntry} (he : e ∈ c.server.log) :
    e.after = (exec e.op e.input e.before).2 := by
  obtain ⟨m, hm⟩ := List.mem_iff_getElem?.mp he
  exact hc.server.after_eq hm

/-- An identity is lost only by a revocation of it, or by a call that clears its account. -/
theorem lost_call (hc : Reachable sdk w c) {e : LogEntry} (he : e ∈ c.server.log) {r : IdentityRow}
    (hlost : Lost e r) : ∃ call, e.op = .mapping call ∧ call.Effect e.before.mappings e.after.mappings ∧
      (call = .revoke_identity r.identity_id r.ynh_username ∨ Clears r.ynh_username call) := by
  obtain ⟨hr, hon, hgone⟩ := hlost
  have hafter := entry_after hc he
  rcases exec_mappings e.op e.input e.before with hsame | ⟨call, hop, heffect⟩
  · rw [hafter, hsame] at hgone
    exact absurd hon (hgone r hr rfl)
  · rw [← hafter] at heffect
    refine ⟨call, hop, heffect, ?_⟩
    rcases heffect.outcome hr with ⟨r', hr', hbecomes⟩ | ⟨hclears, _⟩
    · have hoff := hgone r' hr' hbecomes.same.identity_id
      cases hbecomes with
      | kept => exact absurd hon hoff
      | revoked t hcall _ => exact Or.inl hcall
      | labelled label _ _ => exact absurd hon hoff
      | touched t _ _ => exact absurd hon hoff
    · exact Or.inr hclears

/-- What `link` does to the identities of its account, unless the pubkey is somebody else's. -/
theorem link_loses (hc : Reachable sdk w c) {e : LogEntry} (he : e ∈ c.server.log)
    {u p : String} {metadata : MappingStore.Metadata} (hop : e.op = .mapping (.link u p metadata))
    (hfree : ∀ r ∈ e.before.mappings, r.pubkey = p → r.ynh_username = u) {r : IdentityRow}
    (hr : r ∈ e.before.mappings) (hu : r.ynh_username = u) (hon : r.enabled = 1) : Lost e r := by
  refine ⟨hr, hon, fun r' hr' hid => ?_⟩
  have hafter := entry_after hc he
  have halone : e.after.mappings =
      ((MappingCall.link u p metadata).alone e.input.clock e.before.mappings).2 := by
    rw [hafter, hop, exec_alone]
  have hdone := MappingOwnership.link_free e.input.clock metadata hfree
  obtain ⟨t, cursor, hins⟩ : (MappingCall.link u p metadata).Effect e.before.mappings _ :=
    MappingOwnership.effect_of_ok e.input.clock rfl hdone
  rw [halone] at hr'
  rcases ((MappingStore.insertNew_ok hins).2 r').mp hr' with hold | rfl
  · obtain ⟨hold, hne⟩ := MappingDb.mem_deleteUser.mp hold
    obtain rfl := Serial.eq_of_id hold hr hid
    exact absurd hu hne
  · have hbound : r.identity_id ≤ e.before.mappings.identities.seq :=
      e.before.mappings.identities.bounded r hr
    have hseq : (MappingDb.deleteUser u e.before.mappings).1.identities.seq =
        e.before.mappings.identities.seq := rfl
    simp only [MappingStore.newRow, hseq] at hid
    omega

end Calls

/-! ## Two pages -/

/-- The user took the action as Replace, Unlink or Revoke. -/
def removes : Action → Bool
  | .unlink | .revoke _ | .link _ .replace => true
  | _ => false

/-- Identities are lost only by actions taken as such, and never by a link from a page that
showed no active identity. -/
structure NothingLost (c : Pages) : Prop where
  wanted : ∀ e ∈ c.server.log, ∀ r, Lost e r → ∃ act, TakenFor c e.who act ∧ removes act = true
  link_keeps : ∀ e ∈ c.server.log, ∀ signer r, TakenFor c e.who (.link signer .link) → ¬Lost e r

/-- Whenever the service makes the replacing call for a link that its user did not take as
Replace, the pubkey is somebody else's or the account has no enabled identity at that moment. -/
def LinksFree (c : Pages) : Prop :=
  ∀ e ∈ c.server.log, ∀ signer offer u p metadata, TakenFor c e.who (.link signer offer) →
    offer ≠ .replace → e.op = .mapping (.link u p metadata) →
      (∃ r ∈ e.before.mappings, r.pubkey = p ∧ r.ynh_username ≠ u) ∨
        ∀ r ∈ e.before.mappings, r.ynh_username = u → r.enabled ≠ 1

section Runs

variable {sdk : NostrSdk} {w : World} {c : Pages}

/-- Where the links are free, only an action taken as such loses an identity. -/
theorem wanted_of_free (hc : Reachable sdk w c) (hfree : LinksFree c) {e : LogEntry}
    (he : e ∈ c.server.log) {r : IdentityRow} (hlost : Lost e r) :
    ∃ act, TakenFor c e.who act ∧ removes act = true := by
  obtain ⟨call, hop, heffect, hcall⟩ := lost_call hc he hlost
  obtain ⟨act, htaken, hwrites⟩ := writes_of_log hc he hop heffect.writes
  refine ⟨act, htaken, ?_⟩
  cases act with
  | unlink => rfl
  | revoke identityId => rfl
  | link signer offer =>
    by_contra hkeeps
    have hoffer : offer ≠ .replace := fun h => hkeeps (h ▸ rfl)
    rcases hcall with rfl | rfl | ⟨p, metadata, rfl⟩
    · cases hwrites
    · cases hwrites
    · rcases hfree e he signer offer _ p metadata htaken hoffer hop with ⟨a, ha, hp, hu⟩ | hnone
      · -- the call was refused, so it has no effect
        obtain ⟨t, cursor, hins⟩ := heffect
        have hold : a ∈ (MappingDb.deleteUser r.ynh_username e.before.mappings).1 :=
          MappingDb.mem_deleteUser.mpr ⟨ha, hu⟩
        exact (MappingStore.insertNew_ok hins).1 a hold hp
      · exact hnone r hlost.1 rfl hlost.2.1
  | rename identityId =>
    obtain ⟨id, u, label, rfl⟩ := hwrites
    rcases hcall with h | h | ⟨_, _, h⟩ <;> cases h
  | openPage => cases hwrites
  | chooseMode mode => cases hwrites
  | typeLabel label => cases hwrites

/-- Where nothing is lost, the links were free. -/
theorem free_of_nothingLost (hc : Reachable sdk w c) (h : NothingLost c) : LinksFree c := by
  intro e he signer offer u p metadata htaken hoffer hop
  by_contra hno
  rw [not_or] at hno
  obtain ⟨hown, hany⟩ := hno
  have hfree : ∀ r ∈ e.before.mappings, r.pubkey = p → r.ynh_username = u := by
    intro r hr hp
    by_contra hu
    exact hown ⟨r, hr, hp, hu⟩
  push Not at hany
  obtain ⟨r, hr, hu, hon⟩ := hany
  obtain ⟨act, htaken', hremoves⟩ := h.wanted e he r (link_loses hc he hop hfree hr hu hon)
  obtain rfl := htaken.unique htaken'
  cases offer with
  | replace => exact hoffer rfl
  | link => cases hremoves
  | add => cases hremoves

/-- What a step does to an enabled identity: it keeps it, or it is a call that loses it. -/
theorem step_keeps {c' : Pages} (hs : Clients.Step (service sdk) accountPage c c')
    {r : IdentityRow} (hr : r ∈ c.server.world.mappings) (hon : r.enabled = 1) :
    (∃ r' ∈ c'.server.world.mappings, r'.identity_id = r.identity_id ∧ r'.enabled = 1) ∨
      ∃ e, c'.server.log = c.server.log ++ [e] ∧ Lost e r := by
  have hsame : ∀ {w : World}, w = c.server.world →
      ∃ r' ∈ w.mappings, r'.identity_id = r.identity_id ∧ r'.enabled = 1 := by
    rintro _ rfl
    exact ⟨r, hr, rfl, hon⟩
  cases hs with
  | begin => exact Or.inl (hsame rfl)
  | act => exact Or.inl (hsame rfl)
  | send => exact Or.inl (hsame rfl)
  | receive => exact Or.inl (hsame rfl)
  | lose => exact Or.inl (hsame rfl)
  | serve server hs _ =>
    cases hs with
    | arrive i j _ => exact Or.inl (hsame rfl)
    | abort i => exact Or.inl (hsame rfl)
    | restart inp =>
      refine Or.inl ⟨r, ?_, rfl, hon⟩
      show r ∈ (create_app inp c.server.world).mappings
      simp only [create_app, MappingStore.run_init]
      split
      · exact hr
      · exact MappingDb.mem_copyUsers_of_mem _ hr
    | call i o next inp _ =>
      by_cases hkept : ∃ r' ∈ (exec o inp c.server.world).2.mappings,
          r'.identity_id = r.identity_id ∧ r'.enabled = 1
      · exact Or.inl hkept
      · exact Or.inr ⟨_, rfl, hr, hon, fun r' hr' hid hon' => hkept ⟨r', hr', hid, hon'⟩⟩

/-- **Two pages of one account.** In every run of any number of pages with the service, nothing
is lost just where every link that was not taken as Replace found its account without an enabled
identity, or was refused. No other step loses an identity, and every button reads what its page
offers. -/
theorem nothing_lost_iff (sdk : NostrSdk) (w : World) (c : Pages) (hc : Reachable sdk w c) :
    (NothingLost c ↔ LinksFree c) ∧
      (∀ c', Clients.Step (service sdk) accountPage c c' → ∀ r ∈ c.server.world.mappings,
        r.enabled = 1 →
          (∃ r' ∈ c'.server.world.mappings, r'.identity_id = r.identity_id ∧ r'.enabled = 1) ∨
            ∃ e, c'.server.log = c.server.log ++ [e] ∧ Lost e r) ∧
      ∀ k, (c.state k).linkBtnText = (c.state k).offer.text := by
  refine ⟨⟨free_of_nothingLost hc, fun hfree => ⟨?_, ?_⟩⟩, ?_, fun k => (shows hc k).button⟩
  · exact fun e he r hlost => wanted_of_free hc hfree he hlost
  · intro e he signer r htaken hlost
    obtain ⟨act, htaken', hremoves⟩ := wanted_of_free hc hfree he hlost
    obtain rfl := htaken.unique htaken'
    cases hremoves
  · exact fun c' hs r hr hon => step_keeps hs hr hon

end Runs

/-! ## A stale page -/

def secondNonce : String := "q8Wm2nXtB7cVJr0LkY5Hd_sPz1GfUe9aTo4iRj6N3CE"

def secondEvent : List (PyStr × Json) :=
  [("id", .str "effba477ca4081e10338628402fec31fb83e08c8f8fa3810f87d2e7d2c5d12d3"),
    ("pubkey", .str laptopKey), ("created_at", .int 1767225606), ("kind", .int 22242),
    ("tags", .arr [.arr [.str "challenge", .str secondNonce], .arr [.str "domain", .str "a.example"],
      .arr [.str "action", .str "yunohost-link"]]), ("content", .str ""),
    ("sig", .str ("5bc92266e0783bd723010968583c7c829cc726dd4bb713e3b087dc4612a7f2c5" ++
      "f1c1ff2741c03cf7219fc65ba817081005146b9de1df0df09ae67fdb110adcca"))]

def secondSigned : SignedEvent where
  kind := 22242
  tags := [["challenge", secondNonce], ["domain", "a.example"], ["action", "yunohost-link"]]
  created_at := 1767225606
  author := laptopKey

/-- The SDK, where the only text it is given are those of the two events. -/
def twoKeys : NostrSdk :=
  { (sampleEvent "yunohost-link").sdk with
    from_json := fun text =>
      if text = Json.dumps (.obj secondEvent) then .ok secondSigned
      else .ok (sampleEvent "yunohost-link") }

def pageInput (signedEvent : List (PyStr × Json)) : PageInput where
  settings := .default
  headers := headersOf [("host", "a.example"), ("cookie", "yunohost.portal=token")]
  client := some "127.0.0.1"
  now := 1767225605
  confirmed := true
  answer := none
  connected := .ok ()
  signedEvent := some (.obj signedEvent)

abbrev PageMove := Clients.Move PageInput Oracle Action

/-- One `fetchJSON`, as the job `i` of `calls` calls, and the `rest` steps of the script after it. -/
def fetches (a i calls rest : Nat) (inp : PageInput) (oracle : Oracle) : List PageMove :=
  [.send a i inp] ++ List.replicate calls (.call i oracle) ++ [.receive a] ++ List.replicate rest (.act a inp)

/-- A page is opened and loads its list. -/
def opens (a k i : Nat) (inp : PageInput) : List PageMove :=
  [.begin a k .openPage] ++ fetches a i 0 1 inp (sampleInput 0) ++
    fetches a (i + 1) 2 2 inp (sampleInput 0)

/-- The user of a page that shows no active identity links one. -/
def links (a k i : Nat) (signedEvent : List (PyStr × Json)) (oracle : Oracle) : List PageMove :=
  [.begin a k (.link .nip07 .link)] ++ List.replicate 3 (.act a (pageInput signedEvent)) ++
    fetches a i 1 2 (pageInput signedEvent) oracle ++
    fetches a (i + 1) 4 1 (pageInput signedEvent) oracle

def staleMoves : List PageMove :=
  opens 0 0 0 (pageInput []) ++ opens 1 1 2 (pageInput []) ++
    links 2 1 4 linkEvent (sampleInput 0) ++
    links 3 0 6 secondEvent { sampleInput 0 with nonce := secondNonce }

def staleRun : Pages := (Clients.init accountPage noIdentities).play (service twoKeys) accountPage staleMoves

theorem staleRun_reachable : Reachable twoKeys noIdentities staleRun :=
  Clients.Reachable.init.play staleMoves

/-- The second link deletes the identity that the first one made. -/
theorem staleRun_loses : TakenFor staleRun 7 (.link .nip07 .link) ∧
    ∃ e ∈ staleRun.server.log, e.who = 7 ∧ ∃ r, r.pubkey = aliceKey ∧ Lost e r := by
  have hrun : staleRun.sender 7 = some 3 ∧
      (staleRun.activity 3).map Activity.act = some (.link .nip07 .link) ∧
      ∃ e ∈ staleRun.server.log, e.who = 7 ∧ ∃ r ∈ e.before.mappings.identities.rows,
        r.pubkey = aliceKey ∧ r.enabled = 1 ∧ ∀ r' ∈ e.after.mappings.identities.rows,
          r'.identity_id = r.identity_id → r'.enabled ≠ 1 := by decide +kernel
  obtain ⟨hsender, hact, e, he, hwho, r, hr, hkey, hon, hgone⟩ := hrun
  obtain ⟨x, hx, hlink⟩ := Option.map_eq_some_iff.mp hact
  exact ⟨⟨3, x, hsender, hx, hlink⟩, e, he, hwho, r, hkey, hr, hon, hgone⟩

/-- A page that showed no active identity deletes what another page linked meanwhile. -/
theorem stale_page_loses : ¬∀ (sdk : NostrSdk) (w : World) (c : Pages),
    Reachable sdk w c → NothingLost c := by
  intro h
  obtain ⟨htaken, e, he, hwho, r, _, hlost⟩ := staleRun_loses
  exact (h twoKeys noIdentities staleRun staleRun_reachable).link_keeps e he .nip07 r
    (hwho ▸ htaken) hlost

theorem staleRun_not_free : ¬LinksFree staleRun := by
  intro hfree
  obtain ⟨htaken, e, he, hwho, r, _, hlost⟩ := staleRun_loses
  have hnothing := (nothing_lost_iff twoKeys noIdentities staleRun staleRun_reachable).1.mpr hfree
  exact hnothing.link_keeps e he .nip07 r (hwho ▸ htaken) hlost

end NostrAuth.TwoPages
