import NostrAuth.LoginSoundness
import NostrAuth.MappingRows

/-! Who may change an identity: every row of the run has a recording call behind it, and a
row changes or disappears only on behalf of its owner, of an administrator, or of a login. -/

set_option autoImplicit false

namespace NostrAuth

open Interaction

namespace MappingCall

theorem Effect.writes {c : MappingCall} {before after : MappingDb} (h : Effect c before after) :
    c.writes = true := by
  cases c with
  | link_unencodable replace u p text => cases h
  | get_by_pubkey p => cases h
  | get_by_username u => cases h
  | list_by_username u all => cases h
  | list_all => cases h
  | _ => rfl

/-- What a call makes of a row: it keeps it, deletes or edits it for the account it names,
or sets `last_used`. -/
inductive RowFate (c : MappingCall) (after : MappingDb) (a : IdentityRow) : Prop
  | kept : a ∈ after → RowFate c after a
  | deleted : c.account = some a.ynh_username →
      (∀ r ∈ after, r.identity_id ≠ a.identity_id) → RowFate c after a
  | edited (r : IdentityRow) : c.account = some a.ynh_username → r ∈ after →
      SameIdentity r a → r.last_used = a.last_used → RowFate c after a
  | touched (t : Int) : c = touch_identity a.identity_id ∨ c = touch_last_used a.ynh_username →
      a.enabled = 1 → MappingDb.touched t a ∈ after → RowFate c after a

theorem Effect.rowFate {c : MappingCall} {before after : MappingDb} (h : Effect c before after)
    {a : IdentityRow} (ha : a ∈ before) : RowFate c after a := by
  rcases h.outcome ha with ⟨r, hr, hbecomes⟩ | ⟨hclears, hgone⟩
  · cases hbecomes with
    | kept => exact .kept hr
    | revoked t hc _ => exact .edited _ (congrArg account hc) hr (revoked_same t a) rfl
    | labelled label hc _ => exact .edited _ (congrArg account hc) hr (labelled_same label a) rfl
    | touched t hc hon => exact .touched t hc hon hr
  · refine .deleted ?_ hgone
    rcases hclears with rfl | ⟨p, metadata, rfl⟩
    · rfl
    · rfl

end MappingCall

namespace Server

open PortalClient

/-! ## One call -/

theorem exec_alone (c : MappingCall) (inp : Oracle) (w : World) :
    (exec (.mapping c) inp w).2.mappings = (c.alone inp.clock w.mappings).2 := by
  rw [c.alone_eq, exec]

/-- A call that raises leaves the world alone. -/
theorem exec_raises {w : World} {c : MappingCall} {o : Oracle} {e : Exn}
    (h : (c.alone o.clock w.mappings).1 = .error e) :
    exec (.mapping c) o w = (.error e, w) := by
  have hworld : (exec (.mapping c) o w).2.mappings = w.mappings :=
    (exec_alone c o w).trans ((c.alone_spec o.clock w.mappings).1 e h)
  rw [c.alone_eq] at h
  refine Prod.ext ?_ ?_
  · show (c.method.run o.clock w.mappings none).1 = .error e
    cases hrun : (c.method.run o.clock w.mappings none).1 with
    | error e' =>
      rw [hrun] at h
      exact congrArg Except.error (Except.error.inj h)
    | ok reply =>
      rw [hrun] at h
      cases h
  · exact congrArg (fun db => ({ w with mappings := db } : World)) hworld

/-- What a call makes of the identities: its specification, or nothing. -/
theorem exec_mappings (o : Op) (inp : Oracle) (w : World) :
    (exec o inp w).2.mappings = w.mappings ∨
      ∃ c, o = .mapping c ∧ c.Effect w.mappings (exec o inp w).2.mappings := by
  cases o with
  | mapping c =>
    have hrun := (exec_alone c inp w).symm
    have hspec := c.alone_spec inp.clock w.mappings
    cases hr : (c.alone inp.clock w.mappings).1 with
    | error e => exact Or.inl (hrun ▸ hspec.1 e hr)
    | ok r =>
      have hok := hspec.2 r hr
      rw [hrun] at hok
      split at hok
      · exact Or.inr ⟨c, rfl, hok⟩
      · exact Or.inl hok
  | issue domain action => exact Or.inl rfl
  | consume nonce => exact Or.inl rfl
  | me cookie host base => exact Or.inl rfl
  | mint u host => exact Or.inl rfl
  | log level message => exact Or.inl rfl

/-- A restart leaves the identities alone where no older database is left to import. -/
theorem create_app_mappings {inp : Oracle} {w : World} (hw : w.mappings.users = none) :
    (∀ r, r ∈ (create_app inp w).mappings ↔ r ∈ w.mappings) ∧
      (create_app inp w).mappings.identities.seq = w.mappings.identities.seq ∧
      (create_app inp w).mappings.users = none := by
  simp only [create_app, MappingStore.run_init, hw]
  split
  · exact ⟨fun _ => Iff.rfl, rfl, hw⟩
  · exact ⟨fun _ => Iff.rfl, rfl, rfl⟩

/-! ## The log and the identities -/

/-- The call recorded the row: it was not there before, and a version of it was after. -/
def RecordedAt (e : LogEntry) (r : IdentityRow) : Prop :=
  ∃ metadata, (e.op = .mapping (.link r.ynh_username r.pubkey metadata) ∨
      e.op = .mapping (.add_identity r.ynh_username r.pubkey metadata)) ∧
    metadata.linked_by = r.linked_by ∧
    (∀ a ∈ e.before.mappings, a.identity_id ≠ r.identity_id) ∧
    ∃ r' ∈ e.after.mappings, SameIdentity r r'

theorem RecordedAt.of_same {e : LogEntry} {r r' : IdentityRow}
    (h : RecordedAt e r') (hsame : SameIdentity r r') : RecordedAt e r := by
  obtain ⟨metadata, hop, hby, hbefore, r'', hr'', hafter⟩ := h
  rw [← hsame.ynh_username, ← hsame.pubkey] at hop
  exact ⟨metadata, hop, hby.trans hsame.linked_by.symm,
    fun a ha => hsame.identity_id ▸ hbefore a ha, r'', hr'', hsame.trans hafter⟩

/-- What the log says of the identities: every row was recorded by a call, and the rows a
call saw are known ever after. -/
structure IdentitiesLogged (c : Run) : Prop where
  imported : c.world.mappings.users = none
  recorded : ∀ r ∈ c.world.mappings, ∃ (m : Nat) (e : LogEntry), c.log[m]? = some e ∧ RecordedAt e r
  known : ∀ (m : Nat) (e : LogEntry), c.log[m]? = some e →
    ∀ a ∈ e.before.mappings, MappingCall.Known a c.world.mappings

theorem identitiesLogged {sdk : NostrSdk} {w : World} (hw : w.mappings = MappingDb.empty) {c : Run}
    (hc : Reachable (service sdk) w c) : IdentitiesLogged c := by
  have hstart : IdentitiesLogged (Config.init w) :=
    ⟨by simp [Config.init, hw, MappingDb.empty], by simp [Config.init, hw], by simp [Config.init]⟩
  apply hc.invariant hstart
  intro c c' _ ih hs
  cases hs with
  | arrive i j _ => exact ⟨ih.imported, ih.recorded, ih.known⟩
  | abort i => exact ⟨ih.imported, ih.recorded, ih.known⟩
  | restart inp =>
    obtain ⟨hmem, hseq, hnone⟩ :
        (∀ r, r ∈ (create_app inp c.world).mappings ↔ r ∈ c.world.mappings) ∧
          (create_app inp c.world).mappings.identities.seq = c.world.mappings.identities.seq ∧
          (create_app inp c.world).mappings.users = none := create_app_mappings ih.imported
    refine ⟨hnone, fun r hr => ih.recorded r ((hmem r).mp hr), fun m e he a ha => ?_⟩
    have hknown := ih.known m e he a ha
    exact ⟨Int.le_trans hknown.1 (Int.le_of_eq hseq.symm), fun r hr => hknown.2 r ((hmem r).mp hr)⟩
  | call i o p inp _ =>
    have hlift : ∀ (m : Nat) (e : LogEntry), c.log[m]? = some e →
        (c.log ++ [(service sdk).entry i o inp c.world])[m]? = some e := fun m e he => by
      rw [List.getElem?_append_left (List.getElem?_eq_some_iff.mp he).1, he]
    rcases exec_mappings o inp c.world with hsame | ⟨call, rfl, heffect⟩
    · refine ⟨(congrArg MappingDb.users hsame).trans ih.imported, fun r hr => ?_, fun m e he a ha => ?_⟩
      · obtain ⟨m, e, he, hrec⟩ := ih.recorded r (hsame ▸ hr)
        exact ⟨m, e, hlift m e he, hrec⟩
      · show MappingCall.Known a (exec o inp c.world).2.mappings
        rw [hsame]
        rcases getElem?_append_singleton he with ⟨_, he⟩ | ⟨_, rfl⟩
        · exact ih.known m e he a ha
        · exact MappingCall.known_of_mem ha
    · refine ⟨heffect.migration.2.trans ih.imported, fun r hr => ?_, fun m e he a ha => ?_⟩
      · rcases heffect.origin hr with ⟨a, ha, hsame⟩ | ⟨u, p, metadata, t, hcall, rfl⟩
        · obtain ⟨m, e, he, hrec⟩ := ih.recorded a ha
          exact ⟨m, e, hlift m e he, hrec.of_same hsame⟩
        · refine ⟨c.log.length, (service sdk).entry i (.mapping call) inp c.world, by simp, metadata,
            hcall.imp (congrArg Op.mapping)
            (congrArg Op.mapping), rfl, fun a ha hid => ?_, _, hr, SameIdentity.refl _⟩
          have hle := c.world.mappings.identities.bounded a ha
          simp only [MappingStore.newRow] at hid
          omega
      · rcases getElem?_append_singleton he with ⟨_, he⟩ | ⟨_, rfl⟩
        · exact (ih.known m e he a ha).renews heffect.renews
        · exact (MappingCall.known_of_mem ha).renews heffect.renews

/-! ## On whose behalf -/

/-- The self-service routes that write: `/link`, `/identities/link`, `/unlink` and the two
below `/identities`. -/
def Endpoint.selfService (endpoint : Endpoint) : Bool :=
  endpoint.editsOwn || endpoint == .link_endpoint || endpoint == .add_identity_endpoint

theorem administers_of_selfService {endpoint : Endpoint} (h : endpoint.selfService = true) :
    endpoint.administers = false := by
  cases endpoint <;> first | rfl | cases h

/-- portal-api answered the request's question about its own cookie and host with this
session, at the call `l`. -/
def NamedAt (c : Run) (who l : Nat) (job : Job) (session : AuthenticatedSession) : Prop :=
  ∃ (e : LogEntry) (reply : PortalReply), c.log[l]? = some e ∧ e.who = who ∧
    e.event = asked job reply ∧ readSession reply = .ok session

/-- Before `m` portal-api named the account `u` for the request, on a self-service route, or
an administrator, on an administration route. -/
def Authorised (c : Run) (who m : Nat) (u : String) : Prop :=
  ∃ job endpoint session l, c.job who = some job ∧ endpointOf job.request = some endpoint ∧
    l < m ∧ NamedAt c who l job session ∧
    ((endpoint.selfService = true ∧ session.username = u) ∨
      (endpoint.administers = true ∧ session.is_admin = true))

/-- The request is a login whose event verifies and was signed by `pubkey`. -/
def LoginBy (sdk : NostrSdk) (c : Run) (who : Nat) (pubkey : String) : Prop :=
  ∃ job challenge, c.job who = some job ∧
    endpointOf job.request = some .authenticate_endpoint ∧ SignedBy sdk job challenge pubkey

/-- What the call at `m` may do to the row `a`: nothing; delete it or change `enabled`,
`revoked_at` and `label` on behalf of its owner or of an administrator; or set `last_used` of
the enabled row of the pubkey that logs in. -/
def RowRespected (sdk : NostrSdk) (c : Run) (m : Nat) (e : LogEntry) (a : IdentityRow) : Prop :=
  a ∈ e.after.mappings ∨
    (Authorised c e.who m a.ynh_username ∧
      ((∀ r ∈ e.after.mappings, r.identity_id ≠ a.identity_id) ∨
        ∃ r ∈ e.after.mappings, SameIdentity r a ∧ r.last_used = a.last_used)) ∨
    (LoginBy sdk c e.who a.pubkey ∧ a.enabled = 1 ∧
      ∃ t, { a with last_used := some t } ∈ e.after.mappings)

/-- No other call of the run took the challenge taken at `k`: where another took one with the
same nonce, the nonce was issued anew in between. -/
def SoleTaker (c : Run) (k : Nat) (challenge : Challenge) : Prop :=
  ∀ k' challenge', Consumed c.log k' challenge' → challenge'.nonce = challenge.nonce →
    k' = k ∨ (k < k' ∧ ¬NotReissued c.log challenge.nonce k k') ∨
      (k' < k ∧ ¬NotReissued c.log challenge.nonce k' k)

/-- The row was recorded at `m` by a request to `/link` or `/identities/link` for which
portal-api named the row's account, and whose event was signed by the row's pubkey over a link
challenge that the request, and no other, took in time. -/
def LinkedAt (sdk : NostrSdk) (c : Run) (m : Nat) (r : IdentityRow) : Prop :=
  ∃ e job session l k challenge, c.log[m]? = some e ∧ RecordedAt e r ∧ c.job e.who = some job ∧
    (endpointOf job.request = some .link_endpoint ∨
      endpointOf job.request = some .add_identity_endpoint) ∧
    l < m ∧ NamedAt c e.who l job session ∧ session.username = r.ynh_username ∧
    challenge.action = LINK_ACTION ∧ SignedBy sdk job challenge r.pubkey ∧
    k < m ∧ (∃ (f : LogEntry) (nonce : Json), c.log[k]? = some f ∧ f.who = e.who ∧
      f.event = took nonce challenge ∧ f.input.clock 0 ≤ challenge.expires_at) ∧
    SoleTaker c k challenge

section Authority

variable {sdk : NostrSdk} {w : World} {c : Run}

theorem namedAt_of_asked {who m : Nat} {job : Job} {reply : PortalReply}
    {session : AuthenticatedSession} (h : asked job reply ∈ calls who (c.log.take m))
    (hs : readSession reply = .ok session) : ∃ l, l < m ∧ NamedAt c who l job session := by
  obtain ⟨l, e, hlm, he, hwho, hevent⟩ := exists_of_mem_calls_take h
  exact ⟨l, hlm, e, reply, he, hwho, hevent, hs⟩

theorem allowed_ask {job job' : Job} {endpoint : Endpoint} {h : Trace}
    (ha : Allowed sdk job' endpoint h (askMe job)) :
    h = [] ∨ ∃ nonce challenge, h = [took nonce challenge] := by
  unfold askMe at ha
  generalize ho : Op.me _ _ _ = o at ha
  cases ha with
  | ask _ _ hh => exact hh
  | _ => cases ho

/-- A request asks portal-api once. -/
theorem named_once (hc : Reachable (service sdk) w c) {who l l' : Nat} {job : Job}
    {session session' : AuthenticatedSession} (h : NamedAt c who l job session)
    (h' : NamedAt c who l' job session') : session = session' := by
  have hfirst : ∀ (m : Nat) (e : LogEntry), c.log[m]? = some e → (∃ reply, e.event = asked job reply) →
      ∀ v ∈ calls e.who (c.log.take m), ¬∃ reply, v = asked job reply := by
    intro m e he ⟨reply, hevent⟩ v hv ⟨reply', hv'⟩
    obtain ⟨job', endpoint, _, _, hallowed⟩ := allowed_of_log hc he
    have hop : e.op = askMe job := congrArg Event.op hevent
    rw [hop] at hallowed
    rw [hv'] at hv
    rcases allowed_ask hallowed with hnil | ⟨nonce, challenge, htook⟩
    · rw [hnil] at hv
      cases hv
    · rw [htook, List.mem_singleton] at hv
      cases hv
  obtain ⟨e, reply, he, hwho, hevent, hs⟩ := h
  obtain ⟨e', reply', he', hwho', hevent', hs'⟩ := h'
  obtain rfl := position_unique (P := fun v => ∃ reply, v = asked job reply) hfirst he he'
    (hwho.trans hwho'.symm) ⟨reply, hevent⟩ ⟨reply', hevent'⟩
  rw [he] at he'
  cases he'
  rw [hevent] at hevent'
  injection hevent' with _ hreply
  rw [hreply, hs'] at hs
  exact (Except.ok.inj hs).symm

theorem soleTaker (hc : Reachable (service sdk) w c) {k : Nat} {challenge : Challenge}
    (hk : Consumed c.log k challenge) : SoleTaker c k challenge := by
  intro k' challenge' hk' hn
  rcases Nat.lt_trichotomy k k' with hlt | heq | hlt
  · exact Or.inr (Or.inl ⟨hlt, consumed_twice hc hk hk' hlt hn⟩)
  · exact Or.inl heq.symm
  · refine Or.inr (Or.inr ⟨hlt, ?_⟩)
    rw [← hn]
    exact consumed_twice hc hk' hk hlt hn.symm

theorem authorised_self {who m : Nat} {job : Job} {endpoint : Endpoint} {reply : PortalReply}
    {session : AuthenticatedSession} (hjob : c.job who = some job)
    (hroute : endpointOf job.request = some endpoint) (hself : endpoint.selfService = true)
    (hasked : asked job reply ∈ calls who (c.log.take m)) (hs : readSession reply = .ok session)
    {u : String} (hu : session.username = .text u) : Authorised c who m u := by
  obtain ⟨l, hlm, hnamed⟩ := namedAt_of_asked hasked hs
  exact ⟨job, endpoint, session, l, hjob, hroute, hlm, hnamed, Or.inl ⟨hself, hu⟩⟩

theorem authorised_admin {who m : Nat} {job : Job} {endpoint : Endpoint} {reply : PortalReply}
    {session : AuthenticatedSession} (hjob : c.job who = some job)
    (hroute : endpointOf job.request = some endpoint) (hadmin : endpoint.administers = true)
    (hasked : asked job reply ∈ calls who (c.log.take m)) (hs : readSession reply = .ok session)
    (his : session.is_admin = true) (u : String) : Authorised c who m u := by
  obtain ⟨l, hlm, hnamed⟩ := namedAt_of_asked hasked hs
  exact ⟨job, endpoint, session, l, hjob, hroute, hlm, hnamed, Or.inr ⟨hadmin, his⟩⟩

/-- A call on behalf of the account it names respects every row. -/
theorem respected_of_authorised {m : Nat} {e : LogEntry} {a : IdentityRow} {call : MappingCall}
    (hfate : MappingCall.RowFate call e.after.mappings a)
    (hcall : call.edits = true ∨ call.records = true)
    (hauth : call.account = some a.ynh_username → Authorised c e.who m a.ynh_username) :
    RowRespected sdk c m e a := by
  cases hfate with
  | kept hkept => exact Or.inl hkept
  | deleted haccount hgone => exact Or.inr (Or.inl ⟨hauth haccount, Or.inl hgone⟩)
  | edited r haccount hr hsame hused =>
    exact Or.inr (Or.inl ⟨hauth haccount, Or.inr ⟨r, hr, hsame, hused⟩⟩)
  | touched t htouch =>
    rcases htouch with rfl | rfl
    · simp [MappingCall.edits, MappingCall.records] at hcall
    · simp [MappingCall.edits, MappingCall.records] at hcall

/-- What the request of a changed row did before. -/
theorem rowRespected (hw : w.mappings = MappingDb.empty) (hc : Reachable (service sdk) w c)
    {m : Nat} {e : LogEntry} (he : c.log[m]? = some e) {a : IdentityRow}
    (ha : a ∈ e.before.mappings) : RowRespected sdk c m e a := by
  obtain ⟨c', hc', hlog, hworld, _⟩ := hc.snapshot he
  have hafter : e.after = (exec e.op e.input e.before).2 := hc.after_eq he
  rcases exec_mappings e.op e.input e.before with hsame | ⟨call, hop, heffect⟩
  · exact Or.inl (by rw [hafter, hsame]; exact ha)
  rw [← hafter] at heffect
  have hfate := heffect.rowFate ha
  obtain ⟨job, endpoint, hjob, hroute, hallowed⟩ := allowed_of_log hc he
  rw [hop] at hallowed
  generalize hh : calls e.who (c.log.take m) = h at hallowed
  cases hallowed with
  | touch nonce challenge pubkey identity id haction hsigned hid =>
    cases hfate with
    | kept hkept => exact Or.inl hkept
    | deleted haccount => cases haccount
    | edited r haccount => cases haccount
    | touched t htouch hen hmem =>
      obtain rfl : id = a.identity_id := by simpa using htouch
      -- the row found before and the row touched now carry one id, so one pubkey
      obtain ⟨l, f, hlm, hf, _, hevent⟩ : ∃ (l : Nat) (f : LogEntry), l < m ∧ c.log[l]? = some f ∧
          f.who = e.who ∧ f.event = found pubkey identity :=
        exists_of_mem_calls_take (by rw [hh]; simp)
      obtain ⟨_, _, _, _, hfentry⟩ := hc.snapshot hf
      obtain ⟨r, hr, rfl, _, rfl⟩ := found_entry (hfentry ▸ hevent)
      have hknown := (identitiesLogged hw hc').known l f
        (by rw [hlog, List.getElem?_take, if_pos hlm, hf]) r hr
      have hsame := hknown.2 a (hworld ▸ ha) (Option.some.inj hid).symm
      rw [← hsame.pubkey] at hsigned
      exact Or.inr (Or.inr ⟨⟨job, challenge, hjob, hroute, hsigned⟩, hen, t, hmem⟩)
  | record _ _ nonce challenge pubkey reply session metadata hkind _ _ _ hs _ =>
    obtain ⟨username, hu, hkind⟩ := hkind
    have hself : endpoint.selfService = true := by rcases hkind with ⟨rfl, _⟩ | ⟨rfl, _⟩ <;> rfl
    have hauth := authorised_self (m := m) hjob hroute hself (by rw [hh]; simp) hs hu
    refine respected_of_authorised hfate (Or.inr ?_) fun haccount => ?_
    · rcases hkind with ⟨_, rfl⟩ | ⟨_, rfl⟩ <;> rfl
    · have hsame : username = a.ynh_username := by
        rcases hkind with ⟨_, rfl⟩ | ⟨_, rfl⟩ <;> exact Option.some.inj haccount
      exact hsame ▸ hauth
  | edit_own _ _ reply session howns hedits hs hnames =>
    have hself : endpoint.selfService = true := by simp [Endpoint.selfService, howns]
    obtain ⟨username, hu, haccount⟩ := hnames
    have hauth := authorised_self (m := m) hjob hroute hself (by rw [hh]; simp) hs hu
    apply respected_of_authorised hfate (Or.inl hedits)
    intro haccount'
    have hsame : username = a.ynh_username := by simpa [haccount] using haccount'
    exact hsame ▸ hauth
  | admin_edit _ _ reply session hadmin hedits hs his =>
    exact respected_of_authorised hfate (Or.inl hedits) fun _ =>
      authorised_admin hjob hroute hadmin (by rw [hh]; simp) hs his _
  | admin_record _ reply session username pubkey metadata hkind _ hs his =>
    refine respected_of_authorised hfate (Or.inr ?_) fun _ =>
      authorised_admin hjob hroute rfl (by rw [hh]; simp) hs his _
    rcases hkind with rfl | rfl <;> rfl
  | read _ _ _ hreads =>
    rw [heffect.writes] at hreads
    cases hreads

/-- A request on a self-service route leaves the rows of other accounts alone. -/
theorem others_untouched (hc : Reachable (service sdk) w c) {m l : Nat} {e : LogEntry} {job : Job}
    {endpoint : Endpoint} {session : AuthenticatedSession} (he : c.log[m]? = some e)
    (hjob : c.job e.who = some job) (hroute : endpointOf job.request = some endpoint)
    (hself : endpoint.selfService = true) (hnamed : NamedAt c e.who l job session)
    {r : IdentityRow} (hr : session.username ≠ r.ynh_username) :
    r ∈ e.after.mappings ↔ r ∈ e.before.mappings := by
  have hafter : e.after = (exec e.op e.input e.before).2 := hc.after_eq he
  rcases exec_mappings e.op e.input e.before with hsame | ⟨call, hop, heffect⟩
  · rw [hafter, hsame]
  rw [← hafter] at heffect
  obtain ⟨job', endpoint', hjob', hroute', hallowed⟩ := allowed_of_log hc he
  obtain rfl : job' = job := by simpa [hjob'] using hjob
  obtain rfl : endpoint' = endpoint := by simpa [hroute'] using hroute
  -- the account the call names is the one portal-api named, because it was asked once
  have hsame : ∀ (reply : PortalReply) (session' : AuthenticatedSession),
      asked job' reply ∈ calls e.who (c.log.take m) → readSession reply = .ok session' →
      session' = session := by
    intro reply session' hasked hs
    obtain ⟨l', _, hnamed'⟩ := namedAt_of_asked hasked hs
    exact named_once hc hnamed' hnamed
  rw [hop] at hallowed
  generalize hh : calls e.who (c.log.take m) = h at hallowed hsame
  cases hallowed with
  | touch => cases hself
  | record _ _ nonce challenge pubkey reply session' metadata hkind _ _ _ hs _ =>
    obtain rfl := hsame reply session' (by simp) hs
    obtain ⟨username, hu, hkind⟩ := hkind
    refine heffect.frame ?_ fun hsame => hr (by rw [hu, hsame])
    rcases hkind with ⟨_, rfl⟩ | ⟨_, rfl⟩ <;> rfl
  | edit_own _ _ reply session' _ _ hs hnames =>
    obtain rfl := hsame reply session' (by simp) hs
    obtain ⟨username, hu, haccount⟩ := hnames
    exact heffect.frame haccount fun hsame => hr (by rw [hu, hsame])
  | admin_edit _ _ _ _ hadmin =>
    rw [administers_of_selfService hself] at hadmin
    cases hadmin
  | admin_record => cases hself
  | read _ _ _ hreads =>
    rw [heffect.writes] at hreads
    cases hreads

/-- The administration routes record nothing as `self-service`. -/
theorem administers_of_recorded {job : Job} {endpoint : Endpoint} {h : Trace} {call : MappingCall}
    {u p : String} {metadata : MappingStore.Metadata}
    (ha : Allowed sdk job endpoint h (.mapping call))
    (hcall : call = .link u p metadata ∨ call = .add_identity u p metadata)
    (hby : metadata.linked_by = "self-service") : endpoint.administers = false := by
  cases ha with
  | touch => rcases hcall with h | h <;> cases h
  | record _ _ _ _ _ _ _ _ hkind =>
    obtain ⟨_, -, hkind⟩ := hkind
    rcases hkind with ⟨rfl, _⟩ | ⟨rfl, _⟩ <;> rfl
  | edit_own _ _ _ _ _ hedits => rcases hcall with rfl | rfl <;> cases hedits
  | admin_edit _ _ _ _ _ hedits => rcases hcall with rfl | rfl <;> cases hedits
  | admin_record _ _ _ _ _ _ hkind hadmin =>
    have hsame : metadata.linked_by = "admin" := by
      rcases hcall with rfl | rfl <;> rcases hkind with h | h <;> cases h <;> exact hadmin
    rw [hsame] at hby
    simp at hby
  | read _ _ _ hreads => rcases hcall with rfl | rfl <;> cases hreads

theorem linkedAt (hw : w.mappings = MappingDb.empty) (hc : Reachable (service sdk) w c)
    {r : IdentityRow} (hr : r ∈ c.world.mappings) (hby : r.linked_by = "self-service") :
    ∃ m, LinkedAt sdk c m r := by
  obtain ⟨m, e, he, hrecorded⟩ := (identitiesLogged hw hc).recorded r hr
  obtain ⟨metadata, hop, hmetadata, _⟩ := id hrecorded
  obtain ⟨call, hop, hcall⟩ : ∃ call, e.op = .mapping call ∧
      (call = .link r.ynh_username r.pubkey metadata ∨
        call = .add_identity r.ynh_username r.pubkey metadata) :=
    hop.elim (fun h => ⟨_, h, Or.inl rfl⟩) fun h => ⟨_, h, Or.inr rfl⟩
  obtain ⟨job, endpoint, hjob, hroute, hallowed⟩ := allowed_of_log hc he
  rw [hop] at hallowed
  have hself := administers_of_recorded hallowed hcall (hmetadata.trans hby)
  have hrecords : call.records = true := by rcases hcall with rfl | rfl <;> rfl
  obtain ⟨hendpoint, _, nonce, challenge, pubkey, reply, session, username, metadata', hh, hu, hcall',
    haction, hsigned, hs, _⟩ := allowed_record hallowed hrecords hself
  have hnames : username = r.ynh_username ∧ pubkey = r.pubkey := by
    rcases hcall' with rfl | rfl <;>
    · simp only [MappingCall.link.injEq, MappingCall.add_identity.injEq, reduceCtorEq, or_false,
        false_or] at hcall
      exact ⟨hcall.1, hcall.2.1⟩
  have htook : took nonce challenge ∈ calls e.who (c.log.take m) := by rw [hh]; simp
  have hasked : asked job reply ∈ calls e.who (c.log.take m) := by rw [hh]; simp
  obtain ⟨l, hlm, hnamed⟩ := namedAt_of_asked hasked hs
  obtain ⟨k, f, hkm, hf, hwho, hevent, hclock⟩ := consumed_of_took hc htook
  refine ⟨m, e, job, session, l, k, challenge, he, hrecorded, hjob, ?_, hlm, hnamed,
    hu.trans (congrArg PyStr.text hnames.1), haction, hnames.2 ▸ hsigned, hkm, ⟨f, nonce, hf, hwho, hevent, hclock⟩,
    soleTaker hc ⟨f, nonce, hf, hevent⟩⟩
  rw [hroute]
  exact hendpoint.imp (congrArg some) (congrArg some)

end Authority

/-- **Authority behind every mapping change**, in every run that begins without identities:
the rows are recorded, changed and deleted only as `LinkedAt` and `RowRespected` say, a
self-service request leaves the rows of other accounts alone, and so does a restart. -/
theorem mapping_authority (sdk : NostrSdk) (ttl_seconds : Ttl) (challenges : ChallengeTable)
    (c : Run) (hc : Reachable (service sdk) ⟨ttl_seconds, challenges, MappingDb.empty⟩ c) :
    (∀ r ∈ c.world.mappings, r.linked_by = "self-service" → ∃ m, LinkedAt sdk c m r) ∧
      (∀ (m : Nat) (e : LogEntry), c.log[m]? = some e →
        ∀ a ∈ e.before.mappings, RowRespected sdk c m e a) ∧
      (∀ (m l : Nat) (e : LogEntry) (job : Job) (endpoint : Endpoint)
        (session : AuthenticatedSession), c.log[m]? = some e → c.job e.who = some job →
        endpointOf job.request = some endpoint → endpoint.selfService = true →
        NamedAt c e.who l job session → ∀ r : IdentityRow, r.ynh_username ≠ session.username →
          (r ∈ e.after.mappings ↔ r ∈ e.before.mappings)) ∧
      ∀ inp r, r ∈ (create_app inp c.world).mappings ↔ r ∈ c.world.mappings :=
  ⟨fun _ hr hby => linkedAt rfl hc hr hby,
    fun _ _ he _ ha => rowRespected rfl hc he ha,
    fun _ _ _ _ _ _ he hjob hroute hself hnamed _ hr =>
      others_untouched hc he hjob hroute hself hnamed hr.symm,
    fun _ => (create_app_mappings (identitiesLogged rfl hc).imported).1⟩

/-! ## A link -/

def linkChallengeRequest : Request where
  method := "POST"
  path := ["link", "challenge"]
  headers := headersOf [("host", "a.example")]
  query_params _ := none
  json := jsonBody none
  client := some "127.0.0.1"

def linkEvent : List (PyStr × Json) :=
  rawEvent "bc4f6c9a1a9915605f89302cecd313d1db836455d6a80088af25621fb5009ce1"
    ("9d13c74a1aacaafcf82c0b5b5e6dd9310517335839444fedf0f7bb20c9826a69" ++
      "9e11e3d038b111336f9f7b78d7cda37d25176f5ae79d4d0929dbb9526a9b2e69") "yunohost-link"

def linkRequest : Request where
  method := "POST"
  path := ["link"]
  headers := headersOf [("host", "a.example"), ("cookie", "yunohost.portal=token"),
    ("content-type", "application/json")]
  query_params _ := none
  json := .ok (.obj [("event", .obj linkEvent), ("signer_type", .str "nip07")])
  client := some "127.0.0.1"

def noIdentities : World := ⟨DEFAULT_TTL_SECONDS, Table.empty, MappingDb.empty⟩

def linkChallenged : Run :=
  (service (sampleEvent "yunohost-link").sdk).after (Config.init noIdentities) 0
    ⟨.default, linkChallengeRequest⟩ sampleInput

/-- `alice` links her key. -/
def aliceLinks : Run :=
  (service (sampleEvent "yunohost-link").sdk).after linkChallenged 1 ⟨.default, linkRequest⟩
    sampleInput

theorem aliceLinks_reachable :
    Reachable (service (sampleEvent "yunohost-link").sdk) noIdentities aliceLinks :=
  (Reachable.init.after rfl _ _).after rfl _ _

theorem mapping_authority_aliceLinks : ∃ r ∈ aliceLinks.world.mappings, r.pubkey = aliceKey ∧
    r.linked_by = "self-service" ∧
    ∃ m, LinkedAt (sampleEvent "yunohost-link").sdk aliceLinks m r := by
  obtain ⟨r, hr, hp, hby⟩ : ∃ r ∈ aliceLinks.world.mappings.identities.rows,
      r.pubkey = aliceKey ∧ r.linked_by = "self-service" := by decide +kernel
  exact ⟨r, hr, hp, hby, (mapping_authority (sampleEvent "yunohost-link").sdk DEFAULT_TTL_SECONDS
    Table.empty aliceLinks aliceLinks_reachable).1 r hr hby⟩

end Server

end NostrAuth
