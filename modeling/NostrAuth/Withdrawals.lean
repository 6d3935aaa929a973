import NostrAuth.MappingAuthority
import NostrAuth.HostBinding

/-! What a revocation or an unlinking means that was answered with success: no later login is let in with
a key that it took away, until that key is recorded anew. -/

set_option autoImplicit false

namespace NostrAuth.Withdrawals

open Interaction Prog Server MappingStore MappingDb PortalClient

/-! ## The identities -/

/-- The pubkey logs in as this account. -/
def Enabled (mappings : MappingDb) (username pubkey : String) : Prop :=
  ∃ r ∈ mappings, r.ynh_username = username ∧ r.pubkey = pubkey ∧ r.enabled = 1

/-- The call records the pubkey for the account. -/
def Records (o : Op) (username pubkey : String) : Prop :=
  ∃ metadata, o = .mapping (.link username pubkey metadata) ∨
    o = .mapping (.add_identity username pubkey metadata)

/-- Nothing but recording a pubkey makes it one that can log in. -/
theorem enabled_before {o : Op} {inp : Oracle} {w : World} {username pubkey : String}
    (h : Enabled (exec o inp w).2.mappings username pubkey) :
    Enabled w.mappings username pubkey ∨ Records o username pubkey := by
  rcases exec_mappings o inp w with hsame | ⟨call, rfl, heffect⟩
  · rw [hsame] at h
    exact Or.inl h
  · obtain ⟨r, hr, rfl, rfl, hon⟩ := h
    rcases heffect.source hr with ⟨a, ha, hbecomes⟩ | ⟨u, p, metadata, t, hcall, rfl⟩
    · have hsame := hbecomes.same
      rcases hbecomes.enabled with heq | hoff
      · exact Or.inl ⟨a, ha, hsame.ynh_username.symm, hsame.pubkey.symm, heq.symm.trans hon⟩
      · rw [hoff] at hon
        cases hon
    · exact Or.inr ⟨metadata, hcall.imp (congrArg Op.mapping) (congrArg Op.mapping)⟩

/-- The migration of the store is complete. -/
def Opened (w : World) : Prop := LEGACY_MIGRATION_VERSION ≤ w.mappings.user_version

theorem create_app_opened (inp : Oracle) (w : World) : Opened (create_app inp w) := by
  simp only [Opened, create_app, run_init]
  split
  · next hv => exact hv
  · exact Int.le_refl _

theorem Opened.exec {w : World} (h : Opened w) (o : Op) (inp : Oracle) : Opened (exec o inp w).2 := by
  rcases exec_mappings o inp w with hsame | ⟨call, rfl, heffect⟩
  · rw [Opened, hsame]
    exact h
  · rw [Opened, heffect.migration.1]
    exact h

/-- A restart imports nothing again. -/
theorem Opened.restart {w : World} (h : Opened w) (inp : Oracle) :
    (create_app inp w).mappings = w.mappings := by
  rw [Opened] at h
  simp only [create_app, run_init, if_pos h]

/-- **No resurrection.** A pubkey that could not log in after `k` and can now was recorded since. -/
theorem recorded_since {sdk : NostrSdk} {w : World} (hw : Opened w) {c : Run}
    (hc : Reachable (service sdk) w c) {username pubkey : String} {k : Nat} {e : LogEntry}
    (he : c.log[k]? = some e) (hgone : ¬Enabled e.after.mappings username pubkey)
    (hback : Enabled c.world.mappings username pubkey) : ∃ (m : Nat) (f : LogEntry),
      k < m ∧ c.log[m]? = some f ∧ Records f.op username pubkey := by
  have hlogged : Opened c.world ∧ ∀ (k : Nat) (e : LogEntry), c.log[k]? = some e →
      ¬Enabled e.after.mappings username pubkey → Enabled c.world.mappings username pubkey →
      ∃ (m : Nat) (f : LogEntry), k < m ∧ c.log[m]? = some f ∧ Records f.op username pubkey := by
    apply hc.logged (P := fun world log => Opened world ∧
      ∀ (k : Nat) (e : LogEntry), log[k]? = some e → ¬Enabled e.after.mappings username pubkey →
        Enabled world.mappings username pubkey → ∃ (m : Nat) (f : LogEntry),
          k < m ∧ log[m]? = some f ∧ Records f.op username pubkey)
    · exact ⟨hw, by simp⟩
    · rintro i o inp v log ⟨hopened, ih⟩
      refine ⟨hopened.exec o inp, fun k e he hgone hback => ?_⟩
      rcases getElem?_append_singleton he with ⟨hlt, hold⟩ | ⟨_, rfl⟩
      · rcases enabled_before hback with hbefore | hrecords
        · obtain ⟨m, f, hkm, hf, hrecords⟩ := ih k e hold hgone hbefore
          refine ⟨m, f, hkm, ?_, hrecords⟩
          rw [List.getElem?_append_left (List.getElem?_eq_some_iff.mp hf).1, hf]
        · exact ⟨log.length, _, hlt, List.getElem?_concat_length, hrecords⟩
      · exact absurd hback hgone
    · rintro inp v log ⟨hopened, ih⟩
      refine ⟨create_app_opened inp v, fun k e he hgone hback => ?_⟩
      have hsame : ((service sdk).reboot inp v).mappings = v.mappings := hopened.restart inp
      exact ih k e he hgone (hsame ▸ hback)
  exact hlogged.2 k e he hgone hback

/-! ## What a withdrawal takes -/

/-- The call takes this row away from those that can log in. -/
def Takes : MappingCall → IdentityRow → Prop
  | .revoke_identity id u, r => r.identity_id = id ∧ r.ynh_username = u
  | .unlink u, r => r.ynh_username = u
  | _, _ => False

/-- The reply of a call that went through. -/
def WentThrough : (c : MappingCall) → Except Exn c.Reply → Prop
  | .revoke_identity .., reply => reply = .ok true
  | .unlink _, reply => ∃ done, reply = .ok done
  | _, _ => False

/-- A revocation that went through selected one active row of the account. -/
theorem revoke_through {id : Int} {u : String} {o : Oracle} {w : World}
    (hdone : WentThrough (.revoke_identity id u) (exec (.mapping (.revoke_identity id u)) o w).1) :
    (exec (.mapping (.revoke_identity id u)) o w).2.mappings =
        (revokeRow (o.clock 0) id u w.mappings).1 ∧
      ∃ r ∈ w.mappings, Takes (.revoke_identity id u) r ∧ r.enabled = 1 := by
  simp only [WentThrough, exec, MappingCall.method, run_revoke_identity] at hdone ⊢
  cases hb : bindInt id with
  | error e =>
    rw [hb] at hdone
    cases hdone
  | ok n =>
    obtain ⟨_, rfl⟩ := bindInt_eq_ok.mp hb
    simp only [hb, Except.ok.injEq, beq_iff_eq, revokeRow, updateRows] at hdone
    have hpos : 0 < w.mappings.identities.count (activeOf n u) := by omega
    obtain ⟨a, ha, hactive⟩ := Table.count_pos.mp hpos
    simp only [activeOf, Bool.and_eq_true, beq_iff_eq] at hactive
    exact ⟨rfl, a, ha, hactive.1, hactive.2⟩

/-- A key whose row was taken cannot log in. -/
theorem taken_disabled {c : MappingCall} {o : Oracle} {w : World}
    (hdone : WentThrough c (exec (.mapping c) o w).1) {r : IdentityRow} (hr : r ∈ w.mappings)
    (htakes : Takes c r) (username : String) :
    ¬Enabled (exec (.mapping c) o w).2.mappings username r.pubkey := by
  rintro ⟨s, hs, -, hkey, hon⟩
  cases c with
  | unlink u =>
    have hafter : (exec (.mapping (.unlink u)) o w).2.mappings = (deleteUser u w.mappings).1 := by
      simp [exec, MappingCall.method, run_unlink]
    rw [hafter] at hs
    obtain ⟨hs, hother⟩ := mem_deleteUser.mp hs
    obtain rfl : s = r := Serial.eq_of_key hs hr hkey
    exact hother htakes
  | revoke_identity id u =>
    obtain ⟨hrun, _⟩ := revoke_through hdone
    rw [hrun] at hs
    obtain ⟨a, ha, rfl⟩ := mem_updateRows.mp hs
    have hsame : a = r := by
      apply Serial.eq_of_key ha hr
      rw [← hkey]
      split <;> rfl
    subst hsame
    obtain ⟨rfl, rfl⟩ := htakes
    by_cases hactive : activeOf a.identity_id a.ynh_username a = true
    · rw [if_pos hactive] at hon
      cases hon
    · rw [if_neg hactive] at hon
      simp [activeOf, hon] at hactive
  | _ => cases htakes

/-! ## The four routes -/

/-- The routes that take identities away. -/
def withdraws : Endpoint → Bool
  | .revoke_identity_endpoint _ | .unlink_endpoint | .admin_revoke_identity_endpoint _
  | .admin_unlink_endpoint => true
  | _ => false

/-- The call that a request at such a route names: by the path, and below `/nostr-admin` by the
account in the body. -/
def Names (job : Job) : Endpoint → MappingCall → Prop
  | .revoke_identity_endpoint text, .revoke_identity id _ => identityId text = .ret id
  | .unlink_endpoint, .unlink _ => True
  | .admin_revoke_identity_endpoint text, .revoke_identity id u =>
    identityId text = .ret id ∧ ∃ body, job.request.json = .ok body ∧ _admin_target body = .ret u
  | .admin_unlink_endpoint, .unlink u =>
    ∃ body, job.request.json = .ok body ∧ _admin_target body = .ret u
  | _, _ => False

/-- The request has made its call, and the call went through. -/
def Withdrew (job : Job) (endpoint : Endpoint) (h : Trace) : Prop :=
  ∃ (call : MappingCall) (reply : Except Exn call.Reply), Names job endpoint call ∧
    WentThrough call reply ∧ ⟨.mapping call, reply⟩ ∈ h

/-- What a request that ends after the calls `h` has done: on success it withdrew what it names. -/
def WithdrawEnds (job : Job) (endpoint : Endpoint) (h : Trace) : Except Exn Response → Prop
  | .ok _ => Withdrew job endpoint h
  | .error _ => True

/-- What is left of a request, after the calls `h`. -/
structure Withdrawing (job : Job) (endpoint : Endpoint) (h : Trace) (p : Handler Response) : Prop where
  wp : p.wp Rely (fun _ _ => True) (WithdrawEnds job endpoint) h

section Routes

variable {job : Job} {endpoint : Endpoint} {h : Trace}

theorem withdrawing_raise (e : Exn) : Withdrawing job endpoint h (.raise e) := ⟨trivial⟩

theorem withdrawing_call {o : Op} {k : o.Ans → Handler Response}
    (hk : ∀ r, Withdrawing job endpoint (h ++ [⟨o, r⟩]) (k r)) :
    Withdrawing job endpoint h (.call o k) := ⟨trivial, fun r _ => (hk r).wp⟩

/-- What goes before the call. -/
theorem withdrawing_bind {α : Type} {p : Handler α} {f : α → Handler Response}
    (hf : ∀ h a, Withdrawing job endpoint h (f a)) : Withdrawing job endpoint h (p.bind f) := by
  constructor
  rw [wp_bind]
  apply wp_mono (fun _ _ _ => trivial) _ _ (within_any (R := Rely) p).wp
  intro h x _
  cases x with
  | ok a => exact (hf h a).wp
  | error e => trivial

/-- A part that makes no call, and what it read. -/
theorem withdrawing_reads {α : Type} {p : Handler α} {P : α → Prop} {E : Exn → Prop}
    {f : α → Handler Response} (hp : p.Returns P E)
    (hf : ∀ a, p = .ret a → P a → Withdrawing job endpoint h (f a)) :
    Withdrawing job endpoint h (p.bind f) := by
  rcases hp with ⟨a, rfl, ha⟩ | ⟨e, rfl, -⟩
  · exact hf a rfl ha
  · exact withdrawing_raise e

theorem withdrawing_mapping {c : MappingCall} {f : c.Reply → Handler Response}
    (hf : ∀ r, Withdrawing job endpoint (h ++ [⟨.mapping c, .ok r⟩]) (f r)) :
    Withdrawing job endpoint h ((Handler.mappings c).bind f) := by
  apply withdrawing_call
  intro r
  cases r with
  | error e => exact withdrawing_raise e
  | ok r => exact hf r

/-- The answer of a request that has withdrawn what it names. -/
theorem withdrawing_done {level : Level} {message : String} {response : Response}
    (hdone : Withdrew job endpoint h) :
    Withdrawing job endpoint h ((Handler.log level message).bind fun _ => .ret response) := by
  obtain ⟨call, reply, hnames, hthrough, hmem⟩ := hdone
  apply withdrawing_call
  intro r
  exact ⟨call, reply, hnames, hthrough, List.mem_append_left _ hmem⟩

/-- A revocation, where the request names the id and the account. -/
theorem withdrawing_revoke {id : Int} {u message : String} {level : Level} {response : Response}
    {e : Exn} (hnames : Names job endpoint (.revoke_identity id u)) :
    Withdrawing job endpoint h ((Handler.mappings (.revoke_identity id u)).bind fun revoked =>
      (Prog.ensure (revoked = true) e).bind fun _ =>
        (Handler.log level message).bind fun _ => .ret response) := by
  apply withdrawing_mapping
  intro revoked
  unfold Prog.ensure
  split
  · next hrevoked =>
    subst hrevoked
    exact withdrawing_done ⟨_, _, hnames, rfl, by simp⟩
  · exact withdrawing_raise e

end Routes

theorem revoke_identity_withdraws (job : Job) (text : String) :
    Withdrawing job (.revoke_identity_endpoint text) []
      (revoke_identity_endpoint job.settings job.request text) := by
  simp only [revoke_identity_endpoint, Prog.bind_eq]
  apply withdrawing_bind
  intro h username
  apply withdrawing_reads (identityId_returns text)
  intro id hid _
  apply withdrawing_bind
  intro h _
  apply withdrawing_reads (encodedAfter_returns id username)
  intro username _ _
  exact withdrawing_revoke (u := username) hid

theorem concluded_error {request : Request} {endpoint : Endpoint} {failure success : String}
    {job : Job} {answer : String → Handler Response} (h : Trace) (e : Exn) :
    Withdrawing job endpoint h (concludeLinking request failure success answer (.error e)) := by
  unfold concludeLinking
  split
  · next heq => cases heq
  · exact withdrawing_call fun _ => withdrawing_raise _
  · exact withdrawing_raise _

theorem unlink_withdraws (job : Job) :
    Withdrawing job .unlink_endpoint [] (unlink_endpoint job.settings job.request) := by
  simp only [unlink_endpoint, Linking.confirm_and_unlink, Prog.bind_eq]
  apply withdrawing_bind
  intro h cookie_header
  constructor
  rw [wp_bind, wp_attempt, wp_bind]
  apply wp_mono (fun _ _ _ => trivial) _ _ (within_any (R := Rely) (Linking.currentUser ..)).wp
  intro h x _
  cases x with
  | error e => exact (concluded_error h e).wp
  | ok username =>
    cases username with
    | lone t =>
      have hrefused : Withdrawing job .unlink_endpoint h (concludeLinking job.request
        "identity unlink" "identity removed" linked (.error t.encodeError)) := concluded_error h _
      exact hrefused.wp
    | text username =>
      refine ⟨trivial, fun r _ => ?_⟩
      cases r with
      | error e => exact (concluded_error _ e).wp
      | ok done =>
        have hnames : Names job .unlink_endpoint (.unlink username) := trivial
        exact (withdrawing_done ⟨.unlink username, _, hnames, ⟨done, rfl⟩, by simp⟩).wp

/-- What every request of an administrator goes through that names an account. -/
theorem withdrawing_target {job : Job} {endpoint : Endpoint} {f : Json → PyStr → Handler Response}
    (hf : ∀ h body username, job.request.json = .ok body → _admin_target body = .ret username →
      Withdrawing job endpoint h (f body username)) :
    Withdrawing job endpoint [] ((_require_json job.request).bind fun _ =>
      (_authenticated_admin job.settings job.request).bind fun _ =>
        (readJson job.request).bind fun body => (_admin_target body).bind (f body)) := by
  apply withdrawing_bind
  intro h _
  apply withdrawing_bind
  intro h _
  apply withdrawing_reads (readJson_returns job.request)
  intro body _ hbody
  apply withdrawing_reads (admin_target_returns body)
  intro username htarget _
  exact hf h body username hbody htarget

theorem admin_revoke_identity_withdraws (job : Job) (text : String) :
    Withdrawing job (.admin_revoke_identity_endpoint text) []
      (admin_revoke_identity_endpoint job.settings job.request text) := by
  simp only [admin_revoke_identity_endpoint, Prog.bind_eq]
  apply withdrawing_target
  intro h body username hbody htarget
  apply withdrawing_reads (identityId_returns text)
  intro id hid _
  apply withdrawing_reads (encodedAfter_returns id username)
  rintro username _ rfl
  exact withdrawing_revoke ⟨hid, body, hbody, htarget⟩

theorem admin_unlink_withdraws (job : Job) :
    Withdrawing job .admin_unlink_endpoint [] (admin_unlink_endpoint job.settings job.request) := by
  simp only [admin_unlink_endpoint, Prog.bind_eq]
  apply withdrawing_target
  intro h body username hbody htarget
  apply withdrawing_reads (encoded_returns username)
  rintro username _ rfl
  apply withdrawing_mapping
  intro done
  exact withdrawing_done ⟨.unlink username, _, ⟨body, hbody, htarget⟩, ⟨done, rfl⟩, by simp⟩

theorem handler_withdrawing (sdk : NostrSdk) (job : Job) {endpoint : Endpoint}
    (h : withdraws endpoint = true) :
    Withdrawing job endpoint [] (endpoint.handler sdk job.settings job.request) := by
  cases endpoint with
  | revoke_identity_endpoint text => exact revoke_identity_withdraws job text
  | unlink_endpoint => exact unlink_withdraws job
  | admin_revoke_identity_endpoint text => exact admin_revoke_identity_withdraws job text
  | admin_unlink_endpoint => exact admin_unlink_withdraws job
  | _ => cases h

/-- What an answer 200 at such a route stands for. -/
def Concludes (job : Job) (h : Trace) (outcome : Except Exn Response) : Prop :=
  ∀ endpoint response, endpointOf job.request = some endpoint → withdraws endpoint = true →
    outcome = .ok response → response.status_code = 200 → Withdrew job endpoint h

theorem handle_concludes (sdk : NostrSdk) (job : Job) :
    (handle sdk job).wp Rely (Permitted sdk job) (Concludes job) [] := by
  cases hroute : endpointOf job.request with
  | none =>
    refine wp_mono (fun _ _ h => h) (fun h outcome _ endpoint response hroute' => ?_) _
      (handle_spec sdk job)
    rw [hroute] at hroute'
    cases hroute'
  | some endpoint =>
    by_cases hwithdraws : withdraws endpoint = true
    · apply handle_wp hroute
      have hboth := wp_and _ (handler_withdrawing sdk job hwithdraws).wp (endpoint_meets sdk job endpoint).wp
      refine wp_mono (fun h o ho => ⟨endpoint, hroute, ho.2⟩) (fun h outcome hends => ?_) _ hboth
      rintro endpoint' response hroute' - ⟨⟩ h200
      obtain rfl : endpoint = endpoint' := Option.some.inj (hroute.symm.trans hroute')
      cases outcome with
      | ok response => exact hends.1
      | error e =>
        have hrefused := answered_of_ok hends.2 h200
        cases endpoint with
        | revoke_identity_endpoint _ | admin_revoke_identity_endpoint _ | unlink_endpoint
        | admin_unlink_endpoint => simp [Endpoint.refusals] at hrefused
        | _ => cases hwithdraws
    · refine wp_mono (fun _ _ h => h) (fun h outcome _ endpoint' response hroute' hon => ?_) _
        (handle_spec sdk job)
      rw [hroute] at hroute'
      cases hroute'
      exact absurd hon hwithdraws

/-! ## Runs -/

section Runs

variable {sdk : NostrSdk} {w : World} {c : Run}

/-- The request made this call at `k`, which it names, for the account of its session or for an
administrator. -/
structure WithdrawnAt (c : Run) (i : Nat) (job : Job) (endpoint : Endpoint) (k : Nat) (e : LogEntry)
    (call : MappingCall) : Prop where
  entry : c.log[k]? = some e
  who : e.who = i
  op : e.op = .mapping call
  names : Names job endpoint call
  authorised : ∃ u, call.account = some u ∧ Authorised c i k u

theorem names_edits {job : Job} {endpoint : Endpoint} {call : MappingCall}
    (h : Names job endpoint call) : call.edits = true := by
  unfold Names at h
  split at h <;> first | rfl | cases h

/-- The calls that edit rows are made for the account they name. -/
theorem authorised_edit (hc : Reachable (service sdk) w c) {k : Nat} {e : LogEntry} {call : MappingCall}
    (he : c.log[k]? = some e) (hop : e.op = .mapping call) (hedits : call.edits = true) :
    ∃ u, call.account = some u ∧ Authorised c e.who k u := by
  obtain ⟨job, endpoint, hjob, hroute, hallowed⟩ := allowed_of_log hc he
  rw [hop] at hallowed
  generalize hh : calls e.who (c.log.take k) = h at hallowed
  cases hallowed with
  | touch => cases hedits
  | record _ _ _ _ _ _ _ _ hkind =>
    obtain ⟨_, _, ⟨_, rfl⟩ | ⟨_, rfl⟩⟩ := hkind <;> cases hedits
  | edit_own _ _ reply session hown _ hs hnames =>
    have hself : endpoint.selfService = true := by simp [Endpoint.selfService, hown]
    obtain ⟨username, hu, hnames⟩ := hnames
    exact ⟨username, hnames, authorised_self hjob hroute hself (by rw [hh]; simp) hs hu⟩
  | admin_edit _ _ reply session hadmin _ hs his =>
    obtain ⟨u, hu⟩ : ∃ u, call.account = some u := by
      cases call <;> first | exact ⟨_, rfl⟩ | cases hedits
    exact ⟨u, hu, authorised_admin hjob hroute hadmin (by rw [hh]; simp) hs his u⟩
  | admin_record _ _ _ _ _ _ hkind => rcases hkind with rfl | rfl <;> cases hedits
  | read _ _ _ hreads =>
    have hwrites : call.writes = true := by cases call <;> first | rfl | cases hedits
    rw [hwrites] at hreads
    cases hreads

/-- An answer 200 stands for a withdrawal, after which no row that it took can log in. -/
theorem withdrawn (hc : Reachable (service sdk) w c) {i : Nat} {job : Job} {endpoint : Endpoint}
    {response : Response} (hjob : c.job i = some job) (hroute : endpointOf job.request = some endpoint)
    (hwithdraws : withdraws endpoint = true) (hrun : c.running i = some (.ret response))
    (h200 : response.status_code = 200) : ∃ k e call, WithdrawnAt c i job endpoint k e call ∧
      ∀ r ∈ e.before.mappings, Takes call r → ∀ u, ¬Enabled e.after.mappings u r.pubkey := by
  have hguarded : Guarded Rely (Permitted sdk) Concludes c := hc.guarded rely_exec (handle_concludes sdk)
  have hends : Concludes job (calls i c.log) (.ok response) := hguarded.rest i job _ hjob hrun
  obtain ⟨call, reply, hnames, hthrough, hmem⟩ := hends endpoint response hroute hwithdraws rfl h200
  obtain ⟨k, e, he, rfl, hevent⟩ := exists_of_mem_calls hmem
  have hop : e.op = .mapping call := congrArg Event.op hevent
  have hexec : exec (.mapping call) e.input e.before = (reply, e.after) := hc.exec_of_event he hevent
  refine ⟨k, e, call, ⟨he, rfl, hop, hnames, authorised_edit hc he hop (names_edits hnames)⟩, ?_⟩
  intro r hr htakes u
  have hoff := taken_disabled (o := e.input) (by rw [hexec]; exact hthrough) hr htakes u
  rwa [hexec] at hoff

/-- The request that mints a session for `username` at `m` looked `pubkey` up at `l`. -/
def LogsIn (c : Run) (m l : Nat) (pubkey username : String) : Prop :=
  ∃ e f host, c.log[m]? = some e ∧ e.op = .mint username host ∧ l < m ∧ c.log[l]? = some f ∧
    f.who = e.who ∧ f.op = .mapping (.get_by_pubkey pubkey)

/-- A login found its pubkey among the enabled ones of the account. -/
theorem enabled_of_login (hc : Reachable (service sdk) w c) {m l : Nat} {pubkey username : String}
    (h : LogsIn c m l pubkey username) : ∃ c' : Run, Reachable (service sdk) w c' ∧
      c'.log = c.log.take l ∧ Enabled c'.world.mappings username pubkey := by
  obtain ⟨e, f, host, he, hop, hlm, hf, hwho, hlooks⟩ := h
  obtain ⟨job, endpoint, hjob, hroute, hallowed⟩ := allowed_of_log hc he
  rw [hop] at hallowed
  obtain ⟨-, -, nonce, challenge, p, identity, identity_id, hh, -, -, rfl, -⟩ := allowed_mint hallowed
  have hmem : f.event ∈ calls e.who (c.log.take m) := hwho ▸ mem_calls_take hlm hf
  have hfound : f.event = found p identity := by
    rw [hh] at hmem
    simp only [List.mem_cons, List.not_mem_nil, or_false] at hmem
    rcases hmem with h | h | h
    · cases hlooks.symm.trans (congrArg Event.op h)
    · exact h
    · cases hlooks.symm.trans (congrArg Event.op h)
  cases hlooks.symm.trans (congrArg Event.op hfound)
  obtain ⟨c', hc', hlog, hworld, hentry⟩ := hc.snapshot hf
  rw [hentry] at hfound
  obtain ⟨r, hr, hkey, hon, rfl⟩ := found_entry hfound
  exact ⟨c', hc', hlog, r, hworld ▸ hr, rfl, hkey, hon⟩

/-- The call at `m` recorded the pubkey for the account: portal-api named the account for the
request, and the key signed a link challenge that the request took in time; or an administrator asked
for it. -/
def RecordedFor (sdk : NostrSdk) (c : Run) (m : Nat) (username pubkey : String) : Prop :=
  ∃ e job session l, c.log[m]? = some e ∧ Records e.op username pubkey ∧ c.job e.who = some job ∧
    l < m ∧ NamedAt c e.who l job session ∧
    ((session.username = .text username ∧ ∃ challenge k f nonce, challenge.action = LINK_ACTION ∧
        SignedBy sdk job challenge pubkey ∧ k < m ∧ c.log[k]? = some f ∧ f.who = e.who ∧
        f.event = took nonce challenge ∧ f.input.clock 0 ≤ challenge.expires_at) ∨
      (endpointOf job.request = some .admin_add_identity_endpoint ∧ session.is_admin = true))

theorem recordedFor (hc : Reachable (service sdk) w c) {m : Nat} {e : LogEntry}
    {username pubkey : String} (he : c.log[m]? = some e) (hrecords : Records e.op username pubkey) :
    RecordedFor sdk c m username pubkey := by
  obtain ⟨job, endpoint, hjob, hroute, hallowed⟩ := allowed_of_log hc he
  obtain ⟨metadata, hop⟩ := hrecords
  obtain ⟨call, hop, hcall⟩ : ∃ call, e.op = .mapping call ∧
      (call = .link username pubkey metadata ∨ call = .add_identity username pubkey metadata) :=
    hop.elim (fun h => ⟨_, h, Or.inl rfl⟩) fun h => ⟨_, h, Or.inr rfl⟩
  rw [hop] at hallowed
  have hrecords : Records e.op username pubkey := by
    rw [hop]
    exact ⟨metadata, hcall.imp (congrArg Op.mapping) (congrArg Op.mapping)⟩
  generalize hh : calls e.who (c.log.take m) = h at hallowed
  cases hallowed with
  | touch => rcases hcall with h | h <;> cases h
  | edit_own _ _ _ _ _ hedits => rcases hcall with rfl | rfl <;> cases hedits
  | admin_edit _ _ _ _ _ hedits => rcases hcall with rfl | rfl <;> cases hedits
  | read _ _ _ hreads => rcases hcall with rfl | rfl <;> cases hreads
  | record _ _ nonce challenge p reply session metadata' hkind hswitch haction hsigned hs hby =>
    have hnames : session.username = .text username ∧ p = pubkey := by
      obtain ⟨u, hu, ⟨_, rfl⟩ | ⟨_, rfl⟩⟩ := hkind <;> rcases hcall with h | h <;> cases h <;>
        exact ⟨hu, rfl⟩
    have htook : took nonce challenge ∈ calls e.who (c.log.take m) := by rw [hh]; simp
    have hasked : asked job reply ∈ calls e.who (c.log.take m) := by rw [hh]; simp
    obtain ⟨l, hlm, hnamed⟩ := namedAt_of_asked hasked hs
    obtain ⟨k, f, hkm, hf, hwho, hevent, hclock⟩ := consumed_of_took hc htook
    exact ⟨e, job, session, l, he, hrecords, hjob, hlm, hnamed, Or.inl ⟨hnames.1, challenge, k, f, nonce,
      haction, hnames.2 ▸ hsigned, hkm, hf, hwho, hevent, hclock⟩⟩
  | admin_record _ reply session _ _ _ _ _ hs his =>
    have hasked : asked job reply ∈ calls e.who (c.log.take m) := by rw [hh]; simp
    obtain ⟨l, hlm, hnamed⟩ := namedAt_of_asked hasked hs
    exact ⟨e, job, session, l, he, hrecords, hjob, hlm, hnamed, Or.inr ⟨hroute, his⟩⟩

end Runs

/-- **Withdrawn keys stay locked out.** In a service started on any database, a request that revoked
an identity or unlinked an account, its own or as an administrator, and was answered with 200, made
the call that it names. A key that this call took logs in later, as any account, only where it was
recorded anew for that account in between: by itself, in a session of the account, or by an
administrator. -/
theorem withdrawn_locked_out (sdk : NostrSdk) (inp : Oracle) (start : World) (c c' : Run)
    (hc : Reachable (service sdk) (create_app inp start) c)
    (hlater : Relation.ReflTransGen (Step (service sdk)) c c') (i : Nat) (job : Job) (endpoint : Endpoint)
    (response : Response) (hjob : c.job i = some job) (hroute : endpointOf job.request = some endpoint)
    (hwithdraws : withdraws endpoint = true) (hrun : c.running i = some (.ret response))
    (h200 : response.status_code = 200) : ∃ k e call, WithdrawnAt c i job endpoint k e call ∧
      ∀ r ∈ e.before.mappings, Takes call r → ∀ m l username, k < l → LogsIn c' m l r.pubkey username →
        ∃ k', k < k' ∧ k' < l ∧ RecordedFor sdk c' k' username r.pubkey := by
  obtain ⟨k, e, call, hat, hoff⟩ := withdrawn hc hjob hroute hwithdraws hrun h200
  refine ⟨k, e, call, hat, fun r hr htakes m l username hkl hlogin => ?_⟩
  have hc' : Reachable (service sdk) (create_app inp start) c' := hc.trans hlater
  obtain ⟨v, hv, hlog, hon⟩ := enabled_of_login hc' hlogin
  have hkept : ∀ (n : Nat) (f : LogEntry), v.log[n]? = some f ↔ n < l ∧ c'.log[n]? = some f := by
    intro n f
    rw [hlog, List.getElem?_take]
    split <;> simp [*]
  have he : v.log[k]? = some e := (hkept k e).mpr ⟨hkl, log_of_later hlater hat.entry⟩
  obtain ⟨k', f, hkk', hf, hrecords⟩ := recorded_since (create_app_opened inp start) hv he
    (hoff r hr htakes username) hon
  obtain ⟨hk'l, hf'⟩ := (hkept k' f).mp hf
  exact ⟨k', hkk', hk'l, recordedFor hc' hf' hrecords⟩

/-! ## `alice` unlinks her account and comes back -/

/-- The SDK on the login of `alice` and on her key. -/
def keyedSdk : NostrSdk :=
  { (sampleEvent "yunohost-login").sdk with
    to_hex := fun text => if text = aliceKey then .ok text else .error "not a public key" }

def unlinkRequest : Request where
  method := "POST"
  path := ["unlink"]
  headers := headersOf [("host", "a.example"), ("cookie", "yunohost.portal=token"),
    ("content-type", "application/json")]
  query_params _ := none
  json := .ok (.obj [])
  client := some "127.0.0.1"

/-- An administrator adds her key. -/
def addAliceRequest : Request :=
  { unlinkRequest with
    path := ["nostr-admin", "api", "identities"]
    json := .ok (.obj [("username", .str "alice"), ("pubkey", .str aliceKey)]) }

def rootInput (n : Nat) : Oracle :=
  { sampleInput n with
    portal := .body (.obj [("username", .str "root"), ("groups", .arr [.str "admins"])]) }

/-- A file of an older version, with her key in its table `users`. -/
def aliceLegacy : World :=
  World.withoutChallenges DEFAULT_TTL_SECONDS { MappingDb.empty with
    users := some [⟨"alice", aliceKey, 1767000000, none, 1⟩] }

/-- She unlinks. -/
def unlinked : Run :=
  (service keyedSdk).after (Config.init (create_app (sampleInput 0) aliceLegacy)) 0
    ⟨.default, unlinkRequest⟩ sampleInput

theorem unlinked_reachable :
    Reachable (service keyedSdk) (create_app (sampleInput 0) aliceLegacy) unlinked :=
  Reachable.init.after rfl _ _

/-- Her key is added anew, and she logs in with it. -/
def backIn : Run :=
  (service keyedSdk).after ((service keyedSdk).after ((service keyedSdk).after unlinked 1
    ⟨.default, addAliceRequest⟩ rootInput) 2 ⟨.default, challengeRequest⟩ sampleInput) 3
      ⟨.default, loginRequest "a.example"⟩ sampleInput

theorem backIn_later : Relation.ReflTransGen (Step (service keyedSdk)) unlinked backIn :=
  ((steps_after rfl _ _).trans (steps_after rfl _ _)).trans (steps_after rfl _ _)

/-- The only calls to the mapping unlink `alice`, while her key is there. -/
def unlinksAlice (e : LogEntry) : Bool :=
  match e.op with
  | .mapping (.unlink u) => u == "alice" &&
    e.before.mappings.identities.rows.any fun r => r.pubkey == aliceKey && r.ynh_username == u
  | .mapping _ => false
  | _ => true

theorem unlinked_log : unlinked.log.all unlinksAlice = true := by decide +kernel

theorem backIn_login : LogsIn backIn 10 8 aliceKey "alice" := by
  refine ⟨_, _, "a.example", rfl, rfl, by decide, rfl, rfl, rfl⟩

theorem withdrawn_locked_out_backIn : LogsIn backIn 10 8 aliceKey "alice" ∧ ∃ k e call k',
    WithdrawnAt unlinked 0 ⟨.default, unlinkRequest⟩ .unlink_endpoint k e call ∧ k < k' ∧ k' < 8 ∧
      RecordedFor keyedSdk backIn k' "alice" aliceKey := by
  obtain ⟨k, e, call, hat, hlocked⟩ := withdrawn_locked_out keyedSdk (sampleInput 0) aliceLegacy
    unlinked backIn unlinked_reachable backIn_later 0 ⟨.default, unlinkRequest⟩ .unlink_endpoint _ rfl
    (by decide) rfl rfl rfl
  have hk : k < 3 := (List.getElem?_eq_some_iff.mp hat.entry).1
  have hmade := List.all_eq_true.mp unlinked_log e (List.mem_of_getElem? hat.entry)
  simp only [unlinksAlice, hat.op] at hmade
  cases call with
  | unlink u =>
    simp only [Bool.and_eq_true, beq_iff_eq, List.any_eq_true] at hmade
    obtain ⟨rfl, r, hr, hkey, howner⟩ := hmade
    obtain ⟨k', hkk', hk', hrecorded⟩ := hlocked r hr howner 10 8 "alice" (by omega)
      (hkey ▸ backIn_login)
    exact ⟨backIn_login, k, e, _, k', hat, hkk', hk', hkey ▸ hrecorded⟩
  | _ => cases hmade

end NostrAuth.Withdrawals
