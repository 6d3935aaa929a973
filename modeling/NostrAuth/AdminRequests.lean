import NostrAuth.PageRuns
import NostrAuth.MappingAuthority
import NostrAuth.JsonRoundTrip

/-! The routes below `/nostr-admin/api`: what they tell of the client and of the identities, and
which identity a request changes. -/

set_option autoImplicit false

namespace NostrAuth.Server

open Interaction Handler PortalClient Prog

/-! ## Numbers in a path -/

/-- The value that stands for an identity in an answer. -/
def Describes (sdk : NostrSdk) (value : Json) (identity : Identity) : Prop :=
  ∃ npub, Npub.hex_to_npub sdk identity.pubkey = .ok npub ∧ value = .obj
    [("id", optional .int identity.identity_id),
      ("username", .str identity.ynh_username),
      ("pubkey", .str identity.pubkey),
      ("npub", .str npub),
      ("created_at", .int identity.created_at),
      ("last_used", optional .int identity.last_used),
      ("enabled", .bool identity.enabled),
      ("signer_type", .str identity.signer_type),
      ("label", optional (fun label : String => .str label) identity.label),
      ("linked_by", .str identity.linked_by),
      ("revoked_at", optional .int identity.revoked_at)]

theorem identity_json_describes (sdk : NostrSdk) (identity : Identity) :
    (_identity_json sdk identity).Returns (fun value => Describes sdk value identity) (Refuses []) := by
  unfold _identity_json
  split
  · next e he => exact .raise (hex_to_npub_error he)
  · next npub hnpub => exact .ret ⟨npub, hnpub, rfl⟩

theorem identityList_describes (sdk : NostrSdk) (identities : List Identity) :
    (identityList sdk identities).Returns (fun values => List.Forall₂ (Describes sdk) values identities)
      (Refuses []) := by
  induction identities with
  | nil => exact .ret .nil
  | cons identity rest ih =>
    exact Returns.bind (identity_json_describes sdk identity) fun value hvalue =>
      Returns.bind ih fun values hvalues => .ret (.cons hvalue hvalues)

/-- portal-api named the session of an administrator for the request. -/
def AskedAdmin (job : Job) (h : Trace) (session : AuthenticatedSession) : Prop :=
  ∃ reply, asked job reply ∈ h ∧ readSession reply = .ok session ∧ session.is_admin = true

/-- What a success tells of who the client is, and of the identities that there are. -/
def Gives (sdk : NostrSdk) (job : Job) : Endpoint → Trace → Response → Prop
  | .admin_session_endpoint, h, response =>
    response = respond [("authenticated", .bool false), ("is_admin", .bool false)] ∨
      ∃ reply session username, asked job reply ∈ h ∧ readSession reply = .ok session ∧
        session.username = .text username ∧
        response = respond [("authenticated", .bool true), ("is_admin", .bool session.is_admin),
          ("username", .str username)]
  | .admin_list_identities_endpoint, h, response => ∃ session identities values,
    AskedAdmin job h session ∧ ⟨.mapping .list_all, .ok identities⟩ ∈ h ∧
      List.Forall₂ (Describes sdk) values identities ∧
      response = respond [("identities", .arr values)]
  | _, _, _ => True

/-- How a handler ends that gives what `Q` says, or refuses. -/
def gives (Q : Trace → Response → Prop) (codes : List Nat) : Trace → Except Exn Response → Prop
  | h, .ok response => Q h response
  | _, .error e => Refuses codes e

abbrev GivesAt (sdk : NostrSdk) (job : Job) (endpoint : Endpoint) (h : Trace) (p : Handler Response) :
    Prop :=
  p.wp Rely (fun _ _ => True) (gives (Gives sdk job endpoint) endpoint.refusals) h

/-- Asking portal-api who the client is. -/
theorem gives_ask {sdk : NostrSdk} {job : Job} {endpoint : Endpoint} {h : Trace}
    {k : PortalReply → Handler Response}
    (hk : ∀ reply, GivesAt sdk job endpoint (h ++ [asked job reply]) (k reply)) :
    GivesAt sdk job endpoint h (.call (.me (orElse (job.request.headers "cookie") "")
      (hostOf job.request) job.settings.portal_api_base_url) k) :=
  ⟨trivial, fun reply _ => hk reply⟩

theorem admin_session_gives (sdk : NostrSdk) (job : Job) :
    GivesAt sdk job .admin_session_endpoint [] (admin_session_endpoint job.settings job.request) := by
  simp only [admin_session_endpoint, get_authenticated_session, Prog.bind_eq, call_bind,
    attempt_call]
  split
  · exact Or.inl rfl
  · refine gives_ask fun reply => ?_
    cases hs : readSession reply with
    | ok session =>
      simp only [ofExcept_ok, attempt_ret, ret_bind]
      refine (encoded_returns session.username).wp_bind (fun username hu => ?_) fun e he => he
      exact Or.inr ⟨reply, session, username, by simp, hs, hu, rfl⟩
    | error e =>
      simp only [ofExcept_error, attempt_raise, ret_bind]
      split
      · next heq => cases heq
      · exact Or.inl rfl
      · next heq =>
        cases heq
        exact readSession_error hs

theorem admin_list_identities_gives (sdk : NostrSdk) (job : Job) :
    GivesAt sdk job .admin_list_identities_endpoint []
      (admin_list_identities_endpoint sdk job.settings job.request) := by
  have h401 : [401] ⊆ Endpoint.admin_list_identities_endpoint.refusals := by simp [Endpoint.refusals]
  simp only [admin_list_identities_endpoint, _authenticated_admin, get_authenticated_session,
    Prog.bind_eq, bind_assoc, call_bind, attempt_call]
  refine (requireCookie_returns job.request).wp_bind (fun cookie hc => ?_) fun e he => he.mono h401
  subst hc
  refine gives_ask fun reply => ?_
  cases hs : readSession reply with
  | error e =>
    simp only [ofExcept_error, attempt_raise, ret_bind]
    split
    · next heq => cases heq
    · exact refuses_apiError (h401 (List.mem_singleton_self _))
    · next heq =>
      cases heq
      exact (readSession_error hs).mono (by simp)
  | ok session =>
    simp only [ofExcept_ok, attempt_ret, ret_bind]
    split
    · next hadmin =>
      refine ⟨trivial, fun identities hr => ?_⟩
      cases identities with
      | error e => exact (rely_mapping_error hr).mono (by simp)
      | ok identities =>
        refine (identityList_describes sdk identities).wp_bind (fun values hvalues => ?_)
          fun e he => he.mono (by simp)
        exact ⟨session, identities, values, ⟨reply, by simp [asked], hs, hadmin⟩, by simp, hvalues, rfl⟩
    · exact refuses_apiError (by simp [Endpoint.refusals])

/-- What is known of the success of a request from the moment it ends. -/
def Gave (sdk : NostrSdk) (job : Job) (h : Trace) (outcome : Except Exn Response) : Prop :=
  ∀ endpoint response, endpointOf job.request = some endpoint → outcome = .ok response →
    (Browser.resultOf response).ok = true → Gives sdk job endpoint h response

theorem gave_of_gives {sdk : NostrSdk} {job : Job} {endpoint : Endpoint}
    (hroute : endpointOf job.request = some endpoint)
    (hp : GivesAt sdk job endpoint [] (endpoint.handler sdk job.settings job.request)) :
    (handle sdk job).wp Rely (fun _ _ => True) (Gave sdk job) [] := by
  refine handle_wp hroute (wp_mono (fun _ _ h => h) (fun h outcome hends => ?_) _ hp)
  intro endpoint' response hroute' hresponse hok
  obtain rfl := Option.some.inj (hroute.symm.trans hroute')
  cases hresponse
  cases outcome with
  | ok response => exact hends
  | error e =>
    rw [Browser.refused_not_ok hends] at hok
    cases hok

theorem handle_gives (sdk : NostrSdk) (job : Job) :
    (handle sdk job).wp Rely (fun _ _ => True) (Gave sdk job) [] := by
  have hany : (∀ endpoint h response, endpointOf job.request = some endpoint →
      Gives sdk job endpoint h response) →
      (handle sdk job).wp Rely (fun _ _ => True) (Gave sdk job) [] := fun hall =>
    wp_mono (fun _ _ _ => trivial) (fun h _ _ endpoint response hroute _ _ => hall endpoint h response hroute)
      _ (within_any (R := Rely) (handle sdk job)).wp
  cases hroute : endpointOf job.request with
  | none =>
    refine hany fun endpoint h response hroute' => ?_
    rw [hroute] at hroute'
    cases hroute'
  | some endpoint =>
    cases endpoint with
    | admin_session_endpoint => exact gave_of_gives hroute (admin_session_gives sdk job)
    | admin_list_identities_endpoint => exact gave_of_gives hroute (admin_list_identities_gives sdk job)
    | _ =>
      refine hany fun endpoint h response hroute' => ?_
      obtain rfl := Option.some.inj (hroute.symm.trans hroute')
      trivial

/-! ## What a request writes -/

/-- A text in the body of a request. -/
def bodyText (request : Request) (key : String) : Option String :=
  match request.json with
  | .ok (.obj fields) =>
    match Json.lookup fields key with
    | some (.str (.text text)) => some text
    | _ => none
  | _ => none

/-- The call is in `C` if it changes identities. -/
def Writing (C : MappingCall → Prop) (o : Op) : Prop := ∀ c, o = .mapping c → c.writes = true → C c

/-- The handler changes identities by calls in `C` only. -/
structure WritesOnly {α : Type} (C : MappingCall → Prop) (p : Handler α) : Prop where
  within : p.Within Rely (Writing C) fun _ => True

section WritesOnly

variable {C : MappingCall → Prop} {α β : Type}

theorem writesOnly_ret (a : α) : WritesOnly C (.ret a) := ⟨trivial⟩

theorem writesOnly_raise (e : Exn) : WritesOnly C (.raise e : Handler α) := ⟨trivial⟩

theorem writesOnly_any (hC : ∀ c, C c) (p : Handler α) : WritesOnly C p :=
  ⟨(within_any p).mono (fun _ _ c _ _ => hC c) fun _ h => h⟩

theorem writesOnly_ofExcept (x : Except Exn α) : WritesOnly C (Prog.ofExcept x) := by
  cases x with
  | ok a => exact writesOnly_ret a
  | error e => exact writesOnly_raise e

theorem writesOnly_bind {p : Handler α} {f : α → Handler β} (hp : WritesOnly C p)
    (hf : ∀ a, WritesOnly C (f a)) : WritesOnly C (p.bind f) :=
  ⟨hp.within.bind (fun a _ => (hf a).within) fun _ _ => trivial⟩

theorem writesOnly_attempt {p : Handler α} {f : Except Exn α → Handler β} (hp : WritesOnly C p)
    (hf : ∀ x, WritesOnly C (f x)) :
    WritesOnly C ((p.attempt : Handler (Except Exn α)).bind f) :=
  ⟨hp.within.attempt_bind fun x _ => (hf x).within⟩

theorem writesOnly_returns {P : α → Prop} {E : Exn → Prop} {p : Handler α} {f : α → Handler β}
    (hp : p.Returns P E) (hf : ∀ a, P a → WritesOnly C (f a)) : WritesOnly C (p.bind f) :=
  ⟨hp.within_bind (fun a ha => (hf a ha).within) fun _ _ => trivial⟩

theorem writesOnly_ensure {c : Prop} [Decidable c] {e : Exn} {f : Unit → Handler β}
    (hf : WritesOnly C (f ())) : WritesOnly C ((Prog.ensure c e).bind f) := by
  unfold Prog.ensure
  split
  · exact hf
  · exact writesOnly_raise e

theorem writesOnly_mapping {c : MappingCall} {f : c.Reply → Handler β}
    (hc : c.writes = true → C c) (hf : ∀ r, WritesOnly C (f r)) :
    WritesOnly C ((mappings c).bind f) := by
  refine ⟨?_, fun r _ => ?_⟩
  · rintro c' ⟨⟩ hwrites
    exact hc hwrites
  · cases r with
    | error e => trivial
    | ok r => exact (hf r).within

theorem writesOnly_log {level : Level} {message : String} {f : Unit → Handler β}
    (hf : WritesOnly C (f ())) : WritesOnly C ((log level message).bind f) :=
  ⟨nofun, fun _ _ => hf.within⟩

/-- The call that a text may cost which SQLite cannot encode writes nothing. -/
theorem writesOnly_rowTexts {replace : Bool} {username : PyStr} {pubkey : String}
    {label : Option PyStr} {f : String × Option String → Handler β}
    (hf : ∀ u l, username = .text u → WritesOnly C (f (u, l))) :
    WritesOnly C ((rowTexts replace username pubkey label).bind f) := by
  rcases rowTexts_cases replace username pubkey label with ⟨u, l, hu, -, hret⟩ | ⟨-, t, hcall⟩
  · rw [hret]
    exact hf u l hu
  · rw [hcall, bind_assoc]
    exact writesOnly_mapping nofun nofun

theorem writesOnly_admin {settings : Settings} {request : Request} {f : PyStr → Handler β}
    (hf : ∀ u, WritesOnly C (f u)) :
    WritesOnly C ((_authenticated_admin settings request).bind f) := by
  refine writesOnly_bind ?_ hf
  refine writesOnly_returns (requireCookie_returns request) fun cookie _ => ?_
  have hask : WritesOnly C (get_authenticated_session cookie (hostOf request)
      settings.portal_api_base_url) :=
    ⟨nofun, fun reply _ => (writesOnly_ofExcept (readSession reply)).within⟩
  refine writesOnly_attempt hask fun outcome => ?_
  cases outcome with
  | ok session =>
    dsimp only
    split
    · exact writesOnly_ret _
    · exact writesOnly_raise _
  | error e =>
    split
    · next heq => cases heq
    · exact writesOnly_raise _
    · exact writesOnly_raise _

end WritesOnly

section Bodies

variable {request : Request} {body : Json}

theorem bodyText_of_lookup {fields : List (PyStr × Json)} {key text : String}
    (hbody : request.json = .ok (.obj fields)) (hkey : Json.lookup fields key = some (.str text)) :
    bodyText request key = some text := by
  simp only [bodyText, hbody, hkey]

theorem admin_target_reads (hbody : request.json = .ok body) : (_admin_target body).Returns
    (fun u => ∀ t, u = .text t →
      ∃ username, bodyText request "username" = some username ∧ t = strip username)
    fun _ => True := by
  refine Returns.bind ((getField_returns body "username").mono (fun _ h => h) fun _ _ => trivial) ?_
  rintro value ⟨fields, rfl, hvalue⟩
  split
  · next username =>
    split
    · exact .raise trivial
    · refine .ret fun t ht => ?_
      obtain ⟨text, rfl, rfl⟩ := PyStr.strip_eq_text.mp ht
      exact ⟨text, bodyText_of_lookup hbody hvalue.symm, rfl⟩
  · exact .raise trivial

theorem adminLabel_reads (hbody : request.json = .ok body) : (adminLabel body).Returns
    (fun l => ∀ t, l = .text t → ∃ label, bodyText request "label" = some label ∧ t = strip label)
    fun _ => True := by
  refine Returns.bind ((getField_returns body "label").mono (fun _ h => h) fun _ _ => trivial) ?_
  rintro value ⟨fields, rfl, hvalue⟩
  split
  · next label =>
    split
    · exact .raise trivial
    · refine .ret fun t ht => ?_
      obtain ⟨text, rfl, rfl⟩ := PyStr.strip_eq_text.mp ht
      exact ⟨text, bodyText_of_lookup hbody hvalue.symm, rfl⟩
  · exact .raise trivial

/-- The body names this pubkey. -/
def NamesPubkey (sdk : NostrSdk) (request : Request) (pubkey : String) : Prop :=
  ∃ fields value, request.json = .ok (.obj fields) ∧ Json.lookup fields "pubkey" = some (.str value) ∧
    Npub.parse_to_hex sdk value.strip = .ok pubkey

theorem adminPubkey_reads (sdk : NostrSdk) (hbody : request.json = .ok body) :
    (adminPubkey sdk body).Returns (NamesPubkey sdk request) fun _ => True := by
  refine Returns.bind ((getField_returns body "pubkey").mono (fun _ h => h) fun _ _ => trivial) ?_
  rintro value ⟨fields, rfl, hvalue⟩
  split
  · next value =>
    split
    · exact .raise trivial
    split
    · next pubkey_hex h => exact .ret ⟨fields, value, hbody, hvalue.symm, h⟩
    · exact .raise trivial
    · exact .raise trivial
  · exact .raise trivial

/-- The body says that the identities of the account are to be replaced. -/
def Replaces (request : Request) : Prop :=
  ∃ fields value, request.json = .ok (.obj fields) ∧ Json.lookup fields "replace" = some value ∧
    value.truthy = true

theorem replaces_of_getField {fields : List (PyStr × Json)} (hbody : request.json = .ok (.obj fields)) :
    ((Json.lookup fields "replace").getD (.bool false)).truthy = true ↔ Replaces request := by
  constructor
  · intro htrue
    cases hvalue : Json.lookup fields "replace" with
    | none =>
      rw [hvalue] at htrue
      cases htrue
    | some value =>
      rw [hvalue] at htrue
      exact ⟨fields, value, hbody, hvalue, htrue⟩
  · rintro ⟨fields', value, hbody', hvalue, htruthy⟩
    cases hbody.symm.trans hbody'
    rw [hvalue]
    exact htruthy

theorem identityId_reads (identity_id : String) :
    (identityId identity_id).Returns (fun n => pyInt identity_id = some n) fun _ => True := by
  unfold identityId
  split
  · next n hn => exact .ret hn
  · exact .raise trivial

end Bodies

/-- `POST /nostr-admin/api/identities/<id>/revoke` writes one identity of the account it names. -/
theorem admin_revoke_identity_writes (settings : Settings) (request : Request) (identity_id : String) :
    WritesOnly (fun c => ∃ n username, pyInt identity_id = some n ∧
        bodyText request "username" = some username ∧ c = .revoke_identity n (strip username))
      (admin_revoke_identity_endpoint settings request identity_id) := by
  simp only [admin_revoke_identity_endpoint, Prog.bind_eq]
  refine writesOnly_ensure (writesOnly_admin fun _ => ?_)
  refine writesOnly_returns (readJson_returns request) fun body hbody => ?_
  refine writesOnly_returns (admin_target_reads hbody) fun u hu => ?_
  refine writesOnly_returns (identityId_reads identity_id) fun n hn => ?_
  refine writesOnly_returns (encodedAfter_returns n u) fun t ht => ?_
  obtain ⟨username, husername, rfl⟩ := hu t ht
  refine writesOnly_mapping (fun _ => ⟨n, username, hn, husername, rfl⟩) fun revoked => ?_
  exact writesOnly_ensure (writesOnly_log (writesOnly_ret _))

theorem admin_rename_identity_writes (sdk : NostrSdk) (settings : Settings) (request : Request)
    (identity_id : String) :
    WritesOnly (fun c => ∃ n username label, pyInt identity_id = some n ∧
        bodyText request "username" = some username ∧ bodyText request "label" = some label ∧
        c = .update_identity_label n (strip username) (some (strip label)))
      (admin_rename_identity_endpoint sdk settings request identity_id) := by
  simp only [admin_rename_identity_endpoint, Prog.bind_eq]
  refine writesOnly_ensure (writesOnly_admin fun _ => ?_)
  refine writesOnly_returns (readJson_returns request) fun body hbody => ?_
  refine writesOnly_returns (admin_target_reads hbody) fun u hu => ?_
  refine writesOnly_returns (adminLabel_reads hbody) fun l hl => ?_
  refine writesOnly_returns (identityId_reads identity_id) fun n hn => ?_
  refine writesOnly_returns (encoded_returns l) fun s hs => ?_
  refine writesOnly_returns (encodedAfter_returns n u) fun t ht => ?_
  obtain ⟨username, husername, rfl⟩ := hu t ht
  obtain ⟨label, hlabel, rfl⟩ := hl s hs
  refine writesOnly_mapping (fun _ => ⟨n, username, label, hn, husername, hlabel, rfl⟩) fun found => ?_
  cases found with
  | none => exact writesOnly_raise _
  | some identity =>
    refine writesOnly_log ?_
    exact writesOnly_returns (identity_json_returns sdk identity) fun _ _ => writesOnly_ret _

/-- `POST /nostr-admin/api/identities` replaces identities only where it is told to, and adds to them
only where it is not. -/
theorem admin_add_identity_writes (sdk : NostrSdk) (settings : Settings) (request : Request) :
    WritesOnly (fun c => ∃ username pubkey metadata, bodyText request "username" = some username ∧
        NamesPubkey sdk request pubkey ∧
        (c = .add_identity (strip username) pubkey metadata ∧ ¬Replaces request ∨
          c = .link (strip username) pubkey metadata ∧ Replaces request))
      (admin_add_identity_endpoint sdk settings request) := by
  simp only [admin_add_identity_endpoint, Prog.bind_eq]
  refine writesOnly_ensure (writesOnly_admin fun _ => ?_)
  refine writesOnly_returns (readJson_returns request) fun body hbody => ?_
  refine writesOnly_returns (admin_target_reads hbody) fun u hu => ?_
  refine writesOnly_returns (adminPubkey_reads sdk hbody) fun pubkey hpubkey => ?_
  refine writesOnly_returns (identity_metadata_returns body) fun metadata _ => ?_
  refine writesOnly_returns (getField_returns body "replace") ?_
  rintro replace ⟨fields, rfl, hreplace⟩
  refine writesOnly_attempt (writesOnly_rowTexts fun t l ht => ?_) fun outcome => ?_
  · obtain ⟨username, husername, rfl⟩ := hu t ht
    refine writesOnly_bind ?_ fun _ => writesOnly_ret _
    unfold adminRecord
    have hreplaces := replaces_of_getField hbody
    rw [← hreplace] at hreplaces
    split
    · next htrue =>
      refine writesOnly_mapping (fun _ => ⟨username, pubkey, _, husername, hpubkey,
        Or.inr ⟨rfl, hreplaces.mp htrue⟩⟩) fun _ => ?_
      refine ⟨?_, fun r _ => ?_⟩
      · rintro c ⟨⟩ hwrites
        cases hwrites
      · cases r <;> trivial
    · next hfalse =>
      exact writesOnly_mapping (fun _ => ⟨username, pubkey, _, husername, hpubkey,
        Or.inl ⟨rfl, fun h => hfalse (hreplaces.mpr h)⟩⟩) fun _ => writesOnly_ret _
  · split
    · exact writesOnly_raise _
    · exact writesOnly_raise _
    · refine writesOnly_log ?_
      exact writesOnly_returns (identity_json?_returns sdk _) fun _ _ => writesOnly_ret _

/-- What a request to an endpoint writes, where the endpoint is one of these three. -/
def AdminWrites (sdk : NostrSdk) (job : Job) : Endpoint → MappingCall → Prop
  | .admin_revoke_identity_endpoint id, c => ∃ n username, pyInt id = some n ∧
      bodyText job.request "username" = some username ∧ c = .revoke_identity n (strip username)
  | .admin_rename_identity_endpoint id, c => ∃ n username label, pyInt id = some n ∧
      bodyText job.request "username" = some username ∧ bodyText job.request "label" = some label ∧
      c = .update_identity_label n (strip username) (some (strip label))
  | .admin_add_identity_endpoint, c => ∃ username pubkey metadata,
      bodyText job.request "username" = some username ∧ NamesPubkey sdk job.request pubkey ∧
      (c = .add_identity (strip username) pubkey metadata ∧ ¬Replaces job.request ∨
        c = .link (strip username) pubkey metadata ∧ Replaces job.request)
  | _, _ => True

theorem endpoint_adminWrites (sdk : NostrSdk) (job : Job) (endpoint : Endpoint) :
    WritesOnly (AdminWrites sdk job endpoint) (endpoint.handler sdk job.settings job.request) := by
  cases endpoint with
  | admin_revoke_identity_endpoint id => exact admin_revoke_identity_writes job.settings job.request id
  | admin_rename_identity_endpoint id =>
    exact admin_rename_identity_writes sdk job.settings job.request id
  | admin_add_identity_endpoint => exact admin_add_identity_writes sdk job.settings job.request
  | _ => exact writesOnly_any (fun _ => trivial) _

/-- What the request may write at the endpoint it is routed to. -/
def WritesThere (sdk : NostrSdk) (job : Job) (c : MappingCall) : Prop :=
  ∃ endpoint, endpointOf job.request = some endpoint ∧ AdminWrites sdk job endpoint c

theorem handle_adminWrites (sdk : NostrSdk) (job : Job) :
    WritesOnly (WritesThere sdk job) (handle sdk job) := by
  unfold handle
  split
  · exact writesOnly_ret _
  · next endpoint hroute =>
    refine writesOnly_attempt ?_ fun outcome => writesOnly_ret _
    have hendpoint := (endpoint_adminWrites sdk job endpoint).within
    refine ⟨hendpoint.mono (fun o ho => ?_) fun _ h => h⟩
    exact fun c hc hwrites => ⟨endpoint, hroute, ho c hc hwrites⟩

/-- A writing call of the log is one that the endpoint of its request may make. -/
theorem adminWrites_of_log {sdk : NostrSdk} {w : World} {c : Run} (hc : Reachable (service sdk) w c)
    {e : LogEntry} (he : e ∈ c.log) {job : Job} (hjob : c.job e.who = some job) {endpoint : Endpoint}
    (hroute : endpointOf job.request = some endpoint) {call : MappingCall} (hop : e.op = .mapping call)
    (hwrites : call.writes = true) : AdminWrites sdk job endpoint call := by
  obtain ⟨m, hm⟩ := List.mem_iff_getElem?.mp he
  have hguard : ∀ job, (handle sdk job).wp Rely (fun _ => Writing (WritesThere sdk job))
      (fun _ _ => True) [] := fun job => (handle_adminWrites sdk job).within.wp
  obtain ⟨job', hjob', hcall⟩ := (hc.guarded rely_exec hguard).log m e hm
  obtain rfl := Option.some.inj (hjob.symm.trans hjob')
  obtain ⟨endpoint', hroute', hthere⟩ := hcall call hop hwrites
  obtain rfl := Option.some.inj (hroute.symm.trans hroute')
  exact hthere

end NostrAuth.Server
