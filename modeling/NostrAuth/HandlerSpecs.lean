import NostrAuth.Server

/-! What the handlers may do: for each call the circumstances in which a handler makes it,
given the calls it made before, and for each answer what it stands for. Every handler is
checked alone, against all answers its calls may get. -/

set_option autoImplicit false

namespace NostrAuth

open Interaction Handler PortalClient Prog

/-- The calls that change or delete identities without recording a new one. -/
def MappingCall.edits : MappingCall → Bool
  | .unlink _ | .revoke_identity .. | .update_identity_label .. => true
  | _ => false

namespace Server

/-! ## What a handler may rely on -/

/-- No exception in `e` is an answer to the client with a status code outside `codes`. -/
def Refuses (codes : List Nat) (e : Exn) : Prop :=
  ∀ status_code message, e = .apiError status_code message → status_code ∈ codes

theorem Refuses.mono {codes codes' : List Nat} {e : Exn} (hsub : codes ⊆ codes')
    (h : Refuses codes e) : Refuses codes' e := fun s m he => hsub (h s m he)

theorem refuses_apiError {codes : List Nat} {s : Nat} {m : String} (h : s ∈ codes) :
    Refuses codes (.apiError s m) := fun s' m' he => by
  cases he
  exact h

/-- The end of a function that answers no client: what it raises is no answer either. -/
def FromStore {α : Type} : Except Exn α → Prop
  | .ok _ => True
  | .error e => Refuses [] e

/-- What holds of every answer: the stores raise no answers to the client, and the rows
that `get_by_pubkey` finds have an id. -/
def Rely : Event Op Op.Ans → Prop
  | ⟨.issue .., r⟩ => FromStore r
  | ⟨.consume _, r⟩ => FromStore r
  | ⟨.mapping (.get_by_pubkey _), r⟩ =>
    FromStore r ∧ ∀ identity, r = .ok (some identity) → ∃ id, identity.identity_id = some id
  | ⟨.mapping _, r⟩ => FromStore r
  | _ => True

theorem fromStore_bindInt (n : Int) : FromStore (MappingStore.bindInt n) := by
  unfold MappingStore.bindInt
  split
  · trivial
  · exact nofun

theorem fromStore_bindText (v : Json) : FromStore (bindText v) := by
  cases v with
  | int n =>
    simp only [bindText]
    split
    · trivial
    · intro s m h
      cases h
  | arr items =>
    intro s m h
    cases h
  | obj fields =>
    intro s m h
    cases h
  | str s =>
    cases s with
    | text s => trivial
    | lone t =>
      intro s m h
      cases h
  | _ => trivial

theorem fromStore_insertNew (u p : String) (t : Int) (metadata : MappingStore.Metadata)
    (db : MappingDb) : FromStore (MappingStore.insertNew u p t metadata db) := by
  unfold MappingStore.insertNew MappingDb.insertRow
  split
  · trivial
  · exact nofun

theorem fromStore_checkOther (u : String) (owner : Option String) :
    FromStore (MappingStore.checkOther u owner) := by
  cases owner with
  | none => trivial
  | some owner =>
    simp only [MappingStore.checkOther]
    split
    · intro s m h
      cases h
    · trivial

theorem fromStore_checkAny (u : String) (owner : Option String) :
    FromStore (MappingStore.checkAny u owner) := by
  cases owner with
  | none => trivial
  | some owner =>
    simp only [MappingStore.checkAny]
    split
    · intro s m h
      cases h
    · intro s m h
      cases h

theorem fromStore_of_error {α β : Type} {x : Except Exn α} {e : Exn} (hx : FromStore x)
    (he : x = .error e) : FromStore (.error e : Except Exn β) := by
  subst he
  exact hx

theorem fromStore_checkText (replace : Bool) (u : PyStr) (owner : Option String) :
    FromStore (MappingStore.checkText replace u owner) := by
  cases u with
  | text u =>
    cases replace with
    | true => exact fromStore_checkOther u owner
    | false => exact fromStore_checkAny u owner
  | lone t =>
    cases owner with
    | none => trivial
    | some owner =>
      intro s m h
      cases h

/-- The methods of the mapping store raise no answers to the client. -/
theorem fromStore_method (c : MappingCall) (t : Nat → Int) (db : MappingDb) :
    FromStore (c.method.run t db none).1 := by
  cases c with
  | link u p metadata =>
    simp only [MappingCall.method, MappingStore.run_link]
    split
    · next e he => exact fromStore_of_error (fromStore_checkOther u _) he
    · split
      · next e he => exact fromStore_of_error (fromStore_insertNew u p _ metadata _) he
      · trivial
  | add_identity u p metadata =>
    simp only [MappingCall.method, MappingStore.run_add_identity]
    split
    · next e he => exact fromStore_of_error (fromStore_checkAny u _) he
    · split
      · next e he => exact fromStore_of_error (fromStore_insertNew u p _ metadata _) he
      · trivial
  | link_unencodable replace u p text =>
    simp only [MappingCall.method, MappingStore.run_linkUnencodable]
    split
    · next e he => exact fromStore_of_error (fromStore_checkText replace u _) he
    · intro s m h
      cases h
  | unlink u => simp only [MappingCall.method, MappingStore.run_unlink, FromStore]
  | revoke_identity id u =>
    simp only [MappingCall.method, MappingStore.run_revoke_identity]
    split
    · next e he => exact fromStore_of_error (fromStore_bindInt id) he
    · trivial
  | update_identity_label id u label =>
    simp only [MappingCall.method, MappingStore.run_update_identity_label]
    split
    · next e he => exact fromStore_of_error (fromStore_bindInt id) he
    · trivial
  | touch_last_used u => simp only [MappingCall.method, MappingStore.run_touch_last_used, FromStore]
  | touch_identity id =>
    simp only [MappingCall.method, MappingStore.run_touch_identity]
    split
    · next e he => exact fromStore_of_error (fromStore_bindInt id) he
    · trivial
  | get_by_pubkey p => simp only [MappingCall.method, MappingStore.run_get_by_pubkey, FromStore]
  | get_by_username u => simp only [MappingCall.method, MappingStore.run_get_by_username, FromStore]
  | list_by_username u all => simp only [MappingCall.method, MappingStore.run_list_by_username, FromStore]
  | list_all => simp only [MappingCall.method, MappingStore.run_list_all, FromStore]

/-- Every executed call is answered as the handlers rely on. -/
theorem rely_exec (o : Op) (inp : Oracle) (w : World) : Rely ⟨o, (exec o inp w).1⟩ := by
  cases o with
  | issue domain action =>
    show FromStore _
    simp only [exec, ChallengeStore.run_issue]
    split
    · next e he =>
      unfold ChallengeTable.insertNew at he
      split at he
      · cases he
      · cases he
        exact nofun
    · trivial
  | consume nonce =>
    show FromStore _
    simp only [exec, ChallengeStore.run_consume]
    split
    · next e he => exact fromStore_of_error (fromStore_bindText nonce) he
    · trivial
  | me cookie host base => trivial
  | mapping c =>
    have hstore := fromStore_method c inp.clock w.mappings
    cases c with
    | get_by_pubkey p =>
      refine ⟨hstore, fun identity hr => ?_⟩
      simp only [exec, MappingCall.method, MappingStore.run_get_by_pubkey, Except.ok.injEq,
        Option.map_eq_some_iff] at hr
      obtain ⟨row, _, rfl⟩ := hr
      exact ⟨row.identity_id, rfl⟩
    | _ => exact hstore
  | mint u host => trivial
  | log level message => trivial

/-! ## When a call is allowed -/

/-- The event in the body of a request. -/
def eventOf (request : Request) : Option (List (PyStr × Json)) :=
  match request.json with
  | .ok (.obj fields) =>
    match Json.lookup fields "event" with
    | some (.obj event) => some event
    | _ => none
  | _ => none

/-- The request took this challenge out of the store. -/
def took (nonce : Json) (challenge : Challenge) : Event Op Op.Ans :=
  ⟨.consume nonce, .ok (some challenge)⟩

/-- The store found this identity for the pubkey. -/
def found (pubkey : String) (identity : Identity) : Event Op Op.Ans :=
  ⟨.mapping (.get_by_pubkey pubkey), .ok (some identity)⟩

/-- The question to portal-api about the request's own cookie and host. -/
def askMe (job : Job) : Op :=
  .me (orElse (job.request.headers "cookie") "") (hostOf job.request)
    job.settings.portal_api_base_url

/-- The answer portal-api gave to that question. -/
def asked (job : Job) (reply : PortalReply) : Event Op Op.Ans :=
  ⟨.me (orElse (job.request.headers "cookie") "") (hostOf job.request)
    job.settings.portal_api_base_url, reply⟩

/-- The event in the body of the request attests to the challenge and was signed by `pubkey`. -/
def SignedBy (sdk : NostrSdk) (job : Job) (challenge : Challenge) (pubkey : String) : Prop :=
  ∃ fields event, eventOf job.request = some fields ∧
    NostrVerify.Attests sdk (Json.dumps (.obj fields)) challenge.nonce challenge.domain
      challenge.action challenge.issued_at challenge.expires_at job.settings.clock_skew_seconds
      event ∧ pubkey = sdk.author event

/-- The routes on which an account changes its own identities without a signature. -/
def Endpoint.editsOwn : Endpoint → Bool
  | .unlink_endpoint | .revoke_identity_endpoint _ | .update_identity_endpoint _ => true
  | _ => false

/-- The routes below `/nostr-admin/api` that change identities. -/
def Endpoint.administers : Endpoint → Bool
  | .admin_add_identity_endpoint | .admin_revoke_identity_endpoint _
  | .admin_rename_identity_endpoint _ | .admin_unlink_endpoint => true
  | _ => false

/-- **The circumstances in which a handler makes a call**: the endpoint, the calls the
request has made before, and what was checked. -/
inductive Allowed (sdk : NostrSdk) (job : Job) : Endpoint → Trace → Op → Prop
  | issue_login (domain : String) :
      job.request.headers "host" = some domain → domain ≠ "" →
      job.settings.allow_nostr_login = true →
      Allowed sdk job .challenge_endpoint [] (.issue domain LOGIN_ACTION)
  | issue_by_query (domain : String) :
      job.request.headers "host" = some domain → domain ≠ "" →
      job.request.query_params "action" = some LINK_ACTION →
      Allowed sdk job .challenge_endpoint [] (.issue domain LINK_ACTION)
  | issue_link (domain : String) :
      job.request.headers "host" = some domain → domain ≠ "" →
      job.settings.allow_identity_linking = true →
      Allowed sdk job .link_challenge_endpoint [] (.issue domain LINK_ACTION)
  | consume_login (nonce : Json) :
      job.settings.allow_nostr_login = true →
      Allowed sdk job .authenticate_endpoint [] (.consume nonce)
  | consume_link (endpoint : Endpoint) (nonce : Json) :
      endpoint = .link_endpoint ∨ endpoint = .add_identity_endpoint →
      job.settings.allow_identity_linking = true → Allowed sdk job endpoint [] (.consume nonce)
  | ask (endpoint : Endpoint) (h : Trace) :
      h = [] ∨ (∃ nonce challenge, h = [took nonce challenge]) →
      Allowed sdk job endpoint h (askMe job)
  | touch (nonce : Json) (challenge : Challenge) (pubkey : String) (identity : Identity)
      (identity_id : Int) :
      challenge.action = LOGIN_ACTION → SignedBy sdk job challenge pubkey →
      identity.identity_id = some identity_id →
      Allowed sdk job .authenticate_endpoint [took nonce challenge, found pubkey identity]
        (.mapping (.touch_identity identity_id))
  | mint (nonce : Json) (challenge : Challenge) (pubkey : String) (identity : Identity)
      (identity_id : Int) :
      job.settings.allow_nostr_login = true → challenge.action = LOGIN_ACTION →
      SignedBy sdk job challenge pubkey →
      Allowed sdk job .authenticate_endpoint
        [took nonce challenge, found pubkey identity, ⟨.mapping (.touch_identity identity_id), .ok ()⟩]
        (.mint identity.ynh_username challenge.domain)
  | record (endpoint : Endpoint) (c : MappingCall) (nonce : Json) (challenge : Challenge)
      (pubkey : String) (reply : PortalReply) (session : AuthenticatedSession)
      (metadata : MappingStore.Metadata) :
      (∃ username, session.username = .text username ∧
        ((endpoint = .link_endpoint ∧ c = .link username pubkey metadata) ∨
          (endpoint = .add_identity_endpoint ∧ c = .add_identity username pubkey metadata))) →
      job.settings.allow_identity_linking = true → challenge.action = LINK_ACTION →
      SignedBy sdk job challenge pubkey → readSession reply = .ok session →
      metadata.linked_by = "self-service" →
      Allowed sdk job endpoint [took nonce challenge, asked job reply] (.mapping c)
  | edit_own (endpoint : Endpoint) (c : MappingCall) (reply : PortalReply)
      (session : AuthenticatedSession) :
      endpoint.editsOwn = true → c.edits = true → readSession reply = .ok session →
      (∃ username, session.username = .text username ∧ c.account = some username) →
      Allowed sdk job endpoint [asked job reply] (.mapping c)
  | admin_edit (endpoint : Endpoint) (c : MappingCall) (reply : PortalReply)
      (session : AuthenticatedSession) :
      endpoint.administers = true → c.edits = true → readSession reply = .ok session →
      session.is_admin = true → Allowed sdk job endpoint [asked job reply] (.mapping c)
  | admin_record (c : MappingCall) (reply : PortalReply) (session : AuthenticatedSession)
      (username pubkey : String) (metadata : MappingStore.Metadata) :
      c = .link username pubkey metadata ∨ c = .add_identity username pubkey metadata →
      metadata.linked_by = "admin" → readSession reply = .ok session → session.is_admin = true →
      Allowed sdk job .admin_add_identity_endpoint [asked job reply] (.mapping c)
  | read (endpoint : Endpoint) (h : Trace) (c : MappingCall) :
      c.writes = false → Allowed sdk job endpoint h (.mapping c)
  | log (endpoint : Endpoint) (h : Trace) (level : Level) (message : String) :
      Allowed sdk job endpoint h (.log level message)

/-- The status codes with which a handler refuses a request. -/
def Endpoint.refusals : Endpoint → List Nat
  | .root_redirect | .nostr_login_page | .nostr_account_page | .admin_page | .policy_endpoint
  | .admin_session_endpoint | .nostr_json_endpoint => []
  | .static_asset _ => [404]
  | .challenge_endpoint | .link_challenge_endpoint => [400, 403]
  | .authenticate_endpoint => [400, 401, 403, 415, 502]
  | .link_endpoint | .add_identity_endpoint => [400, 401, 403, 415]
  | .unlink_endpoint | .identity_endpoint | .identities_endpoint => [401]
  | .update_identity_endpoint _ => [400, 401, 404, 415]
  | .revoke_identity_endpoint _ => [400, 401, 404]
  | .admin_list_identities_endpoint => [401, 403]
  | .admin_add_identity_endpoint => [400, 401, 403, 409, 415]
  | .admin_revoke_identity_endpoint _ | .admin_rename_identity_endpoint _ => [400, 401, 403, 404, 415]
  | .admin_unlink_endpoint => [400, 401, 403, 415]

/-- What a response of the endpoint stands for: a login or a link that was answered with
success redeemed a challenge, and a login sets the cookie of the minted session. -/
def Answered (sdk : NostrSdk) (job : Job) : Endpoint → Trace → Response → Prop
  | .authenticate_endpoint, h, response =>
    response.status_code = 200 ∧ ∃ nonce challenge pubkey username token max_age,
      took nonce challenge ∈ h ∧ SignedBy sdk job challenge pubkey ∧
      ⟨.mint username challenge.domain, .minted token max_age⟩ ∈ h ∧
      response.cookie = some (sessionCookie job.request ⟨"yunohost.portal", token, max_age⟩)
  | .link_endpoint, h, response | .add_identity_endpoint, h, response =>
    response.status_code = 200 ∧ ∃ nonce challenge pubkey,
      took nonce challenge ∈ h ∧ SignedBy sdk job challenge pubkey
  | .root_redirect, _, response => response.status_code = 307
  | _, _, response => response.status_code = 200

/-- How a handler of the endpoint ends. -/
def Ends (sdk : NostrSdk) (job : Job) (endpoint : Endpoint) (h : Trace) :
    Except Exn Response → Prop
  | .ok response => Answered sdk job endpoint h response
  | .error e => Refuses endpoint.refusals e

/-! ## What handlers read of a request -/

theorem orElse_ne {value : Option String} {default s : String} (h : orElse value default = s)
    (hs : s ≠ default) : value = some s ∧ s ≠ "" := by
  cases value with
  | none => exact absurd h.symm hs
  | some s' =>
    simp only [orElse] at h
    split at h
    · exact absurd h.symm hs
    · next hne =>
      subst h
      exact ⟨rfl, hne⟩

section Silent

variable (request : Request) (body : Json)

theorem require_json_returns : (_require_json request).Returns
    (fun _ => mediaType request = "application/json") (Refuses [415]) :=
  Returns.ensure fun _ => refuses_apiError (by simp)

theorem refuse_returns {α : Type} {P : α → Prop} (s : Nat) (m : String) :
    (refuse s m : Handler α).Returns P (Refuses [s]) := Returns.raise (refuses_apiError (by simp))

theorem readJson_returns :
    (readJson request).Returns (fun b => request.json = .ok b) (Refuses []) := by
  unfold readJson
  cases request.json with
  | error e => exact .raise (by cases e <;> exact nofun)
  | ok b => exact .ret rfl

theorem getField_returns (key : String) : (getField body key).Returns
    (fun value => ∃ fields, body = .obj fields ∧ value = Json.lookup fields key) (Refuses []) := by
  cases body with
  | obj fields => exact .ret ⟨fields, rfl, rfl⟩
  | _ => exact .raise nofun

/-- The handler goes on with the event in the body. -/
theorem readEvent_returns {request : Request} {body : Json} (hbody : request.json = .ok body) :
    (readEvent body).Returns (fun event => eventOf request = some event) (Refuses [400]) := by
  refine Returns.bind ((getField_returns body "event").mono (fun _ h => h)
    fun _ he => he.mono (by simp)) fun value => ?_
  rintro ⟨fields, rfl, rfl⟩
  split
  · next event hevent =>
    refine .ret ?_
    simp only [eventOf, hbody, hevent]
  · exact refuse_returns 400 _

theorem requireCookie_returns : (requireCookie request).Returns
    (fun cookie => cookie = orElse (request.headers "cookie") "") (Refuses [401]) := by
  unfold requireCookie
  simp only
  split
  · exact .raise (refuses_apiError (by simp))
  · exact .ret rfl

theorem identity_metadata_returns :
    (_identity_metadata body).Returns (fun _ => True) (Refuses [400]) := by
  refine Returns.bind ((getField_returns body _).mono (fun _ h => h)
    fun _ he => he.mono (by simp)) fun signer_type _ => ?_
  refine Returns.bind ((getField_returns body _).mono (fun _ h => h)
    fun _ he => he.mono (by simp)) fun label _ => ?_
  have hlabel : Refuses [400] labelError := refuses_apiError (by simp)
  split
  · split
    · split
      · exact .ret trivial
      · split
        · exact .raise hlabel
        · exact .ret trivial
      · exact .raise hlabel
    · exact refuse_returns 400 _
  · exact refuse_returns 400 _

theorem identityId_returns (identity_id : String) :
    (identityId identity_id).Returns (fun _ => True) (Refuses [400]) := by
  unfold identityId
  split
  · exact .ret trivial
  · exact refuse_returns 400 _

theorem admin_target_returns : (_admin_target body).Returns (fun _ => True) (Refuses [400]) := by
  refine Returns.bind ((getField_returns body _).mono (fun _ h => h)
    fun _ he => he.mono (by simp)) fun username _ => ?_
  split
  · split
    · exact refuse_returns 400 _
    · exact .ret trivial
  · exact refuse_returns 400 _

theorem hex_to_npub_error {sdk : NostrSdk} {pubkey : String} {e : Exn}
    (h : Npub.hex_to_npub sdk pubkey = .error e) : Refuses [] e := by
  unfold Npub.hex_to_npub at h
  split at h
  · cases h
  · cases h
    exact nofun

theorem parse_to_hex_error {sdk : NostrSdk} {value : PyStr} {e : Exn}
    (h : Npub.parse_to_hex sdk value = .error e) : ∃ m, e = .valueError m := by
  unfold Npub.parse_to_hex at h
  split at h
  · cases h
    exact ⟨_, rfl⟩
  · split at h
    · cases h
    · cases h
      exact ⟨_, rfl⟩

theorem identity_json_returns (sdk : NostrSdk) (identity : Identity) :
    (_identity_json sdk identity).Returns (fun _ => True) (Refuses []) := by
  unfold _identity_json
  split
  · next e he => exact .raise (hex_to_npub_error he)
  · exact .ret trivial

theorem identity_json?_returns (sdk : NostrSdk) (identity : Option Identity) :
    (_identity_json? sdk identity).Returns (fun _ => True) (Refuses []) := by
  cases identity with
  | none => exact .raise nofun
  | some identity => exact identity_json_returns sdk identity

theorem identityList_returns (sdk : NostrSdk) (identities : List Identity) :
    (identityList sdk identities).Returns (fun _ => True) (Refuses []) := by
  induction identities with
  | nil => exact .ret trivial
  | cons identity rest ih =>
    exact Returns.bind (identity_json_returns sdk identity) fun _ _ =>
      Returns.bind ih fun _ _ => .ret trivial

theorem labelField_returns : (labelField body).Returns (fun _ => True) (Refuses [400]) := by
  unfold labelField
  cases body with
  | obj fields =>
    simp only
    split
    · exact .ret trivial
    · exact refuse_returns 400 _
  | arr items =>
    simp only
    split
    · exact .raise nofun
    · exact refuse_returns 400 _
  | str s =>
    simp only
    split
    · exact .raise nofun
    · exact refuse_returns 400 _
  | null | bool _ | int _ | float _ => exact .raise nofun

theorem newLabel_returns : (newLabel body).Returns (fun _ => True) (Refuses [400]) := by
  refine Returns.bind (labelField_returns body) fun label _ => ?_
  split
  · exact .ret trivial
  · split
    · exact refuse_returns 400 _
    · exact .ret trivial
  · exact refuse_returns 400 _

theorem adminPubkey_returns (sdk : NostrSdk) :
    (adminPubkey sdk body).Returns (fun _ => True) (Refuses [400]) := by
  refine Returns.bind ((getField_returns body _).mono (fun _ h => h)
    fun _ he => he.mono (by simp)) fun pubkey_or_npub _ => ?_
  split
  · next value _ =>
    split
    · exact refuse_returns 400 _
    · cases hparsed : Npub.parse_to_hex sdk value.strip with
      | ok pubkey => exact .ret trivial
      | error e =>
        obtain ⟨m, rfl⟩ := parse_to_hex_error hparsed
        exact refuse_returns 400 m
  · exact refuse_returns 400 _

theorem encoded_returns (s : PyStr) :
    (encoded s).Returns (fun t => s = .text t) (Refuses []) := by
  cases s with
  | text s => exact .ret rfl
  | lone t => exact .raise nofun

theorem encodedAfter_returns (n : Int) (s : PyStr) :
    (encodedAfter n s).Returns (fun t => s = .text t) (Refuses []) := by
  cases s with
  | text s => exact .ret rfl
  | lone t =>
    unfold encodedAfter
    cases hn : MappingStore.bindInt n with
    | ok m => exact .raise nofun
    | error e =>
      have he := fromStore_bindInt n
      rw [hn] at he
      exact .raise he

theorem encodedLabel_returns (label : Option PyStr) :
    (encodedLabel label).Returns (fun l => label = l.map .text) (Refuses []) := by
  cases label with
  | none => exact .ret rfl
  | some label =>
    cases label with
    | text l => exact .ret rfl
    | lone t => exact .raise nofun

theorem adminLabel_returns : (adminLabel body).Returns (fun _ => True) (Refuses [400]) := by
  refine Returns.bind ((getField_returns body _).mono (fun _ h => h)
    fun _ he => he.mono (by simp)) fun label _ => ?_
  have hlabel : Refuses [400] labelError := refuses_apiError (by simp)
  split
  · split
    · exact .raise hlabel
    · exact .ret trivial
  · exact .raise hlabel

end Silent

/-! ## One step of a handler -/

section Steps

variable {sdk : NostrSdk} {job : Job} {endpoint : Endpoint} {h : Trace}

/-- After the calls `h`, the rest of a handler of `endpoint` makes allowed calls only and
ends as it should. -/
structure Meets (sdk : NostrSdk) (job : Job) (endpoint : Endpoint) (h : Trace)
    (p : Handler Response) : Prop where
  wp : p.wp Rely (Allowed sdk job endpoint) (Ends sdk job endpoint) h

theorem meets_ret {response : Response} (hr : Answered sdk job endpoint h response) :
    Meets sdk job endpoint h (.ret response) := ⟨hr⟩

theorem meets_raise {e : Exn} (he : Refuses endpoint.refusals e) :
    Meets sdk job endpoint h (.raise e) := ⟨he⟩

theorem meets_refuse {s : Nat} {m : String} (hs : s ∈ endpoint.refusals) :
    Meets sdk job endpoint h (refuse s m) := ⟨refuses_apiError hs⟩

theorem meets_silent {α : Type} {p : Handler α} {P : α → Prop} {codes : List Nat}
    {f : α → Handler Response} (hp : p.Returns P (Refuses codes))
    (hsub : codes ⊆ endpoint.refusals) (hf : ∀ a, P a → Meets sdk job endpoint h (f a)) :
    Meets sdk job endpoint h (p.bind f) :=
  ⟨hp.wp_bind (fun a ha => (hf a ha).wp) fun _ he => he.mono hsub⟩

theorem meets_ensure {c : Prop} [Decidable c] {s : Nat} {m : String} {f : Unit → Handler Response}
    (hs : s ∈ endpoint.refusals) (hf : c → Meets sdk job endpoint h (f ())) :
    Meets sdk job endpoint h ((ensure c (.apiError s m)).bind f) :=
  meets_silent (Returns.ensure fun _ => refuses_apiError (List.mem_singleton_self s))
    (by simpa using hs) fun _ hc => hf hc

theorem rely_mapping_error {c : MappingCall} {e : Exn} (h : Rely ⟨.mapping c, .error e⟩) :
    Refuses [] e := by
  cases c with
  | get_by_pubkey p => exact h.1
  | _ => exact h

theorem meets_call {c : MappingCall} {k : Except Exn c.Reply → Handler Response}
    (hc : Allowed sdk job endpoint h (.mapping c))
    (hok : ∀ r, Meets sdk job endpoint (h ++ [⟨.mapping c, .ok r⟩]) (k (.ok r)))
    (herr : ∀ h e, Refuses [] e → Meets sdk job endpoint h (k (.error e))) :
    Meets sdk job endpoint h (.call (.mapping c) k) := by
  refine ⟨hc, fun r hr => ?_⟩
  cases r with
  | error e => exact (herr _ e (rely_mapping_error hr)).wp
  | ok r => exact (hok r).wp

theorem meets_mapping {c : MappingCall} {f : c.Reply → Handler Response}
    (hc : Allowed sdk job endpoint h (.mapping c))
    (hf : ∀ r, Meets sdk job endpoint (h ++ [⟨.mapping c, .ok r⟩]) (f r)) :
    Meets sdk job endpoint h ((mappings c).bind f) :=
  meets_call hc hf fun _ _ he => meets_raise (he.mono (by simp))

theorem meets_log {level : Level} {message : String} {f : Unit → Handler Response}
    (hf : Meets sdk job endpoint (h ++ [⟨.log level message, ()⟩]) (f ())) :
    Meets sdk job endpoint h ((log level message).bind f) :=
  ⟨.log endpoint h level message, fun _ _ => hf.wp⟩

theorem readSession_error {reply : PortalReply} {e : Exn} (h : readSession reply = .error e) :
    Refuses [] e := by
  cases reply with
  | httpError _ | urlError _ | notJson _ | raised _ _ =>
    cases h
    exact nofun
  | body value =>
    cases value with
    | obj fields =>
      simp only [readSession] at h
      split at h
      · split at h
        · cases h
          exact nofun
        · cases h
      · cases h
        exact nofun
    | _ =>
      cases h
      exact nofun

/-- Asking portal-api who the client is. -/
theorem meets_ask {k : PortalReply → Handler Response} {cookie : String}
    (hcookie : cookie = orElse (job.request.headers "cookie") "")
    (hh : h = [] ∨ ∃ nonce challenge, h = [took nonce challenge])
    (hk : ∀ reply, Meets sdk job endpoint (h ++ [asked job reply]) (k reply)) :
    Meets sdk job endpoint h
      (.call (.me cookie (hostOf job.request) job.settings.portal_api_base_url) k) := by
  subst hcookie
  exact ⟨.ask endpoint h hh, fun reply _ => (hk reply).wp⟩

end Steps

theorem meets_require_json {sdk : NostrSdk} {job : Job} {endpoint : Endpoint} {h : Trace}
    {f : Unit → Handler Response} (h415 : 415 ∈ endpoint.refusals)
    (hf : Meets sdk job endpoint h (f ())) :
    Meets sdk job endpoint h ((_require_json job.request).bind f) := by
  have hjson := require_json_returns job.request
  exact meets_silent hjson (by simpa using h415) fun _ _ => hf

theorem meets_identityId {sdk : NostrSdk} {job : Job} {endpoint : Endpoint} {h : Trace}
    {identity_id : String} {f : Int → Handler Response} (h400 : 400 ∈ endpoint.refusals)
    (hf : ∀ id, Meets sdk job endpoint h (f id)) :
    Meets sdk job endpoint h ((identityId identity_id).bind f) := by
  have hid := identityId_returns identity_id
  exact meets_silent hid (by simpa using h400) fun id _ => hf id

/-- The client must be logged in to go on. -/
theorem meets_username {sdk : NostrSdk} {job : Job} {endpoint : Endpoint}
    {f : PyStr → Handler Response} (h401 : 401 ∈ endpoint.refusals)
    (hf : ∀ reply session, readSession reply = .ok session →
      Meets sdk job endpoint [asked job reply] (f session.username)) :
    Meets sdk job endpoint [] ((_authenticated_username job.settings job.request).bind f) := by
  simp only [_authenticated_username, get_authenticated_username, get_authenticated_session,
    Prog.bind_eq, bind_assoc, call_bind, attempt_call]
  refine meets_silent (requireCookie_returns job.request) (by simpa using h401) fun cookie hc => ?_
  refine meets_ask hc (Or.inl rfl) fun reply => ?_
  cases hs : readSession reply with
  | ok session => exact hf reply session hs
  | error e =>
    have he := readSession_error hs
    simp only [ofExcept_error, raise_bind, attempt_raise, ret_bind]
    split
    · next heq => cases heq
    · exact meets_refuse h401
    · next heq =>
      cases heq
      exact meets_raise (he.mono (by simp))

/-- `linking.py` asks who the client is; the caller handles its error. -/
theorem meets_currentUser {sdk : NostrSdk} {job : Job} {endpoint : Endpoint} {h : Trace} {α : Type}
    {cookie : String} {g : PyStr → Handler α} {f : Except Exn α → Handler Response}
    (hcookie : cookie = orElse (job.request.headers "cookie") "")
    (hh : h = [] ∨ ∃ nonce challenge, h = [took nonce challenge])
    (hok : ∀ reply session, readSession reply = .ok session →
      Meets sdk job endpoint (h ++ [asked job reply]) ((g session.username).attempt.bind f))
    (herr : ∀ h e, Refuses [] e → Meets sdk job endpoint h (f (.error e))) :
    Meets sdk job endpoint h (((Linking.currentUser cookie (hostOf job.request)
      job.settings.portal_api_base_url).bind g).attempt.bind f) := by
  simp only [Linking.currentUser, get_authenticated_username, get_authenticated_session,
    Prog.bind_eq, bind_assoc, call_bind, attempt_call]
  refine meets_ask hcookie hh fun reply => ?_
  cases hs : readSession reply with
  | ok session => exact hok reply session hs
  | error e =>
    have he := readSession_error hs
    simp only [ofExcept_error, raise_bind, attempt_raise, ret_bind]
    split
    · next heq => cases heq
    · exact herr _ _ nofun
    · next heq =>
      cases heq
      exact herr _ _ he

/-- The texts of a new row: where one is not encodable the caller handles the error. -/
theorem meets_rowTexts {sdk : NostrSdk} {job : Job} {endpoint : Endpoint} {h : Trace} {α : Type}
    {replace : Bool} {username : PyStr} {pubkey : String} {label : Option PyStr}
    {g : String × Option String → Handler α} {f : Except Exn α → Handler Response}
    (hok : ∀ u l, username = .text u → Meets sdk job endpoint h ((g (u, l)).attempt.bind f))
    (herr : ∀ h e, Refuses [] e → Meets sdk job endpoint h (f (.error e))) :
    Meets sdk job endpoint h (((rowTexts replace username pubkey label).bind g).attempt.bind f) := by
  rcases rowTexts_cases replace username pubkey label with ⟨u, l, hu, -, hret⟩ | ⟨-, t, hcall⟩
  · rw [hret]
    exact hok u l hu
  · rw [hcall]
    exact meets_call (.read endpoint h _ rfl) nofun herr

/-- The client must be an administrator to go on. -/
theorem meets_admin {sdk : NostrSdk} {job : Job} {endpoint : Endpoint}
    {f : PyStr → Handler Response} (h401 : 401 ∈ endpoint.refusals)
    (h403 : 403 ∈ endpoint.refusals)
    (hf : ∀ reply session, readSession reply = .ok session → session.is_admin = true →
      Meets sdk job endpoint [asked job reply] (f session.username)) :
    Meets sdk job endpoint [] ((_authenticated_admin job.settings job.request).bind f) := by
  simp only [_authenticated_admin, get_authenticated_session, Prog.bind_eq, bind_assoc, call_bind,
    attempt_call]
  refine meets_silent (requireCookie_returns job.request) (by simpa using h401) fun cookie hc => ?_
  refine meets_ask hc (Or.inl rfl) fun reply => ?_
  cases hs : readSession reply with
  | ok session =>
    simp only [ofExcept_ok, attempt_ret, ret_bind]
    split
    · next hadmin => exact hf reply session hs hadmin
    · exact meets_refuse h403
  | error e =>
    have he := readSession_error hs
    simp only [ofExcept_error, attempt_raise, ret_bind]
    split
    · next heq => cases heq
    · exact meets_refuse h401
    · next heq =>
      cases heq
      exact meets_raise (he.mono (by simp))

end Server

end NostrAuth
