import NostrAuth.Service

/-! `server.py`: the endpoints, the routes that lead to them, and the service as a machine
that runs any number of requests interleaved. -/

set_option autoImplicit false

namespace NostrAuth.Server

open Interaction Handler PortalClient

def LOGIN_ACTION : String := Login.LOGIN_ACTION
def LINK_ACTION : String := Linking.LINK_ACTION
def ALLOWED_ACTIONS : List String := [LOGIN_ACTION, LINK_ACTION]

def respond (fields : List (PyStr × Json)) : Response := ⟨200, .json (.obj fields), [], none⟩

def refuse {α : Type} (status_code : Nat) (message : String) : Handler α :=
  .raise (.apiError status_code message)

def notLoggedIn : Exn := .apiError 401 "not currently logged in to YunoHost"

/-! ## What the endpoints read of a request -/

/-- `value or default` on an optional string. -/
def orElse (value : Option String) (default : String) : String :=
  match value with
  | some s => if s = "" then default else s
  | none => default

def _client_ip (request : Request) : String :=
  orElse (request.headers "x-real-ip") (request.client.getD "unknown")

/-- The media type that `_require_json` compares. -/
def mediaType (request : Request) : String :=
  lower (strip (beforeFirst ';' (orElse (request.headers "content-type") "")))

def _require_json (request : Request) : Handler Unit :=
  Prog.ensure (mediaType request = "application/json")
    (.apiError 415 "Content-Type must be application/json")

/-- `await request.json()` -/
def readJson (request : Request) : Handler Json :=
  match request.json with
  | .ok body => .ret body
  | .error e => .raise e.exn

/-- `body.get(key)` -/
def getField (body : Json) (key : String) : Handler (Option Json) :=
  match body with
  | .obj fields => .ret (Json.lookup fields key)
  | value => .raise (noAttribute (typeName value) "get")

/-- The `event` of the body, which must be an object. -/
def readEvent (body : Json) : Handler (List (PyStr × Json)) := do
  let event ← getField body "event"
  match event with
  | some (.obj fields) => return fields
  | _ => refuse 400 "missing 'event'"

/-- `request.headers.get("cookie")`, which must not be missing or empty. -/
def requireCookie (request : Request) : Handler String :=
  let cookie_header := orElse (request.headers "cookie") ""
  if cookie_header = "" then .raise notLoggedIn else .ret cookie_header

/-- `request.headers.get("host", "")` -/
def hostOf (request : Request) : String := (request.headers "host").getD ""

/-- `challenge_store.consume(nonce) if nonce else None` -/
def consumeNamed (event : List (PyStr × Json)) : Handler (Option Challenge) :=
  match NostrVerify.extract_tag_from_raw_event event "challenge" with
  | some nonce => if nonce.truthy then consume nonce else .ret none
  | none => .ret none

def optional {α : Type} (f : α → Json) : Option α → Json
  | some a => f a
  | none => .null

def SIGNER_TYPES : List String := ["unknown", "nip07", "nip46", "passkey"]

def labelError : Exn :=
  .apiError 400 "label must be a non-empty string of at most 120 characters"

def _identity_metadata (body : Json) : Handler (String × Option PyStr) := do
  let signer_type ← getField body "signer_type"
  let label ← getField body "label"
  match signer_type.getD (.str "unknown") with
  | .str (.text signer_type) =>
    if signer_type ∈ SIGNER_TYPES then
      match label.getD .null with
      | .null => return (signer_type, none)
      | .str label =>
        if label.strip = .text "" ∨ 120 < label.len then .raise labelError
        else return (signer_type, some label.strip)
      | _ => .raise labelError
    else refuse 400 "invalid signer_type"
  | _ => refuse 400 "invalid signer_type"

def _authenticated_username (settings : Settings) (request : Request) : Handler PyStr := do
  let cookie_header ← requireCookie request
  let outcome ← (get_authenticated_username cookie_header (hostOf request)
    settings.portal_api_base_url).attempt
  match outcome with
  | .ok username => return username
  | .error (.portalAuthError e) => refuse 401 e
  | .error e => .raise e

def _authenticated_admin (settings : Settings) (request : Request) : Handler PyStr := do
  let cookie_header ← requireCookie request
  let outcome ← (get_authenticated_session cookie_header (hostOf request)
    settings.portal_api_base_url).attempt
  match outcome with
  | .ok session =>
    if session.is_admin then return session.username
    else refuse 403 "YunoHost admin access is required"
  | .error (.portalAuthError e) => refuse 401 e
  | .error e => .raise e

/-- The path parameter of the identity routes. -/
def identityId (identity_id : String) : Handler Int :=
  match pyInt identity_id with
  | some n => .ret n
  | none => refuse 400 "identity id must be an integer"

def _admin_target (body : Json) : Handler PyStr := do
  let username ← getField body "username"
  match username with
  | some (.str username) =>
    if username.strip = .text "" then refuse 400 "missing 'username'" else return username.strip
  | _ => refuse 400 "missing 'username'"

section Endpoints

variable (sdk : NostrSdk) (settings : Settings) (request : Request)

def _identity_json (identity : Identity) : Handler Json :=
  match Npub.hex_to_npub sdk identity.pubkey with
  | .error e => .raise e
  | .ok npub => .ret (.obj
      [("id", optional .int identity.identity_id),
        ("username", .str identity.ynh_username),
        ("pubkey", .str identity.pubkey),
        ("npub", .str npub),
        ("created_at", .int identity.created_at),
        ("last_used", optional .int identity.last_used),
        ("enabled", .bool identity.enabled),
        ("signer_type", .str identity.signer_type),
        ("label", optional (fun label : String => .str label) identity.label),
        ("linked_by", .str identity.linked_by),
        ("revoked_at", optional .int identity.revoked_at)])

/-- `_identity_json` of what a store method returned. -/
def _identity_json? : Option Identity → Handler Json
  | some identity => _identity_json sdk identity
  | none => .raise (noAttribute "NoneType" "identity_id")

def identityList : List Identity → Handler (List Json)
  | [] => .ret []
  | identity :: rest => do
    let value ← _identity_json sdk identity
    let values ← identityList rest
    return value :: values

/-! ## Challenges -/

/-- Issue a challenge to the request's host and describe it. -/
def issueChallenge (action : String) : Handler Response :=
  let domain := orElse (request.headers "host") ""
  if domain = "" then refuse 400 "missing Host header"
  else do
    let challenge ← issue domain action
    .ret (respond
      [("kind", .int NostrVerify.CHALLENGE_EVENT_KIND),
        ("nonce", .str challenge.nonce),
        ("domain", .str challenge.domain),
        ("action", .str challenge.action),
        ("issued_at", .int challenge.issued_at),
        ("expires_at", .int challenge.expires_at)])

def challenge_endpoint : Handler Response := do
  let action := (request.query_params "action").getD LOGIN_ACTION
  Prog.ensure (action ∈ ALLOWED_ACTIONS) (.apiError 400 ("unknown action " ++ pyRepr action))
  Prog.ensure (¬(action = LOGIN_ACTION ∧ settings.allow_nostr_login = false))
    (.apiError 403 "Nostr login is currently disabled")
  issueChallenge request action

def linkingDisabled : Exn := .apiError 403 "self-service identity linking is currently disabled"

def link_challenge_endpoint : Handler Response := do
  Prog.ensure (settings.allow_identity_linking = true) linkingDisabled
  issueChallenge request LINK_ACTION

/-! ## Login -/

def sessionCookie (minted : MintedSession) : Cookie where
  key := minted.cookie_name
  value := minted.token
  max_age := minted.max_age
  path := "/"
  domain := "." ++ (request.headers "host").getD "None"
  secure := true
  httponly := true
  samesite := "lax"

/-- The answer of `authenticate_endpoint`, and what it logs. -/
def concludeLogin : Except Exn MintedSession → Handler Response
  | .ok minted => do
    log .info ("nostr login success from " ++ _client_ip request)
    return { respond [("ok", .bool true)] with cookie := some (sessionCookie request minted) }
  | .error (.loginError e) => do
    log .warning ("nostr login failure from " ++ _client_ip request ++ ": " ++ e)
    refuse 401 e
  | .error (.sessionMintError e) => do
    log .error ("nostr login: session minting failed: " ++ e)
    refuse 502 "could not establish a YunoHost session"
  | .error e => .raise e

def authenticate_endpoint : Handler Response := do
  _require_json request
  Prog.ensure (settings.allow_nostr_login = true) (.apiError 403 "Nostr login is currently disabled")
  let body ← readJson request
  let event ← readEvent body
  let challenge ← consumeNamed event
  let outcome ← (Login.authenticate sdk challenge (Json.dumps (.obj event))
    settings.clock_skew_seconds).attempt
  concludeLogin request outcome

/-! ## Linking -/

/-- How the linking endpoints end: what they log, and the answer to a `LinkingError`. -/
def concludeLinking (failure success : String) (answer : String → Handler Response) :
    Except Exn String → Handler Response
  | .ok username => do
    log .info (success ++ " (" ++ username ++ ") from " ++ _client_ip request)
    answer username
  | .error (.linkingError e) => do
    log .warning (failure ++ " failure from " ++ _client_ip request ++ ": " ++ e)
    refuse 401 e
  | .error e => .raise e

/-- `link_endpoint` and `add_identity_endpoint` up to their answers: they differ in
`replace`, in the words of the log lines and in the response. -/
def redeemLink (replace : Bool) (failure success : String) (answer : String → Handler Response) :
    Handler Response := do
  _require_json request
  Prog.ensure (settings.allow_identity_linking = true) linkingDisabled
  let body ← readJson request
  let event ← readEvent body
  let metadata ← _identity_metadata body
  let cookie_header ← requireCookie request
  let challenge ← consumeNamed event
  let outcome ← (Linking.confirm_and_link sdk replace cookie_header (hostOf request) challenge
    (Json.dumps (.obj event)) settings.portal_api_base_url settings.clock_skew_seconds metadata.1
    metadata.2).attempt
  concludeLinking request failure success answer outcome

def linked (username : String) : Handler Response :=
  .ret (respond [("ok", .bool true), ("username", .str username)])

def link_endpoint : Handler Response :=
  redeemLink sdk settings request true "identity link" "identity linked" linked

/-- The identity that `add_identity_endpoint` reports. -/
def added (username : String) : Handler Response := do
  let identity ← mappings (.get_by_username username)
  let value ← _identity_json? sdk identity
  return respond [("ok", .bool true), ("username", .str username), ("identity", value)]

def add_identity_endpoint : Handler Response :=
  redeemLink sdk settings request false "identity add" "identity added" (added sdk)

def unlink_endpoint : Handler Response := do
  let cookie_header ← requireCookie request
  let outcome ← (Linking.confirm_and_unlink cookie_header (hostOf request)
    settings.portal_api_base_url).attempt
  concludeLinking request "identity unlink" "identity removed" linked outcome

/-! ## The own identities -/

def identity_endpoint : Handler Response := do
  let username ← _authenticated_username settings request
  let username ← encoded username
  let identity ← mappings (.get_by_username username)
  match identity with
  | none => return respond [("linked", .bool false)]
  | some identity =>
    if identity.enabled then
      match Npub.hex_to_npub sdk identity.pubkey with
      | .error e => .raise e
      | .ok npub => .ret (respond
          [("linked", .bool true),
            ("username", .str username),
            ("pubkey", .str identity.pubkey),
            ("npub", .str npub),
            ("created_at", .int identity.created_at),
            ("last_used", optional .int identity.last_used)])
    else return respond [("linked", .bool false)]

def identities_endpoint : Handler Response := do
  let username ← _authenticated_username settings request
  let username ← encoded username
  let identities ← mappings (.list_by_username username true)
  let values ← identityList sdk identities
  return respond [("username", .str username), ("identities", .arr values)]

def revoke_identity_endpoint (identity_id : String) : Handler Response := do
  let username ← _authenticated_username settings request
  let id ← identityId identity_id
  Prog.ensure (0 < id) (.apiError 400 "identity id must be positive")
  let username ← encodedAfter id username
  let revoked ← mappings (.revoke_identity id username)
  Prog.ensure (revoked = true) (.apiError 404 "identity not found or already revoked")
  log .info ("identity revoked (" ++ username ++ ", id=" ++ toString id ++ ") from " ++
    _client_ip request)
  return respond [("ok", .bool true), ("username", .str username), ("identity_id", .int id)]

/-- `body["label"]`, after `"label" not in body`. -/
def labelField (body : Json) : Handler Json :=
  match body with
  | .obj fields =>
    match Json.lookup fields "label" with
    | some label => .ret label
    | none => refuse 400 "missing 'label'"
  | .arr items =>
    if items.any fun | .str s => s == .text "label" | _ => false then
      .raise (.uncaught "TypeError" "list indices must be integers or slices, not str")
    else refuse 400 "missing 'label'"
  | .str s =>
    if occursIn (PyStr.text "label").codes s.codes then
      .raise (.uncaught "TypeError" "string indices must be integers, not 'str'")
    else refuse 400 "missing 'label'"
  | value => .raise (.uncaught "TypeError"
      ("argument of type '" ++ typeName value ++ "' is not iterable"))

/-- The label that `update_identity_endpoint` stores; a blank one is dropped. -/
def newLabel (body : Json) : Handler (Option PyStr) := do
  let label ← labelField body
  match label with
  | .null => return none
  | .str label =>
    if 120 < label.len then
      refuse 400 "label must be null or a string of at most 120 characters"
    else return if label.strip = .text "" then none else some label.strip
  | _ => refuse 400 "label must be null or a string of at most 120 characters"

def update_identity_endpoint (identity_id : String) : Handler Response := do
  _require_json request
  let body ← readJson request
  let label ← newLabel body
  let username ← _authenticated_username settings request
  let id ← identityId identity_id
  Prog.ensure (0 < id) (.apiError 400 "identity id must be positive")
  let label ← encodedLabel label
  let username ← encodedAfter id username
  let identity ← mappings (.update_identity_label id username label)
  match identity with
  | none => refuse 404 "identity not found or revoked"
  | some identity => do
    log .info ("identity label updated (" ++ username ++ ", id=" ++ toString id ++ ") from " ++
      _client_ip request)
    let value ← _identity_json sdk identity
    return respond [("ok", .bool true), ("username", .str username), ("identity", value)]

/-! ## Administration -/

def admin_session_endpoint : Handler Response :=
  let cookie_header := orElse (request.headers "cookie") ""
  let anonymous := respond [("authenticated", .bool false), ("is_admin", .bool false)]
  if cookie_header = "" then .ret anonymous
  else do
    let outcome ← (get_authenticated_session cookie_header (hostOf request)
      settings.portal_api_base_url).attempt
    match outcome with
    | .ok session => do
      let username ← encoded session.username
      return respond [("authenticated", .bool true), ("is_admin", .bool session.is_admin),
        ("username", .str username)]
    | .error (.portalAuthError _) => return anonymous
    | .error e => .raise e

def admin_list_identities_endpoint : Handler Response := do
  let _ ← _authenticated_admin settings request
  let identities ← mappings .list_all
  let values ← identityList sdk identities
  return respond [("identities", .arr values)]

/-- `admin_add_identity_endpoint`, from the checked pubkey on. -/
def adminRecord (replace : Bool) (username pubkey_hex : String)
    (metadata : MappingStore.Metadata) : Handler (Option Identity) :=
  if replace then do
    mappings (.link username pubkey_hex metadata)
    mappings (.get_by_pubkey pubkey_hex)
  else do
    let identity ← mappings (.add_identity username pubkey_hex metadata)
    return some identity

/-- `adminRecord` for whatever texts the client sent; returns the account as well. -/
def adminRecordTexts (replace : Bool) (username : PyStr) (pubkey_hex signer_type : String)
    (label : Option PyStr) : Handler (String × Option Identity) := do
  let (username, label) ← rowTexts replace username pubkey_hex label
  let identity ← adminRecord replace username pubkey_hex ⟨signer_type, label, "admin"⟩
  return (username, identity)

/-- The pubkey in the body of `admin_add_identity_endpoint`. -/
def adminPubkey (body : Json) : Handler String := do
  let pubkey_or_npub ← getField body "pubkey"
  match pubkey_or_npub with
  | some (.str value) =>
    if value.strip = .text "" then refuse 400 "missing 'pubkey' (npub or hex)"
    else
      match Npub.parse_to_hex sdk value.strip with
      | .ok pubkey_hex => return pubkey_hex
      | .error (.valueError e) => refuse 400 e
      | .error e => .raise e
  | _ => refuse 400 "missing 'pubkey' (npub or hex)"

def admin_add_identity_endpoint : Handler Response := do
  _require_json request
  let _ ← _authenticated_admin settings request
  let body ← readJson request
  let username ← _admin_target body
  let pubkey_hex ← adminPubkey sdk body
  let metadata ← _identity_metadata body
  let replace ← getField body "replace"
  let outcome ← (adminRecordTexts ((replace.getD (.bool false)).truthy) username pubkey_hex
    metadata.1 metadata.2).attempt
  match outcome with
  | .error (.pubkeyAlreadyLinked e) => refuse 409 e
  | .error e => .raise e
  | .ok (username, identity) => do
    log .info ("admin added identity (" ++ username ++ ") from " ++ _client_ip request)
    let value ← _identity_json? sdk identity
    return respond [("ok", .bool true), ("username", .str username), ("identity", value)]

def admin_revoke_identity_endpoint (identity_id : String) : Handler Response := do
  _require_json request
  let _ ← _authenticated_admin settings request
  let body ← readJson request
  let username ← _admin_target body
  let id ← identityId identity_id
  let username ← encodedAfter id username
  let revoked ← mappings (.revoke_identity id username)
  Prog.ensure (revoked = true) (.apiError 404 "identity not found or already revoked")
  log .info ("admin revoked identity (" ++ username ++ ", id=" ++ toString id ++ ") from " ++
    _client_ip request)
  return respond [("ok", .bool true), ("username", .str username), ("identity_id", .int id)]

/-- The label in the body of `admin_rename_identity_endpoint`. -/
def adminLabel (body : Json) : Handler PyStr := do
  let label ← getField body "label"
  match label with
  | some (.str label) =>
    if label.strip = .text "" ∨ 120 < label.len then .raise labelError else return label.strip
  | _ => .raise labelError

def admin_rename_identity_endpoint (identity_id : String) : Handler Response := do
  _require_json request
  let _ ← _authenticated_admin settings request
  let body ← readJson request
  let username ← _admin_target body
  let label ← adminLabel body
  let id ← identityId identity_id
  let label ← encoded label
  let username ← encodedAfter id username
  let identity ← mappings (.update_identity_label id username (some label))
  match identity with
  | none => refuse 404 "identity not found or revoked"
  | some identity => do
    log .info ("admin renamed identity (" ++ username ++ ", id=" ++ toString id ++ ") from " ++
      _client_ip request)
    let value ← _identity_json sdk identity
    return respond [("ok", .bool true), ("username", .str username), ("identity", value)]

def admin_unlink_endpoint : Handler Response := do
  _require_json request
  let _ ← _authenticated_admin settings request
  let body ← readJson request
  let username ← _admin_target body
  let username ← encoded username
  mappings (.unlink username)
  log .info ("admin unlinked all identities (" ++ username ++ ") from " ++ _client_ip request)
  linked username

/-! ## Open to everyone -/

def policy_endpoint : Handler Response :=
  .ret (respond [("allow_nostr_login", .bool settings.allow_nostr_login),
    ("allow_identity_linking", .bool settings.allow_identity_linking)])

def names (fields : List (PyStr × Json)) : Response :=
  { respond [("names", .obj fields)] with headers := [("Access-Control-Allow-Origin", "*")] }

def nostr_json_endpoint : Handler Response :=
  let name := orElse (request.query_params "name") ""
  if name = "" then .ret (names [])
  else do
    let identity ← mappings (.get_by_username name)
    match identity with
    | some identity =>
      if identity.enabled then return names [(name, .str identity.pubkey)] else return names []
    | none => return names []

def root_redirect : Handler Response :=
  let cookie_header := orElse (request.headers "cookie") ""
  if cookie_header = "" then .ret ⟨307, .redirect "/nostr-login", [], none⟩
  else do
    let outcome ← (get_authenticated_username cookie_header (hostOf request)
      settings.portal_api_base_url).attempt
    match outcome with
    | .ok _ => return ⟨307, .redirect "/yunohost/sso/", [], none⟩
    | .error (.portalAuthError _) => return ⟨307, .redirect "/nostr-login", [], none⟩
    | .error e => .raise e

end Endpoints

/-! ## Pages and static files -/

def CONTENT_SECURITY_POLICY : String :=
  "upgrade-insecure-requests; default-src 'self'; connect-src 'self' wss:; " ++
  "style-src 'self' 'unsafe-inline'; script-src 'self'; " ++
  "object-src 'none'; img-src 'self' data:;"

def page (name : String) : Handler Response :=
  .ret ⟨200, .page name, [("Content-Security-Policy", CONTENT_SECURITY_POLICY)], none⟩

def nostr_login_page : Handler Response := page "nostr_login.html"
def nostr_account_page : Handler Response := page "nostr_account.html"
def admin_page : Handler Response := page "nostr_admin.html"

def _STATIC_CONTENT_TYPES : List (String × String) :=
  [("nostr-connect-vendor.js", "application/javascript"),
    ("nostr-passkey-vendor.js", "application/javascript"),
    ("nostr-connect-ui.js", "application/javascript"),
    ("nostr-login-page.js", "application/javascript"),
    ("nostr-account-page.js", "application/javascript"),
    ("nostr-admin-page.js", "application/javascript")]

def static_asset (filename : String) : Handler Response :=
  match _STATIC_CONTENT_TYPES.find? fun t => t.1 == filename with
  | some (_, content_type) => .ret ⟨200, .asset filename, [("content-type", content_type)], none⟩
  | none => refuse 404 "not found"

/-! ## Routes -/

/-- The functions that routes lead to, with the path parameter they read. -/
inductive Endpoint
  | root_redirect
  | nostr_login_page
  | nostr_account_page
  | admin_page
  | static_asset (filename : String)
  | challenge_endpoint
  | authenticate_endpoint
  | link_challenge_endpoint
  | link_endpoint
  | unlink_endpoint
  | identity_endpoint
  | identities_endpoint
  | add_identity_endpoint
  | update_identity_endpoint (identity_id : String)
  | revoke_identity_endpoint (identity_id : String)
  | policy_endpoint
  | admin_session_endpoint
  | admin_list_identities_endpoint
  | admin_add_identity_endpoint
  | admin_revoke_identity_endpoint (identity_id : String)
  | admin_rename_identity_endpoint (identity_id : String)
  | admin_unlink_endpoint
  | nostr_json_endpoint
  deriving DecidableEq, Repr

def Endpoint.handler (sdk : NostrSdk) (settings : Settings) (request : Request) :
    Endpoint → Handler Response
  | root_redirect => Server.root_redirect settings request
  | nostr_login_page => Server.nostr_login_page
  | nostr_account_page => Server.nostr_account_page
  | admin_page => Server.admin_page
  | static_asset filename => Server.static_asset filename
  | challenge_endpoint => Server.challenge_endpoint settings request
  | authenticate_endpoint => Server.authenticate_endpoint sdk settings request
  | link_challenge_endpoint => Server.link_challenge_endpoint settings request
  | link_endpoint => Server.link_endpoint sdk settings request
  | unlink_endpoint => Server.unlink_endpoint settings request
  | identity_endpoint => Server.identity_endpoint sdk settings request
  | identities_endpoint => Server.identities_endpoint sdk settings request
  | add_identity_endpoint => Server.add_identity_endpoint sdk settings request
  | update_identity_endpoint id => Server.update_identity_endpoint sdk settings request id
  | revoke_identity_endpoint id => Server.revoke_identity_endpoint settings request id
  | policy_endpoint => Server.policy_endpoint settings
  | admin_session_endpoint => Server.admin_session_endpoint settings request
  | admin_list_identities_endpoint => Server.admin_list_identities_endpoint sdk settings request
  | admin_add_identity_endpoint => Server.admin_add_identity_endpoint sdk settings request
  | admin_revoke_identity_endpoint id => Server.admin_revoke_identity_endpoint settings request id
  | admin_rename_identity_endpoint id =>
    Server.admin_rename_identity_endpoint sdk settings request id
  | admin_unlink_endpoint => Server.admin_unlink_endpoint settings request
  | nostr_json_endpoint => Server.nostr_json_endpoint request

/-- A part of a route's path between slashes: a word, or a parameter that takes any. -/
inductive Segment
  | word (s : String)
  | param

/-- The parameter a path hands over: `none` where the path does not match. -/
def matchPath : List Segment → List String → Option (Option String)
  | [], [] => some none
  | .word s :: rest, part :: path => if s = part then matchPath rest path else none
  | .param :: rest, part :: path =>
    if part = "" then none else (matchPath rest path).map fun _ => some part
  | _, _ => none

structure Route where
  path : List Segment
  /-- The function, given the path parameter. -/
  endpoint : String → Endpoint
  method : String

def words (path : List String) : List Segment := path.map .word

def routes : List Route :=
  [⟨words [""], fun _ => .root_redirect, "GET"⟩,
    ⟨words ["nostr-login"], fun _ => .nostr_login_page, "GET"⟩,
    ⟨words ["nostr-account"], fun _ => .nostr_account_page, "GET"⟩,
    ⟨words ["nostr-admin"], fun _ => .admin_page, "GET"⟩,
    ⟨[.word "static", .param], .static_asset, "GET"⟩,
    ⟨words ["challenge"], fun _ => .challenge_endpoint, "GET"⟩,
    ⟨words ["authenticate"], fun _ => .authenticate_endpoint, "POST"⟩,
    ⟨words ["link", "challenge"], fun _ => .link_challenge_endpoint, "POST"⟩,
    ⟨words ["link"], fun _ => .link_endpoint, "POST"⟩,
    ⟨words ["unlink"], fun _ => .unlink_endpoint, "POST"⟩,
    ⟨words ["identity"], fun _ => .identity_endpoint, "GET"⟩,
    ⟨words ["identities"], fun _ => .identities_endpoint, "GET"⟩,
    ⟨words ["identities", "link"], fun _ => .add_identity_endpoint, "POST"⟩,
    ⟨[.word "identities", .param], .update_identity_endpoint, "PATCH"⟩,
    ⟨[.word "identities", .param], .revoke_identity_endpoint, "DELETE"⟩,
    ⟨words ["policy"], fun _ => .policy_endpoint, "GET"⟩,
    ⟨words ["nostr-admin", "api", "session"], fun _ => .admin_session_endpoint, "GET"⟩,
    ⟨words ["nostr-admin", "api", "identities"], fun _ => .admin_list_identities_endpoint, "GET"⟩,
    ⟨words ["nostr-admin", "api", "identities"], fun _ => .admin_add_identity_endpoint, "POST"⟩,
    ⟨words ["nostr-admin", "api", "identities"] ++ [.param, .word "revoke"],
      .admin_revoke_identity_endpoint, "POST"⟩,
    ⟨words ["nostr-admin", "api", "identities"] ++ [.param, .word "rename"],
      .admin_rename_identity_endpoint, "POST"⟩,
    ⟨words ["nostr-admin", "api", "identities", "unlink"], fun _ => .admin_unlink_endpoint, "POST"⟩,
    ⟨words [".well-known", "nostr.json"], fun _ => .nostr_json_endpoint, "GET"⟩]

/-- The endpoint of a route whose path matches. -/
def Route.endpointAt (route : Route) (path : List String) : Option Endpoint :=
  (matchPath route.path path).map fun param => route.endpoint (param.getD "")

/-- A route for `GET` takes `HEAD` as well. -/
def Route.takes (route : Route) (method : String) : Bool :=
  route.method == method || (route.method == "GET" && method == "HEAD")

/-- The endpoint a request is routed to. -/
def endpointOf (request : Request) : Option Endpoint :=
  routes.findSome? fun route =>
    if route.takes request.method then route.endpointAt request.path else none

def known (path : List String) : Bool := routes.any fun route => (route.endpointAt path).isSome

/-- The path with its trailing slashes dropped, or with one added. -/
def otherSlash (path : List String) : List String :=
  if path.getLast? = some "" then (path.reverse.dropWhile fun part => part = "").reverse
  else path ++ [""]

/-- How the framework answers a request that no route takes. -/
def unrouted (request : Request) : Response :=
  if known request.path then ⟨405, .text "Method Not Allowed", [], none⟩
  else if request.path ≠ [""] ∧ known (otherSlash request.path) then
    ⟨307, .redirect (String.join ((otherSlash request.path).map fun part => "/" ++ part)), [], none⟩
  else ⟨404, .text "Not Found", [], none⟩

/-! ## The service -/

/-- `_api_error_handler`, and the framework's answer to any other exception. -/
def answer : Except Exn Response → Response
  | .ok response => response
  | .error (.apiError status_code message) =>
    ⟨status_code, .json (.obj [("error", .str message)]), [], none⟩
  | .error _ => ⟨500, .text "Internal Server Error", [], none⟩

/-- A request, with the settings in force while it is handled. -/
structure Job where
  settings : Settings
  request : Request

/-- What happens to a request from its arrival to its response. -/
def handle (sdk : NostrSdk) (job : Job) : Handler Response :=
  match endpointOf job.request with
  | none => .ret (unrouted job.request)
  | some endpoint =>
    (endpoint.handler sdk job.settings job.request).attempt.bind fun outcome =>
      .ret (answer outcome)

/-- The service: any number of requests handled call by call, in any order. -/
def service (sdk : NostrSdk) : Machine Op Op.Ans Exn Response Oracle World Job where
  program := handle sdk
  exec := exec
  reboot := create_app

/-- A configuration of the service. -/
abbrev Run := Config Op Op.Ans Exn Response Oracle World Job

/-- An executed call. -/
abbrev LogEntry := Entry Op Op.Ans Oracle World

/-- The executed calls, oldest first. -/
abbrev Log := List LogEntry

end NostrAuth.Server
