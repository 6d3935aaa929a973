import NostrAuth.Lib.Interaction
import NostrAuth.Challenge
import NostrAuth.MappingEffects
import NostrAuth.NostrVerify

/-! The service as its handlers see it: the settings and the request they read, and the
calls they make of the two stores, of portal-api, of the session-mint helper and of the
log. On top of that `portal_client.py`, `auth/login.py` and `identity/linking.py`. -/

set_option autoImplicit false

namespace NostrAuth

open Interaction

/-- `config.Settings`, as far as the handlers read it. The fields carry their validators. -/
structure Settings where
  portal_api_base_url : String
  challenge_ttl_seconds : Int
  allow_nostr_login : Bool
  allow_identity_linking : Bool
  clock_skew_seconds : Int
  validate_challenge_ttl : 30 ≤ challenge_ttl_seconds ∧ challenge_ttl_seconds ≤ 120
  validate_clock_skew : 0 ≤ clock_skew_seconds ∧ clock_skew_seconds ≤ 300

namespace Settings

def default : Settings where
  portal_api_base_url := "http://127.0.0.1:6788"
  challenge_ttl_seconds := 90
  allow_nostr_login := true
  allow_identity_linking := true
  clock_skew_seconds := 60
  validate_challenge_ttl := by decide
  validate_clock_skew := by decide

/-- The time to live that `create_app` hands to `ChallengeStore`. -/
def ttl (settings : Settings) : Ttl where
  seconds := settings.challenge_ttl_seconds
  positive := by have := settings.validate_challenge_ttl; omega

end Settings

/-- A request: `path` is the path between its slashes, a header is looked up by its
lower-case name, and `json` is what `json.loads` makes of the body. -/
structure Request where
  method : String
  path : List String
  headers : String → Option String
  query_params : String → Option String
  json : Except LoadsError Json
  client : Option String

/-- The body that a script sends, or the empty one. -/
def jsonBody : Option Json → Except LoadsError Json
  | some value => .ok value
  | none => .error (.jsonDecodeError "Expecting value: line 1 column 1 (char 0)")

structure Cookie where
  key : String
  value : Json
  max_age : Json
  path : String
  domain : String
  secure : Bool
  httponly : Bool
  samesite : String

inductive Content
  | json (value : Json)
  | page (name : String)
  | asset (filename : String)
  | redirect (url : String)
  | text (text : String)

structure Response where
  status_code : Nat
  content : Content
  headers : List (String × String) := []
  cookie : Option Cookie := none

/-- `ynh/sessions.MintedSession`; `token` and `max_age` are what the helper sent. -/
structure MintedSession where
  cookie_name : String
  token : Json
  max_age : Json

/-- How the session-mint helper answers: `failed` is every case that `mint_session` turns
into a `SessionMintError`. -/
inductive MintReply
  | minted (token max_age : Json)
  | failed (message : String)
  | raised (className message : String)

/-- How portal-api answers `GET /me`. -/
inductive PortalReply
  | httpError (code : Int)
  | urlError (reason : String)
  | notJson (reason : String)
  | raised (className message : String)
  | body (value : Json)

/-! ## Calls -/

inductive Level
  | info
  | warning
  | error
  deriving DecidableEq, Repr

/-- A call that a handler makes. -/
inductive Op
  | issue (domain action : String)
  | consume (nonce : Json)
  | me (cookie_header host base_url : String)
  | mapping (c : MappingCall)
  | mint (ynh_username host : String)
  | log (level : Level) (message : String)

@[reducible] def Op.Ans : Op → Type
  | issue .. => Except Exn Challenge
  | consume _ => Except Exn (Option Challenge)
  | me .. => PortalReply
  | mapping c => Except Exn c.Reply
  | mint .. => MintReply
  | log .. => Unit

/-- What the service keeps between requests. -/
structure World where
  ttl_seconds : Ttl
  challenges : ChallengeTable
  mappings : MappingDb

/-- What one step takes from outside: clock readings, the nonce that is drawn, the
answers of portal-api and of the mint helper, and the settings of a restart. -/
structure Oracle where
  clock : Nat → Int
  nonce : String
  portal : PortalReply
  minted : MintReply
  settings : Settings

/-- One call on the stores, from statement to statement without interference. -/
def exec : (o : Op) → Oracle → World → o.Ans × World
  | .issue domain action, inp, w =>
    let done := (ChallengeStore.issue w.ttl_seconds inp.nonce domain action).run inp.clock
      w.challenges none
    (done.1, { w with challenges := done.2 })
  | .consume nonce, inp, w =>
    let done := (ChallengeStore.consume nonce).run inp.clock w.challenges none
    (done.1, { w with challenges := done.2 })
  | .me .., inp, w => (inp.portal, w)
  | .mapping c, inp, w =>
    let done := c.method.run inp.clock w.mappings none
    (done.1, { w with mappings := done.2 })
  | .mint .., inp, w => (inp.minted, w)
  | .log .., _, w => ((), w)

/-- `create_app`: both files are opened again, with the settings of that moment. -/
def create_app (inp : Oracle) (w : World) : World where
  ttl_seconds := inp.settings.ttl
  challenges := w.challenges
  mappings := (MappingStore.init.run inp.clock w.mappings none).2

abbrev Handler (α : Type) := Prog Op Op.Ans Exn α

abbrev Trace := History Op Op.Ans

namespace Handler

def perform (o : Op) : Handler o.Ans := .call o .ret

def issue (domain action : String) : Handler Challenge :=
  .call (.issue domain action) Prog.ofExcept

def consume (nonce : Json) : Handler (Option Challenge) := .call (.consume nonce) Prog.ofExcept

def mappings (c : MappingCall) : Handler c.Reply := .call (.mapping c) Prog.ofExcept

def log (level : Level) (message : String) : Handler Unit := .call (.log level message) .ret

/-- A text in UTF-8, as SQLite binds it and `JSONResponse` writes it. -/
def encoded : PyStr → Handler String
  | .text s => .ret s
  | .lone t => .raise t.encodeError

/-- A text that SQLite binds after the integer `n`. -/
def encodedAfter (n : Int) : PyStr → Handler String
  | .text s => .ret s
  | .lone t => (Prog.ofExcept (MappingStore.bindInt n)).bind fun _ => .raise t.encodeError

/-- A text or `NULL`. -/
def encodedLabel : Option PyStr → Handler (Option String)
  | none => .ret none
  | some (.text s) => .ret (some s)
  | some (.lone t) => .raise t.encodeError

/-- The texts of a new row. Where SQLite cannot encode one, `link` or `add_identity` raises. -/
def rowTexts (replace : Bool) (username : PyStr) (pubkey : String) (label : Option PyStr) :
    Handler (String × Option String) :=
  match username, label with
  | .text username, none => .ret (username, none)
  | .text username, some (.text label) => .ret (username, some label)
  | .text username, some (.lone t) =>
    (mappings (.link_unencodable replace (.text username) pubkey t)).bind Empty.elim
  | .lone t, _ => (mappings (.link_unencodable replace (.lone t) pubkey t)).bind Empty.elim

/-- SQLite cannot encode the label. -/
def UnencodableLabel (label : Option PyStr) : Prop := ∃ l, label = some l ∧ l.encodable = false

/-- Texts that SQLite encodes are handed on; otherwise one call is made, and it never returns. -/
theorem rowTexts_cases (replace : Bool) (username : PyStr) (pubkey : String) (label : Option PyStr) :
    (∃ u l, username = .text u ∧ label = l.map .text ∧
      rowTexts replace username pubkey label = .ret (u, l)) ∨
    (username.encodable = false ∨ UnencodableLabel label) ∧ ∃ t, rowTexts replace username pubkey label =
      (mappings (.link_unencodable replace username pubkey t)).bind Empty.elim := by
  cases username with
  | lone t => exact Or.inr ⟨Or.inl rfl, t, rfl⟩
  | text u =>
    cases label with
    | none => exact Or.inl ⟨u, none, rfl, rfl, rfl⟩
    | some label =>
      cases label with
      | text l => exact Or.inl ⟨u, some l, rfl, rfl, rfl⟩
      | lone t => exact Or.inr ⟨Or.inr ⟨_, rfl, rfl⟩, t, rfl⟩

end Handler

open Handler

/-! ## `ynh/sessions.py` -/

/-- What `mint_session` makes of the answer. -/
def readMinted : MintReply → Except Exn MintedSession
  | .minted token max_age => .ok ⟨"yunohost.portal", token, max_age⟩
  | .failed message => .error (.sessionMintError message)
  | .raised className message => .error (.uncaught className message)

def mint_session (ynh_username host : String) : Handler MintedSession :=
  .call (.mint ynh_username host) fun reply => Prog.ofExcept (readMinted reply)

/-! ## `ynh/portal_client.py` -/

def typeName : Json → String
  | .null => "NoneType"
  | .bool _ => "bool"
  | .int _ => "int"
  | .float _ => "float"
  | .str _ => "str"
  | .arr _ => "list"
  | .obj _ => "dict"

def noAttribute (type name : String) : Exn :=
  .uncaught "AttributeError" ("'" ++ type ++ "' object has no attribute '" ++ name ++ "'")

namespace PortalClient

def ADMIN_GROUP : String := "admins"

structure AuthenticatedSession where
  username : PyStr
  groups : List PyStr
  deriving DecidableEq, Repr

def AuthenticatedSession.is_admin (session : AuthenticatedSession) : Bool :=
  session.groups.contains (.text ADMIN_GROUP)

/-- What `get_authenticated_session` makes of the answer. -/
def readSession : PortalReply → Except Exn AuthenticatedSession
  | .httpError code =>
    .error (.portalAuthError ("portal-api rejected the session (HTTP " ++ toString code ++ ")"))
  | .urlError reason => .error (.portalAuthError ("could not reach portal-api: " ++ reason))
  | .notJson reason =>
    .error (.portalAuthError ("portal-api returned a non-JSON response: " ++ reason))
  | .raised className message => .error (.uncaught className message)
  | .body (.obj fields) =>
    match Json.lookup fields "username" with
    | some (.str username) =>
      if username = .text "" then
        .error (.portalAuthError "portal-api response did not include a username")
      else
        let groups := match Json.lookup fields "groups" with
          | some (.arr groups) => groups
          | _ => []
        .ok ⟨username, groups.filterMap fun | .str g => some g | _ => none⟩
    | _ => .error (.portalAuthError "portal-api response did not include a username")
  | .body value => .error (noAttribute (typeName value) "get")

def get_authenticated_session (cookie_header host base_url : String) :
    Handler AuthenticatedSession :=
  .call (.me cookie_header host base_url) fun reply => Prog.ofExcept (readSession reply)

def get_authenticated_username (cookie_header host base_url : String) : Handler PyStr :=
  (get_authenticated_session cookie_header host base_url).bind fun session =>
    .ret session.username

end PortalClient

/-! ## `auth/login.py` -/

namespace Login

def LOGIN_ACTION : String := "yunohost-login"

def create_ynh_session (ynh_username host : String) : Handler MintedSession :=
  mint_session ynh_username host

/-- `verify_challenge_response` against an issued challenge. -/
def verifyAgainst (sdk : NostrSdk) (challenge : Challenge) (event_json : String)
    (clock_skew : Int) : Except Exn String :=
  NostrVerify.verify_challenge_response sdk event_json challenge.nonce challenge.domain
    challenge.action challenge.issued_at challenge.expires_at clock_skew

def authenticate (sdk : NostrSdk) (challenge : Option Challenge) (event_json : String)
    (clock_skew : Int) : Handler MintedSession :=
  match challenge with
  | none => .raise (.loginError "unknown, expired, or already-used challenge")
  | some challenge =>
    if challenge.action ≠ LOGIN_ACTION then
      .raise (.loginError ("challenge was not issued for " ++ pyRepr LOGIN_ACTION))
    else
      match verifyAgainst sdk challenge event_json clock_skew with
      | .error (.invalidEvent e) => .raise (.loginError e)
      | .error e => .raise e
      | .ok pubkey => do
        let identity ← mappings (.get_by_pubkey pubkey)
        match identity with
        | none => .raise (.loginError "this pubkey is not linked to any YunoHost account")
        | some identity =>
          match identity.identity_id with
          | some identity_id =>
            let _ ← mappings (.touch_identity identity_id)
            create_ynh_session identity.ynh_username challenge.domain
          | none =>
            let _ ← mappings (.touch_last_used identity.ynh_username)
            create_ynh_session identity.ynh_username challenge.domain

end Login

/-! ## `identity/linking.py` -/

namespace Linking

open PortalClient

def LINK_ACTION : String := "yunohost-link"

/-- The account behind the cookie; a `PortalAuthError` becomes a `LinkingError`. -/
def currentUser (cookie_header host base_url : String) : Handler PyStr := do
  let outcome ← (get_authenticated_username cookie_header host base_url).attempt
  match outcome with
  | .ok username => return username
  | .error (.portalAuthError e) =>
    .raise (.linkingError ("not currently logged in to YunoHost: " ++ e))
  | .error e => .raise e

/-- The two ways in which `confirm_and_link` records a mapping. -/
def record (replace : Bool) (username pubkey : String) (metadata : MappingStore.Metadata) :
    Handler Unit :=
  if replace then mappings (.link username pubkey metadata)
  else (mappings (.add_identity username pubkey metadata)).bind fun _ => .ret ()

/-- Record a mapping for whatever texts portal-api and the client sent; returns the account. -/
def recordTexts (replace : Bool) (username : PyStr) (pubkey signer_type : String)
    (label : Option PyStr) : Handler String := do
  let (username, label) ← rowTexts replace username pubkey label
  record replace username pubkey { signer_type, label }
  return username

def confirm_and_link (sdk : NostrSdk) (replace : Bool) (cookie_header host : String)
    (challenge : Option Challenge) (event_json portal_api_base_url : String) (clock_skew : Int)
    (signer_type : String) (label : Option PyStr) : Handler String :=
  match challenge with
  | none => .raise (.linkingError "unknown, expired, or already-used challenge")
  | some challenge =>
    if challenge.action ≠ LINK_ACTION then
      .raise (.linkingError ("challenge was not issued for " ++ pyRepr LINK_ACTION))
    else do
      let username ← currentUser cookie_header host portal_api_base_url
      match Login.verifyAgainst sdk challenge event_json clock_skew with
      | .error (.invalidEvent e) => .raise (.linkingError e)
      | .error e => .raise e
      | .ok pubkey =>
        let outcome ← (recordTexts replace username pubkey signer_type label).attempt
        match outcome with
        | .ok username => return username
        | .error (.pubkeyAlreadyLinked e) => .raise (.linkingError e)
        | .error e => .raise e

def confirm_and_add (sdk : NostrSdk) := confirm_and_link sdk false

def confirm_and_unlink (cookie_header host portal_api_base_url : String) : Handler String := do
  let username ← currentUser cookie_header host portal_api_base_url
  let username ← encoded username
  mappings (.unlink username)
  return username

end Linking

end NostrAuth
