import Mathlib.Data.Finset.Filter
import Mathlib.Data.Finset.Insert
import NostrAuth.HelperProtocols

/-! The session-minting service step by step: `ynh/ldap_lookup.py`, `ynh/portal_cookie.py` and the
handler of `ynh/mint_session_server.py`, in which every step outside the process may fail. -/

set_option autoImplicit false

namespace NostrAuth

open Sockets Interaction

/-! ## The steps outside the process -/

/-- An entry that LDAP found: its attributes with their values. -/
abbrev LdapEntry := List (String × List Bytes)

/-- How binding and searching raise. -/
inductive LdapFailure
  /-- `ldap.LDAPError` -/
  | ldapError (message : String)
  | other (message : String)

inductive MintOp
  /-- Bind to LDAP and search for the user. -/
  | search (ynh_username : Json)
  /-- `SESSION_SECRET_PATH.read_text()` -/
  | read_text
  /-- `secrets.token_hex(nbytes)` -/
  | token_hex (nbytes : Nat)
  /-- `algorithms.AES(key)` -/
  | aes (key : Bytes)
  /-- `os.urandom(size)` -/
  | urandom (size : Nat)
  /-- AES in CBC mode. -/
  | encrypt (key iv padded : Bytes)
  /-- `jwt.encode(claims, secret, algorithm="HS256")` -/
  | jwt_encode (claims : Json) (secret : String)
  /-- `(session_folder / name).touch(exist_ok=True)` -/
  | touch (name : String)
  | log (message : String)

/-- What comes back; an error is the `str` of an exception. -/
@[reducible] def MintOp.Ans : MintOp → Type
  | search _ => Except LdapFailure (List LdapEntry)
  | read_text | token_hex _ | jwt_encode .. => Except String String
  | aes _ | touch _ => Except String Unit
  | urandom _ | encrypt .. => Except String Bytes
  | log _ => Unit

abbrev Minter (α : Type) := Prog MintOp MintOp.Ans String α

abbrev MintEvent := Event MintOp MintOp.Ans

/-- What is computed by the standard library and not looked into. -/
structure StandardLibrary where
  /-- `hashlib.shake_256(data).hexdigest(length)` -/
  shake_256 : Bytes → Nat → String
  /-- `base64.b64encode(data).decode()` -/
  b64encode : Bytes → String
  /-- The message of the `UnicodeDecodeError` for these bytes. -/
  reason : Bytes → String

/-! ## `ynh/ldap_lookup.py` -/

namespace LdapLookup

structure UserContactInfo where
  fullname : String
  email : String

/-- `attrs[name][0].decode()` -/
def firstValue (lib : StandardLibrary) (ynh_username : Json) (attrs : LdapEntry) (name : String) :
    Except String String :=
  match attrs.find? fun a => a.1 == name with
  | some (_, value :: _) =>
    match decode value with
    | some text => .ok text
    | none => .error (lib.reason value)
  | _ => .error ("user " ++ reprOf ynh_username ++ " is missing cn/mail attributes")

/-- What `get_user_contact_info` makes of the result of the search. -/
def contactOf (lib : StandardLibrary) (ynh_username : Json) :
    Except LdapFailure (List LdapEntry) → Except String UserContactInfo
  | .error (.ldapError e) => .error ("LDAP error looking up " ++ reprOf ynh_username ++ ": " ++ e)
  | .error (.other e) => .error e
  | .ok [attrs] => do
    let fullname ← firstValue lib ynh_username attrs "cn"
    let email ← firstValue lib ynh_username attrs "mail"
    return ⟨fullname, email⟩
  | .ok _ => .error ("user " ++ reprOf ynh_username ++ " not found (or ambiguous) in LDAP")

def get_user_contact_info (lib : StandardLibrary) (ynh_username : Json) : Minter UserContactInfo :=
  .call (.search ynh_username) fun results => .ofExcept (contactOf lib ynh_username results)

end LdapLookup

/-! ## `ynh/portal_cookie.py` -/

namespace PortalCookie

/-- Three days. -/
def SESSION_VALIDITY : Int := 3 * 24 * 3600

def read_session_secret : Minter String := do
  let text ← .call .read_text Prog.ofExcept
  return strip text

def short_hash (lib : StandardLibrary) (data : String) : String := lib.shake_256 (encode data) 20

/-- `short_hash` of a value that need not be a string. -/
def hashOf (lib : StandardLibrary) : Json → Except String String
  | .str (.text data) => .ok (short_hash lib data)
  | .str (.lone data) => .error data.encodeMessage
  | value => .error ("'" ++ typeName value ++ "' object has no attribute 'encode'")

/-- `alg.block_size`, in bits. -/
def block_size : Nat := 128

/-- PKCS7 padding of the empty text: a whole block. -/
def padded : Bytes := List.replicate (block_size / 8) (UInt8.ofNat (block_size / 8))

def encrypt_empty_password (lib : StandardLibrary) (secret : String) : Minter String := do
  let _ ← .call (.aes (encode secret)) Prog.ofExcept
  let iv ← .call (.urandom (block_size / 8)) Prog.ofExcept
  let ciphertext ← .call (.encrypt (encode secret) iv padded) Prog.ofExcept
  return lib.b64encode ciphertext ++ "|" ++ lib.b64encode iv

def claims (session_id : String) (host ynh_username : Json) (pwd email fullname : String) : Json :=
  .obj [("id", .str session_id), ("host", host), ("user", ynh_username), ("pwd", .str pwd),
    ("email", .str email), ("fullname", .str fullname)]

def mint (lib : StandardLibrary) (ynh_username host : Json) (email fullname secret : String) :
    Minter MintedSession := do
  let hash ← .ofExcept (hashOf lib ynh_username)
  let token_hex ← .call (.token_hex 10) Prog.ofExcept
  let pwd ← encrypt_empty_password lib secret
  let token ← .call (.jwt_encode (claims (hash ++ token_hex) host ynh_username pwd email fullname) secret)
    Prog.ofExcept
  .call (.touch (hash ++ token_hex)) Prog.ofExcept
  return ⟨token, hash ++ token_hex, SESSION_VALIDITY - 600⟩

end PortalCookie

/-! ## `ynh/mint_session_server.py` -/

namespace MintSessionServer

/-- A connection: the uid of the peer or the `OSError` on reading it, and what the peer sends. -/
structure Connection where
  peer_uid : Except String Int
  chunks : List Bytes

/-- The lookup and the minting that the handler tries. -/
def mintFor (lib : StandardLibrary) (username host : Json) : Minter PortalCookie.MintedSession := do
  let contact ← LdapLookup.get_user_contact_info lib username
  let secret ← PortalCookie.read_session_secret
  PortalCookie.mint lib username host contact.email contact.fullname secret

/-- The answer to a request, with the log line of a failure. -/
def conclude (username host : Json) : Except String PortalCookie.MintedSession → Minter (Option Bytes)
  | .error e => .call (.log ("mint-session failed for " ++ reprOf username ++ "@" ++ reprOf host ++
      ": " ++ e)) fun _ => .ret (some (reply (.error e)))
  | .ok minted => .ret (some (reply (.ok minted)))

/-- `_Handler.handle`, call by call. -/
def handler (python : PythonJson) (lib : StandardLibrary) (allowed_uid : Int) (conn : Connection) :
    Minter (Option Bytes) :=
  match conn.peer_uid with
  | .error e => .call (.log ("could not read peer credentials: " ++ e)) fun _ => .ret none
  | .ok uid =>
    if uid ≠ allowed_uid then
      .call (.log ("rejected connection from unexpected uid " ++ toString uid)) fun _ =>
        .ret (some (line .default (errorPayload "forbidden")))
    else
      match readRequest python conn.chunks with
      | .error e => .ret ((badRequest e).map fun message => line .default (errorPayload message))
      | .ok (username, host) => (mintFor lib username host).attempt.bind (conclude username host)

/-- The names in the session folder. -/
abbrev SessionFolder := Finset String

/-- The folder after a call that was answered like this. -/
def leaves (folder : SessionFolder) : MintEvent → SessionFolder
  | ⟨.touch name, .ok ()⟩ => insert name folder
  | _ => folder

/-- A step may be answered in any way. -/
abbrev MintInput := (o : MintOp) → o.Ans

def exec (o : MintOp) (inp : MintInput) (folder : SessionFolder) : o.Ans × SessionFolder :=
  (inp o, leaves folder ⟨o, inp o⟩)

/-- The server: one thread for each connection. The folder outlives it. -/
def minters (python : PythonJson) (lib : StandardLibrary) (allowed_uid : Int) :
    Machine MintOp MintOp.Ans String (Option Bytes) MintInput SessionFolder Connection where
  program := handler python lib allowed_uid
  exec := exec
  reboot := fun _ folder => folder

/-! ## The handler alone -/

section Alone

variable (python : PythonJson) (lib : StandardLibrary) (allowed_uid : Int)

theorem conclude_alone (username host : Json) (x : Except String PortalCookie.MintedSession)
    (inp : Nat → MintInput) (folder : SessionFolder) :
    ((conclude username host x).runAlone exec inp folder).2 = (.ok (some (reply x)), folder) := by
  cases x with
  | error e => rfl
  | ok minted => rfl

/-- A handler that runs alone answers as `handle` does with what its own steps mint. -/
theorem handler_alone (conn : Connection) (inp : Nat → MintInput) (folder : SessionFolder) :
    ((handler python lib allowed_uid conn).runAlone exec inp folder).2.1 =
      .ok (handle python allowed_uid
        (fun username host => ((mintFor lib username host).runAlone exec inp folder).2.1)
        conn.peer_uid.toOption conn.chunks) := by
  obtain ⟨peer_uid, chunks⟩ := conn
  cases peer_uid with
  | error e => rfl
  | ok uid =>
    by_cases huid : uid = allowed_uid
    · subst huid
      cases hread : readRequest python chunks with
      | error e => simp [handler, handle, hread, Except.toOption, Prog.runAlone]
      | ok request =>
        obtain ⟨username, host⟩ := request
        simp only [handler, handle, hread, Except.toOption, ne_eq, not_true_eq_false, ↓reduceIte]
        rw [Prog.runAlone_attempt_bind (Prod.ext rfl rfl), conclude_alone]
    · simp [handler, handle, Except.toOption, huid, Prog.runAlone]

end Alone

end MintSessionServer

end NostrAuth
