import NostrAuth.Lib.Table
import NostrAuth.Mappings
import NostrAuth.Sockets

/-! The helpers behind Unix sockets and their clients: `ynh/sessions.py` with
`mint_session_server.py`, `identity_lookup.py` and `relay_lookup.py` with their servers, and
`identity/relay_cache.py` behind the last. -/

set_option autoImplicit false

namespace NostrAuth

open Sockets Interaction

/-- What a client receives: the chunks, or the text of an `OSError`. -/
abbrev Received := Except String (List Bytes)

def errorPayload (message : String) : Json := .obj [("error", .str message)]

/-! ## `ynh/sessions.py` -/

namespace Sessions

def _read_line (chunks : List Bytes) : Bytes := readLoop (fun _ => true) [] chunks

/-- What `mint_session` sends. -/
def request (ynh_username host : String) : Bytes :=
  line .default (.obj [("username", .str ynh_username), ("host", .str host)])

/-- What `mint_session` makes of the payload. -/
def decode (payload : Json) : Except Exn MintedSession := do
  if ← contains "error" payload then
    let e ← getItem "error" payload
    .error (.sessionMintError ("session-mint helper failed: " ++ strOf e))
  else
    catching ["KeyError", "TypeError"]
      (fun e => .sessionMintError ("session-mint helper response missing " ++ e)) do
        let token ← getItem "token" payload
        let max_age ← getItem "max_age" payload
        return ⟨"yunohost.portal", token, max_age⟩

/-- What `mint_session` makes of the answer. -/
def mint_session (python : PythonJson) : Received → Except Exn MintedSession
  | .error e => .error (.sessionMintError ("could not reach session-mint helper: " ++ e))
  | .ok chunks => do
    let payload ← catching ["JSONDecodeError"]
      (fun e => .sessionMintError ("session-mint helper returned unexpected output: " ++ e))
      (loads python (_read_line chunks))
    decode payload

end Sessions

/-! ## `ynh/mint_session_server.py` -/

/-- `ynh/portal_cookie.MintedSession` -/
structure PortalCookie.MintedSession where
  token : String
  session_id : String
  max_age : Int

namespace MintSessionServer

def _read_line (chunks : List Bytes) : Bytes := readLoop (fun _ => true) [] chunks

def readRequest (python : PythonJson) (chunks : List Bytes) : Except Exn (Json × Json) := do
  let request ← loads python (_read_line chunks)
  let username ← getItem "username" request
  let host ← getItem "host" request
  return (username, host)

/-- The text that the handler sends back for an exception of `readRequest`, if it catches it. -/
def badRequest : Exn → Option String
  | .uncaught className e =>
    if className ∈ ["JSONDecodeError", "KeyError", "TypeError"] then some ("bad request: " ++ e)
    else none
  | _ => none

/-- The answer to a request, where `str(e)` of an exception on the way is an error. -/
def reply : Except String PortalCookie.MintedSession → Bytes
  | .error e => line .default (errorPayload e)
  | .ok minted => line .default (.obj [("token", .str minted.token),
      ("session_id", .str minted.session_id), ("max_age", .int minted.max_age)])

/-- `_Handler.handle`, where `peer_uid` is `none` for an `OSError` and `mint` looks the user
up, reads the secret and mints. `none` is a connection closed without an answer. -/
def handle (python : PythonJson) (allowed_uid : Int)
    (mint : Json → Json → Except String PortalCookie.MintedSession) (peer_uid : Option Int)
    (chunks : List Bytes) : Option Bytes :=
  match peer_uid with
  | none => none
  | some uid =>
    if uid ≠ allowed_uid then some (line .default (errorPayload "forbidden"))
    else
      match readRequest python chunks with
      | .error e => (badRequest e).map fun message => line .default (errorPayload message)
      | .ok (username, host) => some (reply (mint username host))

end MintSessionServer

/-! ## `ynh/identity_lookup.py` -/

namespace IdentityLookup

structure LinkedIdentity where
  linked : Bool
  username : Option PyStr
  deriving DecidableEq, Repr

def identityLookupError (message : String) : Exn := .uncaught "IdentityLookupError" message

/-- What both lookup clients send. -/
def request (pubkey : String) : Bytes := line .compact (.obj [("pubkey", .str pubkey)])

def invalidResponse : Exn :=
  identityLookupError "identity lookup helper returned an invalid response"

/-- What `lookup_identity` makes of the payload. -/
def decode (payload : Json) : Except Exn LinkedIdentity := do
  if ← contains "error" payload then
    let e ← getItem "error" payload
    .error (identityLookupError ("identity lookup helper failed: " ++ strOf e))
  else
    match ← get "linked" payload with
    | .bool linked =>
      match ← get "username" payload with
      | .null =>
        -- the key may be missing
        let _ ← getItem "username" payload
        return ⟨linked, none⟩
      | .str username => return ⟨linked, some username⟩
      | _ => .error invalidResponse
    | _ => .error invalidResponse

/-- What `lookup_identity` makes of the answer. -/
def lookup_identity (python : PythonJson) : Received → Except Exn LinkedIdentity
  | .error e => .error (identityLookupError ("could not reach identity lookup helper: " ++ e))
  | .ok chunks => do
    let payload ← catching ["JSONDecodeError"]
      (fun e => identityLookupError ("identity lookup helper returned invalid output: " ++ e))
      (loads python (readLoop (fun _ => true) [] chunks))
    decode payload

end IdentityLookup

/-! ## `ynh/identity_lookup_server.py` -/

namespace IdentityLookupServer

def _MAX_REQUEST_BYTES : Nat := 256

def _read_line (chunks : List Bytes) : Except Exn Bytes :=
  let data := readLoop (fun data => data.length ≤ _MAX_REQUEST_BYTES) [] chunks
  if _MAX_REQUEST_BYTES < data.length then .error (.valueError "request exceeds size limit")
  else .ok data

/-- `_PUBKEY_RE.fullmatch(text)` -/
def _PUBKEY_RE (text : String) : Bool :=
  text.toList.length == 64 && text.toList.all fun c => ('0' ≤ c ∧ c ≤ '9') ∨ ('a' ≤ c ∧ c ≤ 'f')

def notAPubkey : Exn := .valueError "pubkey must be 64 lowercase hexadecimal characters"

/-- What both lookup servers make of the bytes of a request. -/
def requestOf (python : PythonJson) (data : Bytes) : Except Exn String := do
  let request ← loads python data
  let pubkey ← getItem "pubkey" request
  match request, pubkey with
  | .obj fields, .str (.text pubkey) =>
    if fields.all (fun f => f.1 == .text "pubkey") && _PUBKEY_RE pubkey then return pubkey
    else .error notAPubkey
  | _, _ => .error notAPubkey

/-- What both lookup servers read of a request. -/
def readRequest (python : PythonJson) (chunks : List Bytes) : Except Exn String := do
  let data ← _read_line chunks
  requestOf python data

/-- The text that both handlers send back for an exception of `readRequest`. -/
def badRequest : Exn → String
  | .uncaught _ e | .valueError e => "bad request: " ++ e
  | _ => "bad request: "

/-- The answer for a pubkey, made of what `get_by_pubkey` returned or raised. -/
def answer : Except Exn (Option Identity) → Json
  | .ok identity => .obj [("linked", .bool identity.isSome),
      ("username", (identity.map fun i => Json.str i.ynh_username).getD .null)]
  | .error _ => errorPayload "lookup failed"

/-- `_Handler.handle` of both lookup servers: `permitted` says that the peer is in the group, and
`respond` answers a pubkey. -/
def handleWith (python : PythonJson) (respond : String → Json) (permitted : Bool)
    (chunks : List Bytes) : Bytes :=
  if permitted then
    match readRequest python chunks with
    | .error e => line .compact (errorPayload (badRequest e))
    | .ok pubkey => line .compact (respond pubkey)
  else line .compact (errorPayload "forbidden")

def handle (python : PythonJson) (get_by_pubkey : String → Except Exn (Option Identity))
    (permitted : Bool) (chunks : List Bytes) : Bytes :=
  handleWith python (fun pubkey => answer (get_by_pubkey pubkey)) permitted chunks

end IdentityLookupServer

/-! ## `identity/relay_cache.py` -/

/-- `identity/relays.RelayEntry`; the dataclass does not check its types. -/
structure RelayEntry where
  url : Json
  read : Json
  write : Json

/-- A relay of a fetched list, as `parse_relay_list` returns it. -/
structure Relay where
  url : String
  read : Bool
  write : Bool
  deriving DecidableEq, Repr

def Relay.entry (r : Relay) : RelayEntry := ⟨.str r.url, .bool r.read, .bool r.write⟩

structure CachedRelayList where
  relays : List RelayEntry
  fetched_at : Int

/-- A row of the `relay_lists` table. -/
structure RelayRow where
  pubkey : String
  relays : String
  fetched_at : Int

/-- `pubkey` is the primary key. -/
abbrev RelayLists := Table RelayRow.pubkey

namespace RelayCache

/-- `{"url": r.url, "read": r.read, "write": r.write}` -/
def entryJson (r : RelayEntry) : Json := .obj [("url", r.url), ("read", r.read), ("write", r.write)]

def _encode (relays : List RelayEntry) : String := (Json.arr (relays.map entryJson)).dumps

/-- The items that `for item in value` goes through. -/
def iterate : Json → Except Exn (List Json)
  | .arr items => .ok items
  | .obj fields => .ok (fields.map fun f => .str f.1)
  | .str s => .ok (s.characters.map .str)
  | value => .error (.uncaught "TypeError" ("'" ++ typeName value ++ "' object is not iterable"))

/-- The three fields of an entry. -/
def readEntry (item : Json) : Except Exn RelayEntry := do
  let url ← getItem "url" item
  let read ← getItem "read" item
  let write ← getItem "write" item
  return ⟨url, read, write⟩

def _decode (texts : PythonTexts) (raw : String) : Except Exn (List RelayEntry) :=
  match Json.loads texts.floatRepr raw with
  | none => .error (.uncaught "JSONDecodeError" (texts.reason (encode raw)))
  | some value => do
    let items ← iterate value
    items.mapM readEntry

def get (texts : PythonTexts) (pubkey_hex : String) (t : RelayLists) :
    Except Exn (Option CachedRelayList) :=
  match t.find fun r => r.pubkey == pubkey_hex with
  | none => .ok none
  | some row => do
    let relays ← _decode texts row.relays
    return some ⟨relays, row.fetched_at⟩

/-- `INSERT ... ON CONFLICT(pubkey) DO UPDATE`, at the time `now`. -/
def store (now : Int) (pubkey_hex : String) (relays : List RelayEntry) (t : RelayLists) :
    RelayLists :=
  match t.insert ⟨pubkey_hex, _encode relays, now⟩ with
  | some t => t
  | none => t.update (fun r => r.pubkey == pubkey_hex)
      (fun r => { r with relays := _encode relays, fetched_at := now }) fun _ => rfl

end RelayCache

/-! ## `ynh/relay_lookup_server.py` -/

namespace RelayLookupServer

/-- What `_resolve_relays` does outside itself. -/
inductive RelayOp
  | get_by_pubkey (pubkey : String)
  | cache_get (pubkey : String)
  | cache_store (pubkey : String) (relays : List RelayEntry)
  /-- `int(time.time())` -/
  | time
  | fetch_relay_list (pubkey : String)
  | log (message : String)

@[reducible] def RelayOp.Ans : RelayOp → Type
  | get_by_pubkey _ => Except Exn (Option Identity)
  | cache_get _ => Except Exn (Option CachedRelayList)
  | cache_store .. | log _ => Unit
  | time => Int
  | fetch_relay_list _ => Except String (List RelayEntry)

abbrev Resolver (α : Type) := Prog RelayOp RelayOp.Ans Exn α

def _response (relay_entries : List RelayEntry) (fetched_at : Int) : Json :=
  .obj [("linked", .bool true), ("relays", .arr (relay_entries.map RelayCache.entryJson)),
    ("fetched_at", .int fetched_at)]

def unlinked : Json := .obj [("linked", .bool false), ("relays", .arr []), ("fetched_at", .null)]

def cacheGet (pubkey : String) : Resolver (Option CachedRelayList) :=
  .call (.cache_get pubkey) Prog.ofExcept

/-- `cached is not None and cached.age_seconds() < cache_ttl_seconds` -/
def isFresh (cache_ttl_seconds : Int) : Option CachedRelayList → Resolver Bool
  | none => .ret false
  | some cached => .call .time fun now => .ret (max 0 (now - cached.fetched_at) < cache_ttl_seconds)

/-- The answer after a failed fetch. -/
def fallback : Option CachedRelayList → Json
  | some cached => _response cached.relays cached.fetched_at
  | none => .obj [("linked", .bool true), ("relays", .arr []), ("fetched_at", .null)]

/-- Fetch the list and answer with what the cache then holds. -/
def refresh (pubkey : String) (cached : Option CachedRelayList) : Resolver Json :=
  .call (.fetch_relay_list pubkey) fun
    | .error e => .call (.log ("relay fetch failed for a linked pubkey: " ++ e)) fun _ =>
        .ret (fallback cached)
    | .ok fetched => .call (.cache_store pubkey fetched) fun _ => do
        let refreshed ← cacheGet pubkey
        match refreshed with
        | some refreshed => return _response refreshed.relays refreshed.fetched_at
        | none => .raise (noAttribute "NoneType" "relays")

def _resolve_relays (cache_ttl_seconds : Int) (pubkey : String) : Resolver Json := do
  let identity ← .call (.get_by_pubkey pubkey) Prog.ofExcept
  match identity with
  | none => return unlinked
  | some _ =>
    let cached ← cacheGet pubkey
    let fresh ← isFresh cache_ttl_seconds cached
    match cached with
    | some entry => if fresh then return _response entry.relays entry.fetched_at else refresh pubkey cached
    | none => refresh pubkey cached

/-- The answer, made of what `_resolve_relays` returned or raised. -/
def answer : Except Exn Json → Json
  | .ok payload => payload
  | .error _ => errorPayload "lookup failed"

def handle (python : PythonJson) (resolve : String → Except Exn Json) (permitted : Bool)
    (chunks : List Bytes) : Bytes :=
  IdentityLookupServer.handleWith python (fun pubkey => answer (resolve pubkey)) permitted chunks

/-- The two databases that the server reads. -/
structure RelayWorld where
  mappings : MappingDb
  cache : RelayLists

/-- The clock, and what a fetch brings. -/
structure RelayInput where
  now : Int
  fetched : Except String (List Relay)

def exec (texts : PythonTexts) : (o : RelayOp) → RelayInput → RelayWorld → o.Ans × RelayWorld
  | .get_by_pubkey pubkey, inp, w =>
    (((MappingStore.get_by_pubkey pubkey).run (fun _ => inp.now) w.mappings none).1, w)
  | .cache_get pubkey, _, w => (RelayCache.get texts pubkey w.cache, w)
  | .cache_store pubkey relays, inp, w =>
    ((), { w with cache := RelayCache.store inp.now pubkey relays w.cache })
  | .time, inp, w => (inp.now, w)
  | .fetch_relay_list _, inp, w => (inp.fetched.map fun relays => relays.map Relay.entry, w)
  | .log _, _, w => ((), w)

/-- The server: one thread for each connection. -/
def resolvers (texts : PythonTexts) (cache_ttl_seconds : Int) :
    Machine RelayOp RelayOp.Ans Exn Json RelayInput RelayWorld String where
  program := _resolve_relays cache_ttl_seconds
  exec := exec texts
  reboot := fun _ w => w

end RelayLookupServer

/-! ## `ynh/relay_lookup.py` -/

namespace RelayLookup

structure LookedUpRelay where
  url : Json
  read : Json
  write : Json

structure RelayLookupResult where
  linked : Bool
  relays : List LookedUpRelay
  fetched_at : Json

def relayLookupError (message : String) : Exn := .uncaught "RelayLookupError" message

/-- What `lookup_relays` sends. -/
def request (pubkey : String) : Bytes := line .compact (.obj [("pubkey", .str pubkey)])

def readRelay (r : Json) : Except Exn LookedUpRelay := do
  let url ← getItem "url" r
  let read ← getItem "read" r
  let write ← getItem "write" r
  return ⟨url, read, write⟩

/-- What `lookup_relays` makes of the payload. -/
def decode (payload : Json) : Except Exn RelayLookupResult := do
  if ← contains "error" payload then
    let e ← getItem "error" payload
    .error (relayLookupError ("relay lookup helper failed: " ++ strOf e))
  else
    let linked ← get "linked" payload
    match linked with
    | .bool linked =>
      match ← get "relays" payload with
      | .arr items =>
        let relays ← catching ["KeyError", "TypeError"]
          (fun _ => relayLookupError "relay lookup helper returned an invalid relay entry")
          (items.mapM readRelay)
        let fetched_at ← get "fetched_at" payload
        return ⟨linked, relays, fetched_at⟩
      | _ => .error (relayLookupError "relay lookup helper returned an invalid response")
    | _ => .error (relayLookupError "relay lookup helper returned an invalid response")

/-- What `lookup_relays` makes of the answer. -/
def lookup_relays (python : PythonJson) : Received → Except Exn RelayLookupResult
  | .error e => .error (relayLookupError ("could not reach relay lookup helper: " ++ e))
  | .ok chunks => do
    let payload ← catching ["JSONDecodeError"]
      (fun e => relayLookupError ("relay lookup helper returned invalid output: " ++ e))
      (loads python (readLoop (fun _ => true) [] chunks))
    decode payload

end RelayLookup

end NostrAuth
