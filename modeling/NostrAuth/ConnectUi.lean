import Mathlib.Logic.Function.Basic
import NostrAuth.Lib.EcmaJson
import NostrAuth.Lib.Interaction

/-! `web/static/nostr-connect-ui.js`: signers that are saved in the browser's storage and loaded
again, in any number of tabs. -/

set_option autoImplicit false

namespace NostrAuth.NostrConnectUI

open EcmaScript Interaction

/-- The content of a `Uint8Array`. -/
abbrev Bytes := List UInt8

def BUNKER_STORAGE_KEY : String := "nostrAuthSavedSigner"

def LOCAL_KEY_STORAGE_KEY : String := "nostrAuthLocalKey"

def DEFAULT_QR_RELAYS : List JsString := [ascii "wss://relay.nsec.app", ascii "wss://relay.damus.io"]

/-! ## Hexadecimal -/

def bytesToHex (bytes : Bytes) : JsString :=
  bytes.foldl (fun hex b => hex ++ padStart (toString16 b.toNat) 2 (ascii "0")) []

def hexToBytes (hex : JsString) : Bytes :=
  (List.range (hex.length / 2)).map fun i => toUint8 (parseInt16 (substr hex (i * 2) 2))

/-! ## The browser and the vendored signers -/

structure Browser where
  /-- `Number(literal) === 0` -/
  isZero : NumberLiteral → Bool
  /-- What `hexToBytes` makes of a value that is no string. -/
  coerced : JsonValue → Except String Bytes
  getPublicKey : Bytes → JsString
  nsecEncode : Bytes → JsString
  npubEncode : Option JsonValue → Except String JsString
  finalizeEvent : JsonValue → Bytes → JsonValue

/-- A `BunkerSigner`, with what it was made from; `bp` may be `undefined`. -/
structure BunkerSigner where
  clientSecretKey : Bytes
  bp : Option JsonValue

/-- What `createLocalSigner` returns: the object that keeps the key in its closure. -/
structure LocalSigner where
  secretKey : Bytes

def LocalSigner.signEvent (browser : Browser) (signer : LocalSigner) (event : JsonValue) :
    JsonValue :=
  browser.finalizeEvent event signer.secretKey

structure LocalKeypair where
  secretKeyHex : JsString
  pubkeyHex : JsString
  nsec : JsString
  npub : JsString

/-- What the functions do outside themselves. -/
inductive Op
  | getItem (key : String)
  | setItem (key : String) (value : JsString)
  | removeItem (key : String)
  | generateSecretKey
  | parseBunkerInput (bunkerUriOrNip05 : JsString)
  /-- `BunkerSigner.fromBunker(clientSecretKey, bp)` and its `connect` -/
  | connect (clientSecretKey : Bytes) (bp : Option JsonValue)
  /-- Make the URI, draw it and hand it out. -/
  | onUriReady (clientPubkey : JsString) (relays : List JsString) (secret : JsString)
  /-- `BunkerSigner.fromURI`, answered by the pointer of the signer. -/
  | fromURI (clientSecretKey : Bytes) (uri : JsString)

/-- What comes back; an error is what was thrown. -/
@[reducible] def Op.Ans : Op → Type
  | getItem _ => Except String (Option JsString)
  | setItem .. | removeItem _ | connect .. => Except String Unit
  | generateSecretKey => Except String Bytes
  | parseBunkerInput _ | fromURI .. => Except String JsonValue
  | onUriReady .. => Except String JsString

abbrev Ui (α : Type) := Prog Op Op.Ans String α

abbrev UiEvent := Event Op Op.Ans

/-! ## Remote signers -/

/-- `!!value` -/
def truthy (browser : Browser) : JsonValue → Bool
  | .null => false
  | .bool b => b
  | .number literal => !browser.isZero literal
  | .string s => !s.isEmpty
  | .array _ | .object _ => true

/-- `value[name]`, where `name` is no property of a primitive or an array. -/
def property (name : String) : JsonValue → Option JsonValue
  | .object members => lookup members (ascii name)
  | _ => none

/-- What `loadSavedBunker` makes of the item. -/
def savedBunker : Except String (Option JsString) → JsonValue
  | .ok (some raw) => if raw.isEmpty then .null else (parse raw).getD .null
  | _ => .null

def loadSavedBunker : Ui JsonValue :=
  .call (.getItem BUNKER_STORAGE_KEY) fun raw => .ret (savedBunker raw)

/-- What `saveBunker` stores. -/
def savedText (clientSecretKey : Bytes) (bunkerPointer : JsonValue) : JsString :=
  stringify (.object [(ascii "clientSecretKeyHex", .string (bytesToHex clientSecretKey)),
    (ascii "bunkerPointer", bunkerPointer)])

def saveBunker (clientSecretKey : Bytes) (bunkerPointer : JsonValue) : Ui Unit :=
  .call (.setItem BUNKER_STORAGE_KEY (savedText clientSecretKey bunkerPointer)) fun _ => .ret ()

def clearSaved : Ui Unit := .call (.removeItem BUNKER_STORAGE_KEY) fun _ => .ret ()

def hasSaved (browser : Browser) : Ui Bool := do
  let saved ← loadSavedBunker
  return truthy browser saved

/-- What the settings show of a saved signer. -/
structure SavedInfo where
  relays : Option JsonValue
  remoteNpub : JsString

def getSavedInfo (browser : Browser) : Ui (Option SavedInfo) := do
  let saved ← loadSavedBunker
  if truthy browser saved then
    match property "bunkerPointer" saved with
    | none => .raise "Cannot read properties of undefined (reading 'relays')"
    | some .null => .raise "Cannot read properties of null (reading 'relays')"
    | some bunkerPointer =>
      let remoteNpub ← Prog.ofExcept (browser.npubEncode (property "pubkey" bunkerPointer))
      return some ⟨property "relays" bunkerPointer, remoteNpub⟩
  else return none

def connectViaBunkerUri (browser : Browser) (bunkerUriOrNip05 : JsString) : Ui BunkerSigner := do
  let bp ← .call (.parseBunkerInput bunkerUriOrNip05) Prog.ofExcept
  if truthy browser bp then
    let clientSecretKey ← .call .generateSecretKey Prog.ofExcept
    .call (.connect clientSecretKey (some bp)) Prog.ofExcept
    saveBunker clientSecretKey bp
    return ⟨clientSecretKey, some bp⟩
  else .raise "That doesn't look like a valid bunker:// link or NIP-05 signer address."

def connectViaQr (browser : Browser) : Ui BunkerSigner := do
  let clientSecretKey ← .call .generateSecretKey Prog.ofExcept
  let random ← .call .generateSecretKey Prog.ofExcept
  let uri ← .call (.onUriReady (browser.getPublicKey clientSecretKey) DEFAULT_QR_RELAYS
    ((bytesToHex random).take 16)) Prog.ofExcept
  let bp ← .call (.fromURI clientSecretKey uri) Prog.ofExcept
  saveBunker clientSecretKey bp
  return ⟨clientSecretKey, some bp⟩

/-- `hexToBytes(saved.clientSecretKeyHex)` -/
def savedKey (browser : Browser) : Option JsonValue → Except String Bytes
  | some (.string hex) => .ok (hexToBytes hex)
  | none => .error "Cannot read properties of undefined (reading 'length')"
  | some .null => .error "Cannot read properties of null (reading 'length')"
  | some value => browser.coerced value

def reconnectSaved (browser : Browser) : Ui (Option BunkerSigner) := do
  let saved ← loadSavedBunker
  if truthy browser saved then
    let clientSecretKey ← Prog.ofExcept (savedKey browser (property "clientSecretKeyHex" saved))
    .call (.connect clientSecretKey (property "bunkerPointer" saved)) Prog.ofExcept
    return some ⟨clientSecretKey, property "bunkerPointer" saved⟩
  else return none

/-! ## Local keys -/

def generateLocalKeypair (browser : Browser) : Ui LocalKeypair := do
  let secretKey ← .call .generateSecretKey Prog.ofExcept
  let pubkeyHex := browser.getPublicKey secretKey
  let npub ← Prog.ofExcept (browser.npubEncode (some (.string pubkeyHex)))
  return ⟨bytesToHex secretKey, pubkeyHex, browser.nsecEncode secretKey, npub⟩

def createLocalSigner (secretKeyHex : JsString) : LocalSigner := ⟨hexToBytes secretKeyHex⟩

def saveLocalKey (secretKeyHex : JsString) : Ui Unit :=
  .call (.setItem LOCAL_KEY_STORAGE_KEY secretKeyHex) fun _ => .ret ()

/-- What `loadLocalSigner` makes of the item; the empty string counts as none. -/
def localSigner : Except String (Option JsString) → Option LocalSigner
  | .ok (some secretKeyHex) =>
    if secretKeyHex.isEmpty then none else some (createLocalSigner secretKeyHex)
  | _ => none

def hasLocalKey : Ui Bool :=
  .call (.getItem LOCAL_KEY_STORAGE_KEY) fun
    | .ok (some secretKeyHex) => .ret (!secretKeyHex.isEmpty)
    | _ => .ret false

def loadLocalSigner : Ui (Option LocalSigner) :=
  .call (.getItem LOCAL_KEY_STORAGE_KEY) fun secretKeyHex => .ret (localSigner secretKeyHex)

def clearLocalKey : Ui Unit := .call (.removeItem LOCAL_KEY_STORAGE_KEY) fun _ => .ret ()

def clearAllSaved : Ui Unit := do
  clearSaved
  clearLocalKey

/-! ## The tabs -/

/-- The functions that the pages call. -/
inductive Call
  | hasSaved
  | getSavedInfo
  | reconnectSaved
  | connectViaBunkerUri (bunkerUriOrNip05 : JsString)
  | connectViaQr
  | clearSaved
  | generateLocalKeypair
  | saveLocalKey (secretKeyHex : JsString)
  | hasLocalKey
  | loadLocalSigner
  | clearLocalKey
  | clearAllSaved

inductive Result
  | done
  | flag (b : Bool)
  | info (info : Option SavedInfo)
  | bunkerSigner (signer : Option BunkerSigner)
  | keypair (keypair : LocalKeypair)
  | localSigner (signer : Option LocalSigner)

def Call.program (browser : Browser) : Call → Ui Result
  | .hasSaved => (NostrConnectUI.hasSaved browser).bind fun b => .ret (.flag b)
  | .getSavedInfo => (NostrConnectUI.getSavedInfo browser).bind fun i => .ret (.info i)
  | .reconnectSaved => (NostrConnectUI.reconnectSaved browser).bind fun s => .ret (.bunkerSigner s)
  | .connectViaBunkerUri input =>
    (NostrConnectUI.connectViaBunkerUri browser input).bind fun s => .ret (.bunkerSigner (some s))
  | .connectViaQr =>
    (NostrConnectUI.connectViaQr browser).bind fun s => .ret (.bunkerSigner (some s))
  | .clearSaved => NostrConnectUI.clearSaved.bind fun _ => .ret .done
  | .generateLocalKeypair =>
    (NostrConnectUI.generateLocalKeypair browser).bind fun k => .ret (.keypair k)
  | .saveLocalKey hex => (NostrConnectUI.saveLocalKey hex).bind fun _ => .ret .done
  | .hasLocalKey => NostrConnectUI.hasLocalKey.bind fun b => .ret (.flag b)
  | .loadLocalSigner => NostrConnectUI.loadLocalSigner.bind fun s => .ret (.localSigner s)
  | .clearLocalKey => NostrConnectUI.clearLocalKey.bind fun _ => .ret .done
  | .clearAllSaved => NostrConnectUI.clearAllSaved.bind fun _ => .ret .done

/-- `localStorage` -/
abbrev Storage := String → Option JsString

/-- Whether the storage throws, and what the vendored code does. -/
structure UiInput where
  throws : Option String
  answer : (o : Op) → o.Ans

def exec : (o : Op) → UiInput → Storage → o.Ans × Storage
  | .getItem key, inp, s =>
    match inp.throws with
    | some e => (.error e, s)
    | none => (.ok (s key), s)
  | .setItem key value, inp, s =>
    match inp.throws with
    | some e => (.error e, s)
    | none => (.ok (), Function.update s key (some value))
  | .removeItem key, inp, s =>
    match inp.throws with
    | some e => (.error e, s)
    | none => (.ok (), Function.update s key none)
  | .generateSecretKey, inp, s => (inp.answer .generateSecretKey, s)
  | .parseBunkerInput input, inp, s => (inp.answer (.parseBunkerInput input), s)
  | .connect key bp, inp, s => (inp.answer (.connect key bp), s)
  | .onUriReady pubkey relays secret, inp, s => (inp.answer (.onUriReady pubkey relays secret), s)
  | .fromURI key uri, inp, s => (inp.answer (.fromURI key uri), s)

/-- Calls in any tabs of the origin. A closed tab leaves the storage as it is. -/
def tabs (browser : Browser) : Machine Op Op.Ans String Result UiInput Storage Call where
  program := Call.program browser
  exec := exec
  reboot := fun _ s => s

end NostrAuth.NostrConnectUI
