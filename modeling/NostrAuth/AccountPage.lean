import NostrAuth.Lib.Clients
import NostrAuth.Server

/-! `web/static/nostr-account-page.js`: what the account page keeps and shows, what its buttons
do, and the requests it sends. A page is a client of the service. -/

set_option autoImplicit false

namespace NostrAuth.AccountPage

open Interaction Server

/-! ## Values of the script -/

/-- `Boolean(value)`; `undefined` is `null`. -/
def jsTruthy : Json → Bool
  | .null => false
  | .bool b => b
  | .int n => n != 0
  | .float repr => repr != "0.0" && repr != "-0.0"
  | .str s => s != .text ""
  | .arr _ | .obj _ => true

/-- `value[key]`; `none` is the `TypeError` of a property of `null`. -/
def property (key : String) : Json → Option Json
  | .null => none
  | .obj fields => some ((Json.lookup fields key).getD .null)
  | _ => some .null

def isJsSpace (c : Char) : Bool :=
  c.toNat ∈ [0x09, 0x0a, 0x0b, 0x0c, 0x0d, 0x20, 0xa0, 0x1680, 0x2028, 0x2029, 0x202f, 0x205f,
    0x3000, 0xfeff] || (0x2000 ≤ c.toNat && c.toNat ≤ 0x200a)

/-- `text.trim()` -/
def trim (text : String) : String :=
  String.ofList ((text.toList.dropWhile isJsSpace).reverse.dropWhile isJsSpace).reverse

/-! ## The page -/

inductive LinkMode
  | replace
  | add
  deriving DecidableEq, Repr

/-- What the button for linking offers. -/
inductive Offer
  | link
  | add
  | replace
  deriving DecidableEq, Repr

def Offer.text : Offer → String
  | .link => "Link identity"
  | .add => "Add identity"
  | .replace => "Replace identity"

/-- The variables of the script and the elements that it shows, hides or disables. -/
structure Page where
  opened : Bool
  appHidden : Bool
  signedInHidden : Bool
  allowIdentityLinking : Bool
  currentIdentities : List Json
  linkMode : LinkMode
  linkModeLabelHidden : Bool
  linkBtnText : String
  linkBtnHidden : Bool
  /-- `setLinkButtonsDisabled` -/
  linkButtonsDisabled : Bool
  unlinkBtnHidden : Bool
  unlinkBtnDisabled : Bool
  identityLabel : String
  /-- The text and the kind of the message. -/
  message : String × String

namespace Page

/-- The document as it is served. -/
def initial : Page where
  opened := false
  appHidden := true
  signedInHidden := true
  allowIdentityLinking := true
  currentIdentities := []
  linkMode := .replace
  linkModeLabelHidden := true
  linkBtnText := "Link identity"
  linkBtnHidden := false
  linkButtonsDisabled := false
  unlinkBtnHidden := true
  unlinkBtnDisabled := false
  identityLabel := ""
  message := ("", "")

/-- `identity.enabled` -/
def isEnabled (identity : Json) : Bool := jsTruthy ((property "enabled" identity).getD .null)

def hasActiveIdentity (page : Page) : Bool := page.currentIdentities.any isEnabled

/-- What the page says it will do with the next identity. -/
def offer (page : Page) : Offer :=
  if page.hasActiveIdentity then
    match page.linkMode with
    | .add => .add
    | .replace => .replace
  else .link

/-- The text that the listener of `linkMode` and `renderIdentities` choose. -/
def modeText : LinkMode → String
  | .add => "Add identity"
  | .replace => "Replace identity"

/-- `payload.identities || []`; `none` where the script fails on it. -/
def identitiesOf (payload : Json) : Option (List Json) :=
  match property "identities" payload with
  | none => none
  | some (.arr identities) => some identities
  | some value => if jsTruthy value then none else some []

/-- The elements that depend on the list. -/
def showList (page : Page) : Page :=
  if page.hasActiveIdentity then
    { page with linkModeLabelHidden := false, linkBtnText := modeText page.linkMode, unlinkBtnHidden := false }
  else
    { page with linkModeLabelHidden := true, linkMode := .replace, linkBtnText := "Link identity", unlinkBtnHidden := true }

/-- The elements that the policy hides. -/
def showPolicy (page : Page) : Page :=
  if page.allowIdentityLinking then page
  else { page with linkModeLabelHidden := true, linkBtnHidden := true }

/-- Whether it went through, and the page after it. -/
def renderIdentities (payload : Json) (page : Page) : Bool × Page :=
  match identitiesOf payload with
  | none => (false, { page with signedInHidden := false })
  | some identities =>
    (true, ({ page with signedInHidden := false, currentIdentities := identities }).showList.showPolicy)

/-- The listener of `linkMode`. -/
def changeMode (mode : LinkMode) (page : Page) : Page :=
  { page with linkMode := mode, linkBtnText := modeText mode }

/-- The account is shown, and its elements can be used. -/
def usable (page : Page) : Bool := !page.appHidden && !page.signedInHidden

/-- A card with the buttons for an active identity is shown for the id. -/
def lists (page : Page) (identityId : Int) : Bool :=
  page.hasActiveIdentity && page.currentIdentities.any fun identity =>
    isEnabled identity && match property "id" identity with
      | some (.int n) => n == identityId
      | _ => false

end Page

/-! ## Requests -/

/-- The options of `fetchJSON`. -/
inductive Call
  | plain (method : String) (path : List String) (body : Option Json)
  /-- The last request of `performLink`, for an event and the type of its signer. -/
  | submit (signedEvent : Json) (signerType : String)

/-- `hasActiveIdentity() && linkMode.value === "add"` -/
def adding (page : Page) : Bool := page.hasActiveIdentity && page.linkMode == .add

def linkBody (page : Page) (signedEvent : Json) (signerType : String) : Json :=
  let label := trim page.identityLabel
  .obj ([(.text "event", signedEvent),
      (.text "signer_type", .str (.text (if signerType = "" then "unknown" else signerType)))] ++
    if label = "" then [] else [(.text "label", .str (.text label))])

/-- What comes from outside: the settings in force, the headers that the browser and the proxy
add, the clock, the user's answers and those of the signer. -/
structure PageInput where
  settings : Settings
  headers : String → Option String
  client : Option String
  now : Int
  confirmed : Bool
  answer : Option String
  /-- Whether a signer could be reached, and if not, the message, if there is one. -/
  connected : Except (Option String) Unit
  signedEvent : Option Json

def request (method : String) (path : List String) (body : Option Json) (inp : PageInput) : Request where
  method := method
  path := path
  headers name := if name = "content-type" then body.map fun _ => "application/json" else inp.headers name
  query_params _ := none
  json := jsonBody body
  client := inp.client

/-- The request as the page makes it at that moment. -/
def Call.job (c : Call) (page : Page) (inp : PageInput) : Job :=
  ⟨inp.settings, match c with
    | .plain method path body => request method path body inp
    | .submit signedEvent signerType =>
      request "POST" (if adding page then ["identities", "link"] else ["link"])
        (some (linkBody page signedEvent signerType)) inp⟩

/-! ## Activities -/

inductive PageOp
  | showApp
  | showMessage (text kind : String)
  | clearMessage
  | setLinkButtonsDisabled (disabled : Bool)
  | setUnlinkBtnDisabled (disabled : Bool)
  | setPolicy (allow : Bool)
  | showSignedOut
  | renderIdentities (payload : Json)
  | confirm (text : String)
  | prompt (text : String)
  | now
  | connect
  | signEvent (unsignedEvent : Json)

@[reducible] def PageOp.Ans : PageOp → Type
  | renderIdentities _ | confirm _ => Bool
  | prompt _ => Option String
  | now => Int
  | connect => Except (Option String) Unit
  | signEvent _ => Option Json
  | _ => Unit

def PageOp.exec : (o : PageOp) → PageInput → Page → o.Ans × Page
  | .showApp, _, page => ((), { page with appHidden := false })
  | .showMessage text kind, _, page => ((), { page with message := (text, kind) })
  | .clearMessage, _, page => ((), { page with message := ("", "") })
  | .setLinkButtonsDisabled disabled, _, page => ((), { page with linkButtonsDisabled := disabled })
  | .setUnlinkBtnDisabled disabled, _, page => ((), { page with unlinkBtnDisabled := disabled })
  | .setPolicy allow, _, page => ((), { page with allowIdentityLinking := allow })
  | .showSignedOut, _, page => ((), { page with signedInHidden := true })
  | .renderIdentities payload, _, page => page.renderIdentities payload
  | .confirm _, inp, page => (inp.confirmed, page)
  | .prompt _, inp, page => (inp.answer, page)
  | .now, inp, page => (inp.now, page)
  | .connect, inp, page => (inp.connected, page)
  | .signEvent _, inp, page => (inp.signedEvent, page)

/-- A part of an activity; an exception of the script carries nothing that is looked at. -/
abbrev Script (α : Type) :=
  Prog (PageOp ⊕ Call) (Sum.elim PageOp.Ans fun _ => Option Response) Unit α

def perform (o : PageOp) : Script o.Ans := .call (.inl o) .ret

structure FetchResult where
  ok : Bool
  status : Nat
  body : Json

def fetchJSON (c : Call) : Script FetchResult :=
  .call (.inr c) fun
    | none => .raise ()
    | some response => .ret {
        ok := 200 ≤ response.status_code && response.status_code < 300
        status := response.status_code
        body := match response.content with
          | .json value => value
          | _ => .null }

/-- `value[key]` of what a response held. -/
def read (key : String) (value : Json) : Script Json :=
  match property key value with
  | some field => .ret field
  | none => .raise ()

/-- `(result.body && result.body.error) || text` -/
def errorText (body : Json) (text : String) : String :=
  match property "error" body with
  | some (.str (.text message)) => if message = "" then text else message
  | _ => text

/-- What `loadIdentity` takes from the policy. -/
def readPolicy (policyResult : FetchResult) : Script Unit :=
  if policyResult.ok && jsTruthy policyResult.body then do
    let allow ← read "allow_identity_linking" policyResult.body
    match allow with
    | .bool false => perform (.setPolicy false)
    | _ => perform (.setPolicy true)
  else .ret ()

def loadIdentity : Script Unit := do
  let policyResult ← fetchJSON (.plain "GET" ["policy"] none)
  readPolicy policyResult
  let result ← fetchJSON (.plain "GET" ["identities"] none)
  if result.status = 401 then perform .showSignedOut
  else if result.ok then
    let done ← perform (.renderIdentities result.body)
    Prog.ensure (done = true) ()
  else
    perform (.showMessage "Could not load your identity status - please reload the page." "error")

def unreachable : Script Unit :=
  perform (.showMessage "Could not reach the server. Check your connection and try again." "error")

/-- `try` with the handler that all activities share. -/
def catching (p : Script Unit) : Script Unit :=
  p.attempt.bind fun
    | .ok _ => .ret ()
    | .error _ => unreachable

/-- How the activities end: after a success the list is loaded again. -/
def finish (result : FetchResult) (success failure : String) : Script Unit := do
  if result.ok then
    perform (.showMessage success "success")
    loadIdentity
  else perform (.showMessage (errorText result.body failure) "error")

/-- `performLink` from the challenge on. -/
def linkWithChallenge (signerType : String) (challenge : Json) : Script Unit := do
  let kind ← read "kind" challenge
  let created_at ← perform .now
  let nonce ← read "nonce" challenge
  let domain ← read "domain" challenge
  let action ← read "action" challenge
  let signed ← perform (.signEvent (.obj
    [("kind", kind), ("created_at", .int created_at),
      ("tags", .arr [.arr [.str "challenge", nonce], .arr [.str "domain", domain],
        .arr [.str "action", action]]),
      ("content", .str "")]))
  match signed with
  | none =>
    perform (.showMessage "Signature request was rejected, or your signer is unavailable." "error")
  | some signedEvent =>
    let linkResult ← fetchJSON (.submit signedEvent signerType)
    finish linkResult "Identity linked." "Linking failed - please try again."

def performLink (signerType : String) : Script Unit := do
  perform .clearMessage
  perform (.setLinkButtonsDisabled true)
  catching do
    let challengeResult ← fetchJSON (.plain "POST" ["link", "challenge"] none)
    if challengeResult.ok then linkWithChallenge signerType challengeResult.body
    else perform (.showMessage "Could not start linking - please try again." "error")
  perform (.setLinkButtonsDisabled false)

/-- The paths to a signer, each of which ends in `performLink`. -/
inductive Signer
  | nip07
  | nip46
  | passkey
  | localKey
  deriving DecidableEq, Repr

def Signer.type : Signer → String
  | nip07 => "nip07"
  | nip46 => "nip46"
  | passkey => "passkey"
  | localKey => "unknown"

/-- `linkWithSigner`, once the signer was asked. -/
def linkWithSigner (signer : Signer) : Except (Option String) Unit → Script Unit
  | .ok _ => performLink signer.type
  | .error (some message) => perform (.showMessage message "error")
  | .error none => .ret ()

/-- The listeners that ask a remote signer or a passkey first. -/
def askSigner (signer : Signer) : Script Unit := do
  perform .clearMessage
  perform (.setLinkButtonsDisabled true)
  let connected ← perform .connect
  linkWithSigner signer connected
  perform (.setLinkButtonsDisabled false)

def linkWithNip07 : Script Unit := do
  let found ← perform .connect
  match found with
  | .ok _ => performLink Signer.nip07.type
  | .error _ =>
    perform (.showMessage ("No Nostr browser extension was found. Install one (e.g. Alby, " ++
      "nos2x), or use a remote signer below.") "error")

def linkWith : Signer → Script Unit
  | .nip07 => linkWithNip07
  | .nip46 => askSigner .nip46
  | .passkey => askSigner .passkey
  | .localKey => linkWithSigner .localKey (.ok ())

def unlinkIdentity : Script Unit := do
  perform .clearMessage
  let confirmed ← perform (.confirm "Unlink all Nostr identities? You can link a new one anytime.")
  if confirmed then
    perform (.setUnlinkBtnDisabled true)
    catching do
      let result ← fetchJSON (.plain "POST" ["unlink"] none)
      finish result "Identity unlinked." "Unlinking failed - please try again."
    perform (.setUnlinkBtnDisabled false)

def revokeIdentity (identityId : Int) : Script Unit := do
  perform .clearMessage
  let confirmed ← perform (.confirm "Revoke this identity? It will no longer be able to sign in.")
  if confirmed then
    catching do
      let result ← fetchJSON (.plain "DELETE" ["identities", toString identityId] none)
      finish result "Identity revoked." "Could not revoke that identity."

def renameIdentity (identityId : Int) : Script Unit := do
  let label ← perform (.prompt "Label for this identity:")
  match label.map trim with
  | none => return ()
  | some label =>
    if label = "" then
      perform (.showMessage "Enter a label, or cancel to leave it unchanged." "error")
    else
      perform .clearMessage
      catching do
        let result ← fetchJSON (.plain "PATCH" ["identities", toString identityId]
          (some (.obj [("label", .str label)])))
        finish result "Identity renamed." "Could not rename that identity."

/-! ## What the user does -/

/-- An action of the user on a page, and for a link what the page offered then. -/
inductive Action
  | openPage
  | chooseMode (mode : LinkMode)
  | typeLabel (label : String)
  | link (signer : Signer) (offer : Offer)
  | unlink
  | revoke (identityId : Int)
  | rename (identityId : Int)
  deriving DecidableEq, Repr

namespace Action

/-- The page when the action begins; `none` where its elements cannot be used. -/
def begins : Action → Page → Option Page
  | openPage, page => if page.opened then none else some { page with opened := true }
  | chooseMode mode, page =>
    if page.usable && !page.linkModeLabelHidden && !page.linkButtonsDisabled then
      some (page.changeMode mode)
    else none
  | typeLabel label, page =>
    if page.usable && !page.linkButtonsDisabled then some { page with identityLabel := label } else none
  | link _ offer, page =>
    if page.usable && !page.linkBtnHidden && !page.linkButtonsDisabled && offer == page.offer then
      some page
    else none
  | unlink, page =>
    if page.usable && !page.unlinkBtnHidden && !page.unlinkBtnDisabled then some page else none
  | revoke identityId, page | rename identityId, page =>
    if page.usable && page.lists identityId then some page else none

def program : Action → Script Unit
  | openPage => loadIdentity.attempt.bind fun _ => perform .showApp
  | chooseMode _ | typeLabel _ => .ret ()
  | link signer _ => linkWith signer
  | unlink => unlinkIdentity
  | revoke identityId => revokeIdentity identityId
  | rename identityId => renameIdentity identityId

end Action

/-- The page as a client of the service. -/
def accountPage : Client PageOp.Ans Call Response Unit Page PageInput Action Job where
  initial := .initial
  begins := Action.begins
  program := Action.program
  exec := PageOp.exec
  job := Call.job

end NostrAuth.AccountPage
