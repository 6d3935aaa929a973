import NostrAuth.Browser

/-! `web/static/nostr-login-page.js`: what the login page shows, what its buttons do, and the
requests it sends. A page is a client of the service. -/

set_option autoImplicit false

namespace NostrAuth.LoginPage

open Interaction Server Browser
open AccountPage (property jsTruthy trim FetchResult errorText)

/-! ## The page -/

/-- The elements that `setAllButtonsDisabled` goes through. -/
inductive Control
  | button
  | reconnectBtn
  | localKeyBtn
  | passkeyBtn
  | bunkerConnectBtn
  | bunkerInput
  | qrShowBtn
  deriving DecidableEq, Repr

/-- The elements that the script shows, hides or changes, and what it has done to the browser. -/
structure Page where
  opened : Bool
  appHidden : Bool
  subtitle : String
  /-- The text and the kind of the message. -/
  message : String × String
  disabled : Control → Bool
  hidden : Control → Bool
  /-- `details.remote-signer` -/
  remoteSignersHidden : Bool
  qrBoxHidden : Bool
  /-- `qrAbortController`, with whether it was aborted. -/
  qrAbortController : Option Bool
  buttonText : String
  bunkerText : String
  bunkerValue : String
  /-- The script of this page has called `localStorage.setItem("isLoggedIn", "true")`. The item is the
  browser's: other pages and the portal set it as well. -/
  setLoggedIn : Bool
  /-- `window.location.href` -/
  location : String

namespace Page

/-- The document as it is served. -/
def initial : Page where
  opened := false
  appHidden := true
  subtitle := "Approve a signature request from your Nostr extension."
  message := ("", "")
  disabled _ := false
  hidden
    | .reconnectBtn | .localKeyBtn | .passkeyBtn => true
    | _ => false
  remoteSignersHidden := false
  qrBoxHidden := true
  qrAbortController := none
  buttonText := "Sign in with Nostr"
  bunkerText := "Connect"
  bunkerValue := ""
  setLoggedIn := false
  location := "/nostr-login"

/-- The script begins: it shows what was saved in this browser. -/
def load (hasSaved hasLocalKey hasPasskey : Bool) (page : Page) : Page :=
  { page with
    opened := true
    hidden := fun
      | .reconnectBtn => !hasSaved
      | .localKeyBtn => !hasLocalKey
      | .passkeyBtn => !hasPasskey
      | c => page.hidden c }

/-- What `applyPolicy` does where login is disabled. -/
def disableLogin (page : Page) : Page :=
  { page with
    disabled := fun _ => true
    hidden := fun _ => true
    qrBoxHidden := true
    remoteSignersHidden := true
    subtitle := "Nostr login is currently disabled by the administrator. Use your YunoHost " ++
      "password instead." }

/-- The element can be used. -/
def usable (page : Page) (c : Control) : Bool :=
  !page.appHidden && !page.hidden c && !page.disabled c

end Page

/-! ## Calls -/

/-- The ways to a signer. -/
inductive Signer
  | nip07
  | saved
  | localKey
  | passkey
  | bunker (value : String)
  | qr
  deriving DecidableEq, Repr

inductive PageOp
  | clearMessage
  | showMessage (text kind : String)
  | setAllButtonsDisabled (disabled : Bool)
  | setDisabled (c : Control) (disabled : Bool)
  | hideReconnect
  | disableLogin
  | showApp
  | setSubtitle (text : String)
  | buttonText
  | setButtonText (text : String)
  | bunkerValue
  | setBunkerText (text : String)
  | hideQrBox (hide : Bool)
  | openQrAbort
  | closeQrAbort
  /-- `qrAbortController.signal.aborted` -/
  | qrAborted
  | now
  | hasNip07
  | hasStoredPasskey
  /-- `window.NostrConnectUI.hasSaved()` -/
  | hasSaved
  | clearSaved
  /-- Reach the signer; `false` where there is none. -/
  | connect (signer : Signer)
  | signEvent (signer : Signer) (unsignedEvent : Json)
  | disposeSigner (signer : Signer)
  /-- `localStorage.setItem("isLoggedIn", "true")` -/
  | setLoggedIn
  | navigate (url : String)

/-- What comes back; an error is the message of what was thrown. -/
@[reducible] def PageOp.Ans : PageOp → Type
  | buttonText | bunkerValue => String
  | hasNip07 | hasStoredPasskey | hasSaved => Bool
  | qrAborted | connect _ => Except String Bool
  | now => Int
  | signEvent .. => Except String Json
  | disposeSigner _ | setLoggedIn => Except String Unit
  | _ => Unit

/-- What comes from outside the page: the extension, the signers, the vendored code, the
storage and the clock. -/
structure PageInput where
  around : Surroundings
  now : Int
  hasNip07 : Bool
  hasStoredPasskey : Bool
  hasSaved : Bool
  connected : Except String Bool
  /-- What the signer makes of an unsigned event. -/
  signEvent : Json → Except String Json
  disposed : Except String Unit
  /-- What the storage throws, if it does. -/
  storage : Option String

def PageOp.exec : (o : PageOp) → PageInput → Page → o.Ans × Page
  | .clearMessage, _, page => ((), { page with message := ("", "") })
  | .showMessage text kind, _, page => ((), { page with message := (text, kind) })
  | .setAllButtonsDisabled disabled, _, page => ((), { page with disabled := fun _ => disabled })
  | .setDisabled c disabled, _, page =>
    ((), { page with disabled := Function.update page.disabled c disabled })
  | .hideReconnect, _, page =>
    ((), { page with hidden := Function.update page.hidden .reconnectBtn true })
  | .disableLogin, _, page => ((), page.disableLogin)
  | .showApp, _, page => ((), { page with appHidden := false })
  | .setSubtitle text, _, page => ((), { page with subtitle := text })
  | .buttonText, _, page => (page.buttonText, page)
  | .setButtonText text, _, page => ((), { page with buttonText := text })
  | .bunkerValue, _, page => (page.bunkerValue, page)
  | .setBunkerText text, _, page => ((), { page with bunkerText := text })
  | .hideQrBox hide, _, page => ((), { page with qrBoxHidden := hide })
  | .openQrAbort, _, page => ((), { page with qrAbortController := some false })
  | .closeQrAbort, _, page => ((), { page with qrAbortController := none })
  | .qrAborted, _, page =>
    (match page.qrAbortController with
      | some aborted => .ok aborted
      | none => .error "Cannot read properties of null (reading 'signal')", page)
  | .now, inp, page => (inp.now, page)
  | .hasNip07, inp, page => (inp.hasNip07, page)
  | .hasStoredPasskey, inp, page => (inp.hasStoredPasskey, page)
  | .hasSaved, inp, page => (inp.hasSaved, page)
  | .clearSaved, _, page => ((), page)
  | .connect _, inp, page => (inp.connected, page)
  | .signEvent _ unsignedEvent, inp, page => (inp.signEvent unsignedEvent, page)
  | .disposeSigner _, inp, page => (inp.disposed, page)
  | .setLoggedIn, inp, page =>
    match inp.storage with
    | some e => (.error e, page)
    | none => (.ok (), { page with setLoggedIn := true })
  | .navigate url, _, page => ((), { page with location := url })

abbrev Login (α : Type) := Script PageOp PageOp.Ans α

def perform (o : PageOp) : Login o.Ans := .call (.inl o) .ret

/-- A call that may throw. -/
def attempting {α : Type} (o : PageOp) (h : o.Ans = Except String α) : Login α :=
  .call (.inl o) fun r => Prog.ofExcept (cast h r)

/-! ## Signing in -/

def policyRequest : Fetch := { method := "GET", path := ["policy"] }

def challengeRequest : Fetch := { method := "GET", path := ["challenge"] }

def authenticateRequest (signedEvent : Json) : Fetch where
  method := "POST"
  path := ["authenticate"]
  typed := true
  body := some (.obj [("event", signedEvent)])

/-- `unsignedEvent` -/
def unsignedEvent (kind nonce domain action : Json) (created_at : Int) : Json :=
  .obj [("kind", kind), ("created_at", .int created_at),
    ("tags", .arr [.arr [.str "challenge", nonce], .arr [.str "domain", domain],
      .arr [.str "action", action]]),
    ("content", .str "")]

/-- What follows the answer to `/authenticate`. -/
def concludeSignIn (authResult : FetchResult) : Login Unit := do
  if authResult.ok then
    attempting .setLoggedIn rfl
    perform (.navigate "/yunohost/sso/")
  else
    perform (.showMessage
      (errorText authResult.body "Sign-in failed. The challenge may have expired - try again.") "error")

/-- `performSignIn` from the challenge on. -/
def signChallenge (signer : Signer) (challenge : Json) : Login Unit := do
  let kind ← read "kind" challenge
  let created_at ← perform .now
  let nonce ← read "nonce" challenge
  let domain ← read "domain" challenge
  let action ← read "action" challenge
  let signed ← perform (.signEvent signer (unsignedEvent kind nonce domain action created_at))
  match signed with
  | .error _ =>
    perform (.showMessage "Signature request was rejected, or your signer is unavailable." "error")
  | .ok signedEvent =>
    let authResult ← fetchJSON (authenticateRequest signedEvent)
    concludeSignIn authResult

def requestChallenge (signer : Signer) : Login Unit := do
  let challengeResult ← fetchJSON challengeRequest
  if challengeResult.ok then signChallenge signer challengeResult.body
  else perform (.showMessage "Could not start sign-in - please try again." "error")

def performSignIn (signer : Signer) : Login Unit := do
  perform .clearMessage
  perform (.setAllButtonsDisabled true)
  let originalText ← perform .buttonText
  perform (.setButtonText "Waiting for signature…")
  finishing
    (catching (requestChallenge signer) fun _ =>
      perform (.showMessage "Could not reach the server. Check your connection and try again." "error"))
    (do
      perform (.setAllButtonsDisabled false)
      perform (.setButtonText originalText)
      perform (.hideQrBox true))

def signInWithNip07 : Login Unit := do
  let found ← perform .hasNip07
  if found then performSignIn .nip07
  else
    perform (.showMessage ("No Nostr browser extension was found. Install one (e.g. Alby, " ++
      "nos2x), or use a remote signer below.") "error")

def signInWithSigner (signer : Signer) : Login Unit :=
  finishing (performSignIn signer) (attempting (.disposeSigner signer) rfl)

/-- `e.message || text` -/
def messageOr (message text : String) : String := if message = "" then text else message

/-! ## The buttons -/

def reconnect : Login Unit := do
  perform .clearMessage
  perform (.setAllButtonsDisabled true)
  finishing
    (catching
      (do
        let signer ← attempting (.connect .saved) rfl
        if signer then signInWithSigner .saved
        else perform (.showMessage "No saved signer found." "error"))
      fun _ => do
        perform (.showMessage
          "Could not reconnect to your saved signer. Try connecting again below." "error")
        perform .clearSaved
        perform .hideReconnect)
    (perform (.setAllButtonsDisabled false))

def signInWithLocalKey : Login Unit := do
  perform .clearMessage
  let signer ← attempting (.connect .localKey) rfl
  if signer then signInWithSigner .localKey
  else perform (.showMessage "No saved key found." "error")

def signInWithPasskey : Login Unit := do
  perform .clearMessage
  perform (.setAllButtonsDisabled true)
  finishing
    (catching
      (do
        let stored ← perform .hasStoredPasskey
        if stored then
          let _ ← attempting (.connect .passkey) rfl
          signInWithSigner .passkey
        else perform (.showMessage "No passkey identity found on this device." "error"))
      fun e => perform (.showMessage (messageOr e "Could not unlock the passkey identity.") "error"))
    (perform (.setAllButtonsDisabled false))

def connectBunker : Login Unit := do
  perform .clearMessage
  let text ← perform .bunkerValue
  let value := trim text
  if value = "" then
    perform (.showMessage "Paste a bunker:// link or NIP-05 signer address first." "error")
  else
    perform (.setAllButtonsDisabled true)
    perform (.setBunkerText "Connecting…")
    finishing
      (catching
        (do
          let _ ← attempting (.connect (.bunker value)) rfl
          signInWithSigner (.bunker value))
        fun e => perform (.showMessage (messageOr e "Could not connect to that signer.") "error"))
      (do
        perform (.setAllButtonsDisabled false)
        perform (.setBunkerText "Connect"))

def showQr : Login Unit := do
  perform .clearMessage
  perform .openQrAbort
  perform (.hideQrBox false)
  perform (.setDisabled .qrShowBtn true)
  perform (.setDisabled .button true)
  perform (.setDisabled .bunkerConnectBtn true)
  perform (.setDisabled .reconnectBtn true)
  finishing
    (catching
      (do
        let _ ← attempting (.connect .qr) rfl
        perform (.hideQrBox true)
        signInWithSigner .qr)
      fun _ => do
        let wasAborted ← attempting .qrAborted rfl
        if wasAborted then return ()
        else
          perform (.showMessage "The connection request timed out or was not approved." "error"))
    (do
      perform (.hideQrBox true)
      perform (.setDisabled .qrShowBtn false)
      perform (.setDisabled .button false)
      perform (.setDisabled .bunkerConnectBtn false)
      let saved ← perform .hasSaved
      perform (.setDisabled .reconnectBtn (!saved))
      perform .closeQrAbort)

/-! ## When the page is opened -/

/-- `applyPolicy`, from the answer on. -/
def applyAnswer (result : FetchResult) : Login Unit :=
  if result.ok && jsTruthy result.body then do
    let allow ← read "allow_nostr_login" result.body
    match allow with
    | .bool false => perform .disableLogin
    | _ => return ()
  else return ()

def applyPolicy : Login Unit := do
  let result ← fetchJSON policyRequest
  applyAnswer result

/-- What becomes of `waitForNip07(3000)`. -/
def lookForExtension : Login Unit := do
  let found ← perform .hasNip07
  if found then return ()
  else
    perform (.setSubtitle ("No Nostr browser extension detected yet. Install one (e.g. Alby, nos2x) " ++
      "and click Sign in again, or use a remote signer below."))

/-! ## What the user does -/

/-- What happens on a page: it is opened, with what was saved in the browser, or used. -/
inductive Action
  | openPage (hasSaved hasLocalKey hasPasskey : Bool)
  | lookForExtension
  | signIn
  | reconnect
  | localKey
  | passkey
  | typeBunker (value : String)
  | connectBunker
  | showQr
  | cancelQr
  deriving DecidableEq, Repr

namespace Action

/-- The page when the action begins; `none` where its element cannot be used. -/
def begins : Action → Page → Option Page
  | openPage hasSaved hasLocalKey hasPasskey, page =>
    if page.opened then none else some (page.load hasSaved hasLocalKey hasPasskey)
  | lookForExtension, page => if page.opened then some page else none
  | signIn, page => if page.usable .button then some page else none
  | reconnect, page => if page.usable .reconnectBtn then some page else none
  | localKey, page => if page.usable .localKeyBtn then some page else none
  | passkey, page => if page.usable .passkeyBtn then some page else none
  | typeBunker value, page =>
    if page.usable .bunkerInput && !page.remoteSignersHidden then some { page with bunkerValue := value }
    else none
  | connectBunker, page =>
    if page.usable .bunkerConnectBtn && !page.remoteSignersHidden then some page else none
  | showQr, page => if page.usable .qrShowBtn && !page.remoteSignersHidden then some page else none
  | cancelQr, page =>
    if !page.appHidden && !page.qrBoxHidden && !page.remoteSignersHidden then
      some { page with
        qrAbortController := page.qrAbortController.map fun _ => true
        qrBoxHidden := true }
    else none

def program : Action → Login Unit
  | openPage .. => finishing applyPolicy (perform .showApp)
  | lookForExtension => LoginPage.lookForExtension
  | signIn => signInWithNip07
  | reconnect => LoginPage.reconnect
  | localKey => signInWithLocalKey
  | passkey => signInWithPasskey
  | typeBunker _ | cancelQr => return ()
  | connectBunker => LoginPage.connectBunker
  | showQr => LoginPage.showQr

end Action

/-- Login pages as clients of the service. -/
def loginPage : Client PageOp.Ans Sent Response String Page PageInput (Action ⊕ Job) Job :=
  pages .initial Action.begins Action.program PageOp.exec PageInput.around

end NostrAuth.LoginPage
