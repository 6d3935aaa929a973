import Mathlib.Data.List.Infix
import NostrAuth.Browser
import NostrAuth.Lib.Html

/-! `web/static/nostr-admin-page.js`: the gate, the table of identities and the requests of the
administration page. A page is a client of the service. -/

set_option autoImplicit false

namespace NostrAuth.AdminPage

open Interaction Server Browser
open AccountPage (property FetchResult jsTruthy trim)

/-! ## What the page shows of an identity -/

/-- The fields of an identity that the page reads. -/
structure Shown where
  id : Int
  username : String
  pubkey : String
  npub : String
  signer_type : String
  label : Option String
  enabled : Bool
  created_at : Int
  last_used : Option Int
  deriving DecidableEq, Repr

def stringOf : Json → Option String
  | .str (.text s) => some s
  | _ => none

def intOf : Json → Option Int
  | .int n => some n
  | _ => none

def boolOf : Json → Option Bool
  | .bool b => some b
  | _ => none

/-- `null`, or a value of the type that `f` reads. -/
def orNull {α : Type} (f : Json → Option α) : Json → Option (Option α)
  | .null => some none
  | value => (f value).map some

/-- `none` where a field is not of the type that the service sends. -/
def shownOf (value : Json) : Option Shown := do
  let id ← (property "id" value).bind intOf
  let username ← (property "username" value).bind stringOf
  let pubkey ← (property "pubkey" value).bind stringOf
  let npub ← (property "npub" value).bind stringOf
  let signer_type ← (property "signer_type" value).bind stringOf
  let label ← (property "label" value).bind (orNull stringOf)
  let enabled ← (property "enabled" value).bind boolOf
  let created_at ← (property "created_at" value).bind intOf
  let last_used ← (property "last_used" value).bind (orNull intOf)
  return ⟨id, username, pubkey, npub, signer_type, label, enabled, created_at, last_used⟩

/-- `body.identities` -/
def identitiesOf (body : Json) : Option (List Shown) :=
  match property "identities" body with
  | some (.arr values) => values.mapM shownOf
  | _ => none

/-- What the browser computes: the lower case that Unicode gives, whatever the language, and how
its language writes a time. -/
structure BrowserLocale where
  toLowerCase : String → String
  /-- `new Date(seconds * 1000).toLocaleString()` -/
  toLocaleString : Int → String

def escapeHtml (value : String) : String := String.ofList (Html.escape value.toList)

def formatTimestamp (locale : BrowserLocale) : Option Int → String
  | none => "never"
  | some seconds => if seconds = 0 then "never" else locale.toLocaleString seconds

def truncatePubkey (npub : String) : String :=
  let chars := npub.toList
  if chars.length ≤ 20 then npub
  else String.ofList (chars.take 12 ++ ['…'] ++ chars.drop (chars.length - 6))

def matchesFilter (locale : BrowserLocale) (identity : Shown) (needle : String) : Bool :=
  let haystack := [identity.username, identity.label.getD "", identity.npub, identity.pubkey,
    identity.signer_type]
  needle = "" || decide (needle.toList <:+: (locale.toLowerCase (" ".intercalate haystack)).toList)

def statusChip (enabled : Bool) : String :=
  if enabled then "<span class=\"chip\">active</span>"
  else "<span class=\"chip revoked\">revoked</span>"

/-- `tr.innerHTML` -/
def rowHtml (locale : BrowserLocale) (identity : Shown) : String :=
  "\n        <td>" ++ escapeHtml identity.username ++
  "</td>\n        <td class=\"pubkey\" title=\"" ++ escapeHtml identity.pubkey ++ "\">" ++
  escapeHtml (truncatePubkey identity.npub) ++
  "</td>\n        <td>" ++ escapeHtml identity.signer_type ++
  "</td>\n        <td class=\"label-cell\">" ++ escapeHtml (identity.label.getD "") ++
  "</td>\n        <td>" ++ statusChip identity.enabled ++
  "</td>\n        <td>" ++ escapeHtml (formatTimestamp locale (some identity.created_at)) ++
  "</td>\n        <td>" ++ escapeHtml (formatTimestamp locale identity.last_used) ++
  "</td>\n        <td class=\"row-actions\"></td>\n      "

/-- A row of the table. Its buttons act on the identity it was made for. -/
structure Row where
  identity : Shown
  html : String
  hasButtons : Bool
  deriving DecidableEq, Repr

def rowOf (locale : BrowserLocale) (identity : Shown) : Row :=
  ⟨identity, rowHtml locale identity, identity.enabled⟩

/-! ## The page -/

/-- The form for a new identity. -/
structure Form where
  username : String
  pubkey : String
  signer_type : String
  label : String
  replace : Bool
  deriving DecidableEq, Repr

def Form.initial : Form := ⟨"", "", "unknown", "", false⟩

structure Page where
  opened : Bool
  gateHidden : Bool
  gateTitle : String
  gateMessage : String
  appHidden : Bool
  whoami : String
  /-- The text and the kind of the banner. -/
  banner : String × String
  /-- The texts that a timeout will take away. -/
  timeouts : List String
  identities : List Shown
  rows : List Row
  emptyShown : Bool
  search : String
  showRevoked : Bool
  form : Form
  addDisabled : Bool

namespace Page

/-- The document as it is served. -/
def initial : Page where
  opened := false
  gateHidden := true
  gateTitle := "Checking access..."
  gateMessage := ""
  appHidden := true
  whoami := ""
  banner := ("", "")
  timeouts := []
  identities := []
  rows := []
  emptyShown := false
  search := ""
  showRevoked := false
  form := Form.initial
  addDisabled := false

/-- The identities that pass the filter. -/
def filtered (locale : BrowserLocale) (page : Page) : List Shown :=
  page.identities.filter fun identity =>
    (page.showRevoked || identity.enabled) &&
      matchesFilter locale identity (locale.toLowerCase (trim page.search))

def renderRows (locale : BrowserLocale) (page : Page) : Page :=
  { page with
    rows := (page.filtered locale).map (rowOf locale)
    emptyShown := (page.filtered locale).isEmpty }

def showBanner (message kind : String) (page : Page) : Page :=
  { page with
    banner := (message, kind)
    timeouts := if kind = "success" then message :: page.timeouts else page.timeouts }

/-- The row of the identity is in the table, with its buttons. -/
def offers (page : Page) (identity : Shown) : Bool :=
  !page.appHidden && page.rows.any fun row => row.identity == identity && row.hasButtons

end Page

/-! ## Calls -/

inductive PageOp
  | openGate
  | showGate (title message : String)
  | showApp (whoami : String)
  | showBanner (message kind : String)
  /-- `identities = …; renderRows()` -/
  | setIdentities (identities : List Shown)
  | prompt (text default : String)
  | confirm (text : String)
  | setAddDisabled (disabled : Bool)
  /-- `new FormData(addForm)` -/
  | formData
  | resetForm

@[reducible] def PageOp.Ans : PageOp → Type
  | prompt .. => Option String
  | confirm _ => Bool
  | formData => Form
  | _ => Unit

/-- What comes from outside: what goes with a request, and the user's answers. -/
structure PageInput where
  around : Surroundings
  answer : Option String
  confirmed : Bool

def PageOp.exec (locale : BrowserLocale) : (o : PageOp) → PageInput → Page → o.Ans × Page
  | .openGate, _, page => ((), { page with gateHidden := false })
  | .showGate title message, _, page => ((), { page with gateTitle := title, gateMessage := message })
  | .showApp whoami, _, page => ((), { page with gateHidden := true, appHidden := false, whoami })
  | .showBanner message kind, _, page => ((), page.showBanner message kind)
  | .setIdentities identities, _, page => ((), { page with identities }.renderRows locale)
  | .prompt .., inp, page => (inp.answer, page)
  | .confirm _, inp, page => (inp.confirmed, page)
  | .setAddDisabled disabled, _, page => ((), { page with addDisabled := disabled })
  | .formData, _, page => (page.form, page)
  | .resetForm, _, page => ((), { page with form := Form.initial })

abbrev Admin (α : Type) := Script PageOp PageOp.Ans α

def perform (o : PageOp) : Admin o.Ans := .call (.inl o) .ret

/-! ## Requests -/

def sessionRequest : Fetch where
  method := "GET"
  path := ["nostr-admin", "api", "session"]
  typed := true

def listRequest : Fetch where
  method := "GET"
  path := ["nostr-admin", "api", "identities"]
  typed := true

def addRequest (form : Form) : Fetch where
  method := "POST"
  path := ["nostr-admin", "api", "identities"]
  typed := true
  body := some (.obj
    [("username", .str (trim form.username)),
      ("pubkey", .str (trim form.pubkey)),
      ("signer_type", .str form.signer_type),
      ("label", if trim form.label = "" then .null else .str (trim form.label)),
      ("replace", .bool form.replace)])

def renameRequest (identity : Shown) (label : String) : Fetch where
  method := "POST"
  path := ["nostr-admin", "api", "identities", toString identity.id, "rename"]
  typed := true
  body := some (.obj [("username", .str identity.username), ("label", .str (trim label))])

def revokeRequest (identity : Shown) : Fetch where
  method := "POST"
  path := ["nostr-admin", "api", "identities", toString identity.id, "revoke"]
  typed := true
  body := some (.obj [("username", .str identity.username)])

/-- `(body && body.error) || …` -/
def failureText (result : FetchResult) : String :=
  match property "error" result.body with
  | some (.str (.text message)) =>
    if message = "" then "request failed (HTTP " ++ toString result.status ++ ")" else message
  | _ => "request failed (HTTP " ++ toString result.status ++ ")"

def api (f : Fetch) : Admin Json := do
  let result ← fetchJSON f
  if result.ok then return result.body else .raise (failureText result)

/-! ## Activities -/

/-- `identities = body.identities; renderRows()` -/
def showIdentities (body : Json) : Admin Unit :=
  match identitiesOf body with
  | some identities => perform (.setIdentities identities)
  | none => .raise "identities.filter is not a function"

def loadIdentities : Admin Unit :=
  catching
    (do
      let body ← api listRequest
      showIdentities body)
    fun e => perform (.showBanner ("Could not load identities: " ++ e) "error")

def renameIdentity (identity : Shown) : Admin Unit := do
  let label ← perform (.prompt ("New label for " ++ identity.username ++ "'s identity:")
    (identity.label.getD ""))
  match label with
  | none => return ()
  | some label =>
    if trim label = "" then perform (.showBanner "Label cannot be empty" "error")
    else
      catching
        (do
          let _ ← api (renameRequest identity label)
          perform (.showBanner ("Renamed " ++ identity.username ++ "'s identity") "success")
          loadIdentities)
        fun e => perform (.showBanner ("Could not rename identity: " ++ e) "error")

def revokeIdentity (identity : Shown) : Admin Unit := do
  let confirmed ← perform (.confirm ("Revoke this identity for " ++ identity.username ++
    "? It can be re-linked later."))
  if confirmed then
    catching
      (do
        let _ ← api (revokeRequest identity)
        perform (.showBanner ("Revoked " ++ identity.username ++ "'s identity") "success")
        loadIdentities)
      fun e => perform (.showBanner ("Could not revoke identity: " ++ e) "error")

/-- The listener of the form. -/
def addIdentity : Admin Unit := do
  perform (.setAddDisabled true)
  finishing
    (catching
      (do
        let form ← perform .formData
        let _ ← api (addRequest form)
        perform (.showBanner "Identity linked" "success")
        perform .resetForm
        loadIdentities)
      fun e => perform (.showBanner ("Could not link identity: " ++ e) "error"))
    (perform (.setAddDisabled false))

/-- `init`, from the session on. -/
def enter (session : Json) : Admin Unit := do
  let authenticated ← Browser.read "authenticated" session
  if jsTruthy authenticated then
    let is_admin ← Browser.read "is_admin" session
    let username ← Browser.read "username" session
    let username := (stringOf username).getD "undefined"
    if jsTruthy is_admin then
      perform (.showApp ("Signed in as " ++ username))
      loadIdentities
    else
      perform (.showGate "Admin access required"
        ("Signed in as " ++ username ++ ", which is not in the \"admins\" group."))
  else
    perform (.showGate "Sign in required"
      "Log in to YunoHost as an administrator, then reload this page.")

def init : Admin Unit := do
  perform .openGate
  let session ← (api sessionRequest).attempt
  match session with
  | .error e => perform (.showGate "Could not check access" e)
  | .ok session => enter session

/-! ## What the user does -/

inductive Action
  | openPage
  /-- The timeout of a banner is over. -/
  | timeout (message : String)
  | search (text : String)
  | showRevoked (checked : Bool)
  | refresh
  | rename (identity : Shown)
  | revoke (identity : Shown)
  | fillForm (form : Form)
  | submit
  deriving DecidableEq, Repr

namespace Action

/-- The page when the action begins; `none` where it cannot. -/
def begins (locale : BrowserLocale) : Action → Page → Option Page
  | openPage, page => if page.opened then none else some { page with opened := true }
  | timeout message, page =>
    if message ∈ page.timeouts then
      some { page with
        timeouts := page.timeouts.erase message
        banner := if page.banner.1 = message then ("", "") else page.banner }
    else none
  | search text, page =>
    if page.appHidden then none else some ({ page with search := text }.renderRows locale)
  | showRevoked checked, page =>
    if page.appHidden then none else some ({ page with showRevoked := checked }.renderRows locale)
  | refresh, page => if page.appHidden then none else some page
  | rename identity, page | revoke identity, page => if page.offers identity then some page else none
  | fillForm form, page => if page.appHidden then none else some { page with form }
  | submit, page => if !page.appHidden && !page.addDisabled then some page else none

def program : Action → Admin Unit
  | openPage => init
  | timeout _ | search _ | showRevoked _ | fillForm _ => return ()
  | refresh => loadIdentities
  | rename identity => renameIdentity identity
  | revoke identity => revokeIdentity identity
  | submit => addIdentity

end Action

/-- Administration pages as clients of the service. -/
def adminPage (locale : BrowserLocale) :
    Client PageOp.Ans Sent Response String Page PageInput (Action ⊕ Job) Job :=
  pages .initial (Action.begins locale) Action.program (PageOp.exec locale) PageInput.around

end NostrAuth.AdminPage
