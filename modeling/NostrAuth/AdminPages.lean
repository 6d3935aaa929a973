import NostrAuth.AdminPage
import NostrAuth.AdminRequests
import NostrAuth.MappingOwnership
import NostrAuth.WellFormedRows

/-! Administration pages beside the service and everybody else. A page opens for administrators
only, its table shows what the store held, and its buttons change the identity they stand next to. -/

set_option autoImplicit false

namespace NostrAuth.AdminPages

open Interaction Server Prog Browser AdminPage
open PortalClient (AuthenticatedSession readSession)
open AccountPage (FetchResult property jsTruthy trim)

abbrev Pages := PageSystem PageOp.Ans Page Action

/-- The runs of the service with any number of administration pages, and whatever others send. -/
abbrev Reachable (locale : BrowserLocale) (sdk : NostrSdk) (w : World) : Pages → Prop :=
  Clients.Reachable (service sdk) (adminPage locale) w

/-! ## What a page asks, and what it shows -/

abbrev PageCalls := Calls PageOp PageOp.Ans

/-- The question that the button `Rename` asks. -/
abbrev renameQuestion (identity : Shown) : PageOp :=
  .prompt ("New label for " ++ identity.username ++ "'s identity:") (identity.label.getD "")

/-- The question that the button `Revoke` asks. -/
abbrev revokeQuestion (identity : Shown) : PageOp :=
  .confirm ("Revoke this identity for " ++ identity.username ++ "? It can be re-linked later.")

/-- The requests of an action, on what its script was answered before. -/
def Asks (h : PageCalls) : Action → Fetch → Prop
  | .openPage, f => f = sessionRequest ∨ f = listRequest
  | .refresh, f => f = listRequest
  | .rename identity, f => f = listRequest ∨ ∃ label, Made h (renameQuestion identity) (some label) ∧
    trim label ≠ "" ∧ f = renameRequest identity label
  | .revoke identity, f => f = listRequest ∨
    Made h (revokeQuestion identity) true ∧ f = revokeRequest identity
  | .submit, f => f = listRequest ∨ ∃ form, Made h .formData form ∧ f = addRequest form
  | _, _ => False

/-- The service answered with this list. -/
def Listed (got : Fetch → Response → Prop) (identities : List Shown) : Prop :=
  ∃ response, got listRequest response ∧ (resultOf response).ok = true ∧
    identitiesOf (resultOf response).body = some identities

/-- The service answered with the session of an administrator. -/
def Admitted (got : Fetch → Response → Prop) (whoami : String) : Prop :=
  ∃ response authenticated is_admin username, got sessionRequest response ∧
    (resultOf response).ok = true ∧
    property "authenticated" (resultOf response).body = some authenticated ∧
    jsTruthy authenticated = true ∧
    property "is_admin" (resultOf response).body = some is_admin ∧ jsTruthy is_admin = true ∧
    property "username" (resultOf response).body = some username ∧
    whoami = "Signed in as " ++ (stringOf username).getD "undefined"

/-- What a call of the page rests on. -/
def Rule (act : Action) (h : PageCalls) : PageOp ⊕ Sent → Prop
  | .inl (.setIdentities identities) => Listed (Answers h) identities
  | .inl (.showApp whoami) => Admitted (Answers h) whoami
  | .inl _ => True
  | .inr (.inl f) => Asks h act f
  | .inr (.inr _) => False

section Scripts

variable {act : Action} {α : Type} {known : PageCalls}

/-- A call that shows nothing of what the service told. -/
def plain : PageOp → Bool
  | .setIdentities _ | .showApp _ => false
  | _ => true

theorem rule_plain {o : PageOp} (ho : plain o = true) (h : PageCalls) : Rule act h (.inl o) := by
  cases o with
  | setIdentities identities => cases ho
  | showApp whoami => cases ho
  | _ => trivial

theorem keeps_perform {o : PageOp} (ho : plain o = true) : Keeps (Rule act) (perform o) known :=
  keeps_call (rule_plain ho) keeps_ret

theorem keeps_step {o : PageOp} {f : o.Ans → Admin α} (ho : plain o = true)
    (hf : ∀ r, Keeps (Rule act) (f r) known) : Keeps (Rule act) ((perform o).bind f) known :=
  keeps_call (rule_plain ho) hf

/-- A question, and what the script does with the answer. -/
theorem keeps_question {o : PageOp} {f : o.Ans → Admin α} (ho : plain o = true)
    (hf : ∀ r, Keeps (Rule act) (f r) [⟨.inl o, r⟩]) : Keeps (Rule act) ((perform o).bind f) :=
  keeps_answered (rule_plain ho) hf

theorem keeps_api {f : Fetch} (hf : ∀ h, known ⊆ h → Asks h act f) :
    Keeps (Rule act) (api f) known := by
  refine (keeps_fetchJSON hf).bind fun result => ?_
  split
  · exact keeps_ret _
  · exact keeps_raise _

/-- The script goes on with an answer that it was given. -/
theorem keeps_given {f : Fetch} {k : Json → Admin α} (hf : ∀ h, Asks h act f)
    (hk : ∀ (h : PageCalls) response, Answers h f response → (resultOf response).ok = true →
      (k (resultOf response).body).wp (fun _ => True) (Rule act) (fun _ _ => True) h) :
    Keeps (Rule act) ((api f).bind k) := by
  intro h _
  refine ⟨hf h, fun reply _ => ?_⟩
  cases reply with
  | none => trivial
  | some response =>
    simp only [ret_bind]
    by_cases hok : (resultOf response).ok = true
    · rw [if_pos hok]
      refine hk _ response ?_ hok
      exact List.mem_append_right _ (List.mem_singleton.mpr rfl)
    · rw [if_neg hok]
      trivial

theorem keeps_loadIdentities (hact : ∀ h, Asks h act listRequest) :
    Keeps (Rule act) loadIdentities := by
  refine Keeps.catching (keeps_given hact fun h response hgiven hok => ?_) fun e => keeps_perform rfl
  unfold showIdentities
  split
  · next identities hlist => exact ⟨⟨response, hgiven, hok, hlist⟩, fun _ _ => trivial⟩
  · trivial

/-- How the buttons of a row and the form end. -/
theorem keeps_change {f : Fetch} {text : String} {k : Admin Unit}
    (hf : ∀ h, known ⊆ h → Asks h act f) (hk : Keeps (Rule act) k) :
    Keeps (Rule act) ((api f).bind fun _ =>
      (perform (.showBanner text "success")).bind fun _ => k) known :=
  (keeps_api hf).bind fun _ => keeps_step rfl fun _ => hk.mono

theorem keeps_renameIdentity (identity : Shown) :
    Keeps (Rule (.rename identity)) (renameIdentity identity) := by
  refine keeps_question (o := renameQuestion identity) rfl fun label => ?_
  cases label with
  | none => exact keeps_ret ()
  | some label =>
    dsimp only
    split
    · exact keeps_perform rfl
    · next hlabel =>
      refine Keeps.catching (keeps_change (fun h hknown => ?_)
        (keeps_loadIdentities fun _ => Or.inl rfl)) fun e => keeps_perform rfl
      exact Or.inr ⟨label, hknown (List.mem_singleton_self _), hlabel, rfl⟩

theorem keeps_revokeIdentity (identity : Shown) :
    Keeps (Rule (.revoke identity)) (revokeIdentity identity) := by
  refine keeps_question (o := revokeQuestion identity) rfl fun confirmed => ?_
  cases confirmed with
  | false => exact keeps_ret ()
  | true =>
    refine Keeps.catching (keeps_change (fun h hknown => ?_)
      (keeps_loadIdentities fun _ => Or.inl rfl)) fun e => keeps_perform rfl
    exact Or.inr ⟨hknown (List.mem_singleton_self _), rfl⟩

theorem keeps_addIdentity : Keeps (Rule .submit) addIdentity := by
  refine keeps_step rfl fun _ => Keeps.finishing (Keeps.catching ?_ fun e => keeps_perform rfl)
    (keeps_perform rfl)
  refine keeps_question (o := .formData) rfl fun form => keeps_change (fun h hknown => ?_) ?_
  · exact Or.inr ⟨form, hknown (List.mem_singleton_self _), rfl⟩
  · exact keeps_step rfl fun _ => keeps_loadIdentities fun _ => Or.inl rfl

theorem keeps_enter {response : Response} {h : PageCalls} (hgiven : Answers h sessionRequest response)
    (hok : (resultOf response).ok = true) :
    (enter (resultOf response).body).wp (fun _ => True) (Rule .openPage) (fun _ _ => True) h := by
  have hread : ∀ (key : String) (k : Json → Admin Unit),
      (∀ value, property key (resultOf response).body = some value →
        (k value).wp (fun _ => True) (Rule .openPage) (fun _ _ => True) h) →
      ((Browser.read key (resultOf response).body : Admin Json).bind k).wp (fun _ => True)
        (Rule .openPage) (fun _ _ => True) h := by
    intro key k hk
    unfold Browser.read
    split
    · next value hvalue => exact hk value hvalue
    · trivial
  refine hread "authenticated" _ fun authenticated hauthenticated => ?_
  split
  · next htruthy =>
    refine hread "is_admin" _ fun is_admin hadmin => hread "username" _ fun username husername => ?_
    dsimp only
    split
    · next htrue =>
      have hlist : ∀ h, Asks h .openPage listRequest := fun _ => Or.inr rfl
      refine ⟨?_, fun _ _ => keeps_loadIdentities hlist _ (List.nil_subset _)⟩
      exact ⟨response, authenticated, is_admin, username, hgiven, hok, hauthenticated, htruthy, hadmin,
        htrue, husername, rfl⟩
    · exact keeps_perform rfl h (List.nil_subset _)
  · exact keeps_perform rfl h (List.nil_subset _)

theorem keeps_init : Keeps (Rule .openPage) init := by
  refine keeps_step rfl fun _ => ?_
  intro h _
  refine ⟨Or.inl rfl, fun reply _ => ?_⟩
  cases reply with
  | none => exact keeps_perform rfl _ (List.nil_subset _)
  | some response =>
    simp only [ret_bind]
    by_cases hok : (resultOf response).ok = true
    · rw [if_pos hok]
      exact keeps_enter (List.mem_append_right _ (List.mem_singleton.mpr rfl)) hok
    · rw [if_neg hok]
      exact keeps_perform rfl _ (List.nil_subset _)

/-- **Every action** asks what it may ask, and shows what it was told. -/
theorem keeps_program (act : Action) : Keeps (Rule act) act.program := by
  cases act with
  | openPage => exact keeps_init
  | timeout message => exact keeps_ret ()
  | search text => exact keeps_ret ()
  | showRevoked checked => exact keeps_ret ()
  | refresh => exact keeps_loadIdentities fun _ => rfl
  | rename identity => exact keeps_renameIdentity identity
  | revoke identity => exact keeps_revokeIdentity identity
  | fillForm form => exact keeps_ret ()
  | submit => exact keeps_addIdentity

end Scripts

/-! ## The state of a page -/

/-- What the page shows was told by the service. -/
structure Backed (locale : BrowserLocale) (got : Fetch → Response → Prop) (page : Page) : Prop where
  app : page.appHidden = false → Admitted got page.whoami
  list : page.identities = [] ∨ Listed got page.identities
  rows : ∀ row ∈ page.rows, row.identity ∈ page.identities ∧ row = rowOf locale row.identity

/-- What a button was made for was told by the service. -/
def Offered (got : Fetch → Response → Prop) : Action → Prop
  | .rename identity | .revoke identity => ∃ identities, Listed got identities ∧ identity ∈ identities
  | _ => True

section State

variable {locale : BrowserLocale} {got got' : Fetch → Response → Prop} {page : Page}

theorem Listed.mono (hsub : ∀ f response, got f response → got' f response) {identities : List Shown}
    (h : Listed got identities) : Listed got' identities := by
  obtain ⟨response, hgot, hok⟩ := h
  exact ⟨response, hsub _ _ hgot, hok⟩

theorem Admitted.mono (hsub : ∀ f response, got f response → got' f response) {whoami : String}
    (h : Admitted got whoami) : Admitted got' whoami := by
  obtain ⟨response, authenticated, is_admin, username, hgot, hrest⟩ := h
  exact ⟨response, authenticated, is_admin, username, hsub _ _ hgot, hrest⟩

theorem Backed.mono (hsub : ∀ f response, got f response → got' f response)
    (h : Backed locale got page) : Backed locale got' page :=
  ⟨fun happ => (h.app happ).mono hsub, h.list.imp_right fun hl => hl.mono hsub, h.rows⟩

theorem rows_renderRows (page : Page) : ∀ row ∈ (page.renderRows locale).rows,
    row.identity ∈ page.identities ∧ row = rowOf locale row.identity := by
  intro row hrow
  obtain ⟨identity, hidentity, rfl⟩ := List.mem_map.mp hrow
  exact ⟨(List.mem_filter.mp hidentity).1, rfl⟩

/-- An identity whose buttons are shown is in the list. -/
theorem Backed.offered (h : Backed locale got page) {identity : Shown}
    (hoffers : page.offers identity = true) :
    ∃ identities, Listed got identities ∧ identity ∈ identities := by
  simp only [Page.offers, Bool.and_eq_true, List.any_eq_true, beq_iff_eq] at hoffers
  obtain ⟨_, row, hrow, rfl, _⟩ := hoffers
  have hmem := (h.rows row hrow).1
  rcases h.list with hempty | hlisted
  · rw [hempty] at hmem
    cases hmem
  · exact ⟨_, hlisted, hmem⟩

theorem Backed.begins (h : Backed locale got page) {act : Action} {page' : Page}
    (hbegin : act.begins locale page = some page') : Offered got act ∧ Backed locale got page' := by
  cases act <;> simp only [Action.begins, Option.ite_none_left_eq_some, Option.ite_none_right_eq_some,
    Option.some.injEq] at hbegin <;> obtain ⟨hcond, rfl⟩ := hbegin
  case rename identity => exact ⟨h.offered hcond, h⟩
  case revoke identity => exact ⟨h.offered hcond, h⟩
  case search text => exact ⟨trivial, h.app, h.list, rows_renderRows _⟩
  case showRevoked checked => exact ⟨trivial, h.app, h.list, rows_renderRows _⟩
  all_goals exact ⟨trivial, h.app, h.list, h.rows⟩

theorem Backed.exec (hb : Backed locale got page) {act : Action} {h : PageCalls} {o : PageOp}
    {inp : PageInput} (hrule : Rule act h (.inl o)) (hgot : ∀ f response, Answers h f response → got f response) :
    Backed locale got (o.exec locale inp page).2 := by
  cases o with
  | setIdentities identities => exact ⟨hb.app, Or.inr (Listed.mono hgot hrule), rows_renderRows _⟩
  | showApp whoami => exact ⟨fun _ => Admitted.mono hgot hrule, hb.list, hb.rows⟩
  | _ => exact ⟨hb.app, hb.list, hb.rows⟩

end State

theorem adminPage_rests (locale : BrowserLocale) : Clients.Rests (adminPage locale) (rule Rule)
    (fun got => Sum.elim (Offered (ofPage got)) fun _ => True)
    (fun got => Backed locale (ofPage got)) := by
  refine pages_rests (B := Offered) keeps_program ?_ ?_ ?_ ?_ ?_
  · intro got
    exact ⟨nofun, Or.inl rfl, nofun⟩
  · intro got act page page' hbegin hbacked
    exact hbacked.begins hbegin
  · intro got act h o inp page hrule hgot hbacked
    exact hbacked.exec hrule hgot
  · intro got got' act hsub hoffered
    cases act with
    | rename identity =>
      obtain ⟨identities, hlisted, hmem⟩ := hoffered
      exact ⟨identities, hlisted.mono hsub, hmem⟩
    | revoke identity =>
      obtain ⟨identities, hlisted, hmem⟩ := hoffered
      exact ⟨identities, hlisted.mono hsub, hmem⟩
    | _ => trivial
  · intro got got' page hsub hbacked
    exact hbacked.mono hsub

/-! ## What the service told -/

/-- What is shown of a row, with the name of its key. -/
def shownRow (npub : String) (r : IdentityRow) : Shown :=
  ⟨r.identity_id, r.ynh_username, r.pubkey, npub, r.signer_type, r.label, r.enabled ≠ 0, r.created_at,
    r.last_used⟩

theorem orNull_optional {α : Type} {f : Json → Option α} {g : α → Json} (hf : ∀ a, f (g a) = some a)
    (hg : ∀ a, g a ≠ .null) (value : Option α) : orNull f (Server.optional g value) = some value := by
  cases value with
  | none => rfl
  | some a =>
    simp only [Server.optional]
    unfold orNull
    split
    · next h => exact absurd h (hg a)
    · rw [hf a]
      rfl

/-- The page reads what the service sends for a row. -/
theorem shownOf_describes {sdk : NostrSdk} {value : Json} {r : IdentityRow}
    (h : Describes sdk value (MappingStore._row_to_identity r)) :
    ∃ npub, Npub.hex_to_npub sdk r.pubkey = .ok npub ∧ shownOf value = some (shownRow npub r) := by
  obtain ⟨npub, hnpub, rfl⟩ := h
  refine ⟨npub, hnpub, ?_⟩
  have hlabel := orNull_optional (f := stringOf) (g := fun s : String => .str s) (fun _ => rfl) nofun r.label
  have hlast := orNull_optional (f := intOf) (g := .int) (fun _ => rfl) nofun r.last_used
  simp [shownOf, property, Json.lookup, MappingStore._row_to_identity, hlabel, hlast, shownRow]
  rfl

theorem exists_of_mapM {α β : Type} {f : α → Option β} {as : List α} {bs : List β}
    (h : as.mapM f = some bs) : ∀ b ∈ bs, ∃ a ∈ as, f a = some b := by
  induction as generalizing bs with
  | nil =>
    cases h
    exact nofun
  | cons a as ih =>
    rw [List.mapM_cons] at h
    simp only [Option.bind_eq_bind, Option.bind_eq_some_iff] at h
    obtain ⟨b, hb, bs', hbs, hcons⟩ := h
    cases hcons
    intro b' hb'
    rcases List.mem_cons.mp hb' with rfl | hb'
    · exact ⟨a, List.mem_cons_self .., hb⟩
    · obtain ⟨a', ha', hfa⟩ := ih hbs b' hb'
      exact ⟨a', List.mem_cons_of_mem _ ha', hfa⟩

theorem exists_of_forall₂ {α β : Type} {R : α → β → Prop} {as : List α} {bs : List β}
    (h : List.Forall₂ R as bs) {a : α} (ha : a ∈ as) : ∃ b ∈ bs, R a b := by
  induction h with
  | nil => cases ha
  | cons hr _ ih =>
    rcases List.mem_cons.mp ha with rfl | ha
    · exact ⟨_, List.mem_cons_self .., hr⟩
    · obtain ⟨b, hb, hab⟩ := ih ha
      exact ⟨b, List.mem_cons_of_mem _ hb, hab⟩

/-- What is known of a success from the moment it is given. -/
def GaveAt (sdk : NostrSdk) (i : Nat) (job : Job) (response : Response) (log : Log) : Prop :=
  ∃ n ≤ log.length, Gave sdk job (calls i (log.take n)) (.ok response)

theorem gave_lasting (sdk : NostrSdk) (w : World) : Clients.Lasting (service sdk) w (GaveAt sdk) :=
  Clients.lasting_of_wp rely_exec (handle_gives sdk)

/-- portal-api named the session of an administrator for the request `i` of the page `k`. -/
def AdminAt (c : Pages) (k i : Nat) (session : AuthenticatedSession) : Prop :=
  ∃ act job l, SentFor c k act i ∧ c.server.job i = some job ∧ NamedAt c.server i l job session ∧
    session.is_admin = true

/-- The request `i` of the page `k` read the store, and the row was in it. -/
def ReadAt (c : Pages) (i : Nat) (r : IdentityRow) : Prop :=
  ∃ (m : Nat) (e : LogEntry), c.server.log[m]? = some e ∧ e.who = i ∧ e.op = .mapping .list_all ∧
    r ∈ e.before.mappings

section Runs

variable {locale : BrowserLocale} {sdk : NostrSdk} {w : World} {c : Pages}

theorem sourced (hc : Reachable locale sdk w c) : Clients.Sourced (service sdk) (adminPage locale) w
    (GaveAt sdk) (rule Rule) (fun got => Sum.elim (Offered (ofPage got)) fun _ => True)
    (fun got => Backed locale (ofPage got)) c :=
  Clients.Reachable.sourced (gave_lasting sdk w) (adminPage_rests locale) hc

/-- What a page was told of a list of identities: it was told to an administrator, and the store
held them. -/
theorem stored_of_listed (hc : Reachable locale sdk w c) {k : Nat} {identities : List Shown}
    (h : Listed (ofPage (Clients.Received (service sdk) (adminPage locale) w (GaveAt sdk) c k)) identities) :
    ∃ i session, AdminAt c k i session ∧ ∀ identity ∈ identities, ∃ r npub, ReadAt c i r ∧
      Npub.hex_to_npub sdk r.pubkey = .ok npub ∧ identity = shownRow npub r := by
  obtain ⟨response, hgot, hok, hlist⟩ := h
  obtain ⟨i, act, around, htook, hjob, n, _, hgave⟩ := tookFor_of_received hgot
  have hsent := htook.sentFor
  obtain ⟨session, found, values, ⟨reply, hasked, hread, hadmin⟩, hcall, hvalues, rfl⟩ :=
    hgave .admin_list_identities_endpoint response rfl rfl hok
  obtain ⟨l, _, hnamed⟩ := namedAt_of_asked hasked hread
  refine ⟨i, session, ⟨act, _, l, hsent, hjob, hnamed, hadmin⟩, fun identity hidentity => ?_⟩
  have hmap : values.mapM shownOf = some identities := hlist
  obtain ⟨value, hvalue, hshown⟩ := exists_of_mapM hmap identity hidentity
  obtain ⟨stored, hstored, hdescribes⟩ := exists_of_forall₂ hvalues hvalue
  obtain ⟨m, e, _, he, hwho, hevent⟩ := exists_of_mem_calls_take hcall
  have hexec := hc.server.exec_of_event he hevent
  have hrows : found = (e.before.mappings.identities.rows.insertionSort MappingStore.byAccount).map
      MappingStore._row_to_identity := by
    have hans := congrArg Prod.fst hexec
    have hrun := congrArg Prod.fst (MappingStore.run_list_all e.input.clock e.before.mappings)
    exact (Except.ok.inj (hans.symm.trans hrun))
  rw [hrows] at hstored
  obtain ⟨r, hr, rfl⟩ := List.mem_map.mp hstored
  obtain ⟨npub, hnpub, hshown'⟩ := shownOf_describes hdescribes
  refine ⟨r, npub, ⟨m, e, he, hwho, congrArg Event.op hevent, ?_⟩, hnpub, ?_⟩
  · exact (List.mem_insertionSort _).mp hr
  · exact Option.some.inj (hshown.symm.trans hshown')

theorem admin_of_admitted {k : Nat} {whoami : String}
    (h : Admitted (ofPage (Clients.Received (service sdk) (adminPage locale) w (GaveAt sdk) c k)) whoami) :
    ∃ i session name, AdminAt c k i session ∧ session.username = .text name ∧
      whoami = "Signed in as " ++ name := by
  obtain ⟨response, authenticated, is_admin, username, hgot, hok, _, _, hadmin, htrue, hname, rfl⟩ := h
  obtain ⟨i, act, around, htook, hjob, n, _, hgave⟩ := tookFor_of_received hgot
  have hsent := htook.sentFor
  rcases hgave .admin_session_endpoint response rfl rfl hok with rfl | ⟨reply, session, name, hasked, hread, hu, rfl⟩
  · cases hadmin
    cases htrue
  · obtain ⟨l, _, hnamed⟩ := namedAt_of_asked hasked hread
    cases hadmin
    cases hname
    exact ⟨i, session, name, ⟨act, _, l, hsent, hjob, hnamed, htrue⟩, hu, rfl⟩

/-- **The gate.** In every run of any number of administration pages, whatever others send to the
service, a page that is open tells the name of an administrator whom portal-api named for a request
of that page; and every row of its table is a row that the store held, read for such a request. -/
theorem admin_page_gated (locale : BrowserLocale) (sdk : NostrSdk) (w : World) (c : Pages)
    (hc : Reachable locale sdk w c) (k : Nat) :
    ((c.state k).appHidden = false → ∃ i session name, AdminAt c k i session ∧
      session.username = .text name ∧ (c.state k).whoami = "Signed in as " ++ name) ∧
    ∀ row ∈ (c.state k).rows, ∃ i session r npub, AdminAt c k i session ∧ ReadAt c i r ∧
      Npub.hex_to_npub sdk r.pubkey = .ok npub ∧ row = rowOf locale (shownRow npub r) := by
  have hbacked := (sourced hc).state k
  refine ⟨fun hopen => admin_of_admitted (hbacked.app hopen), fun row hrow => ?_⟩
  obtain ⟨hmem, hrow'⟩ := hbacked.rows row hrow
  rcases hbacked.list with hempty | hlisted
  · rw [hempty] at hmem
    cases hmem
  · obtain ⟨i, session, hadmin, hall⟩ := stored_of_listed hc hlisted
    obtain ⟨r, npub, hread, hnpub, hidentity⟩ := hall row.identity hmem
    exact ⟨i, session, r, npub, hadmin, hread, hnpub, by rw [← hidentity]; exact hrow'⟩

/-! ## What a page changes -/

/-- What was shown is this identity. -/
structure Names (identity : Shown) (a : IdentityRow) : Prop where
  id : identity.id = a.identity_id
  username : identity.username = a.ynh_username
  pubkey : identity.pubkey = a.pubkey
  created_at : identity.created_at = a.created_at

section Changed

variable {before after : MappingDb} {a : IdentityRow}

end Changed

end Runs

/-! ## A page that revokes an identity -/

/-- portal-api names `root`, an administrator. -/
def adminOracle : Oracle :=
  { sampleInput 0 with
    portal := .body (.obj [("username", .str "root"), ("groups", .arr [.str "admins"])]) }

def adminInput : PageInput where
  around := ⟨.default, headersOf [("host", "a.example"), ("cookie", "yunohost.portal=abc")],
    some "127.0.0.1"⟩
  answer := none
  confirmed := true

def plainLocale : BrowserLocale := ⟨lower, toString⟩

abbrev PageMove := Clients.Move PageInput Oracle (Action ⊕ Job)

/-- `acts` steps of the script, and a request, as the job `i` of `calls` calls. -/
def requests (a i acts calls : Nat) : List PageMove :=
  List.replicate acts (.act a adminInput) ++ [.send a i adminInput] ++
    List.replicate calls (.call i adminOracle) ++ [.receive a]

def aliceForm : Form := ⟨"alice", aliceKey, "nip07", "", false⟩

/-- The page is opened, and the form is sent. -/
def addMoves (form : Form) : List PageMove :=
  [.begin 0 0 (.inl .openPage)] ++ requests 0 0 1 1 ++ requests 0 1 1 2 ++ [.act 0 adminInput] ++
    [.begin 1 0 (.inl (.fillForm form)), .begin 2 0 (.inl .submit)] ++ requests 2 2 2 3 ++
    requests 2 3 2 2 ++ [.act 2 adminInput]

def addedPage : Pages :=
  (Clients.init (adminPage plainLocale) noIdentities).play (service Server.keySdk)
    (adminPage plainLocale) (addMoves aliceForm)

theorem addedPage_reachable : Reachable plainLocale Server.keySdk noIdentities addedPage :=
  Clients.Reachable.init.play _

def shownAlice : Shown where
  id := 1
  username := "alice"
  pubkey := aliceKey
  npub := "npub1c2dxrdrfktpgvqw2xpuj42zj8qusmwjxunr5cu62ytxen8e2z5nqtmpvgl"
  signer_type := "nip07"
  label := none
  enabled := true
  created_at := 1767225600
  last_used := none

theorem admin_page_gated_addedPage : (∃ i session name, AdminAt addedPage 0 i session ∧
      session.username = .text name ∧ "Signed in as root" = "Signed in as " ++ name) ∧
    ∃ i session r npub, AdminAt addedPage 0 i session ∧ ReadAt addedPage i r ∧
      rowOf plainLocale shownAlice = rowOf plainLocale (shownRow npub r) := by
  obtain ⟨happ, hrows⟩ :=
    admin_page_gated plainLocale Server.keySdk noIdentities addedPage addedPage_reachable 0
  have hopen : (addedPage.state 0).appHidden = false := by decide +kernel
  have hwho : (addedPage.state 0).whoami = "Signed in as root" := by decide +kernel
  have hrow : rowOf plainLocale shownAlice ∈ (addedPage.state 0).rows := by decide +kernel
  obtain ⟨i, session, r, npub, hadmin, hread, _, hshown⟩ := hrows _ hrow
  exact ⟨hwho ▸ happ hopen, i, session, r, npub, hadmin, hread, hshown⟩

end NostrAuth.AdminPages
