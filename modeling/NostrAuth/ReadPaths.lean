import NostrAuth.HelperProtocols
import NostrAuth.LoginServed
import NostrAuth.Migration

/-! Everything that reads the identities agrees on who is linked: login, the two lookup
servers, the lists of an account, `/identity` and NIP-05. -/

set_option autoImplicit false

namespace NostrAuth.ReadPaths

open Interaction Sockets MappingDb MappingStore MappingOwnership

/-! ## Who is linked -/

/-- The pubkey is an enabled identity of the account. -/
def Linked (db : MappingDb) (pubkey u : String) : Prop :=
  ∃ r ∈ db, r.pubkey = pubkey ∧ r.ynh_username = u ∧ r.enabled = 1

/-- The flags of all rows, and of the legacy rows still to be imported, are 0 or 1. -/
structure Binary (db : MappingDb) : Prop where
  rows : ∀ r ∈ db, r.enabled = 0 ∨ r.enabled = 1
  users : ∀ user ∈ db.users.getD [], user.enabled = 0 ∨ user.enabled = 1

theorem Binary.effect {c : MappingCall} {before after : MappingDb} (h : c.Effect before after)
    (hb : Binary before) : Binary after := by
  constructor
  · intro r hr
    rcases h.source hr with ⟨a, ha, hbecomes⟩ | ⟨u, p, metadata, t, _, rfl⟩
    · rcases hbecomes.enabled with hsame | hoff
      · rw [hsame]
        exact hb.rows a ha
      · exact Or.inl hoff
    · exact Or.inr rfl
  · rw [h.migration.2]
    exact hb.users

theorem Binary.copyUsers {db : MappingDb} (hb : Binary db) {after : MappingDb}
    (husers : after.users = db.users)
    (hrows : after.identities = copyUsers (db.users.getD []) db.identities) : Binary after := by
  refine ⟨fun r hr => ?_, husers ▸ hb.users⟩
  rw [MappingDb.mem_def, hrows] at hr
  rcases mem_copyUsers hr with hold | ⟨_, user, huser, n, rfl⟩
  · exact hb.rows r hold
  · exact hb.users user huser

theorem Binary.perform (s : StoreStep) (t : Nat → Int) {db : MappingDb} (hb : Binary db) :
    Binary (perform s t db).2 := by
  cases s with
  | call c =>
    rcases c.alone_effect t db with ⟨_, _, heffect⟩ | hsame
    · exact hb.effect heffect
    · show Binary (c.alone t db).2
      rw [hsame]
      exact hb
  | reopen =>
    simp only [MappingOwnership.perform, run_init]
    split
    · exact hb
    · exact hb.copyUsers rfl rfl

theorem Binary.after {steps : List (StoreStep × (Nat → Int))} {db : MappingDb} (hb : Binary db) :
    Binary (after steps db) := by
  induction steps generalizing db with
  | nil => exact hb
  | cons s rest ih => exact ih (hb.perform s.1 s.2)

/-- What any process commits keeps the flags, whatever the others do meanwhile. -/
theorem program_ok (s : StoreStep) : (Migration.program s).Ok (fun _ _ => Binary)
    (fun _ before after => Binary before → Binary after) (fun _ _ => True) [] none := by
  cases s with
  | call c =>
    have hc : MappingConcurrency.Meets False c := MappingConcurrency.program_ok c
    exact hc.mono (fun _ _ _ _ h => h.elim) (fun _ _ _ h hb => hb.effect h.2) fun _ _ _ => trivial
  | reopen =>
    have hinit : (Migration.program .reopen).Ok _
        (fun _ before after => Migration.Opens (fun _ => True) True before after)
        (fun trail _ => trail = [] → True) [] none := Migration.init_ok
    refine hinit.mono (fun _ _ _ _ => ⟨fun _ _ => trivial, fun _ => trivial, fun _ => trivial⟩) ?_
      fun _ _ _ => trivial
    rintro _ before after ⟨husers, _, ⟨hsame, _⟩ | ⟨_, hcopied⟩⟩ hb
    · refine ⟨fun r hr => hb.rows r ?_, husers ▸ hb.users⟩
      rw [MappingDb.mem_def, hsame] at hr
      exact hr
    · exact hb.copyUsers husers hcopied

theorem Binary.run {start : MappingDb} {d : Migration.StoreDb} (hb : Binary start)
    (hd : Transaction.Reachable Migration.program Transaction.Anytime start d) :
    Binary d.committed :=
  (hd.verified (Transaction.Sound.anytime program_ok fun _ _ _ _ hI hG => hG hI) hb).inv

/-! ## The orders of the queries -/

instance : Std.Total newer := ⟨fun a b => by simp only [newer]; omega⟩

instance : IsTrans IdentityRow newer := ⟨fun a b c hab hbc => by simp only [newer] at *; omega⟩

instance : Std.Total activeFirst := ⟨fun a b => by simp only [activeFirst, newer]; omega⟩

instance : IsTrans IdentityRow activeFirst :=
  ⟨fun a b c hab hbc => by simp only [activeFirst, newer] at *; omega⟩

/-- Two rows that come before each other have one id, so they are one row. -/
theorem newer_antisymm {db : MappingDb} {a b : IdentityRow} (ha : a ∈ db) (hb : b ∈ db)
    (hab : newer a b) (hba : newer b a) : b = a := by
  have hid : b.identity_id = a.identity_id := by
    simp only [newer] at *
    omega
  exact Serial.eq_of_id hb ha hid

/-! ## The readers of the store -/

section Readers

variable (db : MappingDb) (t : Nat → Int)

def byPubkey (pubkey : String) : Except Exn (Option Identity) := ((get_by_pubkey pubkey).run t db none).1

def byUsername (u : String) : Except Exn (Option Identity) := ((get_by_username u).run t db none).1

def listed (u : String) (include_disabled : Bool) : Except Exn (List Identity) :=
  ((list_by_username u include_disabled).run t db none).1

variable {db}

theorem byPubkey_linked {pubkey u : String} :
    (∃ identity, byPubkey db t pubkey = .ok (some identity) ∧ identity.ynh_username = u) ↔
      Linked db pubkey u := by
  rw [byPubkey, run_get_by_pubkey]
  constructor
  · rintro ⟨identity, h, rfl⟩
    obtain ⟨r, hfind, rfl⟩ := Option.map_eq_some_iff.mp (Except.ok.inj h)
    obtain ⟨hr, hp, hon⟩ := find_pubkey_eq_some.mp hfind
    exact ⟨r, hr, hp, rfl, hon⟩
  · rintro ⟨r, hr, hp, rfl, hon⟩
    have hfind := find_pubkey_eq_some.mpr ⟨hr, hp, hon⟩
    exact ⟨_, by rw [hfind]; rfl, rfl⟩

theorem byPubkey_unlinked {pubkey : String} (h : ¬∃ u, Linked db pubkey u) :
    byPubkey db t pubkey = .ok none := by
  cases hfound : byPubkey db t pubkey with
  | error e =>
    rw [byPubkey, run_get_by_pubkey] at hfound
    cases hfound
  | ok found =>
    cases found with
    | none => rfl
    | some identity => exact absurd ⟨_, (byPubkey_linked t).mp ⟨identity, hfound, rfl⟩⟩ h

/-- The rows behind a list, in some order. -/
theorem mem_listed (u : String) (all : Bool) : ∃ ids, listed db t u all = .ok ids ∧
    ∀ identity, identity ∈ ids ↔
      ∃ r ∈ db, _row_to_identity r = identity ∧ r.ynh_username = u ∧ (all = true ∨ r.enabled = 1) := by
  refine ⟨_, by rw [listed, run_list_by_username], fun identity => ?_⟩
  simp only [List.mem_map, List.mem_insertionSort, List.mem_filter, owned, Bool.and_eq_true,
    Bool.or_eq_true, beq_iff_eq]
  constructor
  · rintro ⟨r, ⟨hr, hu, hall⟩, rfl⟩
    exact ⟨r, hr, rfl, hu, hall⟩
  · rintro ⟨r, hr, rfl, hu, hall⟩
    exact ⟨r, ⟨hr, hu, hall⟩, rfl⟩

theorem active_linked {pubkey u : String} :
    (∃ ids, listed db t u false = .ok ids ∧ ∃ identity ∈ ids, identity.pubkey = pubkey) ↔
      Linked db pubkey u := by
  obtain ⟨ids, hids, hmem⟩ := mem_listed t u false
  rw [hids]
  constructor
  · rintro ⟨_, ⟨⟩, identity, hidentity, rfl⟩
    obtain ⟨r, hr, rfl, hu, hon⟩ := (hmem identity).mp hidentity
    exact ⟨r, hr, rfl, hu, hon.resolve_left nofun⟩
  · rintro ⟨r, hr, rfl, hu, hon⟩
    exact ⟨ids, rfl, _, (hmem _).mpr ⟨r, hr, rfl, hu, Or.inr hon⟩, rfl⟩

theorem full_linked (hb : Binary db) {pubkey u : String} :
    (∃ ids, listed db t u true = .ok ids ∧
      ∃ identity ∈ ids, identity.pubkey = pubkey ∧ identity.enabled = true) ↔ Linked db pubkey u := by
  obtain ⟨ids, hids, hmem⟩ := mem_listed t u true
  rw [hids]
  constructor
  · rintro ⟨_, ⟨⟩, identity, hidentity, rfl, hon⟩
    obtain ⟨r, hr, rfl, hu, _⟩ := (hmem identity).mp hidentity
    have hne : r.enabled ≠ 0 := by simpa [_row_to_identity] using hon
    exact ⟨r, hr, rfl, hu, (hb.rows r hr).resolve_left hne⟩
  · rintro ⟨r, hr, rfl, hu, hon⟩
    exact ⟨ids, rfl, _, (hmem _).mpr ⟨r, hr, rfl, hu, Or.inl rfl⟩, rfl, by
      simp [_row_to_identity, hon]⟩

/-- **Head of the list.** `get_by_username` finds the head of the active list, and where that
list is empty nothing that is enabled. -/
theorem byUsername_head (hb : Binary db) (u : String) : ∃ ids found,
    listed db t u false = .ok ids ∧ byUsername db t u = .ok found ∧
      (ids = [] → ∀ identity, found = some identity → identity.enabled = false) ∧
      ∀ head rest, ids = head :: rest → found = some head ∧ head.enabled = true := by
  refine ⟨_, _, by rw [listed, run_list_by_username], by rw [byUsername, run_get_by_username],
    fun hnil identity hfound => ?_, fun head rest hcons => ?_⟩
  · obtain ⟨r, hhead, rfl⟩ := Option.map_eq_some_iff.mp hfound
    obtain ⟨hr, _⟩ := OrderBy.first_of_head? activeFirst hhead
    obtain ⟨hr, hu⟩ := List.mem_filter.mp hr
    have hnone := List.length_eq_zero_iff.mpr hnil
    rw [List.length_map, List.length_insertionSort, List.length_eq_zero_iff, List.filter_eq_nil_iff]
      at hnone
    have hoff : r.enabled ≠ 1 := fun hon => hnone r hr (by simp [hu, hon])
    have hzero : r.enabled = 0 := (hb.rows r hr).resolve_right hoff
    simp [_row_to_identity, hzero]
  · obtain ⟨s, hs, rfl⟩ : ∃ s, ((db.identities.rows.filter fun r =>
        owned u r && (false || r.enabled == 1)).insertionSort newer).head? = some s ∧
          _row_to_identity s = head := by
      rw [← Option.map_eq_some_iff, ← List.head?_map, hcons]
      rfl
    obtain ⟨hmem, hfirst⟩ := OrderBy.first_of_head? newer hs
    obtain ⟨hmem, hsel⟩ := List.mem_filter.mp hmem
    obtain ⟨hu, hon⟩ : owned u s = true ∧ s.enabled = 1 := by simpa using hsel
    have hhead : ((db.identities.rows.filter (owned u)).insertionSort activeFirst).head? = some s := by
      refine OrderBy.head?_of_first activeFirst (List.mem_filter.mpr ⟨hmem, hu⟩) (fun b hb' => ?_)
        fun b hb' hsb hbs => ?_
      · obtain ⟨hb', hbu⟩ := List.mem_filter.mp hb'
        rcases hb.rows b hb' with hoff | hbon
        · left
          omega
        · exact Or.inr ⟨by omega, hfirst b (List.mem_filter.mpr ⟨hb', by simp [hbu, hbon]⟩)⟩
      · have hnewer : newer s b ∧ newer b s := by
          simp only [activeFirst, newer] at *
          omega
        exact newer_antisymm hmem (List.mem_filter.mp hb').1 hnewer.1 hnewer.2
    rw [hhead]
    exact ⟨rfl, by simp [_row_to_identity, hon]⟩

end Readers

/-! ## The relay lookup -/

section Relays

open RelayLookupServer

/-- The caches that the relay lookup server fills. -/
inductive Filled : RelayLists → Prop
  | empty : Filled Table.empty
  | store (now : Int) (pubkey : String) (relays : List Relay) (t : RelayLists) :
      Filled t → Filled (RelayCache.store now pubkey (relays.map Relay.entry) t)

/-- A call that stores only lists of a fetch. -/
def StoresFetched : RelayOp → Prop
  | .cache_store _ relays => ∃ fetched : List Relay, relays = fetched.map Relay.entry
  | _ => True

/-- The fetch answers with a parsed list. -/
def FetchParsed : Event RelayOp RelayOp.Ans → Prop
  | ⟨.fetch_relay_list _, .ok relays⟩ => ∃ fetched : List Relay, relays = fetched.map Relay.entry
  | _ => True

theorem fetchParsed_exec (texts : PythonTexts) (o : RelayOp) (inp : RelayInput) (w : RelayWorld) :
    FetchParsed ⟨o, (RelayLookupServer.exec texts o inp w).1⟩ := by
  cases o with
  | fetch_relay_list pubkey =>
    simp only [RelayLookupServer.exec]
    cases inp.fetched with
    | ok fetched => exact ⟨fetched, rfl⟩
    | error e => trivial
  | _ => trivial

theorem cacheGet_within (pubkey : String) :
    (cacheGet pubkey).Within FetchParsed StoresFetched fun _ => True :=
  ⟨trivial, fun reply _ => by cases reply <;> trivial⟩

theorem refresh_within (pubkey : String) (cached : Option CachedRelayList) :
    (refresh pubkey cached).Within FetchParsed StoresFetched fun _ => True := by
  refine ⟨trivial, fun reply hreply => ?_⟩
  cases reply with
  | error e => exact ⟨trivial, fun _ _ => trivial⟩
  | ok relays =>
    refine ⟨hreply, fun _ _ => (cacheGet_within pubkey).bind (fun found _ => ?_) fun _ _ => trivial⟩
    cases found <;> trivial

theorem resolve_within (ttl : Int) (pubkey : String) :
    (_resolve_relays ttl pubkey).Within FetchParsed StoresFetched fun _ => True := by
  refine ⟨trivial, fun reply _ => ?_⟩
  cases reply with
  | error e => trivial
  | ok identity =>
    cases identity with
    | none => trivial
    | some identity =>
      refine (cacheGet_within pubkey).bind (fun cached _ => ?_) fun _ _ => trivial
      cases cached with
      | none => exact refresh_within pubkey none
      | some entry =>
        refine ⟨trivial, fun now _ => ?_⟩
        show Prog.Within FetchParsed StoresFetched _ (if _ then _ else _)
        split
        · trivial
        · exact refresh_within pubkey (some entry)

/-- Whatever is looked up, in any order, the cache stays filled by the server. -/
theorem filled_run (texts : PythonTexts) (ttl : Int) {w : RelayWorld} (hw : Filled w.cache)
    {c : Config RelayOp RelayOp.Ans Exn Json RelayInput RelayWorld String}
    (hc : Reachable (resolvers texts ttl) w c) : Filled c.world.cache := by
  refine hc.kept (R := FetchParsed) (C := StoresFetched) (P := fun w => Filled w.cache) hw
    (fetchParsed_exec texts) (resolve_within ttl) (fun o inp w ho hfilled => ?_)
    fun inp w hfilled => hfilled
  cases o with
  | cache_store pubkey relays =>
    obtain ⟨fetched, rfl⟩ := ho
    exact .store inp.now pubkey fetched w.cache hfilled
  | _ => exact hfilled

/-- Every row of a filled cache was encoded from a list. -/
theorem Filled.rows {t : RelayLists} (h : Filled t) :
    ∀ row ∈ t, ∃ relays : List Relay, row.relays = RelayCache._encode (relays.map Relay.entry) := by
  induction h with
  | empty =>
    intro row hrow
    exact absurd hrow (Table.not_mem_empty row)
  | store now pubkey relays t _ ih =>
    intro row hrow
    unfold RelayCache.store at hrow
    split at hrow
    · next t' hins =>
      rcases (Table.mem_of_insert hins).mp hrow with hrow | rfl
      · exact ih row hrow
      · exact ⟨relays, rfl⟩
    · obtain ⟨old, hold, rfl⟩ := Table.mem_update.mp hrow
      split
      · exact ⟨relays, rfl⟩
      · exact ih old hold

/-- A filled cache can always be read. -/
theorem Filled.get (texts : PythonTexts) {t : RelayLists} (h : Filled t) (pubkey : String) :
    RelayCache.get texts pubkey t = .ok none ∨ ∃ (relays : List Relay) (fetched_at : Int),
      RelayCache.get texts pubkey t = .ok (some ⟨relays.map Relay.entry, fetched_at⟩) := by
  unfold RelayCache.get
  split
  · exact Or.inl rfl
  · next row hfind =>
    obtain ⟨relays, htext⟩ := h.rows row (Table.find_some hfind).1
    refine Or.inr ⟨relays, row.fetched_at, ?_⟩
    rw [htext, decode_encode_relays]
    rfl

/-- The payload says that the pubkey is linked. -/
def SaysLinked (payload : Json) : Prop :=
  ∃ fields, payload = .obj fields ∧ Json.lookup fields "linked" = some (.bool true)

theorem response_saysLinked (relays : List RelayEntry) (fetched_at : Int) :
    SaysLinked (_response relays fetched_at) := ⟨_, rfl, rfl⟩

theorem fallback_saysLinked (cached : Option CachedRelayList) : SaysLinked (fallback cached) := by
  cases cached with
  | none => exact ⟨_, rfl, rfl⟩
  | some cached => exact response_saysLinked cached.relays cached.fetched_at

variable (texts : PythonTexts) (ttl : Int) (i : Nat)

/-- Whether the fetch succeeds or not, the answer says that the pubkey is linked. -/
theorem refresh_linked (pubkey : String) (cached : Option CachedRelayList)
    (input : Nat → RelayInput) (w : RelayWorld) :
    ∃ payload, ((resolvers texts ttl).serve i (refresh pubkey cached) input w).2.1 = .ok payload ∧
      SaysLinked payload := by
  cases hfetched : (input 0).fetched with
  | ok relays =>
    exact ⟨_, serve_refresh texts ttl i input w pubkey cached relays hfetched,
      response_saysLinked _ _⟩
  | error e =>
    have hfetch : ((resolvers texts ttl).exec (.fetch_relay_list pubkey) (input 0) w).1 =
        .error e := by
      show (input 0).fetched.map (fun relays => relays.map Relay.entry) = _
      rw [hfetched]
      rfl
    refine ⟨fallback cached, ?_, fallback_saysLinked cached⟩
    rw [refresh, serve_call, hfetch]
    rfl

theorem resolve_linked {db : MappingDb} {cache : RelayLists} (hcache : Filled cache)
    {pubkey u : String} (h : Linked db pubkey u) (input : Nat → RelayInput) :
    ∃ payload, ((resolvers texts ttl).serve i (_resolve_relays ttl pubkey) input
      ⟨db, cache⟩).2.1 = .ok payload ∧ SaysLinked payload := by
  obtain ⟨identity, hfound, _⟩ := (byPubkey_linked fun _ => (input 0).now).mpr h
  obtain ⟨cached, hcached⟩ : ∃ cached, RelayCache.get texts pubkey cache = .ok cached := by
    rcases hcache.get texts pubkey with hnone | ⟨relays, fetched_at, hsome⟩
    · exact ⟨none, hnone⟩
    · exact ⟨_, hsome⟩
  have hget : (resolvers texts ttl).exec (.get_by_pubkey pubkey) (input 0) ⟨db, cache⟩ =
      (.ok (some identity), ⟨db, cache⟩) := Prod.ext hfound rfl
  have hcache_get : (resolvers texts ttl).exec (.cache_get pubkey) (input (0 + 1)) ⟨db, cache⟩ =
      (.ok cached, ⟨db, cache⟩) := Prod.ext hcached rfl
  simp only [_resolve_relays, cacheGet, Prog.bind_eq, Prog.call_bind, serve_call, hget,
    Prog.ofExcept_ok, Prog.ret_bind, hcache_get]
  cases cached with
  | none => exact refresh_linked texts ttl i pubkey none (fun n => input (n + 2)) ⟨db, cache⟩
  | some entry =>
    simp only [isFresh, Prog.call_bind, Prog.ret_bind, serve_call]
    split
    · exact ⟨_, rfl, response_saysLinked entry.relays entry.fetched_at⟩
    · exact refresh_linked texts ttl i pubkey (some entry) (fun n => input (n + 3)) ⟨db, cache⟩

/-- Where nobody is linked, the lookup is all that happens, whatever the cache holds. -/
theorem resolve_unlinked {db : MappingDb} {pubkey : String} (h : ¬∃ u, Linked db pubkey u)
    (cache : RelayLists) (input : Nat → RelayInput) :
    (resolvers texts ttl).serve i (_resolve_relays ttl pubkey) input ⟨db, cache⟩ =
      ([(resolvers texts ttl).entry i (.get_by_pubkey pubkey) (input 0) ⟨db, cache⟩], .ok unlinked,
        ⟨db, cache⟩) := by
  have hget : ((resolvers texts ttl).exec (.get_by_pubkey pubkey) (input 0) ⟨db, cache⟩).1 =
      .ok none := byPubkey_unlinked (fun _ => (input 0).now) h
  simp only [_resolve_relays, Prog.bind_eq, Prog.call_bind, serve_call, hget]
  rfl

/-- The answer says that the pubkey is linked just where it is. -/
theorem resolve_saysLinked {db : MappingDb} {cache : RelayLists} (hcache : Filled cache)
    (pubkey : String) (input : Nat → RelayInput) :
    (∃ payload, ((resolvers texts ttl).serve i (_resolve_relays ttl pubkey) input
      ⟨db, cache⟩).2.1 = .ok payload ∧ SaysLinked payload) ↔ ∃ u, Linked db pubkey u := by
  constructor
  · rintro ⟨payload, hanswer, fields, rfl, hfield⟩
    by_contra hno
    rw [resolve_unlinked texts ttl i hno cache input] at hanswer
    cases hanswer
    cases hfield
  · rintro ⟨u, hu⟩
    exact resolve_linked texts ttl i hcache hu input

end Relays

/-! ## The identity lookup -/

section Lookup

open IdentityLookupServer

/-- The payload for a pubkey of the account. -/
def linkedTo (u : String) : Json := .obj [("linked", .bool true), ("username", .str u)]

theorem answer_linked {db : MappingDb} (t : Nat → Int) {pubkey u : String} :
    answer (byPubkey db t pubkey) = linkedTo u ↔ Linked db pubkey u := by
  rw [← byPubkey_linked t]
  constructor
  · intro h
    cases hfound : byPubkey db t pubkey with
    | error e =>
      rw [hfound] at h
      simp [answer, linkedTo, errorPayload] at h
    | ok found =>
      rw [hfound] at h
      cases found with
      | none => simp [answer, linkedTo] at h
      | some identity => exact ⟨identity, rfl, by simpa [answer, linkedTo] using h⟩
  · rintro ⟨identity, hfound, rfl⟩
    rw [hfound]
    rfl

/-- A request of the client, however it is cut, gets the answer for its pubkey. -/
theorem handle_answer (texts : PythonTexts) (lookup : String → Except Exn (Option Identity))
    {pubkey : String} {chunks : List Bytes} (hpubkey : _PUBKEY_RE pubkey = true)
    (h : Segmented chunks (IdentityLookup.request pubkey)) :
    handle texts lookup true chunks = line .compact (answer (lookup pubkey)) := by
  simp only [handle, handleWith, if_true, pubkey_request_read texts hpubkey h]

end Lookup

/-! ## The endpoints -/

section Endpoints

open Server

variable (sdk : NostrSdk) (i : Nat) {t : Nat → Int}

/-- A request that reaches an endpoint ends as the endpoint does. -/
theorem serve_handle {job : Job} {endpoint : Endpoint}
    (hroute : endpointOf job.request = some endpoint) (inp : Nat → Oracle) (w : World) :
    ((service sdk).serve i (handle sdk job) inp w).2.1 = .ok (answer
      ((service sdk).serve i (endpoint.handler sdk job.settings job.request) inp w).2.1) := by
  simp only [Server.handle, hroute]
  generalize endpoint.handler sdk job.settings job.request = p
  induction p generalizing inp w with
  | ret a => rfl
  | raise e => rfl
  | call o k ih => exact ih _ _ _

/-- `get_by_username` as the service calls it. -/
theorem exec_by_username (u : String) (inp : Oracle) (w : World) :
    exec (.mapping (.get_by_username u)) inp w = (byUsername w.mappings inp.clock u, w) := by
  rw [byUsername, run_get_by_username]
  simp [exec, MappingCall.method, run_get_by_username]

/-- The answer reports this pubkey of a linked account. -/
def ReportsKey (pubkey : String) (response : Response) : Prop :=
  ∃ fields, response.content = .json (.obj fields) ∧
    Json.lookup fields "linked" = some (.bool true) ∧ Json.lookup fields "pubkey" = some (.str pubkey)

/-- The answer names this pubkey for the account. -/
def NamesKey (u pubkey : String) (response : Response) : Prop :=
  ∃ fields listed, response.content = .json (.obj fields) ∧
    Json.lookup fields "names" = some (.obj listed) ∧ Json.lookup listed u = some (.str pubkey)

theorem namesKey_names {u pubkey : String} {found : Option Identity} :
    NamesKey u pubkey (names (found.toList.map fun head => (u, .str head.pubkey))) ↔
      found.map (fun head => head.pubkey) = some pubkey := by
  constructor
  · rintro ⟨fields, listed, hcontent, hnames, hkey⟩
    cases hcontent
    cases hnames
    cases found with
    | none => cases hkey
    | some head =>
      have hhead : some (Json.str head.pubkey) = some (.str pubkey) := by
        simpa [Json.lookup] using hkey
      cases hhead
      rfl
  · intro h
    obtain ⟨head, rfl, rfl⟩ := Option.map_eq_some_iff.mp h
    exact ⟨_, _, rfl, rfl, by simp [Json.lookup]⟩

/-- What `/identity` reports of the identity that it found enabled. -/
def report (username : String) : Option Identity → Except Exn Response
  | none => .ok (respond [("linked", .bool false)])
  | some identity => (Npub.hex_to_npub sdk identity.pubkey).map fun npub => respond
      [("linked", .bool true), ("username", .str username), ("pubkey", .str identity.pubkey),
        ("npub", .str npub), ("created_at", .int identity.created_at),
        ("last_used", optional .int identity.last_used)]

/-- It reports the key of the identity, if that is written as an `npub`. -/
theorem report_key (username : String) {found : Option Identity}
    (hconverts : ∀ identity, found = some identity → Npub.Converts sdk identity.pubkey) :
    ∃ response, report sdk username found = .ok response ∧ response.status_code = 200 ∧
      ∀ pubkey, ReportsKey pubkey response ↔ found.map (fun head => head.pubkey) = some pubkey := by
  cases found with
  | none =>
    refine ⟨_, rfl, rfl, fun pubkey => iff_of_false ?_ nofun⟩
    rintro ⟨fields, hcontent, hlinked, _⟩
    cases hcontent
    cases hlinked
  | some identity =>
    obtain ⟨npub, hnpub⟩ := hconverts identity rfl
    refine ⟨_, by simp only [report, Npub.hex_to_npub, hnpub]; rfl, rfl, fun pubkey => ?_⟩
    constructor
    · rintro ⟨fields, hcontent, _, hkey⟩
      cases hcontent
      cases hkey
      rfl
    · intro h
      cases h
      exact ⟨_, rfl, rfl, rfl⟩

/-- The answer of the NIP-05 endpoint, from the head of the list. -/
theorem serve_nostr_json {db : MappingDb} (hb : Binary db) {job : Job} {u : String}
    (hroute : endpointOf job.request = some .nostr_json_endpoint)
    (hname : job.request.query_params "name" = some u) (hu : u ≠ "") (inp : Nat → Oracle)
    {w : World} (hw : w.mappings = db) {ids : List Identity}
    (hids : listed db t u false = .ok ids) :
    ((service sdk).serve i (handle sdk job) inp w).2.1 =
      .ok (names (ids.head?.toList.map fun head => (u, .str head.pubkey))) := by
  subst hw
  obtain ⟨ids', found, hids', hfound, hnil, hcons⟩ := byUsername_head (inp 0).clock hb u
  have hlist : listed w.mappings t u false = listed w.mappings (inp 0).clock u false := by
    simp only [listed, run_list_by_username]
  obtain rfl : ids = ids' := Except.ok.inj (hids.symm.trans (hlist.trans hids'))
  have hname' : orElse (job.request.query_params "name") "" = u := by simp [orElse, hname, hu]
  have hserve : ((service sdk).serve i (nostr_json_endpoint job.request) inp w).2.1 =
      .ok (names (ids.head?.toList.map fun head => (u, .str head.pubkey))) := by
    have hexec : (service sdk).exec = exec := rfl
    simp only [nostr_json_endpoint, hname', if_neg hu, Handler.mappings, Prog.bind_eq, Prog.call_bind,
      serve_call, hexec, exec_by_username, hfound, Prog.ofExcept_ok, Prog.ret_bind]
    cases ids with
    | nil =>
      cases found with
      | none => rfl
      | some identity =>
        simp only [hnil rfl identity rfl, Bool.false_eq_true, if_false]
        rfl
    | cons head rest =>
      obtain ⟨rfl, hon⟩ := hcons head rest rfl
      simp only [hon, if_true]
      rfl
  rw [serve_handle sdk i hroute]
  show Except.ok (answer ((service sdk).serve i (nostr_json_endpoint job.request) inp w).2.1) = _
  rw [hserve]
  rfl

/-- The answer of `/identity` for a session of `u`, from the head of the list. -/
theorem serve_identity {db : MappingDb} (hb : Binary db) {job : Job} {u : String}
    (hroute : endpointOf job.request = some .identity_endpoint)
    (hcookie : orElse (job.request.headers "cookie") "" ≠ "") {inp : Nat → Oracle}
    {session : PortalClient.AuthenticatedSession}
    (hsession : PortalClient.readSession (inp 0).portal = .ok session)
    (hu : session.username = .text u) {w : World} (hw : w.mappings = db) {ids : List Identity}
    (hids : listed db t u false = .ok ids) :
    ((service sdk).serve i (handle sdk job) inp w).2.1 = .ok (answer (report sdk u ids.head?)) := by
  subst hw
  obtain ⟨username, groups⟩ := session
  cases hu
  obtain ⟨ids', found, hids', hfound, hnil, hcons⟩ := byUsername_head (inp 1).clock hb u
  have hlist : listed w.mappings t u false = listed w.mappings (inp 1).clock u false := by
    simp only [listed, run_list_by_username]
  obtain rfl : ids = ids' := Except.ok.inj (hids.symm.trans (hlist.trans hids'))
  have hexec : (service sdk).exec = exec := rfl
  have hportal : ∀ cookie host url, exec (.me cookie host url) (inp 0) w = ((inp 0).portal, w) :=
    fun _ _ _ => rfl
  rw [serve_handle sdk i hroute]
  congr 2
  show ((service sdk).serve i (identity_endpoint sdk job.settings job.request) inp w).2.1 = _
  simp only [identity_endpoint, _authenticated_username, requireCookie, if_neg hcookie,
    PortalClient.get_authenticated_username, PortalClient.get_authenticated_session, Handler.mappings,
    Handler.encoded, Prog.bind_eq, Prog.pure_eq, Prog.call_bind, Prog.attempt_call, Prog.ret_bind, serve_call, hexec, hportal,
    hsession, Prog.ofExcept_ok, Prog.attempt_ret, exec_by_username, hfound]
  cases ids with
  | nil =>
    cases found with
    | none => rfl
    | some identity =>
      simp only [hnil rfl identity rfl, Bool.false_eq_true, if_false]
      rfl
  | cons head rest =>
    obtain ⟨rfl, hon⟩ := hcons head rest rfl
    simp only [hon, if_true, List.head?_cons, report]
    cases Npub.hex_to_npub sdk head.pubkey <;> rfl

/-- No account has a name that is no text: `/identity` reports none for it. -/
theorem serve_identity_lone {job : Job} (hroute : endpointOf job.request = some .identity_endpoint)
    (hcookie : orElse (job.request.headers "cookie") "" ≠ "") {inp : Nat → Oracle}
    {session : PortalClient.AuthenticatedSession}
    (hsession : PortalClient.readSession (inp 0).portal = .ok session) {name : LoneText}
    (hu : session.username = .lone name) (w : World) :
    ((service sdk).serve i (handle sdk job) inp w).2.1 = .ok (answer (.error name.encodeError)) := by
  obtain ⟨username, groups⟩ := session
  cases hu
  have hexec : (service sdk).exec = exec := rfl
  have hportal : ∀ cookie host url, exec (.me cookie host url) (inp 0) w = ((inp 0).portal, w) :=
    fun _ _ _ => rfl
  rw [serve_handle sdk i hroute]
  congr 2
  show ((service sdk).serve i (identity_endpoint sdk job.settings job.request) inp w).2.1 = _
  simp only [identity_endpoint, _authenticated_username, requireCookie, if_neg hcookie,
    PortalClient.get_authenticated_username, PortalClient.get_authenticated_session, Handler.encoded,
    Prog.bind_eq, Prog.pure_eq, Prog.call_bind, Prog.attempt_call, Prog.ret_bind, serve_call, hexec, hportal,
    hsession, Prog.ofExcept_ok, Prog.attempt_ret, Prog.raise_bind]
  rfl

theorem not_reportsKey_error {e : Exn} {pubkey : String} : ¬ReportsKey pubkey (answer (.error e)) := by
  rintro ⟨fields, hcontent, hlinked, _⟩
  cases e <;> cases hcontent
  cases hlinked

/-- The end of a login asks for no session. -/
theorem concludeLogin_within (request : Request) (outcome : Except Exn MintedSession) :
    (concludeLogin request outcome).Within (fun _ => True) (fun o => ∀ u host, o ≠ .mint u host)
      fun _ => True := by
  unfold concludeLogin
  split
  · exact ⟨nofun, fun _ _ => trivial⟩
  · exact ⟨nofun, fun _ _ => trivial⟩
  · exact ⟨nofun, fun _ _ => trivial⟩
  · trivial

theorem concludeLogin_calls (request : Request) (outcome : Except Exn MintedSession)
    (inp : Nat → Oracle) (w : World) {e : LogEntry}
    (he : e ∈ ((service sdk).serve i (concludeLogin request outcome) inp w).1) (u host : String) :
    e.op ≠ .mint u host :=
  ((serve_within (M := service sdk) (fun _ _ _ => trivial)
    (concludeLogin_within request outcome) inp w).1 e he).1 u host

/-- A login with a challenge in order asks for a session of just the account that its signer
is linked to. -/
theorem login_mints {db : MappingDb} {challenge : Challenge} {event_json pubkey : String}
    {skew : Int} (haction : challenge.action = LOGIN_ACTION)
    (hverify : Login.verifyAgainst sdk challenge event_json skew = .ok pubkey)
    (hfits : ∀ r ∈ db, fitsInt64 r.identity_id = true) (request : Request) (inp : Nat → Oracle)
    {w : World} (hw : w.mappings = db) (u : String) :
    (∃ e ∈ ((service sdk).serve i ((Login.authenticate sdk (some challenge) event_json
        skew).attempt.bind (concludeLogin request)) inp w).1, e.op = .mint u challenge.domain) ↔
      Linked db pubkey u := by
  subst hw
  constructor
  · rintro ⟨e, he, hop⟩
    by_cases hlinked : ∃ u, Linked w.mappings pubkey u
    · obtain ⟨u', r, hr, rfl, rfl, hon⟩ := hlinked
      rw [serve_authenticate haction hverify hr hon (hfits r hr)] at he
      rcases List.mem_cons.mp he with rfl | he
      · cases hop
      rcases List.mem_cons.mp he with rfl | he
      · cases hop
      rcases List.mem_cons.mp he with rfl | he
      · obtain ⟨rfl, _⟩ := Op.mint.inj hop
        exact ⟨r, hr, rfl, rfl, hon⟩
      · exact absurd hop (concludeLogin_calls sdk i request _ _ _ he u challenge.domain)
    · -- nobody is linked: the login is refused after the lookup
      have hok : ¬challenge.action ≠ Login.LOGIN_ACTION := not_not.mpr haction
      have hexec : (service sdk).exec = exec := rfl
      have hget : exec (.mapping (.get_by_pubkey pubkey)) (inp 0) w = (.ok none, w) := by
        rw [← byPubkey_unlinked (inp 0).clock hlinked, byPubkey, run_get_by_pubkey]
        simp [exec, MappingCall.method, run_get_by_pubkey]
      simp only [Login.authenticate, if_neg hok, hverify, Handler.mappings, Prog.bind_eq,
        Prog.call_bind, Prog.attempt_call, serve_call, hexec, hget, Prog.ofExcept_ok, Prog.ret_bind,
        Prog.attempt_raise] at he
      rcases List.mem_cons.mp he with rfl | he
      · cases hop
      · exact absurd hop (concludeLogin_calls sdk i request _ _ _ he u challenge.domain)
  · rintro ⟨r, hr, rfl, rfl, hon⟩
    rw [serve_authenticate haction hverify hr hon (hfits r hr)]
    exact ⟨_, List.mem_cons_of_mem _ (List.mem_cons_of_mem _ (List.mem_cons_self ..)), rfl⟩

end Endpoints

/-! ## Agreement -/

theorem listed_linked {db : MappingDb} (t : Nat → Int) {u : String} {ids : List Identity}
    (hids : listed db t u false = .ok ids) : ids ≠ [] ↔ ∃ pubkey, Linked db pubkey u := by
  constructor
  · intro hne
    obtain ⟨identity, hidentity⟩ := List.exists_mem_of_ne_nil ids hne
    exact ⟨identity.pubkey, (active_linked t).mp ⟨ids, hids, identity, hidentity, rfl⟩⟩
  · rintro ⟨pubkey, hlinked⟩ rfl
    obtain ⟨ids', hids', identity, hidentity, _⟩ := (active_linked t).mpr hlinked
    obtain rfl := Except.ok.inj (hids.symm.trans hids')
    cases hidentity

theorem head_linked {db : MappingDb} {t : Nat → Int} {u : String} {ids : List Identity}
    (hids : listed db t u false = .ok ids) :
    (∃ pubkey, ids.head?.map (fun head => head.pubkey) = some pubkey) ↔
      ∃ pubkey, Linked db pubkey u := by
  rw [← listed_linked t hids]
  cases ids with
  | nil => simp
  | cons head rest => simp

/-- Every reader answers from one relation, `Linked db`. -/
structure Agreement (sdk : NostrSdk) (texts : PythonTexts) (db : MappingDb) : Prop where
  by_pubkey : ∀ t pubkey u,
    (∃ identity, byPubkey db t pubkey = .ok (some identity) ∧ identity.ynh_username = u) ↔
      Linked db pubkey u
  /-- A login whose challenge and signature are in order; SQLite assigns only ids that fit. -/
  login : ∀ i (challenge : Challenge) event_json skew pubkey request inp (w : World) u,
    challenge.action = Login.LOGIN_ACTION →
      Login.verifyAgainst sdk challenge event_json skew = .ok pubkey →
      (∀ r ∈ db, fitsInt64 r.identity_id = true) → w.mappings = db →
      ((∃ e ∈ ((Server.service sdk).serve i ((Login.authenticate sdk (some challenge) event_json
        skew).attempt.bind (Server.concludeLogin request)) inp w).1,
          e.op = .mint u challenge.domain) ↔ Linked db pubkey u)
  lookup : ∀ t pubkey u,
    IdentityLookupServer.answer (byPubkey db t pubkey) = linkedTo u ↔ Linked db pubkey u
  lookup_handle : ∀ t pubkey chunks, IdentityLookupServer._PUBKEY_RE pubkey = true →
    Segmented chunks (IdentityLookup.request pubkey) →
      IdentityLookupServer.handle texts (byPubkey db t) true chunks =
        line .compact (IdentityLookupServer.answer (byPubkey db t pubkey))
  active : ∀ t pubkey u,
    (∃ ids, listed db t u false = .ok ids ∧ ∃ identity ∈ ids, identity.pubkey = pubkey) ↔
      Linked db pubkey u
  full : ∀ t pubkey u,
    (∃ ids, listed db t u true = .ok ids ∧
      ∃ identity ∈ ids, identity.pubkey = pubkey ∧ identity.enabled = true) ↔ Linked db pubkey u
  relays : ∀ ttl i input cache pubkey, Filled cache →
    ((∃ payload, ((RelayLookupServer.resolvers texts ttl).serve i
      (RelayLookupServer._resolve_relays ttl pubkey) input ⟨db, cache⟩).2.1 = .ok payload ∧
        SaysLinked payload) ↔ ∃ u, Linked db pubkey u)
  /-- One lookup and no other call: the cache is neither read nor written, and nothing is
  fetched. -/
  no_relays : ∀ ttl i (input : Nat → RelayLookupServer.RelayInput) cache pubkey,
    (¬∃ u, Linked db pubkey u) →
      (RelayLookupServer.resolvers texts ttl).serve i
        (RelayLookupServer._resolve_relays ttl pubkey) input ⟨db, cache⟩ =
      ([(RelayLookupServer.resolvers texts ttl).entry i (.get_by_pubkey pubkey) (input 0)
        ⟨db, cache⟩], .ok RelayLookupServer.unlinked, ⟨db, cache⟩)
  enabled : ∀ t u ids, listed db t u false = .ok ids →
    (ids ≠ [] ↔ ∃ pubkey, Linked db pubkey u)
  nip05 : ∀ i (job : Server.Job) u t ids inp (w : World),
    Server.endpointOf job.request = some .nostr_json_endpoint →
      job.request.query_params "name" = some u → u ≠ "" → w.mappings = db →
      listed db t u false = .ok ids →
      ((Server.service sdk).serve i (Server.handle sdk job) inp w).2.1 =
        .ok (Server.names (ids.head?.toList.map fun head => (u, .str head.pubkey)))
  nip05_head : ∀ i (job : Server.Job) u t ids inp (w : World),
    Server.endpointOf job.request = some .nostr_json_endpoint →
      job.request.query_params "name" = some u → u ≠ "" → w.mappings = db →
      listed db t u false = .ok ids →
      ∃ response, ((Server.service sdk).serve i (Server.handle sdk job) inp w).2.1 = .ok response ∧
        ((∃ pubkey, NamesKey u pubkey response) ↔ ∃ pubkey, Linked db pubkey u) ∧
        ∀ pubkey, NamesKey u pubkey response ↔ ids.head?.map (fun head => head.pubkey) = some pubkey
  identity : ∀ i (job : Server.Job) u t ids inp session (w : World),
    Server.endpointOf job.request = some .identity_endpoint →
      Server.orElse (job.request.headers "cookie") "" ≠ "" →
      PortalClient.readSession (inp 0).portal = .ok session → session.username = .text u →
      w.mappings = db → listed db t u false = .ok ids →
      ((Server.service sdk).serve i (Server.handle sdk job) inp w).2.1 =
        .ok (Server.answer (report sdk u ids.head?))
  /-- The enabled keys of the account are keys that the SDK can write. -/
  identity_head : ∀ i (job : Server.Job) u t ids inp session (w : World),
    Server.endpointOf job.request = some .identity_endpoint →
      Server.orElse (job.request.headers "cookie") "" ≠ "" →
      PortalClient.readSession (inp 0).portal = .ok session → session.username = .text u →
      w.mappings = db → listed db t u false = .ok ids →
      (∀ identity ∈ ids, Npub.Converts sdk identity.pubkey) →
      ∃ response, ((Server.service sdk).serve i (Server.handle sdk job) inp w).2.1 = .ok response ∧
        response.status_code = 200 ∧
        ((∃ pubkey, ReportsKey pubkey response) ↔ ∃ pubkey, Linked db pubkey u) ∧
        ∀ pubkey, ReportsKey pubkey response ↔ ids.head?.map (fun head => head.pubkey) = some pubkey
  /-- A name with a lone surrogate is no account's. -/
  identity_lone : ∀ i (job : Server.Job) name inp session (w : World),
    Server.endpointOf job.request = some .identity_endpoint →
      Server.orElse (job.request.headers "cookie") "" ≠ "" →
      PortalClient.readSession (inp 0).portal = .ok session → session.username = .lone name →
      ∃ response, ((Server.service sdk).serve i (Server.handle sdk job) inp w).2.1 = .ok response ∧
        ∀ pubkey, ¬ReportsKey pubkey response

theorem agreement (sdk : NostrSdk) (texts : PythonTexts) {db : MappingDb} (hb : Binary db) :
    Agreement sdk texts db := by
  constructor
  case by_pubkey => exact fun t pubkey u => byPubkey_linked t
  case login =>
    intro i challenge event_json skew pubkey request inp w u haction hverify hfits hw
    exact login_mints sdk i haction hverify hfits request inp hw u
  case lookup => exact fun t pubkey u => answer_linked t
  case lookup_handle => exact fun t pubkey chunks hpubkey h => handle_answer texts _ hpubkey h
  case active => exact fun t pubkey u => active_linked t
  case full => exact fun t pubkey u => full_linked t hb
  case relays =>
    exact fun ttl i input cache pubkey hcache => resolve_saysLinked texts ttl i hcache pubkey input
  case no_relays =>
    exact fun ttl i input cache pubkey hno => resolve_unlinked texts ttl i hno cache input
  case enabled => exact fun t u ids hids => listed_linked t hids
  case nip05 =>
    intro i job u t ids inp w hroute hname hu hw hids
    exact serve_nostr_json sdk i hb hroute hname hu inp hw hids
  case nip05_head =>
    intro i job u t ids inp w hroute hname hu hw hids
    refine ⟨_, serve_nostr_json sdk i hb hroute hname hu inp hw hids, ?_, fun pubkey => namesKey_names⟩
    exact (exists_congr fun pubkey => namesKey_names).trans (head_linked hids)
  case identity =>
    intro i job u t ids inp session w hroute hcookie hsession hu hw hids
    exact serve_identity sdk i hb hroute hcookie hsession hu hw hids
  case identity_head =>
    intro i job u t ids inp session w hroute hcookie hsession hu hw hids hconverts
    obtain ⟨response, hreport, hstatus, hkey⟩ := report_key sdk u
      fun identity (h : ids.head? = some identity) => hconverts identity (List.mem_of_mem_head? h)
    refine ⟨response, ?_, hstatus, (exists_congr hkey).trans (head_linked hids), hkey⟩
    rw [serve_identity sdk i hb hroute hcookie hsession hu hw hids, hreport]
    rfl
  case identity_lone =>
    intro i job name inp session w hroute hcookie hsession hu
    exact ⟨_, serve_identity_lone sdk i hroute hcookie hsession hu w, fun _ => not_reportsKey_error⟩

/-- **All readers agree**, on a file that was empty or held legacy rows with flags 0 and 1:
after any calls and reopens one after the other, and in every run of processes that call and
open at the same time and may crash. -/
theorem readers_agree (sdk : NostrSdk) (texts : PythonTexts) (start : MappingDb)
    (hempty : start.identities = Serial.empty)
    (hflags : ∀ user ∈ start.users.getD [], user.enabled = 0 ∨ user.enabled = 1) :
    (∀ steps : List (StoreStep × (Nat → Int)), Agreement sdk texts (after steps start)) ∧
      ∀ d : Migration.StoreDb,
        Transaction.Reachable Migration.program Transaction.Anytime start d →
          Agreement sdk texts d.committed := by
  have hstart : Binary start := by
    refine ⟨fun r hr => ?_, hflags⟩
    rw [MappingDb.mem_def, hempty] at hr
    cases hr
  exact ⟨fun steps => agreement sdk texts hstart.after, fun d hd =>
    agreement sdk texts (hstart.run hd)⟩

/-- Two legacy accounts, one of them switched off. -/
def legacyFile : MappingDb :=
  ⟨Serial.empty, 0, some [⟨"alice", Server.aliceKey, 1, none, 1⟩, ⟨"bob", Server.laptopKey, 2, none, 0⟩]⟩

def bobKey : String := "81b637d8fcd2c6da6359e6963113a1170de795e4b725b84d1e0b4cfd9ec58ce9"

def migratedSteps : List (StoreStep × (Nat → Int)) :=
  [(.reopen, fun _ => 5), (.call (.add_identity "bob" bobKey ⟨"nip07", none, "self"⟩), fun _ => 6)]

/-- `alice` asks `/identity` with her portal cookie. -/
def aliceAsks : Server.Job :=
  ⟨.default, { Server.challengeRequest with
    path := ["identity"], headers := Server.headersOf [("cookie", "yunohost.portal=token")] }⟩

def migrated : World := Server.World.withoutChallenges DEFAULT_TTL_SECONDS (after migratedSteps legacyFile)

theorem migrated_agree :
    (after migratedSteps legacyFile).identities.rows.map
        (fun r => (r.ynh_username, r.pubkey, r.enabled)) =
      [("alice", Server.aliceKey, 1), ("bob", Server.laptopKey, 0), ("bob", bobKey, 1)] ∧
    Agreement Server.keySdk ⟨id, fun _ => ""⟩ (after migratedSteps legacyFile) ∧
    ∃ response, ((Server.service Server.keySdk).serve 0 (Server.handle Server.keySdk aliceAsks)
        Server.sampleInput migrated).2.1 = .ok response ∧ ReportsKey Server.aliceKey response := by
  have hagree := (readers_agree Server.keySdk ⟨id, fun _ => ""⟩ legacyFile rfl (by decide)).1 migratedSteps
  refine ⟨by decide, hagree, ?_⟩
  obtain ⟨response, hserve, _, _, hkey⟩ := hagree.identity_head 0 aliceAsks "alice" (fun _ => 7)
    [⟨"alice", Server.aliceKey, 1, none, true, some 1, "unknown", none, "self-service", none⟩]
    Server.sampleInput ⟨"alice", ["all_users"]⟩ migrated rfl (by decide) (by decide) rfl rfl (by decide)
    (by simp [Npub.Converts, Server.keySdk])
  exact ⟨response, hserve, (hkey Server.aliceKey).mpr rfl⟩

end NostrAuth.ReadPaths
