import NostrAuth.LookupServers

/-! `identity/relays.py`, and what becomes of a relay list over many lookups: lookups follow one
another, the mapping changes between them, and every fetch brings an event, brings none or fails. -/

set_option autoImplicit false

namespace NostrAuth.Relays

open Sockets Interaction RelayLookupServer LookupServers
open ReadPaths (Filled)

/-! ## `identity/relays.py` -/

/-- An event of kind 10002, as far as the code reads it. -/
structure RelayListEvent where
  created_at : Nat
  tags : List (List String)

/-- The entry of one tag. The marker is the third element, if there is one. -/
def readTag : List String → Option Relay
  | name :: url :: rest =>
    if name = "r" then
      let marker := rest.head?
      some ⟨url, marker = none ∨ marker = some "read", marker = none ∨ marker = some "write"⟩
    else none
  | _ => none

def parse_relay_list (event : RelayListEvent) : List Relay := event.tags.filterMap readTag

/-- `max(events, key=...)`: the first of the newest. -/
def newest_relay_list_event : List RelayListEvent → Option RelayListEvent
  | [] => none
  | event :: rest => some (rest.foldl (fun newest event =>
      if newest.created_at < event.created_at then event else newest) event)

/-- What `fetch_relay_list` makes of what the client fetched, or of its exception. -/
def fetch_relay_list (bootstrap_relays : List String) (fetched : Except String (List RelayListEvent)) :
    Except String (List Relay) :=
  if bootstrap_relays = [] then .ok []
  else fetched.map fun events => ((newest_relay_list_event events).map parse_relay_list).getD []

/-! ## One lookup -/

/-- The pubkey belongs to an active identity. -/
def LinkedIn (w : RelayWorld) (pubkey : String) : Prop :=
  ∃ r ∈ w.mappings, r.pubkey = pubkey ∧ r.enabled = 1

def isFetch : RelayOp → Bool
  | .fetch_relay_list _ => true
  | _ => false

/-- The lookup fetched. -/
def live (h : History RelayOp RelayOp.Ans) : Bool := h.any fun e => isFetch e.op

section Lookup

variable (texts : PythonTexts) (pubkey : String) (fetched : Except String (List Relay)) (w : RelayWorld)

/-- What a lookup can do: whether it fetches, what it answers and the world it leaves. -/
inductive Looked : Bool → Except Exn Json → RelayWorld → Prop
  | unlinked : ¬LinkedIn w pubkey → Looked false (.ok unlinked) w
  | cached (relays : List Relay) (fetched_at : Int) : LinkedIn w pubkey →
      RelayCache.get texts pubkey w.cache = .ok (some ⟨relays.map Relay.entry, fetched_at⟩) →
      Looked false (.ok (_response (relays.map Relay.entry) fetched_at)) w
  | failed (e : String) (found : Option CachedRelayList) : LinkedIn w pubkey → fetched = .error e →
      RelayCache.get texts pubkey w.cache = .ok found → Looked true (.ok (fallback found)) w
  | refreshed (relays : List Relay) (now : Int) : LinkedIn w pubkey → fetched = .ok relays →
      Looked true (.ok (_response (relays.map Relay.entry) now))
        { w with cache := RelayCache.store now pubkey (relays.map Relay.entry) w.cache }

end Lookup

theorem exec_linked (texts : PythonTexts) (pubkey : String) (inp : RelayInput) (w : RelayWorld) :
    ∃ found, RelayLookupServer.exec texts (.get_by_pubkey pubkey) inp w = (.ok found, w) ∧
      (found.isSome = true ↔ LinkedIn w pubkey) := by
  refine ⟨_, congrArg (fun done => (done.1, w))
    (MappingStore.run_get_by_pubkey pubkey _ w.mappings), ?_⟩
  rw [Option.isSome_map]
  constructor
  · intro hsome
    obtain ⟨row, hrow⟩ := Option.isSome_iff_exists.mp hsome
    exact ⟨row, MappingStore.find_pubkey_eq_some.mp hrow⟩
  · rintro ⟨row, hrow⟩
    rw [MappingStore.find_pubkey_eq_some.mpr hrow]
    rfl

section Lookups

variable {texts : PythonTexts} {pubkey : String} {input : Nat → RelayInput} {w : RelayWorld}
  {fetched : Except String (List Relay)}

/-- A run is one of these lookups. -/
def IsLookup (texts : PythonTexts) (pubkey : String) (fetched : Except String (List Relay))
    (w : RelayWorld) (run : History RelayOp RelayOp.Ans × Except Exn Json × RelayWorld) : Prop :=
  Looked texts pubkey fetched w (live run.1) run.2.1 run.2.2

/-- A call that changes nothing and fetches nothing may come before. -/
theorem IsLookup.call {o : RelayOp} {k : o.Ans → Resolver Json} {a : o.Ans} (ho : isFetch o = false)
    (hexec : RelayLookupServer.exec texts o (input 0) w = (a, w))
    (h : IsLookup texts pubkey fetched w
      ((k a).runAlone (RelayLookupServer.exec texts) (fun n => input (n + 1)) w)) :
    IsLookup texts pubkey fetched w
      ((Prog.call o k).runAlone (RelayLookupServer.exec texts) input w) := by
  have hlive : ∀ h, live (⟨o, a⟩ :: h) = live h := fun h => by rw [live, List.any_cons, ho]; rfl
  rw [Prog.runAlone_call, hexec]
  simp only [IsLookup, hlive]
  exact h

/-- The end of `refresh`: what was stored is read back. -/
def readBack (pubkey : String) : Resolver Json := do
  let refreshed ← cacheGet pubkey
  match refreshed with
  | some refreshed => return _response refreshed.relays refreshed.fetched_at
  | none => .raise (noAttribute "NoneType" "relays")

theorem runAlone_readBack {cached : CachedRelayList}
    (hexec : RelayLookupServer.exec texts (.cache_get pubkey) (input 0) w = (.ok (some cached), w)) :
    (readBack pubkey).runAlone (RelayLookupServer.exec texts) input w =
      ([⟨.cache_get pubkey, .ok (some cached)⟩], .ok (_response cached.relays cached.fetched_at), w) := by
  rw [readBack, cacheGet, Prog.bind_eq, Prog.call_bind, Prog.runAlone_call, hexec]
  rfl

theorem runAlone_refresh (found : Option CachedRelayList) {fetched : List RelayEntry} {w' : RelayWorld}
    (hfetch : RelayLookupServer.exec texts (.fetch_relay_list pubkey) (input 0) w = (.ok fetched, w))
    (hstore : RelayLookupServer.exec texts (.cache_store pubkey fetched) (input 1) w = ((), w')) :
    (refresh pubkey found).runAlone (RelayLookupServer.exec texts) input w =
      (⟨.fetch_relay_list pubkey, .ok fetched⟩ :: ⟨.cache_store pubkey fetched, ()⟩ ::
        ((readBack pubkey).runAlone (RelayLookupServer.exec texts) (fun n => input (n + 2)) w').1,
        ((readBack pubkey).runAlone (RelayLookupServer.exec texts) (fun n => input (n + 2)) w').2) := by
  rw [refresh, Prog.runAlone_call, hfetch]
  simp only [Prog.runAlone_call, Nat.zero_add, hstore]
  rfl

/-- A fetch that brings a list stores it and answers with it. -/
theorem refresh_fetched (found : Option CachedRelayList) {relays : List Relay}
    (hfetched : (input 0).fetched = .ok relays) :
    ((refresh pubkey found).runAlone (RelayLookupServer.exec texts) input w).2 =
      (.ok (_response (relays.map Relay.entry) (input 1).now),
        { w with cache := RelayCache.store (input 1).now pubkey (relays.map Relay.entry) w.cache }) := by
  have hfetch : RelayLookupServer.exec texts (.fetch_relay_list pubkey) (input 0) w =
      (.ok (relays.map Relay.entry), w) := by
    show ((input 0).fetched.map _, w) = _
    rw [hfetched]
    rfl
  let w' : RelayWorld :=
    { w with cache := RelayCache.store (input 1).now pubkey (relays.map Relay.entry) w.cache }
  have hstored : RelayLookupServer.exec texts (.cache_get pubkey) (input 2) w' =
      (.ok (some ⟨relays.map Relay.entry, (input 1).now⟩), w') :=
    Prod.ext (get_store texts (input 1).now pubkey relays w.cache) rfl
  rw [runAlone_refresh found hfetch rfl, runAlone_readBack hstored]

theorem live_refresh (found : Option CachedRelayList) :
    live ((refresh pubkey found).runAlone (RelayLookupServer.exec texts) input w).1 = true := rfl

theorem isLookup_refresh (found : Option CachedRelayList) (hlinked : LinkedIn w pubkey)
    (hget : RelayCache.get texts pubkey w.cache = .ok found)
    (hfetched : ∀ n, (input n).fetched = fetched) :
    IsLookup texts pubkey fetched w
      ((refresh pubkey found).runAlone (RelayLookupServer.exec texts) input w) := by
  rw [IsLookup, live_refresh]
  cases fetched with
  | error e =>
    have hfetch : RelayLookupServer.exec texts (.fetch_relay_list pubkey) (input 0) w =
        (.error e, w) := by
      show ((input 0).fetched.map _, w) = _
      rw [hfetched 0]
      rfl
    rw [refresh, Prog.runAlone_call, hfetch]
    exact .failed e found hlinked rfl hget
  | ok relays =>
    rw [refresh_fetched found (hfetched 0)]
    exact .refreshed relays (input 1).now hlinked rfl

theorem looked (ttl : Int) (hcache : Filled w.cache) (hfetched : ∀ n, (input n).fetched = fetched) :
    IsLookup texts pubkey fetched w
      ((_resolve_relays ttl pubkey).runAlone (RelayLookupServer.exec texts) input w) := by
  obtain ⟨found, hget, hlinked⟩ := exec_linked texts pubkey (input 0) w
  apply IsLookup.call rfl hget
  cases found with
  | none => exact .unlinked fun h => Bool.false_ne_true (hlinked.mpr h)
  | some identity =>
    have hlinked := hlinked.mp rfl
    rcases hcache.get texts pubkey with hnone | ⟨relays, fetched_at, hsome⟩
    · exact .call rfl (Prod.ext hnone rfl)
        (isLookup_refresh none hlinked hnone fun n => hfetched (n + 1 + 1))
    · have hexec : RelayLookupServer.exec texts (.cache_get pubkey) (input 1) w =
          (.ok (some ⟨relays.map Relay.entry, fetched_at⟩), w) := Prod.ext hsome rfl
      refine .call rfl hexec (.call (o := .time) rfl rfl ?_)
      simp only [Prog.ret_bind]
      split
      · exact .cached relays fetched_at hlinked hsome
      · exact isLookup_refresh _ hlinked hsome fun n => hfetched (n + 1 + 1 + 1)

/-- A lookup that finds no fresh entry goes on with `refresh`, after two or three calls. -/
theorem run_of_stale (input : Nat → RelayInput) (ttl : Int) {found : Option CachedRelayList}
    (hlinked : LinkedIn w pubkey) (hget : RelayCache.get texts pubkey w.cache = .ok found)
    (hstale : ∀ cached, found = some cached → ttl ≤ max 0 ((input 2).now - cached.fetched_at)) :
    ∃ h m, (_resolve_relays ttl pubkey).runAlone (RelayLookupServer.exec texts) input w =
      (h ++ ((refresh pubkey found).runAlone (RelayLookupServer.exec texts)
          (fun n => input (n + m)) w).1,
        ((refresh pubkey found).runAlone (RelayLookupServer.exec texts) (fun n => input (n + m)) w).2) := by
  obtain ⟨answer, hexec, hsome⟩ := exec_linked texts pubkey (input 0) w
  obtain ⟨identity, rfl⟩ := Option.isSome_iff_exists.mp (hsome.mpr hlinked)
  have hcache : RelayLookupServer.exec texts (.cache_get pubkey) (input 1) w = (.ok found, w) :=
    Prod.ext hget rfl
  simp only [_resolve_relays, Prog.bind_eq, Prog.call_bind, Prog.runAlone_call, hexec,
    Prog.ofExcept_ok, Prog.ret_bind, cacheGet, Nat.zero_add, hcache]
  cases found with
  | none => exact ⟨[_, _], 2, rfl⟩
  | some cached =>
    have hlate := Int.not_lt.mpr (hstale cached rfl)
    refine ⟨[⟨.get_by_pubkey pubkey, .ok (some identity)⟩, ⟨.cache_get pubkey, .ok (some cached)⟩,
      ⟨.time, (input 2).now⟩], 3, ?_⟩
    have hrefresh : (if decide (max 0 ((input 2).now - cached.fetched_at) < ttl) = true
        then (pure (_response cached.relays cached.fetched_at) : Resolver Json)
        else refresh pubkey (some cached)) = refresh pubkey (some cached) :=
      if_neg fun h => hlate (of_decide_eq_true h)
    simp only [isFresh, Prog.call_bind, Prog.runAlone_call, Prog.ret_bind]
    show (_ :: _ :: _ :: (Prog.runAlone _ (if decide (max 0 ((input 2).now - cached.fetched_at) < ttl) =
      true then _ else _) _ w).1, (Prog.runAlone _ (if decide (max 0 ((input 2).now -
      cached.fetched_at) < ttl) = true then _ else _) _ w).2) = _
    rw [hrefresh]
    rfl

end Lookups

/-! ## Many lookups -/

/-- A lookup, served to its end, or a change of the mapping. -/
inductive Turn
  | lookup (pubkey : String) (clock : Nat → Int) (fetched : Except String (List RelayListEvent))
  | change (mappings : MappingDb)

/-- A turn with the worlds around it, what it answered and whether it fetched. -/
structure Record where
  turn : Turn
  before : RelayWorld
  fetches : Bool
  answer : Option (Except Exn Json)
  after : RelayWorld

section Runs

variable (texts : PythonTexts) (bootstrap_relays : List String) (cache_ttl_seconds : Int)

def record : Turn → RelayWorld → Record
  | .lookup pubkey clock fetched, w =>
    let run := (_resolve_relays cache_ttl_seconds pubkey).runAlone (RelayLookupServer.exec texts)
      (fun n => ⟨clock n, fetch_relay_list bootstrap_relays fetched⟩) w
    ⟨.lookup pubkey clock fetched, w, live run.1, some run.2.1, run.2.2⟩
  | .change mappings, w => ⟨.change mappings, w, false, none, { w with mappings }⟩

def play : List Turn → RelayWorld → List Record
  | [], _ => []
  | turn :: turns, w =>
    let r := record texts bootstrap_relays cache_ttl_seconds turn w
    r :: play turns r.after

end Runs

section Records

variable (bootstrap_relays : List String) (pubkey : String) (r : Record)

/-- The turn looks the pubkey up. -/
def Record.Asks : Prop := ∃ clock fetched, r.turn = .lookup pubkey clock fetched

/-- The turn fetches an event with this list. -/
def Record.Obtains (relays : List Relay) : Prop :=
  ∃ clock events event, r.turn = .lookup pubkey clock (.ok events) ∧ r.fetches = true ∧
    bootstrap_relays ≠ [] ∧ newest_relay_list_event events = some event ∧
    parse_relay_list event = relays

/-- The turn fetches, and no relay has an event for it. -/
def Record.FindsNothing : Prop :=
  ∃ clock fetched, r.turn = .lookup pubkey clock fetched ∧ r.fetches = true ∧
    (bootstrap_relays = [] ∨ fetched = .ok [])

def Record.Carries (relays : List Relay) : Prop :=
  ∃ fetched_at, r.answer = some (.ok (_response (relays.map Relay.entry) fetched_at))

end Records

/-- The cache holds this list. -/
def Holds (texts : PythonTexts) (w : RelayWorld) (pubkey : String) (relays : List Relay) : Prop :=
  ∃ fetched_at, RelayCache.get texts pubkey w.cache = .ok (some ⟨relays.map Relay.entry, fetched_at⟩)

/-- No fetch that finds nothing meets a list in the cache. -/
def Record.Harmless (texts : PythonTexts) (bootstrap_relays : List String) (pubkey : String)
    (r : Record) : Prop :=
  r.FindsNothing bootstrap_relays pubkey → ∀ relays, Holds texts r.before pubkey relays → relays = []

/-- Once a list was obtained, every answer for the linked pubkey carries it or a list that was
obtained later. -/
def Kept (bootstrap_relays : List String) (pubkey : String) (records : List Record) : Prop :=
  ∀ (i j : Nat) (r s : Record) (relays : List Relay), i < j → records[i]? = some r →
    records[j]? = some s → r.Obtains bootstrap_relays pubkey relays → relays ≠ [] →
    s.Asks pubkey → LinkedIn s.before pubkey →
    ∃ carried, s.Carries carried ∧ (carried = relays ∨ ∃ k t, i < k ∧ k ≤ j ∧
      records[k]? = some t ∧ t.Obtains bootstrap_relays pubkey carried)

/-! ## The cache over many lookups -/

theorem find_store_other (now : Int) {pubkey other : String} (h : pubkey ≠ other)
    (relays : List RelayEntry) (t : RelayLists) :
    (RelayCache.store now other relays t).find (fun r => r.pubkey == pubkey) =
      t.find fun r => r.pubkey == pubkey := by
  have hother : ¬(other == pubkey) = true := fun heq => h (beq_iff_eq.mp heq).symm
  unfold RelayCache.store
  split
  · next t' hinsert =>
    rw [Table.find, (Table.insert_eq_some.mp hinsert).2, List.find?_append,
      List.find?_singleton, if_neg hother, Option.or_none]
    rfl
  · show (t.rows.map _).find? _ = t.rows.find? _
    have hkeep : ((fun r : RelayRow => r.pubkey == pubkey) ∘ fun r : RelayRow =>
        if (r.pubkey == other) = true then { r with relays := RelayCache._encode relays, fetched_at := now }
        else r) = fun r => r.pubkey == pubkey := by
      funext r
      show ((if _ then _ else _ : RelayRow).pubkey == pubkey) = _
      split <;> rfl
    rw [List.find?_map, hkeep]
    cases hfind : t.rows.find? fun r => r.pubkey == pubkey with
    | none => rfl
    | some row =>
      have hrow : row.pubkey = pubkey := by simpa using List.find?_some hfind
      have hne : ¬(row.pubkey == other) = true := fun heq => h (hrow.symm.trans (beq_iff_eq.mp heq))
      rw [Option.map_some, if_neg hne]

theorem get_store_other (texts : PythonTexts) (now : Int) {pubkey other : String} (h : pubkey ≠ other)
    (relays : List RelayEntry) (t : RelayLists) :
    RelayCache.get texts pubkey (RelayCache.store now other relays t) = RelayCache.get texts pubkey t := by
  rw [RelayCache.get, find_store_other now h, RelayCache.get]

section Turns

variable {texts : PythonTexts} {bootstrap_relays : List String} {ttl : Int} {w : RelayWorld}

variable (texts bootstrap_relays ttl) in
theorem record_lookup (pubkey : String) (clock : Nat → Int)
    (fetched : Except String (List RelayListEvent)) (hcache : Filled w.cache) : ∃ fetches x w',
      record texts bootstrap_relays ttl (.lookup pubkey clock fetched) w =
          ⟨.lookup pubkey clock fetched, w, fetches, some x, w'⟩ ∧
        Looked texts pubkey (fetch_relay_list bootstrap_relays fetched) w fetches x w' :=
  ⟨_, _, _, rfl, looked ttl hcache fun _ => rfl⟩

/-- A lookup that finds no fresh entry and fetches a list. -/
theorem record_of_stale (ttl : Int) {pubkey : String} (clock : Nat → Int) {relays : List Relay}
    {fetched : Except String (List RelayListEvent)} {found : Option CachedRelayList}
    (hlinked : LinkedIn w pubkey) (hget : RelayCache.get texts pubkey w.cache = .ok found)
    (hstale : ∀ cached, found = some cached → ttl ≤ max 0 (clock 2 - cached.fetched_at))
    (hfetched : fetch_relay_list bootstrap_relays fetched = .ok relays) : ∃ m,
      record texts bootstrap_relays ttl (.lookup pubkey clock fetched) w =
        ⟨.lookup pubkey clock fetched, w, true, some (.ok (_response (relays.map Relay.entry) (clock m))),
          { w with cache := RelayCache.store (clock m) pubkey (relays.map Relay.entry) w.cache }⟩ := by
  obtain ⟨h, m, hrun⟩ := run_of_stale (fun n => ⟨clock n, fetch_relay_list bootstrap_relays fetched⟩)
    ttl hlinked hget hstale
  refine ⟨1 + m, ?_⟩
  rw [record, hrun, refresh_fetched found hfetched]
  simp only [live, List.any_append]
  rw [show List.any _ _ = true from live_refresh found, Bool.or_true]

theorem record_filled (turn : Turn) (hcache : Filled w.cache) :
    Filled (record texts bootstrap_relays ttl turn w).after.cache := by
  cases turn with
  | change mappings => exact hcache
  | lookup pubkey clock fetched =>
    obtain ⟨fetches, x, w', hrecord, hlooked⟩ := record_lookup texts bootstrap_relays ttl
      pubkey clock fetched hcache
    rw [hrecord]
    cases hlooked with
    | unlinked hlinked => exact hcache
    | cached relays fetched_at hlinked hget => exact hcache
    | failed e found hlinked hfetched hget => exact hcache
    | refreshed relays now hlinked hfetched => exact .store now pubkey relays _ hcache

@[simp] theorem record_before (turn : Turn) (w : RelayWorld) :
    (record texts bootstrap_relays ttl turn w).before = w := by
  cases turn <;> rfl

/-- How a fetch comes by its list. -/
theorem fetched_cases {fetched : Except String (List RelayListEvent)} {relays : List Relay}
    (h : fetch_relay_list bootstrap_relays fetched = .ok relays) :
    (relays = [] ∧ (bootstrap_relays = [] ∨ fetched = .ok [])) ∨
      ∃ events event, fetched = .ok events ∧ bootstrap_relays ≠ [] ∧
        newest_relay_list_event events = some event ∧ parse_relay_list event = relays := by
  unfold fetch_relay_list at h
  split at h
  · next hnone =>
    cases h
    exact Or.inl ⟨rfl, Or.inl hnone⟩
  · next hsome =>
    cases fetched with
    | error e => cases h
    | ok events =>
      cases events with
      | nil =>
        cases h
        exact Or.inl ⟨rfl, Or.inr rfl⟩
      | cons event rest => exact Or.inr ⟨_, _, rfl, hsome, rfl, Except.ok.inj h⟩

/-- **Turn lemma.** A cached list stays, or gives way to a list that the turn obtains, and the answer
carries what is cached then. -/
theorem record_holds {pubkey : String} {relays : List Relay} (turn : Turn) (hcache : Filled w.cache)
    (hholds : Holds texts w pubkey relays)
    (hharmless : (record texts bootstrap_relays ttl turn w).Harmless texts bootstrap_relays pubkey) :
    ∃ carried, Holds texts (record texts bootstrap_relays ttl turn w).after pubkey carried ∧
      (carried = relays ∨
        (record texts bootstrap_relays ttl turn w).Obtains bootstrap_relays pubkey carried) ∧
      ((record texts bootstrap_relays ttl turn w).Asks pubkey → LinkedIn w pubkey →
        (record texts bootstrap_relays ttl turn w).Carries carried) := by
  cases turn with
  | change mappings =>
    exact ⟨relays, hholds, Or.inl rfl, by rintro ⟨clock, fetched, ⟨⟩⟩⟩
  | lookup other clock fetched =>
    obtain ⟨fetches, x, w', hrecord, hlooked⟩ := record_lookup texts bootstrap_relays ttl
      other clock fetched hcache
    rw [hrecord] at hharmless ⊢
    by_cases hkey : pubkey = other
    · subst hkey
      obtain ⟨fetched_at, hget⟩ := hholds
      cases hlooked with
      | unlinked hlinked =>
        exact ⟨relays, ⟨fetched_at, hget⟩, Or.inl rfl, fun _ h => absurd h hlinked⟩
      | cached found found_at hlinked hfound =>
        have hsame := hfound.symm.trans hget
        simp only [Except.ok.injEq, Option.some.injEq, CachedRelayList.mk.injEq] at hsame
        exact ⟨relays, ⟨fetched_at, hget⟩, Or.inl rfl, fun _ _ => ⟨found_at, by rw [hsame.1]⟩⟩
      | failed e found hlinked hfetched hfound =>
        obtain rfl := Except.ok.inj (hfound.symm.trans hget)
        exact ⟨relays, ⟨fetched_at, hget⟩, Or.inl rfl, fun _ _ => ⟨fetched_at, rfl⟩⟩
      | refreshed found now hlinked hfetched =>
        refine ⟨found, ⟨now, get_store texts now pubkey found w.cache⟩, ?_, fun _ _ => ⟨now, rfl⟩⟩
        rcases fetched_cases hfetched with ⟨rfl, hnothing⟩ | ⟨events, event, rfl, hrelays, hnewest, hparse⟩
        · -- nothing was found, so there was nothing to lose
          exact Or.inl (hharmless ⟨clock, fetched, rfl, rfl, hnothing⟩ relays ⟨fetched_at, hget⟩).symm
        · exact Or.inr ⟨clock, events, event, rfl, rfl, hrelays, hnewest, hparse⟩
    · have hsame : RelayCache.get texts pubkey w'.cache = RelayCache.get texts pubkey w.cache := by
        cases hlooked with
        | unlinked hlinked => rfl
        | cached found found_at hlinked hfound => rfl
        | failed e found hlinked hfetched hfound => rfl
        | refreshed found now hlinked hfetched => exact get_store_other texts now hkey _ w.cache
      obtain ⟨fetched_at, hget⟩ := hholds
      refine ⟨relays, ⟨fetched_at, hsame.trans hget⟩, Or.inl rfl, ?_⟩
      rintro ⟨clock', fetched', h⟩
      cases h
      exact absurd rfl hkey

/-- After a turn that obtains a list the cache holds it. -/
theorem obtains_holds {pubkey : String} {relays : List Relay} {turn : Turn} (hcache : Filled w.cache)
    (h : (record texts bootstrap_relays ttl turn w).Obtains bootstrap_relays pubkey relays) :
    Holds texts (record texts bootstrap_relays ttl turn w).after pubkey relays := by
  obtain ⟨clock, events, event, hturn, hfetches, hrelays, hnewest, hparse⟩ := h
  cases turn with
  | change mappings => cases hturn
  | lookup other clock' fetched =>
    obtain ⟨fetches, x, w', hrecord, hlooked⟩ := record_lookup texts bootstrap_relays ttl
      other clock' fetched hcache
    rw [hrecord] at hturn hfetches ⊢
    cases hturn
    have hlist : fetch_relay_list bootstrap_relays (.ok events) = .ok relays := by
      rw [fetch_relay_list, if_neg hrelays]
      show Except.ok (((newest_relay_list_event events).map parse_relay_list).getD []) = _
      rw [hnewest, ← hparse]
      rfl
    cases hlooked with
    | unlinked hlinked => cases hfetches
    | cached found found_at hlinked hfound => cases hfetches
    | failed e found hlinked hfetched hfound => cases hlist.symm.trans hfetched
    | refreshed found now hlinked hfetched =>
      obtain rfl := Except.ok.inj (hlist.symm.trans hfetched)
      exact ⟨now, get_store texts now pubkey relays w.cache⟩

/-- **Run lemma.** What is cached at the start is what the answers carry, until a list is obtained. -/
theorem play_holds {pubkey : String} (turns : List Turn) {w : RelayWorld} {relays : List Relay}
    (hcache : Filled w.cache) (hholds : Holds texts w pubkey relays)
    (hharmless : ∀ r ∈ play texts bootstrap_relays ttl turns w,
      r.Harmless texts bootstrap_relays pubkey) {j : Nat} {s : Record}
    (hs : (play texts bootstrap_relays ttl turns w)[j]? = some s) (hasks : s.Asks pubkey)
    (hlinked : LinkedIn s.before pubkey) :
    ∃ carried, s.Carries carried ∧ (carried = relays ∨ ∃ k t, k ≤ j ∧
      (play texts bootstrap_relays ttl turns w)[k]? = some t ∧
      t.Obtains bootstrap_relays pubkey carried) := by
  induction turns generalizing w relays j with
  | nil => cases hs
  | cons turn turns ih =>
    obtain ⟨hfirst, hrest⟩ := List.forall_mem_cons.mp hharmless
    obtain ⟨carried, hafter, hcarried, hanswer⟩ := record_holds turn hcache hholds hfirst
    cases j with
    | zero =>
      cases hs
      rw [record_before] at hlinked
      exact ⟨carried, hanswer hasks hlinked,
        hcarried.imp_right fun h => ⟨0, _, Nat.le_refl 0, rfl, h⟩⟩
    | succ j =>
      obtain ⟨later, hlater, horigin⟩ := ih (record_filled turn hcache) hafter hrest hs
      refine ⟨later, hlater, ?_⟩
      rcases horigin with rfl | ⟨k, t, hk, ht, hobtains⟩
      · exact hcarried.imp_right fun h => ⟨0, _, Nat.zero_le _, rfl, h⟩
      · exact Or.inr ⟨k + 1, t, Nat.succ_le_succ hk, ht, hobtains⟩

theorem kept_of_harmless (turns : List Turn) {w : RelayWorld} (hcache : Filled w.cache) {pubkey : String}
    (hharmless : ∀ r ∈ play texts bootstrap_relays ttl turns w,
      r.Harmless texts bootstrap_relays pubkey) :
    Kept bootstrap_relays pubkey (play texts bootstrap_relays ttl turns w) := by
  intro i j r s relays hij hr hs hobtains hsome hasks hlinked
  induction turns generalizing w i j with
  | nil => cases hr
  | cons turn turns ih =>
    obtain ⟨-, hrest⟩ := List.forall_mem_cons.mp hharmless
    obtain ⟨j, rfl⟩ := Nat.exists_eq_succ_of_ne_zero (Nat.ne_zero_of_lt hij)
    cases i with
    | zero =>
      cases hr
      obtain ⟨carried, hcarries, horigin⟩ := play_holds turns (record_filled turn hcache)
        (obtains_holds hcache hobtains) hrest hs hasks hlinked
      refine ⟨carried, hcarries, horigin.imp_right ?_⟩
      rintro ⟨k, t, hk, ht, hlater⟩
      exact ⟨k + 1, t, Nat.succ_pos k, Nat.succ_le_succ hk, ht, hlater⟩
    | succ i =>
      obtain ⟨carried, hcarries, horigin⟩ := ih (record_filled turn hcache) hrest i j
        (Nat.lt_of_succ_lt_succ hij) hr hs
      refine ⟨carried, hcarries, horigin.imp_right ?_⟩
      rintro ⟨k, t, hik, hk, ht, hlater⟩
      exact ⟨k + 1, t, Nat.succ_lt_succ hik, Nat.succ_le_succ hk, ht, hlater⟩

/-! ## Where a list is lost -/

theorem entry_injective : Function.Injective Relay.entry := by
  rintro ⟨url, read, write⟩ ⟨url', read', write'⟩ h
  simpa [Relay.entry] using h

theorem Holds.unique {pubkey : String} {relays other : List Relay} (h : Holds texts w pubkey relays)
    (h' : Holds texts w pubkey other) : relays = other := by
  obtain ⟨fetched_at, hget⟩ := h
  obtain ⟨fetched_at', hget'⟩ := h'
  have hsame := hget.symm.trans hget'
  simp only [Except.ok.injEq, Option.some.injEq, CachedRelayList.mk.injEq] at hsame
  exact List.map_injective_iff.mpr entry_injective hsame.1

theorem Record.Carries.nil {r : Record} {relays : List Relay} (h : r.Carries []) (h' : r.Carries relays) :
    relays = [] := by
  obtain ⟨fetched_at, hanswer⟩ := h
  obtain ⟨fetched_at', hanswer'⟩ := h'
  have hsame := hanswer.symm.trans hanswer'
  have hboth : relays = [] ∧ fetched_at = fetched_at' := by simpa [_response, eq_comm] using hsame
  exact hboth.1

/-- A list in the cache was there before, or the turn obtained it. -/
theorem held_before {pubkey : String} {relays : List Relay} (turn : Turn) (hcache : Filled w.cache)
    (hholds : Holds texts (record texts bootstrap_relays ttl turn w).after pubkey relays)
    (hsome : relays ≠ []) :
    (record texts bootstrap_relays ttl turn w).Obtains bootstrap_relays pubkey relays ∨
      Holds texts w pubkey relays ∧
        ∀ other, ¬(record texts bootstrap_relays ttl turn w).Obtains bootstrap_relays pubkey other := by
  by_cases hobtains : ∃ other,
      (record texts bootstrap_relays ttl turn w).Obtains bootstrap_relays pubkey other
  · obtain ⟨other, hobtains⟩ := hobtains
    rw [hholds.unique (obtains_holds hcache hobtains)]
    exact Or.inl hobtains
  · refine Or.inr ⟨?_, not_exists.mp hobtains⟩
    cases turn with
    | change mappings => exact hholds
    | lookup other clock fetched =>
      obtain ⟨fetches, x, w', hrecord, hlooked⟩ := record_lookup texts bootstrap_relays ttl
        other clock fetched hcache
      rw [hrecord] at hholds hobtains
      cases hlooked with
      | unlinked hlinked => exact hholds
      | cached found found_at hlinked hfound => exact hholds
      | failed e found hlinked hfetched hfound => exact hholds
      | refreshed found now hlinked hfetched =>
        by_cases hkey : pubkey = other
        · subst hkey
          obtain rfl := hholds.unique ⟨now, get_store texts now pubkey found w.cache⟩
          rcases fetched_cases hfetched with ⟨rfl, -⟩ | ⟨events, event, rfl, hrelays, hnewest, hparse⟩
          · exact absurd rfl hsome
          · exact absurd ⟨relays, clock, events, event, rfl, rfl, hrelays, hnewest, hparse⟩ hobtains
        · obtain ⟨fetched_at, hget⟩ := hholds
          exact ⟨fetched_at, (get_store_other texts now hkey _ w.cache).symm.trans hget⟩

/-- Where a cached list comes from: the start, or the last turn that obtained one. -/
theorem held_source {pubkey : String} {relays : List Relay} (hsome : relays ≠ []) (turns : List Turn)
    {w : RelayWorld} (hcache : Filled w.cache) {j : Nat} {s : Record}
    (hs : (play texts bootstrap_relays ttl turns w)[j]? = some s)
    (hholds : Holds texts s.before pubkey relays) :
    (Holds texts w pubkey relays ∧ ∀ (k : Nat) (t : Record) (other : List Relay), k < j →
        (play texts bootstrap_relays ttl turns w)[k]? = some t →
        ¬t.Obtains bootstrap_relays pubkey other) ∨
      ∃ i r, i < j ∧ (play texts bootstrap_relays ttl turns w)[i]? = some r ∧
        r.Obtains bootstrap_relays pubkey relays ∧
        ∀ (k : Nat) (t : Record) (other : List Relay), i < k → k < j →
          (play texts bootstrap_relays ttl turns w)[k]? = some t →
          ¬t.Obtains bootstrap_relays pubkey other := by
  induction turns generalizing w j with
  | nil => cases hs
  | cons turn turns ih =>
    cases j with
    | zero =>
      cases hs
      rw [record_before] at hholds
      exact Or.inl ⟨hholds, fun k t other hk => absurd hk (Nat.not_lt_zero k)⟩
    | succ j =>
      rcases ih (record_filled turn hcache) hs with ⟨hafter, hnone⟩ | ⟨i, r, hi, hr, hobtains, hnone⟩
      · rcases held_before turn hcache hafter hsome with hobtains | ⟨hbefore, hfirst⟩
        · refine Or.inr ⟨0, _, Nat.succ_pos j, rfl, hobtains, fun k t other hk hkj ht => ?_⟩
          obtain ⟨k, rfl⟩ := Nat.exists_eq_succ_of_ne_zero (Nat.ne_zero_of_lt hk)
          exact hnone k t other (Nat.lt_of_succ_lt_succ hkj) ht
        · refine Or.inl ⟨hbefore, fun k t other hkj ht => ?_⟩
          cases k with
          | zero =>
            cases ht
            exact hfirst other
          | succ k => exact hnone k t other (Nat.lt_of_succ_lt_succ hkj) ht
      · refine Or.inr ⟨i + 1, r, Nat.succ_lt_succ hi, hr, hobtains, fun k t other hik hkj ht => ?_⟩
        obtain ⟨k, rfl⟩ := Nat.exists_eq_succ_of_ne_zero (Nat.ne_zero_of_lt hik)
        exact hnone k t other (Nat.lt_of_succ_lt_succ hik) (Nat.lt_of_succ_lt_succ hkj) ht

/-- A fetch that finds nothing is answered with the empty list, for a linked pubkey. -/
theorem findsNothing_answer {pubkey : String} {turn : Turn} (hcache : Filled w.cache)
    (h : (record texts bootstrap_relays ttl turn w).FindsNothing bootstrap_relays pubkey) :
    (record texts bootstrap_relays ttl turn w).Asks pubkey ∧ LinkedIn w pubkey ∧
      (record texts bootstrap_relays ttl turn w).Carries [] ∧
      ∀ other, ¬(record texts bootstrap_relays ttl turn w).Obtains bootstrap_relays pubkey other := by
  obtain ⟨clock, fetched, hturn, hfetches, hnothing⟩ := h
  cases turn with
  | change mappings => cases hturn
  | lookup other clock' fetched' =>
    obtain ⟨fetches, x, w', hrecord, hlooked⟩ := record_lookup texts bootstrap_relays ttl
      other clock' fetched' hcache
    rw [hrecord] at hturn hfetches ⊢
    cases hturn
    have hempty : fetch_relay_list bootstrap_relays fetched = .ok [] := by
      unfold fetch_relay_list
      rcases hnothing with hrelays | rfl
      · rw [if_pos hrelays]
      · exact ite_self _
    have hnone : ∀ other, ¬Record.Obtains bootstrap_relays pubkey
        ⟨.lookup pubkey clock fetched, w, fetches, some x, w'⟩ other := by
      rintro other ⟨clock', events, event, hsame, -, hrelays, hnewest, -⟩
      cases hsame
      rcases hnothing with hnil | hnil
      · exact hrelays hnil
      · cases hnil
        cases hnewest
    cases hlooked with
    | unlinked hlinked => cases hfetches
    | cached found found_at hlinked hfound => cases hfetches
    | failed e found hlinked hfetched hfound => cases hempty.symm.trans hfetched
    | refreshed found now hlinked hfetched =>
      obtain rfl := Except.ok.inj (hempty.symm.trans hfetched)
      exact ⟨⟨clock, fetched, rfl⟩, hlinked, ⟨now, rfl⟩, hnone⟩

theorem exists_record (turns : List Turn) {w : RelayWorld} (hcache : Filled w.cache) {j : Nat}
    {s : Record} (hs : (play texts bootstrap_relays ttl turns w)[j]? = some s) :
    ∃ turn w', s = record texts bootstrap_relays ttl turn w' ∧ Filled w'.cache := by
  induction turns generalizing w j with
  | nil => cases hs
  | cons turn turns ih =>
    cases j with
    | zero => exact ⟨turn, w, (Option.some.inj hs).symm, hcache⟩
    | succ j => exact ih (record_filled turn hcache) hs

theorem harmless_of_kept (turns : List Turn) {w : RelayWorld} (hcache : Filled w.cache) {pubkey : String}
    (hstart : ∀ relays, Holds texts w pubkey relays → relays = [])
    (hkept : Kept bootstrap_relays pubkey (play texts bootstrap_relays ttl turns w)) :
    ∀ s ∈ play texts bootstrap_relays ttl turns w, s.Harmless texts bootstrap_relays pubkey := by
  intro s hs hnothing relays hholds
  by_contra hsome
  obtain ⟨j, hj⟩ := List.mem_iff_getElem?.mp hs
  rcases held_source hsome turns hcache hj hholds with ⟨hbefore, -⟩ | ⟨i, r, hij, hr, hobtains, hnone⟩
  · exact hsome (hstart relays hbefore)
  · obtain ⟨turn, w', rfl, hcache'⟩ := exists_record turns hcache hj
    obtain ⟨hasks, hlinked, hempty, hself⟩ := findsNothing_answer hcache' hnothing
    rw [← record_before turn w'] at hlinked
    obtain ⟨carried, hcarries, horigin⟩ := hkept i j r _ relays hij hr hj hobtains hsome hasks hlinked
    rcases horigin with rfl | ⟨k, t, hik, hkj, ht, hlater⟩
    · exact hsome (hempty.nil hcarries)
    · rcases Nat.lt_or_eq_of_le hkj with hkj | rfl
      · exact hnone k t carried hik hkj ht hlater
      · cases hj.symm.trans ht
        exact hself carried hlater

end Turns

/-- **Relay lists.** A list that was obtained once is answered until another is obtained exactly when
no fetch that finds nothing meets a list in the cache. -/
theorem relay_list_kept_iff (texts : PythonTexts) (bootstrap_relays : List String) (ttl : Int)
    (turns : List Turn) (mappings : MappingDb) (pubkey : String) :
    Kept bootstrap_relays pubkey (play texts bootstrap_relays ttl turns ⟨mappings, Table.empty⟩) ↔
      ∀ r ∈ play texts bootstrap_relays ttl turns ⟨mappings, Table.empty⟩,
        r.Harmless texts bootstrap_relays pubkey := by
  constructor
  · apply harmless_of_kept turns .empty
    rintro relays ⟨fetched_at, hget⟩
    cases hget
  · exact kept_of_harmless turns .empty

/-! ## An outage -/

def linkedKey : MappingDb := ((MappingStore.link "alice" "aa" {}).run (fun _ => 0) MappingDb.empty none).2

/-- The list is fetched, and an hour later no relay answers. -/
def outage : List Turn :=
  [.lookup "aa" (fun _ => 0) (.ok [⟨5, [["r", "wss://a"]]⟩]), .lookup "aa" (fun _ => 3600) (.ok [])]

/-- The cache after the first lookup. -/
def knownList : RelayLists :=
  RelayCache.store 0 "aa" ([⟨"wss://a", true, true⟩].map Relay.entry) Table.empty

theorem outage_loses : ¬Kept ["wss://b"] "aa"
    (play PeerReplies.plainTexts ["wss://b"] 3600 outage ⟨linkedKey, Table.empty⟩) := by
  intro hkept
  have hlinked : ∀ cache, LinkedIn ⟨linkedKey, cache⟩ "aa" :=
    fun _ => ⟨_, List.mem_cons_self .., rfl, rfl⟩
  have hstart : ∀ relays, Holds PeerReplies.plainTexts ⟨linkedKey, Table.empty⟩ "aa" relays →
      relays = [] := by
    rintro relays ⟨fetched_at, hget⟩
    cases hget
  have hfetch : fetch_relay_list ["wss://b"] (.ok [⟨5, [["r", "wss://a"]]⟩]) =
      .ok [⟨"wss://a", true, true⟩] := rfl
  have hnone : RelayCache.get PeerReplies.plainTexts "aa" Table.empty = .ok none := rfl
  obtain ⟨m, hfirst⟩ := record_of_stale 3600 (fun _ => 0) (hlinked Table.empty) hnone
    (by rintro _ ⟨⟩) hfetch
  have hget : RelayCache.get PeerReplies.plainTexts "aa" knownList =
      .ok (some ⟨[⟨"wss://a", true, true⟩].map Relay.entry, 0⟩) := get_store _ 0 "aa" _ Table.empty
  have hempty : fetch_relay_list ["wss://b"] (.ok []) = .ok [] := rfl
  obtain ⟨n, hsecond⟩ := record_of_stale 3600 (fun _ => 3600) (hlinked knownList) hget
    (by rintro _ ⟨⟩; decide) hempty
  have hharmless := harmless_of_kept outage .empty hstart hkept _
    (List.mem_cons_of_mem _ (List.mem_cons_self ..))
  rw [hfirst] at hharmless
  change (record _ _ _ _ ⟨linkedKey, knownList⟩).Harmless _ _ _ at hharmless
  rw [hsecond] at hharmless
  cases hharmless ⟨_, _, rfl, rfl, Or.inr rfl⟩ _ ⟨0, hget⟩

end NostrAuth.Relays
