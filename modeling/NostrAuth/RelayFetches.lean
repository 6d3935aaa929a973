import NostrAuth.Relays

/-! How often the relay server fetches: lookups of one pubkey by any number of threads, call by
call, on a clock that does not run backwards. -/

set_option autoImplicit false

namespace NostrAuth.RelayFetches

open Sockets Interaction RelayLookupServer

abbrev LookupEntry := Entry RelayOp RelayOp.Ans RelayInput RelayWorld

abbrev LookupConfig := Config RelayOp RelayOp.Ans Exn Json RelayInput RelayWorld String

/-- The clock does not run backwards along the log. -/
def Forward (log : List LookupEntry) : Prop := (log.map fun e => e.input.now).Pairwise (· ≤ ·)

/-- A fetch for the pubkey starts at this position. -/
def FetchAt (log : List LookupEntry) (pubkey : String) (k : Nat) (e : LookupEntry) : Prop :=
  log[k]? = some e ∧ e.op = .fetch_relay_list pubkey

/-- Fetches for the pubkey start at least so many seconds apart. -/
def Spaced (seconds : Int) (pubkey : String) (log : List LookupEntry) : Prop :=
  ∀ (k k' : Nat) (e e' : LookupEntry), k < k' → FetchAt log pubkey k e → FetchAt log pubkey k' e' →
    e.input.now + seconds ≤ e'.input.now

/-- Whoever fetches has read the cache after the fetches of the last `seconds` seconds were stored. -/
def ReadsStored (seconds : Int) (pubkey : String) (log : List LookupEntry) : Prop :=
  ∀ (k m k' : Nat) (e r e' : LookupEntry), k < k' → FetchAt log pubkey k e → FetchAt log pubkey k' e' →
    m < k' → log[m]? = some r → r.who = e'.who → r.op = .cache_get pubkey →
    r.input.now < e.input.now + seconds →
    ∃ (s : Nat) (stored : LookupEntry) (relays : List RelayEntry), k < s ∧ s < m ∧
      log[s]? = some stored ∧ stored.op = .cache_store pubkey relays

/-! ## What a lookup has seen when it fetches -/

/-- The lookup of `pubkey` fetches for that pubkey, having found no fresh entry. -/
def Guard (ttl : Int) (pubkey : String) (h : History RelayOp RelayOp.Ans) : RelayOp → Prop
  | .fetch_relay_list key => key = pubkey ∧
      ∃ found, ⟨.cache_get pubkey, .ok found⟩ ∈ h ∧ ∀ cached, found = some cached →
        ∃ now : Int, ⟨.time, now⟩ ∈ h ∧ ttl ≤ max 0 (now - cached.fetched_at)
  | _ => True

theorem refresh_guarded {ttl : Int} {pubkey : String} {h : History RelayOp RelayOp.Ans}
    (found : Option CachedRelayList) (hfetch : Guard ttl pubkey h (.fetch_relay_list pubkey)) :
    (refresh pubkey found).wp (fun _ => True) (Guard ttl pubkey) (fun _ _ => True) h := by
  refine ⟨hfetch, fun fetched _ => ?_⟩
  cases fetched with
  | error e => exact ⟨trivial, fun _ _ => trivial⟩
  | ok fetched =>
    refine ⟨trivial, fun _ _ => ⟨trivial, fun refreshed _ => ?_⟩⟩
    cases refreshed with
    | error e => trivial
    | ok refreshed => cases refreshed <;> trivial

theorem resolve_guarded (ttl : Int) (pubkey : String) :
    (_resolve_relays ttl pubkey).wp (fun _ => True) (Guard ttl pubkey) (fun _ _ => True) [] := by
  refine ⟨trivial, fun found _ => ?_⟩
  cases found with
  | error e => trivial
  | ok found =>
    cases found with
    | none => trivial
    | some identity =>
      refine ⟨trivial, fun cached _ => ?_⟩
      cases cached with
      | error e => trivial
      | ok cached =>
        cases cached with
        | none => exact refresh_guarded none ⟨rfl, none, by simp, by rintro _ ⟨⟩⟩
        | some cached =>
          refine ⟨trivial, fun now _ => ?_⟩
          show (if decide (max 0 (now - cached.fetched_at) < ttl) = true then _
            else refresh pubkey (some cached) : Resolver Json).wp _ _ _ _
          split
          · trivial
          · next hstale =>
            have hlate : ttl ≤ max 0 (now - cached.fetched_at) :=
              Int.not_lt.mp fun h => hstale (decide_eq_true h)
            refine refresh_guarded _ ⟨rfl, some cached, by simp, ?_⟩
            rintro _ ⟨⟩
            exact ⟨now, by simp, hlate⟩

/-! ## What the cache holds -/

/-- The row of the pubkey is at least as young as that. -/
def YoungRow (t : RelayLists) (pubkey : String) (since : Int) : Prop :=
  ∃ row ∈ t, row.pubkey = pubkey ∧ since ≤ row.fetched_at

theorem young_store_self (now : Int) (pubkey : String) (relays : List RelayEntry) (t : RelayLists) :
    YoungRow (RelayCache.store now pubkey relays t) pubkey now :=
  ⟨_, mem_store now pubkey relays t, rfl, Int.le_refl now⟩

/-- A store at a later time makes no row older. -/
theorem young_store {t : RelayLists} {pubkey : String} {since now : Int} (h : YoungRow t pubkey since)
    (hnow : since ≤ now) (other : String) (relays : List RelayEntry) :
    YoungRow (RelayCache.store now other relays t) pubkey since := by
  obtain ⟨row, hrow, hkey, hsince⟩ := h
  unfold RelayCache.store
  split
  · next t' hinsert => exact ⟨row, (Table.mem_of_insert hinsert).mpr (Or.inl hrow), hkey, hsince⟩
  · refine ⟨_, Table.mem_update.mpr ⟨row, hrow, rfl⟩, ?_, ?_⟩
    · split
      · exact hkey
      · exact hkey
    · split
      · exact hnow
      · exact hsince

theorem get_young {texts : PythonTexts} {t : RelayLists} {pubkey : String} {since : Int}
    {found : Option CachedRelayList} (h : YoungRow t pubkey since)
    (hget : RelayCache.get texts pubkey t = .ok found) :
    ∃ cached, found = some cached ∧ since ≤ cached.fetched_at := by
  obtain ⟨row, hrow, hkey, hsince⟩ := h
  have hfind : (t.find fun r => r.pubkey == pubkey) = some row :=
    Table.find_eq hrow (by simpa using hkey) fun r hr => hkey.symm ▸ (by simpa using hr)
  rw [RelayCache.get, hfind] at hget
  cases hdecode : RelayCache._decode texts row.relays with
  | error e =>
    simp only [hdecode] at hget
    cases hget
  | ok relays =>
    simp only [hdecode] at hget
    cases hget
    exact ⟨_, rfl, hsince⟩

section Runs

variable {texts : PythonTexts} {ttl : Int} {w : RelayWorld} {c : LookupConfig}

theorem Forward.le {log : List LookupEntry} (h : Forward log) {a b : Nat} {e e' : LookupEntry}
    (hab : a < b) (he : log[a]? = some e) (he' : log[b]? = some e') : e.input.now ≤ e'.input.now := by
  obtain ⟨ha, rfl⟩ := List.getElem?_eq_some_iff.mp he
  obtain ⟨hb, rfl⟩ := List.getElem?_eq_some_iff.mp he'
  have hle := List.pairwise_iff_getElem.mp h a b (by simpa using ha) (by simpa using hb) hab
  rw [List.getElem_map, List.getElem_map] at hle
  exact hle

theorem Forward.sublist {log log' : List LookupEntry} (h : Forward log) (hsub : log'.Sublist log) :
    Forward log' := List.Pairwise.sublist (hsub.map _) h

/-- A stored list stays, or a younger one takes its place. -/
theorem stored_stays (hc : Reachable (resolvers texts ttl) w c) (hclock : Forward c.log) {k : Nat}
    {e : LookupEntry} {pubkey : String} {relays : List RelayEntry} (he : c.log[k]? = some e)
    (hop : e.op = .cache_store pubkey relays) : YoungRow c.world.cache pubkey e.input.now := by
  refine hc.logged (P := fun v log => Forward log → ∀ (k : Nat) (e : LookupEntry)
    (relays : List RelayEntry), log[k]? = some e → e.op = .cache_store pubkey relays →
      YoungRow v.cache pubkey e.input.now) (by simp) ?_ (fun _ _ _ ih => ih) hclock k e relays he hop
  intro i o inp v log ih hclock k e relays he hop
  rcases getElem?_append_singleton he with ⟨hlt, hold⟩ | ⟨rfl, rfl⟩
  · have hyoung := ih (hclock.sublist (List.sublist_append_left ..)) k e relays hold hop
    have hlast : (log ++ [(resolvers texts ttl).entry i o inp v])[log.length]? =
        some ((resolvers texts ttl).entry i o inp v) := by
      rw [List.getElem?_append_right (Nat.le_refl _), Nat.sub_self]
      rfl
    have hnow : e.input.now ≤ inp.now := hclock.le hlt he hlast
    cases o with
    | cache_store other stored => exact young_store hyoung hnow other stored
    | get_by_pubkey _ | cache_get _ | time | fetch_relay_list _ | log _ => exact hyoung
  · cases hop
    exact young_store_self inp.now pubkey relays v.cache

/-- What a lookup found in the cache is as young as every list stored before. -/
theorem read_young (hc : Reachable (resolvers texts ttl) w c) (hclock : Forward c.log) {s m : Nat}
    {stored r : LookupEntry} {pubkey : String} {relays : List RelayEntry} (hsm : s < m)
    (hs : c.log[s]? = some stored) (hop : stored.op = .cache_store pubkey relays)
    (hr : c.log[m]? = some r) {found : Option CachedRelayList}
    (hread : r.event = ⟨.cache_get pubkey, .ok found⟩) :
    ∃ cached, found = some cached ∧ stored.input.now ≤ cached.fetched_at := by
  obtain ⟨c', hc', hlog, hworld, _⟩ := hc.snapshot hr
  have hclock' : Forward c'.log := by
    rw [hlog]
    exact hclock.sublist (List.take_sublist m _)
  have hs' : c'.log[s]? = some stored := by
    rw [hlog, List.getElem?_take, if_pos hsm]
    exact hs
  have hyoung := stored_stays hc' hclock' hs' hop
  rw [hworld] at hyoung
  have hget : RelayCache.get texts pubkey r.before.cache = .ok found :=
    congrArg Prod.fst (hc.exec_of_event hr hread)
  exact get_young hyoung hget

/-- A clock reading is the time of its step. -/
theorem time_read (hc : Reachable (resolvers texts ttl) w c) {q : Nat} {x : LookupEntry}
    (hx : c.log[q]? = some x) {now : Int} (hread : x.event = ⟨.time, now⟩) : x.input.now = now :=
  congrArg Prod.fst (hc.exec_of_event hx hread)

/-- **Fetches.** Where everyone who fetches had read the cache after the recent fetches were stored,
fetches for one pubkey are a TTL apart. -/
theorem fetches_spaced (texts : PythonTexts) (ttl : Int) (w : RelayWorld) (c : LookupConfig)
    (hc : Reachable (resolvers texts ttl) w c) (hclock : Forward c.log) (pubkey : String)
    (hstored : ReadsStored ttl pubkey c.log) : Spaced ttl pubkey c.log := by
  rintro k k' e e' hkk' he ⟨he', hop'⟩
  obtain ⟨j, -, hguard⟩ := (hc.guarded (R := fun _ => True) (fun _ _ _ => trivial)
    fun j => resolve_guarded ttl j).log k' e' he'
  rw [hop'] at hguard
  obtain ⟨rfl, hfound⟩ := hguard
  have hee' := hclock.le hkk' he.1 he'
  obtain ⟨found, hread, hstale⟩ := hfound
  obtain ⟨m, r, hmk, hr, hwho, hevent⟩ := exists_of_mem_calls_take hread
  have hrop : r.op = .cache_get pubkey := congrArg Event.op hevent
  have hre' := hclock.le hmk hr he'
  by_cases hrecent : r.input.now < e.input.now + ttl
  · obtain ⟨s, stored, relays, hks, hsm, hs, hsop⟩ :=
      hstored k m k' e r e' hkk' he ⟨he', hop'⟩ hmk hr hwho hrop hrecent
    obtain ⟨cached, rfl, hyoung⟩ := read_young hc hclock hsm hs hsop hr hevent
    obtain ⟨now, htime, hlate⟩ := hstale cached rfl
    obtain ⟨q, x, hqk, hx, -, htimed⟩ := exists_of_mem_calls_take htime
    have hnow := time_read hc hx htimed
    have hxe' := hclock.le hqk hx he'
    have hes := hclock.le hks he.1 hs
    omega
  · omega

end Runs

/-! ## A failing fetch -/

/-- Two lookups whose fetches fail, the second a second after the first. -/
def failingLookups : LookupConfig :=
  (resolvers PeerReplies.plainTexts 3600).after
    ((resolvers PeerReplies.plainTexts 3600).after (Config.init ⟨Relays.linkedKey, Table.empty⟩) 0 "aa"
      fun _ => ⟨0, .error "down"⟩) 1 "aa" fun _ => ⟨1, .error "down"⟩

/-- A fetch that failed is followed by another one second later. -/
theorem failing_fetches_meet : ∃ c, Reachable (resolvers PeerReplies.plainTexts 3600)
    ⟨Relays.linkedKey, Table.empty⟩ c ∧ Forward c.log ∧ ¬Spaced 3600 "aa" c.log := by
  have hclock : Forward failingLookups.log := by
    show List.Pairwise (· ≤ ·) [0, 0, 0, 0, 1, 1, 1, 1]
    decide
  refine ⟨failingLookups, (Reachable.init.after rfl _ _).after rfl _ _, hclock, fun h => ?_⟩
  have hspaced : (0 : Int) + 3600 ≤ 1 := h 2 6 _ _ (by decide) ⟨rfl, rfl⟩ ⟨rfl, rfl⟩
  omega

/-! ## A stored list -/

/-- A fetch at 0 whose list is stored, a lookup that finds it fresh a second before the hour is over,
and one that reads it then too but asks for the time a second later. -/
def storedLookups : LookupConfig :=
  let stored := (resolvers PeerReplies.plainTexts 3600).after
    (Config.init ⟨Relays.linkedKey, Table.empty⟩) 0 "aa" fun _ => ⟨0, .ok []⟩
  let fresh := (resolvers PeerReplies.plainTexts 3600).after stored 1 "aa" fun _ => ⟨3599, .ok []⟩
  (resolvers PeerReplies.plainTexts 3600).after fresh 2 "aa"
    fun n => ⟨if n < 2 then 3599 else 3600, .ok []⟩

/-- Who makes the calls of these lookups, and which of the calls are fetches. -/
def storedCalls : List (Nat × Bool) :=
  [(0, false), (0, false), (0, true), (0, false), (0, false), (1, false), (1, false), (1, false),
    (2, false), (2, false), (2, false), (2, true), (2, false), (2, false)]

theorem storedLookups_log :
    storedLookups.log.map (fun e => (e.who, Relays.isFetch e.op)) = storedCalls := rfl

/-- The first and the third lookup fetch, and the third makes its calls last. -/
theorem storedLookups_entry {k : Nat} {e : LookupEntry} (h : storedLookups.log[k]? = some e) :
    (Relays.isFetch e.op = true → k = 2 ∨ k = 11 ∧ e.who = 2) ∧ (e.who = 2 → 8 ≤ k) := by
  have hrow : (storedLookups.log.map fun e => (e.who, Relays.isFetch e.op))[k]? =
      some (e.who, Relays.isFetch e.op) := by
    rw [List.getElem?_map, h]
    rfl
  rw [storedLookups_log] at hrow
  obtain ⟨hk, hrow⟩ := List.getElem?_eq_some_iff.mp hrow
  have hall : ∀ k : Fin storedCalls.length,
      ((storedCalls.get k).2 = true → k.val = 2 ∨ k.val = 11 ∧ (storedCalls.get k).1 = 2) ∧
        ((storedCalls.get k).1 = 2 → 8 ≤ k.val) := by decide
  have hentry := hall ⟨k, hk⟩
  rw [List.get_eq_getElem, hrow] at hentry
  exact hentry

/-- The second lookup does not fetch; the third does, when the list is an hour old. -/
theorem stored_list_spaces : Spaced 3600 "aa" storedLookups.log ∧
    (storedLookups.log.filter fun e => Relays.isFetch e.op).map (fun e => (e.who, e.input.now)) =
      [(0, 0), (2, 3600)] := by
  have hclock : Forward storedLookups.log := by
    show List.Pairwise (· ≤ ·) [0, 0, 0, 0, 0, 3599, 3599, 3599, 3599, 3599, 3600, 3600, 3600, 3600]
    decide
  refine ⟨fetches_spaced PeerReplies.plainTexts 3600 ⟨Relays.linkedKey, Table.empty⟩ storedLookups
    (((Reachable.init.after rfl _ _).after rfl _ _).after rfl _ _) hclock "aa" ?_, rfl⟩
  intro k m k' e r e' hkk' he he' _ hr hwho _ _
  have hfetch : Relays.isFetch e.op = true := by rw [he.2]; rfl
  have hfetch' : Relays.isFetch e'.op = true := by rw [he'.2]; rfl
  -- the read before the second fetch comes after the list of the first was stored
  rcases (storedLookups_entry he'.1).1 hfetch' with rfl | ⟨rfl, hthird⟩
  · rcases (storedLookups_entry he.1).1 hfetch with rfl | ⟨rfl, -⟩ <;> omega
  · rcases (storedLookups_entry he.1).1 hfetch with rfl | ⟨rfl, -⟩
    · have hlate := (storedLookups_entry hr).2 (hwho.trans hthird)
      exact ⟨3, _, [], by omega, by omega, rfl, rfl⟩
    · omega

end NostrAuth.RelayFetches
