import NostrAuth.LookupServers

/-! The lookup servers over whole runs: who is served, which keys the relays are asked for, and what a
peer is told, while other processes write the identities database. -/

set_option autoImplicit false

namespace NostrAuth.LookupRuns

open Sockets Interaction IdentityLookupServer RelayLookupServer LookupServers

/-! ## The peer -/

/-- What `_uid_in_group` asks the user database for. -/
inductive AccountOp
  | getgrnam (name : String)
  | getpwuid (uid : Int)

/-- `grp.struct_group` -/
structure Group where
  gr_gid : Int
  gr_mem : List String

/-- The group, or the name of the user; `none` is a `KeyError`. -/
@[reducible] def AccountOp.Ans : AccountOp → Type
  | getgrnam _ => Option Group
  | getpwuid _ => Option String

/-- `_uid_in_group` of `ynh/identity_lookup_server.py`. -/
def _uid_in_group (uid gid : Int) (group_name : String) : Prog AccountOp AccountOp.Ans Exn Bool :=
  if uid = 0 then .ret true
  else
    .call (.getgrnam group_name) fun
      | none => .ret false
      | some group => .call (.getpwuid uid) fun
        | none => .ret false
        | some username => .ret (gid == group.gr_gid || group.gr_mem.contains username)

/-- What `_peer_credentials` returns, the uid and the gid, or the text of an `OSError`. -/
abbrev Peer := Except String (Int × Int)

abbrev ServerOp := AccountOp ⊕ (SocketOp ⊕ RelayOp)

abbrev ServerAns : ServerOp → Type := Sum.elim AccountOp.Ans LookupServers.Ans

/-- `_Handler.handle` of both servers, from the credentials on. -/
def handler (python : PythonJson) (server : LookupServer) (allowed_group : String) :
    Peer → Prog ServerOp ServerAns Exn Unit
  | .error e => .raise (.uncaught "OSError" e)
  | .ok (uid, gid) => do
    let permitted ← (_uid_in_group uid gid allowed_group).left
    (LookupServers.handle python server.name server.resolve permitted).right

/-! ## The server -/

/-- What a call finds: the user database, what the peer has sent, the identities database as its
writers have left it, the clock, and what the relays send. -/
structure ServerInput where
  groups : String → Option Group
  users : Int → Option String
  arrived : Bytes
  mappings : MappingDb
  relay : RelayInput

/-- The relay cache is all that the servers write. -/
def exec (texts : PythonTexts) : (o : ServerOp) → ServerInput → RelayLists → ServerAns o × RelayLists
  | .inl (.getgrnam name), inp, cache => (inp.groups name, cache)
  | .inl (.getpwuid uid), inp, cache => (inp.users uid, cache)
  | .inr (.inl (.recv size)), inp, cache => (⟨inp.arrived.take size, List.length_take_le ..⟩, cache)
  | .inr (.inl (.sendall _)), _, cache => ((), cache)
  | .inr (.inr o), inp, cache =>
    let done := RelayLookupServer.exec texts o inp.relay ⟨inp.mappings, cache⟩
    (done.1, done.2.cache)

/-- The server: one thread for each connection. -/
def lookups (python : PythonJson) (texts : PythonTexts) (server : LookupServer)
    (allowed_group : String) : Machine ServerOp ServerAns Exn Unit ServerInput RelayLists Peer where
  program := handler python server allowed_group
  exec := exec texts
  reboot := fun _ cache => cache

abbrev LookupRun := Config ServerOp ServerAns Exn Unit ServerInput RelayLists Peer

abbrev LookupHistory := History ServerOp ServerAns

/-! ## What a connection has seen -/

/-- What went over the socket, and what was looked up. -/
def session (h : LookupHistory) : History (SocketOp ⊕ RelayOp) LookupServers.Ans :=
  h.filterMap fun
    | ⟨.inl _, _⟩ => none
    | ⟨.inr o, r⟩ => some ⟨o, r⟩

theorem session_append (h h' : LookupHistory) : session (h ++ h') = session h ++ session h' :=
  List.filterMap_append

theorem session_inl (h : History AccountOp AccountOp.Ans) :
    session (h.map Prog.inlEvent) = [] := by
  simp [session, Prog.inlEvent]

theorem session_inr (h : History (SocketOp ⊕ RelayOp) LookupServers.Ans) :
    session (h.map Prog.inrEvent) = h := by
  induction h with
  | nil => rfl
  | cons v h ih => exact congrArg (v :: ·) ih

theorem mem_session {h : LookupHistory} {o : SocketOp ⊕ RelayOp} {r : LookupServers.Ans o}
    (hmem : (⟨o, r⟩ : Event (SocketOp ⊕ RelayOp) LookupServers.Ans) ∈ session h) :
    (⟨.inr o, r⟩ : Event ServerOp ServerAns) ∈ h := by
  obtain ⟨v, hv, heq⟩ := List.mem_filterMap.mp hmem
  obtain ⟨o', r'⟩ := v
  cases o' with
  | inl _ => cases heq
  | inr o' =>
    cases heq
    exact hv

/-- The peer is root, or the user database has put it into the group. -/
def Permitted (group_name : String) (peer : Peer) (h : LookupHistory) : Prop :=
  ∃ uid gid, peer = .ok (uid, gid) ∧ (uid = 0 ∨ ∃ (group : Group) (username : String),
    (⟨.inl (.getgrnam group_name), some group⟩ : Event ServerOp ServerAns) ∈ h ∧
    (⟨.inl (.getpwuid uid), some username⟩ : Event ServerOp ServerAns) ∈ h ∧
    (gid = group.gr_gid ∨ username ∈ group.gr_mem))

theorem Permitted.append {group_name : String} {peer : Peer} {h : LookupHistory}
    (hp : Permitted group_name peer h) (h' : LookupHistory) : Permitted group_name peer (h ++ h') := by
  obtain ⟨uid, gid, hpeer, hroot | ⟨group, username, hgroup, huser, hin⟩⟩ := hp
  · exact ⟨uid, gid, hpeer, Or.inl hroot⟩
  · exact ⟨uid, gid, hpeer, Or.inr ⟨group, username, List.mem_append_left _ hgroup,
      List.mem_append_left _ huser, hin⟩⟩

/-! ## A lookup -/

/-- The lookup has found the pubkey linked. -/
def FoundLinked (pubkey : String) (h : History RelayOp RelayOp.Ans) : Prop :=
  ∃ identity, ⟨.get_by_pubkey pubkey, .ok (some identity)⟩ ∈ h

/-- A lookup names no other key. It goes to the cache or to the relays only for a key that it has found
linked, and stores only what it has fetched. -/
def KeepsTo (pubkey : String) (h : History RelayOp RelayOp.Ans) : RelayOp → Prop
  | .get_by_pubkey key => key = pubkey
  | .cache_get key | .fetch_relay_list key => key = pubkey ∧ FoundLinked pubkey h
  | .cache_store key relays => key = pubkey ∧ ⟨.fetch_relay_list pubkey, .ok relays⟩ ∈ h
  | .time | .log _ => True

/-- The list was young, or this lookup has fetched in its place. -/
def Recent (ttl : Int) (pubkey : String) (h : History RelayOp RelayOp.Ans)
    (cached : CachedRelayList) : Prop :=
  (∃ now : Int, ⟨.time, now⟩ ∈ h ∧ max 0 (now - cached.fetched_at) < ttl) ∨
    ∃ fetched, ⟨.fetch_relay_list pubkey, fetched⟩ ∈ h

/-- What a lookup answers, and what it has seen of it. -/
inductive Seen : LookupServer → String → History RelayOp RelayOp.Ans → Json → Prop
  | identity {pubkey : String} {h : History RelayOp RelayOp.Ans} (found : Option Identity) :
      ⟨.get_by_pubkey pubkey, .ok found⟩ ∈ h →
      Seen .identity pubkey h (IdentityLookupServer.answer (.ok found))
  | unlinked {ttl : Int} {pubkey : String} {h : History RelayOp RelayOp.Ans} :
      ⟨.get_by_pubkey pubkey, .ok none⟩ ∈ h → Seen (.relay ttl) pubkey h unlinked
  | relays {ttl : Int} {pubkey : String} {h : History RelayOp RelayOp.Ans} (cached : CachedRelayList) :
      FoundLinked pubkey h → ⟨.cache_get pubkey, .ok (some cached)⟩ ∈ h → Recent ttl pubkey h cached →
      Seen (.relay ttl) pubkey h (_response cached.relays cached.fetched_at)
  | nothing {ttl : Int} {pubkey : String} {h : History RelayOp RelayOp.Ans} (e : String) :
      FoundLinked pubkey h → ⟨.cache_get pubkey, .ok none⟩ ∈ h →
      ⟨.fetch_relay_list pubkey, .error e⟩ ∈ h → Seen (.relay ttl) pubkey h (fallback none)

/-- The description of a lookup. -/
abbrev Looks (server : LookupServer) (pubkey : String) (p : Resolver Json)
    (h : History RelayOp RelayOp.Ans) : Prop :=
  p.wp (fun _ => True) (KeepsTo pubkey)
    (fun h' x => ∀ payload, x = .ok payload → Seen server pubkey h' payload) h

section Lookups

variable {ttl : Int} {pubkey : String} {h : History RelayOp RelayOp.Ans}

theorem looks_ret {server : LookupServer} {payload : Json} (hseen : Seen server pubkey h payload) :
    Looks server pubkey (.ret payload) h := by
  rintro _ ⟨⟩
  exact hseen

theorem looks_raise {server : LookupServer} {e : Exn} : Looks server pubkey (.raise e) h := by
  rintro _ ⟨⟩

theorem FoundLinked.append (hfound : FoundLinked pubkey h) (h' : History RelayOp RelayOp.Ans) :
    FoundLinked pubkey (h ++ h') := hfound.imp fun _ hmem => List.mem_append_left _ hmem

theorem refresh_looks {cached : Option CachedRelayList} (hfound : FoundLinked pubkey h)
    (hcached : ⟨.cache_get pubkey, .ok cached⟩ ∈ h) :
    Looks (.relay ttl) pubkey (refresh pubkey cached) h := by
  refine ⟨⟨rfl, hfound⟩, fun fetched _ => ?_⟩
  cases fetched with
  | error e =>
    refine ⟨trivial, fun _ _ => looks_ret ?_⟩
    have hfetch : (⟨.fetch_relay_list pubkey, .error e⟩ : Event RelayOp RelayOp.Ans) ∈
        h ++ [⟨.fetch_relay_list pubkey, .error e⟩] ++
          [⟨.log ("relay fetch failed for a linked pubkey: " ++ e), ()⟩] := by simp
    cases cached with
    | none =>
      exact .nothing e ((hfound.append _).append _)
        (List.mem_append_left _ (List.mem_append_left _ hcached)) hfetch
    | some cached =>
      exact .relays cached ((hfound.append _).append _)
        (List.mem_append_left _ (List.mem_append_left _ hcached)) (Or.inr ⟨_, hfetch⟩)
  | ok fetched =>
    refine ⟨⟨rfl, by simp⟩, fun _ _ => ⟨⟨rfl, (hfound.append _).append _⟩, fun refreshed _ => ?_⟩⟩
    cases refreshed with
    | error e => exact looks_raise
    | ok refreshed =>
      cases refreshed with
      | none => exact looks_raise
      | some refreshed =>
        apply looks_ret
        exact .relays refreshed (((hfound.append _).append _).append _) (by simp)
          (Or.inr ⟨.ok fetched, by simp⟩)

/-- **A lookup** keeps to its key, and answers what it has seen. -/
theorem resolve_looks (server : LookupServer) (pubkey : String) :
    Looks server pubkey (server.resolve pubkey) [] := by
  cases server with
  | identity =>
    refine ⟨rfl, fun found _ => ?_⟩
    cases found with
    | error e => exact looks_raise
    | ok found => exact looks_ret (.identity found (by simp))
  | relay ttl =>
    refine ⟨rfl, fun found _ => ?_⟩
    cases found with
    | error e => exact looks_raise
    | ok found =>
      cases found with
      | none => exact looks_ret (.unlinked (by simp))
      | some identity =>
        refine ⟨⟨rfl, identity, by simp⟩, fun cached _ => ?_⟩
        cases cached with
        | error e => exact looks_raise
        | ok cached =>
          cases cached with
          | none => exact refresh_looks ⟨identity, by simp⟩ (by simp)
          | some cached =>
            refine ⟨trivial, fun now _ => ?_⟩
            show Looks (.relay ttl) pubkey (if decide (max 0 (now - cached.fetched_at) < ttl) = true
              then _ else refresh pubkey (some cached)) _
            split
            · next hyoung =>
              apply looks_ret
              exact .relays cached ⟨identity, by simp⟩ (by simp)
                (Or.inl ⟨now, by simp, of_decide_eq_true hyoung⟩)
            · exact refresh_looks ⟨identity, by simp⟩ (by simp)

end Lookups

/-! ## A connection -/

/-- What was looked up. -/
def lookupsOf (h : History (SocketOp ⊕ RelayOp) LookupServers.Ans) : History RelayOp RelayOp.Ans :=
  h.filterMap fun
    | ⟨.inl _, _⟩ => none
    | ⟨.inr o, r⟩ => some ⟨o, r⟩

theorem lookupsOf_append (h h' : History (SocketOp ⊕ RelayOp) LookupServers.Ans) :
    lookupsOf (h ++ h') = lookupsOf h ++ lookupsOf h' := List.filterMap_append

theorem lookupsOf_inr (h : History RelayOp RelayOp.Ans) : lookupsOf (h.map Prog.inrEvent) = h := by
  induction h with
  | nil => rfl
  | cons v h ih => exact congrArg (v :: ·) ih

theorem received_inr (h : History RelayOp RelayOp.Ans) : received (h.map Prog.inrEvent) = [] := by
  induction h with
  | nil => rfl
  | cons v h ih => exact ih

/-- An error, or the answer for the pubkey that was asked for. -/
def Sends (python : PythonJson) (server : LookupServer)
    (h : History (SocketOp ⊕ RelayOp) LookupServers.Ans) (data : Bytes) : Prop :=
  (∃ message, data = line .compact (errorPayload message)) ∨
    ∃ pubkey payload, Accepts python (received h) pubkey ∧ Seen server pubkey (lookupsOf h) payload ∧
      data = line .compact payload

/-- What the connection of a permitted peer does next. -/
def Serves (python : PythonJson) (server : LookupServer)
    (h : History (SocketOp ⊕ RelayOp) LookupServers.Ans) : SocketOp ⊕ RelayOp → Prop
  | .inl (.recv _) => True
  | .inl (.sendall data) => Sends python server h data
  | .inr o => ∃ pubkey, Accepts python (received h) pubkey ∧ KeepsTo pubkey (lookupsOf h) o

section Connections

variable (python : PythonJson) (server : LookupServer)

theorem readMore_serves (data : Bytes) (h : History (SocketOp ⊕ RelayOp) LookupServers.Ans)
    (hread : received h = data) (hnone : lookupsOf h = []) :
    (readMore data).wp (fun _ => True) (Serves python server)
      (fun h' x => lookupsOf h' = [] ∧ x = .ok (received h')) h := by
  induction hn : _MAX_REQUEST_BYTES + 1 - data.length using Nat.strong_induction_on
    generalizing data h with
  | h n ih =>
    rw [readMore]
    by_cases hstop : endsLine data = true ∨ _MAX_REQUEST_BYTES < data.length
    · rw [dif_pos hstop]
      exact ⟨hnone, congrArg Except.ok hread.symm⟩
    · rw [dif_neg hstop]
      refine ⟨trivial, fun chunk _ => ?_⟩
      have hmore : ∀ size (chunk : {chunk : Bytes // chunk.length ≤ size}),
          received (h ++ [⟨.inl (.recv size), chunk⟩]) = data ++ chunk.val := by
        intro size chunk
        rw [received_append, hread]
        simp [received]
      have hstill : ∀ size (chunk : {chunk : Bytes // chunk.length ≤ size}),
          lookupsOf (h ++ [⟨.inl (.recv size), chunk⟩]) = [] := by
        intro size chunk
        rw [lookupsOf_append, hnone]
        rfl
      by_cases hend : chunk.val = []
      · simp only [if_pos hend]
        have hsame := hmore _ chunk
        rw [hend, List.append_nil] at hsame
        exact ⟨hstill _ chunk, congrArg Except.ok hsame.symm⟩
      · simp only [if_neg hend]
        obtain ⟨_, hshort⟩ := not_or.mp hstop
        have hpos := List.length_pos_iff.mpr hend
        refine ih _ ?_ _ _ (hmore _ chunk) (hstill _ chunk) rfl
        rw [← hn, List.length_append]
        omega

theorem request_serves :
    (LookupServers._read_line.bind fun data => Prog.ofExcept (requestOf python data)).wp (fun _ => True)
      (Serves python server) (fun h x => lookupsOf h = [] ∧ x = outcome python (received h)) [] := by
  rw [LookupServers._read_line, Prog.bind_eq, Prog.bind_assoc, Prog.wp_bind]
  apply Prog.wp_mono (fun _ _ hG => hG) _ _ (readMore_serves python server [] [] rfl rfl)
  rintro h x ⟨hnone, rfl⟩
  rw [Prog.andThen_ok]
  by_cases hlong : _MAX_REQUEST_BYTES < (received h).length
  · have hout : outcome python (received h) = .error (.valueError "request exceeds size limit") :=
      if_pos hlong
    simp only [if_pos hlong]
    exact ⟨hnone, hout.symm⟩
  · have hout : outcome python (received h) = requestOf python (received h) := if_neg hlong
    simp only [if_neg hlong, Prog.pure_eq, Prog.ret_bind]
    cases hrequest : requestOf python (received h) with
    | ok pubkey => exact ⟨hnone, (hout.trans hrequest).symm⟩
    | error e => exact ⟨hnone, (hout.trans hrequest).symm⟩

/-- **A connection** of a permitted peer. -/
theorem handle_serves :
    (LookupServers.handle python server.name server.resolve true).wp (fun _ => True) (Serves python server)
      (fun _ _ => True) [] := by
  rw [LookupServers.handle, if_pos rfl, Prog.bind_eq, Prog.wp_bind, Prog.wp_attempt]
  apply Prog.wp_mono (fun _ _ hG => hG) _ _ (request_serves python server)
  rintro h x ⟨hnone, hout⟩
  rw [Prog.andThen_ok]
  cases x with
  | error e =>
    show Prog.wp _ _ _ (if catches e = true then _ else _) h
    split
    · exact ⟨Or.inl ⟨_, rfl⟩, fun _ _ => trivial⟩
    · trivial
  | ok pubkey =>
    have hacc : Accepts python (received h) pubkey := outcome_ok.mp hout.symm
    show Prog.wp _ _ _ (Prog.bind _ _) h
    rw [Prog.wp_bind, Prog.wp_attempt]
    have hread : ∀ h' : History RelayOp RelayOp.Ans, received (h ++ h'.map Prog.inrEvent) = received h := by
      intro h'
      rw [received_append, received_inr, List.append_nil]
    have hlooks : ∀ h' : History RelayOp RelayOp.Ans, lookupsOf (h ++ h'.map Prog.inrEvent) = h' := by
      intro h'
      rw [lookupsOf_append, hnone, List.nil_append, lookupsOf_inr]
    have hstart : h = h ++ ([] : History RelayOp RelayOp.Ans).map Prog.inrEvent := (List.append_nil h).symm
    rw [hstart]
    apply Prog.wp_right
    apply Prog.wp_mono _ _ _ (resolve_looks server pubkey)
    · intro h' o hkeeps
      exact ⟨pubkey, (hread h').symm ▸ hacc, (hlooks h').symm ▸ hkeeps⟩
    · intro h' x hseen
      rw [Prog.andThen_ok]
      cases x with
      | error e =>
        refine ⟨⟨pubkey, (hread h').symm ▸ hacc, trivial⟩, fun _ _ => ?_⟩
        exact ⟨Or.inl ⟨_, rfl⟩, fun _ _ => trivial⟩
      | ok payload =>
        refine ⟨Or.inr ⟨pubkey, payload, (hread h').symm ▸ hacc, ?_, rfl⟩, fun _ _ => trivial⟩
        rw [hlooks h']
        exact hseen payload rfl

end Connections

/-- What a connection does next: it asks whether the peer is permitted, serves a permitted peer, and tells
anybody else that it is not. -/
def Guarded (python : PythonJson) (server : LookupServer) (allowed_group : String) (peer : Peer)
    (h : LookupHistory) : ServerOp → Prop
  | .inl _ => True
  | .inr o => (Permitted allowed_group peer h ∧ Serves python server (session h) o) ∨
      o = .inl (.sendall (line .compact (errorPayload "forbidden")))

theorem uid_in_group_permits (uid gid : Int) (group_name : String) :
    (_uid_in_group uid gid group_name).wp (fun _ => True) (fun _ _ => True) (fun h x => x = .ok true →
      Permitted group_name (.ok (uid, gid)) (h.map Prog.inlEvent)) [] := by
  unfold _uid_in_group
  split
  · next hroot => exact fun _ => ⟨uid, gid, rfl, Or.inl hroot⟩
  · refine ⟨trivial, fun group _ => ?_⟩
    cases group with
    | none => rintro ⟨⟩
    | some group =>
      refine ⟨trivial, fun username _ => ?_⟩
      cases username with
      | none => rintro ⟨⟩
      | some username =>
        intro htrue
        refine ⟨uid, gid, rfl, Or.inr ⟨group, username, by simp [Prog.inlEvent],
          by simp [Prog.inlEvent], ?_⟩⟩
        simpa using htrue

/-- **A thread of the server** keeps to that. -/
theorem handler_guarded (python : PythonJson) (server : LookupServer) (allowed_group : String)
    (peer : Peer) : (handler python server allowed_group peer).wp (fun _ => True)
      (Guarded python server allowed_group peer) (fun _ _ => True) [] := by
  cases peer with
  | error e => trivial
  | ok creds =>
    obtain ⟨uid, gid⟩ := creds
    show Prog.wp _ _ _ (Prog.bind _ _) ([] ++ ([] : History AccountOp AccountOp.Ans).map Prog.inlEvent)
    rw [Prog.wp_bind]
    apply Prog.wp_left
    apply Prog.wp_mono (fun _ _ _ => trivial) _ _ (uid_in_group_permits uid gid allowed_group)
    intro h x hpermits
    rw [List.nil_append]
    cases x with
    | error e => trivial
    | ok permitted =>
      show Prog.wp _ _ _ _ (h.map Prog.inlEvent)
      have hsession : ∀ h' : History (SocketOp ⊕ RelayOp) LookupServers.Ans,
          session (h.map Prog.inlEvent ++ h'.map Prog.inrEvent) = h' := by
        intro h'
        rw [session_append, session_inl, List.nil_append, session_inr]
      have hstart : h.map Prog.inlEvent = h.map Prog.inlEvent ++
          ([] : History (SocketOp ⊕ RelayOp) LookupServers.Ans).map Prog.inrEvent :=
        (List.append_nil _).symm
      rw [hstart]
      apply Prog.wp_right
      cases permitted with
      | false => exact ⟨Or.inr rfl, fun _ _ => trivial⟩
      | true =>
        apply Prog.wp_mono _ (fun _ _ _ => trivial) _ (handle_serves python server)
        intro h' o hserves
        refine Or.inl ⟨(hpermits rfl).append _, ?_⟩
        rw [hsession h']
        exact hserves

/-! ## Runs of the server -/

abbrev LookupEntry := Entry ServerOp ServerAns ServerInput RelayLists

/-- Before `k`, the peer of the connection `i` was permitted and had asked for the pubkey. -/
def AskedFor (python : PythonJson) (allowed_group : String) (c : LookupRun) (i k : Nat)
    (pubkey : String) : Prop :=
  ∃ peer, c.job i = some peer ∧ Permitted allowed_group peer (calls i (c.log.take k)) ∧
    Accepts python (received (session (calls i (c.log.take k)))) pubkey

/-- Before `k`, the connection `i` looked the pubkey up in the identities database, as it was then. -/
def LookedUp (c : LookupRun) (i k : Nat) (pubkey : String) (mappings : MappingDb) : Prop :=
  ∃ (m : Nat) (e : LookupEntry), m < k ∧ c.log[m]? = some e ∧ e.who = i ∧
    e.op = .inr (.inr (.get_by_pubkey pubkey)) ∧ e.input.mappings = mappings

/-- It was linked then. -/
def WasLinked (c : LookupRun) (i k : Nat) (pubkey : String) : Prop :=
  ∃ mappings, LookedUp c i k pubkey mappings ∧ ∃ r ∈ mappings, r.pubkey = pubkey ∧ r.enabled = 1

/-- Before `k`, these relays were fetched for the pubkey and stored at that time, for a permitted
peer that had asked for the pubkey, while it was linked. -/
def Fetched (python : PythonJson) (allowed_group : String) (c : LookupRun) (k : Nat) (pubkey : String)
    (relays : List Relay) (fetched_at : Int) : Prop :=
  ∃ (i m s : Nat) (e stored : LookupEntry), m < s ∧ s < k ∧
    c.log[m]? = some e ∧ e.who = i ∧ e.op = .inr (.inr (.fetch_relay_list pubkey)) ∧
    e.input.relay.fetched = .ok relays ∧
    AskedFor python allowed_group c i m pubkey ∧ WasLinked c i m pubkey ∧
    c.log[s]? = some stored ∧ stored.who = i ∧
    stored.op = .inr (.inr (.cache_store pubkey (relays.map Relay.entry))) ∧
    stored.input.relay.now = fetched_at

section Runs

variable {python : PythonJson} {texts : PythonTexts} {server : LookupServer} {allowed_group : String}
variable {cache : RelayLists} {c : LookupRun}

theorem guarded (hc : Reachable (lookups python texts server allowed_group) cache c) {k : Nat}
    {e : LookupEntry} (he : c.log[k]? = some e) : ∃ peer, c.job e.who = some peer ∧
      Guarded python server allowed_group peer (calls e.who (c.log.take k)) e.op :=
  (hc.guarded (R := fun _ => True) (fun _ _ _ => trivial)
    (handler_guarded python server allowed_group)).log k e he

/-- What a lookup does, it does for the key that its peer asked for. -/
theorem lookup_guarded (hc : Reachable (lookups python texts server allowed_group) cache c) {k : Nat}
    {e : LookupEntry} (he : c.log[k]? = some e) {o : RelayOp} (hop : e.op = .inr (.inr o)) :
    ∃ pubkey, AskedFor python allowed_group c e.who k pubkey ∧
      KeepsTo pubkey (lookupsOf (session (calls e.who (c.log.take k)))) o := by
  obtain ⟨peer, hpeer, hguard⟩ := guarded hc he
  rw [hop] at hguard
  rcases hguard with ⟨hpermitted, pubkey, haccepts, hkeeps⟩ | hforbidden
  · exact ⟨pubkey, ⟨peer, hpeer, hpermitted, haccepts⟩, hkeeps⟩
  · cases hforbidden

theorem mem_lookupsOf {h : History (SocketOp ⊕ RelayOp) LookupServers.Ans} {o : RelayOp} {r : o.Ans}
    (hmem : (⟨o, r⟩ : Event RelayOp RelayOp.Ans) ∈ lookupsOf h) :
    (⟨.inr o, r⟩ : Event (SocketOp ⊕ RelayOp) LookupServers.Ans) ∈ h := by
  obtain ⟨v, hv, heq⟩ := List.mem_filterMap.mp hmem
  obtain ⟨o', r'⟩ := v
  cases o' with
  | inl _ => cases heq
  | inr o' =>
    cases heq
    exact hv

/-- What a connection has looked up stands in the log. -/
theorem exists_of_looked {i k : Nat} {o : RelayOp} {r : o.Ans}
    (hmem : (⟨o, r⟩ : Event RelayOp RelayOp.Ans) ∈ lookupsOf (session (calls i (c.log.take k)))) :
    ∃ (m : Nat) (e : LookupEntry), m < k ∧ c.log[m]? = some e ∧ e.who = i ∧
      e.event = ⟨.inr (.inr o), r⟩ :=
  exists_of_mem_calls_take (mem_session (mem_lookupsOf hmem))

/-- What `get_by_pubkey` finds. -/
def linkedIdentity (mappings : MappingDb) (pubkey : String) : Option Identity :=
  (mappings.identities.find fun r => r.pubkey == pubkey && r.enabled == 1).map
    MappingStore._row_to_identity

theorem looked_up (hc : Reachable (lookups python texts server allowed_group) cache c) {i k : Nat}
    {pubkey : String} {found : Option Identity}
    (hmem : (⟨.get_by_pubkey pubkey, .ok found⟩ : Event RelayOp RelayOp.Ans) ∈
      lookupsOf (session (calls i (c.log.take k)))) :
    ∃ mappings, LookedUp c i k pubkey mappings ∧ found = linkedIdentity mappings pubkey := by
  obtain ⟨m, e, hlt, he, hwho, hevent⟩ := exists_of_looked hmem
  refine ⟨e.input.mappings, ⟨m, e, hlt, he, hwho, congrArg Event.op hevent, rfl⟩, ?_⟩
  have hanswer : (exec texts (.inr (.inr (.get_by_pubkey pubkey))) e.input e.before).1 = .ok found :=
    congrArg Prod.fst (hc.exec_of_event he hevent)
  simp only [exec, RelayLookupServer.exec, MappingStore.run_get_by_pubkey] at hanswer
  exact (Except.ok.inj hanswer).symm

theorem was_linked (hc : Reachable (lookups python texts server allowed_group) cache c) {i k : Nat}
    {pubkey : String} (hfound : FoundLinked pubkey (lookupsOf (session (calls i (c.log.take k))))) :
    WasLinked c i k pubkey := by
  obtain ⟨identity, hmem⟩ := hfound
  obtain ⟨mappings, hlooked, hsome⟩ := looked_up hc hmem
  obtain ⟨r, hr, _⟩ := Option.map_eq_some_iff.mp hsome.symm
  obtain ⟨hmem, hpubkey, hon⟩ := MappingStore.find_pubkey_eq_some.mp hr
  exact ⟨mappings, hlooked, r, hmem, hpubkey, hon⟩

/-- Whatever is fetched, a permitted peer has asked for, while it was linked. -/
theorem fetch_justified (hc : Reachable (lookups python texts server allowed_group) cache c) {k : Nat}
    {e : LookupEntry} (he : c.log[k]? = some e) {pubkey : String}
    (hop : e.op = .inr (.inr (.fetch_relay_list pubkey))) :
    AskedFor python allowed_group c e.who k pubkey ∧ WasLinked c e.who k pubkey := by
  obtain ⟨asked, hasked, rfl, hfound⟩ := lookup_guarded hc he hop
  exact ⟨hasked, was_linked hc hfound⟩

/-- Whatever is stored was fetched. -/
theorem stored_fetched (hc : Reachable (lookups python texts server allowed_group) cache c) {s k : Nat}
    (hlt : s < k) {stored : LookupEntry} (hs : c.log[s]? = some stored) {pubkey : String}
    {entries : List RelayEntry} (hop : stored.op = .inr (.inr (.cache_store pubkey entries))) :
    ∃ relays, entries = relays.map Relay.entry ∧
      Fetched python allowed_group c k pubkey relays stored.input.relay.now := by
  obtain ⟨asked, _, rfl, hmem⟩ := lookup_guarded hc hs hop
  obtain ⟨m, e, hms, he, hwho, hevent⟩ := exists_of_looked hmem
  have hfetch : e.op = .inr (.inr (.fetch_relay_list pubkey)) := congrArg Event.op hevent
  have hanswer : e.input.relay.fetched.map (fun relays => relays.map Relay.entry) = .ok entries :=
    congrArg Prod.fst (hc.exec_of_event he hevent)
  obtain ⟨hasked, hlinked⟩ := fetch_justified hc he hfetch
  rw [hwho] at hasked hlinked
  cases hfetched : e.input.relay.fetched with
  | error _ =>
    rw [hfetched] at hanswer
    cases hanswer
  | ok relays =>
    rw [hfetched] at hanswer
    obtain rfl := Except.ok.inj hanswer
    exact ⟨relays, rfl, stored.who, m, s, e, stored, hms, hlt, he, hwho, hfetch, hfetched, hasked,
      hlinked, hs, rfl, hop, rfl⟩

/-- A row of the cache was there at the start, or a lookup has stored it. -/
def Stored (cache : RelayLists) (log : List LookupEntry) (row : RelayRow) : Prop :=
  row ∈ cache ∨ ∃ (s : Nat) (stored : LookupEntry) (entries : List RelayEntry),
    log[s]? = some stored ∧ stored.op = .inr (.inr (.cache_store row.pubkey entries)) ∧
    row.relays = RelayCache._encode entries ∧ row.fetched_at = stored.input.relay.now

theorem Stored.append {log : List LookupEntry} {row : RelayRow} (h : Stored cache log row)
    (e : LookupEntry) : Stored cache (log ++ [e]) row := by
  rcases h with hrow | ⟨s, stored, entries, hs, hrest⟩
  · exact Or.inl hrow
  · refine Or.inr ⟨s, stored, entries, ?_, hrest⟩
    rw [List.getElem?_append_left (List.getElem?_eq_some_iff.mp hs).1, hs]

/-- What a store leaves in the cache: the rows of other keys, and the new list. -/
theorem mem_of_store {now : Int} {pubkey : String} {entries : List RelayEntry} {t : RelayLists}
    {row : RelayRow} (h : row ∈ RelayCache.store now pubkey entries t) :
    row ∈ t ∨ row = ⟨pubkey, RelayCache._encode entries, now⟩ := by
  unfold RelayCache.store at h
  split at h
  · next t' hinsert => exact (Table.mem_of_insert hinsert).mp h
  · obtain ⟨old, hold, rfl⟩ := Table.mem_update.mp h
    split
    · next hkey =>
      right
      rw [show old.pubkey = pubkey from by simpa using hkey]
    · exact Or.inl hold

theorem cache_stored (hc : Reachable (lookups python texts server allowed_group) cache c) :
    ∀ row ∈ c.world, Stored cache c.log row := by
  apply hc.logged (P := fun world log => ∀ row ∈ world, Stored cache log row)
  · exact fun row hrow => Or.inl hrow
  · intro i o inp world log ih row hrow
    have hlast : (log ++ [(lookups python texts server allowed_group).entry i o inp world])[log.length]? =
        some ((lookups python texts server allowed_group).entry i o inp world) :=
      List.getElem?_concat_length
    match o with
    | .inr (.inr (.cache_store pubkey entries)) =>
      rcases mem_of_store hrow with hold | rfl
      · exact (ih row hold).append _
      · exact Or.inr ⟨log.length, _, entries, hlast, rfl, rfl, rfl⟩
    | .inr (.inr (.get_by_pubkey _)) | .inr (.inr (.cache_get _)) | .inr (.inr .time)
    | .inr (.inr (.fetch_relay_list _)) | .inr (.inr (.log _)) | .inr (.inl (.recv _))
    | .inr (.inl (.sendall _)) | .inl (.getgrnam _) | .inl (.getpwuid _) =>
      exact (ih row hrow).append _
  · exact fun _ _ _ ih => ih

end Runs

/-! ## What the peers are told -/

/-- Before `k` these relays were to be read for the pubkey: the cache held them from the start, or they
were fetched. -/
def Held (python : PythonJson) (texts : PythonTexts) (allowed_group : String) (cache : RelayLists)
    (c : LookupRun) (k : Nat) (pubkey : String) (entries : List RelayEntry) (fetched_at : Int) : Prop :=
  (∃ row ∈ cache, row.pubkey = pubkey ∧ RelayCache._decode texts row.relays = .ok entries ∧
    row.fetched_at = fetched_at) ∨
  ∃ relays : List Relay, entries = relays.map Relay.entry ∧
    Fetched python allowed_group c k pubkey relays fetched_at

/-- Before `k`, the connection `i` saw that the list was younger than the TTL, or fetched another. -/
def Renewed (ttl : Int) (c : LookupRun) (i k : Nat) (pubkey : String) (fetched_at : Int) : Prop :=
  ∃ (m : Nat) (e : LookupEntry), m < k ∧ c.log[m]? = some e ∧ e.who = i ∧
    ((e.op = .inr (.inr .time) ∧ max 0 (e.input.relay.now - fetched_at) < ttl) ∨
      e.op = .inr (.inr (.fetch_relay_list pubkey)))

/-- What the connection `i` may be told of the pubkey at `k`. -/
inductive Told (python : PythonJson) (texts : PythonTexts) (allowed_group : String)
    (cache : RelayLists) (c : LookupRun) (i k : Nat) (pubkey : String) : LookupServer → Json → Prop
  /-- Whether it was linked, and to whom. -/
  | identity (mappings : MappingDb) : LookedUp c i k pubkey mappings →
      Told python texts allowed_group cache c i k pubkey .identity
        (IdentityLookupServer.answer (.ok (linkedIdentity mappings pubkey)))
  | unlinked {ttl : Int} (mappings : MappingDb) : LookedUp c i k pubkey mappings →
      (∀ r ∈ mappings, r.pubkey = pubkey → r.enabled ≠ 1) →
      Told python texts allowed_group cache c i k pubkey (.relay ttl) unlinked
  | relays {ttl : Int} (entries : List RelayEntry) (fetched_at : Int) : WasLinked c i k pubkey →
      Held python texts allowed_group cache c k pubkey entries fetched_at →
      Renewed ttl c i k pubkey fetched_at →
      Told python texts allowed_group cache c i k pubkey (.relay ttl) (_response entries fetched_at)
  | nothing {ttl : Int} (m : Nat) (e : LookupEntry) (message : String) : WasLinked c i k pubkey →
      m < k → c.log[m]? = some e → e.who = i → e.op = .inr (.inr (.fetch_relay_list pubkey)) →
      e.input.relay.fetched = .error message →
      Told python texts allowed_group cache c i k pubkey (.relay ttl) (fallback none)

section Told

variable {python : PythonJson} {texts : PythonTexts} {server : LookupServer} {allowed_group : String}
variable {cache : RelayLists} {c : LookupRun}

theorem held_of_read (hc : Reachable (lookups python texts server allowed_group) cache c) {i k : Nat}
    {pubkey : String} {cached : CachedRelayList}
    (hmem : (⟨.cache_get pubkey, .ok (some cached)⟩ : Event RelayOp RelayOp.Ans) ∈
      lookupsOf (session (calls i (c.log.take k)))) :
    Held python texts allowed_group cache c k pubkey cached.relays cached.fetched_at := by
  obtain ⟨m, e, hlt, he, _, hevent⟩ := exists_of_looked hmem
  have hread : RelayCache.get texts pubkey e.before = .ok (some cached) :=
    congrArg Prod.fst (hc.exec_of_event he hevent)
  obtain ⟨c', hc', hlog, hworld, _⟩ := hc.snapshot he
  unfold RelayCache.get at hread
  split at hread
  · cases hread
  · next row hfind =>
    obtain ⟨hrow, hkey⟩ := Table.find_some hfind
    obtain rfl : row.pubkey = pubkey := by simpa using hkey
    cases hdecode : RelayCache._decode texts row.relays with
    | error _ =>
      rw [hdecode] at hread
      cases hread
    | ok entries =>
      rw [hdecode] at hread
      cases hread
      rcases cache_stored hc' row (hworld ▸ hrow) with hold | ⟨s, stored, entries', hs, hop, htext, htime⟩
      · exact Or.inl ⟨row, hold, rfl, hdecode, rfl⟩
      · rw [hlog, List.getElem?_take] at hs
        split at hs
        · next hsm =>
          obtain ⟨relays, rfl, hfetched⟩ := stored_fetched hc (Nat.lt_trans hsm hlt) hs hop
          rw [htext, decode_encode_relays] at hdecode
          rw [htime]
          exact Or.inr ⟨relays, (Except.ok.inj hdecode).symm, hfetched⟩
        · cases hs

theorem renewed_of_recent (hc : Reachable (lookups python texts server allowed_group) cache c)
    {i k : Nat} {ttl : Int} {pubkey : String} {cached : CachedRelayList}
    (h : Recent ttl pubkey (lookupsOf (session (calls i (c.log.take k)))) cached) :
    Renewed ttl c i k pubkey cached.fetched_at := by
  rcases h with ⟨now, hmem, hyoung⟩ | ⟨fetched, hmem⟩
  · obtain ⟨m, e, hlt, he, hwho, hevent⟩ := exists_of_looked hmem
    have hnow : e.input.relay.now = now := congrArg Prod.fst (hc.exec_of_event he hevent)
    exact ⟨m, e, hlt, he, hwho, Or.inl ⟨congrArg Event.op hevent, hnow.symm ▸ hyoung⟩⟩
  · obtain ⟨m, e, hlt, he, hwho, hevent⟩ := exists_of_looked hmem
    exact ⟨m, e, hlt, he, hwho, Or.inr (congrArg Event.op hevent)⟩

/-- What a lookup has seen is what its connection may be told. -/
theorem told_of_seen (hc : Reachable (lookups python texts server allowed_group) cache c) {i k : Nat}
    {server' : LookupServer} {pubkey : String} {payload : Json}
    (h : Seen server' pubkey (lookupsOf (session (calls i (c.log.take k)))) payload) :
    Told python texts allowed_group cache c i k pubkey server' payload := by
  cases h with
  | identity found hmem =>
    obtain ⟨mappings, hlooked, rfl⟩ := looked_up hc hmem
    exact .identity mappings hlooked
  | unlinked hmem =>
    obtain ⟨mappings, hlooked, hnone⟩ := looked_up hc hmem
    have hfind := Option.map_eq_none_iff.mp hnone.symm
    exact .unlinked mappings hlooked (MappingStore.find_pubkey_eq_none.mp hfind)
  | relays cached hfound hmem hrecent =>
    exact .relays _ _ (was_linked hc hfound) (held_of_read hc hmem) (renewed_of_recent hc hrecent)
  | nothing message hfound _ hmem =>
    obtain ⟨m, e, hlt, he, hwho, hevent⟩ := exists_of_looked hmem
    have hanswer : e.input.relay.fetched.map (fun relays => relays.map Relay.entry) = .error message :=
      congrArg Prod.fst (hc.exec_of_event he hevent)
    cases hfetched : e.input.relay.fetched with
    | ok relays =>
      rw [hfetched] at hanswer
      cases hanswer
    | error message' =>
      exact .nothing m e message' (was_linked hc hfound) hlt he hwho (congrArg Event.op hevent) hfetched

end Told

/-- What holds of the server in a run. -/
structure Confined (python : PythonJson) (texts : PythonTexts) (server : LookupServer)
    (allowed_group : String) (cache : RelayLists) (c : LookupRun) : Prop where
  /-- A peer that is not permitted is told so, and nothing else is done for it. -/
  strangers : ∀ (k : Nat) (e : LookupEntry) (o : SocketOp ⊕ RelayOp), c.log[k]? = some e →
    e.op = .inr o → (∃ peer, c.job e.who = some peer ∧
      Permitted allowed_group peer (calls e.who (c.log.take k))) ∨
    o = .inl (.sendall (line .compact (errorPayload "forbidden")))
  /-- The relays are asked for no other key than those that a permitted peer wanted, and that were linked. -/
  fetches : ∀ (k : Nat) (e : LookupEntry) (pubkey : String), c.log[k]? = some e →
    e.op = .inr (.inr (.fetch_relay_list pubkey)) →
    AskedFor python allowed_group c e.who k pubkey ∧ WasLinked c e.who k pubkey
  /-- The cache holds what was fetched, under the key for which it was fetched. -/
  cached : ∀ row ∈ c.world, row ∈ cache ∨ ∃ relays : List Relay,
    row.relays = RelayCache._encode (relays.map Relay.entry) ∧
    Fetched python allowed_group c c.log.length row.pubkey relays row.fetched_at
  /-- A peer is told of an error, or of the key that it asked for. -/
  answers : ∀ (k : Nat) (e : LookupEntry) (data : Bytes), c.log[k]? = some e →
    e.op = .inr (.inl (.sendall data)) → (∃ message, data = line .compact (errorPayload message)) ∨
    ∃ pubkey payload, AskedFor python allowed_group c e.who k pubkey ∧
      Told python texts allowed_group cache c e.who k pubkey server payload ∧
      data = line .compact payload

/-- **No oracle.** Whoever connects to a lookup server, in any number and at any time, and whatever becomes
of the identities database meanwhile: only a permitted peer is served, only keys that are linked
are fetched for, and a peer is told what the database, the cache and the relays said of its own key. -/
theorem lookups_confined (python : PythonJson) (texts : PythonTexts) (server : LookupServer)
    (allowed_group : String) (cache : RelayLists) (c : LookupRun)
    (hc : Reachable (lookups python texts server allowed_group) cache c) :
    Confined python texts server allowed_group cache c where
  strangers k e o he hop := by
    obtain ⟨peer, hpeer, hguard⟩ := guarded hc he
    rw [hop] at hguard
    rcases hguard with ⟨hpermitted, _⟩ | hforbidden
    · exact Or.inl ⟨peer, hpeer, hpermitted⟩
    · exact Or.inr hforbidden
  fetches k e pubkey he hop := fetch_justified hc he hop
  cached row hrow := by
    rcases cache_stored hc row hrow with hold | ⟨s, stored, entries, hs, hop, htext, htime⟩
    · exact Or.inl hold
    · have hlt := (List.getElem?_eq_some_iff.mp hs).1
      obtain ⟨relays, rfl, hfetched⟩ := stored_fetched hc hlt hs hop
      exact Or.inr ⟨relays, htext, htime ▸ hfetched⟩
  answers k e data he hop := by
    obtain ⟨peer, hpeer, hguard⟩ := guarded hc he
    rw [hop] at hguard
    rcases hguard with ⟨hpermitted, herror | ⟨pubkey, payload, haccepts, hseen, hdata⟩⟩ | hforbidden
    · exact Or.inl herror
    · exact Or.inr ⟨pubkey, payload, ⟨peer, hpeer, hpermitted, haccepts⟩, told_of_seen hc hseen, hdata⟩
    · cases hforbidden
      exact Or.inl ⟨_, rfl⟩


/-! ## A peer of the group -/

section Asked

open PeerReplies (plainTexts)

def linkedKey : MappingDb :=
  ((MappingStore.link "alice" sampleKey ⟨"nip07", none, "admin"⟩).run (fun _ => 1767225000)
    MappingDb.empty none).2

def askedInput : ServerInput where
  groups _ := some ⟨990, []⟩
  users _ := some "searcher"
  arrived := IdentityLookup.request sampleKey
  mappings := linkedKey
  relay := ⟨1767225600, .ok [⟨"wss://relay.example", true, true⟩]⟩

/-- A peer asks for `sampleKey`; the cache is empty. -/
def askedRun : LookupRun :=
  (lookups plainTexts plainTexts (.relay 3600) "nostr-auth-lookup").after (Config.init Table.empty) 0
    (.ok (1000, 990)) fun _ => askedInput

theorem lookups_confined_askedRun : ∃ row ∈ askedRun.world, row.pubkey = sampleKey ∧
    ∃ relays, row.relays = RelayCache._encode (relays.map Relay.entry) ∧ Fetched plainTexts
      "nostr-auth-lookup" askedRun askedRun.log.length row.pubkey relays row.fetched_at := by
  have hrun : Reachable (lookups plainTexts plainTexts (.relay 3600) "nostr-auth-lookup") Table.empty
      askedRun := Reachable.init.after rfl _ _
  have hrow : ∃ row ∈ askedRun.world.rows, row.pubkey = sampleKey := by decide +kernel
  obtain ⟨row, hrow, hkey⟩ := hrow
  have hconfined := lookups_confined plainTexts plainTexts (.relay 3600) "nostr-auth-lookup"
    Table.empty askedRun hrun
  exact ⟨row, hrow, hkey, (hconfined.cached row hrow).resolve_left (Table.not_mem_empty row)⟩

end Asked

end NostrAuth.LookupRuns
