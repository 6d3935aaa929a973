import NostrAuth.HelperServices

/-! What the helpers and their clients say to each other arrives as it was said, in whatever
chunks the kernel hands it out. -/

set_option autoImplicit false

namespace NostrAuth

open Sockets Json Interaction

/-! ## One message -/

section Messages

variable {sep : Separators} {value : Json} {chunks : List Bytes}

/-- The loops without a bound. -/
theorem readLoop_segmented (hsep : sep.Ok) (hvalue : value.Plain)
    (h : Segmented chunks (line sep value)) : readLoop (fun _ => true) [] chunks = line sep value :=
  readLoop_line (newline_not_mem hsep hvalue) (fun _ _ => rfl) h.nonempty h.whole

/-- The loop of the lookup servers, on a line within its bound. -/
theorem bounded_segmented (hsep : sep.Ok) (hvalue : value.Plain)
    (hlen : (line sep value).length ≤ IdentityLookupServer._MAX_REQUEST_BYTES)
    (h : Segmented chunks (line sep value)) :
    IdentityLookupServer._read_line chunks = .ok (line sep value) := by
  have hmore : ∀ data, data <+: encode (dumpsWith sep value) →
      decide (data.length ≤ IdentityLookupServer._MAX_REQUEST_BYTES) = true := by
    intro data hinitial
    have hle := hinitial.length_le
    rw [line, List.length_append, List.length_singleton] at hlen
    exact decide_eq_true (by omega)
  have hread : readLoop (fun data => data.length ≤ IdentityLookupServer._MAX_REQUEST_BYTES) []
      chunks = line sep value :=
    readLoop_line (newline_not_mem hsep hvalue) hmore h.nonempty h.whole
  simp only [IdentityLookupServer._read_line, hread, if_neg (Nat.not_lt.mpr hlen)]

end Messages

/-! ## Lengths -/

theorem length_encode {chars : List Char} (h : ∀ c ∈ chars, Printable c) :
    (encode (String.ofList chars)).length = chars.length := by
  rw [encode_ofList]
  induction chars with
  | nil => rfl
  | cons c chars ih =>
    rw [List.flatMap_cons, List.length_append, encode_printable (h c (List.mem_cons_self ..)),
      ih fun d hd => h d (List.mem_cons_of_mem c hd), List.length_singleton, List.length_cons]
    omega

theorem length_quoted {s : String} (h : ∀ c ∈ s.toList, escapeChar c = [c]) :
    (quoted s).length = s.toList.length + 2 := by
  have hplain : s.toList.flatMap escapeChar = s.toList := by
    rw [List.flatMap_congr h, List.flatMap_singleton']
  rw [quoted, escape, hplain, List.length_append, List.length_cons, List.length_singleton]

/-- A hexadecimal digit needs no escape. -/
theorem escapeChar_hex {c : Char} (h : ('0' ≤ c ∧ c ≤ '9') ∨ ('a' ≤ c ∧ c ≤ 'f')) :
    escapeChar c = [c] := by
  have hrange : (48 ≤ c.toNat ∧ c.toNat ≤ 57) ∨ (97 ≤ c.toNat ∧ c.toNat ≤ 102) := h
  unfold escapeChar
  simp only
  rw [if_neg (by omega), if_neg (by omega), if_neg (by omega), if_neg (by omega), if_neg (by omega),
    if_neg (by omega), if_neg (by omega), if_pos (by omega)]

/-- The request for one pubkey is 78 bytes long. -/
theorem length_request {pubkey : String} (h : IdentityLookupServer._PUBKEY_RE pubkey = true) :
    (IdentityLookup.request pubkey).length = 78 := by
  simp only [IdentityLookupServer._PUBKEY_RE, Bool.and_eq_true, beq_iff_eq, List.all_eq_true,
    decide_eq_true_eq] at h
  obtain ⟨hlen, hhex⟩ := h
  have hplain : (Json.obj [("pubkey", .str pubkey)]).Plain := by simp [Plain, PlainFields]
  have hkey : (quoted "pubkey").length = 8 := by decide
  have hvalue : (quoted pubkey).length = 66 := by
    rw [length_quoted fun c hc => escapeChar_hex (hhex c hc), hlen]
  rw [IdentityLookup.request, line, List.length_append, dumpsWith,
    length_encode (printable_write Separators.compact_ok _ hplain)]
  simp only [write, writeFields, List.length_append, List.length_cons, List.length_nil, hkey, hvalue,
    Separators.compact]

/-! ## Requests -/

section Protocols

variable (texts : PythonTexts) {chunks : List Bytes}

theorem mint_request_read {username host : String}
    (h : Segmented chunks (Sessions.request username host)) :
    MintSessionServer.readRequest texts chunks = .ok (.str username, .str host) := by
  have hplain : (Json.obj [("username", .str username), ("host", .str host)]).Plain := by
    simp [Plain, PlainFields]
  have hline : loads texts (MintSessionServer._read_line chunks) =
      .ok (.obj [("username", .str username), ("host", .str host)]) := by
    rw [MintSessionServer._read_line, readLoop_segmented Separators.default_ok hplain h]
    exact loads_line texts Separators.default_ok hplain
  simp only [MintSessionServer.readRequest, hline]
  rfl

theorem pubkey_request_read {pubkey : String} (hpubkey : IdentityLookupServer._PUBKEY_RE pubkey = true)
    (h : Segmented chunks (IdentityLookup.request pubkey)) :
    IdentityLookupServer.readRequest texts chunks = .ok pubkey := by
  have hplain : (Json.obj [("pubkey", .str pubkey)]).Plain := by simp [Plain, PlainFields]
  have hlen : (line .compact (Json.obj [("pubkey", .str pubkey)])).length ≤
      IdentityLookupServer._MAX_REQUEST_BYTES := by
    have hrequest := length_request hpubkey
    rw [IdentityLookup.request] at hrequest
    rw [hrequest]
    decide
  have hread := bounded_segmented Separators.compact_ok hplain hlen h
  have hline := loads_line texts Separators.compact_ok hplain
  simp only [IdentityLookupServer.readRequest, IdentityLookupServer.requestOf, hread, Except.bind, bind, hline]
  show (if (true && IdentityLookupServer._PUBKEY_RE pubkey) = true then _ else _) = _
  rw [hpubkey]
  rfl

/-! ## Replies -/

theorem mint_reply_read (minted : PortalCookie.MintedSession)
    (h : Segmented chunks (MintSessionServer.reply (.ok minted))) :
    Sessions.mint_session texts (.ok chunks) =
      .ok ⟨"yunohost.portal", .str minted.token, .int minted.max_age⟩ := by
  have hplain : (Json.obj [("token", .str minted.token), ("session_id", .str minted.session_id),
      ("max_age", .int minted.max_age)]).Plain := by simp [Plain, PlainFields]
  have hread := readLoop_segmented Separators.default_ok hplain h
  have hline := loads_line texts Separators.default_ok hplain
  simp only [Sessions.mint_session, Sessions._read_line, hread, hline]
  rfl

theorem errorPayload_plain (message : String) : (errorPayload message).Plain := by
  simp [errorPayload, Plain, PlainFields]

theorem mint_failure_read (message : String)
    (h : Segmented chunks (MintSessionServer.reply (.error message))) :
    Sessions.mint_session texts (.ok chunks) =
      .error (.sessionMintError ("session-mint helper failed: " ++ message)) := by
  have hread := readLoop_segmented Separators.default_ok (errorPayload_plain message) h
  have hline := loads_line texts Separators.default_ok (errorPayload_plain message)
  simp only [Sessions.mint_session, Sessions._read_line, hread, hline]
  rfl

theorem identity_reply_read (identity : Option Identity)
    (h : Segmented chunks (line .compact (IdentityLookupServer.answer (.ok identity)))) :
    IdentityLookup.lookup_identity texts (.ok chunks) =
      .ok ⟨identity.isSome, identity.map fun i => .text i.ynh_username⟩ := by
  cases identity with
  | none =>
    have hplain : (IdentityLookupServer.answer (.ok none)).Plain := by
      simp [IdentityLookupServer.answer, Plain, PlainFields]
    have hread := readLoop_segmented Separators.compact_ok hplain h
    have hline := loads_line texts Separators.compact_ok hplain
    simp only [IdentityLookup.lookup_identity, hread, hline]
    rfl
  | some identity =>
    have hplain : (IdentityLookupServer.answer (.ok (some identity))).Plain := by
      simp [IdentityLookupServer.answer, Plain, PlainFields]
    have hread := readLoop_segmented Separators.compact_ok hplain h
    have hline := loads_line texts Separators.compact_ok hplain
    simp only [IdentityLookup.lookup_identity, hread, hline]
    rfl

theorem identity_failure_read (message : String)
    (h : Segmented chunks (line .compact (errorPayload message))) :
    IdentityLookup.lookup_identity texts (.ok chunks) =
      .error (IdentityLookup.identityLookupError ("identity lookup helper failed: " ++ message)) := by
  have hread := readLoop_segmented Separators.compact_ok (errorPayload_plain message) h
  have hline := loads_line texts Separators.compact_ok (errorPayload_plain message)
  simp only [IdentityLookup.lookup_identity, hread, hline]
  rfl

theorem relay_failure_read (message : String)
    (h : Segmented chunks (line .compact (errorPayload message))) :
    RelayLookup.lookup_relays texts (.ok chunks) =
      .error (RelayLookup.relayLookupError ("relay lookup helper failed: " ++ message)) := by
  have hread := readLoop_segmented Separators.compact_ok (errorPayload_plain message) h
  have hline := loads_line texts Separators.compact_ok (errorPayload_plain message)
  simp only [RelayLookup.lookup_relays, hread, hline]
  rfl

/-! ## Relay lists -/

def Relay.lookedUp (r : Relay) : RelayLookup.LookedUpRelay :=
  ⟨.str r.url, .bool r.read, .bool r.write⟩

/-- The list as it is written. -/
def relaysJson (relays : List Relay) : List Json :=
  relays.map fun r => RelayCache.entryJson r.entry

theorem relaysJson_plain (relays : List Relay) : PlainItems (relaysJson relays) := by
  induction relays with
  | nil => trivial
  | cons r relays ih => exact ⟨by simp [RelayCache.entryJson, Relay.entry, Plain, PlainFields], ih⟩

theorem mapM_readEntry (relays : List Relay) :
    (relaysJson relays).mapM RelayCache.readEntry = .ok (relays.map Relay.entry) := by
  induction relays with
  | nil => rfl
  | cons r relays ih =>
    rw [relaysJson, List.map_cons, List.mapM_cons]
    show (do let rest ← (relaysJson relays).mapM RelayCache.readEntry; pure (r.entry :: rest)) = _
    rw [ih]
    rfl

theorem mapM_readRelay (relays : List Relay) :
    (relaysJson relays).mapM RelayLookup.readRelay = .ok (relays.map Relay.lookedUp) := by
  induction relays with
  | nil => rfl
  | cons r relays ih =>
    rw [relaysJson, List.map_cons, List.mapM_cons]
    show (do let rest ← (relaysJson relays).mapM RelayLookup.readRelay; pure (r.lookedUp :: rest)) = _
    rw [ih]
    rfl

/-- `_decode` reads back what `_encode` wrote. -/
theorem decode_encode_relays (relays : List Relay) :
    RelayCache._decode texts (RelayCache._encode (relays.map Relay.entry)) =
      .ok (relays.map Relay.entry) := by
  have htext : RelayCache._encode (relays.map Relay.entry) =
      String.ofList (write .default (.arr (relaysJson relays)) ++ []) := by
    rw [RelayCache._encode, ← dumpsWith_default, dumpsWith, List.append_nil, List.map_map]
    rfl
  have hload := loads_write texts.floatRepr Separators.default_ok
    (show (Json.arr (relaysJson relays)).Plain from relaysJson_plain relays) (List.forall_mem_nil _)
  simp only [RelayCache._decode, htext, hload]
  exact mapM_readEntry relays

/-- The row that `store` leaves for the pubkey. -/
theorem mem_store (now : Int) (pubkey : String) (relays : List RelayEntry) (t : RelayLists) :
    ⟨pubkey, RelayCache._encode relays, now⟩ ∈ RelayCache.store now pubkey relays t := by
  unfold RelayCache.store
  split
  · next t' h => exact (Table.mem_of_insert h).mpr (Or.inr rfl)
  · next h =>
    obtain ⟨old, hold, rfl⟩ := Table.insert_eq_none.mp h
    exact Table.mem_update.mpr ⟨old, hold, by simp⟩

/-- The cache hands out the list it was given last. -/
theorem get_store (now : Int) (pubkey : String) (relays : List Relay) (t : RelayLists) :
    RelayCache.get texts pubkey (RelayCache.store now pubkey (relays.map Relay.entry) t) =
      .ok (some ⟨relays.map Relay.entry, now⟩) := by
  have hfind := Table.find_eq (p := fun r : RelayRow => r.pubkey == pubkey)
    (mem_store now pubkey (relays.map Relay.entry) t) (by simp) fun r hr => by simpa using hr
  rw [RelayCache.get, hfind]
  show (do let relays ← RelayCache._decode texts (RelayCache._encode (relays.map Relay.entry))
           pure (some (CachedRelayList.mk relays now))) = _
  rw [decode_encode_relays]
  rfl

theorem response_relays (relays : List Relay) (fetched_at : Int) :
    RelayLookupServer._response (relays.map Relay.entry) fetched_at =
      .obj [("linked", .bool true), ("relays", .arr (relaysJson relays)),
        ("fetched_at", .int fetched_at)] := by
  rw [RelayLookupServer._response, List.map_map]
  rfl

/-- The client of a list that is there: its order is kept. -/
theorem relay_payload_read (linked : Bool) (relays : List Relay) {fetched_at : Json}
    (hfetched : fetched_at.Plain)
    (h : Segmented chunks (line .compact (.obj [("linked", .bool linked),
      ("relays", .arr (relaysJson relays)), ("fetched_at", fetched_at)]))) :
    RelayLookup.lookup_relays texts (.ok chunks) =
      .ok ⟨linked, relays.map Relay.lookedUp, fetched_at⟩ := by
  have hplain : (Json.obj [("linked", .bool linked), ("relays", .arr (relaysJson relays)),
      ("fetched_at", fetched_at)]).Plain := by
    simp [Plain, PlainFields, relaysJson_plain, hfetched]
  have hread := readLoop_segmented Separators.compact_ok hplain h
  have hline := loads_line texts Separators.compact_ok hplain
  simp only [RelayLookup.lookup_relays, hread, hline]
  show (do let found ← catching ["KeyError", "TypeError"] _
             ((relaysJson relays).mapM RelayLookup.readRelay)
           let fetched ← get "fetched_at" (.obj [("linked", .bool linked),
             ("relays", .arr (relaysJson relays)), ("fetched_at", fetched_at)])
           pure (RelayLookup.RelayLookupResult.mk linked found fetched)) = _
  rw [mapM_readRelay]
  rfl

end Protocols

/-! ## The protocols -/

open RelayLookupServer

/-- What arrives is what was said: requests, replies and failures of the three protocols, for
every way of cutting the bytes. -/
structure Transparent (texts : PythonTexts) : Prop where
  mint_request : ∀ username host chunks, Segmented chunks (Sessions.request username host) →
    MintSessionServer.readRequest texts chunks = .ok (.str username, .str host)
  mint_reply : ∀ (minted : PortalCookie.MintedSession) chunks,
    Segmented chunks (MintSessionServer.reply (.ok minted)) →
      Sessions.mint_session texts (.ok chunks) =
        .ok ⟨"yunohost.portal", .str minted.token, .int minted.max_age⟩
  mint_failure : ∀ message chunks, Segmented chunks (MintSessionServer.reply (.error message)) →
    Sessions.mint_session texts (.ok chunks) =
      .error (.sessionMintError ("session-mint helper failed: " ++ message))
  /-- Both lookup servers, each with the request of its client. -/
  pubkey_request : ∀ pubkey chunks, IdentityLookupServer._PUBKEY_RE pubkey = true →
    Segmented chunks (IdentityLookup.request pubkey) ∨ Segmented chunks (RelayLookup.request pubkey) →
      IdentityLookupServer.readRequest texts chunks = .ok pubkey
  identity_reply : ∀ (identity : Option Identity) chunks,
    Segmented chunks (line .compact (IdentityLookupServer.answer (.ok identity))) →
      IdentityLookup.lookup_identity texts (.ok chunks) =
        .ok ⟨identity.isSome, identity.map fun i => .text i.ynh_username⟩
  identity_failure : ∀ message chunks, Segmented chunks (line .compact (errorPayload message)) →
    IdentityLookup.lookup_identity texts (.ok chunks) =
      .error (IdentityLookup.identityLookupError ("identity lookup helper failed: " ++ message))
  relay_reply : ∀ (relays : List Relay) (fetched_at : Int) chunks,
    Segmented chunks (line .compact (_response (relays.map Relay.entry) fetched_at)) →
      RelayLookup.lookup_relays texts (.ok chunks) =
        .ok ⟨true, relays.map Relay.lookedUp, .int fetched_at⟩
  relay_unlinked : ∀ chunks, Segmented chunks (line .compact unlinked) →
    RelayLookup.lookup_relays texts (.ok chunks) = .ok ⟨false, [], .null⟩
  /-- The fetch failed and nothing was cached. -/
  relay_unfetched : ∀ chunks, Segmented chunks (line .compact (fallback none)) →
    RelayLookup.lookup_relays texts (.ok chunks) = .ok ⟨true, [], .null⟩
  relay_failure : ∀ message chunks, Segmented chunks (line .compact (errorPayload message)) →
    RelayLookup.lookup_relays texts (.ok chunks) =
      .error (RelayLookup.relayLookupError ("relay lookup helper failed: " ++ message))
  /-- A list that went through the cache, whatever the cache held before. -/
  relay_cached : ∀ now pubkey (relays : List Relay) (t : RelayLists), ∃ cached,
    RelayCache.get texts pubkey (RelayCache.store now pubkey (relays.map Relay.entry) t) =
        .ok (some cached) ∧
      ∀ chunks, Segmented chunks (line .compact (_response cached.relays cached.fetched_at)) →
        RelayLookup.lookup_relays texts (.ok chunks) =
          .ok ⟨true, relays.map Relay.lookedUp, .int now⟩
  /-- A list that the server fetched, stored and read back before it answered. -/
  relay_refreshed : ∀ ttl i (input : Nat → RelayInput) w pubkey cached (relays : List Relay) chunks,
    (input 0).fetched = .ok relays →
      Segmented chunks (line .compact (answer
        ((resolvers texts ttl).serve i (refresh pubkey cached) input w).2.1)) →
        RelayLookup.lookup_relays texts (.ok chunks) =
          .ok ⟨true, relays.map Relay.lookedUp, .int (input 1).now⟩

theorem serve_refresh (texts : PythonTexts) (ttl : Int) (i : Nat) (input : Nat → RelayInput)
    (w : RelayWorld) (pubkey : String) (cached : Option CachedRelayList) (relays : List Relay)
    (h : (input 0).fetched = .ok relays) :
    ((resolvers texts ttl).serve i (refresh pubkey cached) input w).2.1 =
      .ok (_response (relays.map Relay.entry) (input 1).now) := by
  have hfetch : ((resolvers texts ttl).exec (.fetch_relay_list pubkey) (input 0) w).1 =
      .ok (relays.map Relay.entry) := by
    show (input 0).fetched.map (fun relays => relays.map Relay.entry) = _
    rw [h]
    rfl
  -- the read comes right after the store
  have hcache : ((resolvers texts ttl).exec (.cache_get pubkey) (input (0 + 1 + 1))
      ((resolvers texts ttl).exec (.cache_store pubkey (relays.map Relay.entry)) (input (0 + 1))
        ((resolvers texts ttl).exec (.fetch_relay_list pubkey) (input 0) w).2).2).1 =
      .ok (some ⟨relays.map Relay.entry, (input 1).now⟩) :=
    get_store texts (input 1).now pubkey relays w.cache
  rw [refresh, serve_call, hfetch]
  simp only [Prog.bind_eq, serve_call, cacheGet, Prog.call_bind]
  rw [hcache]
  rfl

/-- **The helper protocols are transparent** under any segmentation. -/
theorem protocols_transparent (texts : PythonTexts) : Transparent texts := by
  have hreply : ∀ (relays : List Relay) (fetched_at : Int) chunks,
      Segmented chunks (line .compact (_response (relays.map Relay.entry) fetched_at)) →
        RelayLookup.lookup_relays texts (.ok chunks) =
          .ok ⟨true, relays.map Relay.lookedUp, .int fetched_at⟩ := by
    intro relays fetched_at chunks h
    rw [response_relays] at h
    exact relay_payload_read texts true relays trivial h
  constructor
  case mint_request => exact fun username host chunks h => mint_request_read texts h
  case mint_reply => exact fun minted chunks h => mint_reply_read texts minted h
  case mint_failure => exact fun message chunks h => mint_failure_read texts message h
  case pubkey_request =>
    rintro pubkey chunks hpubkey (h | h)
    · exact pubkey_request_read texts hpubkey h
    · exact pubkey_request_read texts hpubkey h
  case identity_reply => exact fun identity chunks h => identity_reply_read texts identity h
  case identity_failure => exact fun message chunks h => identity_failure_read texts message h
  case relay_reply => exact hreply
  case relay_unlinked => exact fun chunks h => relay_payload_read texts false [] trivial h
  case relay_unfetched => exact fun chunks h => relay_payload_read texts true [] trivial h
  case relay_failure => exact fun message chunks h => relay_failure_read texts message h
  case relay_cached =>
    intro now pubkey relays t
    exact ⟨_, get_store texts now pubkey relays t, fun chunks h => hreply relays now chunks h⟩
  case relay_refreshed =>
    intro ttl i input w pubkey cached relays chunks hfetched h
    rw [serve_refresh texts ttl i input w pubkey cached relays hfetched] at h
    exact hreply relays (input 1).now chunks h

/-! ## The answers that the service reckons with -/

section Answers

theorem loads_error {python : PythonJson} {data : Bytes} {e : Exn}
    (h : Sockets.loads python data = .error e) : ∃ className message, e = .uncaught className message := by
  unfold Sockets.loads at h
  split at h
  · next error _ =>
    cases h
    cases error <;> exact ⟨_, _, rfl⟩
  · cases h

theorem contains_error {key : String} {value : Json} {e : Exn} (h : contains key value = .error e) :
    ∃ className message, e = .uncaught className message := by
  unfold contains at h
  split at h <;> cases h
  exact ⟨_, _, rfl⟩

theorem getItem_error {key : String} {value : Json} {e : Exn} (h : getItem key value = .error e) :
    ∃ className message, e = .uncaught className message := by
  unfold getItem at h
  split at h
  · split at h <;> cases h
    exact ⟨_, _, rfl⟩
  all_goals cases h; exact ⟨_, _, rfl⟩

/-- `mint_session` ends like this for one of the answers. -/
def Answered (outcome : Except Exn MintedSession) : Prop :=
  ∃ reply : MintReply, outcome = readMinted reply

theorem answered_raised {e : Exn} (h : ∃ className message, e = .uncaught className message) :
    Answered (.error e) := by
  obtain ⟨className, message, rfl⟩ := h
  exact ⟨.raised className message, rfl⟩

/-- An exception that `mint_session` turns into its own, or lets through. -/
theorem answered_caught {α : Type} (classes : List String) (start : String) {e : Exn}
    (h : ∃ className message, e = .uncaught className message) : ∃ e' : Exn,
      catching classes (fun m => .sessionMintError (start ++ m)) (.error e : Except Exn α) = .error e' ∧
        Answered (.error e') := by
  obtain ⟨className, message, rfl⟩ := h
  by_cases hin : className ∈ classes
  · exact ⟨_, if_pos hin, .failed (start ++ message), rfl⟩
  · exact ⟨_, if_neg hin, .raised className message, rfl⟩

/-- Whatever the socket brings, `mint_session` ends as for one of the answers `MintReply`. -/
theorem mint_session_answer (python : PythonJson) (received : Received) :
    Answered (Sessions.mint_session python received) := by
  cases received with
  | error e => exact ⟨.failed _, rfl⟩
  | ok chunks =>
    cases hload : Sockets.loads python (Sessions._read_line chunks) with
    | error e =>
      obtain ⟨e', hcaught, hanswer⟩ := answered_caught (α := Json) ["JSONDecodeError"]
        "session-mint helper returned unexpected output: " (loads_error hload)
      simp only [Sessions.mint_session, hload, hcaught]
      exact hanswer
    | ok payload =>
      simp only [Sessions.mint_session, hload]
      show Answered (contains "error" payload >>= fun failed => _)
      cases hcontains : contains "error" payload with
      | error e => exact answered_raised (contains_error hcontains)
      | ok failed =>
        cases failed with
        | true =>
          show Answered (getItem "error" payload >>= fun e => _)
          cases hitem : getItem "error" payload with
          | error e => exact answered_raised (getItem_error hitem)
          | ok e => exact ⟨.failed _, rfl⟩
        | false =>
          show Answered (catching ["KeyError", "TypeError"]
            (fun m => .sessionMintError ("session-mint helper response missing " ++ m))
            (getItem "token" payload >>= fun token => getItem "max_age" payload >>= fun max_age =>
              pure ⟨"yunohost.portal", token, max_age⟩))
          cases htoken : getItem "token" payload with
          | error e =>
            obtain ⟨e', hcaught, hanswer⟩ := answered_caught (α := MintedSession)
              ["KeyError", "TypeError"] "session-mint helper response missing " (getItem_error htoken)
            exact hcaught ▸ hanswer
          | ok token =>
            cases hage : getItem "max_age" payload with
            | error e =>
              obtain ⟨e', hcaught, hanswer⟩ := answered_caught (α := MintedSession)
                ["KeyError", "TypeError"] "session-mint helper response missing " (getItem_error hage)
              exact hcaught ▸ hanswer
            | ok max_age => exact ⟨.minted token max_age, rfl⟩

end Answers

end NostrAuth
