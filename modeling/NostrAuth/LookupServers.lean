import NostrAuth.PeerReplies
import NostrAuth.ReadPaths

/-! The connection handlers of the two lookup servers, `recv` by `recv`: how much of a peer's
stream they read, what they ask the databases for and what they answer. -/

set_option autoImplicit false

namespace NostrAuth.LookupServers

open Sockets Interaction IdentityLookupServer RelayLookupServer
open ReadPaths (Filled)

/-! ## The handlers -/

inductive SocketOp
  | recv (size : Nat)
  | sendall (data : Bytes)

/-- `recv` returns at most as many bytes as were asked for, and none at the end of the stream. -/
@[reducible] def SocketOp.Ans : SocketOp → Type
  | recv size => {chunk : Bytes // chunk.length ≤ size}
  | sendall _ => Unit

abbrev Ans : SocketOp ⊕ RelayOp → Type := Sum.elim SocketOp.Ans RelayOp.Ans

abbrev Handler (α : Type) := Prog (SocketOp ⊕ RelayOp) Ans Exn α

/-- The loop of `_read_line`, on the data read so far. -/
def readMore (data : Bytes) : Handler Bytes :=
  if _h : endsLine data = true ∨ _MAX_REQUEST_BYTES < data.length then .ret data
  else
    .call (.inl (.recv (min 256 (_MAX_REQUEST_BYTES + 1 - data.length)))) fun chunk =>
      if chunk.val = [] then .ret data else readMore (data ++ chunk.val)
termination_by _MAX_REQUEST_BYTES + 1 - data.length
decreasing_by
  have hpos := List.length_pos_iff.mpr ‹¬chunk.val = []›
  rw [List.length_append]
  omega

def _read_line : Handler Bytes := do
  let data ← readMore []
  if _MAX_REQUEST_BYTES < data.length then .raise (.valueError "request exceeds size limit")
  else return data

/-- `except (json.JSONDecodeError, KeyError, TypeError, ValueError)`, with the subclasses. -/
def catches : Exn → Bool
  | .valueError _ => true
  | .uncaught className _ =>
    ["JSONDecodeError", "UnicodeDecodeError", "ValueError", "KeyError", "TypeError"].contains className
  | _ => false

def _respond (payload : Json) : Handler Unit := .call (.inl (.sendall (line .compact payload))) .ret

/-- `_Handler.handle` of both servers: `resolve` answers for a pubkey, `name` is what the log calls
it, `permitted` is the outcome of `_uid_in_group`. -/
def handle (python : PythonJson) (name : String) (resolve : String → Resolver Json)
    (permitted : Bool) : Handler Unit := do
  if permitted then
    let request ← (_read_line.bind fun data => Prog.ofExcept (requestOf python data)).attempt
    match request with
    | .error e => if catches e then _respond (errorPayload (badRequest e)) else .raise e
    | .ok pubkey =>
      let payload ← ((resolve pubkey).right : Handler Json).attempt
      match payload with
      | .ok payload => _respond payload
      | .error _ =>
        let _ ← .call (.inr (.log (name ++ " lookup failed"))) .ret
        _respond (errorPayload "lookup failed")
  else _respond (errorPayload "forbidden")

inductive LookupServer
  | identity
  | relay (cache_ttl_seconds : Int)

def LookupServer.name : LookupServer → String
  | identity => "identity"
  | relay _ => "relay"

def LookupServer.resolve : LookupServer → String → Resolver Json
  | identity, pubkey => .call (.get_by_pubkey pubkey) fun
    | .ok found => .ret (IdentityLookupServer.answer (.ok found))
    | .error e => .raise e
  | relay cache_ttl_seconds, pubkey => _resolve_relays cache_ttl_seconds pubkey

/-! ## The connection -/

/-- What the peer has sent and nobody has read, and the databases. -/
structure LookupWorld where
  stream : Bytes
  relay : RelayWorld

/-- `ready` bytes after the first have arrived when `recv` is called. -/
structure LookupInput where
  ready : Nat
  relay : RelayInput

def exec (texts : PythonTexts) : (o : SocketOp ⊕ RelayOp) → LookupInput → LookupWorld →
    Ans o × LookupWorld
  | .inl (.recv size), inp, w =>
    (⟨w.stream.take (min size (inp.ready + 1)), by
        rw [List.length_take]
        omega⟩, { w with stream := w.stream.drop (min size (inp.ready + 1)) })
  | .inl (.sendall _), _, w => ((), w)
  | .inr o, inp, w =>
    let done := RelayLookupServer.exec texts o inp.relay w.relay
    (done.1, { w with relay := done.2 })

/-! ## What a run shows -/

/-- The bytes that `recv` returned. -/
def received (h : History (SocketOp ⊕ RelayOp) Ans) : Bytes :=
  h.flatMap fun
    | ⟨.inl (.recv _), chunk⟩ => chunk.val
    | _ => []

def sent (h : History (SocketOp ⊕ RelayOp) Ans) : List Bytes :=
  h.filterMap fun
    | ⟨.inl (.sendall data), _⟩ => some data
    | _ => none

/-- The pubkey that a call asks the mapping for. -/
def askedBy : RelayOp → List String
  | .get_by_pubkey pubkey => [pubkey]
  | _ => []

def asked (h : History RelayOp RelayOp.Ans) : List String := h.flatMap fun e => askedBy e.op

/-- The pubkeys that the mapping was asked for. -/
def queried (h : History (SocketOp ⊕ RelayOp) Ans) : List String :=
  h.flatMap fun e => Sum.elim (fun _ => []) askedBy e.op

section Append

variable (h h' : History (SocketOp ⊕ RelayOp) Ans)

@[simp] theorem received_append : received (h ++ h') = received h ++ received h' :=
  List.flatMap_append

@[simp] theorem sent_append : sent (h ++ h') = sent h ++ sent h' := List.filterMap_append

@[simp] theorem queried_append : queried (h ++ h') = queried h ++ queried h' :=
  List.flatMap_append

end Append

/-! ## Reading -/

/-- A run that only reads. -/
def Reads (h : History (SocketOp ⊕ RelayOp) Ans) : Prop := sent h = [] ∧ queried h = []

section Reading

variable {texts : PythonTexts}

variable (texts) in
/-- The loop takes a first part of the stream. It stops after a newline, beyond the bound or at the
end of the stream, with at most one byte beyond the bound. -/
theorem readMore_runs (data : Bytes) (hdata : data.length ≤ _MAX_REQUEST_BYTES + 1)
    (input : Nat → LookupInput) (w : LookupWorld) : ∃ h m,
      (readMore data).runAlone (exec texts) input w =
          (h, .ok (data ++ w.stream.take m), { w with stream := w.stream.drop m }) ∧
        received h = w.stream.take m ∧ Reads h ∧
        (data ++ w.stream.take m).length ≤ _MAX_REQUEST_BYTES + 1 ∧
        (endsLine (data ++ w.stream.take m) = true ∨
          _MAX_REQUEST_BYTES < (data ++ w.stream.take m).length ∨ w.stream.take m = w.stream) := by
  induction hn : _MAX_REQUEST_BYTES + 1 - data.length using Nat.strong_induction_on
    generalizing data input w with
  | h n ih =>
    rw [readMore]
    by_cases hstop : endsLine data = true ∨ _MAX_REQUEST_BYTES < data.length
    · rw [dif_pos hstop]
      refine ⟨[], 0, by simp [Prog.runAlone], rfl, ⟨rfl, rfl⟩, by simpa using hdata, ?_⟩
      rcases hstop with hline | hlong
      · exact Or.inl (by simpa using hline)
      · exact Or.inr (Or.inl (by simpa using hlong))
    · rw [dif_neg hstop]
      obtain ⟨-, hshort⟩ := not_or.mp hstop
      have hsize : 0 < min 256 (_MAX_REQUEST_BYTES + 1 - data.length) := by omega
      generalize hsizeEq : min 256 (_MAX_REQUEST_BYTES + 1 - data.length) = size at *
      generalize hk : min size ((input 0).ready + 1) = k
      have hchunk : (exec texts (.inl (.recv size)) (input 0) w).1.val = w.stream.take k := by
        rw [← hk]
        rfl
      have hrest : (exec texts (.inl (.recv size)) (input 0) w).2 =
          { w with stream := w.stream.drop k } := by
        rw [← hk]
        rfl
      have hlen : (w.stream.take k).length ≤ _MAX_REQUEST_BYTES + 1 - data.length := by
        rw [List.length_take]
        omega
      rw [Prog.runAlone_call, hrest]
      by_cases hempty : w.stream.take k = []
      · -- the end of the stream
        have hstream : w.stream = [] := by
          rcases List.take_eq_nil_iff.mp hempty with hzero | hnil
          · omega
          · exact hnil
        rw [if_pos (hchunk.trans hempty)]
        refine ⟨[⟨.inl (.recv size), (exec texts (.inl (.recv size)) (input 0) w).1⟩], k, ?_, ?_,
          ⟨rfl, rfl⟩, ?_, Or.inr (Or.inr (hempty.trans hstream.symm))⟩
        · rw [hempty, List.append_nil]
          rfl
        · simp only [received, List.flatMap_cons, List.flatMap_nil, List.append_nil, hchunk]
        · simpa [hempty] using hdata
      · have hpos := List.length_pos_iff.mpr hempty
        obtain ⟨h, m, hrun, hreceived, hreads, hbound, hend⟩ := ih _
          (by rw [← hn, List.length_append]; omega) (data ++ w.stream.take k)
          (by rw [List.length_append]; omega) (fun n => input (n + 1))
          { w with stream := w.stream.drop k } rfl
        have htake : data ++ w.stream.take k ++ (w.stream.drop k).take m =
            data ++ w.stream.take (k + m) := by rw [List.append_assoc, ← List.take_add]
        simp only [htake] at hrun hbound hend
        rw [if_neg (fun h => hempty (hchunk.symm.trans h)), hchunk, hrun]
        refine ⟨⟨.inl (.recv size), (exec texts (.inl (.recv size)) (input 0) w).1⟩ :: h, k + m, ?_,
          ?_, hreads, hbound, ?_⟩
        · rw [List.drop_drop]
        · rw [List.take_add, ← hchunk]
          exact congrArg _ hreceived
        · refine hend.imp_right (Or.imp_right fun h => ?_)
          rw [List.take_add, h, List.take_append_drop]

end Reading

/-! ## Requests -/

/-- The grammar: at most 256 bytes that hold an object whose only key is "pubkey", with 64 lowercase
hexadecimal digits. -/
structure Accepts (python : PythonJson) (data : Bytes) (pubkey : String) : Prop where
  short : data.length ≤ 256
  object : ∃ fields, python.json_loads data = .ok (.obj fields) ∧
    (∀ f ∈ fields, f.1 = "pubkey") ∧ Json.lookup fields "pubkey" = some (.str pubkey)
  length : pubkey.toList.length = 64
  hex : ∀ c ∈ pubkey.toList, ('0' ≤ c ∧ c ≤ '9') ∨ ('a' ≤ c ∧ c ≤ 'f')

/-- What the handlers read of the bytes that they took. -/
def outcome (python : PythonJson) (data : Bytes) : Except Exn String :=
  if _MAX_REQUEST_BYTES < data.length then .error (.valueError "request exceeds size limit")
  else requestOf python data

theorem pubkey_re_iff (text : String) : _PUBKEY_RE text = true ↔ text.toList.length = 64 ∧
    ∀ c ∈ text.toList, ('0' ≤ c ∧ c ≤ '9') ∨ ('a' ≤ c ∧ c ≤ 'f') := by
  simp [_PUBKEY_RE, List.all_eq_true]

section Requests

variable {python : PythonJson} {data : Bytes}

theorem requestOf_object {fields : List (PyStr × Json)}
    (hloads : python.json_loads data = .ok (.obj fields)) (pubkey : String) :
    requestOf python data = .ok pubkey ↔ (∀ f ∈ fields, f.1 = "pubkey") ∧
      Json.lookup fields "pubkey" = some (.str pubkey) ∧ _PUBKEY_RE pubkey = true := by
  simp only [requestOf, loads, hloads]
  show (getItem "pubkey" (.obj fields) >>= _) = _ ↔ _
  cases hlookup : Json.lookup fields "pubkey" with
  | none =>
    simp only [getItem, hlookup]
    exact iff_of_false (by rintro ⟨⟩) (by rintro ⟨-, ⟨⟩, -⟩)
  | some value =>
    simp only [getItem, hlookup]
    cases value with
    | str text =>
      cases text with
      | lone t => exact iff_of_false (by rintro ⟨⟩) (by rintro ⟨-, ⟨⟩, -⟩)
      | text text =>
        have hgood : (fields.all (fun f => f.1 == "pubkey") && _PUBKEY_RE text) = true ↔
            (∀ f ∈ fields, f.1 = "pubkey") ∧ _PUBKEY_RE text = true := by
          simp [List.all_eq_true]
        show (if (fields.all (fun f => f.1 == "pubkey") && _PUBKEY_RE text) = true then _ else _) = _ ↔ _
        by_cases h : (∀ f ∈ fields, f.1 = "pubkey") ∧ _PUBKEY_RE text = true
        · rw [if_pos (hgood.mpr h)]
          constructor
          · rintro ⟨⟩
            exact ⟨h.1, rfl, h.2⟩
          · rintro ⟨-, ⟨⟩, -⟩
            rfl
        · rw [if_neg (fun hall => h (hgood.mp hall))]
          refine iff_of_false (by rintro ⟨⟩) ?_
          rintro ⟨hkeys, ⟨⟩, hre⟩
          exact h ⟨hkeys, hre⟩
    | null | bool _ | int _ | float _ | arr _ | obj _ =>
      exact iff_of_false (by rintro ⟨⟩) (by rintro ⟨-, ⟨⟩, -⟩)

/-- What is no object has no item "pubkey". -/
theorem requestOf_ok {pubkey : String} (h : requestOf python data = .ok pubkey) :
    ∃ fields, python.json_loads data = .ok (.obj fields) := by
  unfold requestOf loads at h
  cases hloads : python.json_loads data with
  | error e =>
    rw [hloads] at h
    cases h
  | ok value =>
    rw [hloads] at h
    cases value with
    | obj fields => exact ⟨fields, rfl⟩
    | null | bool _ | int _ | float _ | str _ | arr _ => cases h

/-- The handlers catch all that goes wrong in a request of 256 bytes. -/
theorem requestOf_error (hshort : data.length ≤ 256) {e : Exn} (h : requestOf python data = .error e) :
    catches e = true := by
  unfold requestOf loads at h
  cases hloads : python.json_loads data with
  | error e' =>
    rw [hloads] at h
    cases h
    cases e' with
    | recursionError message => exact absurd hloads (python.shallow data hshort message)
    | jsonDecodeError message | unicodeDecodeError message | valueError message => rfl
  | ok value =>
    rw [hloads] at h
    cases hitem : getItem "pubkey" value with
    | error e' =>
      simp only [PeerReplies.ok_bind, hitem] at h
      cases h
      obtain ⟨className, message, rfl, hclass⟩ := PeerReplies.getItem_classes hitem
      rcases List.mem_cons.mp hclass with rfl | hclass
      · rfl
      · obtain rfl := List.mem_singleton.mp hclass
        rfl
    | ok item =>
      simp only [PeerReplies.ok_bind, hitem] at h
      split at h
      · split at h <;> cases h
        rfl
      · cases h
        rfl

/-- **Grammar.** The handlers go on exactly with the requests of the grammar. -/
theorem outcome_ok {pubkey : String} :
    outcome python data = .ok pubkey ↔ Accepts python data pubkey := by
  unfold outcome
  constructor
  · intro h
    split at h
    · cases h
    · next hshort =>
      obtain ⟨fields, hloads⟩ := requestOf_ok h
      obtain ⟨hkeys, hlookup, hre⟩ := (requestOf_object hloads pubkey).mp h
      obtain ⟨hlen, hhex⟩ := (pubkey_re_iff pubkey).mp hre
      exact ⟨Nat.le_of_not_lt hshort, ⟨fields, hloads, hkeys, hlookup⟩, hlen, hhex⟩
  · intro h
    obtain ⟨fields, hloads, hkeys, hlookup⟩ := h.object
    rw [if_neg (show ¬_MAX_REQUEST_BYTES < data.length from Nat.not_lt.mpr h.short)]
    exact (requestOf_object hloads pubkey).mpr
      ⟨hkeys, hlookup, (pubkey_re_iff pubkey).mpr ⟨h.length, h.hex⟩⟩

theorem outcome_error {e : Exn} (h : outcome python data = .error e) : catches e = true := by
  unfold outcome at h
  split at h
  · cases h
    rfl
  · next hshort => exact requestOf_error (Nat.le_of_not_lt hshort) h

end Requests

/-! ## Answers -/

/-- An answer to the question: an object without the key "error". -/
def Answering (payload : Json) : Prop :=
  ∃ fields, payload = .obj fields ∧ Json.lookup fields "error" = none

theorem answering_response (relays : List RelayEntry) (fetched_at : Int) :
    Answering (_response relays fetched_at) := ⟨_, rfl, rfl⟩

theorem exec_get_by_pubkey (texts : PythonTexts) (pubkey : String) (inp : RelayInput) (w : RelayWorld) :
    ∃ found, RelayLookupServer.exec texts (.get_by_pubkey pubkey) inp w = (.ok found, w) :=
  ⟨_, congrArg (fun done => (done.1, w)) (MappingStore.run_get_by_pubkey pubkey _ w.mappings)⟩

theorem fallback_answering (cached : Option CachedRelayList) : Answering (fallback cached) := by
  cases cached with
  | none => exact ⟨_, rfl, rfl⟩
  | some cached => exact answering_response cached.relays cached.fetched_at

/-- A lookup that nothing hinders answers, and asks the mapping for these pubkeys. -/
def Resolves (pubkeys : List String)
    (run : History RelayOp RelayOp.Ans × Except Exn Json × RelayWorld) : Prop :=
  (∃ payload, run.2.1 = .ok payload ∧ Answering payload) ∧ asked run.1 = pubkeys

section Resolves

variable {texts : PythonTexts} {pubkeys : List String} {input : Nat → RelayInput} {w w' : RelayWorld}

theorem Resolves.call {o : RelayOp} {k : o.Ans → Resolver Json} {a : o.Ans}
    (hexec : RelayLookupServer.exec texts o (input 0) w = (a, w'))
    (h : Resolves pubkeys ((k a).runAlone (RelayLookupServer.exec texts) (fun n => input (n + 1)) w')) :
    Resolves (askedBy o ++ pubkeys) ((Prog.call o k).runAlone (RelayLookupServer.exec texts) input w) := by
  rw [Prog.runAlone_call, hexec]
  exact ⟨h.1, congrArg (askedBy o ++ ·) h.2⟩

theorem Resolves.ret {payload : Json} (h : Answering payload) :
    Resolves [] ((Prog.ret payload : Resolver Json).runAlone (RelayLookupServer.exec texts) input w) :=
  ⟨⟨payload, rfl, h⟩, rfl⟩

theorem refresh_runs (pubkey : String) (cached : Option CachedRelayList) :
    Resolves [] ((refresh pubkey cached).runAlone (RelayLookupServer.exec texts) input w) := by
  have hfetch : ∀ {fetched}, (input 0).fetched = fetched →
      RelayLookupServer.exec texts (.fetch_relay_list pubkey) (input 0) w =
        (fetched.map fun relays => relays.map Relay.entry, w) := by
    rintro _ rfl
    rfl
  cases hfetched : (input 0).fetched with
  | error e => exact .call (hfetch hfetched) (.call rfl (.ret (fallback_answering cached)))
  | ok relays =>
    refine .call (hfetch hfetched) (.call rfl (.call (Prod.ext (get_store texts _ pubkey relays _) rfl) ?_))
    exact .ret (answering_response _ _)

variable (texts input) in
theorem resolve_runs (server : LookupServer) (pubkey : String) (hcache : Filled w.cache) :
    Resolves [pubkey] ((server.resolve pubkey).runAlone (RelayLookupServer.exec texts) input w) := by
  obtain ⟨found, hget⟩ := exec_get_by_pubkey texts pubkey (input 0) w
  cases server with
  | identity => exact .call hget (.ret ⟨_, rfl, rfl⟩)
  | relay ttl =>
    refine .call hget (?_ : Resolves [] _)
    cases found with
    | none => exact .ret ⟨_, rfl, rfl⟩
    | some identity =>
      rcases hcache.get texts pubkey with hnone | ⟨relays, fetched_at, hsome⟩
      · exact .call (Prod.ext hnone rfl) (refresh_runs pubkey none)
      · refine .call (Prod.ext hsome rfl) (.call rfl ?_)
        simp only [Prog.ret_bind]
        split
        · exact .ret (answering_response _ _)
        · exact refresh_runs pubkey _

end Resolves

/-! ## Whole connections -/

section Connections

variable {python : PythonJson} {texts : PythonTexts} {input : Nat → LookupInput} {w : LookupWorld}

variable (texts) in
/-- A lookup behind the connection is the lookup, and uses the socket for nothing. -/
theorem right_runs (p : Resolver Json) (input : Nat → LookupInput) (w : LookupWorld) :
    let run := (p.right : Handler Json).runAlone (exec texts) input w
    let lookup := p.runAlone (RelayLookupServer.exec texts) (fun n => (input n).relay) w.relay
    run.2.1 = lookup.2.1 ∧ received run.1 = [] ∧ sent run.1 = [] ∧ queried run.1 = asked lookup.1 := by
  induction p generalizing input w with
  | ret payload => exact ⟨rfl, rfl, rfl, rfl⟩
  | raise e => exact ⟨rfl, rfl, rfl, rfl⟩
  | call o k ih =>
    let done := RelayLookupServer.exec texts o (input 0).relay w.relay
    obtain ⟨hend, hreceived, hsent, hqueried⟩ := ih done.1 (fun n => input (n + 1))
      { w with relay := done.2 }
    exact ⟨hend, hreceived, hsent, congrArg (askedBy o ++ ·) hqueried⟩

variable (texts) in
/-- What the handlers take from the stream, and what they make of it. -/
theorem request_runs (python : PythonJson) (input : Nat → LookupInput) (w : LookupWorld) : ∃ h m,
    (_read_line.bind fun data => Prog.ofExcept (requestOf python data)).runAlone (exec texts) input w =
        (h, outcome python (w.stream.take m), { w with stream := w.stream.drop m }) ∧
      received h = w.stream.take m ∧ Reads h ∧ (w.stream.take m).length ≤ _MAX_REQUEST_BYTES + 1 ∧
      (endsLine (w.stream.take m) = true ∨ _MAX_REQUEST_BYTES < (w.stream.take m).length ∨
        w.stream.take m = w.stream) := by
  obtain ⟨h, m, hrun, hreceived, hreads, hbound, hend⟩ :=
    readMore_runs texts [] (Nat.zero_le _) input w
  rw [List.nil_append] at hrun hbound hend
  refine ⟨h, m, ?_, hreceived, hreads, hbound, hend⟩
  rw [_read_line, Prog.bind_eq, Prog.bind_assoc, Prog.runAlone_bind_ok hrun, outcome]
  split
  · rw [Prog.raise_bind, Prog.runAlone, List.append_nil]
  · rw [Prog.pure_eq, Prog.ret_bind]
    cases requestOf python (w.stream.take m) with
    | ok pubkey => rw [Prog.ofExcept_ok, Prog.runAlone, List.append_nil]
    | error e => rw [Prog.ofExcept_error, Prog.runAlone, List.append_nil]

/-- A connection of an authorised peer, from the bytes read to the line sent. -/
structure Answered (python : PythonJson)
    (run : History (SocketOp ⊕ RelayOp) Ans × Except Exn Unit × LookupWorld) : Prop where
  returns : run.2.1 = .ok ()
  accepted : ∀ pubkey, Accepts python (received run.1) pubkey → queried run.1 = [pubkey] ∧
    ∃ payload, sent run.1 = [line .compact payload] ∧ Answering payload
  refused : (∀ pubkey, ¬Accepts python (received run.1) pubkey) → queried run.1 = [] ∧
    ∃ message, sent run.1 = [line .compact (errorPayload message)]

theorem respond_runs (payload : Json) (input : Nat → LookupInput) (w : LookupWorld) :
    (_respond payload).runAlone (exec texts) input w =
      ([⟨.inl (.sendall (line .compact payload)), ()⟩], .ok (), w) := rfl

variable (python texts input) in
theorem handle_runs (server : LookupServer) (hcache : Filled w.relay.cache) : ∃ m,
    let run := (handle python server.name server.resolve true).runAlone (exec texts) input w
    Answered python run ∧ received run.1 = w.stream.take m ∧
      (w.stream.take m).length ≤ _MAX_REQUEST_BYTES + 1 ∧
      (endsLine (w.stream.take m) = true ∨ _MAX_REQUEST_BYTES < (w.stream.take m).length ∨
        w.stream.take m = w.stream) := by
  obtain ⟨h, m, hrun, hreceived, ⟨hsent, hqueried⟩, hbound, hend⟩ :=
    request_runs texts python input w
  refine ⟨m, ?_⟩
  rw [handle, if_pos rfl, Prog.bind_eq, Prog.runAlone_bind_ok (Prog.runAlone_attempt hrun)]
  cases hout : outcome python (w.stream.take m) with
  | error e =>
    have hnone : ∀ pubkey, ¬Accepts python (w.stream.take m) pubkey :=
      fun pubkey hacc => by cases hout.symm.trans (outcome_ok.mpr hacc)
    have hread : received (h ++ [⟨.inl (.sendall (line .compact (errorPayload (badRequest e)))), ()⟩]) =
        w.stream.take m := by rw [received_append, hreceived]; exact List.append_nil _
    simp only [outcome_error hout, if_true, respond_runs]
    refine ⟨⟨rfl, fun pubkey hacc => ?_, fun _ => ⟨?_, badRequest e, ?_⟩⟩, hread, hbound, hend⟩
    · exact absurd (hread ▸ hacc) (hnone pubkey)
    · rw [queried_append, hqueried]
      rfl
    · rw [sent_append, hsent]
      rfl
  | ok pubkey =>
    have hacc : Accepts python (w.stream.take m) pubkey := outcome_ok.mp hout
    obtain ⟨hlookup, hnothing, hquiet, hasked⟩ := right_runs texts (server.resolve pubkey)
      (fun n => input (n + h.length)) { w with stream := w.stream.drop m }
    obtain ⟨⟨payload, hpayload, hanswering⟩, hkeys⟩ := resolve_runs texts
      (fun n => (input (n + h.length)).relay) server pubkey hcache
    generalize hrun' : ((server.resolve pubkey).right : Handler Json).runAlone (exec texts)
      (fun n => input (n + h.length)) { w with stream := w.stream.drop m } = run at *
    obtain ⟨h', x, w'⟩ := run
    obtain rfl : x = .ok payload := hlookup.trans hpayload
    have hread : received (h ++ (h' ++ [⟨.inl (.sendall (line .compact payload)), ()⟩])) =
        w.stream.take m := by
      rw [received_append, received_append, hreceived, hnothing]
      exact List.append_nil _
    simp only [Prog.bind_eq, Prog.runAlone_bind_ok (Prog.runAlone_attempt hrun'), respond_runs]
    refine ⟨⟨rfl, fun other hother => ⟨?_, payload, ?_, hanswering⟩, fun hnone => ?_⟩, hread, hbound,
      hend⟩
    · have hsame : .ok pubkey = Except.ok other := hout.symm.trans (outcome_ok.mpr (hread ▸ hother))
      rw [← Except.ok.inj hsame, queried_append, queried_append, hqueried, hasked, hkeys]
      rfl
    · rw [sent_append, sent_append, hsent, hquiet]
      rfl
    · exact absurd (hread.symm ▸ hacc) (hnone pubkey)

theorem Accepts.unique {data : Bytes} {pubkey other : String} (h : Accepts python data pubkey)
    (h' : Accepts python data other) : pubkey = other :=
  Except.ok.inj ((outcome_ok.mpr h).symm.trans (outcome_ok.mpr h'))

section Answered

variable {run : History (SocketOp ⊕ RelayOp) Ans × Except Exn Unit × LookupWorld}

theorem Answered.line (h : Answered python run) : ∃ payload, sent run.1 = [line .compact payload] := by
  by_cases hacc : ∃ pubkey, Accepts python (received run.1) pubkey
  · obtain ⟨pubkey, hacc⟩ := hacc
    obtain ⟨-, payload, hsent, -⟩ := h.accepted pubkey hacc
    exact ⟨payload, hsent⟩
  · obtain ⟨-, message, hsent⟩ := h.refused (not_exists.mp hacc)
    exact ⟨_, hsent⟩

theorem Answered.mem_queried (h : Answered python run) (pubkey : String) :
    pubkey ∈ queried run.1 ↔ Accepts python (received run.1) pubkey := by
  by_cases hacc : ∃ other, Accepts python (received run.1) other
  · obtain ⟨other, hacc⟩ := hacc
    rw [(h.accepted other hacc).1, List.mem_singleton]
    constructor
    · rintro rfl
      exact hacc
    · exact fun h => h.unique hacc
  · rw [(h.refused (not_exists.mp hacc)).1]
    exact iff_of_false List.not_mem_nil (not_exists.mp hacc pubkey)

end Answered

/-- One line is read to its end, however it was cut. -/
theorem take_line {stream body : Bytes} (hstream : stream = body ++ [newline]) (hbody : newline ∉ body)
    (hshort : stream.length ≤ 256) {m : Nat}
    (hend : endsLine (stream.take m) = true ∨ _MAX_REQUEST_BYTES < (stream.take m).length ∨
      stream.take m = stream) : stream.take m = stream := by
  rcases hend with hline | hlong | hwhole
  · -- the only newline is the last byte
    have hlast : (stream.take m).getLast? = some newline := by simpa [endsLine] using hline
    have hmem := List.mem_of_getLast? hlast
    by_cases hm : m ≤ body.length
    · rw [hstream, List.take_append_of_le_length hm] at hmem
      exact absurd (List.mem_of_mem_take hmem) hbody
    · rw [List.take_of_length_le]
      rw [hstream, List.length_append, List.length_singleton]
      omega
  · have hle := List.length_take_le' m stream
    have hmax : _MAX_REQUEST_BYTES = 256 := rfl
    omega
  · exact hwhole

/-- **Grammar of the lookup servers.** At most 257 bytes are read, one line is sent, the mapping is
asked for the pubkey of a request in the grammar and for nothing else, and such a request is
answered while all others get an error. -/
theorem lookup_grammar (python : PythonJson) (texts : PythonTexts) (server : LookupServer)
    (input : Nat → LookupInput) (w : LookupWorld) (hcache : Filled w.relay.cache) :
    let run := (handle python server.name server.resolve true).runAlone (exec texts) input w
    (received run.1).length ≤ 257 ∧ received run.1 <+: w.stream ∧
      (∃ payload, sent run.1 = [line .compact payload]) ∧
      (∀ pubkey, pubkey ∈ queried run.1 ↔ Accepts python (received run.1) pubkey) ∧
      (∀ body pubkey, w.stream = body ++ [newline] → newline ∉ body →
        Accepts python w.stream pubkey → received run.1 = w.stream ∧
          ∃ payload, sent run.1 = [line .compact payload] ∧ Answering payload) ∧
      Answered python run := by
  intro run
  obtain ⟨m, hanswered, hreceived, hbound, hend⟩ := handle_runs python texts input
    server hcache
  refine ⟨hreceived ▸ hbound, hreceived ▸ List.take_prefix m w.stream, hanswered.line,
    hanswered.mem_queried, fun body pubkey hstream hbody hacc => ?_, hanswered⟩
  have hwhole : received run.1 = w.stream :=
    hreceived.trans (take_line hstream hbody hacc.short hend)
  rw [← hwhole] at hacc
  exact ⟨hwhole, (hanswered.accepted pubkey hacc).2⟩

end Connections

/-! ## The clients' requests -/

/-- What the clients send is in the grammar. -/
theorem request_accepts (texts : PythonTexts) {pubkey : String} (hpubkey : _PUBKEY_RE pubkey = true) :
    Accepts texts (IdentityLookup.request pubkey) pubkey := by
  have hplain : (Json.obj [("pubkey", .str pubkey)]).Plain := by simp [Json.Plain, Json.PlainFields]
  have hloads : loads texts (IdentityLookup.request pubkey) = .ok (.obj [("pubkey", .str pubkey)]) :=
    loads_line texts Json.Separators.compact_ok hplain
  have hshort : ¬_MAX_REQUEST_BYTES < (IdentityLookup.request pubkey).length := by
    rw [length_request hpubkey]
    decide
  apply outcome_ok.mp
  rw [outcome, if_neg hshort]
  refine (requestOf_object (loads_eq_ok.mp hloads) pubkey).mpr ⟨?_, rfl, hpubkey⟩
  intro f hf
  rw [List.mem_singleton.mp hf]

def sampleKey : String := String.ofList (List.replicate 64 'a')

def sampleWorld : LookupWorld := ⟨IdentityLookup.request sampleKey, MappingDb.empty, Table.empty⟩

/-- The request arrives byte by byte. -/
theorem byteByByte_queried :
    queried ((handle PeerReplies.plainTexts "identity" LookupServer.identity.resolve true).runAlone
      (exec PeerReplies.plainTexts) (fun _ => ⟨0, 0, .error ""⟩) sampleWorld).1 = [sampleKey] := by
  have hkey : _PUBKEY_RE sampleKey = true := by
    have hlist : sampleKey.toList = List.replicate 64 'a' := String.toList_ofList
    refine (pubkey_re_iff sampleKey).mpr ⟨?_, fun c hc => ?_⟩
    · rw [hlist, List.length_replicate]
    · rw [hlist] at hc
      rw [List.eq_of_mem_replicate hc]
      simp
  have hacc : Accepts PeerReplies.plainTexts sampleWorld.stream sampleKey :=
    request_accepts PeerReplies.plainTexts hkey
  have hplain : (Json.obj [("pubkey", .str sampleKey)]).Plain := by simp [Json.Plain, Json.PlainFields]
  obtain ⟨-, -, -, -, hwhole, hanswered⟩ := lookup_grammar PeerReplies.plainTexts
    PeerReplies.plainTexts .identity (fun _ => ⟨0, 0, .error ""⟩) sampleWorld .empty
  obtain ⟨hread, -⟩ := hwhole _ sampleKey rfl (newline_not_mem Json.Separators.compact_ok hplain) hacc
  rw [← hread] at hacc
  exact (hanswered.accepted sampleKey hacc).1

end NostrAuth.LookupServers
