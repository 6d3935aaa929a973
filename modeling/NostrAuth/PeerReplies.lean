import NostrAuth.HelperServices

/-! What another process answers, seen by the four functions that decode it: the two lookups,
`mint_session` and `get_authenticated_session`. Each ends in a value or in the error of its own
class, except for the answers named here. -/

set_option autoImplicit false

namespace NostrAuth

open Sockets

namespace PortalClient

/-- What comes of `urlopen` and `response.read()`. `urlopen` folds an `OSError` into `URLError` while
it connects and sends; what it meets waiting for the response (`RemoteDisconnected`, `TimeoutError`)
it raises as it is, and so does `read` when the body ends early (`IncompleteRead`). -/
inductive Fetched
  | httpError (code : Int)
  | urlError (reason : String)
  | noResponse (className message : String)
  | cutShort (className message : String)
  | body (raw : Bytes)

/-- `json.loads(response.read())`, once the whole body is read. -/
def okReply (python : PythonJson) (raw : Bytes) : PortalReply :=
  match python.json_loads raw with
  | .ok value => .body value
  | .error (.jsonDecodeError message) => .notJson message
  | .error (.unicodeDecodeError message) => .raised "UnicodeDecodeError" message
  | .error (.valueError message) => .raised "ValueError" message
  | .error (.recursionError message) => .raised "RecursionError" message

/-- What `get_authenticated_session` goes on with. -/
def Fetched.reply (python : PythonJson) : Fetched → PortalReply
  | .httpError code => .httpError code
  | .urlError reason => .urlError reason
  -- neither `HTTPError` nor `URLError`: no clause catches it
  | .noResponse className message => .raised className message
  | .cutShort className message => .raised className message
  | .body raw => okReply python raw

end PortalClient

namespace PeerReplies

/-- A decoder ends in a value with the property `P`, or in its own error. -/
def Closed {α : Type} (own : String → Exn) (P : α → Prop) : Except Exn α → Prop
  | .ok a => P a
  | .error e => ∃ message, e = own message

/-- `json.loads` reads a value of the shape `S`, or raises `JSONDecodeError`. -/
def Decodes (S : Json → Prop) : Except LoadsError Json → Prop
  | .ok value => S value
  | .error e => ∃ message, e = .jsonDecodeError message

/-- The bytes that a client takes from its peer, if it reaches one at all, decode so. -/
def Answers (python : PythonJson) (S : Json → Prop) : Received → Prop
  | .error _ => True
  | .ok chunks => Decodes S (python.json_loads (readLoop (fun _ => true) [] chunks))

/-- portal-api refuses or is out of reach, or sends its whole body, which decodes so. -/
def Fetches (python : PythonJson) (S : Json → Prop) : PortalClient.Fetched → Prop
  | .httpError _ => True
  | .urlError _ => True
  | .noResponse .. => False
  | .cutShort .. => False
  | .body raw => Decodes S (python.json_loads raw)

def IsObject : Json → Prop
  | .obj _ => True
  | _ => False

/-- Objects, and what can be searched for the key "error" but has none. -/
def MintShape : Json → Prop
  | .obj _ => True
  | .arr items => Json.str "error" ∉ items
  | .str s => occursIn (PyStr.text "error").codes s.codes = false
  | _ => False

/-- Objects, but none that says whether the key is linked and nothing of the user. -/
def IdentityShape : Json → Prop
  | .obj fields => (∃ e, Json.lookup fields "error" = some e) ∨
      (∃ username, Json.lookup fields "username" = some username) ∨
      ∀ linked, Json.lookup fields "linked" ≠ some (.bool linked)
  | _ => False

/-! ## Decoding -/

theorem contains_arr (key : String) (items : List Json) :
    ∃ found, contains key (.arr items) = .ok found ∧ (found = true ↔ Json.str key ∈ items) := by
  refine ⟨_, rfl, ?_⟩
  induction items with
  | nil => simp
  | cons item items ih =>
    rw [List.any_cons, Bool.or_eq_true, ih, List.mem_cons]
    apply or_congr_left
    cases item with
    | str s =>
      rw [beq_iff_eq, Json.str.injEq]
      exact eq_comm
    | null | bool _ | int _ | float _ | arr _ | obj _ =>
      exact iff_of_false Bool.false_ne_true (by rintro ⟨⟩)

theorem decodes_congr {S S' : Json → Prop} (h : ∀ value, S value ↔ S' value)
    (loaded : Except LoadsError Json) : Decodes S loaded ↔ Decodes S' loaded := by
  cases loaded with
  | ok value => exact h value
  | error e => rfl

section Closed

variable {α : Type} {own : String → Exn} {P : α → Prop}

/-- The failures of `json.loads`: `JSONDecodeError` is caught, no other is. -/
theorem closed_loads (hown : ∀ (e : LoadsError) m, e.exn ≠ own m) (start : String)
    (python : PythonJson) (raw : Bytes) (k : Json → Except Exn α) :
    Closed own P (catching ["JSONDecodeError"] (fun m => own (start ++ m)) (loads python raw) >>= k) ↔
      Decodes (fun value => Closed own P (k value)) (python.json_loads raw) := by
  unfold loads
  cases python.json_loads raw with
  | ok value => rfl
  | error e =>
    cases e with
    | jsonDecodeError m => exact iff_of_true ⟨start ++ m, rfl⟩ ⟨m, rfl⟩
    | unicodeDecodeError m =>
      exact iff_of_false (fun ⟨m', h⟩ => hown (.unicodeDecodeError m) m' h) (by rintro ⟨m', h⟩; cases h)
    | valueError m =>
      exact iff_of_false (fun ⟨m', h⟩ => hown (.valueError m) m' h) (by rintro ⟨m', h⟩; cases h)
    | recursionError m =>
      exact iff_of_false (fun ⟨m', h⟩ => hown (.recursionError m) m' h) (by rintro ⟨m', h⟩; cases h)

theorem lookup_error_ne (className : String)
    (h : className ∉ ["JSONDecodeError", "UnicodeDecodeError", "ValueError", "RecursionError"])
    (e : LoadsError) (m : String) : e.exn ≠ .uncaught className m := by
  rintro heq
  cases e <;> cases heq <;> simp at h

/-- An exception of another class is not the decoder's own. -/
theorem not_closed {className message : String} (h : ∀ m, Exn.uncaught className message ≠ own m) :
    ¬Closed own P (.error (.uncaught className message)) :=
  fun ⟨m, hm⟩ => h m hm

end Closed

/-! ## Fields -/

theorem getItem_some {key : String} {fields : List (PyStr × Json)} {value : Json}
    (h : Json.lookup fields key = some value) : getItem key (.obj fields) = .ok value := by
  simp only [getItem, h]

theorem getItem_none {key : String} {fields : List (PyStr × Json)}
    (h : Json.lookup fields key = none) :
    getItem key (.obj fields) = .error (.uncaught "KeyError" (pyRepr key)) := by
  simp only [getItem, h]

theorem ok_bind {α β : Type} (a : α) (f : α → Except Exn β) : (Except.ok a >>= f) = f a := rfl

theorem get_obj (key : String) (fields : List (PyStr × Json)) :
    Sockets.get key (.obj fields) = .ok ((Json.lookup fields key).getD .null) := rfl

/-- A failed look at a relay is a `KeyError` or a `TypeError`. -/
theorem getItem_classes {key : String} {value : Json} {e : Exn} (h : getItem key value = .error e) :
    ∃ className message, e = .uncaught className message ∧ className ∈ ["KeyError", "TypeError"] := by
  unfold getItem at h
  split at h
  · split at h <;> cases h
    exact ⟨_, _, rfl, by simp⟩
  all_goals
    cases h
    exact ⟨_, _, rfl, by simp⟩

theorem readRelay_classes {item : Json} {e : Exn} (h : RelayLookup.readRelay item = .error e) :
    ∃ className message, e = .uncaught className message ∧ className ∈ ["KeyError", "TypeError"] := by
  unfold RelayLookup.readRelay at h
  cases hurl : getItem "url" item with
  | error e' =>
    rw [hurl] at h
    cases h
    exact getItem_classes hurl
  | ok url =>
    rw [hurl] at h
    cases hread : getItem "read" item with
    | error e' =>
      rw [hread] at h
      cases h
      exact getItem_classes hread
    | ok read =>
      rw [hread] at h
      cases hwrite : getItem "write" item with
      | error e' =>
        rw [hwrite] at h
        cases h
        exact getItem_classes hwrite
      | ok write =>
        rw [hwrite] at h
        cases h

theorem mapM_readRelay_classes {items : List Json} {e : Exn}
    (h : items.mapM RelayLookup.readRelay = .error e) :
    ∃ className message, e = .uncaught className message ∧ className ∈ ["KeyError", "TypeError"] := by
  induction items with
  | nil => cases h
  | cons item items ih =>
    rw [List.mapM_cons] at h
    cases hitem : RelayLookup.readRelay item with
    | error e' =>
      rw [hitem] at h
      cases h
      exact readRelay_classes hitem
    | ok relay =>
      rw [hitem] at h
      cases hrest : items.mapM RelayLookup.readRelay with
      | error e' =>
        rw [hrest] at h
        cases h
        exact ih hrest
      | ok relays =>
        rw [hrest] at h
        cases h

/-! ## The four decoders -/

theorem mint_shape (value : Json) :
    Closed .sessionMintError (fun _ => True) (Sessions.decode value) ↔ MintShape value := by
  cases value with
  | null => exact iff_of_false (not_closed fun _ h => by cases h) id
  | bool b => exact iff_of_false (not_closed fun _ h => by cases h) id
  | int n => exact iff_of_false (not_closed fun _ h => by cases h) id
  | float r => exact iff_of_false (not_closed fun _ h => by cases h) id
  | str s =>
    show Closed _ _ ((Except.ok (occursIn (PyStr.text "error").codes s.codes) : Except Exn Bool) >>= _) ↔ _
    cases hfound : occursIn (PyStr.text "error").codes s.codes with
    | true =>
      exact iff_of_false (not_closed fun _ h => by cases h)
        fun h => Bool.false_ne_true (h.symm.trans hfound)
    | false => exact iff_of_true ⟨_, rfl⟩ hfound
  | arr items =>
    obtain ⟨found, hcontains, hfound⟩ := contains_arr "error" items
    simp only [Sessions.decode, hcontains]
    cases found with
    | true => exact iff_of_false (not_closed fun _ h => by cases h) fun h => h (hfound.mp rfl)
    | false => exact iff_of_true ⟨_, rfl⟩ fun h => Bool.false_ne_true (hfound.mpr h)
  | obj fields =>
    refine iff_of_true ?_ trivial
    show Closed _ _ ((Except.ok (Json.lookup fields "error").isSome : Except Exn Bool) >>= _)
    cases herror : Json.lookup fields "error" with
    | some e =>
      simp only [getItem_some herror]
      exact ⟨_, rfl⟩
    | none =>
      show Closed _ _ (catching _ _ (getItem "token" (.obj fields) >>= _))
      cases htoken : Json.lookup fields "token" with
      | none =>
        simp only [getItem_none htoken]
        exact ⟨_, rfl⟩
      | some token =>
        simp only [getItem_some htoken]
        cases hage : Json.lookup fields "max_age" with
        | none =>
          simp only [getItem_none hage]
          exact ⟨_, rfl⟩
        | some max_age =>
          simp only [getItem_some hage]
          trivial

/-- What is no object has no key "linked" that the lookups could ask for. -/
theorem not_closed_lookup {α : Type} {own : String → Exn} {P : α → Prop}
    (hown : ∀ className m, className ∈ ["TypeError", "AttributeError"] →
      ∀ m', Exn.uncaught className m ≠ own m')
    {value : Json} (hvalue : ¬IsObject value) (failed linked : Json → Except Exn α) :
    ¬Closed own P (contains "error" value >>= fun found =>
      if found = true then getItem "error" value >>= failed
      else Sockets.get "linked" value >>= linked) := by
  have htype : ∀ m, ¬Closed own P (.error (.uncaught "TypeError" m)) :=
    fun m => not_closed (hown _ m (by simp))
  have hattr : ∀ m, ¬Closed own P (.error (.uncaught "AttributeError" m)) :=
    fun m => not_closed (hown _ m (by simp))
  cases value with
  | null => exact htype _
  | bool b => exact htype _
  | int n => exact htype _
  | float r => exact htype _
  | str s =>
    show ¬Closed own P ((Except.ok (occursIn (PyStr.text "error").codes s.codes) : Except Exn Bool) >>= _)
    cases occursIn (PyStr.text "error").codes s.codes with
    | true => exact htype _
    | false => exact hattr _
  | arr items =>
    obtain ⟨found, hcontains, _⟩ := contains_arr "error" items
    simp only [hcontains]
    cases found with
    | true => exact htype _
    | false => exact hattr _
  | obj fields => exact absurd trivial hvalue

theorem own_ne {c className : String} (h : c ≠ className) (m m' : String) :
    Exn.uncaught c m ≠ .uncaught className m' := by
  intro heq
  cases heq
  exact h rfl

theorem lookup_own_ne {className : String} (h : className ∉ ["TypeError", "AttributeError"]) (c m : String)
    (hc : c ∈ ["TypeError", "AttributeError"]) (m' : String) : Exn.uncaught c m ≠ .uncaught className m' :=
  own_ne (fun (heq : c = className) => h (by rwa [← heq])) m m'

theorem identity_shape (value : Json) :
    Closed IdentityLookup.identityLookupError (fun _ => True) (IdentityLookup.decode value) ↔
      IdentityShape value := by
  by_cases hvalue : IsObject value
  · cases value with
    | null | bool _ | int _ | float _ | str _ | arr _ => exact hvalue.elim
    | obj fields =>
      show Closed _ _ ((Except.ok (Json.lookup fields "error").isSome : Except Exn Bool) >>= _) ↔ _
      cases herror : Json.lookup fields "error" with
      | some e =>
        simp only [getItem_some herror]
        exact iff_of_true ⟨_, rfl⟩ (Or.inl ⟨e, herror⟩)
      | none =>
        simp only [ok_bind, Option.isSome_none, Bool.false_eq_true, if_false, get_obj]
        cases hlinked : Json.lookup fields "linked" with
        | none =>
          exact iff_of_true ⟨_, rfl⟩ (Or.inr (Or.inr fun b h => by cases hlinked.symm.trans h))
        | some linked =>
          cases linked with
          | bool b =>
            cases huser : Json.lookup fields "username" with
            | none =>
              simp only [Option.getD_some, Option.getD_none, getItem_none huser]
              refine iff_of_false (not_closed (own_ne (by simp) _)) ?_
              rintro (⟨e, h⟩ | ⟨u, h⟩ | h)
              · cases herror.symm.trans h
              · cases huser.symm.trans h
              · exact h b hlinked
            | some username =>
              simp only [Option.getD_some, ok_bind, getItem_some huser]
              refine iff_of_true ?_ (Or.inr (Or.inl ⟨username, huser⟩))
              cases username with
              | null | str _ => trivial
              | bool _ | int _ | float _ | arr _ | obj _ => exact ⟨_, rfl⟩
          | null | int _ | float _ | str _ | arr _ | obj _ =>
            exact iff_of_true ⟨_, rfl⟩ (Or.inr (Or.inr fun b h => by cases hlinked.symm.trans h))
  · refine iff_of_false (not_closed_lookup (lookup_own_ne (by simp)) hvalue _ _) ?_
    cases value with
    | obj fields => exact absurd trivial hvalue
    | null | bool _ | int _ | float _ | str _ | arr _ => exact id

theorem relay_shape (value : Json) :
    Closed RelayLookup.relayLookupError (fun _ => True) (RelayLookup.decode value) ↔
      IsObject value := by
  by_cases hvalue : IsObject value
  · cases value with
    | null | bool _ | int _ | float _ | str _ | arr _ => exact hvalue.elim
    | obj fields =>
      refine iff_of_true ?_ trivial
      show Closed _ _ ((Except.ok (Json.lookup fields "error").isSome : Except Exn Bool) >>= _)
      cases herror : Json.lookup fields "error" with
      | some e =>
        simp only [getItem_some herror]
        exact ⟨_, rfl⟩
      | none =>
        simp only [ok_bind, Option.isSome_none, Bool.false_eq_true, if_false, get_obj]
        cases (Json.lookup fields "linked").getD .null with
        | bool linked =>
          cases (Json.lookup fields "relays").getD .null with
          | arr items =>
            cases hrelays : items.mapM RelayLookup.readRelay with
            | ok relays => simp only [hrelays]; trivial
            | error e =>
              obtain ⟨className, message, rfl, hclass⟩ := mapM_readRelay_classes hrelays
              simp only [hrelays, catching, if_pos hclass]
              exact ⟨_, rfl⟩
          | null | bool _ | int _ | float _ | str _ | obj _ => exact ⟨_, rfl⟩
        | null | int _ | float _ | str _ | arr _ | obj _ => exact ⟨_, rfl⟩
  · exact iff_of_false (not_closed_lookup (lookup_own_ne (by simp)) hvalue _ _) hvalue

theorem portal_body_shape (python : PythonJson) (raw : Bytes) :
    Closed .portalAuthError (fun session => session.username ≠ .text "")
        (PortalClient.readSession (PortalClient.okReply python raw)) ↔
      Decodes IsObject (python.json_loads raw) := by
  unfold PortalClient.okReply
  cases python.json_loads raw with
  | error e =>
    cases e with
    | jsonDecodeError m => exact iff_of_true ⟨_, rfl⟩ ⟨m, rfl⟩
    | unicodeDecodeError m | valueError m | recursionError m =>
      exact iff_of_false (not_closed fun _ h => by cases h) (by rintro ⟨m', h⟩; cases h)
  | ok value =>
    cases value with
    | null | bool _ | int _ | float _ | str _ | arr _ =>
      exact iff_of_false (not_closed fun _ h => by cases h) id
    | obj fields =>
      refine iff_of_true ?_ trivial
      simp only [PortalClient.readSession]
      cases Json.lookup fields "username" with
      | none => exact ⟨_, rfl⟩
      | some username =>
        cases username with
        | str username =>
          by_cases hempty : username = .text ""
          · simp only [if_pos hempty]
            exact ⟨_, rfl⟩
          · simp only [if_neg hempty]
            exact hempty
        | null | bool _ | int _ | float _ | arr _ | obj _ => exact ⟨_, rfl⟩

theorem portal_shape (python : PythonJson) (fetched : PortalClient.Fetched) :
    Closed .portalAuthError (fun session => session.username ≠ .text "")
        (PortalClient.readSession (fetched.reply python)) ↔
      Fetches python IsObject fetched := by
  cases fetched with
  | httpError code | urlError reason => exact iff_of_true ⟨_, rfl⟩ trivial
  | noResponse className message | cutShort className message =>
    exact iff_of_false (not_closed fun _ h => by cases h) id
  | body raw => exact portal_body_shape python raw

/-! ## What arrives -/

section Received

variable {α : Type} {own : String → Exn} {P : α → Prop}

/-- A client that cannot reach its peer, or whose decoder meets its shape on what it read. -/
theorem closed_received (python : PythonJson) (received : Received) {S : Json → Prop}
    {decoder : Received → Except Exn α} {decode : Json → Except Exn α} {start unreachable : String}
    (hown : ∀ (e : LoadsError) m, e.exn ≠ own m)
    (herror : ∀ e, decoder (.error e) = .error (own (unreachable ++ e)))
    (hok : ∀ chunks, decoder (.ok chunks) =
      (catching ["JSONDecodeError"] (fun m => own (start ++ m))
        (loads python (readLoop (fun _ => true) [] chunks)) >>= decode))
    (hshape : ∀ value, Closed own P (decode value) ↔ S value) :
    Closed own P (decoder received) ↔ Answers python S received := by
  cases received with
  | error e =>
    rw [herror]
    exact iff_of_true ⟨_, rfl⟩ trivial
  | ok chunks =>
    rw [hok]
    exact (closed_loads hown start python _ decode).trans (decodes_congr hshape _)

end Received

/-- **Replies.** The exact answers on which each of the four functions ends in a value or in its
own error. -/
theorem replies_closed_iff (python : PythonJson) (received : Received)
    (fetched : PortalClient.Fetched) :
    (Closed .sessionMintError (fun _ => True) (Sessions.mint_session python received) ↔
      Answers python MintShape received) ∧
    (Closed IdentityLookup.identityLookupError (fun _ => True)
        (IdentityLookup.lookup_identity python received) ↔
      Answers python IdentityShape received) ∧
    (Closed RelayLookup.relayLookupError (fun _ => True)
        (RelayLookup.lookup_relays python received) ↔
      Answers python IsObject received) ∧
    (Closed .portalAuthError (fun session => session.username ≠ .text "")
        (PortalClient.readSession (fetched.reply python)) ↔
      Fetches python IsObject fetched) := by
  refine ⟨?_, ?_, ?_, portal_shape python fetched⟩
  · exact closed_received python received (by intro e m; cases e <;> simp [LoadsError.exn])
      (fun _ => rfl) (fun _ => rfl) mint_shape
  · exact closed_received python received (lookup_error_ne _ (by simp)) (fun _ => rfl) (fun _ => rfl)
      identity_shape
  · exact closed_received python received (lookup_error_ne _ (by simp)) (fun _ => rfl) (fun _ => rfl)
      relay_shape

/-- An interpreter that prints no message. -/
def plainTexts : PythonTexts := ⟨fun text => text, fun _ => ""⟩

/-- The peer's answer is the number 5. -/
def five : Bytes := line .default (.int 5)

/-- `"error" in 5` and `(5).get` leave all four functions as they are raised. -/
theorem five_escapes :
    ¬Closed .sessionMintError (fun _ => True) (Sessions.mint_session plainTexts (.ok [five])) ∧
    ¬Closed IdentityLookup.identityLookupError (fun _ => True)
        (IdentityLookup.lookup_identity plainTexts (.ok [five])) ∧
    ¬Closed RelayLookup.relayLookupError (fun _ => True)
        (RelayLookup.lookup_relays plainTexts (.ok [five])) ∧
    ¬Closed .portalAuthError (fun session => session.username ≠ .text "")
        (PortalClient.readSession ((PortalClient.Fetched.body five).reply plainTexts)) := by
  have hloads : loads plainTexts five = .ok (.int 5) :=
    loads_line plainTexts Json.Separators.default_ok trivial
  have hread : readLoop (fun _ => true) [] [five] = five := by simp [readLoop, five, line, endsLine]
  have hjson : plainTexts.python.json_loads five = .ok (.int 5) := loads_eq_ok.mp hloads
  refine ⟨?_, ?_, ?_, ?_⟩
  · simp only [Sessions.mint_session, Sessions._read_line, hread, hloads]
    exact not_closed fun _ h => by cases h
  · simp only [IdentityLookup.lookup_identity, hread, hloads]
    exact not_closed (own_ne (by simp) _)
  · simp only [RelayLookup.lookup_relays, hread, hloads]
    exact not_closed (own_ne (by simp) _)
  · simp only [PortalClient.Fetched.reply, PortalClient.okReply, hjson]
    exact not_closed fun _ h => by cases h

end PeerReplies

end NostrAuth
