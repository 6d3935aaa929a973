import NostrAuth.ConnectUi

/-! A key that was saved is the key that is loaded: the hexadecimal functions undo each other, and
what a tab reads back is what was stored last, in every run of the tabs. -/

set_option autoImplicit false

namespace NostrAuth.NostrConnectUI

open EcmaScript Interaction

/-! ## Hexadecimal there and back -/

/-- The two digits of a byte. -/
def hexPair (b : UInt8) : JsString := [lowerDigit (b.toNat / 16), lowerDigit (b.toNat % 16)]

theorem foldl_hex (bytes : Bytes) (hex : JsString) :
    bytes.foldl (fun hex b => hex ++ padStart (toString16 b.toNat) 2 (ascii "0")) hex =
      hex ++ bytes.flatMap hexPair := by
  induction bytes generalizing hex with
  | nil => rw [List.foldl_nil, List.flatMap_nil, List.append_nil]
  | cons b bytes ih =>
    rw [List.foldl_cons, ih, padStart_toString16 b.toNat_lt, List.flatMap_cons, List.append_assoc]
    rfl

theorem bytesToHex_cons (b : UInt8) (bytes : Bytes) :
    bytesToHex (b :: bytes) = hexPair b ++ bytesToHex bytes := by
  rw [bytesToHex, bytesToHex, foldl_hex, foldl_hex, List.flatMap_cons]
  rfl

theorem hexToBytes_cons (x y : UInt16) (hex : JsString) :
    hexToBytes (x :: y :: hex) = toUint8 (parseInt16 [x, y]) :: hexToBytes hex := by
  have hlen : (x :: y :: hex).length / 2 = hex.length / 2 + 1 := by
    simp only [List.length_cons]
    omega
  rw [hexToBytes, hlen, List.range_succ_eq_map, List.map_cons, List.map_map]
  congr 1
  apply List.map_congr_left
  intro i _
  rw [Function.comp_apply, substr_succ]

theorem toUint8_digits {a b : Nat} (ha : a < 16) (hb : b < 16) :
    toUint8 (parseInt16 [lowerDigit a, lowerDigit b]) = UInt8.ofNat (16 * a + b) := by
  rw [parseInt16_digits ha hb, toUint8_nat]

/-- **Bytes.** Every array of bytes survives the way to hexadecimal and back. -/
theorem hexToBytes_bytesToHex (bytes : Bytes) : hexToBytes (bytesToHex bytes) = bytes := by
  induction bytes with
  | nil => rfl
  | cons b bytes ih =>
    have hlt := b.toNat_lt
    have hvalue : 16 * (b.toNat / 16) + b.toNat % 16 = b.toNat := by omega
    rw [bytesToHex_cons, hexPair, List.cons_append, List.cons_append, List.nil_append, hexToBytes_cons,
      ih, toUint8_digits (by omega) (by omega), hvalue, UInt8.ofNat_toNat]

/-- The digits of the byte that two digits write. -/
theorem hexPair_digits {a b : Nat} (ha : a < 16) (hb : b < 16) :
    hexPair (UInt8.ofNat (16 * a + b)) = [lowerDigit a, lowerDigit b] := by
  have hbyte : (UInt8.ofNat (16 * a + b)).toNat = 16 * a + b := by
    rw [UInt8.toNat_ofNat']
    omega
  have hhigh : (16 * a + b) / 16 = a := by omega
  have hlow : (16 * a + b) % 16 = b := by omega
  rw [hexPair, hbyte, hhigh, hlow]

/-- **Digits.** So does every even number of lower case digits. -/
theorem bytesToHex_hexToBytes : ∀ hex : JsString, hex.length % 2 = 0 → (∀ u ∈ hex, IsLowerHex u) →
    bytesToHex (hexToBytes hex) = hex
  | [], _, _ => rfl
  | [x], heven, _ => by cases heven
  | x :: y :: hex, heven, hdigits => by
    obtain ⟨a, ha, rfl⟩ := exists_lowerDigit (hdigits x (by simp))
    obtain ⟨b, hb, rfl⟩ := exists_lowerDigit (hdigits y (by simp))
    have heven : hex.length % 2 = 0 := by
      simp only [List.length_cons] at heven
      omega
    have ih := bytesToHex_hexToBytes hex heven fun u hu => hdigits u (by simp [hu])
    rw [hexToBytes_cons, bytesToHex_cons, ih, toUint8_digits ha hb, hexPair_digits ha hb]
    rfl

theorem bytesToHex_eq_nil {bytes : Bytes} : (bytesToHex bytes).isEmpty = true ↔ bytes = [] := by
  cases bytes with
  | nil => exact iff_of_true rfl rfl
  | cons b bytes =>
    rw [bytesToHex_cons]
    exact iff_of_false (by simp [hexPair]) (by simp)

/-! ## One item of the storage -/

abbrev UiEntry := Entry Op Op.Ans UiInput Storage

abbrev UiRun := Config Op Op.Ans String Result UiInput Storage Call

/-- What a call leaves in the item, if it writes to it. -/
def writes (key : String) : UiEvent → Option (Option JsString)
  | ⟨.setItem k value, .ok ()⟩ => if k = key then some (some value) else none
  | ⟨.removeItem k, .ok ()⟩ => if k = key then some none else none
  | _ => none

/-- What the last write left in the item. -/
def lastWritten (key : String) (log : List UiEntry) : Option (Option JsString) :=
  (log.filterMap fun e => writes key e.event).getLast?

theorem lastWritten_append (key : String) (log : List UiEntry) (e : UiEntry) :
    lastWritten key (log ++ [e]) = (writes key e.event).or (lastWritten key log) := by
  rw [lastWritten, List.filterMap_append, List.getLast?_append]
  cases hwrites : writes key e.event with
  | none => simp [hwrites, lastWritten]
  | some left => simp [hwrites]

theorem exec_writes (key : String) (o : Op) (inp : UiInput) (s : Storage) :
    (exec o inp s).2 key = (writes key ⟨o, (exec o inp s).1⟩).getD (s key) := by
  cases o with
  | setItem k value =>
    cases hthrows : inp.throws with
    | some e => simp [exec, hthrows, writes]
    | none =>
      by_cases hk : k = key
      · simp [exec, hthrows, writes, hk]
      · simp [exec, hthrows, writes, hk, Function.update_of_ne (Ne.symm hk)]
  | removeItem k =>
    cases hthrows : inp.throws with
    | some e => simp [exec, hthrows, writes]
    | none =>
      by_cases hk : k = key
      · simp [exec, hthrows, writes, hk]
      · simp [exec, hthrows, writes, hk, Function.update_of_ne (Ne.symm hk)]
  | getItem k =>
    cases hthrows : inp.throws with
    | some e => simp [exec, hthrows, writes]
    | none => simp [exec, hthrows, writes]
  | _ => rfl

section Storage

variable {browser : Browser} {start : Storage} {c : UiRun}

/-- The item holds what was written last. -/
theorem item_eq (hc : Reachable (tabs browser) start c) (key : String) :
    c.world key = (lastWritten key c.log).getD (start key) := by
  apply hc.logged (P := fun s log => s key = (lastWritten key log).getD (start key))
  · rfl
  · intro i o inp s log ih
    show (exec o inp s).2 key = _
    rw [exec_writes, ih, lastWritten_append]
    show _ = ((writes key ⟨o, (exec o inp s).1⟩).or _).getD _
    cases writes key ⟨o, (exec o inp s).1⟩ with
    | none => rfl
    | some left => rfl
  · intro inp s log ih
    exact ih

/-- An item that can be read is read as it was written last. -/
theorem read_eq (hc : Reachable (tabs browser) start c) {k : Nat} {r : UiEntry} {key : String}
    {found : Option JsString} (hr : c.log[k]? = some r)
    (hread : r.event = ⟨.getItem key, .ok found⟩) : found = (lastWritten key (c.log.take k)).getD (start key) := by
  obtain ⟨c', hc', hlog, hworld, _⟩ := hc.snapshot hr
  have hexec := congrArg Prod.fst (hc.exec_of_event hr hread)
  rw [← hlog, ← item_eq hc' key, hworld]
  simp only [tabs, exec] at hexec
  cases hthrows : r.input.throws with
  | some e =>
    rw [hthrows] at hexec
    cases hexec
  | none =>
    rw [hthrows] at hexec
    exact (Except.ok.inj hexec).symm

end Storage

/-! ## What each call does with the items -/

abbrev UiHistory := History Op Op.Ans

/-- The client key that a signer was connected with, and the pointer of the signer. -/
def Signs (key : Bytes) (bp : JsonValue) : UiEvent → Prop
  | ⟨.connect k p, .ok ()⟩ => k = key ∧ p = some bp
  | ⟨.fromURI k _, .ok p⟩ => k = key ∧ p = bp
  | _ => False

/-- The key and the pointer that an item holds. -/
def Restores (browser : Browser) (found : Except String (Option JsString)) (key : Bytes)
    (bp : Option JsonValue) : Prop :=
  savedKey browser (property "clientSecretKeyHex" (savedBunker found)) = .ok key ∧
    property "bunkerPointer" (savedBunker found) = bp

/-- What a call may do after `h`. -/
def Guard (browser : Browser) : Call → UiHistory → Op → Prop
  | .saveLocalKey hex, _, o => o = .setItem LOCAL_KEY_STORAGE_KEY hex
  | .loadLocalSigner, h, o => h = [] ∧ o = .getItem LOCAL_KEY_STORAGE_KEY
  | .reconnectSaved, h, o => (h = [] ∧ o = .getItem BUNKER_STORAGE_KEY) ∨ ∃ found key bp,
      h = [⟨.getItem BUNKER_STORAGE_KEY, found⟩] ∧ o = .connect key bp ∧ Restores browser found key bp
  | .connectViaBunkerUri _, h, o | .connectViaQr, h, o => ∀ item value, o = .setItem item value →
      item = BUNKER_STORAGE_KEY ∧ ∀ v ∈ h, ∀ key bp, Signs key bp v → value = savedText key bp
  | _, _, o => ∀ item value, o ≠ .setItem item value

/-- How `reconnectSaved` ends. -/
inductive Reconnected (browser : Browser) : UiHistory → Except String Result → Prop
  | nothing {found : Except String (Option JsString)} :
      truthy browser (savedBunker found) = false →
      Reconnected browser [⟨.getItem BUNKER_STORAGE_KEY, found⟩] (.ok (.bunkerSigner none))
  | unreadable {found : Except String (Option JsString)} {e : String} :
      savedKey browser (property "clientSecretKeyHex" (savedBunker found)) = .error e →
      Reconnected browser [⟨.getItem BUNKER_STORAGE_KEY, found⟩] (.error e)
  | connected {found : Except String (Option JsString)} {key : Bytes} {bp : Option JsonValue}
      {reply : Except String Unit} : Restores browser found key bp →
      Reconnected browser [⟨.getItem BUNKER_STORAGE_KEY, found⟩, ⟨.connect key bp, reply⟩]
        (reply.map fun _ => .bunkerSigner (some ⟨key, bp⟩))

/-- How a call ends, as far as it loads a signer. -/
def Ends (browser : Browser) : Call → UiHistory → Except String Result → Prop
  | .loadLocalSigner, h, x => ∃ found, h = [⟨.getItem LOCAL_KEY_STORAGE_KEY, found⟩] ∧
      x = .ok (.localSigner (localSigner found))
  | .reconnectSaved, h, x => Reconnected browser h x
  | _, _, _ => True

section Programs

variable (browser : Browser)

abbrev Meets (call : Call) : Prop :=
  (call.program browser).wp (fun _ => True) (Guard browser call) (Ends browser call) []

theorem reconnectSaved_meets : Meets browser .reconnectSaved := by
  refine ⟨Or.inl ⟨rfl, rfl⟩, ?_⟩
  intro found _
  show (Prog.bind (if truthy browser (savedBunker found) then _ else _) _).wp _ _ _ _
  cases htruthy : truthy browser (savedBunker found) with
  | false => exact .nothing htruthy
  | true =>
    rw [if_pos rfl]
    cases hkey : savedKey browser (property "clientSecretKeyHex" (savedBunker found)) with
    | error e =>
      simp only [Prog.bind_eq, Prog.ofExcept_error, Prog.raise_bind]
      exact Reconnected.unreadable hkey
    | ok key =>
      simp only [Prog.bind_eq, Prog.ofExcept_ok, Prog.ret_bind]
      refine ⟨Or.inr ⟨found, key, _, rfl, rfl, hkey, rfl⟩, ?_⟩
      intro reply _
      have hend : Reconnected browser [⟨.getItem BUNKER_STORAGE_KEY, found⟩, ⟨.connect key _, reply⟩]
        (reply.map fun _ => .bunkerSigner (some ⟨key, _⟩)) := .connected ⟨hkey, rfl⟩
      cases reply with
      | error e => exact hend
      | ok u => exact hend

/-- A signer that was just connected is saved under its own key. -/
theorem saved_as_signed {h : UiHistory} {key : Bytes} {bp : JsonValue}
    (hsigns : ∀ v ∈ h, ∀ k p, Signs k p v → k = key ∧ p = bp) (item : String) (value : JsString)
    (ho : Op.setItem BUNKER_STORAGE_KEY (savedText key bp) = .setItem item value) :
    item = BUNKER_STORAGE_KEY ∧ ∀ v ∈ h, ∀ k p, Signs k p v → value = savedText k p := by
  cases ho
  refine ⟨rfl, ?_⟩
  intro v hv k p hs
  obtain ⟨rfl, rfl⟩ := hsigns v hv k p hs
  rfl

theorem of_ne_setItem {o : Op} {P : String → JsString → Prop}
    (ho : ∀ item value, o ≠ .setItem item value) (item : String) (value : JsString)
    (h : o = .setItem item value) : P item value :=
  absurd h (ho item value)

theorem getSavedInfo_meets : Meets browser .getSavedInfo := by
  refine ⟨of_ne_setItem (by intro _ _ ho; cases ho), ?_⟩
  intro found _
  show (Prog.bind (if truthy browser (savedBunker found) then _ else _) _).wp _ _ _ _
  cases truthy browser (savedBunker found) with
  | false => trivial
  | true =>
    rw [if_pos rfl]
    cases property "bunkerPointer" (savedBunker found) with
    | none => trivial
    | some bp =>
      cases bp with
      | null => trivial
      | object members =>
        show (Prog.bind (Prog.bind (Prog.ofExcept (browser.npubEncode _)) _) _).wp _ _ _ _
        cases browser.npubEncode (property "pubkey" (.object members)) with
        | error e => trivial
        | ok npub => trivial
      | _ =>
        show (Prog.bind (Prog.bind (Prog.ofExcept (browser.npubEncode none)) _) _).wp _ _ _ _
        cases browser.npubEncode none with
        | error e => trivial
        | ok npub => trivial

theorem generateLocalKeypair_meets : Meets browser .generateLocalKeypair := by
  refine ⟨of_ne_setItem (by intro _ _ ho; cases ho), ?_⟩
  intro generated _
  cases generated with
  | error e => trivial
  | ok key =>
    show (Prog.bind (Prog.bind (Prog.ofExcept (browser.npubEncode _)) _) _).wp _ _ _ _
    cases browser.npubEncode (some (.string (browser.getPublicKey key))) with
    | error e => trivial
    | ok npub => trivial

theorem connectViaBunkerUri_meets (input : JsString) :
    Meets browser (.connectViaBunkerUri input) := by
  refine ⟨of_ne_setItem (by intro _ _ ho; cases ho), ?_⟩
  intro parsed _
  cases parsed with
  | error e => trivial
  | ok bp =>
    show (Prog.bind (if truthy browser bp then _ else _) _).wp _ _ _ _
    cases htruthy : truthy browser bp with
    | false => trivial
    | true =>
      refine ⟨of_ne_setItem (by intro _ _ ho; cases ho), ?_⟩
      intro generated _
      cases generated with
      | error e => trivial
      | ok key =>
        refine ⟨of_ne_setItem (by intro _ _ ho; cases ho), ?_⟩
        intro reply _
        cases reply with
        | error e => trivial
        | ok u =>
          refine ⟨saved_as_signed ?_, fun _ _ => trivial⟩
          intro v hv k p hs
          simp only [List.nil_append, List.cons_append, List.mem_cons, List.not_mem_nil, or_false] at hv
          rcases hv with rfl | rfl | rfl
          · exact hs.elim
          · exact hs.elim
          · exact ⟨hs.1.symm, (Option.some.inj hs.2).symm⟩

theorem connectViaQr_meets : Meets browser .connectViaQr := by
  refine ⟨of_ne_setItem (by intro _ _ ho; cases ho), ?_⟩
  intro generated _
  cases generated with
  | error e => trivial
  | ok key =>
    refine ⟨of_ne_setItem (by intro _ _ ho; cases ho), ?_⟩
    intro random _
    cases random with
    | error e => trivial
    | ok secret =>
      refine ⟨of_ne_setItem (by intro _ _ ho; cases ho), ?_⟩
      intro drawn _
      cases drawn with
      | error e => trivial
      | ok uri =>
        refine ⟨of_ne_setItem (by intro _ _ ho; cases ho), ?_⟩
        intro scanned _
        cases scanned with
        | error e => trivial
        | ok bp =>
          refine ⟨saved_as_signed ?_, fun _ _ => trivial⟩
          intro v hv k p hs
          simp only [List.nil_append, List.cons_append, List.mem_cons, List.not_mem_nil, or_false] at hv
          rcases hv with rfl | rfl | rfl | rfl
          · exact hs.elim
          · exact hs.elim
          · exact hs.elim
          · exact ⟨hs.1.symm, hs.2.symm⟩

/-- **Calls.** Every call keeps to its description, whatever the storage and the signers answer. -/
theorem call_meets (call : Call) : Meets browser call := by
  cases call with
  | hasSaved => exact ⟨of_ne_setItem (by intro _ _ ho; cases ho), fun _ _ => trivial⟩
  | getSavedInfo => exact getSavedInfo_meets browser
  | reconnectSaved => exact reconnectSaved_meets browser
  | connectViaBunkerUri input => exact connectViaBunkerUri_meets browser input
  | connectViaQr => exact connectViaQr_meets browser
  | clearSaved => exact ⟨of_ne_setItem (by intro _ _ ho; cases ho), fun _ _ => trivial⟩
  | generateLocalKeypair => exact generateLocalKeypair_meets browser
  | saveLocalKey hex => exact ⟨rfl, fun _ _ => trivial⟩
  | hasLocalKey =>
    refine ⟨of_ne_setItem (by intro _ _ ho; cases ho), ?_⟩
    intro found _
    cases found with
    | error e => trivial
    | ok text =>
      cases text with
      | none => trivial
      | some hex => trivial
  | loadLocalSigner => exact ⟨⟨rfl, rfl⟩, fun found _ => ⟨found, rfl, rfl⟩⟩
  | clearLocalKey => exact ⟨of_ne_setItem (by intro _ _ ho; cases ho), fun _ _ => trivial⟩
  | clearAllSaved =>
    exact ⟨of_ne_setItem (by intro _ _ ho; cases ho), fun _ _ =>
      ⟨of_ne_setItem (by intro _ _ ho; cases ho), fun _ _ => trivial⟩⟩

end Programs

variable {browser : Browser} {start : Storage} {c : UiRun}

theorem run_meets (hc : Reachable (tabs browser) start c) :
    Guarded (fun _ => True) (Guard browser) (Ends browser) c :=
  hc.guarded (fun _ _ _ => trivial) (call_meets browser)

/-! ## Saved and read back -/

/-- What `saveBunker` stored is what `loadSavedBunker` gets back. -/
theorem savedBunker_savedText (key : Bytes) (bp : JsonValue) :
    savedBunker (.ok (some (savedText key bp))) = .object
      [(ascii "clientSecretKeyHex", .string (bytesToHex key)), (ascii "bunkerPointer", bp)] := by
  have hnonempty : (savedText key bp).isEmpty = false := by
    rw [savedText, stringify]
    rfl
  rw [savedBunker, hnonempty, if_neg (by decide), savedText, parse_stringify]
  rfl

theorem savedNames_ne : ascii "bunkerPointer" ≠ ascii "clientSecretKeyHex" := by
  intro h
  have hlength := congrArg List.length h
  simp [ascii] at hlength

theorem property_savedText (hex : JsString) (bp : JsonValue) :
    property "clientSecretKeyHex" (.object [(ascii "clientSecretKeyHex", .string hex),
        (ascii "bunkerPointer", bp)]) = some (.string hex) ∧
      property "bunkerPointer" (.object [(ascii "clientSecretKeyHex", .string hex),
        (ascii "bunkerPointer", bp)]) = some bp := by
  constructor
  · rw [property, ← List.singleton_append, lookup_append, if_neg savedNames_ne, ← List.nil_append [_],
      lookup_append, if_pos rfl]
  · rw [property, ← List.singleton_append, lookup_append, if_pos rfl]

theorem truthy_savedText (browser : Browser) (key : Bytes) (bp : JsonValue) :
    truthy browser (savedBunker (.ok (some (savedText key bp)))) = true := by
  rw [savedBunker_savedText]
  rfl

/-- What `reconnectSaved` takes out is what `saveBunker` put in. -/
theorem savedText_restores (browser : Browser) (key : Bytes) (bp : JsonValue) :
    Restores browser (.ok (some (savedText key bp))) key (some bp) := by
  constructor
  · rw [savedBunker_savedText, (property_savedText _ bp).1, savedKey, hexToBytes_bytesToHex]
  · rw [savedBunker_savedText, (property_savedText _ bp).2]

theorem Restores.unique {browser : Browser} {found : Except String (Option JsString)}
    {key key' : Bytes} {bp bp' : Option JsonValue} (h : Restores browser found key bp)
    (h' : Restores browser found key' bp') : key = key' ∧ bp = bp' :=
  ⟨Except.ok.inj (h.1.symm.trans h'.1), h.2.symm.trans h'.2⟩

theorem localSigner_hex (key : Bytes) : localSigner (.ok (some (bytesToHex key))) =
    if key = [] then none else some ⟨key⟩ := by
  show (if (bytesToHex key).isEmpty then none else some (createLocalSigner (bytesToHex key))) = _
  rw [createLocalSigner, hexToBytes_bytesToHex]
  exact if_congr bytesToHex_eq_nil rfl rfl

theorem lastWritten_take {item : String} {log : List UiEntry} {m k : Nat} {e : UiEntry}
    {left : Option JsString} (he : log[m]? = some e) (hwrites : writes item e.event = some left)
    (hmk : m < k)
    (hrest : ∀ n q, m < n → n < k → log[n]? = some q → writes item q.event = none) :
    lastWritten item (log.take k) = some left := by
  induction k, hmk using Nat.le_induction with
  | base => rw [List.take_add_one, he, Option.toList_some, lastWritten_append, hwrites, Option.some_or]
  | succ n hmn ih =>
    have ih := ih fun n' q hlow hhigh => hrest n' q hlow (Nat.lt_succ_of_lt hhigh)
    rw [List.take_add_one]
    cases hq : log[n]? with
    | none => rw [Option.toList_none, List.append_nil, ih]
    | some q =>
      have hnone := hrest n q hmn (Nat.lt_succ_self n) hq
      rw [Option.toList_some, lastWritten_append, hnone, Option.none_or, ih]

/-- Entry `m` stores the item, entry `k` reads it, and in between it is left alone. -/
structure ReadBack (c : UiRun) (item : String) (m k : Nat) (e r : UiEntry) : Prop where
  stored : c.log[m]? = some e
  read : c.log[k]? = some r
  stores : ∃ value, e.event = ⟨.setItem item value, .ok ()⟩
  reads : ∃ found, r.event = ⟨.getItem item, .ok found⟩
  order : m < k
  untouched : ∀ n q, m < n → n < k → c.log[n]? = some q → writes item q.event = none

/-- What is read back is what was stored. -/
theorem ReadBack.same {item : String} {m k : Nat} {e r : UiEntry} (h : ReadBack c item m k e r)
    (hc : Reachable (tabs browser) start c) : ∃ value, e.event = ⟨.setItem item value, .ok ()⟩ ∧
      r.event = ⟨.getItem item, .ok (some value)⟩ := by
  obtain ⟨value, hstores⟩ := h.stores
  obtain ⟨found, hreads⟩ := h.reads
  have hwrites : writes item e.event = some (some value) := by simp [hstores, writes]
  have hlast := lastWritten_take h.stored hwrites h.order h.untouched
  have hfound := read_eq hc h.read hreads
  rw [hlast, Option.getD_some] at hfound
  subst hfound
  exact ⟨value, hstores, hreads⟩

/-- A local key that was saved and read back is the key that the signer is made with; the empty
string counts as no key. -/
def LocalKeysKept (c : UiRun) : Prop :=
  ∀ m k e r key, ReadBack c LOCAL_KEY_STORAGE_KEY m k e r →
    c.job e.who = some (.saveLocalKey (bytesToHex key)) → c.job r.who = some .loadLocalSigner →
    ∀ p, c.running r.who = some p → p = .ret (.localSigner (if key = [] then none else some ⟨key⟩))

/-- A client key that was saved with its signer and read back is the key that the signer is connected
with again, and that the signer is made with unless connecting fails. -/
def BunkerKeysKept (c : UiRun) : Prop :=
  ∀ m k e r key bp, ReadBack c BUNKER_STORAGE_KEY m k e r →
    (∃ v ∈ calls e.who (c.log.take m), Signs key bp v) → c.job r.who = some .reconnectSaved →
    (∀ v ∈ calls r.who c.log, ∀ k' p, v.op = .connect k' p → k' = key ∧ p = some bp) ∧
    ∀ x, c.running r.who = some (finished x) → x = .ok (.bunkerSigner (some ⟨key, some bp⟩)) ∨
      ∃ e, x = .error e ∧ ⟨.connect key (some bp), .error e⟩ ∈ calls r.who c.log

theorem local_keys_kept (hc : Reachable (tabs browser) start c) : LocalKeysKept c := by
  intro m k e r key hback hsave hload p hp
  obtain ⟨value, hstores, hreads⟩ := hback.same hc
  obtain ⟨call, hcall, hguard⟩ := (run_meets hc).log m e hback.stored
  obtain rfl : Call.saveLocalKey (bytesToHex key) = call := Option.some.inj (hsave.symm.trans hcall)
  have hop : Op.setItem LOCAL_KEY_STORAGE_KEY value = .setItem LOCAL_KEY_STORAGE_KEY (bytesToHex key) :=
    (congrArg Event.op hstores).symm.trans hguard
  obtain rfl : value = bytesToHex key := (Op.setItem.inj hop).2
  have hmem := mem_calls_of_getElem? hback.read
  rw [hreads] at hmem
  have hrest := (run_meets hc).rest r.who _ p hload hp
  cases p with
  | ret result =>
    obtain ⟨found, hcalls, hresult⟩ := hrest
    rw [hcalls, List.mem_singleton] at hmem
    cases hmem
    cases hresult
    rw [localSigner_hex]
  | raise error =>
    obtain ⟨found, hcalls, hresult⟩ := hrest
    cases hresult
  | call o next =>
    rw [hrest.1.1] at hmem
    cases hmem

/-- What is stored as a remote signer is the one that was connected before. -/
theorem Guard.saved {call : Call} {h : UiHistory} {value : JsString} {key : Bytes} {bp : JsonValue}
    {v : UiEvent} (hguard : Guard browser call h (.setItem BUNKER_STORAGE_KEY value)) (hv : v ∈ h)
    (hs : Signs key bp v) : value = savedText key bp := by
  cases call with
  | connectViaBunkerUri input => exact (hguard _ _ rfl).2 v hv key bp hs
  | connectViaQr => exact (hguard _ _ rfl).2 v hv key bp hs
  | saveLocalKey hex =>
    have hitem : BUNKER_STORAGE_KEY = LOCAL_KEY_STORAGE_KEY := (Op.setItem.inj hguard).1
    exact absurd hitem (by decide)
  | loadLocalSigner => cases hguard.2
  | reconnectSaved =>
    rcases hguard with ⟨_, ho⟩ | ⟨_, _, _, _, ho, _⟩
    · cases ho
    · cases ho
  | _ => exact absurd rfl (hguard _ _)

/-- `reconnectSaved` connects with what it has read. -/
theorem restores_of_connect (hc : Reachable (tabs browser) start c) {k n : Nat} {r q : UiEntry}
    {found : Except String (Option JsString)} {key : Bytes} {bp : Option JsonValue}
    (hjob : c.job r.who = some .reconnectSaved) (hr : c.log[k]? = some r)
    (hread : r.event = ⟨.getItem BUNKER_STORAGE_KEY, found⟩) (hq : c.log[n]? = some q)
    (hwho : q.who = r.who) (hconnect : q.op = .connect key bp) : Restores browser found key bp := by
  have hguard : ∀ m e, c.log[m]? = some e → e.who = r.who →
      Guard browser .reconnectSaved (calls r.who (c.log.take m)) e.op := by
    intro m e he hsame
    obtain ⟨call, hcall, hguard⟩ := (run_meets hc).log m e he
    rw [hsame] at hcall hguard
    obtain rfl : Call.reconnectSaved = call := Option.some.inj (hjob.symm.trans hcall)
    exact hguard
  have hgetItem : r.op = .getItem BUNKER_STORAGE_KEY := congrArg Event.op hread
  rcases hguard n q hq hwho with ⟨_, ho⟩ | ⟨found', key', bp', hbefore, ho, hrestores⟩
  · rw [hconnect] at ho
    cases ho
  · rw [hconnect] at ho
    cases ho
    rcases Nat.lt_trichotomy k n with hlt | rfl | hlt
    · have hmem := mem_calls_take hlt hr
      rw [hbefore, hread, List.mem_singleton] at hmem
      cases hmem
      exact hrestores
    · obtain rfl : r = q := Option.some.inj (hr.symm.trans hq)
      rw [hgetItem] at hconnect
      cases hconnect
    · have hmem := mem_calls_take hlt hq
      rcases hguard k r hr rfl with ⟨hfirst, _⟩ | ⟨_, _, _, _, ho, _⟩
      · rw [hwho, hfirst] at hmem
        cases hmem
      · rw [hgetItem] at ho
        cases ho

theorem bunker_keys_kept (hc : Reachable (tabs browser) start c) : BunkerKeysKept c := by
  intro m k e r key bp hback hsigned hjob
  obtain ⟨value, hstores, hreads⟩ := hback.same hc
  obtain ⟨v, hv, hs⟩ := hsigned
  obtain ⟨call, _, hguard⟩ := (run_meets hc).log m e hback.stored
  have hop : e.op = .setItem BUNKER_STORAGE_KEY value := congrArg Event.op hstores
  rw [hop] at hguard
  obtain rfl := hguard.saved hv hs
  constructor
  · intro w hw k' p hconnect
    obtain ⟨n, q, hq, hwho, rfl⟩ := exists_of_mem_calls hw
    have hrestores := restores_of_connect hc hjob hback.read hreads hq hwho hconnect
    exact hrestores.unique (savedText_restores browser key bp)
  · intro x hx
    have hmem := mem_calls_of_getElem? hback.read
    have hend : Ends browser .reconnectSaved (calls r.who c.log) x := by
      have hrest := (run_meets hc).rest r.who _ _ hjob hx
      cases x with
      | ok result => exact hrest
      | error error => exact hrest
    rw [hreads] at hmem
    generalize calls r.who c.log = h at hmem hend
    cases hend with
    | nothing htruthy =>
      rw [List.mem_singleton] at hmem
      cases hmem
      rw [truthy_savedText] at htruthy
      cases htruthy
    | unreadable hkey =>
      rw [List.mem_singleton] at hmem
      cases hmem
      rw [(savedText_restores browser key bp).1] at hkey
      cases hkey
    | @connected found key' bp' reply hrestores =>
      obtain rfl : found = .ok (some (savedText key bp)) := by
        rcases List.mem_pair.mp hmem with heq | heq
        · cases heq
          rfl
        · cases heq
      obtain ⟨rfl, rfl⟩ := hrestores.unique (savedText_restores browser key bp)
      cases reply with
      | ok u => exact Or.inl rfl
      | error e => exact Or.inr ⟨e, rfl, by simp⟩

/-- **Saved keys.** In every run of the tabs, a key comes back from hexadecimal and from the storage
as it was. -/
theorem saved_keys_kept (hc : Reachable (tabs browser) start c) :
    (∀ bytes, hexToBytes (bytesToHex bytes) = bytes) ∧
      (∀ hex : JsString, hex.length % 2 = 0 → (∀ u ∈ hex, IsLowerHex u) →
        bytesToHex (hexToBytes hex) = hex) ∧ LocalKeysKept c ∧ BunkerKeysKept c :=
  ⟨hexToBytes_bytesToHex, bytesToHex_hexToBytes, local_keys_kept hc, bunker_keys_kept hc⟩

/-- What is left of `reconnectSaved` when it has read an item that holds a key. -/
theorem reconnectSaved_program (browser : Browser) :
    ∃ resume : Except String (Option JsString) → Ui Result,
      Call.reconnectSaved.program browser = .call (.getItem BUNKER_STORAGE_KEY) resume ∧
      ∀ found key bp, truthy browser (savedBunker found) = true → Restores browser found key bp →
        resume found = .call (.connect key bp) fun reply =>
          (Prog.ofExcept reply).bind fun _ => .ret (.bunkerSigner (some ⟨key, bp⟩)) := by
  refine ⟨_, rfl, ?_⟩
  intro found key bp htruthy hrestores
  obtain ⟨hkey, rfl⟩ := hrestores
  show Prog.bind (if truthy browser (savedBunker found) then _ else _) _ = _
  rw [if_pos htruthy, hkey]
  simp [Prog.bind_assoc]

/-- A saved signer that can be read is connected again. -/
theorem reconnectSaved_serve {s : Storage} {key : Bytes} {bp : JsonValue} {inp : Nat → UiInput}
    {i : Nat} (hitem : s BUNKER_STORAGE_KEY = some (savedText key bp))
    (hthrows : (inp 0).throws = none) :
    ((tabs browser).serve i (Call.reconnectSaved.program browser) inp s).2.1 =
      ((inp 1).answer (.connect key (some bp))).map fun _ => .bunkerSigner (some ⟨key, some bp⟩) := by
  have hread : ((tabs browser).exec (.getItem BUNKER_STORAGE_KEY) (inp 0) s).1 =
      .ok (some (savedText key bp)) := by
    simp only [tabs, exec, hthrows, hitem]
  obtain ⟨resume, hprogram, hresume⟩ := reconnectSaved_program browser
  have hrest := hresume _ key (some bp) (truthy_savedText browser key bp)
    (savedText_restores browser key bp)
  rw [hprogram, serve_call, hread, hrest, serve_call]
  show ((tabs browser).serve i (Prog.bind (Prog.ofExcept ((inp 1).answer (.connect key (some bp)))) _)
    _ _).2.1 = _
  cases (inp 1).answer (.connect key (some bp)) with
  | ok u => rfl
  | error e => rfl

/-! A visitor saves a local key, connects a remote signer, and comes back to both. -/

def plainBrowser : Browser where
  isZero := fun literal => literal.text = ascii "0"
  coerced := fun _ => .error "not a string"
  getPublicKey := bytesToHex
  nsecEncode := bytesToHex
  npubEncode
    | some (.string hex) => .ok hex
    | _ => .error "no public key"
  finalizeEvent := fun event _ => event

def visitorKey : Bytes := (List.range 32).map UInt8.ofNat

def clientKey : Bytes := List.replicate 32 9

def pointer : JsonValue :=
  .object [(ascii "pubkey", .string (bytesToHex visitorKey)), (ascii "secret", .null)]

def visit : UiInput where
  throws := none
  answer
    | .generateSecretKey => .ok clientKey
    | .parseBunkerInput _ | .fromURI .. => .ok pointer
    | .onUriReady .. => .ok []
    | .getItem _ => .ok none
    | .setItem .. | .removeItem _ | .connect .. => .ok ()

def savingRun : UiRun :=
  let tabs := tabs plainBrowser
  let empty : UiRun := Config.init fun _ => none
  let saved := tabs.after empty 0 (.saveLocalKey (bytesToHex visitorKey)) fun _ => visit
  let loaded := tabs.after saved 1 .loadLocalSigner fun _ => visit
  tabs.after loaded 2 (.connectViaBunkerUri (ascii "bunker://")) fun _ => visit

def visitorRun : UiRun := (tabs plainBrowser).after savingRun 3 .reconnectSaved fun _ => visit

theorem visitorRun_reachable : Reachable (tabs plainBrowser) (fun _ => none) visitorRun :=
  (((Reachable.init.after rfl _ _).after rfl _ _).after rfl _ _).after rfl _ _

theorem visitorRun_end : visitorRun.running 3 =
    some (.ret (.bunkerSigner (some ⟨clientKey, some pointer⟩))) := by
  have hsaved : savingRun.world BUNKER_STORAGE_KEY = some (savedText clientKey pointer) := rfl
  have hserved : ((tabs plainBrowser).serve 3 (Call.reconnectSaved.program plainBrowser)
      (fun _ => visit) savingRun.world).2.1 = .ok (.bunkerSigner (some ⟨clientKey, some pointer⟩)) :=
    reconnectSaved_serve hsaved rfl
  exact congrArg (fun x => some (finished x)) hserved

/-- The visitor comes back to both keys. -/
theorem visitor_keys_kept :
    visitorRun.running 1 = some (.ret (.localSigner (some ⟨visitorKey⟩))) ∧
      visitorRun.running 3 = some (.ret (.bunkerSigner (some ⟨clientKey, some pointer⟩))) ∧
      ∀ v ∈ calls 3 visitorRun.log, ∀ key bp, v.op = .connect key bp →
        key = clientKey ∧ bp = some pointer := by
  obtain ⟨_, _, hlocal, hbunker⟩ := saved_keys_kept visitorRun_reachable
  refine ⟨?_, visitorRun_end, ?_⟩
  · refine congrArg some (hlocal 0 1 _ _ visitorKey
      ⟨rfl, rfl, ⟨_, rfl⟩, ⟨_, rfl⟩, by decide, ?_⟩ rfl rfl _ rfl)
    intro n q hlow hhigh
    omega
  · refine (hbunker 5 6 _ _ clientKey pointer ⟨rfl, rfl, ⟨_, rfl⟩, ⟨_, rfl⟩, by decide, ?_⟩ ?_ rfl).1
    · intro n q hlow hhigh
      omega
    · refine ⟨⟨.connect clientKey (some pointer), .ok ()⟩, ?_, rfl, rfl⟩
      exact List.mem_of_getElem? (i := 2) rfl

end NostrAuth.NostrConnectUI
