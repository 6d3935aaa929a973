import NostrAuth.PortalCookie

/-! Sessions are minted as a whole or not at all, and are found again by the hash of their user: any
number of connections to the minting service, call by call. -/

set_option autoImplicit false

namespace NostrAuth.Minting

open Sockets Interaction PortalCookie MintSessionServer

abbrev MintEntry := Entry MintOp MintOp.Ans MintInput SessionFolder

abbrev MintRun := Config MintOp MintOp.Ans String (Option Bytes) MintInput SessionFolder Connection

/-- The file was touched. -/
def touched (name : String) : MintEvent := ⟨.touch name, .ok ()⟩

def drew (token : String) : MintEvent := ⟨.token_hex 10, .ok token⟩

def encoded (claims : Json) (secret token : String) : MintEvent :=
  ⟨.jwt_encode claims secret, .ok token⟩

/-- The connection asks for a session of this user at this host. -/
def AsksFor (python : PythonJson) (conn : Connection) (username : String) (host : Json) : Prop :=
  readRequest python conn.chunks = .ok (.str username, host)

/-! ## What one request does -/

/-- No file was tried. -/
def Quiet (h : History MintOp MintOp.Ans) : Prop := ∀ name a, (⟨.touch name, a⟩ : MintEvent) ∉ h

/-- No file was touched. -/
def Bare (h : History MintOp MintOp.Ans) : Prop := ∀ name, touched name ∉ h

theorem Quiet.bare {h : History MintOp MintOp.Ans} (hq : Quiet h) : Bare h := fun name => hq name _

theorem quiet_nil : Quiet [] := fun _ _ => List.not_mem_nil

/-- The step is none on a file. -/
def Apart (o : MintOp) : Prop := ∀ name, o ≠ .touch name

theorem Quiet.append {h : History MintOp MintOp.Ans} {v : MintEvent} (hq : Quiet h) (hv : Apart v.op) :
    Quiet (h ++ [v]) := by
  intro name a hmem
  rcases List.mem_append.mp hmem with hmem | hmem
  · exact hq name a hmem
  · obtain rfl := List.mem_singleton.mp hmem
    exact hv name rfl

/-- A request touches one file, once, named by the hash of its user and a token it drew. -/
def Guard (python : PythonJson) (lib : StandardLibrary) (conn : Connection)
    (h : History MintOp MintOp.Ans) : MintOp → Prop
  | .touch name => Quiet h ∧ ∃ username host token, AsksFor python conn username host ∧
      drew token ∈ h ∧ name = short_hash lib username ++ token
  | _ => True

theorem guard_of_apart {python : PythonJson} {lib : StandardLibrary} {conn : Connection}
    {h : History MintOp MintOp.Ans} {o : MintOp} (ho : Apart o) : Guard python lib conn h o := by
  cases o with
  | touch name => exact absurd rfl (ho name)
  | _ => trivial

/-- The last step touched the file of the session, after these claims were encoded. -/
def Issued (username : String) (host : Json) (h : History MintOp MintOp.Ans) (minted : PortalCookie.MintedSession) :
    Prop :=
  ∃ before pwd email fullname secret, h = before ++ [touched minted.session_id] ∧ Quiet before ∧
    encoded (claims minted.session_id host (.str username) pwd email fullname) secret minted.token ∈ before

/-- How a request for this user and host ends, before it is answered. -/
def MintEnds (username : String) (host : Json) (h : History MintOp MintOp.Ans) :
    Except String PortalCookie.MintedSession → Prop
  | .ok minted => Issued username host h minted
  | .error _ => Bare h

/-- What is left of a request for this user and host, after the calls `h`. -/
structure Mints (python : PythonJson) (lib : StandardLibrary) (conn : Connection) (username : String)
    (host : Json) (h : History MintOp MintOp.Ans) (p : Minter PortalCookie.MintedSession) : Prop where
  wp : p.wp (fun _ => True) (Guard python lib conn) (MintEnds username host) h

section Mints

variable {python : PythonJson} {lib : StandardLibrary} {conn : Connection} {username : String}
  {host : Json} {h : History MintOp MintOp.Ans}

/-- Steps on no file come first. -/
theorem mints_bind {α : Type} {p : Minter α} {f : α → Minter PortalCookie.MintedSession} (hq : Quiet h)
    (hp : p.Within (fun _ => True) Apart fun _ => True)
    (hf : ∀ a h', Quiet h' → h ⊆ h' → Mints python lib conn username host h' (f a)) :
    Mints python lib conn username host h (p.bind f) := by
  constructor
  rw [Prog.wp_bind]
  apply hp.wp_keeps (I := fun h' => Quiet h' ∧ h ⊆ h') ⟨hq, List.Subset.refl h⟩
  · rintro h' v ⟨hq', hsub⟩ hv
    exact ⟨hq'.append hv, fun x hx => List.mem_append_left _ (hsub hx)⟩
  · exact fun _ _ _ ho => guard_of_apart ho
  · rintro h' (e | a) ⟨hq', hsub⟩ -
    · exact hq'.bare
    · exact (hf a h' hq' hsub).wp

/-- One step on no file, whose answer is kept. -/
theorem mints_call {o : MintOp} {k : o.Ans → Minter PortalCookie.MintedSession} (ho : Apart o) (hq : Quiet h)
    (hk : ∀ a, Quiet (h ++ [⟨o, a⟩]) → Mints python lib conn username host (h ++ [⟨o, a⟩]) (k a)) :
    Mints python lib conn username host h (.call o k) :=
  ⟨guard_of_apart ho, fun a _ => (hk a (hq.append ho)).wp⟩

theorem mints_raise {e : String} (hq : Quiet h) : Mints python lib conn username host h (.raise e) :=
  ⟨hq.bare⟩

theorem ofExcept_apart {α : Type} (x : Except String α) :
    (Prog.ofExcept x : Minter α).Within (fun _ => True) Apart fun _ => True := by
  cases x with
  | error e => trivial
  | ok a => trivial

theorem get_user_contact_info_apart (value : Json) :
    (LdapLookup.get_user_contact_info lib value).Within (fun _ => True) Apart fun _ => True :=
  ⟨fun _ => by rintro ⟨⟩, fun _ _ => ofExcept_apart _⟩

theorem read_session_secret_apart :
    read_session_secret.Within (fun _ => True) Apart fun _ => True := by
  refine ⟨fun _ => by rintro ⟨⟩, fun text _ => ?_⟩
  cases text with
  | error e => trivial
  | ok text => trivial

theorem encrypt_empty_password_apart (secret : String) :
    (encrypt_empty_password lib secret).Within (fun _ => True) Apart fun _ => True := by
  refine ⟨fun _ => by rintro ⟨⟩, fun alg _ => ?_⟩
  cases alg with
  | error e => trivial
  | ok alg =>
    refine ⟨fun _ => by rintro ⟨⟩, fun iv _ => ?_⟩
    cases iv with
    | error e => trivial
    | ok iv =>
      refine ⟨fun _ => by rintro ⟨⟩, fun ciphertext _ => ?_⟩
      cases ciphertext with
      | error e => trivial
      | ok ciphertext => trivial

/-- The touch comes last, and nothing fails after it. -/
theorem touch_mints {token name pwd email fullname secret : String} {max_age : Int} (hq : Quiet h)
    (hasks : AsksFor python conn username host) {draw : String} (hdraw : drew draw ∈ h)
    (hname : name = short_hash lib username ++ draw)
    (hencoded : encoded (claims name host (.str username) pwd email fullname) secret token ∈ h) :
    Mints python lib conn username host h (.call (.touch name) fun a =>
      (Prog.ofExcept a).bind fun _ => .ret ⟨token, name, max_age⟩) := by
  refine ⟨⟨hq, username, host, draw, hasks, hdraw, hname⟩, fun a _ => ?_⟩
  cases a with
  | error e =>
    intro name' hmem
    rcases List.mem_append.mp hmem with hmem | hmem
    · exact hq name' _ hmem
    · cases List.mem_singleton.mp hmem
  | ok done => exact ⟨h, pwd, email, fullname, secret, rfl, hq, hencoded⟩

theorem mint_mints (hq : Quiet h) (hasks : AsksFor python conn username host)
    (email fullname secret : String) :
    Mints python lib conn username host h (mint lib (.str username) host email fullname secret) := by
  simp only [mint, hashOf, Prog.bind_eq, Prog.ofExcept_ok, Prog.ret_bind, Prog.call_bind]
  apply mints_call (fun _ => by rintro ⟨⟩) hq
  intro draw hq
  cases draw with
  | error e => exact mints_raise hq
  | ok draw =>
    apply mints_bind hq (encrypt_empty_password_apart secret)
    intro pwd h' hq hsub
    have hdraw : drew draw ∈ h' := hsub (List.mem_append_right _ (List.mem_singleton_self _))
    apply mints_call (fun _ => by rintro ⟨⟩) hq
    intro token hq
    cases token with
    | error e => exact mints_raise hq
    | ok token =>
      exact touch_mints hq hasks (List.mem_append_left _ hdraw) rfl
        (List.mem_append_right _ (List.mem_singleton_self _))

theorem mintFor_mints (hasks : AsksFor python conn username host) :
    Mints python lib conn username host [] (mintFor lib (.str username) host) := by
  apply mints_bind quiet_nil (get_user_contact_info_apart _)
  intro contact h hq _
  apply mints_bind hq read_session_secret_apart
  intro secret h hq _
  exact mint_mints hq hasks _ _ _

end Mints

/-! ## How a connection ends -/

/-- The answer is an error, or there is none. -/
def Failed (answer : Option Bytes) : Prop :=
  answer = none ∨ ∃ message, answer = some (line .default (errorPayload message))

inductive Ends (python : PythonJson) (conn : Connection) (h : History MintOp MintOp.Ans) :
    Except String (Option Bytes) → Prop
  | failed {answer : Option Bytes} : Failed answer → Bare h → Ends python conn h (.ok answer)
  | minted {username : String} {host : Json} {minted : PortalCookie.MintedSession} :
      AsksFor python conn username host → Issued username host h minted →
      Ends python conn h (.ok (some (reply (.ok minted))))

section Ends

variable {python : PythonJson} {lib : StandardLibrary} {conn : Connection}

/-- No session is minted for a username that is no string, or that has no encoding. -/
theorem mintFor_apart {username : Json} (host : Json) (hname : ∀ u : String, username ≠ .str u) :
    (mintFor lib username host).Within (fun _ => True) Apart fun x => ∃ e, x = .error e := by
  have hhash : ∃ e, hashOf lib username = .error e := by
    cases username with
    | str u =>
      cases u with
      | text u => exact absurd rfl (hname u)
      | lone t => exact ⟨_, rfl⟩
    | null | bool _ | int _ | float _ | arr _ | obj _ => exact ⟨_, rfl⟩
  obtain ⟨e, hhash⟩ := hhash
  apply (get_user_contact_info_apart _).bind
  · intro contact _
    apply read_session_secret_apart.bind
    · intro secret _
      simp only [mint, hhash, Prog.bind_eq, Prog.ofExcept_error, Prog.raise_bind]
      exact ⟨e, rfl⟩
    · exact fun e _ => ⟨e, rfl⟩
  · exact fun e _ => ⟨e, rfl⟩

theorem conclude_ends {username host : Json} {h : History MintOp MintOp.Ans} {e : String} (hb : Bare h) :
    (conclude username host (.error e)).wp (fun _ => True) (Guard python lib conn) (Ends python conn) h := by
  refine ⟨trivial, fun a _ => .failed (Or.inr ⟨e, rfl⟩) fun name hmem => ?_⟩
  rcases List.mem_append.mp hmem with hmem | hmem
  · exact hb name hmem
  · cases List.mem_singleton.mp hmem

theorem attempt_ends {username host : Json}
    (hread : readRequest python conn.chunks = .ok (username, host)) :
    ((mintFor lib username host).attempt.bind (conclude username host)).wp (fun _ => True)
      (Guard python lib conn) (Ends python conn) [] := by
  rw [Prog.wp_bind, Prog.wp_attempt]
  by_cases hname : ∃ u : String, username = .str u
  · obtain ⟨u, rfl⟩ := hname
    apply Prog.wp_mono (fun _ _ hG => hG) _ _ (mintFor_mints hread).wp
    rintro h (e | minted) hends
    · exact conclude_ends hends
    · exact .minted hread hends
  · apply (mintFor_apart host (not_exists.mp hname)).wp_keeps quiet_nil
    · exact fun _ _ hq hv => hq.append hv
    · exact fun _ _ _ ho => guard_of_apart ho
    · rintro h x hq ⟨e, rfl⟩
      exact conclude_ends hq.bare

theorem handler_ends (allowed_uid : Int) : (handler python lib allowed_uid conn).wp (fun _ => True)
    (Guard python lib conn) (Ends python conn) [] := by
  have hlogged : ∀ message, Bare [⟨.log message, ()⟩] := by
    intro message
    exact (quiet_nil.append (v := ⟨.log message, ()⟩) fun _ => by rintro ⟨⟩).bare
  unfold handler
  split
  · exact ⟨trivial, fun _ _ => .failed (Or.inl rfl) (hlogged _)⟩
  · split
    · exact ⟨trivial, fun _ _ => .failed (Or.inr ⟨_, rfl⟩) (hlogged _)⟩
    · split
      · next e _ =>
        apply Ends.failed _ quiet_nil.bare
        cases badRequest e with
        | none => exact Or.inl rfl
        | some message => exact Or.inr ⟨message, rfl⟩
      · next hread => exact attempt_ends hread

end Ends

/-! ## The folder in a run -/

theorem mem_leaves {folder : SessionFolder} {v : MintEvent} {name : String} :
    name ∈ leaves folder v ↔ name ∈ folder ∨ v = touched name := by
  unfold leaves
  split
  · rw [Finset.mem_insert, or_comm]
    refine or_congr_right ⟨fun h => h ▸ rfl, fun h => ?_⟩
    cases h
    rfl
  · next hother =>
    refine ⟨Or.inl, fun h => h.resolve_right ?_⟩
    rintro rfl
    exact hother name rfl

theorem leaves_other {folder : SessionFolder} {v : MintEvent} (h : ∀ name, v ≠ touched name) :
    leaves folder v = folder := by
  ext name
  rw [mem_leaves]
  exact or_iff_left (h name)

section Runs

variable {python : PythonJson} {lib : StandardLibrary} {allowed_uid : Int} {start : SessionFolder}
  {c : MintRun}

theorem guarded (hc : Reachable (minters python lib allowed_uid) start c) :
    Guarded (fun _ => True) (Guard python lib) (Ends python) c :=
  hc.guarded (fun _ _ _ => trivial) fun _ => handler_ends allowed_uid

theorem entry_leaves (hc : Reachable (minters python lib allowed_uid) start c) {k : Nat} {e : MintEntry}
    (he : c.log[k]? = some e) : e.after = leaves e.before e.event := by
  have hexec := hc.exec_of_event he (o := e.op) (a := e.ans) rfl
  obtain ⟨hans, hafter⟩ := Prod.mk.inj hexec
  rw [← hafter, Entry.event, hans]

/-- The folder holds what it held and what was touched. -/
theorem mem_folder (hc : Reachable (minters python lib allowed_uid) start c) (name : String) :
    name ∈ c.world ↔ name ∈ start ∨ ∃ e ∈ c.log, e.event = touched name := by
  apply hc.logged (P := fun v log => name ∈ v ↔ name ∈ start ∨ ∃ e ∈ log, e.event = touched name)
  · simp
  · intro i o inp v log ih
    show name ∈ leaves v ⟨o, inp o⟩ ↔ _
    rw [mem_leaves, ih]
    simp only [List.mem_append, List.mem_singleton, or_and_right, exists_or, exists_eq_left, or_assoc]
    rfl
  · intro inp v log ih
    exact ih

/-- What made a file: a request of its user, which drew the rest of the name. -/
theorem maker (hc : Reachable (minters python lib allowed_uid) start c) {k : Nat} {e : MintEntry}
    {name : String} (he : c.log[k]? = some e) (hv : e.event = touched name) :
    Quiet (calls e.who (c.log.take k)) ∧ ∃ (conn : Connection) (username : String) (host : Json)
      (token : String) (m : Nat) (drawn : MintEntry), c.job e.who = some conn ∧ AsksFor python conn username host ∧
      c.log[m]? = some drawn ∧ drawn.who = e.who ∧ drawn.event = drew token ∧
      name = short_hash lib username ++ token := by
  obtain ⟨conn, hjob, hguard⟩ := (guarded hc).log k e he
  have hop : e.op = .touch name := congrArg Event.op hv
  rw [hop] at hguard
  obtain ⟨hq, username, host, token, hasks, hdraw, hname⟩ := hguard
  obtain ⟨m, drawn, _, hm, hwho, hevent⟩ := exists_of_mem_calls_take hdraw
  exact ⟨hq, conn, username, host, token, m, drawn, hjob, hasks, hm, hwho, hevent, hname⟩

end Runs

/-! ## What is assumed of the randomness and of the packages -/

/-- No token is drawn twice, and none completes a name that was there before. -/
structure Fresh (lib : StandardLibrary) (start : SessionFolder) (log : List MintEntry) : Prop where
  once : ∀ (m m' : Nat) (e e' : MintEntry) token, log[m]? = some e → log[m']? = some e' →
    e.event = drew token → e'.event = drew token → m = m'
  unused : ∀ (m : Nat) (e : MintEntry) token, log[m]? = some e → e.event = drew token →
    ∀ u, short_hash lib u ++ token ∉ start

/-- `payload` reads the claims of a token back, as `jwt.decode` does. -/
def Decodes (payload : String → Option Json) (log : List MintEntry) : Prop :=
  ∀ e ∈ log, ∀ claims secret token, e.event = encoded claims secret token → payload token = some claims

/-- The name begins with the hash of the user: the glob `short_hash(user)*` finds it. -/
def Globbed (lib : StandardLibrary) (u name : String) : Prop :=
  (short_hash lib u).toList <+: name.toList

instance (lib : StandardLibrary) (u name : String) : Decidable (Globbed lib u name) :=
  inferInstanceAs (Decidable (_ <+: _))

/-- The folder at the start holds the sessions that YunoHost itself had created for its users. -/
structure Begun (lib : StandardLibrary) (users : Set String) (before : String → SessionFolder)
    (start : SessionFolder) : Prop where
  owned : ∀ name, name ∈ start ↔ ∃ u ∈ users, name ∈ before u
  named : ∀ u ∈ users, ∀ name ∈ before u, Globbed lib u name

/-! ## All or nothing -/

/-- The request left the folder as it was. -/
def Unchanged (log : List MintEntry) (i : Nat) : Prop :=
  ∀ e ∈ log, e.who = i → e.after = e.before

/-- The request made this file and no other. -/
def OneNewFile (log : List MintEntry) (i : Nat) (name : String) : Prop :=
  ∃ (k : Nat) (e : MintEntry), log[k]? = some e ∧ e.who = i ∧ name ∉ e.before ∧
    e.after = insert name e.before ∧
    ∀ (k' : Nat) (e' : MintEntry), log[k']? = some e' → e'.who = i → k' ≠ k → e'.after = e'.before

def Carries (payload : String → Option Json) (token key : String) (value : Json) : Prop :=
  ∃ claims, payload token = some claims ∧ getItem key claims = .ok value

/-- Whoever is answered by an error, or not at all, changed nothing; whoever gets a token made one
file, named by the session in the reply and in the token. -/
structure AllOrNothing (python : PythonJson) (payload : String → Option Json) (c : MintRun) : Prop where
  answered : ∀ i answer, c.running i = some (.ret answer) →
    Failed answer ∨ ∃ minted, answer = some (reply (.ok minted))
  failed : ∀ i answer, c.running i = some (.ret answer) → Failed answer → Unchanged c.log i
  minted : ∀ i minted, c.running i = some (.ret (some (reply (.ok minted)))) →
    ∃ conn username host, c.job i = some conn ∧ AsksFor python conn username host ∧
      OneNewFile c.log i minted.session_id ∧
      Carries payload minted.token "id" (.str minted.session_id) ∧
      Carries payload minted.token "user" (.str username) ∧ Carries payload minted.token "host" host

theorem reply_plain (minted : PortalCookie.MintedSession) :
    (Json.obj [("token", .str minted.token), ("session_id", .str minted.session_id),
      ("max_age", .int minted.max_age)]).Plain := by
  simp [Json.Plain, Json.PlainFields]

theorem reply_injective {minted minted' : PortalCookie.MintedSession}
    (h : reply (.ok minted) = reply (.ok minted')) : minted = minted' := by
  have hvalue := line_injective Json.Separators.default_ok (reply_plain minted) (reply_plain minted') h
  obtain ⟨token, session_id, max_age⟩ := minted
  cases hvalue
  rfl

/-- An error is not taken for a session. -/
theorem reply_not_failed {minted : PortalCookie.MintedSession} : ¬Failed (some (reply (.ok minted))) := by
  rintro (h | ⟨message, h⟩)
  · cases h
  · have hvalue := line_injective Json.Separators.default_ok (reply_plain minted)
      (errorPayload_plain message) (Option.some.inj h)
    simp [errorPayload] at hvalue

/-! ## Revocation -/

/-- A request for this user made the file. -/
def MintedFor (python : PythonJson) (c : MintRun) (u name : String) : Prop :=
  ∃ e ∈ c.log, e.event = touched name ∧ ∃ conn host, c.job e.who = some conn ∧ AsksFor python conn u host

/-- The file was there for this user, or was made for it. -/
def CreatedFor (python : PythonJson) (before : String → SessionFolder) (c : MintRun) (u name : String) :
    Prop :=
  name ∈ before u ∨ MintedFor python c u name

/-- `invalidate_all_sessions_for_user`, as the doc of `short_hash` gives it: unlink what
`short_hash(user)*` finds. -/
def invalidate (lib : StandardLibrary) (u : String) (folder : SessionFolder) : SessionFolder :=
  folder.filter fun name => ¬Globbed lib u name

/-- The hash of a user finds the files created for it, so that invalidating removes these and no other. -/
structure Revocable (python : PythonJson) (lib : StandardLibrary) (users : Set String)
    (before : String → SessionFolder) (c : MintRun) : Prop where
  owned : ∀ name ∈ c.world, ∃ u ∈ users, CreatedFor python before c u name
  found : ∀ u ∈ users, ∀ name,
    name ∈ c.world ∧ Globbed lib u name ↔ CreatedFor python before c u name
  removed : ∀ u ∈ users, ∀ v ∈ users, ∀ name, CreatedFor python before c v name →
    (name ∈ invalidate lib u c.world ↔ v ≠ u)

section Claim

variable {python : PythonJson} {lib : StandardLibrary} {allowed_uid : Int} {start : SessionFolder}
  {c : MintRun}

theorem globbed_append (u rest : String) : Globbed lib u (short_hash lib u ++ rest) := by
  rw [Globbed, String.toList_append]
  exact List.prefix_append _ _

/-- Hashes of one length that begin the same name are the same. -/
theorem hash_unique (hlength : ∀ u, (short_hash lib u).length = 40) {u v name : String}
    (hu : Globbed lib u name) (hv : Globbed lib v name) : short_hash lib u = short_hash lib v := by
  have hsame : (short_hash lib u).toList.length = (short_hash lib v).toList.length := by
    rw [String.length_toList, String.length_toList, hlength u, hlength v]
  exact String.toList_inj.mp ((List.prefix_of_prefix_length_le hu hv hsame.le).eq_of_length hsame)

/-- Equal names end in the same token. -/
theorem token_unique (hlength : ∀ u, (short_hash lib u).length = 40) {u v token token' : String}
    (h : short_hash lib u ++ token = short_hash lib v ++ token') : token = token' := by
  have hhash := hash_unique hlength (globbed_append u token) (h ▸ globbed_append v token')
  have hlists := congrArg String.toList h
  rw [hhash, String.toList_append, String.toList_append] at hlists
  exact String.toList_inj.mp (List.append_cancel_left hlists)

/-- A fresh token names a new file. -/
theorem touched_new (hlength : ∀ u, (short_hash lib u).length = 40)
    (hc : Reachable (minters python lib allowed_uid) start c) (hfresh : Fresh lib start c.log) {k : Nat}
    {e : MintEntry} {name : String} (he : c.log[k]? = some e) (hv : e.event = touched name) :
    name ∉ e.before := by
  obtain ⟨hq, _, u, _, token, m, drawn, _, _, hm, hwho, hdrawn, rfl⟩ := maker hc he hv
  obtain ⟨c', hc', hlog, hworld, _⟩ := hc.snapshot he
  rw [← hworld, mem_folder hc', hlog]
  rintro (hstart | ⟨e', he', hv'⟩)
  · exact hfresh.unused m drawn token hm hdrawn u hstart
  · obtain ⟨k', hk'⟩ := List.mem_iff_getElem?.mp he'
    rw [List.getElem?_take] at hk'
    split at hk'
    · next hlt =>
      obtain ⟨_, _, v, _, token', m', drawn', _, _, hm', hwho', hdrawn', hname⟩ := maker hc hk' hv'
      obtain rfl := token_unique hlength hname
      -- one token, one draw, one request: it had touched a file before
      obtain rfl := hfresh.once m m' drawn drawn' token hm hm' hdrawn hdrawn'
      obtain rfl : drawn = drawn' := Option.some.inj (hm.symm.trans hm')
      have hearlier := mem_calls_take hlt hk'
      rw [← hwho', hwho, hv'] at hearlier
      exact hq _ _ hearlier
    · cases hk'

theorem bare_unchanged (hc : Reachable (minters python lib allowed_uid) start c) {i : Nat}
    (hb : Bare (calls i c.log)) : Unchanged c.log i := by
  rintro e he rfl
  obtain ⟨k, hk⟩ := List.mem_iff_getElem?.mp he
  rw [entry_leaves hc hk]
  apply leaves_other
  intro name hv
  exact hb name (hv ▸ mem_calls_of_getElem? hk)

/-- The last call of the request made the file. -/
theorem issued_new (hlength : ∀ u, (short_hash lib u).length = 40)
    (hc : Reachable (minters python lib allowed_uid) start c) (hfresh : Fresh lib start c.log) {i : Nat}
    {username : String} {host : Json} {minted : PortalCookie.MintedSession}
    (h : Issued username host (calls i c.log) minted) : OneNewFile c.log i minted.session_id := by
  obtain ⟨earlier, _, _, _, _, hcalls, hq, _⟩ := h
  obtain ⟨k, e, he, rfl, hv, htake⟩ := exists_of_calls_append hcalls
  refine ⟨k, e, he, rfl, touched_new hlength hc hfresh he hv, ?_, ?_⟩
  · rw [entry_leaves hc he, hv]
    rfl
  · intro k' e' he' hwho hne
    rw [entry_leaves hc he']
    apply leaves_other
    intro name hv'
    -- a second touch would have the first one before it
    rcases Nat.lt_or_gt_of_ne hne with hlt | hlt
    · have hearlier := mem_calls_take hlt he'
      rw [hwho, htake, hv'] at hearlier
      exact hq name _ hearlier
    · have hlater := mem_calls_take hlt he
      rw [← hwho, hv] at hlater
      exact (maker hc he' hv').1 _ _ hlater

theorem carries_of_issued {payload : String → Option Json} (hdecodes : Decodes payload c.log) {i : Nat}
    {username : String} {host : Json} {minted : PortalCookie.MintedSession}
    (h : Issued username host (calls i c.log) minted) :
    Carries payload minted.token "id" (.str minted.session_id) ∧
      Carries payload minted.token "user" (.str username) ∧ Carries payload minted.token "host" host := by
  obtain ⟨earlier, pwd, email, fullname, secret, hcalls, _, hencoded⟩ := h
  have hmem : encoded (claims minted.session_id host (.str username) pwd email fullname) secret
      minted.token ∈ calls i c.log := hcalls ▸ List.mem_append_left _ hencoded
  obtain ⟨k, e, he, _, hv⟩ := exists_of_mem_calls hmem
  have hpayload := hdecodes e (List.mem_of_getElem? he) _ _ _ hv
  exact ⟨⟨_, hpayload, rfl⟩, ⟨_, hpayload, rfl⟩, ⟨_, hpayload, rfl⟩⟩

theorem all_or_nothing {payload : String → Option Json} (hlength : ∀ u, (short_hash lib u).length = 40)
    (hc : Reachable (minters python lib allowed_uid) start c) (hfresh : Fresh lib start c.log)
    (hdecodes : Decodes payload c.log) : AllOrNothing python payload c := by
  have hends : ∀ i answer, c.running i = some (.ret answer) →
      ∃ conn, c.job i = some conn ∧ Ends python conn (calls i c.log) (.ok answer) := by
    intro i answer hrun
    obtain ⟨conn, hjob⟩ := hc.job_of_running hrun
    exact ⟨conn, hjob, (guarded hc).rest i conn _ hjob hrun⟩
  constructor
  case answered =>
    intro i answer hrun
    obtain ⟨conn, _, hend⟩ := hends i answer hrun
    cases hend with
    | failed hfailed _ => exact Or.inl hfailed
    | minted _ _ => exact Or.inr ⟨_, rfl⟩
  case failed =>
    intro i answer hrun hfailed
    obtain ⟨conn, _, hend⟩ := hends i answer hrun
    cases hend with
    | failed _ hbare => exact bare_unchanged hc hbare
    | minted _ _ => exact absurd hfailed reply_not_failed
  case minted =>
    intro i minted hrun
    obtain ⟨conn, hjob, hend⟩ := hends i _ hrun
    generalize hanswer : some (reply (.ok minted)) = answer at hend
    cases hend with
    | failed hfailed _ => exact absurd (hanswer ▸ hfailed) reply_not_failed
    | @minted username host minted' hasks hissued =>
      obtain rfl := reply_injective (Option.some.inj hanswer)
      exact ⟨conn, username, host, hjob, hasks, issued_new hlength hc hfresh hissued,
        carries_of_issued hdecodes hissued⟩

variable {users : Set String} {before : String → SessionFolder}

theorem revocable (hlength : ∀ u, (short_hash lib u).length = 40)
    (hinjective : Set.InjOn (short_hash lib) users) (hstart : Begun lib users before start)
    (hc : Reachable (minters python lib allowed_uid) start c)
    (husers : ∀ i conn u host, c.job i = some conn → AsksFor python conn u host → u ∈ users) :
    Revocable python lib users before c := by
  have hmade : ∀ name ∈ c.world, ∃ u ∈ users, Globbed lib u name ∧ CreatedFor python before c u name := by
    intro name hname
    rcases (mem_folder hc name).mp hname with hname | ⟨e, he, hv⟩
    · obtain ⟨u, hu, hold⟩ := (hstart.owned name).mp hname
      exact ⟨u, hu, hstart.named u hu name hold, Or.inl hold⟩
    · obtain ⟨k, hk⟩ := List.mem_iff_getElem?.mp he
      obtain ⟨_, conn, u, host, token, _, _, hjob, hasks, _, _, _, rfl⟩ := maker hc hk hv
      exact ⟨u, husers _ _ _ _ hjob hasks, globbed_append u token,
        Or.inr ⟨e, he, hv, conn, host, hjob, hasks⟩⟩
  have hcreated : ∀ u ∈ users, ∀ name, CreatedFor python before c u name →
      name ∈ c.world ∧ Globbed lib u name := by
    rintro u hu name (hold | ⟨e, he, hv, conn, host, hjob, hasks⟩)
    · exact ⟨(mem_folder hc name).mpr (Or.inl ((hstart.owned name).mpr ⟨u, hu, hold⟩)),
        hstart.named u hu name hold⟩
    · obtain ⟨k, hk⟩ := List.mem_iff_getElem?.mp he
      obtain ⟨_, conn', u', host', token, _, _, hjob', hasks', _, _, _, rfl⟩ := maker hc hk hv
      obtain rfl : conn = conn' := Option.some.inj (hjob.symm.trans hjob')
      obtain ⟨rfl, -⟩ : u = u' ∧ host = host' := by simpa using hasks.symm.trans hasks'
      exact ⟨(mem_folder hc _).mpr (Or.inr ⟨e, he, hv⟩), globbed_append u token⟩
  have hsame : ∀ u ∈ users, ∀ v ∈ users, ∀ name, Globbed lib u name → Globbed lib v name → v = u :=
    fun u hu v hv name hgu hgv => hinjective hv hu (hash_unique hlength hgv hgu)
  constructor
  case owned =>
    intro name hname
    obtain ⟨u, hu, _, hfor⟩ := hmade name hname
    exact ⟨u, hu, hfor⟩
  case found =>
    intro u hu name
    constructor
    · rintro ⟨hname, hglob⟩
      obtain ⟨v, hv, hglob', hfor⟩ := hmade name hname
      exact hsame u hu v hv name hglob hglob' ▸ hfor
    · exact hcreated u hu name
  case removed =>
    intro u hu v hv name hfor
    obtain ⟨hname, hglob⟩ := hcreated v hv name hfor
    rw [invalidate, Finset.mem_filter, and_iff_right hname, not_iff_not]
    constructor
    · intro hglob'
      exact hsame u hu v hv name hglob' hglob
    · rintro rfl
      exact hglob

/-- **Minting.** In every run of the service, with every outcome of every step, a request that fails
leaves the folder alone and one that succeeds makes one file for the session of its token; the hash of
a user finds the sessions created for that user and no others. -/
theorem minted_whole_and_revocable {payload : String → Option Json}
    (hlength : ∀ u, (short_hash lib u).length = 40) (hinjective : Set.InjOn (short_hash lib) users)
    (hstart : Begun lib users before start) (hc : Reachable (minters python lib allowed_uid) start c)
    (hfresh : Fresh lib start c.log) (hdecodes : Decodes payload c.log)
    (husers : ∀ i conn u host, c.job i = some conn → AsksFor python conn u host → u ∈ users) :
    AllOrNothing python payload c ∧ Revocable python lib users before c :=
  ⟨all_or_nothing hlength hc hfresh hdecodes, revocable hlength hinjective hstart hc husers⟩

end Claim

/-! ## A minted session -/

def aliceIv : Bytes := [7, 201, 33, 94, 150, 12, 88, 241, 63, 178, 5, 119, 230, 46, 171, 9]

def alicePassword : Bytes :=
  [89, 18, 240, 69, 92, 174, 129, 142, 95, 219, 23, 203, 220, 136, 105, 116]

def twoUsers : StandardLibrary where
  shake_256 := fun data _ =>
    if data = encode "alice" then "f7969ba689b4e6084b81d0a0355631ab3df3042e"
    else if data = encode "matt" then "5330443d5096a80482099c9c9acd2babc9fad97c"
    else "0000000000000000000000000000000000000000"
  b64encode := fun data =>
    if data = aliceIv then "B8khXpYMWPE/sgV35i6rCQ==" else "WRLwRVyugY5f2xfL3IhpdA=="
  reason := fun _ => ""

/-- A session that the portal has made for `matt`. -/
def mattSession : String := "5330443d5096a80482099c9c9acd2babc9fad97cc07d5e1b93a8f2640d7b"

def aliceSession : String := "f7969ba689b4e6084b81d0a0355631ab3df3042e3fa90c51d27e6b84a1f0"

def aliceToken : String :=
  "eyJhbGciOiJIUzI1NiIsInR5cCI6IkpXVCJ9.eyJpZCI6ImY3OTY5YmE2ODliNGU2MDg0YjgxZDBhMDM1NTYzMWFiM2RmMz" ++
  "A0MmUzZmE5MGM1MWQyN2U2Yjg0YTFmMCIsImhvc3QiOiJleGFtcGxlLm9yZyIsInVzZXIiOiJhbGljZSIsInB3ZCI6IldSTH" ++
  "dSVnl1Z1k1ZjJ4ZkwzSWhwZEE9PXxCOGtoWHBZTVdQRS9zZ1YzNWk2ckNRPT0iLCJlbWFpbCI6ImFsaWNlQGV4YW1wbGUub3" ++
  "JnIiwiZnVsbG5hbWUiOiJBbGljZSBFeGFtcGxlIn0.dGZPvrQEG1S46fmne44aiZJ79kw4zMoiDzK9pKmkfOc"

def aliceClaims : Json :=
  claims aliceSession (.str "example.org") (.str "alice")
    "WRLwRVyugY5f2xfL3IhpdA==|B8khXpYMWPE/sgV35i6rCQ==" "alice@example.org" "Alice Example"

/-- Every step succeeds. -/
def aliceInput : MintInput
  | .search _ => .ok [[("cn", [encode "Alice Example"]), ("mail", [encode "alice@example.org"])]]
  | .read_text => .ok "0123456789abcdef0123456789abcdef"
  | .token_hex _ => .ok "3fa90c51d27e6b84a1f0"
  | .aes _ => .ok ()
  | .urandom _ => .ok aliceIv
  | .encrypt .. => .ok alicePassword
  | .jwt_encode .. => .ok aliceToken
  | .touch _ => .ok ()
  | .log _ => ()

def sampleTexts : PythonTexts := ⟨id, fun _ => ""⟩

def aliceConnection : Connection := ⟨.ok 1000, [Sessions.request "alice" "example.org"]⟩

theorem alice_asks : AsksFor sampleTexts aliceConnection "alice" (.str "example.org") :=
  mint_request_read sampleTexts ⟨by simp [aliceConnection, Sessions.request, line], by simp [aliceConnection]⟩

def aliceRun : MintRun :=
  (minters sampleTexts twoUsers 1000).after (Config.init {mattSession}) 0 aliceConnection fun _ => aliceInput

theorem hash_alice : short_hash twoUsers "alice" = "f7969ba689b4e6084b81d0a0355631ab3df3042e" := by
  simp only [short_hash, twoUsers, if_true]

theorem hash_matt : short_hash twoUsers "matt" = "5330443d5096a80482099c9c9acd2babc9fad97c" := by
  have hother : encode "matt" ≠ encode "alice" := by decide
  simp only [short_hash, twoUsers, if_neg hother, if_true]

theorem hash_length (u : String) : (short_hash twoUsers u).length = 40 := by
  simp only [short_hash, twoUsers]
  split
  · decide
  · split
    · decide
    · decide

theorem hash_injective : Set.InjOn (short_hash twoUsers) {"alice", "matt"} := by
  rintro u (rfl | rfl) v (rfl | rfl) h
  · rfl
  · rw [hash_alice, hash_matt] at h
    exact absurd h (by decide)
  · rw [hash_alice, hash_matt] at h
    exact absurd h (by decide)
  · rfl

/-- The calls of the run, the third a draw, the last the touch. -/
def aliceEvents : List MintEvent :=
  [.search (.str "alice"), .read_text, .token_hex 10, .aes (encode "0123456789abcdef0123456789abcdef"),
    .urandom 16, .encrypt (encode "0123456789abcdef0123456789abcdef") aliceIv padded,
    .jwt_encode aliceClaims "0123456789abcdef0123456789abcdef", .touch aliceSession].map
      fun o => ⟨o, aliceInput o⟩

theorem aliceRun_calls : aliceRun.log.map Entry.event = aliceEvents ∧
    aliceRun.running 0 = some (.ret (some (reply (.ok ⟨aliceToken, aliceSession, 258600⟩)))) := by
  have hread : readRequest sampleTexts aliceConnection.chunks =
      .ok (.str "alice", .str "example.org") := alice_asks
  have hprogram : (minters sampleTexts twoUsers 1000).program aliceConnection =
      (mintFor twoUsers (.str "alice") (.str "example.org")).attempt.bind
        (conclude (.str "alice") (.str "example.org")) := by
    simp only [minters, handler, hread]
    rfl
  simp only [aliceRun, Machine.after, hprogram]
  exact ⟨rfl, rfl⟩

theorem alice_event {k : Nat} {e : MintEntry} (he : aliceRun.log[k]? = some e) :
    aliceEvents[k]? = some e.event := by
  rw [← aliceRun_calls.1, List.getElem?_map, he]
  rfl

theorem alice_drew {k : Nat} {token : String} (h : aliceEvents[k]? = some (drew token)) :
    k = 2 ∧ token = "3fa90c51d27e6b84a1f0" := by
  rcases k with _ | _ | _ | _ | _ | _ | _ | _ | k <;> cases h
  exact ⟨rfl, rfl⟩

theorem alice_fresh : Fresh twoUsers {mattSession} aliceRun.log where
  once m m' e e' token hm hm' hdrew hdrew' := by
    obtain ⟨rfl, -⟩ := alice_drew (hdrew ▸ alice_event hm)
    obtain ⟨rfl, -⟩ := alice_drew (hdrew' ▸ alice_event hm')
    rfl
  unused m e token hm hdrew u hmem := by
    obtain ⟨-, rfl⟩ := alice_drew (hdrew ▸ alice_event hm)
    have hname : mattSession = short_hash twoUsers "matt" ++ "c07d5e1b93a8f2640d7b" := by
      rw [hash_matt]
      rfl
    have htoken := token_unique hash_length (hname ▸ Finset.mem_singleton.mp hmem)
    exact absurd htoken (by decide)

theorem alice_decodes :
    Decodes (fun token => if token = aliceToken then some aliceClaims else none) aliceRun.log := by
  intro e he claims secret token hv
  obtain ⟨k, hk⟩ := List.mem_iff_getElem?.mp he
  have hevent := alice_event hk
  rw [hv] at hevent
  rcases k with _ | _ | _ | _ | _ | _ | _ | _ | k <;> cases hevent
  exact if_pos rfl

theorem matt_begun : Begun twoUsers {"alice", "matt"} (fun u => if u = "matt" then {mattSession} else ∅)
    {mattSession} where
  owned name := by simp
  named u _ name hname := by
    split at hname
    · next hu =>
      rw [hu, Finset.mem_singleton.mp hname, Globbed, hash_matt]
      decide
    · cases hname

/-- One token for `alice`, next to the session of `matt`. -/
theorem aliceRun_whole_and_revocable :
    aliceRun.running 0 = some (.ret (some (reply (.ok ⟨aliceToken, aliceSession, 258600⟩)))) ∧
      AllOrNothing sampleTexts (fun token => if token = aliceToken then some aliceClaims else none)
        aliceRun ∧
      Revocable sampleTexts twoUsers {"alice", "matt"}
        (fun u => if u = "matt" then {mattSession} else ∅) aliceRun := by
  refine ⟨aliceRun_calls.2, minted_whole_and_revocable hash_length hash_injective matt_begun
    (Reachable.init.after rfl _ _) alice_fresh alice_decodes ?_⟩
  intro i conn u host hjob hasks
  have hconn : conn = aliceConnection := by
    by_cases hi : i = 0
    · subst hi
      exact (Option.some.inj hjob).symm
    · have hnone : aliceRun.job i = none := Function.update_of_ne hi _ _
      rw [hnone] at hjob
      cases hjob
  rw [hconn] at hasks
  obtain ⟨rfl, -⟩ : u = "alice" ∧ host = .str "example.org" := by
    simpa using hasks.symm.trans alice_asks
  exact Or.inl rfl

end NostrAuth.Minting
