import NostrAuth.Lib.Statements
import NostrAuth.HostileInput
import NostrAuth.MappingConcurrency

/-! A lost race for a pubkey, statement by statement: what `link` and `add_identity` raise while
other processes work on the file, and what their callers make of it. -/

set_option autoImplicit false

namespace NostrAuth.LinkRaces

open Interaction Prog Transaction MappingDb MappingStore MappingConcurrency Server AdminCli HostileInput

/-! ## The callers -/

/-- What is to be recorded: `add` is `add_identity`, otherwise `link`. -/
structure Recording where
  add : Bool
  username : String
  pubkey : String
  metadata : Metadata

def Recording.call (r : Recording) : MappingCall := recordCall r.add r.username r.pubkey r.metadata

/-- A pubkey that the SDK handed out. -/
structure Key (sdk : NostrSdk) where
  pubkey : String
  converts : Npub.Converts sdk pubkey

section Callers

variable (sdk : NostrSdk)

/-- What `confirm_and_link` makes of the outcome. -/
def confirmed (username : String) : Except Exn Unit → Handler String
  | .ok _ => .ret username
  | .error (.pubkeyAlreadyLinked e) => .raise (.linkingError e)
  | .error e => .raise e

/-- `confirm_and_link` from the verified event on. -/
def confirm (r : Recording) : Handler String :=
  (Linking.record (!r.add) r.username r.pubkey r.metadata).attempt.bind (confirmed r.username)

/-- What `admin_add_identity_endpoint` makes of the outcome. -/
def administered (request : Request) (username : String) :
    Except Exn (Option Identity) → Handler Response
  | .error (.pubkeyAlreadyLinked e) => refuse 409 e
  | .error e => .raise e
  | .ok identity => do
    Handler.log .info ("admin added identity (" ++ username ++ ") from " ++ _client_ip request)
    let value ← _identity_json? sdk identity
    return respond [("ok", .bool true), ("username", .str username), ("identity", value)]

/-- `admin_add_identity_endpoint` from the checked body on. -/
def administer (request : Request) (r : Recording) : Handler Response :=
  (adminRecord (!r.add) r.username r.pubkey r.metadata).attempt.bind
    (administered sdk request r.username)

/-- What `_link` makes of the outcome. -/
def commanded (add : Bool) (username pubkey_hex : String) : Except Exn Unit → Cli Int
  | .error (.pubkeyAlreadyLinked e) => fail e
  | .error e => .raise e
  | .ok _ => do
    let verb := if add then "added" else "linked"
    let npub ← Prog.ofExcept (Npub.hex_to_npub sdk pubkey_hex)
    done (verb ++ " " ++ username ++ " to " ++ npub ++ " (" ++ pubkey_hex ++ ")")

/-- `_link` from the parsed pubkey on. -/
def command (r : Recording) : Cli Int :=
  (record r.add r.username r.pubkey r.metadata).attempt.bind (commanded sdk r.add r.username r.pubkey)

/-- `confirm_and_link`, in whatever texts the session and the request have. -/
theorem confirm_and_link_eq (replace : Bool) (cookie_header host : String) (challenge : Challenge)
    (event_json base_url : String) (skew : Int) (signer_type : String) (label : Option PyStr) :
    Linking.confirm_and_link sdk replace cookie_header host (some challenge) event_json base_url skew
        signer_type label =
      if challenge.action ≠ Linking.LINK_ACTION then .raise (.linkingError
        ("challenge was not issued for " ++ pyRepr Linking.LINK_ACTION))
      else (Linking.currentUser cookie_header host base_url).bind fun username =>
        match Login.verifyAgainst sdk challenge event_json skew with
        | .error (.invalidEvent e) => .raise (.linkingError e)
        | .error e => .raise e
        | .ok pubkey => (Linking.recordTexts replace username pubkey signer_type label).attempt.bind
          fun
          | .ok username => .ret username
          | .error (.pubkeyAlreadyLinked e) => .raise (.linkingError e)
          | .error e => .raise e := rfl

/-- Where SQLite can encode the texts, what follows the verified event is `confirm`. -/
theorem confirm_texts (replace : Bool) (username pubkey signer_type : String) (label : Option String) :
    ((Linking.recordTexts replace (.text username) pubkey signer_type (label.map .text)).attempt.bind
      (fun
        | .ok username => .ret username
        | .error (.pubkeyAlreadyLinked e) => .raise (.linkingError e)
        | .error e => .raise e) : Handler String) =
      confirm ⟨!replace, username, pubkey, { signer_type, label }⟩ := by
  have htexts : Handler.rowTexts replace (.text username) pubkey (label.map .text) =
      .ret (username, label) := by cases label <;> rfl
  rw [Linking.recordTexts, htexts]
  show (((Linking.record replace username pubkey { signer_type, label }).bind fun _ =>
    .ret username).attempt.bind _) = _
  rw [attempt_map_bind, confirm, Bool.not_not]
  congr 1
  funext x
  cases x with
  | ok _ => rfl
  | error e => cases e <;> rfl

/-- What the endpoint makes of the outcome, with the account that was recorded. -/
def administeredTexts (request : Request) : Except Exn (String × Option Identity) → Handler Response
  | .error (.pubkeyAlreadyLinked e) => refuse 409 e
  | .error e => .raise e
  | .ok (username, identity) => administered sdk request username (.ok identity)

/-- `admin_add_identity_endpoint`, in whatever texts the request has. -/
theorem admin_add_identity_endpoint_eq (settings : Settings) (request : Request) :
    admin_add_identity_endpoint sdk settings request = (_require_json request).bind fun _ =>
      (_authenticated_admin settings request).bind fun _ => (readJson request).bind fun body =>
        (_admin_target body).bind fun username => (adminPubkey sdk body).bind fun pubkey_hex =>
          (_identity_metadata body).bind fun metadata => (getField body "replace").bind fun replace =>
            (adminRecordTexts (replace.getD (.bool false)).truthy username pubkey_hex metadata.1
              metadata.2).attempt.bind (administeredTexts sdk request) := rfl

/-- Where SQLite can encode the texts, what follows the checked body is `administer`. -/
theorem administer_texts (request : Request) (replace : Bool) (username pubkey_hex signer_type : String)
    (label : Option String) :
    (adminRecordTexts replace (.text username) pubkey_hex signer_type (label.map .text)).attempt.bind
        (administeredTexts sdk request) =
      administer sdk request ⟨!replace, username, pubkey_hex, ⟨signer_type, label, "admin"⟩⟩ := by
  have htexts : Handler.rowTexts replace (.text username) pubkey_hex (label.map .text) =
      .ret (username, label) := by cases label <;> rfl
  rw [adminRecordTexts, htexts]
  show (((adminRecord replace username pubkey_hex ⟨signer_type, label, "admin"⟩).bind fun identity =>
    .ret (username, identity)).attempt.bind _) = _
  rw [attempt_map_bind, administer, Bool.not_not]
  congr 1
  funext x
  cases x with
  | ok identity => rfl
  | error e => cases e <;> rfl

theorem _link_eq {username pubkey_or_npub pubkey_hex : String} (hu : username ≠ "")
    (hp : pubkey_or_npub ≠ "") (hparse : Npub.parse_to_hex sdk pubkey_or_npub = .ok pubkey_hex)
    (add : Bool) (signer_type : String) (label : Option String) :
    _link sdk username pubkey_or_npub add signer_type label =
      command sdk ⟨add, username, pubkey_hex, ⟨signer_type, storedLabel label, "admin"⟩⟩ := by
  simp only [_link, if_neg hu, if_neg hp, hparse]
  rfl

/-- The processes on one file: any call of the store, and the callers that record a pubkey. -/
inductive Caller
  | store (c : MappingCall)
  | confirm_and_link (r : Recording)
  | admin_add_identity (request : Request) (add : Bool) (username : String) (key : Key sdk)
      (metadata : Metadata)
  | link_command (add : Bool) (username : String) (key : Key sdk) (metadata : Metadata)

/-- How a process ends that raises nothing. -/
inductive Report
  | reply (reply : MappingReply)
  | account (username : String)
  | response (response : Response)
  | exit (code : Int)

variable {sdk}

/-- What the process records. -/
def Caller.recording : Caller sdk → Option Recording
  | store (.link u p metadata) => some ⟨false, u, p, metadata⟩
  | store (.add_identity u p metadata) => some ⟨true, u, p, metadata⟩
  | store _ => none
  | confirm_and_link r => some r
  | admin_add_identity _ add u key metadata => some ⟨add, u, key.pubkey, metadata⟩
  | link_command add u key metadata => some ⟨add, u, key.pubkey, metadata⟩

/-- The statements of a handler's call; `answers` are those of everything but the store. -/
def statements (answers : (o : Op) → o.Ans) : (o : Op) → Sql o.Ans
  | .mapping c => c.method.attempt
  | .issue domain action => .ret (answers (.issue domain action))
  | .consume nonce => .ret (answers (.consume nonce))
  | .me cookie host base_url => .ret (answers (.me cookie host base_url))
  | .mint u host => .ret (answers (.mint u host))
  | .log .. => .ret ()

/-- The statements of a command's call. -/
def commandStatements : (o : CliOp) → Sql o.Ans
  | .mapping c => c.method.attempt
  | .open_store => MappingStore.init
  | .print _ | .printError _ => .ret ()

def Caller.program (answers : (o : Op) → o.Ans) : Caller sdk → Sql Report
  | store c => c.program.bind fun reply => .ret (.reply reply)
  | confirm_and_link r =>
    ((confirm r).bind fun u => Prog.ret (Report.account u)).script (statements answers)
  | admin_add_identity request add u key metadata =>
    ((administer sdk request ⟨add, u, key.pubkey, metadata⟩).bind fun response =>
      Prog.ret (Report.response response)).script (statements answers)
  | link_command add u key metadata =>
    ((command sdk ⟨add, u, key.pubkey, metadata⟩).bind fun code =>
      Prog.ret (Report.exit code)).script commandStatements

/-! ## The statement -/

/-- The answers of the linking endpoints to what `confirm_and_link` raises. -/
def Unauthorized (e : Exn) : Prop :=
  ∀ request failure success answer, (concludeLinking request failure success answer (.error e)).Within
    (fun _ => True) (fun o => ∃ level message, o = .log level message)
    fun outcome => ∃ m, outcome = .error (.apiError 401 m)

/-- The process ended as one that has recorded its pubkey. -/
def Caller.Recorded : Caller sdk → Except Exn Report → Prop
  | store _, outcome => ∃ reply, outcome = .ok (.reply reply)
  | confirm_and_link r, outcome => outcome = .ok (.account r.username)
  | admin_add_identity .., outcome =>
    ∃ response, outcome = .ok (.response response) ∧ response.status_code = 200
  | link_command .., outcome => outcome = .ok (.exit 0)

/-- The process reported that the pubkey is taken: `PubkeyAlreadyLinked`, and what the callers make
of it, 401, 409 and exit code 1. -/
def Caller.Refused : Caller sdk → Except Exn Report → Prop
  | store _, outcome => ∃ m, outcome = .error (.pubkeyAlreadyLinked m)
  | confirm_and_link _, outcome => ∃ m, outcome = .error (.linkingError m) ∧ Unauthorized (.linkingError m)
  | admin_add_identity .., outcome => ∃ m, outcome = .error (.apiError 409 m)
  | link_command .., outcome => outcome = .ok (.exit 1)

/-- What the process reads back is still there: by its id after `add_identity`, as the active row of
the pubkey after `link`. -/
def Recording.Kept (r : Recording) (after db : MappingDb) : Prop :=
  if r.add then ∀ a ∈ after, a.pubkey = r.pubkey →
    ∃ b ∈ db, b.identity_id = a.identity_id ∧ b.pubkey = r.pubkey
  else ∃ b ∈ db, b.pubkey = r.pubkey ∧ b.enabled = 1

/-- **The race is not lost after the check**: when the process is about to write, its pubkey is free
for it, and when it is about to read back, its row is still there. -/
def Unraced (r : Recording) (trail : Trail) (head : Head) (db : MappingDb) : Prop :=
  (head = .execute → trail = [] → FreeFor r.add r.username r.pubkey db) ∧
    ∀ before after older, head = .query → trail = (before, after) :: older → r.Kept after db

abbrev RaceDb (sdk : NostrSdk) := Db (Caller sdk) MappingDb Exn Report

/-- The steps of the runs below. -/
def Admitted (i : Nat) (d : RaceDb sdk) : Prop :=
  ∀ p r, d.proc i = some p → p.call.recording = some r → Unraced r p.trail p.rest.head d.committed

end Callers

/-! ## The store's calls -/

/-- What a recording process may commit. -/
def Records (r : Recording) (trail : Trail) (before after : MappingDb) : Prop :=
  trail = [] ∧ r.call.Effect before after

/-- How a recording call ends: with its one commit, or with `PubkeyAlreadyLinked` and without one. -/
def Wrote {α : Type} (P : α → Prop) (trail : Trail) : Except Exn α → Prop
  | .ok a => P a ∧ ∃ change, trail = [change]
  | .error e => (∃ m, e = .pubkeyAlreadyLinked m) ∧ trail = []

abbrev Met {α : Type} (r : Recording) (Q : Trail → Except Exn α → Prop) (trail : Trail)
    (p : Sql α) : Prop := p.Ok (Script.Headed (Unraced r)) (Records r) Q trail none

theorem link_wrote (u p : String) (metadata : Metadata) :
    Met ⟨false, u, p, metadata⟩ (Wrote fun _ => True) [] (MappingStore.link u p metadata) := by
  simp only [Met, MappingStore.link, Script.bind_eq, Script.select_bind, Script.closing, Script.attempt,
    Script.query_bind, Script.Ok, Script.meets]
  intro seen _
  cases hcheck : checkOther u (ownerOf p seen) with
  | error e =>
    obtain ⟨m, rfl⟩ := checkOther_error hcheck
    simp [Script.ofExcept, Script.attempt, Script.Ok, Wrote]
  | ok _ =>
    simp only [Script.ofExcept, Script.ret_bind, Script.dml, Script.execute_bind, Script.attempt,
      Script.Ok, Script.meets, Script.now_bind, Script.clock_bind]
    intro before hsees t
    have hfree : ∀ a ∈ (deleteUser u before).1, a.pubkey ≠ p := by
      intro a ha hp
      obtain ⟨ha, hu⟩ := mem_deleteUser.mp ha
      exact hu (hsees.1 rfl rfl a ha hp).2
    obtain ⟨after, hins⟩ : ∃ after, insertNew u p t metadata (deleteUser u before).1 = .ok (after, _) :=
      insertNew_free hfree
    have heff : (Recording.call ⟨false, u, p, metadata⟩).Effect before after := ⟨t, _, hins⟩
    simp [hins, Script.attempt, Script.commitNow, Script.Ok, Records, Wrote, heff]

theorem add_wrote (u p : String) (metadata : Metadata) :
    Met ⟨true, u, p, metadata⟩ (Wrote fun identity => identity.pubkey = p) []
      (MappingStore.add_identity u p metadata) := by
  simp only [Met, MappingStore.add_identity, Script.bind_eq, Script.now_bind,
    Script.select_bind, Script.closing, Script.attempt, Script.query_bind, Script.Ok, Script.meets]
  intro t seen _
  cases hcheck : checkAny u (ownerOf p seen) with
  | error e =>
    obtain ⟨m, rfl⟩ := checkAny_error hcheck
    simp [Script.ofExcept, Script.attempt, Script.Ok, Wrote]
  | ok _ =>
    simp only [Script.ofExcept, Script.ret_bind, Script.dml, Script.execute_bind, Script.attempt,
      Script.Ok, Script.meets]
    intro before hsees
    have hfree : ∀ a ∈ before, a.pubkey ≠ p := by
      intro a ha hp
      cases (hsees.1 rfl rfl a ha hp).1
    obtain ⟨after, hins⟩ : ∃ after, insertNew u p t metadata before = .ok (after, _) :=
      insertNew_free hfree
    have heff : (Recording.call ⟨true, u, p, metadata⟩).Effect before after := ⟨t, _, hins⟩
    simp only [hins, Script.ret_bind, Script.commitNow, Script.commit_bind, Script.attempt,
      Script.close_bind, Script.Ok, Script.pure_eq, get_by_id, Script.bind_eq, Script.select_bind,
      Script.closing, Script.query_bind, Script.meets]
    refine ⟨⟨rfl, heff⟩, ?_⟩
    intro db hdb
    obtain ⟨b, hb, hid, hpubkey⟩ := hdb.2 before after [] rfl rfl _
      (((insertNew_ok hins).2 _).mpr (Or.inr rfl)) rfl
    cases hfind : db.identities.find fun r => r.identity_id == before.identities.seq + 1 with
    | none => simpa [hid, newRow] using Table.find_none hfind hb
    | some c =>
      obtain ⟨hc, hcid⟩ := Table.find_some hfind
      obtain rfl : c = b := Serial.eq_of_id hc hb ((beq_iff_eq.mp hcid).trans hid.symm)
      simp [Script.ofExcept, Script.Ok, Wrote, _row_to_identity, hpubkey]

theorem get_by_pubkey_found {r : Recording} {trail : Trail} (hadd : r.add = false) (hne : trail ≠ []) :
    Met r (fun tr x => (∃ identity, x = .ok (some identity) ∧ identity.pubkey = r.pubkey) ∧ tr = trail)
      trail (MappingStore.get_by_pubkey r.pubkey) := by
  simp only [Met, MappingStore.get_by_pubkey, Script.closing, Script.select_bind, Script.bind_eq,
    Script.attempt, Script.query_bind, Script.Ok, Script.meets]
  intro db hdb
  cases trail with
  | nil => exact absurd rfl hne
  | cons change older =>
    have hkept := hdb.2 change.1 change.2 older rfl rfl
    simp only [Recording.Kept, hadd] at hkept
    obtain ⟨b, hb, hpubkey, hon⟩ := hkept
    have hfind := find_pubkey_eq_some.mpr ⟨hb, hpubkey, hon⟩
    simp [hfind, Script.ofExcept, Script.attempt, Script.Ok, _row_to_identity, hpubkey]

/-! ## The callers' calls -/

/-- The calls of a caller: one that records, then perhaps the look at what was recorded. -/
def Asks (r : Recording) (trail : Trail) : Op → Prop
  | .mapping c => (c = r.call ∧ trail = []) ∨
    (c = .get_by_pubkey r.pubkey ∧ r.add = false ∧ trail ≠ [])
  | .log .. => True
  | _ => False

/-- What the store answers a recording process. -/
def Answered (r : Recording) : (c : MappingCall) → Trail → Except Exn c.Reply → Trail → Prop
  | .link .., _, x, trail' => Wrote (fun _ => True) trail' x
  | .add_identity .., _, x, trail' => Wrote (fun identity => identity.pubkey = r.pubkey) trail' x
  | .get_by_pubkey _, trail, x, trail' =>
    (∃ identity, x = .ok (some identity) ∧ identity.pubkey = r.pubkey) ∧ trail' = trail
  | _, _, _, _ => False

def Replied (r : Recording) (trail : Trail) : (o : Op) → o.Ans → Trail → Prop
  | .mapping c, x, trail' => Answered r c trail x trail'
  | _, _, trail' => trail' = trail

theorem call_answered {r : Recording} {trail : Trail} {c : MappingCall}
    (hc : (c = r.call ∧ trail = []) ∨ (c = .get_by_pubkey r.pubkey ∧ r.add = false ∧ trail ≠ [])) :
    Met r (fun trail' x => ∃ y, x = .ok y ∧ Answered r c trail y trail') trail c.method.attempt := by
  apply Script.Ok.attempt
  rcases hc with ⟨rfl, rfl⟩ | ⟨rfl, hadd, hne⟩
  · obtain ⟨add, u, p, metadata⟩ := r
    cases add with
    | false =>
      exact (link_wrote u p metadata).mono (fun _ _ _ h => h) (fun _ _ _ h => h)
        fun _ x hx => ⟨x, rfl, hx⟩
    | true =>
      exact (add_wrote u p metadata).mono (fun _ _ _ h => h) (fun _ _ _ h => h)
        fun _ x hx => ⟨x, rfl, hx⟩
  · exact (get_by_pubkey_found hadd hne).mono (fun _ _ _ h => h) (fun _ _ _ h => h)
      fun _ x hx => ⟨x, rfl, hx⟩

theorem statements_replied {r : Recording} {answers : (o : Op) → o.Ans} (trail : Trail) (o : Op)
    (ho : Asks r trail o) : Met r (fun trail' x => ∃ y, x = .ok y ∧ Replied r trail o y trail') trail
      (statements answers o) := by
  cases o with
  | mapping c => exact call_answered ho
  | log level message => exact ⟨rfl, (), rfl, rfl⟩
  | _ => exact ho.elim

/-- The calls of a command, likewise. -/
def CommandAsks (r : Recording) (trail : Trail) : CliOp → Prop
  | .mapping c => c = r.call ∧ trail = []
  | .open_store => False
  | .print _ | .printError _ => True

def CommandReplied (r : Recording) (trail : Trail) : (o : CliOp) → o.Ans → Trail → Prop
  | .mapping c, x, trail' => Answered r c trail x trail'
  | .open_store, _, trail' | .print _, _, trail' | .printError _, _, trail' => trail' = trail

theorem commandStatements_replied {r : Recording} (trail : Trail) (o : CliOp)
    (ho : CommandAsks r trail o) : Met r (fun trail' x => ∃ y, x = .ok y ∧
      CommandReplied r trail o y trail') trail (commandStatements o) := by
  cases o with
  | mapping c => exact call_answered (Or.inl ho)
  | open_store => exact ho.elim
  | print text => exact ⟨rfl, (), rfl, rfl⟩
  | printError text => exact ⟨rfl, (), rfl, rfl⟩

/-! ## The callers -/

section Callers

variable {sdk : NostrSdk}

/-- **How a recording process ends**: it has committed its row and reports that, or it has committed
nothing and reports that the pubkey is taken. -/
def Caller.Ends (call : Caller sdk) (trail : Trail) (outcome : Except Exn Report) : Prop :=
  (call.Recorded outcome ∧ ∃ change, trail = [change]) ∨ (call.Refused outcome ∧ trail = [])

theorem unauthorized (m : String) : Unauthorized (.linkingError m) :=
  fun _ _ _ _ => ⟨⟨_, _, rfl⟩, fun _ _ => ⟨m, rfl⟩⟩

theorem confirm_traced (r : Recording) :
    ((confirm r).bind fun u => Prog.ret (Report.account u)).Traced (Asks r) (Replied r)
      (Caller.confirm_and_link r : Caller sdk).Ends [] := by
  have hrefused : ∀ m, (Caller.confirm_and_link r : Caller sdk).Refused (.error (.linkingError m)) :=
    fun m => ⟨m, rfl, unauthorized m⟩
  obtain ⟨add, u, p, metadata⟩ := r
  cases add with
  | false =>
    refine ⟨Or.inl ⟨rfl, rfl⟩, fun x trail hx => ?_⟩
    cases x with
    | ok _ => exact Or.inl ⟨rfl, hx.2⟩
    | error e =>
      obtain ⟨⟨m, rfl⟩, rfl⟩ := hx
      exact Or.inr ⟨hrefused m, rfl⟩
  | true =>
    refine ⟨Or.inl ⟨rfl, rfl⟩, fun x trail hx => ?_⟩
    cases x with
    | ok identity => exact Or.inl ⟨rfl, hx.2⟩
    | error e =>
      obtain ⟨⟨m, rfl⟩, rfl⟩ := hx
      exact Or.inr ⟨hrefused m, rfl⟩

/-- The answer to the administrator whose key was recorded. -/
theorem administered_traced {request : Request} {r : Recording} {call : Caller sdk} {u : String}
    {identity : Identity} {change : MappingDb × MappingDb} (h : Npub.Converts sdk identity.pubkey)
    (hcall : ∀ response : Response, response.status_code = 200 →
      call.Recorded (.ok (.response response))) :
    ((administered sdk request u (.ok (some identity))).bind fun response =>
      Prog.ret (Report.response response)).Traced (Asks r) (Replied r) call.Ends [change] := by
  refine ⟨trivial, fun _ trail htrail => ?_⟩
  obtain rfl : trail = [change] := htrail
  obtain ⟨npub, hnpub⟩ := h
  simp only [_identity_json?, _identity_json, Npub.hex_to_npub, hnpub]
  exact Or.inl ⟨hcall _ rfl, change, rfl⟩

theorem administer_traced (request : Request) (add : Bool) (u : String) (key : Key sdk)
    (metadata : Metadata) : ((administer sdk request ⟨add, u, key.pubkey, metadata⟩).bind fun response =>
      Prog.ret (Report.response response)).Traced (Asks ⟨add, u, key.pubkey, metadata⟩)
        (Replied ⟨add, u, key.pubkey, metadata⟩)
        (Caller.admin_add_identity request add u key metadata).Ends [] := by
  cases add with
  | false =>
    refine ⟨Or.inl ⟨rfl, rfl⟩, fun x trail hx => ?_⟩
    cases x with
    | ok _ =>
      obtain ⟨-, change, rfl⟩ := hx
      refine ⟨Or.inr ⟨rfl, rfl, by simp⟩, fun x trail hx => ?_⟩
      obtain ⟨⟨identity, rfl, hpubkey⟩, rfl⟩ := hx
      apply administered_traced
      · rw [hpubkey]
        exact key.converts
      · exact fun response h200 => ⟨response, rfl, h200⟩
    | error e =>
      obtain ⟨⟨m, rfl⟩, rfl⟩ := hx
      exact Or.inr ⟨⟨m, rfl⟩, rfl⟩
  | true =>
    refine ⟨Or.inl ⟨rfl, rfl⟩, fun x trail hx => ?_⟩
    cases x with
    | ok identity =>
      obtain ⟨hpubkey, change, rfl⟩ := hx
      apply administered_traced
      · rw [hpubkey]
        exact key.converts
      · exact fun response h200 => ⟨response, rfl, h200⟩
    | error e =>
      obtain ⟨⟨m, rfl⟩, rfl⟩ := hx
      exact Or.inr ⟨⟨m, rfl⟩, rfl⟩

theorem command_traced (add : Bool) (u : String) (key : Key sdk) (metadata : Metadata) :
    ((command sdk ⟨add, u, key.pubkey, metadata⟩).bind fun code => Prog.ret (Report.exit code)).Traced
      (CommandAsks ⟨add, u, key.pubkey, metadata⟩) (CommandReplied ⟨add, u, key.pubkey, metadata⟩)
        (Caller.link_command add u key metadata).Ends [] := by
  obtain ⟨npub, hnpub⟩ := key.converts
  have hnpub : Npub.hex_to_npub sdk key.pubkey = .ok npub := by rw [Npub.hex_to_npub, hnpub]
  cases add with
  | false =>
    refine ⟨⟨rfl, rfl⟩, fun x trail hx => ?_⟩
    cases x with
    | ok _ =>
      obtain ⟨-, change, rfl⟩ := hx
      simp only [ofExcept_ok, attempt_ret, ret_bind, commanded, hnpub, Prog.bind_eq]
      refine ⟨trivial, fun _ trail htrail => ?_⟩
      obtain rfl : trail = [change] := htrail
      exact Or.inl ⟨rfl, change, rfl⟩
    | error e =>
      obtain ⟨⟨m, rfl⟩, rfl⟩ := hx
      exact ⟨trivial, fun _ _ htrail => Or.inr ⟨rfl, htrail⟩⟩
  | true =>
    refine ⟨⟨rfl, rfl⟩, fun x trail hx => ?_⟩
    cases x with
    | ok identity =>
      obtain ⟨-, change, rfl⟩ := hx
      simp only [ofExcept_ok, attempt_ret, ret_bind, commanded, hnpub, Prog.bind_eq]
      refine ⟨trivial, fun _ trail htrail => ?_⟩
      obtain rfl : trail = [change] := htrail
      exact Or.inl ⟨rfl, change, rfl⟩
    | error e =>
      obtain ⟨⟨m, rfl⟩, rfl⟩ := hx
      exact ⟨trivial, fun _ _ htrail => Or.inr ⟨rfl, htrail⟩⟩

variable {answers : (o : Op) → o.Ans}

/-- What a process meets, commits and ends with, where it records a pubkey. -/
def Meets (call : Caller sdk) (trail : Trail) (head : Head) (db : MappingDb) : Prop :=
  ∀ r, call.recording = some r → Unraced r trail head db

def Commits (call : Caller sdk) (trail : Trail) (before after : MappingDb) : Prop :=
  ∀ r, call.recording = some r → Records r trail before after

def Concludes (call : Caller sdk) (trail : Trail) (outcome : Except Exn Report) : Prop :=
  ∀ r, call.recording = some r → call.Ends trail outcome

/-- It is enough to describe what a process records. -/
theorem ok_of_recording {call : Caller sdk} {r : Recording} {p : Sql Report}
    (hr : call.recording = some r) (h : Met r call.Ends [] p) :
    p.Ok (Script.Headed (Meets call)) (Commits call) (Concludes call) [] none := by
  apply h.mono (fun _ _ _ hmeets => hmeets r hr)
  · intro trail before after hrecords r' hr'
    obtain rfl : r = r' := Option.some.inj (hr.symm.trans hr')
    exact hrecords
  · exact fun _ _ hends _ _ => hends

/-- A call of the store that records nothing. -/
theorem other_ok {c : MappingCall} (hc : (Caller.store c : Caller sdk).recording = none) :
    ((Caller.store c : Caller sdk).program answers).Ok (Script.Headed (Meets (Caller.store c : Caller sdk)))
      (Commits (Caller.store c : Caller sdk)) (Concludes (Caller.store c : Caller sdk)) [] none := by
  have hany : c.program.Ok (Script.Headed (Meets (Caller.store c : Caller sdk)))
      (Commits (Caller.store c : Caller sdk)) (fun _ _ => True) [] none := by
    apply (@program_ok False c).mono (fun _ _ _ _ hquiet => hquiet.elim)
    · intro _ _ _ _ r hr
      rw [hc] at hr
      cases hr
    · exact fun _ _ _ => trivial
  apply Script.Ok.bind hany
  · intro trail reply _
    refine ⟨rfl, fun r hr => ?_⟩
    rw [hc] at hr
    cases hr
  · intro trail e _ r hr
    rw [hc] at hr
    cases hr

/-- A recording call of the store. -/
theorem store_ends {c : MappingCall} {r : Recording} {P : c.Reply → Prop}
    (h : Met r (Wrote P) [] c.method) :
    Met r (Caller.store c : Caller sdk).Ends [] ((Caller.store c : Caller sdk).program answers) := by
  show Met r _ [] ((c.method.bind _).bind _)
  have hreply : Met r (Wrote fun _ => True) [] (c.method.bind fun x => .ret (c.wrap x)) := by
    apply Script.Ok.bind h
    · rintro trail x ⟨-, hchange⟩
      exact ⟨rfl, trivial, hchange⟩
    · exact fun _ _ he => he
  apply Script.Ok.bind hreply
  · rintro trail reply ⟨-, hchange⟩
    exact ⟨rfl, Or.inl ⟨⟨reply, rfl⟩, hchange⟩⟩
  · rintro trail e ⟨⟨m, rfl⟩, rfl⟩
    exact Or.inr ⟨⟨m, rfl⟩, rfl⟩

/-- Every process meets its description. -/
theorem caller_ok (call : Caller sdk) : (call.program answers).Ok (Script.Headed (Meets call))
    (Commits call) (Concludes call) [] none := by
  cases call with
  | store c =>
    cases c with
    | link u p metadata => exact ok_of_recording rfl (store_ends (link_wrote u p metadata))
    | add_identity u p metadata => exact ok_of_recording rfl (store_ends (add_wrote u p metadata))
    | _ => exact other_ok rfl
  | confirm_and_link r =>
    exact ok_of_recording rfl (Traced.ok statements_replied (confirm_traced r))
  | admin_add_identity request add u key metadata =>
    exact ok_of_recording rfl (Traced.ok statements_replied (administer_traced request add u key metadata))
  | link_command add u key metadata =>
    exact ok_of_recording rfl (Traced.ok commandStatements_replied (command_traced add u key metadata))

end Callers

/-! ## Runs -/

section Runs

variable {sdk : NostrSdk}

/-- The process ended this way. -/
def Ended (p : Proc (Caller sdk) MappingDb Exn Report) : Except Exn Report → Prop
  | .ok report => p.rest = .ret report
  | .error e => p.rest = .raise e

/-- The process `i` has committed its insertion, as its only change, and reports that, or it has
committed nothing and reports that the pubkey is taken. -/
def Settles (d : RaceDb sdk) (i : Nat) (call : Caller sdk) (r : Recording)
    (outcome : Except Exn Report) : Prop :=
  (call.Recorded outcome ∧
    ∃ before after, changesOf i d.hist = [(before, after)] ∧ r.call.Effect before after) ∨
  (call.Refused outcome ∧ changesOf i d.hist = [])

/-- **A lost race is reported** by every recording process of a run in which the race is not lost
between a check and the write that follows it, nor a row before it is read back. -/
theorem lost_race_reported (sdk : NostrSdk) (answers : (o : Op) → o.Ans) (start : MappingDb)
    (d : RaceDb sdk) (hd : Reachable (Caller.program answers) Admitted start d) :
    ∀ i p r outcome, d.proc i = some p → p.crashed = false → p.call.recording = some r →
      Ended p outcome → Settles d i p.call r outcome := by
  have hsound : Sound (fun call : Caller sdk => call.program answers) Admitted (fun _ => True)
      (fun call => Script.Headed (Meets call)) Commits Concludes :=
    ⟨caller_ok, fun _ _ _ _ _ _ => trivial, fun _ _ p _ hmay hp r hr => hmay p r hp hr⟩
  have hv := hd.verified hsound trivial
  intro i p r outcome hp hcrash hr hended
  have hends : p.call.Ends (changesOf i d.hist) outcome := by
    cases outcome with
    | ok report => exact (hv.ended hp hcrash).1 report hended r hr
    | error e => exact (hv.ended hp hcrash).2 e hended r hr
  rcases hends with ⟨hrecorded, ⟨before, after⟩, hchange⟩ | ⟨hrefused, hnone⟩
  · have hmem : (before, after) ∈ changesOf i d.hist := by simp [hchange]
    obtain ⟨_, q, hq, hcommit⟩ := hv.hist.of_mem (mem_changesOf.mp hmem)
    rw [hp, Option.some.injEq] at hq
    subst hq
    exact Or.inl ⟨hrecorded, before, after, hchange, (hcommit r hr).2⟩
  · exact Or.inr ⟨hrefused, hnone⟩

end Runs

/-! ## Schedules -/

/-- Nobody else answers anything: the recording processes ask only the store. -/
def silent : (o : Op) → o.Ans
  | .issue .. => .error (.valueError "")
  | .consume _ => .ok none
  | .me .. => .urlError ""
  | .mapping _ => .error (.valueError "")
  | .mint .. => .failed ""
  | .log .. => ()

def aliceLink : Recording := ⟨false, "alice", aliceKey, {}⟩
def bobLink : Recording := ⟨false, "bob", aliceKey, {}⟩

/-- `alice` links her key; then an administrator gives it to `bob`. -/
def linkedMoves : List (Move (Caller aliceSdk)) :=
  [.start 0 (.confirm_and_link aliceLink), .go 0 0, .go 0 0, .go 0 10, .go 0 0, .go 0 0, .go 0 0,
    .start 1 (.link_command false "bob" ⟨aliceKey, aliceKey_converts⟩ {}), .go 1 0, .go 1 0]

def linkedRun : RaceDb aliceSdk :=
  (Db.init MappingDb.empty).play (Caller.program silent) linkedMoves

theorem linked_admitted :
    Admits (Caller.program silent) Admitted (Db.init MappingDb.empty) linkedMoves := by
  refine ⟨?_, ?_, ?_, ?_, ?_, ?_, ?_, ?_, ?_, ?_, trivial⟩ <;>
    (intro p r hp hr; cases hp) <;> cases hr <;>
    refine ⟨fun hhead _ => ?_, fun before after older hhead htrail => ?_⟩ <;>
    first
    | (cases hhead; done)
    | cases htrail
    | exact fun a ha _ => absurd ha (not_mem_empty a)

/-- The second is told so: the command ends with exit code 1. -/
theorem linkedRun_settles : ∃ p r, linkedRun.proc 1 = some p ∧ p.call.recording = some r ∧
    p.rest = .ret (.exit 1) ∧ Settles linkedRun 1 p.call r (.ok (.exit 1)) :=
  ⟨_, _, rfl, rfl, rfl, lost_race_reported aliceSdk silent MappingDb.empty linkedRun
    (Reachable.init.play linked_admitted) 1 _ _ (.ok (.exit 1)) rfl rfl rfl rfl⟩

/-- Both have looked before either writes. -/
def raceMoves : List (Move (Caller aliceSdk)) :=
  [.start 0 (.confirm_and_link aliceLink), .start 1 (.confirm_and_link bobLink), .go 0 0, .go 1 0,
    .go 0 0, .go 0 10, .go 0 0, .go 0 0, .go 0 0, .go 1 0, .go 1 11, .go 1 0, .go 1 0]

def raceRun : RaceDb aliceSdk := (Db.init MappingDb.empty).play (Caller.program silent) raceMoves

/-- **A lost race is not reported**: the loser's insertion fails on the constraint, and the
`IntegrityError` leaves `confirm_and_link`. -/
theorem lost_race_unreported : ¬∀ d : RaceDb aliceSdk,
    Reachable (Caller.program silent) Anytime MappingDb.empty d →
      ∀ i p r outcome, d.proc i = some p → p.crashed = false → p.call.recording = some r →
        Ended p outcome → Settles d i p.call r outcome := by
  intro h
  have hrun : Reachable (Caller.program silent) Anytime MappingDb.empty raceRun :=
    Reachable.init.play (admits_anytime _ (Db.init MappingDb.empty) raceMoves)
  have hsettles := h raceRun hrun 1 _ _
    (.error (.integrityError "UNIQUE constraint failed: identities.pubkey")) rfl rfl rfl rfl
  rcases hsettles with ⟨hrecorded, -⟩ | ⟨⟨m, hrefused, -⟩, -⟩
  · cases hrecorded
  · cases hrefused

/-- An administrator gives the key to `alice`, and the account is unlinked before the row is shown. -/
def gapMoves : List (Move (Caller aliceSdk)) :=
  [.start 0 (.admin_add_identity (loginRequest "a.example") false "alice"
      ⟨aliceKey, aliceKey_converts⟩ {}), .go 0 0, .go 0 0, .go 0 10, .go 0 0, .go 0 0, .go 0 0,
    .start 1 (.store (.unlink "alice")), .go 1 0, .go 1 0, .go 1 0, .go 0 0, .go 0 0]

def gapRun : RaceDb aliceSdk := (Db.init MappingDb.empty).play (Caller.program silent) gapMoves

/-- The endpoint ends in an `AttributeError` after it has committed. -/
theorem gapRun_unreported : ∃ p change, gapRun.proc 0 = some p ∧ changesOf 0 gapRun.hist = [change] ∧
    Ended p (.error (.uncaught "AttributeError" "'NoneType' object has no attribute 'identity_id'")) :=
  ⟨_, _, rfl, rfl, rfl⟩

end NostrAuth.LinkRaces
