import NostrAuth.ReadPaths
import NostrAuth.Relinking
import NostrAuth.SecurityLog

/-! What the add endpoint reports: the first identity of the account in a second query, next to the
row that the request inserted. -/

set_option autoImplicit false

namespace NostrAuth.AddedIdentity

open Interaction Prog Server AdminCli PortalClient MappingDb MappingStore ReadPaths

/-! ## The calls of an answered request -/

/-- The signer type and the trimmed label that the body asks for. -/
def AsksFor (body : Json) (signer_type : String) (label : Option String) : Prop :=
  ∃ fields, body = .obj fields ∧
    (Json.lookup fields "signer_type").getD (.str "unknown") = .str signer_type ∧
    ((Json.lookup fields "label").getD .null = .null ∧ label = none ∨
      ∃ text : String, (Json.lookup fields "label").getD .null = .str text ∧ label = some (strip text))

theorem asksFor_of_metadata {body : Json} {signer_type : String} {label : Option PyStr}
    {l : Option String} (h : _identity_metadata body = .ret (signer_type, label))
    (hl : label = l.map .text) : AsksFor body signer_type l := by
  cases body with
  | obj fields =>
    simp only [_identity_metadata, getField, Prog.bind_eq, ret_bind] at h
    split at h
    · next text hsigner =>
      split at h
      · split at h
        · next hnull =>
          cases h
          exact ⟨fields, rfl, hsigner, Or.inl ⟨hnull, Option.map_eq_none_iff.mp hl.symm⟩⟩
        · next text' htext =>
          split at h
          · cases h
          · cases h
            obtain ⟨l, rfl, hstrip⟩ := Option.map_eq_some_iff.mp hl.symm
            obtain ⟨text, rfl, rfl⟩ := PyStr.strip_eq_text.mp hstrip.symm
            exact ⟨fields, rfl, hsigner, Or.inr ⟨text, htext, rfl⟩⟩
        · cases h
      · cases h
    · cases h
  | _ => cases h

/-- The request was answered with what it read after it had added a key. -/
structure AddedBy (sdk : NostrSdk) (job : Job) (h : Trace) (response : Response) (u p : String)
    (metadata : Metadata) (identity found : Identity) : Prop where
  calls : ∃ nonce challenge ask message, SignedBy sdk job challenge p ∧ h =
    [took nonce challenge, ask, ⟨.mapping (.add_identity u p metadata), .ok identity⟩,
      ⟨.log .info message, ()⟩, ⟨.mapping (.get_by_username u), .ok (some found)⟩]
  asked : ∃ body, job.request.json = .ok body ∧ AsksFor body metadata.signer_type metadata.label
  shows : ∃ value, _identity_json sdk found = .ret value ∧
    response = respond [("ok", .bool true), ("username", .str u), ("identity", value)]

/-- How a request to the add endpoint ends. -/
def AddEnds (sdk : NostrSdk) (job : Job) (h : Trace) : Except Exn Response → Prop
  | .ok response => ∃ u p metadata identity found, AddedBy sdk job h response u p metadata identity found
  | .error e => Refuses [400, 401, 403, 415] e

/-- What is left of a request to the add endpoint, after the calls `h`. -/
structure Adding (sdk : NostrSdk) (job : Job) (h : Trace) (p : Handler Response) : Prop where
  wp : p.wp Rely (fun _ _ => True) (AddEnds sdk job) h

section Adding

variable {sdk : NostrSdk} {job : Job} {h : Trace}

theorem adding_raise {e : Exn} (he : Refuses [400, 401, 403, 415] e) : Adding sdk job h (.raise e) :=
  ⟨he⟩

theorem adding_call {o : Op} {k : o.Ans → Handler Response}
    (hk : ∀ r, Rely ⟨o, r⟩ → Adding sdk job (h ++ [⟨o, r⟩]) (k r)) : Adding sdk job h (.call o k) :=
  ⟨trivial, fun r hr => (hk r hr).wp⟩

theorem adding_checks {α : Type} {p : Handler α} {P : α → Prop} {codes : List Nat}
    {f : α → Handler Response} (hp : p.Returns P (Refuses codes)) (hcodes : codes ⊆ [400, 401, 403, 415])
    (hf : ∀ a, P a → Adding sdk job h (f a)) : Adding sdk job h (p.bind f) := by
  rcases hp with ⟨a, rfl, ha⟩ | ⟨e, rfl, he⟩
  · exact hf a ha
  · exact adding_raise (he.mono hcodes)

theorem linkingError_refuses {message : String} : Refuses [] (.linkingError message) := by
  intro status_code message h
  cases h

/-- An error is logged or handed on. -/
theorem adding_error {failure success : String} {answer : String → Handler Response} {e : Exn}
    (he : Refuses [] e) :
    Adding sdk job h (concludeLinking job.request failure success answer (.error e)) := by
  unfold concludeLinking
  split
  · next heq => cases heq
  · exact adding_call fun _ _ => adding_raise (refuses_apiError (by simp))
  · next heq =>
    cases heq
    exact adding_raise (he.mono (by simp))

/-- From the key that was added to the answer. -/
theorem adding_added {u p : String} {metadata : Metadata} {identity : Identity} {nonce : Json}
    {challenge : Challenge} {ask : Event Op Op.Ans} {failure success : String}
    (hsigned : SignedBy sdk job challenge p)
    (hasked : ∃ body, job.request.json = .ok body ∧ AsksFor body metadata.signer_type metadata.label) :
    Adding sdk job [took nonce challenge, ask, ⟨.mapping (.add_identity u p metadata), .ok identity⟩]
      (concludeLinking job.request failure success (added sdk) (.ok u)) := by
  refine adding_call fun _ _ => adding_call fun found hfound => ?_
  cases found with
  | error e => exact adding_raise ((rely_mapping_error hfound).mono (by simp))
  | ok found =>
    cases found with
    | none =>
      apply adding_raise
      intro status_code message h
      cases h
    | some found =>
      show Adding sdk job _ ((_identity_json sdk found).bind _)
      apply adding_checks (identity_json_returns sdk found).self (by simp)
      intro value hvalue
      exact ⟨⟨u, p, metadata, identity, found, ⟨nonce, challenge, ask, _, hsigned, rfl⟩, hasked, value,
        hvalue.1, rfl⟩⟩

/-- `confirm_and_add` with a challenge, and what follows. -/
theorem adding_confirm {input : LinkInput} {nonce : Json} {challenge : Challenge}
    (hevent : eventOf job.request = some input.event)
    (hasked : ∃ body, job.request.json = .ok body ∧
      ∀ l, input.label = l.map .text → AsksFor body input.signer_type l) :
    Adding sdk job [took nonce challenge] ((Linking.confirm_and_link sdk false input.cookie_header
      (hostOf job.request) (some challenge) (Json.dumps (.obj input.event))
      job.settings.portal_api_base_url job.settings.clock_skew_seconds input.signer_type
      input.label).attempt.bind
        (concludeLinking job.request "identity add" "identity added" (added sdk))) := by
  have herr : ∀ h e, Refuses [] e → Adding sdk job h (concludeLinking job.request "identity add"
      "identity added" (added sdk) (.error e)) := fun _ _ => adding_error
  simp only [Linking.confirm_and_link, Linking.currentUser, get_authenticated_username,
    get_authenticated_session, Prog.bind_eq, call_bind, attempt_call]
  split
  · exact herr _ (.linkingError _) linkingError_refuses
  · apply adding_call
    intro reply _
    cases hs : readSession reply with
    | error e =>
      simp only [hs, ofExcept_error, raise_bind, attempt_raise, ret_bind]
      have he := readSession_error hs
      cases e with
      | portalAuthError e => exact herr _ (.linkingError _) linkingError_refuses
      | _ => exact herr _ _ he
    | ok session =>
      simp only [hs, ofExcept_ok, ret_bind, attempt_ret, Prog.pure_eq]
      split
      · exact herr _ (.linkingError _) linkingError_refuses
      · next e _ hverify => exact herr _ e (verify_refuses hverify)
      · next pubkey hverify =>
        obtain ⟨body, hbody, hasks⟩ := hasked
        rcases Handler.rowTexts_cases false session.username pubkey input.label with
          ⟨u, l, -, hl, hret⟩ | ⟨-, text, hcall⟩
        · rw [Linking.recordTexts, hret]
          apply adding_call
          intro outcome houtcome
          cases outcome with
          | ok identity =>
            exact adding_added (signedBy_of_verify hevent hverify) ⟨body, hbody, hasks l hl⟩
          | error e =>
            have he := rely_mapping_error houtcome
            cases e with
            | pubkeyAlreadyLinked e => exact herr _ (.linkingError _) linkingError_refuses
            | _ => exact herr _ _ he
        · rw [Linking.recordTexts, hcall]
          apply adding_call
          intro outcome houtcome
          cases outcome with
          | ok never => exact never.elim
          | error e =>
            have he := rely_mapping_error houtcome
            cases e with
            | pubkeyAlreadyLinked e => exact herr _ (.linkingError _) linkingError_refuses
            | _ => exact herr _ _ he

theorem add_ends (sdk : NostrSdk) (job : Job) :
    Adding sdk job [] (add_identity_endpoint sdk job.settings job.request) := by
  have herr : ∀ h e, Refuses [] e → Adding sdk job h (concludeLinking job.request "identity add"
      "identity added" (added sdk) (.error e)) := fun _ _ => adding_error
  rw [add_identity_endpoint, redeemLink_stages]
  apply adding_checks ((linkChecks_returns job.settings job.request).mono (fun _ h => h)
    fun _ => CheckFails.refuses) (by simp)
  rintro input ⟨hevent, -, body, hbody, hmetadata⟩
  unfold redeem consumeNamed
  split
  · next nonce hnonce =>
    split
    · apply adding_call
      intro taken htaken
      cases taken with
      | error e =>
        have he : Refuses [] e := htaken
        exact adding_raise (he.mono (by simp))
      | ok challenge =>
        cases challenge with
        | none => exact herr _ (.linkingError _) linkingError_refuses
        | some challenge => 
          exact adding_confirm hevent ⟨body, hbody, fun l => asksFor_of_metadata hmetadata⟩
    · exact herr _ (.linkingError _) linkingError_refuses
  · exact herr _ (.linkingError _) linkingError_refuses

end Adding

/-! ## What the response shows -/

/-- The `identity` of the response is this row: its id, pubkey, signer type and label. -/
def Reports (response : Response) (r : IdentityRow) : Prop :=
  ∃ fields identity, response.content = .json (.obj fields) ∧
    Json.lookup fields "identity" = some (.obj identity) ∧
    Json.lookup identity "id" = some (.int r.identity_id) ∧
    Json.lookup identity "pubkey" = some (.str r.pubkey) ∧
    Json.lookup identity "signer_type" = some (.str r.signer_type) ∧
    Json.lookup identity "label" = some (optional (fun label : String => .str label) r.label)

theorem reports_iff {sdk : NostrSdk} {u : String} {s r : IdentityRow} {value : Json}
    (h : _identity_json sdk (_row_to_identity s) = .ret value) :
    Reports (respond [("ok", .bool true), ("username", .str u), ("identity", value)]) r ↔
      s.identity_id = r.identity_id ∧ s.pubkey = r.pubkey ∧ s.signer_type = r.signer_type ∧
        s.label = r.label := by
  unfold _identity_json at h
  split at h
  · cases h
  · next npub hnpub =>
    cases h
    constructor
    · rintro ⟨fields, identity, hcontent, hidentity, hid, hpubkey, hsigner, hlabel⟩
      cases hcontent
      cases hidentity
      refine ⟨Json.int.inj (Option.some.inj hid), PyStr.text.inj (Json.str.inj (Option.some.inj hpubkey)),
        PyStr.text.inj (Json.str.inj (Option.some.inj hsigner)), ?_⟩
      have hshown : Server.optional (fun label : String => Json.str label) s.label =
          Server.optional (fun label : String => Json.str label) r.label :=
        Option.some.inj hlabel
      revert hshown
      cases s.label <;> cases r.label <;> simp [Server.optional]
    · rintro ⟨hid, hpubkey, hsigner, hlabel⟩
      refine ⟨_, _, rfl, rfl, ?_, ?_, ?_, ?_⟩
      · exact congrArg (fun n => some (Json.int n)) hid
      · exact congrArg (fun text : String => some (Json.str text)) hpubkey
      · exact congrArg (fun text : String => some (Json.str text)) hsigner
      · exact congrArg (fun label => some (Server.optional (fun label : String => Json.str label) label)) hlabel

/-! ## The tables at the two calls -/

/-- The row of `r` comes first among the rows of its account, in the order of `get_by_username`. -/
def Foremost (db : MappingDb) (r : IdentityRow) : Prop :=
  ∃ row ∈ db, row.ynh_username = r.ynh_username ∧ (row.identity_id = r.identity_id ∧
    row.pubkey = r.pubkey ∧ row.signer_type = r.signer_type ∧ row.label = r.label) ∧
    ∀ other ∈ db, other.ynh_username = r.ynh_username → activeFirst row other

/-- No other row of the account is enabled and later than `r`. -/
def Latest (db : MappingDb) (r : IdentityRow) : Prop :=
  ∀ other ∈ db, other.ynh_username = r.ynh_username →
    other.enabled < 1 ∨ (other.enabled = 1 ∧ other.created_at ≤ r.created_at)

/-- The first row of the account is `r` just where `r` comes first. -/
theorem head_iff {db : MappingDb} {r s : IdentityRow}
    (hs : ((db.identities.rows.filter (owned r.ynh_username)).insertionSort activeFirst).head? = some s) :
    (s.identity_id = r.identity_id ∧ s.pubkey = r.pubkey ∧ s.signer_type = r.signer_type ∧
      s.label = r.label) ↔ Foremost db r := by
  obtain ⟨hmem, hfirst⟩ := OrderBy.first_of_head? activeFirst hs
  obtain ⟨hmem, hown⟩ := List.mem_filter.mp hmem
  have howned : s.ynh_username = r.ynh_username := by simpa [owned] using hown
  constructor
  · intro hsame
    refine ⟨s, hmem, howned, hsame, ?_⟩
    intro other hother haccount
    exact hfirst other (List.mem_filter.mpr ⟨hother, by simpa [owned] using haccount⟩)
  · rintro ⟨row, hrow, haccount, hsame, hrowFirst⟩
    have hrs : activeFirst row s := hrowFirst s hmem howned
    have hsr : activeFirst s row :=
      hfirst row (List.mem_filter.mpr ⟨hrow, by simpa [owned] using haccount⟩)
    have hid : row.identity_id = s.identity_id := by
      simp only [activeFirst, newer] at hrs hsr
      omega
    obtain rfl := Serial.eq_of_id hrow hmem hid
    exact hsame

/-- What `add_identity` inserted. -/
theorem inserted {u p : String} {metadata : Metadata} {t : Nat → Int} {db : MappingDb}
    {identity : Identity} (h : ((add_identity u p metadata).run t db none).1 = .ok identity) :
    (∀ r ∈ db, r.pubkey ≠ p) ∧ ∀ r, r ∈ ((add_identity u p metadata).run t db none).2 ↔
      r ∈ db ∨ r = newRow u p (t 0) metadata (db.identities.seq + 1) := by
  rw [run_add_identity] at h ⊢
  cases hcheck : checkAny u (ownerOf p db) with
  | error e =>
    rw [hcheck] at h
    cases h
  | ok _ =>
    cases hins : insertNew u p (t 0) metadata db with
    | error e =>
      rw [hcheck, hins] at h
      cases h
    | ok done => exact insertNew_ok hins

/-- Right after the insertion the new row comes first just where no other is later. -/
theorem foremost_inserted {u p : String} {metadata : Metadata} {t : Int} {before after : MappingDb}
    (hafter : ∀ r, r ∈ after ↔ r ∈ before ∨ r = newRow u p t metadata (before.identities.seq + 1)) :
    Foremost after (newRow u p t metadata (before.identities.seq + 1)) ↔
      Latest before (newRow u p t metadata (before.identities.seq + 1)) := by
  have hold : ∀ r ∈ before, r.identity_id < before.identities.seq + 1 := by
    intro r hr
    have := before.identities.bounded r hr
    omega
  constructor
  · rintro ⟨row, hrow, -, ⟨hid, -⟩, hfirst⟩ other hother haccount
    rcases (hafter row).mp hrow with hbefore | rfl
    · have hlt := hold row hbefore
      simp only [newRow] at hid
      omega
    · have hother' := hfirst other ((hafter other).mpr (Or.inl hother)) haccount
      simp only [activeFirst, newer, newRow] at hother' ⊢
      omega
  · intro hlatest
    refine ⟨_, (hafter _).mpr (Or.inr rfl), rfl, ⟨rfl, rfl, rfl, rfl⟩, ?_⟩
    intro other hother haccount
    rcases (hafter other).mp hother with hbefore | rfl
    · have hlt := hold other hbefore
      have hlate := hlatest other hbefore haccount
      simp only [activeFirst, newer, newRow] at hlate ⊢
      omega
    · exact Or.inr ⟨rfl, Or.inr ⟨rfl, Int.le_refl _⟩⟩

/-! ## Runs -/

abbrev SystemHistory := History (Op ⊕ CliOp) (Sum.elim Op.Ans CliOp.Ans)

/-- How a job of the system ends: a request that `/identities/link` answered with 200 had added a key. -/
def JobEnds (sdk : NostrSdk) : Job ⊕ Command → SystemHistory → Except Exn (Response ⊕ Int) → Prop
  | .inl job, h', outcome => endpointOf job.request = some .add_identity_endpoint → ∀ response,
      outcome = .ok (.inl response) → response.status_code = 200 → ∃ h u p metadata identity found,
        h' = h.map inlEvent ∧ AddedBy sdk job h response u p metadata identity found
  | .inr _, _, _ => True

/-- A response with status 200 tells of an added key. -/
def Tells (sdk : NostrSdk) (job : Job) (h : Trace) (outcome : Except Exn Response) : Prop :=
  ∀ response, outcome = .ok response → response.status_code = 200 →
    ∃ u p metadata identity found, AddedBy sdk job h response u p metadata identity found

theorem Adding.tells {sdk : NostrSdk} {job : Job} {h : Trace} {p : Handler Response}
    (hp : Adding sdk job h p) :
    p.wp Rely (fun _ _ => True) (fun h x => Tells sdk job h (.ok (answer x))) h := by
  refine wp_mono (fun _ _ h => h) (fun h outcome hends => ?_) _ hp.wp
  rintro response ⟨⟩ h200
  cases outcome with
  | ok response => exact hends
  | error e =>
    cases e with
    | apiError s m =>
      have hcode := hends s m rfl
      obtain rfl : s = 200 := h200
      simp at hcode
    | _ => cases h200

theorem handle_tells {sdk : NostrSdk} {job : Job} {endpoint : Endpoint}
    (hroute : endpointOf job.request = some endpoint)
    (hends : Adding sdk job [] (endpoint.handler sdk job.settings job.request)) :
    (handle sdk job).wp Rely (fun _ _ => True) (Tells sdk job) [] := handle_wp hroute hends.tells

theorem job_wp (sdk : NostrSdk) (job : Job ⊕ Command) : ((system sdk).program job).wp
    (onLeft Rely) (fun _ _ => True) (JobEnds sdk job) [] := by
  cases job with
  | inr command => exact (within_any _).wp
  | inl job =>
    by_cases hroute : endpointOf job.request = some .add_identity_endpoint
    · refine wp_mono (fun _ _ h => h) ?_ _ (wp_inl (handle_tells hroute (add_ends sdk job)))
      rintro h' x ⟨h, outcome, rfl, rfl, hends⟩ - response hresponse h200
      cases outcome with
      | error e => cases hresponse
      | ok response' =>
        obtain rfl : response' = response := Sum.inl.inj (Except.ok.inj hresponse)
        obtain ⟨u, p, metadata, identity, found, hadded⟩ := hends response' rfl h200
        exact ⟨h, u, p, metadata, identity, found, rfl, hadded⟩
    · exact wp_mono (fun _ _ h => h) (fun _ _ _ hadd => absurd hadd hroute) _ (within_any _).wp

theorem rely_system (sdk : NostrSdk) (o : Op ⊕ CliOp) (inp : Oracle) (w : World) :
    onLeft Rely (⟨o, ((system sdk).exec o inp w).1⟩ : Event (Op ⊕ CliOp) (Sum.elim Op.Ans CliOp.Ans)) := by
  cases o with
  | inl o => exact rely_exec o inp w
  | inr o => trivial

/-- The row that a request inserted: its key signed the event of the request, its signer type and
label are those of the body. -/
structure CreatedBy (sdk : NostrSdk) (job : Job) (e : SystemEntry) (r : IdentityRow) : Prop where
  op : ∃ metadata, e.op = .inl (.mapping (.add_identity r.ynh_username r.pubkey metadata))
  fresh : r ∉ e.before.mappings
  stored : ∀ row, row ∈ e.after.mappings ↔ row ∈ e.before.mappings ∨ row = r
  signed : ∃ challenge, SignedBy sdk job challenge r.pubkey
  asked : ∃ body, job.request.json = .ok body ∧ AsksFor body r.signer_type r.label

variable {sdk : NostrSdk} {w : World} {c : SystemRun}

/-- What an answer 200 stands for: the row that was inserted, and the row that was read. -/
theorem created_and_read (hc : Reachable (system sdk) w c) {i : Nat} {job : Job} {response : Response}
    (hjob : c.job i = some (.inl job)) (hroute : endpointOf job.request = some .add_identity_endpoint)
    (hrun : c.running i = some (.ret (.inl response))) (h200 : response.status_code = 200) :
    ∃ (m k : Nat) (e read : SystemEntry) (r s : IdentityRow), m < k ∧ c.log[m]? = some e ∧ e.who = i ∧
      CreatedBy sdk job e r ∧ (Foremost e.after.mappings r ↔ Latest e.before.mappings r) ∧
      c.log[k]? = some read ∧ read.who = i ∧
      read.op = .inl (.mapping (.get_by_username r.ynh_username)) ∧
      ((read.before.mappings.identities.rows.filter (owned r.ynh_username)).insertionSort
        activeFirst).head? = some s ∧
      (Reports response r ↔ s.identity_id = r.identity_id ∧ s.pubkey = r.pubkey ∧
        s.signer_type = r.signer_type ∧ s.label = r.label) := by
  have hends : JobEnds sdk (.inl job) (calls i c.log) (.ok (.inl response)) :=
    (hc.guarded (rely_system sdk) (job_wp sdk)).rest i (.inl job) _ hjob hrun
  obtain ⟨h, u, p, metadata, identity, found, hcalls, hadded⟩ := hends hroute response rfl h200
  obtain ⟨⟨nonce, challenge, ask, message, hsigned, rfl⟩, hasked, value, hvalue, rfl⟩ := hadded
  obtain ⟨k, read, hk, hreader, hread, hbefore⟩ := exists_of_calls_append
    (h := [inlEvent (took nonce challenge), inlEvent ask,
      inlEvent ⟨.mapping (.add_identity u p metadata), .ok identity⟩,
      inlEvent ⟨.log .info message, ()⟩]) hcalls
  have hmem : inlEvent (⟨.mapping (.add_identity u p metadata), .ok identity⟩ : Event Op Op.Ans) ∈
      calls i (c.log.take k) := by
    rw [hbefore]
    simp
  obtain ⟨m, e, hmk, hm, hwho, hevent⟩ := exists_of_mem_calls_take hmem
  have hinsert : NostrAuth.exec (.mapping (.add_identity u p metadata)) e.input e.before =
      (.ok identity, e.after) := hc.exec_of_event hm hevent
  have hselect : NostrAuth.exec (.mapping (.get_by_username u)) read.input read.before =
      (.ok (some found), read.after) := hc.exec_of_event hk hread
  obtain ⟨hfree, hstored⟩ := inserted (congrArg Prod.fst hinsert)
  have hafter : e.after.mappings =
      ((add_identity u p metadata).run e.input.clock e.before.mappings none).2 :=
    (congrArg (fun x => x.2.mappings) hinsert).symm
  rw [← hafter] at hstored
  have hfound : ((get_by_username u).run read.input.clock read.before.mappings none).1 =
      .ok (some found) := congrArg Prod.fst hselect
  rw [run_get_by_username, Except.ok.injEq, Option.map_eq_some_iff] at hfound
  obtain ⟨s, hs, rfl⟩ := hfound
  refine ⟨m, k, e, read, newRow u p (e.input.clock 0) metadata (e.before.mappings.identities.seq + 1), s,
    hmk, hm, hwho, ⟨⟨metadata, congrArg Event.op hevent⟩, fun hold => hfree _ hold rfl, hstored,
    ⟨challenge, hsigned⟩, hasked⟩, foremost_inserted hstored, hk, hreader, congrArg Event.op hread, hs,
    reports_iff hvalue⟩

/-- **The add endpoint** reports the row that it inserted exactly when that row comes first among the
rows of the account at the moment of the second query; where nothing happened in between, when no
other row of the account is later. -/
theorem add_reports_iff (sdk : NostrSdk) (w : World) (c : SystemRun) (hc : Reachable (system sdk) w c)
    (i : Nat) (job : Job) (response : Response) (hjob : c.job i = some (.inl job))
    (hroute : endpointOf job.request = some .add_identity_endpoint)
    (hrun : c.running i = some (.ret (.inl response))) (h200 : response.status_code = 200) :
    ∃ (m k : Nat) (e read : SystemEntry) (r : IdentityRow), m < k ∧ c.log[m]? = some e ∧ e.who = i ∧
      CreatedBy sdk job e r ∧ c.log[k]? = some read ∧ read.who = i ∧
      read.op = .inl (.mapping (.get_by_username r.ynh_username)) ∧
      (Reports response r ↔ Foremost read.before.mappings r) ∧
      (read.before.mappings = e.after.mappings →
        (Reports response r ↔ Latest e.before.mappings r)) := by
  obtain ⟨m, k, e, read, r, s, hmk, hm, hwho, hcreated, hlatest, hk, hreader, hop, hs, hreports⟩ :=
    created_and_read hc hjob hroute hrun h200
  have hforemost := hreports.trans (head_iff hs)
  refine ⟨m, k, e, read, r, hmk, hm, hwho, hcreated, hk, hreader, hop, hforemost, fun hsame => ?_⟩
  rw [hsame] at hforemost
  exact hforemost.trans hlatest

/-! ## A clock that was put back -/

/-- The SDK on the two keys of `alice`. -/
def deviceSdk : NostrSdk :=
  { keySdk with
    to_hex := fun text => if text = laptopKey then .ok text else keySdk.to_hex text
    to_bech32 := fun pubkey =>
      if pubkey = laptopKey then .ok "npub1kjf9f0xrfv8vgfgd6d55vkxlyu2ef50eh5w2nhud9t3ldrj8fapsu67322"
      else keySdk.to_bech32 pubkey }

/-- The other key is linked at the time `t`; then `alice` adds her key on her page. -/
def addedAfter (t : Int) : SystemRun :=
  (system deviceSdk).after ((system deviceSdk).after ((system deviceSdk).after (Config.init noIdentities) 0
    (.inr (.link "alice" laptopKey true none none)) fun n => { sampleInput n with clock := fun _ => t }) 1
    (.inl ⟨.default, linkChallengeRequest⟩) sampleInput) 2 (.inl Relinking.addAgain) sampleInput

theorem addedAfter_reachable (t : Int) : Reachable (system deviceSdk) noIdentities (addedAfter t) :=
  ((Reachable.init.after rfl _ _).after rfl _ _).after rfl _ _

/-- The pubkey that a response reports. -/
def reportedKey (response : Response) : Option String :=
  match response.content with
  | .json (.obj fields) =>
    match Json.lookup fields "identity" with
    | some (.obj identity) =>
      match Json.lookup identity "pubkey" with
      | some (.str (.text pubkey)) => some pubkey
      | _ => none
    | _ => none
  | _ => none

theorem Reports.key {response : Response} {r : IdentityRow} (h : Reports response r) :
    reportedKey response = some r.pubkey := by
  obtain ⟨fields, identity, hcontent, hidentity, -, hpubkey, -⟩ := h
  simp only [reportedKey, hcontent, hidentity, hpubkey]

/-- The status code and the reported pubkey of the answer to job `i`. -/
def answered (c : SystemRun) (i : Nat) : Option (Nat × Option String) :=
  match c.running i with
  | some (.ret (.inl response)) => some (response.status_code, reportedKey response)
  | _ => none

theorem response_of_answered {c : SystemRun} {i s : Nat} {key : Option String}
    (h : answered c i = some (s, key)) : ∃ response, c.running i = some (.ret (.inl response)) ∧
      response.status_code = s ∧ reportedKey response = key := by
  unfold answered at h
  split at h
  · next response hrun =>
    cases h
    exact ⟨response, hrun, rfl, rfl⟩
  · cases h

/-- The only event that this SDK reads is the one that her key signed. -/
theorem signedBy_alice {job : Job} {challenge : Challenge} {pubkey : String}
    (h : SignedBy deviceSdk job challenge pubkey) : pubkey = aliceKey := by
  obtain ⟨fields, event, -, hattests, rfl⟩ := h
  obtain rfl : sampleEvent "yunohost-link" = event := Except.ok.inj hattests.parsed
  rfl

theorem addAgain_route : endpointOf Relinking.addAgain.request = some .add_identity_endpoint := by
  decide +kernel

/-- The clock was put back by 100 seconds: the answer reports the key that was there before. -/
theorem older_key_reported : ¬∀ (sdk : NostrSdk) (w : World) (c : SystemRun), Reachable (system sdk) w c →
    ∀ (i : Nat) (job : Job) (response : Response), c.job i = some (.inl job) →
      endpointOf job.request = some .add_identity_endpoint →
      c.running i = some (.ret (.inl response)) → response.status_code = 200 →
      ∃ e ∈ c.log, ∃ r, e.who = i ∧ CreatedBy sdk job e r ∧ Reports response r := by
  intro h
  have hanswered : answered (addedAfter 1767225700) 2 = some (200, some laptopKey) := by decide +kernel
  obtain ⟨response, hrun, h200, hkey⟩ := response_of_answered hanswered
  obtain ⟨e, -, r, -, hcreated, hreports⟩ := h deviceSdk noIdentities (addedAfter 1767225700)
    (addedAfter_reachable _) 2 Relinking.addAgain response rfl addAgain_route hrun h200
  obtain ⟨challenge, hsigned⟩ := hcreated.signed
  have hsame : some aliceKey = some laptopKey := by
    rw [← hkey, hreports.key, signedBy_alice hsigned]
  exact absurd hsame (by decide)

/-- Where the other key is older, the answer reports hers. -/
theorem new_key_reported : ∃ response r, (addedAfter 1767225500).running 2 = some (.ret (.inl response)) ∧
    r.pubkey = aliceKey ∧ ∃ read ∈ (addedAfter 1767225500).log,
      (Reports response r ↔ Foremost read.before.mappings r) := by
  have hanswered : answered (addedAfter 1767225500) 2 = some (200, some aliceKey) := by decide +kernel
  obtain ⟨response, hrun, h200, -⟩ := response_of_answered hanswered
  obtain ⟨m, k, e, read, r, -, -, -, hcreated, hk, -, -, hreports, -⟩ := add_reports_iff deviceSdk
    noIdentities (addedAfter 1767225500) (addedAfter_reachable _) 2 Relinking.addAgain response rfl
    addAgain_route hrun h200
  obtain ⟨challenge, hsigned⟩ := hcreated.signed
  exact ⟨response, r, hrun, signedBy_alice hsigned, read, List.mem_of_getElem? hk, hreports⟩

end NostrAuth.AddedIdentity
