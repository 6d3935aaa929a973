import NostrAuth.LoginServed

/-! Logins that succeed: a challenge stays in the store until it is presented or expires, and
the scanner of the raw event and that of the parsed event read the same tags. -/

set_option autoImplicit false

namespace NostrAuth

/-! ## Tags -/

namespace NostrVerify

/-- The first tag of that name with a value carries `value`. -/
def FirstTag (tags : List (List String)) (name value : String) : Prop :=
  ∃ before extra after, tags = before ++ (name :: value :: extra) :: after ∧
    ∀ tag ∈ before, ∀ v more, tag ≠ name :: v :: more

/-- The tags as they stand in a raw event. -/
def rawTags (tags : List (List String)) : Json := .arr (tags.map fun tag => .arr (tag.map .str))

theorem tag_value_first {tags : List (List String)} {name value : String}
    (h : FirstTag tags name value) : _tag_value tags name = some value := by
  obtain ⟨before, extra, after, rfl, hbefore⟩ := h
  unfold _tag_value
  induction before with
  | nil => simp
  | cons tag before ih =>
    have hrest := ih fun tag' htag' => hbefore tag' (List.mem_cons_of_mem _ htag')
    rw [List.cons_append, List.findSome?_cons]
    split
    · next v hv =>
      split at hv
      · next n w more =>
        split at hv
        · next hn =>
          exact absurd (hn ▸ rfl) (hbefore _ (List.mem_cons_self ..) w more)
        · cases hv
      · cases hv
    · exact hrest

/-- The two scanners agree on every list of tags. -/
theorem extract_first {event : List (PyStr × Json)} {tags : List (List String)}
    {name value : String} (htags : Json.lookup event "tags" = some (rawTags tags))
    (h : FirstTag tags name value) :
    extract_tag_from_raw_event event name = some (.str value) := by
  obtain ⟨before, extra, after, rfl, hbefore⟩ := h
  simp only [extract_tag_from_raw_event, htags, rawTags]
  clear htags
  induction before with
  | nil => simp
  | cons tag before ih =>
    have hrest := ih fun tag' htag' => hbefore tag' (List.mem_cons_of_mem _ htag')
    rw [List.cons_append, List.map_cons, List.findSome?_cons]
    split
    · next v hv =>
      split at hv
      · next n w more heq =>
        split at hv
        · next hn =>
          exfalso
          subst hn
          rcases tag with _ | ⟨a, _ | ⟨b, rest⟩⟩
          · simp at heq
          · simp at heq
          · simp only [Json.arr.injEq] at heq
            obtain ⟨rfl, _⟩ := heq
            exact hbefore _ (List.mem_cons_self ..) b rest rfl
        · cases hv
      · cases hv
    · exact hrest

end NostrVerify

namespace Server

open Interaction NostrVerify

/-! ## A challenge that is kept -/

theorem issue_pending {domain action : String} {inp : Oracle} {w : World} {challenge : Challenge}
    (h : (exec (.issue domain action) inp w).1 = .ok challenge) :
    Pending (exec (.issue domain action) inp w).2 challenge := by
  simp only [exec, ChallengeStore.run_issue, Pending] at h ⊢
  split at h
  · cases h
  · next table' cursor hins =>
    cases h
    unfold ChallengeTable.insertNew at hins
    split at hins
    · next table'' hi =>
      cases hins
      exact (Table.mem_of_insert hi).mpr (Or.inr rfl)
    · cases hins

/-- A pending challenge stays pending through every call that neither presents it nor purges
at a reading past its expiry. -/
theorem pending_kept {o : Op} {inp : Oracle} {w : World} {challenge : Challenge}
    (hpending : Pending w challenge)
    (hpresent : ∀ nonce, o = .consume nonce → bindText nonce ≠ .ok (some challenge.nonce))
    (hpurge : ∀ domain action, o = .issue domain action → inp.clock 1 ≤ challenge.expires_at) :
    Pending (exec o inp w).2 challenge := by
  cases o with
  | issue domain action =>
    have hlive := hpurge domain action rfl
    simp only [exec, ChallengeStore.run_issue, Pending]
    split
    · exact hpending
    · next table' cursor hins =>
      unfold ChallengeTable.insertNew at hins
      split at hins
      · next table'' hi =>
        cases hins
        refine (Table.mem_of_insert hi).mpr (Or.inl ?_)
        exact ChallengeTable.mem_deleteExpired.mpr ⟨hpending, hlive⟩
      · cases hins
  | consume nonce =>
    have hother := hpresent nonce rfl
    simp only [exec, ChallengeStore.run_consume, Pending]
    cases hkey : bindText nonce with
    | error e => exact hpending
    | ok key =>
      simp only [ChallengeStore.consumed]
      split
      · exact hpending
      · refine ChallengeTable.mem_markConsumed.mpr (Or.inl ⟨hpending, ?_⟩)
        cases hp : ChallengeTable.pending key ⟨challenge, none⟩ with
        | false => rfl
        | true =>
          rw [(ChallengeTable.pending_iff.mp hp).1] at hkey
          exact absurd hkey hother
  | _ => exact hpending

/-- No call after `j` presented the challenge. -/
def Unpresented (log : Log) (j : Nat) (challenge : Challenge) : Prop :=
  ∀ m e nonce, j < m → log[m]? = some e → e.op = .consume nonce →
    bindText nonce ≠ .ok (some challenge.nonce)

/-- No call purged expired challenges at a later reading than `now`: the clock has not gone
back since. -/
def PurgedBy (log : Log) (now : Int) : Prop :=
  ∀ e ∈ log, ∀ domain action, e.op = .issue domain action → e.input.clock 1 ≤ now

theorem Unpresented.of_append {log : Log} {e : LogEntry} {j : Nat} {challenge : Challenge}
    (h : Unpresented (log ++ [e]) j challenge) : Unpresented log j challenge := by
  intro m e' nonce hm he
  have hlt : m < log.length := (List.getElem?_eq_some_iff.mp he).1
  exact h m e' nonce hm (by rw [List.getElem?_append_left hlt, he])

/-- **The store keeps an issued challenge** until it is presented or has expired. -/
theorem issued_kept {sdk : NostrSdk} {w : World} {c : Run} (hc : Reachable (service sdk) w c)
    {j : Nat} {challenge : Challenge} (hissued : Issued c.log j challenge)
    (hnew : Unpresented c.log j challenge) (hclock : PurgedBy c.log challenge.expires_at) :
    Pending c.world challenge := by
  refine hc.logged (P := fun v log => ∀ j challenge, Issued log j challenge →
      Unpresented log j challenge → PurgedBy log challenge.expires_at → Pending v challenge)
    (fun j challenge h => by obtain ⟨e, _, _, he, _⟩ := h; cases he) ?_ (fun _ _ _ ih => ih)
    j challenge hissued hnew hclock
  intro i o inp v log ih j challenge hissued hnew hclock
  have hlast : (log ++ [(service sdk).entry i o inp v])[log.length]? =
      some ((service sdk).entry i o inp v) := by simp
  rcases issued_append hissued with hold | ⟨_, domain, action, hevent⟩
  · have hpending := ih j challenge hold hnew.of_append fun e he =>
      hclock e (List.mem_append_left _ he)
    refine pending_kept hpending (fun nonce ho => ?_) fun domain action ho => ?_
    · exact hnew _ _ nonce (issued_lt hold) hlast ho
    · exact hclock _ (List.mem_append_right _ (List.mem_singleton_self _)) domain action ho
  · injection hevent with hop hans
    have hop' : o = .issue domain action := hop
    subst hop'
    exact issue_pending (eq_of_heq hans)

/-! ## The login -/

/-- The event in the body of the request answers the challenge: `nostr_sdk` parses it with
its tags as they stand there, and everything a login checks of it holds. -/
structure Answers (sdk : NostrSdk) (job : Job) (challenge : Challenge) (tags : List (List String))
    (event : sdk.Event) : Prop where
  body : ∃ fields, eventOf job.request = some fields ∧
    Json.lookup fields "tags" = some (rawTags tags) ∧
    sdk.from_json (Json.dumps (.obj fields)) = .ok event
  preserved : sdk.tags event = tags
  verified : sdk.verify event = true
  kind : sdk.kind event = CHALLENGE_EVENT_KIND
  nonce : FirstTag tags "challenge" challenge.nonce
  domain : FirstTag tags "domain" challenge.domain
  action : FirstTag tags "action" challenge.action
  not_before : challenge.issued_at - job.settings.clock_skew_seconds ≤ sdk.created_at event
  not_after : (sdk.created_at event : Int) ≤ challenge.expires_at + job.settings.clock_skew_seconds

theorem presents_of_answers {sdk : NostrSdk} {job : Job} {challenge : Challenge}
    {tags : List (List String)} {event : sdk.Event} (h : Answers sdk job challenge tags event)
    (hnonce : challenge.nonce ≠ "") : Presents sdk job challenge (sdk.author event) := by
  obtain ⟨fields, hevent, htags, hparsed⟩ := h.body
  refine ⟨fields, .str challenge.nonce, hevent, extract_first htags h.nonce, ?_, rfl, ?_⟩
  · simp [Json.truthy, hnonce]
  · refine verify_eq_ok.mpr ⟨event, ⟨hparsed, h.verified, h.kind, ?_, ?_, ?_, h.not_before,
      h.not_after⟩, rfl⟩
    · rw [h.preserved]
      exact tag_value_first h.nonce
    · rw [h.preserved]
      exact tag_value_first h.domain
    · rw [h.preserved]
      exact tag_value_first h.action

/-- **A login that is due succeeds.** In every reachable state a login challenge that the run
issued, that nobody has presented since and that has not expired can be redeemed: the request
that answers it asks the helper for a session of the account whose enabled row has the
signer's pubkey. Nonces are never empty, and row ids are those that SQLite assigns. -/
theorem login_complete (sdk : NostrSdk) (w : World) (c : Run) (i j : Nat) (job : Job)
    (inp : Nat → Oracle) (challenge : Challenge) (tags : List (List String)) (event : sdk.Event)
    (row : IdentityRow) (hc : Reachable (service sdk) w c)
    (hroute : endpointOf job.request = some .authenticate_endpoint)
    (hmedia : mediaType job.request = "application/json")
    (hswitch : job.settings.allow_nostr_login = true) (hissued : Issued c.log j challenge)
    (hlogin : challenge.action = LOGIN_ACTION) (hnonce : challenge.nonce ≠ "")
    (hnew : Unpresented c.log j challenge) (hclock : PurgedBy c.log ((inp 0).clock 0))
    (hfresh : (inp 0).clock 0 ≤ challenge.expires_at)
    (hanswers : Answers sdk job challenge tags event) (hrow : row ∈ c.world.mappings)
    (hauthor : row.pubkey = sdk.author event) (hon : row.enabled = 1)
    (hfits : fitsInt64 row.identity_id = true) :
    ∃ e ∈ ((service sdk).after c i job inp).log, e.who = i ∧
      e.op = .mint row.ynh_username challenge.domain := by
  have hpending : Pending c.world challenge :=
    issued_kept hc hissued hnew fun e he domain action ho =>
      Int.le_trans (hclock e he domain action ho) hfresh
  have hpresents := presents_of_answers hanswers hnonce
  rw [← hauthor] at hpresents
  have hserved : Served sdk i job inp c.world challenge row := serve_inOrder hroute
    ⟨hmedia, hswitch, hpresents, hlogin, hpending, hfresh, hrow, hon, hfits⟩
  obtain ⟨e, he, hop⟩ := hserved.mints
  exact ⟨e, List.mem_append_right _ he, serve_who e he, hop⟩

/-! ## After other requests -/

/-- A second challenge is issued for the host, and a nonce that no challenge has is presented. -/
def busyRun : Run :=
  let issued := (service (sampleEvent "yunohost-login").sdk).after challengeIssued 1
    ⟨.default, challengeRequest⟩ fun n => { sampleInput n with nonce := "another nonce" }
  (service (sampleEvent "yunohost-login").sdk).after issued 2
    ⟨.default, { loginRequest "a.example" with
      json := .ok (.obj [("event", .obj [("tags", rawTags [["challenge", "no such nonce"]])])]) }⟩
    sampleInput

theorem busyRun_reachable :
    Reachable (service (sampleEvent "yunohost-login").sdk) aliceLinked busyRun :=
  (challengeIssued_reachable.after rfl _ _).after rfl _ _

def sampleChallenge : Challenge :=
  new_challenge sampleNonce "a.example" "yunohost-login" DEFAULT_TTL_SECONDS 1767225600

/-- The row of `alice`. -/
def aliceRow : IdentityRow :=
  MappingStore.newRow "alice" aliceKey 1767225000 ⟨"nip07", none, "admin"⟩ 1

/-- The nonces that the calls of a log presented, as they were bound. -/
def presented (log : Log) : List (Except Exn (Option String)) :=
  log.filterMap fun e => match e.op with
    | .consume nonce => some (bindText nonce)
    | _ => none

/-- The readings at which the calls of a log purged. -/
def purged (log : Log) : List Int :=
  log.filterMap fun e => match e.op with
    | .issue .. => some (e.input.clock 1)
    | _ => none

theorem unpresented_of_presented {log : Log} {challenge : Challenge} (j : Nat)
    (h : ∀ key ∈ presented log, key ≠ .ok (some challenge.nonce)) :
    Unpresented log j challenge := by
  intro m e nonce _ he hop
  exact h _ (List.mem_filterMap.mpr ⟨e, List.mem_of_getElem? he, by rw [hop]⟩)

theorem purgedBy_of_purged {log : Log} {now : Int} (h : ∀ t ∈ purged log, t ≤ now) :
    PurgedBy log now := by
  intro e he domain action hop
  exact h _ (List.mem_filterMap.mpr ⟨e, he, by rw [hop]⟩)

theorem busyRun_login : ∃ e ∈ ((service (sampleEvent "yunohost-login").sdk).after busyRun 3
      (loginJob "a.example") sampleInput).log,
    e.who = 3 ∧ e.op = .mint "alice" "a.example" := by
  have hpresented : presented busyRun.log = [.ok (some "no such nonce")] := by decide +kernel
  have hpurged : purged busyRun.log = [1767225600, 1767225600] := by decide +kernel
  refine login_complete (sampleEvent "yunohost-login").sdk aliceLinked busyRun 3 0
    (loginJob "a.example") sampleInput sampleChallenge (sampleEvent "yunohost-login").tags
    (sampleEvent "yunohost-login") aliceRow busyRun_reachable (by decide +kernel)
    (by decide +kernel) rfl ⟨_, "a.example", "yunohost-login", rfl, rfl⟩ rfl (by decide +kernel)
    (unpresented_of_presented 0 ?_) (purgedBy_of_purged ?_) (by decide +kernel) ?_ ?_ rfl rfl rfl
  · rw [hpresented]
    decide +kernel
  · rw [hpurged]
    decide +kernel
  · exact ⟨⟨loginEvent, rfl, rfl, rfl⟩, rfl, rfl, rfl, ⟨[], [], _, rfl, nofun⟩,
      ⟨[["challenge", sampleNonce]], [], _, rfl, by simp⟩,
      ⟨[["challenge", sampleNonce], ["domain", "a.example"]], [], _, rfl, by simp⟩,
      by decide +kernel, by decide +kernel⟩
  · show aliceRow ∈ busyRun.world.mappings.identities.rows
    decide +kernel

end Server

end NostrAuth
