import NostrAuth.HandlerSpecs

/-! Every endpoint, checked against `HandlerSpecs`: one lemma an endpoint, and from them
the same for whatever a request is routed to. -/

set_option autoImplicit false

namespace NostrAuth.Server

open Interaction Handler PortalClient Prog

variable {sdk : NostrSdk} {job : Job} {h : Trace}

/-! ## Endpoints that only read -/

theorem meets_page {endpoint : Endpoint} {name : String}
    (hok : Answered sdk job endpoint h
      ⟨200, .page name, [("Content-Security-Policy", CONTENT_SECURITY_POLICY)], none⟩) :
    Meets sdk job endpoint h (page name) := meets_ret hok

theorem static_asset_meets (filename : String) :
    Meets sdk job (.static_asset filename) h (static_asset filename) := by
  unfold static_asset
  split
  · exact meets_ret rfl
  · exact meets_refuse (by simp [Endpoint.refusals])

theorem identity_meets :
    Meets sdk job .identity_endpoint [] (identity_endpoint sdk job.settings job.request) := by
  refine meets_username (by simp [Endpoint.refusals]) fun reply session _ => ?_
  refine meets_silent (encoded_returns _) (by simp) fun username _ => ?_
  refine meets_mapping (.read _ _ _ rfl) fun identity => ?_
  split
  · exact meets_ret rfl
  · split
    · split
      · next e he => exact meets_raise ((hex_to_npub_error he).mono (by simp))
      · exact meets_ret rfl
    · exact meets_ret rfl

theorem identities_meets :
    Meets sdk job .identities_endpoint [] (identities_endpoint sdk job.settings job.request) := by
  refine meets_username (by simp [Endpoint.refusals]) fun reply session _ => ?_
  refine meets_silent (encoded_returns _) (by simp) fun username _ => ?_
  refine meets_mapping (.read _ _ _ rfl) fun identities => ?_
  exact meets_silent (identityList_returns sdk identities) (by simp) fun _ _ => meets_ret rfl

theorem admin_session_meets :
    Meets sdk job .admin_session_endpoint [] (admin_session_endpoint job.settings job.request) := by
  simp only [admin_session_endpoint, get_authenticated_session, Prog.bind_eq, call_bind,
    attempt_call]
  split
  · exact meets_ret rfl
  · refine meets_ask rfl (Or.inl rfl) fun reply => ?_
    cases hs : readSession reply with
    | ok session =>
      simp only [ofExcept_ok, attempt_ret, ret_bind]
      exact meets_silent (encoded_returns _) (by simp) fun _ _ => meets_ret rfl
    | error e =>
      have he := readSession_error hs
      simp only [ofExcept_error, attempt_raise, ret_bind]
      split
      · next heq => cases heq
      · exact meets_ret rfl
      · next heq =>
        cases heq
        exact meets_raise he

theorem admin_list_identities_meets : Meets sdk job .admin_list_identities_endpoint []
    (admin_list_identities_endpoint sdk job.settings job.request) := by
  refine meets_admin (by simp [Endpoint.refusals]) (by simp [Endpoint.refusals])
    fun reply session _ _ => ?_
  refine meets_mapping (.read _ _ _ rfl) fun identities => ?_
  exact meets_silent (identityList_returns sdk identities) (by simp) fun _ _ => meets_ret rfl

theorem nostr_json_meets :
    Meets sdk job .nostr_json_endpoint [] (nostr_json_endpoint job.request) := by
  unfold nostr_json_endpoint
  simp only
  split
  · exact meets_ret rfl
  · refine meets_mapping (.read _ _ _ rfl) fun identity => ?_
    repeat' split
    all_goals exact meets_ret rfl

theorem root_redirect_meets :
    Meets sdk job .root_redirect [] (root_redirect job.settings job.request) := by
  unfold root_redirect
  simp only [get_authenticated_username, get_authenticated_session, Prog.bind_eq, call_bind,
    attempt_call]
  split
  · exact meets_ret rfl
  · refine meets_ask rfl (Or.inl rfl) fun reply => ?_
    cases hs : readSession reply with
    | ok session => exact meets_ret rfl
    | error e =>
      have he := readSession_error hs
      simp only [ofExcept_error, raise_bind, attempt_raise, ret_bind]
      split
      · next heq => cases heq
      · exact meets_ret rfl
      · next heq =>
        cases heq
        exact meets_raise he

/-! ## Endpoints that change identities without a signature -/

theorem revoke_identity_meets (identity_id : String) :
    Meets sdk job (.revoke_identity_endpoint identity_id) []
      (revoke_identity_endpoint job.settings job.request identity_id) := by
  simp only [revoke_identity_endpoint, Prog.bind_eq]
  refine meets_username (by simp [Endpoint.refusals]) fun reply session hs => ?_
  refine meets_identityId (by simp [Endpoint.refusals]) fun id => ?_
  refine meets_ensure (by simp [Endpoint.refusals]) fun _ => ?_
  refine meets_silent (encodedAfter_returns id _) (by simp) fun username hu => ?_
  refine meets_mapping (.edit_own _ _ reply session rfl rfl hs ⟨username, hu, rfl⟩) fun revoked => ?_
  refine meets_ensure (by simp [Endpoint.refusals]) fun _ => ?_
  exact meets_log (meets_ret rfl)

theorem update_identity_meets (identity_id : String) :
    Meets sdk job (.update_identity_endpoint identity_id) []
      (update_identity_endpoint sdk job.settings job.request identity_id) := by
  simp only [update_identity_endpoint, Prog.bind_eq]
  apply meets_require_json (by simp [Endpoint.refusals])
  refine meets_silent (readJson_returns job.request) (by simp) fun body _ => ?_
  refine meets_silent (newLabel_returns body) (by simp [Endpoint.refusals]) fun label _ => ?_
  refine meets_username (by simp [Endpoint.refusals]) fun reply session hs => ?_
  refine meets_identityId (by simp [Endpoint.refusals]) fun id => ?_
  refine meets_ensure (by simp [Endpoint.refusals]) fun _ => ?_
  refine meets_silent (encodedLabel_returns label) (by simp) fun label _ => ?_
  refine meets_silent (encodedAfter_returns id _) (by simp) fun username hu => ?_
  refine meets_mapping (.edit_own _ _ reply session rfl rfl hs ⟨username, hu, rfl⟩) fun identity => ?_
  split
  · exact meets_refuse (by simp [Endpoint.refusals])
  · next identity =>
    apply meets_log
    exact meets_silent (identity_json_returns sdk identity) (by simp) fun _ _ => meets_ret rfl

theorem concludeLinking_error {endpoint : Endpoint} {failure success : String}
    {answer : String → Handler Response} (h401 : 401 ∈ endpoint.refusals) (h : Trace) (e : Exn)
    (he : Refuses [] e) :
    Meets sdk job endpoint h (concludeLinking job.request failure success answer (.error e)) := by
  unfold concludeLinking
  split
  · next heq => cases heq
  · exact meets_log (meets_refuse h401)
  · next heq =>
    cases heq
    exact meets_raise (he.mono (by simp))

theorem unlink_meets :
    Meets sdk job .unlink_endpoint [] (unlink_endpoint job.settings job.request) := by
  simp only [unlink_endpoint, Linking.confirm_and_unlink, Prog.bind_eq]
  refine meets_silent (requireCookie_returns job.request) (by simp [Endpoint.refusals])
    fun cookie hc => ?_
  have herr : ∀ (h : Trace) (e : Exn), Refuses [] e → Meets sdk job .unlink_endpoint h
      (concludeLinking job.request "identity unlink" "identity removed" linked (.error e)) :=
    concludeLinking_error (by simp [Endpoint.refusals])
  refine meets_currentUser hc (Or.inl rfl) (fun reply session hs => ?_) herr
  cases hu : session.username with
  | lone t => exact herr _ t.encodeError nofun
  | text username =>
    refine meets_call (.edit_own _ (.unlink username) reply session rfl rfl hs ⟨username, hu, rfl⟩)
      (fun _ => ?_) herr
    exact meets_log (meets_ret rfl)

/-! ## Administration -/

/-- What every request that changes the identities of an account as an administrator goes through. -/
theorem meets_adminTarget {endpoint : Endpoint} {f : Json → PyStr → Handler Response}
    (hcodes : [400, 401, 403, 415] ⊆ endpoint.refusals)
    (hf : ∀ reply session body username, readSession reply = .ok session → session.is_admin = true →
      Meets sdk job endpoint [asked job reply] (f body username)) :
    Meets sdk job endpoint [] ((_require_json job.request).bind fun _ =>
      (_authenticated_admin job.settings job.request).bind fun _ =>
        (readJson job.request).bind fun body => (_admin_target body).bind (f body)) := by
  apply meets_require_json (hcodes (by decide))
  refine meets_admin (hcodes (by decide)) (hcodes (by decide)) fun reply session hs hadmin => ?_
  refine meets_silent (readJson_returns job.request) (by simp) fun body _ => ?_
  refine meets_silent (admin_target_returns body) (by simpa using hcodes (by decide)) fun username _ => ?_
  exact hf reply session body username hs hadmin

theorem admin_revoke_identity_meets (identity_id : String) :
    Meets sdk job (.admin_revoke_identity_endpoint identity_id) []
      (admin_revoke_identity_endpoint job.settings job.request identity_id) := by
  simp only [admin_revoke_identity_endpoint, Prog.bind_eq]
  refine meets_adminTarget (by simp [Endpoint.refusals]) fun reply session body username hs hadmin => ?_
  refine meets_identityId (by simp [Endpoint.refusals]) fun id => ?_
  refine meets_silent (encodedAfter_returns id username) (by simp) fun username _ => ?_
  refine meets_mapping (.admin_edit _ _ reply session rfl rfl hs hadmin) fun revoked => ?_
  refine meets_ensure (by simp [Endpoint.refusals]) fun _ => ?_
  exact meets_log (meets_ret rfl)

theorem admin_rename_identity_meets (identity_id : String) :
    Meets sdk job (.admin_rename_identity_endpoint identity_id) []
      (admin_rename_identity_endpoint sdk job.settings job.request identity_id) := by
  simp only [admin_rename_identity_endpoint, Prog.bind_eq]
  refine meets_adminTarget (by simp [Endpoint.refusals]) fun reply session body username hs hadmin => ?_
  refine meets_silent (adminLabel_returns body) (by simp [Endpoint.refusals]) fun label _ => ?_
  refine meets_identityId (by simp [Endpoint.refusals]) fun id => ?_
  refine meets_silent (encoded_returns label) (by simp) fun label _ => ?_
  refine meets_silent (encodedAfter_returns id username) (by simp) fun username _ => ?_
  refine meets_mapping (.admin_edit _ _ reply session rfl rfl hs hadmin) fun identity => ?_
  split
  · exact meets_refuse (by simp [Endpoint.refusals])
  · next identity =>
    apply meets_log
    exact meets_silent (identity_json_returns sdk identity) (by simp) fun _ _ => meets_ret rfl

theorem admin_unlink_meets :
    Meets sdk job .admin_unlink_endpoint [] (admin_unlink_endpoint job.settings job.request) := by
  simp only [admin_unlink_endpoint, Prog.bind_eq]
  refine meets_adminTarget (by simp [Endpoint.refusals]) fun reply session body username hs hadmin => ?_
  refine meets_silent (encoded_returns username) (by simp) fun username _ => ?_
  refine meets_mapping (.admin_edit _ _ reply session rfl rfl hs hadmin) fun _ => ?_
  exact meets_log (meets_ret rfl)

/-- What `admin_add_identity_endpoint` records, and what it reports of it. -/
theorem adminRecordTexts_meets {reply : PortalReply} {session : AuthenticatedSession}
    {f : Except Exn (String × Option Identity) → Handler Response} {replace : Bool}
    {username : PyStr} {pubkey signer_type : String} {label : Option PyStr}
    (hs : readSession reply = .ok session) (hadmin : session.is_admin = true)
    (hok : ∀ h u identity, Meets sdk job .admin_add_identity_endpoint h (f (.ok (u, identity))))
    (herr : ∀ h e, Refuses [] e → Meets sdk job .admin_add_identity_endpoint h (f (.error e))) :
    Meets sdk job .admin_add_identity_endpoint [asked job reply]
      ((adminRecordTexts replace username pubkey signer_type label).attempt.bind f) := by
  refine meets_rowTexts (fun u l _ => ?_) herr
  cases replace with
  | true =>
    refine meets_call (.admin_record _ reply session u pubkey ⟨signer_type, l, "admin"⟩ (Or.inl rfl)
      rfl hs hadmin) (fun _ => ?_) herr
    exact meets_call (.read _ _ _ rfl) (fun identity => hok _ u identity) herr
  | false =>
    exact meets_call (.admin_record _ reply session u pubkey ⟨signer_type, l, "admin"⟩ (Or.inr rfl)
      rfl hs hadmin) (fun identity => hok _ u (some identity)) herr

theorem admin_add_identity_meets : Meets sdk job .admin_add_identity_endpoint []
    (admin_add_identity_endpoint sdk job.settings job.request) := by
  simp only [admin_add_identity_endpoint, Prog.bind_eq]
  refine meets_adminTarget (by simp [Endpoint.refusals]) fun reply session body username hs hadmin => ?_
  refine meets_silent (adminPubkey_returns body sdk) (by simp [Endpoint.refusals]) fun pubkey _ => ?_
  refine meets_silent (identity_metadata_returns body) (by simp [Endpoint.refusals])
    fun metadata _ => ?_
  refine meets_silent (getField_returns body _) (by simp) fun replace _ => ?_
  refine adminRecordTexts_meets hs hadmin (fun h username identity => ?_) fun h e he => ?_
  · apply meets_log
    exact meets_silent (identity_json?_returns sdk identity) (by simp) fun _ _ => meets_ret rfl
  · split
    · next heq => cases heq; exact meets_refuse (by simp [Endpoint.refusals])
    · next heq => cases heq; exact meets_raise (he.mono (by simp))
    · next heq => cases heq

/-! ## Challenges -/

/-- Issuing a challenge for the host of the request. -/
theorem issueChallenge_meets {endpoint : Endpoint} {action : String}
    (h400 : 400 ∈ endpoint.refusals)
    (hissue : ∀ domain, job.request.headers "host" = some domain → domain ≠ "" →
      Allowed sdk job endpoint [] (.issue domain action))
    (hok : ∀ h response, response.status_code = 200 → Answered sdk job endpoint h response) :
    Meets sdk job endpoint [] (issueChallenge job.request action) := by
  unfold issueChallenge
  simp only
  split
  · exact meets_refuse h400
  · next hne =>
    obtain ⟨hhost, hempty⟩ := orElse_ne rfl hne
    refine ⟨hissue _ hhost hempty, fun r hr => ?_⟩
    cases r with
    | error e =>
      have he : Refuses [] e := hr
      exact he.mono (by simp)
    | ok challenge => exact hok _ _ rfl

theorem challenge_meets :
    Meets sdk job .challenge_endpoint [] (challenge_endpoint job.settings job.request) := by
  simp only [challenge_endpoint, Prog.bind_eq]
  refine meets_ensure (by simp [Endpoint.refusals]) fun hknown => ?_
  refine meets_ensure (by simp [Endpoint.refusals]) fun hlogin => ?_
  refine issueChallenge_meets (by simp [Endpoint.refusals]) (fun domain hhost hne => ?_)
    fun _ _ hstatus => hstatus
  by_cases haction : (job.request.query_params "action").getD LOGIN_ACTION = LOGIN_ACTION
  · rw [haction] at hlogin ⊢
    refine .issue_login domain hhost hne ?_
    simpa using hlogin
  · have hlink : (job.request.query_params "action").getD LOGIN_ACTION = LINK_ACTION := by
      simpa [ALLOWED_ACTIONS, haction] using hknown
    cases hq : job.request.query_params "action" with
    | none => simp [hq] at haction
    | some action =>
      obtain rfl : action = LINK_ACTION := by simpa [hq] using hlink
      exact .issue_by_query domain hhost hne hq

theorem link_challenge_meets :
    Meets sdk job .link_challenge_endpoint [] (link_challenge_endpoint job.settings job.request) := by
  simp only [link_challenge_endpoint, Prog.bind_eq]
  refine meets_ensure (by simp [Endpoint.refusals]) fun hswitch => ?_
  exact issueChallenge_meets (by simp [Endpoint.refusals])
    (fun domain hhost hne => .issue_link domain hhost hne hswitch) fun _ _ hstatus => hstatus

/-! ## Redeeming a challenge -/

/-- A challenge is taken out of the store before anything else is asked or changed. -/
theorem meets_consumeNamed {endpoint : Endpoint} {event : List (PyStr × Json)}
    {f : Option Challenge → Handler Response}
    (hc : ∀ nonce, Allowed sdk job endpoint [] (.consume nonce))
    (hnone : ∀ h, Meets sdk job endpoint h (f none))
    (hsome : ∀ nonce challenge, Meets sdk job endpoint [took nonce challenge] (f (some challenge))) :
    Meets sdk job endpoint [] ((consumeNamed event).bind f) := by
  unfold consumeNamed
  split
  · next nonce _ =>
    split
    · refine ⟨hc nonce, fun r hr => ?_⟩
      cases r with
      | error e =>
        have he : Refuses [] e := hr
        exact he.mono (by simp)
      | ok challenge =>
        cases challenge with
        | none => exact (hnone _).wp
        | some challenge => exact (hsome nonce challenge).wp
    · exact hnone _
  · exact hnone _

theorem signedBy_of_verify {fields : List (PyStr × Json)} {challenge : Challenge} {pubkey : String}
    (hevent : eventOf job.request = some fields)
    (hv : Login.verifyAgainst sdk challenge (Json.dumps (.obj fields))
      job.settings.clock_skew_seconds = .ok pubkey) : SignedBy sdk job challenge pubkey := by
  obtain ⟨event, hattests, hauthor⟩ := NostrVerify.verify_eq_ok.mp hv
  exact ⟨fields, event, hevent, hattests, hauthor⟩

theorem verify_refuses {challenge : Challenge} {event_json : String} {skew : Int} {e : Exn}
    (hv : Login.verifyAgainst sdk challenge event_json skew = .error e) : Refuses [] e := by
  obtain ⟨message, rfl⟩ := NostrVerify.verify_eq_error hv
  exact nofun

/-- `login.authenticate`, between the consumption of the challenge and the answer. -/
theorem authenticate_wp {nonce : Json} {challenge : Challenge} {fields : List (PyStr × Json)}
    {f : Except Exn MintedSession → Handler Response}
    (hswitch : job.settings.allow_nostr_login = true)
    (hevent : eventOf job.request = some fields)
    (hok : ∀ pubkey username token max_age h, SignedBy sdk job challenge pubkey →
      took nonce challenge ∈ h → ⟨.mint username challenge.domain, .minted token max_age⟩ ∈ h →
      Meets sdk job .authenticate_endpoint h (f (.ok ⟨"yunohost.portal", token, max_age⟩)))
    (herr : ∀ h e, Refuses [] e → Meets sdk job .authenticate_endpoint h (f (.error e))) :
    Meets sdk job .authenticate_endpoint [took nonce challenge]
      ((Login.authenticate sdk (some challenge) (Json.dumps (.obj fields))
        job.settings.clock_skew_seconds).attempt.bind f) := by
  simp only [Login.authenticate]
  split
  · exact herr _ (.loginError _) nofun
  · next haction =>
    replace haction : challenge.action = LOGIN_ACTION := not_not.mp haction
    split
    · exact herr _ (.loginError _) nofun
    · next e _ hv => exact herr _ e (verify_refuses hv)
    · next pubkey hv =>
      have hsigned := signedBy_of_verify hevent hv
      refine ⟨.read _ _ _ rfl, fun r hr => ?_⟩
      cases r with
      | error e => exact (herr _ e (rely_mapping_error hr)).wp
      | ok identity =>
        cases identity with
        | none => exact (herr _ (.loginError _) nofun).wp
        | some identity =>
          obtain ⟨id, hid⟩ := hr.2 identity rfl
          simp only [ofExcept_ok, ret_bind, hid]
          refine ⟨.touch nonce challenge pubkey identity id haction hsigned hid, fun r hr => ?_⟩
          cases r with
          | error e => exact (herr _ e (rely_mapping_error hr)).wp
          | ok _ =>
            refine ⟨.mint nonce challenge pubkey identity _ hswitch haction hsigned, fun r _ => ?_⟩
            cases r with
            | minted token max_age =>
              exact (hok pubkey identity.ynh_username token max_age _ hsigned (by simp) (by simp)).wp
            | failed message => exact (herr _ (.sessionMintError message) nofun).wp
            | raised className message => exact (herr _ (.uncaught className message) nofun).wp

theorem authenticate_meets : Meets sdk job .authenticate_endpoint []
    (authenticate_endpoint sdk job.settings job.request) := by
  simp only [authenticate_endpoint, Prog.bind_eq]
  apply meets_require_json (by simp [Endpoint.refusals])
  refine meets_ensure (by simp [Endpoint.refusals]) fun hswitch => ?_
  refine meets_silent (readJson_returns job.request) (by simp) fun body hbody => ?_
  refine meets_silent (readEvent_returns hbody) (by simp [Endpoint.refusals]) fun event hevent => ?_
  have herr : ∀ (h : Trace) (e : Exn), Refuses [] e →
      Meets sdk job .authenticate_endpoint h (concludeLogin job.request (.error e)) := by
    intro h e he
    unfold concludeLogin
    split
    · next heq => cases heq
    · exact meets_log (meets_refuse (by simp [Endpoint.refusals]))
    · exact meets_log (meets_refuse (by simp [Endpoint.refusals]))
    · next heq =>
      cases heq
      exact meets_raise (he.mono (by simp))
  refine meets_consumeNamed (fun nonce => .consume_login nonce hswitch)
    (fun h => herr h (.loginError _) nofun) fun nonce challenge => ?_
  refine authenticate_wp hswitch hevent (fun pubkey username token max_age h hsigned htook hmint => ?_)
    herr
  refine meets_log (meets_ret ⟨rfl, nonce, challenge, pubkey, username, token, max_age, ?_⟩)
  exact ⟨List.mem_append_left _ htook, hsigned, List.mem_append_left _ hmint, rfl⟩

/-- The two ways to record a mapping; the caller handles the error. -/
theorem meets_recordTexts {endpoint : Endpoint} {h : Trace} {replace : Bool} {username : PyStr}
    {pubkey signer_type : String} {label : Option PyStr} {k : Except Exn String → Handler Response}
    (hc : ∀ c u l, username = .text u → c = (if replace then .link u pubkey { signer_type, label := l }
      else .add_identity u pubkey { signer_type, label := l }) → Allowed sdk job endpoint h (.mapping c))
    (hok : ∀ v u, Meets sdk job endpoint (h ++ [v]) (k (.ok u)))
    (herr : ∀ h e, Refuses [] e → Meets sdk job endpoint h (k (.error e))) :
    Meets sdk job endpoint h
      ((Linking.recordTexts replace username pubkey signer_type label).attempt.bind k) := by
  refine meets_rowTexts (fun u l hu => ?_) herr
  cases replace with
  | true => exact meets_call (hc _ u l hu rfl) (fun _ => hok _ u) herr
  | false => exact meets_call (hc _ u l hu rfl) (fun _ => hok _ u) herr

/-- `linking.confirm_and_link` and `confirm_and_add`, from the consumption of the challenge
to the outcome. -/
theorem confirm_and_link_wp {endpoint : Endpoint} {replace : Bool} {nonce : Json}
    {challenge : Challenge} {fields : List (PyStr × Json)} {cookie signer_type : String}
    {label : Option PyStr} {f : Except Exn String → Handler Response}
    (hendpoint : endpoint = if replace then .link_endpoint else .add_identity_endpoint)
    (hswitch : job.settings.allow_identity_linking = true)
    (hevent : eventOf job.request = some fields)
    (hcookie : cookie = orElse (job.request.headers "cookie") "")
    (hok : ∀ pubkey username h, SignedBy sdk job challenge pubkey → took nonce challenge ∈ h →
      Meets sdk job endpoint h (f (.ok username)))
    (herr : ∀ h e, Refuses [] e → Meets sdk job endpoint h (f (.error e))) :
    Meets sdk job endpoint [took nonce challenge]
      ((Linking.confirm_and_link sdk replace cookie (hostOf job.request) (some challenge)
        (Json.dumps (.obj fields)) job.settings.portal_api_base_url
        job.settings.clock_skew_seconds signer_type label).attempt.bind f) := by
  simp only [Linking.confirm_and_link]
  split
  · exact herr _ (.linkingError _) nofun
  · next haction =>
    replace haction : challenge.action = LINK_ACTION := not_not.mp haction
    refine meets_currentUser hcookie (Or.inr ⟨nonce, challenge, rfl⟩) (fun reply session hs => ?_)
      herr
    split
    · exact herr _ (.linkingError _) nofun
    · next e _ hv => exact herr _ e (verify_refuses hv)
    · next pubkey hv =>
      have hsigned := signedBy_of_verify hevent hv
      rw [Prog.bind_eq, attempt_attempt_bind, bind_assoc]
      refine meets_recordTexts (fun c u l hu hc => ?_) (fun v u => ?_) fun h e he => ?_
      · refine .record endpoint c nonce challenge pubkey reply session { signer_type, label := l }
          ⟨u, hu, ?_⟩ hswitch haction hsigned hs rfl
        subst hc hendpoint
        cases replace
        · exact Or.inr ⟨rfl, rfl⟩
        · exact Or.inl ⟨rfl, rfl⟩
      · exact hok pubkey u _ hsigned (by simp)
      · split
        · next heq => cases heq
        · exact herr h (.linkingError _) nofun
        · next heq =>
          cases heq
          exact herr h e he

/-- `link_endpoint` and `add_identity_endpoint` up to their answers. -/
theorem redeemLink_meets {endpoint : Endpoint} {replace : Bool} {failure success : String}
    {answer : String → Handler Response}
    (hendpoint : endpoint = if replace then .link_endpoint else .add_identity_endpoint)
    (hanswer : ∀ nonce challenge pubkey username h, took nonce challenge ∈ h →
      SignedBy sdk job challenge pubkey → Meets sdk job endpoint h (answer username)) :
    Meets sdk job endpoint []
      (redeemLink sdk job.settings job.request replace failure success answer) := by
  have hredeems : endpoint = .link_endpoint ∨ endpoint = .add_identity_endpoint := by
    cases replace
    · exact Or.inr hendpoint
    · exact Or.inl hendpoint
  have hcodes : endpoint.refusals = [400, 401, 403, 415] := by
    rcases hredeems with rfl | rfl <;> rfl
  have herr : ∀ (h : Trace) (e : Exn), Refuses [] e → Meets sdk job endpoint h
      (concludeLinking job.request failure success answer (.error e)) :=
    concludeLinking_error (by simp [hcodes])
  simp only [redeemLink, Prog.bind_eq]
  apply meets_require_json (by simp [hcodes])
  refine meets_ensure (by simp [hcodes]) fun hswitch => ?_
  refine meets_silent (readJson_returns job.request) (by simp) fun body hbody => ?_
  refine meets_silent (readEvent_returns hbody) (by simp [hcodes]) fun event hevent => ?_
  refine meets_silent (identity_metadata_returns body) (by simp [hcodes]) fun metadata _ => ?_
  refine meets_silent (requireCookie_returns job.request) (by simp [hcodes]) fun cookie hcookie => ?_
  refine meets_consumeNamed (fun nonce => .consume_link endpoint nonce hredeems hswitch)
    (fun h => herr h (.linkingError _) nofun) fun nonce challenge => ?_
  refine confirm_and_link_wp hendpoint hswitch hevent hcookie
    (fun pubkey username h hsigned htook => ?_) herr
  exact meets_log (hanswer nonce challenge pubkey username _ (List.mem_append_left _ htook) hsigned)

theorem link_meets :
    Meets sdk job .link_endpoint [] (link_endpoint sdk job.settings job.request) :=
  redeemLink_meets rfl fun nonce challenge pubkey _ _ htook hsigned =>
    meets_ret ⟨rfl, nonce, challenge, pubkey, htook, hsigned⟩

theorem add_identity_meets :
    Meets sdk job .add_identity_endpoint [] (add_identity_endpoint sdk job.settings job.request) := by
  refine redeemLink_meets rfl fun nonce challenge pubkey username h htook hsigned => ?_
  refine meets_mapping (.read _ _ (.get_by_username username) rfl) fun identity => ?_
  refine meets_silent (identity_json?_returns sdk identity) (by simp) fun _ _ => ?_
  exact meets_ret ⟨rfl, nonce, challenge, pubkey, List.mem_append_left _ htook, hsigned⟩

/-! ## Whatever a request is routed to -/

/-- **Every endpoint** makes allowed calls only and ends as it should. -/
theorem endpoint_meets (sdk : NostrSdk) (job : Job) (endpoint : Endpoint) :
    Meets sdk job endpoint [] (endpoint.handler sdk job.settings job.request) := by
  cases endpoint with
  | root_redirect => exact root_redirect_meets
  | nostr_login_page => exact meets_page rfl
  | nostr_account_page => exact meets_page rfl
  | admin_page => exact meets_page rfl
  | static_asset filename => exact static_asset_meets filename
  | challenge_endpoint => exact challenge_meets
  | authenticate_endpoint => exact authenticate_meets
  | link_challenge_endpoint => exact link_challenge_meets
  | link_endpoint => exact link_meets
  | unlink_endpoint => exact unlink_meets
  | identity_endpoint => exact identity_meets
  | identities_endpoint => exact identities_meets
  | add_identity_endpoint => exact add_identity_meets
  | update_identity_endpoint identity_id => exact update_identity_meets identity_id
  | revoke_identity_endpoint identity_id => exact revoke_identity_meets identity_id
  | policy_endpoint => exact @meets_ret _ _ .policy_endpoint _ _ rfl
  | admin_session_endpoint => exact admin_session_meets
  | admin_list_identities_endpoint => exact admin_list_identities_meets
  | admin_add_identity_endpoint => exact admin_add_identity_meets
  | admin_revoke_identity_endpoint identity_id => exact admin_revoke_identity_meets identity_id
  | admin_rename_identity_endpoint identity_id => exact admin_rename_identity_meets identity_id
  | admin_unlink_endpoint => exact admin_unlink_meets
  | nostr_json_endpoint => exact nostr_json_meets

/-- The calls of a request are allowed at the endpoint it is routed to. -/
def Permitted (sdk : NostrSdk) (job : Job) (h : Trace) (o : Op) : Prop :=
  ∃ endpoint, endpointOf job.request = some endpoint ∧ Allowed sdk job endpoint h o

/-- How a request ends: with a response, which stands for what `Answered` says or refuses
the request with a status code of the endpoint. -/
def Ended (sdk : NostrSdk) (job : Job) (h : Trace) (outcome : Except Exn Response) : Prop :=
  ∃ response, outcome = .ok response ∧
    match endpointOf job.request with
    | none => response = unrouted job.request
    | some endpoint => Answered sdk job endpoint h response ∨
      ∃ e, Refuses endpoint.refusals e ∧ response = answer (.error e)

/-- What holds of an endpoint's end holds of the request, up to the answer. -/
theorem handle_wp {sdk : NostrSdk} {job : Job} {endpoint : Endpoint} {R : Event Op Op.Ans → Prop}
    {G : Trace → Op → Prop} {Q : Trace → Except Exn Response → Prop} {h : Trace}
    (hroute : endpointOf job.request = some endpoint)
    (hp : (endpoint.handler sdk job.settings job.request).wp R G (fun h x => Q h (.ok (answer x))) h) :
    (handle sdk job).wp R G Q h := by
  unfold handle
  rw [hroute, wp_bind, wp_attempt]
  exact hp

theorem handle_spec (sdk : NostrSdk) (job : Job) :
    (handle sdk job).wp Rely (Permitted sdk job) (Ended sdk job) [] := by
  unfold handle
  cases hroute : endpointOf job.request with
  | none => exact ⟨_, rfl, by rw [hroute]⟩
  | some endpoint =>
    rw [wp_bind, wp_attempt]
    refine wp_mono (fun h o ho => ⟨endpoint, hroute, ho⟩) (fun h outcome hends => ?_) _
      (endpoint_meets sdk job endpoint).wp
    refine ⟨answer outcome, rfl, ?_⟩
    rw [hroute]
    cases outcome with
    | ok response => exact Or.inl hends
    | error e => exact Or.inr ⟨e, hends, rfl⟩

/-- **The service as a whole**: in every interleaved run every call is allowed by the calls
its request made before, and every response stands for what it should. -/
theorem service_guarded {sdk : NostrSdk} {w : World}
    {c : Run} (hc : Reachable (service sdk) w c) : Guarded Rely (Permitted sdk) (Ended sdk) c :=
  hc.guarded rely_exec (handle_spec sdk)

end NostrAuth.Server
