import Mathlib.Data.List.DropRight
import NostrAuth.AdminCli
import NostrAuth.MappingAuthority
import NostrAuth.RefusedRequests

/-! The rows of `identities` and everything that writes them: the checks of each endpoint and
of each command on what it stores, and the rows that come of it. -/

set_option autoImplicit false

namespace NostrAuth

open Interaction Prog MappingStore

/-! ## Labels -/

/-- No whitespace at either end. -/
def Trimmed (s : String) : Prop :=
  (∀ c, s.toList.head? = some c → isSpace c = false) ∧
    ∀ c, s.toList.getLast? = some c → isSpace c = false

/-- `NULL`, or a trimmed text of 1 to 120 characters. -/
def LabelOk : Option String → Prop
  | none => True
  | some label => label ≠ "" ∧ Trimmed label ∧ len label ≤ 120

theorem strip_toList (s : String) :
    (strip s).toList = (s.toList.dropWhile isSpace).rdropWhile isSpace := by
  simp [strip, List.rdropWhile]

theorem trimmed_strip (s : String) : Trimmed (strip s) := by
  unfold Trimmed
  rw [strip_toList]
  constructor
  · intro c hc
    obtain ⟨rest, hrest⟩ := List.rdropWhile_prefix isSpace (s.toList.dropWhile isSpace)
    have hhead : (s.toList.dropWhile isSpace).head? = some c := by
      rw [← hrest, List.head?_append, hc]
      rfl
    have hnot := List.head?_dropWhile_not isSpace s.toList
    rw [hhead] at hnot
    simpa using hnot
  · intro c hc
    have hne : (s.toList.dropWhile isSpace).rdropWhile isSpace ≠ [] := by
      intro hnil
      rw [hnil] at hc
      cases hc
    have hlast := List.rdropWhile_last_not isSpace (s.toList.dropWhile isSpace) hne
    rw [List.getLast?_eq_getLast_of_ne_nil hne, Option.some.injEq] at hc
    rw [hc] at hlast
    simpa using hlast

theorem len_strip_le (s : String) : len (strip s) ≤ len s := by
  unfold len
  rw [strip_toList]
  have hright := (List.rdropWhile_prefix isSpace (s.toList.dropWhile isSpace)).length_le
  have hleft := List.length_dropWhile_le isSpace s.toList
  omega

theorem labelOk_strip {s : String} (hne : strip s ≠ "") (hlen : len (strip s) ≤ 120) :
    LabelOk (some (strip s)) := ⟨hne, trimmed_strip s, hlen⟩

/-- Where SQLite encodes the label, it belongs in a row. -/
def LabelTextOk (label : Option PyStr) : Prop := ∀ l, label = l.map .text → LabelOk l

theorem labelTextOk_none : LabelTextOk none := by
  intro l hl
  cases l with
  | none => trivial
  | some l => cases hl

theorem labelTextOk_strip {s : PyStr} (hne : s.strip ≠ .text "") (hlen : s.len ≤ 120) :
    LabelTextOk (some s.strip) := by
  intro l hl
  cases l with
  | none => cases hl
  | some l =>
    obtain ⟨u, rfl, rfl⟩ := PyStr.strip_eq_text.mp (Option.some.inj hl)
    have hstrip := len_strip_le u
    rw [PyStr.len_text] at hlen
    exact labelOk_strip (fun hblank => hne (congrArg PyStr.text hblank)) (by omega)

/-! ## Rows -/

structure RowWellFormed (r : IdentityRow) : Prop where
  username : r.ynh_username ≠ ""
  signer_type : r.signer_type ∈ Server.SIGNER_TYPES
  enabled : r.enabled = 0 ∨ r.enabled = 1
  active : r.enabled = 1 → r.revoked_at = none
  label : LabelOk r.label

namespace MappingCall

/-- What the call stores belongs in a well-formed row. -/
def Valid : MappingCall → Prop
  | link u _ metadata | add_identity u _ metadata =>
    u ≠ "" ∧ metadata.signer_type ∈ Server.SIGNER_TYPES ∧ LabelOk metadata.label
  | update_identity_label _ _ label => LabelOk label
  | _ => True

/-- A call that stores what belongs there keeps the rows well formed. -/
theorem Effect.wellFormed {c : MappingCall} {before after : MappingDb} (h : Effect c before after)
    (hc : c.Valid) (hrows : ∀ r ∈ before, RowWellFormed r) : ∀ r ∈ after, RowWellFormed r := by
  intro r hr
  rcases h.source hr with ⟨a, ha, hbecomes⟩ | ⟨u, p, metadata, t, hcall, rfl⟩
  · have hold := hrows a ha
    cases hbecomes with
    | kept => exact hold
    | revoked t _ _ => exact ⟨hold.username, hold.signer_type, Or.inl rfl, nofun, hold.label⟩
    | labelled label hcall _ =>
      subst hcall
      exact ⟨hold.username, hold.signer_type, hold.enabled, hold.active, hc⟩
    | touched t _ _ => exact ⟨hold.username, hold.signer_type, hold.enabled, hold.active, hold.label⟩
  · have hmetadata : u ≠ "" ∧ metadata.signer_type ∈ Server.SIGNER_TYPES ∧ LabelOk metadata.label := by
      rcases hcall with rfl | rfl
      · exact hc
      · exact hc
    exact ⟨hmetadata.1, hmetadata.2.1, Or.inr rfl, fun _ => rfl, hmetadata.2.2⟩

end MappingCall

namespace Server

open Handler PortalClient

/-! ## Endpoints -/

/-- The call stores nothing that does not belong in a row. -/
def Proper : Op → Prop
  | .mapping c => c.Valid
  | _ => True

/-- The handler makes proper calls only, and returns what satisfies `P`. -/
structure Yields {α : Type} (P : α → Prop) (p : Handler α) : Prop where
  within : p.Within (fun _ => True) Proper fun x => ∀ a, x = .ok a → P a

section Yields

variable {α β : Type} {P : α → Prop} {P' : β → Prop} {p : Handler α} {f : α → Handler β}

theorem Yields.ret {a : α} (ha : P a) : Yields P (.ret a) := by
  constructor
  rintro _ ⟨⟩
  exact ha

theorem Yields.raise (e : Exn) : Yields P (.raise e) := ⟨nofun⟩

theorem Yields.bind (hp : Yields P p) (hf : ∀ a, P a → Yields P' (f a)) : Yields P' (p.bind f) :=
  ⟨hp.within.bind (fun a ha => (hf a (ha a rfl)).within) fun _ _ => nofun⟩

theorem Yields.attempt_bind {f : Except Exn α → Handler β} (hp : Yields P p)
    (hf : ∀ x, (∀ a, x = .ok a → P a) → Yields P' (f x)) :
    Yields P' ((p.attempt : Handler (Except Exn α)).bind f) :=
  ⟨hp.within.attempt_bind fun x hx => (hf x hx).within⟩

theorem Yields.mono {Q : α → Prop} (hp : Yields P p) (h : ∀ a, P a → Q a) : Yields Q p :=
  ⟨hp.within.mono (fun _ ho => ho) fun _ hx a ha => h a (hx a ha)⟩

theorem yields_call {o : Op} {k : o.Ans → Handler α} (ho : Proper o)
    (hk : ∀ r, Yields P (k r)) : Yields P (.call o k) := ⟨ho, fun r _ => (hk r).within⟩

theorem yields_of_returns {E : Exn → Prop} (hp : p.Returns P E) : Yields P p := by
  rcases hp with ⟨a, rfl, ha⟩ | ⟨e, rfl, _⟩
  · exact .ret ha
  · exact .raise e

theorem yields_ofExcept {x : Except Exn α} (h : ∀ a, x = .ok a → P a) :
    Yields P (Prog.ofExcept x : Handler α) := by
  cases x with
  | ok a => exact .ret (h a rfl)
  | error e => exact .raise e

theorem yields_mapping {c : MappingCall} (hc : c.Valid) : Yields (fun _ => True) (mappings c) :=
  yields_call hc fun _ => yields_ofExcept fun _ _ => trivial

theorem yields_log (level : Level) (message : String) :
    Yields (fun _ => True) (log level message) := yields_call trivial fun _ => .ret trivial

end Yields

theorem readSession_username {reply : PortalReply} {session : AuthenticatedSession}
    (h : readSession reply = .ok session) : session.username ≠ .text "" := by
  cases reply with
  | httpError _ | urlError _ | notJson _ | raised _ _ => cases h
  | body value =>
    cases value with
    | obj fields =>
      simp only [readSession] at h
      split at h
      · split at h
        · cases h
        · next hne =>
          cases h
          exact hne
      · cases h
    | _ => cases h

theorem yields_session (cookie_header host base_url : String) :
    Yields (fun session => session.username ≠ .text "")
      (get_authenticated_session cookie_header host base_url) :=
  yields_call trivial fun _ => yields_ofExcept fun _ h => readSession_username h

theorem yields_username (cookie_header host base_url : String) :
    Yields (fun username => username ≠ .text "")
      (get_authenticated_username cookie_header host base_url) :=
  (yields_session cookie_header host base_url).bind fun _ hne => .ret hne

section Checks

variable (body : Json)

theorem getField_yields (key : String) : Yields (fun _ => True) (getField body key) :=
  (yields_of_returns (getField_returns body key)).mono fun _ _ => trivial

theorem refuse_yields {α : Type} {P : α → Prop} (s : Nat) (m : String) :
    Yields P (refuse s m : Handler α) := .raise _

theorem ensure_yields {c : Prop} [Decidable c] (e : Exn) :
    Yields (fun _ => True) (Prog.ensure c e : Handler Unit) := by
  unfold Prog.ensure
  split
  · exact .ret trivial
  · exact .raise e

theorem identity_metadata_yields : Yields
    (fun metadata => metadata.1 ∈ SIGNER_TYPES ∧ LabelTextOk metadata.2)
    (_identity_metadata body) := by
  refine (getField_yields body _).bind fun signer_type _ => ?_
  refine (getField_yields body _).bind fun label _ => ?_
  split
  · next signer_type _ =>
    split
    · next hsigner =>
      split
      · exact .ret ⟨hsigner, labelTextOk_none⟩
      · next label _ =>
        split
        · exact .raise _
        · next hlabel =>
          obtain ⟨hblank, hlen⟩ := not_or.mp hlabel
          exact .ret ⟨hsigner, labelTextOk_strip hblank (by omega)⟩
      · exact .raise _
    · exact refuse_yields _ _
  · exact refuse_yields _ _

theorem newLabel_yields : Yields LabelTextOk (newLabel body) := by
  refine (yields_of_returns (labelField_returns body)).bind fun label _ => ?_
  split
  · exact .ret labelTextOk_none
  · next label =>
    split
    · exact refuse_yields _ _
    · next hlen =>
      split
      · exact .ret labelTextOk_none
      · next hblank => exact .ret (labelTextOk_strip hblank (by omega))
  · exact refuse_yields _ _

theorem adminLabel_yields : Yields (fun label => LabelTextOk (some label)) (adminLabel body) := by
  refine (getField_yields body _).bind fun label _ => ?_
  split
  · next label =>
    split
    · exact .raise _
    · next hlabel =>
      obtain ⟨hblank, hlen⟩ := not_or.mp hlabel
      exact .ret (labelTextOk_strip hblank (by omega))
  · exact .raise _

theorem admin_target_yields : Yields (fun username => username ≠ .text "") (_admin_target body) := by
  refine (getField_yields body _).bind fun username _ => ?_
  split
  · split
    · exact refuse_yields _ _
    · next hblank => exact .ret hblank
  · exact refuse_yields _ _

end Checks

section Endpoints

variable (sdk : NostrSdk) (settings : Settings) (request : Request)

theorem authenticated_username_yields :
    Yields (fun username => username ≠ .text "") (_authenticated_username settings request) := by
  refine (yields_of_returns (requireCookie_returns request)).bind fun cookie_header _ => ?_
  refine (yields_username cookie_header _ _).attempt_bind fun outcome houtcome => ?_
  split
  · next username => exact .ret (houtcome username rfl)
  · exact refuse_yields _ _
  · exact .raise _

theorem authenticated_admin_yields :
    Yields (fun _ => True) (_authenticated_admin settings request) := by
  refine (yields_of_returns (requireCookie_returns request)).bind fun cookie_header _ => ?_
  refine (yields_session cookie_header _ _).attempt_bind fun outcome _ => ?_
  split
  · split
    · exact .ret trivial
    · exact refuse_yields _ _
  · exact refuse_yields _ _
  · exact .raise _

theorem identity_json_yields (identity : Identity) :
    Yields (fun _ => True) (_identity_json sdk identity) :=
  yields_of_returns (identity_json_returns sdk identity)

theorem identity_json?_yields (identity : Option Identity) :
    Yields (fun _ => True) (_identity_json? sdk identity) :=
  yields_of_returns (identity_json?_returns sdk identity)

theorem identityId_yields (identity_id : String) :
    Yields (fun _ => True) (identityId identity_id) :=
  yields_of_returns (identityId_returns identity_id)

theorem readJson_yields : Yields (fun _ => True) (readJson request) :=
  (yields_of_returns (readJson_returns request)).mono fun _ _ => trivial

theorem issueChallenge_yields (action : String) :
    Yields (fun _ => True) (issueChallenge request action) := by
  unfold issueChallenge
  simp only
  split
  · exact refuse_yields _ _
  · refine yields_call trivial fun r => ?_
    refine Yields.bind (P := fun _ => True) ?_ fun _ _ => .ret trivial
    exact yields_ofExcept fun _ _ => trivial

theorem concludeLogin_yields (outcome : Except Exn MintedSession) :
    Yields (fun _ => True) (concludeLogin request outcome) := by
  unfold concludeLogin
  split
  · exact (yields_log _ _).bind fun _ _ => .ret trivial
  · exact (yields_log _ _).bind fun _ _ => refuse_yields _ _
  · exact (yields_log _ _).bind fun _ _ => refuse_yields _ _
  · exact .raise _

theorem concludeLinking_yields (failure success : String) {answer : String → Handler Response}
    (hanswer : ∀ username, Yields (fun _ => True) (answer username))
    (outcome : Except Exn String) :
    Yields (fun _ => True) (concludeLinking request failure success answer outcome) := by
  unfold concludeLinking
  split
  · exact (yields_log _ _).bind fun _ _ => hanswer _
  · exact (yields_log _ _).bind fun _ _ => refuse_yields _ _
  · exact .raise _

theorem consumeNamed_yields (event : List (PyStr × Json)) :
    Yields (fun _ => True) (consumeNamed event) := by
  unfold consumeNamed
  split
  · split
    · exact yields_call trivial fun _ => yields_ofExcept fun _ _ => trivial
    · exact .ret trivial
  · exact .ret trivial

theorem mint_yields (u host : String) :
    Yields (fun _ => True) (Login.create_ynh_session u host) :=
  yields_call trivial fun _ => yields_ofExcept fun _ _ => trivial

theorem login_authenticate_yields (challenge : Option Challenge) (event_json : String) (skew : Int) :
    Yields (fun _ => True) (Login.authenticate sdk challenge event_json skew) := by
  unfold Login.authenticate
  split
  · exact .raise _
  · split
    · exact .raise _
    · split
      · exact .raise _
      · exact .raise _
      · next pubkey _ =>
        refine (yields_mapping (c := .get_by_pubkey pubkey) trivial).bind fun identity _ => ?_
        split
        · exact .raise _
        · next identity =>
          split
          · next id _ =>
            exact (yields_mapping (c := .touch_identity id) trivial).bind fun _ _ => mint_yields _ _
          · exact (yields_mapping (c := .touch_last_used identity.ynh_username) trivial).bind
              fun _ _ => mint_yields _ _

theorem currentUser_yields (cookie_header host base_url : String) :
    Yields (fun username => username ≠ .text "") (Linking.currentUser cookie_header host base_url) := by
  refine (yields_username cookie_header _ _).attempt_bind fun outcome houtcome => ?_
  split
  · next username => exact .ret (houtcome username rfl)
  · exact .raise _
  · exact .raise _

theorem record_yields (replace : Bool) {username pubkey : String} {metadata : Metadata}
    (hu : username ≠ "") (hsigner : metadata.signer_type ∈ SIGNER_TYPES)
    (hlabel : LabelOk metadata.label) :
    Yields (fun _ => True) (Linking.record replace username pubkey metadata) := by
  unfold Linking.record
  split
  · exact yields_mapping (c := .link username pubkey metadata) ⟨hu, hsigner, hlabel⟩
  · exact (yields_mapping (c := .add_identity username pubkey metadata)
      ⟨hu, hsigner, hlabel⟩).bind fun _ _ => .ret trivial

theorem encoded_yields (s : PyStr) : Yields (fun t => s = .text t) (encoded s) :=
  yields_of_returns (encoded_returns s)

theorem encodedAfter_yields (n : Int) (s : PyStr) :
    Yields (fun t => s = .text t) (encodedAfter n s) := yields_of_returns (encodedAfter_returns n s)

theorem rowTexts_yields (replace : Bool) (username : PyStr) (pubkey : String) (label : Option PyStr) :
    Yields (fun texts => username = .text texts.1 ∧ label = texts.2.map .text)
      (rowTexts replace username pubkey label) := by
  rcases rowTexts_cases replace username pubkey label with ⟨u, l, hu, hl, hret⟩ | ⟨-, t, hcall⟩
  · rw [hret]
    exact .ret ⟨hu, hl⟩
  · rw [hcall]
    exact (yields_mapping (c := .link_unencodable replace username pubkey t) trivial).bind nofun

theorem recordTexts_yields (replace : Bool) {username : PyStr} {pubkey signer_type : String}
    {label : Option PyStr} (hu : username ≠ .text "") (hsigner : signer_type ∈ SIGNER_TYPES)
    (hlabel : LabelTextOk label) :
    Yields (fun _ => True) (Linking.recordTexts replace username pubkey signer_type label) := by
  refine (rowTexts_yields replace username pubkey label).bind fun texts htexts => ?_
  have hne : texts.1 ≠ "" := fun hempty => hu (htexts.1.trans (congrArg PyStr.text hempty))
  exact (@record_yields replace texts.1 pubkey ⟨signer_type, texts.2, "self-service"⟩ hne hsigner
    (hlabel _ htexts.2)).bind fun _ _ => .ret trivial

theorem confirm_and_link_yields (replace : Bool) (cookie_header host : String)
    (challenge : Option Challenge) (event_json base_url : String) (skew : Int)
    {signer_type : String} {label : Option PyStr} (hsigner : signer_type ∈ SIGNER_TYPES)
    (hlabel : LabelTextOk label) :
    Yields (fun _ => True) (Linking.confirm_and_link sdk replace cookie_header host challenge
      event_json base_url skew signer_type label) := by
  unfold Linking.confirm_and_link
  split
  · exact .raise _
  · split
    · exact .raise _
    · refine (currentUser_yields _ _ _).bind fun username hu => ?_
      split
      · exact .raise _
      · exact .raise _
      · refine (recordTexts_yields replace hu hsigner hlabel).attempt_bind fun outcome _ => ?_
        split
        · exact .ret trivial
        · exact .raise _
        · exact .raise _

theorem redeemLink_yields (replace : Bool) (failure success : String)
    {answer : String → Handler Response}
    (hanswer : ∀ username, Yields (fun _ => True) (answer username)) : Yields (fun _ => True)
      (redeemLink sdk settings request replace failure success answer) := by
  refine (ensure_yields _).bind fun _ _ => ?_
  refine (ensure_yields _).bind fun _ _ => ?_
  refine (readJson_yields request).bind fun body _ => ?_
  refine Yields.bind (P := fun _ => True) ?_ fun event _ => ?_
  · refine (getField_yields body _).bind fun event _ => ?_
    split
    · exact .ret trivial
    · exact refuse_yields _ _
  · refine (identity_metadata_yields body).bind fun metadata hmetadata => ?_
    refine (yields_of_returns (requireCookie_returns request)).bind fun cookie_header _ => ?_
    refine (consumeNamed_yields event).bind fun challenge _ => ?_
    refine (confirm_and_link_yields sdk replace cookie_header _ challenge _ _ _ hmetadata.1
      hmetadata.2).attempt_bind fun outcome _ => ?_
    exact concludeLinking_yields request failure success hanswer outcome

theorem linked_yields (username : String) : Yields (fun _ => True) (linked username) := .ret trivial

theorem added_yields (username : String) : Yields (fun _ => True) (added sdk username) :=
  (yields_mapping (c := .get_by_username username) trivial).bind fun identity _ =>
    (identity_json?_yields sdk identity).bind fun _ _ => .ret trivial

theorem identityList_yields (identities : List Identity) :
    Yields (fun _ => True) (identityList sdk identities) :=
  yields_of_returns (identityList_returns sdk identities)

theorem revoke_identity_yields (identity_id : String) :
    Yields (fun _ => True) (revoke_identity_endpoint settings request identity_id) := by
  refine (authenticated_username_yields settings request).bind fun username _ => ?_
  refine (identityId_yields identity_id).bind fun id _ => ?_
  refine (ensure_yields _).bind fun _ _ => ?_
  refine (encodedAfter_yields id username).bind fun username _ => ?_
  refine (yields_mapping (c := .revoke_identity id username) trivial).bind fun revoked _ => ?_
  refine (ensure_yields _).bind fun _ _ => ?_
  exact (yields_log _ _).bind fun _ _ => .ret trivial

theorem update_identity_yields (identity_id : String) :
    Yields (fun _ => True) (update_identity_endpoint sdk settings request identity_id) := by
  refine (ensure_yields _).bind fun _ _ => ?_
  refine (readJson_yields request).bind fun body _ => ?_
  refine (newLabel_yields body).bind fun label hlabel => ?_
  refine (authenticated_username_yields settings request).bind fun username _ => ?_
  refine (identityId_yields identity_id).bind fun id _ => ?_
  refine (ensure_yields _).bind fun _ _ => ?_
  refine (yields_of_returns (encodedLabel_returns label)).bind fun l hl => ?_
  refine (encodedAfter_yields id username).bind fun username _ => ?_
  refine (yields_mapping (c := .update_identity_label id username l) (hlabel l hl)).bind
    fun identity _ => ?_
  split
  · exact refuse_yields _ _
  · next identity =>
    refine (yields_log _ _).bind fun _ _ => ?_
    exact (identity_json_yields sdk identity).bind fun _ _ => .ret trivial

theorem unlink_yields : Yields (fun _ => True) (unlink_endpoint settings request) := by
  refine (yields_of_returns (requireCookie_returns request)).bind fun cookie_header _ => ?_
  have hunlink : Yields (fun _ => True) (Linking.confirm_and_unlink cookie_header (hostOf request)
      settings.portal_api_base_url) :=
    (currentUser_yields _ _ _).bind fun username _ => (encoded_yields username).bind fun username _ =>
      (yields_mapping (c := .unlink username) trivial).bind fun _ _ => .ret trivial
  exact hunlink.attempt_bind fun outcome _ =>
    concludeLinking_yields request _ _ linked_yields outcome

theorem admin_revoke_identity_yields (identity_id : String) :
    Yields (fun _ => True) (admin_revoke_identity_endpoint settings request identity_id) := by
  refine (ensure_yields _).bind fun _ _ => ?_
  refine (authenticated_admin_yields settings request).bind fun _ _ => ?_
  refine (readJson_yields request).bind fun body _ => ?_
  refine (admin_target_yields body).bind fun username _ => ?_
  refine (identityId_yields identity_id).bind fun id _ => ?_
  refine (encodedAfter_yields id username).bind fun username _ => ?_
  refine (yields_mapping (c := .revoke_identity id username) trivial).bind fun revoked _ => ?_
  refine (ensure_yields _).bind fun _ _ => ?_
  exact (yields_log _ _).bind fun _ _ => .ret trivial

theorem admin_rename_identity_yields (identity_id : String) :
    Yields (fun _ => True) (admin_rename_identity_endpoint sdk settings request identity_id) := by
  refine (ensure_yields _).bind fun _ _ => ?_
  refine (authenticated_admin_yields settings request).bind fun _ _ => ?_
  refine (readJson_yields request).bind fun body _ => ?_
  refine (admin_target_yields body).bind fun username _ => ?_
  refine (adminLabel_yields body).bind fun label hlabel => ?_
  refine (identityId_yields identity_id).bind fun id _ => ?_
  refine (encoded_yields label).bind fun l hl => ?_
  refine (encodedAfter_yields id username).bind fun username _ => ?_
  refine (yields_mapping (c := .update_identity_label id username (some l))
    (hlabel (some l) (by rw [hl]; rfl))).bind
    fun identity _ => ?_
  split
  · exact refuse_yields _ _
  · next identity =>
    refine (yields_log _ _).bind fun _ _ => ?_
    exact (identity_json_yields sdk identity).bind fun _ _ => .ret trivial

theorem admin_unlink_yields : Yields (fun _ => True) (admin_unlink_endpoint settings request) := by
  refine (ensure_yields _).bind fun _ _ => ?_
  refine (authenticated_admin_yields settings request).bind fun _ _ => ?_
  refine (readJson_yields request).bind fun body _ => ?_
  refine (admin_target_yields body).bind fun username _ => ?_
  refine (encoded_yields username).bind fun username _ => ?_
  refine (yields_mapping (c := .unlink username) trivial).bind fun _ _ => ?_
  exact (yields_log _ _).bind fun _ _ => .ret trivial

theorem adminRecord_yields (replace : Bool) {username pubkey : String} {metadata : Metadata}
    (hu : username ≠ "") (hsigner : metadata.signer_type ∈ SIGNER_TYPES)
    (hlabel : LabelOk metadata.label) :
    Yields (fun _ => True) (adminRecord replace username pubkey metadata) := by
  unfold adminRecord
  split
  · refine (yields_mapping (c := .link username pubkey metadata) ⟨hu, hsigner, hlabel⟩).bind
      fun _ _ => ?_
    exact yields_mapping (c := .get_by_pubkey pubkey) trivial
  · exact (yields_mapping (c := .add_identity username pubkey metadata)
      ⟨hu, hsigner, hlabel⟩).bind fun _ _ => .ret trivial

theorem adminRecordTexts_yields (replace : Bool) {username : PyStr} {pubkey signer_type : String}
    {label : Option PyStr} (hu : username ≠ .text "") (hsigner : signer_type ∈ SIGNER_TYPES)
    (hlabel : LabelTextOk label) :
    Yields (fun _ => True) (adminRecordTexts replace username pubkey signer_type label) := by
  refine (rowTexts_yields replace username pubkey label).bind fun texts htexts => ?_
  have hne : texts.1 ≠ "" := fun hempty => hu (htexts.1.trans (congrArg PyStr.text hempty))
  exact (@adminRecord_yields replace texts.1 pubkey ⟨signer_type, texts.2, "admin"⟩ hne hsigner
    (hlabel _ htexts.2)).bind fun _ _ => .ret trivial

theorem admin_add_identity_yields :
    Yields (fun _ => True) (admin_add_identity_endpoint sdk settings request) := by
  refine (ensure_yields _).bind fun _ _ => ?_
  refine (authenticated_admin_yields settings request).bind fun _ _ => ?_
  refine (readJson_yields request).bind fun body _ => ?_
  refine (admin_target_yields body).bind fun username hu => ?_
  refine (yields_of_returns (adminPubkey_returns body sdk)).bind fun pubkey _ => ?_
  refine (identity_metadata_yields body).bind fun metadata hmetadata => ?_
  refine (getField_yields body _).bind fun replace _ => ?_
  refine (adminRecordTexts_yields _ hu hmetadata.1 hmetadata.2).attempt_bind fun outcome _ => ?_
  split
  · exact refuse_yields _ _
  · exact .raise _
  · next username identity _ =>
    refine (yields_log _ _).bind fun _ _ => ?_
    exact (identity_json?_yields sdk identity).bind fun _ _ => .ret trivial

/-- **Every endpoint** stores only what belongs in a row. -/
theorem endpoint_yields (endpoint : Endpoint) :
    Yields (fun _ => True) (endpoint.handler sdk settings request) := by
  cases endpoint with
  | root_redirect =>
    show Yields _ (Server.root_redirect settings request)
    unfold Server.root_redirect
    simp only
    split
    · exact .ret trivial
    · refine (yields_username _ _ _).attempt_bind fun outcome _ => ?_
      split
      · exact .ret trivial
      · exact .ret trivial
      · exact .raise _
  | nostr_login_page => exact .ret trivial
  | nostr_account_page => exact .ret trivial
  | admin_page => exact .ret trivial
  | static_asset filename =>
    show Yields _ (Server.static_asset filename)
    unfold Server.static_asset
    split
    · exact .ret trivial
    · exact refuse_yields _ _
  | challenge_endpoint =>
    refine (ensure_yields _).bind fun _ _ => ?_
    exact (ensure_yields _).bind fun _ _ => issueChallenge_yields request _
  | authenticate_endpoint =>
    show Yields _ (Server.authenticate_endpoint sdk settings request)
    rw [authenticate_stages]
    refine (yields_of_returns (loginChecks_returns settings request)).bind fun event _ => ?_
    refine (consumeNamed_yields event).bind fun challenge _ => ?_
    exact (login_authenticate_yields sdk challenge _ _).attempt_bind fun outcome _ =>
      concludeLogin_yields request outcome
  | link_challenge_endpoint =>
    exact (ensure_yields _).bind fun _ _ => issueChallenge_yields request _
  | link_endpoint => exact redeemLink_yields sdk settings request true _ _ linked_yields
  | unlink_endpoint => exact unlink_yields settings request
  | identity_endpoint =>
    refine (authenticated_username_yields settings request).bind fun username _ => ?_
    refine (encoded_yields username).bind fun username _ => ?_
    refine (yields_mapping (c := .get_by_username username) trivial).bind fun identity _ => ?_
    split
    · exact .ret trivial
    · split
      · split
        · exact .raise _
        · exact .ret trivial
      · exact .ret trivial
  | identities_endpoint =>
    refine (authenticated_username_yields settings request).bind fun username _ => ?_
    refine (encoded_yields username).bind fun username _ => ?_
    refine (yields_mapping (c := .list_by_username username true) trivial).bind fun identities _ => ?_
    exact (identityList_yields sdk identities).bind fun _ _ => .ret trivial
  | add_identity_endpoint => exact redeemLink_yields sdk settings request false _ _ (added_yields sdk)
  | update_identity_endpoint id => exact update_identity_yields sdk settings request id
  | revoke_identity_endpoint id => exact revoke_identity_yields settings request id
  | policy_endpoint => exact .ret trivial
  | admin_session_endpoint =>
    show Yields _ (Server.admin_session_endpoint settings request)
    unfold Server.admin_session_endpoint
    simp only
    split
    · exact .ret trivial
    · refine (yields_session _ _ _).attempt_bind fun outcome _ => ?_
      split
      · exact (encoded_yields _).bind fun _ _ => .ret trivial
      · exact .ret trivial
      · exact .raise _
  | admin_list_identities_endpoint =>
    refine (authenticated_admin_yields settings request).bind fun _ _ => ?_
    refine (yields_mapping (c := .list_all) trivial).bind fun identities _ => ?_
    exact (identityList_yields sdk identities).bind fun _ _ => .ret trivial
  | admin_add_identity_endpoint => exact admin_add_identity_yields sdk settings request
  | admin_revoke_identity_endpoint id => exact admin_revoke_identity_yields settings request id
  | admin_rename_identity_endpoint id =>
    exact admin_rename_identity_yields sdk settings request id
  | admin_unlink_endpoint => exact admin_unlink_yields settings request
  | nostr_json_endpoint =>
    show Yields _ (Server.nostr_json_endpoint request)
    unfold Server.nostr_json_endpoint
    simp only
    split
    · exact .ret trivial
    · refine (yields_mapping (c := .get_by_username _) trivial).bind fun identity _ => ?_
      repeat' split
      all_goals exact .ret trivial

theorem handle_yields (job : Job) : Yields (fun _ => True) (handle sdk job) := by
  unfold handle
  split
  · exact .ret trivial
  · next endpoint _ =>
    exact (endpoint_yields sdk job.settings job.request endpoint).attempt_bind fun _ _ => .ret trivial

end Endpoints

end Server

end NostrAuth
