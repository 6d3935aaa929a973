import NostrAuth.Python

/-! `auth/nostr_verify.py` and `identity/npub.py`, over whatever `nostr_sdk` parses and
verifies. -/

set_option autoImplicit false

namespace NostrAuth

/-- What the service uses of `nostr_sdk`. An `Except.error` carries the text of the
exception. -/
structure NostrSdk where
  Event : Type
  /-- `Event.from_json` -/
  from_json : String → Except String Event
  verify : Event → Bool
  /-- `event.kind().as_u16()` -/
  kind : Event → Nat
  /-- `to_vec()` of each tag -/
  tags : Event → List (List String)
  /-- `event.created_at().as_secs()` -/
  created_at : Event → Nat
  /-- `event.author().to_hex()` -/
  author : Event → String
  /-- `PublicKey.parse(value).to_hex()` -/
  to_hex : String → Except String String
  /-- `PublicKey.parse(value).to_bech32()` -/
  to_bech32 : String → Except String String

namespace Npub

variable (sdk : NostrSdk)

def hex_to_npub (pubkey_hex : String) : Except Exn String :=
  match sdk.to_bech32 pubkey_hex with
  | .ok npub => .ok npub
  | .error e => .error (.valueError ("not a valid hex pubkey: " ++ e))

/-- The SDK writes this pubkey as an `npub`. -/
def Converts (pubkey : String) : Prop := ∃ npub, sdk.to_bech32 pubkey = .ok npub

/-- `nostr_sdk` takes a text as UTF-8. -/
def parse_to_hex (value : PyStr) : Except Exn String :=
  match value with
  | .lone t => .error (.valueError ("not a valid npub or hex pubkey: " ++ t.encodeMessage))
  | .text value =>
    match sdk.to_hex value with
    | .ok pubkey => .ok pubkey
    | .error e => .error (.valueError ("not a valid npub or hex pubkey: " ++ e))

end Npub

namespace NostrVerify

def CHALLENGE_EVENT_KIND : Nat := 22242

/-- The first tag of that name with a value, over the vectors of the tags. -/
def _tag_value (tags : List (List String)) (name : String) : Option String :=
  tags.findSome? fun
    | n :: value :: _ => if n = name then some value else none
    | _ => none

/-- `event` holds the fields of the raw event; `none` is `None`. -/
def extract_tag_from_raw_event (event : List (PyStr × Json)) (name : String) : Option Json :=
  match Json.lookup event "tags" with
  | some (.arr tags) => tags.findSome? fun
    | .arr (.str n :: value :: _) => if n = .text name then some value else none
    | _ => none
  | _ => none

section Verify

variable (sdk : NostrSdk)

def parse_and_verify_event (event_json : String) : Except Exn sdk.Event :=
  match sdk.from_json event_json with
  | .error e => .error (.invalidEvent ("malformed event: " ++ e))
  | .ok event =>
    if sdk.verify event then .ok event
    else .error (.invalidEvent "event id/signature does not verify")

/-- Returns the signer's pubkey. -/
def verify_challenge_response (event_json expected_nonce expected_domain expected_action : String)
    (issued_at expires_at clock_skew : Int) : Except Exn String :=
  match parse_and_verify_event sdk event_json with
  | .error e => .error e
  | .ok event =>
    if sdk.kind event ≠ CHALLENGE_EVENT_KIND then
      .error (.invalidEvent ("unexpected event kind " ++ toString (sdk.kind event)))
    else if _tag_value (sdk.tags event) "challenge" ≠ some expected_nonce then
      .error (.invalidEvent "'challenge' tag does not match the issued nonce")
    else if _tag_value (sdk.tags event) "domain" ≠ some expected_domain then
      .error (.invalidEvent "'domain' tag does not match")
    else if _tag_value (sdk.tags event) "action" ≠ some expected_action then
      .error (.invalidEvent "'action' tag does not match")
    else if issued_at - clock_skew ≤ sdk.created_at event ∧
        (sdk.created_at event : Int) ≤ expires_at + clock_skew then
      .ok (sdk.author event)
    else .error (.invalidEvent "event created_at is outside the challenge's validity window")

/-- The event attests to the challenge: what a successful verification checked. -/
structure Attests (event_json nonce domain action : String) (issued_at expires_at clock_skew : Int)
    (event : sdk.Event) : Prop where
  parsed : sdk.from_json event_json = .ok event
  verified : sdk.verify event = true
  kind : sdk.kind event = CHALLENGE_EVENT_KIND
  nonce : _tag_value (sdk.tags event) "challenge" = some nonce
  domain : _tag_value (sdk.tags event) "domain" = some domain
  action : _tag_value (sdk.tags event) "action" = some action
  not_before : issued_at - clock_skew ≤ sdk.created_at event
  not_after : (sdk.created_at event : Int) ≤ expires_at + clock_skew

theorem verify_eq_ok {sdk : NostrSdk} {event_json nonce domain action pubkey : String}
    {issued_at expires_at clock_skew : Int} :
    verify_challenge_response sdk event_json nonce domain action issued_at expires_at clock_skew =
        .ok pubkey ↔
      ∃ event, Attests sdk event_json nonce domain action issued_at expires_at clock_skew event ∧
        pubkey = sdk.author event := by
  constructor
  · intro h
    unfold verify_challenge_response parse_and_verify_event at h
    cases hp : sdk.from_json event_json with
    | error e => simp [hp] at h
    | ok event =>
      by_cases hv : sdk.verify event = true
      · simp only [hp, hv, if_true] at h
        split at h
        · cases h
        · next hk =>
          split at h
          · cases h
          · next hn =>
            split at h
            · cases h
            · next hd =>
              split at h
              · cases h
              · next ha =>
                split at h
                · next ht =>
                  cases h
                  exact ⟨event, ⟨hp, hv, not_not.mp hk, not_not.mp hn, not_not.mp hd, not_not.mp ha,
                    ht.1, ht.2⟩, rfl⟩
                · cases h
      · simp [hp, hv] at h
  · rintro ⟨event, h, rfl⟩
    simp [verify_challenge_response, parse_and_verify_event, h.parsed, h.verified, h.kind, h.nonce,
      h.domain, h.action, h.not_before, h.not_after]

/-- Every other outcome is an `InvalidEvent`. -/
theorem verify_eq_error {sdk : NostrSdk} {event_json nonce domain action : String}
    {issued_at expires_at clock_skew : Int} {e : Exn}
    (h : verify_challenge_response sdk event_json nonce domain action issued_at expires_at clock_skew =
      .error e) : ∃ message, e = .invalidEvent message := by
  unfold verify_challenge_response at h
  split at h
  · next e' hparse =>
    cases h
    unfold parse_and_verify_event at hparse
    split at hparse
    · cases hparse
      exact ⟨_, rfl⟩
    · split at hparse
      · cases hparse
      · cases hparse
        exact ⟨_, rfl⟩
  · split at h
    · cases h
      exact ⟨_, rfl⟩
    · split at h
      · cases h
        exact ⟨_, rfl⟩
      · split at h
        · cases h
          exact ⟨_, rfl⟩
        · split at h
          · cases h
            exact ⟨_, rfl⟩
          · split at h
            · cases h
            · cases h
              exact ⟨_, rfl⟩

end Verify

end NostrVerify

end NostrAuth
