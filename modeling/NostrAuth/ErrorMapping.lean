import NostrAuth.AddedIdentity

/-! The error mapping of the handlers: which exceptions are answers to the client, and how the stages
of a handler end that is served alone. -/

set_option autoImplicit false

namespace NostrAuth.HostileInput

open Interaction Handler PortalClient Prog Server

/-! ## The statement -/

/-- The status codes of the error mapping. -/
def mappedCodes : List Nat := [400, 401, 403, 404, 409, 415, 502]

/-- The exception is an answer to the client with one of these codes. -/
def MappedError (e : Exn) : Prop := ∃ s m, s ∈ mappedCodes ∧ e = .apiError s m

/-- The handler ended in a response, or in an error that is mapped to one. -/
def Mapped : Except Exn Response → Prop
  | .ok _ => True
  | .error e => MappedError e

/-- The event names this challenge, which is pending and not over. -/
def Redeems (event : List (PyStr × Json)) (inp : Oracle) (w : World) (challenge : Challenge) : Prop :=
  ∃ nonce, NostrVerify.extract_tag_from_raw_event event "challenge" = some nonce ∧
    nonce.truthy = true ∧ bindText nonce = .ok (some challenge.nonce) ∧
    Server.Pending w challenge ∧ inp.clock 0 ≤ challenge.expires_at

/-- The rows hold pubkeys of the SDK, and ids that SQLite assigned. -/
structure Stored (sdk : NostrSdk) (w : World) : Prop where
  keys : ∀ r ∈ w.mappings, Npub.Converts sdk r.pubkey
  ids : ∀ r ∈ w.mappings, fitsInt64 r.identity_id = true

/-- portal-api answers with an error, or with a JSON object. -/
def Decodes : PortalReply → Prop
  | .httpError _ | .urlError _ | .notJson _ | .body (.obj _) => True
  | .raised .. | .body _ => False

/-- The peers answer as their protocols say. -/
structure Answers (inp : Oracle) : Prop where
  portal : Decodes inp.portal
  helper : ∀ className message, inp.minted ≠ .raised className message

theorem Decodes.error {reply : PortalReply} (h : Decodes reply) {e : Exn}
    (he : readSession reply = .error e) : ∃ m, e = .portalAuthError m := by
  cases reply with
  | raised className message => exact h.elim
  | body value =>
    cases value with
    | obj fields =>
      simp only [readSession] at he
      split at he
      · split at he
        · cases he
          exact ⟨_, rfl⟩
        · cases he
      · cases he
        exact ⟨_, rfl⟩
    | _ => exact h.elim
  | _ =>
    cases he
    exact ⟨_, rfl⟩

section Stages

variable {fields : List (PyStr × Json)}

end Stages

/-! ## Handlers alone -/

/-- Run alone from the world `w`, the rest of a handler ends mapped just where `bad` does not hold. -/
structure Unless (bad : Prop) (inp : Nat → Oracle) (w : World) (p : Handler Response) : Prop where
  iff : Mapped (p.runAlone exec inp w).2.1 ↔ ¬bad

section Alone

variable {α : Type} {inp : Nat → Oracle} {w : World} {bad bad' : Prop}

theorem Unless.congr {p : Handler Response} (h : Unless bad inp w p) (hbad : bad' ↔ bad) :
    Unless bad' inp w p := ⟨h.iff.trans (not_congr hbad.symm)⟩

end Alone

/-! ## The account behind the cookie -/

section Session

variable {job : Job} {inp : Nat → Oracle} {w : World}

end Session

/-! ## Redeeming a challenge -/

section Redeeming

variable {sdk : NostrSdk} {request : Request} {inp : Nat → Oracle} {w : World}

/-- What a recording call leaves: the row of the pubkey, next to rows that were there before. -/
def Recorded (u p : String) (w w' : World) : Prop :=
  ∃ row ∈ w'.mappings, row.pubkey = p ∧ row.ynh_username = u ∧ row.enabled = 1 ∧
    ∀ r ∈ w'.mappings, r ∈ w.mappings ∨ r = row

theorem checkOther_error {u : String} {owner : Option String} {e : Exn}
    (h : MappingStore.checkOther u owner = .error e) : ∃ m, e = .pubkeyAlreadyLinked m := by
  unfold MappingStore.checkOther at h
  split at h
  · split at h
    · cases h
      exact ⟨_, rfl⟩
    · cases h
  · cases h

theorem checkAny_error {u : String} {owner : Option String} {e : Exn}
    (h : MappingStore.checkAny u owner = .error e) : ∃ m, e = .pubkeyAlreadyLinked m := by
  unfold MappingStore.checkAny at h
  split at h
  · split at h
    · cases h
      exact ⟨_, rfl⟩
    · cases h
      exact ⟨_, rfl⟩
  · cases h

theorem Recorded.keys {u p : String} {w' : World} (h : Recorded u p w w') (hp : Npub.Converts sdk p)
    (hkeys : ∀ r ∈ w.mappings, Npub.Converts sdk r.pubkey) : ∀ r ∈ w'.mappings, Npub.Converts sdk r.pubkey := by
  obtain ⟨row, -, rfl, -, -, hrows⟩ := h
  intro r hr
  rcases hrows r hr with hold | rfl
  · exact hkeys r hold
  · exact hp

variable {failure success : String} {answer : String → Handler Response}

end Redeeming

end NostrAuth.HostileInput
