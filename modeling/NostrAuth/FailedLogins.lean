import NostrAuth.LoginServed

/-! Logins that fail: `authenticate` records the use of an identity before it asks the helper
for a session, so a login that fails at the helper has already changed the row. -/

set_option autoImplicit false

namespace NostrAuth.Server

open Interaction MappingDb

/-! ## The touched row -/

/-- Touching a row changes the table unless the row was last used at that very reading. -/
theorem touchRow_eq_self {db : MappingDb} {row : IdentityRow} {t : Int} (hrow : row ∈ db)
    (hon : row.enabled = 1) :
    (touchRow t row.identity_id db).1 = db ↔ row.last_used = some t := by
  constructor
  · intro h
    have hmem : touched t row ∈ (touchRow t row.identity_id db).1 :=
      mem_updateRows.mpr ⟨row, hrow, by simp [hon]⟩
    rw [h] at hmem
    have hsame : touched t row = row := Serial.eq_of_id hmem hrow rfl
    rw [← hsame]
    rfl
  · intro h
    have hself : ∀ a ∈ db.identities.rows,
        (if (a.identity_id == row.identity_id && a.enabled == 1) = true then touched t a else a) = a := by
      intro a ha
      split
      · next hp =>
        simp only [Bool.and_eq_true, beq_iff_eq] at hp
        obtain rfl : a = row := Serial.eq_of_id ha hrow hp.1
        simp [touched, ← h]
      · rfl
    have hrows : db.identities.rows.map (fun a =>
        if a.identity_id == row.identity_id && a.enabled == 1 then touched t a else a) =
          db.identities.rows := by
      rw [List.map_congr_left hself, List.map_id'']
      exact fun _ => rfl
    exact MappingDb.ext (Serial.ext hrows rfl) rfl rfl

/-! ## One login -/

section

variable {sdk : NostrSdk} {c : Run} {i : Nat} {job : Job} {inp : Nat → Oracle}

/-- The answer to a login that is served alone. -/
theorem response_of_after {response : Response}
    (hrun : ((service sdk).after c i job inp).running i = some (.ret response)) :
    ((service sdk).serve i (handle sdk job) inp c.world).2.1 = .ok response := by
  simp only [Machine.after, Function.update_self, Option.some.injEq] at hrun
  have hprogram : (service sdk).program job = handle sdk job := rfl
  rw [hprogram] at hrun
  cases houtcome : ((service sdk).serve i (handle sdk job) inp c.world).2.1 with
  | ok response' =>
    rw [houtcome] at hrun
    cases hrun
    rfl
  | error e =>
    rw [houtcome] at hrun
    cases hrun

/-- **What a failed login leaves behind.** A login that is not answered 200 leaves the
identities as they were if and only if the helper would have minted a session, or no row is
reached whose `last_used` is other than the time of the login. -/
theorem failed_login_keeps (sdk : NostrSdk) (c : Run) (i : Nat) (job : Job) (inp : Nat → Oracle)
    (hroute : endpointOf job.request = some .authenticate_endpoint) :
    (∀ response, ((service sdk).after c i job inp).running i = some (.ret response) →
      response.status_code ≠ 200 →
        ((service sdk).after c i job inp).world.mappings = c.world.mappings) ↔
    (∃ token max_age, (inp 3).minted = .minted token max_age) ∨
      ∀ challenge row, InOrder sdk job c.world ((inp 0).clock 0) challenge row →
        row.last_used = some ((inp 2).clock 0) := by
  constructor
  · intro h
    by_cases hminted : ∃ token max_age, (inp 3).minted = .minted token max_age
    · exact Or.inl hminted
    · apply Or.inr
      intro challenge row horder
      have hserved : Served sdk i job inp c.world challenge row := serve_inOrder hroute horder
      obtain ⟨response, hanswer, hstatus⟩ := hserved.answers
      have hrun : ((service sdk).after c i job inp).running i = some (.ret response) := by
        have hprogram : (service sdk).program job = handle sdk job := rfl
        simp only [Machine.after, Function.update_self, hprogram, hanswer, finished]
      have hkept := h response hrun fun hok => hminted (hstatus.mp hok)
      exact (touchRow_eq_self horder.linked horder.enabled).mp (hserved.touches.symm.trans hkept)
  · intro h response hrun hfailed
    have hanswer := response_of_after hrun
    show ((service sdk).serve i (handle sdk job) inp c.world).2.2.mappings = c.world.mappings
    by_cases horder : ∃ challenge row, InOrder sdk job c.world ((inp 0).clock 0) challenge row
    · obtain ⟨challenge, row, horder⟩ := horder
      have hserved : Served sdk i job inp c.world challenge row := serve_inOrder hroute horder
      obtain ⟨response', hanswer', hstatus⟩ := hserved.answers
      rw [hanswer] at hanswer'
      cases hanswer'
      rcases h with hminted | hused
      · exact absurd (hstatus.mpr hminted) hfailed
      · rw [hserved.touches]
        exact (touchRow_eq_self horder.linked horder.enabled).mpr (hused challenge row horder)
    · exact serve_not_inOrder hroute fun challenge row hin => horder ⟨challenge, row, hin⟩

end

/-! ## A helper that is down -/

/-- The moment of `sampleInput`, at which the helper does not answer. -/
def helperDown (n : Nat) : Oracle :=
  { sampleInput n with minted := .failed "session-mint helper unreachable" }

/-- The sample login, sent while the helper is down. -/
def failedLogin : Run :=
  (service (sampleEvent "yunohost-login").sdk).after challengeIssued 1 (loginJob "a.example")
    helperDown

/-- The request is answered 502, and the row of `alice` says that it was used. -/
theorem failed_login_touches : ∃ response : Response,
    Reachable (service (sampleEvent "yunohost-login").sdk) aliceLinked challengeIssued ∧
      challengeIssued.job 1 = none ∧
      endpointOf (loginJob "a.example").request = some .authenticate_endpoint ∧
      failedLogin.running 1 = some (.ret response) ∧ response.status_code = 502 ∧
      failedLogin.world.mappings ≠ challengeIssued.world.mappings := by
  have hstatus : statusOf failedLogin 1 = some 502 := by decide +kernel
  obtain ⟨response, hrun, hcode⟩ := response_of_statusOf hstatus
  refine ⟨response, challengeIssued_reachable, rfl, by decide +kernel, hrun, hcode, fun hsame => ?_⟩
  have hbefore : challengeIssued.world.mappings.identities.rows.map IdentityRow.last_used = [none] := by
    decide +kernel
  have hafter : failedLogin.world.mappings.identities.rows.map IdentityRow.last_used =
      [some 1767225600] := by
    decide +kernel
  rw [hsame, hbefore] at hafter
  cases hafter

/-- The service after `alice` revoked her key. -/
def aliceRevoked : World :=
  World.withoutChallenges DEFAULT_TTL_SECONDS
    ((MappingStore.revoke_identity 1 "alice").run (fun _ => 1767225100) aliceDb none).2

/-- A challenge is issued to the holder of the revoked key. -/
def challengedRevoked : Run :=
  (service (sampleEvent "yunohost-login").sdk).after (Config.init aliceRevoked) 0
    ⟨.default, challengeRequest⟩ sampleInput

/-- The revoked key signs it, while the helper is down. -/
def revokedLogin : Run :=
  (service (sampleEvent "yunohost-login").sdk).after challengedRevoked 1 (loginJob "a.example")
    helperDown

/-- The login of a revoked key is refused once its challenge is taken and its event verified, and
leaves the row as it was. -/
theorem refused_login_keeps : ∃ response : Response,
    domainsTaken (calls 1 revokedLogin.log) = ["a.example"] ∧
      revokedLogin.running 1 = some (.ret response) ∧ response.status_code = 401 ∧
      revokedLogin.world.mappings = challengedRevoked.world.mappings := by
  have hstatus : statusOf revokedLogin 1 = some 401 := by decide +kernel
  obtain ⟨response, hrun, hcode⟩ := response_of_statusOf hstatus
  have hne : response.status_code ≠ 200 := by
    rw [hcode]
    decide
  have hrevoked : ∀ row ∈ challengedRevoked.world.mappings.identities.rows, row.enabled ≠ 1 := by
    decide +kernel
  have hkept := (failed_login_keeps (sampleEvent "yunohost-login").sdk challengedRevoked 1
    (loginJob "a.example") helperDown (by decide +kernel)).mpr
    (Or.inr fun _ row horder => absurd horder.enabled (hrevoked row horder.linked))
  exact ⟨response, by decide +kernel, hrun, hcode, hkept response hrun hne⟩

end NostrAuth.Server
