import NostrAuth.HostBinding

/-! The policy switches: which calls a request may make while a switch is off. One request
slips through, a `GET /challenge` that asks for a link challenge. -/

set_option autoImplicit false

namespace NostrAuth.Server

open Interaction

/-- Challenges, sessions and identities come only from requests handled while their switch
is on. -/
structure PolicyGated (c : Run) : Prop where
  login_challenge : ∀ (m : Nat) (e : LogEntry) (job : Job) (domain : String), c.log[m]? = some e →
    c.job e.who = some job → e.op = .issue domain LOGIN_ACTION →
    job.settings.allow_nostr_login = true
  session : ∀ (m : Nat) (e : LogEntry) (job : Job) (username host : String), c.log[m]? = some e →
    c.job e.who = some job → e.op = .mint username host → job.settings.allow_nostr_login = true
  link_challenge : ∀ (m : Nat) (e : LogEntry) (job : Job) (domain : String), c.log[m]? = some e →
    c.job e.who = some job → e.op = .issue domain LINK_ACTION →
    job.settings.allow_identity_linking = true
  link : ∀ (m : Nat) (e : LogEntry) (job : Job) (call : MappingCall), c.log[m]? = some e →
    c.job e.who = some job → (endpointOf job.request = some .link_endpoint ∨
      endpointOf job.request = some .add_identity_endpoint) → e.op = .mapping call →
    call.writes = true → job.settings.allow_identity_linking = true

/-- A request to `/challenge` for a link challenge, handled while linking is switched off. -/
def Leaky (job : Job) : Prop :=
  endpointOf job.request = some .challenge_endpoint ∧
    job.request.query_params "action" = some LINK_ACTION ∧
    (∃ domain, job.request.headers "host" = some domain ∧ domain ≠ "") ∧
    job.settings.allow_identity_linking = false

theorem allowed_issue {sdk : NostrSdk} {job : Job} {endpoint : Endpoint} {h : Trace}
    {domain action : String} (ha : Allowed sdk job endpoint h (.issue domain action)) :
    (action = LOGIN_ACTION ∧ job.settings.allow_nostr_login = true) ∨
      (action = LINK_ACTION ∧ job.settings.allow_identity_linking = true) ∨
      (action = LINK_ACTION ∧ endpoint = .challenge_endpoint ∧
        job.request.query_params "action" = some LINK_ACTION ∧
        job.request.headers "host" = some domain ∧ domain ≠ "") := by
  cases ha with
  | issue_login _ _ _ hswitch => exact Or.inl ⟨rfl, hswitch⟩
  | issue_by_query _ hhost hne hquery => exact Or.inr (Or.inr ⟨rfl, rfl, hquery, hhost, hne⟩)
  | issue_link _ _ _ hswitch => exact Or.inr (Or.inl ⟨rfl, hswitch⟩)

theorem actions_differ : LOGIN_ACTION ≠ LINK_ACTION := by decide

/-- A run in which no leaky request arrived keeps to the switches. -/
theorem gated_of_tight {sdk : NostrSdk} {w : World} {c : Run} (hc : Reachable (service sdk) w c)
    (htight : ∀ i job, c.job i = some job → ¬Leaky job) : PolicyGated c := by
  have hallowed : ∀ {m : Nat} {e : LogEntry} {job : Job}, c.log[m]? = some e →
      c.job e.who = some job → ∃ endpoint, endpointOf job.request = some endpoint ∧
        Allowed sdk job endpoint (calls e.who (c.log.take m)) e.op := by
    intro m e job he hjob
    obtain ⟨job', endpoint, hjob', hroute, hallowed⟩ := allowed_of_log hc he
    obtain rfl : job' = job := by simpa [hjob'] using hjob
    exact ⟨endpoint, hroute, hallowed⟩
  refine ⟨fun m e job domain he hjob hop => ?_, fun m e job username host he hjob hop => ?_,
    fun m e job domain he hjob hop => ?_, fun m e job call he hjob hlink hop hwrites => ?_⟩
  · obtain ⟨endpoint, _, ha⟩ := hallowed he hjob
    rw [hop] at ha
    rcases allowed_issue ha with ⟨_, hswitch⟩ | ⟨hact, _⟩ | ⟨hact, _⟩
    · exact hswitch
    · exact absurd hact actions_differ
    · exact absurd hact actions_differ
  · obtain ⟨endpoint, _, ha⟩ := hallowed he hjob
    rw [hop] at ha
    exact (allowed_mint ha).2.1
  · obtain ⟨endpoint, hroute, ha⟩ := hallowed he hjob
    rw [hop] at ha
    rcases allowed_issue ha with ⟨hact, _⟩ | ⟨_, hswitch⟩ | ⟨_, rfl, hquery, hhost, hne⟩
    · exact absurd hact.symm actions_differ
    · exact hswitch
    · cases hswitch : job.settings.allow_identity_linking with
      | true => rfl
      | false => exact absurd ⟨hroute, hquery, ⟨domain, hhost, hne⟩, hswitch⟩ (htight _ _ hjob)
  · obtain ⟨endpoint, hroute, ha⟩ := hallowed he hjob
    rw [hroute] at hlink
    rw [hop] at ha
    have hself : endpoint = .link_endpoint ∨ endpoint = .add_identity_endpoint :=
      hlink.imp Option.some.inj Option.some.inj
    generalize calls e.who (c.log.take m) = h at ha
    cases ha with
    | record _ _ _ _ _ _ _ _ _ hswitch => exact hswitch
    | touch => rcases hself with h | h <;> cases h
    | edit_own _ _ _ _ howns => rcases hself with rfl | rfl <;> cases howns
    | admin_edit _ _ _ _ hadmin => rcases hself with rfl | rfl <;> cases hadmin
    | admin_record => rcases hself with h | h <;> cases h
    | read _ _ _ hreads =>
      rw [hwrites] at hreads
      cases hreads

/-- A leaky request begins by issuing the link challenge. -/
theorem handle_leaky (sdk : NostrSdk) {job : Job} (h : Leaky job) :
    ∃ domain k, handle sdk job = .call (.issue domain LINK_ACTION) k := by
  obtain ⟨hroute, hquery, ⟨domain, hhost, hne⟩, _⟩ := h
  have hchallenge : ∃ k, challenge_endpoint job.settings job.request =
      .call (.issue domain LINK_ACTION) k := by
    have hactions : LINK_ACTION ∈ ALLOWED_ACTIONS := by decide
    have haction : (job.request.query_params "action").getD LOGIN_ACTION = LINK_ACTION := by
      rw [hquery]
      rfl
    have hdomain : orElse (job.request.headers "host") "" = domain := by simp [hhost, orElse, hne]
    simp only [challenge_endpoint, haction, Prog.ensure, hactions, if_true, actions_differ.symm,
      false_and, not_false_eq_true, Prog.bind_eq, Prog.ret_bind, issueChallenge, hdomain, hne,
      if_false]
    exact ⟨_, rfl⟩
  obtain ⟨k, hk⟩ := hchallenge
  unfold handle
  rw [hroute]
  simp only [Endpoint.handler, hk, Prog.attempt_call, Prog.call_bind]
  exact ⟨domain, _, rfl⟩

theorem not_gated_after {sdk : NostrSdk} {c : Run} {i : Nat} {job : Job} {inp : Nat → Oracle}
    (hleaky : Leaky job) : ¬PolicyGated ((service sdk).after c i job inp) := by
  intro hgated
  obtain ⟨domain, k, hk⟩ := handle_leaky sdk hleaky
  have hlog : ((service sdk).after c i job inp).log[c.log.length]? =
      some ((service sdk).entry i (.issue domain LINK_ACTION) (inp 0) c.world) := by
    simp [Machine.after, service, hk, Machine.serve, Machine.entry]
  have hjob : ((service sdk).after c i job inp).job i = some job := by simp [Machine.after]
  have hswitch := hgated.link_challenge _ _ job domain hlog hjob rfl
  rw [hleaky.2.2.2] at hswitch
  cases hswitch

/-- **The switches**: a run keeps to them as long as no leaky request arrives, and it does
not once one is served. -/
theorem policy_gates (sdk : NostrSdk) (w : World) (c : Run) (hc : Reachable (service sdk) w c) :
    ((∀ i job, c.job i = some job → ¬Leaky job) → PolicyGated c) ∧
      ∀ i job inp, c.job i = none → Leaky job → ¬PolicyGated ((service sdk).after c i job inp) :=
  ⟨gated_of_tight hc, fun _ _ _ _ => not_gated_after⟩

/-! ## A link challenge with linking switched off -/

/-- `GET /challenge?action=yunohost-link` while `allow_identity_linking` is off. -/
def leakyJob : Job where
  settings := { Settings.default with allow_identity_linking := false }
  request := { challengeRequest with query_params := headersOf [("action", "yunohost-link")] }

theorem leakyJob_leaky : Leaky leakyJob :=
  ⟨by decide +kernel, by decide +kernel, ⟨"a.example", by decide +kernel, by decide⟩, rfl⟩

def leaked : Run :=
  (service (sampleEvent "yunohost-link").sdk).after (Config.init aliceLinked) 0 leakyJob sampleInput

/-- The challenge is issued, with status 200. -/
theorem leaked_not_gated :
    Reachable (service (sampleEvent "yunohost-link").sdk) aliceLinked leaked ∧
      statusOf leaked 0 = some 200 ∧ ¬PolicyGated leaked :=
  ⟨Reachable.init.after rfl _ _, by decide +kernel, not_gated_after leakyJob_leaky⟩

theorem policy_gates_challengeIssued : PolicyGated challengeIssued ∧
    ¬PolicyGated ((service (sampleEvent "yunohost-login").sdk).after challengeIssued 1 leakyJob
      sampleInput) := by
  have hgates := policy_gates (sampleEvent "yunohost-login").sdk aliceLinked challengeIssued
    challengeIssued_reachable
  refine ⟨hgates.1 fun i job hjob hleaky => ?_, hgates.2 1 leakyJob sampleInput rfl leakyJob_leaky⟩
  have hone : job = ⟨.default, challengeRequest⟩ := by
    simp only [challengeIssued, Machine.after, Config.init, Function.update_apply] at hjob
    split at hjob
    · exact (Option.some.inj hjob).symm
    · cases hjob
  rw [hone] at hleaky
  exact absurd hleaky.2.2.2 (by decide)

end NostrAuth.Server
