import NostrAuth.EndpointSpecs

/-! The challenges of a run: which call issued the challenge that a request took, and that
no challenge is taken twice. Nonces may repeat; what identifies a challenge is its place in
the log. -/

set_option autoImplicit false

namespace NostrAuth.Server

open Interaction

/-- The call at `j` issued this challenge. -/
def Issued (log : Log) (j : Nat) (challenge : Challenge) : Prop :=
  ∃ e domain action, log[j]? = some e ∧
    e.event = ⟨.issue domain action, .ok challenge⟩

/-- The call at `k` took this challenge out of the store. -/
def Consumed (log : Log) (k : Nat) (challenge : Challenge) : Prop :=
  ∃ e nonce, log[k]? = some e ∧ e.event = took nonce challenge

/-- No call strictly between `j` and `k` issued a challenge with this nonce. -/
def NotReissued (log : Log) (nonce : String) (j k : Nat) : Prop :=
  ∀ m other, j < m → m < k → Issued log m other → other.nonce ≠ nonce

/-- The call at `k` took the challenge that the call at `j` had issued. -/
structure Redeems (log : Log) (j k : Nat) (challenge : Challenge) : Prop where
  issued : Issued log j challenge
  consumed : Consumed log k challenge
  before : j < k
  last : NotReissued log challenge.nonce j k

/-! ## One call -/

/-- The challenge can still be taken. -/
def Pending (w : World) (challenge : Challenge) : Prop :=
  (⟨challenge, none⟩ : ChallengeRow) ∈ w.challenges

theorem issue_ok {domain action : String} {inp : Oracle} {w : World} {challenge : Challenge}
    (h : (exec (.issue domain action) inp w).1 = .ok challenge) :
    challenge = new_challenge inp.nonce domain action w.ttl_seconds (inp.clock 0) ∧
      ∀ other, Pending (exec (.issue domain action) inp w).2 other →
        other = challenge ∨ (Pending w other ∧ challenge.nonce ≠ other.nonce) := by
  simp only [exec, ChallengeStore.run_issue] at h ⊢
  split at h
  · cases h
  · next table' c hins =>
    simp only [Except.ok.injEq] at h
    refine ⟨h.symm, fun other hother => ?_⟩
    have hfree : ∀ r ∈ ChallengeTable.deleteExpired (inp.clock 1) w.challenges,
        r.nonce ≠ challenge.nonce := by
      intro r hr hn
      have htaken := ChallengeTable.insertNew_taken ⟨r, hr, hn⟩
      rw [← h, hins] at htaken
      cases htaken
    obtain ⟨table'', hins', hrows⟩ := ChallengeTable.insertNew_free hfree
    rw [h] at hins
    rw [hins] at hins'
    cases hins'
    simp only [Pending] at hother
    rw [Table.mem_def, hrows, List.mem_append, List.mem_singleton] at hother
    rcases hother with hother | hother
    · have hmem := ChallengeTable.mem_deleteExpired.mp hother
      exact Or.inr ⟨hmem.1, fun hn => hfree _ hother hn.symm⟩
    · cases hother
      exact Or.inl rfl

/-- What `consume` finds was pending under the nonce it was given, and is in time. -/
theorem consume_found {nonce : Json} {inp : Oracle} {w : World} {challenge : Challenge}
    (h : (exec (.consume nonce) inp w).1 = .ok (some challenge)) :
    bindText nonce = .ok (some challenge.nonce) ∧ Pending w challenge ∧
      inp.clock 0 ≤ challenge.expires_at := by
  simp only [exec, ChallengeStore.run_consume] at h
  cases hkey : bindText nonce with
  | error e => simp [hkey] at h
  | ok key =>
    simp only [hkey, Except.ok.injEq] at h
    cases hrow : ChallengeTable.selectPending key w.challenges with
    | none => simp [hrow, ChallengeStore.unlessExpired] at h
    | some row =>
      simp only [hrow, ChallengeStore.unlessExpired] at h
      split at h
      · cases h
      · next hfresh =>
        cases h
        obtain ⟨hmem, hp⟩ := Table.find_some hrow
        obtain ⟨rfl, hc⟩ := ChallengeTable.pending_iff.mp hp
        refine ⟨rfl, ?_, by omega⟩
        show (⟨row.toChallenge, none⟩ : ChallengeRow) ∈ w.challenges
        rwa [← hc]

theorem consumed_pending {nonce : Json} {inp : Oracle} {w : World} {challenge : Challenge}
    (h : (exec (.consume nonce) inp w).1 = .ok (some challenge)) :
    Pending w challenge ∧ inp.clock 0 ≤ challenge.expires_at ∧
      ∀ other, Pending (exec (.consume nonce) inp w).2 other → other.nonce ≠ challenge.nonce := by
  obtain ⟨hbound, hpending, hfresh⟩ := consume_found h
  refine ⟨hpending, hfresh, ?_⟩
  intro other hother hn
  simp only [exec, ChallengeStore.run_consume, hbound] at hother
  have hnone := ChallengeStore.selectPending_consumed (inp.clock 0) challenge.nonce challenge.nonce
    w.challenges
  rw [if_pos rfl] at hnone
  have hsome := ChallengeTable.selectPending_eq_some.mpr ⟨hother, hn, rfl⟩
  rw [hnone] at hsome
  cases hsome

theorem consumed_entry {sdk : NostrSdk} {i : Nat} {o : Op} {inp : Oracle} {w : World}
    {nonce : Json} {challenge : Challenge}
    (h : ((service sdk).entry i o inp w).event = took nonce challenge) :
    Pending w challenge ∧ inp.clock 0 ≤ challenge.expires_at ∧
      ∀ other, Pending ((service sdk).entry i o inp w).after other →
        other.nonce ≠ challenge.nonce := by
  injection h with hop hans
  have hop' : o = .consume nonce := hop
  subst hop'
  exact consumed_pending (eq_of_heq hans)

theorem issued_entry {sdk : NostrSdk} {i : Nat} {o : Op} {inp : Oracle} {w : World}
    {domain action : String} {challenge : Challenge}
    (h : ((service sdk).entry i o inp w).event = ⟨.issue domain action, .ok challenge⟩) :
    challenge = new_challenge inp.nonce domain action w.ttl_seconds (inp.clock 0) := by
  injection h with hop hans
  have hop' : o = .issue domain action := hop
  subst hop'
  exact (issue_ok (eq_of_heq hans)).1

/-- A challenge that is pending after a call was issued by that call, or it was pending
before and the call issued no other with its nonce. -/
theorem pending_entry {sdk : NostrSdk} {i : Nat} {o : Op} {inp : Oracle} {w : World}
    {challenge : Challenge} (h : Pending ((service sdk).entry i o inp w).after challenge) :
    (∃ domain action, ((service sdk).entry i o inp w).event = ⟨.issue domain action, .ok challenge⟩) ∨
      (Pending w challenge ∧ ∀ domain action other,
        ((service sdk).entry i o inp w).event = ⟨.issue domain action, .ok other⟩ →
          other.nonce ≠ challenge.nonce) := by
  cases o with
  | issue domain action =>
    cases hr : (exec (.issue domain action) inp w).1 with
    | error e =>
      have hsame : (exec (.issue domain action) inp w).2 = w := by
        simp only [exec, ChallengeStore.run_issue] at hr ⊢
        split at hr
        · rfl
        · cases hr
      refine Or.inr ⟨?_, fun d a other heq => ?_⟩
      · simpa only [Machine.entry, service, hsame] using h
      · simp only [Machine.entry, service] at heq
        injection heq with hop hans
        cases hop
        rw [hr] at hans
        cases hans
    | ok new =>
      have hevent : ((service sdk).entry i (.issue domain action) inp w).event =
          ⟨.issue domain action, .ok new⟩ := congrArg (Event.mk _) hr
      rcases (issue_ok hr).2 challenge h with rfl | ⟨hold, hne⟩
      · exact Or.inl ⟨domain, action, hevent⟩
      · refine Or.inr ⟨hold, fun d a other heq => ?_⟩
        rw [hevent] at heq
        cases heq
        exact hne
  | consume nonce =>
    refine Or.inr ⟨?_, fun _ _ _ heq => by cases heq⟩
    simp only [Machine.entry, service, exec, Pending, ChallengeStore.run_consume] at h
    split at h
    · exact h
    · simp only [ChallengeStore.consumed] at h
      split at h
      · exact h
      · rcases ChallengeTable.mem_markConsumed.mp h with ⟨hold, _⟩ | ⟨_, _, _, heq⟩
        · exact hold
        · cases heq
  | me cookie host base => exact Or.inr ⟨h, fun _ _ _ heq => by cases heq⟩
  | mapping c => exact Or.inr ⟨h, fun _ _ _ heq => by cases heq⟩
  | mint u host => exact Or.inr ⟨h, fun _ _ _ heq => by cases heq⟩
  | log level message => exact Or.inr ⟨h, fun _ _ _ heq => by cases heq⟩

/-! ## Runs -/

theorem issued_append {log : Log} {e : LogEntry} {m : Nat}
    {challenge : Challenge} (h : Issued (log ++ [e]) m challenge) : Issued log m challenge ∨
      (m = log.length ∧ ∃ domain action, e.event = ⟨.issue domain action, .ok challenge⟩) := by
  obtain ⟨e', domain, action, he, hevent⟩ := h
  rcases getElem?_append_singleton he with ⟨_, he⟩ | ⟨rfl, rfl⟩
  · exact Or.inl ⟨e', domain, action, he, hevent⟩
  · exact Or.inr ⟨rfl, domain, action, hevent⟩

theorem issued_lt {log : Log} {m : Nat} {challenge : Challenge} (h : Issued log m challenge) :
    m < log.length := by
  obtain ⟨e, _, _, he, _⟩ := h
  exact (List.getElem?_eq_some_iff.mp he).1

theorem issued_mono {log : Log} {e : LogEntry} {m : Nat}
    {challenge : Challenge} (h : Issued log m challenge) : Issued (log ++ [e]) m challenge := by
  have hlt := issued_lt h
  obtain ⟨e', domain, action, he, hevent⟩ := h
  exact ⟨e', domain, action, by rw [List.getElem?_append_left hlt, he], hevent⟩

theorem issued_take {log : Log} {k m : Nat} {challenge : Challenge} :
    Issued (log.take k) m challenge ↔ m < k ∧ Issued log m challenge := by
  simp only [Issued, List.getElem?_take]
  split
  · next h => simp [h]
  · next h => simp [h]

theorem consumed_take {log : Log} {k m : Nat} {challenge : Challenge} (hmk : m < k)
    (h : Consumed log m challenge) : Consumed (log.take k) m challenge := by
  obtain ⟨e, nonce, he, hevent⟩ := h
  exact ⟨e, nonce, by rw [List.getElem?_take, if_pos hmk, he], hevent⟩

theorem NotReissued.of_append {log : Log} {e : LogEntry} {nonce : String}
    {j : Nat} (h : NotReissued (log ++ [e]) nonce j (log ++ [e]).length) :
    NotReissued log nonce j log.length :=
  fun m x hjm hm hx => h m x hjm (by simp; omega) (issued_mono hx)

/-- A nonce that was taken, and not issued since, cannot be taken again. -/
theorem nonce_spent {sdk : NostrSdk} {w : World} {c : Run} (hc : Reachable (service sdk) w c)
    {k : Nat} {challenge other : Challenge} (hk : Consumed c.log k challenge)
    (hlast : NotReissued c.log challenge.nonce k c.log.length) (hother : Pending c.world other) :
    other.nonce ≠ challenge.nonce := by
  refine hc.logged (P := fun v log => ∀ k challenge, Consumed log k challenge →
      NotReissued log challenge.nonce k log.length →
      ∀ other, Pending v other → other.nonce ≠ challenge.nonce)
    (by simp [Consumed]) ?_ (fun _ _ _ ih => ih) k challenge hk hlast other hother
  intro i o inp v log ih k challenge hk hlast other hother
  obtain ⟨e, nonce, he, hevent⟩ := hk
  rcases getElem?_append_singleton he with ⟨hlt, he⟩ | ⟨rfl, rfl⟩
  · rcases pending_entry (i := i) hother with ⟨domain, action, hissue⟩ | ⟨hold, _⟩
    · exact hlast log.length other hlt (by simp) ⟨_, domain, action, by simp, hissue⟩
    · exact ih k challenge ⟨e, nonce, he, hevent⟩ hlast.of_append other hold
  · exact (consumed_entry hevent).2.2 other hother

/-- Where the run began without challenges, a pending one was issued by the run, and its
nonce not since. -/
theorem pending_issued {sdk : NostrSdk} {w : World} (hw : ∀ challenge, ¬Pending w challenge)
    {c : Run} (hc : Reachable (service sdk) w c) {challenge : Challenge}
    (h : Pending c.world challenge) :
    ∃ j, Issued c.log j challenge ∧ NotReissued c.log challenge.nonce j c.log.length := by
  refine hc.logged (P := fun v log => ∀ challenge, Pending v challenge →
      ∃ j, Issued log j challenge ∧ NotReissued log challenge.nonce j log.length)
    (fun challenge h => absurd h (hw challenge)) ?_ (fun _ _ _ ih => ih) challenge h
  intro i o inp v log ih challenge h
  rcases pending_entry (i := i) h with ⟨domain, action, hissue⟩ | ⟨hold, hnew⟩
  · refine ⟨log.length, ⟨_, domain, action, by simp, hissue⟩, fun m other hm hlen => ?_⟩
    simp only [List.length_append, List.length_singleton] at hlen
    omega
  · obtain ⟨j, hj, hlast⟩ := ih challenge hold
    refine ⟨j, issued_mono hj, fun m other hjm _ hm => ?_⟩
    rcases issued_append hm with hm | ⟨_, domain, action, hissue⟩
    · exact hlast m other hjm (issued_lt hm) hm
    · exact hnew domain action other hissue

/-- A challenge that is taken was pending before. -/
theorem pending_before {sdk : NostrSdk} {w : World} {c : Run} (hc : Reachable (service sdk) w c) {k : Nat}
    {challenge : Challenge} (hk : Consumed c.log k challenge) : ∃ c' : Run,
      Reachable (service sdk) w c' ∧ c'.log = c.log.take k ∧ Pending c'.world challenge := by
  obtain ⟨e, nonce, he, hevent⟩ := hk
  obtain ⟨c', hc', hlog, hworld, hentry⟩ := hc.snapshot he
  rw [hentry] at hevent
  refine ⟨c', hc', hlog, ?_⟩
  rw [hworld]
  exact (consumed_entry hevent).1

/-- **No challenge is taken twice**: between two calls that took a challenge with the same
nonce the nonce was issued anew. -/
theorem consumed_twice {sdk : NostrSdk} {w : World} {c : Run} (hc : Reachable (service sdk) w c)
    {k k' : Nat} {challenge challenge' : Challenge} (hk : Consumed c.log k challenge)
    (hk' : Consumed c.log k' challenge') (hlt : k < k') (hn : challenge'.nonce = challenge.nonce) :
    ¬NotReissued c.log challenge.nonce k k' := by
  intro hlast
  obtain ⟨c', hc', hlog, hpending⟩ := pending_before hc hk'
  refine nonce_spent hc' (k := k) (by rw [hlog]; exact consumed_take hlt hk)
    (fun m other hkm _ hm => ?_) hpending hn
  rw [hlog, issued_take] at hm
  exact hlast m other hkm hm.1 hm.2

/-- **Every challenge taken was issued by the run** that began without challenges. -/
theorem redeems_of_consumed {sdk : NostrSdk} {w : World} (hw : ∀ challenge, ¬Pending w challenge)
    {c : Run} (hc : Reachable (service sdk) w c) {k : Nat} {challenge : Challenge}
    (hk : Consumed c.log k challenge) : ∃ j, Redeems c.log j k challenge := by
  obtain ⟨c', hc', hlog, hpending⟩ := pending_before hc hk
  obtain ⟨j, hj, hlast⟩ := pending_issued hw hc' hpending
  rw [hlog, issued_take] at hj
  refine ⟨j, hj.2, hk, hj.1, fun m other hjm hmk hm => ?_⟩
  have hm' : Issued c'.log m other := by
    rw [hlog, issued_take]
    exact ⟨hmk, hm⟩
  exact hlast m other hjm (issued_lt hm') hm'

/-- Two calls that took a challenge of the same issue are one call. -/
theorem redeems_inj {sdk : NostrSdk} {w : World} {c : Run} (hc : Reachable (service sdk) w c)
    {j k k' : Nat} {challenge challenge' : Challenge} (h : Redeems c.log j k challenge)
    (h' : Redeems c.log j k' challenge') : k = k' := by
  have hsame : challenge' = challenge := by
    obtain ⟨e, _, _, he, hevent⟩ := h.issued
    obtain ⟨e', _, _, he', hevent'⟩ := h'.issued
    rw [he] at he'
    cases he'
    rw [hevent] at hevent'
    cases hevent'
    rfl
  subst hsame
  rcases Nat.lt_trichotomy k k' with hlt | heq | hlt
  · exact absurd (fun m x hm hm' => h'.last m x (Nat.lt_trans h.before hm) hm')
      (consumed_twice hc h.consumed h'.consumed hlt rfl)
  · exact heq
  · exact absurd (fun m x hm hm' => h.last m x (Nat.lt_trans h'.before hm) hm')
      (consumed_twice hc h'.consumed h.consumed hlt rfl)

end NostrAuth.Server
