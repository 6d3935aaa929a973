import NostrAuth.Challenge

/-! Many `ChallengeStore` instances on one database file. Whatever the schedule, the
clocks and the crashes, a challenge is handed out at most once, as it was issued. -/

set_option autoImplicit false

namespace NostrAuth.ChallengeConcurrency

open Transaction ChallengeTable

/-- A call of some instance; `issue` carries that instance's time to live and the
nonce it draws. -/
inductive ChallengeCall
  | issue (ttl_seconds : Ttl) (nonce domain action : String)
  | consume (nonce : Json)

inductive ChallengeReply
  | issued (challenge : Challenge)
  | consumed (challenge : Option Challenge)
  deriving DecidableEq

def program : ChallengeCall → Script ChallengeTable Exn ChallengeReply
  | .issue ttl nonce domain action =>
    (ChallengeStore.issue ttl nonce domain action).bind fun c => .ret (.issued c)
  | .consume nonce => (ChallengeStore.consume nonce).bind fun c => .ret (.consumed c)

abbrev ChallengeDb := Db ChallengeCall ChallengeTable Exn ChallengeReply

/-- Every schedule of any number of calls, from the empty table. -/
abbrev Run (d : ChallengeDb) : Prop := Reachable program Anytime Table.empty d

/-- `before` became `after` when `c` was stored. -/
def Inserts (before after : ChallengeTable) (c : Challenge) : Prop :=
  ∃ t cursor, insertNew c (deleteExpired t before) = .ok (after, cursor)

/-- `before` became `after` when the pending row `r` was marked. -/
def Takes (before after : ChallengeTable) (r : ChallengeRow) : Prop :=
  ∃ t, selectPending (some r.nonce) before = some r ∧
    after = markConsumed t (some r.nonce) before

/-- What a call may commit, after the changes `trail` of its own. -/
def Commits : ChallengeCall → List (ChallengeTable × ChallengeTable) →
    ChallengeTable → ChallengeTable → Prop
  | .issue ttl nonce domain action, trail, before, after => trail = [] ∧
    ∃ t, Inserts before after (new_challenge nonce domain action ttl t)
  | .consume nonce, trail, before, after => trail = [] ∧
    (after = before ∨ ∃ r, bindText nonce = .ok (some r.nonce) ∧ Takes before after r)

/-- How a call may end. -/
def Ends : ChallengeCall → List (ChallengeTable × ChallengeTable) →
    Except Exn ChallengeReply → Prop
  | .issue ttl nonce domain action, trail, .ok (.issued c) =>
    (∃ t, c = new_challenge nonce domain action ttl t) ∧
      ∃ x ∈ trail, Inserts x.1 x.2 c
  | .consume nonce, trail, .ok (.consumed (some c)) =>
    ∃ x ∈ trail, ∃ r, bindText nonce = .ok (some r.nonce) ∧ Takes x.1 x.2 r ∧ r.toChallenge = c
  | .issue .., _, .ok (.consumed _) => False
  | .consume _, _, .ok (.issued _) => False
  | _, _, _ => True

theorem issue_ok (ttl : Ttl) (nonce domain action : String) :
    (program (.issue ttl nonce domain action)).Ok (fun _ _ _ => True)
      (Commits (.issue ttl nonce domain action)) (Ends (.issue ttl nonce domain action)) [] none := by
  simp only [program, ChallengeStore.issue, Script.bind_eq, Script.now_bind, Script.closing,
    Script.dml, Script.clock_bind, Script.Ok]
  intro t t'
  simp only [Script.execute_bind, Script.attempt, Script.Ok, Script.meets, Script.ofExcept,
    Script.ret_bind]
  intro before _
  cases h : insertNew (new_challenge nonce domain action ttl t) (deleteExpired t' before) with
  | error e => simp [Script.attempt, Script.Ok, Ends]
  | ok x =>
    have hins : Inserts before x.1 (new_challenge nonce domain action ttl t) := ⟨t', x.2, h⟩
    simp only [Script.attempt, Script.commitNow]
    exact ⟨⟨rfl, t, hins⟩, rfl, ⟨t, rfl⟩, _, List.mem_singleton.mpr rfl, hins⟩

theorem consume_ok (nonce : Json) :
    (program (.consume nonce)).Ok (fun _ _ _ => True)
      (Commits (.consume nonce)) (Ends (.consume nonce)) [] none := by
  simp only [program, ChallengeStore.consume, ChallengeStore.takeRow, Script.bind_eq,
    Script.now_bind, Script.closing, Script.clock_bind, Script.Ok]
  intro t
  simp only [Script.beginImmediate_bind, Script.attempt, Script.Ok, Script.meets]
  intro before _
  cases hkey : bindText nonce with
  | error e => simp [Script.ofExcept, Script.attempt, Script.Ok, Ends]
  | ok key =>
    simp only [Script.ofExcept, Script.ret_bind, Script.select_bind, Script.attempt,
      Script.query_bind, Script.Ok, Script.meets]
    cases hrow : selectPending key before with
    | none =>
      simp [Script.commitNow, Script.attempt, Script.Ok, Commits, ChallengeStore.unlessExpired,
        Ends]
    | some r =>
      obtain ⟨hr, hp⟩ := Table.find_some hrow
      obtain ⟨rfl, _⟩ := pending_iff.mp hp
      have htakes : Takes before (markConsumed t (some r.nonce) before) r := ⟨t, hrow, rfl⟩
      simp only [Script.dml, Script.commitNow, Script.attempt, Script.ofExcept, Script.Ok, Commits,
        Script.execute_bind, Script.ret_bind, Script.commit_bind, Script.close_bind, Script.pure_eq,
        Script.meets, ChallengeStore.unlessExpired]
      refine ⟨⟨trivial, Or.inr ⟨r, hkey, htakes⟩⟩, trivial, ?_⟩
      split
      · trivial
      · exact ⟨_, List.mem_singleton.mpr rfl, r, hkey, htakes, rfl⟩

theorem program_ok (c : ChallengeCall) :
    (program c).Ok (fun _ _ _ => True) (Commits c) (Ends c) [] none := by
  cases c with
  | issue ttl nonce domain action => exact issue_ok ttl nonce domain action
  | consume nonce => exact consume_ok nonce

/-- The run rule, at the stores of one file. -/
theorem run_verified {d : ChallengeDb} (hd : Run d) :
    Verified Table.empty (fun _ => True) (fun _ _ _ _ => True) Commits Ends d :=
  hd.verified (Sound.anytime program_ok fun _ _ _ _ _ _ => trivial) trivial

/-! ## The history of a run -/

section History

variable (d : ChallengeDb)

/-- The change `x` is the commit of an `issue` call of `d` that stored `c`. -/
def Issued (x : Change ChallengeTable) (c : Challenge) : Prop :=
  ∃ p ttl t, d.proc x.who = some p ∧ p.call = .issue ttl c.nonce c.domain c.action ∧
    c = new_challenge c.nonce c.domain c.action ttl t ∧ Inserts x.before x.after c

/-- The change `x` is the commit of a `consume` call of `d` that took the row `r`. -/
def Taken (x : Change ChallengeTable) (r : ChallengeRow) : Prop :=
  ∃ p nonce, d.proc x.who = some p ∧ p.call = .consume nonce ∧
    bindText nonce = .ok (some r.nonce) ∧ Takes x.before x.after r

/-- No two `issue` calls draw the same nonce. -/
def DistinctNonces : Prop :=
  ∀ i j p q ttl ttl' n domain domain' action action', d.proc i = some p → d.proc j = some q →
    p.call = .issue ttl n domain action → q.call = .issue ttl' n domain' action' → i = j

/-- What the changes so far say about the table they led to. -/
structure Recorded (hist : List (Change ChallengeTable)) (table : ChallengeTable) : Prop where
  issued : ∀ r ∈ table, ∃ x ∈ hist, Issued d x r.toChallenge
  origin : ∀ x ∈ hist, ∀ r, Taken d x r → ∃ y ∈ hist, Issued d y r.toChallenge
  spent : ∀ x ∈ hist, ∀ r, Taken d x r → ∀ r' ∈ table, r'.nonce = r.nonce → r'.consumed_at ≠ none
  once : ∀ x ∈ hist, ∀ y ∈ hist, ∀ r r', Taken d x r → Taken d y r' → r.nonce = r'.nonce →
    x.who = y.who
  same : ∀ x ∈ hist, ∀ y ∈ hist, ∀ c c', Issued d x c → Issued d y c' → c.nonce = c'.nonce → c = c'

end History

variable {d : ChallengeDb}

theorem Takes.not_pending {before after : ChallengeTable} {r r' : ChallengeRow}
    (h : Takes before after r) (hr : r' ∈ after) (hn : r'.nonce = r.nonce) :
    r'.consumed_at ≠ none := by
  obtain ⟨t, _, rfl⟩ := h
  rcases mem_markConsumed.mp hr with ⟨_, hp⟩ | ⟨a, _, _, rfl⟩
  · intro hc
    rw [pending_iff.mpr ⟨congrArg some hn.symm, hc⟩] at hp
    cases hp
  · exact Option.some_ne_none t

theorem Takes.mem {before after : ChallengeTable} {r : ChallengeRow} (h : Takes before after r) :
    r ∈ before ∧ r.consumed_at = none := by
  obtain ⟨t, hsel, _⟩ := h
  obtain ⟨hr, _, hc⟩ := selectPending_eq_some.mp hsel
  exact ⟨hr, hc⟩

/-- Marking a row changes what no other column says. -/
theorem Takes.row {before after : ChallengeTable} {r r' : ChallengeRow} (h : Takes before after r)
    (hr : r' ∈ after) :
    r' ∈ before ∨ r'.consumed_at ≠ none ∧ ∃ a ∈ before, r'.toChallenge = a.toChallenge := by
  obtain ⟨t, _, rfl⟩ := h
  rcases mem_markConsumed.mp hr with ⟨hr, _⟩ | ⟨a, ha, _, rfl⟩
  · exact Or.inl hr
  · exact Or.inr ⟨Option.some_ne_none t, a, ha, rfl⟩

/-- The rows after an insertion are the new one and rows that were there. -/
theorem Inserts.row {before after : ChallengeTable} {c : Challenge} {r : ChallengeRow}
    (h : Inserts before after c) (hr : r ∈ after) : r ∈ before ∨ r = ⟨c, none⟩ := by
  obtain ⟨t, cursor, hins⟩ := h
  unfold insertNew at hins
  split at hins
  · next table' hi =>
    cases hins
    rcases (Table.mem_of_insert hi).mp hr with hr | rfl
    · exact Or.inl (mem_deleteExpired.mp hr).1
    · exact Or.inr rfl
  · cases hins

theorem Inserts.eq {before after : ChallengeTable} {c c' : Challenge} (h : Inserts before after c)
    (h' : Inserts before after c') (hn : c.nonce = c'.nonce) : c = c' := by
  have hmem : ∀ {b}, Inserts before after b → (⟨b, none⟩ : ChallengeRow) ∈ after := by
    rintro b ⟨t, cursor, hins⟩
    unfold insertNew at hins
    split at hins
    · next hi =>
      cases hins
      exact (Table.mem_of_insert hi).mpr (Or.inr rfl)
    · cases hins
  exact congrArg ChallengeRow.toChallenge (Table.eq_of_key (hmem h) (hmem h') hn)

/-- One change is not the commit of two kinds of call. -/
theorem Taken.not_issued {x : Change ChallengeTable} {r : ChallengeRow} {c : Challenge}
    (h : Taken d x r) : ¬Issued d x c := by
  rintro ⟨p, ttl, t, hp, hcall, _⟩
  obtain ⟨q, nonce, hq, hcall', _⟩ := h
  rw [hp, Option.some.injEq] at hq
  subst hq
  rw [hcall] at hcall'
  cases hcall'

/-- What an earlier history says stays said when a change neither issues nor takes. -/
theorem Recorded.same_cons {x : Change ChallengeTable} {cs : List (Change ChallengeTable)}
    {table : ChallengeTable} (h : Recorded d cs table) (hx : ∀ c, ¬Issued d x c) :
    ∀ y ∈ x :: cs, ∀ z ∈ x :: cs, ∀ c c', Issued d y c → Issued d z c' → c.nonce = c'.nonce →
      c = c' := by
  intro y hy z hz c c' hc hc'
  rcases List.mem_cons.mp hy with rfl | hy
  · exact absurd hc (hx c)
  · rcases List.mem_cons.mp hz with rfl | hz
    · exact absurd hc' (hx c')
    · exact h.same y hy z hz c c' hc hc'

theorem Recorded.take {x : Change ChallengeTable} {cs : List (Change ChallengeTable)}
    {r : ChallengeRow} (h : Recorded d cs x.before) (hx : Taken d x r) :
    Recorded d (x :: cs) x.after := by
  have hsame := h.same_cons fun c => hx.not_issued
  obtain ⟨_, _, _, _, _, htakes⟩ := hx
  -- a second take of the nonce would have met a pending row
  have hnever : ∀ y ∈ cs, ∀ a b, Taken d x a → Taken d y b → a.nonce ≠ b.nonce := by
    rintro y hy a b ⟨_, _, _, _, _, ha⟩ hb hn
    exact h.spent y hy b hb a ha.mem.1 hn ha.mem.2
  refine ⟨fun r' hr => ?_, fun y hy a ha => ?_, fun y hy a ha r' hr hn => ?_,
    fun y hy z hz a b ha hb hn => ?_, hsame⟩
  · have hold : ∃ a ∈ x.before, r'.toChallenge = a.toChallenge := by
      rcases htakes.row hr with hr | ⟨_, ha⟩
      · exact ⟨r', hr, rfl⟩
      · exact ha
    obtain ⟨a, ha, heq⟩ := hold
    obtain ⟨y, hy, hi⟩ := h.issued a ha
    exact ⟨y, List.mem_cons_of_mem _ hy, heq ▸ hi⟩
  · rcases List.mem_cons.mp hy with rfl | hy
    · obtain ⟨_, _, _, _, _, ha⟩ := ha
      obtain ⟨z, hz, hi⟩ := h.issued a ha.mem.1
      exact ⟨z, List.mem_cons_of_mem _ hz, hi⟩
    · obtain ⟨z, hz, hi⟩ := h.origin y hy a ha
      exact ⟨z, List.mem_cons_of_mem _ hz, hi⟩
  · rcases List.mem_cons.mp hy with rfl | hy
    · obtain ⟨_, _, _, _, _, ha⟩ := ha
      exact ha.not_pending hr hn
    · rcases htakes.row hr with hr | ⟨hc, _⟩
      · exact h.spent y hy a ha r' hr hn
      · exact hc
  · rcases List.mem_cons.mp hy with rfl | hold <;> rcases List.mem_cons.mp hz with rfl | hold'
    · rfl
    · exact absurd hn (hnever z hold' a b ha hb)
    · exact absurd hn.symm (hnever y hold b a hb ha)
    · exact h.once y hold z hold' a b ha hb hn

/-- A change that took no row adds nothing to what the history says of takes. -/
theorem Recorded.untaken {x : Change ChallengeTable} {cs : List (Change ChallengeTable)}
    {table : ChallengeTable} (h : Recorded d cs table) (hnot : ∀ r, ¬Taken d x r)
    (hissued : ∀ r ∈ x.after, ∃ y ∈ x :: cs, Issued d y r.toChallenge)
    (hspent : ∀ y ∈ cs, ∀ r, Taken d y r →
      ∀ r' ∈ x.after, r'.nonce = r.nonce → r'.consumed_at ≠ none)
    (hsame : ∀ y ∈ x :: cs, ∀ z ∈ x :: cs, ∀ c c', Issued d y c → Issued d z c' →
      c.nonce = c'.nonce → c = c') : Recorded d (x :: cs) x.after := by
  refine ⟨hissued, fun y hy r hr => ?_, fun y hy r hr => ?_, fun y hy z hz r r' hr hr' => ?_, hsame⟩
  · rcases List.mem_cons.mp hy with rfl | hy
    · exact absurd hr (hnot r)
    · obtain ⟨z, hz, hi⟩ := h.origin y hy r hr
      exact ⟨z, List.mem_cons_of_mem _ hz, hi⟩
  · rcases List.mem_cons.mp hy with rfl | hy
    · exact absurd hr (hnot r)
    · exact hspent y hy r hr
  · rcases List.mem_cons.mp hy with rfl | hy
    · exact absurd hr (hnot r)
    · rcases List.mem_cons.mp hz with rfl | hz
      · exact absurd hr' (hnot r')
      · exact h.once y hy z hz r r' hr hr'

theorem Recorded.issue {x : Change ChallengeTable} {cs : List (Change ChallengeTable)}
    {c : Challenge} (hd : DistinctNonces d) (h : Recorded d cs x.before) (hx : Issued d x c)
    (hfresh : changesOf x.who cs = []) : Recorded d (x :: cs) x.after := by
  obtain ⟨p, ttl, t, hp, hcall, _, hins⟩ := id hx
  -- an earlier change with the same nonce would be another commit of this call
  have hnew : ∀ y ∈ cs, ∀ c', Issued d y c' → c'.nonce ≠ c.nonce := by
    rintro y hy c' ⟨q, ttl', t', hq, hcall', _⟩ hn
    have hwho := hd y.who x.who q p ttl' ttl c'.nonce c'.domain c.domain c'.action c.action hq hp
      hcall' (hn ▸ hcall)
    have hmem : (y.before, y.after) ∈ changesOf x.who cs := mem_changesOf.mpr (hwho ▸ hy)
    rw [hfresh] at hmem
    cases hmem
  have hown : ∀ c', Issued d x c' → c' = c := by
    rintro c' ⟨q, ttl', t', hq, hcall', _, hins'⟩
    rw [hp, Option.some.injEq] at hq
    rw [← hq, hcall, ChallengeCall.issue.injEq] at hcall'
    exact hins'.eq hins hcall'.2.1.symm
  refine h.untaken (fun r hr => hr.not_issued hx) (fun r hr => ?_) (fun y hy r hr r' hr' hn => ?_)
    fun y hy z hz a b ha hb hn => ?_
  · rcases hins.row hr with hr | rfl
    · obtain ⟨y, hy, hi⟩ := h.issued r hr
      exact ⟨y, List.mem_cons_of_mem _ hy, hi⟩
    · exact ⟨x, List.mem_cons_self .., hx⟩
  · rcases hins.row hr' with hr' | rfl
    · exact h.spent y hy r hr r' hr' hn
    · obtain ⟨z, hz, hi⟩ := h.origin y hy r hr
      exact absurd hn.symm (hnew z hz _ hi)
  · rcases List.mem_cons.mp hy with rfl | hold <;> rcases List.mem_cons.mp hz with rfl | hold'
    · rw [hown a ha, hown b hb]
    · exact absurd (hown a ha ▸ hn).symm (hnew z hold' b hb)
    · exact absurd (hown b hb ▸ hn) (hnew y hold a ha)
    · exact h.same y hold z hold' a b ha hb hn

/-- A change that keeps the table took no row. -/
theorem Recorded.keep {x : Change ChallengeTable} {cs : List (Change ChallengeTable)}
    (h : Recorded d cs x.before) (hx : x.after = x.before) (hnot : ∀ c, ¬Issued d x c) :
    Recorded d (x :: cs) x.after := by
  have huntaken : ∀ r, ¬Taken d x r := by
    rintro r ⟨_, _, _, _, _, ht⟩
    exact ht.not_pending (hx ▸ ht.mem.1) rfl ht.mem.2
  refine h.untaken huntaken (fun r hr => ?_) (fun y hy r hr => hx ▸ h.spent y hy r hr)
    (h.same_cons hnot)
  obtain ⟨y, hy, hi⟩ := h.issued r (hx ▸ hr)
  exact ⟨y, List.mem_cons_of_mem _ hy, hi⟩

/-- The history invariant of every run. -/
theorem run_recorded (hd : Run d) (hn : DistinctNonces d) : Recorded d d.hist d.committed := by
  refine (run_verified hd).hist.rule (R := Recorded d) ?_ fun x cs hx _ ih => ?_
  · exact ⟨fun r hr => absurd hr (Table.not_mem_empty r), by simp, by simp, by simp,
      by simp⟩
  · obtain ⟨p, hp, hcommits⟩ := hx
    cases hcall : p.call with
    | issue ttl nonce domain action =>
      rw [hcall] at hcommits
      obtain ⟨hfresh, t, hins⟩ := hcommits
      exact ih.issue hn ⟨p, ttl, t, hp, hcall, rfl, hins⟩ hfresh
    | consume nonce =>
      rw [hcall] at hcommits
      obtain ⟨_, hsame | ⟨r, hkey, htakes⟩⟩ := hcommits
      · apply ih.keep hsame
        rintro c ⟨q, ttl, t, hq, hcall', _⟩
        rw [hp, Option.some.injEq] at hq
        rw [← hq, hcall] at hcall'
        cases hcall'
      · exact ih.take ⟨p, nonce, hp, hcall, hkey, htakes⟩

/-- Call `i` of `d` has returned the challenge `c` from `issue`. -/
def Handed (d : ChallengeDb) (i : Nat) (c : Challenge) : Prop :=
  ∃ p ttl nonce domain action, d.proc i = some p ∧ p.crashed = false ∧
    p.call = .issue ttl nonce domain action ∧ p.rest = .ret (.issued c)

/-- Call `i` of `d` has returned the challenge `c` from `consume nonce`. -/
def Returned (d : ChallengeDb) (i : Nat) (nonce : Json) (c : Challenge) : Prop :=
  ∃ p, d.proc i = some p ∧ p.crashed = false ∧ p.call = .consume nonce ∧
    p.rest = .ret (.consumed (some c))

theorem Handed.issued {i : Nat} {c : Challenge} (hd : Run d) (h : Handed d i c) :
    ∃ x ∈ d.hist, x.who = i ∧ Issued d x c := by
  obtain ⟨p, ttl, nonce, domain, action, hp, hcrash, hcall, hrest⟩ := h
  have hend := ((run_verified hd).ended hp hcrash).1 _ hrest
  rw [hcall] at hend
  obtain ⟨⟨t, rfl⟩, x, hx, hins⟩ := hend
  exact ⟨⟨i, x.1, x.2⟩, mem_changesOf.mp hx, rfl, p, ttl, t, hp, hcall, rfl, hins⟩

/-- A returned challenge stands in a row that the call took. -/
theorem Returned.taken {i : Nat} {nonce : Json} {c : Challenge} (hd : Run d)
    (h : Returned d i nonce c) : ∃ x ∈ d.hist, x.who = i ∧ ∃ r, Taken d x r ∧
      bindText nonce = .ok (some r.nonce) ∧ r.toChallenge = c := by
  obtain ⟨p, hp, hcrash, hcall, hrest⟩ := h
  have hend := ((run_verified hd).ended hp hcrash).1 _ hrest
  rw [hcall] at hend
  obtain ⟨x, hx, r, hkey, htakes, hr⟩ := hend
  exact ⟨⟨i, x.1, x.2⟩, mem_changesOf.mp hx, rfl, r, ⟨p, nonce, hp, hcall, hkey, htakes⟩, hkey, hr⟩

/-- **A challenge is used at most once.** In every run two calls that return a challenge
of one nonce are one call. What is returned for a nonce is the challenge that an `issue`
call stored under it, and the one that call returned if it came to its end. -/
theorem consume_once (d : ChallengeDb) (hd : Run d) (hn : DistinctNonces d) :
    (∀ i j nonce nonce' c c', Returned d i nonce c → Returned d j nonce' c' →
      c.nonce = c'.nonce → i = j) ∧
    (∀ i nonce c, Returned d i nonce c → bindText nonce = .ok (some c.nonce) ∧
      ∃ x ∈ d.hist, Issued d x c) ∧
    ∀ i nonce c j c', Returned d i nonce c → Handed d j c' → c'.nonce = c.nonce → c' = c := by
  have hrec := run_recorded hd hn
  refine ⟨fun i j nonce nonce' c c' hc hc' heq => ?_, fun i nonce c hc => ?_,
    fun i nonce c j c' hc hc' heq => ?_⟩
  · obtain ⟨x, hx, rfl, r, htaken, _, rfl⟩ := hc.taken hd
    obtain ⟨y, hy, rfl, r', htaken', _, rfl⟩ := hc'.taken hd
    exact hrec.once x hx y hy r r' htaken htaken' heq
  · obtain ⟨x, hx, rfl, r, htaken, hkey, rfl⟩ := hc.taken hd
    exact ⟨hkey, hrec.origin x hx r htaken⟩
  · obtain ⟨x, hx, rfl, r, htaken, _, rfl⟩ := hc.taken hd
    obtain ⟨y, hy, hi⟩ := hrec.origin x hx r htaken
    obtain ⟨z, hz, rfl, hi'⟩ := hc'.issued hd
    exact hrec.same z hz y hy c' r.toChallenge hi' hi heq

/-- Two instances race for the challenge that a third one issued. -/
def raceMoves : List (Move ChallengeCall) :=
  [.start 0 (.issue DEFAULT_TTL_SECONDS "n" "example.org" "yunohost-login")] ++
    List.replicate 6 (.go 0 100) ++
    [.start 1 (.consume (.str "n")), .start 2 (.consume (.str "n")), .go 1 101, .go 2 101,
      .go 1 0, .go 2 0, .go 1 0, .go 1 0, .go 1 0, .go 1 0] ++ List.replicate 4 (.go 2 0)

def race : ChallengeDb := (Db.init Table.empty).play program raceMoves

theorem race_other {i : Nat} (h : 3 ≤ i) : race.proc i = none := by
  have hwho : ∀ m ∈ raceMoves, m.who < 3 := by decide
  apply proc_play_other program _
  intro m hm
  have := hwho m hm
  omega

theorem race_distinct : DistinctNonces race := by
  have honly : ∀ i p ttl n domain action, race.proc i = some p →
      p.call = .issue ttl n domain action → i = 0 := by
    intro i p ttl n domain action hp hcall
    match i with
    | 0 => rfl
    | 1 | 2 => cases hp; cases hcall
    | i + 3 => rw [race_other (by omega)] at hp; cases hp
  intro i j p q ttl ttl' n domain domain' action action' hp hq hcall hcall'
  rw [honly i p _ _ _ _ hp hcall, honly j q _ _ _ _ hq hcall']

theorem race_once :
    Returned race 1 (.str "n") ⟨"n", "example.org", "yunohost-login", 100, 190⟩ ∧
      ∀ j nonce c, Returned race j nonce c → c.nonce = "n" → 1 = j := by
  have hreturned : Returned race 1 (.str "n") ⟨"n", "example.org", "yunohost-login", 100, 190⟩ :=
    ⟨_, rfl, rfl, rfl, rfl⟩
  refine ⟨hreturned, fun j nonce c hc hn => ?_⟩
  exact (consume_once race (Reachable.init.play (admits_anytime program _ raceMoves)) race_distinct).1 1 j _ _ _ _
    hreturned hc hn.symm

end NostrAuth.ChallengeConcurrency
