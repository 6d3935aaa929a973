import NostrAuth.Lib.Clients

/-! Two machines, of which one leaves some of its calls to jobs of the other: such a call opens a
job there, waits, and goes on with an answer that depends on what became of the job. -/

set_option autoImplicit false

namespace Interaction.Delegation

variable {Op Op' : Type} {Ans : Op → Type} {Ans' : Op' → Type}
variable {ε ε' α α' In In' W W' Job Job' : Type}

/-- How the calls of the one machine are served by the other. -/
structure Protocol (Op In ε' α' Job' : Type) where
  /-- The calls that are left to the other machine. -/
  delegated : Op → Prop
  /-- The jobs that a call may open. -/
  opens : Op → Job' → Prop
  /-- What comes of a call when its job ended like this, or when there is no end to be seen. -/
  answers : Op → In → Option (Except ε' α') → Prop
  /-- The jobs that anybody else may send to the other machine. -/
  strange : Job' → Prop

/-- A call that opened a job: who made it, and how long the log was then. -/
structure Opening (Op : Type) where
  who : Nat
  op : Op
  since : Nat

/-- Both machines. `opening` is history: no step reads it. -/
structure Joint (Op : Type) (Ans : Op → Type) (ε α In W Job : Type) (Op' : Type) (Ans' : Op' → Type)
    (ε' α' In' W' Job' : Type) where
  outer : Config Op Ans ε α In W Job
  inner : Config Op' Ans' ε' α' In' W' Job'
  /-- The job that a call waits for. -/
  waiting : Nat → Option Nat
  opening : Nat → Option (Opening Op)

def Joint.init (w : W) (w' : W') : Joint Op Ans ε α In W Job Op' Ans' ε' α' In' W' Job' :=
  ⟨.init w, .init w', fun _ => none, fun _ => none⟩

/-- How a job ended. -/
def ending (c : Config Op Ans ε α In W Job) (j : Nat) : Option (Except ε α) :=
  match c.running j with
  | some (.ret a) => some (.ok a)
  | some (.raise e) => some (.error e)
  | _ => none

/-- The configuration after the call that `i` makes next. -/
def called (M : Machine Op Ans ε α In W Job) (c : Config Op Ans ε α In W Job) (i : Nat)
    (o : Op) (k : Ans o → Prog Op Ans ε α) (inp : In) : Config Op Ans ε α In W Job :=
  { c with world := (M.exec o inp c.world).2
           log := c.log ++ [M.entry i o inp c.world]
           running := Function.update c.running i (some (k (M.exec o inp c.world).1)) }

/-- The configuration after a job arrived. -/
def arrived (M : Machine Op Ans ε α In W Job) (c : Config Op Ans ε α In W Job) (i : Nat)
    (j : Job) : Config Op Ans ε α In W Job :=
  { c with job := Function.update c.job i (some j)
           running := Function.update c.running i (some (M.program j)) }

section Steps

variable (M : Machine Op Ans ε α In W Job) (M' : Machine Op' Ans' ε' α' In' W' Job')
variable (P : Protocol Op In ε' α' Job')

/-- Either machine steps on its own, where no call is delegated and strange jobs only arrive; or a
delegated call opens its job, or goes on. -/
inductive Step (x : Joint Op Ans ε α In W Job Op' Ans' ε' α' In' W' Job') :
    Joint Op Ans ε α In W Job Op' Ans' ε' α' In' W' Job' → Prop
  | outer (c : Config Op Ans ε α In W Job) : Interaction.Step M x.outer c →
      (c.log = x.outer.log ∨ ∃ e, c.log = x.outer.log ++ [e] ∧ ¬P.delegated e.op) →
      Step x { x with outer := c }
  | inner (c : Config Op' Ans' ε' α' In' W' Job') : Interaction.Step M' x.inner c →
      (∀ j job, c.job j = some job → x.inner.job j = some job ∨ P.strange job) →
      Step x { x with inner := c }
  | opens (i j : Nat) (o : Op) (k : Ans o → Prog Op Ans ε α) (job : Job') :
      x.outer.running i = some (.call o k) → P.delegated o → x.waiting i = none →
      x.inner.job j = none → P.opens o job →
      Step x { x with inner := arrived M' x.inner j job
                      waiting := Function.update x.waiting i (some j)
                      opening := Function.update x.opening j (some ⟨i, o, x.outer.log.length⟩) }
  | goesOn (i j : Nat) (o : Op) (k : Ans o → Prog Op Ans ε α) (inp : In) :
      x.outer.running i = some (.call o k) → x.waiting i = some j →
      P.answers o inp (ending x.inner j) →
      Step x { x with outer := called M x.outer i o k inp
                      waiting := Function.update x.waiting i none }
  /-- No job could be opened. -/
  | fails (i : Nat) (o : Op) (k : Ans o → Prog Op Ans ε α) (inp : In) :
      x.outer.running i = some (.call o k) → P.delegated o → x.waiting i = none →
      P.answers o inp none →
      Step x { x with outer := called M x.outer i o k inp }

/-- The joint configurations of all runs from these worlds. -/
def Reachable (w : W) (w' : W') : Joint Op Ans ε α In W Job Op' Ans' ε' α' In' W' Job' → Prop :=
  Relation.ReflTransGen (Step M M' P) (Joint.init w w')

end Steps

variable {M : Machine Op Ans ε α In W Job} {M' : Machine Op' Ans' ε' α' In' W' Job'}
variable {P : Protocol Op In ε' α' Job'} {w : W} {w' : W'}
variable {x : Joint Op Ans ε α In W Job Op' Ans' ε' α' In' W' Job'}

/-- **Invariant rule.** -/
theorem Reachable.invariant {I : Joint Op Ans ε α In W Job Op' Ans' ε' α' In' W' Job' → Prop}
    (h0 : I (Joint.init w w'))
    (hstep : ∀ x x', Reachable M M' P w w' x → I x → Step M M' P x x' → I x')
    (hx : Reachable M M' P w w' x) : I x := by
  induction hx with
  | refl => exact h0
  | tail hr hs ih => exact hstep _ _ hr ih hs

/-! ## Each machine on its own -/

theorem called_step {c : Config Op Ans ε α In W Job} {i : Nat} {o : Op}
    {k : Ans o → Prog Op Ans ε α} (inp : In) (hk : c.running i = some (.call o k)) :
    Interaction.Step M c (called M c i o k inp) :=
  .call i o k inp hk

/-- **Each machine runs as it would alone.** -/
theorem Reachable.outer (hx : Reachable M M' P w w' x) : Interaction.Reachable M w x.outer := by
  apply hx.invariant (I := fun x => Interaction.Reachable M w x.outer) .init
  intro x x' _ ih hs
  cases hs with
  | outer c hstep _ => exact ih.step hstep
  | inner c _ _ => exact ih
  | opens i j o k job _ _ _ _ _ => exact ih
  | goesOn i j o k inp hk _ _ => exact ih.step (called_step inp hk)
  | fails i o k inp hk _ _ _ => exact ih.step (called_step inp hk)

theorem Reachable.inner (hx : Reachable M M' P w w' x) : Interaction.Reachable M' w' x.inner := by
  apply hx.invariant (I := fun x => Interaction.Reachable M' w' x.inner) .init
  intro x x' _ ih hs
  cases hs with
  | outer c _ _ => exact ih
  | inner c hstep _ => exact ih.step hstep
  | opens i j o k job _ _ _ hj _ => exact ih.step (.arrive j job hj)
  | goesOn i j o k inp _ _ _ => exact ih
  | fails i o k inp _ _ _ _ => exact ih

/-! ## What stays -/

/-- Jobs keep their names, and the log only grows. -/
structure Later (c c' : Config Op Ans ε α In W Job) : Prop where
  job : ∀ i j, c.job i = some j → c'.job i = some j
  log : ∃ rest, c'.log = c.log ++ rest

namespace Later

variable {c c' : Config Op Ans ε α In W Job}

theorem refl (c : Config Op Ans ε α In W Job) : Later c c := ⟨fun _ _ h => h, [], by simp⟩

theorem length_le (h : Later c c') : c.log.length ≤ c'.log.length := by
  obtain ⟨rest, hrest⟩ := h.log
  rw [hrest, List.length_append]
  omega

theorem getElem? (h : Later c c') {m : Nat} {e : Entry Op Ans In W} (he : c.log[m]? = some e) :
    c'.log[m]? = some e := by
  obtain ⟨rest, hrest⟩ := h.log
  rw [hrest, List.getElem?_append_left (List.getElem?_eq_some_iff.mp he).1, he]

theorem take (h : Later c c') {n : Nat} (hn : n ≤ c.log.length) : c'.log.take n = c.log.take n := by
  obtain ⟨rest, hrest⟩ := h.log
  rw [hrest, List.take_append_of_le_length hn]

theorem called (i : Nat) (o : Op) (k : Ans o → Prog Op Ans ε α) (inp : In) :
    Later c (called M c i o k inp) := ⟨fun _ _ h => h, _, rfl⟩

theorem arrived {i : Nat} (hi : c.job i = none) (j : Job) : Later c (arrived M c i j) := by
  refine ⟨fun i' j' h => ?_, [], by simp [Delegation.arrived]⟩
  have hne : i' ≠ i := by
    rintro rfl
    rw [hi] at h
    cases h
  exact (Function.update_of_ne hne _ _).trans h

theorem of_step (h : Interaction.Step M c c') : Later c c' := by
  cases h with
  | arrive i j hi => exact Later.arrived hi j
  | call i o k inp _ => exact Later.called i o k inp
  | abort i => exact ⟨fun _ _ h => h, [], by simp⟩
  | restart inp => exact ⟨fun _ _ h => h, [], by simp⟩

end Later

/-! ## The jobs that calls open -/

/-- After its job was opened, the call went on. -/
def WentOn (log : List (Entry Op Ans In W)) (p : Opening Op) : Prop :=
  ∃ (m : Nat) (e : Entry Op Ans In W), p.since ≤ m ∧ log[m]? = some e ∧ e.who = p.who ∧ e.op = p.op

/-- What is known of a call that opened the job `j`: it went on, or it waits for the job, or its
program was given up while it waited. -/
structure Opened (P : Protocol Op In ε' α' Job')
    (x : Joint Op Ans ε α In W Job Op' Ans' ε' α' In' W' Job') (j : Nat) (p : Opening Op) : Prop where
  delegated : P.delegated p.op
  since : p.since ≤ x.outer.log.length
  caller : ∃ job, x.outer.job p.who = some job
  opens : ∃ job, x.inner.job j = some job ∧ P.opens p.op job
  state : (x.waiting p.who ≠ some j ∧ WentOn x.outer.log p) ∨ (x.waiting p.who = some j ∧
    (x.outer.running p.who = none ∨ ∃ k, x.outer.running p.who = some (.call p.op k)))

theorem WentOn.later {c c' : Config Op Ans ε α In W Job} {p : Opening Op} (h : WentOn c.log p)
    (hlater : Later c c') : WentOn c'.log p := by
  obtain ⟨m, e, hm, he, hrest⟩ := h
  exact ⟨m, e, hm, hlater.getElem? he, hrest⟩

/-- A step of the outer machine that is no delegated call. -/
theorem Opened.outer {c : Config Op Ans ε α In W Job} {j : Nat} {p : Opening Op}
    (h : Opened P x j p) (hstep : Interaction.Step M x.outer c)
    (hlog : c.log = x.outer.log ∨ ∃ e, c.log = x.outer.log ++ [e] ∧ ¬P.delegated e.op) :
    Opened P { x with outer := c } j p := by
  have hlater := Later.of_step hstep
  obtain ⟨job, hjob⟩ := h.caller
  refine ⟨h.delegated, Nat.le_trans h.since hlater.length_le, ⟨job, hlater.job _ _ hjob⟩, h.opens, ?_⟩
  rcases h.state with ⟨hfree, hwent⟩ | ⟨hwaits, hstate⟩
  · exact Or.inl ⟨hfree, hwent.later hlater⟩
  refine Or.inr ⟨hwaits, ?_⟩
  cases hstep with
  | arrive i job' hi =>
    have hne : p.who ≠ i := by
      rintro rfl
      rw [hi] at hjob
      cases hjob
    show Function.update x.outer.running i _ p.who = none ∨ _
    simp only [Function.update_of_ne hne]
    exact hstate
  | call i o k inp hk =>
    by_cases hne : p.who = i
    · -- the call that waits is delegated, and this one is not
      subst hne
      rcases hstate with hgone | ⟨k', hk'⟩
      · rw [hgone] at hk
        cases hk
      · cases hk.symm.trans hk'
        rcases hlog with hlog | ⟨e, hlog, hnot⟩
        · simp at hlog
        · obtain rfl : M.entry p.who p.op inp x.outer.world = e :=
            List.singleton_inj.mp (List.append_cancel_left hlog)
          exact absurd h.delegated hnot
    · simp only [Function.update_of_ne hne]
      exact hstate
  | abort i =>
    by_cases hne : p.who = i
    · exact Or.inl (hne ▸ Function.update_self ..)
    · simp only [Function.update_of_ne hne]
      exact hstate
  | restart inp => exact Or.inl rfl

/-- The delegated call of `i` goes on. -/
theorem Opened.called {j i : Nat} {p : Opening Op} (h : Opened P x j p) {o : Op}
    {k : Ans o → Prog Op Ans ε α} (inp : In) (hk : x.outer.running i = some (.call o k))
    {waiting : Nat → Option Nat} (hclear : waiting i = none)
    (hwaiting : ∀ i', i' ≠ i → waiting i' = x.waiting i') :
    Opened P { x with outer := called M x.outer i o k inp, waiting } j p := by
  have hlater : Later x.outer (Delegation.called M x.outer i o k inp) := Later.called i o k inp
  refine ⟨h.delegated, Nat.le_trans h.since hlater.length_le, h.caller, h.opens, ?_⟩
  by_cases hi : p.who = i
  · subst hi
    refine Or.inl ⟨by simp [hclear], ?_⟩
    rcases h.state with ⟨_, hwent⟩ | ⟨_, hgone | ⟨k', hk'⟩⟩
    · exact hwent.later hlater
    · rw [hgone] at hk
      cases hk
    · cases hk.symm.trans hk'
      exact ⟨x.outer.log.length, M.entry p.who p.op inp x.outer.world, h.since,
        List.getElem?_concat_length, rfl, rfl⟩
  · have hrunning : (Delegation.called M x.outer i o k inp).running p.who = x.outer.running p.who :=
      Function.update_of_ne hi _ _
    show (waiting p.who ≠ some j ∧ _) ∨ (waiting p.who = some j ∧ _)
    rw [hwaiting _ hi, hrunning]
    exact h.state.imp_left fun hstate => ⟨hstate.1, hstate.2.later hlater⟩

/-- The other machine steps. -/
theorem Opened.inner {c : Config Op' Ans' ε' α' In' W' Job'} {j : Nat} {p : Opening Op}
    (h : Opened P x j p) (hlater : Later x.inner c) : Opened P { x with inner := c } j p := by
  obtain ⟨job, hjob, hopens⟩ := h.opens
  exact ⟨h.delegated, h.since, h.caller, ⟨job, hlater.job _ _ hjob, hopens⟩, h.state⟩

/-- **A call opens one job.** Between two jobs that were opened for one program, its first call
went on. -/
structure Kept (P : Protocol Op In ε' α' Job')
    (x : Joint Op Ans ε α In W Job Op' Ans' ε' α' In' W' Job') : Prop where
  opened : ∀ j p, x.opening j = some p → Opened P x j p
  apart : ∀ j j' p p', x.opening j = some p → x.opening j' = some p' → p.who = p'.who →
    j = j' ∨ WentOn (x.outer.log.take p'.since) p ∨ WentOn (x.outer.log.take p.since) p'
  jobs : ∀ j job, x.inner.job j = some job → P.strange job ∨ ∃ p, x.opening j = some p
  waits : ∀ i j, x.waiting i = some j → ∃ p, x.opening j = some p ∧ p.who = i

theorem Kept.apart_later (h : Kept P x) {c : Config Op Ans ε α In W Job} (hlater : Later x.outer c)
    {j j' : Nat} {p p' : Opening Op} (hp : x.opening j = some p) (hp' : x.opening j' = some p')
    (hwho : p.who = p'.who) :
    j = j' ∨ WentOn (c.log.take p'.since) p ∨ WentOn (c.log.take p.since) p' := by
  rw [hlater.take (h.opened j p hp).since, hlater.take (h.opened j' p' hp').since]
  exact h.apart j j' p p' hp hp' hwho

/-- A program whose call waits for nothing has gone on from every job that was opened for it. -/
theorem Opened.went_on {j i : Nat} {p : Opening Op} (h : Opened P x j p) (hi : p.who = i)
    (hwaits : x.waiting i = none) : WentOn x.outer.log p := by
  subst hi
  rcases h.state with ⟨_, hwent⟩ | ⟨hwaits', _⟩
  · exact hwent
  · rw [hwaits] at hwaits'
    cases hwaits'

theorem Reachable.kept (hx : Reachable M M' P w w' x) : Kept P x := by
  apply hx.invariant (I := Kept P)
  · exact ⟨by simp [Joint.init], by simp [Joint.init], by simp [Joint.init, Config.init],
      by simp [Joint.init]⟩
  intro x x' hr ih hs
  cases hs with
  | outer c hstep hlog =>
    exact ⟨fun j p hp => (ih.opened j p hp).outer hstep hlog,
      fun _ _ _ _ => ih.apart_later (Later.of_step hstep), ih.jobs, ih.waits⟩
  | inner c hstep hstrange =>
    refine ⟨fun j p hp => (ih.opened j p hp).inner (Later.of_step hstep), ih.apart,
      fun j job hj => ?_, ih.waits⟩
    rcases hstrange j job hj with hold | hnew
    · exact ih.jobs j job hold
    · exact Or.inl hnew
  | opens i j o k job hk ho hwaits hj hopens =>
    obtain ⟨caller, hcaller⟩ := hr.outer.job_of_running hk
    have hlater := Later.arrived (M := M') hj job
    have hfresh : ∀ j' p', x.opening j' = some p' → j' ≠ j := by
      rintro j' p' hp' rfl
      obtain ⟨job', hjob', _⟩ := (ih.opened j' p' hp').opens
      rw [hj] at hjob'
      cases hjob'
    refine ⟨fun j' p' hp' => ?_, fun j₁ j₂ p₁ p₂ hp₁ hp₂ hwho => ?_, fun j' job' hj' => ?_,
      fun i' j' hwaits' => ?_⟩
    · rcases update_eq_some hp' with ⟨rfl, rfl⟩ | ⟨hne, hold⟩
      · exact ⟨ho, Nat.le_refl _, ⟨caller, hcaller⟩, ⟨job, Function.update_self .., hopens⟩,
          Or.inr ⟨Function.update_self .., Or.inr ⟨k, hk⟩⟩⟩
      · have hopened := ih.opened j' p' hold
        have hinner := hopened.inner hlater
        refine ⟨hinner.delegated, hinner.since, hinner.caller, hinner.opens, ?_⟩
        by_cases hi : p'.who = i
        · refine Or.inl ⟨?_, hopened.went_on hi hwaits⟩
          show Function.update x.waiting i (some j) p'.who ≠ some j'
          rw [hi, Function.update_self]
          exact fun h => hne (Option.some.inj h).symm
        · show (Function.update x.waiting i (some j) p'.who ≠ some j' ∧ _) ∨
            (Function.update x.waiting i (some j) p'.who = some j' ∧ _)
          rw [Function.update_of_ne hi]
          exact hopened.state
    · rcases update_eq_some hp₁ with ⟨rfl, rfl⟩ | ⟨_, hold₁⟩
      · rcases update_eq_some hp₂ with ⟨rfl, rfl⟩ | ⟨_, hold₂⟩
        · exact Or.inl rfl
        · refine Or.inr (Or.inr ?_)
          rw [List.take_length]
          exact (ih.opened j₂ p₂ hold₂).went_on hwho.symm hwaits
      · rcases update_eq_some hp₂ with ⟨rfl, rfl⟩ | ⟨_, hold₂⟩
        · refine Or.inr (Or.inl ?_)
          rw [List.take_length]
          exact (ih.opened j₁ p₁ hold₁).went_on hwho hwaits
        · exact ih.apart j₁ j₂ p₁ p₂ hold₁ hold₂ hwho
    · rcases update_eq_some hj' with ⟨rfl, rfl⟩ | ⟨hne, hold⟩
      · exact Or.inr ⟨_, Function.update_self ..⟩
      · refine (ih.jobs j' job' hold).imp_right ?_
        rintro ⟨p', hp'⟩
        exact ⟨p', (Function.update_of_ne hne _ _).trans hp'⟩
    · rcases update_eq_some hwaits' with ⟨rfl, rfl⟩ | ⟨_, hold⟩
      · exact ⟨_, Function.update_self .., rfl⟩
      · obtain ⟨p', hp', hwho⟩ := ih.waits i' j' hold
        exact ⟨p', (Function.update_of_ne (hfresh j' p' hp') _ _).trans hp', hwho⟩
  | goesOn i j o k inp hk hwaits hanswers =>
    refine ⟨fun j' p' hp' => (ih.opened j' p' hp').called inp hk (Function.update_self ..)
      fun i' hi' => Function.update_of_ne hi' _ _,
      fun _ _ _ _ => ih.apart_later (Later.called i o k inp), ih.jobs, fun i' j' hwaits' => ?_⟩
    by_cases hi : i' = i
    · subst hi
      cases (Function.update_self i' none x.waiting).symm.trans hwaits'
    · exact ih.waits i' j' ((Function.update_of_ne hi _ _).symm.trans hwaits')
  | fails i o k inp hk _ hwaits _ =>
    exact ⟨fun j p hp => (ih.opened j p hp).called inp hk hwaits fun _ _ => rfl,
      fun _ _ _ _ => ih.apart_later (Later.called i o k inp), ih.jobs, ih.waits⟩

/-! ## Whose job, and what became of it -/

section Guarded

variable {R : Event Op Ans → Prop} {G : Job → History Op Ans → Op → Prop}
variable {Q : Job → History Op Ans → Except ε α → Prop}

/-- **Opening rule.** What guards the calls of the one machine held when the job was opened. -/
theorem Reachable.opened_guard (hR : ∀ o inp w, R ⟨o, (M.exec o inp w).1⟩)
    (hp : ∀ job, (M.program job).wp R (G job) (Q job) []) (hx : Reachable M M' P w w' x) {j : Nat}
    {p : Opening Op} (hopening : x.opening j = some p) : ∃ job, x.outer.job p.who = some job ∧
      G job (calls p.who (x.outer.log.take p.since)) p.op := by
  refine hx.invariant (I := fun x => ∀ j p, x.opening j = some p → ∃ job,
    x.outer.job p.who = some job ∧ G job (calls p.who (x.outer.log.take p.since)) p.op)
    (by simp [Joint.init]) (fun x x' hr ih hs => ?_) j p hopening
  have hlater : ∀ {c : Config Op Ans ε α In W Job}, Later x.outer c → ∀ j p, x.opening j = some p →
      ∃ job, c.job p.who = some job ∧ G job (calls p.who (c.log.take p.since)) p.op := by
    intro c hc j p hopening
    obtain ⟨job, hjob, hG⟩ := ih j p hopening
    rw [hc.take (hr.kept.opened j p hopening).since]
    exact ⟨job, hc.job _ _ hjob, hG⟩
  cases hs with
  | outer c hstep _ => exact hlater (Later.of_step hstep)
  | inner c _ _ => exact ih
  | opens i j o k job hk _ _ _ _ =>
    intro j' p' hp'
    rcases update_eq_some hp' with ⟨rfl, rfl⟩ | ⟨_, hold⟩
    · obtain ⟨caller, hcaller⟩ := hr.outer.job_of_running hk
      have hguard := (hr.outer.guarded hR hp).rest i caller _ hcaller hk
      exact ⟨caller, hcaller, by rw [List.take_length]; exact hguard.1⟩
    · exact ih j' p' hold
  | goesOn i j o k inp _ _ _ => exact hlater (Later.called i o k inp)
  | fails i o k inp _ _ _ _ => exact hlater (Later.called i o k inp)

end Guarded

section Answers

variable {R : Event Op' Ans' → Prop} {G : Job' → History Op' Ans' → Op' → Prop}
variable {Q : Job' → History Op' Ans' → Except ε' α' → Prop}

/-- The job ended so, and was described by `Q` when it did. -/
def EndedAs (Q : Job' → History Op' Ans' → Except ε' α' → Prop)
    (c : Config Op' Ans' ε' α' In' W' Job') (j : Nat) (end' : Except ε' α') : Prop :=
  ∃ n ≤ c.log.length, ∃ job, c.job j = some job ∧ Q job (calls j (c.log.take n)) end'

theorem EndedAs.later {c c' : Config Op' Ans' ε' α' In' W' Job'} {j : Nat} {end' : Except ε' α'}
    (h : EndedAs Q c j end') (hlater : Later c c') : EndedAs Q c' j end' := by
  obtain ⟨n, hn, job, hjob, hQ⟩ := h
  refine ⟨n, Nat.le_trans hn hlater.length_le, job, hlater.job _ _ hjob, ?_⟩
  rw [hlater.take hn]
  exact hQ

theorem endedAs_of_ending {c : Config Op' Ans' ε' α' In' W' Job'} (hc : Interaction.Reachable M' w' c)
    (hg : Guarded R G Q c) {j : Nat} {end' : Except ε' α'} (h : ending c j = some end') :
    EndedAs Q c j end' := by
  have hends : ∀ p, c.running j = some p → ∃ job, c.job j = some job ∧ p.wp R (G job) (Q job)
      (calls j c.log) := by
    intro p hp
    obtain ⟨job, hjob⟩ := hc.job_of_running hp
    exact ⟨job, hjob, hg.rest j job p hjob hp⟩
  unfold ending at h
  split at h
  · next a hrun =>
    cases h
    obtain ⟨job, hjob, hQ⟩ := hends _ hrun
    exact ⟨c.log.length, Nat.le_refl _, job, hjob, by rw [List.take_length]; exact hQ⟩
  · next e hrun =>
    cases h
    obtain ⟨job, hjob, hQ⟩ := hends _ hrun
    exact ⟨c.log.length, Nat.le_refl _, job, hjob, by rw [List.take_length]; exact hQ⟩
  · cases h

/-- What a call that was answered was answered with: the end of a job that was opened for it, unless
it saw none. -/
def AnsweredBy (P : Protocol Op In ε' α' Job') (Q : Job' → History Op' Ans' → Except ε' α' → Prop)
    (x : Joint Op Ans ε α In W Job Op' Ans' ε' α' In' W' Job') (m : Nat) (e : Entry Op Ans In W) :
    Prop :=
  P.answers e.op e.input none ∨ ∃ j p end', x.opening j = some p ∧ p.who = e.who ∧ p.op = e.op ∧
    p.since ≤ m ∧ P.answers e.op e.input (some end') ∧ EndedAs Q x.inner j end'

/-- **Answer rule.** -/
theorem Reachable.answered (hR : ∀ o inp w, R ⟨o, (M'.exec o inp w).1⟩)
    (hp : ∀ job, (M'.program job).wp R (G job) (Q job) []) (hx : Reachable M M' P w w' x) {m : Nat}
    {e : Entry Op Ans In W} (he : x.outer.log[m]? = some e) (hdelegated : P.delegated e.op) :
    AnsweredBy P Q x m e := by
  refine hx.invariant (I := fun x => ∀ m e, x.outer.log[m]? = some e → P.delegated e.op →
    AnsweredBy P Q x m e) (by simp [Joint.init, Config.init]) (fun x x' hr ih hs => ?_) m e he
    hdelegated
  intro m e he hdelegated
  cases hs with
  | outer c hstep hlog =>
    have hold : x.outer.log[m]? = some e := by
      rcases hlog with hlog | ⟨e', hlog, hnot⟩
      · rw [← hlog]
        exact he
      · rcases getElem?_append_singleton (hlog ▸ he) with ⟨_, hold⟩ | ⟨_, rfl⟩
        · exact hold
        · exact absurd hdelegated hnot
    exact ih m e hold hdelegated
  | inner c hstep _ =>
    rcases ih m e he hdelegated with hnone | ⟨j, p, end', hopening, hwho, hop, hsince, hanswers, hend⟩
    · exact Or.inl hnone
    · exact Or.inr ⟨j, p, end', hopening, hwho, hop, hsince, hanswers, hend.later (Later.of_step hstep)⟩
  | opens i j o k job _ _ _ hj _ =>
    rcases ih m e he hdelegated with hnone | ⟨j', p, end', hopening, hwho, hop, hsince, hanswers, hend⟩
    · exact Or.inl hnone
    · have hne : j' ≠ j := by
        rintro rfl
        obtain ⟨job', hjob', _⟩ := (hr.kept.opened j' p hopening).opens
        rw [hj] at hjob'
        cases hjob'
      exact Or.inr ⟨j', p, end', (Function.update_of_ne hne _ _).trans hopening, hwho, hop, hsince,
        hanswers, hend.later (Later.arrived hj job)⟩
  | goesOn i j o k inp hk hwaits hanswers =>
    rcases getElem?_append_singleton he with ⟨_, hold⟩ | ⟨rfl, rfl⟩
    · exact ih m e hold hdelegated
    · obtain ⟨p, hopening, rfl⟩ := hr.kept.waits i j hwaits
      have hopened := hr.kept.opened j p hopening
      have hop : p.op = o := by
        rcases hopened.state with ⟨hfree, _⟩ | ⟨_, hgone | ⟨k', hk'⟩⟩
        · exact absurd hwaits hfree
        · rw [hgone] at hk
          cases hk
        · cases hk.symm.trans hk'
          rfl
      cases hend : ending x.inner j with
      | none => exact Or.inl (hend ▸ hanswers)
      | some end' =>
        exact Or.inr ⟨j, p, end', hopening, rfl, hop, hopened.since, hend ▸ hanswers,
          endedAs_of_ending hr.inner (hr.inner.guarded hR hp) hend⟩
  | fails i o k inp hk _ _ hanswers =>
    rcases getElem?_append_singleton he with ⟨_, hold⟩ | ⟨_, rfl⟩
    · exact ih m e hold hdelegated
    · exact Or.inl hanswers

end Answers

/-! ## Given runs -/

/-- What the outer machine does next. -/
inductive Move (In Job : Type)
  | arrive (i : Nat) (job : Job)
  | call (i : Nat) (inp : In)

section Moves

variable (M P)
variable [DecidablePred P.delegated]

/-- The configuration after the move; a move that cannot be made changes nothing. -/
def move (x : Joint Op Ans ε α In W Job Op' Ans' ε' α' In' W' Job') :
    Move In Job → Joint Op Ans ε α In W Job Op' Ans' ε' α' In' W' Job'
  | .arrive i job =>
    match x.outer.job i with
    | none => { x with outer := arrived M x.outer i job }
    | some _ => x
  | .call i inp =>
    match x.outer.running i with
    | some (.call o k) =>
      if P.delegated o then x else { x with outer := called M x.outer i o k inp }
    | _ => x

def play (x : Joint Op Ans ε α In W Job Op' Ans' ε' α' In' W' Job') (moves : List (Move In Job)) :
    Joint Op Ans ε α In W Job Op' Ans' ε' α' In' W' Job' := moves.foldl (move M P) x

variable {M P}

theorem Reachable.move (hx : Reachable M M' P w w' x) (m : Move In Job) :
    Reachable M M' P w w' (move M P x m) := by
  cases m with
  | arrive i job =>
    simp only [Delegation.move]
    split
    · next hi => exact hx.tail (.outer _ (.arrive i job hi) (Or.inl rfl))
    · exact hx
  | call i inp =>
    simp only [Delegation.move]
    split
    · next o k hk =>
      split
      · exact hx
      · next ho => exact hx.tail (.outer _ (called_step inp hk) (Or.inr ⟨_, rfl, ho⟩))
    · exact hx

theorem Reachable.play (hx : Reachable M M' P w w' x) (moves : List (Move In Job)) :
    Reachable M M' P w w' (play M P x moves) := by
  induction moves generalizing x with
  | nil => exact hx
  | cons m moves ih => exact ih (hx.move m)

theorem play_inner (x : Joint Op Ans ε α In W Job Op' Ans' ε' α' In' W' Job')
    (moves : List (Move In Job)) : (Delegation.play M P x moves).inner = x.inner := by
  induction moves generalizing x with
  | nil => rfl
  | cons m moves ih =>
    refine (ih (Delegation.move M P x m)).trans ?_
    cases m with
    | arrive i job =>
      simp only [Delegation.move]
      split <;> rfl
    | call i inp =>
      simp only [Delegation.move]
      split
      · split <;> rfl
      · rfl

end Moves

/-- A call that waits, given this input. -/
def goOn (M : Machine Op Ans ε α In W Job) (x : Joint Op Ans ε α In W Job Op' Ans' ε' α' In' W' Job')
    (i : Nat) (inp : In) : Joint Op Ans ε α In W Job Op' Ans' ε' α' In' W' Job' :=
  match x.outer.running i with
  | some (.call o k) => { x with outer := called M x.outer i o k inp
                                 waiting := Function.update x.waiting i none }
  | _ => x

theorem Reachable.goOn (hx : Reachable M M' P w w' x) {i j : Nat} {inp : In}
    (hwaits : x.waiting i = some j) (hanswers : ∀ o, P.answers o inp (ending x.inner j)) :
    Reachable M M' P w w' (goOn M x i inp) := by
  unfold Delegation.goOn
  split
  · next o k hk => exact hx.tail (.goesOn i j o k inp hk hwaits (hanswers o))
  · exact hx

theorem goOn_inner (x : Joint Op Ans ε α In W Job Op' Ans' ε' α' In' W' Job') (i : Nat) (inp : In) :
    (Delegation.goOn M x i inp).inner = x.inner := by
  unfold Delegation.goOn
  split <;> rfl

/-- A job of the inner machine, served without interruption. -/
def served (M' : Machine Op' Ans' ε' α' In' W' Job') (c : Config Op' Ans' ε' α' In' W' Job') (j : Nat)
    (p : Prog Op' Ans' ε' α') (inp : Nat → In') : Config Op' Ans' ε' α' In' W' Job' :=
  { c with world := (M'.serve j p inp c.world).2.2
           log := c.log ++ (M'.serve j p inp c.world).1
           running := Function.update c.running j (some (finished (M'.serve j p inp c.world).2.1)) }

theorem Reachable.served {j : Nat} {p : Prog Op' Ans' ε' α'} (inp : Nat → In')
    (hp : x.inner.running j = some p) (hx : Reachable M M' P w w' x) :
    Reachable M M' P w w' { x with inner := served M' x.inner j p inp } := by
  have hsame : ∀ p', x.inner.running j = some p' →
      Function.update x.inner.running j (some p') = x.inner.running := by
    intro p' hp'
    rw [← hp', Function.update_eq_self]
  induction p generalizing x inp with
  | ret a => simpa [Delegation.served, Machine.serve, finished, hsame _ hp] using hx
  | raise e => simpa [Delegation.served, Machine.serve, finished, hsame _ hp] using hx
  | call o k ih =>
    have hfirst := hx.tail (.inner _ (.call (M := M') j o k (inp 0) hp) fun _ _ h => Or.inl h)
    have hrest := ih (M'.exec o (inp 0) x.inner.world).1 (fun n => inp (n + 1))
      (Function.update_self ..) hfirst fun p' hp' => by rw [← hp', Function.update_eq_self]
    simpa [Delegation.served, Machine.serve, List.append_assoc] using hrest

end Interaction.Delegation
