import NostrAuth.Lib.Clients

/-! An activity that runs alone: nobody else takes a step, every request is served at once and its
reply comes back. -/

set_option autoImplicit false

namespace Interaction.Clients

variable {Op : Type} {Ans : Op → Type} {ε α η In W Job S LIn Act Req LOp : Type}
variable {LAns : LOp → Type}
variable (M : Machine Op Ans ε α In W Job) (C : Client LAns Req α η S LIn Act Job)

/-- The reply of a job that has come to its end. -/
def replyOf : Option (Prog Op Ans ε α) → Option α
  | some (.ret response) => some response
  | _ => none

/-- The ids of the jobs to come, and the inputs of their calls. -/
abbrev Supply (In : Type) := Nat → Nat × (Nat → In)

/-- The states of a client and of the machine, and what later jobs will be served with. -/
structure Scene (Op : Type) (Ans : Op → Type) (ε α In W Job S : Type) where
  state : S
  machine : Config Op Ans ε α In W Job
  supply : Supply In

/-- How a part of an activity ends, and what it leaves. -/
def alone {β : Type} (inp : LIn) : Prog (LOp ⊕ Req) (Sum.elim LAns fun _ => Option α) η β →
    Scene Op Ans ε α In W Job S → Except η β × Scene Op Ans ε α In W Job S
  | .ret b, v => (.ok b, v)
  | .raise e, v => (.error e, v)
  | .call (.inl o) next, v =>
    alone inp (next (C.exec o inp v.state).1) { v with state := (C.exec o inp v.state).2 }
  | .call (.inr r) next, v =>
    let m := M.after v.machine (v.supply 0).1 (C.job r v.state inp) (v.supply 0).2
    alone inp (next (replyOf (m.running (v.supply 0).1)))
      { v with machine := m, supply := fun n => v.supply (n + 1) }

section Parts

variable {M C} {β γ : Type} {inp : LIn} {v v' : Scene Op Ans ε α In W Job S}
variable {p : Prog (LOp ⊕ Req) (Sum.elim LAns fun _ => Option α) η β}

theorem alone_bind {f : β → Prog (LOp ⊕ Req) (Sum.elim LAns fun _ => Option α) η γ} {b : β}
    (hp : alone M C inp p v = (.ok b, v')) :
    alone M C inp (p.bind f) v = alone M C inp (f b) v' := by
  induction p generalizing v with
  | ret a =>
    cases hp
    rfl
  | raise e => cases hp
  | call o next ih =>
    cases o with
    | inl o => exact ih _ hp
    | inr r => exact ih _ hp

theorem alone_attempt {x : Except η β} (hp : alone M C inp p v = (x, v')) :
    alone M C inp p.attempt v = (.ok x, v') := by
  induction p generalizing v with
  | ret a =>
    cases hp
    rfl
  | raise e =>
    cases hp
    rfl
  | call o next ih =>
    cases o with
    | inl o => exact ih _ hp
    | inr r => exact ih _ hp

end Parts

/-- A step of the activity `a`, or of the machine on a job that it sent. -/
inductive OwnStep (a : Nat) (c : Clients Op Ans ε α In W Job LAns Req η S Act) :
    Clients Op Ans ε α In W Job LAns Req η S Act → Prop
  | act (x : Activity LAns Req α η Act) (o : LOp) (next : LAns o → ActivityProg LAns Req α η)
      (inp : LIn) : c.activity a = some x → x.rest = .call (.inl o) next →
      OwnStep a c { c.resume a { x with rest := next (C.exec o inp (c.state x.client)).1 } with
        state := Function.update c.state x.client (C.exec o inp (c.state x.client)).2 }
  | send (x : Activity LAns Req α η Act) (r : Req) (next : Option α → ActivityProg LAns Req α η)
      (inp : LIn) (i : Nat) : c.activity a = some x → x.rest = .call (.inr r) next →
      x.waiting = none → c.server.job i = none →
      OwnStep a c { c.resume a { x with waiting := some i } with
        server := arrive M c.server i (C.job r (c.state x.client) inp)
        sender := Function.update c.sender i (some a) }
  | receive (x : Activity LAns Req α η Act) (r : Req) (next : Option α → ActivityProg LAns Req α η)
      (i : Nat) (response : α) : c.activity a = some x → x.rest = .call (.inr r) next →
      x.waiting = some i → c.server.running i = some (.ret response) →
      OwnStep a c (c.resume a { x with rest := next (some response), waiting := none })
  | lose (x : Activity LAns Req α η Act) (r : Req) (next : Option α → ActivityProg LAns Req α η) :
      c.activity a = some x → x.rest = .call (.inr r) next →
      OwnStep a c (c.resume a { x with rest := next none, waiting := none })
  | call (i : Nat) (o : Op) (k : Ans o → Prog Op Ans ε α) (inp : In) : c.sender i = some a →
      c.server.running i = some (.call o k) →
      OwnStep a c { c with server := { c.server with
        world := (M.exec o inp c.server.world).2
        log := c.server.log ++ [M.entry i o inp c.server.world]
        running := Function.update c.server.running i (some (k (M.exec o inp c.server.world).1)) } }

variable {M C}

theorem OwnStep.step {a : Nat} {c c' : Clients Op Ans ε α In W Job LAns Req η S Act}
    (h : OwnStep M C a c c') : Step M C c c' := by
  cases h with
  | act x o next inp hx hrest => exact .act a x o next inp hx hrest
  | send x r next inp i hx hrest hwait hi => exact .send a x r next inp i hx hrest hwait hi
  | receive x r next i response hx hrest hwait hrun =>
    exact .receive a x r next i response hx hrest hwait hrun
  | lose x r next hx hrest => exact .lose a x r next hx hrest
  | call i o k inp _ hrun => exact .serve _ (.call i o k inp hrun) rfl

/-- Nobody but the activity `a` takes a step. -/
abbrev OwnRun (M : Machine Op Ans ε α In W Job) (C : Client LAns Req α η S LIn Act Job) (a : Nat) :
    Clients Op Ans ε α In W Job LAns Req η S Act →
      Clients Op Ans ε α In W Job LAns Req η S Act → Prop :=
  Relation.ReflTransGen (OwnStep M C a)

/-- The activity `a` of the client `k` begins as `act`, and nobody else takes a step. -/
def Undisturbed (M : Machine Op Ans ε α In W Job) (C : Client LAns Req α η S LIn Act Job) (a k : Nat)
    (act : Act) (c c' : Clients Op Ans ε α In W Job LAns Req η S Act) : Prop :=
  ∃ s, c.activity a = none ∧ C.begins act (c.state k) = some s ∧
    OwnRun M C a { c.resume a ⟨k, act, C.program act, none⟩ with
      state := Function.update c.state k s } c'

variable {w : W} {c c' : Clients Op Ans ε α In W Job LAns Req η S Act}

theorem Reachable.undisturbed {a k : Nat} {act : Act} (hc : Reachable M C w c)
    (h : Undisturbed M C a k act c c') : Reachable M C w c' := by
  obtain ⟨s, ha, hs, hrun⟩ := h
  exact Relation.ReflTransGen.trans (hc.step (.begin a k act s ha hs))
    (Relation.ReflTransGen.mono (fun _ _ hs => hs.step) _ _ hrun)

/-- A job of the activity is served to its end, while the clients wait. -/
theorem serve_job (c : Clients Op Ans ε α In W Job LAns Req η S Act) {a i : Nat}
    (hsender : c.sender i = some a) (p : Prog Op Ans ε α) (input : Nat → In)
    (m : Config Op Ans ε α In W Job) (hp : m.running i = some p) :
    OwnRun M C a { c with server := m } { c with server :=
      { m with
        world := (M.serve i p input m.world).2.2
        log := m.log ++ (M.serve i p input m.world).1
        running := Function.update m.running i (some (finished (M.serve i p input m.world).2.1)) } } := by
  induction p generalizing input m with
  | ret b =>
    have hu : Function.update m.running i (some (.ret b)) = m.running := by
      rw [← hp, Function.update_eq_self]
    simpa [Machine.serve, finished, hu] using Relation.ReflTransGen.refl
  | raise e =>
    have hu : Function.update m.running i (some (.raise e)) = m.running := by
      rw [← hp, Function.update_eq_self]
    simpa [Machine.serve, finished, hu] using Relation.ReflTransGen.refl
  | call o k ih =>
    have hs := OwnStep.call (M := M) (C := C) (a := a) (c := { c with server := m }) i o k (input 0)
      hsender hp
    have hrest := ih (M.exec o (input 0) m.world).1 (fun n => input (n + 1))
      { m with
        world := (M.exec o (input 0) m.world).2
        log := m.log ++ [M.entry i o (input 0) m.world]
        running := Function.update m.running i (some (k (M.exec o (input 0) m.world).1)) }
      (Function.update_self ..)
    apply Relation.ReflTransGen.head hs
    simpa [Machine.serve, List.append_assoc] using hrest

/-- A request that is served at once, and whose reply comes back where there is one. -/
theorem own_fetched {a k i : Nat} {act : Act} {r : Req}
    {next : Option α → ActivityProg LAns Req α η} (inp : LIn) (input : Nat → In)
    (hx : c.activity a = some ⟨k, act, .call (.inr r) next, none⟩) (hi : c.server.job i = none) :
    ∃ c', OwnRun M C a c c' ∧ c'.state = c.state ∧
      c'.server = M.after c.server i (C.job r (c.state k) inp) input ∧
      c'.activity a = some ⟨k, act, next (replyOf (c'.server.running i)), none⟩ := by
  let sent : Clients Op Ans ε α In W Job LAns Req η S Act :=
    ⟨arrive M c.server i (C.job r (c.state k) inp), c.state,
      Function.update c.activity a (some ⟨k, act, .call (.inr r) next, some i⟩),
      Function.update c.sender i (some a)⟩
  have hsent : OwnRun M C a c sent := .single (OwnStep.send _ r next inp i hx rfl rfl hi)
  have hserved : OwnRun M C a c
      { sent with server := M.after c.server i (C.job r (c.state k) inp) input } := by
    have hsender : sent.sender i = some a := Function.update_self ..
    have hsteps := serve_job (M := M) (C := C) sent hsender _ input sent.server (Function.update_self ..)
    refine hsent.trans ?_
    simpa [sent, arrive, Machine.after] using hsteps
  have hactivity : sent.activity a = some ⟨k, act, .call (.inr r) next, some i⟩ :=
    Function.update_self ..
  cases hout : (M.serve i (M.program (C.job r (c.state k) inp)) input c.server.world).2.1 with
  | ok response =>
    have hrun : (M.after c.server i (C.job r (c.state k) inp) input).running i =
        some (.ret response) := by simp [Machine.after, hout, finished]
    refine ⟨_, hserved.tail (.receive _ r next i response hactivity rfl rfl hrun), rfl, rfl, ?_⟩
    simp only [resume, Function.update_self]
    rw [hrun]
    rfl
  | error e =>
    have hrun : (M.after c.server i (C.job r (c.state k) inp) input).running i =
        some (.raise e) := by simp [Machine.after, hout, finished]
    refine ⟨_, hserved.tail (.lose _ r next hactivity rfl), rfl, rfl, ?_⟩
    simp only [resume, Function.update_self]
    rw [hrun]
    rfl

/-- **Alone.** What an activity comes to alone is what it comes to in the system, where nobody else
takes a step. -/
theorem own_alone {a k : Nat} {act : Act} {p : ActivityProg LAns Req α η} (inp : LIn)
    (supply : Supply In) (hx : c.activity a = some ⟨k, act, p, none⟩)
    (hfresh : ∀ n, c.server.job (supply n).1 = none)
    (hids : ∀ n n', (supply n).1 = (supply n').1 → n = n') :
    let done := Clients.alone M C inp p ⟨c.state k, c.server, supply⟩
    ∃ c', OwnRun M C a c c' ∧ c'.activity a = some ⟨k, act, Prog.ofExcept done.1, none⟩ ∧
      c'.state = Function.update c.state k done.2.state ∧ c'.server = done.2.machine := by
  induction p generalizing supply c with
  | ret u => exact ⟨c, .refl, hx, (Function.update_eq_self ..).symm, rfl⟩
  | raise e => exact ⟨c, .refl, hx, (Function.update_eq_self ..).symm, rfl⟩
  | call o next ih =>
    cases o with
    | inl o =>
      let c₁ : Clients Op Ans ε α In W Job LAns Req η S Act :=
        ⟨c.server, Function.update c.state k (C.exec o inp (c.state k)).2,
          Function.update c.activity a (some ⟨k, act, next (C.exec o inp (c.state k)).1, none⟩), c.sender⟩
      have hs : OwnStep M C a c c₁ := OwnStep.act _ o next inp hx rfl
      have hx₁ : c₁.activity a = some ⟨k, act, next (C.exec o inp (c.state k)).1, none⟩ :=
        Function.update_self ..
      obtain ⟨c', hrun, hactivity, hstate, hserver⟩ := ih _ supply hx₁ hfresh hids
      simp only [c₁, Function.update_self, Function.update_idem] at hactivity hstate hserver
      exact ⟨c', .head hs hrun, hactivity, hstate, hserver⟩
    | inr r =>
      obtain ⟨c₁, hrun₁, hstate₁, hserver₁, hactivity₁⟩ := own_fetched inp (supply 0).2 hx (hfresh 0)
      have hfresh₁ : ∀ n, c₁.server.job (supply (n + 1)).1 = none := by
        intro n
        have hne : (supply (n + 1)).1 ≠ (supply 0).1 := by
          intro h
          have := hids _ _ h
          omega
        rw [hserver₁]
        exact (Function.update_of_ne hne ..).trans (hfresh (n + 1))
      obtain ⟨c', hrun, hactivity, hstate, hserver⟩ := ih _ (fun n => supply (n + 1)) hactivity₁ hfresh₁
        fun n n' h => by
          have := hids _ _ h
          omega
      rw [hstate₁, hserver₁] at hactivity hstate hserver
      exact ⟨c', hrun₁.trans hrun, hactivity, hstate, hserver⟩

theorem undisturbed_alone {a k : Nat} {act : Act} {s : S} (inp : LIn) (supply : Supply In)
    (ha : c.activity a = none) (hs : C.begins act (c.state k) = some s)
    (hfresh : ∀ n, c.server.job (supply n).1 = none)
    (hids : ∀ n n', (supply n).1 = (supply n').1 → n = n') :
    let done := Clients.alone M C inp (C.program act) ⟨s, c.server, supply⟩
    ∃ c', Undisturbed M C a k act c c' ∧ c'.activity a = some ⟨k, act, Prog.ofExcept done.1, none⟩ ∧
      c'.state = Function.update c.state k done.2.state ∧ c'.server = done.2.machine := by
  obtain ⟨c', hrun, hactivity, hstate, hserver⟩ := own_alone (M := M) (C := C)
    (c := { c.resume a ⟨k, act, C.program act, none⟩ with state := Function.update c.state k s })
    inp supply (Function.update_self ..) hfresh hids
  simp only [Function.update_self, Function.update_idem] at hactivity hstate hserver
  exact ⟨c', ⟨s, ha, hs, hrun⟩, hactivity, hstate, hserver⟩

end Interaction.Clients
