import NostrAuth.Lib.Interaction

/-! Clients of a machine. A client has a state of its own and runs any number of activities on
it; an activity is a program that works on that state and waits for the replies to the requests
it sends. -/

set_option autoImplicit false

namespace Interaction

variable {Op : Type} {Ans : Op → Type} {ε α In W Job : Type}
variable {LOp : Type} {LAns : LOp → Type} {Req η S LIn Act : Type}

/-- The program of an activity: `LOp` are its calls on the state of the client. The answer to a
request is the reply of the machine, or `none` where the request failed or the reply was lost. -/
abbrev ActivityProg (LAns : LOp → Type) (Req α η : Type) : Type :=
  Prog (LOp ⊕ Req) (Sum.elim LAns fun _ => Option α) η Unit

structure Client (LAns : LOp → Type) (Req α η S LIn Act Job : Type) where
  initial : S
  /-- The state after the beginning of an activity; `none` where it cannot begin. -/
  begins : Act → S → Option S
  program : Act → ActivityProg LAns Req α η
  exec : (o : LOp) → LIn → S → LAns o × S
  /-- The job that the request makes in this state. -/
  job : Req → S → LIn → Job

structure Activity (LAns : LOp → Type) (Req α η Act : Type) where
  client : Nat
  act : Act
  rest : ActivityProg LAns Req α η
  /-- The job whose reply the activity waits for. -/
  waiting : Option Nat

/-- A machine and its clients. -/
structure Clients (Op : Type) (Ans : Op → Type) (ε α In W Job : Type) (LAns : LOp → Type)
    (Req η S Act : Type) where
  server : Config Op Ans ε α In W Job
  state : Nat → S
  activity : Nat → Option (Activity LAns Req α η Act)
  /-- The activity that sent a job. -/
  sender : Nat → Option Nat

/-- What a table holds after one of its entries was written. -/
theorem update_eq_some {κ β : Type} [DecidableEq κ] {f : κ → Option β} {a b : κ} {x z : β}
    (h : Function.update f a (some x) b = some z) : b = a ∧ x = z ∨ b ≠ a ∧ f b = some z := by
  by_cases hba : b = a
  · subst hba
    rw [Function.update_self] at h
    exact Or.inl ⟨rfl, Option.some.inj h⟩
  · rw [Function.update_of_ne hba] at h
    exact Or.inr ⟨hba, h⟩

namespace Clients

variable (M : Machine Op Ans ε α In W Job) (C : Client LAns Req α η S LIn Act Job)

def init (w : W) : Clients Op Ans ε α In W Job LAns Req η S Act :=
  ⟨Config.init w, fun _ => C.initial, fun _ => none, fun _ => none⟩

/-- The activity `a` goes on as `x`. -/
def resume (c : Clients Op Ans ε α In W Job LAns Req η S Act) (a : Nat)
    (x : Activity LAns Req α η Act) : Clients Op Ans ε α In W Job LAns Req η S Act :=
  { c with activity := Function.update c.activity a (some x) }

/-- The job `j` arrives at the machine under the id `i`. -/
def arrive (c : Config Op Ans ε α In W Job) (i : Nat) (j : Job) : Config Op Ans ε α In W Job :=
  { c with job := Function.update c.job i (some j)
           running := Function.update c.running i (some (M.program j)) }

/-- One step of the clients or of the machine. All jobs come from the clients. -/
inductive Step (c : Clients Op Ans ε α In W Job LAns Req η S Act) :
    Clients Op Ans ε α In W Job LAns Req η S Act → Prop
  | begin (a k : Nat) (act : Act) (s : S) : c.activity a = none → C.begins act (c.state k) = some s →
      Step c { c.resume a ⟨k, act, C.program act, none⟩ with state := Function.update c.state k s }
  | act (a : Nat) (x : Activity LAns Req α η Act) (o : LOp)
      (next : LAns o → ActivityProg LAns Req α η) (inp : LIn) :
      c.activity a = some x → x.rest = .call (.inl o) next →
      Step c { c.resume a { x with rest := next (C.exec o inp (c.state x.client)).1 } with
        state := Function.update c.state x.client (C.exec o inp (c.state x.client)).2 }
  | send (a : Nat) (x : Activity LAns Req α η Act) (r : Req)
      (next : Option α → ActivityProg LAns Req α η) (inp : LIn) (i : Nat) :
      c.activity a = some x → x.rest = .call (.inr r) next → x.waiting = none →
      c.server.job i = none →
      Step c { c.resume a { x with waiting := some i } with
        server := arrive M c.server i (C.job r (c.state x.client) inp)
        sender := Function.update c.sender i (some a) }
  | receive (a : Nat) (x : Activity LAns Req α η Act) (r : Req)
      (next : Option α → ActivityProg LAns Req α η) (i : Nat) (response : α) :
      c.activity a = some x → x.rest = .call (.inr r) next → x.waiting = some i →
      c.server.running i = some (.ret response) →
      Step c (c.resume a { x with rest := next (some response), waiting := none })
  | lose (a : Nat) (x : Activity LAns Req α η Act) (r : Req)
      (next : Option α → ActivityProg LAns Req α η) :
      c.activity a = some x → x.rest = .call (.inr r) next →
      Step c (c.resume a { x with rest := next none, waiting := none })
  | serve (server : Config Op Ans ε α In W Job) : Interaction.Step M c.server server →
      server.job = c.server.job → Step c { c with server }

def Reachable (w : W) : Clients Op Ans ε α In W Job LAns Req η S Act → Prop :=
  Relation.ReflTransGen (Step M C) (init C w)

variable {M C} {w : W} {c c' : Clients Op Ans ε α In W Job LAns Req η S Act}

theorem Reachable.init : Reachable M C w (init C w) := Relation.ReflTransGen.refl

theorem Reachable.step (hc : Reachable M C w c) (hs : Step M C c c') : Reachable M C w c' :=
  Relation.ReflTransGen.tail hc hs

theorem Reachable.invariant {P : Clients Op Ans ε α In W Job LAns Req η S Act → Prop}
    (h0 : P (Clients.init C w)) (hstep : ∀ c c', Reachable M C w c → P c → Step M C c c' → P c')
    (hc : Reachable M C w c) : P c := by
  induction hc with
  | refl => exact h0
  | tail hr hs ih => exact hstep _ _ hr ih hs

/-- **Projection.** What the machine does for its clients is one of its own runs. -/
theorem Reachable.server (hc : Reachable M C w c) : Interaction.Reachable M w c.server := by
  refine hc.invariant (P := fun c => Interaction.Reachable M w c.server)
    Interaction.Reachable.init fun c c' _ ih hs => ?_
  cases hs with
  | begin a k act s _ _ => exact ih
  | act a x o next inp _ _ => exact ih
  | send a x r next inp i _ _ _ hi => exact ih.step (.arrive i _ hi)
  | receive a x r next i response _ _ _ _ => exact ih
  | lose a x r next _ _ => exact ih
  | serve server hs _ => exact ih.step hs

/-- A property of the states of the clients. -/
theorem Reachable.state_invariant {P : S → Prop} (h0 : P C.initial)
    (hbegin : ∀ act s s', C.begins act s = some s' → P s → P s')
    (hact : ∀ o inp s, P s → P (C.exec o inp s).2) (hc : Reachable M C w c) (k : Nat) :
    P (c.state k) := by
  refine hc.invariant (P := fun c => ∀ k, P (c.state k)) (fun _ => h0)
    (fun c c' _ ih hs k' => ?_) k
  have hupdate : ∀ (k : Nat) (s : S), P s → P (Function.update c.state k s k') := by
    intro k s hs
    by_cases h : k' = k
    · subst h
      rw [Function.update_self]
      exact hs
    · rw [Function.update_of_ne h]
      exact ih k'
  cases hs with
  | begin a k act s _ hs => exact hupdate k s (hbegin _ _ _ hs (ih k))
  | act a x o next inp _ _ => exact hupdate x.client _ (hact o inp _ (ih x.client))
  | send a x r next inp i _ _ _ _ => exact ih k'
  | receive a x r next i response _ _ _ _ => exact ih k'
  | lose a x r next _ _ => exact ih k'
  | serve server _ _ => exact ih k'

/-- The job `i` was sent by an activity `act`. -/
def SentBy (c : Clients Op Ans ε α In W Job LAns Req η S Act) (i : Nat) (act : Act) : Prop :=
  ∃ a x, c.sender i = some a ∧ c.activity a = some x ∧ x.act = act

theorem SentBy.unique {i : Nat} {act act' : Act} (h : SentBy c i act) (h' : SentBy c i act') :
    act = act' := by
  obtain ⟨a, x, ha, hx, rfl⟩ := h
  obtain ⟨a', x', ha', hx', rfl⟩ := h'
  obtain rfl := Option.some.inj (ha.symm.trans ha')
  obtain rfl := Option.some.inj (hx.symm.trans hx')
  rfl

/-- An activity that goes on is still the same activity. -/
theorem SentBy.resume {i a : Nat} {act : Act} {x y : Activity LAns Req α η Act}
    (h : SentBy c i act) (hx : c.activity a = some x) (hy : y.act = x.act) :
    SentBy (c.resume a y) i act := by
  obtain ⟨b, z, hb, hz, rfl⟩ := h
  by_cases hba : b = a
  · subst hba
    obtain rfl := Option.some.inj (hx.symm.trans hz)
    exact ⟨b, y, hb, Function.update_self .., hy⟩
  · exact ⟨b, z, hb, (Function.update_of_ne hba ..).trans hz, rfl⟩

/-- What a contract says of every activity, carried to a configuration. -/
structure Kept (P : Act → Req → Prop) (C : Client LAns Req α η S LIn Act Job)
    (c : Clients Op Ans ε α In W Job LAns Req η S Act) : Prop where
  rest : ∀ a x, c.activity a = some x →
    x.rest.Within (fun _ => True) (Sum.elim (fun _ => True) (P x.act)) fun _ => True
  sent : ∀ i j, c.server.job i = some j →
    ∃ act r s inp, SentBy c i act ∧ P act r ∧ j = C.job r s inp

theorem Kept.resume {P : Act → Req → Prop} (h : Kept P C c) {a : Nat}
    {x y : Activity LAns Req α η Act} (hx : c.activity a = some x) (hact : y.act = x.act)
    (hy : y.rest.Within (fun _ => True) (Sum.elim (fun _ => True) (P y.act)) fun _ => True) :
    Kept P C (c.resume a y) := by
  refine ⟨fun b z hz => ?_, fun i j hj => ?_⟩
  · rcases update_eq_some hz with ⟨rfl, rfl⟩ | ⟨_, hz⟩
    · exact hy
    · exact h.rest b z hz
  · obtain ⟨act, r, s, inp, hsent, hr, rfl⟩ := h.sent i j hj
    exact ⟨act, r, s, inp, hsent.resume hx hact, hr, rfl⟩

/-- **Sender rule.** Where every activity keeps to its requests, every job of the machine is
such a request of the activity that sent it. -/
theorem Reachable.kept {P : Act → Req → Prop}
    (hp : ∀ act, (C.program act).Within (fun _ => True) (Sum.elim (fun _ => True) (P act))
      fun _ => True) (hc : Reachable M C w c) : Kept P C c := by
  refine hc.invariant (P := Kept P C) ⟨by simp [Clients.init], by simp [Clients.init, Config.init]⟩
    fun c c' hr ih hs => ?_
  cases hs with
  | begin a k act s ha _ =>
    refine ⟨fun b z hz => ?_, fun i j hj => ?_⟩
    · rcases update_eq_some hz with ⟨rfl, rfl⟩ | ⟨_, hz⟩
      · exact hp act
      · exact ih.rest b z hz
    · obtain ⟨act', r, s', inp, ⟨b, x, hb, hx, hact⟩, hreq, rfl⟩ := ih.sent i j hj
      have hba : b ≠ a := by rintro rfl; cases ha.symm.trans hx
      exact ⟨act', r, s', inp, ⟨b, x, hb, (Function.update_of_ne hba ..).trans hx, hact⟩, hreq, rfl⟩
  | act a x o next inp hx hrest =>
    have hwithin := ih.rest a x hx
    rw [hrest] at hwithin
    have hnext := ih.resume (y := { x with rest := next (C.exec o inp (c.state x.client)).1 }) hx rfl
      (hwithin.2 _ trivial)
    exact ⟨hnext.rest, hnext.sent⟩
  | send a x r next inp i hx hrest hwait hi =>
    have hwithin := ih.rest a x hx
    have hnext := ih.resume (y := { x with waiting := some i }) hx rfl hwithin
    rw [hrest] at hwithin
    refine ⟨hnext.rest, fun i' j hj => ?_⟩
    rcases update_eq_some hj with ⟨rfl, rfl⟩ | ⟨h, hj⟩
    · exact ⟨x.act, r, c.state x.client, inp, ⟨a, { x with waiting := some i' },
        Function.update_self .., Function.update_self .., rfl⟩, hwithin.1, rfl⟩
    · obtain ⟨act, r', s', inp', ⟨b, y, hb, hy, hact⟩, hreq, rfl⟩ := hnext.sent i' j hj
      exact ⟨act, r', s', inp', ⟨b, y, (Function.update_of_ne h ..).trans hb, hy, hact⟩, hreq, rfl⟩
  | receive a x r next i response hx hrest _ _ =>
    have hwithin := ih.rest a x hx
    rw [hrest] at hwithin
    exact ih.resume hx rfl (hwithin.2 _ trivial)
  | lose a x r next hx hrest =>
    have hwithin := ih.rest a x hx
    rw [hrest] at hwithin
    exact ih.resume hx rfl (hwithin.2 _ trivial)
  | serve server _ hjob => exact ⟨ih.rest, fun i j hj => ih.sent i j (hjob ▸ hj)⟩

/-! ## Given runs -/

/-- What happens next, with what it takes from outside. -/
inductive Move (LIn In Act : Type)
  | begin (a k : Nat) (act : Act)
  | act (a : Nat) (inp : LIn)
  | send (a i : Nat) (inp : LIn)
  | receive (a : Nat)
  | call (i : Nat) (inp : In)

variable (M C)

/-- The clients after the move; a move that cannot be made changes nothing. -/
def move (c : Clients Op Ans ε α In W Job LAns Req η S Act) :
    Move LIn In Act → Clients Op Ans ε α In W Job LAns Req η S Act
  | .begin a k act =>
    match c.activity a, C.begins act (c.state k) with
    | none, some s =>
      { c.resume a ⟨k, act, C.program act, none⟩ with state := Function.update c.state k s }
    | _, _ => c
  | .act a inp =>
    match c.activity a with
    | some ⟨k, act, .call (.inl o) next, waiting⟩ =>
      { c.resume a ⟨k, act, next (C.exec o inp (c.state k)).1, waiting⟩ with
        state := Function.update c.state k (C.exec o inp (c.state k)).2 }
    | _ => c
  | .send a i inp =>
    match c.activity a, c.server.job i with
    | some ⟨k, act, .call (.inr r) next, none⟩, none =>
      { c.resume a ⟨k, act, .call (.inr r) next, some i⟩ with
        server := arrive M c.server i (C.job r (c.state k) inp)
        sender := Function.update c.sender i (some a) }
    | _, _ => c
  | .receive a =>
    match c.activity a with
    | some ⟨k, act, .call (.inr _) next, some i⟩ =>
      match c.server.running i with
      | some (.ret response) => c.resume a ⟨k, act, next (some response), none⟩
      | _ => c
    | _ => c
  | .call i inp =>
    match c.server.running i with
    | some (.call o next) =>
      { c with server := { c.server with
          world := (M.exec o inp c.server.world).2
          log := c.server.log ++ [M.entry i o inp c.server.world]
          running := Function.update c.server.running i
            (some (next (M.exec o inp c.server.world).1)) } }
    | _ => c

def play (moves : List (Move LIn In Act)) (c : Clients Op Ans ε α In W Job LAns Req η S Act) :
    Clients Op Ans ε α In W Job LAns Req η S Act := moves.foldl (move M C) c

variable {M C}

theorem Reachable.move (hc : Reachable M C w c) (m : Move LIn In Act) :
    Reachable M C w (c.move M C m) := by
  cases m with
  | begin a k act =>
    simp only [Clients.move]
    split
    · next s ha hs => exact hc.step (.begin a k act s ha hs)
    · exact hc
  | act a inp =>
    simp only [Clients.move]
    split
    · next k act o next waiting ha => exact hc.step (.act a _ o next inp ha rfl)
    · exact hc
  | send a i inp =>
    simp only [Clients.move]
    split
    · next k act r next ha hi => exact hc.step (.send a _ r next inp i ha rfl rfl hi)
    · exact hc
  | receive a =>
    simp only [Clients.move]
    split
    · next k act r next i ha =>
      split
      · next response hresponse => exact hc.step (.receive a _ r next i response ha rfl rfl hresponse)
      · exact hc
    · exact hc
  | call i inp =>
    simp only [Clients.move]
    split
    · next o next hrun => exact hc.step (.serve _ (.call i o next inp hrun) rfl)
    · exact hc

theorem Reachable.play (hc : Reachable M C w c) (moves : List (Move LIn In Act)) :
    Reachable M C w (c.play M C moves) := by
  induction moves generalizing c with
  | nil => exact hc
  | cons m moves ih => exact ih (hc.move m)

end Clients

end Interaction
