import NostrAuth.Lib.Clients

/-! Where the state of a client comes from. What an activity acts on are the answers to its own calls
and the replies of the machine to its own requests, and what is known of these when they are given
stays known. -/

set_option autoImplicit false

namespace Interaction.Clients

variable {Op : Type} {Ans : Op → Type} {ε α η In W Job S LIn Act Req LOp : Type}
variable {LAns : LOp → Type}
variable (M : Machine Op Ans ε α In W Job) (C : Client LAns Req α η S LIn Act Job)

/-- A fact about the response to a job that holds when the job ends, and from then on. -/
structure Lasting (w : W) (F : Nat → Job → α → List (Entry Op Ans In W) → Prop) : Prop where
  given : ∀ (c : Config Op Ans ε α In W Job) i j response, Interaction.Reachable M w c →
    c.job i = some j → c.running i = some (.ret response) → F i j response c.log
  stays : ∀ i j response log e, F i j response log → F i j response (log ++ [e])

variable (w : W)

/-- In the run to `c`, the activity `a` called `o` on the state of its client and was answered `r`. -/
def Called (c : Clients Op Ans ε α In W Job LAns Req η S Act) (a : Nat) (o : LOp) (r : LAns o) : Prop :=
  ∃ c₀ x next inp, Reachable M C w c₀ ∧ c₀.activity a = some x ∧ x.rest = .call (.inl o) next ∧
    r = (C.exec o inp (c₀.state x.client)).1 ∧
    Relation.ReflTransGen (Step M C) { c₀.resume a { x with rest := next r } with
      state := Function.update c₀.state x.client (C.exec o inp (c₀.state x.client)).2 } c

/-- In the run to `c`, the activity `a` took the response of the job `i` to its request `r`. -/
def Took (c : Clients Op Ans ε α In W Job LAns Req η S Act) (a i : Nat) (r : Req) (response : α) :
    Prop :=
  ∃ c₀ x next, Reachable M C w c₀ ∧ c₀.activity a = some x ∧ x.rest = .call (.inr r) next ∧
    x.waiting = some i ∧ c₀.server.running i = some (.ret response) ∧
    Relation.ReflTransGen (Step M C)
      (c₀.resume a { x with rest := next (some response), waiting := none }) c

variable (F : Nat → Job → α → List (Entry Op Ans In W) → Prop)

/-- The activity `a` was given this response to this request of its own. -/
def Given (c : Clients Op Ans ε α In W Job LAns Req η S Act) (a : Nat) (r : Req) (response : α) :
    Prop :=
  ∃ i j s inp, c.sender i = some a ∧ c.server.job i = some j ∧ j = C.job r s inp ∧
    F i j response c.server.log ∧ Took M C w c a i r response

/-- An activity `act` of the client `k` was given this response. -/
def Received (c : Clients Op Ans ε α In W Job LAns Req η S Act) (k : Nat) (act : Act) (r : Req)
    (response : α) : Prop :=
  ∃ a x, c.activity a = some x ∧ x.client = k ∧ x.act = act ∧ Given M C w F c a r response

/-- The replies in the history of an activity. -/
def Replies (h : History (LOp ⊕ Req) (Sum.elim LAns fun _ => Option α)) (r : Req) (response : α) :
    Prop := (⟨.inr r, some response⟩ : Event (LOp ⊕ Req) (Sum.elim LAns fun _ => Option α)) ∈ h

/-- What stands in the history of the activity `a` happened in the run. -/
structure Happened (c : Clients Op Ans ε α In W Job LAns Req η S Act) (a : Nat)
    (h : History (LOp ⊕ Req) (Sum.elim LAns fun _ => Option α)) : Prop where
  calls : ∀ o (r : LAns o), (⟨.inl o, r⟩ : Event (LOp ⊕ Req) (Sum.elim LAns fun _ => Option α)) ∈ h →
    Called M C w c a o r
  replies : ∀ r response, Replies h r response → Given M C w F c a r response

/-- What the programs of the activities do with a state that comes from what was received:
`P` relates a state to what it comes from, `B` an activity to what it was begun on, and `G` says
what a call may rest on. -/
structure Rests (G : Act → History (LOp ⊕ Req) (Sum.elim LAns fun _ => Option α) → LOp ⊕ Req → Prop)
    (B : (Act → Req → α → Prop) → Act → Prop) (P : (Act → Req → α → Prop) → S → Prop) : Prop where
  program : ∀ act, (C.program act).wp (fun _ => True) (G act) (fun _ _ => True) []
  initial : ∀ got, P got C.initial
  begins : ∀ got act s s', C.begins act s = some s' → P got s → B got act ∧ P got s'
  acts : ∀ (got : Act → Req → α → Prop) act h o inp s, G act h (.inl o) →
    (∀ r response, Replies h r response → got act r response) → P got s → P got (C.exec o inp s).2
  more_begun : ∀ got got' act, (∀ b r response, got b r response → got' b r response) →
    B got act → B got' act
  more : ∀ got got' s, (∀ b r response, got b r response → got' b r response) → P got s → P got' s

/-- The activity that waits for a job sent it, for the request it has come to. -/
def Waits (c : Clients Op Ans ε α In W Job LAns Req η S Act) : Prop :=
  ∀ a x i, c.activity a = some x → x.waiting = some i → ∃ r next s inp,
    x.rest = .call (.inr r) next ∧ c.sender i = some a ∧ c.server.job i = some (C.job r s inp)

/-- What is known of the activities and states of a configuration. -/
structure Sourced (G : Act → History (LOp ⊕ Req) (Sum.elim LAns fun _ => Option α) → LOp ⊕ Req → Prop)
    (B : (Act → Req → α → Prop) → Act → Prop) (P : (Act → Req → α → Prop) → S → Prop)
    (c : Clients Op Ans ε α In W Job LAns Req η S Act) : Prop where
  rest : ∀ a x, c.activity a = some x → ∃ h, x.rest.wp (fun _ => True) (G x.act) (fun _ _ => True) h ∧
    Happened M C w F c a h
  /-- A job was sent with what its activity had called and been given by then. -/
  sent : ∀ i j, c.server.job i = some j → ∃ a x h r s inp, c.sender i = some a ∧ c.activity a = some x ∧
    G x.act h (.inr r) ∧ j = C.job r s inp ∧ Happened M C w F c a h
  begun : ∀ a x, c.activity a = some x → B (Received M C w F c x.client) x.act
  state : ∀ k, P (Received M C w F c k) (c.state k)

variable {M C F w}
variable {G : Act → History (LOp ⊕ Req) (Sum.elim LAns fun _ => Option α) → LOp ⊕ Req → Prop}
variable {B : (Act → Req → α → Prop) → Act → Prop} {P : (Act → Req → α → Prop) → S → Prop}
variable {c c' : Clients Op Ans ε α In W Job LAns Req η S Act}

theorem Called.step (hs : Step M C c c') {a : Nat} {o : LOp} {r : LAns o} (h : Called M C w c a o r) :
    Called M C w c' a o r := by
  obtain ⟨c₀, x, next, inp, hc₀, hx, hrest, hr, hlater⟩ := h
  exact ⟨c₀, x, next, inp, hc₀, hx, hrest, hr, hlater.tail hs⟩

theorem Took.step (hs : Step M C c c') {a i : Nat} {r : Req} {response : α}
    (h : Took M C w c a i r response) : Took M C w c' a i r response := by
  obtain ⟨c₀, x, next, hc₀, hx, hrest, hwait, hrun, hlater⟩ := h
  exact ⟨c₀, x, next, hc₀, hx, hrest, hwait, hrun, hlater.tail hs⟩

/-- A job that is there keeps its sender and its facts through every step. -/
theorem Given.step (hF : Lasting M w F) (hs : Step M C c c') {a : Nat} {r : Req} {response : α}
    (h : Given M C w F c a r response) : Given M C w F c' a r response := by
  obtain ⟨i, j, s, inp, hsender, hjob, hj, hfact, htook⟩ := h
  replace htook := htook.step hs
  cases hs with
  | begin b k act s' _ _ => exact ⟨i, j, s, inp, hsender, hjob, hj, hfact, htook⟩
  | act b x o next inp' _ _ => exact ⟨i, j, s, inp, hsender, hjob, hj, hfact, htook⟩
  | send b x r' next inp' i' _ _ _ hi =>
    have hne : i ≠ i' := by
      intro h
      subst h
      rw [hjob] at hi
      cases hi
    exact ⟨i, j, s, inp, (Function.update_of_ne hne ..).trans hsender,
      (Function.update_of_ne hne ..).trans hjob, hj, hfact, htook⟩
  | receive b x r' next i' response' _ _ _ _ => exact ⟨i, j, s, inp, hsender, hjob, hj, hfact, htook⟩
  | lose b x r' next _ _ => exact ⟨i, j, s, inp, hsender, hjob, hj, hfact, htook⟩
  | serve server hserver hsame =>
    refine ⟨i, j, s, inp, hsender, (congrFun hsame i).trans hjob, hj, ?_, htook⟩
    cases hserver with
    | arrive i' j' _ => exact hfact
    | call i' o k inp' _ => exact hF.stays _ _ _ _ _ hfact
    | abort i' => exact hfact
    | restart inp' => exact hfact

/-- An activity that is there stays there, as the same activity of the same client. -/
theorem activity_step (hs : Step M C c c') {a : Nat} {x : Activity LAns Req α η Act}
    (hx : c.activity a = some x) :
    ∃ y, c'.activity a = some y ∧ y.client = x.client ∧ y.act = x.act := by
  have hresume : ∀ {b : Nat} {z z' : Activity LAns Req α η Act}, c.activity b = some z →
      z'.client = z.client → z'.act = z.act →
      ∃ y, Function.update c.activity b (some z') a = some y ∧ y.client = x.client ∧ y.act = x.act := by
    intro b z z' hz hclient hact
    by_cases h : a = b
    · subst h
      obtain rfl := Option.some.inj (hz.symm.trans hx)
      exact ⟨z', Function.update_self .., hclient, hact⟩
    · exact ⟨x, (Function.update_of_ne h ..).trans hx, rfl, rfl⟩
  cases hs with
  | begin b k act s hb _ =>
    have hne : a ≠ b := by
      intro h
      subst h
      rw [hx] at hb
      cases hb
    exact ⟨x, (Function.update_of_ne hne ..).trans hx, rfl, rfl⟩
  | act b z o next inp hz _ => exact hresume hz rfl rfl
  | send b z r next inp i hz _ _ _ => exact hresume hz rfl rfl
  | receive b z r next i response hz _ _ _ => exact hresume hz rfl rfl
  | lose b z r next hz _ => exact hresume hz rfl rfl
  | serve server _ _ => exact ⟨x, hx, rfl, rfl⟩

theorem Happened.step (hF : Lasting M w F) (hs : Step M C c c') {a : Nat}
    {hist : History (LOp ⊕ Req) (Sum.elim LAns fun _ => Option α)} (h : Happened M C w F c a hist) :
    Happened M C w F c' a hist :=
  ⟨fun o r hr => (h.calls o r hr).step hs, fun r response hr => (h.replies r response hr).step hF hs⟩

theorem Happened.nil {a : Nat} : Happened M C w F c a [] := ⟨nofun, nofun⟩

/-- The history goes on with a call. -/
theorem Happened.call {a : Nat} {hist : History (LOp ⊕ Req) (Sum.elim LAns fun _ => Option α)}
    (h : Happened M C w F c a hist) {o : LOp} {r : LAns o} (hr : Called M C w c a o r) :
    Happened M C w F c a (hist ++ [⟨.inl o, r⟩]) := by
  refine ⟨fun o' r' hmem => ?_, fun r' response hmem => ?_⟩
  · rcases List.mem_append.mp hmem with hmem | hmem
    · exact h.calls o' r' hmem
    · cases List.mem_singleton.mp hmem
      exact hr
  · rcases List.mem_append.mp hmem with hmem | hmem
    · exact h.replies r' response hmem
    · cases (Event.mk.inj (List.mem_singleton.mp hmem)).1

/-- The history goes on with a reply. -/
theorem Happened.reply {a : Nat} {hist : History (LOp ⊕ Req) (Sum.elim LAns fun _ => Option α)}
    (h : Happened M C w F c a hist) {r : Req} {reply : Option α}
    (hreply : ∀ response, reply = some response → Given M C w F c a r response) :
    Happened M C w F c a (hist ++ [⟨.inr r, reply⟩]) := by
  refine ⟨fun o r' hmem => ?_, fun r' response hmem => ?_⟩
  · rcases List.mem_append.mp hmem with hmem | hmem
    · exact h.calls o r' hmem
    · cases (Event.mk.inj (List.mem_singleton.mp hmem)).1
  · rcases List.mem_append.mp hmem with hmem | hmem
    · exact h.replies r' response hmem
    · obtain ⟨hop, hans⟩ := Event.mk.inj (List.mem_singleton.mp hmem)
      obtain rfl := Sum.inr.inj hop
      exact hreply response (eq_of_heq hans).symm

theorem Received.step (hF : Lasting M w F) (hs : Step M C c c') {k : Nat} {act : Act} {r : Req}
    {response : α} (h : Received M C w F c k act r response) : Received M C w F c' k act r response := by
  obtain ⟨a, x, hx, hk, hact, hgiven⟩ := h
  obtain ⟨y, hy, hclient, hsame⟩ := activity_step hs hx
  exact ⟨a, y, hy, hclient.trans hk, hsame.trans hact, hgiven.step hF hs⟩

theorem Reachable.waits (hc : Reachable M C w c) : Waits C c := by
  refine hc.invariant (P := Waits C) (by simp [Waits, Clients.init]) fun c c' hreach ih hs => ?_
  intro b z i hz hwait
  cases hs with
  | begin a k act s ha _ =>
    rcases update_eq_some hz with ⟨rfl, rfl⟩ | ⟨_, hz⟩
    · cases hwait
    · exact ih b z i hz hwait
  | act a x o next inp hx hrest =>
    rcases update_eq_some hz with ⟨rfl, rfl⟩ | ⟨_, hz⟩
    · obtain ⟨r, next', _, _, hrest', _⟩ := ih b x i hx hwait
      rw [hrest] at hrest'
      cases hrest'
    · exact ih b z i hz hwait
  | send a x r next inp i' hx hrest _ hi =>
    rcases update_eq_some hz with ⟨rfl, rfl⟩ | ⟨_, hz⟩
    · obtain rfl := Option.some.inj hwait
      exact ⟨r, next, c.state x.client, inp, hrest, Function.update_self .., Function.update_self ..⟩
    · obtain ⟨r', next', s, inp', hrest', hsender, hjob⟩ := ih b z i hz hwait
      have hne : i ≠ i' := by
        intro h
        subst h
        rw [hjob] at hi
        cases hi
      exact ⟨r', next', s, inp', hrest', (Function.update_of_ne hne ..).trans hsender,
        (Function.update_of_ne hne ..).trans hjob⟩
  | receive a x r next i' response hx _ _ _ =>
    rcases update_eq_some hz with ⟨rfl, rfl⟩ | ⟨_, hz⟩
    · cases hwait
    · exact ih b z i hz hwait
  | lose a x r next hx _ =>
    rcases update_eq_some hz with ⟨rfl, rfl⟩ | ⟨_, hz⟩
    · cases hwait
    · exact ih b z i hz hwait
  | serve server _ hjob =>
    obtain ⟨r, next, s, inp, hrest, hsender, hj⟩ := ih b z i hz hwait
    exact ⟨r, next, s, inp, hrest, hsender, (congrFun hjob i).trans hj⟩

/-- What lies behind a request stays so. -/
theorem Sourced.sent_step (h : Sourced M C w F G B P c) (hF : Lasting M w F) (hs : Step M C c c') {i : Nat}
    {j : Job} (hj : c.server.job i = some j) (hsender : c'.sender i = c.sender i) :
    ∃ a x hist r s inp, c'.sender i = some a ∧ c'.activity a = some x ∧ G x.act hist (.inr r) ∧
      j = C.job r s inp ∧ Happened M C w F c' a hist := by
  obtain ⟨a, x, hist, r, s, inp, ha, hx, hG, hjob, hhappened⟩ := h.sent i j hj
  obtain ⟨y, hy, _, hact⟩ := activity_step hs hx
  exact ⟨a, y, hist, r, s, inp, hsender.trans ha, hy, hact ▸ hG, hjob, hhappened.step hF hs⟩

/-- An activity that was there goes on as `y`. -/
theorem Sourced.resume (h : Sourced M C w F G B P c) (hF : Lasting M w F) (hr : Rests C G B P)
    (hs : Step M C c c') {a : Nat} {x y : Activity LAns Req α η Act} (hx : c.activity a = some x)
    (hact : c'.activity = Function.update c.activity a (some y)) (hclient : y.client = x.client)
    (hsame : y.act = x.act)
    (hrest : ∃ h, y.rest.wp (fun _ => True) (G y.act) (fun _ _ => True) h ∧ Happened M C w F c' a h)
    (hsent : ∀ i j, c'.server.job i = some j → c.server.job i = some j ∧ c'.sender i = c.sender i ∨
      ∃ h r s inp, c'.sender i = some a ∧ G y.act h (.inr r) ∧ j = C.job r s inp ∧
        Happened M C w F c' a h)
    (hstate : ∀ k, P (Received M C w F c' k) (c'.state k)) : Sourced M C w F G B P c' := by
  refine ⟨fun b z hz => ?_, fun i j hj => ?_, fun b z hz => ?_, hstate⟩
  · rw [hact] at hz
    rcases update_eq_some hz with ⟨rfl, rfl⟩ | ⟨_, hz⟩
    · exact hrest
    · obtain ⟨hist, hwp, hhappened⟩ := h.rest b z hz
      exact ⟨hist, hwp, hhappened.step hF hs⟩
  · rcases hsent i j hj with ⟨hold, hsender⟩ | ⟨hist, r, s, inp, hsender, hG, hj, hhappened⟩
    · exact h.sent_step hF hs hold hsender
    · exact ⟨a, y, hist, r, s, inp, hsender, by rw [hact, Function.update_self], hG, hj, hhappened⟩
  · rw [hact] at hz
    rcases update_eq_some hz with ⟨rfl, rfl⟩ | ⟨_, hz⟩
    · rw [hclient, hsame]
      exact hr.more_begun _ _ _ (fun _ r response hrec => hrec.step hF hs) (h.begun b x hx)
    · exact hr.more_begun _ _ _ (fun _ r response hrec => hrec.step hF hs) (h.begun b z hz)

/-- What an activity was given stands behind what it is told next. -/
theorem Sourced.receive (h : Sourced M C w F G B P c) (hF : Lasting M w F) (hr : Rests C G B P)
    (hs : Step M C c c') {a : Nat} {x y : Activity LAns Req α η Act} (hx : c.activity a = some x)
    {r : Req} {next : Option α → ActivityProg LAns Req α η} (hcall : x.rest = .call (.inr r) next)
    (reply : Option α) (hact : c'.activity = Function.update c.activity a (some y))
    (hclient : y.client = x.client) (hsame : y.act = x.act) (hnext : y.rest = next reply)
    (hreply : ∀ response, reply = some response → Given M C w F c' a r response)
    (hserver : c'.server = c.server) (hsender : c'.sender = c.sender) (hstate : c'.state = c.state) :
    Sourced M C w F G B P c' := by
  obtain ⟨hist, hwp, hhappened⟩ := h.rest a x hx
  rw [hcall] at hwp
  refine h.resume hF hr hs hx hact hclient hsame ⟨hist ++ [⟨.inr r, reply⟩], ?_, ?_⟩
    (fun i j hj => Or.inl ⟨by rw [← hserver]; exact hj, by rw [hsender]⟩) fun k => ?_
  · rw [hnext, hsame]
    exact hwp.2 reply trivial
  · exact (hhappened.step hF hs).reply hreply
  · rw [hstate]
    exact hr.more _ _ _ (fun _ r response hrec => hrec.step hF hs) (h.state k)

/-- **Provenance rule.** In every run, what the activities are begun on and send, and what the states
hold, comes from what the same client called and was given. -/
theorem Reachable.sourced (hF : Lasting M w F) (hr : Rests C G B P) (hc : Reachable M C w c) :
    Sourced M C w F G B P c := by
  refine hc.invariant (P := Sourced M C w F G B P)
    ⟨by simp [Clients.init], by simp [Clients.init, Config.init], by simp [Clients.init],
      fun _ => hr.initial _⟩
    fun c c' hreach ih hs => ?_
  have hs' := hs
  cases hs with
  | begin a k act s ha hbegin =>
    have hmore : ∀ k' b r response, Received M C w F c k' b r response →
        Received M C w F _ k' b r response := fun k' b r response hrec => hrec.step hF hs'
    obtain ⟨hbegun, hstate⟩ := hr.begins _ act _ s hbegin (ih.state k)
    refine ⟨fun b z hz => ?_, fun i j hj => ?_, fun b z hz => ?_, fun k' => ?_⟩
    · rcases update_eq_some hz with ⟨rfl, rfl⟩ | ⟨_, hz⟩
      · exact ⟨[], hr.program act, .nil⟩
      · obtain ⟨hist, hwp, hhappened⟩ := ih.rest b z hz
        exact ⟨hist, hwp, hhappened.step hF hs'⟩
    · exact ih.sent_step hF hs' hj rfl
    · rcases update_eq_some hz with ⟨rfl, rfl⟩ | ⟨_, hz⟩
      · exact hr.more_begun _ _ _ (hmore k) hbegun
      · exact hr.more_begun _ _ _ (hmore z.client) (ih.begun b z hz)
    · show P _ (Function.update c.state k s k')
      by_cases h : k' = k
      · subst h
        rw [Function.update_self]
        exact hr.more _ _ _ (hmore k') hstate
      · rw [Function.update_of_ne h]
        exact hr.more _ _ _ (hmore k') (ih.state k')
  | act a x o next inp hx hrest =>
    obtain ⟨hist, hwp, hhappened⟩ := ih.rest a x hx
    rw [hrest] at hwp
    have hcalled : Called M C w _ a o (C.exec o inp (c.state x.client)).1 :=
      ⟨c, x, next, inp, hreach, hx, hrest, rfl, .refl⟩
    refine ih.resume hF hr hs' hx rfl rfl rfl
      ⟨_, hwp.2 _ trivial, (hhappened.step hF hs').call hcalled⟩ (fun i j hj => Or.inl ⟨hj, rfl⟩)
      fun k => ?_
    apply hr.more _ _ _ (fun _ r response hrec => Received.step hF hs' hrec)
    show P _ (Function.update c.state x.client _ k)
    by_cases h : k = x.client
    · subst h
      rw [Function.update_self]
      exact hr.acts _ x.act hist o inp _ hwp.1
        (fun r response hrep => ⟨a, x, hx, rfl, rfl, hhappened.replies r response hrep⟩)
        (ih.state x.client)
    · rw [Function.update_of_ne h]
      exact ih.state k
  | send a x r next inp i hx hrest hwait hi =>
    obtain ⟨hist, hwp, hhappened⟩ := ih.rest a x hx
    have hcall := hwp
    rw [hrest] at hcall
    refine ih.resume hF hr hs' hx rfl rfl rfl ⟨hist, hwp, hhappened.step hF hs'⟩ (fun i' j hj => ?_)
      fun k => hr.more _ _ _ (fun _ r response hrec => hrec.step hF hs') (ih.state k)
    rcases update_eq_some hj with ⟨rfl, rfl⟩ | ⟨hne, hj⟩
    · exact Or.inr ⟨hist, r, c.state x.client, inp, Function.update_self .., hcall.1, rfl,
        hhappened.step hF hs'⟩
    · exact Or.inl ⟨hj, Function.update_of_ne hne ..⟩
  | receive a x r next i response hx hrest hwait hrun =>
    refine ih.receive hF hr hs' hx hrest (some response) rfl rfl rfl rfl (fun response' h => ?_)
      rfl rfl rfl
    obtain rfl := Option.some.inj h
    obtain ⟨r', next', s, inp, hrest', hsender, hjob⟩ := hreach.waits a x i hx hwait
    rw [hrest] at hrest'
    obtain rfl : r = r' := by
      injection hrest' with h
      exact Sum.inr.inj h
    exact ⟨i, _, s, inp, hsender, hjob, rfl, hF.given _ i _ response hreach.server hjob hrun,
      c, x, next, hreach, hx, hrest, hwait, hrun, .refl⟩
  | lose a x r next hx hrest =>
    exact ih.receive hF hr hs' hx hrest none rfl rfl rfl rfl (fun _ h => by cases h) rfl rfl rfl
  | serve server hserver hjob =>
    refine ⟨fun b z hz => ?_, fun i j hj => ?_, fun b z hz => ?_, fun k => ?_⟩
    · obtain ⟨hist, hwp, hhappened⟩ := ih.rest b z hz
      exact ⟨hist, hwp, hhappened.step hF hs'⟩
    · exact ih.sent_step hF hs' (hjob ▸ hj) rfl
    · exact hr.more_begun _ _ _ (fun _ r response hrec => Received.step hF hs' hrec) (ih.begun b z hz)
    · exact hr.more _ _ _ (fun _ r response hrec => Received.step hF hs' hrec) (ih.state k)

/-- What a description of the programs says of their ends lasts: it is about the calls that the
job had made when it ended. -/
theorem lasting_of_wp {R : Event Op Ans → Prop} {G' : Job → History Op Ans → Op → Prop}
    {Q : Job → History Op Ans → Except ε α → Prop} (hR : ∀ o inp w, R ⟨o, (M.exec o inp w).1⟩)
    (hp : ∀ j, (M.program j).wp R (G' j) (Q j) []) :
    Lasting M w fun i j response log => ∃ n ≤ log.length, Q j (calls i (log.take n)) (.ok response) := by
  refine ⟨fun c i j response hc hjob hrun => ?_, fun i j response log e ⟨n, hn, hq⟩ => ?_⟩
  · refine ⟨c.log.length, Nat.le_refl _, ?_⟩
    rw [List.take_length]
    exact (hc.guarded hR hp).rest i j _ hjob hrun
  · refine ⟨n, ?_, ?_⟩
    · rw [List.length_append]
      omega
    · rw [List.take_append_of_le_length hn]
      exact hq

end Interaction.Clients
