import Mathlib.Logic.Relation
import Mathlib.Logic.Function.Basic
import Mathlib.Data.List.Induction

/-! Programs that talk to a shared world through calls, and machines in which any
number of such programs run interleaved, one call at a time. `Prog.wp` describes
one program against every answer the world may give; `Reachable.guarded` carries
such a description to every interleaved run of a machine. -/

namespace Interaction

/-- A program over the calls `Op`. The call `o` is answered by a value of `Ans o`;
the program ends by returning or by raising. -/
inductive Prog (Op : Type) (Ans : Op → Type) (ε α : Type) where
  | ret (a : α)
  | raise (e : ε)
  | call (o : Op) (k : Ans o → Prog Op Ans ε α)

/-- One call together with the answer it got. -/
structure Event (Op : Type) (Ans : Op → Type) where
  op : Op
  ans : Ans op

/-- What one program has seen so far, oldest call first. -/
abbrev History (Op : Type) (Ans : Op → Type) := List (Event Op Ans)

variable {Op : Type} {Ans : Op → Type} {ε ε' α β : Type}

namespace Prog

def bind : Prog Op Ans ε α → (α → Prog Op Ans ε β) → Prog Op Ans ε β
  | ret a, f => f a
  | raise e, _ => raise e
  | call o k, f => call o fun r => (k r).bind f

instance : Monad (Prog Op Ans ε) where
  pure := ret
  bind := bind

/-- Run a program and hand both outcomes to the caller (`try`). -/
def attempt : Prog Op Ans ε α → Prog Op Ans ε' (Except ε α)
  | ret a => ret (.ok a)
  | raise e => ret (.error e)
  | call o k => call o fun r => (k r).attempt

def ofExcept : Except ε α → Prog Op Ans ε α
  | .ok a => ret a
  | .error e => raise e

/-- Go on only when `c` holds, else raise `e`. -/
def ensure (c : Prop) [Decidable c] (e : ε) : Prog Op Ans ε Unit :=
  if c then ret () else raise e

/-- Every call the program makes after the history `h` satisfies `G`, and every
end it comes to satisfies `Q`, whatever answers allowed by `R` it gets. -/
def wp (R : Event Op Ans → Prop) (G : History Op Ans → Op → Prop)
    (Q : History Op Ans → Except ε α → Prop) : Prog Op Ans ε α → History Op Ans → Prop
  | ret a, h => Q h (.ok a)
  | raise e, h => Q h (.error e)
  | call o k, h => G h o ∧ ∀ r, R ⟨o, r⟩ → (k r).wp R G Q (h ++ [⟨o, r⟩])

variable {R : Event Op Ans → Prop} {G G' : History Op Ans → Op → Prop} {h : History Op Ans}

@[simp] theorem pure_eq (a : α) : (pure a : Prog Op Ans ε α) = ret a := rfl

@[simp] theorem bind_eq (p : Prog Op Ans ε α) (f : α → Prog Op Ans ε β) :
    (p >>= f) = p.bind f := rfl

@[simp] theorem ret_bind (a : α) (f : α → Prog Op Ans ε β) : (ret a).bind f = f a := rfl

@[simp] theorem raise_bind (e : ε) (f : α → Prog Op Ans ε β) :
    (raise e : Prog Op Ans ε α).bind f = raise e := rfl

@[simp] theorem call_bind (o : Op) (k : Ans o → Prog Op Ans ε α) (f : α → Prog Op Ans ε β) :
    (call o k).bind f = call o fun r => (k r).bind f := rfl

theorem bind_assoc {γ : Type} (p : Prog Op Ans ε α) (f : α → Prog Op Ans ε β)
    (g : β → Prog Op Ans ε γ) : (p.bind f).bind g = p.bind fun a => (f a).bind g := by
  induction p with
  | ret a => rfl
  | raise e => rfl
  | call o k ih => exact congrArg (call o) (funext ih)

@[simp] theorem attempt_ret (a : α) :
    (ret a : Prog Op Ans ε α).attempt = (ret (.ok a) : Prog Op Ans ε' (Except ε α)) := rfl

@[simp] theorem attempt_raise (e : ε) :
    (raise e : Prog Op Ans ε α).attempt = (ret (.error e) : Prog Op Ans ε' (Except ε α)) := rfl

@[simp] theorem attempt_call (o : Op) (k : Ans o → Prog Op Ans ε α) :
    (call o k).attempt = (call o fun r => (k r).attempt : Prog Op Ans ε' (Except ε α)) := rfl

/-- A program that begins with an attempt cannot raise there. -/
theorem attempt_attempt_bind {ε'' : Type} (p : Prog Op Ans ε α)
    (g : Except ε α → Prog Op Ans ε' β) :
    ((p.attempt.bind g).attempt : Prog Op Ans ε'' (Except ε' β)) =
      p.attempt.bind fun x => (g x).attempt := by
  induction p with
  | ret a => rfl
  | raise e => rfl
  | call o k ih => exact congrArg (call o) (funext ih)

/-- What the attempt of a mapped program comes to. -/
theorem attempt_map_bind {γ : Type} (p : Prog Op Ans ε α) (g : α → β)
    (f : Except ε β → Prog Op Ans ε' γ) :
    (p.bind fun a => ret (g a)).attempt.bind f = p.attempt.bind fun x => f (x.map g) := by
  induction p with
  | ret a => rfl
  | raise e => rfl
  | call o k ih => exact congrArg (call o) (funext ih)

@[simp] theorem ofExcept_ok (a : α) : (ofExcept (.ok a) : Prog Op Ans ε α) = ret a := rfl

@[simp] theorem ofExcept_error (e : ε) : (ofExcept (.error e) : Prog Op Ans ε α) = raise e := rfl

@[simp] theorem wp_ret {Q : History Op Ans → Except ε α → Prop} (a : α) :
    (ret a).wp R G Q h ↔ Q h (.ok a) := Iff.rfl

@[simp] theorem wp_raise {Q : History Op Ans → Except ε α → Prop} (e : ε) :
    (raise e).wp R G Q h ↔ Q h (.error e) := Iff.rfl

@[simp] theorem wp_call {Q : History Op Ans → Except ε α → Prop} (o : Op)
    (k : Ans o → Prog Op Ans ε α) :
    (call o k).wp R G Q h ↔ G h o ∧ ∀ r, R ⟨o, r⟩ → (k r).wp R G Q (h ++ [⟨o, r⟩]) := Iff.rfl

/-- How a sequence `p >>= f` ends, seen from the end of `p`. -/
def andThen (R : Event Op Ans → Prop) (G : History Op Ans → Op → Prop)
    (Q : History Op Ans → Except ε β → Prop) (f : α → Prog Op Ans ε β) (h : History Op Ans) :
    Except ε α → Prop
  | .ok a => (f a).wp R G Q h
  | .error e => Q h (.error e)

@[simp] theorem andThen_ok {Q : History Op Ans → Except ε β → Prop}
    (f : α → Prog Op Ans ε β) (a : α) : andThen R G Q f h (.ok a) ↔ (f a).wp R G Q h := Iff.rfl

@[simp] theorem andThen_error {Q : History Op Ans → Except ε β → Prop}
    (f : α → Prog Op Ans ε β) (e : ε) : andThen R G Q f h (.error e) ↔ Q h (.error e) := Iff.rfl

theorem wp_bind {Q : History Op Ans → Except ε β → Prop} (p : Prog Op Ans ε α)
    (f : α → Prog Op Ans ε β) : (p.bind f).wp R G Q h ↔ p.wp R G (andThen R G Q f) h := by
  induction p generalizing h with
  | ret a => rfl
  | raise e => rfl
  | call o k ih => exact and_congr_right fun _ => forall_congr' fun r => imp_congr_right fun _ => ih r

theorem wp_attempt {Q : History Op Ans → Except ε' (Except ε α) → Prop} (p : Prog Op Ans ε α) :
    p.attempt.wp R G Q h ↔ p.wp R G (fun h' x => Q h' (.ok x)) h := by
  induction p generalizing h with
  | ret a => rfl
  | raise e => rfl
  | call o k ih => exact and_congr_right fun _ => forall_congr' fun r => imp_congr_right fun _ => ih r

theorem wp_mono {Q Q' : History Op Ans → Except ε α → Prop}
    (hG : ∀ h o, G h o → G' h o) (hQ : ∀ h x, Q h x → Q' h x) (p : Prog Op Ans ε α)
    (hp : p.wp R G Q h) : p.wp R G' Q' h := by
  induction p generalizing h with
  | ret a => exact hQ _ _ hp
  | raise e => exact hQ _ _ hp
  | call o k ih => exact ⟨hG _ _ hp.1, fun r hr => ih r (hp.2 r hr)⟩

/-- Two descriptions of one program hold together. -/
theorem wp_and {Q Q' : History Op Ans → Except ε α → Prop} (p : Prog Op Ans ε α)
    (hp : p.wp R G Q h) (hp' : p.wp R G' Q' h) :
    p.wp R (fun h o => G h o ∧ G' h o) (fun h x => Q h x ∧ Q' h x) h := by
  induction p generalizing h with
  | ret a => exact ⟨hp, hp'⟩
  | raise e => exact ⟨hp, hp'⟩
  | call o k ih => exact ⟨⟨hp.1, hp'.1⟩, fun r hr => ih r (hp.2 r hr) (hp'.2 r hr)⟩

/-- A program without calls: it returns what satisfies `P` or raises what satisfies `E`. -/
def Returns (P : α → Prop) (E : ε → Prop) (p : Prog Op Ans ε α) : Prop :=
  (∃ a, p = ret a ∧ P a) ∨ ∃ e, p = raise e ∧ E e

section Returns

variable {P : α → Prop} {P' : β → Prop} {E E' : ε → Prop} {p : Prog Op Ans ε α}
  {f : α → Prog Op Ans ε β}

theorem Returns.ret {a : α} (ha : P a) : Returns P E (ret a : Prog Op Ans ε α) :=
  Or.inl ⟨a, rfl, ha⟩

theorem Returns.raise {e : ε} (he : E e) : Returns P E (raise e : Prog Op Ans ε α) :=
  Or.inr ⟨e, rfl, he⟩

theorem Returns.ensure {c : Prop} [Decidable c] {e : ε} (he : ¬c → E e) :
    Returns (fun _ => c) E (ensure c e : Prog Op Ans ε Unit) := by
  unfold Prog.ensure
  split
  · next hc => exact .ret hc
  · next hc => exact .raise (he hc)

theorem Returns.mono {Q : α → Prop} (hp : p.Returns P E) (hP : ∀ a, P a → Q a)
    (hE : ∀ e, E e → E' e) : p.Returns Q E' := by
  rcases hp with ⟨a, rfl, ha⟩ | ⟨e, rfl, he⟩
  · exact .ret (hP a ha)
  · exact .raise (hE e he)

/-- What a program without calls returns is what it is. -/
theorem Returns.self (hp : p.Returns P E) : p.Returns (fun a => p = Prog.ret a ∧ P a) E := by
  rcases hp with ⟨a, rfl, ha⟩ | ⟨e, rfl, he⟩
  · exact .ret ⟨rfl, ha⟩
  · exact .raise he

theorem Returns.bind (hp : p.Returns P E) (hf : ∀ a, P a → (f a).Returns P' E) :
    (p.bind f).Returns P' E := by
  rcases hp with ⟨a, rfl, ha⟩ | ⟨e, rfl, he⟩
  · exact hf a ha
  · exact .raise he

theorem Returns.wp {Q : History Op Ans → Except ε α → Prop} (hp : p.Returns P E)
    (hok : ∀ a, P a → Q h (.ok a)) (herr : ∀ e, E e → Q h (.error e)) : p.wp R G Q h := by
  rcases hp with ⟨a, rfl, ha⟩ | ⟨e, rfl, he⟩
  · exact hok a ha
  · exact herr e he

theorem Returns.wp_bind {Q : History Op Ans → Except ε β → Prop} (hp : p.Returns P E)
    (hok : ∀ a, P a → (f a).wp R G Q h) (herr : ∀ e, E e → Q h (.error e)) :
    (p.bind f).wp R G Q h :=
  (Prog.wp_bind p f).mpr (hp.wp hok herr)

end Returns

/-! ### Contracts without history -/

/-- Every call satisfies `C` and every end satisfies `Q`, whatever answers allowed by `R`
come. -/
def Within (R : Event Op Ans → Prop) (C : Op → Prop) (Q : Except ε α → Prop) :
    Prog Op Ans ε α → Prop
  | ret a => Q (.ok a)
  | raise e => Q (.error e)
  | call o k => C o ∧ ∀ r, R ⟨o, r⟩ → (k r).Within R C Q

section Within

variable {C : Op → Prop} {Q : Except ε α → Prop} {Q' : Except ε β → Prop} {p : Prog Op Ans ε α}

theorem Within.wp (hp : p.Within R C Q) : p.wp R (fun _ => C) (fun _ => Q) h := by
  induction p generalizing h with
  | ret a => exact hp
  | raise e => exact hp
  | call o k ih => exact ⟨hp.1, fun r hr => ih r (hp.2 r hr)⟩

/-- A property of the history that the calls in `C` keep holds at the end. -/
theorem Within.wp_keeps {I : History Op Ans → Prop} {P : History Op Ans → Except ε α → Prop}
    (hp : p.Within R C Q) (hI : I h) (hkeep : ∀ h v, I h → C v.op → I (h ++ [v]))
    (hG : ∀ h o, I h → C o → G h o) (hP : ∀ h x, I h → Q x → P h x) : p.wp R G P h := by
  induction p generalizing h with
  | ret a => exact hP h _ hI hp
  | raise e => exact hP h _ hI hp
  | call o k ih => exact ⟨hG h o hI hp.1, fun r hr => ih r (hp.2 r hr) (hkeep h _ hI hp.1)⟩

theorem Within.mono {C' : Op → Prop} {P : Except ε α → Prop} (hp : p.Within R C Q)
    (hC : ∀ o, C o → C' o) (hQ : ∀ x, Q x → P x) : p.Within R C' P := by
  induction p with
  | ret a => exact hQ _ hp
  | raise e => exact hQ _ hp
  | call o k ih => exact ⟨hC o hp.1, fun r hr => ih r (hp.2 r hr)⟩

theorem Within.bind {f : α → Prog Op Ans ε β} (hp : p.Within R C Q)
    (hok : ∀ a, Q (.ok a) → (f a).Within R C Q') (herr : ∀ e, Q (.error e) → Q' (.error e)) :
    (p.bind f).Within R C Q' := by
  induction p with
  | ret a => exact hok a hp
  | raise e => exact herr e hp
  | call o k ih => exact ⟨hp.1, fun r hr => ih r (hp.2 r hr)⟩

theorem Within.attempt_bind {Q' : Except ε' β → Prop} {f : Except ε α → Prog Op Ans ε' β}
    (hp : p.Within R C Q) (hf : ∀ x, Q x → (f x).Within R C Q') :
    (p.attempt.bind f).Within R C Q' := by
  induction p with
  | ret a => exact hf _ hp
  | raise e => exact hf _ hp
  | call o k ih => exact ⟨hp.1, fun r hr => ih r (hp.2 r hr)⟩

theorem within_any (p : Prog Op Ans ε α) : p.Within R (fun _ => True) fun _ => True := by
  induction p with
  | ret a => trivial
  | raise e => trivial
  | call o k ih => exact ⟨trivial, fun r _ => ih r⟩

theorem Returns.within {P : α → Prop} {E : ε → Prop} (hp : p.Returns P E)
    (hok : ∀ a, P a → Q (.ok a)) (herr : ∀ e, E e → Q (.error e)) : p.Within R C Q := by
  rcases hp with ⟨a, rfl, ha⟩ | ⟨e, rfl, he⟩
  · exact hok a ha
  · exact herr e he

theorem Returns.within_bind {P : α → Prop} {E : ε → Prop} {f : α → Prog Op Ans ε β}
    (hp : p.Returns P E) (hok : ∀ a, P a → (f a).Within R C Q')
    (herr : ∀ e, E e → Q' (.error e)) : (p.bind f).Within R C Q' := by
  rcases hp with ⟨a, rfl, ha⟩ | ⟨e, rfl, he⟩
  · exact hok a ha
  · exact herr e he

end Within

end Prog

/-! ## Machines -/

/-- Jobs of type `Job` run as programs over a world `W`. A call reads the input
`In` of its step: clock readings, random draws, answers of other processes. -/
structure Machine (Op : Type) (Ans : Op → Type) (ε α In W Job : Type) where
  program : Job → Prog Op Ans ε α
  exec : (o : Op) → In → W → Ans o × W
  /-- A restart drops every running job and keeps what `reboot` keeps. -/
  reboot : In → W → W

/-- One executed call, with the world right before and right after it. -/
structure Entry (Op : Type) (Ans : Op → Type) (In W : Type) where
  who : Nat
  op : Op
  input : In
  ans : Ans op
  before : W
  after : W

/-- The call and its answer. -/
abbrev Entry.event {Op : Type} {Ans : Op → Type} {In W : Type} (e : Entry Op Ans In W) :
    Event Op Ans := ⟨e.op, e.ans⟩

/-- A running machine. `log` and `job` are history: no step reads them. -/
structure Config (Op : Type) (Ans : Op → Type) (ε α In W Job : Type) where
  world : W
  log : List (Entry Op Ans In W)
  job : Nat → Option Job
  running : Nat → Option (Prog Op Ans ε α)

variable {In W Job : Type}

def Config.init (w : W) : Config Op Ans ε α In W Job := ⟨w, [], fun _ => none, fun _ => none⟩

/-- The calls of job `i` in a log. -/
def calls (i : Nat) (log : List (Entry Op Ans In W)) : History Op Ans :=
  log.filterMap fun e => if e.who = i then some e.event else none

@[simp] theorem calls_nil (i : Nat) : calls i ([] : List (Entry Op Ans In W)) = [] := rfl

theorem calls_append_self (log : List (Entry Op Ans In W)) (e : Entry Op Ans In W) :
    calls e.who (log ++ [e]) = calls e.who log ++ [e.event] := by
  simp [calls]

theorem calls_append_other {i : Nat} (log : List (Entry Op Ans In W)) (e : Entry Op Ans In W)
    (hi : e.who ≠ i) : calls i (log ++ [e]) = calls i log := by
  simp [calls, hi]

/-- Every call of a job stands in the log it was taken from. -/
theorem exists_of_mem_calls {i : Nat} {log : List (Entry Op Ans In W)} {v : Event Op Ans}
    (hv : v ∈ calls i log) :
    ∃ (m : Nat) (e : Entry Op Ans In W), log[m]? = some e ∧ e.who = i ∧ e.event = v := by
  obtain ⟨e, he, hv⟩ := List.mem_filterMap.mp hv
  obtain ⟨m, hm⟩ := List.mem_iff_getElem?.mp he
  split at hv
  · next hw => exact ⟨m, e, hm, hw, Option.some.inj hv⟩
  · cases hv

theorem mem_calls_of_getElem? {log : List (Entry Op Ans In W)} {m : Nat}
    {e : Entry Op Ans In W} (he : log[m]? = some e) :
    e.event ∈ calls e.who log :=
  List.mem_filterMap.mpr ⟨e, List.mem_of_getElem? he, by simp⟩

/-- The last call of a job so far, and where it stands in the log. -/
theorem exists_of_calls_append {i : Nat} {log : List (Entry Op Ans In W)} {h : History Op Ans}
    {v : Event Op Ans} (hlast : calls i log = h ++ [v]) : ∃ (k : Nat) (e : Entry Op Ans In W),
      log[k]? = some e ∧ e.who = i ∧ e.event = v ∧ calls i (log.take k) = h := by
  induction log using List.reverseRecOn with
  | nil => simp at hlast
  | append_singleton log e ih =>
    by_cases hwho : e.who = i
    · subst hwho
      rw [calls_append_self] at hlast
      obtain ⟨hold, hv⟩ := List.append_inj' hlast rfl
      exact ⟨log.length, e, List.getElem?_concat_length, rfl, List.singleton_inj.mp hv, by
        rw [List.take_left]
        exact hold⟩
    · rw [calls_append_other log e hwho] at hlast
      obtain ⟨k, e', hk, hwho', hv, htake⟩ := ih hlast
      have hlt : k < log.length := (List.getElem?_eq_some_iff.mp hk).1
      refine ⟨k, e', ?_, hwho', hv, ?_⟩
      · rw [List.getElem?_append_left hlt]
        exact hk
      · rw [List.take_append_of_le_length (Nat.le_of_lt hlt)]
        exact htake

/-- A job's calls before position `k` stand in the log before `k`. -/
theorem exists_of_mem_calls_take {i k : Nat} {log : List (Entry Op Ans In W)}
    {v : Event Op Ans} (hv : v ∈ calls i (log.take k)) :
    ∃ (m : Nat) (e : Entry Op Ans In W),
      m < k ∧ log[m]? = some e ∧ e.who = i ∧ e.event = v := by
  obtain ⟨m, e, hm, hw, he⟩ := exists_of_mem_calls hv
  rw [List.getElem?_take] at hm
  split at hm
  · next hlt => exact ⟨m, e, hlt, hm, hw, he⟩
  · cases hm

theorem mem_calls_take {log : List (Entry Op Ans In W)} {m k : Nat} {e : Entry Op Ans In W}
    (hmk : m < k) (he : log[m]? = some e) :
    e.event ∈ calls e.who (log.take k) :=
  mem_calls_of_getElem? (m := m) (by rw [List.getElem?_take, if_pos hmk, he])

/-- **Once in a job.** An event that has none of its kind before it in its job happens
at one position of the log. -/
theorem position_unique {log : List (Entry Op Ans In W)} {P : Event Op Ans → Prop}
    (hfirst : ∀ (m : Nat) (e : Entry Op Ans In W), log[m]? = some e → P e.event →
      ∀ v ∈ calls e.who (log.take m), ¬P v)
    {k k' : Nat} {e e' : Entry Op Ans In W} (he : log[k]? = some e) (he' : log[k']? = some e')
    (hwho : e.who = e'.who) (hP : P e.event) (hP' : P e'.event) : k = k' := by
  rcases Nat.lt_trichotomy k k' with hlt | heq | hlt
  · exact absurd hP (hfirst k' e' he' hP' _ (hwho ▸ mem_calls_take hlt he))
  · exact heq
  · exact absurd hP' (hfirst k e he hP _ (hwho ▸ mem_calls_take hlt he'))

section Steps

variable (M : Machine Op Ans ε α In W Job)

/-- The log entry of the call `o`, made by job `i` in the world `w`. -/
def Machine.entry (i : Nat) (o : Op) (inp : In) (w : W) : Entry Op Ans In W :=
  ⟨i, o, inp, (M.exec o inp w).1, w, (M.exec o inp w).2⟩

/-- A job arrives, a running job makes its next call, a job is given up, or the
whole machine restarts. Nothing else happens, in any order. -/
inductive Step (c : Config Op Ans ε α In W Job) : Config Op Ans ε α In W Job → Prop
  | arrive (i : Nat) (j : Job) : c.job i = none →
      Step c { c with job := Function.update c.job i (some j)
                      running := Function.update c.running i (some (M.program j)) }
  | call (i : Nat) (o : Op) (k : Ans o → Prog Op Ans ε α) (inp : In) :
      c.running i = some (.call o k) →
      Step c { c with world := (M.exec o inp c.world).2
                      log := c.log ++ [M.entry i o inp c.world]
                      running := Function.update c.running i (some (k (M.exec o inp c.world).1)) }
  | abort (i : Nat) : Step c { c with running := Function.update c.running i none }
  | restart (inp : In) :
      Step c { c with world := M.reboot inp c.world, running := fun _ => none }

/-- The configurations of all runs from the world `w`. -/
def Reachable (w : W) : Config Op Ans ε α In W Job → Prop :=
  Relation.ReflTransGen (Step M) (Config.init w)

end Steps

variable {M : Machine Op Ans ε α In W Job} {w : W}

theorem Reachable.init : Reachable M w (Config.init w) := Relation.ReflTransGen.refl

theorem Reachable.step {c c' : Config Op Ans ε α In W Job} (hc : Reachable M w c)
    (hs : Step M c c') : Reachable M w c' := Relation.ReflTransGen.tail hc hs

/-- **Invariant rule.** What holds at the start and is kept by every step from a
reachable configuration holds of every reachable configuration. -/
theorem Reachable.invariant {P : Config Op Ans ε α In W Job → Prop} (h0 : P (Config.init w))
    (hstep : ∀ c c', Reachable M w c → P c → Step M c c' → P c')
    {c : Config Op Ans ε α In W Job} (hc : Reachable M w c) : P c := by
  induction hc with
  | refl => exact h0
  | tail hr hs ih => exact hstep _ _ hr ih hs

/-- **Log rule.** What the log says of the world, at the start and after every call and every
restart, it says in every run. -/
theorem Reachable.logged {P : W → List (Entry Op Ans In W) → Prop} (h0 : P w [])
    (hcall : ∀ i o inp v log, P v log → P (M.exec o inp v).2 (log ++ [M.entry i o inp v]))
    (hboot : ∀ inp v log, P v log → P (M.reboot inp v) log)
    {c : Config Op Ans ε α In W Job} (hc : Reachable M w c) : P c.world c.log := by
  refine hc.invariant (P := fun c => P c.world c.log) h0 ?_
  intro c c' _ ih hs
  cases hs with
  | arrive i j _ => exact ih
  | call i o k inp _ => exact hcall i o inp _ _ ih
  | abort i => exact ih
  | restart inp => exact hboot inp _ _ ih

/-- The job of an id never changes, and a running program has a job. -/
theorem Reachable.job_of_running {c : Config Op Ans ε α In W Job} (hc : Reachable M w c)
    {i : Nat} {p : Prog Op Ans ε α} (hp : c.running i = some p) : ∃ j, c.job i = some j := by
  refine hc.invariant (P := fun c => ∀ i p, c.running i = some p → ∃ j, c.job i = some j)
    (by simp [Config.init]) (fun c c' _ ih hs => ?_) i p hp
  intro i p hp
  cases hs with
  | arrive i' j _ =>
    by_cases hi : i = i'
    · exact ⟨j, by simp [hi]⟩
    · simp only [Function.update_of_ne hi] at hp ⊢
      exact ih i p hp
  | call i' o k inp hk =>
    by_cases hi : i = i'
    · exact ih i _ (hi ▸ hk)
    · simp only [Function.update_of_ne hi] at hp
      exact ih i p hp
  | abort i' =>
    by_cases hi : i = i'
    · simp [hi] at hp
    · simp only [Function.update_of_ne hi] at hp
      exact ih i p hp
  | restart inp => cases hp

/-- Every executed call was made by a job that had arrived. -/
theorem Reachable.job_of_log {c : Config Op Ans ε α In W Job} (hc : Reachable M w c)
    {e : Entry Op Ans In W} (he : e ∈ c.log) : ∃ j, c.job e.who = some j := by
  refine hc.invariant (P := fun c => ∀ e ∈ c.log, ∃ j, c.job e.who = some j)
    (by simp [Config.init]) (fun c c' hr ih hs => ?_) e he
  intro e he
  cases hs with
  | arrive i j hi =>
    obtain ⟨j', hj'⟩ := ih e he
    have hne : e.who ≠ i := by rintro rfl; simp [hi] at hj'
    exact ⟨j', by simpa [Function.update_of_ne hne] using hj'⟩
  | call i o k inp hk =>
    rcases List.mem_append.mp he with he | he
    · exact ih e he
    · obtain rfl := List.mem_singleton.mp he
      exact Reachable.job_of_running hr hk
  | abort i => exact ih e he
  | restart inp => exact ih e he

theorem getElem?_append_singleton {γ : Type} {l : List γ} {a e : γ} {k : Nat}
    (h : (l ++ [a])[k]? = some e) : (k < l.length ∧ l[k]? = some e) ∨ (k = l.length ∧ a = e) := by
  rw [List.getElem?_append] at h
  split at h
  · next hlt => exact Or.inl ⟨hlt, h⟩
  · next hge =>
    have hk : k - l.length = 0 := by
      have := (List.getElem?_eq_some_iff.mp h).1
      simp at this
      omega
    rw [hk] at h
    exact Or.inr ⟨by omega, by simpa using h⟩

/-- The log only grows. -/
theorem log_of_later {c c' : Config Op Ans ε α In W Job} (h : Relation.ReflTransGen (Step M) c c')
    {k : Nat} {e : Entry Op Ans In W} (he : c.log[k]? = some e) : c'.log[k]? = some e := by
  induction h with
  | refl => exact he
  | tail _ hs ih =>
    cases hs with
    | call i o p inp _ => rw [List.getElem?_append_left (List.getElem?_eq_some_iff.mp ih).1, ih]
    | arrive i j _ => exact ih
    | abort i => exact ih
    | restart inp => exact ih

/-- Every executed call was made in a configuration of the run that held the log before it. -/
theorem Reachable.snapshot {c : Config Op Ans ε α In W Job} (hc : Reachable M w c) {k : Nat}
    {e : Entry Op Ans In W} (he : c.log[k]? = some e) :
    ∃ c' : Config Op Ans ε α In W Job, Reachable M w c' ∧ c'.log = c.log.take k ∧
      c'.world = e.before ∧ e = M.entry e.who e.op e.input e.before := by
  refine hc.invariant (P := fun c => ∀ k e, c.log[k]? = some e →
    ∃ c' : Config Op Ans ε α In W Job, Reachable M w c' ∧ c'.log = c.log.take k ∧
      c'.world = e.before ∧ e = M.entry e.who e.op e.input e.before)
    (by simp [Config.init]) (fun c c' hr ih hs => ?_) k e he
  intro k e he
  cases hs with
  | arrive i j _ => exact ih k e he
  | call i o p inp _ =>
    rcases getElem?_append_singleton he with ⟨hlt, he⟩ | ⟨rfl, rfl⟩
    · rw [List.take_append_of_le_length (Nat.le_of_lt hlt)]
      exact ih k e he
    · exact ⟨c, hr, by simp, rfl, rfl⟩
  | abort i => exact ih k e he
  | restart inp => exact ih k e he

/-- An executed call was answered from the world before it. -/
theorem Reachable.exec_of_event {c : Config Op Ans ε α In W Job} (hc : Reachable M w c) {k : Nat}
    {e : Entry Op Ans In W} (he : c.log[k]? = some e) {o : Op} {a : Ans o} (hv : e.event = ⟨o, a⟩) :
    M.exec o e.input e.before = (a, e.after) := by
  obtain ⟨_, _, _, _, hentry⟩ := hc.snapshot he
  obtain ⟨who, op, input, ans, before, after⟩ := e
  cases hv
  simp only [Machine.entry, Entry.mk.injEq] at hentry
  exact Prod.ext (eq_of_heq hentry.2.2.2.1).symm hentry.2.2.2.2.2.symm

/-- The world after a call is the one that the call made. -/
theorem Reachable.after_eq {c : Config Op Ans ε α In W Job} (hc : Reachable M w c) {k : Nat}
    {e : Entry Op Ans In W} (he : c.log[k]? = some e) : e.after = (M.exec e.op e.input e.before).2 := by
  have hexec := hc.exec_of_event he rfl
  rw [hexec]

section Guarded

variable (R : Event Op Ans → Prop) (G : Job → History Op Ans → Op → Prop)
  (Q : Job → History Op Ans → Except ε α → Prop)

/-- What `wp` says of every program, carried to a configuration. -/
structure Guarded (c : Config Op Ans ε α In W Job) : Prop where
  /-- What is left of a job still meets its description, after the calls it made. -/
  rest : ∀ i j p, c.job i = some j → c.running i = some p → p.wp R (G j) (Q j) (calls i c.log)
  /-- Each executed call was allowed by the calls its job had made before it. -/
  log : ∀ k e, c.log[k]? = some e →
    ∃ j, c.job e.who = some j ∧ G j (calls e.who (c.log.take k)) e.op

variable {R G Q}

/-- **Run rule.** If each program meets its description alone, then in every
interleaved run every executed call meets it, and so does every end. -/
theorem Reachable.guarded (hR : ∀ o inp w, R ⟨o, (M.exec o inp w).1⟩)
    (hp : ∀ j, (M.program j).wp R (G j) (Q j) []) {c : Config Op Ans ε α In W Job}
    (hc : Reachable M w c) : Guarded R G Q c := by
  apply hc.invariant ⟨by simp [Config.init], by simp [Config.init]⟩
  intro c c' hr ih hs
  cases hs with
  | arrive i j hi =>
    have hfresh : ∀ e ∈ c.log, e.who ≠ i := by
      rintro e he rfl
      obtain ⟨j', hj'⟩ := hr.job_of_log he
      simp [hi] at hj'
    refine ⟨fun i' j' p hj' hp' => ?_, fun k e he => ?_⟩
    · by_cases h : i' = i
      · subst h
        simp only [Function.update_self, Option.some.injEq] at hj' hp'
        subst hj' hp'
        have hnil : calls i' c.log = [] :=
          List.filterMap_eq_nil_iff.mpr fun e he => by simp [hfresh e he]
        simpa [hnil] using hp j
      · simp only [Function.update_of_ne h] at hj' hp'
        exact ih.rest i' j' p hj' hp'
    · obtain ⟨j', hj', hG⟩ := ih.log k e he
      have hne := hfresh e (List.mem_of_getElem? he)
      exact ⟨j', by simpa [Function.update_of_ne hne] using hj', hG⟩
  | call i o k inp hk =>
    obtain ⟨j, hj⟩ := hr.job_of_running hk
    have hwp := ih.rest i j _ hj hk
    refine ⟨fun i' j' p hj' hp' => ?_, fun m e he => ?_⟩
    · by_cases h : i' = i
      · subst h
        obtain rfl : j = j' := by simpa [hj] using hj'
        simp only [Function.update_self, Option.some.injEq] at hp'
        subst hp'
        have ha := calls_append_self c.log (M.entry i' o inp c.world)
        simp only [Machine.entry] at ha ⊢
        rw [ha]
        exact hwp.2 _ (hR o inp c.world)
      · simp only [Function.update_of_ne h] at hp'
        rw [calls_append_other _ _ (by simpa [Machine.entry] using Ne.symm h)]
        exact ih.rest i' j' p hj' hp'
    · rcases getElem?_append_singleton he with ⟨hlt, he⟩ | ⟨rfl, rfl⟩
      · rw [List.take_append_of_le_length (Nat.le_of_lt hlt)]
        exact ih.log m e he
      · exact ⟨j, hj, by simpa [Machine.entry] using hwp.1⟩
  | abort i =>
    refine ⟨fun i' j' p hj' hp' => ?_, ih.log⟩
    by_cases h : i' = i
    · simp [h] at hp'
    · simp only [Function.update_of_ne h] at hp'
      exact ih.rest i' j' p hj' hp'
  | restart inp => exact ⟨fun _ _ _ _ hp' => by simp at hp', ih.log⟩

end Guarded

/-! ## One job served without interruption -/

/-- A program run alone to its end: the calls it made, how it ended, the world it left. -/
def Machine.serve (M : Machine Op Ans ε α In W Job) (i : Nat) :
    Prog Op Ans ε α → (Nat → In) → W → List (Entry Op Ans In W) × Except ε α × W
  | .ret a, _, w => ([], .ok a, w)
  | .raise e, _, w => ([], .error e, w)
  | .call o k, inp, w =>
    let rest := M.serve i (k (M.exec o (inp 0) w).1) (fun n => inp (n + 1))
      (M.exec o (inp 0) w).2
    (M.entry i o (inp 0) w :: rest.1, rest.2)

/-- Every call of a program served alone is its own. -/
theorem serve_who {i : Nat} {p : Prog Op Ans ε α} {inp : Nat → In} {w : W} :
    ∀ e ∈ (M.serve i p inp w).1, e.who = i := by
  induction p generalizing inp w with
  | ret a => simp [Machine.serve]
  | raise e => simp [Machine.serve]
  | call o k ih =>
    intro e he
    rcases List.mem_cons.mp he with rfl | he
    · rfl
    · exact ih _ e he

/-- What relates the worlds around each call relates those around the whole program. -/
theorem serve_frame {S : W → W → Prop} (hrefl : ∀ w, S w w)
    (htrans : ∀ w₁ w₂ w₃, S w₁ w₂ → S w₂ w₃ → S w₁ w₃) {i : Nat} {p : Prog Op Ans ε α}
    {inp : Nat → In} {w : W} (h : ∀ e ∈ (M.serve i p inp w).1, S e.before e.after) :
    S w (M.serve i p inp w).2.2 := by
  induction p generalizing inp w with
  | ret a => exact hrefl w
  | raise e => exact hrefl w
  | call o k ih =>
    have hfirst := h _ (List.mem_cons_self ..)
    exact htrans _ _ _ hfirst (ih _ fun e he => h e (List.mem_cons_of_mem _ he))

theorem serve_call (i : Nat) (o : Op) (k : Ans o → Prog Op Ans ε α) (inp : Nat → In) (w : W) :
    M.serve i (.call o k) inp w =
      (M.entry i o (inp 0) w ::
          (M.serve i (k (M.exec o (inp 0) w).1) (fun n => inp (n + 1)) (M.exec o (inp 0) w).2).1,
        (M.serve i (k (M.exec o (inp 0) w).1) (fun n => inp (n + 1)) (M.exec o (inp 0) w).2).2) :=
  rfl

/-- A contract holds of the program served alone. -/
theorem serve_within {R : Event Op Ans → Prop} {C : Op → Prop} {Q : Except ε α → Prop}
    (hR : ∀ o inp w, R ⟨o, (M.exec o inp w).1⟩) {i : Nat} {p : Prog Op Ans ε α}
    (hp : p.Within R C Q) (inp : Nat → In) (w : W) :
    (∀ e ∈ (M.serve i p inp w).1, C e.op ∧ e.after = (M.exec e.op e.input e.before).2) ∧
      Q (M.serve i p inp w).2.1 := by
  induction p generalizing inp w with
  | ret a => exact ⟨by simp [Machine.serve], hp⟩
  | raise e => exact ⟨by simp [Machine.serve], hp⟩
  | call o k ih =>
    obtain ⟨hcalls, hend⟩ := ih _ (hp.2 _ (hR o (inp 0) w)) (fun n => inp (n + 1))
      (M.exec o (inp 0) w).2
    refine ⟨fun e he => ?_, hend⟩
    rcases List.mem_cons.mp he with rfl | he
    · exact ⟨hp.1, rfl⟩
    · exact hcalls e he

/-- The program of an outcome. -/
def finished : Except ε α → Prog Op Ans ε α
  | .ok a => .ret a
  | .error e => .raise e

/-- The configuration after job `j` was served alone under the id `i`. -/
def Machine.after (M : Machine Op Ans ε α In W Job) (c : Config Op Ans ε α In W Job) (i : Nat)
    (j : Job) (inp : Nat → In) : Config Op Ans ε α In W Job :=
  let run := M.serve i (M.program j) inp c.world
  { world := run.2.2
    log := c.log ++ run.1
    job := Function.update c.job i (some j)
    running := Function.update c.running i (some (finished run.2.1)) }

theorem serve_steps (i : Nat) (p : Prog Op Ans ε α) (inp : Nat → In)
    (c : Config Op Ans ε α In W Job) (hp : c.running i = some p) :
    Relation.ReflTransGen (Step M) c
      { c with world := (M.serve i p inp c.world).2.2
               log := c.log ++ (M.serve i p inp c.world).1
               running := Function.update c.running i
                 (some (finished (M.serve i p inp c.world).2.1)) } := by
  induction p generalizing inp c with
  | ret a =>
    have hu : Function.update c.running i (some (.ret a)) = c.running := by
      rw [← hp, Function.update_eq_self]
    simpa [Machine.serve, finished, hu] using Relation.ReflTransGen.refl
  | raise e =>
    have hu : Function.update c.running i (some (.raise e)) = c.running := by
      rw [← hp, Function.update_eq_self]
    simpa [Machine.serve, finished, hu] using Relation.ReflTransGen.refl
  | call o k ih =>
    have hs := Step.call (M := M) i o k (inp 0) hp
    have hrest := ih (M.exec o (inp 0) c.world).1 (fun n => inp (n + 1))
      { c with world := (M.exec o (inp 0) c.world).2
               log := c.log ++ [M.entry i o (inp 0) c.world]
               running := Function.update c.running i (some (k (M.exec o (inp 0) c.world).1)) }
      (Function.update_self ..)
    apply Relation.ReflTransGen.head hs
    simpa [Machine.serve, List.append_assoc] using hrest

/-- Serving a fresh job alone is a sequence of steps of the machine. -/
theorem steps_after {c : Config Op Ans ε α In W Job} {i : Nat} (hi : c.job i = none) (j : Job)
    (inp : Nat → In) : Relation.ReflTransGen (Step M) c (M.after c i j inp) := by
  have harr := Step.arrive (M := M) i j hi
  have hserve := serve_steps (M := M) i (M.program j) inp
    { c with job := Function.update c.job i (some j)
             running := Function.update c.running i (some (M.program j)) }
    (Function.update_self i _ c.running)
  simpa [Machine.after] using Relation.ReflTransGen.head harr hserve

/-- Serving a fresh job alone is one of the runs of the machine. -/
theorem Reachable.after {c : Config Op Ans ε α In W Job} (hc : Reachable M w c) {i : Nat}
    (hi : c.job i = none) (j : Job) (inp : Nat → In) : Reachable M w (M.after c i j inp) :=
  hc.trans (steps_after hi j inp)

/-! ## One program run alone -/

namespace Prog

/-- A program run alone: the calls it made with their answers, how it ended, the world it left. -/
def runAlone (exec : (o : Op) → In → W → Ans o × W) : Prog Op Ans ε α → (Nat → In) → W →
    History Op Ans × Except ε α × W
  | ret a, _, w => ([], .ok a, w)
  | raise e, _, w => ([], .error e, w)
  | call o k, inp, w =>
    let done := exec o (inp 0) w
    let rest := (k done.1).runAlone exec (fun n => inp (n + 1)) done.2
    (⟨o, done.1⟩ :: rest.1, rest.2)

variable {exec : (o : Op) → In → W → Ans o × W} {inp : Nat → In} {w w' : W}
  {p : Prog Op Ans ε α} {f : α → Prog Op Ans ε β}

theorem runAlone_call (o : Op) (k : Ans o → Prog Op Ans ε α) (inp : Nat → In) (w : W) :
    (call o k).runAlone exec inp w =
      (⟨o, (exec o (inp 0) w).1⟩ ::
        ((k (exec o (inp 0) w).1).runAlone exec (fun n => inp (n + 1)) (exec o (inp 0) w).2).1,
        ((k (exec o (inp 0) w).1).runAlone exec (fun n => inp (n + 1)) (exec o (inp 0) w).2).2) := rfl

theorem runAlone_bind_ok {h : History Op Ans} {a : α}
    (hp : p.runAlone exec inp w = (h, .ok a, w')) :
    (p.bind f).runAlone exec inp w =
      (h ++ ((f a).runAlone exec (fun n => inp (n + h.length)) w').1,
        ((f a).runAlone exec (fun n => inp (n + h.length)) w').2) := by
  induction p generalizing h inp w with
  | ret b =>
    obtain ⟨rfl, rfl, rfl⟩ : [] = h ∧ b = a ∧ w = w' := by simpa [runAlone] using hp
    rfl
  | raise e => simp [runAlone] at hp
  | call o k ih =>
    rw [runAlone_call, Prod.mk.injEq] at hp
    obtain ⟨rfl, hrest⟩ := hp
    rw [call_bind, runAlone_call, ih _ (Prod.ext rfl hrest)]
    rfl

theorem runAlone_attempt {h : History Op Ans} {x : Except ε α}
    (hp : p.runAlone exec inp w = (h, x, w')) :
    (p.attempt : Prog Op Ans ε' (Except ε α)).runAlone exec inp w = (h, .ok x, w') := by
  induction p generalizing h inp w with
  | ret b =>
    obtain ⟨rfl, rfl, rfl⟩ : [] = h ∧ Except.ok b = x ∧ w = w' := by simpa [runAlone] using hp
    rfl
  | raise e =>
    obtain ⟨rfl, rfl, rfl⟩ : [] = h ∧ Except.error e = x ∧ w = w' := by simpa [runAlone] using hp
    rfl
  | call o k ih =>
    rw [runAlone_call, Prod.mk.injEq] at hp
    obtain ⟨rfl, hrest⟩ := hp
    rw [attempt_call, runAlone_call, ih _ (Prod.ext rfl hrest)]

/-- Whatever a program ends with, what is bound to its attempt goes on with that. -/
theorem runAlone_attempt_bind {x : Except ε α} {f : Except ε α → Prog Op Ans ε' β}
    (hp : (p.runAlone exec inp w).2 = (x, w')) : ((p.attempt.bind f).runAlone exec inp w).2 =
      ((f x).runAlone exec (fun n => inp (n + (p.runAlone exec inp w).1.length)) w').2 := by
  have hrun : p.runAlone exec inp w = ((p.runAlone exec inp w).1, x, w') := Prod.ext rfl hp
  rw [runAlone_bind_ok (runAlone_attempt hrun)]

end Prog

/-! ## Two machines on one world -/

section Beside

variable {Op' : Type} {Ans' : Op' → Type}

namespace Prog

/-- A program of the left machine, among the calls of both. -/
def inl : Prog Op Ans ε α → Prog (Op ⊕ Op') (Sum.elim Ans Ans') ε (α ⊕ β)
  | ret a => ret (.inl a)
  | raise e => raise e
  | call o k => call (.inl o) fun r => (k r).inl

/-- A program of the right machine, among the calls of both. -/
def inr : Prog Op' Ans' ε β → Prog (Op ⊕ Op') (Sum.elim Ans Ans') ε (α ⊕ β)
  | ret b => ret (.inr b)
  | raise e => raise e
  | call o k => call (.inr o) fun r => (k r).inr

/-- A program over the left calls, among the calls of both. -/
def left : Prog Op Ans ε α → Prog (Op ⊕ Op') (Sum.elim Ans Ans') ε α
  | ret a => ret a
  | raise e => raise e
  | call o k => call (.inl o) fun r => (k r).left

/-- A program over the right calls, among the calls of both. -/
def right : Prog Op' Ans' ε β → Prog (Op ⊕ Op') (Sum.elim Ans Ans') ε β
  | ret b => ret b
  | raise e => raise e
  | call o k => call (.inr o) fun r => (k r).right

/-- A call of the left machine, among those of both. -/
def inlEvent (v : Event Op Ans) : Event (Op ⊕ Op') (Sum.elim Ans Ans') := ⟨.inl v.op, v.ans⟩

/-- A call of the right machine, among those of both. -/
def inrEvent (v : Event Op' Ans') : Event (Op ⊕ Op') (Sum.elim Ans Ans') := ⟨.inr v.op, v.ans⟩

section Embedded

variable {R : Event (Op ⊕ Op') (Sum.elim Ans Ans') → Prop}
variable {G : History (Op ⊕ Op') (Sum.elim Ans Ans') → Op ⊕ Op' → Prop}
variable {h : History (Op ⊕ Op') (Sum.elim Ans Ans')}

/-- A program over the left calls meets, after `h`, what it meets with `h` before its own calls. -/
theorem wp_left {Q : History (Op ⊕ Op') (Sum.elim Ans Ans') → Except ε α → Prop}
    {p : Prog Op Ans ε α} {h₀ : History Op Ans}
    (hp : p.wp (fun v => R (inlEvent v)) (fun h' o => G (h ++ h'.map inlEvent) (.inl o))
      (fun h' => Q (h ++ h'.map inlEvent)) h₀) :
    (p.left : Prog (Op ⊕ Op') (Sum.elim Ans Ans') ε α).wp R G Q (h ++ h₀.map inlEvent) := by
  induction p generalizing h₀ with
  | ret a => exact hp
  | raise e => exact hp
  | call o k ih =>
    refine ⟨hp.1, fun r hr => ?_⟩
    have hrest := ih r (hp.2 r hr)
    rw [List.map_append, ← List.append_assoc] at hrest
    exact hrest

theorem wp_right {Q : History (Op ⊕ Op') (Sum.elim Ans Ans') → Except ε β → Prop}
    {p : Prog Op' Ans' ε β} {h₀ : History Op' Ans'}
    (hp : p.wp (fun v => R (inrEvent v)) (fun h' o => G (h ++ h'.map inrEvent) (.inr o))
      (fun h' => Q (h ++ h'.map inrEvent)) h₀) :
    (p.right : Prog (Op ⊕ Op') (Sum.elim Ans Ans') ε β).wp R G Q (h ++ h₀.map inrEvent) := by
  induction p generalizing h₀ with
  | ret b => exact hp
  | raise e => exact hp
  | call o k ih =>
    refine ⟨hp.1, fun r hr => ?_⟩
    have hrest := ih r (hp.2 r hr)
    rw [List.map_append, ← List.append_assoc] at hrest
    exact hrest

end Embedded

/-- What is relied on of the left machine's answers, and nothing of the right machine's. -/
def onLeft (R : Event Op Ans → Prop) : Event (Op ⊕ Op') (Sum.elim Ans Ans') → Prop
  | ⟨.inl o, r⟩ => R ⟨o, r⟩
  | ⟨.inr _, _⟩ => True

/-- What `wp` says of a program of the left machine holds of it among the calls of both. -/
theorem wp_inl {R : Event Op Ans → Prop} {G : History Op Ans → Op → Prop}
    {Q : History Op Ans → Except ε α → Prop} {h : History Op Ans} {p : Prog Op Ans ε α}
    (hp : p.wp R G Q h) : (p.inl : Prog (Op ⊕ Op') (Sum.elim Ans Ans') ε (α ⊕ β)).wp
      (onLeft R) (fun _ _ => True) (fun h' x => ∃ h₀ x₀, h' = h₀.map inlEvent ∧
        x = x₀.map Sum.inl ∧ Q h₀ x₀) (h.map inlEvent) := by
  induction p generalizing h with
  | ret a => exact ⟨h, .ok a, rfl, rfl, hp⟩
  | raise e => exact ⟨h, .error e, rfl, rfl, hp⟩
  | call o k ih =>
    refine ⟨trivial, fun r hr => ?_⟩
    have hrest := ih r (hp.2 r hr)
    rw [List.map_append] at hrest
    exact hrest

theorem Within.inl {C : Op → Prop} {C' : Op' → Prop} {Q : Except ε α → Prop}
    {p : Prog Op Ans ε α} (hp : p.Within (fun _ => True) C Q) :
    (p.inl : Prog (Op ⊕ Op') (Sum.elim Ans Ans') ε (α ⊕ β)).Within (fun _ => True)
      (Sum.elim C C') fun _ => True := by
  induction p with
  | ret a => trivial
  | raise e => trivial
  | call o k ih => exact ⟨hp.1, fun r hr => ih r (hp.2 r hr)⟩

theorem Within.inr {C : Op → Prop} {C' : Op' → Prop} {Q : Except ε β → Prop}
    {p : Prog Op' Ans' ε β} (hp : p.Within (fun _ => True) C' Q) :
    (p.inr : Prog (Op ⊕ Op') (Sum.elim Ans Ans') ε (α ⊕ β)).Within (fun _ => True)
      (Sum.elim C C') fun _ => True := by
  induction p with
  | ret b => trivial
  | raise e => trivial
  | call o k ih => exact ⟨hp.1, fun r hr => ih r (hp.2 r hr)⟩

end Prog

/-- The jobs of two machines, interleaved call by call over one world. A restart is that of
the left machine. -/
def Machine.beside {Job' : Type} (M : Machine Op Ans ε α In W Job)
    (N : Machine Op' Ans' ε β In W Job') :
    Machine (Op ⊕ Op') (Sum.elim Ans Ans') ε (α ⊕ β) In W (Job ⊕ Job') where
  program := Sum.elim (fun j => (M.program j).inl) fun j => (N.program j).inr
  exec := fun
    | .inl o => M.exec o
    | .inr o => N.exec o
  reboot := M.reboot

section Alone

variable {Job' : Type} (M : Machine Op Ans ε α In W Job) (N : Machine Op' Ans' ε β In W Job')

/-- A program of the left machine, run alone on both, runs as on its own. -/
theorem runAlone_inl {p : Prog Op Ans ε α} {x : Except ε α} {inp : Nat → In} {w w' : W}
    (hp : (p.runAlone M.exec inp w).2 = (x, w')) :
    ((p.inl : Prog (Op ⊕ Op') (Sum.elim Ans Ans') ε (α ⊕ β)).runAlone (M.beside N).exec inp w).2 =
      (x.map Sum.inl, w') := by
  induction p generalizing inp w with
  | ret a =>
    cases hp
    rfl
  | raise e =>
    cases hp
    rfl
  | call o k ih => exact ih _ hp

theorem runAlone_inr {p : Prog Op' Ans' ε β} {x : Except ε β} {inp : Nat → In} {w w' : W}
    (hp : (p.runAlone N.exec inp w).2 = (x, w')) :
    ((p.inr : Prog (Op ⊕ Op') (Sum.elim Ans Ans') ε (α ⊕ β)).runAlone (M.beside N).exec inp w).2 =
      (x.map Sum.inr, w') := by
  induction p generalizing inp w with
  | ret b =>
    cases hp
    rfl
  | raise e =>
    cases hp
    rfl
  | call o k ih => exact ih _ hp

end Alone

end Beside

/-- **Contract rule.** Where every job keeps to the calls in `C`, a property that these calls
and the restarts keep holds in every interleaved run. -/
theorem Reachable.kept {R : Event Op Ans → Prop} {C : Op → Prop} {P : W → Prop} (h0 : P w)
    (hR : ∀ o inp w, R ⟨o, (M.exec o inp w).1⟩)
    (hp : ∀ j, (M.program j).Within R C fun _ => True)
    (hcall : ∀ (o : Op) inp w, C o → P w → P (M.exec o inp w).2)
    (hboot : ∀ inp w, P w → P (M.reboot inp w)) {c : Config Op Ans ε α In W Job}
    (hc : Reachable M w c) : P c.world := by
  refine hc.invariant (P := fun c => P c.world) h0 fun c c' hr ih hs => ?_
  cases hs with
  | arrive i j hi => exact ih
  | call i o k inp hk =>
    obtain ⟨j, hj⟩ := hr.job_of_running hk
    have hrest := (hr.guarded hR fun j => (hp j).wp).rest i j _ hj hk
    exact hcall o inp _ hrest.1 ih
  | abort i => exact ih
  | restart inp => exact hboot inp _ ih

end Interaction
