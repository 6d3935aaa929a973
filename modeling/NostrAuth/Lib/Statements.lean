import NostrAuth.Lib.Interaction
import NostrAuth.Lib.Transaction

/-! Programs whose calls are scripts of database statements. A description of the scripts that
speaks of their next statement only survives what is bound to them; so a program that is checked
against the answers of its calls is checked, among other processes, statement by statement. -/

set_option autoImplicit false

namespace Transaction

variable {σ ε α β : Type}

/-- The kind of a script's next statement. -/
inductive Head
  | done
  | clock
  | query
  | execute
  | beginImmediate
  | pragma
  | commit
  | close
  deriving DecidableEq, Repr

namespace Script

def head : Script σ ε α → Head
  | ret _ | raise _ => .done
  | clock _ => .clock
  | query _ => .query
  | execute .. => .execute
  | beginImmediate _ => .beginImmediate
  | pragma .. => .pragma
  | commit _ => .commit
  | close _ => .close

/-- What a script meets, where this depends on its next statement only. -/
abbrev Headed (S : List (σ × σ) → Head → σ → Prop) (trail : List (σ × σ)) (p : Script σ ε α)
    (s : σ) : Prop := S trail p.head s

variable {S : List (σ × σ) → Head → σ → Prop} {G : List (σ × σ) → σ → σ → Prop} {tr : List (σ × σ)}
  {m : Tx σ}

/-- A script and what is bound to it. -/
theorem Ok.bind {Q : List (σ × σ) → Except ε α → Prop} {Q' : List (σ × σ) → Except ε β → Prop}
    {p : Script σ ε α} {f : α → Script σ ε β} (hp : p.Ok (Headed S) G Q tr m)
    (hok : ∀ tr a, Q tr (.ok a) → (f a).Ok (Headed S) G Q' tr none)
    (herr : ∀ tr e, Q tr (.error e) → Q' tr (.error e)) : (p.bind f).Ok (Headed S) G Q' tr m := by
  induction p generalizing tr m with
  | ret a =>
    obtain ⟨rfl, ha⟩ := hp
    exact hok tr a ha
  | raise e =>
    obtain ⟨rfl, he⟩ := hp
    exact ⟨rfl, herr tr e he⟩
  | clock k ih => exact fun t => ih t (hp t)
  | query k ih => exact meets_mono (fun _ h => h) (fun _ w hk => ih w hk) hp
  | execute g k ih =>
    rw [bind, Ok]
    rw [Ok] at hp
    apply meets_mono (fun _ h => h) _ hp
    intro s w hk
    cases hg : g w with
    | ok x =>
      simp only [hg] at hk ⊢
      exact ih _ hk
    | error e =>
      simp only [hg] at hk ⊢
      exact ih _ hk
  | beginImmediate k ih => exact meets_mono (fun _ h => h) (fun _ _ hk => ih hk) hp
  | pragma g k ih =>
    cases m with
    | none => exact fun s hs => ⟨(hp s hs).1, ih (hp s hs).2⟩
    | some x => exact ih hp
  | commit k ih =>
    cases m with
    | none => exact ih hp
    | some x => exact ⟨hp.1, ih hp.2⟩
  | close k ih => exact ih hp

/-- A script whose exceptions are caught. -/
theorem Ok.attempt {Q : List (σ × σ) → Except ε (Except ε α) → Prop} {p : Script σ ε α}
    (hp : p.Ok (Headed S) G (fun tr x => Q tr (.ok x)) tr m) : p.attempt.Ok (Headed S) G Q tr m := by
  induction p generalizing tr m with
  | ret a => exact hp
  | raise e => exact hp
  | clock k ih => exact fun t => ih t (hp t)
  | query k ih => exact meets_mono (fun _ h => h) (fun _ w hk => ih w hk) hp
  | execute g k ih =>
    rw [Script.attempt, Ok]
    rw [Ok] at hp
    apply meets_mono (fun _ h => h) _ hp
    intro s w hk
    cases hg : g w with
    | ok x =>
      simp only [hg] at hk ⊢
      exact ih _ hk
    | error e =>
      simp only [hg] at hk ⊢
      exact ih _ hk
  | beginImmediate k ih => exact meets_mono (fun _ h => h) (fun _ _ hk => ih hk) hp
  | pragma g k ih =>
    cases m with
    | none => exact fun s hs => ⟨(hp s hs).1, ih (hp s hs).2⟩
    | some x => exact ih hp
  | commit k ih =>
    cases m with
    | none => exact ih hp
    | some x => exact ⟨hp.1, ih hp.2⟩
  | close k ih => exact ih hp

end Script

end Transaction

namespace Interaction.Prog

open Transaction Script

variable {Op : Type} {Ans : Op → Type} {σ ε α : Type}

/-- The program with each of its calls carried out by a script. -/
def script (body : (o : Op) → Script σ ε (Ans o)) : Prog Op Ans ε α → Script σ ε α
  | ret a => .ret a
  | raise e => .raise e
  | call o k => (body o).bind fun r => (k r).script body

/-- From the changes `tr` on, the program makes only calls that `pre` allows there and ends as `Q`
says, for all answers and further changes that `post` allows a call. -/
def Traced (pre : List (σ × σ) → Op → Prop)
    (post : List (σ × σ) → (o : Op) → Ans o → List (σ × σ) → Prop)
    (Q : List (σ × σ) → Except ε α → Prop) : Prog Op Ans ε α → List (σ × σ) → Prop
  | ret a, tr => Q tr (.ok a)
  | raise e, tr => Q tr (.error e)
  | call o k, tr => pre tr o ∧ ∀ r tr', post tr o r tr' → (k r).Traced pre post Q tr'

/-- **From answers to statements.** Where the scripts of the calls are described by `pre` and
`post`, a program that is traced by them meets its description statement by statement. -/
theorem Traced.ok {body : (o : Op) → Script σ ε (Ans o)} {S : List (σ × σ) → Head → σ → Prop}
    {G : List (σ × σ) → σ → σ → Prop} {pre : List (σ × σ) → Op → Prop}
    {post : List (σ × σ) → (o : Op) → Ans o → List (σ × σ) → Prop}
    {Q : List (σ × σ) → Except ε α → Prop} {p : Prog Op Ans ε α} {tr : List (σ × σ)}
    (hbody : ∀ tr o, pre tr o → (body o).Ok (Headed S) G
      (fun tr' x => ∃ r, x = .ok r ∧ post tr o r tr') tr none)
    (hp : p.Traced pre post Q tr) : (p.script body).Ok (Headed S) G Q tr none := by
  induction p generalizing tr with
  | ret a => exact ⟨rfl, hp⟩
  | raise e => exact ⟨rfl, hp⟩
  | call o k ih =>
    apply Ok.bind (hbody tr o hp.1)
    · rintro tr' r ⟨_, ⟨⟩, hpost⟩
      exact ih r (hp.2 r tr' hpost)
    · rintro tr' e ⟨_, hx, -⟩
      cases hx

end Interaction.Prog
