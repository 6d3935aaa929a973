import Mathlib.Logic.Relation
import Mathlib.Logic.Function.Basic

/-! Scripts of database statements and their interleavings on one shared database
with a single write lock. A transaction works on a private copy; `commit` makes
the copy current, closing the connection drops it. `Script.Ok` describes one script
against every committed state the others may leave behind; `Reachable.verified`
carries such descriptions to every interleaving, with crashes anywhere. -/

set_option autoImplicit false

namespace Transaction

/-- What a data-changing statement reports. -/
structure Cursor where
  rowcount : Nat
  lastrowid : Int
  deriving DecidableEq, Repr

/-- Statements over databases of type `σ`, one after another. -/
inductive Script (σ ε α : Type) where
  | ret (a : α)
  | raise (e : ε)
  /-- Read the clock. -/
  | clock (k : Int → Script σ ε α)
  | query (k : σ → Script σ ε α)
  /-- A data-changing statement. It opens a transaction when none is open, and it
  either applies as a whole or fails and changes nothing. -/
  | execute (f : σ → Except ε (σ × Cursor)) (k : Except ε Cursor → Script σ ε α)
  | beginImmediate (k : Script σ ε α)
  /-- A statement that opens no transaction of its own. -/
  | pragma (f : σ → σ) (k : Script σ ε α)
  | commit (k : Script σ ε α)
  /-- Close the connection: what is not committed is rolled back. -/
  | close (k : Script σ ε α)

/-- The transaction a script has open: the committed database and the private copy. -/
abbrev Tx (σ : Type) := Option (σ × σ)

variable {σ ε α β κ : Type}

namespace Script

def bind : Script σ ε α → (α → Script σ ε β) → Script σ ε β
  | ret a, g => g a
  | raise e, _ => raise e
  | clock k, g => clock fun t => (k t).bind g
  | query k, g => query fun s => (k s).bind g
  | execute f k, g => execute f fun x => (k x).bind g
  | beginImmediate k, g => beginImmediate (k.bind g)
  | pragma f k, g => pragma f (k.bind g)
  | commit k, g => commit (k.bind g)
  | close k, g => close (k.bind g)

instance : Monad (Script σ ε) where
  pure := ret
  bind := bind

def ofExcept : Except ε α → Script σ ε α
  | .ok a => ret a
  | .error e => raise e

/-- Run a script and hand both outcomes to the caller (`try`). -/
def attempt : Script σ ε α → Script σ ε (Except ε α)
  | ret a => ret (.ok a)
  | raise e => ret (.error e)
  | clock k => clock fun t => (k t).attempt
  | query k => query fun s => (k s).attempt
  | execute f k => execute f fun x => (k x).attempt
  | beginImmediate k => beginImmediate k.attempt
  | pragma f k => pragma f k.attempt
  | commit k => commit k.attempt
  | close k => close k.attempt

/-- `with closing(connection)`: the connection is closed on both ways out. -/
def closing (p : Script σ ε α) : Script σ ε α :=
  p.attempt.bind fun x => close (ofExcept x)

def now : Script σ ε Int := clock ret
def select (f : σ → β) : Script σ ε β := query fun s => ret (f s)
def dml (f : σ → Except ε (σ × Cursor)) : Script σ ε Cursor := execute f ofExcept
def commitNow : Script σ ε Unit := commit (ret ())

@[simp] theorem pure_eq (a : α) : (pure a : Script σ ε α) = ret a := rfl
@[simp] theorem bind_eq (p : Script σ ε α) (g : α → Script σ ε β) : (p >>= g) = p.bind g := rfl

@[simp] theorem ret_bind (a : α) (g : α → Script σ ε β) : (ret a).bind g = g a := rfl
@[simp] theorem raise_bind (e : ε) (g : α → Script σ ε β) :
    (raise e : Script σ ε α).bind g = raise e := rfl
@[simp] theorem now_bind (g : Int → Script σ ε β) : (now : Script σ ε Int).bind g = clock g := rfl
@[simp] theorem select_bind {γ : Type} (f : σ → β) (g : β → Script σ ε γ) :
    (select f).bind g = query fun s => g (f s) := rfl
@[simp] theorem commitNow_bind (g : Unit → Script σ ε β) :
    (commitNow : Script σ ε Unit).bind g = commit (g ()) := rfl
@[simp] theorem beginImmediate_bind (k : Script σ ε α) (g : α → Script σ ε β) :
    (beginImmediate k).bind g = beginImmediate (k.bind g) := rfl
@[simp] theorem clock_bind (k : Int → Script σ ε α) (g : α → Script σ ε β) :
    (clock k).bind g = clock fun t => (k t).bind g := rfl
@[simp] theorem query_bind (k : σ → Script σ ε α) (g : α → Script σ ε β) :
    (query k).bind g = query fun s => (k s).bind g := rfl
@[simp] theorem execute_bind (f : σ → Except ε (σ × Cursor)) (k : Except ε Cursor → Script σ ε α)
    (g : α → Script σ ε β) : (execute f k).bind g = execute f fun x => (k x).bind g := rfl
@[simp] theorem pragma_bind (f : σ → σ) (k : Script σ ε α) (g : α → Script σ ε β) :
    (pragma f k).bind g = pragma f (k.bind g) := rfl
@[simp] theorem commit_bind (k : Script σ ε α) (g : α → Script σ ε β) :
    (commit k).bind g = commit (k.bind g) := rfl
@[simp] theorem close_bind (k : Script σ ε α) (g : α → Script σ ε β) :
    (close k).bind g = close (k.bind g) := rfl

/-! ## One script run alone -/

/-- Run a script without interference, reading the clock from `t`. `m` is the
private copy of the open transaction. The result is what the script ended with
and the database it left. -/
def run : Script σ ε α → (Nat → Int) → σ → Option σ → Except ε α × σ
  | ret a, _, s, _ => (.ok a, s)
  | raise e, _, s, _ => (.error e, s)
  | clock k, t, s, m => (k (t 0)).run (fun n => t (n + 1)) s m
  | query k, t, s, m => (k (m.getD s)).run t s m
  | execute f k, t, s, m =>
    match f (m.getD s) with
    | .ok (w, c) => (k (.ok c)).run t s (some w)
    | .error e => (k (.error e)).run t s (some (m.getD s))
  | beginImmediate k, t, s, m => k.run t s (some (m.getD s))
  | pragma f k, t, s, none => k.run t (f s) none
  | pragma f k, t, s, some w => k.run t s (some (f w))
  | commit k, t, s, m => k.run t (m.getD s) none
  | close k, t, s, _ => k.run t s none

/-- Only the answer changes when a function is applied to it. -/
theorem run_bind_ret (p : Script σ ε α) (f : α → β) (t : Nat → Int) (s : σ) (m : Option σ) :
    (p.bind fun a => ret (f a)).run t s m = ((p.run t s m).1.map f, (p.run t s m).2) := by
  induction p generalizing t s m with
  | ret a => rfl
  | raise e => rfl
  | clock k ih => exact ih (t 0) (fun n => t (n + 1)) s m
  | query k ih => exact ih (m.getD s) t s m
  | execute g k ih =>
    simp only [bind, run]
    cases g (m.getD s) with
    | ok x => exact ih (.ok x.2) t s (some x.1)
    | error e => exact ih (.error e) t s (some (m.getD s))
  | beginImmediate k ih => exact ih t s (some (m.getD s))
  | pragma g k ih =>
    cases m with
    | none => exact ih t (g s) none
    | some w => exact ih t s (some (g w))
  | commit k ih => exact ih t (m.getD s) none
  | close k ih => exact ih t s none

/-! ## One script among others -/

/-- Inside a transaction the statement meets the private copy; outside it meets
some committed database that `Sees` allows. -/
def meets (Sees : σ → Prop) (m : Tx σ) (X : σ → σ → Prop) : Prop :=
  match m with
  | none => ∀ s, Sees s → X s s
  | some (s, w) => X s w

/-- `Ok Sees G Q p tr m`: having committed the changes `tr` (latest first) and with
the transaction `m` open, the script `p` commits only changes that `G` allows after
`tr` and ends, with no transaction open, only as `Q` says. Outside a transaction a
statement may meet any committed database that `Sees` allows it after `tr`. -/
def Ok (Sees : List (σ × σ) → Script σ ε α → σ → Prop) (G : List (σ × σ) → σ → σ → Prop)
    (Q : List (σ × σ) → Except ε α → Prop) : Script σ ε α → List (σ × σ) → Tx σ → Prop
  | ret a, tr, m => m = none ∧ Q tr (.ok a)
  | raise e, tr, m => m = none ∧ Q tr (.error e)
  | clock k, tr, m => ∀ t, (k t).Ok Sees G Q tr m
  | query k, tr, m => meets (Sees tr (query k)) m fun _ w => (k w).Ok Sees G Q tr m
  | execute f k, tr, m => meets (Sees tr (execute f k)) m fun s w =>
      match f w with
      | .ok (w', c) => (k (.ok c)).Ok Sees G Q tr (some (s, w'))
      | .error e => (k (.error e)).Ok Sees G Q tr (some (s, w))
  | beginImmediate k, tr, m =>
    meets (Sees tr (beginImmediate k)) m fun s w => k.Ok Sees G Q tr (some (s, w))
  | pragma f k, tr, none =>
      ∀ s, Sees tr (pragma f k) s → G tr s (f s) ∧ k.Ok Sees G Q ((s, f s) :: tr) none
  | pragma f k, tr, some (s, w) => k.Ok Sees G Q tr (some (s, f w))
  | commit k, tr, none => k.Ok Sees G Q tr none
  | commit k, tr, some (s, w) => G tr s w ∧ k.Ok Sees G Q ((s, w) :: tr) none
  | close k, tr, _ => k.Ok Sees G Q tr none

theorem meets_mono {S S' : σ → Prop} {m : Tx σ} {X X' : σ → σ → Prop} (hS : ∀ s, S' s → S s)
    (hX : ∀ s w, X s w → X' s w) (h : meets S m X) : meets S' m X' := by
  cases m with
  | none => exact fun s hs => hX s s (h s (hS s hs))
  | some x => exact hX _ _ h

/-- A description may be weakened, and met in fewer databases. -/
theorem Ok.mono {Sees Sees' : List (σ × σ) → Script σ ε α → σ → Prop}
    {G G' : List (σ × σ) → σ → σ → Prop} {Q Q' : List (σ × σ) → Except ε α → Prop}
    (hS : ∀ tr p s, Sees' tr p s → Sees tr p s) (hG : ∀ tr s w, G tr s w → G' tr s w)
    (hQ : ∀ tr x, Q tr x → Q' tr x) {p : Script σ ε α} {tr : List (σ × σ)} {m : Tx σ}
    (h : p.Ok Sees G Q tr m) : p.Ok Sees' G' Q' tr m := by
  induction p generalizing tr m with
  | ret a => exact ⟨h.1, hQ _ _ h.2⟩
  | raise e => exact ⟨h.1, hQ _ _ h.2⟩
  | clock k ih => exact fun t => ih t (h t)
  | query k ih => exact meets_mono (hS _ _) (fun _ w hk => ih w hk) h
  | execute f k ih =>
    rw [Ok] at h ⊢
    refine meets_mono (hS _ _) (fun s w hk => ?_) h
    cases hf : f w with
    | ok x =>
      simp only [hf] at hk ⊢
      exact ih _ hk
    | error e =>
      simp only [hf] at hk ⊢
      exact ih _ hk
  | beginImmediate k ih => exact meets_mono (hS _ _) (fun _ _ hk => ih hk) h
  | pragma f k ih =>
    cases m with
    | none => exact fun s hs => ⟨hG _ _ _ (h s (hS _ _ _ hs)).1, ih (h s (hS _ _ _ hs)).2⟩
    | some x => exact ih h
  | commit k ih =>
    cases m with
    | none => exact ih h
    | some x => exact ⟨hG _ _ _ h.1, ih h.2⟩
  | close k ih => exact ih h

end Script

/-! ## Many scripts on one database -/

/-- One call in progress. `trail` is history: the changes it committed, latest first. -/
structure Proc (κ σ ε α : Type) where
  call : κ
  rest : Script σ ε α
  trail : List (σ × σ)
  crashed : Bool

/-- One committed change and the call that made it. -/
structure Change (σ : Type) where
  who : Nat
  before : σ
  after : σ

/-- The shared database. `writer` holds the write lock and the uncommitted copy;
`hist` is history, latest change first. -/
structure Db (κ σ ε α : Type) where
  committed : σ
  writer : Option (Nat × σ)
  proc : Nat → Option (Proc κ σ ε α)
  hist : List (Change σ)

namespace Db

def init (s : σ) : Db κ σ ε α := ⟨s, none, fun _ => none, []⟩

/-- The transaction call `i` has open. -/
def opened (d : Db κ σ ε α) (i : Nat) : Tx σ :=
  match d.writer with
  | some (j, w) => if j = i then some (d.committed, w) else none
  | none => none

/-- What a statement of call `i` reads: its own copy, else the committed database. -/
def view (d : Db κ σ ε α) (i : Nat) : σ := ((d.opened i).map Prod.snd).getD d.committed

/-- No other call holds the write lock. -/
def Free (d : Db κ σ ε α) (i : Nat) : Prop := ∀ j w, d.writer = some (j, w) → j = i

/-- The lock after call `i` gave it up. -/
def released (d : Db κ σ ε α) (i : Nat) : Option (Nat × σ) :=
  match d.writer with
  | some (j, w) => if j = i then none else some (j, w)
  | none => none

def put (d : Db κ σ ε α) (i : Nat) (p : Proc κ σ ε α) : Db κ σ ε α :=
  { d with proc := Function.update d.proc i (some p) }

/-- Call `i` makes `w` the committed database. -/
def land (d : Db κ σ ε α) (i : Nat) (p : Proc κ σ ε α) (k : Script σ ε α) (w : σ) :
    Db κ σ ε α :=
  { committed := w
    writer := none
    proc := Function.update d.proc i
      (some { p with rest := k, trail := (d.committed, w) :: p.trail })
    hist := ⟨i, d.committed, w⟩ :: d.hist }

end Db

open Script

/-- One step of call `i`: it starts, performs its next statement, or crashes. A
statement that needs the write lock waits until no other call holds it. -/
inductive Step (prog : κ → Script σ ε α) (i : Nat) (d : Db κ σ ε α) : Db κ σ ε α → Prop
  | start (c : κ) : d.proc i = none → Step prog i d (d.put i ⟨c, prog c, [], false⟩)
  | clock (p : Proc κ σ ε α) (k : Int → Script σ ε α) (t : Int) :
      d.proc i = some p → p.crashed = false → p.rest = .clock k →
      Step prog i d (d.put i { p with rest := k t })
  | query (p : Proc κ σ ε α) (k : σ → Script σ ε α) :
      d.proc i = some p → p.crashed = false → p.rest = .query k →
      Step prog i d (d.put i { p with rest := k (d.view i) })
  | executeOk (p : Proc κ σ ε α) (f : σ → Except ε (σ × Cursor))
      (k : Except ε Cursor → Script σ ε α) (w : σ) (c : Cursor) :
      d.proc i = some p → p.crashed = false → p.rest = .execute f k → d.Free i →
      f (d.view i) = .ok (w, c) →
      Step prog i d { d.put i { p with rest := k (.ok c) } with writer := some (i, w) }
  | executeError (p : Proc κ σ ε α) (f : σ → Except ε (σ × Cursor))
      (k : Except ε Cursor → Script σ ε α) (e : ε) :
      d.proc i = some p → p.crashed = false → p.rest = .execute f k → d.Free i →
      f (d.view i) = .error e →
      Step prog i d { d.put i { p with rest := k (.error e) } with writer := some (i, d.view i) }
  | beginImmediate (p : Proc κ σ ε α) (k : Script σ ε α) :
      d.proc i = some p → p.crashed = false → p.rest = .beginImmediate k → d.Free i →
      Step prog i d { d.put i { p with rest := k } with writer := some (i, d.view i) }
  | pragmaInside (p : Proc κ σ ε α) (f : σ → σ) (k : Script σ ε α) (w : σ) :
      d.proc i = some p → p.crashed = false → p.rest = .pragma f k → d.writer = some (i, w) →
      Step prog i d { d.put i { p with rest := k } with writer := some (i, f w) }
  | pragmaOutside (p : Proc κ σ ε α) (f : σ → σ) (k : Script σ ε α) :
      d.proc i = some p → p.crashed = false → p.rest = .pragma f k → d.writer = none →
      Step prog i d (d.land i p k (f d.committed))
  | commitInside (p : Proc κ σ ε α) (k : Script σ ε α) (w : σ) :
      d.proc i = some p → p.crashed = false → p.rest = .commit k → d.writer = some (i, w) →
      Step prog i d (d.land i p k w)
  | commitOutside (p : Proc κ σ ε α) (k : Script σ ε α) :
      d.proc i = some p → p.crashed = false → p.rest = .commit k → d.opened i = none →
      Step prog i d (d.put i { p with rest := k })
  | close (p : Proc κ σ ε α) (k : Script σ ε α) :
      d.proc i = some p → p.crashed = false → p.rest = .close k →
      Step prog i d { d.put i { p with rest := k } with writer := d.released i }
  | crash (p : Proc κ σ ε α) : d.proc i = some p →
      Step prog i d { d.put i { p with crashed := true } with writer := d.released i }

/-- The databases reached from `s` by steps that `may` admits, in any order. -/
def Reachable (prog : κ → Script σ ε α) (may : Nat → Db κ σ ε α → Prop) (s : σ) :
    Db κ σ ε α → Prop :=
  Relation.ReflTransGen (fun d d' => ∃ i, may i d ∧ Step prog i d d') (Db.init s)

theorem Reachable.init {prog : κ → Script σ ε α} {may : Nat → Db κ σ ε α → Prop} {s : σ} :
    Reachable prog may s (Db.init s) := Relation.ReflTransGen.refl

/-- Every interleaving, without a condition on its steps. -/
abbrev Anytime : Nat → Db κ σ ε α → Prop := fun _ _ => True

/-- A history that starts at `s`, whose changes follow each other up to `s'` and each
satisfy `P` after the changes before them. -/
def Linked (P : Change σ → List (Change σ) → Prop) (s : σ) : List (Change σ) → σ → Prop
  | [], s' => s' = s
  | c :: cs, s' => s' = c.after ∧ P c cs ∧ Linked P s cs c.before

theorem Linked.mono {P P' : Change σ → List (Change σ) → Prop} (hP : ∀ c cs, P c cs → P' c cs)
    {s : σ} {hist : List (Change σ)} {s' : σ} (h : Linked P s hist s') : Linked P' s hist s' := by
  induction hist generalizing s' with
  | nil => exact h
  | cons c cs ih => exact ⟨h.1, hP c cs h.2.1, ih h.2.2⟩

/-- Induction along a history, oldest change first. -/
theorem Linked.rule {P : Change σ → List (Change σ) → Prop} {s : σ}
    {R : List (Change σ) → σ → Prop} (h0 : R [] s)
    (hstep : ∀ c cs, P c cs → Linked P s cs c.before → R cs c.before → R (c :: cs) c.after)
    {hist : List (Change σ)} {s' : σ} (h : Linked P s hist s') : R hist s' := by
  induction hist generalizing s' with
  | nil => exact h ▸ h0
  | cons c cs ih => exact h.1 ▸ hstep c cs h.2.1 h.2.2 (ih h.2.2)

/-- Every change of a history satisfies what the history promises of it. -/
theorem Linked.of_mem {P : Change σ → List (Change σ) → Prop} {s s' : σ}
    {hist : List (Change σ)} (h : Linked P s hist s') {c : Change σ} (hc : c ∈ hist) :
    ∃ cs, P c cs := by
  induction hist generalizing s' with
  | nil => cases hc
  | cons c' cs ih =>
    rcases List.mem_cons.mp hc with rfl | hc
    · exact ⟨cs, h.2.1⟩
    · exact ih h.2.2 hc

/-- The database after the changes of a history that starts at `s`. -/
def latest (s : σ) : List (Change σ) → σ
  | [] => s
  | c :: _ => c.after

theorem Linked.eq_latest {P : Change σ → List (Change σ) → Prop} {s s' : σ}
    {hist : List (Change σ)} (h : Linked P s hist s') : s' = latest s hist := by
  cases hist with
  | nil => exact h
  | cons c cs => exact h.1

/-- The older changes of a history are a history up to the database they left. -/
theorem Linked.drop {P : Change σ → List (Change σ) → Prop} {s s' : σ} {hist : List (Change σ)}
    (h : Linked P s hist s') (k : Nat) : Linked P s (hist.drop k) (latest s (hist.drop k)) := by
  induction k generalizing hist s' with
  | zero => exact h.eq_latest ▸ h
  | succ k ih =>
    cases hist with
    | nil => exact rfl
    | cons c cs => exact ih h.2.2

/-! ## The run rule -/

namespace Db

variable (d : Db κ σ ε α) (i : Nat)

theorem opened_of_writer {w : σ} (h : d.writer = some (i, w)) :
    d.opened i = some (d.committed, w) := by simp [opened, h]

theorem opened_of_ne {j : Nat} {w : σ} (h : d.writer = some (j, w)) (hj : j ≠ i) :
    d.opened i = none := by simp [opened, h, hj]

theorem opened_of_none (h : d.writer = none) : d.opened i = none := by simp [opened, h]

/-- While call `i` may write, no other call has a transaction open. -/
theorem opened_of_free {j : Nat} (h : d.Free i) (hj : j ≠ i) : d.opened j = none := by
  cases hw : d.writer with
  | none => exact d.opened_of_none j hw
  | some x => exact d.opened_of_ne j hw (by rw [h x.1 x.2 hw]; exact Ne.symm hj)

theorem view_of_opened_none (h : d.opened i = none) : d.view i = d.committed := by
  simp [view, h]

theorem view_of_opened {s w : σ} (h : d.opened i = some (s, w)) : d.view i = w := by
  simp [view, h]

theorem committed_of_opened {s w : σ} (h : d.opened i = some (s, w)) :
    s = d.committed ∧ d.writer = some (i, w) := by
  unfold opened at h
  split at h
  · next j w' hw =>
    split at h
    · next hj => cases h; exact ⟨rfl, hj ▸ hw⟩
    · cases h
  · cases h

end Db

/-- Giving up the lock closes the own transaction and no other. -/
theorem opened_released (d : Db κ σ ε α) (i j : Nat) (p : Proc κ σ ε α) :
    ({ d.put i p with writer := d.released i } : Db κ σ ε α).opened j =
      if j = i then none else d.opened j := by
  cases hw : d.writer with
  | none => simp [Db.opened, Db.released, hw]
  | some x =>
    by_cases hi : x.1 = i
    · by_cases hj : j = i
      · simp [Db.opened, Db.released, hw, hi, hj]
      · simp [Db.opened, Db.released, hw, hi, hj, Ne.symm hj]
    · by_cases hj : j = i
      · simp [Db.opened, Db.released, hw, hi, hj]
      · simp [Db.opened, Db.released, hw, hi, hj, Db.put]

/-- The changes call `i` committed, read off the history. -/
def changesOf (i : Nat) (hist : List (Change σ)) : List (σ × σ) :=
  hist.filterMap fun c => if c.who = i then some (c.before, c.after) else none

@[simp] theorem changesOf_cons_self (i : Nat) (s w : σ) (hist : List (Change σ)) :
    changesOf i (⟨i, s, w⟩ :: hist) = (s, w) :: changesOf i hist := by simp [changesOf]

theorem changesOf_cons_other {i j : Nat} (h : i ≠ j) (s w : σ) (hist : List (Change σ)) :
    changesOf j (⟨i, s, w⟩ :: hist) = changesOf j hist := by simp [changesOf, h]

theorem mem_changesOf {i : Nat} {hist : List (Change σ)} {s w : σ} :
    (s, w) ∈ changesOf i hist ↔ (⟨i, s, w⟩ : Change σ) ∈ hist := by
  simp only [changesOf, List.mem_filterMap]
  constructor
  · rintro ⟨c, hc, h⟩
    split at h
    · next hi => cases h; exact hi ▸ hc
    · cases h
  · exact fun h => ⟨_, h, by simp⟩

section Verified

variable (s₀ : σ) (I : σ → Prop) (Sees : κ → List (σ × σ) → Script σ ε α → σ → Prop)
  (G : κ → List (σ × σ) → σ → σ → Prop) (Q : κ → List (σ × σ) → Except ε α → Prop)

/-- The change `c` was committed by a call that promised it after its changes in `cs`. -/
def Promised (d : Db κ σ ε α) (c : Change σ) (cs : List (Change σ)) : Prop :=
  ∃ p, d.proc c.who = some p ∧ G p.call (changesOf c.who cs) c.before c.after

/-- What `Script.Ok` says of every script, carried to a database in use. -/
structure Verified (d : Db κ σ ε α) : Prop where
  inv : I d.committed
  /-- What is left of a call still meets its description. -/
  rest : ∀ i p, d.proc i = some p → p.crashed = false →
    p.rest.Ok (Sees p.call) (G p.call) (Q p.call) p.trail (d.opened i)
  /-- The changes lead from the first database to the current one, each of them
  committed by a call that promised it. -/
  hist : Linked (Promised G d) s₀ d.hist d.committed
  trail : ∀ i p, d.proc i = some p → p.trail = changesOf i d.hist
  /-- A call that has not started, or has crashed, holds no lock. -/
  lock : ∀ i w, d.writer = some (i, w) → ∃ p, d.proc i = some p ∧ p.crashed = false

variable {s₀ I Sees G Q}

/-- Promises survive as long as every call keeps its name. -/
theorem Promised.mono {d d' : Db κ σ ε α}
    (h : ∀ i p, d.proc i = some p → ∃ p', d'.proc i = some p' ∧ p'.call = p.call)
    (c : Change σ) (cs : List (Change σ)) (hc : Promised G d c cs) : Promised G d' c cs := by
  obtain ⟨p, hp, hG⟩ := hc
  obtain ⟨p', hp', hcall⟩ := h _ p hp
  exact ⟨p', hp', hcall ▸ hG⟩

/-- Replacing one call's progress keeps every call's name. -/
theorem names_update {d d' : Db κ σ ε α} {i : Nat} {p : Proc κ σ ε α} (p' : Proc κ σ ε α)
    (hp : d.proc i = some p) (hcall : p'.call = p.call)
    (hproc : d'.proc = Function.update d.proc i (some p')) (j : Nat) (q : Proc κ σ ε α)
    (hq : d.proc j = some q) : ∃ q', d'.proc j = some q' ∧ q'.call = q.call := by
  by_cases hj : j = i
  · subst hj
    obtain rfl : p = q := by rw [hp] at hq; exact Option.some.inj hq
    exact ⟨p', by simp [hproc], hcall⟩
  · exact ⟨q, by rw [hproc, Function.update_of_ne hj]; exact hq, rfl⟩

/-- A step of call `i` that commits nothing: the other calls keep their transactions. -/
theorem Verified.put {d d' : Db κ σ ε α} (hv : Verified s₀ I Sees G Q d) {i : Nat}
    {p : Proc κ σ ε α} (p' : Proc κ σ ε α) (hp : d.proc i = some p) (hcall : p'.call = p.call)
    (htrail : p'.trail = p.trail) (hcommitted : d'.committed = d.committed)
    (hhist : d'.hist = d.hist) (hproc : d'.proc = Function.update d.proc i (some p'))
    (hother : ∀ j, j ≠ i → d'.opened j = d.opened j)
    (hlock : ∀ j w, d'.writer = some (j, w) →
      (j = i ∧ p'.crashed = false) ∨ (j ≠ i ∧ ∃ w', d.writer = some (j, w')))
    (hrest : p'.crashed = false →
      p'.rest.Ok (Sees p.call) (G p.call) (Q p.call) p.trail (d'.opened i)) :
    Verified s₀ I Sees G Q d' := by
  refine ⟨hcommitted ▸ hv.inv, fun j q hq hc => ?_, ?_, fun j q hq => ?_, fun j w hw => ?_⟩
  · rw [hproc] at hq
    by_cases hj : j = i
    · subst hj
      rw [Function.update_self, Option.some.injEq] at hq
      subst hq
      rw [hcall, htrail]
      exact hrest hc
    · rw [Function.update_of_ne hj] at hq
      rw [hother j hj]
      exact hv.rest j q hq hc
  · rw [hhist, hcommitted]
    exact hv.hist.mono (Promised.mono (names_update p' hp hcall hproc))
  · rw [hproc] at hq
    rw [hhist]
    by_cases hj : j = i
    · subst hj
      rw [Function.update_self, Option.some.injEq] at hq
      subst hq
      rw [htrail]
      exact hv.trail j p hp
    · rw [Function.update_of_ne hj] at hq
      exact hv.trail j q hq
  · rcases hlock j w hw with ⟨rfl, hc⟩ | ⟨hj, w', hw'⟩
    · exact ⟨p', by simp [hproc], hc⟩
    · obtain ⟨q, hq, hc⟩ := hv.lock j w' hw'
      exact ⟨q, by rw [hproc, Function.update_of_ne hj]; exact hq, hc⟩

/-- A step of call `i` that commits the change from the current database to `w`. -/
theorem Verified.land {d : Db κ σ ε α} (hv : Verified s₀ I Sees G Q d) {i : Nat}
    {p : Proc κ σ ε α} {k : Script σ ε α} {w : σ} (hp : d.proc i = some p)
    (hother : ∀ j, j ≠ i → d.opened j = none) (hI : I w)
    (hG : G p.call p.trail d.committed w)
    (hrest : k.Ok (Sees p.call) (G p.call) (Q p.call) ((d.committed, w) :: p.trail) none) :
    Verified s₀ I Sees G Q (d.land i p k w) := by
  have hnone : ∀ j, (d.land i p k w).opened j = none := fun j => rfl
  have hnames : ∀ j q, d.proc j = some q →
      ∃ q', (d.land i p k w).proc j = some q' ∧ q'.call = q.call :=
    names_update { p with rest := k, trail := (d.committed, w) :: p.trail } hp rfl rfl
  refine ⟨hI, fun j q hq hc => ?_, ⟨rfl, ?_, hv.hist.mono (Promised.mono hnames)⟩,
    fun j q hq => ?_, fun j w' hw => by cases hw⟩
  · rw [hnone]
    by_cases hj : j = i
    · subst hj
      simp only [Db.land, Function.update_self, Option.some.injEq] at hq
      subst hq
      exact hrest
    · simp only [Db.land, Function.update_of_ne hj] at hq
      have := hv.rest j q hq hc
      rwa [hother j hj] at this
  · exact ⟨_, by simp only [Db.land, Function.update_self]; rfl, by rw [← hv.trail i p hp]; exact hG⟩
  · by_cases hj : j = i
    · subst hj
      simp only [Db.land, Function.update_self, Option.some.injEq] at hq
      subst hq
      simp [Db.land, hv.trail j p hp]
    · simp only [Db.land, Function.update_of_ne hj] at hq
      simpa [Db.land, changesOf_cons_other (Ne.symm hj)] using hv.trail j q hq

variable {prog : κ → Script σ ε α} {may : Nat → Db κ σ ε α → Prop}

/-- What the rule asks of the scripts, of the changes and of the admitted steps. -/
structure Sound (prog : κ → Script σ ε α) (may : Nat → Db κ σ ε α → Prop) (I : σ → Prop)
    (Sees : κ → List (σ × σ) → Script σ ε α → σ → Prop) (G : κ → List (σ × σ) → σ → σ → Prop)
    (Q : κ → List (σ × σ) → Except ε α → Prop) : Prop where
  ok : ∀ c, (prog c).Ok (Sees c) (G c) (Q c) [] none
  keeps : ∀ c tr s w, I s → G c tr s w → I w
  sees : ∀ d i p, I d.committed → may i d → d.proc i = some p →
    Sees p.call p.trail p.rest d.committed

/-- Where no step is ruled out and every committed database may be met, the scripts
and the changes are all there is to check. -/
theorem Sound.anytime {I : σ → Prop} {G : κ → List (σ × σ) → σ → σ → Prop}
    {Q : κ → List (σ × σ) → Except ε α → Prop}
    (hok : ∀ c, (prog c).Ok (fun _ _ => I) (G c) (Q c) [] none)
    (hkeeps : ∀ c tr s w, I s → G c tr s w → I w) :
    Sound prog Anytime I (fun _ _ _ => I) G Q where
  ok := hok
  keeps := hkeeps
  sees := fun _ _ _ hI _ _ => hI

/-- A statement of call `i` meets its own copy, or the committed database. -/
theorem meets_view {d : Db κ σ ε α} {i : Nat} {S : σ → Prop} {X : σ → σ → Prop}
    (h : meets S (d.opened i) X) (hs : S d.committed) : X d.committed (d.view i) := by
  cases ho : d.opened i with
  | none =>
    rw [ho] at h
    rw [d.view_of_opened_none i ho]
    exact h _ hs
  | some m =>
    rw [ho] at h
    rw [d.view_of_opened i ho, ← (d.committed_of_opened i ho).1]
    exact h

/-- Call `i` takes or keeps the lock with the copy `w`. -/
theorem Verified.take {d : Db κ σ ε α} (hv : Verified s₀ I Sees G Q d) {i : Nat}
    {p : Proc κ σ ε α} {k : Script σ ε α} {w : σ} (hp : d.proc i = some p)
    (hc : p.crashed = false) (hfree : d.Free i)
    (hrest : k.Ok (Sees p.call) (G p.call) (Q p.call) p.trail (some (d.committed, w))) :
    Verified s₀ I Sees G Q
      { d.put i { p with rest := k } with writer := some (i, w) } := by
  refine hv.put { p with rest := k } hp rfl rfl rfl rfl rfl (fun j hj => ?_)
    (fun j w' hw => ?_) (fun _ => ?_)
  · rw [d.opened_of_free i hfree hj]
    exact Db.opened_of_ne _ j rfl (Ne.symm hj)
  · cases hw
    exact Or.inl ⟨rfl, hc⟩
  · rw [Db.opened_of_writer _ i rfl]
    exact hrest

/-- Call `i` gives up the lock. -/
theorem Verified.release {d : Db κ σ ε α} (hv : Verified s₀ I Sees G Q d) {i : Nat}
    {p p' : Proc κ σ ε α} (hp : d.proc i = some p) (hcall : p'.call = p.call)
    (htrail : p'.trail = p.trail)
    (hrest : p'.crashed = false →
      p'.rest.Ok (Sees p.call) (G p.call) (Q p.call) p.trail none) :
    Verified s₀ I Sees G Q { d.put i p' with writer := d.released i } := by
  refine hv.put p' hp hcall htrail rfl rfl rfl (fun j hj => ?_) (fun j w hw => ?_)
    (fun hc => ?_)
  · rw [opened_released, if_neg hj]
  · right
    unfold Db.released at hw
    split at hw
    · next j' w' hw' =>
      split at hw
      · cases hw
      · next hj => cases hw; exact ⟨hj, w, hw'⟩
    · cases hw
  · rw [opened_released, if_pos rfl]
    exact hrest hc

/-- Call `i` goes on without touching the lock. -/
theorem Verified.advance {d : Db κ σ ε α} (hv : Verified s₀ I Sees G Q d) {i : Nat}
    {p : Proc κ σ ε α} {k : Script σ ε α} (hp : d.proc i = some p) (hc : p.crashed = false)
    (hrest : k.Ok (Sees p.call) (G p.call) (Q p.call) p.trail (d.opened i)) :
    Verified s₀ I Sees G Q (d.put i { p with rest := k }) := by
  refine hv.put { p with rest := k } hp rfl rfl rfl rfl rfl (fun _ _ => rfl)
    (fun j w hw => ?_) (fun _ => hrest)
  by_cases hj : j = i
  · exact Or.inl ⟨hj, hc⟩
  · exact Or.inr ⟨hj, w, hw⟩

theorem Verified.start {d : Db κ σ ε α} (hv : Verified s₀ I Sees G Q d) {i : Nat} {c : κ}
    (hi : d.proc i = none) (hok : (prog c).Ok (Sees c) (G c) (Q c) [] none) :
    Verified s₀ I Sees G Q (d.put i ⟨c, prog c, [], false⟩) := by
  have hne : ∀ e ∈ d.hist, e.who ≠ i := by
    rintro e he rfl
    obtain ⟨_, q, hq, _⟩ := hv.hist.of_mem he
    simp [hi] at hq
  have hnames : ∀ j q, d.proc j = some q →
      ∃ q', (d.put i ⟨c, prog c, [], false⟩).proc j = some q' ∧ q'.call = q.call := by
    intro j q hq
    have hj : j ≠ i := by rintro rfl; simp [hi] at hq
    exact ⟨q, by simpa only [Db.put, Function.update_of_ne hj] using hq, rfl⟩
  have hnil : changesOf i d.hist = [] :=
    List.filterMap_eq_nil_iff.mpr fun e he => by simp [hne e he]
  have hopen : d.opened i = none := by
    cases ho : d.opened i with
    | none => rfl
    | some m =>
      obtain ⟨q, hq, _⟩ := hv.lock i m.2 (d.committed_of_opened i ho).2
      simp [hi] at hq
  refine ⟨hv.inv, fun j q hq hc => ?_, hv.hist.mono (Promised.mono hnames), fun j q hq => ?_,
    fun j w hw => ?_⟩
  · by_cases hj : j = i
    · subst hj
      simp only [Db.put, Function.update_self, Option.some.injEq] at hq
      subst hq
      exact hopen ▸ hok
    · simp only [Db.put, Function.update_of_ne hj] at hq
      exact hv.rest j q hq hc
  · by_cases hj : j = i
    · subst hj
      simp only [Db.put, Function.update_self, Option.some.injEq] at hq
      subst hq
      exact hnil.symm
    · simp only [Db.put, Function.update_of_ne hj] at hq
      exact hv.trail j q hq
  · obtain ⟨q, hq, hc⟩ := hv.lock j w hw
    have hj : j ≠ i := by rintro rfl; simp [hi] at hq
    exact ⟨q, by simpa only [Db.put, Function.update_of_ne hj] using hq, hc⟩

theorem Verified.step (hS : Sound prog may I Sees G Q) {d d' : Db κ σ ε α} {i : Nat}
    (hv : Verified s₀ I Sees G Q d) (hmay : may i d) (hs : Step prog i d d') :
    Verified s₀ I Sees G Q d' := by
  have hsees := fun p => hS.sees d i p hv.inv hmay
  cases hs with
  | start c hi => exact hv.start hi (hS.ok c)
  | clock p k t hp hc hr =>
    have hok := hv.rest i p hp hc
    rw [hr] at hok
    exact hv.advance hp hc (hok t)
  | query p k hp hc hr =>
    have hok := hv.rest i p hp hc
    rw [hr] at hok
    exact hv.advance hp hc (meets_view hok (hr ▸ hsees p hp))
  | executeOk p f k w c hp hc hr hfree hf =>
    have hok := hv.rest i p hp hc
    rw [hr, Ok] at hok
    have hview := meets_view hok (hr ▸ hsees p hp)
    simp only [hf] at hview
    exact hv.take hp hc hfree hview
  | executeError p f k e hp hc hr hfree hf =>
    have hok := hv.rest i p hp hc
    rw [hr, Ok] at hok
    have hview := meets_view hok (hr ▸ hsees p hp)
    simp only [hf] at hview
    exact hv.take hp hc hfree hview
  | beginImmediate p k hp hc hr hfree =>
    have hok := hv.rest i p hp hc
    rw [hr] at hok
    exact hv.take hp hc hfree (meets_view hok (hr ▸ hsees p hp))
  | pragmaInside p f k w hp hc hr hw =>
    have hok := hv.rest i p hp hc
    rw [hr, d.opened_of_writer i hw] at hok
    exact hv.take hp hc (fun j w' hw' => by rw [hw] at hw'; cases hw'; rfl) hok
  | pragmaOutside p f k hp hc hr hw =>
    have hok := hv.rest i p hp hc
    rw [hr, d.opened_of_none i hw] at hok
    obtain ⟨hG, hok⟩ := hok _ (hr ▸ hsees p hp)
    exact hv.land hp (fun j _ => d.opened_of_none j hw) (hS.keeps _ _ _ _ hv.inv hG) hG hok
  | commitInside p k w hp hc hr hw =>
    have hok := hv.rest i p hp hc
    rw [hr, d.opened_of_writer i hw] at hok
    exact hv.land hp (fun j hj => d.opened_of_ne j hw (Ne.symm hj)) (hS.keeps _ _ _ _ hv.inv hok.1)
      hok.1 hok.2
  | commitOutside p k hp hc hr ho =>
    have hok := hv.rest i p hp hc
    rw [hr, ho] at hok
    exact hv.advance hp hc (ho ▸ hok)
  | close p k hp hc hr =>
    have hok := hv.rest i p hp hc
    rw [hr] at hok
    refine hv.release hp rfl rfl fun _ => ?_
    cases ho : d.opened i <;> rw [ho] at hok <;> exact hok
  | crash p hp => exact hv.release hp rfl rfl fun hc => by cases hc

/-- **Run rule.** If every script meets its description against the states the
others may leave, then so does every call in every interleaving. -/
theorem Reachable.verified (hS : Sound prog may I Sees G Q) (hI : I s₀) {d : Db κ σ ε α}
    (hd : Reachable prog may s₀ d) : Verified s₀ I Sees G Q d := by
  induction hd with
  | refl =>
    exact ⟨hI, by simp [Db.init], rfl, by simp [Db.init], by simp [Db.init]⟩
  | tail _ hs ih =>
    obtain ⟨i, hmay, hs⟩ := hs
    exact ih.step hS hmay hs

/-- How a call that reached its end has ended. -/
theorem Verified.ended {d : Db κ σ ε α} (hv : Verified s₀ I Sees G Q d) {i : Nat}
    {p : Proc κ σ ε α} (hp : d.proc i = some p) (hc : p.crashed = false) :
    (∀ a, p.rest = .ret a → Q p.call (changesOf i d.hist) (.ok a)) ∧
      ∀ e, p.rest = .raise e → Q p.call (changesOf i d.hist) (.error e) := by
  have hok := hv.rest i p hp hc
  rw [hv.trail i p hp] at hok
  exact ⟨fun a ha => by rw [ha] at hok; exact hok.2, fun e he => by rw [he] at hok; exact hok.2⟩

end Verified

/-- A step commits nothing, or it adds one change to the history. -/
theorem Step.hist {prog : κ → Script σ ε α} {i : Nat} {d d' : Db κ σ ε α} (h : Step prog i d d') :
    (d'.hist = d.hist ∧ d'.committed = d.committed) ∨ ∃ x, d'.hist = x :: d.hist := by
  cases h with
  | pragmaOutside | commitInside => exact Or.inr ⟨_, rfl⟩
  | _ => exact Or.inl ⟨rfl, rfl⟩

/-- While nothing has been committed, every step met the first database. -/
theorem Reachable.quiet {prog : κ → Script σ ε α} {s : σ} {d : Db κ σ ε α}
    (hd : Reachable prog Anytime s d) (hnil : d.hist = []) :
    d.committed = s ∧ Reachable prog (fun _ d => d.committed = s) s d := by
  induction hd with
  | refl => exact ⟨rfl, Reachable.init⟩
  | tail _ hs ih =>
    obtain ⟨i, _, hs⟩ := hs
    rcases hs.hist with ⟨hhist, hcommitted⟩ | ⟨x, hx⟩
    · obtain ⟨hfirst, hquiet⟩ := ih (hhist ▸ hnil)
      exact ⟨hcommitted.trans hfirst, hquiet.tail ⟨i, hfirst, hs⟩⟩
    · rw [hnil] at hx
      cases hx

/-! ## Given schedules -/

/-- One entry of a schedule; a step of `go` that reads the clock reads `t`. -/
inductive Move (κ : Type)
  | start (i : Nat) (c : κ)
  | go (i : Nat) (t : Int)
  | crash (i : Nat)
  deriving Repr

namespace Move

def who : Move κ → Nat
  | start i _ | go i _ | crash i => i

end Move

namespace Db

instance (d : Db κ σ ε α) (i : Nat) : Decidable (d.Free i) :=
  match h : d.writer with
  | none => isTrue fun j w hw => by rw [h] at hw; cases hw
  | some (j, w) =>
    if hj : j = i then isTrue fun j' w' hw => by rw [h] at hw; cases hw; exact hj
    else isFalse fun hf => hj (hf j w h)

/-- The next statement of call `i`, unless it has to wait. -/
def perform (d : Db κ σ ε α) (i : Nat) (t : Int) (p : Proc κ σ ε α) : Db κ σ ε α :=
  match p.rest with
  | .ret _ | .raise _ => d
  | .clock k => d.put i { p with rest := k t }
  | .query k => d.put i { p with rest := k (d.view i) }
  | .execute f k =>
    if d.Free i then
      match f (d.view i) with
      | .ok (w, c) => { d.put i { p with rest := k (.ok c) } with writer := some (i, w) }
      | .error e =>
        { d.put i { p with rest := k (.error e) } with writer := some (i, d.view i) }
    else d
  | .beginImmediate k =>
    if d.Free i then { d.put i { p with rest := k } with writer := some (i, d.view i) } else d
  | .pragma f k =>
    match d.writer with
    | none => d.land i p k (f d.committed)
    | some (j, w) =>
      if j = i then { d.put i { p with rest := k } with writer := some (i, f w) } else d
  | .commit k =>
    match d.writer with
    | none => d.put i { p with rest := k }
    | some (j, w) => if j = i then d.land i p k w else d.put i { p with rest := k }
  | .close k => { d.put i { p with rest := k } with writer := d.released i }

def move (prog : κ → Script σ ε α) (d : Db κ σ ε α) : Move κ → Db κ σ ε α
  | .start i c =>
    match d.proc i with
    | none => d.put i ⟨c, prog c, [], false⟩
    | some _ => d
  | .go i t =>
    match d.proc i with
    | none => d
    | some p => if p.crashed then d else d.perform i t p
  | .crash i =>
    match d.proc i with
    | none => d
    | some p => { d.put i { p with crashed := true } with writer := d.released i }

/-- The database that a schedule leads to. -/
def play (prog : κ → Script σ ε α) (d : Db κ σ ε α) (moves : List (Move κ)) : Db κ σ ε α :=
  moves.foldl (move prog) d

end Db

theorem step_of_perform (prog : κ → Script σ ε α) (d : Db κ σ ε α) {i : Nat} (t : Int)
    {p : Proc κ σ ε α} (hp : d.proc i = some p) (hc : p.crashed = false) :
    d.perform i t p = d ∨ Step prog i d (d.perform i t p) := by
  unfold Db.perform
  cases hr : p.rest with
  | ret a => exact Or.inl rfl
  | raise e => exact Or.inl rfl
  | clock k => exact Or.inr (Step.clock p k t hp hc hr)
  | query k => exact Or.inr (Step.query p k hp hc hr)
  | execute f k =>
    by_cases hfree : d.Free i
    · simp only [if_pos hfree]
      cases hf : f (d.view i) with
      | ok x => exact Or.inr (Step.executeOk p f k x.1 x.2 hp hc hr hfree hf)
      | error e => exact Or.inr (Step.executeError p f k e hp hc hr hfree hf)
    · simp [hfree]
  | beginImmediate k =>
    by_cases hfree : d.Free i
    · simp only [if_pos hfree]
      exact Or.inr (Step.beginImmediate p k hp hc hr hfree)
    · simp [hfree]
  | pragma f k =>
    cases hw : d.writer with
    | none => exact Or.inr (Step.pragmaOutside p f k hp hc hr hw)
    | some x =>
      by_cases hj : x.1 = i
      · simp only [if_pos hj]
        exact Or.inr (Step.pragmaInside p f k x.2 hp hc hr (hj ▸ hw))
      · simp [hj]
  | commit k =>
    cases hw : d.writer with
    | none => exact Or.inr (Step.commitOutside p k hp hc hr (d.opened_of_none i hw))
    | some x =>
      by_cases hj : x.1 = i
      · simp only [if_pos hj]
        exact Or.inr (Step.commitInside p k x.2 hp hc hr (hj ▸ hw))
      · simp only [if_neg hj]
        exact Or.inr (Step.commitOutside p k hp hc hr (d.opened_of_ne i hw hj))
  | close k => exact Or.inr (Step.close p k hp hc hr)

theorem step_of_move (prog : κ → Script σ ε α) (d : Db κ σ ε α) (m : Move κ) :
    d.move prog m = d ∨ Step prog m.who d (d.move prog m) := by
  cases m with
  | start i c =>
    cases hi : d.proc i with
    | none =>
      have h : Step prog i d (d.put i ⟨c, prog c, [], false⟩) := Step.start c hi
      exact Or.inr (by simpa only [Db.move, hi, Move.who] using h)
    | some p => exact Or.inl (by simp [Db.move, hi])
  | go i t =>
    cases hi : d.proc i with
    | none => exact Or.inl (by simp [Db.move, hi])
    | some p =>
      cases hc : p.crashed with
      | true => exact Or.inl (by simp [Db.move, hi, hc])
      | false => simpa [Db.move, hi, hc, Move.who] using step_of_perform prog d t hi hc
  | crash i =>
    cases hi : d.proc i with
    | none => exact Or.inl (by simp [Db.move, hi])
    | some p =>
      have h : Step prog i d { d.put i { p with crashed := true } with writer := d.released i } :=
        Step.crash p hi
      exact Or.inr (by simpa only [Db.move, hi, Move.who] using h)

/-- A schedule touches only the calls it names. -/
theorem proc_play_other (prog : κ → Script σ ε α) (d : Db κ σ ε α) {i : Nat}
    {moves : List (Move κ)} (h : ∀ m ∈ moves, m.who ≠ i) : (d.play prog moves).proc i = d.proc i := by
  induction moves generalizing d with
  | nil => rfl
  | cons m moves ih =>
    have hm : (d.move prog m).proc i = d.proc i := by
      have hne := h m (List.mem_cons_self ..)
      rcases step_of_move prog d m with heq | hs
      · rw [heq]
      · generalize d.move prog m = d' at hs
        cases hs <;> exact Function.update_of_ne (Ne.symm hne) _ _
    exact (ih (d.move prog m) fun m' hm' => h m' (List.mem_cons_of_mem _ hm')).trans hm

/-- Every move of the schedule is one that `may` admits where it is made. -/
def Admits (prog : κ → Script σ ε α) (may : Nat → Db κ σ ε α → Prop) :
    Db κ σ ε α → List (Move κ) → Prop
  | _, [] => True
  | d, m :: moves => may m.who d ∧ Admits prog may (d.move prog m) moves

/-- An admitted schedule is a run. -/
theorem Reachable.play {prog : κ → Script σ ε α} {may : Nat → Db κ σ ε α → Prop} {s : σ}
    {d : Db κ σ ε α} (hd : Reachable prog may s d) {moves : List (Move κ)}
    (h : Admits prog may d moves) : Reachable prog may s (d.play prog moves) := by
  induction moves generalizing d with
  | nil => exact hd
  | cons m moves ih =>
    have hnext : Reachable prog may s (d.move prog m) := by
      rcases step_of_move prog d m with heq | hs
      · rw [heq]
        exact hd
      · exact hd.tail ⟨m.who, h.1, hs⟩
    exact ih hnext h.2

theorem admits_anytime (prog : κ → Script σ ε α) (d : Db κ σ ε α) (moves : List (Move κ)) :
    Admits prog Anytime d moves := by
  induction moves generalizing d with
  | nil => trivial
  | cons m moves ih => exact ⟨trivial, ih _⟩

end Transaction
