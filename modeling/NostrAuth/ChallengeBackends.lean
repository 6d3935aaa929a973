import Mathlib.Data.List.Induction
import NostrAuth.Challenge

/-! The two backends of `ChallengeStore` side by side. One simulation relation between
the dictionary and the table carries every sequence of calls whose values SQLite can bind. -/

set_option autoImplicit false

namespace NostrAuth.Backends

open Transaction ChallengeTable

/-- A call with the clock readings it makes; `issue` also carries the nonce it draws. -/
inductive StoreCall
  | issue (nonce : String) (domain action : PyStr) (t₁ t₂ : Int)
  | consume (nonce : PyStr) (now : Int)
  | reopen
  deriving DecidableEq, Repr

inductive StoreReply
  | issued (x : Except Exn (Challenge PyStr))
  | consumed (x : Except Exn (Option (Challenge PyStr)))
  | reopened

def memoryStep (ttl : Ttl) : StoreCall → Pending → StoreReply × Pending
  | .issue nonce domain action t₁ _, pending =>
    (.issued (.ok (pending.issue ttl nonce domain action t₁).1),
      (pending.issue ttl nonce domain action t₁).2)
  | .consume nonce now, pending =>
    (.consumed (.ok (pending.consume nonce now).1), (pending.consume nonce now).2)
  | .reopen, pending => (.reopened, pending)

/-- `consume` pops what it finds, expired or not. -/
theorem memory_consumed (ttl : Ttl) (nonce : String) (t : Int) (pending : Pending) :
    (memoryStep ttl (.consume nonce t) pending).2 =
      fun n => if n = nonce then none else pending n := by
  simp only [memoryStep, Pending.consume]
  split
  · rfl
  · split <;> rfl

/-- The readings of one `issue`. -/
def twoReadings (t₁ t₂ : Int) : Nat → Int
  | 0 => t₁
  | _ + 1 => t₂

/-- The texts of a row as Python reads them. -/
def texts (c : Challenge) : Challenge PyStr :=
  ⟨c.nonce, .text c.domain, .text c.action, c.issued_at, c.expires_at⟩

/-- Reopening runs `CREATE ... IF NOT EXISTS`, which leaves an existing table alone. -/
def sqliteStep (ttl : Ttl) : StoreCall → ChallengeTable → StoreReply × ChallengeTable
  | .issue nonce domain action t₁ t₂, table =>
    match ChallengeStore.bindRow (new_challenge nonce domain action ttl t₁) with
    -- the purge before the `INSERT` is not committed
    | .error e => (.issued (.error e), table)
    | .ok row =>
      let done := (ChallengeStore.issue ttl nonce row.domain row.action).run (twoReadings t₁ t₂)
        table none
      (.issued (done.1.map texts), done.2)
  | .consume nonce now, table =>
    let done := (ChallengeStore.consume (.str nonce)).run (fun _ => now) table none
    (.consumed (done.1.map (Option.map texts)), done.2)
  | .reopen, table => (.reopened, table)

/-- SQLite can bind the values of the call. -/
def Bindable (ttl : Ttl) : StoreCall → Prop
  | .issue _ domain action t₁ _ => domain.encodable = true ∧ action.encodable = true ∧
    fitsInt64 (t₁ + ttl.seconds) = true
  | .consume nonce _ => nonce.encodable = true
  | .reopen => True

instance (ttl : Ttl) : DecidablePred (Bindable ttl)
  | .issue .. => inferInstanceAs (Decidable (_ ∧ _ ∧ _))
  | .consume .. => inferInstanceAs (Decidable (_ = _))
  | .reopen => inferInstanceAs (Decidable True)

section Runs

variable {S : Type} (step : StoreCall → S → StoreReply × S)

def replies : List StoreCall → S → List StoreReply
  | [], _ => []
  | c :: cs, s => (step c s).1 :: replies cs (step c s).2

def after (calls : List StoreCall) (s : S) : S := calls.foldl (fun s c => (step c s).2) s

/-- The reply to call `k` is the reply of the state its predecessors left. -/
theorem replies_getElem? (calls : List StoreCall) (s : S) (k : Nat) :
    (replies step calls s)[k]? =
      (calls[k]?).map fun c => (step c (after step (calls.take k) s)).1 := by
  induction calls generalizing s k with
  | nil => simp [replies]
  | cons c cs ih =>
    cases k with
    | zero => simp [replies, after]
    | succ k => simp [replies, after, ih]

end Runs

/-- The clock readings of a call, in order. -/
def StoreCall.readings : StoreCall → List Int
  | .issue _ _ _ t₁ t₂ => [t₁, t₂]
  | .consume _ t => [t]
  | .reopen => []

/-- The clock of the machine, whose seconds have 64 bits, reads `t` after `now`. -/
structure Reads (now t : Int) : Prop where
  later : now ≤ t
  fits : fitsInt64 t = true

/-- The readings never go back from `now` on, and no nonce is drawn twice or is in `used`. -/
def Admissible (now : Int) (used : List String) : List StoreCall → Prop
  | [] => True
  | .issue nonce _ _ t₁ t₂ :: cs =>
    Reads now t₁ ∧ Reads t₁ t₂ ∧ nonce ∉ used ∧ Admissible t₂ (nonce :: used) cs
  | .consume _ t :: cs => Reads now t ∧ Admissible t used cs
  | .reopen :: cs => Admissible now used cs

instance (now t : Int) : Decidable (Reads now t) :=
  decidable_of_iff (now ≤ t ∧ fitsInt64 t = true) ⟨fun h => ⟨h.1, h.2⟩, fun h => ⟨h.1, h.2⟩⟩

instance decidableAdmissible (now : Int) (used : List String) :
    (calls : List StoreCall) → Decidable (Admissible now used calls)
  | [] => inferInstanceAs (Decidable True)
  | .issue nonce _ _ _ t₂ :: cs =>
    have := decidableAdmissible t₂ (nonce :: used) cs
    inferInstanceAs (Decidable (_ ∧ _ ∧ _ ∧ _))
  | .consume _ t :: cs =>
    have := decidableAdmissible t used cs
    inferInstanceAs (Decidable (_ ∧ _))
  | .reopen :: cs => decidableAdmissible now used cs

/-- The dictionary and the table answer alike from the reading `now` on. -/
structure Agrees (now : Int) (used : List String) (pending : Pending) (table : ChallengeTable) :
    Prop where
  known : ∀ r ∈ table, r.nonce ∈ used
  sound : ∀ n r, selectPending (some n) table = some r → pending n = some (texts r.toChallenge)
  /-- What the table no longer has has expired. -/
  live : ∀ n c, pending n = some c → now ≤ c.expires_at →
    ∃ r, selectPending (some n) table = some r ∧ texts r.toChallenge = c

theorem agrees_empty (now : Int) : Agrees now [] (fun _ => none) Table.empty := by
  refine ⟨fun r hr => absurd hr (Table.not_mem_empty r), fun n r h => ?_, fun n c h => ?_⟩
  · exact absurd (selectPending_eq_some.mp h).1 (Table.not_mem_empty r)
  · cases h

/-- The purge alone keeps the agreement. -/
theorem Agrees.purge {now t t' : Int} {used : List String} {pending : Pending}
    {table : ChallengeTable} (h : Agrees now used pending table) (hnow : now ≤ t') (ht : t ≤ t') :
    Agrees t' used pending (deleteExpired t table) := by
  refine ⟨fun r hr => h.known r (mem_deleteExpired.mp hr).1, fun n r hr => ?_,
    fun n c hc hexp => ?_⟩
  · obtain ⟨hmem, hn, hnull⟩ := selectPending_eq_some.mp hr
    exact h.sound n r (selectPending_eq_some.mpr ⟨(mem_deleteExpired.mp hmem).1, hn, hnull⟩)
  · obtain ⟨r, hr, rfl⟩ := h.live n c hc (by omega)
    obtain ⟨hmem, hn, hnull⟩ := selectPending_eq_some.mp hr
    exact ⟨r, selectPending_eq_some.mpr ⟨mem_deleteExpired.mpr ⟨hmem, ht.trans hexp⟩, hn, hnull⟩,
      rfl⟩

theorem Agrees.issue (ttl : Ttl) {now t₁ t₂ : Int} {used : List String} {pending : Pending}
    {table : ChallengeTable} {nonce : String} {domain action : PyStr}
    (h : Agrees now used pending table) (ht₁ : Reads now t₁) (ht₂ : Reads t₁ t₂) (hnew : nonce ∉ used)
    (hbind : Bindable ttl (.issue nonce domain action t₁ t₂)) :
    (memoryStep ttl (.issue nonce domain action t₁ t₂) pending).1 =
        (sqliteStep ttl (.issue nonce domain action t₁ t₂) table).1 ∧
      Agrees t₂ (nonce :: used) (memoryStep ttl (.issue nonce domain action t₁ t₂) pending).2
        (sqliteStep ttl (.issue nonce domain action t₁ t₂) table).2 := by
  obtain ⟨hd, ha, hfits⟩ := hbind
  obtain ⟨domain, rfl⟩ := PyStr.encodable_iff.mp hd
  obtain ⟨action, rfl⟩ := PyStr.encodable_iff.mp ha
  have hp := h.purge (t := t₂) (ht₁.later.trans ht₂.later) (Int.le_refl t₂)
  have hfree : ∀ r ∈ deleteExpired t₂ table,
      r.nonce ≠ (new_challenge nonce domain action ttl t₁).nonce := by
    intro r hr hn
    have hn' : r.nonce = nonce := hn
    exact hnew (hn' ▸ hp.known r hr)
  obtain ⟨table', hins, hrows⟩ := insertNew_free hfree
  have hmem : ∀ r, r ∈ table' ↔ r ∈ deleteExpired t₂ table ∨
      r = ⟨new_challenge nonce domain action ttl t₁, none⟩ := by
    intro r
    rw [Table.mem_def, hrows]
    simp [Table.mem_def]
  have hrow : ChallengeStore.bindRow (new_challenge nonce (.text domain) (.text action) ttl t₁) =
      .ok (new_challenge nonce domain action ttl t₁) := by
    simp [ChallengeStore.bindRow, new_challenge, ht₁.fits, hfits]
  have hrun : sqliteStep ttl (.issue nonce (.text domain) (.text action) t₁ t₂) table =
      (.issued (.ok (new_challenge nonce (.text domain) (.text action) ttl t₁)), table') := by
    rw [sqliteStep, hrow]
    simp only [ChallengeStore.run_issue, twoReadings, new_challenge] at hins ⊢
    rw [hins]
    rfl
  rw [hrun]
  refine ⟨rfl, fun r hr => ?_, fun n r hr => ?_, fun n c hc hexp => ?_⟩
  · rcases (hmem r).mp hr with hr | rfl
    · exact List.mem_cons_of_mem _ (hp.known r hr)
    · exact List.mem_cons_self ..
  · obtain ⟨hr, hn, hnull⟩ := selectPending_eq_some.mp hr
    rcases (hmem r).mp hr with hold | rfl
    · have hne : n ≠ nonce := fun h => hnew (h ▸ hn ▸ hp.known r hold)
      have := hp.sound n r (selectPending_eq_some.mpr ⟨hold, hn, hnull⟩)
      simpa [memoryStep, Pending.issue, hne] using this
    · simp [memoryStep, Pending.issue, ← hn, new_challenge, texts]
  · by_cases hne : n = nonce
    · subst hne
      simp only [memoryStep, Pending.issue, if_true, Option.some.injEq] at hc
      exact ⟨_, selectPending_eq_some.mpr ⟨(hmem _).mpr (Or.inr rfl), rfl, rfl⟩, hc⟩
    · simp only [memoryStep, Pending.issue, if_neg hne] at hc
      obtain ⟨r, hr, hrc⟩ := hp.live n c hc hexp
      obtain ⟨hr, hn, hnull⟩ := selectPending_eq_some.mp hr
      exact ⟨r, selectPending_eq_some.mpr ⟨(hmem r).mpr (Or.inl hr), hn, hnull⟩, hrc⟩

theorem Agrees.consume (ttl : Ttl) {now t : Int} {used : List String} {pending : Pending}
    {table : ChallengeTable} (nonce : String) (h : Agrees now used pending table) (ht : now ≤ t) :
    (memoryStep ttl (.consume nonce t) pending).1 = (sqliteStep ttl (.consume nonce t) table).1 ∧
      Agrees t used (memoryStep ttl (.consume nonce t) pending).2
        (sqliteStep ttl (.consume nonce t) table).2 := by
  have hrun : sqliteStep ttl (.consume nonce t) table =
      (.consumed (.ok ((ChallengeStore.unlessExpired t (selectPending (some nonce) table)).map texts)),
        ChallengeStore.consumed t (some nonce) table) := by
    simp only [sqliteStep, ChallengeStore.run_consume, bindText]
    rfl
  rw [hrun, memory_consumed]
  refine ⟨?_, fun r hr => ?_, fun n r hr => ?_, fun n c hc hexp => ?_⟩
  · simp only [memoryStep, Pending.consume]
    cases hrow : selectPending (some nonce) table with
    | some r =>
      simp only [h.sound nonce r hrow, ChallengeStore.unlessExpired, texts]
      split <;> rfl
    | none =>
      cases hc : pending nonce with
      | none => rfl
      | some c =>
        -- the row was purged, so the dictionary's copy has expired as well
        have hexp : c.expires_at < t := by
          by_contra hlive
          obtain ⟨r, hr, _⟩ := h.live nonce c hc (by omega)
          simp [hrow] at hr
        simp [hexp, ChallengeStore.unlessExpired]
  · unfold ChallengeStore.consumed at hr
    split at hr
    · exact h.known r hr
    · rcases mem_markConsumed.mp hr with ⟨hr, _⟩ | ⟨a, ha, _, rfl⟩
      · exact h.known r hr
      · exact h.known a ha
  · rw [ChallengeStore.selectPending_consumed] at hr
    split at hr
    · cases hr
    · next hne =>
      simp only [if_neg hne]
      exact h.sound n r hr
  · split at hc
    · cases hc
    · next hne =>
      obtain ⟨r, hr, hrc⟩ := h.live n c hc (by omega)
      exact ⟨r, by rw [ChallengeStore.selectPending_consumed, if_neg hne]; exact hr, hrc⟩

/-- The simulation over a whole prefix of the calls. -/
theorem Agrees.after (ttl : Ttl) {now : Int} {used : List String} {pending : Pending}
    {table : ChallengeTable} (h : Agrees now used pending table) (pre post : List StoreCall)
    (ha : Admissible now used (pre ++ post)) (hbind : ∀ x ∈ pre, Bindable ttl x) :
    replies (memoryStep ttl) pre pending = replies (sqliteStep ttl) pre table ∧
      ∃ now' used', Agrees now' used' (after (memoryStep ttl) pre pending)
        (after (sqliteStep ttl) pre table) ∧ Admissible now' used' post := by
  induction pre generalizing now used pending table with
  | nil => exact ⟨rfl, now, used, h, ha⟩
  | cons c pre ih =>
    obtain ⟨hc, hpre⟩ := List.forall_mem_cons.mp hbind
    cases c with
    | issue nonce domain action t₁ t₂ =>
      obtain ⟨h₁, h₂, hnew, ha⟩ := ha
      obtain ⟨hr, hagree⟩ := Agrees.issue ttl h h₁ h₂ hnew hc
      obtain ⟨hrs, hend⟩ := ih hagree ha hpre
      exact ⟨by rw [replies, replies, hr, hrs], hend⟩
    | consume nonce t =>
      obtain ⟨nonce, rfl⟩ := PyStr.encodable_iff.mp hc
      obtain ⟨ht, ha⟩ := ha
      obtain ⟨hr, hagree⟩ := Agrees.consume ttl nonce h ht.later
      obtain ⟨hrs, hend⟩ := ih hagree ha hpre
      exact ⟨by rw [replies, replies, hr, hrs], hend⟩
    | reopen =>
      obtain ⟨hrs, hend⟩ := ih h ha hpre
      exact ⟨by rw [replies, replies]; exact congrArg _ hrs, hend⟩

/-! ## The specification -/

theorem Admissible.left {now : Int} {used : List String} {pre post : List StoreCall}
    (h : Admissible now used (pre ++ post)) : Admissible now used pre := by
  induction pre generalizing now used with
  | nil => trivial
  | cons c pre ih =>
    cases c with
    | issue nonce domain action t₁ t₂ => exact ⟨h.1, h.2.1, h.2.2.1, ih h.2.2.2⟩
    | consume nonce t => exact ⟨h.1, ih h.2⟩
    | reopen => exact ih (show Admissible now used (pre ++ post) from h)

theorem Admissible.right {now : Int} {used : List String} {pre post : List StoreCall}
    (h : Admissible now used (pre ++ post)) : ∃ now' used', Admissible now' used' post := by
  induction pre generalizing now used with
  | nil => exact ⟨now, used, h⟩
  | cons c pre ih =>
    cases c with
    | issue nonce domain action t₁ t₂ => exact ih h.2.2.2
    | consume nonce t => exact ih h.2
    | reopen => exact ih (show Admissible now used (pre ++ post) from h)

/-- A later start is admissible when every reading comes after it. -/
theorem Admissible.later {now t : Int} {used : List String} {calls : List StoreCall}
    (h : Admissible now used calls) (ht : ∀ r ∈ calls.flatMap StoreCall.readings, t ≤ r) :
    Admissible (max now t) used calls := by
  induction calls with
  | nil => trivial
  | cons c cs ih =>
    cases c with
    | issue nonce domain action t₁ t₂ =>
      have := ht t₁ (by simp [StoreCall.readings])
      exact ⟨⟨Int.max_le.mpr ⟨h.1.later, this⟩, h.1.fits⟩, h.2⟩
    | consume nonce t' =>
      have := ht t' (by simp [StoreCall.readings])
      exact ⟨⟨Int.max_le.mpr ⟨h.1.later, this⟩, h.1.fits⟩, h.2⟩
    | reopen => exact ih h fun r hr => ht r (by simpa [StoreCall.readings] using hr)

theorem Admissible.not_redrawn {now : Int} {used : List String} {calls : List StoreCall}
    (h : Admissible now used calls) {n : String} {domain action : PyStr} {t₁ t₂ : Int}
    (hn : n ∈ used) :
    .issue n domain action t₁ t₂ ∉ calls := by
  induction calls generalizing now used with
  | nil => exact List.not_mem_nil
  | cons c cs ih =>
    rw [List.mem_cons, not_or]
    cases c with
    | issue nonce domain' action' t₁' t₂' =>
      refine ⟨fun he => ?_, ih h.2.2.2 (List.mem_cons_of_mem _ hn)⟩
      cases he
      exact h.2.2.1 hn
    | consume nonce t => exact ⟨by simp, ih h.2 hn⟩
    | reopen => exact ⟨by simp, ih (show Admissible now used cs from h) hn⟩

/-- `c` was issued with nonce `n`, and no `consume` of `n` was called since. -/
def Outstanding (ttl : Ttl) (past : List StoreCall) (n : String) (c : Challenge PyStr) : Prop :=
  ∃ before domain action t₁ t₂ since, past = before ++ .issue n domain action t₁ t₂ :: since ∧
    c = new_challenge n domain action ttl t₁ ∧ ∀ t, .consume (.text n) t ∉ since

/-- A split of a history is a split of its past, or splits at the last call. -/
theorem split_last {past before since : List StoreCall} {x y : StoreCall}
    (h : past ++ [x] = before ++ y :: since) :
    (past = before ∧ x = y ∧ since = []) ∨
      ∃ since', since = since' ++ [x] ∧ past = before ++ y :: since' := by
  rcases List.eq_nil_or_concat since with rfl | ⟨since', z, rfl⟩
  · obtain ⟨hpast, hx⟩ := List.append_inj' h rfl
    exact Or.inl ⟨hpast, List.head_eq_of_cons_eq hx, rfl⟩
  · have hsplit : past ++ [x] = (before ++ y :: since') ++ [z] := by simpa using h
    obtain ⟨hpast, hx⟩ := List.append_inj' hsplit rfl
    exact Or.inr ⟨since', by simp [List.head_eq_of_cons_eq hx], hpast⟩

/-- A call that neither issues nor consumes `n` changes nothing about it. -/
theorem outstanding_append_other (ttl : Ttl) (past : List StoreCall) (x : StoreCall) (n : String)
    (c : Challenge PyStr) (hissue : ∀ domain action t₁ t₂, x ≠ .issue n domain action t₁ t₂)
    (hconsume : ∀ t, x ≠ .consume (.text n) t) :
    Outstanding ttl (past ++ [x]) n c ↔ Outstanding ttl past n c := by
  constructor
  · rintro ⟨before, domain, action, t₁, t₂, since, hpast, rfl, hc⟩
    rcases split_last hpast with ⟨_, hx, _⟩ | ⟨since', rfl, rfl⟩
    · exact absurd hx (hissue _ _ _ _)
    · exact ⟨before, domain, action, t₁, t₂, since', rfl, rfl, fun t ht => hc t (by simp [ht])⟩
  · rintro ⟨before, domain, action, t₁, t₂, since, rfl, rfl, hc⟩
    refine ⟨before, domain, action, t₁, t₂, since ++ [x], by simp, rfl, fun t ht => ?_⟩
    rcases List.mem_append.mp ht with ht | ht
    · exact hc t ht
    · exact hconsume t (List.mem_singleton.mp ht).symm

theorem outstanding_append_issue (ttl : Ttl) (past : List StoreCall) (n : String)
    (domain action : PyStr) (t₁ t₂ : Int) (c : Challenge PyStr) {now : Int} {used : List String}
    (ha : Admissible now used (past ++ [.issue n domain action t₁ t₂])) :
    Outstanding ttl (past ++ [.issue n domain action t₁ t₂]) n c ↔
      c = new_challenge n domain action ttl t₁ := by
  constructor
  · rintro ⟨before, domain', action', t₁', t₂', since, hpast, rfl, _⟩
    rcases split_last hpast with ⟨_, hx, _⟩ | ⟨since', rfl, rfl⟩
    · cases hx
      rfl
    · -- the same nonce would have been drawn before
      rw [hpast] at ha
      obtain ⟨now', used', _, _, _, hrest⟩ := ha.right
      have hagain : StoreCall.issue n domain action t₁ t₂ ∈
          since' ++ [.issue n domain action t₁ t₂] := by simp
      exact absurd hagain (hrest.not_redrawn (List.mem_cons_self ..))
  · rintro rfl
    exact ⟨past, domain, action, t₁, t₂, [], by simp, rfl, by simp⟩

theorem outstanding_append_consume (ttl : Ttl) (past : List StoreCall) (n : String) (t : Int)
    (c : Challenge PyStr) : ¬Outstanding ttl (past ++ [.consume (.text n) t]) n c := by
  rintro ⟨before, domain, action, t₁, t₂, since, hpast, _, hc⟩
  rcases split_last hpast with ⟨_, hx, _⟩ | ⟨since', rfl, _⟩
  · cases hx
  · exact hc t (by simp)

/-- The dictionary holds exactly the outstanding challenges. -/
theorem memory_outstanding (ttl : Ttl) (past : List StoreCall) (n : String) (c : Challenge PyStr)
    {now : Int} {used : List String} (ha : Admissible now used past) :
    after (memoryStep ttl) past (fun _ => none) n = some c ↔ Outstanding ttl past n c := by
  induction past using List.reverseRecOn with
  | nil => simp [after, Outstanding]
  | append_singleton past x ih =>
    have ih := ih ha.left
    rw [after, List.foldl_append, List.foldl_cons, List.foldl_nil]
    cases x with
    | issue nonce domain action t₁ t₂ =>
      by_cases h : n = nonce
      · subst h
        rw [outstanding_append_issue ttl past n domain action t₁ t₂ c ha]
        simp [memoryStep, Pending.issue, eq_comm]
      · rw [outstanding_append_other ttl past _ n c (by simp [Ne.symm h]) (by simp), ← ih]
        simp [memoryStep, Pending.issue, h, after]
    | consume nonce t =>
      cases nonce with
      | lone text =>
        rw [outstanding_append_other ttl past _ n c (by simp) (by simp), ← ih]
        rfl
      | text nonce =>
        rw [memory_consumed]
        by_cases h : n = nonce
        · subst h
          simp [outstanding_append_consume ttl past n t c]
        · rw [outstanding_append_other ttl past _ n c (by simp) (by simp [Ne.symm h]), ← ih]
          simp only [if_neg h]
          rfl
    | reopen =>
      rw [outstanding_append_other ttl past _ n c (by simp) (by simp), ← ih]
      rfl

/-- What the specification answers to a call after the calls `past`. -/
def Answers (ttl : Ttl) (past : List StoreCall) : StoreCall → StoreReply → Prop
  | .issue nonce domain action t₁ _, reply =>
    reply = .issued (.ok (new_challenge nonce domain action ttl t₁))
  | .consume nonce now, reply => ∃ answer, reply = .consumed (.ok answer) ∧
      ∀ c, answer = some c ↔ ∃ n, nonce = .text n ∧ Outstanding ttl past n c ∧ now ≤ c.expires_at
  | .reopen, reply => reply = .reopened

theorem memory_answers (ttl : Ttl) (past : List StoreCall) (x : StoreCall) {now : Int}
    {used : List String} (ha : Admissible now used past) :
    Answers ttl past x (memoryStep ttl x (after (memoryStep ttl) past fun _ => none)).1 := by
  cases x with
  | issue nonce domain action t₁ t₂ => rfl
  | reopen => rfl
  | consume nonce now =>
    refine ⟨_, rfl, fun c => ?_⟩
    cases nonce with
    | lone t => simp [Pending.consume]
    | text nonce =>
      simp only [PyStr.text.injEq, exists_eq_left', ← memory_outstanding ttl past nonce c ha,
        Pending.consume]
      cases hc : after (memoryStep ttl) past (fun _ => none) nonce with
      | none => simp
      | some c' =>
        by_cases hexp : c'.expires_at < now
        · simp only [if_pos hexp, Option.some.injEq]
          refine ⟨by simp, ?_⟩
          rintro ⟨rfl, hlive⟩
          omega
        · simp only [if_neg hexp, Option.some.injEq]
          refine ⟨?_, fun h => h.1⟩
          rintro rfl
          exact ⟨rfl, by omega⟩

/-! ## Where the backends agree -/

/-- The reply is an exception. -/
def StoreReply.Raised : StoreReply → Prop
  | .issued x => ∃ e, x = .error e
  | .consumed x => ∃ e, x = .error e
  | .reopened => False

theorem memory_returns (ttl : Ttl) (x : StoreCall) (pending : Pending) :
    ¬(memoryStep ttl x pending).1.Raised := by
  cases x <;> simp [memoryStep, StoreReply.Raised]

theorem bindRow_error {challenge : Challenge PyStr} (h : ¬(challenge.domain.encodable = true ∧
    challenge.action.encodable = true ∧ fitsInt64 challenge.expires_at = true)) :
    ∃ e, ChallengeStore.bindRow challenge = .error e := by
  unfold ChallengeStore.bindRow
  split
  · exact ⟨_, rfl⟩
  · exact ⟨_, rfl⟩
  · next domain action hd ha =>
    split
    · next hfits =>
      rw [Bool.and_eq_true] at hfits
      exact absurd ⟨by rw [hd]; rfl, by rw [ha]; rfl, hfits.2⟩ h
    · exact ⟨_, rfl⟩

/-- SQLite raises on a value that it cannot bind. -/
theorem sqlite_raises {ttl : Ttl} {x : StoreCall} (h : ¬Bindable ttl x) (table : ChallengeTable) :
    (sqliteStep ttl x table).1.Raised := by
  cases x with
  | issue nonce domain action t₁ t₂ =>
    have hbind : ∃ e, ChallengeStore.bindRow (new_challenge nonce domain action ttl t₁) = .error e :=
      bindRow_error h
    obtain ⟨e, he⟩ := hbind
    rw [sqliteStep, he]
    exact ⟨e, rfl⟩
  | consume nonce now =>
    cases nonce with
    | text nonce => exact absurd rfl h
    | lone t =>
      simp only [sqliteStep, ChallengeStore.run_consume, bindText]
      exact ⟨t.encodeError, rfl⟩
  | reopen => exact absurd trivial h

/-- The backends refine one specification on these calls: they give the same replies, each the one
that the specification gives, and a purge at any point changes no later reply. -/
structure BackendsAgree (ttl : Ttl) (calls : List StoreCall) : Prop where
  replies : replies (memoryStep ttl) calls (fun _ => none) =
    replies (sqliteStep ttl) calls Table.empty
  answers : ∀ k x, calls[k]? = some x → ∃ reply,
    (Backends.replies (sqliteStep ttl) calls Table.empty)[k]? = some reply ∧
      Answers ttl (calls.take k) x reply
  purge : ∀ past later now, calls = past ++ later →
    (∀ t ∈ later.flatMap StoreCall.readings, now ≤ t) →
      Backends.replies (sqliteStep ttl) later
          (deleteExpired now (after (sqliteStep ttl) past Table.empty)) =
        Backends.replies (sqliteStep ttl) later (after (sqliteStep ttl) past Table.empty)

/-- **Both backends refine the specification** exactly where SQLite can bind what they are given: the
nonce presented, the domain and action asked for, and the time at which a challenge expires. -/
theorem backends_agree_iff (ttl : Ttl) (start : Int) (calls : List StoreCall)
    (ha : Admissible start [] calls) :
    BackendsAgree ttl calls ↔ ∀ x ∈ calls, Bindable ttl x := by
  constructor
  · intro hagree x hx
    by_contra hbind
    obtain ⟨k, hk⟩ := List.getElem?_of_mem hx
    have hsame := congrArg (fun replies => replies[k]?) hagree.replies
    simp only [replies_getElem?, hk, Option.map_some, Option.some.injEq] at hsame
    exact memory_returns ttl x _ (hsame ▸ sqlite_raises hbind _)
  · intro hbind
    have hempty := agrees_empty start
    have heq := (hempty.after ttl calls [] (by simpa using ha) hbind).1
    refine ⟨heq, fun k x hx => ?_, fun past later now hcalls hlater => ?_⟩
    · have htake : Admissible start [] (calls.take k) := by
        rw [← List.take_append_drop k calls] at ha
        exact ha.left
      refine ⟨_, ?_, memory_answers ttl (calls.take k) x htake⟩
      rw [← heq, replies_getElem?, hx]
      rfl
    · subst hcalls
      obtain ⟨hpast, hlaterBind⟩ := List.forall_mem_append.mp hbind
      obtain ⟨_, now', used', hagree, hrest⟩ := hempty.after ttl past later ha hpast
      have hpurged := hagree.purge (Int.le_max_left now' now) (Int.le_max_right now' now)
      have hsame := (hpurged.after ttl later [] (by simpa using hrest.later hlater) hlaterBind).1
      have horig := (hagree.after ttl later [] (by simpa using hrest) hlaterBind).1
      rw [← hsame, horig]

/-- `json.loads` makes this nonce of an escape in a login event. -/
theorem lone_nonce_disagrees : Admissible 0 [] [.consume (.lone loneSurrogate) 0] ∧
    ¬BackendsAgree DEFAULT_TTL_SECONDS [.consume (.lone loneSurrogate) 0] := by
  refine ⟨by decide, fun hagree => ?_⟩
  have hsame := congrArg List.head? hagree.replies
  exact memory_returns DEFAULT_TTL_SECONDS (.consume (.lone loneSurrogate) 0) (fun _ => none)
    (Option.some.inj hsame ▸ ⟨_, rfl⟩)

/-- A challenge presented at its last second, presented again after a reopen, and one
that is purged unused. -/
def boundaryCalls : List StoreCall :=
  [.issue "a" "example.org" "yunohost-login" 10 10, .consume "a" 100, .reopen,
    .consume "a" 100, .issue "b" "example.org" "yunohost-link" 100 101,
    .issue "c" "example.org" "yunohost-link" 300 300, .consume "b" 300]

theorem boundary_calls_agree : BackendsAgree DEFAULT_TTL_SECONDS boundaryCalls :=
  (backends_agree_iff DEFAULT_TTL_SECONDS 0 boundaryCalls (by decide)).mpr (by decide)

end NostrAuth.Backends
