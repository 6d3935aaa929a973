import NostrAuth.MappingConcurrency
import NostrAuth.MappingOwnership

/-! Many processes open one legacy file while others already use it. The version that
`_migrate_legacy_users` tests is read before the transaction that copies the rows. -/

set_option autoImplicit false

namespace NostrAuth.Migration

open Transaction MappingDb MappingStore MappingOwnership

/-- The script of one process that opens the file, or of one call on an open store. -/
def program : StoreStep → Sql MappingReply
  | .call c => c.program
  | .reopen => init.bind fun _ => .ret .done

abbrev StoreDb := Db StoreStep MappingDb Exn MappingReply

/-- No migration has been completed, or every legacy pubkey is still taken. -/
def Safe (db : MappingDb) : Prop :=
  db.user_version < LEGACY_MIGRATION_VERSION ∨
    ∀ user ∈ db.users.getD [], ∃ r ∈ db, r.pubkey = user.pubkey

/-- Where `INSERT OR IGNORE ... SELECT ... FROM users` is about to run, the file is safe. -/
def SafeCopy (rest : Sql MappingReply) (db : MappingDb) : Prop :=
  ∀ k, rest = .execute copyLegacy k → Safe db

/-- The steps of the runs below. -/
def Admitted (i : Nat) (d : StoreDb) : Prop :=
  ∀ p, d.proc i = some p → SafeCopy p.rest d.committed

/-- What a process may commit. -/
def Commits : StoreStep → MappingDb → MappingDb → Prop
  | .call c, before, after => c.Effect before after
  | .reopen, before, after => after.users = before.users ∧
    LEGACY_MIGRATION_VERSION ≤ after.user_version ∧
      (after.identities = before.identities ∨ Safe before ∧
        after.identities = copyUsers (before.users.getD []) before.identities)

/-- What opening a file commits: an import, where `S` holds of the file whose rows it copies,
or the new version alone, where `bare` holds. -/
def Opens (S : MappingDb → Prop) (bare : Prop) (before after : MappingDb) : Prop :=
  after.users = before.users ∧ LEGACY_MIGRATION_VERSION ≤ after.user_version ∧
    ((after.identities = before.identities ∧ bare) ∨ (S before ∧
      after.identities = copyUsers (before.users.getD []) before.identities))

/-- Opening commits once, unless it met a file of the new version: `late` says that it may
have met one, `bare` that it may have met one without a `users` table. -/
theorem init_ok {S : MappingDb → Prop} {bare late : Prop} : (program .reopen).Ok
    (fun _ rest db => (∀ k, rest = .execute copyLegacy k → S db) ∧ (db.users = none → bare) ∧
      (LEGACY_MIGRATION_VERSION ≤ db.user_version → late))
    (fun _ before after => Opens S bare before after) (fun trail _ => trail = [] → late) [] none := by
  simp only [program, init, _migrate_legacy_users, Script.bind_eq, Script.select_bind,
    Script.closing, Script.query_bind, Script.attempt, Script.Ok, Script.meets]
  intro seen hseen
  by_cases hv : LEGACY_MIGRATION_VERSION ≤ seen.user_version
  · have hlate := hseen.2.2 hv
    simp [hv, hlate, Script.commitNow, Script.attempt, Script.ofExcept, Script.Ok]
  · simp only [hv, if_false, Script.query_bind, Script.attempt, Script.Ok, Script.meets]
    intro seen' hseen'
    cases hu : seen'.users with
    | none =>
      have hbare := hseen'.2.1 hu
      simp [Script.commitNow, Script.attempt, Script.ofExcept, Script.Ok, Opens, hbare]
    | some users =>
      simp only [Option.isSome_some, if_true, Script.dml, Script.execute_bind, Script.attempt,
        Script.Ok, Script.meets]
      intro before hbefore
      have hcopy := hbefore.1 _ rfl
      simp [copyLegacy, Script.ofExcept, Script.attempt, Script.commitNow, Script.Ok, Opens, hcopy]

theorem reopen_ok : (program .reopen).Ok (fun _ rest db => SafeCopy rest db)
    (fun _ before after => Commits .reopen before after) (fun _ _ => True) [] none := by
  have hinit : (program .reopen).Ok _ (fun _ before after => Opens Safe True before after)
    (fun trail _ => trail = [] → True) [] none := init_ok
  refine hinit.mono (fun _ _ _ hsafe => ⟨hsafe, fun _ => trivial, fun _ => trivial⟩) ?_
    fun _ _ _ => trivial
  rintro _ before after ⟨husers, hversion, himport⟩
  exact ⟨husers, hversion, himport.imp_left And.left⟩

theorem program_ok (s : StoreStep) : (program s).Ok (fun _ rest db => SafeCopy rest db)
    (fun _ before after => Commits s before after) (fun _ _ => True) [] none := by
  cases s with
  | call c =>
    have hc : MappingConcurrency.Meets False c := MappingConcurrency.program_ok c
    exact hc.mono (fun _ _ _ _ h => h.elim) (fun _ _ _ h => h.2) fun _ _ _ => trivial
  | reopen => exact reopen_ok

theorem run_verified {start : MappingDb} {d : StoreDb} (hd : Reachable program Admitted start d) :
    Verified start (fun _ => True) (fun _ _ rest db => SafeCopy rest db)
      (fun s _ before after => Commits s before after) (fun _ _ _ => True) d :=
  hd.verified ⟨program_ok, fun _ _ _ _ _ _ => trivial, fun _ _ p _ hmay hp => hmay p hp⟩ trivial

/-! ## One change -/

theorem commits_version {s : StoreStep} {before after : MappingDb} (h : Commits s before after)
    (hv : LEGACY_MIGRATION_VERSION ≤ before.user_version) :
    LEGACY_MIGRATION_VERSION ≤ after.user_version := by
  cases s with
  | call c =>
    rw [(MappingCall.Effect.migration h).1]
    exact hv
  | reopen => exact h.2.1

/-- Once a migration is complete, opening adds no row. -/
theorem reopen_adds_nothing {before after : MappingDb} (h : Commits .reopen before after)
    (hv : LEGACY_MIGRATION_VERSION ≤ before.user_version) {r : IdentityRow} (hr : r ∈ after) :
    r ∈ before := by
  obtain ⟨_, _, hsame | ⟨hsafe | htaken, hcopy⟩⟩ := h
  · rw [mem_def, hsame] at hr
    exact hr
  · omega
  · rw [mem_def, hcopy] at hr
    exact mem_copyUsers_of_taken htaken hr

/-! ## Runs -/

section History

variable (d : StoreDb)

/-- The change was committed by a process that opened the file. -/
def Opening (x : Change MappingDb) : Prop :=
  ∃ p, d.proc x.who = some p ∧ p.call = .reopen

/-- The change imported the legacy row `user`. -/
def Imports (x : Change MappingDb) (user : LegacyRow) : Prop :=
  Opening d x ∧ (∀ r ∈ x.before, r.pubkey ≠ user.pubkey) ∧ ∃ r ∈ x.after, r.pubkey = user.pubkey

/-- The change was committed by a call that links or adds the pubkey. -/
def Relinks (x : Change MappingDb) (pubkey : String) : Prop :=
  ∃ p u metadata, d.proc x.who = some p ∧ (p.call = .call (.link u pubkey metadata) ∨
    p.call = .call (.add_identity u pubkey metadata))

structure ImportedOnce : Prop where
  once : ∀ user (i j : Nat) x y, d.hist[i]? = some x → d.hist[j]? = some y → Imports d x user →
    Imports d y user → i = j
  /-- A pubkey that is gone after a completed migration stays gone until it is linked again,
  and cannot log in. -/
  gone : ∀ pubkey newer x older, d.hist = newer ++ x :: older →
    LEGACY_MIGRATION_VERSION ≤ x.after.user_version → (∀ r ∈ x.after, r.pubkey ≠ pubkey) →
    (∀ y ∈ newer, ¬Relinks d y pubkey) →
    (∀ r ∈ d.committed, r.pubkey ≠ pubkey) ∧
      ∀ t, (get_by_pubkey pubkey).run t d.committed none = (.ok none, d.committed)

end History

variable {d : StoreDb} {start : MappingDb}

/-- The promises of a run's changes. -/
abbrev Committed (d : StoreDb) (x : Change MappingDb) (_ : List (Change MappingDb)) : Prop :=
  ∃ p, d.proc x.who = some p ∧ Commits p.call x.before x.after

theorem imports_version {x : Change MappingDb} {older : List (Change MappingDb)} {user : LegacyRow}
    (hx : Committed d x older) (h : Imports d x user) :
    x.before.user_version < LEGACY_MIGRATION_VERSION := by
  obtain ⟨⟨p, hp, hcall⟩, habsent, r, hr, hpk⟩ := h
  obtain ⟨p', hp', hcommits⟩ := hx
  rw [hp, Option.some.injEq] at hp'
  rw [← hp', hcall] at hcommits
  by_contra hv
  exact habsent r (reopen_adds_nothing hcommits (by omega) hr) hpk

theorem run_once {hist : List (Change MappingDb)} {db : MappingDb}
    (h : Linked (Committed d) start hist db) (user : LegacyRow) :
    (∀ (i j : Nat) x y, hist[i]? = some x → hist[j]? = some y → Imports d x user → Imports d y user →
      i = j) ∧
      ((∃ x ∈ hist, Imports d x user) → LEGACY_MIGRATION_VERSION ≤ db.user_version) := by
  refine h.rule (R := fun hist db =>
    (∀ (i j : Nat) x y, hist[i]? = some x → hist[j]? = some y → Imports d x user → Imports d y user →
      i = j) ∧
      ((∃ x ∈ hist, Imports d x user) → LEGACY_MIGRATION_VERSION ≤ db.user_version))
    ⟨by simp, by simp⟩ fun x older hx _ ih => ?_
  -- an import before `x` has completed a migration, so `x` imports nothing
  have hlate : ∀ (k : Nat) (y : Change MappingDb), older[k]? = some y → Imports d y user →
      ¬Imports d x user := by
    intro k y hy himp himp'
    have hdone := ih.2 ⟨y, List.mem_of_getElem? hy, himp⟩
    have := imports_version hx himp'
    omega
  refine ⟨fun i j a b ha hb hia hib => ?_, ?_⟩
  · cases i with
    | zero =>
      cases j with
      | zero => rfl
      | succ j =>
        cases ha
        exact absurd hia (hlate j b hb hib)
    | succ i =>
      cases j with
      | zero =>
        cases hb
        exact absurd hib (hlate i a ha hia)
      | succ j => exact congrArg _ (ih.1 i j a b ha hb hia hib)
  · rintro ⟨y, hy, himp⟩
    obtain ⟨p, hp, hcommits⟩ := hx
    rcases List.mem_cons.mp hy with rfl | hy
    · obtain ⟨⟨q, hq, hcall⟩, _⟩ := himp
      rw [hp, Option.some.injEq] at hq
      rw [hq, hcall] at hcommits
      exact hcommits.2.1
    · exact commits_version hcommits (ih.2 ⟨y, hy, himp⟩)

theorem run_gone {hist : List (Change MappingDb)} {db : MappingDb}
    (h : Linked (Committed d) start hist db) (pubkey : String) :
    ∀ newer x older, hist = newer ++ x :: older →
      LEGACY_MIGRATION_VERSION ≤ x.after.user_version → (∀ r ∈ x.after, r.pubkey ≠ pubkey) →
      (∀ y ∈ newer, ¬Relinks d y pubkey) →
      LEGACY_MIGRATION_VERSION ≤ db.user_version ∧ ∀ r ∈ db, r.pubkey ≠ pubkey := by
  refine h.rule (R := fun hist db => ∀ newer x older, hist = newer ++ x :: older →
    LEGACY_MIGRATION_VERSION ≤ x.after.user_version → (∀ r ∈ x.after, r.pubkey ≠ pubkey) →
    (∀ y ∈ newer, ¬Relinks d y pubkey) →
    LEGACY_MIGRATION_VERSION ≤ db.user_version ∧ ∀ r ∈ db, r.pubkey ≠ pubkey)
    (by simp) fun c cs hc _ ih newer x older hsplit hv hgone hnone => ?_
  cases newer with
  | nil =>
    cases hsplit
    exact ⟨hv, hgone⟩
  | cons y newer =>
    obtain ⟨rfl, hcs⟩ := List.cons.inj hsplit
    obtain ⟨hversion, habsent⟩ :=
      ih newer x older hcs hv hgone fun z hz => hnone z (List.mem_cons_of_mem _ hz)
    obtain ⟨p, hp, hcommits⟩ := hc
    refine ⟨commits_version hcommits hversion, fun r hr hpk => ?_⟩
    cases hcall : p.call with
    | reopen =>
      rw [hcall] at hcommits
      exact habsent r (reopen_adds_nothing hcommits hversion hr) hpk
    | call call =>
      rw [hcall] at hcommits
      rcases MappingCall.Effect.origin hcommits hr with ⟨a, ha, hsame⟩ | ⟨u, q, metadata, t, hq, rfl⟩
      · exact habsent a ha (hsame.pubkey.symm.trans hpk)
      · obtain rfl : q = pubkey := hpk
        refine hnone c (List.mem_cons_self ..) ⟨p, u, metadata, hp, ?_⟩
        rcases hq with rfl | rfl
        · exact Or.inl hcall
        · exact Or.inr hcall

/-- **Legacy rows are imported at most once** in every run in which no process copies them
into a file whose migration another process has completed, unless nothing is missing. -/
theorem legacy_imported_once (start : MappingDb) (d : StoreDb)
    (hd : Reachable program Admitted start d) : ImportedOnce d := by
  have hlinked : Linked (Committed d) start d.hist d.committed := (run_verified hd).hist
  refine ⟨fun user => (run_once hlinked user).1, fun pubkey newer x older hsplit hv hgone hnone => ?_⟩
  have habsent := (run_gone hlinked pubkey newer x older hsplit hv hgone hnone).2
  refine ⟨habsent, fun t => ?_⟩
  have hfind := find_pubkey_eq_none.mpr fun r hr hp => absurd hp (habsent r hr)
  rw [run_get_by_pubkey, hfind]
  rfl

/-- The file an older version left behind. -/
def legacyFile : MappingDb := ⟨Serial.empty, 0, some [⟨"alice", "pk1", 1, none, 1⟩]⟩

/-- One process opens the file, another unlinks the account, a third opens it again. -/
def orderlyMoves : List (Move StoreStep) :=
  [.start 0 .reopen, .go 0 0, .go 0 0, .go 0 0, .go 0 0, .go 0 0, .go 0 0,
    .start 1 (.call (.unlink "alice")), .go 1 0, .go 1 0, .go 1 0,
    .start 2 .reopen, .go 2 0, .go 2 0, .go 2 0]

def orderlyRun : StoreDb := (Db.init legacyFile).play program orderlyMoves

theorem unlink_ne_copyLegacy (u : String) : (fun db => .ok (deleteUser u db)) ≠ copyLegacy := by
  intro h
  have hrows := congrArg (fun x => x.toOption.map fun y => y.1.identities.rows.length)
    (congrFun h legacyFile)
  cases hrows

theorem orderly_admitted : Admits program Admitted (Db.init legacyFile) orderlyMoves := by
  refine ⟨?_, ?_, ?_, ?_, ?_, ?_, ?_, ?_, ?_, ?_, ?_, ?_, ?_, ?_, ?_, trivial⟩ <;>
    (intro p hp; cases hp) <;> intro k hrest <;>
    first
    | (cases hrest; done)
    | exact absurd (Script.execute.inj hrest).1 (unlink_ne_copyLegacy _)
    | exact Or.inl (by decide)

theorem orderlyRun_once : (∃ p, orderlyRun.proc 2 = some p ∧ p.rest = .ret .done) ∧
    orderlyRun.hist.length = 2 ∧ ImportedOnce orderlyRun :=
  ⟨⟨_, rfl, rfl⟩, rfl,
    legacy_imported_once legacyFile orderlyRun (Reachable.init.play orderly_admitted)⟩

/-- A process reads the version, then another one opens the file and unlinks the account,
and only then the first one copies the rows. -/
def staleMoves : List (Move StoreStep) :=
  [.start 0 .reopen, .go 0 0,
    .start 1 .reopen, .go 1 0, .go 1 0, .go 1 0, .go 1 0, .go 1 0, .go 1 0,
    .start 2 (.call (.unlink "alice")), .go 2 0, .go 2 0, .go 2 0,
    .go 0 0, .go 0 0, .go 0 0, .go 0 0, .go 0 0]

def staleRun : StoreDb := (Db.init legacyFile).play program staleMoves

/-- A legacy row may be imported twice, and its unlinked pubkey logs in again. -/
theorem legacy_imported_twice : ¬∀ (start : MappingDb) (d : StoreDb),
    Reachable program Anytime start d → ImportedOnce d := by
  intro h
  have hrun : Reachable program Anytime legacyFile staleRun :=
    Reachable.init.play (admits_anytime program (Db.init legacyFile) staleMoves)
  have hfirst : Imports staleRun (staleRun.hist.get ⟨2, by decide⟩) ⟨"alice", "pk1", 1, none, 1⟩ :=
    ⟨⟨_, rfl, rfl⟩, by decide, by decide⟩
  have hsecond : Imports staleRun (staleRun.hist.get ⟨0, by decide⟩) ⟨"alice", "pk1", 1, none, 1⟩ :=
    ⟨⟨_, rfl, rfl⟩, by decide, by decide⟩
  have heq := (h legacyFile staleRun hrun).once _ 2 0 _ _ rfl rfl hfirst hsecond
  cases heq

end NostrAuth.Migration
