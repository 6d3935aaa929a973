import NostrAuth.MappingRows

/-! Whose pubkey it is: what every call of a `MappingStore` may do to the owner of a row,
and what follows for whole runs of calls and reopens. -/

set_option autoImplicit false

namespace NostrAuth.MappingOwnership

open Transaction MappingDb MappingStore

/-! ## Runs -/

inductive StoreStep
  | call (c : MappingCall)
  | reopen
  deriving DecidableEq, Repr

/-- One step, run alone, that reads the clock from `t`. -/
def perform : StoreStep → (Nat → Int) → MappingDb → Except Exn MappingReply × MappingDb
  | .call c, t, db => c.alone t db
  | .reopen, t, db => ((init.run t db none).1.map fun _ => .done, (init.run t db none).2)

def after (steps : List (StoreStep × (Nat → Int))) (db : MappingDb) : MappingDb :=
  steps.foldl (fun db s => (perform s.1 s.2 db).2) db

theorem after_take_succ (steps : List (StoreStep × (Nat → Int))) (db : MappingDb) {k : Nat}
    {s : StoreStep × (Nat → Int)} (hs : steps[k]? = some s) :
    after (steps.take (k + 1)) db = (perform s.1 s.2 (after (steps.take k) db)).2 := by
  rw [List.take_add_one, hs, after, List.foldl_append]
  rfl

/-! ## The completed migration -/

/-- Opening a file again whose migration is complete changes nothing. -/
theorem reopen_migrated {db : MappingDb} (hv : LEGACY_MIGRATION_VERSION ≤ db.user_version)
    (t : Nat → Int) : (perform .reopen t db).2 = db := by
  simp only [perform, run_init, if_pos hv]

theorem perform_version {db : MappingDb} (hv : LEGACY_MIGRATION_VERSION ≤ db.user_version)
    (s : StoreStep) (t : Nat → Int) :
    LEGACY_MIGRATION_VERSION ≤ (perform s t db).2.user_version := by
  cases s with
  | reopen =>
    rw [reopen_migrated hv]
    exact hv
  | call c =>
    show LEGACY_MIGRATION_VERSION ≤ (c.alone t db).2.user_version
    rcases c.alone_effect t db with ⟨r, _, heffect⟩ | hsame
    · rw [heffect.migration.1]
      exact hv
    · rw [hsame]
      exact hv

theorem after_version {steps : List (StoreStep × (Nat → Int))} {db : MappingDb}
    (hv : LEGACY_MIGRATION_VERSION ≤ db.user_version) :
    LEGACY_MIGRATION_VERSION ≤ (after steps db).user_version := by
  induction steps generalizing db with
  | nil => exact hv
  | cons s rest ih => exact ih (perform_version hv s.1 s.2)

/-- Opening a file completes its migration. -/
theorem reopen_version (t : Nat → Int) (db : MappingDb) :
    LEGACY_MIGRATION_VERSION ≤ (perform .reopen t db).2.user_version := by
  simp only [perform, run_init]
  split
  · next hv => exact hv
  · exact Int.le_refl _

/-! ## One step -/

section Step

variable {db : MappingDb} {u p : String} (t : Nat → Int) (metadata : Metadata)

theorem link_taken (h : ∃ r ∈ db, r.pubkey = p ∧ r.ynh_username ≠ u) :
    ∃ msg, ((MappingCall.link u p metadata).alone t db).1 = .error (.pubkeyAlreadyLinked msg) := by
  obtain ⟨r, hr, hp, hu⟩ := h
  have ho : ownerOf p db = some r.ynh_username := ownerOf_eq_some.mpr ⟨r, hr, hp, rfl⟩
  have hcheck : checkOther u (ownerOf p db) = .error (alreadyLinkedTo r.ynh_username) := by
    rw [ho, checkOther, if_pos hu]
  exact ⟨_, by
    simp only [MappingCall.alone_eq, MappingCall.method, run_link, hcheck,
      Except.map]
    rfl⟩

theorem link_free (h : ∀ r ∈ db, r.pubkey = p → r.ynh_username = u) :
    ((MappingCall.link u p metadata).alone t db).1 = .ok .done := by
  -- after the deletion no row has the pubkey
  have hfree : ∀ r ∈ (deleteUser u db).1, r.pubkey ≠ p := fun r hr hp =>
    (mem_deleteUser.mp hr).2 (h r (mem_deleteUser.mp hr).1 hp)
  obtain ⟨db', hins⟩ : ∃ db', insertNew u p (t 0) metadata (deleteUser u db).1 = .ok (db', _) :=
    insertNew_free hfree
  simp [MappingCall.alone_eq, MappingCall.method, MappingCall.wrap, run_link,
    checkOther_eq_ok.mpr h, hins, Except.map]

theorem add_taken (h : ∃ r ∈ db, r.pubkey = p) :
    ∃ msg, ((MappingCall.add_identity u p metadata).alone t db).1 =
      .error (.pubkeyAlreadyLinked msg) := by
  obtain ⟨r, hr, hp⟩ := h
  have ho : ownerOf p db = some r.ynh_username := ownerOf_eq_some.mpr ⟨r, hr, hp, rfl⟩
  have hcheck : ∃ msg, checkAny u (ownerOf p db) = .error (.pubkeyAlreadyLinked msg) := by
    rw [ho, checkAny]
    split
    · exact ⟨_, rfl⟩
    · exact ⟨_, rfl⟩
  obtain ⟨msg, hcheck⟩ := hcheck
  exact ⟨msg, by
    simp only [MappingCall.alone_eq, MappingCall.method, run_add_identity, hcheck, Except.map]⟩

theorem add_free (h : ∀ r ∈ db, r.pubkey ≠ p) :
    ∃ i, ((MappingCall.add_identity u p metadata).alone t db).1 = .ok (.identity (some i)) := by
  obtain ⟨db', hins⟩ : ∃ db', insertNew u p (t 0) metadata db = .ok (db', _) := insertNew_free h
  have hok := (checkAny_eq_ok (u := u)).mpr h
  exact ⟨_, by
    simp only [MappingCall.alone_eq, MappingCall.method, MappingCall.wrap, run_add_identity, hok,
      hins, Except.map]
    rfl⟩

theorem effect_of_ok {c : MappingCall} {r : MappingReply} (hw : c.writes = true)
    (h : (c.alone t db).1 = .ok r) : c.Effect db (c.alone t db).2 := by
  simpa [hw] using (c.alone_spec t db).2 r h

end Step

/-- What holds of every database, whatever calls led to it. -/
structure Ownership (db : MappingDb) : Prop where
  distinct : (db.identities.rows.map IdentityRow.pubkey).Nodup
  link_raises : ∀ u p metadata t,
    (∃ msg, ((MappingCall.link u p metadata).alone t db).1 = .error (.pubkeyAlreadyLinked msg)) ↔
      ∃ r ∈ db, r.pubkey = p ∧ r.ynh_username ≠ u
  add_raises : ∀ u p metadata t,
    (∃ msg, ((MappingCall.add_identity u p metadata).alone t db).1 =
      .error (.pubkeyAlreadyLinked msg)) ↔ ∃ r ∈ db, r.pubkey = p
  raise_keeps : ∀ (c : MappingCall) t e, (c.alone t db).1 = .error e → (c.alone t db).2 = db
  linked : ∀ u p metadata t reply, ((MappingCall.link u p metadata).alone t db).1 = .ok reply →
    ∃ r ∈ ((MappingCall.link u p metadata).alone t db).2,
      r.ynh_username = u ∧ r.pubkey = p ∧ r.enabled = 1 ∧
        ∀ r' ∈ ((MappingCall.link u p metadata).alone t db).2, r'.ynh_username = u → r' = r
  added : ∀ u p metadata t reply,
    ((MappingCall.add_identity u p metadata).alone t db).1 = .ok reply →
      ∃ r, r ∉ db ∧ r.ynh_username = u ∧ r.pubkey = p ∧ r.enabled = 1 ∧
        ∀ r', r' ∈ ((MappingCall.add_identity u p metadata).alone t db).2 ↔ r' ∈ db ∨ r' = r
  frame : ∀ (c : MappingCall) t u r, c.account = some u → r.ynh_username ≠ u →
    (r ∈ (c.alone t db).2 ↔ r ∈ db)

theorem ownership (db : MappingDb) : Ownership db where
  distinct := db.identities.unique
  link_raises := by
    intro u p metadata t
    constructor
    · rintro ⟨msg, h⟩
      by_contra hno
      have hfree : ∀ r ∈ db, r.pubkey = p → r.ynh_username = u := fun r hr hp => by
        by_contra hu
        exact hno ⟨r, hr, hp, hu⟩
      rw [link_free t metadata hfree] at h
      cases h
    · exact link_taken t metadata
  add_raises := by
    intro u p metadata t
    constructor
    · rintro ⟨msg, h⟩
      by_contra hno
      obtain ⟨i, hi⟩ := add_free (u := u) t metadata fun r hr hp => hno ⟨r, hr, hp⟩
      rw [hi] at h
      cases h
    · exact add_taken t metadata
  raise_keeps := fun c t e h => (c.alone_spec t db).1 e h
  linked := by
    intro u p metadata t reply h
    obtain ⟨t', c, hins⟩ := effect_of_ok t rfl h
    have hmem := (insertNew_ok hins).2
    refine ⟨_, (hmem _).mpr (Or.inr rfl), rfl, rfl, rfl, fun r' hr' hu => ?_⟩
    rcases (hmem r').mp hr' with hold | hnew
    · exact absurd hu (mem_deleteUser.mp hold).2
    · exact hnew
  added := by
    intro u p metadata t reply h
    obtain ⟨t', c, hins⟩ := effect_of_ok t rfl h
    obtain ⟨hfree, hmem⟩ := insertNew_ok hins
    exact ⟨_, fun hold => hfree _ hold rfl, rfl, rfl, rfl, hmem⟩
  frame := by
    intro c t u r hu hr
    cases h : (c.alone t db).1 with
    | error e => rw [(c.alone_spec t db).1 e h]
    | ok reply =>
      have hspec := (c.alone_spec t db).2 reply h
      split at hspec
      · exact hspec.frame hu hr
      · rw [hspec]

/-! ## Owners along a run -/

/-- The account `u` owns the pubkey `p`. -/
def Owns (db : MappingDb) (u p : String) : Prop := ∃ r ∈ db, r.pubkey = p ∧ r.ynh_username = u

/-- The step is a call of `unlink` or `link` for the account `u`. -/
def Releases (u : String) (s : StoreStep) : Prop :=
  s = .call (.unlink u) ∨ ∃ p metadata, s = .call (.link u p metadata)

/-- One step keeps the owner of a pubkey, or it is a release that deletes the row. -/
theorem owns_step {db : MappingDb} {u p : String} (h : Owns db u p) (s : StoreStep)
    (t : Nat → Int) :
    Owns (perform s t db).2 u p ∨
      Releases u s ∧ ∀ r ∈ (perform s t db).2, r.pubkey ≠ p := by
  obtain ⟨a, ha, rfl, rfl⟩ := h
  cases s with
  | reopen =>
    left
    refine ⟨a, ?_, rfl, rfl⟩
    simp only [perform, run_init]
    split
    · exact ha
    · exact mem_copyUsers_of_mem _ ha
  | call c =>
    simp only [perform]
    cases hres : (c.alone t db).1 with
    | error e =>
      rw [(c.alone_spec t db).1 e hres]
      exact Or.inl ⟨a, ha, rfl, rfl⟩
    | ok reply =>
      have hspec := (c.alone_spec t db).2 reply hres
      split at hspec
      · by_cases hkeep : ∃ r ∈ (c.alone t db).2, r.pubkey = a.pubkey
        · left
          obtain ⟨r, hr, hp⟩ := hkeep
          refine ⟨r, hr, hp, ?_⟩
          rcases hspec.origin hr with ⟨b, hb, hsame⟩ | ⟨v, q, metadata, t', hc, rfl⟩
          · obtain rfl := Serial.eq_of_key hb ha (hsame.pubkey.symm.trans hp)
            exact hsame.ynh_username
          · -- the pubkey was inserted again: only its own account may do that
            obtain rfl : q = a.pubkey := hp
            rcases hc with rfl | rfl
            · exact (hspec.owner a ha rfl).symm
            · exact absurd rfl (hspec.fresh a ha)
        · right
          refine ⟨?_, fun r hr hp => hkeep ⟨r, hr, hp⟩⟩
          rcases hspec.fate ha with ⟨r, hr, hsame⟩ | rfl | ⟨q, metadata, rfl⟩
          · exact absurd ⟨r, hr, hsame.pubkey⟩ hkeep
          · exact Or.inl rfl
          · exact Or.inr ⟨q, metadata, rfl⟩
      · rw [hspec]
        exact Or.inl ⟨a, ha, rfl, rfl⟩

/-- Along a run the owner stays until a release of that account deletes the row. -/
theorem owns_run (start : MappingDb) (steps : List (StoreStep × (Nat → Int))) {u p : String}
    {i j : Nat} (hij : i ≤ j) (hj : j ≤ steps.length)
    (hi : Owns (after (steps.take i) start) u p) :
    Owns (after (steps.take j) start) u p ∨ ∃ k s, i ≤ k ∧ k < j ∧ steps[k]? = some s ∧
      Releases u s.1 ∧ Owns (after (steps.take k) start) u p ∧
        ∀ r ∈ after (steps.take (k + 1)) start, r.pubkey ≠ p := by
  induction j, hij using Nat.le_induction with
  | base => exact Or.inl hi
  | succ j hij ih =>
    rcases ih (by omega) with hown | ⟨k, s, hik, hkj, hrest⟩
    · have hs : steps[j]? = some steps[j] := List.getElem?_eq_getElem (by omega)
      rw [after_take_succ steps start hs]
      rcases owns_step hown steps[j].1 steps[j].2 with hkeep | ⟨hrel, hgone⟩
      · exact Or.inl hkeep
      · exact Or.inr ⟨j, steps[j], hij, by omega, hs, hrel, hown,
          by rw [after_take_succ steps start hs]; exact hgone⟩
    · exact Or.inr ⟨k, s, hik, by omega, hrest⟩

/-- **Nobody takes a pubkey that is somebody else's.** After any calls and reopens the
pubkeys are distinct and each call treats them as its contract says. Between two moments
at which a pubkey has different owners, its first owner released it. -/
theorem pubkey_ownership (start : MappingDb) (steps : List (StoreStep × (Nat → Int))) :
    Ownership (after steps start) ∧
      ∀ u v p i j, u ≠ v → i ≤ j → j ≤ steps.length → Owns (after (steps.take i) start) u p →
        Owns (after (steps.take j) start) v p →
        ∃ k s, i ≤ k ∧ k < j ∧ steps[k]? = some s ∧ Releases u s.1 ∧
          Owns (after (steps.take k) start) u p ∧
            ∀ r ∈ after (steps.take (k + 1)) start, r.pubkey ≠ p := by
  refine ⟨ownership _, fun u v p i j huv hij hj hi hv => ?_⟩
  rcases owns_run start steps hij hj hi with ⟨r, hr, hp, hu⟩ | hrel
  · obtain ⟨r', hr', hp', hv⟩ := hv
    obtain rfl := Serial.eq_of_key hr hr' (hp.trans hp'.symm)
    exact absurd (hu.symm.trans hv) huv
  · exact hrel

end NostrAuth.MappingOwnership
