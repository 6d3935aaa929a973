import NostrAuth.MappingOwnership
import NostrAuth.MappingRows

/-! A revoked identity. Its row is frozen until its account is cleared, and as long as it is
there its pubkey neither logs in nor can be taken again. -/

set_option autoImplicit false

namespace NostrAuth.Revocation

open Transaction MappingDb MappingStore MappingOwnership
open MappingCall (Clears Inserts Spent alone_effect)

/-! ## What an inactive row bars -/

/-- What the store answers about the row `a` and its pubkey, without changing anything. -/
structure Barred (db : MappingDb) (a : IdentityRow) : Prop where
  unknown : ∀ t, (get_by_pubkey a.pubkey).run t db none = (.ok none, db)
  revoke_fails : ∀ u t, (MappingCall.revoke_identity a.identity_id u).alone t db = (.ok (.revoked false), db)
  rename_fails : ∀ u label t,
    (MappingCall.update_identity_label a.identity_id u label).alone t db = (.ok (.identity none), db)
  add_raises : ∀ u metadata t, ∃ msg,
    (MappingCall.add_identity u a.pubkey metadata).alone t db = (.error (.pubkeyAlreadyLinked msg), db)
  link_raises : ∀ u metadata t, u ≠ a.ynh_username → ∃ msg,
    (MappingCall.link u a.pubkey metadata).alone t db = (.error (.pubkeyAlreadyLinked msg), db)

/-- Where no row with this id is active, nothing is selected by it. -/
theorem activeOf_none {db : MappingDb} {id : Int} (h : ∀ r ∈ db, r.identity_id = id → r.enabled ≠ 1)
    (u : String) : ∀ r ∈ db, activeOf id u r = false := by
  intro r hr
  by_contra hp
  simp only [activeOf, Bool.not_eq_false, Bool.and_eq_true, beq_iff_eq] at hp
  exact h r hr hp.1.1 hp.2

theorem revoke_none {db : MappingDb} {id : Int} (hfits : fitsInt64 id = true)
    (h : ∀ r ∈ db, r.identity_id = id → r.enabled ≠ 1) (u : String) (t : Nat → Int) :
    (MappingCall.revoke_identity id u).alone t db = (.ok (.revoked false), db) := by
  have hnone : revokeRow (t 0) id u db = (db, ⟨0, 0⟩) := updateRows_none (activeOf_none h u)
  simp only [MappingCall.alone_eq, MappingCall.method, run_revoke_identity, bindInt_eq_ok.mpr ⟨hfits, rfl⟩, hnone]
  rfl

theorem rename_none {db : MappingDb} {id : Int} (hfits : fitsInt64 id = true)
    (h : ∀ r ∈ db, r.identity_id = id → r.enabled ≠ 1) (u : String) (label : Option String)
    (t : Nat → Int) : (MappingCall.update_identity_label id u label).alone t db = (.ok (.identity none), db) := by
  have hnone : labelRow label id u db = (db, ⟨0, 0⟩) := updateRows_none (activeOf_none h u)
  simp only [MappingCall.alone_eq, MappingCall.method, run_update_identity_label, bindInt_eq_ok.mpr ⟨hfits, rfl⟩, hnone]
  rfl

/-- A call that raises leaves the file alone. -/
theorem raise_keeps {c : MappingCall} {t : Nat → Int} {db : MappingDb} {e : Exn}
    (h : (c.alone t db).1 = .error e) : c.alone t db = (.error e, db) :=
  Prod.ext h ((c.alone_spec t db).1 e h)

/-- An inactive row bars its pubkey. -/
theorem barred_of_mem {db : MappingDb} {a : IdentityRow} (ha : a ∈ db) (hoff : a.enabled ≠ 1)
    (hfits : fitsInt64 a.identity_id = true) : Barred db a := by
  have hid : ∀ r ∈ db, r.identity_id = a.identity_id → r.enabled ≠ 1 := by
    intro r hr hid
    rw [Serial.eq_of_id hr ha hid]
    exact hoff
  have hpubkey : ∀ r ∈ db, r.pubkey = a.pubkey → r.enabled ≠ 1 := by
    intro r hr hp
    rw [Serial.eq_of_key hr ha hp]
    exact hoff
  refine ⟨fun t => ?_, revoke_none hfits hid, rename_none hfits hid, fun u metadata t => ?_,
    fun u metadata t hu => ?_⟩
  · rw [run_get_by_pubkey, find_pubkey_eq_none.mpr hpubkey]
    rfl
  · obtain ⟨msg, hraise⟩ := add_taken (u := u) t metadata ⟨a, ha, rfl⟩
    exact ⟨msg, raise_keeps hraise⟩
  · obtain ⟨msg, hraise⟩ := link_taken t metadata ⟨a, ha, rfl, Ne.symm hu⟩
    exact ⟨msg, raise_keeps hraise⟩

/-! ## One step -/

/-- The step is a call that returned and clears the account `u`. -/
def Cleared (u : String) (s : StoreStep) (t : Nat → Int) (db : MappingDb) : Prop :=
  ∃ c reply, s = .call c ∧ Clears u c ∧ (c.alone t db).1 = .ok reply

/-- The step is a call that returned and inserted a row of this pubkey. -/
def Linked (p : String) (s : StoreStep) (t : Nat → Int) (db : MappingDb) : Prop :=
  ∃ c reply, s = .call c ∧ Inserts p c ∧ (c.alone t db).1 = .ok reply

/-- An inactive row stays as it is, or its account is cleared. -/
theorem frozen_step {db : MappingDb} (hv : LEGACY_MIGRATION_VERSION ≤ db.user_version)
    {a : IdentityRow} (ha : a ∈ db) (hoff : a.enabled ≠ 1) (s : StoreStep) (t : Nat → Int) :
    a ∈ (perform s t db).2 ∨
      (Cleared a.ynh_username s t db ∧ Spent a.identity_id (perform s t db).2) := by
  cases s with
  | reopen =>
    rw [reopen_migrated hv]
    exact Or.inl ha
  | call c =>
    show a ∈ (c.alone t db).2 ∨ (_ ∧ Spent a.identity_id (c.alone t db).2)
    rcases alone_effect c t db with ⟨reply, hreply, heffect⟩ | hsame
    · rcases heffect.outcome ha with ⟨r, hr, hbecomes⟩ | ⟨hclears, hgone⟩
      · rw [hbecomes.of_inactive hoff] at hr
        exact Or.inl hr
      · have hused := Int.le_trans (db.identities.bounded a ha) heffect.seq
        exact Or.inr ⟨⟨c, reply, rfl, hclears, hreply⟩, hused, hgone⟩
    · rw [hsame]
      exact Or.inl ha

/-- A spent id does not come back. -/
theorem spent_step {db : MappingDb} (hv : LEGACY_MIGRATION_VERSION ≤ db.user_version) {id : Int}
    (hspent : Spent id db) (s : StoreStep) (t : Nat → Int) : Spent id (perform s t db).2 := by
  cases s with
  | reopen =>
    rw [reopen_migrated hv]
    exact hspent
  | call c =>
    show Spent id (c.alone t db).2
    rcases alone_effect c t db with ⟨reply, _, heffect⟩ | hsame
    · exact hspent.renews heffect.renews
    · rw [hsame]
      exact hspent

/-- A pubkey without an active row gets one only by being linked. -/
theorem silent_step {db : MappingDb} (hv : LEGACY_MIGRATION_VERSION ≤ db.user_version) {p : String}
    (hsilent : ∀ r ∈ db, r.pubkey = p → r.enabled ≠ 1) (s : StoreStep) (t : Nat → Int) :
    (∀ r ∈ (perform s t db).2, r.pubkey = p → r.enabled ≠ 1) ∨ Linked p s t db := by
  cases s with
  | reopen =>
    rw [reopen_migrated hv]
    exact Or.inl hsilent
  | call c =>
    show (∀ r ∈ (c.alone t db).2, r.pubkey = p → r.enabled ≠ 1) ∨ _
    rcases alone_effect c t db with ⟨reply, hreply, heffect⟩ | hsame
    · by_cases hins : Inserts p c
      · exact Or.inr ⟨c, reply, rfl, hins, hreply⟩
      · apply Or.inl
        intro r hr hp
        rcases heffect.source hr with ⟨b, hb, hbecomes⟩ | ⟨u, q, metadata, t', hc, rfl⟩
        · have hb' := hsilent b hb (hbecomes.same.pubkey.symm.trans hp)
          rcases hbecomes.enabled with heq | heq <;> omega
        · obtain rfl : q = p := hp
          exact absurd ⟨u, metadata, hc⟩ hins
    · rw [hsame]
      exact Or.inl hsilent

/-! ## Runs -/

variable {db : MappingDb} {steps : List (StoreStep × (Nat → Int))}

/-- Along a run the row is there unchanged, until its account is cleared for good. -/
theorem frozen_run (hv : LEGACY_MIGRATION_VERSION ≤ db.user_version) {a : IdentityRow} (ha : a ∈ db)
    (hoff : a.enabled ≠ 1) {k : Nat} (hk : k ≤ steps.length) :
    a ∈ after (steps.take k) db ∨
      ((∀ r ∈ after (steps.take k) db, r.identity_id ≠ a.identity_id) ∧
        ∃ m s, m < k ∧ steps[m]? = some s ∧ a ∈ after (steps.take m) db ∧
          Cleared a.ynh_username s.1 s.2 (after (steps.take m) db)) := by
  have hstate : a ∈ after (steps.take k) db ∨ (Spent a.identity_id (after (steps.take k) db) ∧
      ∃ m s, m < k ∧ steps[m]? = some s ∧ a ∈ after (steps.take m) db ∧
        Cleared a.ynh_username s.1 s.2 (after (steps.take m) db)) := by
    induction k with
    | zero => exact Or.inl ha
    | succ k ih =>
      have hs : steps[k]? = some steps[k] := List.getElem?_eq_getElem (by omega)
      have hvk : LEGACY_MIGRATION_VERSION ≤ (after (steps.take k) db).user_version := after_version hv
      rw [after_take_succ steps db hs]
      rcases ih (by omega) with hin | ⟨hspent, m, s, hmk, hm⟩
      · rcases frozen_step hvk hin hoff steps[k].1 steps[k].2 with hkeep | ⟨hcleared, hspent⟩
        · exact Or.inl hkeep
        · exact Or.inr ⟨hspent, k, steps[k], by omega, hs, hin, hcleared⟩
      · exact Or.inr ⟨spent_step hvk hspent steps[k].1 steps[k].2, m, s, by omega, hm⟩
  exact hstate.imp id fun h => ⟨h.1.2, h.2⟩

/-- Along a run the pubkey gets an active row only by being linked. -/
theorem silent_run (hv : LEGACY_MIGRATION_VERSION ≤ db.user_version) {p : String}
    (hsilent : ∀ r ∈ db, r.pubkey = p → r.enabled ≠ 1) {k : Nat} (hk : k ≤ steps.length) :
    (∀ r ∈ after (steps.take k) db, r.pubkey = p → r.enabled ≠ 1) ∨
      ∃ m s, m < k ∧ steps[m]? = some s ∧ Linked p s.1 s.2 (after (steps.take m) db) := by
  induction k with
  | zero => exact Or.inl hsilent
  | succ k ih =>
    have hs : steps[k]? = some steps[k] := List.getElem?_eq_getElem (by omega)
    have hvk : LEGACY_MIGRATION_VERSION ≤ (after (steps.take k) db).user_version := after_version hv
    rw [after_take_succ steps db hs]
    rcases ih (by omega) with hquiet | ⟨m, s, hmk, hm⟩
    · rcases silent_step hvk hquiet steps[k].1 steps[k].2 with hkeep | hlinked
      · exact Or.inl hkeep
      · exact Or.inr ⟨k, steps[k], by omega, hs, hlinked⟩
    · exact Or.inr ⟨m, s, by omega, hm⟩

/-- What a successful revocation did: it selected one active row of the account. -/
theorem revoked_row {id : Int} {u : String} {t : Nat → Int}
    (h : ((MappingCall.revoke_identity id u).alone t db).1 = .ok (.revoked true)) :
    fitsInt64 id = true ∧ ∃ a ∈ db, a.identity_id = id ∧ a.ynh_username = u ∧ a.enabled = 1 ∧
      revoked (t 0) a ∈ ((MappingCall.revoke_identity id u).alone t db).2 := by
  simp only [MappingCall.alone_eq, MappingCall.method, run_revoke_identity] at h ⊢
  cases hb : bindInt id with
  | error e =>
    rw [hb] at h
    cases h
  | ok n =>
    obtain ⟨hfits, rfl⟩ := bindInt_eq_ok.mp hb
    simp only [hb, Except.map, MappingCall.wrap, Except.ok.injEq, MappingReply.revoked.injEq, beq_iff_eq, revokeRow,
      updateRows] at h
    have hpos : 0 < db.identities.count (activeOf n u) := by omega
    obtain ⟨a, ha, hp⟩ := Table.count_pos.mp hpos
    have hactive := hp
    simp only [activeOf, Bool.and_eq_true, beq_iff_eq] at hactive
    refine ⟨hfits, a, ha, hactive.1.1, hactive.1.2, hactive.2, ?_⟩
    simp only [revokeRow]
    exact mem_updateRows.mpr ⟨a, ha, by simp [hp]⟩

/-- What holds of the revoked row `a` in every state of a run that begins right after the
revocation. -/
structure Frozen (db : MappingDb) (a : IdentityRow) (steps : List (StoreStep × (Nat → Int))) :
    Prop where
  /-- The row is what the revocation left, and bars its pubkey, or its account was cleared. -/
  row : ∀ k, k ≤ steps.length →
    (a ∈ after (steps.take k) db ∧ Barred (after (steps.take k) db) a) ∨
      ((∀ r ∈ after (steps.take k) db, r.identity_id ≠ a.identity_id) ∧
        ∃ m s, m < k ∧ steps[m]? = some s ∧ a ∈ after (steps.take m) db ∧
          Cleared a.ynh_username s.1 s.2 (after (steps.take m) db))
  /-- The pubkey logs in again only after it was linked again. -/
  login : ∀ k, k ≤ steps.length → ∀ t,
    ((get_by_pubkey a.pubkey).run t (after (steps.take k) db) none).1 ≠ .ok none →
      ∃ m s, m < k ∧ steps[m]? = some s ∧ Linked a.pubkey s.1 s.2 (after (steps.take m) db)

/-- **A revoked row is frozen**: in every run of an opened store after `revoke_identity`
returned `True`. -/
theorem revoked_frozen (start : MappingDb) (t₀ t : Nat → Int)
    (earlier later : List (StoreStep × (Nat → Int))) (id : Int) (u : String)
    (h : ((MappingCall.revoke_identity id u).alone t
      (after earlier (perform .reopen t₀ start).2)).1 = .ok (.revoked true)) :
    ∃ a ∈ after earlier (perform .reopen t₀ start).2, a.identity_id = id ∧ a.ynh_username = u ∧
      a.enabled = 1 ∧ Frozen ((MappingCall.revoke_identity id u).alone t
        (after earlier (perform .reopen t₀ start).2)).2 (revoked (t 0) a) later := by
  have hv : LEGACY_MIGRATION_VERSION ≤ ((MappingCall.revoke_identity id u).alone t
      (after earlier (perform .reopen t₀ start).2)).2.user_version :=
    perform_version (after_version (reopen_version t₀ start)) (.call (.revoke_identity id u)) t
  obtain ⟨hfits, a, ha, hid, hu, hon, hmem⟩ := revoked_row h
  have hoff : (revoked (t 0) a).enabled ≠ 1 := Int.zero_ne_one
  refine ⟨a, ha, hid, hu, hon, fun k hk => ?_, fun k hk t' hlogin => ?_⟩
  · rcases frozen_run hv hmem hoff hk with hin | hgone
    · exact Or.inl ⟨hin, barred_of_mem hin hoff (by rw [← hid] at hfits; exact hfits)⟩
    · exact Or.inr hgone
  · have hsilent : ∀ r ∈ ((MappingCall.revoke_identity id u).alone t
        (after earlier (perform .reopen t₀ start).2)).2,
        r.pubkey = (revoked (t 0) a).pubkey → r.enabled ≠ 1 := by
      intro r hr hp
      rw [Serial.eq_of_key hr hmem hp]
      exact hoff
    rcases silent_run hv hsilent hk with hquiet | hlinked
    · rw [run_get_by_pubkey, find_pubkey_eq_none.mpr hquiet] at hlogin
      exact absurd rfl hlogin
    · exact hlinked

/-- Another account tries to take the pubkey, the identity is renamed and touched, and then
the account links it again. -/
def aftermath : List (StoreStep × (Nat → Int)) :=
  [(.call (.add_identity "bob" "pk1" {}), fun _ => 30),
    (.call (.update_identity_label 1 "alice" (some "phone")), fun _ => 31),
    (.call (.touch_identity 1), fun _ => 32), (.reopen, fun _ => 33),
    (.call (.link "alice" "pk1" {}), fun _ => 34)]

theorem aftermath_frozen : ∃ a : IdentityRow, a.identity_id = 1 ∧ Frozen
    ((MappingCall.revoke_identity 1 "alice").alone (fun _ => 20)
      (after [(.call (.link "alice" "pk1" {}), fun _ => 10)]
        (perform .reopen (fun _ => 0) MappingDb.empty).2)).2 (revoked 20 a) aftermath := by
  obtain ⟨a, _, hid, _, _, hfrozen⟩ := revoked_frozen MappingDb.empty (fun _ => 0) (fun _ => 20)
    [(.call (.link "alice" "pk1" {}), fun _ => 10)] aftermath 1 "alice" (by decide)
  exact ⟨a, hid, hfrozen⟩

end NostrAuth.Revocation
