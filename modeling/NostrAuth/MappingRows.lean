import NostrAuth.MappingEffects

/-! What a call makes of a single row, and where every row after it comes from. -/

set_option autoImplicit false

namespace NostrAuth

open Transaction MappingDb MappingStore

/-- An `UPDATE` that selects no row changes nothing. -/
theorem MappingDb.updateRows_none {p : IdentityRow → Bool} {f : IdentityRow → IdentityRow}
    {hid : ∀ r, (f r).identity_id = r.identity_id} {hkey : ∀ r, (f r).pubkey = r.pubkey}
    {db : MappingDb} (h : ∀ r ∈ db, p r = false) : updateRows p f hid hkey db = (db, ⟨0, 0⟩) := by
  have hrows : db.identities.rows.map (fun a => if p a then f a else a) = db.identities.rows := by
    have hself : ∀ a ∈ db.identities.rows, (if p a then f a else a) = a := fun a ha => by
      have hp : p a = false := h a ha
      simp [hp]
    rw [List.map_congr_left hself, List.map_id'']
    exact fun _ => rfl
  have hsame : db.identities.update p f hid hkey = db.identities := Serial.ext hrows rfl
  have hcount : db.identities.count p = 0 :=
    List.countP_eq_zero.mpr fun a ha => by
      have hp : p a = false := h a ha
      simp [hp]
  simp only [updateRows, hsame, hcount]

namespace MappingCall

/-- The call turns the row `a` into `r`: it leaves it alone, or it is an `UPDATE` that
selects the row, which has to be active for that. -/
inductive Becomes (c : MappingCall) (a : IdentityRow) : IdentityRow → Prop
  | kept : Becomes c a a
  | revoked (t : Int) : c = revoke_identity a.identity_id a.ynh_username → a.enabled = 1 →
      Becomes c a (MappingDb.revoked t a)
  | labelled (label : Option String) :
      c = update_identity_label a.identity_id a.ynh_username label → a.enabled = 1 →
      Becomes c a (MappingDb.labelled label a)
  | touched (t : Int) : c = touch_identity a.identity_id ∨ c = touch_last_used a.ynh_username →
      a.enabled = 1 → Becomes c a (MappingDb.touched t a)

/-- The call deletes all rows of the account. -/
def Clears (u : String) (c : MappingCall) : Prop := c = unlink u ∨ ∃ p metadata, c = link u p metadata

/-- The call may insert a row of this pubkey. -/
def Inserts (p : String) (c : MappingCall) : Prop :=
  ∃ u metadata, c = link u p metadata ∨ c = add_identity u p metadata

theorem Becomes.same {c : MappingCall} {a r : IdentityRow} (h : Becomes c a r) :
    SameIdentity r a := by
  cases h with
  | kept => exact SameIdentity.refl a
  | revoked t => exact revoked_same t a
  | labelled label => exact labelled_same label a
  | touched t => exact touched_same t a

/-- A row that is not active is left as it is. -/
theorem Becomes.of_inactive {c : MappingCall} {a r : IdentityRow} (h : Becomes c a r)
    (ha : a.enabled ≠ 1) : r = a := by
  cases h with
  | kept => rfl
  | revoked t _ hon => exact absurd hon ha
  | labelled label _ hon => exact absurd hon ha
  | touched t _ hon => exact absurd hon ha

/-- Nothing but an insertion makes a row active. -/
theorem Becomes.enabled {c : MappingCall} {a r : IdentityRow} (h : Becomes c a r) :
    r.enabled = a.enabled ∨ r.enabled = 0 := by
  cases h with
  | kept => exact Or.inl rfl
  | revoked t => exact Or.inr rfl
  | labelled label => exact Or.inl rfl
  | touched t => exact Or.inl rfl

/-- The row that an `UPDATE` makes of `a`, told from the rows it selects. -/
theorem becomes_update {c : MappingCall} {p : IdentityRow → Bool} {f : IdentityRow → IdentityRow}
    (hp : ∀ a, p a = true → Becomes c a (f a)) (a : IdentityRow) :
    Becomes c a (if p a then f a else a) := by
  split
  · next h => exact hp a h
  · exact .kept

theorem becomes_revoke (t id : Int) (u : String) (a : IdentityRow)
    (hp : activeOf id u a = true) : Becomes (revoke_identity id u) a (MappingDb.revoked t a) := by
  simp only [activeOf, Bool.and_eq_true, beq_iff_eq] at hp
  obtain ⟨⟨rfl, rfl⟩, hon⟩ := hp
  exact .revoked t rfl hon

theorem becomes_label (label : Option String) (id : Int) (u : String) (a : IdentityRow)
    (hp : activeOf id u a = true) :
    Becomes (update_identity_label id u label) a (MappingDb.labelled label a) := by
  simp only [activeOf, Bool.and_eq_true, beq_iff_eq] at hp
  obtain ⟨⟨rfl, rfl⟩, hon⟩ := hp
  exact .labelled label rfl hon

theorem becomes_touch_user (t : Int) (u : String) (a : IdentityRow)
    (hp : (owned u a && a.enabled == 1) = true) :
    Becomes (touch_last_used u) a (MappingDb.touched t a) := by
  simp only [owned, Bool.and_eq_true, beq_iff_eq] at hp
  obtain ⟨rfl, hon⟩ := hp
  exact .touched t (Or.inr rfl) hon

theorem becomes_touch_row (t id : Int) (a : IdentityRow)
    (hp : (a.identity_id == id && a.enabled == 1) = true) :
    Becomes (touch_identity id) a (MappingDb.touched t a) := by
  simp only [Bool.and_eq_true, beq_iff_eq] at hp
  obtain ⟨rfl, hon⟩ := hp
  exact .touched t (Or.inl rfl) hon

/-- What a call did to the rows, one case for each kind of statement. -/
inductive Shape (c : MappingCall) (before after : MappingDb) : Prop
  | replace (u p : String) (metadata : Metadata) (t : Int) (cursor : Cursor) :
      c = link u p metadata →
      insertNew u p t metadata (deleteUser u before).1 = .ok (after, cursor) → Shape c before after
  | insert (u p : String) (metadata : Metadata) (t : Int) (cursor : Cursor) :
      c = add_identity u p metadata →
      insertNew u p t metadata before = .ok (after, cursor) → Shape c before after
  | delete (u : String) : c = unlink u → after = (deleteUser u before).1 → Shape c before after
  /-- An `UPDATE` turns each row into one row, in place. -/
  | update (g : IdentityRow → IdentityRow) : (∀ a, Becomes c a (g a)) →
      after.identities.rows = before.identities.rows.map g →
      after.identities.seq = before.identities.seq → Shape c before after

theorem Effect.shape {c : MappingCall} {before after : MappingDb} (h : Effect c before after) :
    Shape c before after := by
  cases c with
  | link u p metadata =>
    obtain ⟨t, cursor, h⟩ := h
    exact .replace u p metadata t cursor rfl h
  | add_identity u p metadata =>
    obtain ⟨t, cursor, h⟩ := h
    exact .insert u p metadata t cursor rfl h
  | unlink u => exact .delete u rfl h
  | revoke_identity id u =>
    obtain ⟨t, _, rfl⟩ := h
    exact .update _ (becomes_update (becomes_revoke t id u)) rfl rfl
  | update_identity_label id u label =>
    obtain ⟨_, rfl⟩ := h
    exact .update _ (becomes_update (becomes_label label id u)) rfl rfl
  | touch_last_used u =>
    obtain ⟨t, rfl⟩ := h
    exact .update _ (becomes_update (becomes_touch_user t u)) rfl rfl
  | touch_identity id =>
    obtain ⟨t, _, rfl⟩ := h
    exact .update _ (becomes_update (becomes_touch_row t id)) rfl rfl
  | link_unencodable replace u p text => cases h
  | get_by_pubkey p => cases h
  | get_by_username u => cases h
  | list_by_username u all => cases h
  | list_all => cases h

variable {c : MappingCall} {before after : MappingDb}

/-- **Where the rows after a call come from.** -/
theorem Effect.source (h : Effect c before after) {r : IdentityRow} (hr : r ∈ after) :
    (∃ a ∈ before, Becomes c a r) ∨ ∃ u p metadata t,
      (c = link u p metadata ∨ c = add_identity u p metadata) ∧
        r = newRow u p t metadata (before.identities.seq + 1) := by
  cases h.shape with
  | replace u p metadata t cursor hc hins =>
    rcases ((insertNew_ok hins).2 r).mp hr with hold | rfl
    · exact Or.inl ⟨r, (mem_deleteUser.mp hold).1, .kept⟩
    · exact Or.inr ⟨u, p, metadata, t, Or.inl hc, rfl⟩
  | insert u p metadata t cursor hc hins =>
    rcases ((insertNew_ok hins).2 r).mp hr with hold | rfl
    · exact Or.inl ⟨r, hold, .kept⟩
    · exact Or.inr ⟨u, p, metadata, t, Or.inr hc, rfl⟩
  | delete u hc hafter =>
    subst hafter
    exact Or.inl ⟨r, (mem_deleteUser.mp hr).1, .kept⟩
  | update g hg hrows _ =>
    have hmem : r ∈ before.identities.rows.map g := hrows ▸ hr
    obtain ⟨a, ha, rfl⟩ := List.mem_map.mp hmem
    exact Or.inl ⟨a, ha, hg a⟩

/-- **What becomes of a row**: it is left alone or updated, or the call clears its account
and no later row has its id. -/
theorem Effect.outcome (h : Effect c before after) {a : IdentityRow} (ha : a ∈ before) :
    (∃ r ∈ after, Becomes c a r) ∨
      (Clears a.ynh_username c ∧ ∀ r ∈ after, r.identity_id ≠ a.identity_id) := by
  have hgone : ∀ r ∈ (deleteUser a.ynh_username before).1, r.identity_id ≠ a.identity_id := by
    intro r hr hid
    obtain ⟨hr, hne⟩ := mem_deleteUser.mp hr
    exact hne (congrArg _ (Serial.eq_of_id hr ha hid))
  cases h.shape with
  | replace u p metadata t cursor hc hins =>
    by_cases hu : u = a.ynh_username
    · subst hu
      refine Or.inr ⟨Or.inr ⟨p, metadata, hc⟩, fun r hr => ?_⟩
      rcases ((insertNew_ok hins).2 r).mp hr with hold | rfl
      · exact hgone r hold
      · have hle := before.identities.bounded a ha
        simp only [newRow, deleteUser, Serial.seq_delete]
        omega
    · exact Or.inl ⟨a, ((insertNew_ok hins).2 a).mpr (Or.inl (mem_deleteUser.mpr ⟨ha, Ne.symm hu⟩)),
        .kept⟩
  | insert u p metadata t cursor hc hins =>
    exact Or.inl ⟨a, ((insertNew_ok hins).2 a).mpr (Or.inl ha), .kept⟩
  | delete u hc hafter =>
    subst hafter
    by_cases hu : u = a.ynh_username
    · subst hu
      exact Or.inr ⟨Or.inl hc, hgone⟩
    · exact Or.inl ⟨a, mem_deleteUser.mpr ⟨ha, Ne.symm hu⟩, .kept⟩
  | update g hg hrows _ =>
    have hmem : g a ∈ after.identities.rows := hrows ▸ List.mem_map_of_mem ha
    exact Or.inl ⟨g a, hmem, hg a⟩

/-- The id counter never goes back. -/
theorem Effect.seq (h : Effect c before after) :
    before.identities.seq ≤ after.identities.seq := by
  cases h.shape with
  | replace u p metadata t cursor hc hins =>
    have hseq := (insertRow_ok hins).2.2.1
    simp only [deleteUser, Serial.seq_delete] at hseq
    omega
  | insert u p metadata t cursor hc hins =>
    have hseq := (insertRow_ok hins).2.2.1
    omega
  | delete u hc hafter =>
    subst hafter
    exact Int.le_refl _
  | update g hg _ hseq => exact Int.le_of_eq hseq.symm

/-- The row was given its id, and whatever row has this id is a version of it. -/
def Known (a : IdentityRow) (db : MappingDb) : Prop :=
  a.identity_id ≤ db.identities.seq ∧ ∀ r ∈ db, r.identity_id = a.identity_id → SameIdentity r a

/-- The id was given to a row that is not there any more. -/
def Spent (id : Int) (db : MappingDb) : Prop :=
  id ≤ db.identities.seq ∧ ∀ r ∈ db, r.identity_id ≠ id

theorem known_of_mem {a : IdentityRow} {db : MappingDb} (ha : a ∈ db) : Known a db := by
  refine ⟨db.identities.bounded a ha, fun r hr hid => ?_⟩
  obtain rfl := Serial.eq_of_id hr ha hid
  exact SameIdentity.refl r

/-- Every row of `after` is a version of a row of `before`, or its id is new. -/
structure Renews (before after : MappingDb) : Prop where
  seq : before.identities.seq ≤ after.identities.seq
  rows : ∀ r ∈ after, (∃ b ∈ before, SameIdentity r b) ∨ before.identities.seq < r.identity_id

theorem Known.renews {a : IdentityRow} (ha : Known a before) (h : Renews before after) :
    Known a after := by
  refine ⟨Int.le_trans ha.1 h.seq, fun r hr hid => ?_⟩
  rcases h.rows r hr with ⟨b, hb, hsame⟩ | hnew
  · exact hsame.trans (ha.2 b hb (hsame.identity_id ▸ hid))
  · have hle := ha.1
    omega

theorem Spent.renews {id : Int} (hid : Spent id before) (h : Renews before after) :
    Spent id after := by
  refine ⟨Int.le_trans hid.1 h.seq, fun r hr => ?_⟩
  rcases h.rows r hr with ⟨b, hb, hsame⟩ | hnew
  · rw [hsame.identity_id]
    exact hid.2 b hb
  · have hle := hid.1
    omega

theorem Effect.renews (h : Effect c before after) : Renews before after := by
  refine ⟨h.seq, fun r hr => ?_⟩
  rcases h.source hr with ⟨b, hb, hbecomes⟩ | ⟨u, p, metadata, t, _, rfl⟩
  · exact Or.inl ⟨b, hb, hbecomes.same⟩
  · exact Or.inr (Int.lt_succ before.identities.seq)

/-- Run alone, a call does what its specification says, or it changes nothing. -/
theorem alone_effect (c : MappingCall) (t : Nat → Int) (db : MappingDb) :
    (∃ r, (c.alone t db).1 = .ok r ∧ Effect c db (c.alone t db).2) ∨ (c.alone t db).2 = db := by
  cases h : (c.alone t db).1 with
  | error e => exact Or.inr ((c.alone_spec t db).1 e h)
  | ok r =>
    have hspec := (c.alone_spec t db).2 r h
    split at hspec
    · exact Or.inl ⟨r, rfl, hspec⟩
    · exact Or.inr hspec

end MappingCall

end NostrAuth
