import NostrAuth.Mappings

/-! The calls of a `MappingStore` and the sequential specification of each: which rows a
call may turn into which. A call run alone does what its specification says or nothing. -/

set_option autoImplicit false

namespace NostrAuth

open Transaction MappingDb MappingStore

inductive MappingCall
  | link (ynh_username pubkey_hex : String) (metadata : Metadata)
  | add_identity (ynh_username pubkey_hex : String) (metadata : Metadata)
  | link_unencodable (replace : Bool) (ynh_username : PyStr) (pubkey_hex : String) (text : LoneText)
  | unlink (ynh_username : String)
  | revoke_identity (identity_id : Int) (ynh_username : String)
  | update_identity_label (identity_id : Int) (ynh_username : String) (label : Option String)
  | get_by_pubkey (pubkey_hex : String)
  | get_by_username (ynh_username : String)
  | list_by_username (ynh_username : String) (include_disabled : Bool)
  | touch_last_used (ynh_username : String)
  | touch_identity (identity_id : Int)
  | list_all
  deriving DecidableEq, Repr

inductive MappingReply
  | done
  | identity (found : Option Identity)
  | revoked (changed : Bool)
  | identities (found : List Identity)
  deriving DecidableEq, Repr

namespace MappingCall

open Script

/-- What the method returns. -/
@[reducible] def Reply : MappingCall → Type
  | link .. | unlink _ | touch_last_used _ | touch_identity _ => Unit
  | link_unencodable .. => Empty
  | add_identity .. => Identity
  | revoke_identity .. => Bool
  | update_identity_label .. | get_by_pubkey _ | get_by_username _ => Option Identity
  | list_by_username .. | list_all => List Identity

/-- The method behind the call. -/
def method : (c : MappingCall) → Sql c.Reply
  | link u p metadata => MappingStore.link u p metadata
  | add_identity u p metadata => MappingStore.add_identity u p metadata
  | link_unencodable replace u p text => MappingStore.linkUnencodable replace u p text
  | unlink u => MappingStore.unlink u
  | revoke_identity id u => MappingStore.revoke_identity id u
  | update_identity_label id u label => MappingStore.update_identity_label id u label
  | get_by_pubkey p => MappingStore.get_by_pubkey p
  | get_by_username u => MappingStore.get_by_username u
  | list_by_username u all => MappingStore.list_by_username u all
  | touch_last_used u => MappingStore.touch_last_used u
  | touch_identity id => MappingStore.touch_identity id
  | list_all => MappingStore.list_all

def wrap : (c : MappingCall) → c.Reply → MappingReply
  | link .., _ | unlink _, _ | touch_last_used _, _ | touch_identity _, _ => .done
  | add_identity .., i => .identity (some i)
  | revoke_identity .., changed => .revoked changed
  | update_identity_label .., i | get_by_pubkey _, i | get_by_username _, i => .identity i
  | list_by_username .., is | list_all, is => .identities is

/-- The method, its reply brought to one type. -/
def program (c : MappingCall) : Sql MappingReply := c.method.bind fun r => ret (c.wrap r)

/-- The account the call names. -/
def account : MappingCall → Option String
  | link u _ _ | add_identity u _ _ | unlink u | revoke_identity _ u
  | update_identity_label _ u _ | get_by_username u | list_by_username u _
  | touch_last_used u => some u
  | link_unencodable .. | get_by_pubkey _ | touch_identity _ | list_all => none

/-- The calls that write when they succeed. -/
def writes : MappingCall → Bool
  | link .. | add_identity .. | unlink _ | revoke_identity .. | update_identity_label ..
  | touch_last_used _ | touch_identity _ => true
  | link_unencodable .. | get_by_pubkey _ | get_by_username _ | list_by_username ..
  | list_all => false

/-- Run without interference, reading the clock from `t`. -/
def alone (c : MappingCall) (t : Nat → Int) (db : MappingDb) : Except Exn MappingReply × MappingDb :=
  c.program.run t db none

/-- **The sequential specification**: the databases `after` that the call may make of
`before`. A call without one leaves the file alone. -/
def Effect : MappingCall → MappingDb → MappingDb → Prop
  | link u p metadata, before, after =>
    ∃ t c, insertNew u p t metadata (deleteUser u before).1 = .ok (after, c)
  | add_identity u p metadata, before, after =>
    ∃ t c, insertNew u p t metadata before = .ok (after, c)
  | unlink u, before, after => after = (deleteUser u before).1
  | revoke_identity id u, before, after =>
    ∃ t, fitsInt64 id = true ∧ after = (revokeRow t id u before).1
  | update_identity_label id u label, before, after =>
    fitsInt64 id = true ∧ after = (labelRow label id u before).1
  | touch_last_used u, before, after => ∃ t, after = (touchUser t u before).1
  | touch_identity id, before, after =>
    ∃ t, fitsInt64 id = true ∧ after = (touchRow t id before).1
  | link_unencodable .., _, _ | get_by_pubkey _, _, _ | get_by_username _, _, _
  | list_by_username .., _, _ | list_all, _, _ => False

end MappingCall

/-! ## One call at a time -/

namespace MappingStore

open Script

theorem run_link (u p : String) (metadata : Metadata) (t : Nat → Int) (db : MappingDb) :
    (link u p metadata).run t db none =
      match checkOther u (ownerOf p db) with
      | .error e => (.error e, db)
      | .ok _ => match insertNew u p (t 0) metadata (deleteUser u db).1 with
        | .error e => (.error e, db)
        | .ok (db', _) => (.ok (), db') := by
  simp only [link, Script.bind_eq, select_bind, closing, attempt, query_bind, run, Option.getD]
  cases checkOther u (ownerOf p db) with
  | error e => simp [attempt, run, Script.ofExcept]
  | ok x =>
    cases h : insertNew u p (t 0) metadata (deleteUser u db).1 <;>
      simp [attempt, run, Script.ofExcept, dml, commitNow, h]

theorem run_get_by_id (id : Int) (t : Nat → Int) (db : MappingDb) :
    (get_by_id id).run t db none =
      (.ok ((db.identities.find fun r => r.identity_id == id).map _row_to_identity), db) := by
  simp [get_by_id, closing, attempt, run, Script.ofExcept]

/-- Run alone, `add_identity` reads back the row that it has just inserted. -/
theorem run_add_identity (u p : String) (metadata : Metadata) (t : Nat → Int) (db : MappingDb) :
    (add_identity u p metadata).run t db none =
      match checkAny u (ownerOf p db) with
      | .error e => (.error e, db)
      | .ok _ => match insertNew u p (t 0) metadata db with
        | .error e => (.error e, db)
        | .ok (db', c) => (.ok (_row_to_identity (newRow u p (t 0) metadata c.lastrowid)), db') := by
  simp only [add_identity, Script.bind_eq, now_bind, select_bind, closing, attempt, query_bind, run,
    Option.getD]
  cases checkAny u (ownerOf p db) with
  | error e => simp [attempt, run, Script.ofExcept]
  | ok x =>
    cases h : insertNew u p (t 0) metadata db with
    | error e => simp [attempt, run, Script.ofExcept, dml, h]
    | ok y =>
      obtain ⟨db', c⟩ := y
      obtain ⟨_, hmem, _, rfl, _⟩ := insertRow_ok h
      have hrow : newRow u p (t 0) metadata (db.identities.seq + 1) ∈ db' := (hmem _).mpr (Or.inr rfl)
      have hfind : (db'.identities.find fun r => r.identity_id == db.identities.seq + 1) =
          some (newRow u p (t 0) metadata (db.identities.seq + 1)) := by
        cases hf : db'.identities.find fun r => r.identity_id == db.identities.seq + 1 with
        | none => simpa [newRow] using Table.find_none hf hrow
        | some b =>
          obtain ⟨hb, hid⟩ := Table.find_some hf
          exact congrArg some (Serial.eq_of_id hb hrow (by simpa [newRow] using hid))
      simp [attempt, run, Script.ofExcept, dml, commitNow, h, get_by_id, closing, hfind]

theorem run_linkUnencodable (replace : Bool) (u : PyStr) (p : String) (text : LoneText)
    (t : Nat → Int) (db : MappingDb) : (linkUnencodable replace u p text).run t db none =
      match checkText replace u (ownerOf p db) with
      | .error e => (.error e, db)
      | .ok _ => (.error text.encodeError, db) := by
  simp only [linkUnencodable, Script.bind_eq, select_bind, closing, attempt, query_bind, run,
    Option.getD]
  cases checkText replace u (ownerOf p db) with
  | error e => simp [attempt, run, Script.ofExcept]
  | ok x => simp [attempt, run, Script.ofExcept]

theorem run_unlink (u : String) (t : Nat → Int) (db : MappingDb) :
    (unlink u).run t db none = (.ok (), (deleteUser u db).1) := by
  simp [unlink, closing, attempt, run, Script.ofExcept, dml, commitNow]

theorem run_revoke_identity (id : Int) (u : String) (t : Nat → Int) (db : MappingDb) :
    (revoke_identity id u).run t db none =
      match bindInt id with
      | .error e => (.error e, db)
      | .ok n => (.ok ((revokeRow (t 0) n u db).2.rowcount == 1), (revokeRow (t 0) n u db).1) := by
  cases h : bindInt id <;>
    simp [revoke_identity, closing, attempt, run, Script.ofExcept, dml, commitNow, h]

theorem run_update_identity_label (id : Int) (u : String) (label : Option String) (t : Nat → Int)
    (db : MappingDb) :
    (update_identity_label id u label).run t db none =
      match bindInt id with
      | .error e => (.error e, db)
      | .ok n =>
        (.ok (if (labelRow label n u db).2.rowcount == 1 then
            ((labelRow label n u db).1.identities.find fun r => r.identity_id == id).map
              _row_to_identity
          else none), (labelRow label n u db).1) := by
  cases h : bindInt id with
  | error e =>
    simp [update_identity_label, closing, attempt, run, Script.ofExcept, h]
  | ok n =>
    simp only [update_identity_label, closing, attempt, run, Script.ofExcept, dml, commitNow, h,
      Script.bind_eq, ret_bind, execute_bind, commit_bind, close_bind, Script.pure_eq]
    split <;> simp_all [run, get_by_id, closing, attempt, Script.ofExcept]

theorem run_touch_last_used (u : String) (t : Nat → Int) (db : MappingDb) :
    (touch_last_used u).run t db none = (.ok (), (touchUser (t 0) u db).1) := by
  simp [touch_last_used, closing, attempt, run, Script.ofExcept, dml, commitNow]

theorem run_touch_identity (id : Int) (t : Nat → Int) (db : MappingDb) :
    (touch_identity id).run t db none =
      match bindInt id with
      | .error e => (.error e, db)
      | .ok n => (.ok (), (touchRow (t 0) n db).1) := by
  cases h : bindInt id <;>
    simp [touch_identity, closing, attempt, run, Script.ofExcept, dml, commitNow, h]

theorem run_get_by_pubkey (p : String) (t : Nat → Int) (db : MappingDb) :
    (get_by_pubkey p).run t db none = (.ok ((db.identities.find fun r =>
      r.pubkey == p && r.enabled == 1).map _row_to_identity), db) := by
  simp [get_by_pubkey, closing, attempt, run, Script.ofExcept]

/-- `get_by_pubkey` finds the active row with this pubkey. -/
theorem find_pubkey_eq_some {p : String} {r : IdentityRow} {db : MappingDb} :
    (db.identities.find fun r => r.pubkey == p && r.enabled == 1) = some r ↔
      r ∈ db ∧ r.pubkey = p ∧ r.enabled = 1 := by
  constructor
  · intro h
    obtain ⟨hr, hp⟩ := Table.find_some h
    exact ⟨hr, by simpa using hp⟩
  · rintro ⟨hr, rfl, hon⟩
    apply Table.find_eq hr (by simp [hon])
    intro b hb
    simp only [Bool.and_eq_true, beq_iff_eq] at hb
    exact hb.1

theorem find_pubkey_eq_none {p : String} {db : MappingDb} :
    (db.identities.find fun r => r.pubkey == p && r.enabled == 1) = none ↔
      ∀ r ∈ db, r.pubkey = p → r.enabled ≠ 1 := by
  rw [Option.eq_none_iff_forall_ne_some]
  constructor
  · intro h r hr hp hon
    exact h r (find_pubkey_eq_some.mpr ⟨hr, hp, hon⟩)
  · intro h r hfound
    obtain ⟨hr, hp, hon⟩ := find_pubkey_eq_some.mp hfound
    exact h r hr hp hon

theorem run_get_by_username (u : String) (t : Nat → Int) (db : MappingDb) :
    (get_by_username u).run t db none = (.ok (((db.identities.rows.filter (owned u)).insertionSort
      activeFirst).head?.map _row_to_identity), db) := by
  simp [get_by_username, closing, attempt, run, Script.ofExcept]

theorem run_list_by_username (u : String) (all : Bool) (t : Nat → Int) (db : MappingDb) :
    (list_by_username u all).run t db none = (.ok (((db.identities.rows.filter fun r =>
      owned u r && (all || r.enabled == 1)).insertionSort newer).map _row_to_identity), db) := by
  simp [list_by_username, closing, attempt, run, Script.ofExcept]

theorem run_list_all (t : Nat → Int) (db : MappingDb) :
    list_all.run t db none =
      (.ok ((db.identities.rows.insertionSort byAccount).map _row_to_identity), db) := by
  simp [list_all, closing, attempt, run, Script.ofExcept]

theorem run_init (t : Nat → Int) (db : MappingDb) :
    init.run t db none = (.ok (), if LEGACY_MIGRATION_VERSION ≤ db.user_version then db else
      { db with
        identities := copyUsers (db.users.getD []) db.identities
        user_version := LEGACY_MIGRATION_VERSION }) := by
  simp only [init, _migrate_legacy_users, closing, Script.bind_eq, select_bind, query_bind, attempt,
    run, Option.getD]
  by_cases hv : LEGACY_MIGRATION_VERSION ≤ db.user_version
  · simp [hv, commitNow, attempt, run, Script.ofExcept]
  · cases hu : db.users with
    | none =>
      simp [hv, hu, attempt, run, Script.ofExcept, commitNow, copyUsers]
    | some users =>
      simp [hv, hu, attempt, run, Script.ofExcept, commitNow, dml, copyLegacy]

theorem insertNew_free {u p : String} {t : Int} {metadata : Metadata} {db : MappingDb}
    (h : ∀ r ∈ db, r.pubkey ≠ p) :
    ∃ db', insertNew u p t metadata db = .ok (db', ⟨1, db.identities.seq + 1⟩) := insertRow_free h

theorem insertNew_ok {u p : String} {t : Int} {metadata : Metadata} {db db' : MappingDb} {c : Cursor}
    (h : insertNew u p t metadata db = .ok (db', c)) :
    (∀ r ∈ db, r.pubkey ≠ p) ∧
      ∀ r, r ∈ db' ↔ r ∈ db ∨ r = newRow u p t metadata (db.identities.seq + 1) :=
  ⟨(insertRow_ok h).1, (insertRow_ok h).2.1⟩

end MappingStore

theorem bindInt_eq_ok {n m : Int} : bindInt n = .ok m ↔ fitsInt64 n = true ∧ m = n := by
  unfold bindInt
  split
  · next h => simp only [Except.ok.injEq, h, true_and, eq_comm]
  · next h => simp [h]

/-- `link` may only fail on the pubkey of another account. -/
theorem checkOther_eq_ok {u p : String} {db : MappingDb} :
    checkOther u (ownerOf p db) = .ok () ↔ ∀ r ∈ db, r.pubkey = p → r.ynh_username = u := by
  cases ho : ownerOf p db with
  | none =>
    have := ownerOf_eq_none.mp ho
    simp only [checkOther, true_iff]
    exact fun r hr hp => absurd hp (this r hr)
  | some owner =>
    obtain ⟨r, hr, hp, rfl⟩ := ownerOf_eq_some.mp ho
    simp only [checkOther]
    constructor
    · intro h r' hr' hp'
      obtain rfl := Serial.eq_of_key hr' hr (hp'.trans hp.symm)
      by_contra hne
      simp [hne] at h
    · intro h
      simp [h r hr hp]

theorem checkAny_eq_ok {u p : String} {db : MappingDb} :
    checkAny u (ownerOf p db) = .ok () ↔ ∀ r ∈ db, r.pubkey ≠ p := by
  rw [← ownerOf_eq_none]
  cases ownerOf p db with
  | none => simp [checkAny]
  | some owner => simp [checkAny]; split <;> simp

namespace MappingCall

/-- A call run alone is its method run alone. -/
theorem alone_eq (c : MappingCall) (t : Nat → Int) (db : MappingDb) :
    c.alone t db = ((c.method.run t db none).1.map c.wrap, (c.method.run t db none).2) :=
  Script.run_bind_ret c.method c.wrap t db none

/-- A call that commits meets its ownership precondition at that moment. -/
theorem Effect.owner {u p : String} {metadata : Metadata} {before after : MappingDb}
    (h : Effect (link u p metadata) before after) :
    ∀ r ∈ before, r.pubkey = p → r.ynh_username = u := by
  obtain ⟨t, c, h⟩ := h
  intro r hr hp
  by_contra hne
  exact (insertNew_ok h).1 r (mem_deleteUser.mpr ⟨hr, hne⟩) hp

theorem Effect.fresh {u p : String} {metadata : Metadata} {before after : MappingDb}
    (h : Effect (add_identity u p metadata) before after) : ∀ r ∈ before, r.pubkey ≠ p := by
  obtain ⟨t, c, h⟩ := h
  exact (insertNew_ok h).1

/-- Run alone, a call that raises changes nothing, and one that returns does what its
specification says. -/
theorem alone_spec (c : MappingCall) (t : Nat → Int) (db : MappingDb) :
    (∀ e, (c.alone t db).1 = .error e → (c.alone t db).2 = db) ∧
      ∀ r, (c.alone t db).1 = .ok r →
        if c.writes then Effect c db (c.alone t db).2 else (c.alone t db).2 = db := by
  cases c with
  | link u p metadata =>
    simp only [alone_eq, method, run_link]
    cases checkOther u (ownerOf p db) with
    | error e => exact ⟨fun _ _ => rfl, fun r hr => by cases hr⟩
    | ok x =>
      cases h : insertNew u p (t 0) metadata (deleteUser u db).1 with
      | error e => exact ⟨fun _ _ => rfl, fun r hr => by cases hr⟩
      | ok y => exact ⟨by simp [Except.map], fun _ _ => ⟨t 0, y.2, h⟩⟩
  | add_identity u p metadata =>
    simp only [alone_eq, method, run_add_identity]
    cases checkAny u (ownerOf p db) with
    | error e => exact ⟨fun _ _ => rfl, fun r hr => by cases hr⟩
    | ok x =>
      cases h : insertNew u p (t 0) metadata db with
      | error e => exact ⟨fun _ _ => rfl, fun r hr => by cases hr⟩
      | ok y => exact ⟨by simp [Except.map], fun _ _ => ⟨t 0, y.2, h⟩⟩
  | unlink u =>
    simp only [alone_eq, method, run_unlink]
    exact ⟨by simp [Except.map], fun _ _ => rfl⟩
  | revoke_identity id u =>
    simp only [alone_eq, method, run_revoke_identity]
    cases h : bindInt id with
    | error e => exact ⟨fun _ _ => rfl, fun r hr => by cases hr⟩
    | ok n =>
      obtain ⟨hfits, rfl⟩ := bindInt_eq_ok.mp h
      exact ⟨by simp [Except.map], fun _ _ => ⟨t 0, hfits, rfl⟩⟩
  | update_identity_label id u label =>
    simp only [alone_eq, method, run_update_identity_label]
    cases h : bindInt id with
    | error e => exact ⟨fun _ _ => rfl, fun r hr => by cases hr⟩
    | ok n =>
      obtain ⟨hfits, rfl⟩ := bindInt_eq_ok.mp h
      exact ⟨by simp [Except.map], fun _ _ => ⟨hfits, rfl⟩⟩
  | touch_last_used u =>
    simp only [alone_eq, method, run_touch_last_used]
    exact ⟨by simp [Except.map], fun _ _ => ⟨t 0, rfl⟩⟩
  | touch_identity id =>
    simp only [alone_eq, method, run_touch_identity]
    cases h : bindInt id with
    | error e => exact ⟨fun _ _ => rfl, fun r hr => by cases hr⟩
    | ok n =>
      obtain ⟨hfits, rfl⟩ := bindInt_eq_ok.mp h
      exact ⟨by simp [Except.map], fun _ _ => ⟨t 0, hfits, rfl⟩⟩
  | link_unencodable replace u p text =>
    simp only [alone_eq, method, run_linkUnencodable]
    cases checkText replace u (ownerOf p db) with
    | error e => exact ⟨fun _ _ => rfl, fun r hr => by cases hr⟩
    | ok x => exact ⟨fun _ _ => rfl, fun r hr => by cases hr⟩
  | get_by_pubkey p =>
    simp [alone_eq, method, wrap, writes, run_get_by_pubkey, Except.map]
  | get_by_username u =>
    simp [alone_eq, method, wrap, writes, run_get_by_username, Except.map]
  | list_by_username u all =>
    simp [alone_eq, method, wrap, writes, run_list_by_username, Except.map]
  | list_all => simp [alone_eq, method, wrap, writes, run_list_all, Except.map]

/-- Whatever the specification allows, the call run alone at the right moment does. -/
theorem Effect.alone {c : MappingCall} {before after : MappingDb} (h : Effect c before after) :
    ∃ t r, c.alone t before = (.ok r, after) := by
  cases c with
  | link u p metadata =>
    have hok := checkOther_eq_ok.mpr h.owner
    obtain ⟨t, c, h⟩ := h
    exact ⟨fun _ => t, .done, by
      simp [alone_eq, method, wrap, run_link, hok, h, Except.map]⟩
  | add_identity u p metadata =>
    have hok := (checkAny_eq_ok (u := u)).mpr h.fresh
    obtain ⟨t, c, h⟩ := h
    exact ⟨fun _ => t, .identity (some (_row_to_identity (newRow u p t metadata c.lastrowid))), by
      simp [alone_eq, method, wrap, run_add_identity, hok, h, Except.map]⟩
  | unlink u =>
    subst h
    exact ⟨fun _ => 0, .done, by
      simp [alone_eq, method, wrap, run_unlink, Except.map]⟩
  | revoke_identity id u =>
    obtain ⟨t, hfits, rfl⟩ := h
    exact ⟨fun _ => t, _, by
      simp [alone_eq, method, wrap, run_revoke_identity,
        bindInt_eq_ok.mpr ⟨hfits, rfl⟩, Except.map]; rfl⟩
  | update_identity_label id u label =>
    obtain ⟨hfits, rfl⟩ := h
    exact ⟨fun _ => 0, _, by
      simp only [alone_eq, method, run_update_identity_label,
        bindInt_eq_ok.mpr ⟨hfits, rfl⟩, Except.map]; rfl⟩
  | touch_last_used u =>
    obtain ⟨t, rfl⟩ := h
    exact ⟨fun _ => t, .done, by
      simp [alone_eq, method, wrap, run_touch_last_used, Except.map]⟩
  | touch_identity id =>
    obtain ⟨t, hfits, rfl⟩ := h
    exact ⟨fun _ => t, .done, by
      simp [alone_eq, method, wrap, run_touch_identity,
        bindInt_eq_ok.mpr ⟨hfits, rfl⟩, Except.map]⟩
  | link_unencodable replace u p text => cases h
  | get_by_pubkey p => cases h
  | get_by_username u => cases h
  | list_by_username u all => cases h
  | list_all => cases h

end MappingCall

/-! ## Rows across a change -/

/-- Two rows are versions of one identity: only `last_used`, `enabled`, `label` and
`revoked_at` may differ. -/
structure SameIdentity (a b : IdentityRow) : Prop where
  identity_id : a.identity_id = b.identity_id
  ynh_username : a.ynh_username = b.ynh_username
  pubkey : a.pubkey = b.pubkey
  created_at : a.created_at = b.created_at
  signer_type : a.signer_type = b.signer_type
  linked_by : a.linked_by = b.linked_by

theorem SameIdentity.refl (a : IdentityRow) : SameIdentity a a := ⟨rfl, rfl, rfl, rfl, rfl, rfl⟩

theorem SameIdentity.symm {a b : IdentityRow} (h : SameIdentity a b) : SameIdentity b a :=
  ⟨h.identity_id.symm, h.ynh_username.symm, h.pubkey.symm, h.created_at.symm, h.signer_type.symm,
    h.linked_by.symm⟩

theorem SameIdentity.trans {a b c : IdentityRow} (h : SameIdentity a b) (h' : SameIdentity b c) :
    SameIdentity a c :=
  ⟨h.identity_id.trans h'.identity_id, h.ynh_username.trans h'.ynh_username,
    h.pubkey.trans h'.pubkey, h.created_at.trans h'.created_at, h.signer_type.trans h'.signer_type,
    h.linked_by.trans h'.linked_by⟩

theorem revoked_same (t : Int) (r : IdentityRow) : SameIdentity (revoked t r) r :=
  ⟨rfl, rfl, rfl, rfl, rfl, rfl⟩

theorem labelled_same (label : Option String) (r : IdentityRow) : SameIdentity (labelled label r) r :=
  ⟨rfl, rfl, rfl, rfl, rfl, rfl⟩

theorem touched_same (t : Int) (r : IdentityRow) : SameIdentity (touched t r) r :=
  ⟨rfl, rfl, rfl, rfl, rfl, rfl⟩

namespace MappingCall

/-- The four ways in which a call changes the rows. -/
inductive Change (c : MappingCall) (before after : MappingDb) : Prop
  | replace (u p : String) (metadata : Metadata) (t : Int) (cursor : Cursor) :
      c = link u p metadata →
      insertNew u p t metadata (deleteUser u before).1 = .ok (after, cursor) → Change c before after
  | insert (u p : String) (metadata : Metadata) (t : Int) (cursor : Cursor) :
      c = add_identity u p metadata →
      insertNew u p t metadata before = .ok (after, cursor) → Change c before after
  | delete (u : String) : c = unlink u → after = (deleteUser u before).1 → Change c before after
  | update (p : IdentityRow → Bool) (f : IdentityRow → IdentityRow)
      (hid : ∀ r, (f r).identity_id = r.identity_id) (hkey : ∀ r, (f r).pubkey = r.pubkey) :
      (∀ r, SameIdentity (f r) r) →
      (∀ u r, c.account = some u → p r = true → r.ynh_username = u) →
      after = (updateRows p f hid hkey before).1 → Change c before after

theorem Effect.change {c : MappingCall} {before after : MappingDb} (h : Effect c before after) :
    Change c before after := by
  cases c with
  | link u p metadata =>
    obtain ⟨t, cursor, h⟩ := h
    exact .replace u p metadata t cursor rfl h
  | add_identity u p metadata =>
    obtain ⟨t, cursor, h⟩ := h
    exact .insert u p metadata t cursor rfl h
  | unlink u => exact .delete u rfl h
  | revoke_identity id u =>
    obtain ⟨t, _, rfl⟩ := h
    refine .update _ _ _ _ (revoked_same t) (fun v r hv hp => ?_) rfl
    simp only [activeOf, Bool.and_eq_true, beq_iff_eq] at hp
    exact hp.1.2.trans (Option.some.inj hv)
  | update_identity_label id u label =>
    obtain ⟨_, rfl⟩ := h
    refine .update _ _ _ _ (labelled_same label) (fun v r hv hp => ?_) rfl
    simp only [activeOf, Bool.and_eq_true, beq_iff_eq] at hp
    exact hp.1.2.trans (Option.some.inj hv)
  | touch_last_used u =>
    obtain ⟨t, rfl⟩ := h
    refine .update _ _ _ _ (touched_same t) (fun v r hv hp => ?_) rfl
    simp only [owned, Bool.and_eq_true, beq_iff_eq] at hp
    exact hp.1.trans (Option.some.inj hv)
  | touch_identity id =>
    obtain ⟨t, _, rfl⟩ := h
    exact .update _ _ _ _ (touched_same t) (fun v r hv _ => by cases hv) rfl
  | link_unencodable replace u p text => cases h
  | get_by_pubkey p => cases h
  | get_by_username u => cases h
  | list_by_username u all => cases h
  | list_all => cases h

variable {c : MappingCall} {before after : MappingDb}

/-- Where the rows after a change come from. -/
theorem Effect.origin (h : Effect c before after) {r : IdentityRow} (hr : r ∈ after) :
    (∃ a ∈ before, SameIdentity r a) ∨ ∃ u p metadata t,
      (c = link u p metadata ∨ c = add_identity u p metadata) ∧
        r = newRow u p t metadata (before.identities.seq + 1) := by
  cases h.change with
  | replace u p metadata t cursor hc hins =>
    rcases ((insertNew_ok hins).2 r).mp hr with hr | rfl
    · exact Or.inl ⟨r, (mem_deleteUser.mp hr).1, SameIdentity.refl r⟩
    · exact Or.inr ⟨u, p, metadata, t, Or.inl hc, rfl⟩
  | insert u p metadata t cursor hc hins =>
    rcases ((insertNew_ok hins).2 r).mp hr with hr | rfl
    · exact Or.inl ⟨r, hr, SameIdentity.refl r⟩
    · exact Or.inr ⟨u, p, metadata, t, Or.inr hc, rfl⟩
  | delete u hc hafter =>
    subst hafter
    exact Or.inl ⟨r, (mem_deleteUser.mp hr).1, SameIdentity.refl r⟩
  | update p f hid hkey hsame _ hafter =>
    subst hafter
    obtain ⟨a, ha, rfl⟩ := mem_updateRows.mp hr
    refine Or.inl ⟨a, ha, ?_⟩
    split
    · exact hsame a
    · exact SameIdentity.refl a

/-- What becomes of the rows before a change: only `unlink` and `link` of the row's own
account remove it. -/
theorem Effect.fate (h : Effect c before after) {a : IdentityRow} (ha : a ∈ before) :
    (∃ r ∈ after, SameIdentity r a) ∨
      c = unlink a.ynh_username ∨ ∃ p metadata, c = link a.ynh_username p metadata := by
  cases h.change with
  | replace u p metadata t cursor hc hins =>
    by_cases hu : a.ynh_username = u
    · exact Or.inr (Or.inr ⟨p, metadata, hu ▸ hc⟩)
    · exact Or.inl ⟨a, ((insertNew_ok hins).2 a).mpr (Or.inl (mem_deleteUser.mpr ⟨ha, hu⟩)),
        SameIdentity.refl a⟩
  | insert u p metadata t cursor hc hins =>
    exact Or.inl ⟨a, ((insertNew_ok hins).2 a).mpr (Or.inl ha), SameIdentity.refl a⟩
  | delete u hc hafter =>
    by_cases hu : a.ynh_username = u
    · exact Or.inr (Or.inl (hu ▸ hc))
    · subst hafter
      exact Or.inl ⟨a, mem_deleteUser.mpr ⟨ha, hu⟩, SameIdentity.refl a⟩
  | update p f hid hkey hsame _ hafter =>
    subst hafter
    refine Or.inl ⟨_, mem_updateRows.mpr ⟨a, ha, rfl⟩, ?_⟩
    split
    · exact hsame a
    · exact SameIdentity.refl a

/-- A call that names an account leaves the rows of every other account alone. -/
theorem Effect.frame (h : Effect c before after) {u : String} (hu : c.account = some u)
    {r : IdentityRow} (hr : r.ynh_username ≠ u) : r ∈ after ↔ r ∈ before := by
  cases h.change with
  | replace v p metadata t cursor hc hins =>
    obtain rfl : v = u := by simpa [hc, account] using hu
    rw [(insertNew_ok hins).2 r, mem_deleteUser]
    constructor
    · rintro (⟨hmem, _⟩ | rfl)
      · exact hmem
      · exact absurd rfl hr
    · exact fun hmem => Or.inl ⟨hmem, hr⟩
  | insert v p metadata t cursor hc hins =>
    obtain rfl : v = u := by simpa [hc, account] using hu
    rw [(insertNew_ok hins).2 r]
    constructor
    · rintro (hmem | rfl)
      · exact hmem
      · exact absurd rfl hr
    · exact Or.inl
  | delete v hc hafter =>
    obtain rfl : v = u := by simpa [hc, account] using hu
    subst hafter
    simp [hr]
  | update p f hid hkey hsame hsel hafter =>
    subst hafter
    rw [mem_updateRows]
    constructor
    · rintro ⟨a, ha, rfl⟩
      split at hr
      · next hp => exact absurd ((hsame a).ynh_username.trans (hsel u a hu hp)) hr
      · next hp => simpa [hp] using ha
    · intro hmem
      have hp : p r = false := by
        cases hp : p r with
        | false => rfl
        | true => exact absurd (hsel u r hu hp) hr
      exact ⟨r, hmem, by simp [hp]⟩

/-- The other tables stay as they are. -/
theorem Effect.migration (h : Effect c before after) :
    after.user_version = before.user_version ∧ after.users = before.users := by
  cases h.change with
  | replace u p metadata t cursor hc hins => exact (insertRow_ok hins).2.2.2.2
  | insert u p metadata t cursor hc hins => exact (insertRow_ok hins).2.2.2.2
  | delete u hc hafter => subst hafter; exact ⟨rfl, rfl⟩
  | update p f hid hkey _ _ hafter => subst hafter; exact ⟨rfl, rfl⟩

end MappingCall

end NostrAuth
