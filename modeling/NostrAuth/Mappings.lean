import Mathlib.Data.List.Sort
import NostrAuth.Lib.Table
import NostrAuth.Lib.Transaction
import NostrAuth.Python

/-! `identity/mappings.py`: which pubkey belongs to which YunoHost account, kept in the
`identities` table of a SQLite file. -/

set_option autoImplicit false

namespace NostrAuth

open Transaction

/-- What the methods hand out. -/
structure Identity where
  ynh_username : String
  pubkey : String
  created_at : Int
  last_used : Option Int
  enabled : Bool
  identity_id : Option Int
  signer_type : String
  label : Option String
  linked_by : String
  revoked_at : Option Int
  deriving DecidableEq, Repr

/-! ## The tables -/

/-- A row of the `identities` table. -/
structure IdentityRow where
  identity_id : Int
  ynh_username : String
  pubkey : String
  created_at : Int
  last_used : Option Int
  enabled : Int
  signer_type : String
  label : Option String
  linked_by : String
  revoked_at : Option Int
  deriving DecidableEq, Repr

/-- A row of the `users` table that older versions wrote. -/
structure LegacyRow where
  ynh_username : String
  pubkey : String
  created_at : Int
  last_used : Option Int
  enabled : Int
  deriving DecidableEq, Repr

/-- The columns the migration copies; the others take their defaults. -/
def LegacyRow.toRow (user : LegacyRow) (identity_id : Int) : IdentityRow where
  identity_id := identity_id
  ynh_username := user.ynh_username
  pubkey := user.pubkey
  created_at := user.created_at
  last_used := user.last_used
  enabled := user.enabled
  signer_type := "unknown"
  label := none
  linked_by := "self-service"
  revoked_at := none

/-- `identity_id` is assigned by `AUTOINCREMENT`, `pubkey` is `UNIQUE`. -/
abbrev Identities := Serial IdentityRow.identity_id IdentityRow.pubkey

/-- The file: `users` is `none` where the legacy table does not exist. -/
@[ext] structure MappingDb where
  identities : Identities
  user_version : Int
  users : Option (List LegacyRow)

namespace MappingDb

def empty : MappingDb := ⟨Serial.empty, 0, none⟩

instance : Membership IdentityRow MappingDb := ⟨fun db r => r ∈ db.identities⟩

theorem mem_def {r : IdentityRow} {db : MappingDb} : r ∈ db ↔ r ∈ db.identities := Iff.rfl

@[simp] theorem not_mem_empty (r : IdentityRow) : r ∉ empty := Serial.not_mem_empty r

def owned (ynh_username : String) (r : IdentityRow) : Bool := r.ynh_username == ynh_username

/-- `identity_id = ? AND ynh_username = ? AND enabled = 1` -/
def activeOf (identity_id : Int) (ynh_username : String) (r : IdentityRow) : Bool :=
  r.identity_id == identity_id && r.ynh_username == ynh_username && r.enabled == 1

/-- `SELECT ynh_username FROM identities WHERE pubkey = ?` -/
def ownerOf (pubkey_hex : String) (db : MappingDb) : Option String :=
  (db.identities.find fun r => r.pubkey == pubkey_hex).map IdentityRow.ynh_username

/-- `DELETE FROM identities WHERE ynh_username = ?` -/
def deleteUser (ynh_username : String) (db : MappingDb) : MappingDb × Cursor :=
  ({ db with identities := db.identities.delete (owned ynh_username) },
    ⟨db.identities.count (owned ynh_username), 0⟩)

/-- `INSERT INTO identities`; the row `row` makes of the new id. -/
def insertRow (row : Int → IdentityRow) (hrow : ∀ n, (row n).identity_id = n) (db : MappingDb) :
    Except Exn (MappingDb × Cursor) :=
  match db.identities.insert row hrow with
  | some identities => .ok ({ db with identities }, ⟨1, db.identities.seq + 1⟩)
  | none => .error (.integrityError "UNIQUE constraint failed: identities.pubkey")

/-- `UPDATE identities SET f WHERE p`, for an `f` that leaves id, owner and pubkey alone. -/
def updateRows (p : IdentityRow → Bool) (f : IdentityRow → IdentityRow)
    (hid : ∀ r, (f r).identity_id = r.identity_id) (hkey : ∀ r, (f r).pubkey = r.pubkey)
    (db : MappingDb) : MappingDb × Cursor :=
  ({ db with identities := db.identities.update p f hid hkey }, ⟨db.identities.count p, 0⟩)

def revoked (t : Int) (r : IdentityRow) : IdentityRow := { r with enabled := 0, revoked_at := some t }

def labelled (label : Option String) (r : IdentityRow) : IdentityRow := { r with label := label }

def touched (t : Int) (r : IdentityRow) : IdentityRow := { r with last_used := some t }

/-- `SET enabled = 0, revoked_at = ?` for one active row of the account. -/
def revokeRow (t : Int) (identity_id : Int) (ynh_username : String) : MappingDb → MappingDb × Cursor :=
  updateRows (activeOf identity_id ynh_username) (revoked t) (fun _ => rfl) fun _ => rfl

/-- `SET label = ?` for one active row of the account. -/
def labelRow (label : Option String) (identity_id : Int) (ynh_username : String) :
    MappingDb → MappingDb × Cursor :=
  updateRows (activeOf identity_id ynh_username) (labelled label) (fun _ => rfl) fun _ => rfl

/-- `SET last_used = ?` for the active rows of the account. -/
def touchUser (t : Int) (ynh_username : String) : MappingDb → MappingDb × Cursor :=
  updateRows (fun r => owned ynh_username r && r.enabled == 1) (touched t) (fun _ => rfl) fun _ => rfl

/-- `SET last_used = ?` for one active row. -/
def touchRow (t : Int) (identity_id : Int) : MappingDb → MappingDb × Cursor :=
  updateRows (fun r => r.identity_id == identity_id && r.enabled == 1) (touched t) (fun _ => rfl)
    fun _ => rfl

/-- The rows of `users`, copied one after another. -/
def copyUsers (users : List LegacyRow) (identities : Identities) : Identities :=
  users.foldl (fun t user => t.insertOrIgnore (LegacyRow.toRow user) fun _ => rfl) identities

/-- `INSERT OR IGNORE INTO identities (...) SELECT ... FROM users` -/
def copyLegacy (db : MappingDb) : Except Exn (MappingDb × Cursor) :=
  let identities := copyUsers (db.users.getD []) db.identities
  .ok ({ db with identities }, ⟨identities.rows.length - db.identities.rows.length, 0⟩)

end MappingDb

/-! ## The methods -/

namespace MappingStore

open Script MappingDb

abbrev Sql (α : Type) := Script MappingDb Exn α

def LEGACY_MIGRATION_VERSION : Int := 1

def _row_to_identity (row : IdentityRow) : Identity where
  ynh_username := row.ynh_username
  pubkey := row.pubkey
  created_at := row.created_at
  last_used := row.last_used
  enabled := row.enabled ≠ 0
  identity_id := some row.identity_id
  signer_type := row.signer_type
  label := row.label
  linked_by := row.linked_by
  revoked_at := row.revoked_at

/-- A parameter bound to an integer column. -/
def bindInt (n : Int) : Except Exn Int :=
  if fitsInt64 n then .ok n
  else .error (.uncaught "OverflowError" "Python int too large to convert to SQLite INTEGER")

def _migrate_legacy_users : Sql Unit := do
  let version ← select MappingDb.user_version
  if LEGACY_MIGRATION_VERSION ≤ version then
    return ()
  else
    let legacy_exists ← select fun db => db.users.isSome
    if legacy_exists then
      let _ ← dml copyLegacy
      pragma (fun db => { db with user_version := LEGACY_MIGRATION_VERSION }) (return ())
    else
      pragma (fun db => { db with user_version := LEGACY_MIGRATION_VERSION }) (return ())

/-- `MappingStore.__init__`. A missing `identities` table and an empty one are the same. -/
def init : Sql Unit :=
  closing do
    _migrate_legacy_users
    commitNow

/-- The keyword arguments of `link` and `add_identity`. -/
structure Metadata where
  signer_type : String := "unknown"
  label : Option String := none
  linked_by : String := "self-service"
  deriving DecidableEq, Repr

/-- The row that `link` and `add_identity` insert. -/
def newRow (ynh_username pubkey_hex : String) (created_at : Int) (metadata : Metadata)
    (identity_id : Int) : IdentityRow where
  identity_id := identity_id
  ynh_username := ynh_username
  pubkey := pubkey_hex
  created_at := created_at
  last_used := none
  enabled := 1
  signer_type := metadata.signer_type
  label := metadata.label
  linked_by := metadata.linked_by
  revoked_at := none

def insertNew (ynh_username pubkey_hex : String) (created_at : Int) (metadata : Metadata) :
    MappingDb → Except Exn (MappingDb × Cursor) :=
  insertRow (newRow ynh_username pubkey_hex created_at metadata) fun _ => rfl

/-- The error both methods raise for a pubkey of another account. -/
def alreadyLinkedTo (owner : String) : Exn :=
  .pubkeyAlreadyLinked ("pubkey already linked to a different account (" ++ pyRepr owner ++ ")")

/-- The test of `link` on the owner it read. -/
def checkOther (ynh_username : String) : Option String → Except Exn Unit
  | some owner => if owner ≠ ynh_username then .error (alreadyLinkedTo owner) else .ok ()
  | none => .ok ()

/-- The tests of `add_identity` on the owner it read. -/
def checkAny (ynh_username : String) : Option String → Except Exn Unit
  | some owner =>
    if owner ≠ ynh_username then .error (alreadyLinkedTo owner)
    else .error (.pubkeyAlreadyLinked "pubkey is already linked to this account")
  | none => .ok ()

def link (ynh_username pubkey_hex : String) (metadata : Metadata) : Sql Unit :=
  closing do
    let existing ← select (ownerOf pubkey_hex)
    ofExcept (checkOther ynh_username existing)
    let _ ← dml fun db => .ok (deleteUser ynh_username db)
    let t ← now
    let _ ← dml (insertNew ynh_username pubkey_hex t metadata)
    commitNow

/-- Both callers pass an id that SQLite assigned or that was bound before, so it binds. -/
def get_by_id (identity_id : Int) : Sql (Option Identity) :=
  closing do
    let row ← select fun db => db.identities.find fun r => r.identity_id == identity_id
    return row.map _row_to_identity

def add_identity (ynh_username pubkey_hex : String) (metadata : Metadata) : Sql Identity := do
  let created_at ← now
  let identity_id ← closing do
    let existing ← select (ownerOf pubkey_hex)
    ofExcept (checkAny ynh_username existing)
    let cursor ← dml (insertNew ynh_username pubkey_hex created_at metadata)
    commitNow
    return cursor.lastrowid
  let identity ← get_by_id identity_id
  match identity with
  | none => raise (.uncaught "RuntimeError" "newly-added identity could not be read back")
  | some identity => return identity

/-- The test of `link`, or of `add_identity`, for an account of any text. -/
def checkText (replace : Bool) : PyStr → Option String → Except Exn Unit
  | .text ynh_username, existing =>
    if replace then checkOther ynh_username existing else checkAny ynh_username existing
  | .lone _, some owner => .error (alreadyLinkedTo owner)
  | .lone _, none => .ok ()

/-- `link` and `add_identity` where SQLite cannot encode the account or the label: the pubkey is
looked up first, and the statement that binds the text raises before anything is committed. -/
def linkUnencodable (replace : Bool) (ynh_username : PyStr) (pubkey_hex : String)
    (text : LoneText) : Sql Empty :=
  closing do
    let existing ← select (ownerOf pubkey_hex)
    ofExcept (checkText replace ynh_username existing)
    raise text.encodeError

def unlink (ynh_username : String) : Sql Unit :=
  closing do
    let _ ← dml fun db => .ok (deleteUser ynh_username db)
    commitNow

def revoke_identity (identity_id : Int) (ynh_username : String) : Sql Bool :=
  closing do
    let t ← now
    let id ← ofExcept (bindInt identity_id)
    let cursor ← dml fun db => .ok (revokeRow t id ynh_username db)
    commitNow
    return cursor.rowcount == 1

def update_identity_label (identity_id : Int) (ynh_username : String) (label : Option String) :
    Sql (Option Identity) := do
  let renamed ← closing do
    let id ← ofExcept (bindInt identity_id)
    let cursor ← dml fun db => .ok (labelRow label id ynh_username db)
    commitNow
    return cursor.rowcount == 1
  if renamed then get_by_id identity_id else return none

def get_by_pubkey (pubkey_hex : String) : Sql (Option Identity) :=
  closing do
    let row ← select fun db => db.identities.find fun r => r.pubkey == pubkey_hex && r.enabled == 1
    return row.map _row_to_identity

/-- `ORDER BY created_at DESC, identity_id DESC` -/
def newer (a b : IdentityRow) : Prop :=
  b.created_at < a.created_at ∨ (b.created_at = a.created_at ∧ b.identity_id ≤ a.identity_id)

instance : DecidableRel newer := fun _ _ => inferInstanceAs (Decidable (_ ∨ _))

/-- `ORDER BY enabled DESC, created_at DESC, identity_id DESC` -/
def activeFirst (a b : IdentityRow) : Prop :=
  b.enabled < a.enabled ∨ (b.enabled = a.enabled ∧ newer a b)

instance : DecidableRel activeFirst := fun _ _ => inferInstanceAs (Decidable (_ ∨ _))

/-- `ORDER BY ynh_username, created_at DESC, identity_id DESC` -/
def byAccount (a b : IdentityRow) : Prop :=
  a.ynh_username < b.ynh_username ∨ (a.ynh_username = b.ynh_username ∧ newer a b)

instance : DecidableRel byAccount := fun _ _ => inferInstanceAs (Decidable (_ ∨ _))

def get_by_username (ynh_username : String) : Sql (Option Identity) :=
  closing do
    let row ← select fun db =>
      ((db.identities.rows.filter (owned ynh_username)).insertionSort activeFirst).head?
    return row.map _row_to_identity

def list_by_username (ynh_username : String) (include_disabled : Bool) : Sql (List Identity) :=
  closing do
    let rows ← select fun db => (db.identities.rows.filter fun r =>
      owned ynh_username r && (include_disabled || r.enabled == 1)).insertionSort newer
    return rows.map _row_to_identity

def touch_last_used (ynh_username : String) : Sql Unit :=
  closing do
    let t ← now
    let _ ← dml fun db => .ok (touchUser t ynh_username db)
    commitNow

def touch_identity (identity_id : Int) : Sql Unit :=
  closing do
    let t ← now
    let id ← ofExcept (bindInt identity_id)
    let _ ← dml fun db => .ok (touchRow t id db)
    commitNow

def list_all : Sql (List Identity) :=
  closing do
    let rows ← select fun db => db.identities.rows.insertionSort byAccount
    return rows.map _row_to_identity

end MappingStore

/-! ## What the statements do to the rows -/

namespace MappingDb

theorem ownerOf_eq_some {pubkey_hex owner : String} {db : MappingDb} :
    ownerOf pubkey_hex db = some owner ↔
      ∃ r ∈ db, r.pubkey = pubkey_hex ∧ r.ynh_username = owner := by
  simp only [ownerOf, Option.map_eq_some_iff]
  constructor
  · rintro ⟨r, hr, rfl⟩
    obtain ⟨hmem, hp⟩ := Table.find_some hr
    exact ⟨r, hmem, by simpa using hp, rfl⟩
  · rintro ⟨r, hr, rfl, rfl⟩
    exact ⟨r, Table.find_eq hr (by simp) fun b hb => by simpa using hb, rfl⟩

theorem ownerOf_eq_none {pubkey_hex : String} {db : MappingDb} :
    ownerOf pubkey_hex db = none ↔ ∀ r ∈ db, r.pubkey ≠ pubkey_hex := by
  constructor
  · intro h r hr hp
    rw [ownerOf_eq_some.mpr ⟨r, hr, hp, rfl⟩] at h
    cases h
  · intro h
    cases ho : ownerOf pubkey_hex db with
    | none => rfl
    | some owner =>
      obtain ⟨r, hr, hp, _⟩ := ownerOf_eq_some.mp ho
      exact absurd hp (h r hr)

@[simp] theorem mem_deleteUser {ynh_username : String} {db : MappingDb} {r : IdentityRow} :
    r ∈ (deleteUser ynh_username db).1 ↔ r ∈ db ∧ r.ynh_username ≠ ynh_username := by
  simp [deleteUser, mem_def, owned]

theorem mem_updateRows {p : IdentityRow → Bool} {f : IdentityRow → IdentityRow}
    {hid : ∀ r, (f r).identity_id = r.identity_id} {hkey : ∀ r, (f r).pubkey = r.pubkey}
    {db : MappingDb} {r : IdentityRow} :
    r ∈ (updateRows p f hid hkey db).1 ↔ ∃ a ∈ db, (if p a then f a else a) = r :=
  @Serial.mem_update _ _ _ _ p f hid hkey db.identities r

section Insert

variable {row : Int → IdentityRow} {hrow : ∀ n, (row n).identity_id = n} {db : MappingDb}

/-- What a successful insertion did. -/
theorem insertRow_ok {db' : MappingDb} {c : Cursor} (h : insertRow row hrow db = .ok (db', c)) :
    (∀ r ∈ db, r.pubkey ≠ (row (db.identities.seq + 1)).pubkey) ∧
      (∀ r, r ∈ db' ↔ r ∈ db ∨ r = row (db.identities.seq + 1)) ∧
      db'.identities.seq = db.identities.seq + 1 ∧ c = ⟨1, db.identities.seq + 1⟩ ∧
      db'.user_version = db.user_version ∧ db'.users = db.users := by
  unfold insertRow at h
  split at h
  · next t hi =>
    cases h
    obtain ⟨hnew, _, hseq⟩ := Serial.insert_eq_some hi
    exact ⟨hnew, fun r => Serial.mem_of_insert hi, hseq, rfl, rfl, rfl⟩
  · cases h

theorem insertRow_free (h : ∀ r ∈ db, r.pubkey ≠ (row (db.identities.seq + 1)).pubkey) :
    ∃ db', insertRow row hrow db = .ok (db', ⟨1, db.identities.seq + 1⟩) := by
  obtain ⟨t, ht⟩ := Serial.exists_insert h
  exact ⟨_, by rw [insertRow, ht]⟩

end Insert

/-- The migration removes no row, and adds only legacy rows with free pubkeys. -/
theorem mem_copyUsers {users : List LegacyRow} {identities : Identities} {r : IdentityRow}
    (h : r ∈ copyUsers users identities) : r ∈ identities ∨
      (∀ a ∈ identities, a.pubkey ≠ r.pubkey) ∧ ∃ user ∈ users, ∃ n, r = user.toRow n := by
  induction users generalizing identities with
  | nil => exact Or.inl h
  | cons user users ih =>
    rcases ih h with h | ⟨hfree, user', huser, n, rfl⟩
    · rcases Serial.mem_insertOrIgnore.mp h with h | ⟨hfree, rfl⟩
      · exact Or.inl h
      · exact Or.inr ⟨hfree, user, List.mem_cons_self .., _, rfl⟩
    · exact Or.inr ⟨fun a ha => hfree a (Serial.mem_insertOrIgnore.mpr (Or.inl ha)), user',
        List.mem_cons_of_mem _ huser, n, rfl⟩

/-- The rows that the migration adds have new ids. -/
theorem seq_copyUsers (users : List LegacyRow) (identities : Identities) :
    identities.seq ≤ (copyUsers users identities).seq ∧
      ∀ r ∈ copyUsers users identities, r ∈ identities ∨ identities.seq < r.identity_id := by
  induction users generalizing identities with
  | nil => exact ⟨Int.le_refl _, fun r hr => Or.inl hr⟩
  | cons user users ih =>
    have hone : (identities.insertOrIgnore (LegacyRow.toRow user) fun _ => rfl).seq =
        identities.seq + 1 := Serial.seq_insertOrIgnore
    obtain ⟨hseq, hrows⟩ := ih (identities.insertOrIgnore (LegacyRow.toRow user) fun _ => rfl)
    refine ⟨Int.le_trans (by omega) hseq, fun r hr => ?_⟩
    rcases hrows r hr with hold | hnew
    · rcases Serial.mem_insertOrIgnore.mp hold with hold | ⟨_, rfl⟩
      · exact Or.inl hold
      · exact Or.inr (by simp only [LegacyRow.toRow]; omega)
    · exact Or.inr (by omega)

theorem mem_copyUsers_of_mem (users : List LegacyRow) {identities : Identities} {r : IdentityRow}
    (h : r ∈ identities) : r ∈ copyUsers users identities := by
  induction users generalizing identities with
  | nil => exact h
  | cons user users ih => exact ih (Serial.mem_insertOrIgnore.mpr (Or.inl h))

/-- After the migration every legacy pubkey is taken. -/
theorem exists_copyUsers {users : List LegacyRow} {identities : Identities} {user : LegacyRow}
    (h : user ∈ users) : ∃ r ∈ copyUsers users identities, r.pubkey = user.pubkey := by
  induction users generalizing identities with
  | nil => cases h
  | cons user' users ih =>
    rcases List.mem_cons.mp h with rfl | h
    · have hhere : ∃ r ∈ identities.insertOrIgnore (LegacyRow.toRow user) fun _ => rfl,
          r.pubkey = user.pubkey := by
        by_cases hfree : ∀ a ∈ identities, a.pubkey ≠ user.pubkey
        · exact ⟨_, Serial.mem_insertOrIgnore.mpr (Or.inr ⟨hfree, rfl⟩), rfl⟩
        · simp only [not_forall, not_not] at hfree
          obtain ⟨a, ha, hp⟩ := hfree
          exact ⟨a, Serial.mem_insertOrIgnore.mpr (Or.inl ha), hp⟩
      obtain ⟨r, hr, hp⟩ := hhere
      exact ⟨r, mem_copyUsers_of_mem users hr, hp⟩
    · exact ih h

/-- Where every legacy pubkey is taken already, the migration adds nothing. -/
theorem mem_copyUsers_of_taken {users : List LegacyRow} {identities : Identities}
    (h : ∀ user ∈ users, ∃ r ∈ identities, r.pubkey = user.pubkey) {r : IdentityRow}
    (hr : r ∈ copyUsers users identities) : r ∈ identities := by
  rcases mem_copyUsers hr with hr | ⟨hfree, user, huser, n, rfl⟩
  · exact hr
  · obtain ⟨a, ha, hp⟩ := h user huser
    exact absurd hp (hfree a ha)

end MappingDb

end NostrAuth
