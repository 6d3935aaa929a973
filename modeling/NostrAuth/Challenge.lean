import NostrAuth.Lib.Table
import NostrAuth.Lib.Transaction
import NostrAuth.Python

/-! `auth/challenge.py`: single-use login and link challenges, kept in memory or in the
`challenges` table of a SQLite file. -/

set_option autoImplicit false

namespace NostrAuth

open Transaction

/-- A challenge. The texts are any `str` where SQLite does not hold them. -/
structure Challenge (Text : Type := String) where
  nonce : String
  domain : Text
  action : Text
  issued_at : Int
  expires_at : Int
  deriving DecidableEq, Repr

/-- A time to live that the constructor of `ChallengeStore` accepts. -/
structure Ttl where
  seconds : Int
  positive : 0 < seconds
  deriving DecidableEq, Repr

def DEFAULT_TTL_SECONDS : Ttl := ⟨90, by decide⟩

/-- The test in `ChallengeStore.__init__`. -/
def Ttl.check (ttl_seconds : Int) : Except Exn Ttl :=
  if h : 0 < ttl_seconds then .ok ⟨ttl_seconds, h⟩
  else .error (.valueError "ttl_seconds must be positive")

/-- `nonce` is the draw of `secrets.token_urlsafe(32)`, `now` the reading of the clock. -/
def new_challenge {Text : Type} (nonce : String) (domain action : Text) (ttl_seconds : Ttl)
    (now : Int) : Challenge Text where
  nonce := nonce
  domain := domain
  action := action
  issued_at := now
  expires_at := now + ttl_seconds.seconds

/-! ## The table -/

/-- A row of the `challenges` table. -/
structure ChallengeRow extends Challenge where
  consumed_at : Option Int
  deriving DecidableEq, Repr

/-- The table; `nonce` is its primary key. -/
abbrev ChallengeTable := Table (fun r : ChallengeRow => r.nonce)

namespace ChallengeTable

def expired (now : Int) (r : ChallengeRow) : Bool := r.expires_at < now

/-- `DELETE FROM challenges WHERE expires_at < ?` -/
def deleteExpired (now : Int) (table : ChallengeTable) : ChallengeTable :=
  table.delete (expired now)

/-- `INSERT INTO challenges ... VALUES (..., NULL)` -/
def insertNew (c : Challenge) (table : ChallengeTable) : Except Exn (ChallengeTable × Cursor) :=
  match table.insert ⟨c, none⟩ with
  | some table' => .ok (table', ⟨1, 0⟩)
  | none => .error (.integrityError "UNIQUE constraint failed: challenges.nonce")

/-- `nonce = ? AND consumed_at IS NULL`, for a bound text or `NULL`. -/
def pending (key : Option String) (r : ChallengeRow) : Bool :=
  some r.nonce == key && r.consumed_at.isNone

/-- `SELECT ... FROM challenges WHERE nonce = ? AND consumed_at IS NULL` -/
def selectPending (key : Option String) (table : ChallengeTable) : Option ChallengeRow :=
  table.find (pending key)

/-- `UPDATE challenges SET consumed_at = ? WHERE nonce = ? AND consumed_at IS NULL` -/
def markConsumed (now : Int) (key : Option String) (table : ChallengeTable) : ChallengeTable :=
  table.update (pending key) (fun r => { r with consumed_at := some now }) fun _ => rfl

theorem pending_iff {key : Option String} {r : ChallengeRow} :
    pending key r = true ↔ key = some r.nonce ∧ r.consumed_at = none := by
  simp only [pending, Bool.and_eq_true, beq_iff_eq, Option.isNone_iff_eq_none]
  exact and_congr_left fun _ => eq_comm

theorem selectPending_eq_some {n : String} {table : ChallengeTable} {r : ChallengeRow} :
    selectPending (some n) table = some r ↔ r ∈ table ∧ r.nonce = n ∧ r.consumed_at = none := by
  constructor
  · intro h
    obtain ⟨hr, hp⟩ := Table.find_some h
    obtain ⟨hn, hc⟩ := pending_iff.mp hp
    exact ⟨hr, (Option.some.inj hn).symm, hc⟩
  · rintro ⟨hr, rfl, hc⟩
    apply Table.find_eq hr (pending_iff.mpr ⟨rfl, hc⟩)
    intro b hb
    exact (Option.some.inj (pending_iff.mp hb).1).symm

theorem mem_deleteExpired {t : Int} {table : ChallengeTable} {r : ChallengeRow} :
    r ∈ deleteExpired t table ↔ r ∈ table ∧ t ≤ r.expires_at := by
  simp [deleteExpired, expired]

/-- The rows after the update: a pending row of that nonce is marked, the others stay. -/
theorem mem_markConsumed {t : Int} {key : Option String} {table : ChallengeTable}
    {r : ChallengeRow} : r ∈ markConsumed t key table ↔
      (r ∈ table ∧ pending key r = false) ∨
        ∃ a ∈ table, pending key a = true ∧ r = { a with consumed_at := some t } := by
  rw [markConsumed, Table.mem_update]
  constructor
  · rintro ⟨a, ha, rfl⟩
    split
    · next h => exact Or.inr ⟨a, ha, h, rfl⟩
    · next h => exact Or.inl ⟨ha, by simpa using h⟩
  · rintro (⟨hr, hp⟩ | ⟨a, ha, hp, rfl⟩)
    · exact ⟨r, hr, by simp [hp]⟩
    · exact ⟨a, ha, by simp [hp]⟩

theorem insertNew_taken {c : Challenge} {table : ChallengeTable}
    (h : ∃ r ∈ table, r.nonce = c.nonce) : insertNew c table =
      .error (.integrityError "UNIQUE constraint failed: challenges.nonce") := by
  rw [insertNew, Table.insert_eq_none.mpr h]

theorem insertNew_free {c : Challenge} {table : ChallengeTable}
    (h : ∀ r ∈ table, r.nonce ≠ c.nonce) : ∃ table', insertNew c table = .ok (table', ⟨1, 0⟩) ∧
      table'.rows = table.rows ++ [⟨c, none⟩] := by
  cases hi : table.insert ⟨c, none⟩ with
  | none =>
    obtain ⟨r, hr, hn⟩ := Table.insert_eq_none.mp hi
    exact absurd hn (h r hr)
  | some table' => exact ⟨table', by rw [insertNew, hi], (Table.insert_eq_some.mp hi).2⟩

end ChallengeTable

/-- How sqlite3 binds a value compared with a text column: a text is encoded, numbers are
compared by their text, `None` and `nan` as `NULL`. The text of a float has a dot or is `Inf`,
which no url-safe token is, so a float is bound like `NULL`. -/
def bindText : Json → Except Exn (Option String)
  | .null => .ok none
  | .bool b => .ok (some (if b then "1" else "0"))
  | .int n =>
    if fitsInt64 n then .ok (some (toString n))
    else .error (.uncaught "OverflowError" "Python int too large to convert to SQLite INTEGER")
  | .float _ => .ok none
  | .str (.text s) => .ok (some s)
  | .str (.lone t) => .error t.encodeError
  | .arr _ => .error (.uncaught "ProgrammingError" "Error binding parameter 1: type 'list' is not supported")
  | .obj _ => .error (.uncaught "ProgrammingError" "Error binding parameter 1: type 'dict' is not supported")

/-! ## The SQLite backend -/

namespace ChallengeStore

open Script ChallengeTable

abbrev Sql (α : Type) := Script ChallengeTable Exn α

/-- The values that sqlite3 binds for a new row. -/
def bindRow (challenge : Challenge PyStr) : Except Exn Challenge :=
  match challenge.domain, challenge.action with
  | .lone t, _ => .error t.encodeError
  | .text _, .lone t => .error t.encodeError
  | .text domain, .text action =>
    if fitsInt64 challenge.issued_at && fitsInt64 challenge.expires_at then
      .ok { challenge with domain := domain, action := action }
    else .error (.uncaught "OverflowError" "Python int too large to convert to SQLite INTEGER")

/-- `ChallengeStore.issue` of values that can be bound; `nonce` is what `new_challenge` draws. -/
def issue (ttl_seconds : Ttl) (nonce domain action : String) : Sql Challenge := do
  let issuedAt ← now
  let challenge := new_challenge nonce domain action ttl_seconds issuedAt
  let t ← now
  closing do
    let _ ← dml fun table => .ok (deleteExpired t table, ⟨0, 0⟩)
    let _ ← dml (insertNew challenge)
    commitNow
  return challenge

/-- The rows that `consume` reads and marks inside one immediate transaction. -/
def takeRow (t : Int) (nonce : Json) : Sql (Option ChallengeRow) :=
  closing do
    beginImmediate (ret ())
    let key ← ofExcept (bindText nonce)
    let row ← select (selectPending key)
    match row with
    | none =>
      commitNow
      return none
    | some r =>
      let _ ← dml fun table => .ok (markConsumed t key table, ⟨1, 0⟩)
      commitNow
      return some r

/-- What `consume` makes of the row it took at the reading `now`. -/
def unlessExpired (now : Int) : Option ChallengeRow → Option Challenge
  | none => none
  | some row => if row.expires_at < now then none else some row.toChallenge

def consume (nonce : Json) : Sql (Option Challenge) := do
  let t ← now
  let row ← takeRow t nonce
  return unlessExpired t row

end ChallengeStore

/-! ## The in-memory backend -/

/-- `ChallengeStore._pending`. -/
abbrev Pending := String → Option (Challenge PyStr)

namespace Pending

def issue (ttl_seconds : Ttl) (nonce : String) (domain action : PyStr) (now : Int)
    (pending : Pending) : Challenge PyStr × Pending :=
  let challenge := new_challenge nonce domain action ttl_seconds now
  (challenge, fun n => if n = nonce then some challenge else pending n)

def consume (nonce : PyStr) (now : Int) (pending : Pending) : Option (Challenge PyStr) × Pending :=
  match nonce with
  -- no drawn nonce is of this kind, so `pop` finds nothing
  | .lone _ => (none, pending)
  | .text nonce =>
    let rest : Pending := fun n => if n = nonce then none else pending n
    match pending nonce with
    | none => (none, rest)
    | some challenge => if challenge.expires_at < now then (none, rest) else (some challenge, rest)

end Pending

/-! ## One call at a time -/

namespace ChallengeStore

open Script ChallengeTable

theorem run_issue (ttl : Ttl) (nonce domain action : String) (t : Nat → Int)
    (table : ChallengeTable) :
    (issue ttl nonce domain action).run t table none =
      match insertNew (new_challenge nonce domain action ttl (t 0)) (deleteExpired (t 1) table) with
      | .error e => (.error e, table)
      | .ok (table', _) => (.ok (new_challenge nonce domain action ttl (t 0)), table') := by
  simp only [issue, Script.bind_eq, now_bind, closing, dml]
  cases h : insertNew (new_challenge nonce domain action ttl (t 0)) (deleteExpired (t 1) table) <;>
    simp [attempt, run, commitNow, Script.ofExcept, h]

/-- The table after `consume` looked for `key` at the reading `t`. -/
def consumed (t : Int) (key : Option String) (table : ChallengeTable) : ChallengeTable :=
  match selectPending key table with
  | none => table
  | some _ => markConsumed t key table

/-- After `consume` no row of that nonce is pending; the others are as before. -/
theorem selectPending_consumed (t : Int) (n m : String) (table : ChallengeTable) :
    selectPending (some m) (consumed t (some n) table) =
      if m = n then none else selectPending (some m) table := by
  unfold consumed
  cases hrow : selectPending (some n) table with
  | none =>
    by_cases h : m = n
    · simp [h, hrow]
    · simp [h]
  | some r =>
    apply Option.ext
    intro x
    rw [selectPending_eq_some, mem_markConsumed]
    constructor
    · rintro ⟨⟨hx, hp⟩ | ⟨a, _, _, rfl⟩, rfl, hc⟩
      · have hne : x.nonce ≠ n := by
          rintro rfl
          exact absurd hp (by rw [pending_iff.mpr ⟨rfl, hc⟩]; simp)
        rw [if_neg hne]
        exact selectPending_eq_some.mpr ⟨hx, rfl, hc⟩
      · cases hc
    · intro hx
      split at hx
      · cases hx
      · next hne =>
        obtain ⟨hmem, rfl, hc⟩ := selectPending_eq_some.mp hx
        refine ⟨Or.inl ⟨hmem, ?_⟩, rfl, hc⟩
        cases hp : pending (some n) x with
        | false => rfl
        | true => exact absurd (Option.some.inj (pending_iff.mp hp).1).symm hne

theorem run_consume (nonce : Json) (t : Nat → Int) (table : ChallengeTable) :
    (consume nonce).run t table none =
      match bindText nonce with
      | .error e => (.error e, table)
      | .ok key => (.ok (unlessExpired (t 0) (selectPending key table)), consumed (t 0) key table) := by
  simp only [consume, takeRow, Script.bind_eq, now_bind, closing, consumed]
  cases bindText nonce with
  | error e => simp [attempt, run, Script.ofExcept]
  | ok key =>
    cases hrow : selectPending key table <;>
      simp [attempt, run, Script.ofExcept, dml, select, commitNow, hrow]

end ChallengeStore

end NostrAuth
