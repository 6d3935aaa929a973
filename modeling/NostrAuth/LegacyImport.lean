import NostrAuth.Migration

/-! What opening a legacy file leaves behind: any number of processes open it, each may crash
at any step, and once one of them is done the import is complete. -/

set_option autoImplicit false

namespace NostrAuth.LegacyImport

open Transaction MappingDb MappingStore MappingOwnership Migration

/-! ## The imported rows -/

/-- The pubkey has no row. -/
def absent (rows : List IdentityRow) (user : LegacyRow) : Bool :=
  !rows.any fun r => r.pubkey == user.pubkey

theorem absent_iff {rows : List IdentityRow} {user : LegacyRow} :
    absent rows user = true ↔ ∀ r ∈ rows, r.pubkey ≠ user.pubkey := by
  simp [absent]

/-- The rows of `users` that the migration has to copy. -/
def missing (db : MappingDb) : List LegacyRow :=
  (db.users.getD []).filter (absent db.identities.rows)

theorem insertOrIgnore_rows {user : LegacyRow} {identities : Identities} :
    (identities.insertOrIgnore (LegacyRow.toRow user) fun _ => rfl).rows =
      if absent identities.rows user then identities.rows ++ [user.toRow (identities.seq + 1)]
      else identities.rows := by
  unfold Serial.insertOrIgnore
  cases hi : identities.insert (LegacyRow.toRow user) fun _ => rfl with
  | none =>
    obtain ⟨r, hr, hp⟩ := Serial.insert_eq_none.mp hi
    have hno : ¬absent identities.rows user = true := fun h => absent_iff.mp h r hr hp
    simp [hno, Serial.skip]
  | some t =>
    obtain ⟨hfree, hrows, _⟩ := Serial.insert_eq_some hi
    have hyes : absent identities.rows user = true := absent_iff.mpr hfree
    simp [hyes, hrows]

/-- Copying adds one row for each user whose pubkey has none, in the order of `users`. -/
theorem copyUsers_rows {users : List LegacyRow} (hdistinct : (users.map LegacyRow.pubkey).Nodup)
    (identities : Identities) :
    ∃ ids : List Int, ids.length = (users.filter (absent identities.rows)).length ∧
      (copyUsers users identities).rows = identities.rows ++
        List.zipWith LegacyRow.toRow (users.filter (absent identities.rows)) ids := by
  induction users generalizing identities with
  | nil => exact ⟨[], rfl, by simp [copyUsers]⟩
  | cons user users ih =>
    obtain ⟨hnew, hrest⟩ := List.nodup_cons.mp hdistinct
    obtain ⟨ids, hlength, hrows⟩ :=
      ih hrest (identities.insertOrIgnore (LegacyRow.toRow user) fun _ => rfl)
    rw [insertOrIgnore_rows] at hlength hrows
    by_cases hfree : absent identities.rows user = true
    · -- the later users have other pubkeys, so the new row hides none of them
      have hsame : users.filter (absent (identities.rows ++ [user.toRow (identities.seq + 1)])) =
          users.filter (absent identities.rows) := by
        apply List.filter_congr
        intro user' huser'
        have hne : user.pubkey ≠ user'.pubkey := fun h =>
          hnew (List.mem_map.mpr ⟨user', huser', h.symm⟩)
        simp [absent, LegacyRow.toRow, hne]
      simp only [hfree, if_true, hsame] at hlength hrows
      refine ⟨(identities.seq + 1) :: ids, ?_, ?_⟩
      · simp [hfree, hlength]
      · simp only [List.filter_cons, hfree, if_true, List.zipWith_cons_cons]
        rw [List.append_cons]
        exact hrows
    · simp only [hfree, if_false, Bool.false_eq_true] at hlength hrows
      have hskip : (user :: users).filter (absent identities.rows) =
          users.filter (absent identities.rows) := by simp [hfree]
      rw [hskip]
      exact ⟨ids, hlength, hrows⟩

/-- Where every pubkey has a row, copying adds none. -/
theorem copyUsers_taken {users : List LegacyRow} {identities : Identities}
    (h : ∀ user ∈ users, ∃ r ∈ identities, r.pubkey = user.pubkey) :
    (copyUsers users identities).rows = identities.rows := by
  induction users generalizing identities with
  | nil => rfl
  | cons user users ih =>
    have htaken : ¬absent identities.rows user = true := by
      intro habsent
      obtain ⟨r, hr, hp⟩ := h user (List.mem_cons_self ..)
      exact absent_iff.mp habsent r hr hp
    have hrows : (identities.insertOrIgnore (LegacyRow.toRow user) fun _ => rfl).rows =
        identities.rows := by
      rw [insertOrIgnore_rows, if_neg htaken]
    refine (ih fun user' huser' => ?_).trans hrows
    obtain ⟨r, hr, hp⟩ := h user' (List.mem_cons_of_mem _ huser')
    exact ⟨r, by rw [Serial.mem_def, hrows]; exact hr, hp⟩

/-! ## Opens among opens -/

/-- The script of a process that opens the file. -/
def opening (_ : Unit) : Sql MappingReply := program .reopen

abbrev OpenDb := Db Unit MappingDb Exn MappingReply

/-- The changes of the history are those of opens of the file `start`. -/
abbrev Opened (start : MappingDb) (x : Change MappingDb) (_ : List (Change MappingDb)) : Prop :=
  Opens (fun _ => True) (start.users = none) x.before x.after

theorem run_opened {start : MappingDb} {d : OpenDb} (hd : Reachable opening Anytime start d) :
    Linked (Opened start) start d.hist d.committed := by
  have hok : ∀ c : Unit, (opening c).Ok (fun _ _ db => db.users = start.users)
      (fun _ before after => Opens (fun _ => True) (start.users = none) before after)
      (fun trail _ => trail = [] → True) [] none := fun _ =>
    init_ok.mono (fun _ _ _ husers => ⟨fun _ _ => trivial, fun hnone => husers ▸ hnone,
      fun _ => trivial⟩) (fun _ _ _ h => h) fun _ _ h => h
  have hv := hd.verified (Sound.anytime hok fun _ _ _ _ hI hG => hG.1.trans hI) rfl
  exact hv.hist.mono fun x older ⟨_, _, hopens⟩ => hopens

/-- The import is complete: what the file holds against what it held. -/
structure Imported (start db : MappingDb) : Prop where
  rows : ∃ ids : List Int, ids.length = (missing start).length ∧
    db.identities.rows =
      start.identities.rows ++ List.zipWith LegacyRow.toRow (missing start) ids
  users : db.users = start.users
  version : LEGACY_MIGRATION_VERSION ≤ db.user_version
  again : ∀ (steps : List (StoreStep × (Nat → Int))) (t : Nat → Int),
    (perform .reopen t (after steps db)).2 = after steps db

/-- The first open that commits imports the rows, and the later ones find nothing to add. -/
theorem opened_rows {start db : MappingDb} {hist : List (Change MappingDb)}
    (h : Linked (Opened start) start hist db) (hne : hist ≠ []) :
    db.users = start.users ∧ LEGACY_MIGRATION_VERSION ≤ db.user_version ∧
      db.identities.rows = (copyUsers (start.users.getD []) start.identities).rows := by
  suffices hall : db.users = start.users ∧ (hist = [] → db = start) ∧ (hist ≠ [] →
      LEGACY_MIGRATION_VERSION ≤ db.user_version ∧
        db.identities.rows = (copyUsers (start.users.getD []) start.identities).rows) from
    ⟨hall.1, hall.2.2 hne⟩
  clear hne
  refine h.rule (R := fun hist db => db.users = start.users ∧ (hist = [] → db = start) ∧
    (hist ≠ [] → LEGACY_MIGRATION_VERSION ≤ db.user_version ∧
      db.identities.rows = (copyUsers (start.users.getD []) start.identities).rows))
    ⟨rfl, fun _ => rfl, fun hne => absurd rfl hne⟩ fun x older hx _ ih => ?_
  obtain ⟨husers, hfirst, hlater⟩ := ih
  obtain ⟨hkept, hversion, hrows⟩ := hx
  refine ⟨hkept.trans husers, nofun, fun _ => ⟨hversion, ?_⟩⟩
  by_cases holder : older = []
  · -- the first change meets the file as it was
    obtain hstart := hfirst holder
    rcases hrows with ⟨hsame, hnone⟩ | ⟨_, hcopy⟩
    · rw [hsame, hstart, hnone]
      rfl
    · rw [hcopy, hstart]
  · obtain ⟨_, hdone⟩ := hlater holder
    rcases hrows with ⟨hsame, _⟩ | ⟨_, hcopy⟩
    · rw [hsame]
      exact hdone
    · rw [hcopy, husers, copyUsers_taken, hdone]
      intro user huser
      obtain ⟨r, hr, hp⟩ : ∃ r ∈ copyUsers (start.users.getD []) start.identities,
          r.pubkey = user.pubkey := exists_copyUsers huser
      exact ⟨r, by rw [Serial.mem_def, hdone]; exact hr, hp⟩

/-! ## Opens that commit nothing -/

/-- An open that ended left a change behind: itself or another one committed. -/
theorem ended_committed {start : MappingDb} (hv : start.user_version < LEGACY_MIGRATION_VERSION)
    {d : OpenDb} (hd : Reachable opening Anytime start d) {i : Nat}
    {p : Proc Unit MappingDb Exn MappingReply} (hp : d.proc i = some p) (hc : p.crashed = false)
    {reply : MappingReply} (hrest : p.rest = .ret reply) : d.hist ≠ [] := by
  intro hnil
  -- every open met the file at its old version, so none of them skipped the commit
  have hok : ∀ c : Unit, (opening c).Ok (fun _ _ db => db = start) (fun _ _ _ => True)
      (fun trail _ => trail = [] → False) [] none := by
    intro c
    have hinit : (opening c).Ok _ (fun _ before after => Opens (fun _ => True) True before after)
        (fun trail _ => trail = [] → False) [] none := init_ok
    refine hinit.mono (fun _ _ db hdb => ?_) (fun _ _ _ _ => trivial) fun _ _ h => h
    refine ⟨fun _ _ => trivial, fun _ => trivial, fun hlate => ?_⟩
    rw [hdb] at hlate
    omega
  have hsound : Sound opening (fun _ (d : OpenDb) => d.committed = start) (fun _ => True)
      (fun _ _ _ db => db = start) (fun _ _ _ _ => True) (fun _ trail _ => trail = [] → False) :=
    ⟨hok, fun _ _ _ _ _ _ => trivial, fun _ _ _ _ hmay _ => hmay⟩
  have hended := (((hd.quiet hnil).2.verified hsound trivial).ended hp hc).1 reply hrest
  apply hended
  rw [hnil]
  rfl

/-- What any number of opens of one file have done to it. -/
structure Opening (start : MappingDb) (d : OpenDb) : Prop where
  untouched : d.hist = [] → d.committed = start
  imported : ∀ i p reply, d.proc i = some p → p.crashed = false → p.rest = .ret reply →
    Imported start d.committed

/-- **The import survives crashes.** However many opens of a legacy file crash and wherever,
one that ends leaves the old rows and one row for each user whose pubkey had none; from then
on no open adds a row. -/
theorem import_faithful (start : MappingDb) (d : OpenDb)
    (hold : start.user_version < LEGACY_MIGRATION_VERSION)
    (hdistinct : ((start.users.getD []).map LegacyRow.pubkey).Nodup)
    (hd : Reachable opening Anytime start d) : Opening start d := by
  refine ⟨fun hnil => (hd.quiet hnil).1, fun i p reply hp hc hrest => ?_⟩
  have hne := ended_committed hold hd hp hc hrest
  obtain ⟨husers, hversion, hrows⟩ := opened_rows (run_opened hd) hne
  obtain ⟨ids, hlength, hcopied⟩ := copyUsers_rows hdistinct start.identities
  exact ⟨⟨ids, hlength, hrows.trans hcopied⟩, husers, hversion,
    fun steps t => reopen_migrated (after_version hversion) t⟩

/-- A file with one identity of its own and two legacy accounts, one of them imported before. -/
def mixedFile : MappingDb :=
  ⟨Serial.empty.insertOrIgnore (LegacyRow.toRow ⟨"alice", "pk1", 1, none, 1⟩) fun _ => rfl, 0,
    some [⟨"alice", "pk1", 1, none, 1⟩, ⟨"bob", "pk2", 2, some 3, 0⟩]⟩

/-- One open crashes before its commit, another one waits for its lock and ends. -/
def crashedMoves : List (Move Unit) :=
  [.start 0 (), .go 0 0, .go 0 0, .start 1 (), .go 1 0, .go 1 0, .go 0 0, .go 1 0, .go 0 0,
    .crash 0, .go 1 0, .go 1 0, .go 1 0, .go 1 0]

def crashedRun : OpenDb := (Db.init mixedFile).play opening crashedMoves

theorem crashedRun_imported : (∃ p, crashedRun.proc 0 = some p ∧ p.crashed = true) ∧
    (∃ p, crashedRun.proc 1 = some p ∧ p.rest = .ret .done) ∧ Opening mixedFile crashedRun :=
  ⟨⟨_, rfl, rfl⟩, ⟨_, rfl, rfl⟩, import_faithful mixedFile crashedRun (by decide) (by decide)
    (Reachable.init.play (admits_anytime opening (Db.init mixedFile) crashedMoves))⟩

end NostrAuth.LegacyImport
