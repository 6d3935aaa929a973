import NostrAuth.MappingEffects

/-! Calls of many processes on one identities file, statement by statement. Each commit is
one call's sequential specification; what is left of the property after a call raised
depends on the read-back of `add_identity`. -/

set_option autoImplicit false

namespace NostrAuth.MappingConcurrency

open Transaction MappingDb MappingStore MappingCall

abbrev Trail := List (MappingDb × MappingDb)
abbrev StoreDb := Db MappingCall MappingDb Exn MappingReply

/-- The row that an `add_identity` call committed is still there when the call is about
to read it back. -/
def Undisturbed (c : MappingCall) (trail : Trail) (rest : Sql MappingReply) (db : MappingDb) :
    Prop :=
  ∀ u p metadata k before after older, c = .add_identity u p metadata → rest = .query k →
    trail = (before, after) :: older →
    ∀ r ∈ after, r.pubkey = p → ∃ r' ∈ db, r'.identity_id = r.identity_id

/-- The steps of the runs below: nobody has deleted the row of the call `i` that is about
to read it back. -/
def Admitted (i : Nat) (d : StoreDb) : Prop :=
  ∀ p, d.proc i = some p → Undisturbed p.call p.trail p.rest d.committed

/-- What a call may commit: its sequential specification, once. -/
def Commits (c : MappingCall) (trail : Trail) (before after : MappingDb) : Prop :=
  trail = [] ∧ c.Effect before after

/-- How a call may end: having raised and, where `quiet` holds, changed nothing, or having
done its work. -/
def Ends (quiet : Prop) (c : MappingCall) (trail : Trail) : Except Exn MappingReply → Prop
  | .error _ => quiet → trail = []
  | .ok _ => if c.writes then ∃ x, trail = [x] ∧ c.Effect x.1 x.2 else trail = []

/-- The description each script meets, where `quiet` promises that it is undisturbed. -/
abbrev Meets (quiet : Prop) (c : MappingCall) : Prop :=
  c.program.Ok (fun trail rest db => quiet → Undisturbed c trail rest db) (Commits c)
    (Ends quiet c) [] none

section Scripts

variable {quiet : Prop}

theorem link_ok (u p : String) (metadata : Metadata) : Meets quiet (.link u p metadata) := by
  simp only [Meets, program, method, wrap, MappingStore.link, Script.bind_eq, Script.select_bind, Script.closing,
    Script.attempt, Script.query_bind, Script.Ok, Script.meets]
  intro seen _
  cases checkOther u (ownerOf p seen) with
  | error e => simp [Script.ofExcept, Script.attempt, Script.Ok, Ends]
  | ok x =>
    simp only [Script.ofExcept, Script.ret_bind, Script.dml, Script.execute_bind, Script.attempt,
      Script.Ok, Script.meets, Script.now_bind, Script.clock_bind]
    intro before _ t
    cases h : insertNew u p t metadata (deleteUser u before).1 with
    | error e => simp [Script.attempt, Script.Ok, Ends]
    | ok y =>
      have heff : Effect (.link u p metadata) before y.1 := ⟨t, y.2, h⟩
      simp [Script.attempt, Script.commitNow, Script.Ok, Commits, Ends, heff, writes]

/-- An undisturbed call finds its row again. -/
theorem Undisturbed.found {u p : String} {metadata : Metadata} {t : Int} {c : Cursor}
    {before after seen : MappingDb} {k : MappingDb → Sql MappingReply} {older : Trail}
    (hins : insertNew u p t metadata before = .ok (after, c))
    (h : Undisturbed (.add_identity u p metadata) ((before, after) :: older) (.query k) seen) :
    ∃ r, (seen.identities.find fun r => r.identity_id == c.lastrowid) = some r := by
  obtain ⟨_, hmem, _, rfl, _⟩ := insertRow_ok hins
  obtain ⟨r, hr, hid⟩ := h u p metadata k before after older rfl rfl rfl _
    ((hmem _).mpr (Or.inr rfl)) rfl
  cases hf : seen.identities.find fun r => r.identity_id == before.identities.seq + 1 with
  | none => simpa [hid, newRow] using Table.find_none hf hr
  | some r' => exact ⟨r', rfl⟩

theorem add_identity_ok (u p : String) (metadata : Metadata) :
    Meets quiet (.add_identity u p metadata) := by
  simp only [Meets, program, method, wrap, MappingStore.add_identity, Script.bind_eq, Script.now_bind,
    Script.clock_bind, Script.select_bind, Script.closing, Script.attempt, Script.query_bind,
    Script.Ok, Script.meets]
  intro t seen _
  cases checkAny u (ownerOf p seen) with
  | error e => simp [Script.ofExcept, Script.attempt, Script.Ok, Ends]
  | ok x =>
    simp only [Script.ofExcept, Script.ret_bind, Script.dml, Script.execute_bind, Script.attempt,
      Script.Ok, Script.meets]
    intro before _
    cases h : insertNew u p t metadata before with
    | error e => simp [Script.attempt, Script.Ok, Ends]
    | ok y =>
      have heff : Effect (.add_identity u p metadata) before y.1 := ⟨t, y.2, h⟩
      simp only [Script.ret_bind, Script.commitNow, Script.commit_bind, Script.attempt,
        Script.close_bind, Script.Ok, Script.pure_eq, Commits, get_by_id, Script.bind_eq,
        Script.select_bind, Script.closing, Script.query_bind, Script.meets]
      refine ⟨⟨trivial, heff⟩, fun seen' hseen => ?_⟩
      cases hr : seen'.identities.find fun r => r.identity_id == y.2.lastrowid with
      | some r => simp [Script.ofExcept, Script.Ok, Ends, heff, writes]
      | none =>
        have hnot : ¬quiet := fun hq => by
          obtain ⟨r, hfound⟩ := (hseen hq).found h
          rw [hr] at hfound
          cases hfound
        simp [Script.ofExcept, Script.Ok, Ends, hnot]

theorem link_unencodable_ok (replace : Bool) (u : PyStr) (p : String) (text : LoneText) :
    Meets quiet (.link_unencodable replace u p text) := by
  simp only [Meets, program, method, wrap, MappingStore.linkUnencodable, Script.bind_eq,
    Script.select_bind, Script.closing, Script.attempt, Script.query_bind, Script.Ok, Script.meets]
  intro seen _
  cases checkText replace u (ownerOf p seen) with
  | error e => simp [Script.ofExcept, Script.attempt, Script.Ok, Ends]
  | ok x => simp [Script.ofExcept, Script.attempt, Script.Ok, Ends]

theorem unlink_ok (u : String) : Meets quiet (.unlink u) := by
  simp only [Meets, program, method, wrap, MappingStore.unlink, Script.bind_eq, Script.closing, Script.dml,
    Script.execute_bind, Script.attempt, Script.Ok, Script.meets]
  intro before _
  have heff : Effect (.unlink u) before (deleteUser u before).1 := rfl
  simp [Script.ofExcept, Script.attempt, Script.commitNow, Script.Ok, Commits, Ends, heff, writes]

theorem revoke_identity_ok (id : Int) (u : String) : Meets quiet (.revoke_identity id u) := by
  simp only [Meets, program, method, wrap, MappingStore.revoke_identity, Script.bind_eq, Script.closing,
    Script.now_bind, Script.clock_bind, Script.attempt, Script.Ok]
  intro t
  cases h : bindInt id with
  | error e => simp [Script.ofExcept, Script.attempt, Script.Ok, Ends]
  | ok n =>
    obtain ⟨hfits, rfl⟩ := bindInt_eq_ok.mp h
    simp only [Script.ofExcept, Script.ret_bind, Script.dml, Script.execute_bind, Script.attempt,
      Script.Ok, Script.meets]
    intro before _
    have heff : Effect (.revoke_identity n u) before (revokeRow t n u before).1 := ⟨t, hfits, rfl⟩
    simp [Script.attempt, Script.commitNow, Script.Ok, Commits, Ends, heff, writes]

theorem update_identity_label_ok (id : Int) (u : String) (label : Option String) :
    Meets quiet (.update_identity_label id u label) := by
  cases h : bindInt id with
  | error e =>
    simp [Meets, program, method, wrap, MappingStore.update_identity_label, Script.closing, h, Script.ofExcept,
      Script.attempt, Script.Ok, Ends]
  | ok n =>
    obtain ⟨hfits, rfl⟩ := bindInt_eq_ok.mp h
    simp only [Meets, program, method, wrap, MappingStore.update_identity_label, Script.closing, h,
      Script.ofExcept, Script.bind_eq, Script.ret_bind, Script.dml, Script.execute_bind,
      Script.attempt, Script.Ok, Script.meets]
    intro before _
    have heff : Effect (.update_identity_label n u label) before (labelRow label n u before).1 :=
      ⟨hfits, rfl⟩
    simp only [Script.ret_bind, Script.commitNow, Script.commit_bind, Script.attempt,
      Script.close_bind, Script.Ok, Script.pure_eq, Commits]
    refine ⟨⟨trivial, heff⟩, ?_⟩
    split
    · simp [get_by_id, Script.closing, Script.attempt, Script.ofExcept, Script.Ok, Script.meets, Ends,
        heff, writes]
    · simp [Script.Ok, Ends, heff, writes]

theorem touch_last_used_ok (u : String) : Meets quiet (.touch_last_used u) := by
  simp only [Meets, program, method, wrap, MappingStore.touch_last_used, Script.bind_eq, Script.closing,
    Script.now_bind, Script.clock_bind, Script.dml, Script.execute_bind, Script.attempt, Script.Ok,
    Script.meets]
  intro t before _
  have heff : Effect (.touch_last_used u) before (touchUser t u before).1 := ⟨t, rfl⟩
  simp [Script.ofExcept, Script.attempt, Script.commitNow, Script.Ok, Commits, Ends, heff, writes]

theorem touch_identity_ok (id : Int) : Meets quiet (.touch_identity id) := by
  simp only [Meets, program, method, wrap, MappingStore.touch_identity, Script.bind_eq, Script.closing,
    Script.now_bind, Script.clock_bind, Script.attempt, Script.Ok]
  intro t
  cases h : bindInt id with
  | error e => simp [Script.ofExcept, Script.attempt, Script.Ok, Ends]
  | ok n =>
    obtain ⟨hfits, rfl⟩ := bindInt_eq_ok.mp h
    simp only [Script.ofExcept, Script.ret_bind, Script.dml, Script.execute_bind, Script.attempt,
      Script.Ok, Script.meets]
    intro before _
    have heff : Effect (.touch_identity n) before (touchRow t n before).1 := ⟨t, hfits, rfl⟩
    simp [Script.attempt, Script.commitNow, Script.Ok, Commits, Ends, heff, writes]

theorem program_ok (c : MappingCall) : Meets quiet c := by
  cases c with
  | link u p metadata => exact link_ok u p metadata
  | add_identity u p metadata => exact add_identity_ok u p metadata
  | unlink u => exact unlink_ok u
  | revoke_identity id u => exact revoke_identity_ok id u
  | update_identity_label id u label => exact update_identity_label_ok id u label
  | touch_last_used u => exact touch_last_used_ok u
  | touch_identity id => exact touch_identity_ok id
  | link_unencodable replace u p text => exact link_unencodable_ok replace u p text
  | get_by_pubkey p =>
    simp [Meets, program, method, wrap, MappingStore.get_by_pubkey, Script.closing, Script.attempt, Script.Ok,
      Script.meets, Script.ofExcept, Ends, writes]
  | get_by_username u =>
    simp [Meets, program, method, wrap, MappingStore.get_by_username, Script.closing, Script.attempt, Script.Ok,
      Script.meets, Script.ofExcept, Ends, writes]
  | list_by_username u all =>
    simp [Meets, program, method, wrap, MappingStore.list_by_username, Script.closing, Script.attempt, Script.Ok,
      Script.meets, Script.ofExcept, Ends, writes]
  | list_all =>
    simp [Meets, program, method, wrap, MappingStore.list_all, Script.closing, Script.attempt, Script.Ok,
      Script.meets, Script.ofExcept, Ends, writes]

end Scripts

/-! ## Runs -/

theorem run_verified {start : MappingDb} {d : StoreDb} (hd : Reachable program Admitted start d) :
    Verified start (fun _ => True) (fun c trail rest db => True → Undisturbed c trail rest db)
      Commits (Ends True) d :=
  hd.verified ⟨program_ok, fun _ _ _ _ _ _ => trivial, fun _ _ p _ hmay hp _ => hmay p hp⟩ trivial

/-- What the calls of a run have done to the file. -/
structure Atomic (start : MappingDb) (d : StoreDb) : Prop where
  /-- The commits lead from the first file to the current one, and each of them is the one
  commit of its call and makes of the file what that call alone would have made of it. -/
  sequential : Linked (fun x older => ∃ p, d.proc x.who = some p ∧ changesOf x.who older = [] ∧
    ∃ t reply, p.call.alone t x.before = (.ok reply, x.after)) start d.hist d.committed
  link_owner : ∀ x ∈ d.hist, ∀ p u q metadata, d.proc x.who = some p →
    p.call = .link u q metadata → ∀ r ∈ x.before, r.pubkey = q → r.ynh_username = u
  add_fresh : ∀ x ∈ d.hist, ∀ p u q metadata, d.proc x.who = some p →
    p.call = .add_identity u q metadata → ∀ r ∈ x.before, r.pubkey ≠ q
  raise_traceless : ∀ i p e, d.proc i = some p → p.crashed = false → p.rest = .raise e →
    ∀ x ∈ d.hist, x.who ≠ i
  distinct : (d.committed.identities.rows.map IdentityRow.pubkey).Nodup
  /-- A row goes only with `unlink`, or with a `link` whose own row is there instead. -/
  no_loss : ∀ x ∈ d.hist, ∀ a ∈ x.before, (∀ r ∈ x.after, r.identity_id ≠ a.identity_id) →
    ∃ p, d.proc x.who = some p ∧ (p.call = .unlink a.ynh_username ∨
      ∃ q metadata, p.call = .link a.ynh_username q metadata ∧
        ∃ r ∈ x.after, r.ynh_username = a.ynh_username ∧ r.pubkey = q ∧ r.enabled = 1)

/-- **Mapping operations are atomic** in every run in which no read-back of `add_identity`
finds its row deleted. -/
theorem mapping_atomic (start : MappingDb) (d : StoreDb)
    (hd : Reachable program Admitted start d) : Atomic start d := by
  have hv := run_verified hd
  have heffect : ∀ x ∈ d.hist, ∃ p, d.proc x.who = some p ∧ p.call.Effect x.before x.after := by
    intro x hx
    obtain ⟨_, p, hp, _, heff⟩ := hv.hist.of_mem hx
    exact ⟨p, hp, heff⟩
  refine ⟨hv.hist.mono ?_, ?_, ?_, ?_, d.committed.identities.unique, ?_⟩
  · rintro x older ⟨p, hp, hfirst, heff⟩
    exact ⟨p, hp, hfirst, heff.alone⟩
  · intro x hx p u q metadata hp hcall
    obtain ⟨p', hp', heff⟩ := heffect x hx
    rw [hp, Option.some.injEq] at hp'
    rw [← hp', hcall] at heff
    exact heff.owner
  · intro x hx p u q metadata hp hcall
    obtain ⟨p', hp', heff⟩ := heffect x hx
    rw [hp, Option.some.injEq] at hp'
    rw [← hp', hcall] at heff
    exact heff.fresh
  · rintro i p e hp hcrash hrest x hx rfl
    have hend : changesOf x.who d.hist = [] := (hv.ended hp hcrash).2 e hrest trivial
    have hmem : (x.before, x.after) ∈ changesOf x.who d.hist := mem_changesOf.mpr hx
    rw [hend] at hmem
    cases hmem
  · intro x hx a ha hgone
    obtain ⟨p, hp, heff⟩ := heffect x hx
    refine ⟨p, hp, ?_⟩
    rcases heff.fate ha with ⟨r, hr, hsame⟩ | hunlink | ⟨q, metadata, hlink⟩
    · exact absurd hsame.identity_id (hgone r hr)
    · exact Or.inl hunlink
    · rw [hlink] at heff
      obtain ⟨t, c, hins⟩ := heff
      exact Or.inr ⟨q, metadata, hlink, _, ((insertNew_ok hins).2 _).mpr (Or.inr rfl), rfl, rfl, rfl⟩

/-- An account links one pubkey and adds another. -/
def undisturbedMoves : List (Move MappingCall) :=
  [.start 0 (.link "alice" "pk1" {}), .go 0 0, .go 0 0, .go 0 10, .go 0 0, .go 0 0, .go 0 0,
    .start 1 (.add_identity "alice" "pk2" {}), .go 1 20, .go 1 0, .go 1 0, .go 1 0, .go 1 0,
    .go 1 0, .go 1 0]

def undisturbedRun : StoreDb := (Db.init MappingDb.empty).play program undisturbedMoves

theorem undisturbed_admitted : Admits program Admitted (Db.init MappingDb.empty) undisturbedMoves := by
  refine ⟨?_, ?_, ?_, ?_, ?_, ?_, ?_, ?_, ?_, ?_, ?_, ?_, ?_, ?_, ?_, trivial⟩ <;>
    (intro p hp; cases hp) <;> intro u q metadata k before after older hcall hrest htrail <;>
    first
    | (cases hcall; done)
    | (cases htrail; done)
    | (cases hrest; done)
    | (cases hcall; cases htrail; exact fun r hr _ => ⟨r, hr, rfl⟩)

theorem undisturbedRun_atomic : (∃ p i, undisturbedRun.proc 1 = some p ∧ p.rest = .ret (.identity (some i))) ∧
    Atomic MappingDb.empty undisturbedRun :=
  ⟨⟨_, _, rfl, rfl⟩, mapping_atomic MappingDb.empty undisturbedRun (Reachable.init.play undisturbed_admitted)⟩

/-- While `add_identity` runs, another process unlinks the account between its commit and
its read-back. -/
def unlinkedMoves : List (Move MappingCall) :=
  [.start 0 (.add_identity "alice" "pk1" {}), .go 0 10, .go 0 0, .go 0 0, .go 0 0, .go 0 0,
    .start 1 (.unlink "alice"), .go 1 0, .go 1 0, .go 1 0, .go 0 0, .go 0 0]

/-- A call that raises may have committed before. -/
theorem raise_leaves_trace : ¬∀ d : StoreDb, Reachable program Anytime MappingDb.empty d →
    ∀ i p e, d.proc i = some p → p.crashed = false → p.rest = .raise e →
      ∀ x ∈ d.hist, x.who ≠ i := by
  intro h
  have hrun := Reachable.init.play (admits_anytime program (Db.init MappingDb.empty) unlinkedMoves)
  exact h _ hrun 0 _ _ rfl rfl rfl _ (List.mem_cons_of_mem _ (List.mem_cons_self ..)) rfl

end NostrAuth.MappingConcurrency
