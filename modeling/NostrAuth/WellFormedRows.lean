import NostrAuth.MappingOwnership
import NostrAuth.RowWriters

/-! The rows of `identities` under the service and the commands of its administrators: `link`
stores its label without the checks that every other writer makes. -/

set_option autoImplicit false

namespace NostrAuth.AdminCli

open Interaction Prog MappingStore

/-! ## Labels of the command line -/

/-- Not empty, but blank or too long once it is stripped. -/
def BadLabel : Option String → Prop
  | none => False
  | some label => label ≠ "" ∧ (strip label = "" ∨ 120 < len (strip label))

theorem labelOk_storedLabel {label : Option String} :
    LabelOk (storedLabel label) ↔ ¬BadLabel label := by
  cases label with
  | none => simp [storedLabel, LabelOk, BadLabel]
  | some label =>
    by_cases hempty : label = ""
    · simp [storedLabel, LabelOk, BadLabel, hempty]
    · simp only [storedLabel, LabelOk, BadLabel, if_neg hempty, trimmed_strip, true_and]
      simp [hempty]

/-- The call with which `_link` records a mapping. -/
def recordCall (add : Bool) (username pubkey_hex : String) (metadata : Metadata) : MappingCall :=
  if add then .add_identity username pubkey_hex metadata else .link username pubkey_hex metadata

/-- The pubkey is free for the call: nobody has it, or, without `--add`, no other account. -/
def FreeFor (add : Bool) (username pubkey_hex : String) (db : MappingDb) : Prop :=
  ∀ r ∈ db, r.pubkey = pubkey_hex → add = false ∧ r.ynh_username = username

/-- The call of a `link` command. -/
def Records (sdk : NostrSdk) (command : Command) (label : Option String) (add : Bool)
    (username pubkey_hex : String) (o : CliOp) : Prop :=
  ∃ pubkey_or_npub signer_type, command = .link username pubkey_or_npub add signer_type label ∧
    Npub.parse_to_hex sdk pubkey_or_npub = .ok pubkey_hex ∧
    o = .mapping (recordCall add username pubkey_hex
      ⟨signer_type.getD "unknown", storedLabel label, "admin"⟩)

/-! ## Commands -/

/-- The call stores nothing that does not belong in a row. -/
def Proper : CliOp → Prop
  | .mapping c => c.Valid
  | _ => True

/-- What a command may store: what belongs in a row, or as `link` the label it was given. -/
def Stores (sdk : NostrSdk) (command : Command) (o : CliOp) : Prop :=
  Proper o ∨ ∃ label add username pubkey_hex,
    Records sdk command label add username pubkey_hex o ∧ BadLabel label

/-- The program keeps to what the command may store. -/
abbrev Tidy {α : Type} (sdk : NostrSdk) (command : Command) (p : Cli α) : Prop :=
  p.Within (fun _ => True) (Stores sdk command) fun _ => True

section Tidy

variable {sdk : NostrSdk} {command : Command} {α β : Type} {p : Cli α}

theorem Tidy.bind {f : α → Cli β} (hp : Tidy sdk command p) (hf : ∀ a, Tidy sdk command (f a)) :
    Tidy sdk command (p.bind f) := Within.bind hp (fun a _ => hf a) fun _ _ => trivial

theorem Tidy.attempt_bind {f : Except Exn α → Cli β} (hp : Tidy sdk command p)
    (hf : ∀ x, Tidy sdk command (f x)) :
    Tidy sdk command ((p.attempt : Cli (Except Exn α)).bind f) :=
  Within.attempt_bind hp fun x _ => hf x

theorem tidy_ofExcept (x : Except Exn α) : Tidy sdk command (Prog.ofExcept x : Cli α) := by
  cases x with
  | ok a => trivial
  | error e => trivial

theorem tidy_call {c : MappingCall} (hc : Stores sdk command (.mapping c)) :
    Tidy sdk command (mappings c) := ⟨hc, fun r _ => tidy_ofExcept r⟩

theorem tidy_mapping {c : MappingCall} (hc : c.Valid) : Tidy sdk command (mappings c) :=
  tidy_call (Or.inl hc)

theorem tidy_done (text : String) : Tidy sdk command (done text) :=
  ⟨Or.inl trivial, fun _ _ => trivial⟩

theorem tidy_fail (text : String) : Tidy sdk command (fail text) :=
  ⟨Or.inl trivial, fun _ _ => trivial⟩

theorem tidy_withStore {p : Cli Int} (hp : Tidy sdk command p) : Tidy sdk command (withStore p) :=
  ⟨Or.inl trivial, fun _ _ => hp⟩

end Tidy

section Commands

variable (sdk : NostrSdk)

theorem tidy_record {command : Command} {add : Bool} {username pubkey : String}
    {metadata : Metadata}
    (hcall : Stores sdk command (.mapping (recordCall add username pubkey metadata))) :
    Tidy sdk command (record add username pubkey metadata) := by
  cases add with
  | true => exact (tidy_call hcall).bind fun _ => trivial
  | false => exact tidy_call hcall

theorem recordCall_valid {add : Bool} {username pubkey : String} {metadata : Metadata}
    (h : username ≠ "" ∧ metadata.signer_type ∈ Server.SIGNER_TYPES ∧ LabelOk metadata.label) :
    (recordCall add username pubkey metadata).Valid := by
  cases add with
  | true => exact h
  | false => exact h

theorem tidy_link {username pubkey_or_npub : String} {add : Bool}
    {signer_type label : Option String} (hsigner : signer_type.getD "unknown" ∈ signerTypes) :
    Tidy sdk (.link username pubkey_or_npub add signer_type label)
      (_link sdk username pubkey_or_npub add (signer_type.getD "unknown") label) := by
  unfold _link
  split
  · exact tidy_fail _
  · next hu =>
    split
    · exact tidy_fail _
    · split
      · exact tidy_fail _
      · trivial
      · next pubkey hpubkey =>
        refine (tidy_record sdk ?_).attempt_bind fun outcome => ?_
        · by_cases hlabel : BadLabel label
          · exact Or.inr ⟨label, add, username, pubkey,
              ⟨pubkey_or_npub, signer_type, rfl, hpubkey, rfl⟩, hlabel⟩
          · exact Or.inl (recordCall_valid ⟨hu, hsigner, labelOk_storedLabel.mpr hlabel⟩)
        · split
          · exact tidy_fail _
          · trivial
          · exact (tidy_ofExcept _).bind fun _ => tidy_done _

variable {command : Command}

theorem tidy_unlink (username : String) : Tidy sdk command (_unlink username) := by
  unfold _unlink
  split
  · exact tidy_fail _
  · refine (tidy_mapping (c := .get_by_username username) trivial).bind fun identity => ?_
    split
    · exact tidy_done _
    · exact (tidy_mapping (c := .unlink username) trivial).bind fun _ => tidy_done _

theorem tidy_revoke (username : String) (id : Int) : Tidy sdk command (_revoke username id) := by
  unfold _revoke
  split
  · exact tidy_fail _
  · split
    · exact tidy_fail _
    · refine (tidy_mapping (c := .revoke_identity id username) trivial).bind fun revoked => ?_
      split
      · exact tidy_done _
      · exact tidy_fail _

theorem tidy_rename (username : String) (id : Int) (label : String) :
    Tidy sdk command (_rename username id label) := by
  unfold _rename
  split
  · exact tidy_fail _
  · split
    · exact tidy_fail _
    · split
      · exact tidy_fail _
      · next hlabel =>
        obtain ⟨hblank, hlen⟩ := not_or.mp hlabel
        have hvalid : LabelOk (some (strip label)) := labelOk_strip hblank (by omega)
        refine (tidy_mapping (c := .update_identity_label id username (some (strip label)))
          hvalid).bind fun identity => ?_
        split
        · exact tidy_fail _
        · exact tidy_done _

theorem tidy_printIdentities (identities : List Identity) :
    Tidy sdk command (printIdentities sdk identities) := by
  induction identities with
  | nil => trivial
  | cons identity rest ih =>
    exact (tidy_ofExcept _).bind fun line => ⟨Or.inl trivial, fun _ _ => ih⟩

theorem tidy_list : Tidy sdk command (_list sdk) := by
  refine (tidy_mapping (c := .list_all) trivial).bind fun identities => ?_
  split
  · exact tidy_done _
  · exact tidy_printIdentities sdk identities

/-- **Every command** stores what belongs in a row, or is a `link` with a bad label. -/
theorem tidy_main (command : Command) : Tidy sdk command (main sdk command) := by
  cases command with
  | link username pubkey_or_npub add signer_type label =>
    show Tidy sdk _ (if _ then _ else _)
    split
    · next hsigner => exact tidy_withStore (tidy_link sdk hsigner)
    · trivial
  | unlink username => exact tidy_withStore (tidy_unlink sdk username)
  | revoke username identity_id =>
    simp only [main]
    split
    · exact tidy_withStore (tidy_revoke sdk username _)
    · trivial
  | rename username identity_id label =>
    simp only [main]
    split
    · exact tidy_withStore (tidy_rename sdk username _ label)
    · trivial
  | list => exact tidy_withStore (tidy_list sdk)

end Commands

/-! ## Runs -/

abbrev SystemEntry := Entry (Op ⊕ CliOp) (Sum.elim Op.Ans CliOp.Ans) Oracle World

/-- A `link` command stores a bad label: it reached its call, and the pubkey was free for it. -/
inductive Careless (sdk : NostrSdk) (c : SystemRun) (e : SystemEntry) : Prop
  | link (command : Command) (label : Option String) (add : Bool) (username pubkey_hex : String)
      (o : CliOp) : c.job e.who = some (.inr command) → e.op = .inr o →
      Records sdk command label add username pubkey_hex o →
      FreeFor add username pubkey_hex e.before.mappings → BadLabel label → Careless sdk c e

/-- The rows of every state the run went through: after each of its calls, and now. -/
def AlwaysWellFormed (c : SystemRun) : Prop :=
  (∀ e ∈ c.log, ∀ r ∈ e.after.mappings, RowWellFormed r) ∧
    ∀ r ∈ c.world.mappings, RowWellFormed r

/-- The rows are well formed, and there are no legacy rows to import. -/
structure WellFormed (w : World) : Prop where
  rows : ∀ r ∈ w.mappings, RowWellFormed r
  users : w.mappings.users = none

theorem WellFormed.of_mappings {w w' : World} (hw : WellFormed w) (h : w'.mappings = w.mappings) :
    WellFormed w' := ⟨h ▸ hw.rows, h ▸ hw.users⟩

theorem WellFormed.effect {w w' : World} (hw : WellFormed w) {c : MappingCall}
    (h : c.Effect w.mappings w'.mappings) (hc : c.Valid) : WellFormed w' :=
  ⟨h.wellFormed hc hw.rows, h.migration.2.trans hw.users⟩

theorem WellFormed.create_app {w : World} (hw : WellFormed w) (inp : Oracle) :
    WellFormed (create_app inp w) := by
  obtain ⟨hrows, _, husers⟩ := @Server.create_app_mappings inp _ hw.users
  exact ⟨fun r hr => hw.rows r ((hrows r).mp hr), husers⟩

/-- A recording call that had an effect found its pubkey free. -/
theorem freeFor_of_effect {add : Bool} {u p : String} {metadata : Metadata}
    {before after : MappingDb} (h : (recordCall add u p metadata).Effect before after) :
    FreeFor add u p before := by
  intro r hr hp
  cases add with
  | true => exact absurd hp (MappingCall.Effect.fresh h r hr)
  | false => exact ⟨rfl, MappingCall.Effect.owner h r hr hp⟩

theorem wellFormed_service {o : Op} (ho : Server.Proper o) (inp : Oracle) {w : World}
    (hw : WellFormed w) : WellFormed (NostrAuth.exec o inp w).2 := by
  rcases Server.exec_mappings o inp w with hsame | ⟨c, rfl, heffect⟩
  · exact hw.of_mappings hsame
  · exact hw.effect heffect ho

theorem wellFormed_cli {o : CliOp} (inp : Oracle) {w : World} (hw : WellFormed w)
    (ho : ∀ c, o = .mapping c → c.Effect w.mappings (exec o inp w).2.mappings → c.Valid) :
    WellFormed (exec o inp w).2 := by
  cases o with
  | open_store => exact (hw.create_app inp).of_mappings rfl
  | print text => exact hw
  | printError text => exact hw
  | mapping c =>
    rcases Server.exec_mappings (.mapping c) inp w with hsame | ⟨_, hc, heffect⟩
    · exact hw.of_mappings hsame
    · cases hc
      exact hw.effect heffect (ho c rfl heffect)

variable {sdk : NostrSdk} {w : World} {c : SystemRun}

/-- What each job may call. -/
def Contract (sdk : NostrSdk) : Server.Job ⊕ Command → Op ⊕ CliOp → Prop
  | .inl _ => Sum.elim Server.Proper fun _ => False
  | .inr command => Sum.elim (fun _ => False) (Stores sdk command)

theorem contract_wp (job : Server.Job ⊕ Command) : ((system sdk).program job).wp
    (fun _ => True) (fun _ => Contract sdk job) (fun _ _ => True) [] := by
  cases job with
  | inl job => exact ((Server.handle_yields sdk job).within.inl).wp
  | inr command => exact ((tidy_main sdk command).inr).wp

/-- A careless call stays one when another job arrives. -/
theorem Careless.of_job {c' : SystemRun} {e : SystemEntry} (h : Careless sdk c e)
    (hjob : ∀ j, c.job e.who = some j → c'.job e.who = some j) : Careless sdk c' e := by
  cases h with
  | link command label add username pubkey_hex o hc ho hrec hfree hbad =>
    exact .link command label add username pubkey_hex o (hjob _ hc) ho hrec hfree hbad

/-- The next call of a job keeps the rows well formed, unless it is careless. -/
theorem wellFormed_call {i : Nat} {o : Op ⊕ CliOp}
    {k : (Sum.elim Op.Ans CliOp.Ans) o → Prog (Op ⊕ CliOp) (Sum.elim Op.Ans CliOp.Ans) Exn
      (Response ⊕ Int)} (hc : Reachable (system sdk) w c) (hk : c.running i = some (.call o k))
    (inp : Oracle) (hw : WellFormed c.world)
    (hcare : ¬Careless sdk c ((system sdk).entry i o inp c.world)) :
    WellFormed ((system sdk).exec o inp c.world).2 := by
  obtain ⟨job, hjob⟩ := hc.job_of_running hk
  have hcontract : Contract sdk job o :=
    ((hc.guarded (fun _ _ _ => trivial) contract_wp).rest i job _ hjob hk).1
  cases job with
  | inl job =>
    cases o with
    | inl o => exact wellFormed_service hcontract inp hw
    | inr o => exact hcontract.elim
  | inr command =>
    cases o with
    | inl o => exact hcontract.elim
    | inr o =>
      apply wellFormed_cli inp hw
      intro call hcall heffect
      subst hcall
      rcases hcontract with hproper | ⟨label, add, u, p, hrecords, hbad⟩
      · exact hproper
      · obtain ⟨_, _, _, _, hop⟩ := id hrecords
        cases hop
        exact absurd (.link command label add u p _ hjob rfl hrecords (freeFor_of_effect heffect)
          hbad) hcare

/-- **Without a careless call** the rows of the run are well formed at all times. -/
theorem always_wellFormed (hw : WellFormed w) (hc : Reachable (system sdk) w c)
    (hcare : ∀ e ∈ c.log, ¬Careless sdk c e) :
    (∀ e ∈ c.log, ∀ r ∈ e.after.mappings, RowWellFormed r) ∧ WellFormed c.world := by
  refine hc.invariant (P := fun c => (∀ e ∈ c.log, ¬Careless sdk c e) →
    (∀ e ∈ c.log, ∀ r ∈ e.after.mappings, RowWellFormed r) ∧ WellFormed c.world)
    (fun _ => ⟨by simp [Config.init], hw⟩) (fun c c' hr ih hs => ?_) hcare
  intro hcare
  cases hs with
  | arrive i j hi =>
    refine ih fun e he hbad => hcare e he (hbad.of_job fun j' hj' => ?_)
    have hne : e.who ≠ i := by rintro rfl; simp [hi] at hj'
    simpa only [Function.update_of_ne hne] using hj'
  | call i o k inp hk =>
    obtain ⟨hlog, hworld⟩ := ih fun e he hbad =>
      hcare e (List.mem_append_left _ he) (hbad.of_job fun _ h => h)
    have hnow := wellFormed_call hr hk inp hworld fun hbad =>
      hcare _ (List.mem_append_right _ (List.mem_singleton_self _)) (hbad.of_job fun _ h => h)
    refine ⟨fun e he => ?_, hnow⟩
    rcases List.mem_append.mp he with he | he
    · exact hlog e he
    · obtain rfl := List.mem_singleton.mp he
      exact hnow.rows
  | abort i => exact ih fun e he hbad => hcare e he (hbad.of_job fun _ h => h)
  | restart inp =>
    obtain ⟨hlog, hworld⟩ := ih fun e he hbad => hcare e he (hbad.of_job fun _ h => h)
    exact ⟨hlog, hworld.create_app inp⟩

/-- A recording call whose pubkey is free stores the label it was given. -/
theorem exists_recorded {add : Bool} {u p : String} {metadata : Metadata} (inp : Oracle) {w : World}
    (hfree : FreeFor add u p w.mappings) :
    ∃ r ∈ (exec (.mapping (recordCall add u p metadata)) inp w).2.mappings,
      r.label = metadata.label := by
  cases add with
  | true =>
    have hnone : ∀ r ∈ w.mappings, r.pubkey ≠ p := fun r hr hp => by
      obtain ⟨h, _⟩ := hfree r hr hp
      cases h
    obtain ⟨db', hins⟩ : ∃ db', insertNew u p (inp.clock 0) metadata w.mappings = .ok (db', _) :=
      insertNew_free hnone
    have hnew : newRow u p (inp.clock 0) metadata (w.mappings.identities.seq + 1) ∈ db' :=
      ((insertNew_ok hins).2 _).mpr (Or.inr rfl)
    refine ⟨newRow u p (inp.clock 0) metadata (w.mappings.identities.seq + 1), ?_, rfl⟩
    simpa [exec, recordCall, MappingCall.method, run_add_identity, checkAny_eq_ok.mpr hnone, hins] using hnew
  | false =>
    have hown : ∀ r ∈ w.mappings, r.pubkey = p → r.ynh_username = u := fun r hr hp =>
      (hfree r hr hp).2
    have hgone : ∀ r ∈ (MappingDb.deleteUser u w.mappings).1, r.pubkey ≠ p := fun r hr hp =>
      (MappingDb.mem_deleteUser.mp hr).2 (hown r (MappingDb.mem_deleteUser.mp hr).1 hp)
    obtain ⟨db', hins⟩ : ∃ db', insertNew u p (inp.clock 0) metadata
        (MappingDb.deleteUser u w.mappings).1 = .ok (db', _) := insertNew_free hgone
    have hnew : newRow u p (inp.clock 0) metadata (w.mappings.identities.seq + 1) ∈ db' :=
      ((insertNew_ok hins).2 _).mpr (Or.inr rfl)
    refine ⟨newRow u p (inp.clock 0) metadata (w.mappings.identities.seq + 1), ?_, rfl⟩
    simpa [exec, recordCall, MappingCall.method, run_link, checkOther_eq_ok.mpr hown, hins] using hnew

/-- A careless call leaves a row with a bad label behind. -/
theorem Careless.spoils (hc : Reachable (system sdk) w c) {e : SystemEntry} (he : e ∈ c.log)
    (h : Careless sdk c e) : ∃ r ∈ e.after.mappings, ¬RowWellFormed r := by
  obtain ⟨k, hk⟩ := List.mem_iff_getElem?.mp he
  have hafter := hc.after_eq hk
  obtain ⟨command, label, add, u, p, o, _, ho, ⟨_, _, _, _, rfl⟩, hfree, hbad⟩ := h
  rw [ho] at hafter
  obtain ⟨r, hr, hlabel⟩ := exists_recorded e.input hfree
  refine ⟨r, ?_, fun hwell => ?_⟩
  · rw [hafter]
    exact hr
  · have hok := hwell.label
    rw [hlabel] at hok
    exact labelOk_storedLabel.mp hok hbad

/-- **Rows of every writer.** From empty identities, whatever requests and commands run in
whatever order, all rows are well formed at all times exactly when no `link` command stores
a bad label. -/
theorem rows_wellFormed_iff (sdk : NostrSdk) (w : World) (hw : w.mappings = MappingDb.empty)
    (c : SystemRun) (hc : Reachable (system sdk) w c) :
    AlwaysWellFormed c ↔ ∀ e ∈ c.log, ¬Careless sdk c e := by
  constructor
  · intro hall e he hcareless
    obtain ⟨r, hr, hbad⟩ := hcareless.spoils hc he
    exact hbad (hall.1 e he r hr)
  · intro hcare
    have hstart : WellFormed w := by
      constructor
      · simp [hw]
      · rw [hw]
        rfl
    obtain ⟨hlog, hworld⟩ := always_wellFormed hstart hc hcare
    exact ⟨hlog, hworld.rows⟩

/-! ## A blank label -/

/-- The key of `alice`, linked from the command line with a label. -/
def labelledRun (label : String) : SystemRun :=
  (system Server.keySdk).after (Config.init Server.noIdentities) 0
    (.inr (.link "alice" Server.aliceKey false (some "nip07") (some label))) Server.sampleInput

theorem labelledRun_reachable (label : String) :
    Reachable (system Server.keySdk) Server.noIdentities (labelledRun label) := Reachable.init.after rfl _ _

/-- `--label " "` is stored as the empty label. -/
theorem blank_label_stored : ¬∀ (sdk : NostrSdk) (w : World) (c : SystemRun),
    w.mappings = MappingDb.empty → Reachable (system sdk) w c → AlwaysWellFormed c := by
  intro h
  have hall := h Server.keySdk Server.noIdentities (labelledRun " ") rfl (labelledRun_reachable " ")
  obtain ⟨r, hr, hlabel⟩ : ∃ r ∈ (labelledRun " ").world.mappings.identities.rows,
      r.label = some "" := by decide +kernel
  have hok := (hall.2 r hr).label
  rw [hlabel] at hok
  exact hok.1 rfl

/-- The label is trimmed before it is stored. -/
theorem labelledRun_wellFormed : AlwaysWellFormed (labelledRun " laptop") := by
  apply (rows_wellFormed_iff Server.keySdk Server.noIdentities rfl _ (labelledRun_reachable _)).mpr
  intro e _ hcareless
  obtain ⟨command, label, add, u, p, o, hjob, _, ⟨key, signer, hcommand, _, _⟩, _, hbad⟩ := hcareless
  have hlabel : label = some " laptop" := by
    have hmine : (labelledRun " laptop").job e.who = if e.who = 0 then
        some (.inr (.link "alice" Server.aliceKey false (some "nip07") (some " laptop"))) else none := by
      simp [labelledRun, Machine.after, Config.init, Function.update_apply]
    rw [hmine] at hjob
    split at hjob
    · subst hcommand
      cases hjob
      rfl
    · cases hjob
  subst hlabel
  exact absurd hbad.2 (by decide)

end NostrAuth.AdminCli
