import NostrAuth.Migration

/-! What an `identity_id` stands for: along any interleaving of calls and opens, with
crashes anywhere, an id names one identity and is not given to another. -/

set_option autoImplicit false

namespace NostrAuth.IdentityIds

open Transaction MappingDb MappingStore MappingOwnership Migration
open MappingCall (Known Spent Renews)

/-- What a process may commit, whatever the others do. -/
def Writes : StoreStep → MappingDb → MappingDb → Prop
  | .call c => c.Effect
  | .reopen => Opens (fun _ => True) True

theorem program_writes (s : StoreStep) : (program s).Ok (fun _ _ _ => True)
    (fun _ before after => Writes s before after) (fun _ _ => True) [] none := by
  cases s with
  | call c =>
    have hc : MappingConcurrency.Meets False c := MappingConcurrency.program_ok c
    exact hc.mono (fun _ _ _ _ h => h.elim) (fun _ _ _ h => h.2) fun _ _ _ => trivial
  | reopen =>
    have hinit : (program .reopen).Ok _
      (fun _ before after => Opens (fun _ => True) True before after)
      (fun trail _ => trail = [] → True) [] none := init_ok
    exact hinit.mono (fun _ _ _ _ => ⟨fun _ _ => trivial, fun _ => trivial, fun _ => trivial⟩)
      (fun _ _ _ h => h) fun _ _ _ => trivial

/-- The change was committed by a process that may. -/
abbrev Written (d : StoreDb) (x : Change MappingDb) (_ : List (Change MappingDb)) : Prop :=
  ∃ p, d.proc x.who = some p ∧ Writes p.call x.before x.after

theorem run_written {start : MappingDb} {d : StoreDb} (hd : Reachable program Anytime start d) :
    Linked (Written d) start d.hist d.committed :=
  (hd.verified (Sound.anytime program_writes fun _ _ _ _ _ _ => trivial) trivial).hist

/-! ## One change -/

variable {s : StoreStep} {before after : MappingDb}

/-- No call and no migration gives an old id to a new identity. -/
theorem writes_renews (h : Writes s before after) : Renews before after := by
  cases s with
  | call c => exact MappingCall.Effect.renews h
  | reopen =>
    obtain ⟨_, _, ⟨hsame, _⟩ | ⟨_, hcopy⟩⟩ := h
    · refine ⟨hsame ▸ Int.le_refl _, fun r hr => Or.inl ⟨r, ?_, SameIdentity.refl r⟩⟩
      rwa [mem_def, hsame] at hr
    · have hcopied := seq_copyUsers (before.users.getD []) before.identities
      rw [← hcopy] at hcopied
      refine ⟨hcopied.1, fun r hr => ?_⟩
      rcases hcopied.2 r hr with hold | hnew
      · exact Or.inl ⟨r, hold, SameIdentity.refl r⟩
      · exact Or.inr hnew

/-! ## Runs -/

variable {d : StoreDb} {start db : MappingDb} {hist : List (Change MappingDb)}

/-- The rows of every earlier state are known ever after. -/
theorem known_run (h : Linked (Written d) start hist db) (k : Nat) {a : IdentityRow}
    (ha : a ∈ latest start (hist.drop k)) : Known a db := by
  refine h.rule (R := fun hist db => ∀ (k : Nat) (a : IdentityRow),
    a ∈ latest start (hist.drop k) → Known a db) (fun k a ha => ?_)
    (fun x older hx _ ih k a ha => ?_) k a ha
  · rw [List.drop_nil] at ha
    exact MappingCall.known_of_mem ha
  · obtain ⟨p, _, hwrites⟩ := hx
    cases k with
    | zero => exact MappingCall.known_of_mem ha
    | succ k => exact (ih k a ha).renews (writes_renews hwrites)

/-- An id that was spent in an earlier state is spent ever after. -/
theorem spent_run (h : Linked (Written d) start hist db) (k : Nat) {id : Int}
    (hid : Spent id (latest start (hist.drop k))) : Spent id db := by
  refine h.rule (R := fun hist db => ∀ (k : Nat) (id : Int),
    Spent id (latest start (hist.drop k)) → Spent id db) (fun k id hid => ?_)
    (fun x older hx _ ih k id hid => ?_) k id hid
  · rwa [List.drop_nil] at hid
  · obtain ⟨p, _, hwrites⟩ := hx
    cases k with
    | zero => exact hid
    | succ k => exact (ih k id hid).renews (writes_renews hwrites)

/-- The calls that name a row by its id. -/
def Names (id : Int) (c : MappingCall) : Prop :=
  (∃ u, c = .revoke_identity id u) ∨ (∃ u label, c = .update_identity_label id u label) ∨
    c = .touch_identity id

/-- An id that is not in the table selects no row. -/
theorem effect_of_absent {id : Int} {c : MappingCall} (hc : Names id c)
    (habsent : ∀ r ∈ before, r.identity_id ≠ id) (h : c.Effect before after) : after = before := by
  have hactive : ∀ u, ∀ r ∈ before, activeOf id u r = false := fun u r hr => by
    simp [activeOf, habsent r hr]
  rcases hc with ⟨u, rfl⟩ | ⟨u, label, rfl⟩ | rfl
  · obtain ⟨t, _, rfl⟩ := h
    exact congrArg Prod.fst (updateRows_none (hactive u))
  · obtain ⟨_, rfl⟩ := h
    exact congrArg Prod.fst (updateRows_none (hactive u))
  · obtain ⟨t, _, rfl⟩ := h
    exact congrArg Prod.fst (updateRows_none fun r hr => by simp [habsent r hr])

theorem alone_of_absent {id : Int} {c : MappingCall} (hc : Names id c)
    (habsent : ∀ r ∈ before, r.identity_id ≠ id) (t : Nat → Int) :
    (c.alone t before).2 = before := by
  rcases c.alone_effect t before with ⟨_, _, heffect⟩ | hsame
  · exact effect_of_absent hc habsent heffect
  · exact hsame

/-- What an id stands for along a run. Its committed states are those that the changes
`d.hist.drop k` led to, the current one first. -/
structure IdsStable (start : MappingDb) (d : StoreDb) : Prop where
  current : d.committed = latest start d.hist
  same : ∀ (j k : Nat) (a b : IdentityRow), a ∈ latest start (d.hist.drop j) →
    b ∈ latest start (d.hist.drop k) → a.identity_id = b.identity_id →
    a.ynh_username = b.ynh_username ∧ a.pubkey = b.pubkey ∧ a.created_at = b.created_at
  gone : ∀ (i j k : Nat) (a : IdentityRow), k ≤ j → j ≤ i → a ∈ latest start (d.hist.drop i) →
    (∀ r ∈ latest start (d.hist.drop j), r.identity_id ≠ a.identity_id) →
    ∀ r ∈ latest start (d.hist.drop k), r.identity_id ≠ a.identity_id
  /-- A call that names an id whose row is gone leaves the table alone, -/
  stale : ∀ (k : Nat) (a : IdentityRow) (c : MappingCall) (t : Nat → Int),
    a ∈ latest start (d.hist.drop k) → (∀ r ∈ d.committed, r.identity_id ≠ a.identity_id) →
    Names a.identity_id c → (c.alone t d.committed).2 = d.committed
  /-- also where it runs among others and the row went while it was under way. -/
  stale_commit : ∀ x ∈ d.hist, ∀ p c id, d.proc x.who = some p → p.call = .call c → Names id c →
    (∀ r ∈ x.before, r.identity_id ≠ id) → x.after = x.before

theorem same_of_le {i j : Nat} (h : Linked (Written d) start hist db) (hij : i ≤ j)
    {a b : IdentityRow} (ha : a ∈ latest start (hist.drop i)) (hb : b ∈ latest start (hist.drop j))
    (hid : a.identity_id = b.identity_id) : SameIdentity a b := by
  have hb' : b ∈ latest start ((hist.drop i).drop (j - i)) := by
    rw [List.drop_drop, Nat.add_sub_cancel' hij]
    exact hb
  exact (known_run (h.drop i) (j - i) hb').2 a ha hid

/-- **Ids never come to mean another identity**, in every interleaving of calls and opens
with crashes anywhere. -/
theorem ids_stable (start : MappingDb) (d : StoreDb) (hd : Reachable program Anytime start d) :
    IdsStable start d := by
  have hlinked := run_written hd
  refine ⟨hlinked.eq_latest, fun j k a b ha hb hid => ?_, fun i j k a hkj hji ha habsent => ?_,
    fun k a c t _ habsent hc => alone_of_absent hc habsent t,
    fun x hx p c id hp hcall hc habsent => ?_⟩
  · rcases Nat.le_total j k with hjk | hkj
    · have hsame := same_of_le hlinked hjk ha hb hid
      exact ⟨hsame.ynh_username, hsame.pubkey, hsame.created_at⟩
    · have hsame := same_of_le hlinked hkj hb ha hid.symm
      exact ⟨hsame.ynh_username.symm, hsame.pubkey.symm, hsame.created_at.symm⟩
  · have ha' : a ∈ latest start ((d.hist.drop j).drop (i - j)) := by
      rw [List.drop_drop, Nat.add_sub_cancel' hji]
      exact ha
    have hspent : Spent a.identity_id (latest start ((d.hist.drop k).drop (j - k))) := by
      rw [List.drop_drop, Nat.add_sub_cancel' hkj]
      exact ⟨(known_run (hlinked.drop j) (i - j) ha').1, habsent⟩
    exact (spent_run (hlinked.drop k) (j - k) hspent).2
  · obtain ⟨_, p', hp', hwrites⟩ := hlinked.of_mem hx
    rw [hp, Option.some.injEq] at hp'
    rw [← hp', hcall] at hwrites
    exact effect_of_absent hc habsent hwrites

/-- The account unlinks its pubkey and links it again while a call that holds the first id
is under way. -/
def relinkedMoves : List (Move StoreStep) :=
  [.start 0 .reopen, .go 0 0, .go 0 0, .go 0 0, .go 0 0,
    .start 1 (.call (.link "alice" "pk1" {})), .go 1 0, .go 1 0, .go 1 10, .go 1 0, .go 1 0, .go 1 0,
    .start 2 (.call (.revoke_identity 1 "alice")), .go 2 20,
    .start 3 (.call (.unlink "alice")), .go 3 0, .go 3 0, .go 3 0,
    .start 4 (.call (.link "alice" "pk1" {})), .go 4 0, .go 4 0, .go 4 30, .go 4 0, .go 4 0, .go 4 0,
    .go 2 0, .go 2 0, .go 2 0]

def relinkedRun : StoreDb := (Db.init MappingDb.empty).play program relinkedMoves

theorem relinkedRun_stable : relinkedRun.committed.identities.rows.map IdentityRow.identity_id = [2] ∧
    IdsStable MappingDb.empty relinkedRun :=
  ⟨by decide, ids_stable MappingDb.empty relinkedRun
    (Reachable.init.play (admits_anytime program (Db.init MappingDb.empty) relinkedMoves))⟩

end NostrAuth.IdentityIds
