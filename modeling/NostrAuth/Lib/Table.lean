import Mathlib.Data.List.Nodup
import Mathlib.Data.List.Sort

/-! Database tables. A `Table` carries the proof that no two of its rows share the unique
column, a `Serial` table also that its row ids come from one growing counter, so no
sequence of statements can lose either. -/

set_option autoImplicit false

/-- Rows of type `α`, in insertion order, no two with the same `key`. -/
@[ext] structure Table {α κ : Type} (key : α → κ) where
  rows : List α
  unique : (rows.map key).Nodup

namespace Table

variable {α κ : Type} {key : α → κ}

def empty : Table key := ⟨[], List.nodup_nil⟩

instance : Membership α (Table key) := ⟨fun t a => a ∈ t.rows⟩

theorem mem_def {a : α} {t : Table key} : a ∈ t ↔ a ∈ t.rows := Iff.rfl

@[simp] theorem not_mem_empty (a : α) : a ∉ (empty : Table key) := List.not_mem_nil

@[simp] theorem mem_mk {a : α} {rows : List α} {h : (rows.map key).Nodup} :
    a ∈ (⟨rows, h⟩ : Table key) ↔ a ∈ rows := Iff.rfl

/-- `DELETE ... WHERE p` -/
def delete (p : α → Bool) (t : Table key) : Table key where
  rows := t.rows.filter fun a => !p a
  unique := t.unique.sublist (List.filter_sublist.map key)

/-- `UPDATE ... SET f WHERE p`, for an `f` that leaves the key alone. -/
def update (p : α → Bool) (f : α → α) (hf : ∀ a, key (f a) = key a) (t : Table key) :
    Table key where
  rows := t.rows.map fun a => if p a then f a else a
  unique := by
    have hkey : (t.rows.map fun a => if p a then f a else a).map key = t.rows.map key := by
      rw [List.map_map]
      apply List.map_congr_left
      intro a _
      simp only [Function.comp_apply]
      split
      · exact hf a
      · rfl
    rw [hkey]
    exact t.unique

/-- `INSERT`: fails when the key is taken. -/
def insert [DecidableEq κ] (a : α) (t : Table key) : Option (Table key) :=
  if h : key a ∈ t.rows.map key then none
  else some ⟨t.rows ++ [a], by
    rw [List.map_append]
    exact List.nodup_append.mpr ⟨t.unique, by simp, by
      rintro x hx y hy rfl
      exact h (List.mem_singleton.mp hy ▸ hx)⟩⟩

/-- `SELECT ... WHERE p`, the first row. -/
def find (p : α → Bool) (t : Table key) : Option α := t.rows.find? p

/-- How many rows a statement with `WHERE p` touches. -/
def count (p : α → Bool) (t : Table key) : Nat := t.rows.countP p

@[simp] theorem mem_delete {p : α → Bool} {t : Table key} {a : α} :
    a ∈ t.delete p ↔ a ∈ t ∧ p a = false := by
  simp [mem_def, delete]

theorem mem_update {p : α → Bool} {f : α → α} {hf : ∀ a, key (f a) = key a} {t : Table key}
    {b : α} : b ∈ t.update p f hf ↔ ∃ a ∈ t, (if p a then f a else a) = b := by
  simp [mem_def, update]

/-- Two rows with one key are one row. -/
theorem eq_of_key {t : Table key} {a b : α} (ha : a ∈ t) (hb : b ∈ t) (h : key a = key b) :
    a = b := List.inj_on_of_nodup_map t.unique ha hb h

section Insert

variable [DecidableEq κ]

theorem insert_eq_none {a : α} {t : Table key} :
    t.insert a = none ↔ ∃ b ∈ t, key b = key a := by
  unfold insert
  split
  · next h => simpa [mem_def] using h
  · next h => simpa [mem_def] using h

theorem insert_eq_some {a : α} {t t' : Table key} :
    t.insert a = some t' ↔ (∀ b ∈ t, key b ≠ key a) ∧ t'.rows = t.rows ++ [a] := by
  unfold insert
  split
  · next h =>
    obtain ⟨b, hb, hk⟩ := List.mem_map.mp h
    exact ⟨by simp, fun hn => absurd hk (hn.1 b hb)⟩
  · next h =>
    have hn : ∀ b ∈ t, key b ≠ key a := fun b hb hk => h (List.mem_map.mpr ⟨b, hb, hk⟩)
    constructor
    · intro he
      cases he
      exact ⟨hn, rfl⟩
    · rintro ⟨_, hrows⟩
      exact congrArg some (Table.ext hrows.symm)

theorem mem_of_insert {a b : α} {t t' : Table key} (h : t.insert a = some t') :
    b ∈ t' ↔ b ∈ t ∨ b = a := by
  rw [mem_def, (insert_eq_some.mp h).2]
  simp [mem_def]

end Insert

theorem find_some {p : α → Bool} {t : Table key} {a : α} (h : t.find p = some a) :
    a ∈ t ∧ p a = true := ⟨List.mem_of_find?_eq_some h, List.find?_some h⟩

theorem find_none {p : α → Bool} {t : Table key} (h : t.find p = none) {a : α} (ha : a ∈ t) :
    p a = false := by
  simpa using List.find?_eq_none.mp h a ha

/-- A query that pins the key finds the one row it can find. -/
theorem find_eq {p : α → Bool} {t : Table key} {a : α} (ha : a ∈ t) (hp : p a = true)
    (hkey : ∀ b, p b = true → key b = key a) : t.find p = some a := by
  cases h : t.find p with
  | none =>
    have := find_none h ha
    rw [hp] at this
    cases this
  | some b =>
    obtain ⟨hb, hpb⟩ := find_some h
    rw [eq_of_key hb ha (hkey b hpb)]

/-- A statement that pins the key touches at most one row. -/
theorem count_le_one {p : α → Bool} {t : Table key} {k : κ} (hp : ∀ b, p b = true → key b = k) :
    t.count p ≤ 1 := by
  have hsub : ((t.rows.filter p).map key).Nodup :=
    t.unique.sublist (List.filter_sublist.map key)
  have hall : ∀ x ∈ (t.rows.filter p).map key, x = k := by
    intro x hx
    obtain ⟨a, ha, rfl⟩ := List.mem_map.mp hx
    exact hp a (List.mem_filter.mp ha).2
  rw [List.eq_replicate_of_mem hall, List.nodup_replicate, List.length_map] at hsub
  rwa [count, List.countP_eq_length_filter]

theorem count_pos {p : α → Bool} {t : Table key} : 0 < t.count p ↔ ∃ a ∈ t, p a = true := by
  simp [count, mem_def, List.countP_pos_iff]

end Table

/-! ## Tables with an automatic id -/

/-- A table whose rows also carry an id drawn from the counter `seq`, which never goes
back: ids grow in insertion order and none is used twice. -/
@[ext] structure Serial {α κ : Type} (id : α → Int) (key : α → κ) extends Table key where
  seq : Int
  sorted : rows.Pairwise fun a b => id a < id b
  bounded : ∀ a ∈ rows, id a ≤ seq

namespace Serial

variable {α κ : Type} {id : α → Int} {key : α → κ}

def empty : Serial id key := ⟨Table.empty, 0, List.Pairwise.nil, by simp [Table.empty]⟩

instance : Membership α (Serial id key) := ⟨fun t a => a ∈ t.rows⟩

theorem mem_def {a : α} {t : Serial id key} : a ∈ t ↔ a ∈ t.rows := Iff.rfl

@[simp] theorem mem_toTable {a : α} {t : Serial id key} : a ∈ t.toTable ↔ a ∈ t := Iff.rfl

@[simp] theorem not_mem_empty (a : α) : a ∉ (empty : Serial id key) := List.not_mem_nil

def delete (p : α → Bool) (t : Serial id key) : Serial id key where
  toTable := t.toTable.delete p
  seq := t.seq
  sorted := t.sorted.sublist List.filter_sublist
  bounded := fun a ha => t.bounded a (List.mem_filter.mp ha).1

/-- `UPDATE`, for an `f` that leaves the id and the key alone. -/
def update (p : α → Bool) (f : α → α) (hid : ∀ a, id (f a) = id a)
    (hkey : ∀ a, key (f a) = key a) (t : Serial id key) : Serial id key where
  toTable := t.toTable.update p f hkey
  seq := t.seq
  sorted := by
    have heq : ∀ a, id (if p a then f a else a) = id a := fun a => by
      split
      · exact hid a
      · rfl
    exact List.pairwise_map.mpr (by simpa only [heq] using t.sorted)
  bounded := fun b hb => by
    obtain ⟨a, ha, rfl⟩ := List.mem_map.mp hb
    split
    · exact hid a ▸ t.bounded a ha
    · exact t.bounded a ha

/-- The counter moves on without a row. -/
def skip (t : Serial id key) : Serial id key where
  toTable := t.toTable
  seq := t.seq + 1
  sorted := t.sorted
  bounded := fun a ha => Int.le_trans (t.bounded a ha) (by omega)

section Insert

variable [DecidableEq κ] (row : Int → α) (hrow : ∀ n, id (row n) = n)

/-- `INSERT` of the row that `row` makes of the next id. -/
def insert (t : Serial id key) : Option (Serial id key) :=
  match h : t.toTable.insert (row (t.seq + 1)) with
  | none => none
  | some t' => some {
      toTable := t'
      seq := t.seq + 1
      sorted := by
        rw [(Table.insert_eq_some.mp h).2]
        refine List.pairwise_append.mpr ⟨t.sorted, List.pairwise_singleton _ _, ?_⟩
        intro a ha b hb
        have := t.bounded a ha
        rw [List.mem_singleton.mp hb, hrow]
        omega
      bounded := by
        intro a ha
        rcases (Table.mem_of_insert h).mp ha with ha | rfl
        · exact Int.le_trans (t.bounded a ha) (by omega)
        · exact Int.le_of_eq (hrow _) }

/-- `INSERT OR IGNORE`: a row whose key is taken is left out, but uses up its id. -/
def insertOrIgnore (t : Serial id key) : Serial id key := (t.insert row hrow).getD t.skip

end Insert

@[simp] theorem mem_delete {p : α → Bool} {t : Serial id key} {a : α} :
    a ∈ t.delete p ↔ a ∈ t ∧ p a = false := Table.mem_delete

@[simp] theorem seq_delete {p : α → Bool} {t : Serial id key} : (t.delete p).seq = t.seq := rfl

theorem mem_update {p : α → Bool} {f : α → α} {hid : ∀ a, id (f a) = id a}
    {hkey : ∀ a, key (f a) = key a} {t : Serial id key} {b : α} :
    b ∈ t.update p f hid hkey ↔ ∃ a ∈ t, (if p a then f a else a) = b :=
  @Table.mem_update _ _ _ p f hkey t.toTable b

@[simp] theorem seq_update {p : α → Bool} {f : α → α} {hid : ∀ a, id (f a) = id a}
    {hkey : ∀ a, key (f a) = key a} {t : Serial id key} :
    (t.update p f hid hkey).seq = t.seq := rfl

@[simp] theorem mem_skip {t : Serial id key} {a : α} : a ∈ t.skip ↔ a ∈ t := Iff.rfl

theorem eq_of_key {t : Serial id key} {a b : α} (ha : a ∈ t) (hb : b ∈ t)
    (h : key a = key b) : a = b := Table.eq_of_key (t := t.toTable) ha hb h

/-- Two rows with one id are one row. -/
theorem eq_of_id {t : Serial id key} {a b : α} (ha : a ∈ t) (hb : b ∈ t) (h : id a = id b) :
    a = b := by
  have hn : (t.rows.map id).Nodup :=
    List.pairwise_map.mpr (t.sorted.imp fun h => by simp only [ne_eq]; omega)
  exact List.inj_on_of_nodup_map hn ha hb h

/-- A statement that pins the id touches at most one row. -/
theorem count_le_one {p : α → Bool} {t : Serial id key} {n : Int}
    (hp : ∀ b, p b = true → id b = n) : t.count p ≤ 1 := by
  have hsorted := (t.sorted.sublist (List.filter_sublist (p := p)))
  rw [Table.count, List.countP_eq_length_filter]
  have hall : ∀ a ∈ t.rows.filter p, id a = n := fun a ha => hp a (List.mem_filter.mp ha).2
  rcases hl : t.rows.filter p with _ | ⟨a, _ | ⟨b, rest⟩⟩
  · simp
  · simp
  · rw [hl] at hsorted hall
    have hab := List.rel_of_pairwise_cons hsorted (List.mem_cons_self ..)
    rw [hall a (by simp), hall b (by simp)] at hab
    omega

section Insert

variable [DecidableEq κ] {row : Int → α} {hrow : ∀ n, id (row n) = n}

theorem insert_eq_none {t : Serial id key} :
    t.insert row hrow = none ↔ ∃ b ∈ t, key b = key (row (t.seq + 1)) := by
  unfold insert
  split
  · next h => simpa using Table.insert_eq_none.mp h
  · next t' h =>
    have := (Table.insert_eq_some.mp h).1
    simpa using this

theorem insert_eq_some {t t' : Serial id key} (h : t.insert row hrow = some t') :
    (∀ b ∈ t, key b ≠ key (row (t.seq + 1))) ∧ t'.rows = t.rows ++ [row (t.seq + 1)] ∧
      t'.seq = t.seq + 1 := by
  unfold insert at h
  split at h
  · cases h
  · next t'' hi =>
    cases h
    exact ⟨(Table.insert_eq_some.mp hi).1, (Table.insert_eq_some.mp hi).2, rfl⟩

theorem mem_of_insert {t t' : Serial id key} (h : t.insert row hrow = some t') {b : α} :
    b ∈ t' ↔ b ∈ t ∨ b = row (t.seq + 1) := by
  rw [mem_def, (insert_eq_some h).2.1]
  simp [mem_def]

theorem exists_insert {t : Serial id key} (h : ∀ b ∈ t, key b ≠ key (row (t.seq + 1))) :
    ∃ t', t.insert row hrow = some t' := by
  cases hi : t.insert row hrow with
  | none =>
    obtain ⟨b, hb, hk⟩ := insert_eq_none.mp hi
    exact absurd hk (h b hb)
  | some t' => exact ⟨t', rfl⟩

theorem seq_insertOrIgnore {t : Serial id key} : (t.insertOrIgnore row hrow).seq = t.seq + 1 := by
  unfold insertOrIgnore
  cases hi : t.insert row hrow with
  | none => rfl
  | some t' => exact (insert_eq_some hi).2.2

/-- What `INSERT OR IGNORE` leaves: every row that was there, and the new one if its
key was free. -/
theorem mem_insertOrIgnore {t : Serial id key} {b : α} : b ∈ t.insertOrIgnore row hrow ↔
    b ∈ t ∨ ((∀ a ∈ t, key a ≠ key (row (t.seq + 1))) ∧ b = row (t.seq + 1)) := by
  unfold insertOrIgnore
  cases hi : t.insert row hrow with
  | none =>
    obtain ⟨a, ha, hk⟩ := insert_eq_none.mp hi
    simp only [Option.getD_none, mem_skip]
    constructor
    · exact Or.inl
    · rintro (hb | ⟨hfree, _⟩)
      · exact hb
      · exact absurd hk (hfree a ha)
  | some t' =>
    simp only [Option.getD_some, mem_of_insert hi]
    exact or_congr_right ⟨fun h => ⟨(insert_eq_some hi).1, h⟩, fun h => h.2⟩

end Insert

end Serial

/-! ## Ordered queries -/

namespace OrderBy

variable {α : Type} (R : α → α → Prop) [DecidableRel R] [Std.Total R] [IsTrans α R]

/-- What `ORDER BY` puts first comes before everything else. -/
theorem first_of_head? {l : List α} {a : α} (h : (l.insertionSort R).head? = some a) :
    a ∈ l ∧ ∀ b ∈ l, R a b := by
  obtain ⟨rest, hsorted⟩ := List.head?_eq_some_iff.mp h
  have hall := List.pairwise_insertionSort R l
  rw [hsorted, List.pairwise_cons] at hall
  have hmem : ∀ b, b ∈ a :: rest ↔ b ∈ l := fun b => by
    rw [← hsorted, List.mem_insertionSort]
  refine ⟨(hmem a).mp (List.mem_cons_self ..), fun b hb => ?_⟩
  rcases List.mem_cons.mp ((hmem b).mpr hb) with rfl | hb
  · exact (Std.Total.total b b).elim id id
  · exact hall.1 b hb

/-- What comes before everything else is put first, where no two rows come before each other. -/
theorem head?_of_first {l : List α} {a : α} (ha : a ∈ l) (h : ∀ b ∈ l, R a b)
    (hanti : ∀ b ∈ l, R a b → R b a → b = a) : (l.insertionSort R).head? = some a := by
  cases hhead : (l.insertionSort R).head? with
  | none =>
    have hnil : l.insertionSort R = [] := List.head?_eq_none_iff.mp hhead
    exact absurd ((List.mem_insertionSort R).mpr ha) (hnil ▸ List.not_mem_nil)
  | some b =>
    obtain ⟨hb, hfirst⟩ := first_of_head? R hhead
    exact congrArg some (hanti b hb (h b hb) (hfirst a ha))

end OrderBy
