import Mathlib.Data.List.TakeWhile
import Mathlib.Tactic.Basic
import NostrAuth.JsonText

/-! `json.loads` reads back what `json.dumps` wrote, and what `json.dumps` writes is ASCII
without raw newlines. -/

set_option autoImplicit false

namespace NostrAuth.Json

/-! ## Strings read back -/

/-- The UTF-16 units of a character. -/
def unitsOf (c : Char) : List Nat :=
  if c.toNat < 65536 then [c.toNat]
  else [55296 + (c.toNat - 65536) / 1024, 56320 + (c.toNat - 65536) % 1024]

theorem toNat_valid (c : Char) :
    c.toNat < 55296 ∨ (57343 < c.toNat ∧ c.toNat < 1114112) := c.valid

theorem hexValue_hexDigit {n : Nat} (h : n < 16) : hexValue (hexDigit n) = some n := by
  have hall : ∀ k : Fin 16, hexValue (hexDigit k) = some k.val := by decide
  exact hall ⟨n, h⟩

/-- Read one unit, then the rest. -/
def withUnits (units : List Nat) : Option (List Nat × List Char) → Option (List Nat × List Char) :=
  Option.map fun r => (units ++ r.1, r.2)

theorem scan_escapeUnit {n : Nat} (h : n < 65536) (rest : List Char) :
    scanUnits (escapeUnit n ++ rest) = withUnits [n] (scanUnits rest) := by
  have hvalue : 4096 * (n / 4096 % 16) + 256 * (n / 256 % 16) + 16 * (n / 16 % 16) + n % 16 = n := by
    omega
  have hunit : hexUnit (hexDigit (n / 4096 % 16)) (hexDigit (n / 256 % 16))
      (hexDigit (n / 16 % 16)) (hexDigit (n % 16)) = some n := by
    simp only [hexUnit, hexValue_hexDigit (Nat.mod_lt _ (show 0 < 16 by decide)), hvalue]
  have hquote : Char.ofNat 92 ≠ quote := by decide
  have hprint : ¬(Char.ofNat 92).toNat < 32 := by decide
  simp only [escapeUnit, List.cons_append, List.nil_append]
  rw [scanUnits.eq_def]
  simp only [if_neg hquote, if_neg hprint, backslash, if_true, hunit, withUnits, List.cons_append,
    List.nil_append]

theorem scan_escape {e : Char} {n : Nat} (hu : e ≠ 'u') (h : unescape e = some n)
    (rest : List Char) :
    scanUnits (backslash :: e :: rest) = withUnits [n] (scanUnits rest) := by
  have hquote : backslash ≠ quote := by decide
  have hprint : ¬backslash.toNat < 32 := by decide
  rw [scanUnits.eq_def]
  simp only [if_neg hquote, if_neg hprint, if_true, if_neg hu, h, withUnits, List.cons_append,
    List.nil_append]

theorem scan_plain {c : Char} (hquote : c.toNat ≠ 34) (hback : c.toNat ≠ 92) (h : 32 ≤ c.toNat)
    (rest : List Char) : scanUnits (c :: rest) = withUnits [c.toNat] (scanUnits rest) := by
  have hq : c ≠ quote := fun h => hquote (by rw [h]; rfl)
  have hb : c ≠ backslash := fun h => hback (by rw [h]; rfl)
  rw [scanUnits.eq_def]
  simp only [if_neg hq, if_neg hb, if_neg (Nat.not_lt.mpr h), withUnits, List.cons_append,
    List.nil_append]

theorem scan_escapeChar (c : Char) (rest : List Char) :
    scanUnits (escapeChar c ++ rest) = withUnits (unitsOf c) (scanUnits rest) := by
  have hvalid := toNat_valid c
  have hsmall : c.toNat < 65536 → unitsOf c = [c.toNat] := fun h => if_pos h
  unfold escapeChar
  simp only
  split
  · next h => rw [hsmall (by omega), h]; exact scan_escape (by decide) (by decide) rest
  split
  · next h => rw [hsmall (by omega), h]; exact scan_escape (by decide) (by decide) rest
  split
  · next h => rw [hsmall (by omega), h]; exact scan_escape (by decide) (by decide) rest
  split
  · next h => rw [hsmall (by omega), h]; exact scan_escape (by decide) (by decide) rest
  split
  · next h => rw [hsmall (by omega), h]; exact scan_escape (by decide) (by decide) rest
  split
  · next h => rw [hsmall (by omega), h]; exact scan_escape (by decide) (by decide) rest
  split
  · next h => rw [hsmall (by omega), h]; exact scan_escape (by decide) (by decide) rest
  split
  · next hquote hback _ _ _ _ _ h =>
    rw [hsmall (by omega)]
    exact scan_plain hquote hback h.1 rest
  split
  · next h => rw [hsmall h]; exact scan_escapeUnit h rest
  · next h =>
    rw [List.append_assoc, scan_escapeUnit (by omega), scan_escapeUnit (by omega), unitsOf, if_neg h]
    cases scanUnits rest with
    | none => rfl
    | some r => rfl

theorem scan_chars (chars rest : List Char) :
    scanUnits (chars.flatMap escapeChar ++ quote :: rest) = some (chars.flatMap unitsOf, rest) := by
  induction chars with
  | nil =>
    show scanUnits (quote :: rest) = some ([], rest)
    rw [scanUnits.eq_def]
    rfl
  | cons c chars ih =>
    rw [List.flatMap_cons, List.append_assoc, scan_escapeChar, ih, List.flatMap_cons]
    rfl

theorem toNat_lt (c : Char) : c.toNat < 1114112 := by
  have hvalid := toNat_valid c
  omega

/-- The code point of a character. -/
def codeOf (c : Char) : CodePoint := ⟨c.toNat, toNat_lt c⟩

theorem codeOf_val (c : Char) : (codeOf c).val = c.toNat := rfl

theorem join_char (c : Char) (units : List Nat) :
    joinUnits (unitsOf c ++ units) = codeOf c :: joinUnits units := by
  have hvalid := toNat_valid c
  have hcode : Fin.ofNat _ c.toNat = codeOf c := Fin.ext (Nat.mod_eq_of_lt (toNat_lt c))
  by_cases hsmall : c.toNat < 65536
  · have hhigh : isHigh c.toNat = false := by simp [isHigh]; omega
    rw [unitsOf, if_pos hsmall]
    cases units with
    | nil => exact congrArg (· :: []) hcode
    | cons m rest =>
      rw [List.singleton_append, joinUnits, hhigh, Bool.false_and, if_neg Bool.false_ne_true, hcode]
  · have hhigh : isHigh (55296 + (c.toNat - 65536) / 1024) = true := by simp [isHigh]; omega
    have hlow : isLow (56320 + (c.toNat - 65536) % 1024) = true := by simp [isLow]; omega
    have hvalue : 65536 + (55296 + (c.toNat - 65536) / 1024 - 55296) * 1024 +
        (56320 + (c.toNat - 65536) % 1024 - 56320) = c.toNat := by
      omega
    rw [unitsOf, if_neg hsmall]
    simp only [List.cons_append, List.nil_append, joinUnits, hhigh, hlow, Bool.and_self, if_true,
      hvalue, hcode]

theorem join_chars (chars : List Char) : joinUnits (chars.flatMap unitsOf) = chars.map codeOf := by
  induction chars with
  | nil => rfl
  | cons c chars ih => rw [List.flatMap_cons, join_char, ih, List.map_cons]

/-- The code points of characters are their text again. -/
theorem ofCodes_chars (s : String) : PyStr.ofCodes (s.toList.map codeOf) = .text s := by
  have hnone : ¬(s.toList.map codeOf).any isSurrogate = true := by
    rw [List.any_map, Bool.not_eq_true, List.any_eq_false]
    intro c _
    have hvalid := toNat_valid c
    show ¬(decide (55296 ≤ c.toNat) && decide (c.toNat < 57344)) = true
    simp only [Bool.and_eq_true, decide_eq_true_eq]
    omega
  have hchars : (s.toList.map codeOf).map (fun n => Char.ofNat n.val) = s.toList := by
    rw [List.map_map]
    refine (List.map_congr_left fun c _ => ?_).trans (List.map_id _)
    simp only [Function.comp_apply, codeOf_val, Char.ofNat_toNat, id]
  rw [PyStr.ofCodes, dif_neg hnone, hchars, String.ofList_toList]

/-- A quoted string is read back to the closing quote. -/
theorem scan_quoted {s : PyStr} (hs : s.encodable = true) (rest : List Char) :
    scanString (escape s ++ quote :: rest) = some (s, rest) := by
  obtain ⟨text, rfl⟩ := PyStr.encodable_iff.mp hs
  simp [scanString, escape, scan_chars, join_chars, ofCodes_chars]

/-! ## Numbers read back -/

/-- No number goes on here. -/
def Stops (rest : List Char) : Prop :=
  ∀ c, rest.head? = some c → c.isDigit = false ∧ c ≠ '.' ∧ c ≠ 'e' ∧ c ≠ 'E'

theorem stops_nil : Stops [] := nofun

theorem stops_cons {c : Char} (h : c.isDigit = false ∧ c ≠ '.' ∧ c ≠ 'e' ∧ c ≠ 'E')
    (rest : List Char) : Stops (c :: rest) := by
  intro d hd
  cases hd
  exact h

theorem blank_stops {c : Char} (h : isBlank c = true) :
    c.isDigit = false ∧ c ≠ '.' ∧ c ≠ 'e' ∧ c ≠ 'E' := by
  have hcases : c = ' ' ∨ c = Char.ofNat 9 ∨ c = Char.ofNat 10 ∨ c = Char.ofNat 13 := by
    simp only [isBlank, List.contains_iff_mem, List.mem_cons, List.not_mem_nil, or_false] at h
    rcases h with h | h | h | h
    · exact Or.inl (Char.toNat_inj.mp h)
    · exact Or.inr (Or.inl (Char.toNat_inj.mp h))
    · exact Or.inr (Or.inr (Or.inl (Char.toNat_inj.mp h)))
    · exact Or.inr (Or.inr (Or.inr (Char.toNat_inj.mp h)))
  rcases hcases with rfl | rfl | rfl | rfl <;> decide

section Numbers

variable (floatRepr : String → String) {rest : List Char}

theorem takeWhile_digits {digits : List Char} (h : ∀ c ∈ digits, c.isDigit = true)
    (hrest : Stops rest) : (digits ++ rest).takeWhile Char.isDigit = digits ∧
      (digits ++ rest).dropWhile Char.isDigit = rest := by
  have hnone : rest.takeWhile Char.isDigit = [] ∧ rest.dropWhile Char.isDigit = rest := by
    cases rest with
    | nil => exact ⟨rfl, rfl⟩
    | cons c rest =>
      have hc : c.isDigit = false := (hrest c rfl).1
      simp [hc]
  rw [List.takeWhile_append_of_pos h, List.dropWhile_append_of_pos h, hnone.1, hnone.2,
    List.append_nil]
  exact ⟨rfl, rfl⟩

theorem finish_int (negative : Bool) (digits : List Char) (hrest : Stops rest) :
    finishNumber floatRepr negative digits rest =
      (int (if negative then -(Nat.ofDigitChars 10 digits 0 : Int) else Nat.ofDigitChars 10 digits 0),
        rest) := by
  cases rest with
  | nil => simp [finishNumber, scanFraction, scanExponent]
  | cons c rest =>
    obtain ⟨_, hdot, he, hE⟩ := hrest c rfl
    have hfraction : scanFraction (c :: rest) = ([], c :: rest) := by
      unfold scanFraction
      split
      · next h => cases h; exact absurd rfl hdot
      · rfl
    have hexponent : scanExponent (c :: rest) = ([], c :: rest) := by
      simp [scanExponent, he, hE]
    simp [finishNumber, hfraction, hexponent]

/-- A positive number is written without a leading zero. -/
theorem toDigits_head {n : Nat} (hn : 0 < n) :
    ∃ c digits, Nat.toDigits 10 n = c :: digits ∧ c ≠ '0' := by
  induction n using Nat.strongRecOn with
  | ind n ih =>
    by_cases hsmall : n < 10
    · refine ⟨n.digitChar, [], Nat.toDigits_of_lt_base hsmall, ?_⟩
      have hall : ∀ k : Fin 10, 0 < k.val → k.val.digitChar ≠ '0' := by decide
      exact hall ⟨n, hsmall⟩ hn
    · obtain ⟨c, digits, hdigits, hc⟩ := ih (n / 10) (by omega) (by omega)
      refine ⟨c, digits ++ [(n % 10).digitChar], ?_, hc⟩
      rw [Nat.toDigits_of_base_le (by decide) (by omega), hdigits, List.cons_append]

theorem scan_digits (negative : Bool) (n : Nat) (hrest : Stops rest) :
    scanDigits floatRepr negative (Nat.toDigits 10 n ++ rest) =
      some (int (if negative then -(n : Int) else n), rest) := by
  have hdigit : ∀ c ∈ Nat.toDigits 10 n, c.isDigit = true := fun c hc =>
    Nat.isDigit_of_mem_toDigits (by decide) (by decide) hc
  have hvalue := Nat.ofDigitChars_ten_toDigits (n := n)
  rcases Nat.eq_zero_or_pos n with rfl | hpos
  · rw [Nat.toDigits_zero, List.singleton_append, scanDigits, if_pos rfl,
      finish_int floatRepr negative ['0'] hrest]
    rfl
  · obtain ⟨c, digits, hdigits, hzero⟩ := toDigits_head hpos
    rw [hdigits] at hdigit hvalue ⊢
    obtain ⟨htake, hdrop⟩ :=
      takeWhile_digits (fun d hd => hdigit d (List.mem_cons_of_mem c hd)) hrest
    rw [List.cons_append, scanDigits, if_neg hzero, if_pos (hdigit c (List.mem_cons_self ..)), htake,
      hdrop, finish_int floatRepr negative _ hrest, hvalue]

theorem toList_negSucc (n : Nat) :
    (toString (Int.negSucc n)).toList = '-' :: Nat.toDigits 10 (n + 1) := by
  show ("-" ++ Nat.repr (n + 1)).toList = _
  rw [String.toList_append, Nat.toList_repr]
  rfl

theorem scan_number (n : Int) (hrest : Stops rest) :
    scanNumber floatRepr ((toString n).toList ++ rest) = some (int n, rest) := by
  cases n with
  | ofNat n =>
    have htext : (toString (Int.ofNat n)).toList = Nat.toDigits 10 n := Nat.toList_repr
    rw [htext]
    have hhead : ∀ c ∈ Nat.toDigits 10 n, c ≠ '-' := by
      rintro c hc rfl
      exact absurd (Nat.isDigit_of_mem_toDigits (by decide) (by decide) hc) (by decide)
    unfold scanNumber
    split
    · next text h =>
      cases hd : Nat.toDigits 10 n with
      | nil => exact absurd hd Nat.toDigits_ne_nil
      | cons c digits =>
        rw [hd] at h
        cases h
        exact absurd rfl (hhead '-' (hd ▸ List.mem_cons_self ..))
    · exact scan_digits floatRepr false n hrest
  | negSucc n =>
    rw [toList_negSucc]
    exact scan_digits floatRepr true (n + 1) hrest

/-- A number is none of the constants. -/
theorem scanConstant_digit {c : Char} (hc : c.isDigit = true) (cs : List Char) :
    scanConstant (c :: cs) = none ∧ scanConstant ('-' :: c :: cs) = none := by
  have hne : ∀ d : Char, d.isDigit = false → d ≠ c := by
    rintro d hd rfl
    rw [hd] at hc
    cases hc
  simp [scanConstant, constants, hne 'n' rfl, hne 't' rfl, hne 'f' rfl, hne 'N' rfl, hne 'I' rfl,
    hne '-' rfl]

/-- How the text of an integer begins. -/
theorem toString_int (n : Int) : ∃ c cs, c.isDigit = true ∧
    ((toString n).toList = c :: cs ∨ (toString n).toList = '-' :: c :: cs) := by
  have hdigits : ∀ m : Nat, ∃ c cs, c.isDigit = true ∧ Nat.toDigits 10 m = c :: cs := by
    intro m
    cases hd : Nat.toDigits 10 m with
    | nil => exact absurd hd Nat.toDigits_ne_nil
    | cons c cs =>
      exact ⟨c, cs, Nat.isDigit_of_mem_toDigits (by decide) (by decide) (hd ▸ List.mem_cons_self ..),
        rfl⟩
  cases n with
  | ofNat n =>
    obtain ⟨c, cs, hc, hd⟩ := hdigits n
    exact ⟨c, cs, hc, Or.inl (Nat.toList_repr.trans hd)⟩
  | negSucc n =>
    obtain ⟨c, cs, hc, hd⟩ := hdigits (n + 1)
    refine ⟨c, cs, hc, Or.inr ?_⟩
    rw [toList_negSucc, hd]

end Numbers

/-! ## Values read back -/

mutual

/-- A value without floats and lone surrogates, whose objects have each key once. -/
def Plain : Json → Prop
  | float _ => False
  | str s => s.encodable = true
  | arr items => PlainItems items
  | obj fields => (fields.map Prod.fst).Nodup ∧ PlainFields fields
  | null | bool _ | int _ => True

def PlainItems : List Json → Prop
  | [] => True
  | v :: rest => Plain v ∧ PlainItems rest

def PlainFields : List (PyStr × Json) → Prop
  | [] => True
  | (k, v) :: rest => k.encodable = true ∧ Plain v ∧ PlainFields rest

end

/-- A comma and a colon, each followed by spaces at most. -/
structure Separators.Ok (sep : Separators) : Prop where
  item : ∃ blanks, sep.item = ',' :: blanks ∧ ∀ c ∈ blanks, c = ' '
  key : ∃ blanks, sep.key = ':' :: blanks ∧ ∀ c ∈ blanks, c = ' '

theorem Separators.default_ok : Separators.default.Ok :=
  ⟨⟨[' '], rfl, by simp⟩, ⟨[' '], rfl, by simp⟩⟩

theorem Separators.compact_ok : Separators.compact.Ok := ⟨⟨[], rfl, nofun⟩, ⟨[], rfl, nofun⟩⟩

/-- A text that begins with no blank and closes no list. -/
def Begins (text : List Char) : Prop := ∃ c cs, text = c :: cs ∧ isBlank c = false ∧ c ≠ ']'

theorem skip_blanks {blanks text : List Char} (hblanks : ∀ c ∈ blanks, isBlank c = true)
    (htext : Begins text) : skipBlank (blanks ++ text) = text := by
  obtain ⟨c, cs, rfl, hc, _⟩ := htext
  rw [skipBlank, List.dropWhile_append_of_pos hblanks, List.dropWhile_cons_of_neg (by simp [hc])]

theorem Begins.append {text : List Char} (h : Begins text) (rest : List Char) :
    Begins (text ++ rest) := by
  obtain ⟨c, cs, rfl, hc⟩ := h
  exact ⟨c, cs ++ rest, rfl, hc⟩

section Values

variable (floatRepr : String → String) {sep : Separators}

theorem write_begins (sep : Separators) {v : Json} (hv : Plain v) : Begins (write sep v) := by
  cases v with
  | null => exact ⟨'n', _, rfl, by decide, by decide⟩
  | bool b =>
    cases b with
    | true => exact ⟨'t', _, rfl, by decide, by decide⟩
    | false => exact ⟨'f', _, rfl, by decide, by decide⟩
  | int n =>
    obtain ⟨c, cs, hc, h | h⟩ := toString_int n
    · refine ⟨c, cs, h, ?_, ?_⟩
      · cases hblank : isBlank c with
        | false => rfl
        | true =>
          rw [(blank_stops hblank).1] at hc
          cases hc
      · rintro rfl
        cases hc
    · exact ⟨'-', c :: cs, h, by decide, by decide⟩
  | float r => exact hv.elim
  | str s => exact ⟨quote, _, rfl, by decide, by decide⟩
  | arr items => exact ⟨'[', _, rfl, by decide, by decide⟩
  | obj fields => exact ⟨openBrace, _, rfl, by decide, by decide⟩

theorem scan_int (n : Int) {rest : List Char} (hrest : Stops rest) (fuel : Nat) :
    scanValue floatRepr (fuel + 1) ((toString n).toList ++ rest) = some (int n, rest) := by
  have hnumber := scan_number floatRepr n hrest
  obtain ⟨c, cs, hc, h | h⟩ := toString_int n
  · rw [h] at hnumber ⊢
    have hquote : c ≠ quote := by rintro rfl; cases hc
    have hbrace : c ≠ openBrace := by rintro rfl; cases hc
    have hlist : c ≠ '[' := by rintro rfl; cases hc
    rw [List.cons_append] at hnumber ⊢
    rw [scanValue, if_neg hquote, if_neg hbrace, if_neg hlist, (scanConstant_digit hc _).1]
    exact hnumber
  · rw [h] at hnumber ⊢
    rw [List.cons_append, List.cons_append] at hnumber ⊢
    rw [scanValue, if_neg (by decide), if_neg (by decide), if_neg (by decide),
      (scanConstant_digit hc _).2]
    exact hnumber

theorem stops_item (hsep : sep.Ok) (rest : List Char) : Stops (sep.item ++ rest) := by
  obtain ⟨blanks, hitem, _⟩ := hsep.item
  rw [hitem]
  exact stops_cons (by decide) _

/-- After a comma the scanner goes on with the next text. -/
theorem skip_item (hsep : sep.Ok) {text : List Char} (htext : Begins text) :
    ∃ ds, skipBlank (sep.item ++ text) = ',' :: ds ∧ skipBlank ds = text := by
  obtain ⟨blanks, hitem, hblanks⟩ := hsep.item
  refine ⟨blanks ++ text, ?_, skip_blanks (fun c hc => by rw [hblanks c hc]; rfl) htext⟩
  rw [hitem]
  rfl

theorem skip_key (hsep : sep.Ok) {text : List Char} (htext : Begins text) :
    ∃ ds, skipBlank (sep.key ++ text) = ':' :: ds ∧ skipBlank ds = text := by
  obtain ⟨blanks, hkey, hblanks⟩ := hsep.key
  refine ⟨blanks ++ text, ?_, skip_blanks (fun c hc => by rw [hblanks c hc]; rfl) htext⟩
  rw [hkey]
  rfl

theorem writeItems_begins (sep : Separators) {items : List Json} (hne : items ≠ []) (h : PlainItems items) :
    Begins (writeItems sep items) := by
  match items, h with
  | [], _ => exact absurd rfl hne
  | [v], h => exact write_begins sep h.1
  | v :: w :: rest, h =>
    rw [writeItems, List.append_assoc]
    · exact (write_begins sep h.1).append _
    · nofun

theorem writeFields_begins (sep : Separators) {fields : List (PyStr × Json)} (hne : fields ≠ []) :
    ∃ cs, writeFields sep fields = quote :: cs := by
  match fields with
  | [] => exact absurd rfl hne
  | [(k, v)] => exact ⟨_, rfl⟩
  | (k, v) :: w :: rest => exact ⟨_, rfl⟩

theorem setField_new {fields : List (PyStr × Json)} {key : PyStr} {v : Json}
    (h : key ∉ fields.map Prod.fst) : setField fields key v = fields ++ [(key, v)] := by
  have hany : (fields.any fun f => f.1 == key) = false := by
    rw [List.any_eq_false]
    rintro f hf hkey
    exact h (List.mem_map.mpr ⟨f, hf, by simpa using hkey⟩)
  rw [setField, hany]
  rfl

/-- One field up to what follows its value. -/
theorem scan_field (hsep : sep.Ok) {k : PyStr} {v : Json} (hkey : k.encodable = true)
    (hv : Plain v) {fuel : Nat}
    {done : List (PyStr × Json)} (hk : k ∉ done.map Prod.fst) {rest : List Char}
    (hscan : scanValue floatRepr fuel (write sep v ++ rest) = some (v, rest)) {d : Char}
    {ds : List Char} (hrest : skipBlank rest = d :: ds) :
    scanFields floatRepr (fuel + 1) done (quoted k ++ (sep.key ++ (write sep v ++ rest))) =
      if d = closeBrace then some (obj (done ++ [(k, v)]), ds)
      else if d = ',' then scanFields floatRepr fuel (done ++ [(k, v)]) (skipBlank ds)
      else none := by
  obtain ⟨ds, hcolon, hnext⟩ := skip_key hsep ((write_begins sep hv).append rest)
  rw [quoted, List.cons_append, List.cons_append, List.append_assoc, scanFields, if_pos rfl]
  have hkey := scan_quoted hkey (sep.key ++ (write sep v ++ rest))
  simp only [List.cons_append, List.nil_append, hkey, hcolon, if_true, hnext, hscan, setField_new hk,
    hrest]

mutual

theorem scan_write (hsep : sep.Ok) : ∀ (v : Json), Plain v → ∀ (fuel : Nat) (rest : List Char),
    (write sep v).length ≤ fuel → Stops rest →
      scanValue floatRepr fuel (write sep v ++ rest) = some (v, rest)
  | v, hv, 0, rest, hfuel, _ => by
    obtain ⟨c, cs, hw, _⟩ := write_begins sep hv
    rw [hw] at hfuel
    cases hfuel
  | null, _, fuel + 1, rest, _, _ => rfl
  | bool true, _, fuel + 1, rest, _, _ => rfl
  | bool false, _, fuel + 1, rest, _, _ => rfl
  | int n, _, fuel + 1, rest, _, hrest => scan_int floatRepr n hrest fuel
  | str s, hs, fuel + 1, rest, _, _ => by
    rw [write, quoted, List.cons_append, List.cons_append, List.append_assoc, scanValue, if_pos rfl]
    show (scanString (escape s ++ quote :: rest)).map _ = _
    rw [scan_quoted hs]
    rfl
  | arr [], _, fuel + 1, rest, _, _ => rfl
  | arr (v :: items), hv, fuel + 1, rest, hfuel, _ => by
    have hitems : PlainItems (v :: items) := hv
    obtain ⟨c, cs, hw, hblank, hclose⟩ := writeItems_begins sep (List.cons_ne_nil v items) hitems
    have hscan := scan_writeItems hsep (v :: items) (List.cons_ne_nil v items) hitems fuel [] rest
      (by simp only [write, List.length_cons, List.length_append] at hfuel; omega)
    rw [write, List.cons_append, List.cons_append, List.append_assoc, scanValue, if_neg (by decide),
      if_neg (by decide), if_pos rfl]
    rw [hw] at hscan ⊢
    simp only [List.cons_append, List.nil_append, skipBlank,
      List.dropWhile_cons_of_neg (show ¬isBlank c = true by simp [hblank]), if_neg hclose] at hscan ⊢
    exact hscan
  | obj [], _, fuel + 1, rest, _, _ => rfl
  | obj ((k, v) :: fields), hv, fuel + 1, rest, hfuel, _ => by
    obtain ⟨hkeys, hfields⟩ : (((k, v) :: fields).map Prod.fst).Nodup ∧
      PlainFields ((k, v) :: fields) := hv
    obtain ⟨cs, hw⟩ := writeFields_begins sep (List.cons_ne_nil (k, v) fields)
    have hscan := scan_writeFields hsep ((k, v) :: fields) (List.cons_ne_nil _ _) hfields fuel [] rest
      (by simp only [write, List.length_cons, List.length_append] at hfuel; omega) hkeys
    rw [write, List.cons_append, List.cons_append, List.append_assoc, scanValue, if_neg (by decide),
      if_pos rfl]
    rw [hw] at hscan ⊢
    exact hscan

theorem scan_writeItems (hsep : sep.Ok) : ∀ (items : List Json), items ≠ [] → PlainItems items →
    ∀ (fuel : Nat) (done : List Json) (rest : List Char),
      (writeItems sep items).length + 1 ≤ fuel →
        scanItems floatRepr fuel done (writeItems sep items ++ ']' :: rest) =
          some (arr (done ++ items), rest)
  | [], hne, _, _, _, _, _ => absurd rfl hne
  | _ :: _, _, _, 0, _, _, hfuel => absurd hfuel (by omega)
  | [v], _, hv, fuel + 1, done, rest, hfuel => by
    have hscan := scan_write hsep v hv.1 fuel (']' :: rest) (by simpa [writeItems] using hfuel)
      (stops_cons (by decide) rest)
    rw [writeItems, scanItems, hscan]
    rfl
  | v :: w :: items, _, hv, fuel + 1, done, rest, hfuel => by
    obtain ⟨hfirst, hmore⟩ : Plain v ∧ PlainItems (w :: items) := hv
    have hlen : (write sep v).length + sep.item.length + (writeItems sep (w :: items)).length ≤ fuel := by
      rw [writeItems] at hfuel
      · simp only [List.length_append] at hfuel
        omega
      · nofun
    obtain ⟨c, cs, hw, _⟩ := write_begins sep hfirst
    have hpos : 0 < (write sep v).length := by simp [hw]
    have hscan := scan_write hsep v hfirst fuel (sep.item ++ (writeItems sep (w :: items) ++ ']' :: rest))
      (by omega) (stops_item hsep _)
    obtain ⟨ds, hcomma, hnext⟩ := skip_item hsep
      ((writeItems_begins sep (List.cons_ne_nil w items) hmore).append (']' :: rest))
    have hrest := scan_writeItems hsep (w :: items) (List.cons_ne_nil w items) hmore fuel (done ++ [v]) rest
      (by omega)
    rw [writeItems]
    · rw [List.append_assoc, List.append_assoc, scanItems, hscan]
      simp only [hcomma, hnext]
      rw [if_neg (by decide), if_pos trivial, hrest, List.append_assoc]
      rfl
    · nofun

theorem scan_writeFields (hsep : sep.Ok) : ∀ (fields : List (PyStr × Json)), fields ≠ [] →
    PlainFields fields → ∀ (fuel : Nat) (done : List (PyStr × Json)) (rest : List Char),
      (writeFields sep fields).length + 1 ≤ fuel → ((done ++ fields).map Prod.fst).Nodup →
        scanFields floatRepr fuel done (writeFields sep fields ++ closeBrace :: rest) =
          some (obj (done ++ fields), rest)
  | [], hne, _, _, _, _, _, _ => absurd rfl hne
  | _ :: _, _, _, 0, _, _, hfuel, _ => absurd hfuel (by omega)
  | [(k, v)], _, hv, fuel + 1, done, rest, hfuel, hkeys => by
    have hk : k ∉ done.map Prod.fst := fun h => by
      rw [List.map_append, List.nodup_append] at hkeys
      exact hkeys.2.2 k h k (by simp) rfl
    have hlen : (write sep v).length ≤ fuel := by
      simp only [writeFields, List.length_append] at hfuel
      omega
    have hscan := scan_write hsep v hv.2.1 fuel (closeBrace :: rest) hlen
      (stops_cons (by decide) rest)
    rw [writeFields, List.append_assoc, List.append_assoc,
      scan_field floatRepr hsep hv.1 hv.2.1 hk hscan rfl, if_pos rfl]
  | (k, v) :: w :: fields, _, hv, fuel + 1, done, rest, hfuel, hkeys => by
    obtain ⟨hkey, hfirst, hmore⟩ : k.encodable = true ∧ Plain v ∧ PlainFields (w :: fields) := hv
    have hk : k ∉ done.map Prod.fst := fun h => by
      rw [List.map_append, List.nodup_append] at hkeys
      exact hkeys.2.2 k h k (by simp) rfl
    have hlen : (write sep v).length ≤ fuel ∧ (writeFields sep (w :: fields)).length + 1 ≤ fuel := by
      rw [writeFields] at hfuel
      · simp only [List.length_append, quoted, List.length_cons] at hfuel
        omega
      · nofun
    have hscan := scan_write hsep v hfirst fuel
      (sep.item ++ (writeFields sep (w :: fields) ++ closeBrace :: rest)) hlen.1 (stops_item hsep _)
    obtain ⟨cs, hw⟩ := writeFields_begins sep (List.cons_ne_nil w fields)
    have hbegins : Begins (writeFields sep (w :: fields) ++ closeBrace :: rest) := by
      rw [hw]
      exact ⟨quote, _, rfl, by decide, by decide⟩
    obtain ⟨ds, hcomma, hnext⟩ := skip_item hsep hbegins
    have hrest := scan_writeFields hsep (w :: fields) (List.cons_ne_nil w fields) hmore fuel
      (done ++ [(k, v)]) rest hlen.2 (by simpa using hkeys)
    rw [writeFields]
    · rw [List.append_assoc, List.append_assoc, List.append_assoc, List.append_assoc,
        scan_field floatRepr hsep hkey hfirst hk hscan hcomma, if_neg (by decide), if_pos rfl, hnext,
        hrest, List.append_assoc]
      rfl
    · nofun

end

/-- **Round trip.** `json.loads` reads back what `json.dumps` wrote, blanks after it or not. -/
theorem loads_write (hsep : sep.Ok) {v : Json} (hv : Plain v) {blanks : List Char}
    (hblanks : ∀ c ∈ blanks, isBlank c = true) :
    loads floatRepr (String.ofList (write sep v ++ blanks)) = some v := by
  have hstops : Stops blanks := by
    cases blanks with
    | nil => exact stops_nil
    | cons c blanks => exact stops_cons (blank_stops (hblanks c (List.mem_cons_self ..))) blanks
  have hstart : skipBlank (write sep v ++ blanks) = write sep v ++ blanks :=
    skip_blanks (List.forall_mem_nil _) ((write_begins sep hv).append blanks)
  have hend : skipBlank blanks = [] := List.dropWhile_eq_nil_iff.mpr fun c hc => hblanks c hc
  rw [loads, String.toList_ofList, hstart,
    scan_write floatRepr hsep v hv _ blanks (by simp only [List.length_append]; omega) hstops]
  simp only [hend, List.isEmpty_nil, if_true]

end Values

/-! ## ASCII -/

/-- A printable ASCII character. -/
def Printable (c : Char) : Prop := 32 ≤ c.toNat ∧ c.toNat < 127

theorem printable_hexDigit (n : Nat) : Printable (hexDigit n) := by
  by_cases h : n < 16
  · have hall : ∀ k : Fin 16, 32 ≤ (hexDigit k).toNat ∧ (hexDigit k).toNat < 127 := by decide
    exact hall ⟨n, h⟩
  · have hdefault : hexDigit n = '0' := by
      rw [hexDigit, List.getD_eq_getElem?_getD, List.getElem?_eq_none]
      · rfl
      · show 16 ≤ n
        omega
    rw [hdefault]
    exact ⟨by decide, by decide⟩

theorem printable_escapeUnit (n : Nat) : ∀ c ∈ escapeUnit n, Printable c := by
  simp only [escapeUnit, List.mem_cons, List.not_mem_nil, or_false]
  rintro c (rfl | rfl | rfl | rfl | rfl | rfl)
  · exact ⟨by decide, by decide⟩
  · exact ⟨by decide, by decide⟩
  all_goals exact printable_hexDigit _

/-- `ensure_ascii`. -/
theorem printable_escapeChar (c : Char) : ∀ d ∈ escapeChar c, Printable d := by
  have hpair : ∀ e : Char, Printable e → ∀ d ∈ [Char.ofNat 92, e], Printable d := by
    intro e he d hd
    simp only [List.mem_cons, List.not_mem_nil, or_false] at hd
    rcases hd with rfl | rfl
    · exact ⟨by decide, by decide⟩
    · exact he
  unfold escapeChar
  simp only
  repeat' split
  · exact hpair _ ⟨by decide, by decide⟩
  · exact hpair _ ⟨by decide, by decide⟩
  · exact hpair _ ⟨by decide, by decide⟩
  · exact hpair _ ⟨by decide, by decide⟩
  · exact hpair _ ⟨by decide, by decide⟩
  · exact hpair _ ⟨by decide, by decide⟩
  · exact hpair _ ⟨by decide, by decide⟩
  · next h =>
    intro d hd
    obtain rfl := List.mem_singleton.mp hd
    exact ⟨h.1, by omega⟩
  · exact printable_escapeUnit _
  · intro d hd
    rcases List.mem_append.mp hd with hd | hd
    · exact printable_escapeUnit _ d hd
    · exact printable_escapeUnit _ d hd

theorem printable_escape (s : PyStr) : ∀ c ∈ escape s, Printable c := by
  intro c hc
  cases s with
  | text s =>
    obtain ⟨d, _, hc⟩ := List.mem_flatMap.mp hc
    exact printable_escapeChar d c hc
  | lone t =>
    obtain ⟨n, _, hc⟩ := List.mem_flatMap.mp hc
    unfold escapeCode at hc
    split at hc
    · exact printable_escapeUnit _ c hc
    · exact printable_escapeChar _ c hc

theorem printable_quoted (s : PyStr) : ∀ c ∈ quoted s, Printable c := by
  intro c hc
  simp only [quoted, List.cons_append, List.mem_cons, List.mem_append, List.not_mem_nil,
    or_false] at hc
  rcases hc with rfl | hc | rfl
  · exact ⟨by decide, by decide⟩
  · exact printable_escape s c hc
  · exact ⟨by decide, by decide⟩

theorem printable_digit {c : Char} (h : c.isDigit = true) : Printable c := by
  simp only [Char.isDigit, Bool.and_eq_true, decide_eq_true_eq] at h
  have hlow : 48 ≤ c.toNat := h.1
  have hhigh : c.toNat ≤ 57 := h.2
  exact ⟨by omega, by omega⟩

theorem printable_int (n : Int) : ∀ c ∈ (toString n).toList, Printable c := by
  have hnat : ∀ m : Nat, ∀ c ∈ Nat.toDigits 10 m, Printable c := fun m c hc =>
    printable_digit (Nat.isDigit_of_mem_toDigits (by decide) (by decide) hc)
  intro c hc
  cases n with
  | ofNat n => exact hnat n c (Nat.toList_repr (n := n) ▸ hc)
  | negSucc n =>
    rw [toList_negSucc] at hc
    rcases List.mem_cons.mp hc with rfl | hc
    · exact ⟨by decide, by decide⟩
    · exact hnat _ c hc

section Ascii

variable {sep : Separators}

theorem Separators.Ok.printable (hsep : sep.Ok) :
    (∀ c ∈ sep.item, Printable c) ∧ ∀ c ∈ sep.key, Printable c := by
  have hspaced : ∀ (d : Char) (blanks : List Char), Printable d → (∀ c ∈ blanks, c = ' ') →
      ∀ c ∈ d :: blanks, Printable c := by
    intro d blanks hd hblanks c hc
    rcases List.mem_cons.mp hc with rfl | hc
    · exact hd
    · rw [hblanks c hc]
      exact ⟨by decide, by decide⟩
  obtain ⟨blanks, hitem, hblanks⟩ := hsep.item
  obtain ⟨blanks', hkey, hblanks'⟩ := hsep.key
  rw [hitem, hkey]
  exact ⟨hspaced _ blanks ⟨by decide, by decide⟩ hblanks,
    hspaced _ blanks' ⟨by decide, by decide⟩ hblanks'⟩

mutual

/-- `json.dumps` writes printable ASCII, so no raw newline. -/
theorem printable_write (hsep : sep.Ok) : ∀ (v : Json), Plain v → ∀ c ∈ write sep v, Printable c
  | null, _, c, hc => by
    have hall : ∀ d ∈ "null".toList, 32 ≤ d.toNat ∧ d.toNat < 127 := by simp
    exact hall c hc
  | bool true, _, c, hc => by
    have hall : ∀ d ∈ "true".toList, 32 ≤ d.toNat ∧ d.toNat < 127 := by simp
    exact hall c hc
  | bool false, _, c, hc => by
    have hall : ∀ d ∈ "false".toList, 32 ≤ d.toNat ∧ d.toNat < 127 := by simp
    exact hall c hc
  | int n, _, c, hc => printable_int n c hc
  | str s, _, c, hc => printable_quoted s c hc
  | arr items, hv, c, hc => by
    rcases List.mem_cons.mp hc with rfl | hc
    · exact ⟨by decide, by decide⟩
    · rcases List.mem_append.mp hc with hc | hc
      · exact printable_writeItems hsep items hv c hc
      · obtain rfl := List.mem_singleton.mp hc
        exact ⟨by decide, by decide⟩
  | obj fields, hv, c, hc => by
    rcases List.mem_cons.mp hc with rfl | hc
    · exact ⟨by decide, by decide⟩
    · rcases List.mem_append.mp hc with hc | hc
      · exact printable_writeFields hsep fields hv.2 c hc
      · obtain rfl := List.mem_singleton.mp hc
        exact ⟨by decide, by decide⟩

theorem printable_writeItems (hsep : sep.Ok) : ∀ (items : List Json), PlainItems items →
    ∀ c ∈ writeItems sep items, Printable c
  | [], _, c, hc => absurd hc List.not_mem_nil
  | [v], hv, c, hc => printable_write hsep v hv.1 c hc
  | v :: w :: items, hv, c, hc => by
    rw [writeItems] at hc
    · rcases List.mem_append.mp hc with hc | hc
      · rcases List.mem_append.mp hc with hc | hc
        · exact printable_write hsep v hv.1 c hc
        · exact hsep.printable.1 c hc
      · exact printable_writeItems hsep (w :: items) hv.2 c hc
    · nofun

theorem printable_writeFields (hsep : sep.Ok) : ∀ (fields : List (PyStr × Json)), PlainFields fields →
    ∀ c ∈ writeFields sep fields, Printable c
  | [], _, c, hc => absurd hc List.not_mem_nil
  | [(k, v)], hv, c, hc => by
    rcases List.mem_append.mp hc with hc | hc
    · rcases List.mem_append.mp hc with hc | hc
      · exact printable_quoted k c hc
      · exact hsep.printable.2 c hc
    · exact printable_write hsep v hv.2.1 c hc
  | (k, v) :: w :: fields, hv, c, hc => by
    rw [writeFields] at hc
    · simp only [List.mem_append, or_assoc] at hc
      rcases hc with hc | hc | hc | hc | hc
      · exact printable_quoted k c hc
      · exact hsep.printable.2 c hc
      · exact printable_write hsep v hv.2.1 c hc
      · exact hsep.printable.1 c hc
      · exact printable_writeFields hsep (w :: fields) hv.2.2 c hc
    · nofun

end

end Ascii

end NostrAuth.Json
