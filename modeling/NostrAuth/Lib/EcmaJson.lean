import Mathlib.Data.List.TakeWhile
import NostrAuth.Lib.EcmaScript

/-! `JSON.stringify` and `JSON.parse` on code units, and that the second reads back what the first
wrote. -/

set_option autoImplicit false

namespace EcmaScript

/-! ## Numbers -/

def isDigit (u : UInt16) : Bool := 48 ≤ u && u ≤ 57

/-- A digit, a sign, a point or the letter of an exponent. -/
def isNumberUnit (u : UInt16) : Bool := isDigit u || [43, 45, 46, 69, 101].contains u

def isDigits (s : JsString) : Bool := !s.isEmpty && s.all isDigit

/-- What may come after the fraction: `([eE][+-]?[0-9]+)?` -/
def isExponent : JsString → Bool
  | [] => true
  | e :: rest => (e == 69 || e == 101) && isDigits (splitSign rest).2

/-- What may come after the integer part. -/
def isFraction : JsString → Bool
  | [] => true
  | u :: rest =>
    if u = 46 then isDigits (rest.takeWhile isDigit) && isExponent (rest.dropWhile isDigit)
    else isExponent (u :: rest)

def isUnsigned : JsString → Bool
  | [] => false
  | u :: rest => if u = 48 then isFraction rest else isDigit u && isFraction (rest.dropWhile isDigit)

/-- The number literals of JSON. -/
def isNumber : JsString → Bool
  | [] => false
  | u :: rest => if u = 45 then isUnsigned rest else isUnsigned (u :: rest)

/-- A number is kept as a literal of it. -/
structure NumberLiteral where
  text : JsString
  valid : isNumber text = true

theorem all_isDigits {s : JsString} (h : isDigits s = true) : s.all isNumberUnit = true := by
  simp only [isDigits, Bool.and_eq_true, List.all_eq_true] at h
  exact List.all_eq_true.mpr fun u hu => by simp [isNumberUnit, h.2 u hu]

theorem all_takeWhile (s : JsString) : (s.takeWhile isDigit).all isNumberUnit = true :=
  List.all_eq_true.mpr fun u hu => by simp [isNumberUnit, List.mem_takeWhile_imp hu]

theorem all_of_dropWhile {s : JsString} (h : (s.dropWhile isDigit).all isNumberUnit = true) :
    s.all isNumberUnit = true := by
  rw [← List.takeWhile_append_dropWhile (p := isDigit) (l := s), List.all_append, h, Bool.and_true]
  exact all_takeWhile s

theorem all_splitSign {s : JsString} (h : (splitSign s).2.all isNumberUnit = true) :
    s.all isNumberUnit = true := by
  cases s with
  | nil => rfl
  | cons u rest =>
    simp only [splitSign] at h
    split at h
    · next hu => rw [List.all_cons, h, hu]; rfl
    · split at h
      · next hu => rw [List.all_cons, h, hu]; rfl
      · exact h

theorem all_isExponent {s : JsString} (h : isExponent s = true) : s.all isNumberUnit = true := by
  cases s with
  | nil => rfl
  | cons e rest =>
    simp only [isExponent, Bool.and_eq_true, Bool.or_eq_true, beq_iff_eq] at h
    obtain ⟨he, hdigits⟩ := h
    have hunit : isNumberUnit e = true := by rcases he with rfl | rfl <;> rfl
    rw [List.all_cons, hunit, all_splitSign (all_isDigits hdigits), Bool.and_true]

theorem all_isFraction {s : JsString} (h : isFraction s = true) : s.all isNumberUnit = true := by
  cases s with
  | nil => rfl
  | cons u rest =>
    simp only [isFraction] at h
    split at h
    · next hu =>
      rw [Bool.and_eq_true] at h
      rw [List.all_cons, all_of_dropWhile (all_isExponent h.2), hu]
      rfl
    · exact all_isExponent h

theorem all_isUnsigned {s : JsString} (h : isUnsigned s = true) : s.all isNumberUnit = true := by
  cases s with
  | nil => rfl
  | cons u rest =>
    simp only [isUnsigned] at h
    split at h
    · next hu =>
      rw [List.all_cons, all_isFraction h, hu]
      rfl
    · rw [Bool.and_eq_true] at h
      rw [List.all_cons, all_of_dropWhile (all_isFraction h.2), isNumberUnit, h.1]
      rfl

theorem all_isNumber {s : JsString} (h : isNumber s = true) : s.all isNumberUnit = true := by
  cases s with
  | nil => rfl
  | cons u rest =>
    simp only [isNumber] at h
    split at h
    · next hu =>
      rw [List.all_cons, all_isUnsigned h, hu]
      rfl
    · exact all_isUnsigned h

/-- A literal begins with a digit or a minus sign. -/
theorem head_isNumber {s : JsString} (h : isNumber s = true) :
    ∃ u rest, s = u :: rest ∧ (u = 45 ∨ isDigit u = true) := by
  cases s with
  | nil => cases h
  | cons u rest =>
    refine ⟨u, rest, rfl, ?_⟩
    simp only [isNumber] at h
    split at h
    · next hu => exact Or.inl hu
    · simp only [isUnsigned] at h
      split at h
      · next hu => exact Or.inr (hu ▸ rfl)
      · exact Or.inr (Bool.and_eq_true_iff.mp h).1

/-! ## Values -/

/-- A value of a JSON text. Where a name of an object comes twice, the later member counts. -/
inductive JsonValue where
  | null
  | bool (b : Bool)
  | number (literal : NumberLiteral)
  | string (s : JsString)
  | array (items : List JsonValue)
  | object (members : List (JsString × JsonValue))

/-- `value[name]` of an object, with `none` for `undefined`. -/
def lookup (members : List (JsString × JsonValue)) (name : JsString) : Option JsonValue :=
  (members.reverse.find? fun m => m.1 == name).map Prod.snd

theorem lookup_append (members : List (JsString × JsonValue)) (k : JsString) (v : JsonValue)
    (name : JsString) :
    lookup (members ++ [(k, v)]) name = if k = name then some v else lookup members name := by
  rw [lookup, List.reverse_append, List.reverse_singleton, List.singleton_append, List.find?_cons]
  by_cases hk : k = name
  · rw [if_pos hk, beq_iff_eq.mpr hk]
    rfl
  · rw [if_neg hk, beq_eq_false_iff_ne.mpr hk]
    rfl

/-! ## Writing -/

/-- `\u` and four digits. -/
def unicodeEscape (u : UInt16) : JsString :=
  let n := u.toNat
  [92, 117, lowerDigit (n / 4096), lowerDigit (n / 256 % 16), lowerDigit (n / 16 % 16),
    lowerDigit (n % 16)]

def isHigh (u : UInt16) : Bool := 55296 ≤ u && u < 56320

def isLow (u : UInt16) : Bool := 56320 ≤ u && u < 57344

/-- One unit that is no half of a pair. -/
def quoteUnit (u : UInt16) : JsString :=
  if u = 34 ∨ u = 92 then [92, u]
  else if u = 8 then [92, 98]
  else if u = 9 then [92, 116]
  else if u = 10 then [92, 110]
  else if u = 12 then [92, 102]
  else if u = 13 then [92, 114]
  else if u < 32 ∨ isHigh u ∨ isLow u then unicodeEscape u
  else [u]

/-- The units between the quotes; a surrogate pair is kept. -/
def quoteUnits : JsString → JsString
  | [] => []
  | [u] => quoteUnit u
  | u :: v :: rest =>
    if isHigh u && isLow v then u :: v :: quoteUnits rest else quoteUnit u ++ quoteUnits (v :: rest)

def quote (s : JsString) : JsString := 34 :: quoteUnits s ++ [34]

mutual

/-- `JSON.stringify(value)` -/
def stringify : JsonValue → JsString
  | .null => ascii "null"
  | .bool b => if b then ascii "true" else ascii "false"
  | .number literal => literal.text
  | .string s => quote s
  | .array items => 91 :: stringifyItems items ++ [93]
  | .object members => 123 :: stringifyMembers members ++ [125]

def stringifyItems : List JsonValue → JsString
  | [] => []
  | [v] => stringify v
  | v :: rest => stringify v ++ 44 :: stringifyItems rest

def stringifyMembers : List (JsString × JsonValue) → JsString
  | [] => []
  | [(k, v)] => quote k ++ 58 :: stringify v
  | (k, v) :: rest => quote k ++ 58 :: stringify v ++ 44 :: stringifyMembers rest

end

/-! ## Reading -/

def isBlank (u : UInt16) : Bool := [9, 10, 13, 32].contains u

def skipBlank (text : JsString) : JsString := text.dropWhile isBlank

/-- The unit of an escape other than `\u`. -/
def unescape (u : UInt16) : Option UInt16 :=
  if u = 34 ∨ u = 92 ∨ u = 47 then some u
  else if u = 98 then some 8
  else if u = 102 then some 12
  else if u = 110 then some 10
  else if u = 114 then some 13
  else if u = 116 then some 9
  else none

def hexUnit (a b c d : UInt16) : Option UInt16 :=
  match hexValue a, hexValue b, hexValue c, hexValue d with
  | some a, some b, some c, some d => some (UInt16.ofNat (4096 * a + 256 * b + 16 * c + d))
  | _, _, _, _ => none

/-- What follows an opening quote: the string up to the closing one, and the rest of the text. -/
def scanString : JsString → Option (JsString × JsString)
  | [] => none
  | u :: us =>
    if u = 34 then some ([], us)
    else if u < 32 then none
    else if u = 92 then
      match us with
      | [] => none
      | e :: us =>
        if e = 117 then
          match us with
          | a :: b :: c :: d :: us =>
            match hexUnit a b c d with
            | some v => (scanString us).map fun r => (v :: r.1, r.2)
            | none => none
          | _ => none
        else
          match unescape e with
          | some v => (scanString us).map fun r => (v :: r.1, r.2)
          | none => none
    else (scanString us).map fun r => (u :: r.1, r.2)

def scanNumber (text : JsString) : Option (JsonValue × JsString) :=
  if h : isNumber (text.takeWhile isNumberUnit) = true then
    some (.number ⟨text.takeWhile isNumberUnit, h⟩, text.dropWhile isNumberUnit)
  else none

/-- The word at the start of the text, if there is one. -/
def scanWord (text : JsString) : Option (JsonValue × JsString) :=
  if (ascii "null").isPrefixOf text then some (.null, text.drop 4)
  else if (ascii "true").isPrefixOf text then some (.bool true, text.drop 4)
  else if (ascii "false").isPrefixOf text then some (.bool false, text.drop 5)
  else none

mutual

/-- The value at the start of the text, at most `fuel` calls deep. -/
def scanValue : Nat → JsString → Option (JsonValue × JsString)
  | 0, _ => none
  | _ + 1, [] => none
  | fuel + 1, u :: us =>
    if u = 34 then (scanString us).map fun r => (.string r.1, r.2)
    else if u = 123 then
      match skipBlank us with
      | [] => none
      | v :: rest =>
        if v = 125 then some (.object [], rest)
        else (scanMembers fuel (v :: rest)).map fun r => (.object r.1, r.2)
    else if u = 91 then
      match skipBlank us with
      | [] => none
      | v :: rest =>
        if v = 93 then some (.array [], rest)
        else (scanItems fuel (v :: rest)).map fun r => (.array r.1, r.2)
    else if u = 45 ∨ isDigit u then scanNumber (u :: us)
    else scanWord (u :: us)

/-- The items up to the closing bracket. -/
def scanItems : Nat → JsString → Option (List JsonValue × JsString)
  | 0, _ => none
  | fuel + 1, text =>
    match scanValue fuel text with
    | none => none
    | some (v, rest) =>
      match skipBlank rest with
      | [] => none
      | u :: rest =>
        if u = 93 then some ([v], rest)
        else if u = 44 then (scanItems fuel (skipBlank rest)).map fun r => (v :: r.1, r.2)
        else none

/-- The members up to the closing brace. -/
def scanMembers : Nat → JsString → Option (List (JsString × JsonValue) × JsString)
  | 0, _ => none
  | _ + 1, [] => none
  | fuel + 1, u :: us =>
    if u = 34 then
      match scanString us with
      | none => none
      | some (k, rest) =>
        match skipBlank rest with
        | [] => none
        | u :: rest =>
          if u = 58 then
            match scanValue fuel (skipBlank rest) with
            | none => none
            | some (v, rest) =>
              match skipBlank rest with
              | [] => none
              | u :: rest =>
                if u = 125 then some ([(k, v)], rest)
                else if u = 44 then
                  (scanMembers fuel (skipBlank rest)).map fun r => ((k, v) :: r.1, r.2)
                else none
          else none
    else none

end

/-- `JSON.parse(text)`, with `none` for a `SyntaxError`. -/
def parse (text : JsString) : Option JsonValue :=
  match scanValue (2 * text.length + 1) (skipBlank text) with
  | none => none
  | some (v, rest) => if (skipBlank rest).isEmpty then some v else none

/-! ## Strings read back -/

/-- Put one unit before what was read. -/
def withUnit (u : UInt16) : Option (JsString × JsString) → Option (JsString × JsString) :=
  Option.map fun r => (u :: r.1, r.2)

theorem scan_plain {u : UInt16} (hquote : u ≠ 34) (hcontrol : ¬u < 32) (hback : u ≠ 92)
    (rest : JsString) :
    scanString (u :: rest) = withUnit u (scanString rest) := by
  rw [scanString.eq_def]
  simp only [if_neg hquote, if_neg hcontrol, if_neg hback, withUnit]

theorem scan_escape {e v : UInt16} (he : e ≠ 117) (h : unescape e = some v) (rest : JsString) :
    scanString (92 :: e :: rest) = withUnit v (scanString rest) := by
  have hquote : (92 : UInt16) ≠ 34 := by decide
  have hcontrol : ¬(92 : UInt16) < 32 := by decide
  rw [scanString.eq_def]
  simp only [if_neg hquote, if_neg hcontrol, if_true, if_neg he, h, withUnit]

theorem scan_unicode (u : UInt16) (rest : JsString) :
    scanString (unicodeEscape u ++ rest) = withUnit u (scanString rest) := by
  have hlt : u.toNat < 65536 := u.toNat_lt
  have hvalue : 4096 * (u.toNat / 4096) + 256 * (u.toNat / 256 % 16) + 16 * (u.toNat / 16 % 16) +
      u.toNat % 16 = u.toNat := by omega
  have hunit : hexUnit (lowerDigit (u.toNat / 4096)) (lowerDigit (u.toNat / 256 % 16))
      (lowerDigit (u.toNat / 16 % 16)) (lowerDigit (u.toNat % 16)) = some u := by
    simp only [hexUnit, hexValue_lowerDigit (show u.toNat / 4096 < 16 by omega),
      hexValue_lowerDigit (Nat.mod_lt _ (show 0 < 16 by decide)), hvalue, UInt16.ofNat_toNat]
  have hquote : (92 : UInt16) ≠ 34 := by decide
  have hcontrol : ¬(92 : UInt16) < 32 := by decide
  simp only [unicodeEscape, List.cons_append, List.nil_append]
  rw [scanString.eq_def]
  simp only [if_neg hquote, if_neg hcontrol, if_true, hunit, withUnit]

theorem scan_quoteUnit (u : UInt16) (rest : JsString) :
    scanString (quoteUnit u ++ rest) = withUnit u (scanString rest) := by
  unfold quoteUnit
  split
  · next h =>
    have hescape : unescape u = some u := by rcases h with rfl | rfl <;> rfl
    have hu : u ≠ 117 := by rcases h with rfl | rfl <;> decide
    exact scan_escape hu hescape rest
  split
  · next h => exact h ▸ scan_escape (by decide) rfl rest
  split
  · next h => exact h ▸ scan_escape (by decide) rfl rest
  split
  · next h => exact h ▸ scan_escape (by decide) rfl rest
  split
  · next h => exact h ▸ scan_escape (by decide) rfl rest
  split
  · next h => exact h ▸ scan_escape (by decide) rfl rest
  split
  · exact scan_unicode u rest
  · next hquote _ _ _ _ _ hplain =>
    rw [not_or] at hquote hplain
    exact scan_plain hquote.1 hplain.1 hquote.2 rest

/-- Half of a pair is no quote, no backslash and no control character. -/
theorem scan_surrogate {u : UInt16} (h : isHigh u = true ∨ isLow u = true) (rest : JsString) :
    scanString (u :: rest) = withUnit u (scanString rest) := by
  have hlarge : 55296 ≤ u.toNat := by
    simp only [isHigh, isLow, Bool.and_eq_true, decide_eq_true_eq] at h
    rcases h with ⟨h, -⟩ | ⟨h, -⟩
    · exact h
    · exact Nat.le_trans (by decide) (show 56320 ≤ u.toNat from h)
  apply scan_plain
  · rintro rfl
    exact absurd hlarge (by decide)
  · intro h
    have hsmall : u.toNat < 32 := h
    omega
  · rintro rfl
    exact absurd hlarge (by decide)

theorem scan_quoteUnits (s rest : JsString) :
    scanString (quoteUnits s ++ 34 :: rest) = some (s, rest) := by
  induction s using quoteUnits.induct with
  | case1 =>
    show scanString (34 :: rest) = some ([], rest)
    rw [scanString.eq_def]
    rfl
  | case2 u =>
    have hend : scanString (34 :: rest) = some ([], rest) := by
      rw [scanString.eq_def]
      rfl
    rw [quoteUnits, scan_quoteUnit, hend]
    rfl
  | case3 u v s hpair ih =>
    rw [Bool.and_eq_true] at hpair
    rw [quoteUnits, if_pos (Bool.and_eq_true_iff.mpr hpair), List.cons_append, List.cons_append,
      scan_surrogate (Or.inl hpair.1), scan_surrogate (Or.inr hpair.2), ih]
    rfl
  | case4 u v s hpair ih =>
    rw [quoteUnits, if_neg hpair, List.append_assoc, scan_quoteUnit, ih]
    rfl

theorem scan_quote (s rest : JsString) :
    ∃ us, quote s ++ rest = 34 :: us ∧ scanString us = some (s, rest) := by
  refine ⟨quoteUnits s ++ 34 :: rest, ?_, scan_quoteUnits s rest⟩
  simp [quote]

/-! ## Values read back -/

/-- No number goes on here. -/
def Stops (rest : JsString) : Prop := ∀ u, rest.head? = some u → isNumberUnit u = false

theorem stops_cons {u : UInt16} (h : isNumberUnit u = false) (rest : JsString) :
    Stops (u :: rest) := by
  intro v hv
  obtain rfl := Option.some.inj hv
  exact h

theorem scan_number (literal : NumberLiteral) {rest : JsString} (hrest : Stops rest) :
    scanNumber (literal.text ++ rest) = some (.number literal, rest) := by
  have hall := List.all_eq_true.mp (all_isNumber literal.valid)
  have hstop : rest.takeWhile isNumberUnit = [] ∧ rest.dropWhile isNumberUnit = rest := by
    cases rest with
    | nil => exact ⟨rfl, rfl⟩
    | cons u rest =>
      have hu : ¬isNumberUnit u = true := by simp [hrest u rfl]
      exact ⟨List.takeWhile_cons_of_neg hu, List.dropWhile_cons_of_neg hu⟩
  have htake : (literal.text ++ rest).takeWhile isNumberUnit = literal.text := by
    rw [List.takeWhile_append_of_pos hall, hstop.1, List.append_nil]
  have hdrop : (literal.text ++ rest).dropWhile isNumberUnit = rest := by
    rw [List.dropWhile_append_of_pos hall, hstop.2]
  have hvalid : isNumber ((literal.text ++ rest).takeWhile isNumberUnit) = true := by
    rw [htake]
    exact literal.valid
  rw [scanNumber, dif_pos hvalid, hdrop]
  congr

/-- A unit that a number begins with. -/
def Starts (u : UInt16) : Prop := u = 45 ∨ isDigit u = true

theorem Starts.apart {u : UInt16} (h : Starts u) :
    isBlank u = false ∧ u ≠ 34 ∧ u ≠ 91 ∧ u ≠ 93 ∧ u ≠ 123 ∧ u ≠ 125 := by
  have hbounds : 45 ≤ u.toNat ∧ u.toNat ≤ 57 := by
    rcases h with rfl | h
    · decide
    · simp only [isDigit, Bool.and_eq_true, decide_eq_true_eq] at h
      exact ⟨Nat.le_trans (by decide) (show 48 ≤ u.toNat from h.1), h.2⟩
  have hne : ∀ v : UInt16, v.toNat < 45 ∨ 57 < v.toNat → u ≠ v := by
    rintro v hv rfl
    omega
  refine ⟨?_, hne 34 (by decide), hne 91 (by decide), hne 93 (by decide), hne 123 (by decide),
    hne 125 (by decide)⟩
  simp [isBlank, hne 9 (by decide), hne 10 (by decide), hne 13 (by decide), hne 32 (by decide)]

/-- A text that no blank and no closing bracket begins. -/
def Begins (text : JsString) : Prop := ∃ u us, text = u :: us ∧ isBlank u = false ∧ u ≠ 93 ∧ u ≠ 125

theorem Begins.append {text : JsString} (h : Begins text) (rest : JsString) :
    Begins (text ++ rest) := by
  obtain ⟨u, us, rfl, hu⟩ := h
  exact ⟨u, us ++ rest, rfl, hu⟩

theorem Begins.skip {text : JsString} (h : Begins text) : skipBlank text = text := by
  obtain ⟨u, us, rfl, hu, _⟩ := h
  rw [skipBlank, List.dropWhile_cons_of_neg (by simp [hu])]

theorem stringify_begins (v : JsonValue) : Begins (stringify v) := by
  cases v with
  | null => exact ⟨110, ascii "ull", rfl, by decide⟩
  | bool b =>
    cases b with
    | false => exact ⟨102, ascii "alse", rfl, by decide⟩
    | true => exact ⟨116, ascii "rue", rfl, by decide⟩
  | number literal =>
    obtain ⟨u, us, htext, hu⟩ := head_isNumber literal.valid
    obtain ⟨hblank, _, _, hbracket, _, hbrace⟩ := Starts.apart hu
    exact ⟨u, us, htext, hblank, hbracket, hbrace⟩
  | string s => exact ⟨34, quoteUnits s ++ [34], rfl, by decide⟩
  | array items => exact ⟨91, stringifyItems items ++ [93], rfl, by decide⟩
  | object members => exact ⟨123, stringifyMembers members ++ [125], rfl, by decide⟩


theorem stringifyItems_cons (v w : JsonValue) (items : List JsonValue) :
    stringifyItems (v :: w :: items) = stringify v ++ 44 :: stringifyItems (w :: items) :=
  stringifyItems.eq_3 v (w :: items) (List.cons_ne_nil w items)

theorem stringifyMembers_cons (k : JsString) (v : JsonValue) (m : JsString × JsonValue)
    (members : List (JsString × JsonValue)) : stringifyMembers ((k, v) :: m :: members) =
      quote k ++ 58 :: stringify v ++ 44 :: stringifyMembers (m :: members) :=
  stringifyMembers.eq_3 k v (m :: members) (List.cons_ne_nil m members)

theorem stringify_pos (v : JsonValue) : 0 < (stringify v).length := by
  obtain ⟨u, us, h, _⟩ := stringify_begins v
  rw [h]
  exact Nat.succ_pos _

theorem stringifyItems_begins {items : List JsonValue} (hne : items ≠ []) :
    Begins (stringifyItems items) := by
  match items with
  | [] => exact absurd rfl hne
  | [v] => exact stringify_begins v
  | v :: w :: rest => exact (stringify_begins v).append _

theorem stringifyMembers_begins {members : List (JsString × JsonValue)} (hne : members ≠ []) :
    Begins (stringifyMembers members) := by
  have hquote : ∀ k : JsString, Begins (quote k) := fun k => ⟨34, quoteUnits k ++ [34], rfl, by decide⟩
  match members with
  | [] => exact absurd rfl hne
  | [(k, v)] => exact (hquote k).append _
  | (k, v) :: m :: rest =>
    rw [stringifyMembers_cons, List.append_assoc]
    exact (hquote k).append _

/-- One member, up to the end of its value. -/
theorem scan_member {k : JsString} {v : JsonValue} {fuel : Nat} {rest : JsString}
    (hvalue : scanValue fuel (stringify v ++ rest) = some (v, rest)) : ∃ us tail,
      quote k ++ 58 :: stringify v ++ rest = 34 :: us ∧ scanString us = some (k, 58 :: tail) ∧
        scanValue fuel (skipBlank tail) = some (v, rest) := by
  obtain ⟨us, hus, hscan⟩ := scan_quote k (58 :: (stringify v ++ rest))
  refine ⟨us, stringify v ++ rest, ?_, hscan, ?_⟩
  · rw [← hus]
    simp
  · rw [((stringify_begins v).append rest).skip]
    exact hvalue

mutual

theorem scan_stringify : ∀ (v : JsonValue) (fuel : Nat) (rest : JsString),
    (stringify v).length < fuel → Stops rest → scanValue fuel (stringify v ++ rest) = some (v, rest)
  | v, 0, rest, h, _ => absurd h (Nat.not_lt_zero _)
  | .null, fuel + 1, rest, _, _ => rfl
  | .bool true, fuel + 1, rest, _, _ => rfl
  | .bool false, fuel + 1, rest, _, _ => rfl
  | .number literal, fuel + 1, rest, _, hrest => by
    obtain ⟨u, us, htext, hu⟩ := head_isNumber literal.valid
    obtain ⟨_, hquote, hbracket, _, hbrace, _⟩ := Starts.apart hu
    have hscan := scan_number literal hrest
    rw [htext, List.cons_append] at hscan
    rw [stringify, htext, List.cons_append, scanValue, if_neg hquote, if_neg hbrace, if_neg hbracket,
      if_pos hu, hscan]
  | .string s, fuel + 1, rest, _, _ => by
    obtain ⟨us, hus, hscan⟩ := scan_quote s rest
    rw [stringify, hus, scanValue, if_pos rfl, hscan]
    rfl
  | .array [], fuel + 1, rest, _, _ => rfl
  | .array (v :: items), fuel + 1, rest, h, _ => by
    have hlen : (stringifyItems (v :: items)).length + 1 < fuel := by
      simp only [stringify, List.length_append, List.length_cons, List.length_nil] at h
      omega
    have hitems := scan_items (v :: items) (by simp) fuel rest hlen
    have hbegins := (stringifyItems_begins (List.cons_ne_nil v items)).append (93 :: rest)
    have hskip := hbegins.skip
    obtain ⟨u, us, htext, _, hbracket, _⟩ := hbegins
    rw [htext] at hitems hskip
    have hwhole : stringify (.array (v :: items)) ++ rest = 91 :: u :: us := by
      rw [← htext, stringify]
      simp
    rw [hwhole, scanValue, if_neg (by decide), if_neg (by decide), if_pos rfl, hskip]
    simp only [if_neg hbracket, hitems]
    rfl
  | .object [], fuel + 1, rest, _, _ => rfl
  | .object (m :: members), fuel + 1, rest, h, _ => by
    have hlen : (stringifyMembers (m :: members)).length + 1 < fuel := by
      simp only [stringify, List.length_append, List.length_cons, List.length_nil] at h
      omega
    have hmembers := scan_members (m :: members) (by simp) fuel rest hlen
    have hbegins := (stringifyMembers_begins (List.cons_ne_nil m members)).append (125 :: rest)
    have hskip := hbegins.skip
    obtain ⟨u, us, htext, _, _, hbrace⟩ := hbegins
    rw [htext] at hmembers hskip
    have hwhole : stringify (.object (m :: members)) ++ rest = 123 :: u :: us := by
      rw [← htext, stringify]
      simp
    rw [hwhole, scanValue, if_neg (by decide), if_pos rfl, hskip]
    simp only [if_neg hbrace, hmembers]
    rfl

theorem scan_items : ∀ (items : List JsonValue), items ≠ [] → ∀ (fuel : Nat) (rest : JsString),
    (stringifyItems items).length + 1 < fuel →
      scanItems fuel (stringifyItems items ++ 93 :: rest) = some (items, rest)
  | _, _, 0, rest, h => absurd h (Nat.not_lt_zero _)
  | [], hne, _, _, _ => absurd rfl hne
  | [v], _, fuel + 1, rest, h => by
    have hlen : (stringify v).length < fuel := by
      simp only [stringifyItems] at h
      omega
    have hvalue := scan_stringify v fuel (93 :: rest) hlen (stops_cons (by decide) rest)
    have hskip : skipBlank (93 :: rest) = 93 :: rest := rfl
    rw [stringifyItems, scanItems, hvalue]
    simp only [hskip, if_true]
  | v :: w :: items, _, fuel + 1, rest, h => by
    have hpos := stringify_pos v
    have hlen : (stringify v).length < fuel ∧ (stringifyItems (w :: items)).length + 1 < fuel := by
      rw [stringifyItems_cons] at h
      simp only [List.length_append, List.length_cons] at h
      omega
    have hvalue := scan_stringify v fuel (44 :: (stringifyItems (w :: items) ++ 93 :: rest)) hlen.1
      (stops_cons (by decide) _)
    have hitems := scan_items (w :: items) (by simp) fuel rest hlen.2
    have hskip : skipBlank (44 :: (stringifyItems (w :: items) ++ 93 :: rest)) =
        44 :: (stringifyItems (w :: items) ++ 93 :: rest) := rfl
    have hrest := ((stringifyItems_begins (List.cons_ne_nil w items)).append (93 :: rest)).skip
    have hcomma : (44 : UInt16) ≠ 93 := by decide
    rw [stringifyItems_cons, List.append_assoc, List.cons_append, scanItems, hvalue]
    simp only [hskip, if_neg hcomma, if_true, hrest, hitems]
    rfl

theorem scan_members : ∀ (members : List (JsString × JsonValue)), members ≠ [] →
    ∀ (fuel : Nat) (rest : JsString), (stringifyMembers members).length + 1 < fuel →
      scanMembers fuel (stringifyMembers members ++ 125 :: rest) = some (members, rest)
  | _, _, 0, rest, h => absurd h (Nat.not_lt_zero _)
  | [], hne, _, _, _ => absurd rfl hne
  | [(k, v)], _, fuel + 1, rest, h => by
    have hlen : (stringify v).length < fuel := by
      simp only [stringifyMembers, List.length_append, List.length_cons] at h
      omega
    have hvalue := scan_stringify v fuel (125 :: rest) hlen (stops_cons (by decide) rest)
    obtain ⟨us, tail, hus, hkey, hscan⟩ := scan_member (k := k) hvalue
    have hcolon : skipBlank (58 :: tail) = 58 :: tail := rfl
    have hskip : skipBlank (125 :: rest) = 125 :: rest := rfl
    rw [stringifyMembers, hus, scanMembers, if_pos rfl, hkey]
    simp only [hcolon, if_true, hscan, hskip]
  | (k, v) :: m :: members, _, fuel + 1, rest, h => by
    have hlen : (stringify v).length < fuel ∧ (stringifyMembers (m :: members)).length + 1 < fuel := by
      rw [stringifyMembers_cons] at h
      simp only [List.length_append, List.length_cons] at h
      omega
    have hvalue := scan_stringify v fuel (44 :: (stringifyMembers (m :: members) ++ 125 :: rest)) hlen.1
      (stops_cons (by decide) _)
    have hmembers := scan_members (m :: members) (by simp) fuel rest hlen.2
    obtain ⟨us, tail, hus, hkey, hscan⟩ := scan_member (k := k) hvalue
    have hcolon : skipBlank (58 :: tail) = 58 :: tail := rfl
    have hskip : skipBlank (44 :: (stringifyMembers (m :: members) ++ 125 :: rest)) =
        44 :: (stringifyMembers (m :: members) ++ 125 :: rest) := rfl
    have hrest := ((stringifyMembers_begins (List.cons_ne_nil m members)).append (125 :: rest)).skip
    have hcomma : (44 : UInt16) ≠ 125 := by decide
    have hwhole : stringifyMembers ((k, v) :: m :: members) ++ 125 :: rest = 34 :: us := by
      rw [← hus, stringifyMembers_cons]
      simp
    rw [hwhole, scanMembers, if_pos rfl, hkey]
    simp only [hcolon, if_true, hscan, hskip, if_neg hcomma, hrest, hmembers]
    rfl

end

/-- **Round trip.** `JSON.parse` reads back what `JSON.stringify` wrote. -/
theorem parse_stringify (v : JsonValue) : parse (stringify v) = some v := by
  have hscan := scan_stringify v (2 * (stringify v).length + 1) [] (by omega) fun u hu => by cases hu
  rw [List.append_nil] at hscan
  rw [parse, (stringify_begins v).skip, hscan]
  rfl

end EcmaScript
