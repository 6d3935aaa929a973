import NostrAuth.Python

/-! `json.dumps` with its separators, and the scanner behind `json.loads`. -/

set_option autoImplicit false

namespace NostrAuth.Json

/-! ## Writing -/

/-- The argument `separators` of `json.dumps`. -/
structure Separators where
  item : List Char
  key : List Char

def Separators.default : Separators := ⟨[',', ' '], [':', ' ']⟩

/-- `separators=(",", ":")` -/
def Separators.compact : Separators := ⟨[','], [':']⟩

def quote : Char := Char.ofNat 34

def backslash : Char := Char.ofNat 92

def openBrace : Char := Char.ofNat 123

def closeBrace : Char := Char.ofNat 125

def quoted (s : PyStr) : List Char := quote :: escape s ++ [quote]

mutual

/-- The characters of `json.dumps(value, separators=...)`. -/
def write (sep : Separators) : Json → List Char
  | null => "null".toList
  | bool b => if b then "true".toList else "false".toList
  | int n => (toString n).toList
  | float r => r.toList
  | str s => quoted s
  | arr items => '[' :: writeItems sep items ++ [']']
  | obj fields => openBrace :: writeFields sep fields ++ [closeBrace]

def writeItems (sep : Separators) : List Json → List Char
  | [] => []
  | [v] => write sep v
  | v :: rest => write sep v ++ sep.item ++ writeItems sep rest

def writeFields (sep : Separators) : List (PyStr × Json) → List Char
  | [] => []
  | [(k, v)] => quoted k ++ sep.key ++ write sep v
  | (k, v) :: rest => quoted k ++ sep.key ++ write sep v ++ sep.item ++ writeFields sep rest

end

def dumpsWith (sep : Separators) (v : Json) : String := String.ofList (write sep v)

theorem quoted_eq (s : PyStr) : (dumpsString s).toList = quoted s := by
  simp [dumpsString, quoted, quote]

mutual

/-- `json.dumps(value)` without the argument uses the default separators. -/
theorem toList_dumps : ∀ v : Json, v.dumps.toList = write .default v
  | null => rfl
  | bool b => by cases b <;> rfl
  | int n => by simp [dumps, write]
  | float r => by simp [dumps, write]
  | str s => by simp [dumps, write, quoted_eq]
  | arr items => by simp [dumps, write, toList_dumpsItems items]
  | obj fields => by simp [dumps, write, toList_dumpsFields fields, openBrace, closeBrace]

theorem toList_dumpsItems : ∀ items : List Json,
    (dumpsItems items).toList = writeItems .default items
  | [] => rfl
  | [v] => by simp [dumpsItems, writeItems, toList_dumps v]
  | v :: w :: rest => by
    simp [dumpsItems, writeItems, toList_dumps v, toList_dumpsItems (w :: rest), Separators.default]

theorem toList_dumpsFields : ∀ fields : List (PyStr × Json),
    (dumpsFields fields).toList = writeFields .default fields
  | [] => rfl
  | [(k, v)] => by simp [dumpsFields, writeFields, toList_dumps v, quoted_eq, Separators.default]
  | (k, v) :: w :: rest => by
    simp [dumpsFields, writeFields, toList_dumps v, quoted_eq, toList_dumpsFields (w :: rest),
      Separators.default]

end

theorem dumpsWith_default (v : Json) : dumpsWith .default v = v.dumps := by
  rw [dumpsWith, ← toList_dumps, String.ofList_toList]

/-! ## Reading -/

/-- `WHITESPACE` -/
def isBlank (c : Char) : Bool := [32, 9, 10, 13].contains c.toNat

def skipBlank (text : List Char) : List Char := text.dropWhile isBlank

def hexValue (c : Char) : Option Nat :=
  if '0' ≤ c ∧ c ≤ '9' then some (c.toNat - 48)
  else if 'a' ≤ c ∧ c ≤ 'f' then some (c.toNat - 87)
  else if 'A' ≤ c ∧ c ≤ 'F' then some (c.toNat - 55)
  else none

/-- `BACKSLASH` -/
def unescape (c : Char) : Option Nat :=
  if c = quote then some 34
  else if c = backslash then some 92
  else if c = '/' then some 47
  else if c = 'b' then some 8
  else if c = 'f' then some 12
  else if c = 'n' then some 10
  else if c = 'r' then some 13
  else if c = 't' then some 9
  else none

def hexUnit (a b c d : Char) : Option Nat :=
  match hexValue a, hexValue b, hexValue c, hexValue d with
  | some a, some b, some c, some d => some (4096 * a + 256 * b + 16 * c + d)
  | _, _, _, _ => none

/-- What follows an opening quote: the code points and escaped UTF-16 units up to the closing
one, and the rest of the text. -/
def scanUnits : List Char → Option (List Nat × List Char)
  | [] => none
  | c :: cs =>
    if c = quote then some ([], cs)
    else if c.toNat < 32 then none
    else if c = backslash then
      match cs with
      | [] => none
      | e :: cs =>
        if e = 'u' then
          match cs with
          | h₁ :: h₂ :: h₃ :: h₄ :: cs =>
            match hexUnit h₁ h₂ h₃ h₄ with
            | some n => (scanUnits cs).map fun r => (n :: r.1, r.2)
            | none => none
          | _ => none
        else
          match unescape e with
          | some n => (scanUnits cs).map fun r => (n :: r.1, r.2)
          | none => none
    else (scanUnits cs).map fun r => (c.toNat :: r.1, r.2)

def isHigh (n : Nat) : Bool := 55296 ≤ n && n < 56320

def isLow (n : Nat) : Bool := 56320 ≤ n && n < 57344

/-- Join the surrogate pairs. A surrogate outside a pair stays. -/
def joinUnits : List Nat → List CodePoint
  | [] => []
  | [n] => [Fin.ofNat _ n]
  | n :: m :: rest =>
    if isHigh n && isLow m then
      Fin.ofNat _ (65536 + (n - 55296) * 1024 + (m - 56320)) :: joinUnits rest
    else Fin.ofNat _ n :: joinUnits (m :: rest)

/-- `scanstring`, after the opening quote. -/
def scanString (text : List Char) : Option (PyStr × List Char) :=
  (scanUnits text).map fun r => (PyStr.ofCodes (joinUnits r.1), r.2)

/-- The fraction at the start of the text, if there is one. -/
def scanFraction : List Char → List Char × List Char
  | '.' :: rest =>
    if (rest.takeWhile Char.isDigit).isEmpty then ([], '.' :: rest)
    else ('.' :: rest.takeWhile Char.isDigit, rest.dropWhile Char.isDigit)
  | text => ([], text)

def splitSign : List Char → List Char × List Char
  | '-' :: rest => (['-'], rest)
  | '+' :: rest => (['+'], rest)
  | text => ([], text)

/-- The exponent at the start of the text, if there is one. -/
def scanExponent : List Char → List Char × List Char
  | [] => ([], [])
  | e :: rest =>
    let (sign, digits) := splitSign rest
    if (e = 'e' ∨ e = 'E') ∧ ¬(digits.takeWhile Char.isDigit).isEmpty then
      (e :: sign ++ digits.takeWhile Char.isDigit, digits.dropWhile Char.isDigit)
    else ([], e :: rest)

section Scan

-- `repr(float(text))`
variable (floatRepr : String → String)

/-- The number whose sign and integer part were read. -/
def finishNumber (negative : Bool) (digits rest : List Char) : Json × List Char :=
  let fraction := scanFraction rest
  let exponent := scanExponent fraction.2
  if fraction.1.isEmpty && exponent.1.isEmpty then
    let n : Int := Nat.ofDigitChars 10 digits 0
    (int (if negative then -n else n), rest)
  else
    let sign := if negative then ['-'] else []
    (float (floatRepr (String.ofList (sign ++ digits ++ fraction.1 ++ exponent.1))), exponent.2)

/-- `_match_number` without its sign. -/
def scanDigits (negative : Bool) : List Char → Option (Json × List Char)
  | [] => none
  | c :: rest =>
    if c = '0' then some (finishNumber floatRepr negative [c] rest)
    else if c.isDigit then
      some (finishNumber floatRepr negative (c :: rest.takeWhile Char.isDigit)
        (rest.dropWhile Char.isDigit))
    else none

def scanNumber : List Char → Option (Json × List Char)
  | '-' :: rest => scanDigits floatRepr true rest
  | text => scanDigits floatRepr false text

/-- The words of `scan_once`; the last three are read as floats. -/
def constants : List (List Char × Json) :=
  [("null".toList, null), ("true".toList, bool true), ("false".toList, bool false),
    ("NaN".toList, float "nan"), ("Infinity".toList, float "inf"),
    ("-Infinity".toList, float "-inf")]

def scanConstant (text : List Char) : Option (Json × List Char) :=
  constants.findSome? fun entry =>
    if entry.1.isPrefixOf text then some (entry.2, text.drop entry.1.length) else none

/-- `d[key] = value`: a new key goes last, an old one keeps its place. -/
def setField (fields : List (PyStr × Json)) (key : PyStr) (value : Json) :
    List (PyStr × Json) :=
  if fields.any fun f => f.1 == key then fields.map fun f => if f.1 = key then (key, value) else f
  else fields ++ [(key, value)]

mutual

/-- `scan_once`, at most `fuel` calls deep. -/
def scanValue : Nat → List Char → Option (Json × List Char)
  | 0, _ => none
  | _ + 1, [] => none
  | fuel + 1, c :: cs =>
    if c = quote then (scanString cs).map fun r => (str r.1, r.2)
    else if c = openBrace then
      match skipBlank cs with
      | [] => none
      | d :: ds => if d = closeBrace then some (obj [], ds) else scanFields fuel [] (d :: ds)
    else if c = '[' then
      match skipBlank cs with
      | [] => none
      | d :: ds => if d = ']' then some (arr [], ds) else scanItems fuel [] (d :: ds)
    else
      match scanConstant (c :: cs) with
      | some r => some r
      | none => scanNumber floatRepr (c :: cs)

/-- `JSONArray`, before a value. -/
def scanItems : Nat → List Json → List Char → Option (Json × List Char)
  | 0, _, _ => none
  | fuel + 1, items, text =>
    match scanValue fuel text with
    | none => none
    | some (v, rest) =>
      match skipBlank rest with
      | [] => none
      | d :: ds =>
        if d = ']' then some (arr (items ++ [v]), ds)
        else if d = ',' then scanItems fuel (items ++ [v]) (skipBlank ds)
        else none

/-- `JSONObject`, before a key. -/
def scanFields : Nat → List (PyStr × Json) → List Char → Option (Json × List Char)
  | 0, _, _ => none
  | _ + 1, _, [] => none
  | fuel + 1, fields, c :: cs =>
    if c = quote then
      match scanString cs with
      | none => none
      | some (key, rest) =>
        match skipBlank rest with
        | [] => none
        | d :: ds =>
          if d = ':' then
            match scanValue fuel (skipBlank ds) with
            | none => none
            | some (v, rest) =>
              match skipBlank rest with
              | [] => none
              | d :: ds =>
                if d = closeBrace then some (obj (setField fields key v), ds)
                else if d = ',' then scanFields fuel (setField fields key v) (skipBlank ds)
                else none
          else none
    else none

end

/-- `json.loads(text)`, with `none` for `JSONDecodeError`. -/
def loads (text : String) : Option Json :=
  match scanValue floatRepr (text.toList.length + 1) (skipBlank text.toList) with
  | none => none
  | some (v, rest) => if (skipBlank rest).isEmpty then some v else none

end Scan

end NostrAuth.Json
