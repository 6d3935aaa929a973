import Mathlib.Data.List.Basic

/-! ECMAScript strings as sequences of UTF-16 code units: the methods that slice and pad them, and
numbers written and read in radix 16. -/

set_option autoImplicit false

namespace EcmaScript

/-- A string: its UTF-16 code units. -/
abbrev JsString := List UInt16

/-- The literal of an ASCII text. -/
def ascii (text : String) : JsString := text.toList.map fun c => UInt16.ofNat c.toNat

/-- `s.substr(start, length)` -/
def substr (s : JsString) (start length : Nat) : JsString := (s.drop start).take length

/-- `s.padStart(maxLength, fill)` -/
def padStart (s : JsString) (maxLength : Nat) (fill : JsString) : JsString :=
  (List.replicate (maxLength - s.length) fill).flatten.take (maxLength - s.length) ++ s

/-! ## Radix 16 -/

/-- `n.toString(16)` -/
def toString16 (n : Nat) : JsString := (Nat.toDigits 16 n).map fun c => UInt16.ofNat c.toNat

/-- The white space and line terminators that `parseInt` skips. -/
def isWhiteSpace (u : UInt16) : Bool :=
  [9, 10, 11, 12, 13, 32, 160, 5760, 8192, 8193, 8194, 8195, 8196, 8197, 8198, 8199, 8200, 8201,
    8202, 8232, 8233, 8239, 8287, 12288, 65279].contains u

/-- The value of a digit, a lower or an upper case letter. -/
def hexValue (u : UInt16) : Option Nat :=
  let n := u.toNat
  if 48 ≤ n ∧ n ≤ 57 then some (n - 48)
  else if 97 ≤ n ∧ n ≤ 102 then some (n - 87)
  else if 65 ≤ n ∧ n ≤ 70 then some (n - 55)
  else none

/-- The digits that a text begins with. -/
def hexDigits : JsString → List Nat
  | [] => []
  | u :: rest =>
    match hexValue u with
    | some d => d :: hexDigits rest
    | none => []

/-- Whether a minus sign comes first, and what comes after a sign. -/
def splitSign : JsString → Bool × JsString
  | [] => (false, [])
  | u :: rest =>
    if u = 45 then (true, rest) else if u = 43 then (false, rest) else (false, u :: rest)

/-- Drop `0x` or `0X`. -/
def stripPrefix : JsString → JsString
  | u :: v :: rest => if u = 48 ∧ (v = 120 ∨ v = 88) then rest else u :: v :: rest
  | s => s

/-- `parseInt(s, 16)`, with `none` for `NaN`. It is exact as long as the number is. -/
def parseInt16 (s : JsString) : Option Int :=
  let (negative, digits) := splitSign (s.dropWhile isWhiteSpace)
  match hexDigits (stripPrefix digits) with
  | [] => none
  | d :: ds =>
    let n : Nat := (d :: ds).foldl (fun n d => 16 * n + d) 0
    some (if negative then -n else n)

/-- What an element of a `Uint8Array` keeps of a number. -/
def toUint8 : Option Int → UInt8
  | none => 0
  | some n => UInt8.ofInt n

/-- `0` to `9` and `a` to `f`. -/
def lowerDigit (n : Nat) : UInt16 := if n < 10 then UInt16.ofNat (48 + n) else UInt16.ofNat (87 + n)

def IsLowerHex (u : UInt16) : Prop := (48 ≤ u ∧ u ≤ 57) ∨ (97 ≤ u ∧ u ≤ 102)

instance (u : UInt16) : Decidable (IsLowerHex u) := inferInstanceAs (Decidable (_ ∨ _))

theorem hexValue_lowerDigit {n : Nat} (h : n < 16) : hexValue (lowerDigit n) = some n := by
  have hall : ∀ k : Fin 16, hexValue (lowerDigit k) = some k.val := by decide
  exact hall ⟨n, h⟩

/-- Every lower case digit is the digit of a number below 16. -/
theorem exists_lowerDigit {u : UInt16} (h : IsLowerHex u) : ∃ n, n < 16 ∧ u = lowerDigit n := by
  rcases h with ⟨hlow, hhigh⟩ | ⟨hlow, hhigh⟩
  · have hlow : 48 ≤ u.toNat := hlow
    have hhigh : u.toNat ≤ 57 := hhigh
    refine ⟨u.toNat - 48, by omega, ?_⟩
    have hvalue : 48 + (u.toNat - 48) = u.toNat := by omega
    rw [lowerDigit, if_pos (by omega), hvalue, UInt16.ofNat_toNat]
  · have hlow : 97 ≤ u.toNat := hlow
    have hhigh : u.toNat ≤ 102 := hhigh
    refine ⟨u.toNat - 87, by omega, ?_⟩
    have hvalue : 87 + (u.toNat - 87) = u.toNat := by omega
    rw [lowerDigit, if_neg (by omega), hvalue, UInt16.ofNat_toNat]

/-- A byte is written with two digits, the first of them padded. -/
theorem padStart_toString16 {n : Nat} (h : n < 256) :
    padStart (toString16 n) 2 (ascii "0") = [lowerDigit (n / 16), lowerDigit (n % 16)] := by
  have hall : ∀ k : Fin 256, padStart (toString16 k) 2 (ascii "0") =
      [lowerDigit (k / 16), lowerDigit (k % 16)] := by decide +kernel
  exact hall ⟨n, h⟩

/-- Two digits are read as the number that they write. -/
theorem parseInt16_digits {a b : Nat} (ha : a < 16) (hb : b < 16) :
    parseInt16 [lowerDigit a, lowerDigit b] = some ((16 * a + b : Nat) : Int) := by
  have hall : ∀ j k : Fin 16, parseInt16 [lowerDigit j, lowerDigit k] =
      some ((16 * j.val + k.val : Nat) : Int) := by decide +kernel
  exact hall ⟨a, ha⟩ ⟨b, hb⟩

theorem toUint8_nat (n : Nat) : toUint8 (some (n : Int)) = UInt8.ofNat n := by
  apply UInt8.toNat_inj.mp
  simp only [toUint8, UInt8.ofInt, UInt8.toNat_ofNat']
  omega

theorem substr_succ (x y : UInt16) (rest : JsString) (i length : Nat) :
    substr (x :: y :: rest) ((i + 1) * 2) length = substr rest (i * 2) length := by
  have hstart : (i + 1) * 2 = i * 2 + 1 + 1 := by omega
  rw [substr, substr, hstart, List.drop_succ_cons, List.drop_succ_cons]

end EcmaScript
