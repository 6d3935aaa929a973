import Mathlib.Logic.Basic

/-! The parts of Python that the service's code rests on: JSON values, the string
methods it calls, and the exceptions that cross its function boundaries. -/

set_option autoImplicit false

namespace NostrAuth

/-! ## Text -/

/-- `str.isspace` of one character. -/
def isSpaceCode (n : Nat) : Bool :=
  [9, 10, 11, 12, 13, 28, 29, 30, 31, 32, 133, 160, 5760, 8192, 8193, 8194, 8195, 8196, 8197,
    8198, 8199, 8200, 8201, 8202, 8232, 8233, 8239, 8287, 12288].contains n

def isSpace (c : Char) : Bool := isSpaceCode c.toNat

/-- `s.strip()`. -/
def strip (s : String) : String :=
  String.ofList ((s.toList.dropWhile isSpace).reverse.dropWhile isSpace).reverse

/-- `len(s)`: the number of code points. -/
def len (s : String) : Nat := s.toList.length

abbrev CodePoint := Fin 1114112

def isSurrogate (n : CodePoint) : Bool := 55296 ≤ n.val && n.val < 57344

/-- A `str` with a lone surrogate, which UTF-8 cannot encode. -/
structure LoneText where
  codes : List CodePoint
  unencodable : codes.any isSurrogate = true
  deriving DecidableEq, Repr

/-- The text of U+D800 alone. -/
def loneSurrogate : LoneText := ⟨[⟨55296, Nat.le_of_ble_eq_true rfl⟩], rfl⟩

/-- A `str`: what UTF-8 encodes, or what it does not. -/
inductive PyStr
  | text (s : String)
  | lone (t : LoneText)
  deriving DecidableEq, Repr

instance : Coe String PyStr := ⟨.text⟩

/-- Dropping characters at the start drops no character of another kind. -/
theorem any_dropWhile {α : Type} {p q : α → Bool} (h : ∀ a, q a = true → p a = false)
    (l : List α) : (l.dropWhile p).any q = l.any q := by
  induction l with
  | nil => rfl
  | cons a l ih =>
    cases hp : p a with
    | true =>
      have hq : q a = false := by
        cases hq : q a with
        | false => rfl
        | true => rw [h a hq] at hp; cases hp
      rw [List.dropWhile_cons, if_pos hp, List.any_cons, hq, ih, Bool.false_or]
    | false => rw [List.dropWhile_cons, if_neg (by simp [hp])]

/-- No surrogate is a space. -/
theorem isSpaceCode_surrogate {n : CodePoint} (h : isSurrogate n = true) :
    isSpaceCode n.val = false := by
  simp only [isSurrogate, Bool.and_eq_true, decide_eq_true_eq] at h
  simp only [isSpaceCode, List.contains_eq_mem, List.mem_cons, List.not_mem_nil, or_false,
    decide_eq_false_iff_not]
  omega

namespace LoneText

def strip (t : LoneText) : LoneText where
  codes := ((t.codes.dropWhile fun n => isSpaceCode n.val).reverse.dropWhile
    fun n => isSpaceCode n.val).reverse
  unencodable := by
    rw [List.any_reverse, any_dropWhile fun n => isSpaceCode_surrogate, List.any_reverse,
      any_dropWhile fun n => isSpaceCode_surrogate]
    exact t.unencodable

end LoneText

namespace PyStr

/-- The text of these code points. -/
def ofCodes (codes : List CodePoint) : PyStr :=
  if h : codes.any isSurrogate = true then .lone ⟨codes, h⟩
  else .text (String.ofList (codes.map fun n => Char.ofNat n.val))

/-- Whether `s.encode()` succeeds. -/
def encodable : PyStr → Bool
  | text _ => true
  | lone _ => false

@[simp] theorem encodable_text (s : String) : (text s).encodable = true := rfl

theorem encodable_iff {s : PyStr} : s.encodable = true ↔ ∃ t, s = text t := by
  cases s with
  | text t => exact iff_of_true rfl ⟨t, rfl⟩
  | lone t => exact iff_of_false (by rintro ⟨⟩) (by rintro ⟨s, ⟨⟩⟩)

def codes : PyStr → List Nat
  | text s => s.toList.map Char.toNat
  | lone t => t.codes.map Fin.val

def strip : PyStr → PyStr
  | text s => text (NostrAuth.strip s)
  | lone t => lone t.strip

def len : PyStr → Nat
  | text s => NostrAuth.len s
  | lone t => t.codes.length

@[simp] theorem strip_text (s : String) : strip (text s) = text (NostrAuth.strip s) := rfl

@[simp] theorem len_text (s : String) : len (text s) = NostrAuth.len s := rfl

/-- The strings of one character that `for c in s` goes through. -/
def characters : PyStr → List PyStr
  | text s => s.toList.map fun c => text (String.singleton c)
  | lone t => t.codes.map fun n => ofCodes [n]

theorem strip_eq_text {s : PyStr} {t : String} :
    s.strip = text t ↔ ∃ u, s = text u ∧ t = NostrAuth.strip u := by
  cases s with
  | text u => simp [eq_comm]
  | lone u => simp [strip]

end PyStr

/-! ## JSON -/

/-- A value that `json.loads` returns. A float is kept as its `repr`; an object lists
its keys once each, as a `dict` does. -/
inductive Json where
  | null
  | bool (b : Bool)
  | int (n : Int)
  | float (repr : String)
  | str (s : PyStr)
  | arr (items : List Json)
  | obj (fields : List (PyStr × Json))
  deriving Repr

namespace Json

/-- `bool(value)`. -/
def truthy : Json → Bool
  | null => false
  | bool b => b
  | int n => n ≠ 0
  | float r => r ≠ "0.0" ∧ r ≠ "-0.0"
  | str s => s ≠ ""
  | arr items => !items.isEmpty
  | obj fields => !fields.isEmpty

/-- `d.get(key)` on the fields of a `dict`, with `none` for a missing key. -/
def lookup (fields : List (PyStr × Json)) (key : String) : Option Json :=
  (fields.find? fun f => f.1 == .text key).map Prod.snd

def hexDigit (n : Nat) : Char := "0123456789abcdef".toList.getD n '0'

/-- The escape `\uXXXX` of one UTF-16 unit. -/
def escapeUnit (n : Nat) : List Char :=
  Char.ofNat 92 :: 'u' ::
    [hexDigit (n / 4096 % 16), hexDigit (n / 256 % 16), hexDigit (n / 16 % 16), hexDigit (n % 16)]

/-- How `json.dumps` writes one character with `ensure_ascii`. -/
def escapeChar (c : Char) : List Char :=
  let n := c.toNat
  if n = 34 then [Char.ofNat 92, Char.ofNat 34]
  else if n = 92 then [Char.ofNat 92, Char.ofNat 92]
  else if n = 10 then [Char.ofNat 92, 'n']
  else if n = 13 then [Char.ofNat 92, 'r']
  else if n = 9 then [Char.ofNat 92, 't']
  else if n = 12 then [Char.ofNat 92, 'f']
  else if n = 8 then [Char.ofNat 92, 'b']
  else if 32 ≤ n ∧ n ≤ 126 then [c]
  else if n < 65536 then escapeUnit n
  else escapeUnit (55296 + (n - 65536) / 1024) ++ escapeUnit (56320 + (n - 65536) % 1024)

/-- A surrogate is escaped as its own unit. -/
def escapeCode (n : CodePoint) : List Char :=
  if isSurrogate n then escapeUnit n.val else escapeChar (Char.ofNat n.val)

def escape : PyStr → List Char
  | .text s => s.toList.flatMap escapeChar
  | .lone t => t.codes.flatMap escapeCode

/-- The text as a stream that escapes what it cannot encode shows it. -/
def backslashReplaced : PyStr → String
  | .text s => s
  | .lone t => String.ofList (t.codes.flatMap fun n =>
      if isSurrogate n then escapeUnit n.val else [Char.ofNat n.val])

def dumpsString (s : PyStr) : String :=
  String.ofList (Char.ofNat 34 :: escape s ++ [Char.ofNat 34])

mutual

/-- `json.dumps(value)` with the default separators. -/
def dumps : Json → String
  | null => "null"
  | bool b => if b then "true" else "false"
  | int n => toString n
  | float r => r
  | str s => dumpsString s
  | arr items => "[" ++ dumpsItems items ++ "]"
  | obj fields => "\x7b" ++ dumpsFields fields ++ "\x7d"

def dumpsItems : List Json → String
  | [] => ""
  | [v] => dumps v
  | v :: rest => dumps v ++ ", " ++ dumpsItems rest

def dumpsFields : List (PyStr × Json) → String
  | [] => ""
  | [(k, v)] => dumpsString k ++ ": " ++ dumps v
  | (k, v) :: rest => dumpsString k ++ ": " ++ dumps v ++ ", " ++ dumpsFields rest

end

end Json

/-! ## Strings -/

/-- `s.lower()` on ASCII. Any other character is kept. Only the Kelvin sign lowers to a
single ASCII letter, `k`, so comparing with an ASCII literal without `k` is exact. -/
def lower (s : String) : String := String.ofList (s.toList.map Char.toLower)

/-- `s.split(sep)[0]` for a separator of one character. -/
def beforeFirst (sep : Char) (s : String) : String :=
  String.ofList (s.toList.takeWhile fun c => c ≠ sep)

/-- The categories `Cc`, `Cf`, `Cs`, `Co`, `Zl`, `Zp` and `Zs`, as first and last code points. -/
def unprintable : List (Nat × Nat) :=
  [(0, 31), (127, 160), (173, 173), (1536, 1541), (1564, 1564), (1757, 1757), (1807, 1807),
    (2192, 2193), (2274, 2274), (5760, 5760), (6158, 6158), (8192, 8207), (8232, 8239),
    (8287, 8292), (8294, 8303), (12288, 12288), (55296, 63743), (65279, 65279), (65529, 65531),
    (69821, 69821), (69837, 69837), (78896, 78911), (113824, 113827), (119155, 119162),
    (917505, 917505), (917536, 917631), (983040, 1048573), (1048576, 1114109)]

/-- `str.isprintable` of one character. An unassigned code point counts as printable here. -/
def isPrintable (n : Nat) : Bool := !unprintable.any fun range => range.1 ≤ n && n ≤ range.2

/-- The last `width` hexadecimal digits of a number. -/
def hexDigits : Nat → Nat → List Char
  | 0, _ => []
  | width + 1, n => hexDigits width (n / 16) ++ [Json.hexDigit (n % 16)]

def pyReprChar (quote n : Nat) : List Char :=
  if n = quote ∨ n = 92 then [Char.ofNat 92, Char.ofNat n]
  else if n = 10 then [Char.ofNat 92, 'n']
  else if n = 13 then [Char.ofNat 92, 'r']
  else if n = 9 then [Char.ofNat 92, 't']
  else if isPrintable n then [Char.ofNat n]
  else if n < 256 then Char.ofNat 92 :: 'x' :: hexDigits 2 n
  else if n < 65536 then Char.ofNat 92 :: 'u' :: hexDigits 4 n
  else Char.ofNat 92 :: 'U' :: hexDigits 8 n

/-- `repr(s)` -/
def pyRepr (s : PyStr) : String :=
  let quote := if s.codes.contains 39 ∧ ¬s.codes.contains 34 then 34 else 39
  String.ofList (Char.ofNat quote :: s.codes.flatMap (pyReprChar quote) ++ [Char.ofNat quote])

/-- `needle in s`, on the characters or the code points. -/
def occursIn {α : Type} [BEq α] (needle : List α) : List α → Bool
  | [] => needle.isEmpty
  | c :: cs => needle.isPrefixOf (c :: cs) || occursIn needle cs

/-- The zero of every run of ten Unicode decimal digits. -/
def decimalZeros : List Nat :=
  [48, 1632, 1776, 1984, 2406, 2534, 2662, 2790, 2918, 3046, 3174, 3302, 3430, 3558, 3664,
    3792, 3872, 4160, 4240, 6112, 6160, 6470, 6608, 6784, 6800, 6992, 7088, 7232, 7248, 42528,
    43216, 43264, 43472, 43504, 43600, 44016, 65296, 66720, 68912, 69734, 69872, 69942, 70096,
    70384, 70736, 70864, 71248, 71360, 71472, 71904, 72016, 72784, 73040, 73120, 92768, 92864,
    93008, 120782, 120792, 120802, 120812, 120822, 123200, 123632, 125264, 130032]

def digitValue (c : Char) : Option Nat :=
  (decimalZeros.find? fun z => z ≤ c.toNat ∧ c.toNat < z + 10).map fun z => c.toNat - z

/-- Digits with single underscores between them; `after` says that a digit came before. -/
def digitsOf (after : Bool) : List Char → Option (List Nat)
  | [] => if after then some [] else none
  | c :: cs =>
    if c = '_' then if after then digitsOf false cs else none
    else match digitValue c with
      | some d => (digitsOf true cs).map fun ds => d :: ds
      | none => none

/-- `int(s)`, with `none` for `ValueError`; more than 4300 digits are refused. -/
def pyInt (s : String) : Option Int :=
  let (negative, chars) := match (strip s).toList with
    | '-' :: cs => (true, cs)
    | '+' :: cs => (false, cs)
    | cs => (false, cs)
  match digitsOf false chars with
  | none => none
  | some digits =>
    if 4300 < digits.length then none
    else
      let n : Nat := digits.foldl (fun n d => 10 * n + d) 0
      some (if negative then -n else n)

/-! ## Exceptions -/

/-- The exceptions that leave a function of the service. `uncaught` stands for the
built-in ones no caller handles, with the class name. -/
inductive Exn where
  | apiError (status_code : Nat) (message : String)
  | loginError (message : String)
  | linkingError (message : String)
  | invalidEvent (message : String)
  | pubkeyAlreadyLinked (message : String)
  | portalAuthError (message : String)
  | sessionMintError (message : String)
  | valueError (message : String)
  | integrityError (message : String)
  | uncaught (className message : String)
  deriving DecidableEq, Repr

namespace LoneText

/-- Why `s.encode()` fails. Consecutive surrogates are reported together. -/
def encodeMessage (t : LoneText) : String :=
  let start := t.codes.findIdx isSurrogate
  let surrogates := (t.codes.drop start).takeWhile isSurrogate
  "'utf-8' codec can't encode character" ++
    (match surrogates with
    | [n] => " '" ++ String.ofList (pyReprChar 39 n.val) ++ "' in position " ++ toString start
    | _ => "s in position " ++ toString start ++ "-" ++ toString (start + surrogates.length - 1)) ++
    ": surrogates not allowed"

def encodeError (t : LoneText) : Exn := .uncaught "UnicodeEncodeError" t.encodeMessage

end LoneText

/-- The ways in which `json.loads` fails. -/
inductive LoadsError
  | jsonDecodeError (message : String)
  | unicodeDecodeError (message : String)
  /-- An integer with more digits than `int` reads. -/
  | valueError (message : String)
  | recursionError (message : String)
  deriving DecidableEq, Repr

def LoadsError.exn : LoadsError → Exn
  | jsonDecodeError message => .uncaught "JSONDecodeError" message
  | unicodeDecodeError message => .uncaught "UnicodeDecodeError" message
  | valueError message => .uncaught "ValueError" message
  | recursionError message => .uncaught "RecursionError" message

/-- The limits of a SQLite integer. -/
def fitsInt64 (n : Int) : Bool := -9223372036854775808 ≤ n ∧ n ≤ 9223372036854775807

end NostrAuth
