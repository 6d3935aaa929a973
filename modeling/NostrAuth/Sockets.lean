import NostrAuth.JsonRoundTrip
import NostrAuth.Service

/-! Lines of JSON over Unix sockets: the bytes that are sent, the loops that read them back in
whatever chunks they arrive, and Python's access to the value that was read. -/

set_option autoImplicit false

namespace NostrAuth.Sockets

/-! ## Bytes -/

abbrev Bytes := List UInt8

/-- `text.encode()` -/
def encode (text : String) : Bytes := text.toUTF8.data.toList

/-- `data.decode()` -/
def decode (data : Bytes) : Option String := String.fromUTF8? ⟨data.toArray⟩

def newline : UInt8 := 10

/-- `json.dumps(value, separators=...).encode() + b"\n"` -/
def line (sep : Json.Separators) (value : Json) : Bytes :=
  encode (Json.dumpsWith sep value) ++ [newline]

/-- `data.endswith(b"\n")` -/
def endsLine (data : Bytes) : Bool := data.getLast? == some newline

/-- Read while the data ends in no newline and `more` allows it. The list holds what the calls
of `recv` return; an empty chunk and the end of the list are the closed connection. -/
def readLoop (more : Bytes → Bool) (data : Bytes) : List Bytes → Bytes
  | [] => data
  | chunk :: rest =>
    if endsLine data || !more data || chunk.isEmpty then data
    else readLoop more (data ++ chunk) rest

/-! ## `json.loads` on bytes -/

/-- The `json.loads` of an interpreter, with its detection of the encoding and its limits. -/
structure PythonJson where
  json_loads : Bytes → Except LoadsError Json
  /-- 256 bytes nest less deep than the stack is. -/
  shallow : ∀ data, data.length ≤ 256 → ∀ message, json_loads data ≠ .error (.recursionError message)

def loads (python : PythonJson) (data : Bytes) : Except Exn Json :=
  match python.json_loads data with
  | .error e => .error e.exn
  | .ok value => .ok value

theorem loads_eq_ok {python : PythonJson} {data : Bytes} {value : Json} :
    loads python data = .ok value ↔ python.json_loads data = .ok value := by
  unfold loads
  cases python.json_loads data with
  | error e => exact iff_of_false (by rintro ⟨⟩) (by rintro ⟨⟩)
  | ok value' => rw [Except.ok.injEq, Except.ok.injEq]

/-- Texts that Python computes and that nothing here looks into. -/
structure PythonTexts where
  /-- `repr(float(text))` -/
  floatRepr : String → String
  /-- The message of a `JSONDecodeError` or `UnicodeDecodeError` for these bytes. -/
  reason : Bytes → String

/-- `json.loads` of UTF-8 within the limits. -/
def PythonTexts.json_loads (texts : PythonTexts) (data : Bytes) : Except LoadsError Json :=
  match decode data with
  | none => .error (.unicodeDecodeError (texts.reason data))
  | some text =>
    match Json.loads texts.floatRepr text with
    | none => .error (.jsonDecodeError (texts.reason data))
    | some value => .ok value

theorem PythonTexts.shallow (texts : PythonTexts) (data : Bytes) (message : String) :
    texts.json_loads data ≠ .error (.recursionError message) := by
  intro h
  unfold PythonTexts.json_loads at h
  split at h
  · cases h
  · split at h <;> cases h

def PythonTexts.python (texts : PythonTexts) : PythonJson where
  json_loads := texts.json_loads
  shallow := fun data _ message => texts.shallow data message

instance : Coe PythonTexts PythonJson := ⟨PythonTexts.python⟩

/-! ## Access to what was read -/

/-- `key in value` -/
def contains (key : String) : Json → Except Exn Bool
  | .obj fields => .ok (Json.lookup fields key).isSome
  | .arr items => .ok (items.any fun
    | .str s => s == .text key
    | _ => false)
  | .str s => .ok (occursIn (PyStr.text key).codes s.codes)
  | value => .error (.uncaught "TypeError" ("argument of type '" ++ typeName value ++
      "' is not iterable"))

/-- `value[key]` -/
def getItem (key : String) : Json → Except Exn Json
  | .obj fields =>
    match Json.lookup fields key with
    | some value => .ok value
    | none => .error (.uncaught "KeyError" (pyRepr key))
  | .arr _ => .error (.uncaught "TypeError" "list indices must be integers or slices, not str")
  | .str _ => .error (.uncaught "TypeError" "string indices must be integers, not 'str'")
  | value => .error (.uncaught "TypeError" ("'" ++ typeName value ++ "' object is not subscriptable"))

/-- `value.get(key)` -/
def get (key : String) : Json → Except Exn Json
  | .obj fields => .ok ((Json.lookup fields key).getD .null)
  | value => .error (noAttribute (typeName value) "get")

/-- Catch the exceptions of these classes. -/
def catching {α : Type} (classes : List String) (handler : String → Exn) :
    Except Exn α → Except Exn α
  | .error (.uncaught className message) =>
    if className ∈ classes then .error (handler message) else .error (.uncaught className message)
  | x => x

mutual

/-- `repr(value)` -/
def reprOf : Json → String
  | .null => "None"
  | .bool b => if b then "True" else "False"
  | .int n => toString n
  | .float r => r
  | .str s => pyRepr s
  | .arr items => "[" ++ reprItems items ++ "]"
  | .obj fields => "\x7b" ++ reprFields fields ++ "\x7d"

def reprItems : List Json → String
  | [] => ""
  | [v] => reprOf v
  | v :: rest => reprOf v ++ ", " ++ reprItems rest

def reprFields : List (PyStr × Json) → String
  | [] => ""
  | [(k, v)] => pyRepr k ++ ": " ++ reprOf v
  | (k, v) :: rest => pyRepr k ++ ": " ++ reprOf v ++ ", " ++ reprFields rest

end

/-- `str(value)`, as a message with it is shown. -/
def strOf : Json → String
  | .str s => Json.backslashReplaced s
  | value => reprOf value

/-! ## Lines read back -/

theorem decode_encode (text : String) : decode (encode text) = some text := by
  have hbytes : (⟨(encode text).toArray⟩ : ByteArray) = text.toByteArray := by
    simp [encode]
  rw [decode, hbytes, String.fromUTF8?, dif_pos text.isValidUTF8]
  rfl

theorem encode_ofList (chars : List Char) :
    encode (String.ofList chars) = chars.flatMap String.utf8EncodeChar := by
  simp [encode, List.utf8Encode]

/-- A printable character is sent as one byte. -/
theorem encode_printable {c : Char} (h : Json.Printable c) :
    String.utf8EncodeChar c = [UInt8.ofNat c.toNat] := by
  have hsmall : c.val.toNat ≤ 127 := Nat.le_of_lt h.2
  rw [String.utf8EncodeChar]
  exact if_pos hsmall

/-- No newline comes before the end of the line. -/
theorem newline_not_mem {sep : Json.Separators} (hsep : sep.Ok) {value : Json}
    (hvalue : value.Plain) : newline ∉ encode (Json.dumpsWith sep value) := by
  rw [Json.dumpsWith, encode_ofList]
  intro hmem
  obtain ⟨c, hc, hbyte⟩ := List.mem_flatMap.mp hmem
  have hprint := Json.printable_write hsep value hvalue c hc
  rw [encode_printable hprint, List.mem_singleton] at hbyte
  have hten : 10 = c.toNat % 256 := congrArg UInt8.toNat hbyte
  obtain ⟨hlow, hhigh⟩ := hprint
  omega

/-- `json.loads` of a line is the value that was sent. -/
theorem loads_line (texts : PythonTexts) {sep : Json.Separators} (hsep : sep.Ok) {value : Json}
    (hvalue : value.Plain) : loads texts (line sep value) = .ok value := by
  have htext : line sep value = encode (String.ofList (Json.write sep value ++ [Char.ofNat 10])) := by
    rw [line, Json.dumpsWith, encode_ofList, encode_ofList, List.flatMap_append]
    rfl
  have hblank : ∀ c ∈ [Char.ofNat 10], Json.isBlank c = true := by simp [Json.isBlank]
  have hjson : texts.json_loads (line sep value) = .ok value := by
    rw [PythonTexts.json_loads, htext, decode_encode]
    simp only [Json.loads_write texts.floatRepr hsep hvalue hblank]
  simp only [loads, PythonTexts.python, hjson]

theorem line_injective {sep : Json.Separators} (hsep : sep.Ok) {value value' : Json}
    (hvalue : value.Plain) (hvalue' : value'.Plain) (h : line sep value = line sep value') :
    value = value' := by
  have hload := loads_line ⟨id, fun _ => ""⟩ hsep hvalue
  rw [h, loads_line ⟨id, fun _ => ""⟩ hsep hvalue'] at hload
  exact (Except.ok.inj hload).symm

/-- The chunks in which the kernel hands out a message: any, but none empty. -/
structure Segmented (chunks : List Bytes) (message : Bytes) : Prop where
  nonempty : ∀ chunk ∈ chunks, chunk ≠ []
  whole : chunks.flatten = message

/-- **Read loop.** A line whose only newline is its last byte is read whole, however it was cut. -/
theorem readLoop_line {more : Bytes → Bool} {body : Bytes} (hbody : newline ∉ body)
    (hmore : ∀ data, data <+: body → more data = true) {chunks : List Bytes}
    (hchunks : ∀ chunk ∈ chunks, chunk ≠ []) {data : Bytes}
    (hwhole : data ++ chunks.flatten = body ++ [newline]) :
    readLoop more data chunks = body ++ [newline] := by
  induction chunks generalizing data with
  | nil => simpa [readLoop] using hwhole
  | cons chunk rest ih =>
    have hne : chunk ≠ [] := hchunks chunk (List.mem_cons_self ..)
    have hinitial : data <+: body := by
      have hlen := congrArg List.length hwhole
      have hpos := List.length_pos_iff.mpr hne
      simp only [List.flatten_cons, List.length_append, List.length_singleton] at hlen
      exact List.prefix_of_prefix_length_le ⟨_, hwhole⟩ (List.prefix_append _ _) (by omega)
    -- the data read so far has no newline, so neither at its end
    have hopen : endsLine data = false := by
      cases h : endsLine data with
      | false => rfl
      | true =>
        have hlast : data.getLast? = some newline := by simpa [endsLine] using h
        exact absurd (hinitial.subset (List.mem_of_getLast? hlast)) hbody
    have hfull : chunk.isEmpty = false := by simpa using hne
    rw [readLoop, hopen, hmore data hinitial, hfull]
    exact ih (fun c hc => hchunks c (List.mem_cons_of_mem chunk hc)) (by simpa using hwhole)

end NostrAuth.Sockets
