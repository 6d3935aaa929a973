import Mathlib.Data.List.Basic

/-! How a browser reads markup: the states of the tokenizer for text, tags and quoted attributes,
and how the text of a node is written as markup. -/

set_option autoImplicit false

namespace Html

/-! ## The tokenizer -/

inductive Token
  | character (c : Char)
  | startTag (name : List Char) (attributes : List (List Char × List Char))
  | endTag (name : List Char)
  deriving DecidableEq, Repr

/-- A tag that is being read. -/
structure Tag where
  closes : Bool
  name : List Char
  attributes : List (List Char × List Char)
  deriving DecidableEq, Repr

def Tag.token (tag : Tag) : Token :=
  if tag.closes then .endTag tag.name else .startTag tag.name tag.attributes

inductive State
  | data
  | tagOpen
  | endTagOpen
  | tagName (tag : Tag)
  | beforeAttributeName (tag : Tag)
  | attributeName (tag : Tag) (name : List Char)
  | beforeAttributeValue (tag : Tag) (name : List Char)
  | attributeValue (tag : Tag) (name value : List Char)
  | afterAttributeValue (tag : Tag)
  deriving DecidableEq, Repr

/-- What a character reference stands for that begins with this input, and what is left of it.
The flag tells references in attributes. -/
abbrev References := Bool → List Char → Option (List Char × List Char)

def isSpace (c : Char) : Bool := c = '\t' || c = '\n' || c = '\x0c' || c = ' '

/-- A configuration of the tokenizer with the tokens that it emits on its way to the next one;
`none` at the end of the input, and where a state is left out. -/
def step (references : References) : State → List Char → Option (State × List Char × List Token)
  | _, [] => none
  | .data, c :: cs =>
    if c = '<' then some (.tagOpen, cs, [])
    else if c = '&' then
      match references false cs with
      | some (text, rest) => some (.data, rest, text.map .character)
      | none => some (.data, cs, [.character c])
    else some (.data, cs, [.character c])
  | .tagOpen, c :: cs =>
    if c = '/' then some (.endTagOpen, cs, [])
    else if c.isAlpha then some (.tagName ⟨false, [c.toLower], []⟩, cs, [])
    else none
  | .endTagOpen, c :: cs =>
    if c.isAlpha then some (.tagName ⟨true, [c.toLower], []⟩, cs, []) else none
  | .tagName tag, c :: cs =>
    if isSpace c then some (.beforeAttributeName tag, cs, [])
    else if c = '>' then some (.data, cs, [tag.token])
    else if c = '/' ∨ c = '\x00' then none
    else some (.tagName { tag with name := tag.name ++ [c.toLower] }, cs, [])
  | .beforeAttributeName tag, c :: cs =>
    if isSpace c then some (.beforeAttributeName tag, cs, [])
    else if c = '/' ∨ c = '>' ∨ c = '=' ∨ c = '\x00' then none
    else some (.attributeName tag [c.toLower], cs, [])
  | .attributeName tag name, c :: cs =>
    if c = '=' then some (.beforeAttributeValue tag name, cs, [])
    else if isSpace c ∨ c = '/' ∨ c = '>' ∨ c = '\x00' then none
    else some (.attributeName tag (name ++ [c.toLower]), cs, [])
  | .beforeAttributeValue tag name, c :: cs =>
    if isSpace c then some (.beforeAttributeValue tag name, cs, [])
    else if c = '"' then some (.attributeValue tag name [], cs, [])
    else none
  | .attributeValue tag name value, c :: cs =>
    if c = '"' then
      some (.afterAttributeValue { tag with attributes := tag.attributes ++ [(name, value)] }, cs, [])
    else if c = '&' then
      match references true cs with
      | some (text, rest) => some (.attributeValue tag name (value ++ text), rest, [])
      | none => some (.attributeValue tag name (value ++ [c]), cs, [])
    else if c = '\x00' then none
    else some (.attributeValue tag name (value ++ [c]), cs, [])
  | .afterAttributeValue tag, c :: cs =>
    if isSpace c then some (.beforeAttributeName tag, cs, [])
    else if c = '>' then some (.data, cs, [tag.token])
    else none

/-- The tokenizer goes from one configuration to the other, and emits these tokens. -/
inductive Reads (references : References) :
    State → List Char → State → List Char → List Token → Prop
  | refl (s : State) (cs : List Char) : Reads references s cs s cs []
  | step {s s' s'' : State} {cs cs' cs'' : List Char} {out out' : List Token} :
      step references s cs = some (s', cs', out) → Reads references s' cs' s'' cs'' out' →
      Reads references s cs s'' cs'' (out ++ out')

/-- The line ends of the input are made uniform before it is read. -/
def newlines : List Char → List Char
  | [] => []
  | c :: cs =>
    if c = '\r' then
      if cs.head? = some '\n' then newlines cs else '\n' :: newlines cs
    else c :: newlines cs

/-- The markup is read to its end, as these tokens. -/
def Tokens (references : References) (markup : List Char) (out : List Token) : Prop :=
  Reads references .data (newlines markup) .data [] out

section Reading

variable {references : References} {s s' s'' : State} {cs cs' cs'' : List Char}
variable {out out' : List Token}

theorem Reads.trans (h : Reads references s cs s' cs' out)
    (h' : Reads references s' cs' s'' cs'' out') : Reads references s cs s'' cs'' (out ++ out') := by
  induction h with
  | refl s cs => exact h'
  | step hs _ ih =>
    rw [List.append_assoc]
    exact .step hs (ih h')

/-- Markup is read in one way only. -/
theorem Reads.unique (h : Reads references s cs .data [] out)
    (h' : Reads references s cs .data [] out') : out = out' := by
  generalize hs : State.data = e, hcs : ([] : List Char) = r at h
  induction h generalizing out' with
  | refl s cs =>
    subst hs hcs
    cases h' with
    | refl => rfl
    | step hstep _ => cases hstep
  | step hstep hrest ih =>
    subst hs hcs
    cases h' with
    | refl => cases hstep
    | step hstep' hrest' =>
      rw [hstep] at hstep'
      cases hstep'
      rw [ih hrest' rfl rfl]

/-- As many steps as told. -/
def steps (references : References) : Nat → State → List Char → Option (State × List Char × List Token)
  | 0, s, cs => some (s, cs, [])
  | n + 1, s, cs =>
    match step references s cs with
    | none => none
    | some (s', cs', out) => (steps references n s' cs').map fun r => (r.1, r.2.1, out ++ r.2.2)

theorem reads_of_steps (n : Nat) (h : steps references n s cs = some (s', cs', out)) :
    Reads references s cs s' cs' out := by
  induction n generalizing s cs out with
  | zero =>
    cases h
    exact .refl ..
  | succ n ih =>
    simp only [steps] at h
    split at h
    · cases h
    · next s₁ cs₁ out₁ hs =>
      obtain ⟨⟨s₂, cs₂, out₂⟩, hrest, heq⟩ := Option.map_eq_some_iff.mp h
      cases heq
      exact .step hs (ih hrest)

end Reading

/-! ## Text as markup -/

/-- A character of a text node in `innerHTML`. -/
def escapeChar (c : Char) : List Char :=
  if c = '&' then "&amp;".toList
  else if c = '\u00a0' then "&nbsp;".toList
  else if c = '<' then "&lt;".toList
  else if c = '>' then "&gt;".toList
  else [c]

def escape (text : List Char) : List Char := text.flatMap escapeChar

/-- The references that `escape` writes stand for the characters that it writes them for. -/
structure Decodes (references : References) : Prop where
  amp : ∀ inAttribute rest, references inAttribute ("amp;".toList ++ rest) = some (['&'], rest)
  nbsp : ∀ inAttribute rest, references inAttribute ("nbsp;".toList ++ rest) = some (['\u00a0'], rest)
  lt : ∀ inAttribute rest, references inAttribute ("lt;".toList ++ rest) = some (['<'], rest)
  gt : ∀ inAttribute rest, references inAttribute ("gt;".toList ++ rest) = some (['>'], rest)

/-- These references, and no others. -/
def fewReferences : References
  | _, 'a' :: 'm' :: 'p' :: ';' :: rest => some (['&'], rest)
  | _, 'n' :: 'b' :: 's' :: 'p' :: ';' :: rest => some (['\u00a0'], rest)
  | _, 'l' :: 't' :: ';' :: rest => some (['<'], rest)
  | _, 'g' :: 't' :: ';' :: rest => some (['>'], rest)
  | _, _ => none

theorem fewReferences_decodes : Decodes fewReferences :=
  ⟨fun _ _ => rfl, fun _ _ => rfl, fun _ _ => rfl, fun _ _ => rfl⟩

section Escaping

variable {references : References}

/-- How a character is written: as itself, or as a reference to it. -/
theorem escapeChar_cases (hrefs : Decodes references) (c : Char) :
    (escapeChar c = [c] ∧ c ≠ '&' ∧ c ≠ '<') ∨
      ∃ name, escapeChar c = '&' :: name ∧
        ∀ inAttribute rest, references inAttribute (name ++ rest) = some ([c], rest) := by
  unfold escapeChar
  split
  · next h => exact Or.inr ⟨"amp;".toList, rfl, fun b rest => h ▸ hrefs.amp b rest⟩
  split
  · next h => exact Or.inr ⟨"nbsp;".toList, rfl, fun b rest => h ▸ hrefs.nbsp b rest⟩
  split
  · next h => exact Or.inr ⟨"lt;".toList, rfl, fun b rest => h ▸ hrefs.lt b rest⟩
  split
  · next h => exact Or.inr ⟨"gt;".toList, rfl, fun b rest => h ▸ hrefs.gt b rest⟩
  · next hamp _ hlt _ => exact Or.inl ⟨rfl, hamp, hlt⟩

/-- **Text stays text**: what was escaped is read as the characters that it was written for. -/
theorem reads_escape (hrefs : Decodes references) (text rest : List Char) :
    Reads references .data (escape text ++ rest) .data rest (text.map .character) := by
  induction text with
  | nil => exact .refl ..
  | cons c text ih =>
    have hfirst : Reads references .data (escapeChar c ++ (escape text ++ rest)) .data
        (escape text ++ rest) [.character c] := by
      rcases escapeChar_cases hrefs c with ⟨hc, hamp, hlt⟩ | ⟨name, hc, hname⟩
      · rw [hc]
        refine reads_of_steps 1 ?_
        simp [steps, step, hamp, hlt]
      · rw [hc]
        refine reads_of_steps 1 ?_
        simp [steps, step, hname]
    rw [escape, List.flatMap_cons, List.append_assoc]
    exact hfirst.trans ih

/-- In an attribute too, where the text holds no quote. -/
theorem reads_escape_value (hrefs : Decodes references) (tag : Tag)
    (name text rest value : List Char) (hquote : '"' ∉ text) (hnull : '\x00' ∉ text) :
    Reads references (.attributeValue tag name value) (escape text ++ rest)
      (.attributeValue tag name (value ++ text)) rest [] := by
  induction text generalizing value with
  | nil =>
    rw [List.append_nil]
    exact .refl ..
  | cons c text ih =>
    have hc' : c ≠ '"' ∧ '"' ∉ text := by simpa [eq_comm] using hquote
    have hc0 : c ≠ '\x00' ∧ '\x00' ∉ text := by simpa [eq_comm] using hnull
    have hfirst : Reads references (.attributeValue tag name value)
        (escapeChar c ++ (escape text ++ rest)) (.attributeValue tag name (value ++ [c]))
        (escape text ++ rest) [] := by
      rcases escapeChar_cases hrefs c with ⟨hc, hamp, _⟩ | ⟨ref, hc, href⟩
      · rw [hc]
        refine reads_of_steps 1 ?_
        simp [steps, step, hamp, hc'.1, hc0.1]
      · rw [hc]
        refine reads_of_steps 1 ?_
        simp [steps, step, href]
    have hrest := ih (value ++ [c]) hc'.2 hc0.2
    rw [List.append_assoc, List.singleton_append] at hrest
    rw [escape, List.flatMap_cons, List.append_assoc]
    exact hfirst.trans hrest

end Escaping

/-! ## Line ends -/

theorem newlines_append_of_not_mem {cs : List Char} (h : '\r' ∉ cs) (rest : List Char) :
    newlines (cs ++ rest) = cs ++ newlines rest := by
  induction cs with
  | nil => rfl
  | cons c cs ih =>
    have hc : c ≠ '\r' ∧ '\r' ∉ cs := by simpa [eq_comm] using h
    rw [List.cons_append, newlines, if_neg hc.1, ih hc.2, List.cons_append]

/-- No line end reaches into what begins with another character. -/
theorem newlines_append {rest : List Char} (hrest : rest.head? ≠ some '\n') (cs : List Char) :
    newlines (cs ++ rest) = newlines cs ++ newlines rest := by
  induction cs with
  | nil => rfl
  | cons c cs ih =>
    have hhead : (cs ++ rest).head? = some '\n' ↔ cs.head? = some '\n' := by
      cases cs with
      | nil => exact iff_of_false hrest (by simp)
      | cons d cs => exact Iff.rfl
    simp only [List.cons_append, newlines, hhead]
    split
    · split
      · exact ih
      · rw [ih, List.cons_append]
    · rw [ih, List.cons_append]

theorem escapeChar_newline {c : Char} (h : c = '\r' ∨ c = '\n') : escapeChar c = [c] := by
  rcases h with rfl | rfl <;> rfl

theorem not_mem_escapeChar {c : Char} (h : c ≠ '\r') : '\r' ∉ escapeChar c := by
  unfold escapeChar
  split
  · decide
  split
  · decide
  split
  · decide
  split
  · decide
  · simpa [eq_comm] using h

/-- Escaping touches no line end. -/
theorem newlines_escape (text : List Char) : newlines (escape text) = escape (newlines text) := by
  induction text with
  | nil => rfl
  | cons c text ih =>
    have hescape : ∀ (d : Char) (ds : List Char), escape (d :: ds) = escapeChar d ++ escape ds :=
      fun _ _ => List.flatMap_cons
    by_cases hc : c = '\r'
    · have hhead : (escape text).head? = some '\n' ↔ text.head? = some '\n' := by
        cases text with
        | nil => rfl
        | cons d text =>
          rw [hescape]
          by_cases hd : d = '\n'
          · rw [hd]
            exact Iff.rfl
          · have hdn : (escapeChar d).head? ≠ some '\n' ∧ escapeChar d ≠ [] := by
              unfold escapeChar
              split_ifs <;> simp [hd]
            simp [List.head?_append, hd, hdn]
      rw [hescape, hc, escapeChar_newline (Or.inl rfl), List.singleton_append, newlines, newlines]
      simp only [if_true, hhead]
      split
      · exact ih
      · rw [ih, hescape, escapeChar_newline (Or.inr rfl), List.singleton_append]
    · rw [hescape, newlines_append_of_not_mem (not_mem_escapeChar hc), ih, newlines, if_neg hc, hescape]

/-! ## Templates -/

/-- Markup that a program writes, or a text that it escapes. -/
inductive Piece
  | markup (cs : List Char)
  | text (cs : List Char)

def render : List Piece → List Char
  | [] => []
  | .markup cs :: pieces => cs ++ render pieces
  | .text cs :: pieces => escape cs ++ render pieces

/-- Markup without references, character by character. -/
def scan : State → List Char → Option (State × List Token)
  | s, [] => some (s, [])
  | s, c :: cs =>
    match step (fun _ _ => none) s [c] with
    | none => none
    | some (s', _, out) => (scan s' cs).map fun r => (r.1, out ++ r.2)

/-- How a template is read when its texts stay texts: in the content of an element, or between the
quotes of an attribute. -/
def read : State → List Piece → Option (State × List Token)
  | s, [] => some (s, [])
  | s, .markup cs :: pieces =>
    match scan s cs with
    | none => none
    | some (s', out) => (read s' pieces).map fun r => (r.1, out ++ r.2)
  | .data, .text cs :: pieces =>
    (read .data pieces).map fun r => (r.1, (newlines cs).map .character ++ r.2)
  | .attributeValue tag name value, .text cs :: pieces =>
    if '"' ∈ cs ∨ '\x00' ∈ cs then none
    else read (.attributeValue tag name (value ++ newlines cs)) pieces
  | _, .text _ :: _ => none

/-- The markup holds no reference and no carriage return, and no line end follows a text. -/
def Plain : List Piece → Prop
  | [] => True
  | .markup cs :: pieces => '&' ∉ cs ∧ '\r' ∉ cs ∧ Plain pieces
  | .text _ :: pieces => (render pieces).head? ≠ some '\n' ∧ Plain pieces

section Templates

variable {references : References} {s s' : State} {out : List Token}

theorem step_cons {c : Char} (hc : c ≠ '&') {cs' : List Char}
    (h : step (fun _ _ => none) s [c] = some (s', cs', out)) (cs : List Char) :
    step references s (c :: cs) = some (s', cs, out) := by
  cases s <;> simp only [step, if_neg hc] at h ⊢ <;> split_ifs at h ⊢ <;> cases h <;> rfl

theorem reads_of_scan {cs : List Char} (hamp : '&' ∉ cs) (h : scan s cs = some (s', out))
    (rest : List Char) : Reads references s (cs ++ rest) s' rest out := by
  induction cs generalizing s out with
  | nil =>
    cases h
    exact .refl ..
  | cons c cs ih =>
    have hc : c ≠ '&' ∧ '&' ∉ cs := by simpa [eq_comm] using hamp
    unfold scan at h
    split at h
    · cases h
    · next s₁ cs₁ out₁ hstep =>
      obtain ⟨⟨s₂, out₂⟩, hscan, heq⟩ := Option.map_eq_some_iff.mp h
      cases heq
      exact .step (step_cons hc.1 hstep _) (ih hc.2 hscan)

theorem mem_of_mem_newlines {c : Char} (hc : c ≠ '\n') {cs : List Char} (h : c ∈ newlines cs) :
    c ∈ cs := by
  induction cs with
  | nil => exact h
  | cons d cs ih =>
    unfold newlines at h
    split_ifs at h with hd hnext
    · exact List.mem_cons_of_mem d (ih h)
    · rcases List.mem_cons.mp h with rfl | h
      · exact absurd rfl hc
      · exact List.mem_cons_of_mem d (ih h)
    · rcases List.mem_cons.mp h with rfl | h
      · exact List.mem_cons_self ..
      · exact List.mem_cons_of_mem d (ih h)

/-- **A template is read as it was meant**, whatever its texts are. -/
theorem reads_render (hrefs : Decodes references) {pieces : List Piece} (hplain : Plain pieces)
    (h : read s pieces = some (s', out)) :
    Reads references s (newlines (render pieces)) s' [] out := by
  fun_induction read s pieces generalizing out with
  | case1 s =>
    cases h
    exact .refl ..
  | case2 s cs pieces hscan => cases h
  | case3 s cs pieces s₁ out₁ hscan ih =>
    obtain ⟨⟨s₂, out₂⟩, hread, heq⟩ := Option.map_eq_some_iff.mp h
    cases heq
    obtain ⟨hamp, hreturn, hpieces⟩ := hplain
    rw [render, newlines_append_of_not_mem hreturn]
    exact (reads_of_scan hamp hscan _).trans (ih hpieces hread)
  | case4 cs pieces ih =>
    obtain ⟨⟨s₂, out₂⟩, hread, heq⟩ := Option.map_eq_some_iff.mp h
    cases heq
    rw [render, newlines_append hplain.1, newlines_escape]
    exact (reads_escape hrefs _ _).trans (ih hplain.2 hread)
  | case5 tag name value cs pieces hbad => cases h
  | case6 tag name value cs pieces hbad ih =>
    obtain ⟨hquote, hnull⟩ := not_or.mp hbad
    rw [render, newlines_append hplain.1, newlines_escape]
    have hvalue := reads_escape_value hrefs tag name (newlines cs) (newlines (render pieces)) value
      (mt (mem_of_mem_newlines (by decide)) hquote) (mt (mem_of_mem_newlines (by decide)) hnull)
    exact hvalue.trans (ih hplain.2 h)
  | case7 => cases h

end Templates

end Html
