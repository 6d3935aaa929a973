import NostrAuth.Lib.Provenance
import NostrAuth.Browser
import NostrAuth.EndpointSpecs

/-! Pages of one kind beside the service and everybody else: rules for what their scripts do, and
what a page holds because of the answers that it was given. -/

set_option autoImplicit false

namespace NostrAuth.Browser

open Interaction Server Prog
open AccountPage (property FetchResult)

/-! ## Scripts -/

section Scripts

variable {O : Type} {A : O → Type} {α β : Type}

/-- What a script has called, with the answers. -/
abbrev Calls (O : Type) (A : O → Type) := History (O ⊕ Sent) (Sum.elim A fun _ => Option Response)

/-- The script called `o` and was answered `r`. -/
def Made (h : Calls O A) (o : O) (r : A o) : Prop :=
  (⟨.inl o, r⟩ : Event (O ⊕ Sent) (Sum.elim A fun _ => Option Response)) ∈ h

/-- The script was given this response. -/
def Answers (h : Calls O A) (f : Fetch) (response : Response) : Prop := Clients.Replies h (.inl f) response

variable {G : Calls O A → O ⊕ Sent → Prop}

/-- Whatever came before, with `known` in it, the calls of the script are as `G` says. -/
def Keeps (G : Calls O A → O ⊕ Sent → Prop) (p : Script O A α) (known : Calls O A := []) : Prop :=
  ∀ h, known ⊆ h → p.wp (fun _ => True) G (fun _ _ => True) h

variable {known : Calls O A}

theorem Keeps.mono {p : Script O A α} (hp : Keeps G p) : Keeps G p known :=
  fun h _ => hp h (List.nil_subset h)

/-- What a script calls and is answered comes after what was known. -/
theorem wp_known {Q : Calls O A → Except String α → Prop} (p : Script O A α) {h : Calls O A}
    (hknown : known ⊆ h) (hp : p.wp (fun _ => True) G Q h) :
    p.wp (fun _ => True) G (fun h' outcome => known ⊆ h' ∧ Q h' outcome) h := by
  induction p generalizing h with
  | ret a => exact ⟨hknown, hp⟩
  | raise e => exact ⟨hknown, hp⟩
  | call o next ih =>
    exact ⟨hp.1, fun r hr => ih r (List.subset_append_of_subset_left _ hknown) (hp.2 r hr)⟩

theorem Keeps.bind {p : Script O A α} {f : α → Script O A β} (hp : Keeps G p known)
    (hf : ∀ a, Keeps G (f a) known) : Keeps G (p.bind f) known := by
  intro h hknown
  rw [wp_bind]
  refine wp_mono (fun _ _ ho => ho) (fun h' outcome hends => ?_) p (wp_known p hknown (hp h hknown))
  cases outcome with
  | ok a => exact hf a h' hends.1
  | error e => trivial

theorem keeps_ret (a : α) : Keeps G (.ret a) known := fun _ _ => trivial

theorem keeps_raise (e : String) : Keeps G (.raise e : Script O A α) known := fun _ _ => trivial

theorem keeps_ofExcept (x : Except String α) : Keeps G (Prog.ofExcept x : Script O A α) known := by
  cases x with
  | ok a => exact keeps_ret a
  | error e => exact keeps_raise e

theorem keeps_call {o : O} {f : A o → Script O A β} (ho : ∀ h, G h (.inl o))
    (hf : ∀ r, Keeps G (f r) known) : Keeps G (.call (.inl o) f) known :=
  fun h hknown => ⟨ho h, fun r _ => hf r _ (List.subset_append_of_subset_left _ hknown)⟩

/-- The script goes on with what it was answered. -/
theorem keeps_answered {o : O} {f : A o → Script O A β} (ho : ∀ h, G h (.inl o))
    (hf : ∀ r, Keeps G (f r) [⟨.inl o, r⟩]) : Keeps G (.call (.inl o) f) :=
  fun h _ => ⟨ho h, fun r _ => hf r _ (List.subset_append_right ..)⟩

theorem Keeps.attempt {p : Script O A α} {f : Except String α → Script O A β} (hp : Keeps G p known)
    (hf : ∀ x, Keeps G (f x) known) : Keeps G (p.attempt.bind f) known := by
  intro h hknown
  rw [wp_bind, wp_attempt]
  exact wp_mono (fun _ _ ho => ho) (fun h' outcome hends => hf outcome h' hends.1) p
    (wp_known p hknown (hp h hknown))

theorem Keeps.catching {p : Script O A α} {handler : String → Script O A α} (hp : Keeps G p known)
    (hh : ∀ e, Keeps G (handler e) known) : Keeps G (catching p handler) known := by
  refine hp.attempt fun x => ?_
  cases x with
  | ok a => exact keeps_ret a
  | error e => exact hh e

theorem Keeps.finishing {p : Script O A α} {last : Script O A Unit} (hp : Keeps G p known)
    (hl : Keeps G last known) : Keeps G (finishing p last) known :=
  hp.attempt fun x => hl.bind fun _ => keeps_ofExcept x

theorem keeps_fetchJSON {f : Fetch} (hf : ∀ h, known ⊆ h → G h (.inr (.inl f))) :
    Keeps G (fetchJSON f : Script O A FetchResult) known := by
  intro h hknown
  refine ⟨hf h hknown, fun r _ => ?_⟩
  cases r <;> trivial

theorem keeps_read (key : String) (value : Json) :
    Keeps G (read key value : Script O A Json) known := by
  unfold read
  split
  · exact keeps_ret _
  · exact keeps_raise _

end Scripts

/-! ## Pages -/

section Pages

variable {O : Type} {A : O → Type} {S In Act : Type}
variable {initial : S} {begins : Act → S → Option S} {program : Act → Script O A Unit}
variable {exec : (o : O) → In → S → A o × S} {around : In → Surroundings}

/-- The responses that came to a page itself. -/
def ofPage (got : Act ⊕ Job → Sent → Response → Prop) (f : Fetch) (response : Response) : Prop :=
  ∃ act, got (.inl act) (.inl f) response

/-- What the calls of an activity rest on; others send what they like. -/
def rule (G : Act → Calls O A → O ⊕ Sent → Prop) : Act ⊕ Job → Calls O A → O ⊕ Sent → Prop
  | .inl act => G act
  | .inr job => fun _ o => o = .inr (.inr job)

variable {G : Act → Calls O A → O ⊕ Sent → Prop}
variable {B : (Fetch → Response → Prop) → Act → Prop} {P : (Fetch → Response → Prop) → S → Prop}

theorem ofPage_mono {got got' : Act ⊕ Job → Sent → Response → Prop}
    (h : ∀ b r response, got b r response → got' b r response) (f : Fetch) (response : Response) :
    ofPage got f response → ofPage got' f response := by
  rintro ⟨act, hgot⟩
  exact ⟨act, h _ _ _ hgot⟩

/-- What is sent by others does not come into what a page holds. -/
theorem pages_rests (hprogram : ∀ act, Keeps (G act) (program act)) (hinitial : ∀ got, P got initial)
    (hbegins : ∀ got act s s', begins act s = some s' → P got s → B got act ∧ P got s')
    (hacts : ∀ (got : Fetch → Response → Prop) act (h : Calls O A) o inp s, G act h (.inl o) →
      (∀ f response, Answers h f response → got f response) → P got s → P got (exec o inp s).2)
    (hmoreBegun : ∀ got got' act, (∀ f response, got f response → got' f response) → B got act →
      B got' act)
    (hmore : ∀ got got' s, (∀ f response, got f response → got' f response) → P got s → P got' s) :
    Clients.Rests (pages initial begins program exec around) (rule G)
      (fun got => Sum.elim (B (ofPage got)) fun _ => True) (fun got => P (ofPage got)) where
  program act := by
    cases act with
    | inl act => exact hprogram act [] (List.nil_subset _)
    | inr job => exact ⟨rfl, fun _ _ => trivial⟩
  initial got := hinitial _
  begins got act s s' hbegin hs := by
    cases act with
    | inl act => exact hbegins _ act s s' hbegin hs
    | inr job =>
      cases hbegin
      exact ⟨trivial, hs⟩
  acts got act h o inp s hcall hgot hs := by
    cases act with
    | inl act => exact hacts _ act h o inp s hcall (fun f response hr => ⟨act, hgot _ _ hr⟩) hs
    | inr job => cases hcall
  more_begun got got' act hsub hb := by
    cases act with
    | inl act => exact hmoreBegun _ _ act (ofPage_mono hsub) hb
    | inr job => trivial
  more got got' s hsub hs := hmore _ _ s (ofPage_mono hsub) hs

abbrev PageSystem (A : O → Type) (S Act : Type) :=
  Clients Op Op.Ans Exn Response Oracle World Job A Sent String S (Act ⊕ Job)

/-- A script of the page `k` sent the job `i`, in the action `act`. -/
def SentFor (c : PageSystem A S Act) (k : Nat) (act : Act) (i : Nat) : Prop :=
  ∃ a x, c.sender i = some a ∧ c.activity a = some x ∧ x.client = k ∧ x.act = .inl act

theorem SentFor.unique {c : PageSystem A S Act} {k k' i : Nat} {act act' : Act}
    (h : SentFor c k act i) (h' : SentFor c k' act' i) : k = k' ∧ act = act' := by
  obtain ⟨a, x, ha, hx, rfl, hact⟩ := h
  obtain ⟨a', x', ha', hx', rfl, hact'⟩ := h'
  obtain rfl := Option.some.inj (ha.symm.trans ha')
  obtain rfl := Option.some.inj (hx.symm.trans hx')
  exact ⟨rfl, Sum.inl.inj (hact.symm.trans hact')⟩

/-- A script of the page `k` sent `f` as the job `i`, in the action `act`, and took the response. -/
def TookFor (sdk : NostrSdk) (C : Client A Sent Response String S In (Act ⊕ Job) Job) (w : World)
    (c : PageSystem A S Act) (k : Nat) (act : Act) (i : Nat) (f : Fetch) (response : Response) : Prop :=
  ∃ a x, c.sender i = some a ∧ c.activity a = some x ∧ x.client = k ∧ x.act = .inl act ∧
    Clients.Took (service sdk) C w c a i (.inl f) response

theorem TookFor.sentFor {sdk : NostrSdk} {C : Client A Sent Response String S In (Act ⊕ Job) Job}
    {w : World} {c : PageSystem A S Act} {k i : Nat} {act : Act} {f : Fetch} {response : Response}
    (h : TookFor sdk C w c k act i f response) : SentFor c k act i := by
  obtain ⟨a, x, ha, hx, hclient, hact, _⟩ := h
  exact ⟨a, x, ha, hx, hclient, hact⟩

/-- No refusal is a success for a script. -/
theorem refused_not_ok {endpoint : Endpoint} {e : Exn} (he : Refuses endpoint.refusals e) :
    (resultOf (answer (.error e))).ok = false := by
  unfold answer
  split
  · next h => cases h
  · next s m h =>
    cases h
    have hcode := he s m rfl
    have hlarge : 300 ≤ s := by
      cases endpoint <;> simp only [Endpoint.refusals, List.mem_cons, List.not_mem_nil, or_false] at hcode <;>
        omega
    simp only [resultOf, Bool.and_eq_false_iff, decide_eq_false_iff_not]
    omega
  · rfl

/-- What is known of a response from the moment it is given. -/
def Told (sdk : NostrSdk) (i : Nat) (job : Job) (response : Response) (log : Log) : Prop :=
  ∃ n ≤ log.length, Ended sdk job (calls i (log.take n)) (.ok response)

theorem told_lasting (sdk : NostrSdk) (w : World) : Clients.Lasting (service sdk) w (Told sdk) :=
  Clients.lasting_of_wp rely_exec (handle_spec sdk)

theorem answered_of_told {sdk : NostrSdk} {i : Nat} {job : Job} {response : Response} {log : Log}
    {endpoint : Endpoint} (h : Told sdk i job response log)
    (hroute : endpointOf job.request = some endpoint) (hok : (resultOf response).ok = true) :
    ∃ n, Answered sdk job endpoint (calls i (log.take n)) response := by
  obtain ⟨n, _, response', heq, hends⟩ := h
  cases heq
  rw [hroute] at hends
  rcases hends with hanswered | ⟨e, he, rfl⟩
  · exact ⟨n, hanswered⟩
  · rw [refused_not_ok he] at hok
    cases hok

/-- A response that came to the page `k` was taken from a job that it sent. -/
theorem tookFor_of_received {sdk : NostrSdk} {w : World} {F : Nat → Job → Response → Log → Prop}
    {c : PageSystem A S Act} {k : Nat} {f : Fetch} {response : Response}
    (h : ofPage (Clients.Received (service sdk) (pages initial begins program exec around) w F c k) f
      response) :
    ∃ i act around', TookFor sdk (pages initial begins program exec around) w c k act i f response ∧
      c.server.job i = some (f.job around') ∧ F i (f.job around') response c.server.log := by
  obtain ⟨act, a, x, hx, hk, hact, i, job, s, inp, hsender, hjob, rfl, hfact, htook⟩ := h
  exact ⟨i, act, around inp, ⟨a, x, hsender, hx, hk, hact, htook⟩, hjob, hfact⟩

end Pages

end NostrAuth.Browser
