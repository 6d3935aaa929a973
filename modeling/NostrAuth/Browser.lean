import NostrAuth.AccountPage

/-! What the scripts of the login page and of the admin page have in common: the requests they
make, and what they do with the answers. -/

set_option autoImplicit false

namespace NostrAuth.Browser

open Interaction Server
open AccountPage (property FetchResult)

/-- What the browser and the proxy add to a request, and the settings in force when it comes. -/
structure Surroundings where
  settings : Settings
  headers : String → Option String
  client : Option String

/-- The options of `fetch`; `typed` where the script says that the body is JSON. -/
structure Fetch where
  method : String
  path : List String
  typed : Bool := false
  body : Option Json := none

def Fetch.request (f : Fetch) (around : Surroundings) : Request where
  method := f.method
  path := f.path
  headers name :=
    if name = "content-type" then if f.typed then some "application/json" else none
    else around.headers name
  query_params _ := none
  json := jsonBody f.body
  client := around.client

def Fetch.job (f : Fetch) (around : Surroundings) : Job := ⟨around.settings, f.request around⟩

/-- What is sent to the service: the requests of the scripts, and what anybody else sends. -/
abbrev Sent := Fetch ⊕ Job

/-- A part of a script over the calls `O`; it raises the message of an exception. -/
abbrev Script (O : Type) (A : O → Type) (α : Type) : Type :=
  Prog (O ⊕ Sent) (Sum.elim A fun _ => Option Response) String α

variable {O : Type} {A : O → Type} {α : Type}

/-- `try { … } catch (e) { … }` -/
def catching (p : Script O A α) (handler : String → Script O A α) : Script O A α :=
  p.attempt.bind fun
    | .ok a => .ret a
    | .error e => handler e

/-- `try { … } finally { … }` -/
def finishing (p : Script O A α) (last : Script O A Unit) : Script O A α :=
  p.attempt.bind fun outcome => last.bind fun _ => Prog.ofExcept outcome

/-- What a script sees of a response. -/
def resultOf (response : Response) : FetchResult where
  ok := 200 ≤ response.status_code && response.status_code < 300
  status := response.status_code
  body := match response.content with
    | .json value => value
    | _ => .null

def fetchJSON (f : Fetch) : Script O A FetchResult :=
  .call (.inr (.inl f)) fun
    | none => .raise "Failed to fetch"
    | some response => .ret (resultOf response)

/-- `value[key]` -/
def read (key : String) (value : Json) : Script O A Json :=
  match property key value with
  | some field => .ret field
  | none => .raise ("Cannot read properties of null (reading '" ++ key ++ "')")

/-- Pages of one kind as clients of the service, among others who send what they like. -/
def pages {S In Act : Type} (initial : S) (begins : Act → S → Option S)
    (program : Act → Script O A Unit) (exec : (o : O) → In → S → A o × S)
    (around : In → Surroundings) : Client A Sent Response String S In (Act ⊕ Job) Job where
  initial := initial
  begins
    | .inl act, s => begins act s
    | .inr _, s => some s
  program
    | .inl act => program act
    | .inr job => .call (.inr (.inr job)) fun _ => .ret ()
  exec := exec
  job
    | .inl f, _, inp => f.job (around inp)
    | .inr job, _, _ => job

end NostrAuth.Browser
