import NostrAuth.Server

/-! `admin_cli.py`: the commands of an administrator, which work on the identities of the
running service. -/

set_option autoImplicit false

namespace NostrAuth.AdminCli

open Interaction

/-- What a command does outside itself. -/
inductive CliOp
  /-- `MappingStore(get_settings().mappings_db_path)` -/
  | open_store
  | mapping (c : MappingCall)
  | print (text : String)
  | printError (text : String)

@[reducible] def CliOp.Ans : CliOp → Type
  | open_store | print _ | printError _ => Unit
  | mapping c => Except Exn c.Reply

def exec : (o : CliOp) → Oracle → World → o.Ans × World
  | .open_store, inp, w =>
    ((), { w with mappings := (MappingStore.init.run inp.clock w.mappings none).2 })
  | .mapping c, inp, w =>
    let done := c.method.run inp.clock w.mappings none
    (done.1, { w with mappings := done.2 })
  | .print _, _, w => ((), w)
  | .printError _, _, w => ((), w)

abbrev Cli (α : Type) := Prog CliOp CliOp.Ans Exn α

def mappings (c : MappingCall) : Cli c.Reply := .call (.mapping c) Prog.ofExcept

/-- Print a line and end with exit code 0. -/
def done (text : String) : Cli Int := .call (.print text) fun _ => .ret 0

/-- Print an error and end with exit code 1. -/
def fail (text : String) : Cli Int := .call (.printError ("error: " ++ text)) fun _ => .ret 1

/-- `label.strip() if label else None` -/
def storedLabel : Option String → Option String
  | some label => if label = "" then none else some (strip label)
  | none => none

section

variable (sdk : NostrSdk)

def _format_identity (identity : Identity) : Except Exn String :=
  let last_used := match identity.last_used with
    | none => "never"
    | some t => toString t
  let status := if identity.enabled then "enabled" else "revoked"
  let label := match identity.label with
    | some label => if label = "" then "" else ", label " ++ pyRepr label
    | none => ""
  let identity_id := match identity.identity_id with
    | some n => toString n
    | none => "None"
  match Npub.hex_to_npub sdk identity.pubkey with
  | .error e => .error e
  | .ok npub => .ok (identity.ynh_username ++ ": " ++ npub ++ " (" ++ identity.pubkey ++ ") - id " ++
      identity_id ++ ", " ++ status ++ ", " ++ identity.signer_type ++ label ++ ", linked " ++
      toString identity.created_at ++ ", last used " ++ last_used)

/-- The two ways in which `_link` records a mapping. -/
def record (add : Bool) (username pubkey_hex : String) (metadata : MappingStore.Metadata) :
    Cli Unit :=
  if add then (mappings (.add_identity username pubkey_hex metadata)).bind fun _ => .ret ()
  else mappings (.link username pubkey_hex metadata)

def _link (username pubkey_or_npub : String) (add : Bool) (signer_type : String)
    (label : Option String) : Cli Int :=
  if username = "" then fail "username is required"
  else if pubkey_or_npub = "" then fail "a Nostr public key (npub or hex) is required"
  else
    match Npub.parse_to_hex sdk pubkey_or_npub with
    | .error (.valueError e) => fail e
    | .error e => .raise e
    | .ok pubkey_hex => do
      let outcome ← (record add username pubkey_hex ⟨signer_type, storedLabel label, "admin"⟩).attempt
      match outcome with
      | .error (.pubkeyAlreadyLinked e) => fail e
      | .error e => .raise e
      | .ok _ => do
        let verb := if add then "added" else "linked"
        let npub ← Prog.ofExcept (Npub.hex_to_npub sdk pubkey_hex)
        done (verb ++ " " ++ username ++ " to " ++ npub ++ " (" ++ pubkey_hex ++ ")")

def _unlink (username : String) : Cli Int :=
  if username = "" then fail "username is required"
  else do
    let identity ← mappings (.get_by_username username)
    match identity with
    | none => done (username ++ " has no linked identity - nothing to do")
    | some _ => do
      mappings (.unlink username)
      done ("unlinked " ++ username)

def _revoke (username : String) (identity_id : Int) : Cli Int :=
  if username = "" then fail "username is required"
  else if identity_id ≤ 0 then fail "identity id must be positive"
  else do
    let revoked ← mappings (.revoke_identity identity_id username)
    if revoked then done ("revoked identity " ++ toString identity_id ++ " for " ++ username)
    else fail "identity not found or already revoked"

def _rename (username : String) (identity_id : Int) (label : String) : Cli Int :=
  if username = "" then fail "username is required"
  else if identity_id ≤ 0 then fail "identity id must be positive"
  else if strip label = "" ∨ 120 < len (strip label) then
    fail "label must be a non-empty string of at most 120 characters"
  else do
    let identity ← mappings (.update_identity_label identity_id username (some (strip label)))
    match identity with
    | none => fail "identity not found or revoked"
    | some _ => done ("renamed identity " ++ toString identity_id ++ " for " ++ username ++ " to " ++
        pyRepr (strip label))

/-- Print one line for each identity. -/
def printIdentities : List Identity → Cli Int
  | [] => .ret 0
  | identity :: rest => do
    let line ← Prog.ofExcept (_format_identity sdk identity)
    .call (.print line) fun _ => printIdentities rest

def _list : Cli Int := do
  let identities ← mappings .list_all
  if identities.isEmpty then done "no identities linked"
  else printIdentities sdk identities

/-- The arguments of a command, before the parser checks their types and choices. -/
inductive Command
  | link (username pubkey_or_npub : String) (add : Bool) (signer_type label : Option String)
  | unlink (username : String)
  | revoke (username identity_id : String)
  | rename (username identity_id label : String)
  | list
  deriving DecidableEq, Repr

/-- The choices of `--signer-type`. -/
def signerTypes : List String := ["unknown", "nip07", "nip46", "passkey"]

/-- The parser refuses the arguments. -/
def usageError : Cli Int := .raise (.uncaught "SystemExit" "2")

/-- Open the store and go on with the command. -/
def withStore (p : Cli Int) : Cli Int := .call .open_store fun _ => p

def main : Command → Cli Int
  | .link username pubkey_or_npub add signer_type label =>
    if signer_type.getD "unknown" ∈ signerTypes then
      withStore (_link sdk username pubkey_or_npub add (signer_type.getD "unknown") label)
    else usageError
  | .unlink username => withStore (_unlink username)
  | .revoke username identity_id =>
    match pyInt identity_id with
    | some n => withStore (_revoke username n)
    | none => usageError
  | .rename username identity_id label =>
    match pyInt identity_id with
    | some n => withStore (_rename username n label)
    | none => usageError
  | .list => withStore (_list sdk)

/-- Any number of commands, run call by call beside each other. -/
def commands : Machine CliOp CliOp.Ans Exn Int Oracle World Command where
  program := main sdk
  exec := exec
  reboot := create_app

/-- The service and the commands of its administrators. -/
def system : Machine (Op ⊕ CliOp) (Sum.elim Op.Ans CliOp.Ans) Exn (Response ⊕ Int) Oracle World
    (Server.Job ⊕ Command) := (Server.service sdk).beside (commands sdk)

end

abbrev SystemRun := Config (Op ⊕ CliOp) (Sum.elim Op.Ans CliOp.Ans) Exn (Response ⊕ Int) Oracle
  World (Server.Job ⊕ Command)

end NostrAuth.AdminCli
