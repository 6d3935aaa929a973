import NostrAuth.ErrorMapping

/-! Which requests leave a handler with an exception that no client is answered with: a body that
`json.loads` does not read, or a nonce, a path id or a text that sqlite3 does not bind. -/

set_option autoImplicit false

namespace NostrAuth.HostileInput

open Interaction Handler PortalClient Prog Server

/-! ## The endpoints -/

section Endpoints

variable {sdk : NostrSdk} {job : Job} {inp : Nat → Oracle} {w : World}

end Endpoints

/-- The only events that parse are those of `aliceKey`; these requests hold none. -/
def aliceSdk : NostrSdk where
  Event := Unit
  from_json _ := .error "missing field"
  verify _ := true
  kind _ := 22242
  tags _ := []
  created_at _ := 1767225605
  author _ := aliceKey
  to_hex := Server.keySdk.to_hex
  to_bech32 := Server.keySdk.to_bech32

theorem aliceKey_converts : Npub.Converts aliceSdk aliceKey := by
  simp [Npub.Converts, aliceSdk, Server.keySdk]

end NostrAuth.HostileInput
