import NostrAuth.AdminPages
import NostrAuth.HelperServices

/-! What a browser makes of the table of the administration page: the markup of a row is read as
its cells, and nothing that is stored in an identity is read as markup. -/

set_option autoImplicit false

namespace NostrAuth.AdminRows

open Interaction Server Browser AdminPage AdminPages
open Html (Token References)

/-! ## The markup of a row -/

/-- The line end and the indentation before a cell. -/
def indent : String := "\n        "

/-- The pieces of `tr.innerHTML`. -/
def rowPieces (locale : BrowserLocale) (identity : Shown) : List Html.Piece :=
  [.markup "\n        <td>".toList, .text identity.username.toList,
    .markup "</td>\n        <td class=\"pubkey\" title=\"".toList, .text identity.pubkey.toList,
    .markup "\">".toList, .text (truncatePubkey identity.npub).toList,
    .markup "</td>\n        <td>".toList, .text identity.signer_type.toList,
    .markup "</td>\n        <td class=\"label-cell\">".toList, .text (identity.label.getD "").toList,
    .markup "</td>\n        <td>".toList, .markup (statusChip identity.enabled).toList,
    .markup "</td>\n        <td>".toList,
    .text (formatTimestamp locale (some identity.created_at)).toList,
    .markup "</td>\n        <td>".toList, .text (formatTimestamp locale identity.last_used).toList,
    .markup "</td>\n        <td class=\"row-actions\"></td>\n      ".toList]

theorem rowHtml_pieces (locale : BrowserLocale) (identity : Shown) :
    (rowHtml locale identity).toList = Html.render (rowPieces locale identity) := by
  unfold rowHtml rowPieces escapeHtml
  simp only [String.toList_append, String.toList_ofList]
  simp only [Html.render]
  simp only [List.append_assoc]
  simp only [List.append_nil]

def characters (cs : List Char) : List Token := cs.map .character

/-- A cell of the table. -/
def cell (attributes : List (String × List Char)) (content : List Token) : List Token :=
  .startTag "td".toList (attributes.map fun a => (a.1.toList, a.2)) :: content ++ [.endTag "td".toList]

/-- The text of a node that was filled with this string. -/
def textOf (s : String) : List Token := characters (Html.newlines s.toList)

def chipTokens (enabled : Bool) : List Token :=
  .startTag "span".toList
      [("class".toList, (if enabled then "chip" else "chip revoked").toList)] ::
    characters (if enabled then "active" else "revoked").toList ++ [.endTag "span".toList]

/-- The cells of a row. -/
def rowTokens (locale : BrowserLocale) (identity : Shown) : List Token :=
  characters indent.toList ++ cell [] (textOf identity.username) ++
  characters indent.toList ++
    cell [("class", "pubkey".toList), ("title", Html.newlines identity.pubkey.toList)]
      (textOf (truncatePubkey identity.npub)) ++
  characters indent.toList ++ cell [] (textOf identity.signer_type) ++
  characters indent.toList ++ cell [("class", "label-cell".toList)] (textOf (identity.label.getD "")) ++
  characters indent.toList ++ cell [] (chipTokens identity.enabled) ++
  characters indent.toList ++
    cell [] (textOf (formatTimestamp locale (some identity.created_at))) ++
  characters indent.toList ++ cell [] (textOf (formatTimestamp locale identity.last_used)) ++
  characters indent.toList ++ cell [("class", "row-actions".toList)] [] ++
  characters "\n      ".toList

theorem rowPieces_plain (locale : BrowserLocale) (identity : Shown) :
    Html.Plain (rowPieces locale identity) := by
  unfold rowPieces
  simp only [Html.Plain, Html.render]
  cases identity.enabled
  · simp [statusChip]
  · simp [statusChip]

/-! ## The pieces, one by one -/

theorem scan_first : Html.scan .data "\n        <td>".toList =
    some (.data, characters indent.toList ++ [.startTag "td".toList []]) := by
  decide +kernel

theorem scan_title : Html.scan .data "</td>\n        <td class=\"pubkey\" title=\"".toList =
    some (.attributeValue ⟨false, "td".toList, [("class".toList, "pubkey".toList)]⟩ "title".toList [],
      .endTag "td".toList :: characters indent.toList) := by
  decide +kernel

theorem scan_titled (value : List Char) :
    Html.scan (.attributeValue ⟨false, "td".toList, [("class".toList, "pubkey".toList)]⟩
      "title".toList value) "\">".toList =
    some (.data, [.startTag "td".toList [("class".toList, "pubkey".toList),
      ("title".toList, value)]]) := rfl

theorem scan_next : Html.scan .data "</td>\n        <td>".toList =
    some (.data, .endTag "td".toList :: characters indent.toList ++ [.startTag "td".toList []]) := by
  decide +kernel

theorem scan_label : Html.scan .data "</td>\n        <td class=\"label-cell\">".toList =
    some (.data, .endTag "td".toList :: characters indent.toList ++
      [.startTag "td".toList [("class".toList, "label-cell".toList)]]) := by
  decide +kernel

theorem scan_chip (enabled : Bool) :
    Html.scan .data (statusChip enabled).toList = some (.data, chipTokens enabled) := by
  cases enabled <;> decide +kernel

theorem scan_last : Html.scan .data "</td>\n        <td class=\"row-actions\"></td>\n      ".toList =
    some (.data, .endTag "td".toList :: characters indent.toList ++
      cell [("class", "row-actions".toList)] [] ++ characters "\n      ".toList) := by
  decide +kernel

theorem read_rowPieces (locale : BrowserLocale) (identity : Shown)
    (hquote : '"' ∉ identity.pubkey.toList) (hnull : '\x00' ∉ identity.pubkey.toList) :
    Html.read .data (rowPieces locale identity) = some (.data, rowTokens locale identity) := by
  have hvalue : ¬('"' ∈ identity.pubkey.toList ∨ '\x00' ∈ identity.pubkey.toList) :=
    not_or.mpr ⟨hquote, hnull⟩
  unfold rowPieces rowTokens
  simp only [Html.read, scan_first, scan_title, scan_titled, scan_next, scan_label, scan_chip,
    scan_last, if_neg hvalue, List.nil_append, Option.map_some]
  simp only [cell, textOf, characters, List.append_assoc, List.cons_append, List.nil_append,
    List.map_cons, List.map_nil, List.append_nil]

/-- **A row is read as its cells.** -/
theorem row_tokens_iff {references : References} (hrefs : Html.Decodes references)
    (locale : BrowserLocale) (identity : Shown) (hquote : '"' ∉ identity.pubkey.toList)
    (hnull : '\x00' ∉ identity.pubkey.toList) (out : List Token) :
    Html.Tokens references (rowHtml locale identity).toList out ↔ out = rowTokens locale identity := by
  have hreads : Html.Tokens references (rowHtml locale identity).toList (rowTokens locale identity) := by
    rw [rowHtml_pieces]
    exact Html.reads_render hrefs (rowPieces_plain locale identity)
      (read_rowPieces locale identity hquote hnull)
  constructor
  · intro h
    exact h.unique hreads
  · rintro rfl
    exact hreads

/-! ## The keys of the store -/

/-- What nostr_sdk returns for a public key. -/
def SdkKey (sdk : NostrSdk) (key : String) : Prop :=
  (∃ event, key = sdk.author event) ∨ ∃ value, sdk.to_hex value = .ok key

theorem sdkKey_of_parsed {sdk : NostrSdk} {value : PyStr} {key : String}
    (h : Npub.parse_to_hex sdk value = .ok key) : SdkKey sdk key := by
  cases value with
  | lone t => cases h
  | text value =>
    simp only [Npub.parse_to_hex] at h
    split at h
    · next pubkey hpubkey =>
      cases h
      exact Or.inr ⟨value, hpubkey⟩
    · cases h

/-- The key that a call records. -/
def keyOf : MappingCall → Option String
  | .link _ pubkey_hex _ | .add_identity _ pubkey_hex _ => some pubkey_hex
  | _ => none

section Runs

variable {locale : BrowserLocale} {sdk : NostrSdk} {w : World}

/-- Every key of the store came from nostr_sdk. -/
theorem sdkKey_of_row {c : Run} (hw : w.mappings = MappingDb.empty)
    (hc : Interaction.Reachable (service sdk) w c) {r : IdentityRow} (hr : r ∈ c.world.mappings) :
    SdkKey sdk r.pubkey := by
  obtain ⟨m, e, he, metadata, hop, _⟩ := (identitiesLogged hw hc).recorded r hr
  obtain ⟨call, hop, hcall⟩ : ∃ call, e.op = .mapping call ∧
      (call = .link r.ynh_username r.pubkey metadata ∨
        call = .add_identity r.ynh_username r.pubkey metadata) :=
    hop.elim (fun h => ⟨_, h, Or.inl rfl⟩) fun h => ⟨_, h, Or.inr rfl⟩
  obtain ⟨job, endpoint, hjob, hroute, hallowed⟩ := allowed_of_log hc he
  have hkey : keyOf call = some r.pubkey := by rcases hcall with rfl | rfl <;> rfl
  have hwrites : call.writes = true := by rcases hcall with rfl | rfl <;> rfl
  have hadmin := adminWrites_of_log hc (List.mem_of_getElem? he) hjob hroute hop hwrites
  rw [hop] at hallowed
  generalize calls e.who (c.log.take m) = h at hallowed
  cases hallowed with
  | touch => cases hkey
  | record _ _ nonce challenge pubkey reply session metadata' hkind _ _ hsigned =>
    have hpubkey : keyOf call = some pubkey := by
      obtain ⟨_, _, ⟨_, rfl⟩ | ⟨_, rfl⟩⟩ := hkind <;> rfl
    obtain ⟨_, event, _, _, hauthor⟩ := hsigned
    exact Or.inl ⟨event, (Option.some.inj (hkey.symm.trans hpubkey)).trans hauthor⟩
  | edit_own _ _ _ _ _ hedits => rcases hcall with rfl | rfl <;> cases hedits
  | admin_edit _ _ _ _ _ hedits => rcases hcall with rfl | rfl <;> cases hedits
  | admin_record =>
    obtain ⟨username, pubkey, metadata', _, ⟨fields, value, _, _, hvalue⟩, hrecords⟩ := hadmin
    have hpubkey : keyOf call = some pubkey := by rcases hrecords with ⟨rfl, _⟩ | ⟨rfl, _⟩ <;> rfl
    exact sdkKey_of_parsed (Option.some.inj (hkey.symm.trans hpubkey) ▸ hvalue)
  | read _ _ _ hreads =>
    rw [hwrites] at hreads
    cases hreads

/-- nostr_sdk writes public keys as 64 lowercase hexadecimal digits. -/
def WritesHex (sdk : NostrSdk) : Prop :=
  ∀ key, SdkKey sdk key → IdentityLookupServer._PUBKEY_RE key = true

theorem not_mem_hex {key : String} (h : IdentityLookupServer._PUBKEY_RE key = true) :
    '"' ∉ key.toList ∧ '\x00' ∉ key.toList := by
  obtain ⟨_, hall⟩ := Bool.and_eq_true_iff.mp h
  rw [List.all_eq_true] at hall
  constructor
  · intro hmem
    exact absurd (hall _ hmem) (by decide)
  · intro hmem
    exact absurd (hall _ hmem) (by decide)

/-- **What is stored stays text.** Every row of the table of an administration page is one that the
store held, and a browser reads the markup of the row as the cells of the table and no others,
whatever account, key, label and signer were stored. -/
theorem table_stays_text {references : References} (hrefs : Html.Decodes references)
    (locale : BrowserLocale) (sdk : NostrSdk) (hsdk : WritesHex sdk) (w : World) (c : Pages)
    (hw : w.mappings = MappingDb.empty) (hc : AdminPages.Reachable locale sdk w c) (k : Nat)
    (row : Row) (hrow : row ∈ (c.state k).rows) :
    ∃ i r npub, ReadAt c i r ∧ Npub.hex_to_npub sdk r.pubkey = .ok npub ∧
      row.identity = shownRow npub r ∧
      ∀ out, Html.Tokens references row.html.toList out ↔ out = rowTokens locale row.identity := by
  have hbacked := (sourced hc).state k
  obtain ⟨hmem, hrow'⟩ := hbacked.rows row hrow
  rcases hbacked.list with hempty | hlisted
  · rw [hempty] at hmem
    cases hmem
  · obtain ⟨i, session, _, hall⟩ := stored_of_listed hc hlisted
    obtain ⟨r, npub, hread, hnpub, hidentity⟩ := hall row.identity hmem
    have hkey : SdkKey sdk r.pubkey := by
      obtain ⟨m, e, he, _, _, hr⟩ := hread
      obtain ⟨c', hc', _, hworld, _⟩ := hc.server.snapshot he
      exact sdkKey_of_row hw hc' (hworld ▸ hr)
    obtain ⟨hquote, hnull⟩ := not_mem_hex (hsdk _ hkey)
    refine ⟨i, r, npub, hread, hnpub, hidentity, fun out => ?_⟩
    have hpubkey : row.identity.pubkey = r.pubkey := by rw [hidentity]; rfl
    rw [congrArg Row.html hrow']
    exact row_tokens_iff hrefs locale row.identity (hpubkey ▸ hquote) (hpubkey ▸ hnull) out

end Runs

/-! ## A label that looks like markup -/

/-- The SDK on the key of `alice`, and on no other. -/
def hexSdk : NostrSdk := { Server.keySdk with author := fun _ => aliceKey }

theorem hexSdk_writesHex : WritesHex hexSdk := by
  have halice : IdentityLookupServer._PUBKEY_RE aliceKey = true := by decide +kernel
  rintro key (⟨event, rfl⟩ | ⟨value, hvalue⟩)
  · exact halice
  · simp only [hexSdk, Server.keySdk] at hvalue
    split at hvalue
    · next hv =>
      cases hvalue
      rw [hv]
      exact halice
    · cases hvalue

def markupPage : Pages :=
  (Clients.init (adminPage plainLocale) noIdentities).play (service hexSdk)
    (adminPage plainLocale) (addMoves { aliceForm with label := "<script>" })

def shownMarkup : Shown := { shownAlice with label := some "<script>" }

theorem table_stays_text_markupPage :
    Html.Tokens Html.fewReferences (rowHtml plainLocale shownMarkup).toList
      (rowTokens plainLocale shownMarkup) ∧
    Token.startTag "script".toList [] ∉ rowTokens plainLocale shownMarkup := by
  have hreachable : AdminPages.Reachable plainLocale hexSdk noIdentities markupPage :=
    Clients.Reachable.init.play _
  have hrow : rowOf plainLocale shownMarkup ∈ (markupPage.state 0).rows := by decide +kernel
  obtain ⟨i, r, npub, _, _, _, htokens⟩ := table_stays_text Html.fewReferences_decodes plainLocale
    hexSdk hexSdk_writesHex noIdentities markupPage rfl hreachable 0 _ hrow
  exact ⟨(htokens _).mpr rfl, by decide +kernel⟩

end NostrAuth.AdminRows
