import Mathlib
import PriceBoard.Api
import PriceBoard.Proofs.Asset
import PriceBoard.Proofs.Json.Field
import PriceBoard.Proofs.Json.Sent
import PriceBoard.Proofs.Quotation

/-!
# Records by name and by document

The records of assets can be asked for in two ways: the assets are named in a parameter, in the form
of the settings, or they are listed in a posted document.  Both ways lead to the same answer
(`records_of_calls`), and the parameter is refused just if the settings would refuse it.

## Strategy

Each way is followed to the same end, the lookup of the listed assets.  On the first one the join of
the written assets is read as the assets again (`Asset.parseItems_commaJoin`).  On the second one the
body is any text from which a document is read that lists the assets, `Posts`, and what a client
sends is such a text (`posts_listDocument`).
-/

namespace PriceBoard

/-! ## Checks of lists -/

/-- A list is read if all of its items are. -/
theorem Checked.all_eq_ok {α β : Type} {check : β → Checked α} {items : List β} {values : List α}
    (hchecks : List.Forall₂ (fun item value => check item = .ok value) items values) :
    all check items = .ok values := by
  have hindices : ∀ first, (items.zipIdx first).foldr
      (fun entry others =>
        apply ((under (.item entry.2) (check entry.1)).map List.cons) others) (.ok []) =
          Except.ok values := by
    induction hchecks with
    | nil => exact fun _ => rfl
    | cons hcheck _ ih =>
        intro first
        rw [List.zipIdx_cons, List.foldr_cons, ih]
        exact apply_eq_ok (by rw [hcheck]; rfl) rfl
  exact hindices 0

namespace Api

variable {δ : Type} {deepest : ℕ} {board : Board} {updater : Option (Status × δ)}
  {assets : List Asset} {written body : String}

/-! ## Calls for records -/

def recordsPath : String :=
  "/v1/currencies"

/-- The call for the records of assets that are named in a text. -/
def namedCall (written : String) : Call :=
  .get recordsPath [(assetsParameter, written)]

/-- The call for the records of assets in a posted document. -/
def postedCall (body : String) : Call :=
  .post recordsPath body

/-- The address that the path leads to. -/
def recordsAddress (query : Option (List Char)) : Address :=
  { Address.board with path := recordsPath.toList, query := query }

/-- The text is not too long for an address. -/
def FitsAddress (written : String) : Prop :=
  ((formQuery? [(assetsParameter, written)]).getD []).length ≤ longestAddress

theorem resolved_recordsPath :
    (Address.read recordsPath.toList).bind Address.resolved = .ok (recordsAddress none) := by
  cbv

theorem place?_recordsAddress (query : Option (List Char)) :
    (recordsAddress query).place? = .ok (some .records) := by
  cbv

/-- Posted documents arrive, and so do names that fit into an address. -/
theorem place_postedCall (body : String) :
    (postedCall body).address.bind Address.place? = .ok (some .records) := by
  have haddress : (postedCall body).address = .ok (recordsAddress none) := resolved_recordsPath
  rw [haddress]
  exact place?_recordsAddress none

theorem place_namedCall (hfits : FitsAddress written) :
    (namedCall written).address.bind Address.place? = .ok (some .records) := by
  let query := formQuery? [(assetsParameter, written)]
  have hread : (namedCall written).address =
      ((Address.read recordsPath.toList).bind Address.resolved).bind fun address =>
        address.withParameters [(assetsParameter, written)] := by
    rw [namedCall, Call.address]
    cases Address.read recordsPath.toList <;> rfl
  have hchecked : (recordsAddress query).checked = .ok (recordsAddress query) := by
    -- only the query depends on what is asked for
    have hothers : (recordsAddress query).scheme.length ≤ longestAddress ∧
        (recordsAddress query).authority.length ≤ longestAddress ∧
        (recordsAddress query).path.length ≤ longestAddress := by
      change (recordsAddress none).scheme.length ≤ longestAddress ∧
        (recordsAddress none).authority.length ≤ longestAddress ∧
        (recordsAddress none).path.length ≤ longestAddress
      decide
    have hquery : ((recordsAddress query).query.getD []).length ≤ longestAddress := hfits
    have hfragment : ((recordsAddress query).fragment.getD []).length ≤ longestAddress :=
      Nat.zero_le _
    simp [Address.checked, Address.longPart?, hothers, hquery, hfragment]
  rw [hread, resolved_recordsPath]
  change (recordsAddress query).checked.bind _ = _
  rw [hchecked]
  exact place?_recordsAddress query

/-- The answer, if it can be sent. -/
def sentAnswer (answer : Answer δ) : Except Fault (Answer δ) :=
  match answer.fault? with
  | some fault => .error fault
  | none => .ok answer

theorem handle_of_place {call : Call} {place : Option Place}
    (hplace : call.address.bind Address.place? = .ok place) :
    handle deepest board updater call = sentAnswer (respond deepest board updater place call) := by
  rw [handle, hplace]
  rfl

/-! ## Named assets -/

theorem respond_namedCall (written : String) :
    respond deepest board updater (some .records) (namedCall written) =
      match Asset.parseItems written with
      | .error _ => .refused 400 "INVALID_ASSET_SPECIFIER"
      | .ok assets => .records (board.lookup assets) := by
  simp only [respond, namedCall, getRecords, parameter?]
  rfl

/-! ## Posted assets -/

/-- The item of a document names the asset. -/
def Names (item : Json) (asset : Asset) : Prop :=
  item.field? "blockchain" = some (.ofText asset.blockchain) ∧
    item.field? "symbol" = some (.ofText asset.symbol)

/-- The body is read as a document that lists the assets, nested to the depth at most. -/
def Posts (deepest : ℕ) (body : String) (assets : List Asset) : Prop :=
  ∃ letters items, Text.decode? body = some letters ∧
    Json.decode deepest letters = .ok (.array items) ∧ List.Forall₂ Names items assets

/-- The names of an asset, spelled. -/
def spelledNames (asset : Asset) : Asset.Spelled :=
  ⟨.ofText asset.blockchain, .ofText asset.symbol⟩

theorem checkNames_of_names {item : Json} {asset : Asset} (hnames : Names item asset)
    (otherKind : Problem) : Asset.checkNames otherKind item = .ok (spelledNames asset) := by
  obtain ⟨fields, rfl⟩ := Json.exists_fields_of_field? hnames.1
  have hblockchain : Reader.required fields "blockchain" Reader.spelling =
      .ok (.ofText asset.blockchain) := Reader.required_eq_ok hnames.1 rfl
  have hsymbol : Reader.required fields "symbol" Reader.spelling =
      .ok (.ofText asset.symbol) := Reader.required_eq_ok hnames.2 rfl
  exact Checked.apply_eq_ok (Checked.apply_eq_ok rfl hblockchain) hsymbol

theorem asset?_spelledNames (asset : Asset) : (spelledNames asset).asset? = some asset := by
  simp [spelledNames, Asset.Spelled.asset?]

theorem postedRecords_of_names {items : List Json} (hnames : List.Forall₂ Names items assets) :
    (postedRecords board (.array items) : Answer δ) = .records (board.lookup assets) := by
  have hchecks : List.Forall₂ (fun item names =>
      Asset.checkNames .noRecordInRequest item = .ok names) items (assets.map spelledNames) := by
    rw [List.forall₂_map_right_iff]
    exact hnames.imp fun _ _ hitem => checkNames_of_names hitem _
  have hread : checkAssets (.array items) = .ok (assets.map spelledNames) :=
    Checked.all_eq_ok hchecks
  have hassets : (assets.map spelledNames).filterMap Asset.Spelled.asset? = assets := by
    rw [List.filterMap_map]
    exact (List.filterMap_congr fun asset _ => asset?_spelledNames asset).trans List.filterMap_some
  rw [postedRecords, hread]
  change Answer.records (board.lookup _) = _
  rw [hassets]

theorem respond_postedCall (hposts : Posts deepest body assets) :
    respond deepest board updater (some .records) (postedCall body) =
      .records (board.lookup assets) := by
  obtain ⟨letters, items, hletters, hdecode, hnames⟩ := hposts
  have hbody : body.isEmpty = false := by
    rw [Bool.eq_false_iff]
    intro hempty
    rw [String.isEmpty_iff] at hempty
    subst hempty
    have harrived : Text.decode? "" = some [] := by
      simp [Text.decode?, Text.Encoding.ofBytes]
    obtain rfl : [] = letters := Option.some.inj (harrived.symm.trans hletters)
    cases hdecode
  rw [postedCall, respond]
  simp only [postRecords, hbody, hletters, hdecode]
  exact postedRecords_of_names hnames

/-! ## What clients send -/

/-- The item that names the asset. -/
def itemDocument (asset : Asset) : Json :=
  .object (Json.named [("blockchain", .ofText asset.blockchain), ("symbol", .ofText asset.symbol)])

/-- The document that lists the assets. -/
def listDocument (assets : List Asset) : Json :=
  .array (assets.map itemDocument)

theorem names_itemDocument (asset : Asset) : Names (itemDocument asset) asset := by
  have hne : Spelling.ofText "blockchain" ≠ .ofText "symbol" := by decide
  constructor <;>
    simp [itemDocument, Json.field?, Json.fields, Json.member?, Json.named, valueAt?, hne]

theorem plainWithin_itemDocument (depth : ℕ) (asset : Asset) :
    Json.PlainWithin (depth + 1) (itemDocument asset) := by
  have hne : Spelling.ofText "blockchain" ≠ .ofText "symbol" := by decide
  have hsent : Json.isSent (.ofText "blockchain") = true ∧
      Json.isSent (.ofText "symbol") = true := by
    decide
  simp [itemDocument, Json.PlainWithin, Json.PlainFields, Json.named, Json.ofText, hne, hsent]

/-- What is sent of a list is a body that lists the assets; it is a list of objects, and so nested to
the depth of two. -/
theorem posts_listDocument (assets : List Asset) (room : ℕ) :
    ∃ body, (listDocument assets).compact? = some (Json.plain body) ∧
      Posts (room + 2) body assets := by
  have hplain : Json.PlainItems (room + 1) (assets.map itemDocument) := by
    induction assets with
    | nil => trivial
    | cons asset others ih => exact ⟨plainWithin_itemDocument _ asset, ih⟩
  have hnames : List.Forall₂ Names (assets.map itemDocument) assets := by
    rw [List.forall₂_map_left_iff]
    exact List.forall₂_same.mpr fun asset _ => names_itemDocument asset
  obtain ⟨body, hcompact, harrived, hdecode⟩ := Json.decode_sent_array hplain
  exact ⟨body, hcompact, _, _, harrived, hdecode, hnames⟩

/-! ## The two ways -/

theorem respond_of_parseItems (hparse : Asset.parseItems written = .ok assets) :
    respond deepest board updater (some .records) (namedCall written) =
      .records (board.lookup assets) := by
  rw [respond_namedCall, hparse]

theorem refused_of_parseUniverse {fault : Asset.Malformed}
    (hfault : Asset.parseUniverse written = .error fault) :
    respond deepest board updater (some .records) (namedCall written) =
      .refused 400 "INVALID_ASSET_SPECIFIER" := by
  rw [respond_namedCall]
  cases hparse : Asset.parseItems written with
  | error cause => rfl
  | ok assets => simp [Asset.parseUniverse, hparse, Except.map] at hfault

/-- A text is refused just if the settings would refuse it. -/
theorem status_namedCall_iff :
    (respond deepest board updater (some .records) (namedCall written)).status = 400 ↔
      ∃ fault, Asset.parseUniverse written = .error fault := by
  cases hlisted : Asset.parseUniverse written with
  | error fault => simp [refused_of_parseUniverse hlisted, Answer.status]
  | ok listed =>
      obtain ⟨assets, hparse, -⟩ := Asset.parseUniverse_eq_ok_iff.mp hlisted
      simp [respond_of_parseItems hparse, Answer.status]

/-- Assets that are named are answered for like assets that are posted, in any body that lists them,
and there is such a body, where a list of objects can be read.  A text is refused just if the
settings would refuse it; otherwise the assets that are looked up are those of the settings, which
read item by item and take each asset once. -/
theorem records_of_calls :
    (∀ assets : List Asset, (∀ asset ∈ assets, asset.Writable) →
      (∀ room, ∃ body, (listDocument assets).compact? = some (Json.plain body) ∧
        Posts (room + 2) body assets) ∧
      ∀ deepest body, Posts deepest body assets → ∀ (board : Board) (updater : Option (Status × δ)),
        let written := Text.commaJoin (assets.map Asset.text)
        respond deepest board updater (some .records) (namedCall written) =
            respond deepest board updater (some .records) (postedCall body) ∧
          respond deepest board updater (some .records) (namedCall written) =
            .records (board.lookup assets) ∧
          (FitsAddress written →
            handle deepest board updater (namedCall written) =
              handle deepest board updater (postedCall body))) ∧
    ∀ written,
      Asset.parseUniverse written = (Text.split ',' written).foldlM Asset.addItem [] ∧
      (∀ deepest (board : Board) (updater : Option (Status × δ)),
        (respond deepest board updater (some .records) (namedCall written)).status = 400 ↔
          ∃ fault, Asset.parseUniverse written = .error fault) ∧
      (FitsAddress written → ∀ fault, Asset.parseUniverse written = .error fault →
        ∀ deepest (board : Board) (updater : Option (Status × δ)),
          handle deepest board updater (namedCall written) =
            .ok (.refused 400 "INVALID_ASSET_SPECIFIER")) ∧
      ∀ listed, Asset.parseUniverse written = .ok listed →
        ∃ assets, distinct assets = listed ∧
          ∀ deepest (board : Board) (updater : Option (Status × δ)),
            respond deepest board updater (some .records) (namedCall written) =
              .records (board.lookup assets) := by
  constructor
  · intro assets hwritable
    refine ⟨posts_listDocument assets, ?_⟩
    intro deepest body hposts board updater written
    have hnamed : respond deepest board updater (some .records) (namedCall written) =
        .records (board.lookup assets) :=
      respond_of_parseItems (Asset.parseItems_commaJoin hwritable)
    have hposted : respond deepest board updater (some .records) (postedCall body) =
        .records (board.lookup assets) := respond_postedCall hposts
    refine ⟨hnamed.trans hposted.symm, hnamed, ?_⟩
    intro hfits
    rw [handle_of_place (place_namedCall hfits), handle_of_place (place_postedCall body), hnamed,
      hposted]
  · intro written
    refine ⟨Asset.parseUniverse_eq_foldlM written,
      fun deepest board updater => status_namedCall_iff, ?_, ?_⟩
    · intro hfits fault hfault deepest board updater
      rw [handle_of_place (place_namedCall hfits), refused_of_parseUniverse hfault]
      rfl
    · intro listed hlisted
      obtain ⟨assets, hparse, hdistinct⟩ := Asset.parseUniverse_eq_ok_iff.mp hlisted
      exact ⟨assets, hdistinct, fun deepest board updater => respond_of_parseItems hparse⟩

end Api

end PriceBoard
