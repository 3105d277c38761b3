import PriceBoard.Proofs.Pipeline.Fidelity
import PriceBoard.Proofs.Provider.Boundary
import PriceBoard.Proofs.Provider.Number

/-!
# A batch of coins, asset by asset

The market source asks about all ids of a batch at once, and reads the whole answer before it quotes
any asset.  If every row can be read, each asset is quoted by the row with its own id or not at all:
`quotationOf?`.  If there is a row that cannot be read, asked for or not, nothing is quoted, and the
first such row tells how the batch fails: a row without a price is a fault of the provider, and a
row whose time of update has too many digits is one of memory.

## Strategy

A row is read by numbers only (`figure_eq_ok_iff`, `figureOr_finite`), so that what is made of it
can be written down without the reader: `row_eq_ok`, `row_of_no_price`, `row_of_endless_time`.  The
rows of a document are read one after the other, and the table answers for an id with what was read
from the field with this name (`valueAt?_of_mapM_row`).
-/

namespace PriceBoard

open Provider

/-! ## Rows -/

namespace Provider.Coingecko

variable {now : Int} {content : Json} {price : Numeral}

/-- A field of a row; null if there is none, or if the row is no object. -/
def part (content : Json) (name : String) : Json :=
  (content.field? name).getD .null

/-- The price in a row. -/
def priceOf? (content : Json) : Option Numeral :=
  (part content "usd").numeral?

/-- The volume in a row, and zero if there is none; a zero is written as `0`. -/
def volumeOf (content : Json) : Numeral :=
  ((part content "usd_24h_vol").numeral?.filter fun volume => !volume.isZero).getD .zero

/-- The time in a row. -/
def timeOf? (content : Json) : Option Numeral :=
  (part content "last_updated_at").numeral?

/-- The whole seconds of the time in a row, and the current time if there is none. -/
def secondsOf (now : Int) (content : Json) : Int :=
  (timeOf? content).elim now fun time => Numeral.towardZero time.value

/-- The time in a row has too many digits in front of the point to be written down. -/
def HasEndlessTime (content : Json) : Prop :=
  ∃ time, timeOf? content = some time ∧ time.isZero = false ∧
    Numeral.exponentCeiling ≤ time.exponent

/-- A row with a price, whose time can be written down if it has one. -/
structure Readable (content : Json) : Prop where
  price : (priceOf? content).isSome = true
  time : ¬ HasEndlessTime content

theorem exists_fields_of_priceOf? (hprice : priceOf? content = some price) :
    ∃ fields, content = .object fields := by
  cases content with
  | object fields => exact ⟨fields, rfl⟩
  | _ => cases hprice

/-- The current time can always be written down. -/
theorem wholeSeconds_of_not_endless (htime : ¬ HasEndlessTime content) :
    wholeSeconds (figureOr (.finite (.ofInt now)) (part content "last_updated_at")) =
      .ok (secondsOf now content) := by
  rw [figureOr_finite]
  unfold secondsOf
  cases hfound : timeOf? content with
  | none =>
      -- a whole number has no zeros left out behind it
      have hsmall : ¬ Numeral.exponentCeiling ≤ (Numeral.ofInt now).exponent :=
        show ¬ Numeral.exponentCeiling ≤ 0 by decide
      rw [← timeOf?, hfound, Option.getD_none, wholeSeconds_finite fun hlarge => hsmall hlarge.2]
      simp
  | some time =>
      have hsmall : ¬ (time.isZero = false ∧ Numeral.exponentCeiling ≤ time.exponent) := by
        rintro ⟨hzero, hlarge⟩
        exact htime ⟨time, hfound, hzero, hlarge⟩
      rw [← timeOf?, hfound, Option.getD_some, wholeSeconds_finite hsmall]
      rfl

/-- A readable row is read field by field. -/
theorem row_eq_ok (hprice : priceOf? content = some price) (htime : ¬ HasEndlessTime content)
    (now : Int) (id : Spelling) :
    row now id content = .ok
      { price := price
        capitalization := figureOr (.finite .zero) (part content "usd_market_cap")
        volume := .finite ((part content "usd_24h_vol").numeral?.getD .zero)
        updated := secondsOf now content } := by
  obtain ⟨fields, rfl⟩ := exists_fields_of_priceOf? hprice
  have hfigure : figure provider (id ++ .ofText ".usd") (Json.memberOrNull "usd" fields) =
      .ok price :=
    (figure_eq_ok_iff _ _).mpr hprice
  have hseconds : wholeSeconds (figureOr (.finite (.ofInt now))
      (Json.memberOrNull "last_updated_at" fields)) = .ok (secondsOf now (.object fields)) :=
    wholeSeconds_of_not_endless htime
  have hvolume : figureOr (.finite .zero) (Json.memberOrNull "usd_24h_vol" fields) =
      .finite ((part (.object fields) "usd_24h_vol").numeral?.getD .zero) := figureOr_finite _ _
  simp only [row, hfigure, hseconds, hvolume]
  rfl

/-- A row without a price is a fault of the provider. -/
theorem row_of_no_price (hprice : priceOf? content = none) (now : Int) (id : Spelling) :
    ∃ reason, row now id content = .error (.protocol provider reason) := by
  cases content with
  | object fields =>
      have hnone : (Json.memberOrNull "usd" fields).numeral? = none := hprice
      obtain ⟨reason, hreason⟩ := figure_of_none provider (id ++ .ofText ".usd") hnone
      simp only [row, hreason]
      exact ⟨reason, rfl⟩
  | _ => exact ⟨_, rfl⟩

/-- A row with a price is given up because of its time only. -/
theorem row_of_endless_time (hprice : priceOf? content = some price)
    (htime : HasEndlessTime content) (now : Int) (id : Spelling) :
    row now id content = .error (.general .memory "") := by
  obtain ⟨fields, rfl⟩ := exists_fields_of_priceOf? hprice
  obtain ⟨time, hfound, hzero, hlarge⟩ := htime
  apply row_of_boundless
  refine ⟨fields, price, time, rfl, (figure_eq_ok_iff _ _).mpr hprice, ?_, hzero, hlarge⟩
  have hnumber : (Json.memberOrNull "last_updated_at" fields).numeral? = some time := hfound
  rw [figureOr_finite, hnumber, Option.getD_some]

theorem exists_row_iff (now : Int) (id : Spelling) (content : Json) :
    (∃ figures, row now id content = .ok figures) ↔ Readable content := by
  constructor
  · rintro ⟨figures, hrow⟩
    cases hprice : priceOf? content with
    | none =>
        obtain ⟨reason, hreason⟩ := row_of_no_price hprice now id
        cases hreason.symm.trans hrow
    | some price =>
        refine ⟨by rw [hprice]; rfl, fun htime => ?_⟩
        cases (row_of_endless_time hprice htime now id).symm.trans hrow
  · rintro ⟨hprice, htime⟩
    obtain ⟨price, hprice⟩ := Option.isSome_iff_exists.mp hprice
    exact ⟨_, row_eq_ok hprice htime now id⟩

/-! ## Documents -/

variable {fields before after : Json.Fields} {entry : Spelling × Json} {fault : Fault}

/-- One field of a document, as an entry of the table. -/
def readEntry (now : Int) (entry : Spelling × Json) : Except Fault (Spelling × MarketFigures) :=
  (row now entry.1 entry.2).map (entry.1, ·)

theorem rows_object (now : Int) (fields : Json.Fields) :
    rows now (.object fields) = fields.mapM (readEntry now) := rfl

theorem exists_readEntry (now : Int) (hentry : Readable entry.2) :
    ∃ read, readEntry now entry = .ok read := by
  obtain ⟨figures, hfigures⟩ := (exists_row_iff now entry.1 entry.2).mpr hentry
  rw [readEntry, hfigures]
  exact ⟨_, rfl⟩

/-- A document of readable rows is read. -/
theorem exists_rows_of_readable (now : Int) (hfields : ∀ entry ∈ fields, Readable entry.2) :
    ∃ table, rows now (.object fields) = .ok table := by
  rw [rows_object]
  exact exists_mapM_eq_ok fun entry hentry => exists_readEntry now (hfields entry hentry)

/-- The first row that is not read is the fault of the document. -/
theorem rows_eq_error (hbefore : ∀ earlier ∈ before, Readable earlier.2)
    (hrow : row now entry.1 entry.2 = .error fault) :
    rows now (.object (before ++ entry :: after)) = .error fault := by
  rw [rows_object]
  apply mapM_eq_error_iff.mpr
  refine ⟨before, entry, after, rfl, ?_, ?_⟩
  · exact fun earlier hearlier => exists_readEntry now (hbefore earlier hearlier)
  · rw [readEntry, hrow]
    rfl

end Provider.Coingecko

/-! ## What an asset is quoted at -/

namespace Market

variable {now : Int} {fields : Json.Fields} {table : List (Spelling × MarketFigures)} {asset : Asset}

/-- The row of an asset: the one under its own id. -/
def rowOf? (fields : Json.Fields) (asset : Asset) : Option Json :=
  (id? asset).bind fun id => Json.member? id fields

/-- The quotation of an asset: what its row says, under its own names. -/
def quotationOf? (now : Int) (fields : Json.Fields) (asset : Asset) : Option Quotation :=
  (rowOf? fields asset).bind fun row =>
    (Coingecko.priceOf? row).map fun price =>
      ⟨asset.symbol, asset.symbol, some asset.blockchain, price, Coingecko.volumeOf row,
        Coingecko.secondsOf now row⟩

theorem mem_of_rowOf? {row : Json} (hrow : rowOf? fields asset = some row) :
    ∃ id, (Spelling.ofText id, row) ∈ fields := by
  obtain ⟨id, -, hmember⟩ := Option.bind_eq_some_iff.mp hrow
  exact ⟨id, mem_of_valueAt? hmember⟩

theorem isSome_quotationOf?_iff (hfields : ∀ entry ∈ fields, Coingecko.Readable entry.2) :
    (quotationOf? now fields asset).isSome = true ↔ (rowOf? fields asset).isSome = true := by
  unfold quotationOf?
  cases hrow : rowOf? fields asset with
  | none => rfl
  | some row =>
      obtain ⟨id, hmem⟩ := mem_of_rowOf? hrow
      have hprice := (hfields _ hmem).price
      simp [hprice]

theorem supplyOf_volume (row : Json) :
    (supplyOf (some (.decimal (.finite
      ((Coingecko.part row "usd_24h_vol").numeral?.getD .zero))))).finite? =
        some (Coingecko.volumeOf row) := by
  unfold supplyOf Coingecko.volumeOf
  cases (Coingecko.part row "usd_24h_vol").numeral? with
  | none => rfl
  | some volume => cases hzero : volume.isZero <;> simp [Json.isVoid, Option.filter, hzero] <;> rfl

/-- A row that was read quotes what stands in it. -/
theorem quote_row {row : Json} {id : Spelling} {figures : MarketFigures} {price : Numeral}
    (hprice : Coingecko.priceOf? row = some price) (htime : ¬ Coingecko.HasEndlessTime row)
    (hrow : Coingecko.row now id row = .ok figures) (asset : Asset) :
    quote (.ofFigures figures) asset =
      .ok ⟨asset.symbol, asset.symbol, some asset.blockchain, price, Coingecko.volumeOf row,
        Coingecko.secondsOf now row⟩ := by
  rw [Coingecko.row_eq_ok hprice htime] at hrow
  cases hrow
  exact Quotation.report_of_finite asset.blockchain asset.symbol rfl (supplyOf_volume row) _

theorem quoteIn?_eq_quotationOf? (hfields : ∀ entry ∈ fields, Coingecko.Readable entry.2)
    (htable : Coingecko.rows now (.object fields) = .ok table) (asset : Asset) :
    quoteIn? (table.map fun entry => (entry.1, Row.ofFigures entry.2)) asset =
      quotationOf? now fields asset := by
  unfold quoteIn? quotationOf? rowOf?
  cases hid : id? asset with
  | none => rfl
  | some id =>
      have hlookup : valueAt? (Spelling.ofText id) table = (Json.member? id fields).bind _ :=
        Coingecko.valueAt?_of_mapM_row htable (.ofText id)
      rw [Option.bind_some, Option.bind_some, valueAt?_map, hlookup]
      cases hrow : Json.member? id fields with
      | none => rfl
      | some row =>
          obtain ⟨hprice, htime⟩ := hfields _ (mem_of_valueAt? hrow)
          obtain ⟨price, hprice⟩ := Option.isSome_iff_exists.mp hprice
          have hread := Coingecko.row_eq_ok hprice htime now (.ofText id)
          simp only [Option.bind_some, hread, Except.toOption, Option.map_some, hprice,
            quote_row hprice htime hread asset]

end Market

/-! ## Batches -/

namespace Pipeline

variable {settings : Settings} {key : String} {web : Web} {now : Int} {ids : List String}
  {fields : Json.Fields}

/-- The table is read from the document in the answer. -/
theorem result_marketRows_of_answer (now : Int) (hids : ids ≠ [])
    (hanswer : (Coingecko.endpoint key settings.marketUrl (timeout settings)).answer
      (web ((Coingecko.endpoint key settings.marketUrl (timeout settings)).request "/simple/price"
        (.query (Coingecko.query ids)))) = .ok (.object fields)) :
    (marketRows settings key web now ids).result =
      (Coingecko.rows now (.object fields)).map fun table =>
        table.map fun entry => (entry.1, Market.Row.ofFigures entry.2) := by
  have hprices : (Coingecko.prices (Coingecko.endpoint key settings.marketUrl (timeout settings))
      web now ids).result = Coingecko.rows now (.object fields) := by
    rw [Coingecko.result_prices _ _ _ hids, hanswer]
    rfl
  rw [result_marketRows, hprices]

/-- **A batch of coins is quoted asset by asset, or not at all.**  If every row of the answer can be
read, the quotations are those of the assets by their rows, one for each asset that has a row.  If
not, the first row that cannot be read tells the fault of the whole batch: one of the provider if
the row has no price, and one of memory if its time has too many digits. -/
theorem quotations_of_document (settings : Settings) (key : String) (web : Web) (now : Int)
    (assets : List Asset) (fields : Json.Fields)
    (hsome : ∃ asset ∈ assets, (Market.id? asset).isSome = true)
    (hanswer : (Coingecko.endpoint key settings.marketUrl (timeout settings)).answer
      (web ((Coingecko.endpoint key settings.marketUrl (timeout settings)).request "/simple/price"
        (.query (Coingecko.query (Market.idsOf assets))))) = .ok (.object fields)) :
    let result := (Market.quotations (marketRows settings key web now) assets).result
    ((∀ entry ∈ fields, Coingecko.Readable entry.2) →
      ∃ found, result = .ok found ∧ found.Perm (assets.filterMap (Market.quotationOf? now fields)) ∧
        ∀ asset, (Market.quotationOf? now fields asset).isSome = true ↔
          (Market.rowOf? fields asset).isSome = true) ∧
      ∀ before entry after, fields = before ++ entry :: after →
        (∀ earlier ∈ before, Coingecko.Readable earlier.2) →
        (Coingecko.priceOf? entry.2 = none →
          ∃ reason, result = .error (.protocol "coingecko" reason)) ∧
        ((Coingecko.priceOf? entry.2).isSome = true → Coingecko.HasEndlessTime entry.2 →
          result = .error (.general .memory "")) := by
  intro result
  have hids : Market.idsOf assets ≠ [] := by
    obtain ⟨asset, hasset, hid⟩ := hsome
    rw [ne_eq, Market.idsOf_eq_nil_iff]
    intro hnone
    simp [hnone asset hasset] at hid
  have hrows := result_marketRows_of_answer now hids hanswer
  constructor
  · intro hfields
    obtain ⟨table, htable⟩ := Coingecko.exists_rows_of_readable now hfields
    have hplain : ∀ entry ∈ table.map fun entry => (entry.1, Market.Row.ofFigures entry.2),
        entry.2.Plain := by
      intro entry hentry
      obtain ⟨found, hfound, rfl⟩ := List.mem_map.mp hentry
      exact Coingecko.plain_rows htable found hfound
    rw [htable] at hrows
    obtain ⟨found, hfound, hperm⟩ := Market.perm_quotations hplain fun _ => hrows
    refine ⟨found, hfound, ?_, fun _ => Market.isSome_quotationOf?_iff hfields⟩
    rwa [List.filterMap_congr fun asset _ =>
      Market.quoteIn?_eq_quotationOf? hfields htable asset] at hperm
  · rintro before entry after rfl hbefore
    have hfault : ∀ fault, Coingecko.row now entry.1 entry.2 = .error fault →
        result = .error fault := by
      intro fault hrow
      rw [Coingecko.rows_eq_error hbefore hrow] at hrows
      exact Market.result_quotations_of_error hids hrows
    constructor
    · intro hprice
      obtain ⟨reason, hreason⟩ := Coingecko.row_of_no_price hprice now entry.1
      exact ⟨reason, hfault _ hreason⟩
    · intro hprice htime
      obtain ⟨price, hprice⟩ := Option.isSome_iff_exists.mp hprice
      exact hfault _ (Coingecko.row_of_endless_time hprice htime now _)

/-! ## Two spellings of a coin -/

/-- A row with nothing but a price. -/
def pricedRow (price : Json.Script) : Json :=
  .object [(.ofText "usd", price.content)]

theorem content_polkadotDocument (price : Json.Script) :
    (polkadotDocument price).content = .object [(.ofText "polkadot", pricedRow price)] := by
  simp only [polkadotDocument, oneField, pricedRow, Json.Document.content, Json.Script.content,
    Json.Members.contents, List.foldl_cons, List.foldl_nil, setEntry, Json.Quoted.content_ofPlain]

theorem part_pricedRow (price : Json.Script) (name : String) :
    Coingecko.part (pricedRow price) name = if "usd" = name then price.content else .null := by
  by_cases hname : "usd" = name
  · simp [Coingecko.part, pricedRow, Json.field?, Json.fields, Json.member?, valueAt?, hname]
  · simp [Coingecko.part, pricedRow, Json.field?, Json.fields, Json.member?, valueAt?, hname,
      Spelling.ofText_inj]

theorem exists_priceOf?_longPrice :
    ∃ price, Coingecko.priceOf? (pricedRow longPrice) = some price := by
  obtain ⟨number, hspelled, -⟩ := spelled_of_writes writes_longPrice
  refine ⟨number, ?_⟩
  rw [Coingecko.priceOf?, part_pricedRow, if_pos rfl, spelled_eq_iff.mp hspelled]

theorem readable_pricedRow : Coingecko.Readable (pricedRow longPrice) where
  price := Option.isSome_iff_exists.mpr exists_priceOf?_longPrice
  time := by
    rintro ⟨time, htime, -⟩
    rw [Coingecko.timeOf?, part_pricedRow, if_neg (by decide)] at htime
    cases htime

/-- Two spellings of a coin, and a coin that is not in the answer. -/
def coinsAndAnother : List Asset :=
  [⟨"Polkadot", "DOT"⟩, ⟨"POLKADOT", "dot"⟩, ⟨"Kusama", "KSM"⟩]

theorem symbols_coinsAndAnother :
    (coinsAndAnother.filterMap (Market.quotationOf? 0
      [(.ofText "polkadot", pricedRow longPrice)])).map Quotation.symbol = ["DOT", "dot"] := by
  obtain ⟨price, hprice⟩ := exists_priceOf?_longPrice
  have hcoin : ∀ asset, Market.id? asset = some "polkadot" →
      Market.quotationOf? 0 [(.ofText "polkadot", pricedRow longPrice)] asset =
        some ⟨asset.symbol, asset.symbol, some asset.blockchain, price,
          Coingecko.volumeOf (pricedRow longPrice), Coingecko.secondsOf 0 (pricedRow longPrice)⟩ := by
    intro asset hid
    have hrow : Market.rowOf? [(.ofText "polkadot", pricedRow longPrice)] asset =
        some (pricedRow longPrice) := by
      rw [Market.rowOf?, hid, Option.bind_some, Json.member?, valueAt?, if_pos rfl]
    rw [Market.quotationOf?, hrow, Option.bind_some, hprice]
    rfl
  have hother : Market.quotationOf? 0 [(.ofText "polkadot", pricedRow longPrice)]
      ⟨"Kusama", "KSM"⟩ = none := rfl
  rw [coinsAndAnother, List.filterMap_cons_some (hcoin _ (by decide)),
    List.filterMap_cons_some (hcoin _ (by decide)), List.filterMap_cons_none hother]
  rfl

theorem quotations_of_document_spellings :
    let web : Json.Script → Web := fun price _ => .ok ⟨200, (polkadotDocument price).text, 2⟩
    (∃ found, (Market.quotations (marketRows coinAndCurrency "key" (web longPrice) 0)
          coinsAndAnother).result = .ok found ∧
        (found.map Quotation.symbol).Perm ["DOT", "dot"]) ∧
      ∃ reason, (Market.quotations (marketRows coinAndCurrency "key" (web (.word .null)) 0)
          coinsAndAnother).result = .error (.protocol "coingecko" reason) := by
  intro web
  have hsome : ∃ asset ∈ coinsAndAnother, (Market.id? asset).isSome = true :=
    ⟨_, List.mem_cons_self, by decide⟩
  have hanswer : ∀ price : Json.Script, price.depth = 0 → ∀ endpoint : Endpoint,
      endpoint.answer (.ok ⟨200, (polkadotDocument price).text, 2⟩) =
        .ok (.object [(.ofText "polkadot", pricedRow price)]) := by
    intro price hdepth endpoint
    rw [← content_polkadotDocument]
    refine answer_document (polkadotDocument price) (by decide) ?_
    simp [polkadotDocument, oneField, Json.Script.depth, Json.Members.depth, hdepth]
  constructor
  · obtain ⟨found, hfound, hperm, -⟩ := (quotations_of_document coinAndCurrency "key"
      (web longPrice) 0 coinsAndAnother _ hsome (hanswer longPrice rfl _)).1
      (by simpa using readable_pricedRow)
    refine ⟨found, hfound, ?_⟩
    rw [← symbols_coinsAndAnother]
    exact hperm.map Quotation.symbol
  · exact ((quotations_of_document coinAndCurrency "key" (web (.word .null)) 0 coinsAndAnother _
      hsome (hanswer (.word .null) rfl _)).2 [] _ [] rfl (by simp)).1 rfl

end Pipeline

end PriceBoard
