import PriceBoard.Proofs.Pipeline.Reachable
import PriceBoard.Proofs.Provider.Written

/-!
# From the wire to the board

A number in an answer becomes a figure, the figure becomes the price of a quotation, and the price
becomes that of a record.  `price_of_answer` says that nothing is lost on the way: what the board
shows depends on the number that is written alone, and it is this number in units, rounded down,
whether it was written as a number or as a text and with however many digits.
-/

namespace PriceBoard.Pipeline

open Provider CoinInfo

variable {settings : Settings} {occasion : Occasion} {asset : Asset} {quotation : Quotation}
  {literal : Json.Literal} {status : ℤ} {key id ticker : String}

/-! ## What becomes of a price -/

/-- A priced coin is obtained at its price. -/
theorem obtained_of_coin (hcompleted : Completed settings occasion)
    (hstatus : Endpoint.isFailure status = false)
    (answer : Coingecko.PricedAnswer occasion.now id literal)
    (hreply : ∀ request ∈ ((build settings).quoteOn occasion).requests, request.route = .market →
      occasion.web request = .ok (answer.reply status))
    (hasset : asset ∈ settings.currencies) (howned : marketOwned settings asset = true)
    (hid : Market.id? asset = some id) :
    ∃ quotation, obtainedOn? settings occasion asset = some quotation ∧
      quotation.price.value = literal.value ∧ keyOf quotation = asset := by
  obtain ⟨key, hkey⟩ : ∃ key, settings.marketKey = some key := by
    cases hkey : settings.marketKey with
    | none => simp [marketOwned, hkey] at howned
    | some key => exact ⟨key, rfl⟩
  rw [hcompleted.requests_quoteOn] at hreply
  obtain ⟨rows, figures, hrows, hfigures, hvalue⟩ := Coingecko.exists_rows answer
  let upstream := answersIn settings occasion.web occasion.now settings.currencies
  have hids : Market.idsOf ((distinct settings.currencies).filter (marketOwned settings)) ≠ [] := by
    rw [ne_eq, Market.idsOf_eq_nil_iff]
    intro hnone
    have hmem : asset ∈ (distinct settings.currencies).filter (marketOwned settings) := by
      simp [hasset, howned]
    cases (hnone asset hmem).symm.trans hid
  have hupstream : upstream .market = .ok (answer.reply status) :=
    answersIn_market hkey hids hreply
  have hanswer : marketAnswer settings key upstream occasion.now = .ok rows := by
    rw [marketAnswer, hupstream, Coingecko.PricedAnswer.reply,
      answer_document answer.document hstatus answer.depth_le]
    exact hrows
  have hrow : valueAt? (Spelling.ofText id) (marketTable settings key upstream occasion.now) =
      some (.ofFigures figures) := by
    simp only [marketTable, hanswer, Except.toOption, Option.getD_some]
    rw [valueAt?_map, hfigures, Option.map_some]
  obtain ⟨quotation, hquotation, hprice⟩ := Market.exists_quoteIn? hid hrow
    (plain_marketTable _ (mem_of_valueAt? hrow)) rfl
  refine ⟨quotation, ?_, by rw [hprice, hvalue], (keyOf_market hquotation).1⟩
  rw [obtainedOn?, obtained?_of_marketOwned howned, marketQuote?, hkey, Option.bind_some]
  exact hquotation

/-- An object with one field, whose name has nothing to escape. -/
def oneField (name : String) (hplain : name.toList.all Json.isUnescaped = true)
    (value : Json.Script) : Json.Script :=
  .object [] (.last (.ofPlain name hplain) [] [] value [])

theorem field?_oneField (name : String) (hplain : name.toList.all Json.isUnescaped = true)
    (value : Json.Script) (other : String) :
    (oneField name hplain value).field? other = if name = other then some value else none := by
  simp [oneField, Json.Script.field?, Json.Quoted.content_ofPlain, Spelling.ofText_inj]

theorem depth_of_writes {price : Json.Script} (hwrites : price.Writes literal) :
    price.depth = 0 := by
  cases hwrites <;> rfl

/-- The document that has the price of the Polkadot coin and nothing else. -/
def polkadotDocument (price : Json.Script) : Json.Document :=
  ⟨[], oneField "polkadot" (by decide) (oneField "usd" (by decide) price), []⟩

def polkadotAnswer (now : ℤ) {price : Json.Script} (hwrites : price.Writes literal) :
    Coingecko.PricedAnswer now "polkadot" literal where
  document := polkadotDocument price
  deepest := 2
  row := oneField "usd" (by decide) price
  price := price
  depth_le := by
    simp [polkadotDocument, oneField, Json.Script.depth, Json.Members.depth,
      depth_of_writes hwrites]
  row_eq := by simp [polkadotDocument, field?_oneField]
  price_eq := by simp [field?_oneField]
  writes := hwrites
  time_read := by
    have hmissing : (oneField "usd" (by decide) price).content.field? "last_updated_at" = none := by
      simp [Json.field?_content, field?_oneField]
    rw [hmissing]
    cases hseconds : (Numeral.ofInt now).truncate? with
    | none =>
        have hlarge : Numeral.exponentCeiling ≤ 0 :=
          ((Numeral.truncate?_eq_none_iff _).mp hseconds).2
        exact absurd hlarge (by decide)
    | some seconds => exact ⟨seconds, by simp [figureOr, wholeSeconds, hseconds]⟩
  others_read := by
    intro entry hentry hname
    have hentry : entry.1 = .ofText "polkadot" := by
      simp only [polkadotDocument, oneField, Json.Document.content, Json.Script.content,
        Json.Members.contents, Json.fields, List.foldl_cons, List.foldl_nil, setEntry,
        List.mem_singleton] at hentry
      rw [hentry, Json.Quoted.content_ofPlain]
    exact absurd hentry hname

/-- The row of the euro with the price as the bid. -/
def euroRow (price : Json.Script) : Json.Script :=
  .object [] (.cons (.ofPlain "ticker" (by decide)) [] [] (.text (.ofPlain "C:EURUSD" (by decide)))
    [] [] (.last (.ofPlain "lastQuote" (by decide)) [] [] (oneField "b" (by decide) price) []))

theorem field?_euroRow (price : Json.Script) (name : String) :
    (euroRow price).field? name =
      if "lastQuote" = name then some (oneField "b" (by decide) price)
      else if "ticker" = name then some (.text (.ofPlain "C:EURUSD" (by decide))) else none := by
  by_cases hname : "lastQuote" = name <;>
    simp [euroRow, Json.Script.field?, Json.Quoted.content_ofPlain, Spelling.ofText_inj, hname]

/-- The document that has the bid for the euro and nothing else. -/
def euroDocument (price : Json.Script) : Json.Document :=
  ⟨[], oneField "tickers" (by decide) (.array [] (.last (euroRow price) [])), []⟩

def euroAnswer {price : Json.Script} (hwrites : price.Writes literal) :
    Polygon.PricedAnswer "C:EURUSD" literal where
  document := euroDocument price
  deepest := 4
  gap := []
  items := .last (euroRow price) []
  before := []
  row := euroRow price
  after := []
  name := .ofPlain "C:EURUSD" (by decide)
  quote := oneField "b" (by decide) price
  price := price
  depth_le := by
    simp [euroDocument, oneField, euroRow, Json.Script.depth, Json.Members.depth, Json.Items.depth,
      depth_of_writes hwrites]
  status_good := by
    have hmissing : (euroDocument price).script.content.field? "status" = none := by
      simp [Json.field?_content, euroDocument, field?_oneField]
    rw [Json.field?] at hmissing
    simp only [Json.Document.content, Polygon.statusWord, hmissing]
    decide
  rows_eq := by simp [euroDocument, field?_oneField]
  items_eq := rfl
  name_eq := by simp [field?_euroRow]
  ticker_eq := Json.Quoted.content_ofPlain _ _
  quote_eq := by simp [field?_euroRow]
  price_eq := by simp [field?_oneField]
  writes := hwrites
  time_read := by
    have hmissing : (euroRow price).content.field? "updated" = none := by
      simp [Json.field?_content, field?_euroRow]
    rw [hmissing]
    exact ⟨none, rfl⟩
  others_read := by simp
  last := by simp

/-! ## A long number and a tiny one -/

/-- `7.1234567890129999999999999999999`: with the digits to which decimals are rounded elsewhere it
would be one unit more. -/
def longNumber : Json.Literal :=
  ⟨false, 7, [], [1, 2, 3, 4, 5, 6, 7, 8, 9, 0, 1, 2] ++ List.replicate 19 9, none⟩

theorem numeral_longNumber :
    longNumber.numeral = ⟨false, 71234567890129999999999999999999, -31⟩ := by
  decide

theorem value_longNumber :
    longNumber.value = 71234567890129999999999999999999 / 10 ^ 31 := by
  rw [← Json.Literal.value_numeral, numeral_longNumber]
  norm_num [Numeral.value, Numeral.signedCoefficient]

theorem inRange_longNumber : Decimal.inRange longNumber.numeral = true := by
  have hcount : digitCount 71234567890129999999999999999999 = 32 := by
    simp [digitCount]
  rw [numeral_longNumber]
  simp [Decimal.inRange, Numeral.isZero, Numeral.adjusted, hcount, Decimal.highestAdjusted,
    Decimal.lowestExponent]

/-- The number `1e-13`. -/
def tinyNumber : Json.Literal :=
  ⟨false, 1, [], [], some ⟨false, some true, 1, [3]⟩⟩

theorem value_tinyNumber : tinyNumber.value = 1 / 10 ^ 13 := by
  have hnumeral : tinyNumber.numeral = ⟨false, 1, -13⟩ := by decide
  rw [← Json.Literal.value_numeral, hnumeral]
  norm_num [Numeral.value, Numeral.signedCoefficient]

theorem inRange_tinyNumber : Decimal.inRange tinyNumber.numeral = true := by
  have hcount : digitCount 1 = 1 := by simp [digitCount]
  have hnumeral : tinyNumber.numeral = ⟨false, 1, -13⟩ := by decide
  rw [hnumeral]
  simp [Decimal.inRange, Numeral.isZero, Numeral.adjusted, hcount, Decimal.highestAdjusted,
    Decimal.lowestExponent]

/-! ## Thirty-two digits -/

/-- The long number as a number. -/
def longPrice : Json.Script :=
  .number longNumber ⟨by decide, fun _ => inRange_longNumber, by decide⟩

/-- The long number as a text. -/
def longText : Json.Script :=
  .text (.ofPlain (String.ofList longNumber.letters) (by decide))

theorem writes_longPrice : longPrice.Writes longNumber :=
  .number _

theorem writes_longText : longText.Writes longNumber :=
  .text _ (Json.Quoted.content_ofPlain _ _) inRange_longNumber

/-- Settings with keys for both providers, a coin and a currency. -/
def coinAndCurrency : Settings :=
  { forexSettings with
    marketKey := some "key"
    currencies := [⟨"Polkadot", "DOT"⟩, ⟨"FIAT", "EUR-USD"⟩] }

end PriceBoard.Pipeline
