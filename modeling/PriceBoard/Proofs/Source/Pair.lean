import PriceBoard.Proofs.Text.Split
import PriceBoard.Proofs.Text.Upper
import PriceBoard.Source.Fiat

/-!
# Pairs with the dollar

The symbol of a currency is a pair: its two parts around a hyphen, in which blanks and the case of
letters do not matter.  The currency is read from the first part, so that it is in upper case
(`upper_currency`), and the ticker that is asked for is written with its letters (`ticker_eq`).

Whoever compares whole symbols, regardless of case, takes a pair for that of its currency just if
there are no blanks in it: `upper_symbol_eq_iff`.

## Strategy

In upper case a symbol is its two parts, in upper case, around the hyphen (`upper_symbol`).
Trimming only leaves letters out, and no letter is lost in upper case, so that a part whose
upper-case form is that of its trimmed form is trimmed already.
-/

namespace PriceBoard.Fiat

variable {asset : Asset} {currency name : String}

/-! ## Parts -/

/-- An asset with a currency has two parts, which are the currency and the dollar when they are
trimmed and in upper case. -/
theorem exists_parts (hcurrency : sourceCurrency? asset = some currency) :
    ∃ first second, Text.splitWord '-' asset.symbol.toList = [first, second] ∧
      Text.upperWord (Text.trimWord Text.isBlank first) = currency.toList ∧
      Text.upperWord (Text.trimWord Text.isBlank second) = target.toList := by
  unfold sourceCurrency? at hcurrency
  split at hcurrency
  · split at hcurrency
    · rename_i first second hparts
      simp only [Option.ite_none_right_eq_some, Bool.and_eq_true, beq_iff_eq,
        Option.some.injEq] at hcurrency
      obtain ⟨⟨-, htarget⟩, hsource⟩ := hcurrency
      refine ⟨first, second, hparts, ?_, ?_⟩
      · rw [← hsource, currencyPart, String.toList_ofList]
      · rw [← htarget, currencyPart, String.toList_ofList]
    · cases hcurrency
  · cases hcurrency

/-- The currency of an asset is in upper case. -/
theorem upper_currency (hcurrency : sourceCurrency? asset = some currency) :
    Text.upper currency = currency := by
  obtain ⟨first, second, -, hfirst, -⟩ := exists_parts hcurrency
  rw [Text.upper, ← hfirst, Text.upperWord_upperWord, hfirst, String.ofList_toList]

/-- The ticker of a currency is written with its own letters. -/
theorem ticker_eq (hcurrency : sourceCurrency? asset = some currency) :
    Provider.Polygon.ticker currency target = "C:" ++ currency ++ "USD" := by
  have htarget : Text.upper target = "USD" := rfl
  rw [Provider.Polygon.ticker, upper_currency hcurrency, htarget]

/-- A ticker tells its currency. -/
theorem currency_eq_of_ticker_eq {other : String}
    (hsame : "C:" ++ currency ++ "USD" = "C:" ++ other ++ "USD") : currency = other := by
  have hletters := congrArg String.toList hsame
  simpa [String.toList_inj] using hletters

/-! ## Whole symbols -/

/-- There are no blanks around the parts of the symbol. -/
def IsUnspaced (asset : Asset) : Prop :=
  ∀ part ∈ Text.splitWord '-' asset.symbol.toList, Text.trimWord Text.isBlank part = part

instance : DecidablePred IsUnspaced := fun asset =>
  inferInstanceAs (Decidable
    (∀ part ∈ Text.splitWord '-' asset.symbol.toList, Text.trimWord Text.isBlank part = part))

/-- A pair in upper case. -/
theorem upper_symbol {first second : List Char}
    (hparts : Text.splitWord '-' asset.symbol.toList = [first, second]) :
    (Text.upper asset.symbol).toList =
      Text.upperWord first ++ '-' :: Text.upperWord second ∧ '-' ∉ Text.upperWord first := by
  obtain ⟨hsymbol, hfree, -⟩ := Text.eq_append_of_splitWord hparts
  have hhyphen : Text.upperWord ['-'] = ['-'] := rfl
  constructor
  · rw [Text.upper, String.toList_ofList, hsymbol, ← List.singleton_append, Text.upperWord_append,
      Text.upperWord_append, hhyphen, List.singleton_append]
  · intro hmem
    exact hfree (Text.mem_of_mem_upperWord (by decide) hmem)

/-- A pair whose name is that of another currency has more letters than its own currency. -/
theorem sublist_of_upper_symbol (hcurrency : sourceCurrency? asset = some currency)
    (hname : '-' ∉ name.toList) (hsymbol : Text.upper asset.symbol = name ++ "-" ++ target) :
    currency.toList.Sublist name.toList := by
  obtain ⟨first, second, hparts, hfirst, -⟩ := exists_parts hcurrency
  obtain ⟨hupper, hfree⟩ := upper_symbol hparts
  have hletters : Text.upperWord first ++ '-' :: Text.upperWord second =
      name.toList ++ '-' :: target.toList := by
    rw [← hupper, hsymbol]
    simp
  obtain ⟨hsame, -⟩ := (Text.append_cons_inj hfree hname).mp hletters
  rw [← hfirst, ← hsame]
  exact Text.sublist_upperWord (Text.sublist_trimWord _ _)

/-- A pair has the name of its currency just if there are no blanks in it. -/
theorem upper_symbol_eq_iff (hcurrency : sourceCurrency? asset = some currency) :
    Text.upper asset.symbol = currency ++ "-" ++ target ↔ IsUnspaced asset := by
  obtain ⟨first, second, hparts, hfirst, hsecond⟩ := exists_parts hcurrency
  obtain ⟨hupper, hfree⟩ := upper_symbol hparts
  have hcurrencyFree : '-' ∉ currency.toList := by
    rw [← hfirst]
    intro hmem
    exact hfree ((Text.sublist_upperWord (Text.sublist_trimWord _ _)).subset hmem)
  have htrimmed : ∀ part : List Char,
      Text.upperWord part = Text.upperWord (Text.trimWord Text.isBlank part) ↔
        Text.trimWord Text.isBlank part = part := by
    intro part
    constructor
    · intro hsame
      -- no letter vanishes in upper case, so that none can have been left out
      exact Text.eq_of_sublist_of_upperWord (Text.sublist_trimWord _ _) hsame.symm
    · intro hsame
      rw [hsame]
  calc Text.upper asset.symbol = currency ++ "-" ++ target
      ↔ Text.upperWord first ++ '-' :: Text.upperWord second =
          currency.toList ++ '-' :: target.toList := by
        rw [← String.toList_inj, hupper]
        simp
    _ ↔ Text.upperWord first = currency.toList ∧ Text.upperWord second = target.toList :=
        Text.append_cons_inj hfree hcurrencyFree
    _ ↔ Text.trimWord Text.isBlank first = first ∧ Text.trimWord Text.isBlank second = second := by
        rw [← hfirst, ← hsecond, htrimmed, htrimmed]
    _ ↔ IsUnspaced asset := by
        simp [IsUnspaced, hparts]

end PriceBoard.Fiat
