import PriceBoard.Proofs.Text.Spelling
import PriceBoard.Quotation

/-!
# Reported quotations

A report of a finite price and a finite supply at a whole number of seconds passes all checks of a
quotation (`report_of_finite`).
-/

namespace PriceBoard

theorem Checked.apply_eq_ok {α β : Type} {function : Checked (α → β)} {value : Checked α}
    {change : α → β} {content : α} (hfunction : function = .ok change)
    (hvalue : value = .ok content) : apply function value = .ok (change content) := by
  subst hfunction hvalue
  rfl

theorem Checked.of_apply_eq_ok {α β : Type} {function : Checked (α → β)} {value : Checked α}
    {result : β} (hresult : apply function value = .ok result) :
    ∃ change content, function = .ok change ∧ value = .ok content ∧ result = change content := by
  cases function with
  | error issues => cases value <;> cases hresult
  | ok change =>
      cases value with
      | error issues => cases hresult
      | ok content =>
          cases hresult
          exact ⟨change, content, rfl, rfl, rfl⟩

/-- The numeral that content is, if it is a whole number or a finite decimal. -/
def Json.finite? : Json → Option Numeral
  | .integer value => some (.ofInt value)
  | .decimal value => value.numeral?
  | _ => none

namespace Reader

variable {α : Type} {fields : Json.Fields} {name : String} {read : Reader α} {content : Json}
  {value : α}

theorem required_eq_ok (hmember : Json.member? name fields = some content)
    (hread : read content = .ok value) : required fields name read = .ok value := by
  simp only [required, hmember, hread]
  rfl

theorem withDefault_eq_ok (hmember : Json.member? name fields = some content)
    (hread : read content = .ok value) (absent : α) :
    withDefault fields name read absent = .ok value := by
  simp only [withDefault, hmember, hread]
  rfl

@[simp] theorem text_ofText (written : String) : text (.ofText written) = .ok written := by
  simp [text, spelling, Json.ofText, Except.map]

@[simp] theorem optional_text_ofText (written : String) :
    optional text (.ofText written) = .ok (some written) := by
  change (text (.ofText written)).map some = _
  rw [text_ofText]
  rfl

@[simp] theorem integer_integer (written : Int) : integer (.integer written) = .ok written := rfl

theorem decimal_of_finite {number : Numeral} (hcontent : content.finite? = some number) :
    decimal content = .ok number := by
  cases content with
  | integer value =>
      cases hcontent
      rfl
  | decimal value =>
      cases value with
      | finite value =>
          cases hcontent
          rfl
      | infinity negative => cases hcontent
      | nan negative signaling payload => cases hcontent
  | _ => cases hcontent

end Reader

open Checked Reader in
/-- A quotation has the names under which it was reported. -/
theorem Quotation.names_of_report {blockchain symbol : String} {price supply timestamp : Json}
    {quotation : Quotation}
    (hreport : report blockchain symbol price supply timestamp = .ok quotation) :
    quotation.blockchain = some blockchain ∧ quotation.symbol = symbol := by
  unfold report at hreport
  cases hcheck : check (Json.named
      [("symbol", .ofText symbol), ("name", .ofText symbol), ("blockchain", .ofText blockchain),
        ("price", price), ("supply", supply), ("timestamp", timestamp)]) with
  | error issues =>
      simp only [hcheck] at hreport
      cases hreport
  | ok found =>
      simp only [hcheck] at hreport
      cases hreport
      -- one step for each field, the last one first
      obtain ⟨_, _, hfive, -, rfl⟩ := of_apply_eq_ok hcheck
      obtain ⟨_, _, hfour, -, rfl⟩ := of_apply_eq_ok hfive
      obtain ⟨_, _, hthree, -, rfl⟩ := of_apply_eq_ok hfour
      obtain ⟨_, _, htwo, hblockchain, rfl⟩ := of_apply_eq_ok hthree
      obtain ⟨_, _, hone, -, rfl⟩ := of_apply_eq_ok htwo
      obtain ⟨_, _, hnone, hsymbol, rfl⟩ := of_apply_eq_ok hone
      cases hnone
      rw [withDefault_eq_ok rfl (optional_text_ofText blockchain) none] at hblockchain
      rw [required_eq_ok rfl (text_ofText symbol)] at hsymbol
      cases hblockchain
      cases hsymbol
      exact ⟨rfl, rfl⟩

open Checked Reader in
theorem Quotation.report_of_finite (blockchain symbol : String) {price supply : Json}
    {amount rest : Numeral} (hprice : price.finite? = some amount)
    (hsupply : supply.finite? = some rest) (timestamp : Int) :
    report blockchain symbol price supply (.integer timestamp) =
      .ok ⟨symbol, symbol, some blockchain, amount, rest, timestamp⟩ := by
  have hcheck : check (Json.named
      [("symbol", .ofText symbol), ("name", .ofText symbol), ("blockchain", .ofText blockchain),
        ("price", price), ("supply", supply), ("timestamp", .integer timestamp)]) =
      .ok ⟨symbol, symbol, some blockchain, amount, rest, timestamp⟩ := by
    -- one step for each field, in the order of the record
    refine apply_eq_ok (apply_eq_ok (apply_eq_ok (apply_eq_ok (apply_eq_ok (apply_eq_ok rfl ?_)
      ?_) ?_) ?_) ?_) ?_
    · exact required_eq_ok rfl (text_ofText symbol)
    · exact required_eq_ok rfl (text_ofText symbol)
    · exact withDefault_eq_ok rfl (optional_text_ofText blockchain) none
    · exact required_eq_ok rfl (decimal_of_finite hprice)
    · exact withDefault_eq_ok rfl (decimal_of_finite hsupply) .zero
    · exact required_eq_ok rfl rfl
  rw [report, hcheck]
  rfl

end PriceBoard
