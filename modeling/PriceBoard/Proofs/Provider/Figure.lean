import PriceBoard.Provider.Figure

/-!
# What figures can be

A figure that must be there is a numeral or a fault of the provider, and a figure that may be
missing is finite.  Content that spells a finite number is read as this number by both readers.
-/

namespace PriceBoard

theorem Decimal.isFinite_iff {value : Decimal} :
    value.isFinite = true ↔ ∃ number, value = .finite number := by
  cases value <;> simp [isFinite, numeral?]

namespace Provider

/-- A figure that must be there is read, or the fault is one of the provider. -/
theorem figure_kept (provider : String) (field : Spelling) (content : Json) :
    (∃ number, figure provider field content = .ok number) ∨
      ∃ reason, figure provider field content = .error (.protocol provider reason) := by
  unfold figure
  split
  · exact .inr ⟨_, rfl⟩
  · exact .inr ⟨_, rfl⟩
  · exact .inr ⟨_, rfl⟩
  · split
    · exact .inl ⟨_, rfl⟩
    · exact .inr ⟨_, rfl⟩
    · exact .inr ⟨_, rfl⟩

/-- A figure that may be missing is finite, if what takes its place is. -/
theorem isFinite_figureOr {absent : Decimal} (habsent : absent.isFinite = true) (content : Json) :
    (figureOr absent content).isFinite = true := by
  unfold figureOr
  split
  · exact habsent
  · exact habsent
  · split
    · exact habsent
    · split
      · assumption
      · exact habsent

/-! ## Spelled figures -/

variable {content : Json} {number : Numeral}

/-- What spells a numeral is not missing. -/
theorem figure_of_spelled (provider : String) (field : Spelling)
    (hcontent : spelled content = .ok (.finite number)) :
    figure provider field content = .ok number := by
  unfold figure
  split
  · cases hcontent
  · rename_i value
    cases value <;> cases hcontent
  · cases hcontent
  · simp only [hcontent]

theorem figureOr_of_spelled (absent : Decimal) (hcontent : spelled content = .ok (.finite number)) :
    figureOr absent content = .finite number := by
  unfold figureOr
  split
  · cases hcontent
  · cases hcontent
  · simp only [hcontent]
    rfl

end Provider

end PriceBoard
