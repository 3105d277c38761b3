import PriceBoard.Proofs.Asset.Universe
import PriceBoard.Proofs.Entries
import PriceBoard.Proofs.Quotation
import PriceBoard.Settings

/-!
# Blanks in the environment

A variable is used without the blanks around its value, and not at all if there is nothing else in
it: that is its `usedValue?`.  Keys and the other variables come to it in different ways, since a key
that is not set is a field all the same (`usableKey_withDefault`, `member?_fieldsOf`).

The list of assets is read as it is written.  Blanks around it change what a message quotes, but
neither its assets nor whether it has any (`toOption_currenciesOfText_padded`).

The settings see no more of the environment than the values that are used and that list
(`seen_ofEnvironment_congr`).  So a blank variable is one that is not set, and blanks around a value
change nothing that is read and no place where something is wrong (`ofEnvironment_upToBlanks`).
-/

namespace PriceBoard

/-! ## Checked values up to what their issues quote -/

namespace Checked

variable {α β γ : Type}

/-- The value, or what is to be seen of the issues. -/
def seen (look : Issue → γ) (value : Checked α) : Except (List γ) α :=
  value.mapError fun issues => issues.map look

theorem seen_id (value : Checked α) : value.seen id = value := by
  cases value <;> simp [seen, Except.mapError]

theorem seen_apply (look : Issue → γ) (function : Checked (α → β)) (value : Checked α) :
    (apply function value).seen look =
      match function.seen look, value.seen look with
      | .ok function, .ok value => .ok (function value)
      | .ok _, .error found => .error found
      | .error found, .ok _ => .error found
      | .error first, .error second => .error (first ++ second) := by
  cases function <;> cases value <;> simp [seen, apply, Except.mapError]

/-- What is seen of two parts tells what is seen of the whole. -/
theorem seen_apply_congr {look : Issue → γ} {function other : Checked (α → β)}
    {value another : Checked α} (hfunction : function.seen look = other.seen look)
    (hvalue : value.seen look = another.seen look) :
    (apply function value).seen look = (apply other another).seen look := by
  rw [seen_apply, seen_apply, hfunction, hvalue]

end Checked

/-- The path to an issue and the short name of the problem, but not what was found there. -/
def Issue.outline (issue : Issue) : List Step × String :=
  (issue.path, issue.problem.code)

theorem Reader.withDefault_congr {α : Type} {fields others : Json.Fields} {name : String}
    (hsame : Json.member? name fields = Json.member? name others) (read : Reader α) (absent : α) :
    Reader.withDefault fields name read absent = Reader.withDefault others name read absent := by
  rw [Reader.withDefault, Reader.withDefault, hsame]

namespace Settings

variable {environment others : List (String × String)} {name : String} {lead trail : String}

/-! ## What is used of a variable -/

/-- The environment without the variable. -/
def unset (name : String) (environment : List (String × String)) : List (String × String) :=
  environment.filter fun entry => entry.1 ≠ name

theorem valueAt?_unset (key name : String) (environment : List (String × String)) :
    valueAt? key (unset name environment) =
      if name = key then none else valueAt? key environment := by
  induction environment with
  | nil => simp [unset, valueAt?]
  | cons entry rest ih =>
      by_cases hentry : entry.1 = name
      · have hskip : unset name (entry :: rest) = unset name rest := by simp [unset, hentry]
        rw [hskip, ih, valueAt?, hentry]
        split <;> rfl
      · have hkeep : unset name (entry :: rest) = entry :: unset name rest := by
          simp [unset, hentry]
        rw [hkeep, valueAt?, ih, valueAt?]
        by_cases hkey : name = key
        · subst hkey
          simp [hentry]
        · rw [if_neg hkey, if_neg hkey]

/-- The value of the variable without the blanks around it, if there is anything else. -/
def usedValue? (environment : List (String × String)) (name : String) : Option String :=
  usableKey (valueAt? name environment)

theorem usableKey_of_isBlankText {value : String} (hblank : Text.isBlankText value = true) :
    usableKey (some value) = none := by
  simp [usableKey, hblank]

theorem usableKey_padded (hlead : Text.isBlankText lead = true)
    (htrail : Text.isBlankText trail = true) (value : String) :
    usableKey (some (lead ++ value ++ trail)) = usableKey (some value) := by
  have hblank : Text.isBlankText (lead ++ value ++ trail) = Text.isBlankText value := by
    rw [Text.isBlankText] at hlead htrail
    simp [Text.isBlankText, hlead, htrail]
  have hstrip : Text.strip (lead ++ value ++ trail) = Text.strip value := by
    rw [Text.strip, String.toList_append, String.toList_append,
      Text.trimWord_padded (List.all_eq_true.mp hlead) (List.all_eq_true.mp htrail), Text.strip]
  simp [usableKey, hblank, hstrip]

/-- A blank value is not used, like that of a variable that is not set. -/
theorem usedValue?_blank {value : String} (hblank : Text.isBlankText value = true) :
    usedValue? (setEntry name value environment) = usedValue? (unset name environment) := by
  funext key
  rw [usedValue?, usedValue?, valueAt?_setEntry, valueAt?_unset]
  split
  · exact usableKey_of_isBlankText hblank
  · rfl

theorem usedValue?_padded {value : String} (hlead : Text.isBlankText lead = true)
    (htrail : Text.isBlankText trail = true) (hvalue : valueAt? name environment = some value) :
    usedValue? (setEntry name (lead ++ value ++ trail) environment) = usedValue? environment := by
  funext key
  rw [usedValue?, usedValue?, valueAt?_setEntry]
  split
  · rename_i hname
    rw [← hname, hvalue]
    exact usableKey_padded hlead htrail value
  · rfl

/-! ## What the fields hold -/

/-- The variables that hold keys. -/
def keyVariables : List String :=
  ["CG_API_KEY", "PG_API_KEY"]

theorem strippedField?_eq (environment : List (String × String)) (name : String) :
    strippedField? environment name =
      (usedValue? environment name).map fun value => (name, .ofText value) := by
  rw [strippedField?, usedValue?, usableKey]
  cases valueAt? name environment with
  | none => rfl
  | some value => cases hblank : Text.isBlankText value <;> simp [hblank]

theorem valueAt?_filterMap_strippedField? (name : String) (names : List String) :
    valueAt? name (names.filterMap (strippedField? environment)) =
      if name ∈ names then (usedValue? environment name).map .ofText else none := by
  induction names with
  | nil => rfl
  | cons first rest ih =>
      rw [List.filterMap_cons, strippedField?_eq]
      by_cases hname : first = name
      · subst hname
        cases hused : usedValue? environment first with
        | none => simp [ih, hused]
        | some value => simp [valueAt?]
      · have hother : name ≠ first := fun heq => hname heq.symm
        cases usedValue? environment first <;> simp [valueAt?, ih, hname, hother]

theorem member?_named (name : String) (fields : List (String × Json)) :
    Json.member? name (Json.named fields) = valueAt? name fields := by
  induction fields with
  | nil => rfl
  | cons field rest ih =>
      rw [Json.named, Json.member?] at ih
      simp [Json.named, Json.member?, valueAt?, Spelling.ofText_inj, ih]

theorem member?_fieldsOf (hname : name ∈ strippedVariables) :
    Json.member? name (fieldsOf environment) = (usedValue? environment name).map .ofText := by
  have hothers : ∀ name ∈ strippedVariables, "SUPPORTED_CURRENCIES" ≠ name ∧
      "CG_API_KEY" ≠ name ∧ "PG_API_KEY" ≠ name := by decide
  obtain ⟨hlist, hmarket, hforex⟩ := hothers name hname
  rw [fieldsOf, member?_named]
  simp [valueAt?, keyField, hlist, hmarket, hforex, valueAt?_filterMap_strippedField?, hname]

open Reader in
theorem usableKey_withDefault (hname : name ∈ keyVariables) :
    (withDefault (fieldsOf environment) name (optional text) none).map usableKey =
      .ok (usedValue? environment name) := by
  have hmember : Json.member? name (fieldsOf environment) =
      some ((valueAt? name environment).elim .null .ofText) := by
    rw [fieldsOf, member?_named]
    have hnames : name = "CG_API_KEY" ∨ name = "PG_API_KEY" := by simpa [keyVariables] using hname
    rcases hnames with rfl | rfl <;> simp [valueAt?, keyField]
  rw [usedValue?]
  cases hvalue : valueAt? name environment with
  | none =>
      have hnull : optional text .null = .ok none := rfl
      rw [hvalue] at hmember
      rw [withDefault_eq_ok hmember hnull]
      rfl
  | some value =>
      rw [hvalue] at hmember
      rw [withDefault_eq_ok hmember (optional_text_ofText value)]
      rfl

/-! ## The list of assets -/

/-- What the variable with the list of assets is read as. -/
def currenciesOf (environment : List (String × String)) : Checked (List Asset) :=
  checkCurrencies (.ofText ((valueAt? "SUPPORTED_CURRENCIES" environment).getD defaultCurrencies))

theorem currenciesIn_fieldsOf (environment : List (String × String)) :
    currenciesIn (fieldsOf environment) = currenciesOf environment := by
  have hmember : Json.member? "SUPPORTED_CURRENCIES" (fieldsOf environment) =
      some (.ofText ((valueAt? "SUPPORTED_CURRENCIES" environment).getD defaultCurrencies)) := by
    rw [fieldsOf, member?_named, valueAt?, if_pos rfl]
  rw [currenciesIn, hmember]
  rfl

theorem checkCurrencies_ofText (written : String) :
    checkCurrencies (.ofText written) = Checked.here (.ofText written)
      ((currenciesOfText written).mapError fun fault => .refused fault.message) := by
  rw [Json.ofText, checkCurrencies, Spelling.text_ofText]

theorem checkCurrencies_eq_ok {written : String} {assets : List Asset}
    (hread : currenciesOfText written = .ok assets) :
    checkCurrencies (.ofText written) = .ok assets := by
  rw [checkCurrencies_ofText, hread]
  rfl

/-- Nothing is wrong with the default list. -/
theorem not_isMalformed_default :
    ∀ item ∈ Asset.writtenItems defaultCurrencies, ¬ Asset.IsMalformed item := by
  -- letters are computed with in lists, since texts are slow to take apart
  have hletters : ∀ first second third : List Char,
      ((Text.splitWord ',' (first ++ second ++ third)).all fun item =>
        Asset.OnlyBlanks item ∨ ¬ Asset.IsMalformed item) = true →
      ∀ item ∈ Asset.writtenItems (String.ofList first ++ String.ofList second ++
        String.ofList third), ¬ Asset.IsMalformed item := by
    intro first second third hitems item hitem
    rw [Asset.writtenItems_eq, String.toList_append, String.toList_append, String.toList_ofList,
      String.toList_ofList, String.toList_ofList, List.mem_filter] at hitem
    have hfine := of_decide_eq_true (List.all_eq_true.mp hitems item hitem.1)
    exact hfine.resolve_left (of_decide_eq_true hitem.2)
  unfold defaultCurrencies
  exact hletters _ _ _ (by decide +kernel)

theorem exists_parseUniverse_default :
    ∃ assets, Asset.parseUniverse defaultCurrencies = .ok assets := by
  cases hread : Asset.parseUniverse defaultCurrencies with
  | ok assets => exact ⟨assets, rfl⟩
  | error fault =>
      obtain ⟨item, hitem, hmalformed⟩ :=
        Asset.exists_parseUniverse_eq_error_iff.mp ⟨fault, hread⟩
      exact absurd hmalformed (not_isMalformed_default item hitem)

/-- No list and a blank one are read as the default list. -/
theorem currenciesOfText_default :
    currenciesOfText defaultCurrencies = Asset.parseUniverse defaultCurrencies := by
  rw [currenciesOfText]
  cases Asset.parseUniverse defaultCurrencies with
  | error fault => rfl
  | ok assets => cases assets <;> rfl

theorem currenciesOfText_of_isBlankText {written : String}
    (hblank : Text.isBlankText written = true) :
    currenciesOfText written = Asset.parseUniverse defaultCurrencies := by
  rw [currenciesOfText, Asset.parseUniverse_of_isBlankText hblank]
  cases Asset.parseUniverse defaultCurrencies <;> rfl

theorem currenciesOf_blank {blanks : String} (hblank : Text.isBlankText blanks = true) :
    currenciesOf (setEntry name blanks environment) = currenciesOf (unset name environment) := by
  rw [currenciesOf, currenciesOf, valueAt?_setEntry, valueAt?_unset]
  by_cases hname : name = "SUPPORTED_CURRENCIES"
  · obtain ⟨assets, hassets⟩ := exists_parseUniverse_default
    rw [if_pos hname, if_pos hname, Option.getD_some, Option.getD_none,
      checkCurrencies_eq_ok ((currenciesOfText_of_isBlankText hblank).trans hassets),
      checkCurrencies_eq_ok (currenciesOfText_default.trans hassets)]
  · rw [if_neg hname, if_neg hname]

/-- Blanks around a list change neither its assets nor whether it has any. -/
theorem toOption_currenciesOfText_padded (hlead : Text.isBlankText lead = true)
    (htrail : Text.isBlankText trail = true) (written : String) :
    (currenciesOfText (lead ++ written ++ trail)).toOption =
      (currenciesOfText written).toOption := by
  have hread := (Asset.toOption_parseUniverse_append htrail (lead ++ written)).trans
    (Asset.toOption_parseUniverse_prepend hlead written)
  rw [currenciesOfText, currenciesOfText, toOption_bind, toOption_bind, hread]

/-- A list that is refused is one issue, whatever the message quotes. -/
theorem seen_outline_checkCurrencies (step : Step) (written : String) :
    (Checked.under step (checkCurrencies (.ofText written))).seen Issue.outline =
      (currenciesOfText written).toOption.elim (.error [([step], "value_error")]) .ok := by
  rw [checkCurrencies_ofText]
  cases currenciesOfText written <;> rfl

theorem seen_outline_currenciesOf_padded {value : String} (hlead : Text.isBlankText lead = true)
    (htrail : Text.isBlankText trail = true) (hvalue : valueAt? name environment = some value)
    (step : Step) :
    (Checked.under step (currenciesOf
        (setEntry name (lead ++ value ++ trail) environment))).seen Issue.outline =
      (Checked.under step (currenciesOf environment)).seen Issue.outline := by
  rw [currenciesOf, currenciesOf, valueAt?_setEntry]
  by_cases hname : name = "SUPPORTED_CURRENCIES"
  · rw [if_pos hname, ← hname, hvalue, Option.getD_some, Option.getD_some,
      seen_outline_checkCurrencies, seen_outline_checkCurrencies,
      toOption_currenciesOfText_padded hlead htrail]
  · rw [if_neg hname]

/-! ## The settings -/

open Checked Reader in
/-- What is seen of the settings depends on what is seen of their fields. -/
theorem seen_check_congr {γ : Type} {look : Issue → γ} {fields others : Json.Fields}
    (hstripped : ∀ name ∈ strippedVariables,
      Json.member? name fields = Json.member? name others)
    (hkeys : ∀ name ∈ keyVariables,
      (withDefault fields name (optional text) none).map usableKey =
        (withDefault others name (optional text) none).map usableKey)
    (hcurrencies : (under (.field "SUPPORTED_CURRENCIES") (currenciesIn fields)).seen look =
      (under (.field "SUPPORTED_CURRENCIES") (currenciesIn others)).seen look) :
    (check fields).seen look = (check others).seen look := by
  have hfield : ∀ {α : Type}, ∀ name ∈ strippedVariables, ∀ (read : Reader α) (absent : α),
      (withDefault fields name read absent).seen look =
        (withDefault others name read absent).seen look :=
    fun name hname read absent =>
      congrArg _ (withDefault_congr (hstripped name hname) read absent)
  have hkey : ∀ name ∈ keyVariables,
      seen look ((withDefault fields name (optional text) none).map usableKey) =
        seen look ((withDefault others name (optional text) none).map usableKey) :=
    fun name hname => congrArg _ (hkeys name hname)
  rw [check, check]
  refine seen_apply_congr ?_ (hfield "HTTP_TIMEOUT_SECONDS" (by decide) _ _)
  refine seen_apply_congr ?_ (hfield "ENABLE_BRL_CROSS_RATE" (by decide) _ _)
  refine seen_apply_congr ?_ (hfield "AMPLITUDE_SQUID_URL" (by decide) _ _)
  refine seen_apply_congr ?_ (hfield "BINANCE_HOST_URL" (by decide) _ _)
  refine seen_apply_congr ?_ (hfield "PG_HOST_URL" (by decide) _ _)
  refine seen_apply_congr ?_ (hkey "PG_API_KEY" (by decide))
  refine seen_apply_congr ?_ (hfield "CG_HOST_URL" (by decide) _ _)
  refine seen_apply_congr ?_ (hkey "CG_API_KEY" (by decide))
  refine seen_apply_congr ?_ hcurrencies
  exact seen_apply_congr rfl (hfield "UPDATE_INTERVAL_SECONDS" (by decide) _ _)

/-- The environment matters by the values that are used and by the list of assets. -/
theorem seen_ofEnvironment_congr {γ : Type} {look : Issue → γ}
    (hused : usedValue? environment = usedValue? others)
    (hcurrencies :
      (Checked.under (.field "SUPPORTED_CURRENCIES") (currenciesOf environment)).seen look =
        (Checked.under (.field "SUPPORTED_CURRENCIES") (currenciesOf others)).seen look) :
    (ofEnvironment environment).seen look = (ofEnvironment others).seen look := by
  refine seen_check_congr (fun name hname => ?_) (fun name hname => ?_) ?_
  · rw [member?_fieldsOf hname, member?_fieldsOf hname, hused]
  · rw [usableKey_withDefault hname, usableKey_withDefault hname, hused]
  · rw [currenciesIn_fieldsOf, currenciesIn_fieldsOf]
    exact hcurrencies

/-- **Variables are read up to blanks.**  To set a variable to blanks is to unset it.  With blanks put
around the value of a variable the settings are the same, and if there are none, the same fields have
the same problems; only what the messages quote may differ. -/
theorem ofEnvironment_upToBlanks (environment : List (String × String)) (name : String) :
    (∀ blanks, Text.isBlankText blanks = true →
      ofEnvironment (setEntry name blanks environment) = ofEnvironment (unset name environment)) ∧
    ∀ value, valueAt? name environment = some value →
      ∀ lead trail, Text.isBlankText lead = true → Text.isBlankText trail = true →
        (ofEnvironment (setEntry name (lead ++ value ++ trail) environment)).seen Issue.outline =
          (ofEnvironment environment).seen Issue.outline := by
  constructor
  · intro blanks hblank
    have hsame : (ofEnvironment (setEntry name blanks environment)).seen id =
        (ofEnvironment (unset name environment)).seen id :=
      seen_ofEnvironment_congr (usedValue?_blank hblank) (by rw [currenciesOf_blank hblank])
    rwa [Checked.seen_id, Checked.seen_id] at hsame
  · intro value hvalue lead trail hlead htrail
    exact seen_ofEnvironment_congr (usedValue?_padded hlead htrail hvalue)
      (seen_outline_currenciesOf_padded hlead htrail hvalue _)

/-- Blanks around a list, and a variable with blanks only. -/
theorem ofEnvironment_upToBlanks_list :
    let environment := [("CG_HOST_URL", "https://host"), ("SUPPORTED_CURRENCIES", "Kusama:KSM")]
    (ofEnvironment [("CG_HOST_URL", "https://host"),
        ("SUPPORTED_CURRENCIES", "\t\u3000Kusama:KSM\n")]).seen Issue.outline =
      (ofEnvironment environment).seen Issue.outline ∧
    ofEnvironment [("CG_HOST_URL", " \u2003"), ("SUPPORTED_CURRENCIES", "Kusama:KSM")] =
      ofEnvironment [("SUPPORTED_CURRENCIES", "Kusama:KSM")] := by
  intro environment
  exact ⟨(ofEnvironment_upToBlanks environment "SUPPORTED_CURRENCIES").2 "Kusama:KSM" (by decide)
      "\t\u3000" "\n" (by decide) (by decide),
    (ofEnvironment_upToBlanks environment "CG_HOST_URL").1 " \u2003" (by decide)⟩

end Settings

end PriceBoard
