import PriceBoard.Proofs.Entries
import PriceBoard.Proofs.Outcome
import PriceBoard.Proofs.Provider.Boundary
import PriceBoard.Proofs.Text.Spelling

/-!
# Providers that send Unicode

A fault may quote what a provider sent: the name of a field, the status of an answer, the message of
the line.  `Web.IsUnicode` says that no half of a pair stands alone in any of this.  Then none stands
alone in the message of a fault that comes of asking (`isText_of_snapshot`, `isText_of_prices`).

All other content that a fault quotes is quoted with its escapes, and so a text whatever is sent.
-/

namespace PriceBoard

/-! ## Documents -/

namespace Json

mutual

/-- Whether no half of a pair stands alone in the texts of the document and in the names. -/
def isUnicode : Json → Bool
  | string value => value.isText
  | array items => itemsAreUnicode items
  | object fields => fieldsAreUnicode fields
  | _ => true

/-- Whether all items are Unicode. -/
def itemsAreUnicode : List Json → Bool
  | [] => true
  | item :: others => isUnicode item && itemsAreUnicode others

/-- Whether all fields are Unicode, with their names. -/
def fieldsAreUnicode : List (Spelling × Json) → Bool
  | [] => true
  | (name, value) :: others => name.isText && isUnicode value && fieldsAreUnicode others

end

variable {content : Json} {fields : Fields}

theorem isUnicode_field (hfields : (object fields).isUnicode = true) {entry : Spelling × Json}
    (hentry : entry ∈ fields) : entry.1.isText = true ∧ entry.2.isUnicode = true := by
  rw [isUnicode] at hfields
  induction fields with
  | nil => cases hentry
  | cons first others ih =>
      simp only [fieldsAreUnicode, Bool.and_eq_true] at hfields
      rcases List.mem_cons.mp hentry with rfl | hentry
      · exact hfields.1
      · exact ih hfields.2 hentry

/-- Running text of Unicode is a text: whatever is no text itself is shown with its escapes. -/
theorem isText_spelled (hcontent : content.isUnicode = true) : content.spelled.isText = true := by
  cases content with
  | string value => exact hcontent
  | _ => exact Spelling.isText_ofText _

end Json

/-! ## Faults -/

theorem Fault.isText_broken (provider reason : String) :
    (Fault.broken provider reason).message.isText = true := by
  simp [Fault.broken, Fault.message]

namespace Provider

variable {α : Type} {web : Web} {document : Json} {fault : Fault}

/-! ## Answers -/

/-- What is received is Unicode: the message of the fault, or the document. -/
def IsUnicode : Except Fault Reply → Prop
  | .error fault => fault.message.isText = true
  | .ok reply => ∀ document, Json.decodeExact reply.deepest reply.body = .ok document →
    document.isUnicode = true

/-- What the web sends is Unicode. -/
def Web.IsUnicode (web : Web) : Prop :=
  ∀ request, Provider.IsUnicode (web request)

theorem isUnicode_of_decodeExact {reply : Reply}
    (hbody : Json.decodeExact reply.deepest reply.body = .ok document)
    (hdocument : document.isUnicode = true) : IsUnicode (.ok reply) := by
  intro read hread
  cases hbody.symm.trans hread
  exact hdocument

theorem isText_lineFault (endpoint : Endpoint) (hfault : fault.message.isText = true) :
    (endpoint.lineFault fault).message.isText = true := by
  cases fault with
  | connection message => simpa [Endpoint.lineFault, Fault.message] using hfault
  | timeout message => simpa [Endpoint.lineFault, Fault.message] using hfault
  | system message => simpa [Endpoint.lineFault, Fault.message] using hfault
  | _ => exact hfault

/-- Why a body is no document is said in plain text. -/
theorem isText_decodeFault (endpoint : Endpoint) (body : String) (cause : Json.DecodeFault) :
    (endpoint.decodeFault body cause).message.isText = true := by
  cases cause with
  | malformed _ _ => exact Fault.isText_broken _ _
  | longInteger _ => exact Fault.isText_broken _ _
  | tooDeep _ => exact Spelling.isText_ofText _
  | number _ => exact Spelling.isText_ofText _

/-- What a web of Unicode answers is a document in Unicode or a fault in plain text. -/
theorem isText_of_reading (hweb : web.IsUnicode) {endpoint : Endpoint} {request : Request}
    {reading : Json → Except Fault α}
    (hreading : ∀ document fault, document.isUnicode = true → reading document = .error fault →
      fault.message.isText = true)
    (hfault : endpoint.answer (web request) >>= reading = .error fault) :
    fault.message.isText = true := by
  have hsent : IsUnicode (web request) := hweb request
  cases hanswer : web request with
  | error cause =>
      rw [hanswer] at hfault hsent
      cases hfault
      exact isText_lineFault endpoint hsent
  | ok reply =>
      rw [hanswer] at hfault hsent
      simp only [Endpoint.answer, Endpoint.document] at hfault
      split at hfault
      · cases hfault
        exact Fault.isText_broken _ _
      · cases hbody : Json.decodeExact reply.deepest reply.body with
        | error cause =>
            rw [hbody] at hfault
            cases hfault
            exact isText_decodeFault endpoint reply.body cause
        | ok document =>
            rw [hbody] at hfault
            exact hreading document fault (hsent document hbody) hfault

/-! ## Polygon -/

namespace Polygon

theorem isText_of_updated {content : Json} (hfault : updated content = .error fault) :
    fault.message.isText = true := by
  unfold updated at hfault
  split at hfault
  · cases hfault
  · cases hfault
  · split at hfault
    · cases hfault
    · split at hfault
      · cases hfault
      · cases hfault
        exact Spelling.isText_ofText _
    · cases hfault
  · cases hfault

theorem isText_of_row {content : Json} (hfault : row content = .error fault) :
    fault.message.isText = true := by
  cases content with
  | object fields =>
      simp only [row] at hfault
      split at hfault
      · cases hfault
      · rcases bind_eq_error hfault with hupdated | ⟨_, -, hfault⟩
        · exact isText_of_updated hupdated
        · cases hfault
  | _ => cases hfault

theorem isText_of_addRows {items : List Json} {table : List (Spelling × ForexFigures)}
    (hfault : addRows table items = .error fault) : fault.message.isText = true := by
  induction items generalizing table with
  | nil => cases hfault
  | cons content others ih =>
      rw [addRows] at hfault
      rcases bind_eq_error hfault with hrow | ⟨found, -, hfault⟩
      · exact isText_of_row hrow
      · cases found with
        | none => exact ih hfault
        | some entry => exact ih hfault

/-- The status word is the only part of an answer that a fault shows as it is. -/
theorem isText_statusWord {fields : Json.Fields} (hfields : (Json.object fields).isUnicode = true) :
    (statusWord fields).isText = true := by
  refine Spelling.isText_upper ?_
  cases hstatus : Json.member? "status" fields with
  | none => exact Spelling.isText_ofText _
  | some content =>
      exact Json.isText_spelled (Json.isUnicode_field hfields (mem_of_valueAt? hstatus)).2

theorem isText_of_rows (hdocument : document.isUnicode = true)
    (hfault : rows document = .error fault) : fault.message.isText = true := by
  cases document with
  | object fields =>
      simp only [rows] at hfault
      split at hfault
      · cases hfault
        simp [Fault.message, isText_statusWord hdocument]
      · split at hfault
        · cases hfault
        · split at hfault
          · exact isText_of_addRows hfault
          · cases hfault
            exact Fault.isText_broken _ _
  | _ =>
      cases hfault
      exact Fault.isText_broken _ _

/-- A failing call for currencies says why in plain text, if the web sends Unicode. -/
theorem isText_of_snapshot (hweb : web.IsUnicode) {endpoint : Endpoint} {tickers : List String}
    (hfault : (snapshot endpoint web tickers).result = .error fault) :
    fault.message.isText = true := by
  by_cases htickers : tickers = []
  · rw [snapshot, if_pos (by simpa using htickers)] at hfault
    cases hfault
  · rw [snapshot, if_neg (by simpa using htickers), result_reading] at hfault
    exact isText_of_reading hweb (fun _ _ => isText_of_rows) hfault

end Polygon

/-! ## CoinGecko -/

theorem isText_of_figure {provider : String} {field : Spelling} {content : Json}
    (hfield : field.isText = true) (hfault : figure provider field content = .error fault) :
    fault.message.isText = true := by
  unfold figure at hfault
  split at hfault
  · cases hfault
    simp [Fault.message, hfield]
  · cases hfault
    simp [Fault.message, hfield]
  · cases hfault
    simp [Fault.message, hfield]
  · split at hfault <;> cases hfault <;> simp [Fault.message, hfield]

theorem isText_of_wholeSeconds {value : Decimal} (hfault : wholeSeconds value = .error fault) :
    fault.message.isText = true := by
  cases value with
  | finite number =>
      rw [wholeSeconds] at hfault
      cases htruncated : number.truncate? <;> rw [htruncated] at hfault <;> cases hfault
      exact Spelling.isText_ofText _
  | infinity negative =>
      cases hfault
      exact Spelling.isText_ofText _
  | nan _ _ _ =>
      cases hfault
      exact Spelling.isText_ofText _

namespace Coingecko

/-- A row shows the name under which it stands, and nothing else of the document as it is. -/
theorem isText_of_row {now : Int} {id : Spelling} {content : Json} (hid : id.isText = true)
    (hfault : row now id content = .error fault) : fault.message.isText = true := by
  cases content with
  | object fields =>
      rcases bind_eq_error hfault with hprice | ⟨_, -, hfault⟩
      · exact isText_of_figure (by simp [hid]) hprice
      · rcases bind_eq_error hfault with hupdated | ⟨_, -, hfault⟩
        · exact isText_of_wholeSeconds hupdated
        · cases hfault
  | _ =>
      cases hfault
      simp [Fault.message, hid]

theorem isText_of_rows {now : Int} (hdocument : document.isUnicode = true)
    (hfault : rows now document = .error fault) : fault.message.isText = true := by
  cases document with
  | object fields =>
      obtain ⟨before, ⟨id, content⟩, after, rfl, -, hentry⟩ := mapM_eq_error_iff.mp hfault
      have hmem : (id, content) ∈ before ++ (id, content) :: after := by simp
      exact isText_of_row (Json.isUnicode_field hdocument hmem).1 (map_eq_error hentry)
  | _ =>
      cases hfault
      exact Fault.isText_broken _ _

/-- A failing call for coins says why in plain text, if the web sends Unicode. -/
theorem isText_of_prices (hweb : web.IsUnicode) {endpoint : Endpoint} {now : Int}
    {ids : List String} (hfault : (prices endpoint web now ids).result = .error fault) :
    fault.message.isText = true := by
  by_cases hids : ids = []
  · rw [prices, if_pos (by simpa using hids)] at hfault
    cases hfault
  · rw [prices, if_neg (by simpa using hids), result_reading] at hfault
    exact isText_of_reading hweb (fun _ _ => isText_of_rows) hfault

end Coingecko

end Provider

end PriceBoard
