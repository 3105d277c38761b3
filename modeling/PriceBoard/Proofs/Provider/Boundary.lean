import PriceBoard.Proofs.Decimal.Value
import PriceBoard.Proofs.Outcome
import PriceBoard.Proofs.Provider.Figure
import PriceBoard.Provider.Binance
import PriceBoard.Provider.Coingecko
import PriceBoard.Provider.Polygon
import PriceBoard.Provider.Squid

/-!
# What gets out of a provider

Whoever asks a provider relies on three endings: a value; a transport fault, just if no answer came;
or a protocol fault, if the answer is of no use.  Both faults name the provider.  `Kept` says that
an operation ended in one of these ways.

Not every answer is kept that way.  `Beyond` lists the answers that are not: bodies that nest too
deep or hold a number beyond all decimals, whatever the provider, and for some providers documents
with a time of update that is no whole number of seconds.  `Guarded` says that there are no others,
and that what gets out then is a fault of no provider.

## Strategy

All operations send one request and read the document that answers it (`guarded_of_reading`), so
that only the four readings have to be looked at.  Every figure that must be there is either read or
a protocol fault (`figure_kept`), and what is left are the rows: their first fault is the fault of
the answer (`mapM_eq_error_iff`).
-/

namespace PriceBoard.Provider

variable {α : Type}

/-- Whether the fault is one of the line: no answer came. -/
def isLineFault : Fault → Bool
  | .connection _ | .timeout _ | .system _ => true
  | _ => false

/-- An operation ended as its users expect. -/
inductive Kept (provider : String) : Except Fault Reply → Except Fault α → Prop
  | value (reply : Reply) (value : α) : Kept provider (.ok reply) (.ok value)
  | transport (fault : Fault) (reason : Spelling) (hline : isLineFault fault = true) :
      Kept provider (.error fault) (.error (.transport provider reason))
  | protocol (reply : Reply) (reason : Spelling) :
      Kept provider (.ok reply) (.error (.protocol provider reason))

/-- The answers for which an operation ends in another way; `unreadable` tells the documents that
its reading gives up on. -/
inductive Beyond (unreadable : Json → Prop) : Except Fault Reply → Prop
  | line (fault : Fault) (hline : isLineFault fault = false) : Beyond unreadable (.error fault)
  | nesting (reply : Reply) (inObject : Bool)
      (hstatus : Endpoint.isFailure reply.status = false)
      (hbody : Json.decodeExact reply.deepest reply.body = .error (.tooDeep inObject)) :
      Beyond unreadable (.ok reply)
  | number (reply : Reply) (cause : Signal)
      (hstatus : Endpoint.isFailure reply.status = false)
      (hbody : Json.decodeExact reply.deepest reply.body = .error (.number cause)) :
      Beyond unreadable (.ok reply)
  | document (reply : Reply) (content : Json)
      (hstatus : Endpoint.isFailure reply.status = false)
      (hbody : Json.decodeExact reply.deepest reply.body = .ok content)
      (hcontent : unreadable content) :
      Beyond unreadable (.ok reply)

theorem beyond_error_iff {unreadable : Json → Prop} {fault : Fault} :
    Beyond unreadable (.error fault) ↔ isLineFault fault = false := by
  constructor
  · intro hbeyond
    cases hbeyond with
    | line _ hline => exact hline
  · exact .line fault

/-- A reply is beyond an operation only if its body was to be read. -/
theorem beyond_ok_iff {unreadable : Json → Prop} {reply : Reply} :
    Beyond unreadable (.ok reply) ↔
      Endpoint.isFailure reply.status = false ∧
        ((∃ inObject, Json.decodeExact reply.deepest reply.body = .error (.tooDeep inObject)) ∨
          (∃ cause, Json.decodeExact reply.deepest reply.body = .error (.number cause)) ∨
            ∃ content, Json.decodeExact reply.deepest reply.body = .ok content ∧
              unreadable content) := by
  constructor
  · intro hbeyond
    cases hbeyond with
    | nesting _ inObject hstatus hbody => exact ⟨hstatus, .inl ⟨inObject, hbody⟩⟩
    | number _ cause hstatus hbody => exact ⟨hstatus, .inr (.inl ⟨cause, hbody⟩)⟩
    | document _ content hstatus hbody hcontent =>
        exact ⟨hstatus, .inr (.inr ⟨content, hbody, hcontent⟩)⟩
  · rintro ⟨hstatus, ⟨inObject, hbody⟩ | ⟨cause, hbody⟩ | ⟨content, hbody, hcontent⟩⟩
    · exact .nesting reply inObject hstatus hbody
    · exact .number reply cause hstatus hbody
    · exact .document reply content hstatus hbody hcontent

/-- The operation makes one request and ends as expected, unless the answer is beyond it; then a
fault gets out that is none of a provider. -/
structure Guarded (provider : String) (web : Web) (unreadable : Json → Prop) (request : Request)
    (outcome : Outcome Request α) : Prop where
  asked : outcome.requests = [request]
  kept_iff : Kept provider (web request) outcome.result ↔ ¬ Beyond unreadable (web request)
  outside : ∀ reply, web request = .ok reply → Beyond unreadable (web request) →
    ∃ fault, outcome.result = .error fault ∧ fault.provider? = none

/-! ## Sending and reading -/

theorem lineFault_of_isLineFault (endpoint : Endpoint) {fault : Fault}
    (hline : isLineFault fault = true) :
    ∃ reason, endpoint.lineFault fault = .transport endpoint.provider reason := by
  cases fault with
  | connection message => exact ⟨_, rfl⟩
  | timeout message => exact ⟨_, rfl⟩
  | system message => exact ⟨_, rfl⟩
  | _ => cases hline

theorem lineFault_eq_self {endpoint : Endpoint} {fault : Fault}
    (hline : isLineFault fault = false) : endpoint.lineFault fault = fault := by
  cases fault with
  | connection message => cases hline
  | timeout message => cases hline
  | system message => cases hline
  | _ => rfl

/-- What a reading of a document must offer, for the operation to be guarded. -/
structure Reads (provider : String) (unreadable : Json → Prop) (reading : Json → Except Fault α) :
    Prop where
  kept : ∀ document, ¬ unreadable document →
    (∃ value, reading document = .ok value) ∨
      ∃ reason, reading document = .error (.protocol provider reason)
  outside : ∀ document, unreadable document →
    ∃ fault, reading document = .error fault ∧ fault.provider? = none

/-- The two ways in which an operation can end, for an answer. -/
inductive Ending (provider : String) (unreadable : Json → Prop) (answer : Except Fault Reply)
    (result : Except Fault α) : Prop
  | expected (hkept : Kept provider answer result) (hwithin : ¬ Beyond unreadable answer)
  | escaped (hbeyond : Beyond unreadable answer) (hlost : ¬ Kept provider answer result)
      (houtside : ∀ reply, answer = .ok reply →
        ∃ fault, result = .error fault ∧ fault.provider? = none)

theorem ending_of_outside {provider : String} {unreadable : Json → Prop} {reply : Reply}
    {fault : Fault} (hbeyond : Beyond unreadable (.ok reply)) (houtside : fault.provider? = none) :
    Ending provider unreadable (.ok reply) (.error fault : Except Fault α) := by
  refine .escaped hbeyond ?_ fun _ _ => ⟨fault, rfl, houtside⟩
  intro hkept
  cases hkept
  cases houtside

/-- Without an answer the reading does not matter. -/
theorem ending_of_error (endpoint : Endpoint) (unreadable : Json → Prop) (fault : Fault) :
    Ending endpoint.provider unreadable (.error fault)
      (.error (endpoint.lineFault fault) : Except Fault α) := by
  cases hline : isLineFault fault with
  | true =>
      obtain ⟨reason, hreason⟩ := lineFault_of_isLineFault endpoint hline
      rw [hreason]
      refine .expected (.transport fault reason hline) ?_
      simp [beyond_error_iff, hline]
  | false =>
      refine .escaped (.line fault hline) ?_ fun reply hreply => by cases hreply
      rw [lineFault_eq_self hline]
      intro hkept
      cases hkept with
      | transport _ _ hother => exact absurd hother (by simp [hline])

/-- Bodies that cannot be read, and those that can. -/
theorem ending_of_reply (endpoint : Endpoint) {unreadable : Json → Prop}
    {reading : Json → Except Fault α} (hreads : Reads endpoint.provider unreadable reading)
    (reply : Reply) :
    Ending endpoint.provider unreadable (.ok reply) (endpoint.document reply >>= reading) := by
  unfold Endpoint.document
  -- the status comes first, then the syntax, and only then what the document says
  cases hstatus : Endpoint.isFailure reply.status with
  | true =>
      refine .expected (.protocol reply _) ?_
      simp [beyond_ok_iff, hstatus]
  | false =>
      cases hbody : Json.decodeExact reply.deepest reply.body with
      | error fault =>
          cases fault with
          | malformed problem position =>
              refine .expected (.protocol reply _) ?_
              simp [beyond_ok_iff, hbody]
          | longInteger digits =>
              refine .expected (.protocol reply _) ?_
              simp [beyond_ok_iff, hbody]
          | tooDeep inObject =>
              exact ending_of_outside (.nesting reply inObject hstatus hbody) rfl
          | number cause => exact ending_of_outside (.number reply cause hstatus hbody) rfl
      | ok content =>
          by_cases hcontent : unreadable content
          · obtain ⟨fault, hfault, houtside⟩ := hreads.outside content hcontent
            have hending : Ending endpoint.provider unreadable (.ok reply)
                (.error fault : Except Fault α) :=
              ending_of_outside (.document reply content hstatus hbody hcontent) houtside
            rwa [← hfault] at hending
          · have hwithin : ¬ Beyond unreadable (.ok reply) := by
              simp [beyond_ok_iff, hbody, hcontent]
            rcases hreads.kept content hcontent with ⟨value, hvalue⟩ | ⟨reason, hreason⟩
            · have hkept : Kept endpoint.provider (.ok reply) (.ok value) := .value reply value
              exact .expected (by rwa [← hvalue] at hkept) hwithin
            · have hkept : Kept endpoint.provider (.ok reply)
                  (.error (.protocol endpoint.provider reason) : Except Fault α) :=
                .protocol reply reason
              exact .expected (by rwa [← hreason] at hkept) hwithin

theorem guarded_of_ending {provider : String} {web : Web} {unreadable : Json → Prop}
    {request : Request} {outcome : Outcome Request α} (hasked : outcome.requests = [request])
    (hending : Ending provider unreadable (web request) outcome.result) :
    Guarded provider web unreadable request outcome := by
  cases hending with
  | expected hkept hwithin =>
      exact ⟨hasked, ⟨fun _ => hwithin, fun _ => hkept⟩, fun _ _ hbeyond => absurd hbeyond hwithin⟩
  | escaped hbeyond hlost houtside =>
      exact ⟨hasked, ⟨fun hkept => absurd hkept hlost, fun hwithin => absurd hbeyond hwithin⟩,
        fun reply hreply _ => houtside reply hreply⟩

/-- What comes of one request, when the document in the answer is read. -/
theorem result_reading (endpoint : Endpoint) (web : Web) (path : String) (payload : Payload)
    (reading : Json → Except Fault α) :
    (endpoint.send web path payload >>= fun document => Outcome.ofExcept (reading document)).result =
      endpoint.answer (web (endpoint.request path payload)) >>= reading := by
  rw [Outcome.result_bind]
  rfl

/-- An operation that sends one request and reads the document in the answer is guarded. -/
theorem guarded_of_reading (endpoint : Endpoint) {unreadable : Json → Prop}
    {reading : Json → Except Fault α} (hreads : Reads endpoint.provider unreadable reading)
    (web : Web) (path : String) (payload : Payload) :
    Guarded endpoint.provider web unreadable (endpoint.request path payload)
      (endpoint.send web path payload >>= fun document => Outcome.ofExcept (reading document)) := by
  refine guarded_of_ending (Outcome.requests_bind_eq_first fun _ => rfl) ?_
  rw [result_reading]
  cases web (endpoint.request path payload) with
  | error fault => exact ending_of_error endpoint unreadable fault
  | ok reply => exact ending_of_reply endpoint hreads reply

/-! ## Binance and the Amplitude index -/

theorem Binance.reads (symbol : String) :
    Reads Binance.provider (fun _ => False) (Binance.priceIn symbol) where
  kept document _ := by
    cases document with
    | object fields => exact figure_kept _ _ _
    | _ => exact .inr ⟨_, rfl⟩
  outside _ := False.elim

theorem Squid.reads : Reads Squid.provider (fun _ => False) Squid.priceIn where
  kept document _ := by
    cases document with
    | object fields =>
        simp only [Squid.priceIn]
        split
        · exact .inr ⟨_, rfl⟩
        · split
          · exact figure_kept _ _ _
          · exact .inr ⟨_, rfl⟩
    | _ => exact .inr ⟨_, rfl⟩
  outside _ := False.elim

/-! ## CoinGecko -/

namespace Coingecko

/-- A row with a price, and with a time of update that has too many digits to be written down. -/
def Boundless (now : Int) (id : Spelling) (content : Json) : Prop :=
  ∃ fields price number, content = .object fields ∧
    figure provider (id ++ .ofText ".usd") (Json.memberOrNull "usd" fields) = .ok price ∧
    figureOr (.finite (.ofInt now)) (Json.memberOrNull "last_updated_at" fields) =
      .finite number ∧
    number.isZero = false ∧ Numeral.exponentCeiling ≤ number.exponent

/-- The rows that the reading of an answer gives up on: a boundless one, before which all are
readable. -/
def Unreadable (now : Int) (document : Json) : Prop :=
  ∃ before id content after, document = .object (before ++ (id, content) :: after) ∧
    (∀ earlier ∈ before, ∃ figures, row now earlier.1 earlier.2 = .ok figures) ∧
    Boundless now id content

variable {now : Int} {id : Spelling} {content : Json}

theorem row_of_boundless (hcontent : Boundless now id content) :
    row now id content = .error (.general .memory "") := by
  obtain ⟨fields, price, number, rfl, hprice, htime, hdigits⟩ := hcontent
  simp [row, hprice, htime, wholeSeconds, (Numeral.truncate?_eq_none_iff number).mpr hdigits,
    bind, Except.bind]

theorem row_of_not_boundless (hcontent : ¬ Boundless now id content) :
    (∃ figures, row now id content = .ok figures) ∨
      ∃ reason, row now id content = .error (.protocol provider reason) := by
  cases content with
  | object fields =>
      rcases figure_kept provider (id ++ .ofText ".usd") (Json.memberOrNull "usd" fields) with
        ⟨price, hprice⟩ | ⟨reason, hreason⟩
      · left
        cases htime : figureOr (.finite (.ofInt now))
            (Json.memberOrNull "last_updated_at" fields) with
        | finite number =>
            cases hwhole : number.truncate? with
            | none =>
                exact absurd ⟨fields, price, number, rfl, hprice, htime,
                  (Numeral.truncate?_eq_none_iff number).mp hwhole⟩ hcontent
            | some seconds =>
                simp only [row, hprice, htime, wholeSeconds, hwhole, bind, Except.bind]
                exact ⟨_, rfl⟩
        | _ =>
            have hfinite : (figureOr (.finite (.ofInt now))
                (Json.memberOrNull "last_updated_at" fields)).isFinite = true :=
              isFinite_figureOr rfl _
            rw [htime] at hfinite
            cases hfinite
      · right
        simp only [row, hreason, bind, Except.bind]
        exact ⟨_, rfl⟩
  | _ => exact .inr ⟨_, rfl⟩

theorem reads (now : Int) : Reads provider (Unreadable now) (rows now) where
  kept document hdocument := by
    cases document with
    | object fields =>
        simp only [rows]
        cases hrows : fields.mapM fun entry =>
            (row now entry.1 entry.2).map (entry.1, ·) with
        | ok table => exact .inl ⟨table, rfl⟩
        | error fault =>
            obtain ⟨before, ⟨id, content⟩, after, rfl, hbefore, hrow⟩ := mapM_eq_error_iff.mp hrows
            have hcontent : ¬ Boundless now id content := by
              refine fun hcontent => hdocument ⟨before, id, content, after, rfl, ?_, hcontent⟩
              intro earlier hearlier
              obtain ⟨_, hvalue⟩ := hbefore earlier hearlier
              obtain ⟨figures, hfigures, -⟩ := map_eq_ok hvalue
              exact ⟨figures, hfigures⟩
            rcases row_of_not_boundless hcontent with ⟨figures, hfigures⟩ | ⟨reason, hreason⟩
            · simp [hfigures, Except.map] at hrow
            · simp only [hreason, Except.map] at hrow
              cases hrow
              exact .inr ⟨reason, rfl⟩
    | _ => exact .inr ⟨_, rfl⟩
  outside document hdocument := by
    obtain ⟨before, id, content, after, rfl, hbefore, hcontent⟩ := hdocument
    refine ⟨.general .memory "", mapM_eq_error_iff.mpr ⟨before, _, after, rfl, ?_, ?_⟩, rfl⟩
    · intro earlier hearlier
      obtain ⟨figures, hfigures⟩ := hbefore earlier hearlier
      exact ⟨(earlier.1, figures), by simp [hfigures, Except.map]⟩
    · simp [row_of_boundless hcontent, Except.map]

end Coingecko

/-! ## Polygon -/

namespace Polygon

/-- A row with a ticker, and with a time of update beyond all numbers. -/
def Endless (content : Json) : Prop :=
  ∃ fields count, content = .object fields ∧ (Json.memberOrNull "ticker" fields).isVoid = false ∧
    Json.memberOrNull "updated" fields = .double count ∧ Double.parts count = .infinity false

/-- What gets out then: an infinite time, divided into seconds, is no number. -/
def endlessFault : Fault :=
  .general .badValue "cannot convert float NaN to integer"

/-- The answers that the reading gives up on: good ones with an endless row. -/
def Unreadable (document : Json) : Prop :=
  ∃ fields items content, document = .object fields ∧
    goodStatus.contains (statusWord fields) = true ∧
    Json.memberOrNull "tickers" fields = .array items ∧ content ∈ items ∧ Endless content

theorem updated_of_infinity {count : Float} (hcount : Double.parts count = .infinity false) :
    updated (.double count) = .error endlessFault := by
  simp [updated, hcount, endlessFault]

theorem updated_of_ne_infinity {content : Json}
    (hcontent : ¬ ∃ count, content = .double count ∧ Double.parts count = .infinity false) :
    ∃ time, updated content = .ok time := by
  cases content with
  | double count =>
      cases hcount : Double.parts count with
      | finite negative significand exponent =>
          simp only [updated, hcount]
          exact ⟨_, rfl⟩
      | infinity negative =>
          cases negative with
          | true => exact ⟨none, by simp [updated, hcount]⟩
          | false => exact absurd ⟨count, rfl, hcount⟩ hcontent
      | nan => exact ⟨none, by simp [updated, hcount]⟩
  | _ => exact ⟨_, rfl⟩

theorem row_of_endless {content : Json} (hcontent : Endless content) :
    row content = .error endlessFault := by
  obtain ⟨fields, count, rfl, hticker, hupdated, hcount⟩ := hcontent
  simp [row, hticker, hupdated, updated_of_infinity hcount, bind, Except.bind]

example :
    row (.object (Json.named
      [("ticker", .ofText "C:EURUSD"), ("updated", .double (Double.infinity false))])) =
        .error endlessFault := rfl

theorem row_of_not_endless {content : Json} (hcontent : ¬ Endless content) :
    ∃ found, row content = .ok found := by
  cases content with
  | object fields =>
      cases hticker : (Json.memberOrNull "ticker" fields).isVoid with
      | true => exact ⟨none, by simp [row, hticker]⟩
      | false =>
          have htime : ∃ time, updated (Json.memberOrNull "updated" fields) = .ok time := by
            refine updated_of_ne_infinity fun hinfinity => hcontent ?_
            obtain ⟨count, hupdated, hcount⟩ := hinfinity
            exact ⟨fields, count, rfl, hticker, hupdated, hcount⟩
          obtain ⟨time, htime⟩ := htime
          simp only [row, hticker, htime, bind, Except.bind]
          exact ⟨_, rfl⟩
  | _ => exact ⟨_, rfl⟩

/-- One endless row is enough to lose the table, wherever it stands. -/
theorem addRows_of_endless {items : List Json} {content : Json} (hmem : content ∈ items)
    (hcontent : Endless content) (table : List (Spelling × ForexFigures)) :
    addRows table items = .error endlessFault := by
  -- the rows before it only change the table, for which the hypothesis is general
  induction items generalizing table with
  | nil => cases hmem
  | cons first rest ih =>
      by_cases hfirst : Endless first
      · simp [addRows, row_of_endless hfirst, bind, Except.bind]
      · have hrest : content ∈ rest := by
          rcases List.mem_cons.mp hmem with rfl | hrest
          · exact absurd hcontent hfirst
          · exact hrest
        obtain ⟨found, hfound⟩ := row_of_not_endless hfirst
        cases found with
        | none => simpa [addRows, hfound, bind, Except.bind] using ih hrest table
        | some entry => simpa [addRows, hfound, bind, Except.bind] using ih hrest _

theorem addRows_of_not_endless {items : List Json} (hitems : ∀ content ∈ items, ¬ Endless content)
    (table : List (Spelling × ForexFigures)) : ∃ result, addRows table items = .ok result := by
  induction items generalizing table with
  | nil => exact ⟨table, rfl⟩
  | cons first rest ih =>
      obtain ⟨found, hfound⟩ := row_of_not_endless (hitems first List.mem_cons_self)
      have hrest := ih fun content hcontent => hitems content (List.mem_cons_of_mem _ hcontent)
      cases found with
      | none => simpa [addRows, hfound, bind, Except.bind] using hrest table
      | some entry => simpa [addRows, hfound, bind, Except.bind] using hrest _

theorem reads : Reads provider Unreadable rows where
  kept document hdocument := by
    cases document with
    | object fields =>
        simp only [rows]
        split
        · exact .inr ⟨_, rfl⟩
        · rename_i hstatus
          split
          · exact .inl ⟨_, rfl⟩
          · split
            · rename_i items hitems
              refine .inl (addRows_of_not_endless (fun content hmem hcontent => ?_) [])
              exact hdocument ⟨fields, items, content, rfl, by simpa using hstatus, hitems, hmem,
                hcontent⟩
            · exact .inr ⟨_, rfl⟩
    | _ => exact .inr ⟨_, rfl⟩
  outside document hdocument := by
    obtain ⟨fields, items, content, rfl, hstatus, hitems, hmem, hcontent⟩ := hdocument
    have hsome : (Json.array items).isVoid = false := by
      cases items with
      | nil => cases hmem
      | cons first rest => rfl
    refine ⟨endlessFault, ?_, rfl⟩
    simp only [rows, hstatus, hitems, hsome, Bool.not_true, Bool.false_eq_true, if_false]
    exact addRows_of_endless hmem hcontent []

end Polygon

/-! ## The four operations -/

/-- Every operation of every provider is guarded.  For Binance and the Amplitude index no document
is beyond the reading; the others give up on some times of update. -/
theorem clients_guarded (web : Web) (timeout : Seconds) (key baseUrl : String) (now : Int)
    (id ticker symbol : String) (ids tickers : List String) :
    Guarded Coingecko.provider web (Coingecko.Unreadable now)
        ((Coingecko.endpoint key baseUrl timeout).request "/simple/price"
          (.query (Coingecko.query (id :: ids))))
        (Coingecko.prices (Coingecko.endpoint key baseUrl timeout) web now (id :: ids)) ∧
      Guarded Polygon.provider web Polygon.Unreadable
        ((Polygon.endpoint key baseUrl timeout).request
          "/v2/snapshot/locale/global/markets/forex/tickers"
          (.query [("tickers", Text.commaJoin (ticker :: tickers))]))
        (Polygon.snapshot (Polygon.endpoint key baseUrl timeout) web (ticker :: tickers)) ∧
      Guarded Binance.provider web (fun _ => False)
        ((Binance.endpoint baseUrl timeout).request "/api/v3/ticker/price"
          (.query [("symbol", Text.upper symbol)]))
        (Binance.price (Binance.endpoint baseUrl timeout) web symbol) ∧
      Guarded Squid.provider web (fun _ => False)
        ((Squid.endpoint baseUrl timeout).request "" (.posted Squid.question))
        (Squid.price (Squid.endpoint baseUrl timeout) web) :=
  ⟨guarded_of_reading (Coingecko.endpoint key baseUrl timeout) (Coingecko.reads now) web _ _,
    guarded_of_reading (Polygon.endpoint key baseUrl timeout) Polygon.reads web _ _,
    guarded_of_reading (Binance.endpoint baseUrl timeout) (Binance.reads symbol) web _ _,
    guarded_of_reading (Squid.endpoint baseUrl timeout) Squid.reads web _ _⟩

end PriceBoard.Provider
