import PriceBoard.Proofs.Dispatch
import PriceBoard.Proofs.Outcome
import PriceBoard.Proofs.Text.Spelling

/-!
# Lines that are refused

For every source that fails a batch prints a line with the fault in words.  If the console takes all
these lines, the batch ends as `batch` says, and every source is called with its share
(`result_run_of_reported`, `requests_run_of_reported`).

The first line that the console refuses ends the batch (`run_of_refused`): the sources up to this one
have been called, the sources behind it are not, and all that comes of the batch is the fault of the
console.  There is no third way for a batch to end (`reported_or_refused`).
-/

namespace PriceBoard.Dispatch

variable {ε : Type} {console : Console} {source : Source ε} {sources : List (Source ε)}
  {share assets : List Asset} {entry : Source ε × List Asset}
  {shares earlier later : List (Source ε × List Asset)} {fault cause : Fault}

/-! ## One share -/

/-- The console takes the line about the failure of the source, if there is one. -/
def Reported (console : Console) (entry : Source ε × List Asset) : Prop :=
  entry.2 ≠ [] → ∀ fault, (entry.1.quotations entry.2).result = .error fault →
    ∃ shown, console.print (failureNote entry.1.name entry.2 fault) = .ok shown

/-- The source fails, and the console refuses the line about it. -/
def Refused (console : Console) (entry : Source ε × List Asset) (cause : Fault) : Prop :=
  entry.2 ≠ [] ∧ ∃ fault, (entry.1.quotations entry.2).result = .error fault ∧
    console.print (failureNote entry.1.name entry.2 fault) = .error cause

/-- A fault in plain text can be reported on every console. -/
theorem exists_print_failureNote (console : Console) (name : String) (share : List Asset)
    (hfault : fault.message.isText = true) :
    ∃ shown, console.print (failureNote name share fault) = .ok shown :=
  ⟨_, console.print_of_isText (by simp [failureNote, hfault])⟩

theorem refused_of_not_reported (hentry : ¬ Reported console entry) :
    ∃ cause, Refused console entry cause := by
  by_contra hnone
  refine hentry fun hshare fault hfault => ?_
  cases hprint : console.print (failureNote entry.1.name entry.2 fault) with
  | ok shown => exact ⟨shown, rfl⟩
  | error cause => exact absurd ⟨cause, hshare, fault, hfault, hprint⟩ hnone

/-- What is printed about a share makes no request. -/
theorem requests_serve (console : Console) (source : Source ε) (share : List Asset) :
    (serve console source share).requests = requestsFor source share := by
  cases share with
  | nil => rfl
  | cons asset others =>
      have hreport : ∀ result, (report console source.name (asset :: others) result :
          Outcome ε Unit).requests = [] := by
        intro result
        cases result with
        | error fault => exact Outcome.requests_print _ _
        | ok quotations => rfl
      simp only [serve, requestsFor, List.isEmpty_cons, Bool.false_eq_true, if_false, reduceCtorEq]
      rw [Outcome.requests_bind_eq_first fun result => ?_, Outcome.requests_attempt]
      rw [Outcome.requests_bind_eq_first fun _ => rfl, hreport]

theorem result_serve_of_reported (hreported : Reported console (source, share)) :
    (serve console source share).result = .ok (served source share) := by
  cases share with
  | nil => rfl
  | cons asset others =>
      simp only [serve, served, List.isEmpty_cons, Bool.false_eq_true, if_false]
      rw [Outcome.result_bind_ok (Outcome.result_attempt _), Outcome.result_bind]
      cases hresult : (source.quotations (asset :: others)).result with
      | error fault =>
          obtain ⟨shown, hshown⟩ := hreported (List.cons_ne_nil _ _) fault hresult
          simp only [report, Outcome.result_print, hshown]
          rfl
      | ok quotations => rfl

theorem result_serve_of_refused (hrefused : Refused console (source, share) cause) :
    (serve console source share).result = .error cause := by
  obtain ⟨hshare, fault, hfault, hprint⟩ := hrefused
  have hsome : share.isEmpty = false := by simpa using hshare
  simp only [serve, hsome, Bool.false_eq_true, if_false]
  rw [Outcome.result_bind_ok (Outcome.result_attempt _), Outcome.result_bind, hfault]
  simp only [report, Outcome.result_print, hprint]
  rfl

/-! ## All shares -/

theorem requests_serveNamed (console : Console) (entry : Source ε × List Asset) :
    (serveNamed console entry).requests = requestsFor entry.1 entry.2 := by
  rw [serveNamed, Outcome.requests_bind_eq_first fun _ => rfl, requests_serve]

theorem result_serveNamed_of_reported (hreported : Reported console entry) :
    (serveNamed console entry).result = .ok [(entry.1.name, served entry.1 entry.2)] := by
  rw [serveNamed, Outcome.result_bind_ok (result_serve_of_reported hreported)]
  rfl

theorem result_serveNamed_of_refused (hrefused : Refused console entry cause) :
    (serveNamed console entry).result = .error cause := by
  rw [serveNamed, Outcome.result_bind, result_serve_of_refused hrefused]
  rfl

/-- A batch ends as the shares do, one after the other. -/
theorem result_run (console : Console) (sources : List (Source ε)) (assets : List Asset) :
    (run console sources assets).result =
      (Outcome.collect (serveNamed console) (partition sources assets).1).result.map
        (Batch.of (partition sources assets).1 (partition sources assets).2) := by
  unfold run
  rw [Outcome.result_bind_ok (Outcome.result_notes _), Outcome.result_bind]
  cases (Outcome.collect (serveNamed console) (partition sources assets).1).result <;> rfl

/-- The lines about a batch as a whole make no request. -/
theorem requests_run (console : Console) (sources : List (Source ε)) (assets : List Asset) :
    (run console sources assets).requests =
      (Outcome.collect (serveNamed console) (partition sources assets).1).requests := by
  unfold run
  rw [Outcome.requests_bind_ok (Outcome.result_notes _), Outcome.requests_notes, List.nil_append,
    Outcome.requests_bind_eq_first fun _ => rfl]

/-! ## Batches -/

theorem result_run_of_reported
    (hreported : ∀ entry ∈ (partition sources assets).1, Reported console entry) :
    (run console sources assets).result = .ok (batch sources assets) := by
  have hcollect := Outcome.result_collect fun entry hentry =>
    result_serveNamed_of_reported (hreported entry hentry)
  rw [result_run, hcollect, ← List.map_eq_flatMap]
  rfl

theorem requests_run_of_reported
    (hreported : ∀ entry ∈ (partition sources assets).1, Reported console entry) :
    (run console sources assets).requests = requestsOf (partition sources assets).1 := by
  have hcollect := Outcome.requests_collect fun entry hentry =>
    ⟨_, result_serveNamed_of_reported (hreported entry hentry)⟩
  rw [requests_run, hcollect]
  simp only [requests_serveNamed]
  rfl

/-- The first refused line ends a batch. -/
theorem run_of_refused (hshares : (partition sources assets).1 = earlier ++ entry :: later)
    (hearlier : ∀ other ∈ earlier, Reported console other)
    (hentry : Refused console entry cause) :
    (run console sources assets).result = .error cause ∧
      (run console sources assets).requests = requestsOf (earlier ++ [entry]) := by
  have hbefore : ∀ other ∈ earlier, ∃ read, (serveNamed console other).result = .ok read :=
    fun other hother => ⟨_, result_serveNamed_of_reported (hearlier other hother)⟩
  obtain ⟨hresult, hrequests⟩ := Outcome.collect_of_error later hbefore
    (result_serveNamed_of_refused hentry)
  rw [result_run, requests_run, hshares, hresult, hrequests]
  simp only [requests_serveNamed]
  exact ⟨rfl, rfl⟩

/-- All lines of a batch are taken, or there is a first one that is refused. -/
theorem reported_or_refused (console : Console) (shares : List (Source ε × List Asset)) :
    (∀ entry ∈ shares, Reported console entry) ∨
      ∃ earlier entry later cause, shares = earlier ++ entry :: later ∧
        (∀ other ∈ earlier, Reported console other) ∧ Refused console entry cause := by
  induction shares with
  | nil => exact .inl fun _ hentry => absurd hentry List.not_mem_nil
  | cons first others ih =>
      by_cases hfirst : Reported console first
      · rcases ih with hothers | ⟨earlier, entry, later, cause, rfl, hearlier, hentry⟩
        · exact .inl (List.forall_mem_cons.mpr ⟨hfirst, hothers⟩)
        · exact .inr ⟨first :: earlier, entry, later, cause, rfl,
            List.forall_mem_cons.mpr ⟨hfirst, hearlier⟩, hentry⟩
      · obtain ⟨cause, hcause⟩ := refused_of_not_reported hfirst
        exact .inr ⟨[], first, others, cause, rfl, fun _ hother => absurd hother List.not_mem_nil,
          hcause⟩

/-- Whatever is refused, no request is made out of turn: those for some of the last shares may be
missing. -/
theorem prefix_requests_run (console : Console) (sources : List (Source ε)) (assets : List Asset) :
    (run console sources assets).requests <+: requestsOf (partition sources assets).1 := by
  rcases reported_or_refused console (partition sources assets).1 with
    hreported | ⟨earlier, entry, later, _, hshares, hearlier, hentry⟩
  · exact ⟨[], by rw [List.append_nil, requests_run_of_reported hreported]⟩
  · rw [(run_of_refused hshares hearlier hentry).2, hshares]
    exact ⟨requestsOf later, by simp [requestsOf]⟩

/-- **A batch comes to its end just if every line about it is taken.** -/
theorem result_run_eq_ok_iff {found : Batch} :
    (run console sources assets).result = .ok found ↔
      (∀ entry ∈ (partition sources assets).1, Reported console entry) ∧
        found = batch sources assets := by
  constructor
  · intro hfound
    rcases reported_or_refused console (partition sources assets).1 with
      hreported | ⟨_, _, _, _, hshares, hearlier, hentry⟩
    · have hresult := result_run_of_reported hreported
      exact ⟨hreported, Except.ok.inj (hfound.symm.trans hresult)⟩
    · cases (run_of_refused hshares hearlier hentry).1.symm.trans hfound
  · rintro ⟨hreported, rfl⟩
    exact result_run_of_reported hreported

end PriceBoard.Dispatch
