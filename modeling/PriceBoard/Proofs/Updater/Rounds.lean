import PriceBoard.Proofs.Double.Whole
import PriceBoard.Proofs.Updater.Iteration
import PriceBoard.Updater.Rounds

/-!
# How a worker ends

No failure of a cycle ends a worker: publishing that is refused only makes its pause a whole
interval.  A worker ends because it is told to stop, or because nothing handles the fault of its
pause: an interval from `2 ^ 1024 - 2 ^ 970` on has no double, and a pause from `2 ^ 63` nanoseconds
on cannot be waited for (`endings_of_live`).

## Strategy

One equation gives a whole round (`round_eq`).  A run of rounds is cut at the first event that is not
endured: up to there the worker goes on as it was (`Working.of_endured`), this event ends it, and
what comes later finds no worker any more.
-/

namespace PriceBoard.Worker

variable {worker : Worker} {interval : Seconds} {length : Float} {input : CycleInput} {told : Bool}

/-! ## Pauses -/

/-- The pause after a cycle: what is left of the interval, and after a failure all of it. -/
def pauseAfter (length : Float) (input : CycleInput) : Float :=
  if input.publishes then Seconds.remaining length (input.finished - input.started) else length

theorem result_iterate_of_ok {updater : Updater}
    (hinterval : updater.interval.toDouble = .ok length) (input : CycleInput) :
    (updater.iterate input).result = .ok (pauseAfter length input) := by
  unfold pauseAfter CycleInput.publishes
  cases hrefusal : input.refusal with
  | some fault =>
      rw [(Updater.iterate_of_refused updater hrefusal).2, hinterval]
      rfl
  | none =>
      rw [(Updater.iterate_of_admitted hrefusal hinterval).2]
      rfl

/-- The fault that a round brings up, if there is one. -/
def roundFault (interval : Seconds) (input : CycleInput) (told : Bool) : Option Fault :=
  match interval.toDouble with
  | .error fault => some fault
  | .ok length =>
    if told || Seconds.isWaitable (pauseAfter length input) then none else some pauseFault

/-! ## Single rounds -/

/-- A worker that is at work, with such an interval, and has not been told to stop. -/
structure Working (interval : Seconds) (worker : Worker) : Prop where
  alive_eq : worker.alive = true
  stopped_eq : worker.stopped = false
  interval_eq : worker.updater.interval = interval

theorem Working.observe_eq (hworking : Working interval worker) : worker.observe = worker := by
  simp [observe, hworking.stopped_eq]

/-- A worker is still at work after a round just if it was not told to stop and nothing is wrong
with its pause. -/
theorem round_eq (hworking : Working interval worker) (input : CycleInput) (told : Bool) :
    worker.round input told =
      (⟨(worker.updater.iterate input).updater,
          !told && (roundFault interval input told).isNone, told⟩,
        roundFault interval input told) := by
  obtain ⟨updater, alive, stopped⟩ := worker
  obtain ⟨rfl, rfl, rfl⟩ := hworking
  cases hinterval : updater.interval.toDouble with
  | error fault =>
      have hresult := Updater.result_iterate_of_error hinterval input
      cases told <;> simp [round, advance, observe, stop, roundFault, hinterval, hresult]
  | ok length =>
      have hresult := result_iterate_of_ok hinterval input
      cases told with
      | true => simp [round, advance, observe, rest, stop, roundFault, hinterval, hresult]
      | false =>
          by_cases hwaitable : Seconds.isWaitable (pauseAfter length input) = true <;>
            simp [round, advance, observe, rest, roundFault, hinterval, hresult, hwaitable]

/-- The pause after the next cycle of a worker, if its interval has a length. -/
theorem Working.pause_advance (hworking : Working interval worker) (input : CycleInput) :
    (worker.advance input).2.1 =
      interval.toDouble.toOption.map fun length => pauseAfter length input := by
  have hinterval := hworking.interval_eq
  cases hlength : interval.toDouble with
  | error fault =>
      have hresult := Updater.result_iterate_of_error
        ((congrArg Seconds.toDouble hinterval).trans hlength) input
      simp [advance, hworking.observe_eq, hworking.alive_eq, hresult, Except.toOption]
  | ok length =>
      have hresult := result_iterate_of_ok
        ((congrArg Seconds.toDouble hinterval).trans hlength) input
      simp [advance, hworking.observe_eq, hworking.alive_eq, hresult, Except.toOption]

/-! ## Runs of rounds -/

/-- Whether the event tells the worker to stop. -/
def Event.tells : Event → Bool
  | .told => true
  | .round _ told => told

/-- A worker endures a round in which it is not told to stop, and whose pause it can wait for. -/
def Event.Endured (interval : Seconds) : Event → Prop
  | .told => False
  | .round input told =>
    told = false ∧ ∃ length, interval.toDouble = .ok length ∧
      Seconds.isWaitable (pauseAfter length input) = true

theorem Event.endured_round_iff :
    (Event.round input told).Endured interval ↔
      told = false ∧ roundFault interval input told = none := by
  unfold Event.Endured roundFault
  cases interval.toDouble with
  | error fault => simp
  | ok length => cases told <;> simp

/-- A worker that endures an event goes on as before. -/
theorem Working.of_endured {event : Event} (others : List Event)
    (hworking : Working interval worker) (hendured : event.Endured interval) :
    ∃ next, Working interval next ∧ worker.live (event :: others) = next.live others := by
  cases event with
  | told => exact hendured.elim
  | round input told =>
      obtain ⟨rfl, hfault⟩ := Event.endured_round_iff.mp hendured
      refine ⟨⟨(worker.updater.iterate input).updater, true, false⟩, ⟨rfl, rfl, ?_⟩, ?_⟩
      · exact (Updater.interval_iterate _ _).trans hworking.interval_eq
      · simp [live, round_eq hworking, hfault]

theorem alive_observe_stop (worker : Worker) : worker.stop.1.observe.alive = false := by
  simp [stop, observe]

theorem stopped_observe_stop (worker : Worker) : worker.stop.1.observe.stopped = true := by
  simp [stop, observe]

/-- Nothing happens any more once the worker has ended; in particular it stays stopped. -/
theorem live_of_not_alive (events : List Event) (halive : worker.alive = false) :
    (worker.live events).1.alive = false ∧ (worker.live events).2 = none ∧
      (worker.stopped = true → (worker.live events).1.stopped = true) := by
  induction events generalizing worker with
  | nil => exact ⟨halive, rfl, id⟩
  | cons event others ih =>
      cases event with
      | told =>
          obtain ⟨hended, hfault, hstopped⟩ := ih (alive_observe_stop worker)
          exact ⟨hended, hfault, fun _ => hstopped (stopped_observe_stop worker)⟩
      | round input told =>
          have hobserve : worker.observe.alive = false ∧
              (worker.stopped = true → worker.observe.stopped = true) := by
            unfold observe
            split <;> simp_all
          obtain ⟨hended, hfault, hstopped⟩ := ih hobserve.1
          have hround : worker.live (.round input told :: others) =
              worker.observe.live others := by
            simp [live, round, hobserve.1]
          rw [hround]
          exact ⟨hended, hfault, fun hbefore => hstopped (hobserve.2 hbefore)⟩

/-- An event that is not endured ends the worker: it tells the worker to stop, or it is a round with
a fault. -/
theorem Working.of_not_endured {event : Event} (others : List Event)
    (hworking : Working interval worker) (hendured : ¬ event.Endured interval) :
    (worker.live (event :: others)).1.alive = false ∧
      (event.tells = true ∧ (worker.live (event :: others)).1.stopped = true ∧
          (worker.live (event :: others)).2 = none ∨
        ∃ input told fault, event = .round input told ∧
          roundFault interval input told = some fault ∧
          (worker.live (event :: others)).2 = some fault) := by
  cases event with
  | told =>
      obtain ⟨hended, hfault, hstopped⟩ := live_of_not_alive others (alive_observe_stop worker)
      exact ⟨hended, .inl ⟨rfl, hstopped (stopped_observe_stop worker), hfault⟩⟩
  | round input told =>
      cases hround : roundFault interval input told with
      | some fault =>
          have hlive : worker.live (.round input told :: others) =
              (⟨(worker.updater.iterate input).updater, false, told⟩, some fault) := by
            simp [live, round_eq hworking, hround]
          rw [hlive]
          exact ⟨rfl, .inr ⟨input, told, fault, rfl, hround, rfl⟩⟩
      | none =>
          have htold : told = true := by
            by_contra hnot
            exact hendured (Event.endured_round_iff.mpr ⟨Bool.eq_false_of_not_eq_true hnot, hround⟩)
          subst htold
          let ended : Worker := ⟨(worker.updater.iterate input).updater, false, true⟩
          have hlive : worker.live (.round input true :: others) = ended.live others := by
            simp [live, round_eq hworking, hround, ended]
          have hnot : ended.alive = false := rfl
          obtain ⟨hended, hfault, hstopped⟩ := live_of_not_alive others hnot
          rw [hlive]
          exact ⟨hended, .inl ⟨rfl, hstopped rfl, hfault⟩⟩

/-- A worker endures all events, or it ends with the first that it does not endure. -/
theorem Working.live_cases (hworking : Working interval worker) (events : List Event) :
    (∀ event ∈ events, event.Endured interval) ∧ Working interval (worker.live events).1 ∧
        (worker.live events).2 = none ∨
      ∃ before event others, events = before ++ event :: others ∧
        (∀ earlier ∈ before, earlier.Endured interval) ∧
        (worker.live events).1.alive = false ∧
        (event.tells = true ∧ (worker.live events).1.stopped = true ∧
            (worker.live events).2 = none ∨
          ∃ input told fault, event = .round input told ∧
            roundFault interval input told = some fault ∧
            (worker.live events).2 = some fault) := by
  induction events generalizing worker with
  | nil => exact .inl ⟨by simp, hworking, rfl⟩
  | cons event others ih =>
      by_cases hendured : event.Endured interval
      · obtain ⟨next, hnext, hlive⟩ := hworking.of_endured others hendured
        rw [hlive]
        rcases ih hnext with ⟨hall, hrest⟩ | ⟨before, last, later, rfl, hbefore, hrest⟩
        · exact .inl ⟨List.forall_mem_cons.mpr ⟨hendured, hall⟩, hrest⟩
        · exact .inr ⟨event :: before, last, later, rfl,
            List.forall_mem_cons.mpr ⟨hendured, hbefore⟩, hrest⟩
      · exact .inr ⟨[], event, others, rfl, by simp, hworking.of_not_endured others hendured⟩

theorem working_start (assets : List Asset) (interval : Seconds) :
    Working interval (idle (.initial assets interval)).start.1 :=
  ⟨rfl, rfl, rfl⟩

theorem roundFault_whole {count : Nat} {fault : Fault}
    (hfault : roundFault (.whole count) input told = some fault) :
    2 ^ 1024 - 2 ^ 970 ≤ count ∧ fault = Seconds.overflow ∨
      told = false ∧ fault = pauseFault ∧ ∃ length, (Seconds.whole count).toDouble = .ok length ∧
        Seconds.isWaitable (pauseAfter length input) = false := by
  rcases Seconds.toDouble_whole count with ⟨-, length, hlength⟩ | ⟨hlarge, hoverflow⟩
  · simp only [roundFault, hlength] at hfault
    split at hfault
    · cases hfault
    · rename_i hneither
      obtain ⟨htold, hwaitable⟩ : told = false ∧
          Seconds.isWaitable (pauseAfter length input) = false := by
        simpa using hneither
      exact .inr ⟨htold, (Option.some.inj hfault).symm, length, hlength, hwaitable⟩
  · simp only [roundFault, hoverflow] at hfault
    exact .inl ⟨hlarge, (Option.some.inj hfault).symm⟩

/-- Whatever happens, a worker with a whole number of seconds as its interval is at work as long as
it endures all events, and then the pause after its next cycle is what is left of the interval, or
all of it after a failure.  It ends with the first event that it does not endure.  Either this one
tells it to stop, and then there is no fault, or it is a round with a fault: the interval has no
double, or the system cannot wait for the pause. -/
theorem endings_of_live (assets : List Asset) (interval : Nat) (events : List Event) :
    let worker := (idle (.initial assets (.whole interval))).start.1
    let after := (worker.live events).1
    let fault := (worker.live events).2
    ((∀ event ∈ events, event.Endured (.whole interval)) ∧ after.alive = true ∧
        after.stopped = false ∧ fault = none ∧
        ∀ input, (after.advance input).2.1 =
          (Seconds.whole interval).toDouble.toOption.map fun length => pauseAfter length input) ∨
      ∃ before event others, events = before ++ event :: others ∧
        (∀ earlier ∈ before, earlier.Endured (.whole interval)) ∧ after.alive = false ∧
        (event.tells = true ∧ after.stopped = true ∧ fault = none ∨
          ∃ input told, event = .round input told ∧
            (2 ^ 1024 - 2 ^ 970 ≤ interval ∧ fault = some Seconds.overflow ∨
              told = false ∧ fault = some pauseFault ∧
                ∃ length, (Seconds.whole interval).toDouble = .ok length ∧
                  Seconds.isWaitable (pauseAfter length input) = false)) := by
  intro worker after fault
  rcases (working_start assets (.whole interval)).live_cases events with
    ⟨hall, hworking, hfault⟩ | ⟨before, event, others, hevents, hbefore, hended, hcause⟩
  · exact .inl ⟨hall, hworking.alive_eq, hworking.stopped_eq, hfault, hworking.pause_advance⟩
  · refine .inr ⟨before, event, others, hevents, hbefore, hended, ?_⟩
    rcases hcause with htold | ⟨input, told, cause, hround, hcause, hfault⟩
    · exact .inl htold
    · refine .inr ⟨input, told, hround, ?_⟩
      rcases roundFault_whole hcause with ⟨hlarge, rfl⟩ | ⟨htold, rfl, hpause⟩
      · exact .inl ⟨hlarge, hfault⟩
      · exact .inr ⟨htold, hfault, hpause⟩

/-- The last whole number of seconds that the system can wait for, and the one after it. -/
example : [9223372036, 9223372037].map (fun count =>
    (Seconds.whole count).toDouble.toOption.map Seconds.isWaitable) = [some true, some false] := by
  decide

end PriceBoard.Worker
