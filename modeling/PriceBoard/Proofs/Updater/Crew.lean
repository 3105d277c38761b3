import PriceBoard.Updater.Crew

/-!
# The life of the workers

However often an updater is started and stopped, and whatever its workers do in between, at most one
of them is at work.  Once the updater has been stopped it never gets another one, and the worker it
still has begins no further cycle (`lifecycle_after`).

## Strategy

The updater asks only the worker it refers to whether it is at work.  This is enough because no other
worker can be (`Sound`): a worker that has ended stays so, and a new one is started only when the one
before has ended, and becomes the one the updater refers to.
-/

namespace PriceBoard

variable {updater : Updater} {move : Move} {told : Bool}

/-! ## Moves -/

/-- No move brings back a worker that has ended. -/
theorem Phase.isAlive_of_isAlive_next {phase : Phase}
    (halive : (phase.next told updater move).2.isAlive = true) : phase.isAlive = true := by
  cases phase with
  | ended => cases move <;> simp [next, isAlive] at halive
  | head => rfl
  | cycle => rfl
  | pause length => rfl

/-- A worker that has been told to stop does not enter a cycle. -/
theorem Phase.eq_cycle_of_next {phase : Phase}
    (hcycle : (phase.next true updater move).2 = .cycle) : phase = .cycle := by
  cases phase with
  | cycle => rfl
  | head => cases move <;> simp [next] at hcycle
  | pause length => cases move <;> simp [next] at hcycle
  | ended => cases move <;> simp [next] at hcycle

namespace Crew

variable {crew : Crew} {phase : Phase} {index : Nat} {event : Event}

theorem isAtWork_iff :
    crew.isAtWork index = true ↔
      ∃ phase, crew.workers[index]? = some phase ∧ phase.isAlive = true := by
  simp [isAtWork, Option.any_eq_true]

theorem lt_of_isAtWork (hatWork : crew.isAtWork index = true) : index < crew.workers.length := by
  obtain ⟨phase, hphase, -⟩ := isAtWork_iff.mp hatWork
  exact (List.getElem?_eq_some_iff.mp hphase).1

theorem afterEvent_moves (hphase : crew.workers[index]? = some phase) (move : Move) :
    crew.afterEvent (.moves index move) =
      { crew with
        updater := (phase.next crew.told crew.updater move).1
        workers := crew.workers.set index (phase.next crew.told crew.updater move).2 } := by
  simp [afterEvent, hphase]

theorem afterEvent_moves_of_none (hnone : crew.workers[index]? = none) (move : Move) :
    crew.afterEvent (.moves index move) = crew := by
  simp [afterEvent, hnone]

/-- Where the workers are after a move of one of them: only this one may have gone on. -/
theorem exists_phase_before {other : Nat} {reached : Phase}
    (hreached : (crew.afterEvent (.moves index move)).workers[other]? = some reached) :
    ∃ phase, crew.workers[other]? = some phase ∧
      (reached = phase ∨ reached = (phase.next crew.told crew.updater move).2) := by
  cases hphase : crew.workers[index]? with
  | none =>
      rw [afterEvent_moves_of_none hphase] at hreached
      exact ⟨reached, hreached, .inl rfl⟩
  | some phase =>
      rw [afterEvent_moves hphase] at hreached
      by_cases hsame : index = other
      · subst hsame
        have hlt : index < crew.workers.length := (List.getElem?_eq_some_iff.mp hphase).1
        rw [List.getElem?_set_self hlt] at hreached
        exact ⟨phase, hphase, .inr (Option.some.inj hreached).symm⟩
      · rw [List.getElem?_set_ne hsame] at hreached
        exact ⟨reached, hreached, .inl rfl⟩

/-! ## Starting -/

/-- While the worker is at work, starting changes nothing. -/
theorem start_of_isRunning (hrunning : crew.isRunning = true) :
    crew.start = (crew, .ok false, []) := by
  have hseen : crew.seen.start = (crew.seen, .ok false, []) := by
    simp [seen, Worker.start, hrunning]
  simp [start, hseen]

/-- After a stop, starting is refused once the worker has ended. -/
theorem start_of_stopped (hrunning : crew.isRunning = false) (hstopped : crew.stopped = true) :
    crew.start = (crew, .error Worker.restartFault, []) := by
  have hseen : crew.seen.start = (crew.seen, .error Worker.restartFault, []) := by
    simp [seen, Worker.start, hrunning, hstopped]
  simp [start, hseen]

/-- In all other cases there is a new worker, and the updater refers to it. -/
theorem start_of_ready (hrunning : crew.isRunning = false) (hstopped : crew.stopped = false) :
    crew.start =
      ({ crew with workers := crew.workers ++ [.head], current := some crew.workers.length },
        .ok true, [Worker.startNote crew.updater]) := by
  have hseen : crew.seen.start =
      ({ crew.seen with alive := true }, .ok true, [Worker.startNote crew.updater]) := by
    simp [seen, Worker.start, hrunning, hstopped]
  simp only [start, hseen]

/-- What starting does to the crew: nothing, or it brings in a new worker. -/
theorem start_cases (crew : Crew) :
    crew.start.1 = crew ∨
      crew.isRunning = false ∧ crew.stopped = false ∧ crew.start.1 =
        { crew with workers := crew.workers ++ [.head], current := some crew.workers.length } := by
  cases hrunning : crew.isRunning with
  | true => exact .inl (by rw [start_of_isRunning hrunning])
  | false =>
      cases hstopped : crew.stopped with
      | true => exact .inl (by rw [start_of_stopped hrunning hstopped])
      | false => exact .inr ⟨rfl, rfl, by rw [start_of_ready hrunning hstopped, hstopped]⟩

/-! ## The worker that the updater refers to -/

/-- The workers know of a stop, and none of them is at work but the one the updater refers to. -/
structure Sound (crew : Crew) : Prop where
  told_eq : crew.told = crew.stopped
  current_eq : ∀ index, crew.isAtWork index = true → crew.current = some index

theorem sound_initial (updater : Updater) : Sound (initial updater) := by
  refine ⟨rfl, ?_⟩
  intro index hatWork
  exact absurd (lt_of_isAtWork hatWork) (Nat.not_lt_zero index)

theorem Sound.start (hsound : Sound crew) : Sound crew.start.1 := by
  rcases start_cases crew with hsame | ⟨hrunning, -, hnew⟩
  · rw [hsame]
    exact hsound
  · rw [hnew]
    refine ⟨hsound.told_eq, ?_⟩
    intro index hatWork
    obtain ⟨phase, hphase, halive⟩ := isAtWork_iff.mp hatWork
    rcases Nat.lt_or_ge index crew.workers.length with hlt | hge
    · -- an older worker at work would be the one that the updater has just asked
      rw [List.getElem?_append_left hlt] at hphase
      have hbefore : crew.isAtWork index = true := isAtWork_iff.mpr ⟨phase, hphase, halive⟩
      have hrefers : crew.isRunning = true := by
        simp [isRunning, hsound.current_eq index hbefore, hbefore]
      rw [hrunning] at hrefers
      cases hrefers
    · have hupper := lt_of_isAtWork hatWork
      rw [List.length_append, List.length_singleton] at hupper
      have hlast : crew.workers.length = index := by omega
      exact congrArg some hlast

theorem Sound.moves (hsound : Sound crew) (index : Nat) (move : Move) :
    Sound (crew.afterEvent (.moves index move)) := by
  have hkept : ∀ other, (crew.afterEvent (.moves index move)).isAtWork other = true →
      crew.isAtWork other = true := by
    intro other hatWork
    obtain ⟨reached, hreached, halive⟩ := isAtWork_iff.mp hatWork
    obtain ⟨phase, hphase, rfl | rfl⟩ := exists_phase_before hreached
    · exact isAtWork_iff.mpr ⟨_, hphase, halive⟩
    · exact isAtWork_iff.mpr ⟨_, hphase, Phase.isAlive_of_isAlive_next halive⟩
  cases hphase : crew.workers[index]? with
  | none =>
      rw [afterEvent_moves_of_none hphase]
      exact hsound
  | some phase =>
      rw [afterEvent_moves hphase] at hkept ⊢
      exact ⟨hsound.told_eq, fun other hatWork => hsound.current_eq other (hkept other hatWork)⟩

theorem Sound.afterEvent (hsound : Sound crew) (event : Event) : Sound (crew.afterEvent event) := by
  cases event with
  | start => exact hsound.start
  | stop => exact ⟨rfl, hsound.current_eq⟩
  | moves index move => exact hsound.moves index move

theorem Sound.after (hsound : Sound crew) (events : List Event) : Sound (crew.after events) := by
  induction events generalizing crew with
  | nil => exact hsound
  | cons event others ih => exact ih (hsound.afterEvent event)

/-- So the updater sees whether any worker is at work. -/
theorem Sound.isRunning_iff (hsound : Sound crew) :
    crew.isRunning = true ↔ ∃ index, crew.isAtWork index = true := by
  constructor
  · intro hrunning
    obtain ⟨index, -, hatWork⟩ := (Option.any_eq_true _ _).mp hrunning
    exact ⟨index, hatWork⟩
  · rintro ⟨index, hatWork⟩
    simp [isRunning, hsound.current_eq index hatWork, hatWork]

/-! ## After a stop -/

theorem stopped_afterEvent (hstopped : crew.stopped = true) (event : Event) :
    (crew.afterEvent event).stopped = true := by
  cases event with
  | stop => rfl
  | start =>
      rcases start_cases crew with hsame | ⟨-, hnot, -⟩
      · exact (congrArg Crew.stopped hsame).trans hstopped
      · rw [hstopped] at hnot
        cases hnot
  | moves index move =>
      cases hphase : crew.workers[index]? with
      | none => rwa [afterEvent_moves_of_none hphase]
      | some phase => rwa [afterEvent_moves hphase]

theorem stopped_after_of_stopped (hstopped : crew.stopped = true) (events : List Event) :
    (crew.after events).stopped = true := by
  induction events generalizing crew with
  | nil => exact hstopped
  | cons event others ih => exact ih (stopped_afterEvent hstopped event)

theorem stopped_after_of_mem {events : List Event} (hmem : .stop ∈ events) (crew : Crew) :
    (crew.after events).stopped = true := by
  induction events generalizing crew with
  | nil => cases hmem
  | cons event others ih =>
      rcases List.mem_cons.mp hmem with rfl | hlater
      · exact stopped_after_of_stopped rfl others
      · exact ih hlater (crew.afterEvent event)

/-- What an event does to the workers of an updater that has been stopped. -/
theorem Sound.workers_afterEvent (hsound : Sound crew) (hstopped : crew.stopped = true)
    (event : Event) :
    (crew.afterEvent event).workers.length = crew.workers.length ∧
      ∀ index : Nat, (crew.afterEvent event).workers[index]? = some Phase.cycle →
        crew.workers[index]? = some Phase.cycle := by
  cases event with
  | stop => exact ⟨rfl, fun index hcycle => hcycle⟩
  | start =>
      have hsame : crew.afterEvent .start = crew := by
        rcases start_cases crew with hsame | ⟨-, hnot, -⟩
        · exact hsame
        · rw [hstopped] at hnot
          cases hnot
      rw [hsame]
      exact ⟨rfl, fun index hcycle => hcycle⟩
  | moves mover move =>
      have htold : crew.told = true := hsound.told_eq.trans hstopped
      constructor
      · cases hphase : crew.workers[mover]? with
        | none => rw [afterEvent_moves_of_none hphase]
        | some phase => rw [afterEvent_moves hphase, List.length_set]
      · intro index hcycle
        obtain ⟨phase, hphase, hsame | hnext⟩ := exists_phase_before hcycle
        · rw [hphase, hsame]
        · rw [htold] at hnext
          rw [hphase, Phase.eq_cycle_of_next hnext.symm]

/-- Once the updater has been stopped it gets no more workers, and they enter no more cycles. -/
theorem Sound.workers_after (hsound : Sound crew) (hstopped : crew.stopped = true)
    (events : List Event) :
    (crew.after events).workers.length = crew.workers.length ∧
      ∀ index : Nat, (crew.after events).workers[index]? = some Phase.cycle →
        crew.workers[index]? = some Phase.cycle := by
  induction events generalizing crew with
  | nil => exact ⟨rfl, fun index hcycle => hcycle⟩
  | cons event others ih =>
      obtain ⟨hlength, hcycles⟩ := hsound.workers_afterEvent hstopped event
      obtain ⟨hlaterLength, hlaterCycles⟩ :=
        ih (hsound.afterEvent event) (stopped_afterEvent hstopped event)
      exact ⟨hlaterLength.trans hlength,
        fun index hcycle => hcycles index (hlaterCycles index hcycle)⟩

/-! ## What the updater sees -/

/-- Starting looks the same to the updater as to the crew. -/
theorem seen_start (crew : Crew) : crew.start.1.seen = crew.seen.start.1 := by
  cases hrunning : crew.isRunning with
  | true =>
      rw [start_of_isRunning hrunning]
      simp [seen, Worker.start, hrunning]
  | false =>
      cases hstopped : crew.stopped with
      | true =>
          rw [start_of_stopped hrunning hstopped]
          simp [seen, Worker.start, hrunning, hstopped]
      | false =>
          have hnew : crew.start.1.isRunning = true := by
            rw [start_of_ready hrunning hstopped]
            simp [isRunning, isAtWork, Phase.isAlive]
          have hafter : crew.start.1.seen = ⟨crew.updater, true, false⟩ := by
            rw [seen, hnew, start_of_ready hrunning hstopped, hstopped]
          rw [hafter]
          simp [seen, Worker.start, hrunning, hstopped]

/-- The updater refers to a worker that has reached this place, and the workers know whether it has
been stopped. -/
structure Follows (crew : Crew) (index : Nat) (phase : Phase) (updater : Updater)
    (stopped : Bool) : Prop where
  current_eq : crew.current = some index
  phase_eq : crew.workers[index]? = some phase
  updater_eq : crew.updater = updater
  told_eq : crew.told = stopped
  stopped_eq : crew.stopped = stopped

variable {stopped : Bool}

theorem Follows.seen_eq (hfollows : Follows crew index phase updater stopped) :
    crew.seen = ⟨updater, phase.isAlive, stopped⟩ := by
  simp [seen, isRunning, isAtWork, hfollows.current_eq, hfollows.phase_eq, hfollows.updater_eq,
    hfollows.stopped_eq]

theorem Follows.stop (hfollows : Follows crew index phase updater stopped) :
    Follows (crew.afterEvent .stop) index phase updater true :=
  ⟨hfollows.current_eq, hfollows.phase_eq, hfollows.updater_eq, rfl, rfl⟩

theorem Follows.moves (hfollows : Follows crew index phase updater stopped) (move : Move) :
    Follows (crew.afterEvent (.moves index move)) index (phase.next stopped updater move).2
      (phase.next stopped updater move).1 stopped := by
  obtain ⟨hcurrent, hphase, rfl, rfl, hstopped⟩ := hfollows
  rw [afterEvent_moves hphase]
  refine ⟨hcurrent, ?_, rfl, rfl, hstopped⟩
  exact List.getElem?_set_self (List.getElem?_eq_some_iff.mp hphase).1

/-- The moves of a worker that goes round once and may be told to stop during its cycle. -/
def roundOf (index : Nat) (input : CycleInput) (told : Bool) : List Event :=
  [.moves index .look, .moves index (.finish input)] ++ (if told then [.stop] else []) ++
    [.moves index .wake]

/-- A round of the worker that the updater refers to is what the updater sees of its moves. -/
theorem Follows.seen_round (hhead : Follows crew index .head updater stopped)
    (input : CycleInput) (told : Bool) :
    (crew.after (roundOf index input told)).seen = (crew.seen.round input told).1 := by
  have hcycled := (hhead.moves .look).moves (.finish input)
  rw [hhead.seen_eq]
  cases told with
  | true =>
      calc (crew.after (roundOf index input true)).seen
        _ = _ := (hcycled.stop.moves .wake).seen_eq
        _ = _ := by
          cases stopped with
          | true => simp [Phase.next, Phase.isAlive, Worker.round, Worker.observe]
          | false =>
              cases hresult : (updater.iterate input).result <;>
                simp [Phase.next, Phase.isAlive, Worker.round, Worker.advance, Worker.observe,
                  Worker.rest, Worker.stop, hresult]
  | false =>
      calc (crew.after (roundOf index input false)).seen
        _ = _ := (hcycled.moves .wake).seen_eq
        _ = _ := by
          cases stopped with
          | true => simp [Phase.next, Phase.isAlive, Worker.round, Worker.observe]
          | false =>
              cases hresult : (updater.iterate input).result with
              | error fault =>
                  simp [Phase.next, Phase.isAlive, Worker.round, Worker.advance, Worker.observe,
                    hresult]
              | ok length =>
                  by_cases hwaitable : Seconds.isWaitable length = true <;>
                    simp [Phase.next, Phase.isAlive, Worker.round, Worker.advance, Worker.observe,
                      Worker.rest, hresult, hwaitable]

/-- Whatever happens to an updater and its workers, at most one of them is at work, and while one is,
starting changes nothing.  At any moment after a stop, starting is refused if no worker is at work;
and whatever happens from then on, there are no more workers than there are now, and a worker that
is not in a cycle does not enter one. -/
theorem lifecycle_after (updater : Updater) (events : List Event) :
    let crew := (initial updater).after events
    (∀ first second, crew.isAtWork first = true → crew.isAtWork second = true → first = second) ∧
      (∀ index, crew.isAtWork index = true → crew.start = (crew, .ok false, [])) ∧
      (.stop ∈ events →
        ((∀ index, crew.isAtWork index = false) →
          crew.start = (crew, .error Worker.restartFault, [])) ∧
        ∀ later, (crew.after later).workers.length = crew.workers.length ∧
          ∀ index : Nat, crew.workers[index]? ≠ some Phase.cycle →
            (crew.after later).workers[index]? ≠ some Phase.cycle) := by
  intro crew
  have hsound : Sound crew := (sound_initial updater).after events
  refine ⟨?_, ?_, ?_⟩
  · intro first second hfirst hsecond
    have hcurrent := hsound.current_eq first hfirst
    rw [hsound.current_eq second hsecond] at hcurrent
    exact (Option.some.inj hcurrent).symm
  · intro index hatWork
    exact start_of_isRunning (hsound.isRunning_iff.mpr ⟨index, hatWork⟩)
  · intro hmem
    have hstopped : crew.stopped = true := stopped_after_of_mem hmem (initial updater)
    constructor
    · intro hnone
      have hrunning : crew.isRunning = false := by
        apply Bool.eq_false_iff.mpr
        intro hrunning
        obtain ⟨index, hatWork⟩ := hsound.isRunning_iff.mp hrunning
        rw [hnone index] at hatWork
        cases hatWork
      exact start_of_stopped hrunning hstopped
    · intro later
      obtain ⟨hlength, hcycles⟩ := hsound.workers_after hstopped later
      exact ⟨hlength, fun index hnot hcycle => hnot (hcycles index hcycle)⟩

/-- A stop that comes while a worker is in its cycle: the worker is still there, so that starting
does nothing, and is refused only later. -/
example :
    let crew := (initial (.initial [] (.whole 10))).after [.start, .moves 0 .look, .stop]
    crew.start.2.1.toOption = some false ∧
      (crew.after [.moves 0 (.fail crew.updater)]).start.2.1.toOption = none := by
  decide

end Crew

end PriceBoard
