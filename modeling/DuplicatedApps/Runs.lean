import Mathlib.Data.List.Forall2

set_option autoImplicit false

namespace Runs

variable {State Event : Type}

def run (step : State → Event → State) (start : State) (events : List Event) : State :=
  events.foldl step start

def trace (step : State → Event → State) : State → List Event → List State
  | state, [] => [state]
  | state, event :: rest => state :: trace step (step state event) rest

def Along (step : State → Event → State) (meets : State → Event → Prop) : State → List Event → Prop
  | _, [] => True
  | state, event :: rest => meets state event ∧ Along step meets (step state event) rest

instance alongDecidable (step : State → Event → State) (meets : State → Event → Prop)
    [∀ state event, Decidable (meets state event)] (state : State) (events : List Event) :
    Decidable (Along step meets state events) :=
  match events with
  | [] => inferInstanceAs (Decidable True)
  | event :: rest =>
      have := alongDecidable step meets (step state event) rest
      inferInstanceAs (Decidable (meets state event ∧ Along step meets (step state event) rest))

def outputs {Output : Type} (step : State → Event → State) (emit : State → Event → List Output) :
    State → List Event → List Output
  | _, [] => []
  | state, event :: rest => emit state event ++ outputs step emit (step state event) rest

section Rules

variable (step : State → Event → State) (meets : State → Event → Prop)

@[simp] theorem run_nil (start : State) : run step start [] = start := rfl

@[simp] theorem run_cons (start : State) (event : Event) (rest : List Event) :
    run step start (event :: rest) = run step (step start event) rest := rfl

theorem run_append (start : State) (front back : List Event) :
    run step start (front ++ back) = run step (run step start front) back :=
  List.foldl_append

theorem run_mem_trace (start : State) (events : List Event) : run step start events ∈ trace step start events := by
  induction events generalizing start with
  | nil => simp [trace]
  | cons event rest ih => exact List.mem_cons_of_mem _ (ih (step start event))

theorem invariant_trace (Inv : State → Prop)
    (keeps : ∀ state event, Inv state → meets state event → Inv (step state event))
    (start : State) (events : List Event) (holds : Inv start) (along : Along step meets start events) :
    ∀ reached ∈ trace step start events, Inv reached := by
  induction events generalizing start with
  | nil => simpa [trace] using holds
  | cons event rest ih =>
      intro reached member
      rcases List.mem_cons.mp member with same | later
      · exact same ▸ holds
      · exact ih (step start event) (keeps start event holds along.1) along.2 reached later

theorem invariant_run (Inv : State → Prop) (keeps : ∀ state event, Inv state → Inv (step state event))
    (start : State) (events : List Event) (holds : Inv start) : Inv (run step start events) := by
  induction events generalizing start with
  | nil => exact holds
  | cons event rest ih => exact ih (step start event) (keeps start event holds)

theorem invariant_events (Inv : State → Prop) (allowed : Event → Prop)
    (keeps : ∀ state event, Inv state → allowed event → Inv (step state event))
    (start : State) (events : List Event) (every : ∀ event ∈ events, allowed event) (holds : Inv start) :
    Inv (run step start events) := by
  induction events generalizing start with
  | nil => exact holds
  | cons event rest ih =>
      apply ih
      · intro other member
        exact every other (List.mem_cons_of_mem _ member)
      · exact keeps start event holds (every event List.mem_cons_self)

theorem potential_bound (potential : State → Nat) (counts : Event → Bool)
    (pays : ∀ state event, potential (step state event) ≤ potential state + (if counts event then 1 else 0))
    (start : State) (events : List Event) :
    potential (run step start events) ≤ potential start + events.countP counts := by
  induction events generalizing start with
  | nil => exact Nat.le_refl _
  | cons event rest ih =>
      have first := pays start event
      have later := ih (step start event)
      rw [run_cons, List.countP_cons]
      omega

-- The converse of the guarded rule: where the first step off the condition is
-- seen at once, a run that stays good has met the condition at every step.
theorem along_of_good (Inv Good : State → Prop)
    (keeps : ∀ state event, Inv state → meets state event → Inv (step state event))
    (seen : ∀ state event, Inv state → Good (step state event) → meets state event)
    (start : State) (events : List Event) (holds : Inv start)
    (good : ∀ reached ∈ trace step start events, Good reached) : Along step meets start events := by
  induction events generalizing start with
  | nil => trivial
  | cons event rest ih =>
      have later : ∀ reached ∈ trace step (step start event) rest, Good reached :=
        fun reached member => good reached (List.mem_cons_of_mem _ member)
      have next : Good (step start event) := by
        apply later
        cases rest <;> simp [trace]
      have met := seen start event holds next
      exact ⟨met, ih (step start event) (keeps start event holds met) later⟩

theorem along_iff (other : State → Event → Prop) (Inv : State → Prop)
    (keeps : ∀ state event, Inv state → meets state event → Inv (step state event))
    (same : ∀ state event, Inv state → (other state event ↔ meets state event))
    (start : State) (events : List Event) (holds : Inv start) :
    Along step other start events ↔ Along step meets start events := by
  induction events generalizing start with
  | nil => exact Iff.rfl
  | cons event rest ih =>
      rw [Along, Along, same start event holds]
      apply and_congr_right
      intro met
      exact ih (step start event) (keeps start event holds met)

theorem related_traces (related : State → State → Prop) (alike : Event → Event → Prop)
    (keeps : ∀ a b e f, related a b → alike e f → related (step a e) (step b f))
    (a b : State) (events others : List Event) (start : related a b) (pairs : List.Forall₂ alike events others) :
    List.Forall₂ related (trace step a events) (trace step b others) := by
  induction pairs generalizing a b with
  | nil => exact .cons start .nil
  | cons pair _ ih => exact .cons start (ih _ _ (keeps _ _ _ _ start pair))

theorem invariant_outputs_events {Output : Type} (emit : State → Event → List Output) (allowed : Event → Prop)
    (Inv : List Output → State → Prop)
    (keeps : ∀ past state event, Inv past state → allowed event → Inv (past ++ emit state event) (step state event))
    (start : State) (events : List Event) (every : ∀ event ∈ events, allowed event) (holds : Inv [] start) :
    Inv (outputs step emit start events) (run step start events) := by
  have general : ∀ past state, Inv past state → Inv (past ++ outputs step emit state events) (run step state events) := by
    induction events with
    | nil =>
        intro past state now
        simpa [outputs] using now
    | cons event rest ih =>
        intro past state now
        have first := keeps past state event now (every event List.mem_cons_self)
        have next := ih (fun other member => every other (List.mem_cons_of_mem _ member)) (past ++ emit state event)
          (step state event) first
        simpa [outputs] using next
  simpa using general [] start holds

theorem invariant_outputs {Output : Type} (emit : State → Event → List Output) (Inv : List Output → State → Prop)
    (keeps : ∀ past state event, Inv past state → Inv (past ++ emit state event) (step state event))
    (start : State) (events : List Event) (holds : Inv [] start) :
    Inv (outputs step emit start events) (run step start events) :=
  invariant_outputs_events step emit (fun _ => True) Inv (fun past state event now _ => keeps past state event now) start
    events (fun _ _ => trivial) holds

theorem outputs_append {Output : Type} (emit : State → Event → List Output) (start : State) (front back : List Event) :
    outputs step emit start (front ++ back) =
      outputs step emit start front ++ outputs step emit (run step start front) back := by
  induction front generalizing start with
  | nil => rfl
  | cons event rest ih =>
      rw [List.cons_append, outputs, ih, outputs, List.append_assoc]
      rfl

theorem outputs_flatMap {Output : Type} (emit : Event → List Output) (start : State) (events : List Event) :
    outputs step (fun _ => emit) start events = events.flatMap emit := by
  induction events generalizing start with
  | nil => rfl
  | cons event rest ih => rw [outputs, ih, List.flatMap_cons]

theorem invariant_history (Inv : List Event → State → Prop)
    (keeps : ∀ past state event, Inv past state → Inv (past ++ [event]) (step state event))
    (start : State) (events : List Event) (holds : Inv [] start) : Inv events (run step start events) := by
  have kept := invariant_outputs step (fun _ event => [event]) Inv keeps start events holds
  rwa [outputs_flatMap, List.flatMap_singleton'] at kept

theorem simulation_run {Other Output : Type} (emit : State → Event → List Output) (other : Other → Output → Other)
    (related : State → Other → Prop)
    (simulates : ∀ state follower event, related state follower →
      related (step state event) (run other follower (emit state event)))
    (start : State) (follower : Other) (events : List Event) (begin : related start follower) :
    related (run step start events) (run other follower (outputs step emit start events)) := by
  induction events generalizing start follower with
  | nil => exact begin
  | cons event rest ih =>
      rw [run_cons, outputs, run_append]
      exact ih (step start event) _ (simulates start follower event begin)

theorem simulated_run {View Output : Type} (emit : State → Event → List Output) (view : State → View)
    (other : View → Output → View)
    (simulates : ∀ state event, view (step state event) = run other (view state) (emit state event))
    (start : State) (events : List Event) :
    view (run step start events) = run other (view start) (outputs step emit start events) := by
  apply simulation_run step emit other (fun state seen => view state = seen)
  · intro state seen event same
    rw [← same]
    exact simulates state event
  · rfl

section Settling

variable (weight : State → Nat) (allowed : Event → Prop)

theorem along_every (start : State) (events : List Event) (along : Along step (fun _ event => allowed event) start events) :
    ∀ event ∈ events, allowed event := by
  induction events generalizing start with
  | nil => exact fun event member => absurd member List.not_mem_nil
  | cons first rest ih =>
      intro event member
      rcases List.mem_cons.mp member with rfl | later
      · exact along.1
      · exact ih (step start first) along.2 event later

theorem reaches_rest (Rest : State → Prop)
    (progress : ∀ state, ¬ Rest state → ∃ event, meets state event ∧ weight (step state event) < weight state)
    (start : State) :
    ∃ events, Along step meets start events ∧ events.length ≤ weight start ∧ Rest (run step start events) := by
  induction bound : weight start using Nat.strongRecOn generalizing start with
  | ind height ih =>
      by_cases rest : Rest start
      · exact ⟨[], trivial, Nat.zero_le _, rest⟩
      · obtain ⟨event, meeting, lighter⟩ := progress start rest
        obtain ⟨events, along, few, finished⟩ := ih _ (by omega) (step start event) rfl
        refine ⟨event :: events, ⟨meeting, along⟩, ?_, finished⟩
        rw [List.length_cons]
        omega

end Settling

end Rules

def attempt (step : State → Event → Option State) (state : Option State) (event : Event) : Option State :=
  state.bind fun state => step state event

section Attempts

variable (step : State → Event → Option State)

theorem invariant_attempts (Inv : State → Prop)
    (keeps : ∀ state event, Inv state → ∃ next, step state event = some next ∧ Inv next)
    (start : State) (events : List Event) (holds : Inv start) :
    ∀ reached ∈ trace (attempt step) (some start) events, ∃ state, reached = some state ∧ Inv state := by
  induction events generalizing start with
  | nil =>
      intro reached member
      exact ⟨start, List.mem_singleton.mp member, holds⟩
  | cons event rest ih =>
      intro reached member
      obtain ⟨next, succeeds, kept⟩ := keeps start event holds
      rcases List.mem_cons.mp member with same | later
      · exact ⟨start, same, holds⟩
      · have first : attempt step (some start) event = some next := succeeds
        rw [first] at later
        exact ih next kept reached later

end Attempts

end Runs
