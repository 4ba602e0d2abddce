import Mathlib.Algebra.BigOperators.Group.Multiset.Defs
import DuplicatedApps.Resubmission
import DuplicatedApps.SessionScreen

set_option autoImplicit false

namespace DuplicatedApps

open Runs

def Call.weight : Call → Nat
  | .signIn _ _ .sent => 3
  | .signIn _ _ (.executed _) => 2
  | .signIn _ _ (.received _) => 1
  | .createUser _ _ .sent => 7
  | .createUser _ _ (.executed _) => 6
  | .createUser _ _ (.received _) => 5
  | .setData _ _ _ .sent => 4
  | .setData _ _ _ (.executed _) => 3
  | .setData _ _ _ (.received _) => 2

def App.weight (app : App) : Nat :=
  (app.calls.map Call.weight).sum + app.transitions.card + app.mutationQueue.card

-- How the backend answers: every request and every write for itself, at any time.
structure Policy where
  signIn : App → Nat → LoginUserRequest → SignInResult
  created : App → Nat → RegisterUserRequest → CreateUserResult
  written : App → Uid → Document → Option NSError

section Weights

variable (app : App) (call new : Call)

theorem forget_weight (inFlight : call ∈ app.calls) : (app.forget call).weight + call.weight = app.weight := by
  have before := congrArg (fun calls => (calls.map Call.weight).sum) (Multiset.cons_erase inFlight)
  simp only [Multiset.map_cons, Multiset.sum_cons] at before
  simp only [App.weight, App.forget]
  omega

theorem send_weight : (app.send new).weight = app.weight + new.weight := by
  simp only [App.weight, App.send, Multiset.map_cons, Multiset.sum_cons]
  omega

theorem exchange_lighter (backend : Backend) (inFlight : call ∈ app.calls) (less : new.weight < call.weight) :
    (((app.forget call).send new).setBackend backend).weight < app.weight := by
  have forgotten := forget_weight app call inFlight
  have sent : (((app.forget call).send new).setBackend backend).weight = (app.forget call).weight + new.weight :=
    send_weight (app.forget call) new
  omega

theorem sign_in_completion_weight (login : Nat) (answer : SignInResult) :
    (app.signInCompletion login (signInCallback answer)).weight = app.weight := by
  rcases App.sign_in_completion_cases app login answer with ⟨error, _, presented⟩ | ⟨user, _, _, pushed⟩ | ⟨user, _, _, same⟩
  · rw [presented]
    rfl
  · rw [pushed]
    rfl
  · rw [same]

theorem register_user_completion_weight (signUp : Nat) (wasRegistered : Bool) (error : Option NSError) :
    (app.registerUserCompletion signUp wasRegistered error).weight ≤ app.weight + 1 := by
  rcases App.register_user_completion_cases app signUp wasRegistered error with ⟨checked, _⟩ | ⟨same | ⟨alert, presented⟩, _⟩
  · rw [checked]
    simp only [App.weight, App.checkAuthentication, Multiset.card_cons]
    omega
  · rw [same]
    omega
  · rw [presented]
    exact Nat.le_succ _

end Weights

section Rest

variable (icu : WordCharacters) (replies : Replies) (app : App)

theorem sign_in_advance_lighter (login : Nat) (request : LoginUserRequest) (phase : Phase SignInResult)
    (inFlight : .signIn login request phase ∈ app.calls) :
    (app.advance replies (.signIn login request phase)).weight < app.weight := by
  cases phase with
  | sent =>
      rw [App.advance, App.execute, if_pos inFlight]
      exact exchange_lighter app _ _ _ inFlight (Nat.lt_succ_self 2)
  | executed answer =>
      rw [App.advance, App.receive_sign_in app login request answer inFlight]
      exact exchange_lighter app _ _ _ inFlight (Nat.lt_succ_self 1)
  | received answer =>
      have forgotten := forget_weight app _ inFlight
      rw [App.advance, App.complete_sign_in app login request answer inFlight, sign_in_completion_weight]
      rw [← forgotten]
      exact Nat.lt_succ_self _

theorem create_user_advance_lighter (signUp : Nat) (request : RegisterUserRequest) (phase : Phase CreateUserResult)
    (inFlight : .createUser signUp request phase ∈ app.calls) :
    (app.advance replies (.createUser signUp request phase)).weight < app.weight := by
  cases phase with
  | sent =>
      rw [App.advance, App.execute, if_pos inFlight]
      exact exchange_lighter app _ _ _ inFlight (Nat.lt_succ_self 6)
  | executed answer =>
      rw [App.advance, App.receive_create_user app signUp request answer inFlight]
      exact exchange_lighter app _ _ _ inFlight (Nat.lt_succ_self 5)
  | received answer =>
      rw [App.advance]
      cases next : createUserCallback request answer with
      | completion wasRegistered error =>
          have forgotten := forget_weight app _ inFlight
          have completed := register_user_completion_weight (app.forget (.createUser signUp request (.received answer)))
            signUp wasRegistered error
          rw [App.complete_create_user_failed app signUp request answer inFlight wasRegistered error next]
          rw [Call.weight] at forgotten
          omega
      | setData uid data =>
          rw [App.complete_create_user_writes app signUp request answer inFlight uid data next]
          exact exchange_lighter app _ _ app.backend inFlight (Nat.lt_succ_self 4)

theorem set_data_advance_lighter (signUp : Nat) (uid : Uid) (data : Document) (phase : Phase (Option NSError))
    (inFlight : .setData signUp uid data phase ∈ app.calls) :
    (app.advance replies (.setData signUp uid data phase)).weight < app.weight := by
  cases phase with
  | sent =>
      rw [App.advance, App.execute, if_pos inFlight]
      exact exchange_lighter app _ _ _ inFlight (Nat.lt_succ_self 3)
  | executed answer =>
      rw [App.advance, App.receive_set_data app signUp uid data answer inFlight]
      exact exchange_lighter app _ _ app.backend inFlight (Nat.lt_succ_self 2)
  | received answer =>
      have forgotten := forget_weight app _ inFlight
      have completed := register_user_completion_weight (app.forget (.setData signUp uid data (.received answer))) signUp
        (setDataCallback answer).1 (setDataCallback answer).2
      rw [App.advance, App.complete_set_data app signUp uid data answer inFlight]
      rw [Call.weight] at forgotten
      omega

theorem advance_lighter (call : Call) (inFlight : call ∈ app.calls) : (app.advance replies call).weight < app.weight := by
  cases call with
  | signIn login request phase => exact sign_in_advance_lighter replies app login request phase inFlight
  | createUser signUp request phase => exact create_user_advance_lighter replies app signUp request phase inFlight
  | setData signUp uid data phase => exact set_data_advance_lighter replies app signUp uid data phase inFlight

theorem transition_lighter (controller : Screen) (pending : controller ∈ app.transitions) :
    (app.rootTransition controller).weight < app.weight := by
  have fewer := Multiset.card_erase_add_one pending
  rw [App.rootTransition, if_pos pending]
  simp only [App.weight]
  omega

def nextEvent : Call → AppEvent
  | .signIn login request .sent => .executeSignIn login request replies.signIn
  | .createUser signUp request .sent => .executeCreateUser signUp request replies.created
  | .setData signUp uid data .sent => .executeSetData signUp uid data replies.written
  | .signIn login request (.executed answer) => .receive (.signIn login request (.executed answer))
  | .createUser signUp request (.executed answer) => .receive (.createUser signUp request (.executed answer))
  | .setData signUp uid data (.executed answer) => .receive (.setData signUp uid data (.executed answer))
  | call => .complete call

theorem next_event_advances (call : Call) :
    replies.Handles (nextEvent replies call) ∧ app.step icu (nextEvent replies call) = app.advance replies call := by
  cases call with
  | signIn login request phase =>
      cases phase with
      | sent => exact ⟨rfl, rfl⟩
      | executed answer => exact ⟨trivial, rfl⟩
      | received answer => exact ⟨trivial, rfl⟩
  | createUser signUp request phase =>
      cases phase with
      | sent => exact ⟨rfl, rfl⟩
      | executed answer => exact ⟨trivial, rfl⟩
      | received answer => exact ⟨trivial, rfl⟩
  | setData signUp uid data phase =>
      cases phase with
      | sent => exact ⟨rfl, rfl⟩
      | executed answer => exact ⟨trivial, rfl⟩
      | received answer => exact ⟨trivial, rfl⟩

theorem busy_lightens (answers : Call → Replies) (busy : ¬ app.Quiescent) :
    (∃ call, (app.step icu (nextEvent (answers call) call)).weight < app.weight) ∨
      ∃ controller, (app.step icu (.rootTransition controller)).weight < app.weight := by
  by_cases calls : app.calls = 0
  · have waiting : app.transitions ≠ 0 := fun none => busy ⟨calls, none⟩
    obtain ⟨controller, pending⟩ := Multiset.exists_mem_of_ne_zero waiting
    exact .inr ⟨controller, transition_lighter app controller pending⟩
  · obtain ⟨call, inFlight⟩ := Multiset.exists_mem_of_ne_zero calls
    left
    refine ⟨call, ?_⟩
    rw [(next_event_advances icu (answers call) app call).2]
    exact advance_lighter (answers call) app call inFlight

theorem busy_progresses (busy : ¬ app.Quiescent) :
    ∃ event, replies.Handles event ∧ (app.step icu event).weight < app.weight := by
  rcases busy_lightens icu app (fun _ => replies) busy with ⟨call, lighter⟩ | ⟨controller, lighter⟩
  · exact ⟨_, (next_event_advances icu replies app call).1, lighter⟩
  · exact ⟨.rootTransition controller, trivial, lighter⟩

end Rest

def Policy.replies (policy : Policy) (app : App) : Call → Replies
  | .signIn login request _ => ⟨policy.signIn app login request, .noUser, none⟩
  | .createUser signUp request _ => ⟨.user "", policy.created app signUp request, none⟩
  | .setData _ uid data _ => ⟨.user "", .noUser, policy.written app uid data⟩

section OneTap

variable (icu : WordCharacters) (replies : Replies) (start : App) (signUp : Nat) (form : SignUpForm)
  (request : RegisterUserRequest)

theorem first_tap_starts (idle : start.Quiescent) (top : start.topViewController = some (.signUp signUp))
    (accepted : didTapSignUpAction icu form = .submit request) :
    start.step icu (.didTapSignUp form) = start.over start.backend {.createUser signUp request .sent} := by
  have empty : start.calls = 0 := idle.1
  simp [App.step, App.tapSignUp, top, accepted, App.send, App.over, empty]

theorem one_tap_solo (idle : start.Quiescent) (top : start.topViewController = some (.signUp signUp))
    (accepted : didTapSignUpAction icu form = .submit request) (before : List AppEvent)
    (tapping : Taps (.didTapSignUp form) replies 1 before) :
    Solo replies start signUp request (run (App.step icu) start before) := by
  have tapped : (0 + 1 = 0 ∧ run (App.step icu) start before = start) ∨
      (0 + 1 = 1 ∧ Solo replies start signUp request (run (App.step icu) start before)) ∨ 1 < 0 + 1 := by
    apply taps_rule icu replies (.didTapSignUp form)
      (fun count app => (count = 0 ∧ app = start) ∨ (count = 1 ∧ Solo replies start signUp request app) ∨ 1 < count)
      _ _ 1 before tapping
    · exact .inl ⟨rfl, rfl⟩
    · intro count app holds
      rcases holds with ⟨rfl, rfl⟩ | ⟨rfl, _⟩ | more
      · rw [first_tap_starts icu app signUp form request idle top accepted]
        exact .inr (.inl ⟨rfl, .sent⟩)
      · exact .inr (.inr Nat.one_lt_two)
      · exact .inr (.inr (Nat.lt_succ_of_lt more))
    · intro count app event holds executes
      have move := handles_moves icu replies app event (executes_handles replies event executes)
      rcases holds with ⟨rfl, rfl⟩ | ⟨rfl, stage⟩ | more
      · rw [none_moves replies app _ _ move idle.1 idle.2]
        exact .inl ⟨rfl, rfl⟩
      · exact .inr (.inl ⟨rfl, solo_moves replies start signUp request app _ _ idle top stage move⟩)
      · exact .inr (.inr more)
  rcases tapped with ⟨impossible, _⟩ | ⟨_, stage⟩ | impossible
  · exact absurd impossible Nat.one_ne_zero
  · exact stage
  · exact absurd impossible (Nat.lt_irrefl 1)

theorem one_tap_registers (idle : start.Quiescent) (top : start.topViewController = some (.signUp signUp))
    (accepted : didTapSignUpAction icu form = .submit request) :
    (∃ events, Submission icu replies (.didTapSignUp form) 1 start events) ∧
    ∀ events, Submission icu replies (.didTapSignUp form) 1 start events →
      run (App.step icu) start events = registrationOutcome replies start request := by
  refine ⟨?_, ?_⟩
  · obtain ⟨after, along, _, quiescent⟩ := reaches_rest (App.step icu) (fun _ event => replies.Handles event) App.weight
      App.Quiescent (fun reached busy => busy_progresses icu replies reached busy) (start.step icu (.didTapSignUp form))
    have handling := along_every (App.step icu) replies.Handles _ after along
    exact ⟨_, ⟨[.didTapSignUp form], after, .tap 0 [] .done, handling, rfl⟩, quiescent⟩
  · intro events submission
    obtain ⟨⟨before, after, tapping, handling, rfl⟩, quiescent⟩ := submission
    have begun := one_tap_solo icu replies start signUp form request idle top accepted before tapping
    rw [run_append] at quiescent ⊢
    have finished := invariant_events (App.step icu) (Solo replies start signUp request) replies.Handles
      (fun app event stage handles => solo_moves replies start signUp request app _ _ idle top stage
        (handles_moves icu replies app event handles)) _ after handling begun
    exact solo_outcome replies start signUp request _ finished quiescent

end OneTap

theorem annas_tap_registers :
    run (App.step asciiWords) signUpScreen (signUpEvents 1 0) =
      registrationOutcome annasReplies signUpScreen annasForm.request :=
  (one_tap_registers asciiWords annasReplies signUpScreen 1 annasForm annasForm.request ⟨by decide, by decide⟩
    (by decide) (by decide)).2 _ one_sign_up

end DuplicatedApps
