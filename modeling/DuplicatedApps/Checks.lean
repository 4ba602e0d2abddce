import DuplicatedApps.Effects

set_option autoImplicit false

namespace DuplicatedApps

open Runs

inductive Check where
  | launched (currentUser : Option Uid)
  | checked (currentUser : Option Uid)
  | shown (controller : Screen)

structure Ledger where
  userSession : Option Uid
  transitions : Multiset Screen

def Ledger.record (ledger : Ledger) : Check → Ledger
  | .launched currentUser => ⟨currentUser, {App.rootController currentUser}⟩
  | .checked currentUser => ⟨currentUser, App.rootController currentUser ::ₘ ledger.transitions⟩
  | .shown controller => { ledger with transitions := ledger.transitions.erase controller }

namespace App

def ledger (app : App) : Ledger := ⟨app.userSession, app.transitions⟩

def finishes (app : App) : Call → Bool
  | .setData signUp _ _ (.received none) => decide (app.topViewController = some (.signUp signUp))
  | _ => false

def checks (app : App) : AppEvent → List Check
  | .willConnect => [.launched app.backend.currentUser]
  | .complete call => if call ∈ app.calls ∧ app.finishes call = true then [.checked app.backend.currentUser] else []
  | .rootTransition controller => if controller ∈ app.transitions then [.shown controller] else []
  | _ => []

section Steps

variable (app : App)

theorem sign_in_completion_ledger (login : Nat) (error : Option NSError) :
    (app.signInCompletion login error).ledger = app.ledger := by
  cases error with
  | some error => rfl
  | none =>
      rw [signInCompletion]
      split <;> rfl

theorem registration_failed_ledger (signUp : Nat) (error : Option NSError) :
    (app.registerUserCompletion signUp false error).ledger = app.ledger := by
  by_cases alive : .signUp signUp ∈ app.viewControllers
  · cases error with
    | some error => exact (congrArg ledger (if_pos alive)).trans rfl
    | none => exact (congrArg ledger (if_pos alive)).trans rfl
  · exact congrArg ledger (if_neg alive)

theorem registered_checks (signUp : Nat) (top : app.topViewController = some (.signUp signUp)) :
    app.registerUserCompletion signUp true none = app.checkAuthentication :=
  (if_pos (List.mem_of_getLast? top)).trans (if_pos top)

theorem registered_unchecked (signUp : Nat) (covered : app.topViewController ≠ some (.signUp signUp)) :
    app.registerUserCompletion signUp true none = app := by
  by_cases alive : .signUp signUp ∈ app.viewControllers
  · exact (if_pos alive).trans (if_neg covered)
  · exact if_neg alive

theorem idle_checks (call : Call) (idle : app.finishes call = false) : app.checks (.complete call) = [] := by
  rw [checks, if_neg]
  intro both
  rw [idle] at both
  cases both.2

theorem complete_ledger (call : Call) :
    (app.complete call).ledger = run Ledger.record app.ledger (app.checks (.complete call)) := by
  by_cases inFlight : call ∈ app.calls
  · cases call with
    | signIn login request phase =>
        rw [idle_checks app _ rfl]
        cases phase with
        | received answer =>
            rw [complete_sign_in app login request answer inFlight, sign_in_completion_ledger]
            rfl
        | _ => exact congrArg ledger (ite_self app)
    | createUser signUp request phase =>
        rw [idle_checks app _ rfl]
        cases phase with
        | received answer =>
            cases answer with
            | error error =>
                rw [complete_create_user_failed app signUp request _ inFlight false (some error) rfl]
                exact registration_failed_ledger (app.forget _) signUp (some error)
            | noUser =>
                rw [complete_create_user_failed app signUp request _ inFlight false none rfl]
                exact registration_failed_ledger (app.forget _) signUp none
            | user uid =>
                rw [complete_create_user_writes app signUp request _ inFlight uid _ rfl]
                rfl
        | _ => exact congrArg ledger (ite_self app)
    | setData signUp uid data phase =>
        cases phase with
        | received answer =>
            rw [complete_set_data app signUp uid data answer inFlight]
            cases answer with
            | some error =>
                rw [idle_checks app _ rfl]
                exact registration_failed_ledger (app.forget _) signUp (some error)
            | none =>
                by_cases top : app.topViewController = some (.signUp signUp)
                · rw [setDataCallback, registered_checks (app.forget _) signUp top, checks,
                    if_pos ⟨inFlight, decide_eq_true top⟩]
                  rfl
                · rw [idle_checks app (.setData signUp uid data (.received none)) (decide_eq_false top), setDataCallback,
                    registered_unchecked (app.forget _) signUp top]
                  rfl
        | _ =>
            rw [idle_checks app _ rfl]
            exact congrArg ledger (ite_self app)
  · rw [checks, if_neg (fun both => inFlight both.1)]
    exact congrArg ledger (if_neg inFlight)

theorem quiet_ledger (icu : WordCharacters) (event : AppEvent) (quiet : event.isQuiet = true) :
    (app.step icu event).ledger = app.ledger := by
  have same := quiet_step icu app event quiet
  rw [ledger, same.session, same.transitions]
  rfl

theorem step_ledger (icu : WordCharacters) (event : AppEvent) :
    (app.step icu event).ledger = run Ledger.record app.ledger (app.checks event) := by
  cases event with
  | willConnect => rfl
  | complete call => exact complete_ledger app call
  | rootTransition controller =>
      rw [step, rootTransition, checks]
      split <;> rfl
  | didTapSignIn form =>
      rw [step, tapSignIn]
      split
      · cases didTapSignInAction form <;> rfl
      · rfl
  | didTapSignUp form =>
      rw [step, tapSignUp]
      split
      · cases didTapSignUpAction icu form <;> rfl
      · rfl
  | didTapGetStarted => exact quiet_ledger app icu _ rfl
  | handleCreateAccountTap => exact quiet_ledger app icu _ rfl
  | popViewController => exact quiet_ledger app icu _ rfl
  | executeSignIn login request answer => exact quiet_ledger app icu _ rfl
  | executeCreateUser signUp request outcome => exact quiet_ledger app icu _ rfl
  | executeSetData signUp uid data answer => exact quiet_ledger app icu _ rfl
  | receive call => exact quiet_ledger app icu _ rfl
  | writeMutation uid data answer => exact quiet_ledger app icu _ rfl

end Steps

end App

-- Over any run userSession is the user whom the last check found, at launch or when a
-- registration finished on the screen on top; sign-ins never touch it. Each check queues one
-- root, that of its user, and each root shown takes one off.
theorem session_is_the_last_check (icu : WordCharacters) (start : App) (events : List AppEvent) :
    (run (App.step icu) start events).ledger =
      run Ledger.record start.ledger (outputs (App.step icu) App.checks start events) :=
  simulated_run (App.step icu) App.checks App.ledger Ledger.record (fun app event => App.step_ledger app icu event) start
    events

end DuplicatedApps
