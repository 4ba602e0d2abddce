import DuplicatedApps.Effects

set_option autoImplicit false

namespace DuplicatedApps

open Runs

inductive Notice where
  | launched
  | told (alert : Alert)

def Notice.record (alerts : List Alert) : Notice → List Alert
  | .launched => []
  | .told alert => alerts ++ [alert]

def TapOutcome.notices {Request : Type} : TapOutcome Request → List Notice
  | .alert shown => [.told shown]
  | .submit _ => []

namespace App

-- The closure of a sign-in keeps its screen; that of a registration holds it weakly, and
-- the stack is what keeps it.
def hears (app : App) : Call → Prop
  | .signIn _ _ _ => True
  | .createUser signUp _ _ => .signUp signUp ∈ app.viewControllers
  | .setData signUp _ _ _ => .signUp signUp ∈ app.viewControllers

instance hearsDecidable (app : App) (call : Call) : Decidable (app.hears call) :=
  match call with
  | .signIn _ _ _ => inferInstanceAs (Decidable True)
  | .createUser signUp _ _ => inferInstanceAs (Decidable (.signUp signUp ∈ app.viewControllers))
  | .setData signUp _ _ _ => inferInstanceAs (Decidable (.signUp signUp ∈ app.viewControllers))

def notices (icu : WordCharacters) (app : App) : AppEvent → List Notice
  | .willConnect => [.launched]
  | .didTapSignIn form =>
      match app.topViewController with
      | some (.login _) => (didTapSignInAction form).notices
      | _ => []
  | .didTapSignUp form =>
      match app.topViewController with
      | some (.signUp _) => (didTapSignUpAction icu form).notices
      | _ => []
  | .complete call =>
      if call ∈ app.calls ∧ app.hears call then
        match call.report with
        | some alert => [.told alert]
        | none => []
      else []
  | _ => []

section Steps

variable (icu : WordCharacters) (app : App)

theorem sign_in_completion_alerts (login : Nat) (error : Option NSError) :
    (app.signInCompletion login error).alerts =
      app.alerts ++ (error.map AlertManager.showSignInErrorAlert).toList := by
  cases error with
  | some error => rfl
  | none =>
      rw [signInCompletion]
      split <;> simp [pushViewController]

theorem registration_failed_alerts (signUp : Nat) (error : Option NSError)
    (alive : .signUp signUp ∈ app.viewControllers) :
    (app.registerUserCompletion signUp false error).alerts =
      app.alerts ++ [AlertManager.showRegistrationErrorAlert error] := by
  cases error with
  | some error => exact congrArg App.alerts (if_pos alive)
  | none => exact congrArg App.alerts (if_pos alive)

theorem registered_alerts (signUp : Nat) : (app.registerUserCompletion signUp true none).alerts = app.alerts := by
  rw [registerUserCompletion]
  split
  · simp only [if_true]
    split <;> rfl
  · rfl

theorem unheard_alerts (signUp : Nat) (wasRegistered : Bool) (error : Option NSError)
    (gone : .signUp signUp ∉ app.viewControllers) :
    (app.registerUserCompletion signUp wasRegistered error).alerts = app.alerts :=
  congrArg App.alerts (if_neg gone)

theorem silent_notices (call : Call) (silent : call.report = none ∨ ¬ app.hears call) :
    app.notices icu (.complete call) = [] := by
  rw [notices]
  by_cases heard : call ∈ app.calls ∧ app.hears call
  · rw [if_pos heard, silent.resolve_right (not_not_intro heard.2)]
  · rw [if_neg heard]

theorem heard_notices (call : Call) (inFlight : call ∈ app.calls) (hears : app.hears call) (alert : Alert)
    (reports : call.report = some alert) : app.notices icu (.complete call) = [.told alert] := by
  rw [notices, if_pos ⟨inFlight, hears⟩, reports]

theorem failed_notices (call : Call) (inFlight : call ∈ app.calls) (signUp : Nat) (error : Option NSError)
    (reports : call.report = some (AlertManager.showRegistrationErrorAlert error))
    (hears : app.hears call ↔ .signUp signUp ∈ app.viewControllers) :
    ((app.forget call).registerUserCompletion signUp false error).alerts =
      run Notice.record app.alerts (app.notices icu (.complete call)) := by
  by_cases alive : .signUp signUp ∈ app.viewControllers
  · rw [registration_failed_alerts (app.forget call) signUp error alive,
      heard_notices icu app call inFlight (hears.mpr alive) _ reports]
    rfl
  · rw [unheard_alerts (app.forget call) signUp false error alive,
      silent_notices icu app call (.inr (mt hears.mp alive))]
    rfl

theorem complete_notices (call : Call) :
    (app.complete call).alerts = run Notice.record app.alerts (app.notices icu (.complete call)) := by
  by_cases inFlight : call ∈ app.calls
  · cases call with
    | signIn login request phase =>
        cases phase with
        | received answer =>
            rw [complete_sign_in app login request answer inFlight, sign_in_completion_alerts]
            cases answer with
            | error error =>
                rw [heard_notices icu app _ inFlight trivial _ rfl]
                rfl
            | user user =>
                rw [silent_notices icu app _ (.inl rfl)]
                exact List.append_nil _
        | _ =>
            rw [silent_notices icu app _ (.inl rfl)]
            exact congrArg App.alerts (ite_self app)
    | createUser signUp request phase =>
        cases phase with
        | received answer =>
            cases answer with
            | error error =>
                rw [complete_create_user_failed app signUp request _ inFlight false (some error) rfl]
                exact failed_notices icu app _ inFlight signUp (some error) rfl Iff.rfl
            | noUser =>
                rw [complete_create_user_failed app signUp request _ inFlight false none rfl]
                exact failed_notices icu app _ inFlight signUp none rfl Iff.rfl
            | user uid =>
                rw [complete_create_user_writes app signUp request _ inFlight uid _ rfl,
                  silent_notices icu app _ (.inl rfl)]
                rfl
        | _ =>
            rw [silent_notices icu app _ (.inl rfl)]
            exact congrArg App.alerts (ite_self app)
    | setData signUp uid data phase =>
        cases phase with
        | received answer =>
            rw [complete_set_data app signUp uid data answer inFlight]
            cases answer with
            | some error => exact failed_notices icu app _ inFlight signUp (some error) rfl Iff.rfl
            | none =>
                rw [setDataCallback, registered_alerts, silent_notices icu app _ (.inl rfl)]
                rfl
        | _ =>
            rw [silent_notices icu app _ (.inl rfl)]
            exact congrArg App.alerts (ite_self app)
  · rw [notices, if_neg (fun heard => inFlight heard.1)]
    exact congrArg App.alerts (if_neg inFlight)

theorem tap_sign_in_notices (form : LoginForm) :
    (app.tapSignIn form).alerts = run Notice.record app.alerts (app.notices icu (.didTapSignIn form)) := by
  rw [tapSignIn, notices]
  cases app.topViewController with
  | none => rfl
  | some screen =>
      cases screen with
      | login login => cases didTapSignInAction form <;> rfl
      | _ => rfl

theorem tap_sign_up_notices (form : SignUpForm) :
    (app.tapSignUp icu form).alerts = run Notice.record app.alerts (app.notices icu (.didTapSignUp form)) := by
  rw [tapSignUp, notices]
  cases app.topViewController with
  | none => rfl
  | some screen =>
      cases screen with
      | signUp signUp => cases didTapSignUpAction icu form <;> rfl
      | _ => rfl

theorem step_notices (event : AppEvent) :
    (app.step icu event).alerts = run Notice.record app.alerts (app.notices icu event) := by
  cases event with
  | willConnect => rfl
  | didTapSignIn form => exact tap_sign_in_notices icu app form
  | didTapSignUp form => exact tap_sign_up_notices icu app form
  | complete call => exact complete_notices icu app call
  | didTapGetStarted => exact (quiet_step icu app _ rfl).alerts
  | handleCreateAccountTap => exact (quiet_step icu app _ rfl).alerts
  | popViewController => exact (quiet_step icu app _ rfl).alerts
  | executeSignIn login request answer => exact (quiet_step icu app _ rfl).alerts
  | executeCreateUser signUp request outcome => exact (quiet_step icu app _ rfl).alerts
  | executeSetData signUp uid data answer => exact (quiet_step icu app _ rfl).alerts
  | receive call => exact (quiet_step icu app _ rfl).alerts
  | writeMutation uid data answer => exact (quiet_step icu app _ rfl).alerts
  | rootTransition controller =>
      rw [step, rootTransition]
      split <;> rfl

end Steps

end App

theorem alerts_are_the_notices (icu : WordCharacters) (start : App) (events : List AppEvent) :
    (run (App.step icu) start events).alerts =
      run Notice.record start.alerts (outputs (App.step icu) (App.notices icu) start events) :=
  simulated_run (App.step icu) (App.notices icu) App.alerts Notice.record (App.step_notices icu) start events

end DuplicatedApps
