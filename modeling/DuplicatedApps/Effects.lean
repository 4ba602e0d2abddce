import DuplicatedApps.App

set_option autoImplicit false

namespace DuplicatedApps

def Call.report : Call → Option Alert
  | .signIn _ _ (.received (.error error)) => some (AlertManager.showSignInErrorAlert error)
  | .createUser _ _ (.received (.error error)) => some (AlertManager.showRegistrationErrorAlert (some error))
  | .createUser _ _ (.received .noUser) => some (AlertManager.showRegistrationErrorAlert none)
  | .setData _ _ _ (.received (some error)) => some (AlertManager.showRegistrationErrorAlert (some error))
  | _ => none

def AppEvent.isQuiet : AppEvent → Bool
  | .willConnect => false
  | .didTapSignIn _ => false
  | .didTapSignUp _ => false
  | .complete _ => false
  | .rootTransition _ => false
  | _ => true

namespace App

inductive Effect (icu : WordCharacters) (app : App) : AppEvent → App → Prop
  | idle (event : AppEvent) (none : app.completes event = []) : Effect icu app event app
  | launched : Effect icu app .willConnect app.willConnect
  | getStarted (top : app.topViewController = some .welcome) :
      Effect icu app .didTapGetStarted
        { app.pushViewController (.login app.nextController) with nextController := app.nextController + 1 }
  | createAccount (login : Nat) (top : app.topViewController = some (.login login)) :
      Effect icu app .handleCreateAccountTap
        { app.pushViewController (.signUp app.nextController) with nextController := app.nextController + 1 }
  | poppedLogin (login : Nat) (top : app.topViewController = some (.login login)) :
      Effect icu app .popViewController { app with viewControllers := app.viewControllers.dropLast }
  | poppedSignUp (signUp : Nat) (top : app.topViewController = some (.signUp signUp)) :
      Effect icu app .popViewController { app with viewControllers := app.viewControllers.dropLast }
  | signInRefused (form : LoginForm) (alert : Alert) (refused : didTapSignInAction form = .alert alert) :
      Effect icu app (.didTapSignIn form) (app.present alert)
  | signUpRefused (form : SignUpForm) (alert : Alert) (refused : didTapSignUpAction icu form = .alert alert) :
      Effect icu app (.didTapSignUp form) (app.present alert)
  | signInSent (login : Nat) (form : LoginForm) (request : LoginUserRequest)
      (accepted : didTapSignInAction form = .submit request) :
      Effect icu app (.didTapSignIn form) (app.send (.signIn login request .sent))
  | signUpSent (signUp : Nat) (form : SignUpForm) (request : RegisterUserRequest)
      (accepted : didTapSignUpAction icu form = .submit request) :
      Effect icu app (.didTapSignUp form) (app.send (.createUser signUp request .sent))
  | executedSignIn (login : Nat) (request : LoginUserRequest) (answer : SignInResult)
      (inFlight : .signIn login request .sent ∈ app.calls) :
      Effect icu app (.executeSignIn login request answer)
        ((app.forget (.signIn login request .sent)).send (.signIn login request (.executed answer)))
  | executedCreateUser (signUp : Nat) (request : RegisterUserRequest) (outcome : CreateUserResult)
      (inFlight : .createUser signUp request .sent ∈ app.calls) :
      Effect icu app (.executeCreateUser signUp request outcome)
        (((app.forget (.createUser signUp request .sent)).send (.createUser signUp request (.executed
          (app.backend.createUser request.email request.password outcome).2))).setBackend
          (app.backend.createUser request.email request.password outcome).1)
  | executedSetData (signUp : Nat) (uid : Uid) (data : Document) (answer : Option NSError)
      (inFlight : .setData signUp uid data .sent ∈ app.calls) :
      Effect icu app (.executeSetData signUp uid data answer)
        (((app.forget (.setData signUp uid data .sent)).send (.setData signUp uid data (.executed answer))).setBackend
          (app.backend.setData uid data answer))
  | receivedSignIn (login : Nat) (request : LoginUserRequest) (answer : SignInResult)
      (inFlight : .signIn login request (.executed answer) ∈ app.calls) :
      Effect icu app (.receive (.signIn login request (.executed answer)))
        (((app.forget (.signIn login request (.executed answer))).send
          (.signIn login request (.received answer))).setBackend (app.backend.afterSignIn answer))
  | receivedCreateUser (signUp : Nat) (request : RegisterUserRequest) (answer : CreateUserResult)
      (inFlight : .createUser signUp request (.executed answer) ∈ app.calls) :
      Effect icu app (.receive (.createUser signUp request (.executed answer)))
        (((app.forget (.createUser signUp request (.executed answer))).send
          (.createUser signUp request (.received answer))).setBackend (app.backend.afterCreateUser answer))
  | receivedSetData (signUp : Nat) (uid : Uid) (data : Document) (answer : Option NSError)
      (inFlight : .setData signUp uid data (.executed answer) ∈ app.calls) :
      Effect icu app (.receive (.setData signUp uid data (.executed answer)))
        ((app.forget (.setData signUp uid data (.executed answer))).send (.setData signUp uid data (.received answer)))
  | signedIn (login : Nat) (request : LoginUserRequest) (user : Uid)
      (inFlight : .signIn login request (.received (.user user)) ∈ app.calls)
      (reached : .login login ∈ app.viewControllers) :
      Effect icu app (.complete (.signIn login request (.received (.user user))))
        ((app.forget (.signIn login request (.received (.user user)))).pushViewController .tabController)
  | writes (signUp : Nat) (request : RegisterUserRequest) (uid : Uid)
      (inFlight : .createUser signUp request (.received (.user uid)) ∈ app.calls) :
      Effect icu app (.complete (.createUser signUp request (.received (.user uid))))
        ((app.forget (.createUser signUp request (.received (.user uid)))).send
          (.setData signUp uid (usersDocument request) .sent))
  | registered (signUp : Nat) (uid : Uid) (data : Document)
      (inFlight : .setData signUp uid data (.received none) ∈ app.calls)
      (top : app.topViewController = some (.signUp signUp)) :
      Effect icu app (.complete (.setData signUp uid data (.received none)))
        (app.forget (.setData signUp uid data (.received none))).checkAuthentication
  | reported (call : Call) (inFlight : call ∈ app.calls) (alert : Alert)
      (reports : call.report = some alert) :
      Effect icu app (.complete call) ((app.forget call).present alert)
  | unheard (call : Call) (inFlight : call ∈ app.calls) : Effect icu app (.complete call) (app.forget call)
  | shown (controller : Screen) (pending : controller ∈ app.transitions) :
      Effect icu app (.rootTransition controller)
        { app with viewControllers := [controller], transitions := app.transitions.erase controller }
  | wroteMutation (uid : Uid) (data : Document) (answer : Option NSError) (queued : (uid, data) ∈ app.mutationQueue) :
      Effect icu app (.writeMutation uid data answer)
        { app with
          backend := app.backend.setData uid data answer
          mutationQueue := app.mutationQueue.erase (uid, data) }

section Classification

variable (icu : WordCharacters) (app : App)

theorem tap_sign_in_effect (form : LoginForm) : Effect icu app (.didTapSignIn form) (app.tapSignIn form) := by
  rw [tapSignIn]
  split
  case h_1 login top =>
    cases outcome : didTapSignInAction form with
    | alert alert => exact .signInRefused form alert outcome
    | submit request => exact .signInSent login form request outcome
  case h_2 => exact .idle _ rfl

theorem tap_sign_up_effect (form : SignUpForm) : Effect icu app (.didTapSignUp form) (app.tapSignUp icu form) := by
  rw [tapSignUp]
  split
  case h_1 signUp top =>
    cases outcome : didTapSignUpAction icu form with
    | alert alert => exact .signUpRefused form alert outcome
    | submit request => exact .signUpSent signUp form request outcome
  case h_2 => exact .idle _ rfl

theorem pop_effect : Effect icu app .popViewController app.popViewController := by
  rw [popViewController]
  split
  case h_1 login top => exact .poppedLogin login top
  case h_2 signUp top => exact .poppedSignUp signUp top
  case h_3 => exact .idle _ rfl

theorem receive_effect (call : Call) : Effect icu app (.receive call) (app.receive call) := by
  rcases receive_cases app call with same | ⟨inFlight, executed⟩
  · rw [same]
    exact .idle _ rfl
  · rcases executed with ⟨login, request, answer, rfl⟩ | ⟨signUp, request, answer, rfl⟩ | ⟨signUp, uid, data, answer, rfl⟩
    · rw [receive_sign_in app login request answer inFlight]
      exact .receivedSignIn login request answer inFlight
    · rw [receive_create_user app signUp request answer inFlight]
      exact .receivedCreateUser signUp request answer inFlight
    · rw [receive_set_data app signUp uid data answer inFlight]
      exact .receivedSetData signUp uid data answer inFlight

theorem failed_effect (call : Call) (inFlight : call ∈ app.calls) (signUp : Nat) (error : Option NSError)
    (reports : call.report = some (AlertManager.showRegistrationErrorAlert error)) :
    Effect icu app (.complete call) ((app.forget call).registerUserCompletion signUp false error) := by
  by_cases alive : .signUp signUp ∈ (app.forget call).viewControllers
  · have shown : (app.forget call).registerUserCompletion signUp false error =
        (app.forget call).present (AlertManager.showRegistrationErrorAlert error) := by
      cases error with
      | some error => exact if_pos alive
      | none => exact if_pos alive
    rw [shown]
    exact .reported call inFlight _ reports
  · have gone : (app.forget call).registerUserCompletion signUp false error = app.forget call := by
      cases error with
      | some error => exact if_neg alive
      | none => exact if_neg alive
    rw [gone]
    exact .unheard call inFlight

theorem complete_effect (call : Call) : Effect icu app (.complete call) (app.complete call) := by
  rcases complete_cases app call with ⟨none, same⟩ | ⟨inFlight, received⟩
  · rw [same]
    exact .idle _ none
  · rcases received with ⟨login, request, answer, rfl⟩ | ⟨signUp, request, answer, rfl⟩ | ⟨signUp, uid, data, answer, rfl⟩
    · rw [complete_sign_in app login request answer inFlight]
      cases answer with
      | error error => exact .reported _ inFlight _ rfl
      | user user =>
          rw [signInCallback, signInCompletion]
          by_cases reached : .login login ∈ app.viewControllers
          · exact (if_pos reached).symm ▸ .signedIn login request user inFlight reached
          · exact (if_neg reached).symm ▸ .unheard _ inFlight
    · cases answer with
      | error error =>
          rw [complete_create_user_failed app signUp request _ inFlight false (some error) rfl]
          exact failed_effect icu app _ inFlight signUp (some error) rfl
      | noUser =>
          rw [complete_create_user_failed app signUp request _ inFlight false none rfl]
          exact failed_effect icu app _ inFlight signUp none rfl
      | user uid =>
          rw [complete_create_user_writes app signUp request _ inFlight uid _ rfl]
          exact .writes signUp request uid inFlight
    · rw [complete_set_data app signUp uid data answer inFlight]
      cases answer with
      | some error => exact failed_effect icu app _ inFlight signUp (some error) rfl
      | none =>
          by_cases top : app.topViewController = some (.signUp signUp)
          · have alive : .signUp signUp ∈ app.viewControllers := List.mem_of_getLast? top
            have checked : (app.forget (.setData signUp uid data (.received none))).registerUserCompletion signUp true none =
                (app.forget (.setData signUp uid data (.received none))).checkAuthentication :=
              (if_pos alive).trans (if_pos top)
            rw [setDataCallback, checked]
            exact .registered signUp uid data inFlight top
          · have dropped : (app.forget (.setData signUp uid data (.received none))).registerUserCompletion signUp true none =
                app.forget (.setData signUp uid data (.received none)) := by
              rw [registerUserCompletion]
              split
              · exact if_neg top
              · rfl
            rw [setDataCallback, dropped]
            exact .unheard _ inFlight

theorem step_effect (event : AppEvent) : Effect icu app event (app.step icu event) := by
  cases event with
  | willConnect => exact .launched
  | didTapGetStarted =>
      rw [step, didTapGetStarted]
      split
      case h_1 top => exact .getStarted top
      case h_2 => exact .idle _ rfl
  | handleCreateAccountTap =>
      rw [step, handleCreateAccountTap]
      split
      case h_1 login top => exact .createAccount login top
      case h_2 => exact .idle _ rfl
  | didTapSignIn form => exact tap_sign_in_effect icu app form
  | didTapSignUp form => exact tap_sign_up_effect icu app form
  | popViewController => exact pop_effect icu app
  | executeSignIn login request answer =>
      rw [step, execute]
      by_cases inFlight : .signIn login request .sent ∈ app.calls
      · rw [if_pos inFlight]
        exact .executedSignIn login request answer inFlight
      · rw [if_neg inFlight]
        exact .idle _ rfl
  | executeCreateUser signUp request outcome =>
      rw [step, execute]
      by_cases inFlight : .createUser signUp request .sent ∈ app.calls
      · rw [if_pos inFlight]
        exact .executedCreateUser signUp request outcome inFlight
      · rw [if_neg inFlight]
        exact .idle _ rfl
  | executeSetData signUp uid data answer =>
      rw [step, execute]
      by_cases inFlight : .setData signUp uid data .sent ∈ app.calls
      · rw [if_pos inFlight]
        exact .executedSetData signUp uid data answer inFlight
      · rw [if_neg inFlight]
        exact .idle _ rfl
  | receive call => exact receive_effect icu app call
  | complete call => exact complete_effect icu app call
  | rootTransition controller =>
      rw [step, rootTransition]
      by_cases pending : controller ∈ app.transitions
      · rw [if_pos pending]
        exact .shown controller pending
      · rw [if_neg pending]
        exact .idle _ rfl
  | writeMutation uid data answer =>
      rw [step, writeMutation]
      by_cases queued : (uid, data) ∈ app.mutationQueue
      · rw [if_pos queued]
        exact .wroteMutation uid data answer queued
      · rw [if_neg queued]
        exact .idle _ rfl

structure Quiet (next : App) : Prop where
  alerts : next.alerts = app.alerts
  session : next.userSession = app.userSession
  transitions : next.transitions = app.transitions

theorem quiet_step (event : AppEvent) (quiet : event.isQuiet = true) : app.Quiet (app.step icu event) := by
  have effect := step_effect icu app event
  generalize app.step icu event = after at effect
  cases effect with
  | idle => exact ⟨rfl, rfl, rfl⟩
  | getStarted top => exact ⟨rfl, rfl, rfl⟩
  | createAccount login top => exact ⟨rfl, rfl, rfl⟩
  | poppedLogin login top => exact ⟨rfl, rfl, rfl⟩
  | poppedSignUp signUp top => exact ⟨rfl, rfl, rfl⟩
  | executedSignIn login request answer inFlight => exact ⟨rfl, rfl, rfl⟩
  | executedCreateUser signUp request outcome inFlight => exact ⟨rfl, rfl, rfl⟩
  | executedSetData signUp uid data answer inFlight => exact ⟨rfl, rfl, rfl⟩
  | receivedSignIn login request answer inFlight => exact ⟨rfl, rfl, rfl⟩
  | receivedCreateUser signUp request answer inFlight => exact ⟨rfl, rfl, rfl⟩
  | receivedSetData signUp uid data answer inFlight => exact ⟨rfl, rfl, rfl⟩
  | wroteMutation uid data answer queued => exact ⟨rfl, rfl, rfl⟩
  | _ => cases quiet

end Classification

end App

end DuplicatedApps
