import Mathlib.Data.Multiset.AddSub
import Mathlib.Data.Multiset.Filter
import DuplicatedApps.Forms
import DuplicatedApps.Runs

set_option autoImplicit false

namespace DuplicatedApps

open Runs

inductive Screen where
  | welcome
  | login (controller : Nat)
  | signUp (controller : Nat)
  | tabController
deriving DecidableEq

inductive Phase (Answer : Type) where
  | sent
  | executed (answer : Answer)
  | received (answer : Answer)
deriving DecidableEq

inductive Call where
  | signIn (login : Nat) (request : LoginUserRequest) (phase : Phase SignInResult)
  | createUser (signUp : Nat) (request : RegisterUserRequest) (phase : Phase CreateUserResult)
  | setData (signUp : Nat) (uid : Uid) (data : Document) (phase : Phase (Option NSError))
deriving DecidableEq

structure App where
  backend : Backend
  userSession : Option Uid
  viewControllers : List Screen
  transitions : Multiset Screen
  calls : Multiset Call
  -- Firestore's queue on disk: writes of former processes that have had no answer yet.
  mutationQueue : Multiset (Uid × Document)
  alerts : List Alert
  nextController : Nat

inductive AppEvent where
  | willConnect
  | didTapGetStarted
  | handleCreateAccountTap
  | didTapSignIn (form : LoginForm)
  | didTapSignUp (form : SignUpForm)
  | popViewController
  | executeSignIn (login : Nat) (request : LoginUserRequest) (answer : SignInResult)
  | executeCreateUser (signUp : Nat) (request : RegisterUserRequest) (outcome : CreateUserResult)
  | executeSetData (signUp : Nat) (uid : Uid) (data : Document) (answer : Option NSError)
  | receive (call : Call)
  | complete (call : Call)
  | rootTransition (controller : Screen)
  | writeMutation (uid : Uid) (data : Document) (answer : Option NSError)

def Call.unanswered : Call → Option (Uid × Document)
  | .setData _ uid data .sent => some (uid, data)
  | .setData _ uid data (.executed _) => some (uid, data)
  | _ => none

def Call.isReceived : Call → Bool
  | .signIn _ _ (.received _) => true
  | .createUser _ _ (.received _) => true
  | .setData _ _ _ (.received _) => true
  | _ => false

namespace App

def topViewController (app : App) : Option Screen := app.viewControllers.getLast?

def pushViewController (app : App) (screen : Screen) : App :=
  { app with viewControllers := app.viewControllers ++ [screen] }

def present (app : App) (alert : Alert) : App := { app with alerts := app.alerts ++ [alert] }

def send (app : App) (call : Call) : App := { app with calls := call ::ₘ app.calls }

def forget (app : App) (call : Call) : App := { app with calls := app.calls.erase call }

def setBackend (app : App) (backend : Backend) : App := { app with backend := backend }

def rootController : Option Uid → Screen
  | some _ => .tabController
  | none => .welcome

def checkAuthentication (app : App) : App :=
  { app with
    userSession := app.backend.currentUser
    transitions := rootController app.backend.currentUser ::ₘ app.transitions }

def setUpWindow (app : App) : App := { app with viewControllers := [.welcome] }

def scene (backend : Backend) : App :=
  (setUpWindow ⟨backend, none, [], 0, 0, 0, [], 0⟩).checkAuthentication

def willConnect (app : App) : App :=
  { scene app.backend with mutationQueue := app.mutationQueue + app.calls.filterMap Call.unanswered }

def didTapGetStarted (app : App) : App :=
  match app.topViewController with
  | some .welcome =>
      { app.pushViewController (.login app.nextController) with nextController := app.nextController + 1 }
  | _ => app

def handleCreateAccountTap (app : App) : App :=
  match app.topViewController with
  | some (.login _) =>
      { app.pushViewController (.signUp app.nextController) with nextController := app.nextController + 1 }
  | _ => app

def tapSignIn (app : App) (form : LoginForm) : App :=
  match app.topViewController with
  | some (.login login) =>
      match didTapSignInAction form with
      | .alert alert => app.present alert
      | .submit request => app.send (.signIn login request .sent)
  | _ => app

def tapSignUp (icu : WordCharacters) (app : App) (form : SignUpForm) : App :=
  match app.topViewController with
  | some (.signUp signUp) =>
      match didTapSignUpAction icu form with
      | .alert alert => app.present alert
      | .submit request => app.send (.createUser signUp request .sent)
  | _ => app

def popViewController (app : App) : App :=
  match app.topViewController with
  | some (.login _) => { app with viewControllers := app.viewControllers.dropLast }
  | some (.signUp _) => { app with viewControllers := app.viewControllers.dropLast }
  | _ => app

-- The closure of didTapSignInAction. It keeps its screen alive, but a screen that
-- has left the stack has no navigationController to push on.
def signInCompletion (app : App) (login : Nat) : Option NSError → App
  | some error => app.present (AlertManager.showSignInErrorAlert error)
  | none => if .login login ∈ app.viewControllers then app.pushViewController .tabController else app

-- The closure of didTapSignUpAction. Its weak self is gone with the screen, and only
-- the screen on top has a window through which to find the SceneDelegate.
def registerUserCompletion (app : App) (signUp : Nat) (wasRegistered : Bool) (error : Option NSError) : App :=
  if .signUp signUp ∈ app.viewControllers then
    match error with
    | some error => app.present (AlertManager.showRegistrationErrorAlert (some error))
    | none =>
        if wasRegistered then
          if app.topViewController = some (.signUp signUp) then app.checkAuthentication else app
        else app.present (AlertManager.showRegistrationErrorAlert none)
  else app

def execute (app : App) (call executed : Call) (backend : Backend) : App :=
  if call ∈ app.calls then ((app.forget call).send executed).setBackend backend else app

def receive (app : App) (call : Call) : App :=
  if call ∈ app.calls then
    match call with
    | .signIn login request (.executed answer) =>
        ((app.forget call).send (.signIn login request (.received answer))).setBackend
          (app.backend.afterSignIn answer)
    | .createUser signUp request (.executed answer) =>
        ((app.forget call).send (.createUser signUp request (.received answer))).setBackend
          (app.backend.afterCreateUser answer)
    | .setData signUp uid data (.executed answer) =>
        (app.forget call).send (.setData signUp uid data (.received answer))
    | _ => app
  else app

def complete (app : App) (call : Call) : App :=
  if call ∈ app.calls then
    match call with
    | .signIn login _ (.received answer) => (app.forget call).signInCompletion login (signInCallback answer)
    | .createUser signUp request (.received answer) =>
        match createUserCallback request answer with
        | .completion wasRegistered error => (app.forget call).registerUserCompletion signUp wasRegistered error
        | .setData uid data => (app.forget call).send (.setData signUp uid data .sent)
    | .setData signUp _ _ (.received answer) =>
        (app.forget call).registerUserCompletion signUp (setDataCallback answer).1 (setDataCallback answer).2
    | _ => app
  else app

def rootTransition (app : App) (controller : Screen) : App :=
  if controller ∈ app.transitions then
    { app with viewControllers := [controller], transitions := app.transitions.erase controller }
  else app

def writeMutation (app : App) (uid : Uid) (data : Document) (answer : Option NSError) : App :=
  if (uid, data) ∈ app.mutationQueue then
    { app with
      backend := app.backend.setData uid data answer
      mutationQueue := app.mutationQueue.erase (uid, data) }
  else app

def step (icu : WordCharacters) (app : App) : AppEvent → App
  | .willConnect => app.willConnect
  | .didTapGetStarted => app.didTapGetStarted
  | .handleCreateAccountTap => app.handleCreateAccountTap
  | .didTapSignIn form => app.tapSignIn form
  | .didTapSignUp form => app.tapSignUp icu form
  | .popViewController => app.popViewController
  | .executeSignIn login request answer =>
      app.execute (.signIn login request .sent) (.signIn login request (.executed answer)) app.backend
  | .executeCreateUser signUp request outcome =>
      let answer := app.backend.createUser request.email request.password outcome
      app.execute (.createUser signUp request .sent) (.createUser signUp request (.executed answer.2)) answer.1
  | .executeSetData signUp uid data answer =>
      app.execute (.setData signUp uid data .sent) (.setData signUp uid data (.executed answer))
        (app.backend.setData uid data answer)
  | .receive call => app.receive call
  | .complete call => app.complete call
  | .rootTransition controller => app.rootTransition controller
  | .writeMutation uid data answer => app.writeMutation uid data answer

def completes (app : App) : AppEvent → List Call
  | .complete call => if call.isReceived = true ∧ call ∈ app.calls then [call] else []
  | _ => []

def Quiescent (app : App) : Prop := app.calls = 0 ∧ app.transitions = 0

section Equations

variable (app : App)

theorem receive_sign_in (login : Nat) (request : LoginUserRequest) (answer : SignInResult)
    (inFlight : .signIn login request (.executed answer) ∈ app.calls) :
    app.receive (.signIn login request (.executed answer)) =
      ((app.forget (.signIn login request (.executed answer))).send
        (.signIn login request (.received answer))).setBackend (app.backend.afterSignIn answer) := by
  simp only [receive, inFlight, if_true]

theorem receive_create_user (signUp : Nat) (request : RegisterUserRequest) (answer : CreateUserResult)
    (inFlight : .createUser signUp request (.executed answer) ∈ app.calls) :
    app.receive (.createUser signUp request (.executed answer)) =
      ((app.forget (.createUser signUp request (.executed answer))).send
        (.createUser signUp request (.received answer))).setBackend (app.backend.afterCreateUser answer) := by
  simp only [receive, inFlight, if_true]

theorem receive_set_data (signUp : Nat) (uid : Uid) (data : Document) (answer : Option NSError)
    (inFlight : .setData signUp uid data (.executed answer) ∈ app.calls) :
    app.receive (.setData signUp uid data (.executed answer)) =
      (app.forget (.setData signUp uid data (.executed answer))).send (.setData signUp uid data (.received answer)) := by
  simp only [receive, inFlight, if_true]

theorem complete_sign_in (login : Nat) (request : LoginUserRequest) (answer : SignInResult)
    (inFlight : .signIn login request (.received answer) ∈ app.calls) :
    app.complete (.signIn login request (.received answer)) =
      (app.forget (.signIn login request (.received answer))).signInCompletion login (signInCallback answer) := by
  simp only [complete, inFlight, if_true]

theorem complete_create_user_failed (signUp : Nat) (request : RegisterUserRequest) (answer : CreateUserResult)
    (inFlight : .createUser signUp request (.received answer) ∈ app.calls) (wasRegistered : Bool)
    (error : Option NSError) (next : createUserCallback request answer = .completion wasRegistered error) :
    app.complete (.createUser signUp request (.received answer)) =
      (app.forget (.createUser signUp request (.received answer))).registerUserCompletion signUp wasRegistered error := by
  simp only [complete, inFlight, if_true, next]

theorem complete_create_user_writes (signUp : Nat) (request : RegisterUserRequest) (answer : CreateUserResult)
    (inFlight : .createUser signUp request (.received answer) ∈ app.calls) (uid : Uid) (data : Document)
    (next : createUserCallback request answer = .setData uid data) :
    app.complete (.createUser signUp request (.received answer)) =
      (app.forget (.createUser signUp request (.received answer))).send (.setData signUp uid data .sent) := by
  simp only [complete, inFlight, if_true, next]

theorem complete_set_data (signUp : Nat) (uid : Uid) (data : Document) (answer : Option NSError)
    (inFlight : .setData signUp uid data (.received answer) ∈ app.calls) :
    app.complete (.setData signUp uid data (.received answer)) =
      (app.forget (.setData signUp uid data (.received answer))).registerUserCompletion signUp
        (setDataCallback answer).1 (setDataCallback answer).2 := by
  simp only [complete, inFlight, if_true]

theorem receive_cases (call : Call) :
    app.receive call = app ∨
    (call ∈ app.calls ∧
      ((∃ login request answer, call = .signIn login request (.executed answer)) ∨
        (∃ signUp request answer, call = .createUser signUp request (.executed answer)) ∨
        ∃ signUp uid data answer, call = .setData signUp uid data (.executed answer))) := by
  by_cases inFlight : call ∈ app.calls
  · cases call with
    | signIn login request phase =>
        cases phase with
        | executed answer => exact .inr ⟨inFlight, .inl ⟨login, request, answer, rfl⟩⟩
        | _ => exact .inl (ite_self app)
    | createUser signUp request phase =>
        cases phase with
        | executed answer => exact .inr ⟨inFlight, .inr (.inl ⟨signUp, request, answer, rfl⟩)⟩
        | _ => exact .inl (ite_self app)
    | setData signUp uid data phase =>
        cases phase with
        | executed answer => exact .inr ⟨inFlight, .inr (.inr ⟨signUp, uid, data, answer, rfl⟩)⟩
        | _ => exact .inl (ite_self app)
  · exact .inl (if_neg inFlight)

theorem complete_cases (call : Call) :
    (app.completes (.complete call) = [] ∧ app.complete call = app) ∨
    (call ∈ app.calls ∧
      ((∃ login request answer, call = .signIn login request (.received answer)) ∨
        (∃ signUp request answer, call = .createUser signUp request (.received answer)) ∨
        ∃ signUp uid data answer, call = .setData signUp uid data (.received answer))) := by
  by_cases inFlight : call ∈ app.calls
  · cases call with
    | signIn login request phase =>
        cases phase with
        | received answer => exact .inr ⟨inFlight, .inl ⟨login, request, answer, rfl⟩⟩
        | _ => exact .inl ⟨rfl, ite_self app⟩
    | createUser signUp request phase =>
        cases phase with
        | received answer => exact .inr ⟨inFlight, .inr (.inl ⟨signUp, request, answer, rfl⟩)⟩
        | _ => exact .inl ⟨rfl, ite_self app⟩
    | setData signUp uid data phase =>
        cases phase with
        | received answer => exact .inr ⟨inFlight, .inr (.inr ⟨signUp, uid, data, answer, rfl⟩)⟩
        | _ => exact .inl ⟨rfl, ite_self app⟩
  · exact .inl ⟨if_neg (fun both => inFlight both.2), if_neg inFlight⟩

end Equations

end App

end DuplicatedApps
