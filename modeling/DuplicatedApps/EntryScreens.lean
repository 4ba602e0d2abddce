import DuplicatedApps.PasswordMeter
import DuplicatedApps.Provenance

set_option autoImplicit false

namespace DuplicatedApps

open Runs Validator

structure LoginViewController where
  isPasswordHidden : Bool
  emailLoginTextField : TextField
  passwordLoginTextField : TextField
  viewBottomConstraint : Int

inductive LoginField where
  | email
  | password
deriving DecidableEq

inductive LoginEvent where
  | edit (field : LoginField) (range : NSRange) (string : Text)
  | didTapShowPassword
  | keyboardWillShow (frame : Bool)
  | keyboardWillHide
  | didTapSignIn

def LoginEvent.isKeyboard : LoginEvent → Bool
  | .keyboardWillShow _ => true
  | .keyboardWillHide => true
  | _ => false

namespace LoginViewController

def fromNib : LoginViewController := ⟨true, ⟨[], false⟩, ⟨[], false⟩, 0⟩

def viewDidLoad (screen : LoginViewController) : LoginViewController :=
  { screen with
    emailLoginTextField := { screen.emailLoginTextField with isSecureTextEntry := false }
    passwordLoginTextField := { screen.passwordLoginTextField with isSecureTextEntry := true } }

def togglePasswordVisibility (screen : LoginViewController) : LoginViewController :=
  let isPasswordHidden := !screen.isPasswordHidden
  { screen with
    isPasswordHidden := isPasswordHidden
    passwordLoginTextField := { screen.passwordLoginTextField with isSecureTextEntry := isPasswordHidden } }

def keyboardWillShow (screen : LoginViewController) (frame : Bool) : LoginViewController :=
  if frame then { screen with viewBottomConstraint := 100 } else screen

def keyboardWillHide (screen : LoginViewController) : LoginViewController := { screen with viewBottomConstraint := 0 }

def field (screen : LoginViewController) : LoginField → TextField
  | .email => screen.emailLoginTextField
  | .password => screen.passwordLoginTextField

def setText (screen : LoginViewController) (field : LoginField) (text : NSString) : LoginViewController :=
  match field with
  | .email => { screen with emailLoginTextField := { screen.emailLoginTextField with text := text } }
  | .password => { screen with passwordLoginTextField := { screen.passwordLoginTextField with text := text } }

def form (screen : LoginViewController) : LoginForm :=
  ⟨some (scalars screen.emailLoginTextField.text), some (scalars screen.passwordLoginTextField.text)⟩

def step (screen : LoginViewController) : LoginEvent → LoginViewController
  | .edit field range string =>
      if range.location + range.length ≤ (screen.field field).text.length then
        screen.setText field (replacingCharacters (screen.field field).text range string)
      else screen
  | .didTapShowPassword => screen.togglePasswordVisibility
  | .keyboardWillShow frame => screen.keyboardWillShow frame
  | .keyboardWillHide => screen.keyboardWillHide
  | .didTapSignIn => screen

end LoginViewController

structure EntryApp where
  app : App
  logins : Nat → LoginViewController
  signUps : Nat → SignUpViewController

inductive EntryEvent where
  | login (event : LoginEvent)
  | signUp (event : SignUpEvent)
  | elsewhere (event : AppEvent)

namespace EntryApp

-- Every login screen observes the keyboard from its viewDidLoad on, also where it is covered.
def reaches (app : App) (event : LoginEvent) (login : Nat) : Bool :=
  if event.isKeyboard then decide (.login login ∈ app.viewControllers)
  else decide (app.topViewController = some (.login login))

def onLogin (entry : EntryApp) (event : LoginEvent) : EntryApp :=
  { entry with
    logins := fun login =>
      if reaches entry.app event login then (entry.logins login).step event else entry.logins login }

def onSignUp (entry : EntryApp) (change : SignUpViewController → SignUpViewController) : EntryApp :=
  match entry.app.topViewController with
  | some (.signUp signUp) => { entry with signUps := Function.update entry.signUps signUp (change (entry.signUps signUp)) }
  | _ => entry

def asks (entry : EntryApp) : EntryEvent → List AppEvent
  | .login .didTapSignIn =>
      match entry.app.topViewController with
      | some (.login login) => [.didTapSignIn (entry.logins login).form]
      | _ => []
  | .login _ => []
  | .signUp .didTapSignUp =>
      match entry.app.topViewController with
      | some (.signUp signUp) => [.didTapSignUp (entry.signUps signUp).form]
      | _ => []
  | .signUp _ => []
  | .elsewhere (.didTapSignIn _) => []
  | .elsewhere (.didTapSignUp _) => []
  | .elsewhere event => [event]

-- A pushed screen is new, with its view loaded and its fields empty.
def screens (icu : WordCharacters) (characterCount : Text → Nat) (entry : EntryApp) : EntryEvent → EntryApp
  | .login event => entry.onLogin event
  | .signUp event => entry.onSignUp fun screen => screen.step icu characterCount event
  | .elsewhere .didTapGetStarted =>
      match entry.app.topViewController with
      | some .welcome =>
          { entry with
            logins := Function.update entry.logins entry.app.nextController LoginViewController.fromNib.viewDidLoad }
      | _ => entry
  | .elsewhere .handleCreateAccountTap =>
      match entry.app.topViewController with
      | some (.login _) =>
          { entry with
            signUps := Function.update entry.signUps entry.app.nextController SignUpViewController.fromNib.viewDidLoad }
      | _ => entry
  | _ => entry

def step (icu : WordCharacters) (characterCount : Text → Nat) (entry : EntryApp) (event : EntryEvent) : EntryApp :=
  { entry.screens icu characterCount event with app := run (App.step icu) entry.app (entry.asks event) }

def scene (backend : Backend) : EntryApp :=
  ⟨App.scene backend, fun _ => LoginViewController.fromNib.viewDidLoad, fun _ => SignUpViewController.fromNib.viewDidLoad⟩

end EntryApp

structure LoginViewController.Keeps (screen : LoginViewController) : Prop where
  secure : screen.passwordLoginTextField.isSecureTextEntry = screen.isPasswordHidden
  plain : screen.emailLoginTextField.isSecureTextEntry = false
  bottom : screen.viewBottomConstraint = 0 ∨ screen.viewBottomConstraint = 100

theorem login_step_keeps (screen : LoginViewController) (event : LoginEvent) (keeps : screen.Keeps) : (screen.step event).Keeps := by
  cases event with
  | edit field range string =>
      rw [LoginViewController.step]
      split
      case isTrue =>
        cases field with
        | email => exact ⟨keeps.secure, keeps.plain, keeps.bottom⟩
        | password => exact ⟨keeps.secure, keeps.plain, keeps.bottom⟩
      case isFalse => exact keeps
  | didTapShowPassword => exact ⟨rfl, keeps.plain, keeps.bottom⟩
  | keyboardWillShow frame =>
      cases frame with
      | true => exact ⟨keeps.secure, keeps.plain, .inr rfl⟩
      | false => exact keeps
  | keyboardWillHide => exact ⟨keeps.secure, keeps.plain, .inl rfl⟩
  | didTapSignIn => exact keeps

namespace EntryApp

section Contents

variable (icu : WordCharacters) (characterCount : Text → Nat)

structure Contents (entry : EntryApp) : Prop where
  logins : ∀ login, (entry.logins login).Keeps
  signUps : ∀ signUp, SignUpViewController.Describes characterCount (entry.signUps signUp)

theorem updated_all {Contained : Type} (P : Contained → Prop) (contents : Nat → Contained) (identity : Nat)
    (content : Contained) (all : ∀ other, P (contents other)) (new : P content) (other : Nat) :
    P (Function.update contents identity content other) := by
  by_cases same : other = identity
  · subst same
    rw [Function.update_self]
    exact new
  · rw [Function.update_of_ne same]
    exact all other

theorem fresh_login_keeps : LoginViewController.fromNib.viewDidLoad.Keeps := ⟨rfl, rfl, .inl rfl⟩

theorem screens_contents (entry : EntryApp) (event : EntryEvent) (contents : entry.Contents characterCount) :
    (entry.screens icu characterCount event).Contents characterCount := by
  cases event with
  | login event =>
      refine ⟨?_, contents.signUps⟩
      intro login
      simp only [screens, onLogin]
      split
      · exact login_step_keeps _ event (contents.logins login)
      · exact contents.logins login
  | signUp event =>
      rw [screens, onSignUp]
      split
      case h_1 signUp top =>
        exact ⟨contents.logins, updated_all (SignUpViewController.Describes characterCount) _ signUp _ contents.signUps
          (SignUpViewController.step_describes icu characterCount _ event (contents.signUps signUp))⟩
      case h_2 => exact contents
  | elsewhere event =>
      cases event with
      | didTapGetStarted =>
          rw [screens]
          split
          case h_1 top =>
            exact ⟨updated_all LoginViewController.Keeps _ _ _ contents.logins fresh_login_keeps, contents.signUps⟩
          case h_2 => exact contents
      | handleCreateAccountTap =>
          rw [screens]
          split
          case h_1 login top =>
            exact ⟨contents.logins, updated_all (SignUpViewController.Describes characterCount) _ _ _ contents.signUps
              (SignUpViewController.view_did_load_describes characterCount)⟩
          case h_2 => exact contents
      | _ => exact contents

theorem run_contents (backend : Backend) (events : List EntryEvent) :
    (run (EntryApp.step icu characterCount) (EntryApp.scene backend) events).Contents characterCount := by
  apply invariant_run
  · intro entry event contents
    have after := screens_contents icu characterCount entry event contents
    exact ⟨after.logins, after.signUps⟩
  · exact ⟨fun _ => fresh_login_keeps, fun _ => SignUpViewController.view_did_load_describes characterCount⟩

theorem asks_cases (entry : EntryApp) (event : EntryEvent) :
    entry.asks event = [] ∨ (∃ asked, entry.asks event = [asked] ∧ ∀ form, asked ≠ .didTapSignUp form) ∨
      (event = .signUp .didTapSignUp ∧ ∃ signUp, entry.app.topViewController = some (.signUp signUp) ∧
        entry.asks event = [.didTapSignUp (entry.signUps signUp).form]) := by
  cases event with
  | login event =>
      cases event with
      | didTapSignIn =>
          rw [asks]
          split
          case h_1 login top => exact .inr (.inl ⟨_, rfl, by simp⟩)
          case h_2 => exact .inl rfl
      | _ => exact .inl rfl
  | signUp event =>
      cases event with
      | didTapSignUp =>
          rw [asks]
          split
          case h_1 signUp top => exact .inr (.inr ⟨rfl, signUp, top, rfl⟩)
          case h_2 => exact .inl rfl
      | _ => exact .inl rfl
  | elsewhere event =>
      cases event with
      | didTapSignIn form => exact .inl rfl
      | didTapSignUp form => exact .inl rfl
      | _ => exact .inr (.inl ⟨_, rfl, by simp⟩)

def Typed (backend : Backend) (past : List EntryEvent) (request : RegisterUserRequest) : Prop :=
  ∃ front back signUp, past = front ++ .signUp .didTapSignUp :: back ∧
    let entry := run (EntryApp.step icu characterCount) (EntryApp.scene backend) front
    entry.app.topViewController = some (.signUp signUp) ∧ (entry.signUps signUp).ShowsStrong ∧
      (entry.signUps signUp).form.request = request

theorem typed_longer (backend : Backend) (past : List EntryEvent) (event : EntryEvent) (request : RegisterUserRequest)
    (typed : Typed icu characterCount backend past request) :
    Typed icu characterCount backend (past ++ [event]) request := by
  obtain ⟨front, back, signUp, place, there⟩ := typed
  refine ⟨front, back ++ [event], signUp, ?_, there⟩
  rw [place]
  simp

theorem submitted_shows_strong (entry : EntryApp) (signUp : Nat) (request : RegisterUserRequest)
    (contents : entry.Contents characterCount)
    (submitted : didTapSignUpAction icu (entry.signUps signUp).form = .submit request) :
    (entry.signUps signUp).ShowsStrong ∧ (entry.signUps signUp).form.request = request := by
  obtain ⟨⟨_, _, valid⟩, same⟩ := (sign_up_submits_iff icu _ request).mp submitted
  refine ⟨?_, same.symm⟩
  rw [same] at valid
  exact (SignUpViewController.shows_strong_iff characterCount _ (contents.signUps signUp)).mpr valid

theorem step_typed (backend : Backend) (past : List EntryEvent) (event : EntryEvent)
    (sourced : (run (EntryApp.step icu characterCount) (EntryApp.scene backend) past).app.Sourced
      (Typed icu characterCount backend past) (fun _ => True) backend) :
    ((run (EntryApp.step icu characterCount) (EntryApp.scene backend) past).step icu characterCount event).app.Sourced
      (Typed icu characterCount backend (past ++ [event])) (fun _ => True) backend := by
  have contents := run_contents icu characterCount backend past
  have before := App.weaker_sourced _ _ backend _ _ (typed_longer icu characterCount backend past event) sourced
  rw [step]
  rcases asks_cases (run (EntryApp.step icu characterCount) (EntryApp.scene backend) past) event with
    none | ⟨asked, one, other⟩ | ⟨rfl, signUp, top, one⟩
  · rw [none]
    exact before
  · rw [one]
    refine App.step_sourced _ _ backend _ icu asked ?_ (fun _ _ _ _ => trivial) before
    intro form request same
    exact absurd same (other form)
  · rw [one]
    refine App.step_sourced _ _ backend _ icu (.didTapSignUp (SignUpViewController.form _)) ?_ (fun _ _ _ _ => trivial) before
    intro form request same submitted
    obtain rfl := AppEvent.didTapSignUp.inj same
    obtain ⟨strong, typed⟩ := submitted_shows_strong icu characterCount _ signUp request contents submitted
    exact ⟨past, [], signUp, rfl, top, strong, typed⟩

end Contents

end EntryApp

theorem entry_runs_are_app_runs (icu : WordCharacters) (characterCount : Text → Nat) (backend : Backend)
    (events : List EntryEvent) :
    (run (EntryApp.step icu characterCount) (EntryApp.scene backend) events).app =
      run (App.step icu) (App.scene backend)
        (outputs (EntryApp.step icu characterCount) EntryApp.asks (EntryApp.scene backend) events) :=
  simulated_run (EntryApp.step icu characterCount) EntryApp.asks EntryApp.app (App.step icu) (fun _ _ => rfl)
    (EntryApp.scene backend) events

-- From the keys to the backend: every account made in a run has the email and password
-- that stood in a sign-up screen, under a meter showing strong, when Sign Up was tapped.
theorem accounts_typed_under_strong_meter (icu : WordCharacters) (characterCount : Text → Nat) (backend : Backend)
    (events : List EntryEvent) :
    ∀ account ∈ (run (EntryApp.step icu characterCount) (EntryApp.scene backend) events).app.backend.accounts,
      account ∈ backend.accounts ∨ ∃ request, EntryApp.Typed icu characterCount backend events request ∧
        account.email = request.email ∧ account.password = request.password := by
  have sourced := invariant_history (EntryApp.step icu characterCount)
    (fun past entry => entry = run (EntryApp.step icu characterCount) (EntryApp.scene backend) past ∧
      entry.app.Sourced (EntryApp.Typed icu characterCount backend past) (fun _ => True) backend) (by
      intro past entry event held
      obtain ⟨rfl, sourced⟩ := held
      refine ⟨?_, EntryApp.step_typed icu characterCount backend past event sourced⟩
      rw [run_append]
      rfl)
    (EntryApp.scene backend) events ⟨rfl, scene_sourced _ _ backend⟩
  exact sourced.2.accounts

def annasKeys : List EntryEvent :=
  [.elsewhere .didTapGetStarted, .elsewhere .handleCreateAccountTap,
    .signUp (.edit .username ⟨0, 0⟩ annasForm.request.username),
    .signUp (.edit .email ⟨0, 0⟩ annasForm.request.email),
    .signUp (.edit .password ⟨0, 0⟩ annasForm.request.password), .signUp .didTapSignUp,
    .elsewhere (.executeCreateUser 1 annasForm.request (.user "anna"))]

theorem annas_account_was_typed :
    ∃ request, EntryApp.Typed asciiWords List.length emptyBackend annasKeys request ∧
      annasForm.request.email = request.email ∧ annasForm.request.password = request.password :=
  (accounts_typed_under_strong_meter asciiWords List.length emptyBackend annasKeys
    ⟨"anna", annasForm.request.email, annasForm.request.password⟩ (by decide)).resolve_left (by decide)

end DuplicatedApps
