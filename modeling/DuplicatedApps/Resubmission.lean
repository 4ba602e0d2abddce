import DuplicatedApps.RegistrationStages
import DuplicatedApps.SignInTaps

set_option autoImplicit false

namespace DuplicatedApps

open Runs

section SignUp

variable (icu : WordCharacters) (replies : Replies) (start : App) (signUp : Nat) (form : SignUpForm)
  (request : RegisterUserRequest)

section Frame

variable (taps shown unheard : Nat) (duplicates : Multiset Call) (solo app : App)

end Frame

section Duplicates

variable (taps shown unheard : Nat) (duplicates : Multiset Call) (solo app : App)

end Duplicates

end SignUp

def annasReplies : Replies := ⟨.user "anna", .user "anna", none⟩

def loginScreen : App :=
  run (App.step asciiWords) (App.scene emptyBackend) [.rootTransition .welcome, .didTapGetStarted]

def signUpScreen : App := run (App.step asciiWords) loginScreen [.handleCreateAccountTap]

def annasCreateUserCall : Phase CreateUserResult → Call := .createUser 1 annasForm.request

def annasSetDataCall : Phase (Option NSError) → Call := .setData 1 "anna" (usersDocument annasForm.request)

def answeredSignUp : List AppEvent :=
  [.executeCreateUser 1 annasForm.request (.user "anna"), .receive (annasCreateUserCall (.executed (.user "anna"))),
    .complete (annasCreateUserCall (.received (.user "anna"))),
    .executeSetData 1 "anna" (usersDocument annasForm.request) none,
    .receive (annasSetDataCall (.executed none)), .complete (annasSetDataCall (.received none))]

def refusedSignUp : List AppEvent :=
  [.executeCreateUser 1 annasForm.request (.user "anna"),
    .receive (annasCreateUserCall (.executed (.error documentedFirebase.emailAlreadyInUse))),
    .complete (annasCreateUserCall (.received (.error documentedFirebase.emailAlreadyInUse)))]

def signUpEvents (taps late : Nat) : List AppEvent :=
  List.replicate taps (.didTapSignUp annasForm) ++
    (answeredSignUp ++ (List.replicate (taps - 1 - late) refusedSignUp).flatten ++ [.rootTransition .tabController] ++
      (List.replicate late refusedSignUp).flatten)

theorem taps_replicate (tap : AppEvent) (replies : Replies) (taps : Nat) :
    Taps tap replies taps (List.replicate taps tap) := by
  induction taps with
  | zero => exact .done
  | succ taps ih => exact .tap taps _ ih

theorem one_sign_up : Submission asciiWords annasReplies (.didTapSignUp annasForm) 1 signUpScreen (signUpEvents 1 0) :=
  ⟨⟨_, _, taps_replicate _ _ 1, by decide, rfl⟩, by decide, by decide⟩

end DuplicatedApps
