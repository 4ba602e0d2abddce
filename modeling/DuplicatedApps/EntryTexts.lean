import DuplicatedApps.EntryScreens

set_option autoImplicit false

namespace DuplicatedApps

open Runs

section Texts

def LoginViewController.texts (screen : LoginViewController) : LoginField → NSString := fun field => (screen.field field).text

def signUpFormOf (texts : SignUpField → NSString) : SignUpForm :=
  ⟨some (scalars (texts .username)), some (scalars (texts .email)), some (scalars (texts .password))⟩

theorem sign_up_form_texts (screen : SignUpViewController) : screen.form = signUpFormOf screen.texts := rfl

end Texts

structure TypedApp where
  app : App
  logins : Nat → LoginField → NSString
  signUps : Nat → SignUpField → NSString

namespace EntryApp

def typed (entry : EntryApp) : TypedApp :=
  ⟨entry.app, fun login => (entry.logins login).texts, fun signUp => (entry.signUps signUp).texts⟩

section Steps

variable (icu : WordCharacters) (characterCount : Text → Nat) (entry : EntryApp) (event : EntryEvent)

end Steps

end EntryApp

end DuplicatedApps
