import DuplicatedApps.AuthService

set_option autoImplicit false

namespace DuplicatedApps

structure Alert where
  title : String
  message : Option String
deriving DecidableEq

namespace AlertManager

def showInvalidEmailAlert : Alert := ⟨"Invalid Email", some "Please enter a valid email."⟩
def showInvalidPasswordAlert : Alert := ⟨"Invalid Password", some "Please enter a valid password."⟩
def showInvalidUsernameAlert : Alert := ⟨"Invalid Username", some "Please enter a valid username."⟩

def showRegistrationErrorAlert : Option NSError → Alert
  | none => ⟨"Unknown Registration Error", none⟩
  | some error => ⟨"Unknown Registration Error", some error.localizedDescription⟩

def showSignInErrorAlert (error : NSError) : Alert := ⟨"Error Signing In", some error.localizedDescription⟩

end AlertManager

end DuplicatedApps
