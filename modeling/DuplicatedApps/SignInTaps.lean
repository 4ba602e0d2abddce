import DuplicatedApps.Submission

set_option autoImplicit false

namespace DuplicatedApps

open Runs

section SignIn

variable (icu : WordCharacters) (replies : Replies) (start : App) (login : Nat) (form : LoginForm)
  (request : LoginUserRequest)

end SignIn

end DuplicatedApps
