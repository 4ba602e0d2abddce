import DuplicatedApps.AlertManager
import DuplicatedApps.EmailGrammar
import DuplicatedApps.PasswordPolicy

set_option autoImplicit false

namespace DuplicatedApps

open Pattern Validator

structure SignUpForm where
  username : Option Text
  email : Option Text
  password : Option Text

structure LoginForm where
  email : Option Text
  password : Option Text

inductive TapOutcome (Request : Type) where
  | alert (alert : Alert)
  | submit (request : Request)
deriving DecidableEq

def SignUpForm.request (form : SignUpForm) : RegisterUserRequest :=
  ⟨form.username.getD [], form.email.getD [], form.password.getD []⟩

def LoginForm.request (form : LoginForm) : LoginUserRequest := ⟨form.email.getD [], form.password.getD []⟩

def didTapSignUpAction (icu : WordCharacters) (form : SignUpForm) : TapOutcome RegisterUserRequest :=
  let registerUserRequest := form.request
  if !isValidUsername icu registerUserRequest.username then .alert AlertManager.showInvalidUsernameAlert
  else if !isValidEmail registerUserRequest.email then .alert AlertManager.showInvalidEmailAlert
  else if !isPasswordValid registerUserRequest.password then .alert AlertManager.showInvalidPasswordAlert
  else .submit registerUserRequest

def didTapSignInAction (form : LoginForm) : TapOutcome LoginUserRequest :=
  let loginRequest := form.request
  if !isValidEmail loginRequest.email then .alert AlertManager.showInvalidEmailAlert
  else if !isPasswordValid loginRequest.password then .alert AlertManager.showInvalidPasswordAlert
  else .submit loginRequest

def annasForm : SignUpForm :=
  ⟨some ['a', 'n', 'n', 'a'], some ['a', '@', 'b', '.', 'c', 'o'], some ['A', 'b', '1', '#', 'x', 'y']⟩

def annasLogin : LoginForm := ⟨annasForm.email, annasForm.password⟩

theorem sign_up_submits_iff (icu : WordCharacters) (form : SignUpForm) (request : RegisterUserRequest) :
    didTapSignUpAction icu form = .submit request ↔
      (isValidUsername icu request.username = true ∧ isValidEmail request.email = true ∧
        isPasswordValid request.password = true) ∧ request = form.request := by
  constructor
  · intro submitted
    by_cases username : isValidUsername icu form.request.username = true
    · by_cases email : isValidEmail form.request.email = true
      · by_cases password : isPasswordValid form.request.password = true
        · have same : form.request = request := by
            simpa [didTapSignUpAction, username, email, password] using submitted
          subst same
          exact ⟨⟨username, email, password⟩, rfl⟩
        · simp [didTapSignUpAction, username, email, password] at submitted
      · simp [didTapSignUpAction, username, email] at submitted
    · simp [didTapSignUpAction, username] at submitted
  · intro accepted
    obtain ⟨⟨username, email, password⟩, rfl⟩ := accepted
    simp [didTapSignUpAction, username, email, password]

theorem sign_in_submits_iff (form : LoginForm) (request : LoginUserRequest) :
    didTapSignInAction form = .submit request ↔
      (isValidEmail request.email = true ∧ isPasswordValid request.password = true) ∧ request = form.request := by
  constructor
  · intro submitted
    by_cases email : isValidEmail form.request.email = true
    · by_cases password : isPasswordValid form.request.password = true
      · have same : form.request = request := by simpa [didTapSignInAction, email, password] using submitted
        subst same
        exact ⟨⟨email, password⟩, rfl⟩
      · simp [didTapSignInAction, email, password] at submitted
    · simp [didTapSignInAction, email] at submitted
  · intro accepted
    obtain ⟨⟨email, password⟩, rfl⟩ := accepted
    simp [didTapSignInAction, email, password]

section Verbatim

theorem username_verbatim_iff (icu : WordCharacters) (username : Text) (valid : isValidUsername icu username = true) :
    evaluate (usernameRegEx icu) username = true ↔ Unpadded whitespacesAndNewlines username := by
  constructor
  · intro matched
    have all := ((evaluate_run _ _ _ _).mp matched).2.2
    exact unpadded_of_none _ _ fun c member => icu.notSpace c (all c member)
  · intro unpadded
    rwa [isValidUsername, (trimming_fixed_iff _ _).mpr unpadded] at valid

theorem email_not_space (t : Text) (matched : evaluate emailRegEx t = true) :
    ∀ c ∈ t, whitespacesAndNewlines c = false := by
  obtain ⟨split, rfl, matching⟩ := (email_regex_iff_split t).mp matched
  obtain ⟨⟨_, localAll⟩, ⟨_, domainAll⟩, _, _, topLevelAll⟩ := (split_matching_iff split).mp matching
  intro c member
  simp only [EmailSplit.text, List.mem_append, List.mem_cons] at member
  rcases member with inLocal | rfl | inDomain | rfl | inTopLevel
  · exact bracket_not_space _ c (localAll c inLocal) (by decide)
  · decide
  · exact bracket_not_space _ c (domainAll c inDomain) (by decide)
  · decide
  · exact bracket_not_space _ c (topLevelAll c inTopLevel) (by decide)

theorem email_verbatim_iff (email : Text) (valid : isValidEmail email = true) :
    evaluate emailRegEx email = true ↔ Unpadded whitespacesAndNewlines email := by
  constructor
  · intro matched
    exact unpadded_of_none _ _ (email_not_space email matched)
  · intro unpadded
    rwa [isValidEmail, (trimming_fixed_iff _ _).mpr unpadded] at valid

-- The password pattern allows blanks, so padding only hurts through the length or a line break.
theorem password_verbatim_iff (password : Text) (valid : isPasswordValid password = true) :
    evaluate passwordRegEx password = true ↔
      password.length ≤ 32 ∧ ∀ c ∈ password, isLineTerminator c = false := by
  rw [password_regex_iff_policy]
  constructor
  · intro policy
    exact ⟨policy.atMost, policy.oneLine⟩
  · intro bounded
    have policy := (password_regex_iff_policy _).mp valid
    obtain ⟨front, back, split, _, _⟩ := trimming_decomposes whitespacesAndNewlines password
    have inside : ∀ c ∈ trimmingCharacters whitespacesAndNewlines password, c ∈ password := by
      intro c member
      rw [split]
      simp [member]
    have longer : (trimmingCharacters whitespacesAndNewlines password).length ≤ password.length := by
      have lengths := congrArg List.length split
      simp only [List.length_append] at lengths
      omega
    exact ⟨Nat.le_trans policy.atLeast longer, bounded.1, bounded.2,
      policy.hasLowercase.imp fun _ found => ⟨inside _ found.1, found.2⟩,
      policy.hasUppercase.imp fun _ found => ⟨inside _ found.1, found.2⟩,
      policy.hasDigit.imp fun _ found => ⟨inside _ found.1, found.2⟩,
      policy.hasSpecial.imp fun _ found => ⟨inside _ found.1, found.2⟩⟩

end Verbatim

structure RegistersVerbatim (icu : WordCharacters) (request : RegisterUserRequest) : Prop where
  username : evaluate (usernameRegEx icu) request.username = true
  email : evaluate emailRegEx request.email = true
  password : evaluate passwordRegEx request.password = true
  storedUsername : ∀ value, (usersDocument request).lookup "username" = some value →
    evaluate (usernameRegEx icu) value = true
  storedEmail : ∀ value, (usersDocument request).lookup "email" = some value → evaluate emailRegEx value = true

structure SignsInVerbatim (request : LoginUserRequest) : Prop where
  email : evaluate emailRegEx request.email = true
  password : evaluate passwordRegEx request.password = true

def Trimmed (email password : Text) : Prop :=
  Unpadded whitespacesAndNewlines email ∧ password.length ≤ 32 ∧ ∀ c ∈ password, isLineTerminator c = false

theorem registers_verbatim_iff (icu : WordCharacters) (form : SignUpForm) (request : RegisterUserRequest)
    (submitted : didTapSignUpAction icu form = .submit request) :
    RegistersVerbatim icu request ↔
      Unpadded whitespacesAndNewlines request.username ∧ Trimmed request.email request.password := by
  obtain ⟨⟨username, email, password⟩, _⟩ := (sign_up_submits_iff icu form request).mp submitted
  constructor
  · intro verbatim
    exact ⟨(username_verbatim_iff icu _ username).mp verbatim.username, (email_verbatim_iff _ email).mp verbatim.email,
      (password_verbatim_iff _ password).mp verbatim.password⟩
  · intro trimmed
    have usernameMatch := (username_verbatim_iff icu _ username).mpr trimmed.1
    have emailMatch := (email_verbatim_iff _ email).mpr trimmed.2.1
    have passwordMatch := (password_verbatim_iff _ password).mpr trimmed.2.2
    refine ⟨usernameMatch, emailMatch, passwordMatch, fun value stored => ?_, fun value stored => ?_⟩
    · obtain rfl : request.username = value := Option.some.inj stored
      exact usernameMatch
    · obtain rfl : request.email = value := Option.some.inj stored
      exact emailMatch

theorem signs_in_verbatim_iff (form : LoginForm) (request : LoginUserRequest)
    (submitted : didTapSignInAction form = .submit request) :
    SignsInVerbatim request ↔ Trimmed request.email request.password := by
  obtain ⟨⟨email, password⟩, _⟩ := (sign_in_submits_iff form request).mp submitted
  constructor
  · intro verbatim
    exact ⟨(email_verbatim_iff _ email).mp verbatim.email, (password_verbatim_iff _ password).mp verbatim.password⟩
  · intro trimmed
    exact ⟨(email_verbatim_iff _ email).mpr trimmed.1, (password_verbatim_iff _ password).mpr trimmed.2⟩

def DifferByPadding (a b : Text) : Prop :=
  trimmingCharacters whitespacesAndNewlines a = trimmingCharacters whitespacesAndNewlines b ∧ a ≠ b

theorem unpadded_not_by_padding (a b : Text) (first : Unpadded whitespacesAndNewlines a)
    (second : Unpadded whitespacesAndNewlines b) : ¬ DifferByPadding a b := by
  intro differ
  have same := differ.1
  rw [(trimming_fixed_iff _ _).mpr first, (trimming_fixed_iff _ _).mpr second] at same
  exact differ.2 same

def SignUpForm.TrimmingIdle (icu : WordCharacters) (form : SignUpForm) : Prop :=
  isValidUsername icu form.request.username = true ∧ isValidEmail form.request.email = true ∧
      isPasswordValid form.request.password = true →
    Unpadded whitespacesAndNewlines form.request.username ∧ Trimmed form.request.email form.request.password

def LoginForm.TrimmingIdle (form : LoginForm) : Prop :=
  isValidEmail form.request.email = true ∧ isPasswordValid form.request.password = true →
    Trimmed form.request.email form.request.password

theorem sign_up_sends_verbatim_iff (icu : WordCharacters) (form : SignUpForm) :
    (∀ request, didTapSignUpAction icu form = .submit request → RegistersVerbatim icu request) ↔
      form.TrimmingIdle icu := by
  constructor
  · intro verbatim accepted
    have submitted := (sign_up_submits_iff icu form form.request).mpr ⟨accepted, rfl⟩
    exact (registers_verbatim_iff icu form form.request submitted).mp (verbatim form.request submitted)
  · intro idle request submitted
    obtain ⟨accepted, rfl⟩ := (sign_up_submits_iff icu form request).mp submitted
    exact (registers_verbatim_iff icu form form.request submitted).mpr (idle accepted)

theorem sign_in_sends_verbatim_iff (form : LoginForm) :
    (∀ request, didTapSignInAction form = .submit request → SignsInVerbatim request) ↔ form.TrimmingIdle := by
  constructor
  · intro verbatim accepted
    have submitted := (sign_in_submits_iff form form.request).mpr ⟨accepted, rfl⟩
    exact (signs_in_verbatim_iff form form.request submitted).mp (verbatim form.request submitted)
  · intro idle request submitted
    obtain ⟨accepted, rfl⟩ := (sign_in_submits_iff form request).mp submitted
    exact (signs_in_verbatim_iff form form.request submitted).mpr (idle accepted)

-- What was validated is what is sent exactly when the validators' trimming was idle,
-- and two such sign-ups register no names telling apart only by their padding.
theorem validated_is_sent (icu : WordCharacters) (form other : SignUpForm) (login : LoginForm) :
    ((∀ request, didTapSignUpAction icu form = .submit request → RegistersVerbatim icu request) ↔
      form.TrimmingIdle icu) ∧
    ((∀ request, didTapSignInAction login = .submit request → SignsInVerbatim request) ↔ login.TrimmingIdle) ∧
    (form.TrimmingIdle icu → other.TrimmingIdle icu → ∀ request request',
      didTapSignUpAction icu form = .submit request → didTapSignUpAction icu other = .submit request' →
        ¬ DifferByPadding request.username request'.username ∧ ¬ DifferByPadding request.email request'.email) := by
  refine ⟨sign_up_sends_verbatim_iff icu form, sign_in_sends_verbatim_iff login, ?_⟩
  intro idle otherIdle request request' submitted submitted'
  obtain ⟨accepted, rfl⟩ := (sign_up_submits_iff icu form request).mp submitted
  obtain ⟨accepted', rfl⟩ := (sign_up_submits_iff icu other request').mp submitted'
  have clean := idle accepted
  have clean' := otherIdle accepted'
  constructor
  · exact unpadded_not_by_padding _ _ clean.1 clean'.1
  · exact unpadded_not_by_padding _ _ clean.2.1 clean'.2.1

def paddedForm (username : Text) : SignUpForm := { annasForm with username := some username }

theorem padded_username_sent :
    didTapSignUpAction asciiWords (paddedForm ['a', 'n', 'n', 'a', ' ']) =
        .submit (paddedForm ['a', 'n', 'n', 'a', ' ']).request ∧
      didTapSignUpAction asciiWords annasForm = .submit annasForm.request ∧
      DifferByPadding (paddedForm ['a', 'n', 'n', 'a', ' ']).request.username annasForm.request.username ∧
      ¬ RegistersVerbatim asciiWords (paddedForm ['a', 'n', 'n', 'a', ' ']).request := by
  refine ⟨by decide, by decide, ⟨by decide, by decide⟩, fun verbatim => ?_⟩
  exact absurd verbatim.username (by decide)

section Verdicts

structure UsernamePolicy (icu : WordCharacters) (t : Text) : Prop where
  atLeast : 4 ≤ t.length
  atMost : t.length ≤ 24
  word : ∀ c ∈ t, icu.isWord c = true

theorem username_policy_iff (icu : WordCharacters) (username : Text) :
    isValidUsername icu username = true ↔ UsernamePolicy icu (trimmingCharacters whitespacesAndNewlines username) := by
  rw [isValidUsername, usernameRegEx, evaluate_run]
  apply Iff.intro
  · intro matched
    obtain ⟨least, most, word⟩ := matched
    exact ⟨least, most 24 rfl, word⟩
  · intro policy
    refine ⟨policy.atLeast, ?_, policy.word⟩
    intro bound same
    rw [← Option.some.inj same]
    exact policy.atMost

inductive SignUpVerdict (icu : WordCharacters) (form : SignUpForm) : TapOutcome RegisterUserRequest → Prop
  | username
      (refused : ¬ UsernamePolicy icu (trimmingCharacters whitespacesAndNewlines form.request.username)) :
      SignUpVerdict icu form (.alert ⟨"Invalid Username", some "Please enter a valid username."⟩)
  | email
      (username : UsernamePolicy icu (trimmingCharacters whitespacesAndNewlines form.request.username))
      (refused : EmailRecogniser.accepts (trimmingCharacters whitespacesAndNewlines form.request.email) = false) :
      SignUpVerdict icu form (.alert ⟨"Invalid Email", some "Please enter a valid email."⟩)
  | password
      (username : UsernamePolicy icu (trimmingCharacters whitespacesAndNewlines form.request.username))
      (email : EmailRecogniser.accepts (trimmingCharacters whitespacesAndNewlines form.request.email) = true)
      (refused : ¬ PasswordPolicy (trimmingCharacters whitespacesAndNewlines form.request.password)) :
      SignUpVerdict icu form (.alert ⟨"Invalid Password", some "Please enter a valid password."⟩)
  | submit
      (username : UsernamePolicy icu (trimmingCharacters whitespacesAndNewlines form.request.username))
      (email : EmailRecogniser.accepts (trimmingCharacters whitespacesAndNewlines form.request.email) = true)
      (password : PasswordPolicy (trimmingCharacters whitespacesAndNewlines form.request.password)) :
      SignUpVerdict icu form (.submit form.request)

inductive LoginVerdict (form : LoginForm) : TapOutcome LoginUserRequest → Prop
  | email
      (refused : EmailRecogniser.accepts (trimmingCharacters whitespacesAndNewlines form.request.email) = false) :
      LoginVerdict form (.alert ⟨"Invalid Email", some "Please enter a valid email."⟩)
  | password
      (email : EmailRecogniser.accepts (trimmingCharacters whitespacesAndNewlines form.request.email) = true)
      (refused : ¬ PasswordPolicy (trimmingCharacters whitespacesAndNewlines form.request.password)) :
      LoginVerdict form (.alert ⟨"Invalid Password", some "Please enter a valid password."⟩)
  | submit
      (email : EmailRecogniser.accepts (trimmingCharacters whitespacesAndNewlines form.request.email) = true)
      (password : PasswordPolicy (trimmingCharacters whitespacesAndNewlines form.request.password)) :
      LoginVerdict form (.submit form.request)

theorem email_policy_iff (email : Text) :
    isValidEmail email = EmailRecogniser.accepts (trimmingCharacters whitespacesAndNewlines email) :=
  Bool.eq_iff_iff.mpr (email_regex_iff_recognised _)

theorem password_policy_iff (password : Text) :
    isPasswordValid password = true ↔ PasswordPolicy (trimmingCharacters whitespacesAndNewlines password) :=
  password_regex_iff_policy _

theorem sign_up_verdict (icu : WordCharacters) (form : SignUpForm) :
    SignUpVerdict icu form (didTapSignUpAction icu form) := by
  rw [didTapSignUpAction]
  by_cases username : isValidUsername icu form.request.username = true
  · have named := (username_policy_iff icu _).mp username
    cases email : isValidEmail form.request.email with
    | false =>
        simp only [username, Bool.not_true, Bool.not_false, Bool.false_eq_true, if_true, if_false]
        exact .email named ((email_policy_iff _).symm.trans email)
    | true =>
        have addressed := (email_policy_iff _).symm.trans email
        by_cases password : isPasswordValid form.request.password = true
        · simp only [username, password, Bool.not_true, Bool.false_eq_true, if_false]
          exact .submit named addressed ((password_policy_iff _).mp password)
        · simp only [username, password, Bool.not_true, Bool.not_false, Bool.false_eq_true, if_true, if_false]
          exact .password named addressed (mt (password_policy_iff _).mpr password)
  · simp only [username, Bool.not_false, if_true]
    exact .username (mt (username_policy_iff icu _).mpr username)

theorem login_verdict (form : LoginForm) : LoginVerdict form (didTapSignInAction form) := by
  rw [didTapSignInAction]
  cases email : isValidEmail form.request.email with
  | false =>
      simp only [Bool.not_false, if_true]
      exact .email ((email_policy_iff _).symm.trans email)
  | true =>
      have addressed := (email_policy_iff _).symm.trans email
      by_cases password : isPasswordValid form.request.password = true
      · simp only [password, Bool.not_true, Bool.false_eq_true, if_false]
        exact .submit addressed ((password_policy_iff _).mp password)
      · simp only [password, Bool.not_true, Bool.not_false, Bool.false_eq_true, if_true, if_false]
        exact .password addressed (mt (password_policy_iff _).mpr password)

theorem sign_up_verdict_reached (icu : WordCharacters) (form : SignUpForm) (outcome : TapOutcome RegisterUserRequest)
    (verdict : SignUpVerdict icu form outcome) : didTapSignUpAction icu form = outcome := by
  cases verdict with
  | username refused =>
      have invalid := mt (username_policy_iff icu _).mp refused
      simp [didTapSignUpAction, invalid, AlertManager.showInvalidUsernameAlert]
  | email username refused =>
      have named := (username_policy_iff icu _).mpr username
      have invalid := (email_policy_iff _).trans refused
      simp [didTapSignUpAction, named, invalid, AlertManager.showInvalidEmailAlert]
  | password username email refused =>
      have named := (username_policy_iff icu _).mpr username
      have addressed := (email_policy_iff _).trans email
      have invalid := mt (password_policy_iff _).mp refused
      simp [didTapSignUpAction, named, addressed, invalid, AlertManager.showInvalidPasswordAlert]
  | submit username email password =>
      have named := (username_policy_iff icu _).mpr username
      have addressed := (email_policy_iff _).trans email
      have strong := (password_policy_iff _).mpr password
      simp [didTapSignUpAction, named, addressed, strong]

theorem login_verdict_reached (form : LoginForm) (outcome : TapOutcome LoginUserRequest)
    (verdict : LoginVerdict form outcome) : didTapSignInAction form = outcome := by
  cases verdict with
  | email refused =>
      have invalid := (email_policy_iff _).trans refused
      simp [didTapSignInAction, invalid, AlertManager.showInvalidEmailAlert]
  | password email refused =>
      have addressed := (email_policy_iff _).trans email
      have invalid := mt (password_policy_iff _).mp refused
      simp [didTapSignInAction, addressed, invalid, AlertManager.showInvalidPasswordAlert]
  | submit email password =>
      have addressed := (email_policy_iff _).trans email
      have strong := (password_policy_iff _).mpr password
      simp [didTapSignInAction, addressed, strong]

end Verdicts

theorem taps_follow_verdicts (icu : WordCharacters) :
    (∀ form outcome, didTapSignUpAction icu form = outcome ↔ SignUpVerdict icu form outcome) ∧
      ∀ form outcome, didTapSignInAction form = outcome ↔ LoginVerdict form outcome := by
  apply And.intro
  · intro form outcome
    apply Iff.intro
    · exact fun same => same ▸ sign_up_verdict icu form
    · exact sign_up_verdict_reached icu form outcome
  · intro form outcome
    apply Iff.intro
    · exact fun same => same ▸ login_verdict form
    · exact login_verdict_reached form outcome

end DuplicatedApps
