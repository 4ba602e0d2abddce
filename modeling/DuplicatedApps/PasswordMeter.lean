import DuplicatedApps.Forms
import DuplicatedApps.Runs

set_option autoImplicit false

namespace DuplicatedApps

open Runs Validator

structure UIColor where
  hex : Nat
deriving DecidableEq

namespace AppColors

def gray : UIColor := ⟨0x8F8F8F⟩
def vermilion : UIColor := ⟨0xFE3901⟩
def brown : UIColor := ⟨0x965A00⟩
def oliveGreen : UIColor := ⟨0xADAF4C⟩
def japaneseLaurel : UIColor := ⟨0x009606⟩
def green : UIColor := ⟨0x1CCB0A⟩
def harlequin : UIColor := ⟨0x24E505⟩

end AppColors

inductive PasswordStrength where
  | empty
  | weak
  | medium
  | strong
deriving DecidableEq

def PasswordStrength.colors : PasswordStrength → UIColor × UIColor × UIColor
  | .empty => (AppColors.gray, AppColors.gray, AppColors.gray)
  | .weak => (AppColors.vermilion, AppColors.gray, AppColors.gray)
  | .medium => (AppColors.brown, AppColors.oliveGreen, AppColors.gray)
  | .strong => (AppColors.japaneseLaurel, AppColors.green, AppColors.harlequin)

structure TextField where
  text : NSString
  isSecureTextEntry : Bool

structure SignalView where
  backgroundColor : UIColor
  isHidden : Bool

structure Label where
  text : String
  textColor : UIColor
  isHidden : Bool

structure SignUpViewController where
  passwordStrength : PasswordStrength
  isPasswordHidden : Bool
  isPasswordStrengthViewsHidden : Bool
  emailSignUpTextField : TextField
  usernameSignUpTextField : TextField
  passwordSignUpTextField : TextField
  passwordSignalWeakView : SignalView
  passwordSignalMediumView : SignalView
  passwordSignalStrongView : SignalView
  passwordAlertLabel : Label
  showHidePasswordImageViewIsHidden : Bool
  taps : List (TapOutcome RegisterUserRequest)

inductive SignUpField where
  | email
  | username
  | password
deriving DecidableEq

inductive SignUpEvent where
  | edit (field : SignUpField) (range : NSRange) (string : Text)
  | didTapShowPassword
  | didTapSignUp

namespace SignUpViewController

def updatePasswordStrengthUI (screen : SignUpViewController) : SignUpViewController :=
  let (weakColor, mediumColor, strongColor) := screen.passwordStrength.colors
  { screen with
    passwordSignalWeakView := { screen.passwordSignalWeakView with backgroundColor := weakColor }
    passwordSignalMediumView := { screen.passwordSignalMediumView with backgroundColor := mediumColor }
    passwordSignalStrongView := { screen.passwordSignalStrongView with backgroundColor := strongColor } }

def setLabel (screen : SignUpViewController) (text : String) (textColor : UIColor) : SignUpViewController :=
  { screen with passwordAlertLabel := { screen.passwordAlertLabel with text := text, textColor := textColor } }

def updatePasswordAlertLabel (screen : SignUpViewController) : SignUpViewController :=
  match screen.passwordStrength with
  | .empty => screen.setLabel "" AppColors.gray
  | .weak => screen.setLabel "weak" AppColors.vermilion
  | .medium => screen.setLabel "medium" AppColors.oliveGreen
  | .strong => screen.setLabel "strong" AppColors.harlequin

def updatePasswordStrengthViewsAndIconVisibility (screen : SignUpViewController) (isHidden : Bool) :
    SignUpViewController :=
  { screen with
    isPasswordStrengthViewsHidden := isHidden
    passwordSignalWeakView := { screen.passwordSignalWeakView with isHidden := isHidden }
    passwordSignalMediumView := { screen.passwordSignalMediumView with isHidden := isHidden }
    passwordSignalStrongView := { screen.passwordSignalStrongView with isHidden := isHidden }
    passwordAlertLabel := { screen.passwordAlertLabel with isHidden := isHidden }
    showHidePasswordImageViewIsHidden := !isHidden }

def togglePasswordVisibility (screen : SignUpViewController) : SignUpViewController :=
  let isPasswordHidden := !screen.isPasswordHidden
  { screen with
    isPasswordHidden := isPasswordHidden
    passwordSignUpTextField :=
      { screen.passwordSignUpTextField with
        isSecureTextEntry := isPasswordHidden } }.updatePasswordStrengthViewsAndIconVisibility
      screen.isPasswordStrengthViewsHidden

def field (screen : SignUpViewController) : SignUpField → TextField
  | .email => screen.emailSignUpTextField
  | .username => screen.usernameSignUpTextField
  | .password => screen.passwordSignUpTextField

def setText (screen : SignUpViewController) (field : SignUpField) (text : NSString) : SignUpViewController :=
  match field with
  | .email => { screen with emailSignUpTextField := { screen.emailSignUpTextField with text := text } }
  | .username => { screen with usernameSignUpTextField := { screen.usernameSignUpTextField with text := text } }
  | .password => { screen with passwordSignUpTextField := { screen.passwordSignUpTextField with text := text } }

-- characterCount is String.count, the number of grapheme clusters, whose tables are not modelled.
def shouldChangeCharactersIn (characterCount : Text → Nat) (screen : SignUpViewController) (field : SignUpField)
    (range : NSRange) (string : Text) : SignUpViewController :=
  match field with
  | .password =>
      let newText := scalars (replacingCharacters screen.passwordSignUpTextField.text range string)
      if newText.isEmpty then
        { screen with passwordStrength := .empty }.updatePasswordStrengthViewsAndIconVisibility true
      else
        let screen := screen.updatePasswordStrengthViewsAndIconVisibility false
        let passwordStrength : PasswordStrength :=
          if isPasswordValid newText then .strong else if characterCount newText ≥ 6 then .medium else .weak
        { screen with passwordStrength := passwordStrength }.updatePasswordAlertLabel.updatePasswordStrengthUI
  | _ => screen

def form (screen : SignUpViewController) : SignUpForm :=
  ⟨some (scalars screen.usernameSignUpTextField.text), some (scalars screen.emailSignUpTextField.text),
    some (scalars screen.passwordSignUpTextField.text)⟩

def fromNib : SignUpViewController where
  passwordStrength := .empty
  isPasswordHidden := true
  isPasswordStrengthViewsHidden := true
  emailSignUpTextField := ⟨[], false⟩
  usernameSignUpTextField := ⟨[], false⟩
  passwordSignUpTextField := ⟨[], false⟩
  passwordSignalWeakView := ⟨AppColors.gray, false⟩
  passwordSignalMediumView := ⟨AppColors.gray, false⟩
  passwordSignalStrongView := ⟨AppColors.gray, false⟩
  passwordAlertLabel := ⟨"", AppColors.gray, false⟩
  showHidePasswordImageViewIsHidden := false
  taps := []

def viewDidLoad (screen : SignUpViewController) : SignUpViewController :=
  { screen with
    emailSignUpTextField := { screen.emailSignUpTextField with isSecureTextEntry := false }
    usernameSignUpTextField := { screen.usernameSignUpTextField with isSecureTextEntry := false }
    passwordSignUpTextField :=
      { screen.passwordSignUpTextField with
        isSecureTextEntry := true } }.updatePasswordStrengthViewsAndIconVisibility true

def step (icu : WordCharacters) (characterCount : Text → Nat) (screen : SignUpViewController) :
    SignUpEvent → SignUpViewController
  | .edit field range string =>
      -- UIKit never hands over a range outside the text; NSString would raise on it.
      if range.location + range.length ≤ (screen.field field).text.length then
        (screen.shouldChangeCharactersIn characterCount field range string).setText field
          (replacingCharacters (screen.field field).text range string)
      else screen
  | .didTapShowPassword => screen.togglePasswordVisibility
  | .didTapSignUp => { screen with taps := screen.taps ++ [didTapSignUpAction icu screen.form] }

end SignUpViewController

inductive FieldChange (Field : Type) where
  | pushed
  | edit (field : Field) (range : NSRange) (string : Text)

def FieldChange.apply {Field : Type} [DecidableEq Field] (texts : Field → NSString) : FieldChange Field → Field → NSString
  | .pushed => fun _ => []
  | .edit field range string =>
      if range.location + range.length ≤ (texts field).length then
        Function.update texts field (replacingCharacters (texts field) range string)
      else texts

def SignUpEvent.changes : SignUpEvent → List (FieldChange SignUpField)
  | .edit field range string => [.edit field range string]
  | _ => []

def typedTexts (events : List SignUpEvent) : SignUpField → NSString :=
  run FieldChange.apply (fun _ => []) (events.flatMap SignUpEvent.changes)

def strengthOf (characterCount : Text → Nat) (password : Text) : PasswordStrength :=
  if password = [] then .empty
  else if isPasswordValid password = true then .strong
  else if 6 ≤ characterCount password then .medium
  else .weak

def labelOf : PasswordStrength → String × UIColor
  | .empty => ("", AppColors.gray)
  | .weak => ("weak", AppColors.vermilion)
  | .medium => ("medium", AppColors.oliveGreen)
  | .strong => ("strong", AppColors.harlequin)

def barsOf : PasswordStrength → UIColor × UIColor × UIColor
  | .empty => (⟨0x8F8F8F⟩, ⟨0x8F8F8F⟩, ⟨0x8F8F8F⟩)
  | .weak => (⟨0xFE3901⟩, ⟨0x8F8F8F⟩, ⟨0x8F8F8F⟩)
  | .medium => (⟨0x965A00⟩, ⟨0xADAF4C⟩, ⟨0x8F8F8F⟩)
  | .strong => (⟨0x009606⟩, ⟨0x1CCB0A⟩, ⟨0x24E505⟩)

theorem colors_bars (strength : PasswordStrength) : strength.colors = barsOf strength := by
  cases strength <;> rfl

namespace SignUpViewController

def texts (screen : SignUpViewController) : SignUpField → NSString := fun field => (screen.field field).text

def password (screen : SignUpViewController) : Text := scalars screen.passwordSignUpTextField.text

structure Shows (screen : SignUpViewController) (strength : PasswordStrength) : Prop where
  cached : screen.passwordStrength = strength
  colors : (screen.passwordSignalWeakView.backgroundColor, screen.passwordSignalMediumView.backgroundColor,
    screen.passwordSignalStrongView.backgroundColor) = barsOf strength
  label : (screen.passwordAlertLabel.text, screen.passwordAlertLabel.textColor) = labelOf strength

structure HidesMeter (screen : SignUpViewController) (isHidden : Bool) : Prop where
  flag : screen.isPasswordStrengthViewsHidden = isHidden
  weak : screen.passwordSignalWeakView.isHidden = isHidden
  medium : screen.passwordSignalMediumView.isHidden = isHidden
  strong : screen.passwordSignalStrongView.isHidden = isHidden
  label : screen.passwordAlertLabel.isHidden = isHidden
  icon : screen.showHidePasswordImageViewIsHidden = !isHidden

-- Clearing the text leaves the label and the colours stale, so the class is only
-- promised for a non-empty text; the flags are promised always.
structure Describes (characterCount : Text → Nat) (screen : SignUpViewController) : Prop where
  cleared : screen.password = [] → screen.HidesMeter true ∧ screen.passwordStrength = .empty
  shown : screen.password ≠ [] → screen.HidesMeter false
  shows : screen.password ≠ [] → screen.Shows (strengthOf characterCount screen.password)
  secure : screen.passwordSignUpTextField.isSecureTextEntry = screen.isPasswordHidden

variable (icu : WordCharacters) (characterCount : Text → Nat)

theorem marking (screen : SignUpViewController) :
    screen.updatePasswordAlertLabel.updatePasswordStrengthUI =
      { screen with
        passwordAlertLabel :=
          { screen.passwordAlertLabel with
            text := (labelOf screen.passwordStrength).1
            textColor := (labelOf screen.passwordStrength).2 }
        passwordSignalWeakView :=
          { screen.passwordSignalWeakView with backgroundColor := screen.passwordStrength.colors.1 }
        passwordSignalMediumView :=
          { screen.passwordSignalMediumView with backgroundColor := screen.passwordStrength.colors.2.1 }
        passwordSignalStrongView :=
          { screen.passwordSignalStrongView with backgroundColor := screen.passwordStrength.colors.2.2 } } := by
  cases strength : screen.passwordStrength with
  | empty => simp [updatePasswordAlertLabel, updatePasswordStrengthUI, setLabel, strength, labelOf]
  | weak => simp [updatePasswordAlertLabel, updatePasswordStrengthUI, setLabel, strength, labelOf]
  | medium => simp [updatePasswordAlertLabel, updatePasswordStrengthUI, setLabel, strength, labelOf]
  | strong => simp [updatePasswordAlertLabel, updatePasswordStrengthUI, setLabel, strength, labelOf]

theorem view_did_load_describes : Describes characterCount fromNib.viewDidLoad where
  cleared := fun _ => ⟨⟨rfl, rfl, rfl, rfl, rfl, rfl⟩, rfl⟩
  shown := fun filled => absurd rfl filled
  shows := fun filled => absurd rfl filled
  secure := rfl

theorem elsewhere_describes (screen : SignUpViewController) (email username : TextField)
    (taps : List (TapOutcome RegisterUserRequest)) (describes : Describes characterCount screen) :
    Describes characterCount
      { screen with emailSignUpTextField := email, usernameSignUpTextField := username, taps := taps } := by
  obtain ⟨cleared, shown, shows, secure⟩ := describes
  apply Describes.mk
  · intro empty
    obtain ⟨⟨flag, weak, medium, strong, label, icon⟩, cached⟩ := cleared empty
    exact ⟨⟨flag, weak, medium, strong, label, icon⟩, cached⟩
  · intro filled
    obtain ⟨flag, weak, medium, strong, label, icon⟩ := shown filled
    exact ⟨flag, weak, medium, strong, label, icon⟩
  · intro filled
    obtain ⟨cached, colors, label⟩ := shows filled
    exact ⟨cached, colors, label⟩
  · exact secure

theorem delegate_cleared (screen : SignUpViewController) (range : NSRange) (string : Text)
    (cleared : scalars (replacingCharacters screen.passwordSignUpTextField.text range string) = []) :
    screen.shouldChangeCharactersIn characterCount .password range string =
      { screen with passwordStrength := .empty }.updatePasswordStrengthViewsAndIconVisibility true := by
  simp [shouldChangeCharactersIn, cleared]

theorem delegate_filled (screen : SignUpViewController) (range : NSRange) (string : Text)
    (filled : scalars (replacingCharacters screen.passwordSignUpTextField.text range string) ≠ []) :
    screen.shouldChangeCharactersIn characterCount .password range string =
      { screen.updatePasswordStrengthViewsAndIconVisibility false with
        passwordStrength := strengthOf characterCount
          (scalars (replacingCharacters screen.passwordSignUpTextField.text range string))
        }.updatePasswordAlertLabel.updatePasswordStrengthUI := by
  simp [shouldChangeCharactersIn, strengthOf, filled]

theorem password_edit_describes (screen : SignUpViewController) (range : NSRange) (string : Text)
    (secure : screen.passwordSignUpTextField.isSecureTextEntry = screen.isPasswordHidden) :
    Describes characterCount
      ((screen.shouldChangeCharactersIn characterCount .password range string).setText .password
        (replacingCharacters screen.passwordSignUpTextField.text range string)) := by
  by_cases empty : scalars (replacingCharacters screen.passwordSignUpTextField.text range string) = []
  · rw [delegate_cleared characterCount screen range string empty]
    apply Describes.mk
    · intro _
      exact ⟨⟨rfl, rfl, rfl, rfl, rfl, rfl⟩, rfl⟩
    · intro filled
      exact absurd empty filled
    · intro filled
      exact absurd empty filled
    · exact secure
  · rw [delegate_filled characterCount screen range string empty, marking]
    apply Describes.mk
    · intro cleared
      exact absurd cleared empty
    · intro _
      exact ⟨rfl, rfl, rfl, rfl, rfl, rfl⟩
    · intro _
      exact ⟨rfl, colors_bars _, rfl⟩
    · exact secure

theorem toggle_describes (screen : SignUpViewController) (describes : Describes characterCount screen) :
    Describes characterCount screen.togglePasswordVisibility := by
  obtain ⟨cleared, shown, shows, _⟩ := describes
  have again : screen.togglePasswordVisibility.HidesMeter screen.isPasswordStrengthViewsHidden :=
    ⟨rfl, rfl, rfl, rfl, rfl, rfl⟩
  apply Describes.mk
  · intro empty
    obtain ⟨hides, cached⟩ := cleared empty
    rw [hides.flag] at again
    exact ⟨again, cached⟩
  · intro filled
    rw [(shown filled).flag] at again
    exact again
  · intro filled
    obtain ⟨cached, colors, label⟩ := shows filled
    exact ⟨cached, colors, label⟩
  · rfl

theorem step_describes (screen : SignUpViewController) (event : SignUpEvent)
    (describes : Describes characterCount screen) : Describes characterCount (screen.step icu characterCount event) := by
  cases event with
  | edit field range string =>
      rw [step]
      split
      case isFalse => exact describes
      case isTrue =>
        cases field with
        | email => exact elsewhere_describes characterCount screen _ _ _ describes
        | username => exact elsewhere_describes characterCount screen _ _ _ describes
        | password => exact password_edit_describes characterCount screen range string describes.secure
  | didTapShowPassword => exact toggle_describes characterCount screen describes
  | didTapSignUp => exact elsewhere_describes characterCount screen _ _ _ describes

theorem run_describes (events : List SignUpEvent) :
    Describes characterCount (run (step icu characterCount) fromNib.viewDidLoad events) := by
  apply invariant_run
  · exact step_describes icu characterCount
  · exact view_did_load_describes characterCount

theorem hides_meter (screen : SignUpViewController) (describes : Describes characterCount screen) :
    screen.HidesMeter (decide (screen.password = [])) := by
  by_cases empty : screen.password = []
  · rw [decide_eq_true empty]
    exact (describes.cleared empty).1
  · rw [decide_eq_false empty]
    exact describes.shown empty

def ShowsStrong (screen : SignUpViewController) : Prop :=
  screen.HidesMeter false ∧ screen.Shows .strong

theorem strength_strong_iff (password : Text) :
    strengthOf characterCount password = .strong ↔ isPasswordValid password = true := by
  by_cases empty : password = []
  · subst empty
    have refused : isPasswordValid [] = false := by decide
    simp [strengthOf, refused]
  · by_cases valid : isPasswordValid password = true
    · simp [strengthOf, empty, valid]
    · by_cases long : 6 ≤ characterCount password
      · simp [strengthOf, empty, valid, long]
      · simp [strengthOf, empty, valid, long]

theorem shows_strong_iff (screen : SignUpViewController) (describes : Describes characterCount screen) :
    screen.ShowsStrong ↔ isPasswordValid screen.password = true := by
  constructor
  · intro strong
    obtain ⟨shown, shows⟩ := strong
    by_cases empty : screen.password = []
    · have hidden := (describes.cleared empty).1.flag
      rw [shown.flag] at hidden
      exact absurd hidden (by decide)
    · have cached := (describes.shows empty).cached
      rw [shows.cached] at cached
      exact (strength_strong_iff characterCount screen.password).mp cached.symm
  · intro valid
    have filled : screen.password ≠ [] := by
      intro empty
      rw [empty] at valid
      exact absurd valid (by decide)
    have shows := describes.shows filled
    rw [(strength_strong_iff characterCount screen.password).mpr valid] at shows
    exact ⟨describes.shown filled, shows⟩

theorem delegate_texts (screen : SignUpViewController) (field : SignUpField) (range : NSRange) (string : Text) :
    (screen.shouldChangeCharactersIn characterCount field range string).texts = screen.texts := by
  funext other
  cases field with
  | email => rfl
  | username => rfl
  | password =>
      by_cases cleared : scalars (replacingCharacters screen.passwordSignUpTextField.text range string) = []
      · rw [delegate_cleared characterCount screen range string cleared]
        cases other with
        | email => rfl
        | username => rfl
        | password => rfl
      · rw [delegate_filled characterCount screen range string cleared, marking]
        cases other with
        | email => rfl
        | username => rfl
        | password => rfl

theorem set_text_texts (screen : SignUpViewController) (field : SignUpField) (text : NSString) :
    (screen.setText field text).texts = Function.update screen.texts field text := by
  funext other
  cases field with
  | email =>
      cases other with
      | email => rfl
      | username => rfl
      | password => rfl
  | username =>
      cases other with
      | email => rfl
      | username => rfl
      | password => rfl
  | password =>
      cases other with
      | email => rfl
      | username => rfl
      | password => rfl

theorem edit_texts (screen : SignUpViewController) (field : SignUpField) (range : NSRange) (string : Text) :
    (screen.step icu characterCount (.edit field range string)).texts =
      FieldChange.apply screen.texts (.edit field range string) := by
  rw [step, FieldChange.apply]
  by_cases inside : range.location + range.length ≤ (screen.field field).text.length
  · rw [if_pos inside, if_pos (show _ ≤ (screen.texts field).length from inside), set_text_texts, delegate_texts]
    rfl
  · rw [if_neg inside, if_neg (show ¬ _ ≤ (screen.texts field).length from inside)]

theorem toggled_texts (screen : SignUpViewController) :
    (screen.step icu characterCount .didTapShowPassword).texts = screen.texts := by
  funext field
  cases field <;> rfl

theorem run_texts (events : List SignUpEvent) :
    (run (step icu characterCount) fromNib.viewDidLoad events).texts = typedTexts events := by
  have empty : fromNib.viewDidLoad.texts = fun _ => [] := by
    funext field
    cases field <;> rfl
  have replayed := simulated_run (step icu characterCount) (fun _ => SignUpEvent.changes) texts FieldChange.apply (by
    intro screen event
    cases event with
    | edit field range string => exact edit_texts icu characterCount screen field range string
    | didTapShowPassword => exact toggled_texts icu characterCount screen
    | didTapSignUp => rfl) fromNib.viewDidLoad events
  rw [replayed, empty, outputs_flatMap]
  rfl

structure MeterAgrees (events : List SignUpEvent) (screen : SignUpViewController) : Prop where
  typed : screen.texts = typedTexts events
  weakHidden : screen.passwordSignalWeakView.isHidden = true ↔ screen.passwordSignUpTextField.text = []
  mediumHidden : screen.passwordSignalMediumView.isHidden = true ↔ screen.passwordSignUpTextField.text = []
  strongHidden : screen.passwordSignalStrongView.isHidden = true ↔ screen.passwordSignUpTextField.text = []
  labelHidden : screen.passwordAlertLabel.isHidden = true ↔ screen.passwordSignUpTextField.text = []
  iconHidden : screen.showHidePasswordImageViewIsHidden = true ↔ screen.passwordSignUpTextField.text ≠ []
  shows : screen.passwordSignUpTextField.text ≠ [] → screen.Shows (strengthOf characterCount screen.password)
  gate : isValidUsername icu (scalars screen.usernameSignUpTextField.text) = true →
    isValidEmail (scalars screen.emailSignUpTextField.text) = true →
      ((∃ request, (screen.step icu characterCount .didTapSignUp).taps = screen.taps ++ [.submit request]) ↔
        screen.ShowsStrong)
  secure : screen.passwordSignUpTextField.isSecureTextEntry = screen.isPasswordHidden

theorem tap_submits_iff (screen : SignUpViewController)
    (username : isValidUsername icu (scalars screen.usernameSignUpTextField.text) = true)
    (email : isValidEmail (scalars screen.emailSignUpTextField.text) = true) :
    (∃ request, (screen.step icu characterCount .didTapSignUp).taps = screen.taps ++ [.submit request]) ↔
      isPasswordValid screen.password = true := by
  simp only [step, List.append_cancel_left_eq, List.cons.injEq, and_true]
  constructor
  · intro submitted
    obtain ⟨request, submitted⟩ := submitted
    obtain ⟨⟨_, _, valid⟩, same⟩ := (sign_up_submits_iff icu screen.form request).mp submitted
    subst same
    exact valid
  · intro valid
    exact ⟨screen.form.request, (sign_up_submits_iff icu screen.form _).mpr ⟨⟨username, email, valid⟩, rfl⟩⟩

theorem describes_agrees (events : List SignUpEvent) (screen : SignUpViewController) (typed : screen.texts = typedTexts events)
    (describes : Describes characterCount screen) : screen.MeterAgrees icu characterCount events := by
  have hides := hides_meter characterCount screen describes
  have empty : screen.password = [] ↔ screen.passwordSignUpTextField.text = [] := scalars_empty _
  apply MeterAgrees.mk
  · exact typed
  · rw [hides.weak, decide_eq_true_iff, empty]
  · rw [hides.medium, decide_eq_true_iff, empty]
  · rw [hides.strong, decide_eq_true_iff, empty]
  · rw [hides.label, decide_eq_true_iff, empty]
  · rw [hides.icon, Bool.not_eq_true', decide_eq_false_iff_not, empty]
  · intro filled
    exact describes.shows (mt empty.mp filled)
  · intro username email
    rw [tap_submits_iff icu characterCount screen username email]
    exact (shows_strong_iff characterCount screen describes).symm
  · exact describes.secure

end SignUpViewController

theorem meter_describes_password (icu : WordCharacters) (characterCount : Text → Nat) (events : List SignUpEvent) :
    (run (SignUpViewController.step icu characterCount) SignUpViewController.fromNib.viewDidLoad events).MeterAgrees
      icu characterCount events := by
  apply SignUpViewController.describes_agrees
  · exact SignUpViewController.run_texts icu characterCount events
  · exact SignUpViewController.run_describes icu characterCount events

end DuplicatedApps
