import DuplicatedApps.EntryTexts

set_option autoImplicit false

namespace DuplicatedApps

open Runs

section Utf16

theorem scalar_bounds (c : Char) : c.toNat < 0xD800 ∨ 0xE000 ≤ c.toNat ∧ c.toNat < 0x110000 := by
  rcases c.valid with low | ⟨above, below⟩
  · exact .inl low
  · refine .inr ⟨?_, below⟩
    exact above

theorem lone_decoded (unit : UInt16) (rest : NSString) (notHigh : ¬ (0xD800 ≤ unit.toNat ∧ unit.toNat < 0xDC00)) :
    scalars (unit :: rest) = loneScalar unit :: scalars rest := by
  cases rest with
  | nil => rfl
  | cons low rest =>
      have apart : isPair unit low = false := by
        simp only [isPair, Bool.and_eq_false_iff, decide_eq_false_iff_not]
        omega
      rw [scalars, apart]
      rfl

theorem pair_decoded (high low : UInt16) (rest : NSString) (pair : isPair high low = true) :
    scalars (high :: low :: rest) =
      Char.ofNat (0x10000 + (high.toNat - 0xD800) * 0x400 + (low.toNat - 0xDC00)) :: scalars rest := by
  rw [scalars, if_pos pair]

theorem units_decoded (c : Char) (rest : NSString) : scalars (utf16Units c ++ rest) = c :: scalars rest := by
  have bounds := scalar_bounds c
  rw [utf16Units]
  by_cases basic : c.toNat < 0x10000
  · have unit : (UInt16.ofNat c.toNat).toNat = c.toNat := UInt16.toNat_ofNat_of_lt' basic
    rw [if_pos basic, List.singleton_append, lone_decoded, loneScalar, unit, if_neg, Char.ofNat_toNat]
    · omega
    · rw [unit]
      omega
  · have high : (UInt16.ofNat (0xD800 + (c.toNat - 0x10000) / 0x400)).toNat = 0xD800 + (c.toNat - 0x10000) / 0x400 :=
      UInt16.toNat_ofNat_of_lt' (show _ < 0x10000 by omega)
    have low : (UInt16.ofNat (0xDC00 + (c.toNat - 0x10000) % 0x400)).toNat = 0xDC00 + (c.toNat - 0x10000) % 0x400 :=
      UInt16.toNat_ofNat_of_lt' (show _ < 0x10000 by omega)
    have pair : isPair (UInt16.ofNat (0xD800 + (c.toNat - 0x10000) / 0x400))
        (UInt16.ofNat (0xDC00 + (c.toNat - 0x10000) % 0x400)) = true := by
      simp only [isPair, high, low, Bool.and_eq_true, decide_eq_true_eq]
      omega
    have value : 0x10000 + (0xD800 + (c.toNat - 0x10000) / 0x400 - 0xD800) * 0x400 +
        (0xDC00 + (c.toNat - 0x10000) % 0x400 - 0xDC00) = c.toNat := by
      omega
    rw [if_neg basic]
    show scalars (_ :: _ :: rest) = _
    rw [pair_decoded _ _ rest pair, high, low, value, Char.ofNat_toNat]

theorem scalars_append (text : Text) (rest : NSString) : scalars (utf16 text ++ rest) = text ++ scalars rest := by
  induction text with
  | nil => rfl
  | cons c text ih => rw [utf16, List.flatMap_cons, List.append_assoc, units_decoded, ← utf16, ih, List.cons_append]

theorem scalars_utf16 (text : Text) : scalars (utf16 text) = text := by
  have decoded := scalars_append text []
  rwa [List.append_nil, scalars, List.append_nil] at decoded

theorem utf16_append (front back : Text) : utf16 (front ++ back) = utf16 front ++ utf16 back := List.flatMap_append

end Utf16

def typeInto (text : Text) (start count : Nat) (string : Text) : Text :=
  text.take start ++ string ++ text.drop (start + count)

def unitRange (text : Text) (start count : Nat) : NSRange :=
  ⟨(utf16 (text.take start)).length, (utf16 ((text.drop start).take count)).length⟩

section Edits

variable (text : Text) (start count : Nat)

theorem utf16_parts :
    utf16 text = utf16 (text.take start) ++ (utf16 ((text.drop start).take count) ++ utf16 (text.drop (start + count))) := by
  rw [← utf16_append, ← utf16_append, ← List.drop_drop, List.take_append_drop, List.take_append_drop]

theorem unit_range_inside :
    (unitRange text start count).location + (unitRange text start count).length ≤ (utf16 text).length := by
  have parts := congrArg List.length (utf16_parts text start count)
  rw [List.length_append, List.length_append] at parts
  simp only [unitRange]
  omega

theorem replacing_units (string : Text) :
    replacingCharacters (utf16 text) (unitRange text start count) string = utf16 (typeInto text start count string) := by
  have front : (utf16 text).take (unitRange text start count).location = utf16 (text.take start) := by
    rw [utf16_parts text start count, unitRange, List.take_left]
  have back : (utf16 text).drop ((unitRange text start count).location + (unitRange text start count).length) =
      utf16 (text.drop (start + count)) := by
    rw [utf16_parts text start count, unitRange, ← List.drop_drop, List.drop_left, List.drop_left]
  rw [replacingCharacters, front, back, typeInto, utf16_append, utf16_append]

end Edits

inductive Keystroke where
  | type (field : SignUpField) (start count : Nat) (string : Text)
  | didTapShowPassword
  | didTapSignUp

structure TypedSignUp where
  texts : SignUpField → Text
  isPasswordHidden : Bool
  taps : List (TapOutcome RegisterUserRequest)

namespace TypedSignUp

def empty : TypedSignUp := ⟨fun _ => [], true, []⟩

def form (typed : TypedSignUp) : SignUpForm :=
  ⟨some (typed.texts .username), some (typed.texts .email), some (typed.texts .password)⟩

def step (icu : WordCharacters) (typed : TypedSignUp) : Keystroke → TypedSignUp
  | .type field start count string =>
      { typed with texts := Function.update typed.texts field (typeInto (typed.texts field) start count string) }
  | .didTapShowPassword => { typed with isPasswordHidden := !typed.isPasswordHidden }
  | .didTapSignUp => { typed with taps := typed.taps ++ [didTapSignUpAction icu typed.form] }

def events (typed : TypedSignUp) : Keystroke → List SignUpEvent
  | .type field start count string => [.edit field (unitRange (typed.texts field) start count) string]
  | .didTapShowPassword => [.didTapShowPassword]
  | .didTapSignUp => [.didTapSignUp]

structure Represents (typed : TypedSignUp) (screen : SignUpViewController) : Prop where
  texts : screen.texts = fun field => utf16 (typed.texts field)
  hidden : screen.isPasswordHidden = typed.isPasswordHidden
  taps : screen.taps = typed.taps

theorem represents_form (typed : TypedSignUp) (screen : SignUpViewController) (represents : typed.Represents screen) :
    screen.form = typed.form := by
  have read : ∀ field, scalars (screen.texts field) = typed.texts field := by
    intro field
    rw [represents.texts]
    exact scalars_utf16 _
  rw [sign_up_form_texts, signUpFormOf, read, read, read]
  rfl

variable (icu : WordCharacters) (characterCount : Text → Nat)

theorem edit_frame (screen : SignUpViewController) (field : SignUpField) (range : NSRange) (string : Text) :
    (screen.step icu characterCount (.edit field range string)).isPasswordHidden = screen.isPasswordHidden ∧
      (screen.step icu characterCount (.edit field range string)).taps = screen.taps := by
  rw [SignUpViewController.step]
  by_cases inside : range.location + range.length ≤ (screen.field field).text.length
  · rw [if_pos inside]
    cases field with
    | email => exact ⟨rfl, rfl⟩
    | username => exact ⟨rfl, rfl⟩
    | password =>
        by_cases cleared : scalars (replacingCharacters screen.passwordSignUpTextField.text range string) = []
        · rw [SignUpViewController.delegate_cleared characterCount screen range string cleared]
          exact ⟨rfl, rfl⟩
        · rw [SignUpViewController.delegate_filled characterCount screen range string cleared, SignUpViewController.marking]
          exact ⟨rfl, rfl⟩
  · rw [if_neg inside]
    exact ⟨rfl, rfl⟩

theorem step_represents (typed : TypedSignUp) (screen : SignUpViewController) (key : Keystroke)
    (represents : typed.Represents screen) :
    (typed.step icu key).Represents (run (SignUpViewController.step icu characterCount) screen (typed.events key)) := by
  cases key with
  | type field start count string =>
      have frame := edit_frame icu characterCount screen field (unitRange (typed.texts field) start count) string
      refine ⟨?_, frame.1.trans represents.hidden, frame.2.trans represents.taps⟩
      rw [events, run_cons, run_nil, SignUpViewController.edit_texts, represents.texts, FieldChange.apply,
        if_pos (unit_range_inside _ _ _)]
      funext other
      rw [replacing_units]
      by_cases same : other = field
      · subst same
        simp [step]
      · simp [step, same]
  | didTapShowPassword =>
      have texts := SignUpViewController.toggled_texts icu characterCount screen
      exact ⟨texts.trans represents.texts, congrArg (!·) represents.hidden, represents.taps⟩
  | didTapSignUp =>
      refine ⟨represents.texts, represents.hidden, ?_⟩
      show screen.taps ++ [didTapSignUpAction icu screen.form] = _
      rw [represents.taps, represents_form typed screen represents]
      rfl

theorem run_represents (keys : List Keystroke) :
    (run (step icu) empty keys).Represents
      (run (SignUpViewController.step icu characterCount) SignUpViewController.fromNib.viewDidLoad
        (outputs (step icu) events empty keys)) := by
  apply simulation_run (step icu) events (SignUpViewController.step icu characterCount) Represents
  · intro typed screen key represents
    exact step_represents icu characterCount typed screen key represents
  · refine ⟨?_, rfl, rfl⟩
    funext field
    cases field <;> rfl

structure ShownBy (typed : TypedSignUp) (screen : SignUpViewController) : Prop where
  form : screen.form = typed.form
  taps : screen.taps = typed.taps
  secure : screen.passwordSignUpTextField.isSecureTextEntry = typed.isPasswordHidden
  hides : screen.HidesMeter (decide (typed.texts .password = []))
  meter : typed.texts .password ≠ [] → screen.Shows (strengthOf characterCount (typed.texts .password))

end TypedSignUp

-- Whatever is typed, pasted, deleted and tapped, characters outside the basic plane too:
-- the screen over UTF-16 units is a screen over characters.
theorem sign_up_is_typed_in_characters (icu : WordCharacters) (characterCount : Text → Nat) (keys : List Keystroke) :
    (run (TypedSignUp.step icu) TypedSignUp.empty keys).ShownBy characterCount
      (run (SignUpViewController.step icu characterCount) SignUpViewController.fromNib.viewDidLoad
        (outputs (TypedSignUp.step icu) TypedSignUp.events TypedSignUp.empty keys)) := by
  have represents := TypedSignUp.run_represents icu characterCount keys
  have describes := SignUpViewController.run_describes icu characterCount
    (outputs (TypedSignUp.step icu) TypedSignUp.events TypedSignUp.empty keys)
  generalize run (TypedSignUp.step icu) TypedSignUp.empty keys = typed at represents ⊢
  generalize run (SignUpViewController.step icu characterCount) SignUpViewController.fromNib.viewDidLoad
    (outputs (TypedSignUp.step icu) TypedSignUp.events TypedSignUp.empty keys) = screen at represents describes ⊢
  have form := TypedSignUp.represents_form typed screen represents
  have password : screen.password = typed.texts .password := Option.some.inj (congrArg SignUpForm.password form)
  refine ⟨form, represents.taps, describes.secure.trans represents.hidden, ?_, ?_⟩
  · rw [← password]
    exact SignUpViewController.hides_meter characterCount screen describes
  · rw [← password]
    exact describes.shows

end DuplicatedApps
