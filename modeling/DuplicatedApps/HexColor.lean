import DuplicatedApps.PasswordMeter
import Mathlib.Tactic.NormNum

set_option autoImplicit false

namespace DuplicatedApps

open Runs

namespace Scanner

def hexDigit (c : Char) : Option Nat :=
  if isBetween 0x30 0x39 c then some (c.toNat - 0x30)
  else if isBetween 0x41 0x46 c then some (c.toNat - 0x37)
  else if isBetween 0x61 0x66 c then some (c.toNat - 0x57)
  else none

def hexDigits : Text → List Nat
  | [] => []
  | c :: rest =>
      match hexDigit c with
      | some digit => digit :: hexDigits rest
      | none => []

def number (digits : List Nat) : Nat := digits.foldl (fun value digit => 16 * value + digit) 0

def withoutPrefix : Text → Text
  | '0' :: 'x' :: rest => rest
  | '0' :: 'X' :: rest => rest
  | text => text

-- Blanks are skipped, 0x is optional, and an overflow is UINT32_MAX.
def scanHexInt32 (text : Text) : Option UInt32 :=
  match hexDigits (withoutPrefix (text.dropWhile whitespacesAndNewlines)) with
  | [] => none
  | digits => some (UInt32.ofNat (min (number digits) 0xFFFFFFFF))

end Scanner

-- The quotients are exact here, where CGFloat rounds them.
structure Channels where
  red : Rat
  green : Rat
  blue : Rat
  alpha : Rat
deriving DecidableEq

namespace UIColor

def initHex (hex : Text) (alpha : Rat) : Channels :=
  let scanned := if hex.head? = some '#' then hex.drop 1 else hex
  let hexValue := (Scanner.scanHexInt32 scanned).getD 0
  { red := ((hexValue &&& 0xFF0000) >>> 16).toNat / 255
    green := ((hexValue &&& 0x00FF00) >>> 8).toNat / 255
    blue := (hexValue &&& 0x0000FF).toNat / 255
    alpha := alpha }

def digitOf (value : Nat) : Char := Char.ofNat (if value < 10 then 0x30 + value else 0x37 + value)

def digits (color : UIColor) : Text :=
  [digitOf (color.hex / 0x100000 % 16), digitOf (color.hex / 0x10000 % 16), digitOf (color.hex / 0x1000 % 16),
    digitOf (color.hex / 0x100 % 16), digitOf (color.hex / 0x10 % 16), digitOf (color.hex % 16)]

def channels (color : UIColor) : Channels := initHex ('#' :: color.digits) 1

example : '#' :: AppColors.oliveGreen.digits = "#ADAF4C".toList := by decide

end UIColor

namespace Scanner

theorem digit_range (c : Char) (digit : Nat) (is : hexDigit c = some digit) :
    0x30 ≤ c.toNat ∧ c.toNat ≤ 0x66 := by
  simp only [hexDigit, isBetween, Bool.and_eq_true, decide_eq_true_eq] at is
  split at is
  · omega
  · split at is
    · omega
    · split at is
      · omega
      · cases is

theorem digit_not_space (c : Char) (digit : Nat) (is : hexDigit c = some digit) : whitespacesAndNewlines c = false := by
  obtain ⟨low, high⟩ := digit_range c digit is
  simp only [whitespacesAndNewlines, whitespaces, newlines, isBetween, Bool.or_eq_false_iff, Bool.and_eq_false_iff,
    decide_eq_false_iff_not]
  omega

theorem digits_without_prefix (digits : Text) (all : ∀ c ∈ digits, ∃ digit, hexDigit c = some digit) :
    withoutPrefix (digits.dropWhile whitespacesAndNewlines) = digits := by
  have kept : digits.dropWhile whitespacesAndNewlines = digits := by
    cases digits with
    | nil => rfl
    | cons c rest =>
        obtain ⟨digit, is⟩ := all c List.mem_cons_self
        exact List.dropWhile_cons_of_neg (by simp [digit_not_space c digit is])
  rw [kept]
  cases digits with
  | nil => rfl
  | cons c rest =>
      cases rest with
      | nil => simp [withoutPrefix]
      | cons mark rest =>
          obtain ⟨digit, is⟩ := all mark (List.mem_cons_of_mem _ List.mem_cons_self)
          have lower : mark ≠ 'x' := by
            intro same
            rw [same] at is
            exact absurd is (by decide +revert)
          have upper : mark ≠ 'X' := by
            intro same
            rw [same] at is
            exact absurd is (by decide +revert)
          simp [withoutPrefix, lower, upper]

theorem scan_digits (digits : Text) (all : ∀ c ∈ digits, ∃ digit, hexDigit c = some digit) :
    (scanHexInt32 digits).getD 0 = UInt32.ofNat (min (number (hexDigits digits)) 0xFFFFFFFF) := by
  rw [scanHexInt32, digits_without_prefix digits all]
  cases found : hexDigits digits with
  | nil => rfl
  | cons digit rest => rfl

end Scanner

namespace UIColor

theorem masked_byte (value shift : Nat) : (value &&& 0xFF <<< shift) >>> shift = value / 2 ^ shift % 2 ^ 8 := by
  rw [Nat.shiftRight_and_distrib, Nat.shiftLeft_shiftRight, Nat.and_two_pow_sub_one_eq_mod _ 8, Nat.shiftRight_eq_div_pow]

theorem red_mask (value : UInt32) : ((value &&& 0xFF0000) >>> 16).toNat = value.toNat / 2 ^ 16 % 2 ^ 8 := by
  rw [UInt32.toNat_shiftRight, UInt32.toNat_and]
  exact masked_byte value.toNat 16

theorem green_mask (value : UInt32) : ((value &&& 0x00FF00) >>> 8).toNat = value.toNat / 2 ^ 8 % 2 ^ 8 := by
  rw [UInt32.toNat_shiftRight, UInt32.toNat_and]
  exact masked_byte value.toNat 8

theorem blue_mask (value : UInt32) : (value &&& 0x0000FF).toNat = value.toNat % 2 ^ 8 := by
  rw [UInt32.toNat_and]
  exact Nat.and_two_pow_sub_one_eq_mod _ 8

def bytes (value : Nat) (alpha : Rat) : Channels :=
  ⟨(value / 2 ^ 16 % 2 ^ 8 : Nat) / 255, (value / 2 ^ 8 % 2 ^ 8 : Nat) / 255, (value % 2 ^ 8 : Nat) / 255, alpha⟩

theorem init_of_number (digits : Text) (alpha : Rat) (all : ∀ c ∈ digits, ∃ digit, Scanner.hexDigit c = some digit)
    (mark : Text) (marked : mark = [] ∨ mark = ['#']) :
    initHex (mark ++ digits) alpha = bytes (min (Scanner.number (Scanner.hexDigits digits)) 0xFFFFFFFF) alpha := by
  have scanned : (if (mark ++ digits).head? = some '#' then (mark ++ digits).drop 1 else mark ++ digits) = digits := by
    rcases marked with none | hash
    · rw [none, List.nil_append, if_neg]
      intro first
      obtain ⟨digit, is⟩ := all '#' (List.mem_of_head? first)
      exact absurd is (by decide +revert)
    · rw [hash]
      rfl
  have small : min (Scanner.number (Scanner.hexDigits digits)) 0xFFFFFFFF < UInt32.size :=
    Nat.lt_of_le_of_lt (Nat.min_le_right _ _) (by decide)
  rw [initHex, scanned, Scanner.scan_digits digits all]
  simp only [red_mask, green_mask, blue_mask, UInt32.toNat_ofNat_of_lt' small]
  rfl

theorem digit_of_spells (value : Nat) (small : value < 16) : Scanner.hexDigit (digitOf value) = some value := by
  have each : ∀ value ∈ List.range 16, Scanner.hexDigit (digitOf value) = some value := by decide
  exact each value (List.mem_range.mpr small)

theorem digits_spell (color : UIColor) : ∀ c ∈ color.digits, ∃ digit, Scanner.hexDigit c = some digit := by
  intro c member
  simp only [digits, List.mem_cons, List.not_mem_nil, or_false] at member
  rcases member with rfl | rfl | rfl | rfl | rfl | rfl
  all_goals exact ⟨_, digit_of_spells _ (Nat.mod_lt _ (by decide))⟩

theorem digits_number (color : UIColor) :
    Scanner.number (Scanner.hexDigits color.digits) = color.hex % 2 ^ 24 := by
  have spells : ∀ value, Scanner.hexDigit (digitOf (value % 16)) = some (value % 16) :=
    fun value => digit_of_spells _ (Nat.mod_lt _ (by decide))
  simp only [digits, Scanner.hexDigits, spells, Scanner.number, List.foldl_cons, List.foldl_nil]
  omega

theorem channels_bytes (color : UIColor) : color.channels = bytes color.hex 1 := by
  have read := init_of_number color.digits 1 color.digits_spell ['#'] (.inr rfl)
  rw [digits_number, Nat.min_eq_left (by omega)] at read
  rw [channels]
  refine read.trans ?_
  have red : color.hex % 2 ^ 24 / 2 ^ 16 % 2 ^ 8 = color.hex / 2 ^ 16 % 2 ^ 8 := by omega
  have green : color.hex % 2 ^ 24 / 2 ^ 8 % 2 ^ 8 = color.hex / 2 ^ 8 % 2 ^ 8 := by omega
  have blue : color.hex % 2 ^ 24 % 2 ^ 8 = color.hex % 2 ^ 8 := by omega
  rw [bytes, bytes, red, green, blue]

theorem bytes_injective (one other : Nat) (alpha : Rat) (same : bytes one alpha = bytes other alpha) :
    one % 2 ^ 24 = other % 2 ^ 24 := by
  obtain ⟨red, green, blue, _⟩ := Channels.mk.inj same
  have cancel : ∀ a b : Nat, (a : Rat) / 255 = b / 255 → a = b := by
    intro a b eq
    rw [div_left_inj' (by norm_num)] at eq
    exact_mod_cast eq
  have redder := cancel _ _ red
  have greener := cancel _ _ green
  have bluer := cancel _ _ blue
  omega

theorem channels_injective (one other : UIColor) (small : one.hex < 2 ^ 24) (little : other.hex < 2 ^ 24)
    (same : one.channels = other.channels) : one = other := by
  rw [channels_bytes, channels_bytes] at same
  have hex := bytes_injective one.hex other.hex 1 same
  rw [Nat.mod_eq_of_lt small, Nat.mod_eq_of_lt little] at hex
  exact congrArg UIColor.mk hex

end UIColor

theorem hex_color_of_digits (digits : Text) (alpha : Rat)
    (all : ∀ c ∈ digits, ∃ digit, Scanner.hexDigit c = some digit) (mark : Text) (marked : mark = [] ∨ mark = ['#']) :
    UIColor.initHex (mark ++ digits) alpha =
      if Scanner.number (Scanner.hexDigits digits) < 2 ^ 32 then
        UIColor.bytes (Scanner.number (Scanner.hexDigits digits)) alpha
      else ⟨1, 1, 1, alpha⟩ := by
  rw [UIColor.init_of_number digits alpha all mark marked]
  by_cases fits : Scanner.number (Scanner.hexDigits digits) < 2 ^ 32
  · rw [if_pos fits, Nat.min_eq_left (by omega)]
  · rw [if_neg fits, Nat.min_eq_right (by omega), UIColor.bytes]
    norm_num

theorem heliotrope_from_literal :
    UIColor.initHex ['#', 'E', '1', '4', '0', 'F', 'B'] 1 = ⟨225 / 255, 64 / 255, 251 / 255, 1⟩ := by
  have literal : UIColor.digits ⟨0xE140FB⟩ = ['E', '1', '4', '0', 'F', 'B'] := by decide
  have spelt := UIColor.digits_spell ⟨0xE140FB⟩
  rw [literal] at spelt
  have read := hex_color_of_digits ['E', '1', '4', '0', 'F', 'B'] 1 spelt ['#'] (.inr rfl)
  have number : Scanner.number (Scanner.hexDigits ['E', '1', '4', '0', 'F', 'B']) = 0xE140FB := by decide
  rw [number, if_pos (by decide), UIColor.bytes] at read
  norm_num at read ⊢
  exact read

namespace PasswordStrength

theorem colors_small (strength : PasswordStrength) :
    strength.colors.1.hex < 2 ^ 24 ∧ strength.colors.2.1.hex < 2 ^ 24 ∧ strength.colors.2.2.hex < 2 ^ 24 := by
  cases strength with
  | empty => decide
  | weak => decide
  | medium => decide
  | strong => decide

theorem colors_injective (one other : PasswordStrength) (same : one.colors = other.colors) : one = other := by
  cases one <;> cases other <;> first | rfl | exact absurd same (by decide)

def drawnBars (strength : PasswordStrength) : Option Channels × Option Channels × Option Channels :=
  if strength = .empty then (none, none, none)
  else (some strength.colors.1.channels, some strength.colors.2.1.channels, some strength.colors.2.2.channels)

theorem drawn_bars_injective (one other : PasswordStrength) (same : one.drawnBars = other.drawnBars) : one = other := by
  rw [drawnBars, drawnBars] at same
  by_cases empty : one = .empty
  · by_cases too : other = .empty
    · exact empty.trans too.symm
    · rw [if_pos empty, if_neg too] at same
      cases (Prod.mk.inj same).1
  · by_cases too : other = .empty
    · rw [if_neg empty, if_pos too] at same
      cases (Prod.mk.inj same).1
    · rw [if_neg empty, if_neg too] at same
      obtain ⟨first, rest⟩ := Prod.mk.inj same
      obtain ⟨second, third⟩ := Prod.mk.inj rest
      have weak := UIColor.channels_injective _ _ one.colors_small.1 other.colors_small.1 (Option.some.inj first)
      have medium := UIColor.channels_injective _ _ one.colors_small.2.1 other.colors_small.2.1 (Option.some.inj second)
      have strong := UIColor.channels_injective _ _ one.colors_small.2.2 other.colors_small.2.2 (Option.some.inj third)
      exact colors_injective one other (Prod.ext weak (Prod.ext medium strong))

end PasswordStrength

def SignalView.drawn (view : SignalView) : Option Channels :=
  if view.isHidden then none else some view.backgroundColor.channels

namespace SignUpViewController

def drawnBars (screen : SignUpViewController) : Option Channels × Option Channels × Option Channels :=
  (screen.passwordSignalWeakView.drawn, screen.passwordSignalMediumView.drawn, screen.passwordSignalStrongView.drawn)

theorem strength_empty_iff (characterCount : Text → Nat) (password : Text) :
    strengthOf characterCount password = .empty ↔ password = [] := by
  rw [strengthOf]
  by_cases empty : password = []
  · simp [empty]
  · rw [if_neg empty]
    split
    · simp [empty]
    · split <;> simp [empty]

-- The colours a hidden bar keeps are stale, but nothing draws them.
theorem describes_bars (characterCount : Text → Nat) (screen : SignUpViewController)
    (describes : Describes characterCount screen) :
    screen.drawnBars = (strengthOf characterCount screen.password).drawnBars := by
  have hides := hides_meter characterCount screen describes
  rw [PasswordStrength.drawnBars, drawnBars, SignalView.drawn, SignalView.drawn, SignalView.drawn, hides.weak,
    hides.medium, hides.strong]
  by_cases empty : screen.password = []
  · rw [if_pos ((strength_empty_iff characterCount screen.password).mpr empty), decide_eq_true empty]
    rfl
  · have filled : strengthOf characterCount screen.password ≠ .empty :=
      mt (strength_empty_iff characterCount screen.password).mp empty
    have colors := (describes.shows empty).colors
    rw [← colors_bars] at colors
    rw [if_neg filled, decide_eq_false empty, ← colors]
    rfl

end SignUpViewController

theorem drawn_bars_tell_strength (icu : WordCharacters) (characterCount : Text → Nat)
    (events others : List SignUpEvent) :
    let reached := run (SignUpViewController.step icu characterCount) SignUpViewController.fromNib.viewDidLoad
    (reached events).drawnBars = (reached others).drawnBars ↔
      strengthOf characterCount (reached events).password = strengthOf characterCount (reached others).password := by
  intro reached
  have one := SignUpViewController.run_describes icu characterCount events
  have other := SignUpViewController.run_describes icu characterCount others
  rw [SignUpViewController.describes_bars characterCount _ one, SignUpViewController.describes_bars characterCount _ other]
  apply Iff.intro
  · exact PasswordStrength.drawn_bars_injective _ _
  · exact congrArg PasswordStrength.drawnBars

end DuplicatedApps
