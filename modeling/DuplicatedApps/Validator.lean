import DuplicatedApps.Foundation
import DuplicatedApps.Pattern

set_option autoImplicit false

namespace DuplicatedApps

open Pattern

def asciiWord (c : Char) : Bool :=
  isBetween 'A'.toNat 'Z'.toNat c || isBetween 'a'.toNat 'z'.toNat c || isBetween '0'.toNat '9'.toNat c || c == '_'

-- The class \w of ICU needs the Unicode tables: a parameter, with what ICU documents of it.
structure WordCharacters where
  isWord : Char → Bool
  ascii : ∀ c, asciiWord c = true → isWord c = true
  notSpace : ∀ c, isWord c = true → whitespacesAndNewlines c = false

theorem printable_not_space (c : Char) (printable : isBetween 0x21 0x7E c = true) : whitespacesAndNewlines c = false := by
  simp only [isBetween, whitespacesAndNewlines, whitespaces, newlines, Bool.and_eq_true, decide_eq_true_eq,
    Bool.or_eq_false_iff, Bool.and_eq_false_iff, decide_eq_false_iff_not] at printable ⊢
  omega

theorem ascii_word_printable (c : Char) (word : asciiWord c = true) : isBetween 0x21 0x7E c = true := by
  simp only [asciiWord, isBetween, Bool.or_eq_true, Bool.and_eq_true, decide_eq_true_eq, beq_iff_eq,
    Char.reduceToNat] at word ⊢
  rcases word with ((upper | lower) | number) | underscore
  · omega
  · omega
  · omega
  · rw [underscore]
    decide

def asciiWords : WordCharacters where
  isWord := asciiWord
  ascii := fun _ word => word
  notSpace := fun c word => printable_not_space c (ascii_word_printable c word)

def bracket (ranges : List (Char × Char)) (c : Char) : Bool :=
  ranges.any fun range => isBetween range.1.toNat range.2.toNat c

theorem bracket_not_space (ranges : List (Char × Char)) (c : Char) (member : bracket ranges c = true)
    (printable : ∀ range ∈ ranges, 0x21 ≤ range.1.toNat ∧ range.2.toNat ≤ 0x7E) : whitespacesAndNewlines c = false := by
  simp only [bracket, List.any_eq_true, isBetween, Bool.and_eq_true, decide_eq_true_eq] at member
  obtain ⟨range, listed, low, high⟩ := member
  obtain ⟨least, most⟩ := printable range listed
  apply printable_not_space
  simp only [isBetween, Bool.and_eq_true, decide_eq_true_eq]
  omega

def isLineTerminator (c : Char) : Bool :=
  isBetween 0x0A 0x0D c || isBetween 0x85 0x85 c || isBetween 0x2028 0x2029 c

def anyCharacter (c : Char) : Bool := !isLineTerminator c

-- `$` without the MULTILINE flag also matches before a line terminator that ends the input.
def finalTerminator (rest : Text) : Bool :=
  match rest with
  | [c] => isLineTerminator c
  | [c, d] => c == '\r' && d == '\n'
  | _ => false

namespace Validator

def localCharacter : Char → Bool :=
  bracket [('A', 'Z'), ('0', '9'), ('a', 'z'), ('.', '.'), ('_', '_'), ('%', '%'), ('+', '+'), ('-', '-')]

def domainCharacter : Char → Bool :=
  bracket [('A', 'Z'), ('a', 'z'), ('0', '9'), ('.', '.'), ('-', '-')]

def letter : Char → Bool := bracket [('A', 'Z'), ('a', 'z')]

def localPart : Regex Char := .repeated (.set localCharacter) 1 none
def domainPart : Regex Char := .repeated (.set domainCharacter) 1 none
def topLevelPart : Regex Char := .repeated (.set letter) 2 (some 64)

def emailRegEx : Regex Char :=
  .seq localPart (.seq (.set (· == '@')) (.seq domainPart (.seq (.repeated (.set (· == '.')) 1 (some 1)) topLevelPart)))

def usernameRegEx (icu : WordCharacters) : Regex Char := .repeated (.set icu.isWord) 4 (some 24)

def lowercase : Char → Bool := bracket [('a', 'z')]
def uppercase : Char → Bool := bracket [('A', 'Z')]
def digit : Char → Bool := bracket [('0', '9')]

-- The source lists the dollar sign twice.
def special : Char → Bool :=
  bracket [('$', '$'), ('@', '@'), ('$', '$'), ('#', '#'), ('!', '!'), ('%', '%'), ('*', '*'), ('?', '?'), ('&', '&')]

def containsOne (accepts : Char → Bool) : Regex Char :=
  .lookahead (.seq (.repeated (.set anyCharacter) 0 none) (.set accepts))

def passwordRegEx : Regex Char :=
  .seq .inputStart (.seq (containsOne lowercase) (.seq (containsOne uppercase) (.seq (containsOne digit)
    (.seq (containsOne special) (.seq (.repeated (.set anyCharacter) 6 (some 32)) (.inputEnd finalTerminator))))))

def isValidEmail (email : Text) : Bool :=
  let email := trimmingCharacters whitespacesAndNewlines email
  evaluate emailRegEx email

def isValidUsername (icu : WordCharacters) (username : Text) : Bool :=
  let username := trimmingCharacters whitespacesAndNewlines username
  evaluate (usernameRegEx icu) username

def isPasswordValid (password : Text) : Bool :=
  let password := trimmingCharacters whitespacesAndNewlines password
  evaluate passwordRegEx password

end Validator

end DuplicatedApps
