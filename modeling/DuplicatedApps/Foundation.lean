import Mathlib.Data.List.DropRight

set_option autoImplicit false

namespace DuplicatedApps

-- A Swift string, read through its unicodeScalars view.
abbrev Text := List Char

def isBetween (low high : Nat) (c : Char) : Bool := decide (low ≤ c.toNat) && decide (c.toNat ≤ high)

def newlines (c : Char) : Bool :=
  isBetween 0x0A 0x0D c || isBetween 0x85 0x85 c || isBetween 0x2028 0x2029 c

def whitespaces (c : Char) : Bool :=
  isBetween 0x09 0x09 c || isBetween 0x20 0x20 c || isBetween 0xA0 0xA0 c || isBetween 0x1680 0x1680 c ||
    isBetween 0x2000 0x200A c || isBetween 0x202F 0x202F c || isBetween 0x205F 0x205F c ||
    isBetween 0x3000 0x3000 c

def whitespacesAndNewlines (c : Char) : Bool := whitespaces c || newlines c

def trimmingCharacters (characterSet : Char → Bool) (text : Text) : Text :=
  (text.dropWhile characterSet).rdropWhile characterSet

def Unpadded (characterSet : Char → Bool) (text : Text) : Prop :=
  (∀ c, text.head? = some c → characterSet c = false) ∧ ∀ c, text.getLast? = some c → characterSet c = false

section Trimming

variable (characterSet : Char → Bool)

theorem drop_right_last (text : Text) (c : Char) (last : (text.rdropWhile characterSet).getLast? = some c) :
    characterSet c = false := by
  rw [List.getLast?_eq_some_iff] at last
  obtain ⟨front, eq⟩ := last
  have nonempty : text.rdropWhile characterSet ≠ [] := by simp [eq]
  have kept := List.rdropWhile_last_not characterSet text nonempty
  simpa [eq] using kept

theorem drop_left_head (text : Text) (c : Char) (first : (text.dropWhile characterSet).head? = some c) :
    characterSet c = false := by
  have kept := List.head?_dropWhile_not characterSet text
  rw [first] at kept
  simpa using kept

theorem trimming_unpadded (text : Text) : Unpadded characterSet (trimmingCharacters characterSet text) := by
  refine ⟨fun c first => ?_, drop_right_last characterSet _⟩
  obtain ⟨dropped, eq⟩ : (text.dropWhile characterSet).rdropWhile characterSet <+: text.dropWhile characterSet :=
    List.rdropWhile_prefix characterSet _
  apply drop_left_head characterSet text c
  rw [← eq, List.head?_append, show (List.rdropWhile characterSet _).head? = some c from first]
  rfl

theorem trimming_fixed (text : Text) (unpadded : Unpadded characterSet text) :
    trimmingCharacters characterSet text = text := by
  have front : text.dropWhile characterSet = text := by
    cases text with
    | nil => rfl
    | cons c rest => exact List.dropWhile_cons_of_neg (by simp [unpadded.1 c rfl])
  rw [trimmingCharacters, front, List.rdropWhile_eq_self_iff]
  intro nonempty
  simp [unpadded.2 _ (List.getLast?_eq_some_getLast nonempty)]

theorem trimming_fixed_iff (text : Text) :
    trimmingCharacters characterSet text = text ↔ Unpadded characterSet text := by
  constructor
  · intro fixed
    rw [← fixed]
    exact trimming_unpadded characterSet text
  · exact trimming_fixed characterSet text

theorem trimming_decomposes (text : Text) :
    ∃ front back, text = front ++ trimmingCharacters characterSet text ++ back ∧
      (∀ c ∈ front, characterSet c = true) ∧ ∀ c ∈ back, characterSet c = true := by
  refine ⟨text.takeWhile characterSet, (text.dropWhile characterSet).rtakeWhile characterSet, ?_,
    fun c member => List.mem_takeWhile_imp member, fun c member => List.mem_rtakeWhile_imp member⟩
  have right : (text.dropWhile characterSet).rdropWhile characterSet ++
      (text.dropWhile characterSet).rtakeWhile characterSet = text.dropWhile characterSet := by
    rw [List.rdropWhile, List.rtakeWhile, ← List.reverse_append, List.takeWhile_append_dropWhile,
      List.reverse_reverse]
  rw [List.append_assoc, trimmingCharacters, right, List.takeWhile_append_dropWhile]

theorem unpadded_of_none (text : Text) (none : ∀ c ∈ text, characterSet c = false) : Unpadded characterSet text :=
  ⟨fun c first => none c (List.mem_of_head? first), fun c last => none c (List.mem_of_getLast? last)⟩

end Trimming

-- NSString: UTF-16 code units, in which NSRange counts.
abbrev NSString := List UInt16

structure NSRange where
  location : Nat
  length : Nat

def utf16Units (c : Char) : NSString :=
  if c.toNat < 0x10000 then [UInt16.ofNat c.toNat]
  else [UInt16.ofNat (0xD800 + (c.toNat - 0x10000) / 0x400), UInt16.ofNat (0xDC00 + (c.toNat - 0x10000) % 0x400)]

def utf16 (text : Text) : NSString := text.flatMap utf16Units

def isPair (high low : UInt16) : Bool :=
  decide (0xD800 ≤ high.toNat) && decide (high.toNat < 0xDC00) && decide (0xDC00 ≤ low.toNat) &&
    decide (low.toNat < 0xE000)

-- A unit on its own; a surrogate without its partner reads as U+FFFD.
def loneScalar (unit : UInt16) : Char :=
  if 0xD800 ≤ unit.toNat ∧ unit.toNat < 0xE000 then Char.ofNat 0xFFFD else Char.ofNat unit.toNat

def scalars : NSString → Text
  | [] => []
  | [unit] => [loneScalar unit]
  | high :: low :: rest =>
      if isPair high low then
        Char.ofNat (0x10000 + (high.toNat - 0xD800) * 0x400 + (low.toNat - 0xDC00)) :: scalars rest
      else loneScalar high :: scalars (low :: rest)

def replacingCharacters (text : NSString) (range : NSRange) (string : Text) : NSString :=
  text.take range.location ++ utf16 string ++ text.drop (range.location + range.length)

theorem scalars_empty (text : NSString) : scalars text = [] ↔ text = [] := by
  cases text with
  | nil => simp [scalars]
  | cons high rest =>
      cases rest with
      | nil => simp [scalars]
      | cons low rest =>
          rw [scalars]
          split <;> simp

end DuplicatedApps
