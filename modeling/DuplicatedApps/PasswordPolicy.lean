import Mathlib.Data.List.Perm.Basic
import DuplicatedApps.Validator

set_option autoImplicit false

namespace DuplicatedApps

open Pattern Validator

structure PasswordPolicy (t : Text) : Prop where
  atLeast : 6 ≤ t.length
  atMost : t.length ≤ 32
  oneLine : ∀ c ∈ t, isLineTerminator c = false
  hasLowercase : ∃ c ∈ t, lowercase c = true
  hasUppercase : ∃ c ∈ t, uppercase c = true
  hasDigit : ∃ c ∈ t, digit c = true
  hasSpecial : ∃ c ∈ t, special c = true

theorem any_character_iff (c : Char) : anyCharacter c = true ↔ isLineTerminator c = false := by
  simp [anyCharacter]

theorem contains_one_iff (accepts : Char → Bool) (before word after : Text)
    (oneLine : ∀ c ∈ after, isLineTerminator c = false) :
    Matches (containsOne accepts) before word after ↔ word = [] ∧ ∃ c ∈ after, accepts c = true :=
  lookahead_set accepts anyCharacter before word after fun c member => (any_character_iff c).mpr (oneLine c member)

-- A match of the whole text leaves nothing for the final '$' to look past: the
-- bounded run has to read all of it, so it holds no line terminator and every
-- lookahead sees it whole.
theorem password_regex_iff_policy (t : Text) : evaluate passwordRegEx t = true ↔ PasswordPolicy t := by
  rw [evaluate_iff]
  constructor
  · intro matched
    obtain ⟨_, t1, e1, ⟨rfl, _⟩, _, t2, e2, lower, _, t3, e3, upper, _, t4, e4, number, _, t5, e5, extra,
      body, last, e6, run, ⟨rfl, _⟩⟩ := matched
    obtain ⟨least, most, all⟩ := (repeated_set _ _ _ _ _ _).mp run
    have oneLine : ∀ c ∈ body, isLineTerminator c = false := fun c member => (any_character_iff c).mp (all c member)
    obtain rfl := lower.1
    obtain rfl := upper.1
    obtain rfl := number.1
    obtain rfl := extra.1
    simp only [List.nil_append, List.append_nil] at e1 e2 e3 e4 e5 e6 lower upper number extra
    subst e1 e2 e3 e4 e5 e6
    exact ⟨least, most 32 rfl, oneLine, ((contains_one_iff _ _ _ _ oneLine).mp lower).2,
      ((contains_one_iff _ _ _ _ oneLine).mp upper).2, ((contains_one_iff _ _ _ _ oneLine).mp number).2,
      ((contains_one_iff _ _ _ _ oneLine).mp extra).2⟩
  · intro policy
    have look : ∀ accepts, (∃ c ∈ t, accepts c = true) → Matches (containsOne accepts) [] [] (t ++ []) := by
      intro accepts found
      rw [List.append_nil, contains_one_iff accepts [] [] t policy.oneLine]
      exact ⟨rfl, found⟩
    refine ⟨[], t, rfl, ⟨rfl, rfl⟩, [], t, rfl, look _ policy.hasLowercase, [], t, rfl, look _ policy.hasUppercase,
      [], t, rfl, look _ policy.hasDigit, [], t, rfl, look _ policy.hasSpecial, t, [], by simp, ?_, rfl, .inl rfl⟩
    rw [repeated_set]
    refine ⟨policy.atLeast, ?_, fun c member => (any_character_iff c).mpr (policy.oneLine c member)⟩
    intro bound same
    cases same
    exact policy.atMost

theorem policy_perm (t u : Text) (same : u.Perm t) (policy : PasswordPolicy t) : PasswordPolicy u where
  atLeast := same.length_eq ▸ policy.atLeast
  atMost := same.length_eq ▸ policy.atMost
  oneLine := fun c member => policy.oneLine c (same.mem_iff.mp member)
  hasLowercase := policy.hasLowercase.imp fun _ found => ⟨same.mem_iff.mpr found.1, found.2⟩
  hasUppercase := policy.hasUppercase.imp fun _ found => ⟨same.mem_iff.mpr found.1, found.2⟩
  hasDigit := policy.hasDigit.imp fun _ found => ⟨same.mem_iff.mpr found.1, found.2⟩
  hasSpecial := policy.hasSpecial.imp fun _ found => ⟨same.mem_iff.mpr found.1, found.2⟩

theorem is_password_valid_policy (password : Text) :
    (isPasswordValid password = true ↔ PasswordPolicy (trimmingCharacters whitespacesAndNewlines password)) ∧
    ∀ permuted : Text, permuted.Perm (trimmingCharacters whitespacesAndNewlines password) →
      Unpadded whitespacesAndNewlines permuted → isPasswordValid permuted = isPasswordValid password := by
  refine ⟨password_regex_iff_policy _, fun permuted same unpadded => ?_⟩
  rw [Bool.eq_iff_iff]
  change evaluate passwordRegEx (trimmingCharacters whitespacesAndNewlines permuted) = true ↔
    evaluate passwordRegEx (trimmingCharacters whitespacesAndNewlines password) = true
  rw [(trimming_fixed_iff _ _).mpr unpadded, password_regex_iff_policy, password_regex_iff_policy]
  exact ⟨policy_perm _ _ same.symm, policy_perm _ _ same⟩

end DuplicatedApps
