import DuplicatedApps.Validator

set_option autoImplicit false

namespace DuplicatedApps

open Pattern Validator

structure EmailSplit where
  localPart : Text
  domain : Text
  topLevel : Text

namespace EmailSplit

def text (split : EmailSplit) : Text := split.localPart ++ '@' :: (split.domain ++ '.' :: split.topLevel)

def Matching (split : EmailSplit) : Prop :=
  evaluate Validator.localPart split.localPart = true ∧ evaluate domainPart split.domain = true ∧
    evaluate topLevelPart split.topLevel = true

end EmailSplit

namespace EmailRecogniser

def host (t : Text) : Text := (t.dropWhile (· != '@')).drop 1

def split (t : Text) : EmailSplit where
  localPart := t.takeWhile (· != '@')
  domain := ((host t).rdropWhile (· != '.')).dropLast
  topLevel := (host t).rtakeWhile (· != '.')

def accepts (t : Text) : Bool :=
  t.count '@' == 1 && !(split t).localPart.isEmpty && (split t).localPart.all localCharacter &&
    (host t).contains '.' && !(split t).domain.isEmpty && (split t).domain.all domainCharacter &&
    decide (2 ≤ (split t).topLevel.length) && decide ((split t).topLevel.length ≤ 64) &&
    (split t).topLevel.all letter

end EmailRecogniser

section Splitting

variable (mark : Char) (front back : Text)

theorem take_until (absent : mark ∉ front) : (front ++ mark :: back).takeWhile (· != mark) = front := by
  have kept : ∀ c ∈ front, (c != mark) = true := by
    intro c member
    simpa using fun same : c = mark => absent (same ▸ member)
  rw [List.takeWhile_append_of_pos kept]
  simp

theorem drop_until (absent : mark ∉ front) : (front ++ mark :: back).dropWhile (· != mark) = mark :: back := by
  have kept : ∀ c ∈ front, (c != mark) = true := by
    intro c member
    simpa using fun same : c = mark => absent (same ▸ member)
  rw [List.dropWhile_append_of_pos kept]
  simp

theorem take_after (absent : mark ∉ back) : (front ++ mark :: back).rtakeWhile (· != mark) = back := by
  have reversed : (front ++ mark :: back).reverse = back.reverse ++ mark :: front.reverse := by simp
  rw [List.rtakeWhile, reversed, take_until mark back.reverse front.reverse (by simpa using absent)]
  simp

theorem drop_after (absent : mark ∉ back) : ((front ++ mark :: back).rdropWhile (· != mark)).dropLast = front := by
  have reversed : (front ++ mark :: back).reverse = back.reverse ++ mark :: front.reverse := by simp
  rw [List.rdropWhile, reversed, drop_until mark back.reverse front.reverse (by simpa using absent)]
  simp

end Splitting

theorem split_at_first (mark : Char) (t : Text) (present : mark ∈ t) :
    t.takeWhile (· != mark) ++ mark :: (t.dropWhile (· != mark)).drop 1 = t := by
  obtain ⟨front, back, split, absent⟩ := List.eq_append_cons_of_mem present
  rw [split, take_until mark front back absent, drop_until mark front back absent]
  rfl

theorem split_at_last (mark : Char) (t : Text) (present : mark ∈ t) :
    (t.rdropWhile (· != mark)).dropLast ++ mark :: t.rtakeWhile (· != mark) = t := by
  obtain ⟨front, back, split, absent⟩ := List.eq_append_cons_of_mem (List.mem_reverse.mpr present)
  have eq : t = back.reverse ++ mark :: front.reverse := by
    have turned := congrArg List.reverse split
    simpa using turned
  have missing : mark ∉ front.reverse := by simpa using absent
  rw [eq, drop_after mark back.reverse front.reverse missing, take_after mark back.reverse front.reverse missing]

theorem local_character_at : localCharacter '@' = false := by decide
theorem domain_character_at : domainCharacter '@' = false := by decide
theorem letter_at : letter '@' = false := by decide
theorem letter_dot : letter '.' = false := by decide

theorem absent_of_all (accepts : Char → Bool) (mark : Char) (t : Text) (refused : accepts mark = false)
    (all : ∀ c ∈ t, accepts c = true) : mark ∉ t := by
  intro member
  simp [all mark member] at refused

theorem evaluate_run (accepts : Char → Bool) (least : Nat) (most : Option Nat) (t : Text) :
    evaluate (.repeated (.set accepts) least most) t = true ↔
      least ≤ t.length ∧ (∀ bound, most = some bound → t.length ≤ bound) ∧ ∀ c ∈ t, accepts c = true := by
  rw [evaluate_iff, repeated_set]

theorem split_matching_iff (split : EmailSplit) :
    split.Matching ↔ (1 ≤ split.localPart.length ∧ ∀ c ∈ split.localPart, localCharacter c = true) ∧
      (1 ≤ split.domain.length ∧ ∀ c ∈ split.domain, domainCharacter c = true) ∧
      (2 ≤ split.topLevel.length ∧ split.topLevel.length ≤ 64 ∧ ∀ c ∈ split.topLevel, letter c = true) := by
  rw [EmailSplit.Matching, Validator.localPart, domainPart, topLevelPart, evaluate_run, evaluate_run, evaluate_run]
  simp

theorem email_regex_iff_split (t : Text) :
    evaluate emailRegEx t = true ↔ ∃ split : EmailSplit, split.text = t ∧ split.Matching := by
  rw [evaluate_iff]
  constructor
  · intro matched
    obtain ⟨localPart, rest, eq, localMatch, _, rest', eq', ⟨at_, rfl, isAt⟩, domain, rest'', eq'', domainMatch,
      dots, topLevel, eq''', dotMatch, topLevelMatch⟩ := matched
    have atSign : at_ = '@' := by simpa using isAt
    have oneDot : dots = ['.'] := by
      rw [repeated_set] at dotMatch
      obtain ⟨least, most, all⟩ := dotMatch
      have one : dots.length = 1 := Nat.le_antisymm (most 1 rfl) least
      obtain ⟨dot, same⟩ := List.length_eq_one_iff.mp one
      have isDot : dot = '.' := by simpa using all dot (by simp [same])
      rw [same, isDot]
    refine ⟨⟨localPart, domain, topLevel⟩, ?_, ?_⟩
    · simp [EmailSplit.text, eq, eq', eq'', eq''', atSign, oneDot]
    · rw [Validator.localPart, repeated_set] at localMatch
      rw [domainPart, repeated_set] at domainMatch
      rw [topLevelPart, repeated_set] at topLevelMatch
      exact ⟨(evaluate_run _ _ _ _).mpr localMatch, (evaluate_run _ _ _ _).mpr domainMatch,
        (evaluate_run _ _ _ _).mpr topLevelMatch⟩
  · intro found
    obtain ⟨split, eq, localMatch, domainMatch, topLevelMatch⟩ := found
    rw [Validator.localPart, evaluate_run] at localMatch
    rw [domainPart, evaluate_run] at domainMatch
    rw [topLevelPart, evaluate_run] at topLevelMatch
    refine ⟨split.localPart, '@' :: (split.domain ++ '.' :: split.topLevel), eq.symm, ?_, ['@'],
      split.domain ++ '.' :: split.topLevel, rfl, ⟨'@', rfl, rfl⟩, split.domain, '.' :: split.topLevel, rfl, ?_,
      ['.'], split.topLevel, rfl, ?_, ?_⟩
    · exact (repeated_set _ _ _ _ _ _).mpr localMatch
    · exact (repeated_set _ _ _ _ _ _).mpr domainMatch
    · exact (repeated_set _ _ _ _ _ _).mpr ⟨by simp, by simp, by simp⟩
    · exact (repeated_set _ _ _ _ _ _).mpr topLevelMatch

theorem split_recovered (split : EmailSplit) (matching : split.Matching) :
    EmailRecogniser.split split.text = split := by
  obtain ⟨⟨_, localAll⟩, _, _, _, topLevelAll⟩ := (split_matching_iff split).mp matching
  have noAt : '@' ∉ split.localPart := absent_of_all _ _ _ local_character_at localAll
  have noDot : '.' ∉ split.topLevel := absent_of_all _ _ _ letter_dot topLevelAll
  have hostEq : EmailRecogniser.host split.text = split.domain ++ '.' :: split.topLevel := by
    rw [EmailRecogniser.host, EmailSplit.text, drop_until '@' _ _ noAt]
    rfl
  rw [EmailRecogniser.split, hostEq, take_after '.' _ _ noDot, drop_after '.' _ _ noDot, EmailSplit.text,
    take_until '@' _ _ noAt]

theorem recognised_split (t : Text) (accepted : EmailRecogniser.accepts t = true) :
    (EmailRecogniser.split t).text = t ∧ (EmailRecogniser.split t).Matching := by
  simp only [EmailRecogniser.accepts, Bool.and_eq_true, beq_iff_eq, Bool.not_eq_true', List.isEmpty_eq_false_iff,
    List.all_eq_true, List.contains_iff_mem, decide_eq_true_eq] at accepted
  obtain ⟨⟨⟨⟨⟨⟨⟨⟨oneAt, localSome⟩, localAll⟩, dot⟩, domainSome⟩, domainAll⟩, least⟩, most⟩, topLevelAll⟩ := accepted
  have atSign : '@' ∈ t := List.count_pos_iff.mp (by omega)
  refine ⟨?_, (split_matching_iff _).mpr ⟨⟨List.length_pos_iff.mpr localSome, localAll⟩,
    ⟨List.length_pos_iff.mpr domainSome, domainAll⟩, least, most, topLevelAll⟩⟩
  have hostEq := split_at_last '.' (EmailRecogniser.host t) dot
  have whole := split_at_first '@' t atSign
  calc (EmailRecogniser.split t).text
      = t.takeWhile (· != '@') ++ '@' :: EmailRecogniser.host t := by rw [← hostEq]; rfl
    _ = t := whole

theorem split_recognised (split : EmailSplit) (matching : split.Matching) :
    EmailRecogniser.accepts split.text = true := by
  obtain ⟨⟨localSome, localAll⟩, ⟨domainSome, domainAll⟩, least, most, topLevelAll⟩ :=
    (split_matching_iff split).mp matching
  have noAt : '@' ∉ split.localPart := absent_of_all _ _ _ local_character_at localAll
  have domainNoAt : '@' ∉ split.domain := absent_of_all _ _ _ domain_character_at domainAll
  have topLevelNoAt : '@' ∉ split.topLevel := absent_of_all _ _ _ letter_at topLevelAll
  have oneAt : split.text.count '@' = 1 := by
    simp [EmailSplit.text, List.count_eq_zero_of_not_mem noAt, List.count_eq_zero_of_not_mem domainNoAt,
      List.count_eq_zero_of_not_mem topLevelNoAt]
  have hostEq : EmailRecogniser.host split.text = split.domain ++ '.' :: split.topLevel := by
    rw [EmailRecogniser.host, EmailSplit.text, drop_until '@' _ _ noAt]
    rfl
  simp only [EmailRecogniser.accepts, split_recovered split matching, hostEq, oneAt, Bool.and_eq_true, beq_self_eq_true,
    Bool.not_eq_true', List.isEmpty_eq_false_iff, List.all_eq_true, List.contains_iff_mem, decide_eq_true_eq]
  exact ⟨⟨⟨⟨⟨⟨⟨⟨trivial, List.length_pos_iff.mp localSome⟩, localAll⟩, by simp⟩, List.length_pos_iff.mp domainSome⟩,
    domainAll⟩, least⟩, most⟩, topLevelAll⟩

theorem email_regex_iff_recognised (t : Text) :
    evaluate emailRegEx t = true ↔ EmailRecogniser.accepts t = true := by
  rw [email_regex_iff_split]
  constructor
  · intro found
    obtain ⟨split, rfl, matching⟩ := found
    exact split_recognised split matching
  · intro accepted
    exact ⟨_, recognised_split t accepted⟩

theorem is_valid_email_grammar (email : Text) :
    (isValidEmail email = true ↔
      EmailRecogniser.accepts (trimmingCharacters whitespacesAndNewlines email) = true) ∧
    (isValidEmail email = true →
      ∃! split : EmailSplit, split.text = trimmingCharacters whitespacesAndNewlines email ∧ split.Matching) := by
  refine ⟨email_regex_iff_recognised _, fun valid => ?_⟩
  obtain ⟨split, eq, matching⟩ := (email_regex_iff_split _).mp valid
  refine ⟨split, ⟨eq, matching⟩, fun other found => ?_⟩
  obtain ⟨otherEq, otherMatching⟩ := found
  rw [← split_recovered other otherMatching, otherEq, ← eq, split_recovered split matching]

end DuplicatedApps
