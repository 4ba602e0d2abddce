import Mathlib.Data.List.Basic
import Mathlib.Tactic.Linarith

set_option autoImplicit false

namespace Pattern

variable {Symbol : Type}

inductive Regex (Symbol : Type) where
  | set (accepts : Symbol → Bool)
  | seq (first second : Regex Symbol)
  | repeated (body : Regex Symbol) (least : Nat) (most : Option Nat)
  | lookahead (body : Regex Symbol)
  | inputStart
  | inputEnd (closing : List Symbol → Bool)

def Times (reads : List Symbol → List Symbol → List Symbol → Prop) :
    Nat → List Symbol → List Symbol → List Symbol → Prop
  | 0, _, word, _ => word = []
  | count + 1, before, word, after =>
      ∃ left right, word = left ++ right ∧ reads before left (right ++ after) ∧
        Times reads count (before ++ left) right after

def Matches : Regex Symbol → List Symbol → List Symbol → List Symbol → Prop
  | .set accepts, _, word, _ => ∃ symbol, word = [symbol] ∧ accepts symbol = true
  | .seq first second, before, word, after =>
      ∃ left right, word = left ++ right ∧ Matches first before left (right ++ after) ∧
        Matches second (before ++ left) right after
  | .repeated body least most, before, word, after =>
      ∃ count, least ≤ count ∧ (∀ bound, most = some bound → count ≤ bound) ∧
        Times (Matches body) count before word after
  | .lookahead body, before, word, after =>
      word = [] ∧ ∃ seen rest, after = seen ++ rest ∧ Matches body before seen rest
  | .inputStart, before, word, _ => word = [] ∧ before = []
  | .inputEnd closing, _, word, after => word = [] ∧ (after = [] ∨ closing after = true)

structure Cursor (Symbol : Type) where
  atStart : Bool
  rest : List Symbol

def upTo (step : Cursor Symbol → List (Cursor Symbol)) : Nat → Cursor Symbol → List (Cursor Symbol)
  | 0, cursor => [cursor]
  | extra + 1, cursor => cursor :: (step cursor).flatMap (upTo step extra)

def rounds (step : Cursor Symbol → List (Cursor Symbol)) (extra : Nat) :
    Nat → Cursor Symbol → List (Cursor Symbol)
  | 0, cursor => upTo step extra cursor
  | least + 1, cursor => (step cursor).flatMap (rounds step extra least)

def ends : Regex Symbol → Cursor Symbol → List (Cursor Symbol)
  | .set accepts, cursor => match cursor.rest with
    | [] => []
    | symbol :: tail => if accepts symbol then [⟨false, tail⟩] else []
  | .seq first second, cursor => (ends first cursor).flatMap (ends second)
  | .repeated body least most, cursor => match most with
    | some bound => if least ≤ bound then rounds (ends body) (bound - least) least cursor else []
    -- A round that reads nothing changes nothing, so the remaining length bounds the useful ones.
    | none => rounds (ends body) cursor.rest.length least cursor
  | .lookahead body, cursor => if (ends body cursor).isEmpty then [] else [cursor]
  | .inputStart, cursor => if cursor.atStart then [cursor] else []
  | .inputEnd closing, cursor => if cursor.rest.isEmpty || closing cursor.rest then [cursor] else []

def evaluate (regex : Regex Symbol) (input : List Symbol) : Bool :=
  (ends regex ⟨true, input⟩).any fun cursor => cursor.rest.isEmpty

section Repetition

variable (reads : List Symbol → List Symbol → List Symbol → Prop)

theorem times_add (m n : Nat) (before word after : List Symbol) :
    Times reads (m + n) before word after ↔
      ∃ left right, word = left ++ right ∧ Times reads m before left (right ++ after) ∧
        Times reads n (before ++ left) right after := by
  induction m generalizing before word with
  | zero => simp [Times]
  | succ m ih =>
      rw [Nat.add_right_comm]
      constructor
      · intro holds
        obtain ⟨left, right, split, head, tail⟩ := holds
        obtain ⟨middle, last, splitRight, more, back⟩ := (ih (before ++ left) right).mp tail
        refine ⟨left ++ middle, last, by simp [split, splitRight], ⟨left, middle, rfl, ?_, more⟩, ?_⟩
        · simpa [splitRight] using head
        · simpa using back
      · intro holds
        obtain ⟨_, last, split, ⟨left, middle, rfl, head, more⟩, back⟩ := holds
        refine ⟨left, middle ++ last, by simp [split], by simpa using head, ?_⟩
        exact (ih (before ++ left) (middle ++ last)).mpr ⟨middle, last, rfl, more, by simpa using back⟩

theorem times_shorten (count : Nat) (before word after : List Symbol)
    (rounds : Times reads count before word after) :
    ∃ fewer, fewer ≤ word.length ∧ fewer ≤ count ∧ Times reads fewer before word after := by
  induction count generalizing before word with
  | zero => exact ⟨0, Nat.zero_le _, Nat.le_refl _, rounds⟩
  | succ count ih =>
      obtain ⟨left, right, split, head, tail⟩ := rounds
      obtain ⟨fewer, within, less, rest⟩ := ih (before ++ left) right tail
      cases left with
      | nil =>
          refine ⟨fewer, ?_, Nat.le_succ_of_le less, ?_⟩
          · simpa [split] using within
          · simpa [split] using rest
      | cons symbol left =>
          refine ⟨fewer + 1, ?_, Nat.succ_le_succ less, ⟨symbol :: left, right, split, head, rest⟩⟩
          simp only [split, List.length_append, List.length_cons]
          omega

end Repetition

def Finds (step : Cursor Symbol → List (Cursor Symbol))
    (reads : List Symbol → List Symbol → List Symbol → Prop) : Prop :=
  ∀ before input stop, stop ∈ step ⟨before.isEmpty, input⟩ ↔
    ∃ word after, input = word ++ after ∧ reads before word after ∧
      stop = ⟨(before ++ word).isEmpty, after⟩

def Lands (reads : List Symbol → List Symbol → List Symbol → Prop) (low high : Nat)
    (before input : List Symbol) (stop : Cursor Symbol) : Prop :=
  ∃ count word after, low ≤ count ∧ count ≤ high ∧ input = word ++ after ∧
    Times reads count before word after ∧ stop = ⟨(before ++ word).isEmpty, after⟩

section Rounds

variable (step : Cursor Symbol → List (Cursor Symbol))
  (reads : List Symbol → List Symbol → List Symbol → Prop)

theorem lands_next (finds : Finds step reads) (rest : Cursor Symbol → List (Cursor Symbol)) (low high : Nat)
    (stop : Cursor Symbol)
    (spec : ∀ before input, stop ∈ rest ⟨before.isEmpty, input⟩ ↔ Lands reads low high before input stop)
    (before input : List Symbol) :
    stop ∈ (step ⟨before.isEmpty, input⟩).flatMap rest ↔ Lands reads (low + 1) (high + 1) before input stop := by
  rw [List.mem_flatMap]
  constructor
  · intro holds
    obtain ⟨middle, reached, later⟩ := holds
    obtain ⟨left, right, split, head, rfl⟩ := (finds before input middle).mp reached
    obtain ⟨count, word, after, least, most, splitRight, tail, eq⟩ := (spec (before ++ left) right).mp later
    refine ⟨count + 1, left ++ word, after, by omega, by omega, by simp [split, splitRight], ?_, by simp [eq]⟩
    exact ⟨left, word, rfl, by simpa [splitRight] using head, tail⟩
  · intro holds
    obtain ⟨count, word, after, least, most, split, times, eq⟩ := holds
    obtain ⟨less, rfl⟩ : ∃ less, count = less + 1 := ⟨count - 1, by omega⟩
    obtain ⟨left, right, rfl, head, tail⟩ := times
    refine ⟨⟨(before ++ left).isEmpty, right ++ after⟩, ?_, ?_⟩
    · exact (finds before input _).mpr ⟨left, right ++ after, by simp [split], head, rfl⟩
    · exact (spec (before ++ left) (right ++ after)).mpr
        ⟨less, right, after, by omega, by omega, rfl, tail, by simp [eq]⟩

theorem lands_here (high : Nat) (before input : List Symbol) (stop : Cursor Symbol) :
    Lands reads 0 high before input stop ↔
      stop = ⟨before.isEmpty, input⟩ ∨ Lands reads 1 high before input stop := by
  constructor
  · intro holds
    obtain ⟨count, word, after, _, most, split, times, eq⟩ := holds
    cases count with
    | zero =>
        have empty : word = [] := times
        exact .inl (by simp [eq, split, empty])
    | succ count => exact .inr ⟨count + 1, word, after, by omega, most, split, times, eq⟩
  · intro holds
    rcases holds with same | ⟨count, word, after, _, most, split, times, eq⟩
    · exact ⟨0, [], input, Nat.le_refl _, Nat.zero_le _, rfl, rfl, by simp [same]⟩
    · exact ⟨count, word, after, Nat.zero_le _, most, split, times, eq⟩

theorem lands_nowhere (before input : List Symbol) (stop : Cursor Symbol) :
    ¬ Lands reads 1 0 before input stop := by
  intro holds
  obtain ⟨count, _, _, least, most, _⟩ := holds
  omega

theorem up_to_find (finds : Finds step reads) (extra : Nat) (before input : List Symbol) (stop : Cursor Symbol) :
    stop ∈ upTo step extra ⟨before.isEmpty, input⟩ ↔ Lands reads 0 extra before input stop := by
  induction extra generalizing before input with
  | zero => simp [upTo, lands_here, lands_nowhere]
  | succ extra ih =>
      have next := lands_next step reads finds (upTo step extra) 0 extra stop ih before input
      rw [upTo, List.mem_cons, lands_here, next]

theorem rounds_find (finds : Finds step reads) (extra least : Nat) (before input : List Symbol)
    (stop : Cursor Symbol) :
    stop ∈ rounds step extra least ⟨before.isEmpty, input⟩ ↔
      Lands reads least (least + extra) before input stop := by
  induction least generalizing before input with
  | zero => rw [rounds, up_to_find step reads finds, Nat.zero_add]
  | succ least ih =>
      rw [rounds, lands_next step reads finds (rounds step extra least) least (least + extra) stop ih,
        Nat.add_right_comm]

theorem lands_unbounded (least : Nat) (before input : List Symbol) (stop : Cursor Symbol) :
    Lands reads least (least + input.length) before input stop ↔
      ∃ word after, input = word ++ after ∧ (∃ count, least ≤ count ∧ Times reads count before word after) ∧
        stop = ⟨(before ++ word).isEmpty, after⟩ := by
  constructor
  · intro holds
    obtain ⟨count, word, after, low, _, split, times, eq⟩ := holds
    exact ⟨word, after, split, ⟨count, low, times⟩, eq⟩
  · intro holds
    obtain ⟨word, after, split, ⟨count, low, times⟩, eq⟩ := holds
    obtain ⟨extra, rfl⟩ := Nat.exists_eq_add_of_le low
    obtain ⟨left, right, rfl, front, back⟩ := (times_add reads least extra before word after).mp times
    obtain ⟨fewer, within, _, shorter⟩ := times_shorten reads extra (before ++ left) right after back
    refine ⟨least + fewer, left ++ right, after, Nat.le_add_right _ _, ?_, split, ?_, eq⟩
    · have total := congrArg List.length split
      simp only [List.length_append] at total
      omega
    · exact (times_add reads least fewer before _ after).mpr ⟨left, right, rfl, front, shorter⟩

end Rounds

theorem ends_set (accepts : Symbol → Bool) : Finds (ends (.set accepts)) (Matches (.set accepts)) := by
  intro before input stop
  cases input with
  | nil => simp [ends, Matches]
  | cons symbol tail =>
      constructor
      · intro member
        by_cases accepted : accepts symbol = true
        · have same : stop = ⟨false, tail⟩ := by simpa [ends, accepted] using member
          exact ⟨[symbol], tail, rfl, ⟨symbol, rfl, accepted⟩, by simp [same]⟩
        · simp [ends, accepted] at member
      · intro holds
        obtain ⟨word, after, split, ⟨read, rfl, accepted⟩, eq⟩ := holds
        obtain ⟨rfl, rfl⟩ : symbol = read ∧ tail = after := by simpa using split
        simp [ends, accepted, eq]

theorem ends_seq (first second : Regex Symbol) (firstFinds : Finds (ends first) (Matches first))
    (secondFinds : Finds (ends second) (Matches second)) :
    Finds (ends (.seq first second)) (Matches (.seq first second)) := by
  intro before input stop
  rw [ends, List.mem_flatMap]
  constructor
  · intro holds
    obtain ⟨middle, reached, later⟩ := holds
    obtain ⟨left, rest, split, head, rfl⟩ := (firstFinds before input middle).mp reached
    obtain ⟨right, after, rfl, tail, eq⟩ := (secondFinds (before ++ left) rest stop).mp later
    exact ⟨left ++ right, after, by simp [split], ⟨left, right, rfl, head, tail⟩, by simp [eq]⟩
  · intro holds
    obtain ⟨word, after, split, ⟨left, right, rfl, head, tail⟩, eq⟩ := holds
    refine ⟨⟨(before ++ left).isEmpty, right ++ after⟩, ?_, ?_⟩
    · exact (firstFinds before input _).mpr ⟨left, right ++ after, by simp [split], head, rfl⟩
    · exact (secondFinds (before ++ left) (right ++ after) stop).mpr ⟨right, after, rfl, tail, by simp [eq]⟩

theorem ends_repeated (body : Regex Symbol) (least : Nat) (most : Option Nat)
    (finds : Finds (ends body) (Matches body)) :
    Finds (ends (.repeated body least most)) (Matches (.repeated body least most)) := by
  intro before input stop
  cases most with
  | none =>
      rw [ends, rounds_find (ends body) (Matches body) finds, lands_unbounded]
      simp [Matches]
  | some bound =>
      by_cases ordered : least ≤ bound
      · have total : least + (bound - least) = bound := by omega
        rw [ends, if_pos ordered, rounds_find (ends body) (Matches body) finds, total]
        constructor
        · intro holds
          obtain ⟨count, word, after, low, high, split, times, eq⟩ := holds
          exact ⟨word, after, split, ⟨count, low, by simpa using high, times⟩, eq⟩
        · intro holds
          obtain ⟨word, after, split, ⟨count, low, high, times⟩, eq⟩ := holds
          exact ⟨count, word, after, low, high bound rfl, split, times, eq⟩
      · rw [ends, if_neg ordered]
        constructor
        · intro member
          simp at member
        · intro holds
          obtain ⟨_, _, _, ⟨count, low, high, _⟩, _⟩ := holds
          exact absurd (Nat.le_trans low (high bound rfl)) ordered

theorem ends_lookahead (body : Regex Symbol) (finds : Finds (ends body) (Matches body)) :
    Finds (ends (.lookahead body)) (Matches (.lookahead body)) := by
  intro before input stop
  have found : (ends body ⟨before.isEmpty, input⟩).isEmpty = false ↔
      ∃ seen rest, input = seen ++ rest ∧ Matches body before seen rest := by
    rw [List.isEmpty_eq_false_iff_exists_mem]
    constructor
    · intro holds
      obtain ⟨middle, member⟩ := holds
      obtain ⟨seen, rest, split, matched, _⟩ := (finds before input middle).mp member
      exact ⟨seen, rest, split, matched⟩
    · intro holds
      obtain ⟨seen, rest, split, matched⟩ := holds
      exact ⟨_, (finds before input _).mpr ⟨seen, rest, split, matched, rfl⟩⟩
  cases empty : (ends body ⟨before.isEmpty, input⟩).isEmpty with
  | true =>
      have missing : ¬ ∃ seen rest, input = seen ++ rest ∧ Matches body before seen rest := by
        rw [← found, empty]
        simp
      rw [ends, empty, if_pos rfl]
      constructor
      · intro member
        simp at member
      · intro holds
        obtain ⟨word, after, split, ⟨rfl, seen⟩, _⟩ := holds
        exact absurd (by simpa [split] using seen) missing
  | false =>
      have seen := found.mp empty
      rw [ends, empty, if_neg (by simp)]
      constructor
      · intro member
        have same : stop = ⟨before.isEmpty, input⟩ := by simpa using member
        exact ⟨[], input, rfl, ⟨rfl, seen⟩, by simp [same]⟩
      · intro holds
        obtain ⟨word, after, split, ⟨rfl, _⟩, eq⟩ := holds
        simp [eq, split]

theorem ends_find (regex : Regex Symbol) : Finds (ends regex) (Matches regex) := by
  induction regex with
  | set accepts => exact ends_set accepts
  | seq first second firstIh secondIh => exact ends_seq first second firstIh secondIh
  | repeated body least most ih => exact ends_repeated body least most ih
  | lookahead body ih => exact ends_lookahead body ih
  | inputStart =>
      intro before input stop
      cases before with
      | nil => simp [ends, Matches]
      | cons symbol before => simp [ends, Matches]
  | inputEnd closing =>
      intro before input stop
      by_cases closed : input.isEmpty || closing input
      · simp only [ends, closed, if_true, List.mem_singleton, Matches]
        constructor
        · intro same
          refine ⟨[], input, rfl, ⟨rfl, by simpa using closed⟩, by simp [same]⟩
        · intro holds
          obtain ⟨_, after, split, ⟨rfl, _⟩, eq⟩ := holds
          simp [eq, split]
      · simp only [ends, closed, Matches]
        constructor
        · intro member
          simp at member
        · intro holds
          obtain ⟨_, after, split, ⟨rfl, here⟩, _⟩ := holds
          exact absurd (by simpa [split] using here) closed

theorem evaluate_iff (regex : Regex Symbol) (input : List Symbol) :
    evaluate regex input = true ↔ Matches regex [] input [] := by
  have finds := ends_find regex [] input
  simp only [evaluate, List.any_eq_true, List.isEmpty_iff]
  constructor
  · intro holds
    obtain ⟨stop, member, done⟩ := holds
    obtain ⟨word, after, split, matched, rfl⟩ := (finds stop).mp member
    have empty : after = [] := done
    simpa [split, empty] using matched
  · intro matched
    exact ⟨_, (finds _).mpr ⟨input, [], by simp, matched, rfl⟩, rfl⟩

section Sets

variable (accepts : Symbol → Bool)

theorem times_set (count : Nat) (before word after : List Symbol) :
    Times (Matches (.set accepts)) count before word after ↔
      word.length = count ∧ ∀ symbol ∈ word, accepts symbol = true := by
  induction count generalizing before word with
  | zero =>
      constructor
      · intro empty
        have eq : word = [] := empty
        simp [eq]
      · intro empty
        exact List.length_eq_zero_iff.mp empty.1
  | succ count ih =>
      constructor
      · intro holds
        obtain ⟨left, right, rfl, ⟨symbol, rfl, accepted⟩, tail⟩ := holds
        obtain ⟨length, all⟩ := (ih _ _).mp tail
        refine ⟨by simp [length], ?_⟩
        simpa using ⟨accepted, all⟩
      · intro holds
        obtain ⟨length, all⟩ := holds
        cases word with
        | nil => simp at length
        | cons symbol right =>
            refine ⟨[symbol], right, rfl, ⟨symbol, rfl, all symbol (by simp)⟩, (ih _ _).mpr ⟨?_, ?_⟩⟩
            · simpa using length
            · intro other member
              exact all other (by simp [member])

theorem repeated_set (least : Nat) (most : Option Nat) (before word after : List Symbol) :
    Matches (.repeated (.set accepts) least most) before word after ↔
      least ≤ word.length ∧ (∀ bound, most = some bound → word.length ≤ bound) ∧
        ∀ symbol ∈ word, accepts symbol = true := by
  simp only [Matches]
  constructor
  · intro holds
    obtain ⟨count, low, high, times⟩ := holds
    obtain ⟨rfl, all⟩ := (times_set accepts count before word after).mp times
    exact ⟨low, high, all⟩
  · intro holds
    obtain ⟨low, high, all⟩ := holds
    exact ⟨word.length, low, high, (times_set accepts _ before word after).mpr ⟨rfl, all⟩⟩

theorem lookahead_set (skips : Symbol → Bool) (before word after : List Symbol)
    (allSkipped : ∀ symbol ∈ after, skips symbol = true) :
    Matches (.lookahead (.seq (.repeated (.set skips) 0 none) (.set accepts))) before word after ↔
      word = [] ∧ ∃ symbol ∈ after, accepts symbol = true := by
  constructor
  · intro holds
    obtain ⟨empty, seen, rest, rfl, left, right, rfl, _, symbol, rfl, accepted⟩ := holds
    exact ⟨empty, symbol, by simp, accepted⟩
  · intro holds
    obtain ⟨empty, symbol, member, accepted⟩ := holds
    obtain ⟨left, rest, rfl⟩ := List.append_of_mem member
    refine ⟨empty, left ++ [symbol], rest, by simp, left, [symbol], rfl, ?_, symbol, rfl, accepted⟩
    rw [repeated_set]
    exact ⟨Nat.zero_le _, by simp, fun other skipped => allSkipped other (by simp [skipped])⟩

end Sets

end Pattern
