import DuplicatedApps.Effects
import DuplicatedApps.Registration
import DuplicatedApps.Submission

set_option autoImplicit false

namespace DuplicatedApps

open Runs

def Call.registers (uid : Uid) : Call → Bool
  | .createUser _ _ (.executed (.user user)) => user == uid
  | .createUser _ _ (.received (.user user)) => user == uid
  | .setData _ user _ _ => user == uid
  | _ => false

def Call.write : Call → Option (Uid × Document)
  | .createUser _ request (.executed (.user uid)) => some (uid, usersDocument request)
  | .createUser _ request (.received (.user uid)) => some (uid, usersDocument request)
  | call => call.unanswered

def Backend.HasAccount (backend : Backend) (uid : Uid) : Prop := ∃ account ∈ backend.accounts, account.uid = uid

theorem write_registers (uid : Uid) (data : Document) (call : Call) (writes : call.write = some (uid, data)) :
    call.registers uid = true := by
  match call with
  | .createUser signUp request (.executed (.user user)) => simpa [Call.registers] using congrArg Prod.fst (Option.some.inj writes)
  | .createUser signUp request (.received (.user user)) => simpa [Call.registers] using congrArg Prod.fst (Option.some.inj writes)
  | .setData signUp user document .sent => simpa [Call.registers] using congrArg Prod.fst (Option.some.inj writes)
  | .setData signUp user document (.executed answer) =>
      simpa [Call.registers] using congrArg Prod.fst (Option.some.inj writes)

theorem unanswered_write (mutation : Uid × Document) (call : Call) (unanswered : call.unanswered = some mutation) :
    call.write = some mutation := by
  match call with
  | .setData signUp user document .sent => exact unanswered
  | .setData signUp user document (.executed answer) => exact unanswered

theorem unanswered_count (calls : Multiset Call) (uid : Uid) :
    (calls.filterMap Call.unanswered).countP (fun mutation => mutation.1 = uid) ≤
      calls.countP (fun call => call.registers uid = true) := by
  induction calls using Multiset.induction_on with
  | empty => exact Nat.le_refl 0
  | cons call calls ih =>
      cases unanswered : call.unanswered with
      | none =>
          rw [Multiset.filterMap_cons_none _ _ unanswered, Multiset.countP_cons]
          exact Nat.le_add_right_of_le ih
      | some mutation =>
          rw [Multiset.filterMap_cons_some _ _ _ unanswered, Multiset.countP_cons, Multiset.countP_cons]
          by_cases same : mutation.1 = uid
          · have registers := write_registers mutation.1 mutation.2 call (unanswered_write mutation call unanswered)
            rw [same] at registers
            rw [if_pos same, if_pos registers]
            exact Nat.add_le_add_right ih 1
          · rw [if_neg same]
            exact Nat.le_add_right_of_le ih

namespace App

def Writes (app : App) (uid : Uid) (data : Document) : Prop :=
  (∃ call ∈ app.calls, call.write = some (uid, data)) ∨ (uid, data) ∈ app.mutationQueue

structure DocumentFixed (app : App) (uid : Uid) : Prop where
  account : app.backend.HasAccount uid
  written : ∀ data, app.Writes uid data → app.backend.users uid = some data

-- A registration that has its account has one call in flight, or one write in the queue, or
-- neither.
structure Claimed (app : App) : Prop where
  once : ∀ uid, app.calls.countP (fun call => call.registers uid = true) +
    app.mutationQueue.countP (fun mutation => mutation.1 = uid) ≤ 1
  accounts : ∀ call ∈ app.calls, ∀ uid, call.registers uid = true → app.backend.HasAccount uid
  queued : ∀ mutation ∈ app.mutationQueue, app.backend.HasAccount mutation.1

section Steps

variable (app next : App)

theorem fewer_claimed (fewer : next.calls ≤ app.calls) (queue : next.mutationQueue = app.mutationQueue)
    (accounts : next.backend.accounts = app.backend.accounts) (claimed : app.Claimed) : next.Claimed := by
  refine ⟨?_, ?_, ?_⟩
  · intro uid
    rw [queue]
    exact Nat.le_trans (Nat.add_le_add_right (Multiset.countP_le_of_le _ fewer) _) (claimed.once uid)
  · intro call member uid registers
    rw [Backend.HasAccount, accounts]
    exact claimed.accounts call (Multiset.mem_of_le fewer member) uid registers
  · intro mutation member
    rw [queue] at member
    rw [Backend.HasAccount, accounts]
    exact claimed.queued mutation member

theorem send_claimed (call : Call) (registers : ∀ uid, call.registers uid = false) (claimed : app.Claimed) :
    (app.send call).Claimed := by
  refine ⟨?_, ?_, claimed.queued⟩
  · intro uid
    have same : (app.send call).calls.countP (fun call => call.registers uid = true) =
        app.calls.countP (fun call => call.registers uid = true) :=
      Multiset.countP_cons_of_neg _ (by simp [registers uid])
    rw [same]
    exact claimed.once uid
  · intro other member uid registered
    rcases Multiset.mem_cons.mp member with rfl | old
    · rw [registers uid] at registered
      cases registered
    · exact claimed.accounts other old uid registered

theorem exchange_claimed (call new : Call) (backend : Backend) (inFlight : call ∈ app.calls)
    (registers : ∀ uid, new.registers uid = call.registers uid) (accounts : backend.accounts = app.backend.accounts)
    (claimed : app.Claimed) : (((app.forget call).send new).setBackend backend).Claimed := by
  refine ⟨?_, ?_, ?_⟩
  · intro uid
    have exchanged := exchange_count app.calls call new (Call.registers uid) inFlight
    rw [registers uid] at exchanged
    exact Nat.le_trans (Nat.add_le_add_right (Nat.le_of_add_le_add_right (Nat.le_of_eq exchanged)) _) (claimed.once uid)
  · intro other member uid registered
    rw [Backend.HasAccount, setBackend, accounts]
    rcases Multiset.mem_cons.mp member with rfl | old
    · rw [registers uid] at registered
      exact claimed.accounts call inFlight uid registered
    · exact claimed.accounts other (Multiset.mem_of_mem_erase old) uid registered
  · intro mutation member
    rw [Backend.HasAccount, setBackend, accounts]
    exact claimed.queued mutation member

theorem fresh_unclaimed (uid : Uid) (fresh : ¬ app.backend.HasAccount uid) (claimed : app.Claimed) :
    app.calls.countP (fun call => call.registers uid = true) = 0 ∧
      app.mutationQueue.countP (fun mutation => mutation.1 = uid) = 0 := by
  rw [Multiset.countP_eq_zero, Multiset.countP_eq_zero]
  refine ⟨?_, ?_⟩
  · intro call member registers
    exact fresh (claimed.accounts call member uid registers)
  · intro mutation member same
    exact fresh (same ▸ claimed.queued mutation member)

theorem created_claimed (signUp : Nat) (request : RegisterUserRequest) (outcome : CreateUserResult)
    (inFlight : .createUser signUp request .sent ∈ app.calls) (claimed : app.Claimed) :
    (((app.forget (.createUser signUp request .sent)).send (.createUser signUp request (.executed
      (app.backend.createUser request.email request.password outcome).2))).setBackend
      (app.backend.createUser request.email request.password outcome).1).Claimed := by
  rcases create_user_cases app.backend request.email request.password outcome with accepted | refused
  · obtain ⟨user, _, free, answer⟩ := accepted
    have fresh : ¬ app.backend.HasAccount user := by
      intro account
      obtain ⟨account, member, same⟩ := account
      exact free_uid_fresh app.backend request.email user free account member same
    have unclaimed := fresh_unclaimed app user fresh claimed
    rw [answer]
    refine ⟨?_, ?_, ?_⟩
    · intro uid
      have exchanged := exchange_count app.calls (.createUser signUp request .sent)
        (.createUser signUp request (.executed (.user user))) (Call.registers uid) inFlight
      have registers : Call.registers uid (.createUser signUp request (.executed (.user user))) = (user == uid) := rfl
      have unregistered : Call.registers uid (.createUser signUp request .sent) = false := rfl
      have counted := claimed.once uid
      rw [registers, unregistered] at exchanged
      apply Nat.le_trans (Nat.add_le_add_right (Nat.le_trans (Nat.le_add_right _ _) (Nat.le_of_eq exchanged)) _)
      by_cases same : user = uid
      · subst same
        simp [unclaimed.1, forget, send, setBackend, unclaimed.2]
      · simpa [same, forget, send, setBackend] using counted
    · intro call member uid registers
      rcases Multiset.mem_cons.mp member with rfl | old
      · obtain rfl : user = uid := by simpa [Call.registers] using registers
        exact ⟨_, List.mem_cons_self, rfl⟩
      · obtain ⟨account, present, same⟩ := claimed.accounts call (Multiset.mem_of_mem_erase old) uid registers
        exact ⟨account, List.mem_cons_of_mem _ present, same⟩
    · intro mutation member
      obtain ⟨account, present, same⟩ := claimed.queued mutation member
      exact ⟨account, List.mem_cons_of_mem _ present, same⟩
  · obtain ⟨_, same, failed⟩ := refused
    rw [same]
    refine exchange_claimed app _ _ _ inFlight ?_ rfl claimed
    intro uid
    cases result : (app.backend.createUser request.email request.password outcome).2 with
    | user user => exact absurd result (failed user)
    | error error => rfl
    | noUser => rfl

theorem launched_claimed (claimed : app.Claimed) : app.willConnect.Claimed := by
  refine ⟨?_, ?_, ?_⟩
  · intro uid
    have few := unanswered_count app.calls uid
    have once := claimed.once uid
    have none : app.willConnect.calls.countP (fun call => call.registers uid = true) = 0 := Multiset.countP_zero _
    rw [none, willConnect, Multiset.countP_add]
    omega
  · intro call member
    exact absurd member (Multiset.notMem_zero call)
  · intro mutation member
    rcases Multiset.mem_add.mp member with old | new
    · exact claimed.queued mutation old
    · obtain ⟨call, inFlight, unanswered⟩ := (Multiset.mem_filterMap _ _).mp new
      exact claimed.accounts call inFlight mutation.1
        (write_registers _ mutation.2 call (unanswered_write mutation call unanswered))

theorem mutation_claimed (mutation : Uid × Document) (backend : Backend) (accounts : backend.accounts = app.backend.accounts)
    (claimed : app.Claimed) :
    Claimed { app with backend := backend, mutationQueue := app.mutationQueue.erase mutation } := by
  refine ⟨?_, ?_, ?_⟩
  · intro uid
    exact Nat.le_trans (Nat.add_le_add_left (Multiset.countP_le_of_le _ (Multiset.erase_le _ _)) _) (claimed.once uid)
  · intro call member uid registers
    rw [Backend.HasAccount, accounts]
    exact claimed.accounts call member uid registers
  · intro other member
    rw [Backend.HasAccount, accounts]
    exact claimed.queued other (Multiset.mem_of_mem_erase member)

theorem alone_registers (call : Call) (inFlight : call ∈ app.calls) (uid : Uid) (registers : call.registers uid = true)
    (claimed : app.Claimed) :
    (∀ other ∈ app.calls.erase call, other.registers uid = false) ∧ ∀ data, (uid, data) ∉ app.mutationQueue := by
  have single := claimed.once uid
  rw [← Multiset.cons_erase inFlight, Multiset.countP_cons, if_pos registers] at single
  refine ⟨?_, ?_⟩
  · intro other member
    cases registered : other.registers uid with
    | false => rfl
    | true =>
        have positive : 0 < (app.calls.erase call).countP (fun other => other.registers uid = true) :=
          Multiset.countP_pos.mpr ⟨other, member, registered⟩
        omega
  · intro data member
    have positive : 0 < app.mutationQueue.countP (fun mutation => mutation.1 = uid) :=
      Multiset.countP_pos.mpr ⟨(uid, data), member, rfl⟩
    omega

theorem alone_queued (uid : Uid) (data : Document) (queued : (uid, data) ∈ app.mutationQueue) (claimed : app.Claimed) :
    (∀ call ∈ app.calls, call.registers uid = false) ∧ ∀ other, (uid, other) ∉ app.mutationQueue.erase (uid, data) := by
  have single := claimed.once uid
  rw [← Multiset.cons_erase queued, Multiset.countP_cons, if_pos rfl] at single
  refine ⟨?_, ?_⟩
  · intro call member
    cases registered : call.registers uid with
    | false => rfl
    | true =>
        have positive : 0 < app.calls.countP (fun call => call.registers uid = true) :=
          Multiset.countP_pos.mpr ⟨call, member, registered⟩
        omega
  · intro other member
    have positive : 0 < (app.mutationQueue.erase (uid, data)).countP (fun mutation => mutation.1 = uid) :=
      Multiset.countP_pos.mpr ⟨(uid, other), member, rfl⟩
    omega

theorem step_claimed (icu : WordCharacters) (event : AppEvent) (claimed : app.Claimed) :
    (app.step icu event).Claimed := by
  have effect := step_effect icu app event
  generalize app.step icu event = after at effect
  cases effect with
  | idle => exact claimed
  | launched => exact launched_claimed app claimed
  | getStarted top => exact fewer_claimed app _ (le_refl _) rfl rfl claimed
  | createAccount login top => exact fewer_claimed app _ (le_refl _) rfl rfl claimed
  | poppedLogin login top => exact fewer_claimed app _ (le_refl _) rfl rfl claimed
  | poppedSignUp signUp top => exact fewer_claimed app _ (le_refl _) rfl rfl claimed
  | signInRefused form alert refused => exact fewer_claimed app _ (le_refl _) rfl rfl claimed
  | signUpRefused form alert refused => exact fewer_claimed app _ (le_refl _) rfl rfl claimed
  | signInSent login form request accepted => exact send_claimed app _ (fun _ => rfl) claimed
  | signUpSent signUp form request accepted => exact send_claimed app _ (fun _ => rfl) claimed
  | executedSignIn login request answer inFlight =>
      exact exchange_claimed app _ _ app.backend inFlight (fun _ => rfl) rfl claimed
  | executedCreateUser signUp request outcome inFlight =>
      exact created_claimed app signUp request outcome inFlight claimed
  | executedSetData signUp uid data answer inFlight =>
      exact exchange_claimed app _ _ _ inFlight (fun _ => rfl) rfl claimed
  | receivedSignIn login request answer inFlight =>
      cases answer with
      | error error =>
          exact exchange_claimed app _ _ app.backend inFlight (fun _ => rfl) rfl claimed
      | user user =>
          exact exchange_claimed app _ _ (app.backend.setCurrentUser (some user)) inFlight (fun _ => rfl) rfl
            claimed
  | receivedCreateUser signUp request answer inFlight =>
      cases answer with
      | error error =>
          exact exchange_claimed app _ _ app.backend inFlight (fun _ => rfl) rfl claimed
      | noUser =>
          exact exchange_claimed app _ _ app.backend inFlight (fun _ => rfl) rfl claimed
      | user user =>
          exact exchange_claimed app _ _ (app.backend.setCurrentUser (some user)) inFlight (fun _ => rfl) rfl
            claimed
  | receivedSetData signUp uid data answer inFlight =>
      exact exchange_claimed app _ _ app.backend inFlight (fun _ => rfl) rfl claimed
  | signedIn login request user inFlight reached =>
      exact fewer_claimed app _ (Multiset.erase_le _ _) rfl rfl claimed
  | writes signUp request uid inFlight =>
      exact exchange_claimed app _ _ app.backend inFlight (fun _ => rfl) rfl claimed
  | registered signUp uid data inFlight top => exact fewer_claimed app _ (Multiset.erase_le _ _) rfl rfl claimed
  | reported call inFlight alert reports => exact fewer_claimed app _ (Multiset.erase_le _ _) rfl rfl claimed
  | unheard call inFlight => exact fewer_claimed app _ (Multiset.erase_le _ _) rfl rfl claimed
  | shown controller pending => exact fewer_claimed app _ (le_refl _) rfl rfl claimed
  | wroteMutation uid data answer queued => exact mutation_claimed app (uid, data) _ rfl claimed

section Fixed

variable (uid : Uid)

theorem carried_fixed (accounts : ∀ account ∈ app.backend.accounts, account ∈ next.backend.accounts)
    (users : next.backend.users uid = app.backend.users uid)
    (writes : ∀ data, next.Writes uid data → app.Writes uid data) (fixed : app.DocumentFixed uid) :
    next.DocumentFixed uid ∧ next.backend.users uid = app.backend.users uid := by
  obtain ⟨account, member, same⟩ := fixed.account
  refine ⟨⟨⟨account, accounts account member, same⟩, ?_⟩, users⟩
  intro data pending
  rw [users]
  exact fixed.written data (writes data pending)

theorem fewer_fixed (fewer : next.calls ≤ app.calls) (queue : next.mutationQueue = app.mutationQueue)
    (accounts : next.backend.accounts = app.backend.accounts) (users : next.backend.users = app.backend.users)
    (fixed : app.DocumentFixed uid) : next.DocumentFixed uid ∧ next.backend.users uid = app.backend.users uid := by
  refine carried_fixed app next uid ?_ (congrFun users uid) ?_ fixed
  · intro account member
    rw [accounts]
    exact member
  · intro data pending
    rcases pending with ⟨call, member, writes⟩ | queued
    · exact .inl ⟨call, Multiset.mem_of_le fewer member, writes⟩
    · exact .inr (queue ▸ queued)

theorem send_fixed (call : Call) (noWrite : call.write = none) (fixed : app.DocumentFixed uid) :
    (app.send call).DocumentFixed uid ∧ (app.send call).backend.users uid = app.backend.users uid := by
  refine carried_fixed app _ uid (fun _ member => member) rfl ?_ fixed
  intro data pending
  rcases pending with ⟨other, member, writes⟩ | queued
  · rcases Multiset.mem_cons.mp member with rfl | old
    · rw [noWrite] at writes
      cases writes
    · exact .inl ⟨other, old, writes⟩
  · exact .inr queued

theorem exchange_fixed (call new : Call) (backend : Backend) (inFlight : call ∈ app.calls)
    (accounts : ∀ account ∈ app.backend.accounts, account ∈ backend.accounts)
    (users : backend.users uid = app.backend.users uid)
    (writes : ∀ data, new.write = some (uid, data) → call.write = some (uid, data)) (fixed : app.DocumentFixed uid) :
    (((app.forget call).send new).setBackend backend).DocumentFixed uid ∧
      (((app.forget call).send new).setBackend backend).backend.users uid = app.backend.users uid := by
  refine carried_fixed app _ uid accounts users ?_ fixed
  intro data pending
  rcases pending with ⟨other, member, written⟩ | queued
  · rcases Multiset.mem_cons.mp member with rfl | old
    · exact .inl ⟨call, inFlight, writes data written⟩
    · exact .inl ⟨other, Multiset.mem_of_mem_erase old, written⟩
  · exact .inr queued

theorem created_fixed (signUp : Nat) (request : RegisterUserRequest) (outcome : CreateUserResult)
    (inFlight : .createUser signUp request .sent ∈ app.calls) (fixed : app.DocumentFixed uid) :
    let answer := app.backend.createUser request.email request.password outcome
    let after := ((app.forget (.createUser signUp request .sent)).send
      (.createUser signUp request (.executed answer.2))).setBackend answer.1
    after.DocumentFixed uid ∧ after.backend.users uid = app.backend.users uid := by
  rcases create_user_cases app.backend request.email request.password outcome with accepted | refused
  · obtain ⟨user, _, free, answer⟩ := accepted
    rw [answer]
    refine exchange_fixed app uid _ _ _ inFlight (fun _ member => List.mem_cons_of_mem _ member) rfl ?_ fixed
    intro data writes
    obtain ⟨account, member, same⟩ := fixed.account
    have apart := free_uid_fresh app.backend request.email user free account member
    rw [same] at apart
    exact absurd (congrArg Prod.fst (Option.some.inj writes)) apart.symm
  · obtain ⟨_, same, failed⟩ := refused
    simp only [same]
    refine exchange_fixed app uid _ _ _ inFlight (fun _ member => member) rfl ?_ fixed
    intro data writes
    cases result : (app.backend.createUser request.email request.password outcome).2 with
    | user user => exact absurd result (failed user)
    | error error =>
        rw [result] at writes
        cases writes
    | noUser =>
        rw [result] at writes
        cases writes

theorem set_data_fixed (user : Uid) (data : Document) (answer : Option NSError) (pending : app.Writes user data)
    (fixed : app.DocumentFixed uid) : (app.backend.setData user data answer).users uid = app.backend.users uid := by
  cases answer with
  | some error => rw [set_data_rejected]
  | none =>
      rw [set_data_stored]
      by_cases same : uid = user
      · subst same
        rw [Function.update_self, fixed.written data pending]
      · exact Function.update_of_ne same _ _

theorem launched_fixed (fixed : app.DocumentFixed uid) :
    app.willConnect.DocumentFixed uid ∧ app.willConnect.backend.users uid = app.backend.users uid := by
  refine carried_fixed app _ uid (fun _ member => member) rfl ?_ fixed
  intro data pending
  rcases pending with ⟨call, member, _⟩ | queued
  · exact absurd member (Multiset.notMem_zero call)
  · rcases Multiset.mem_add.mp queued with old | new
    · exact .inr old
    · obtain ⟨call, inFlight, unanswered⟩ := (Multiset.mem_filterMap _ _).mp new
      exact .inl ⟨call, inFlight, unanswered_write _ call unanswered⟩

theorem mutation_fixed (user : Uid) (data : Document) (answer : Option NSError)
    (queued : (user, data) ∈ app.mutationQueue) (fixed : app.DocumentFixed uid) :
    let after : App :=
      { app with
        backend := app.backend.setData user data answer
        mutationQueue := app.mutationQueue.erase (user, data) }
    after.DocumentFixed uid ∧ after.backend.users uid = app.backend.users uid := by
  refine carried_fixed app _ uid (fun _ member => member) (set_data_fixed app uid user data answer (.inr queued) fixed) ?_
    fixed
  intro other pending
  rcases pending with inFlight | later
  · exact .inl inFlight
  · exact .inr (Multiset.mem_of_mem_erase later)

theorem step_fixed (icu : WordCharacters) (event : AppEvent) (fixed : app.DocumentFixed uid) :
    (app.step icu event).DocumentFixed uid ∧ (app.step icu event).backend.users uid = app.backend.users uid := by
  have effect := step_effect icu app event
  generalize app.step icu event = after at effect
  cases effect with
  | idle => exact ⟨fixed, rfl⟩
  | launched => exact launched_fixed app uid fixed
  | signInSent login form request accepted => exact send_fixed app uid _ rfl fixed
  | signUpSent signUp form request accepted => exact send_fixed app uid _ rfl fixed
  | executedSignIn login request answer inFlight =>
      exact exchange_fixed app uid _ _ app.backend inFlight (fun _ member => member) rfl (fun _ impossible => nomatch impossible)
        fixed
  | executedCreateUser signUp request outcome inFlight =>
      exact created_fixed app uid signUp request outcome inFlight fixed
  | executedSetData signUp user data answer inFlight =>
      exact exchange_fixed app uid _ _ _ inFlight (fun _ member => member)
        (set_data_fixed app uid user data answer (.inl ⟨_, inFlight, rfl⟩) fixed) (fun _ => id) fixed
  | receivedSignIn login request answer inFlight =>
      obtain ⟨session, same⟩ := after_sign_in_session app.backend answer
      rw [same]
      exact exchange_fixed app uid _ _ (app.backend.setCurrentUser session) inFlight (fun _ member => member) rfl
        (fun _ impossible => nomatch impossible) fixed
  | receivedCreateUser signUp request answer inFlight =>
      obtain ⟨session, same⟩ := after_create_user_session app.backend answer
      rw [same]
      refine exchange_fixed app uid _ _ (app.backend.setCurrentUser session) inFlight (fun _ member => member) rfl ?_ fixed
      cases answer <;> exact fun _ => id
  | receivedSetData signUp user data answer inFlight =>
      exact exchange_fixed app uid _ _ app.backend inFlight (fun _ member => member) rfl
        (fun _ impossible => nomatch impossible) fixed
  | signedIn login request user inFlight reached => exact fewer_fixed app _ uid (Multiset.erase_le _ _) rfl rfl rfl fixed
  | writes signUp request user inFlight =>
      exact exchange_fixed app uid _ _ app.backend inFlight (fun _ member => member) rfl (fun _ => id) fixed
  | registered signUp user data inFlight top => exact fewer_fixed app _ uid (Multiset.erase_le _ _) rfl rfl rfl fixed
  | reported call inFlight alert reports => exact fewer_fixed app _ uid (Multiset.erase_le _ _) rfl rfl rfl fixed
  | unheard call inFlight => exact fewer_fixed app _ uid (Multiset.erase_le _ _) rfl rfl rfl fixed
  | wroteMutation user data answer queued => exact mutation_fixed app uid user data answer queued fixed
  | _ => exact fewer_fixed app _ uid (le_refl _) rfl rfl rfl fixed

theorem run_fixed (icu : WordCharacters) (events : List AppEvent) (fixed : app.DocumentFixed uid) :
    (run (App.step icu) app events).backend.users uid = app.backend.users uid := by
  have kept := invariant_run (App.step icu)
    (fun reached => reached.DocumentFixed uid ∧ reached.backend.users uid = app.backend.users uid) (by
      intro reached event held
      have moved := step_fixed reached uid icu event held.1
      exact ⟨moved.1, moved.2.trans held.2⟩)
    app events ⟨fixed, rfl⟩
  exact kept.2

end Fixed

theorem users_change (icu : WordCharacters) (event : AppEvent) (uid : Uid)
    (changed : (app.step icu event).backend.users uid ≠ app.backend.users uid) :
    (∃ signUp data, .setData signUp uid data .sent ∈ app.calls ∧
      app.step icu event = ((app.forget (.setData signUp uid data .sent)).send
        (.setData signUp uid data (.executed none))).setBackend (app.backend.setData uid data none)) ∨
    ∃ data, (uid, data) ∈ app.mutationQueue ∧
      app.step icu event =
        { app with
          backend := app.backend.setData uid data none
          mutationQueue := app.mutationQueue.erase (uid, data) } := by
  have elsewhere : ∀ user data answer, (app.backend.setData user data answer).users uid ≠ app.backend.users uid →
      answer = none ∧ uid = user := by
    intro user data answer differs
    cases answer with
    | some error =>
        rw [set_data_rejected] at differs
        exact absurd rfl differs
    | none =>
        refine ⟨rfl, ?_⟩
        by_contra apart
        rw [set_data_stored, Function.update_of_ne apart] at differs
        exact differs rfl
  have effect := step_effect icu app event
  generalize app.step icu event = after at effect changed
  cases effect with
  | executedCreateUser signUp request outcome inFlight => exact absurd rfl changed
  | executedSetData signUp user data answer inFlight =>
      obtain ⟨rfl, rfl⟩ := elsewhere user data answer changed
      exact .inl ⟨signUp, data, inFlight, rfl⟩
  | wroteMutation user data answer queued =>
      obtain ⟨rfl, rfl⟩ := elsewhere user data answer changed
      exact .inr ⟨data, queued, rfl⟩
  | receivedSignIn login request answer inFlight =>
      obtain ⟨session, same⟩ := after_sign_in_session app.backend answer
      rw [same] at changed
      exact absurd rfl changed
  | receivedCreateUser signUp request answer inFlight =>
      obtain ⟨session, same⟩ := after_create_user_session app.backend answer
      rw [same] at changed
      exact absurd rfl changed
  | _ => exact absurd rfl changed

theorem stored_fixed (uid : Uid) (data : Document) (account : next.backend.HasAccount uid)
    (stored : next.backend.users uid = some data) (only : ∀ other, next.Writes uid other → other = data) :
    next.DocumentFixed uid := by
  refine ⟨account, ?_⟩
  intro other pending
  rw [only other pending]
  exact stored

theorem step_present_fixed (icu : WordCharacters) (event : AppEvent) (claimed : app.Claimed)
    (fixed : ∀ uid, app.backend.users uid ≠ none → app.DocumentFixed uid) (uid : Uid)
    (present : (app.step icu event).backend.users uid ≠ none) : (app.step icu event).DocumentFixed uid := by
  by_cases before : app.backend.users uid = none
  · have changed : (app.step icu event).backend.users uid ≠ app.backend.users uid := by
      rw [before]
      exact present
    rcases users_change app icu event uid changed with ⟨signUp, data, inFlight, written⟩ | ⟨data, queued, written⟩
    · have registers : Call.registers uid (.setData signUp uid data .sent) = true := by simp [Call.registers]
      obtain ⟨alone, unqueued⟩ := alone_registers app _ inFlight uid registers claimed
      rw [written]
      refine stored_fixed _ uid data (show Backend.HasAccount _ uid from claimed.accounts _ inFlight uid registers) ?_ ?_
      · rw [setBackend, set_data_stored]
        exact Function.update_self _ _ _
      · intro other pending
        rcases pending with ⟨call, member, writes⟩ | later
        · rcases Multiset.mem_cons.mp member with rfl | old
          · exact (congrArg Prod.snd (Option.some.inj writes)).symm
          · have registered := write_registers uid other call writes
            rw [alone call old] at registered
            cases registered
        · exact absurd later (unqueued other)
    · obtain ⟨alone, unqueued⟩ := alone_queued app uid data queued claimed
      rw [written]
      refine stored_fixed _ uid data (show Backend.HasAccount _ uid from claimed.queued _ queued) ?_ ?_
      · rw [set_data_stored]
        exact Function.update_self _ _ _
      · intro other pending
        rcases pending with ⟨call, member, writes⟩ | later
        · have registered := write_registers uid other call writes
          rw [alone call member] at registered
          cases registered
        · exact absurd later (unqueued other)
  · exact (step_fixed app uid icu event (fixed uid before)).1

end Steps

theorem scene_claimed (backend : Backend) : (scene backend).Claimed := by
  refine ⟨?_, ?_, ?_⟩
  · intro uid
    exact Nat.zero_le _
  · intro call member
    exact absurd member (Multiset.notMem_zero call)
  · intro mutation member
    exact absurd member (Multiset.notMem_zero mutation)

theorem run_present_fixed (icu : WordCharacters) (backend : Backend)
    (owned : ∀ uid, backend.users uid ≠ none → backend.HasAccount uid) (events : List AppEvent) (uid : Uid)
    (present : (run (App.step icu) (App.scene backend) events).backend.users uid ≠ none) :
    (run (App.step icu) (App.scene backend) events).DocumentFixed uid := by
  have start : ∀ user, (scene backend).backend.users user ≠ none → (scene backend).DocumentFixed user := by
    intro user there
    refine ⟨owned user there, ?_⟩
    intro data pending
    rcases pending with ⟨call, member, _⟩ | queued
    · exact absurd member (Multiset.notMem_zero call)
    · exact absurd queued (Multiset.notMem_zero _)
  have kept := invariant_run (App.step icu)
    (fun reached => reached.Claimed ∧ ∀ user, reached.backend.users user ≠ none → reached.DocumentFixed user) (by
      intro reached event held
      exact ⟨step_claimed reached icu event held.1, step_present_fixed reached icu event held.1 held.2⟩)
    (scene backend) events ⟨scene_claimed backend, start⟩
  exact kept.2 uid present

end App

-- A document that is there stays as it is whatever follows, also where its write is sent
-- again; and so does the lack of one once no write of it is in flight or in the queue.
theorem document_never_changes (icu : WordCharacters) (backend : Backend)
    (owned : ∀ uid, backend.users uid ≠ none → backend.HasAccount uid) (before after : List AppEvent) (uid : Uid)
    (settled : (run (App.step icu) (App.scene backend) before).backend.users uid ≠ none ∨
      (run (App.step icu) (App.scene backend) before).DocumentFixed uid) :
    (run (App.step icu) (App.scene backend) (before ++ after)).backend.users uid =
      (run (App.step icu) (App.scene backend) before).backend.users uid := by
  have fixed : (run (App.step icu) (App.scene backend) before).DocumentFixed uid := by
    rcases settled with present | fixed
    · exact App.run_present_fixed icu backend owned before uid present
    · exact fixed
  rw [run_append]
  exact App.run_fixed _ uid icu after fixed

def annasLostWrite : List AppEvent :=
  [.rootTransition .welcome, .didTapGetStarted, .handleCreateAccountTap, .didTapSignUp annasForm,
    .executeCreateUser 1 annasForm.request (.user "anna"),
    .receive (.createUser 1 annasForm.request (.executed (.user "anna"))),
    .complete (.createUser 1 annasForm.request (.received (.user "anna"))),
    .executeSetData 1 "anna" (usersDocument annasForm.request) (some permissionDenied),
    .receive (.setData 1 "anna" (usersDocument annasForm.request) (.executed (some permissionDenied)))]

def annasRetry : List AppEvent :=
  [.complete (.setData 1 "anna" (usersDocument annasForm.request) (.received (some permissionDenied))),
    .didTapSignUp annasForm, .executeCreateUser 1 annasForm.request (.user "anna"),
    .receive (.createUser 1 annasForm.request (.executed (.error documentedFirebase.emailAlreadyInUse))),
    .willConnect, .writeMutation "anna" (usersDocument annasForm.request) none]

theorem lost_document_stays_lost :
    (run (App.step asciiWords) (App.scene emptyBackend) (annasLostWrite ++ annasRetry)).backend.users "anna" = none := by
  have fixed : (run (App.step asciiWords) (App.scene emptyBackend) annasLostWrite).DocumentFixed "anna" := by
    refine ⟨⟨⟨"anna", annasForm.request.email, annasForm.request.password⟩, by decide, rfl⟩, ?_⟩
    intro data pending
    have calls : (run (App.step asciiWords) (App.scene emptyBackend) annasLostWrite).calls =
        {.setData 1 "anna" (usersDocument annasForm.request) (.received (some permissionDenied))} := by decide
    have queue : (run (App.step asciiWords) (App.scene emptyBackend) annasLostWrite).mutationQueue = 0 := by decide
    rcases pending with ⟨call, member, writes⟩ | queued
    · rw [calls, Multiset.mem_singleton] at member
      rw [member] at writes
      cases writes
    · rw [queue] at queued
      exact absurd queued (Multiset.notMem_zero _)
  have kept := document_never_changes asciiWords emptyBackend (fun _ present => absurd rfl present) annasLostWrite
    annasRetry "anna" (.inr fixed)
  rw [kept]
  decide

end DuplicatedApps
