import DuplicatedApps.Documents

set_option autoImplicit false

namespace DuplicatedApps

open Runs

structure Execution where
  request : RegisterUserRequest
  outcome : CreateUserResult

-- The order of the registrations of a run is the one in which the backend executes their
-- createUser calls.
def App.executes (app : App) : AppEvent → List Execution
  | .executeCreateUser signUp request outcome =>
      if .createUser signUp request .sent ∈ app.calls then [⟨request, outcome⟩] else []
  | _ => []

def executions (icu : WordCharacters) (start : App) (events : List AppEvent) : List Execution :=
  outputs (App.step icu) App.executes start events

def completed (icu : WordCharacters) (start : App) (events : List AppEvent) : List Call :=
  outputs (App.step icu) App.completes start events

def Call.reports : Call → Option (Document × Completion)
  | .createUser _ request (.received answer) =>
      match createUserCallback request answer with
      | .completion wasRegistered error => some (usersDocument request, .registered wasRegistered error)
      | .setData _ _ => none
  | .setData _ _ data (.received answer) => some (data, .registered (setDataCallback answer).1 (setDataCallback answer).2)
  | _ => none

-- The answer to the second write, which counts once for each user.
def Execution.reply (execution : Execution) (written : Uid → Option NSError) : Option NSError :=
  match execution.outcome with
  | .user uid => written uid
  | _ => none

def Service.serial (written : Uid → Option NSError) (service : Service) (execution : Execution) : Service :=
  service.registerUser execution.request execution.outcome (execution.reply written)

def serially (written : Uid → Option NSError) (backend : Backend) (order : List Execution) : Backend :=
  (run (Service.serial written) ⟨backend, []⟩ order).backend

def Backend.answer (backend : Backend) (execution : Execution) : CreateUserResult :=
  (backend.createUser execution.request.email execution.request.password execution.outcome).2

section Serial

variable (service : Service) (execution : Execution) (written : Uid → Option NSError)

theorem serial_cases :
    (∃ error, createUserCallback execution.request (service.backend.answer execution) = .completion false error ∧
      (∀ uid, service.backend.answer execution ≠ .user uid) ∧
      (service.backend.createUser execution.request.email execution.request.password execution.outcome).1 = service.backend ∧
      service.serial written execution = service.complete service.backend (.registered false error)) ∨
    (∃ uid, service.backend.answer execution = .user uid ∧
      (service.backend.createUser execution.request.email execution.request.password execution.outcome).1 =
        { service.backend with
          accounts := ⟨uid, execution.request.email, execution.request.password⟩ :: service.backend.accounts } ∧
      service.serial written execution =
        service.complete
          ((service.backend.withAccount execution.request uid).setData uid (usersDocument execution.request) (written uid))
          (.registered (setDataCallback (written uid)).1 (setDataCallback (written uid)).2)) := by
  rcases create_user_cases service.backend execution.request.email execution.request.password execution.outcome with
    accepted | refused
  · obtain ⟨uid, outcome, _, answer⟩ := accepted
    have reply : execution.reply written = written uid := by
      rw [Execution.reply, outcome]
    refine .inr ⟨uid, ?_, ?_, ?_⟩
    · rw [Backend.answer, answer]
    · rw [answer]
    · rw [Service.serial, Service.registerUser, answer, reply]
      rfl
  · obtain ⟨_, same, failed⟩ := refused
    obtain ⟨unchanged, error, callback⟩ := create_user_callback_failure service.backend execution.request _ failed
    refine .inl ⟨error, callback, failed, same, ?_⟩
    simp only [Service.serial, Service.registerUser, callback, same, unchanged]

theorem serial_accounts :
    (service.serial written execution).backend.accounts =
      (service.backend.createUser execution.request.email execution.request.password execution.outcome).1.accounts := by
  rcases serial_cases service execution written with ⟨error, _, _, same, done⟩ | ⟨uid, _, made, done⟩
  · rw [done, same]
    rfl
  · rw [done, made]
    rfl

theorem serial_firebase : (service.serial written execution).backend.firebase = service.backend.firebase := by
  rcases serial_cases service execution written with ⟨error, _, _, _, done⟩ | ⟨uid, _, _, done⟩
  · rw [done]
    rfl
  · rw [done]
    rfl

theorem serial_users (uid : Uid) :
    (service.serial written execution).backend.users uid =
      if service.backend.answer execution = .user uid ∧ written uid = none then some (usersDocument execution.request)
      else service.backend.users uid := by
  rcases serial_cases service execution written with ⟨error, _, failed, _, done⟩ | ⟨user, answer, _, done⟩
  · rw [if_neg (fun both => failed uid both.1), done]
    rfl
  · rw [done, answer, Service.complete]
    cases reply : written user with
    | some error =>
        rw [set_data_rejected, if_neg]
        · rfl
        · intro both
          obtain rfl := CreateUserResult.user.inj both.1
          rw [both.2] at reply
          cases reply
    | none =>
        rw [set_data_stored]
        by_cases same : user = uid
        · subst same
          rw [Function.update_self, if_pos ⟨rfl, reply⟩]
        · rw [Function.update_of_ne (Ne.symm same), if_neg (fun both => same (CreateUserResult.user.inj both.1))]
          rfl

end Serial

section Snoc

variable (written : Uid → Option NSError) (start : Backend) (front : List Execution) (last : Execution)

theorem serially_snoc_accounts :
    (serially written start (front ++ [last])).accounts =
      ((serially written start front).createUser last.request.email last.request.password last.outcome).1.accounts := by
  rw [serially, run_append]
  exact serial_accounts _ last written

theorem serially_snoc_users (uid : Uid) :
    (serially written start (front ++ [last])).users uid =
      if (serially written start front).answer last = .user uid ∧ written uid = none then some (usersDocument last.request)
      else (serially written start front).users uid := by
  rw [serially, run_append]
  exact serial_users _ last written uid

theorem serially_firebase (order : List Execution) : (serially written start order).firebase = start.firebase := by
  induction order using List.reverseRecOn with
  | nil => rfl
  | append_singleton front last ih =>
      rw [serially, run_append]
      exact (serial_firebase _ last written).trans ih

end Snoc

theorem create_user_alike (one other : Backend) (firebase : one.firebase = other.firebase)
    (same : one.accounts = other.accounts) (email password : Text) (outcome : CreateUserResult) :
    (one.createUser email password outcome).1.accounts = (other.createUser email password outcome).1.accounts ∧
      (one.createUser email password outcome).2 = (other.createUser email password outcome).2 := by
  rw [Backend.createUser, Backend.createUser, firebase, same]
  exact ⟨rfl, rfl⟩

theorem answer_alike (one other : Backend) (firebase : one.firebase = other.firebase)
    (same : one.accounts = other.accounts) (execution : Execution) : one.answer execution = other.answer execution :=
  (create_user_alike one other firebase same _ _ _).2

theorem answer_fresh (backend : Backend) (execution : Execution) (uid : Uid) (accepted : backend.answer execution = .user uid) :
    ¬ backend.HasAccount uid ∧
      (backend.createUser execution.request.email execution.request.password execution.outcome).1.HasAccount uid := by
  rcases create_user_cases backend execution.request.email execution.request.password execution.outcome with made | refused
  · obtain ⟨user, _, free, answer⟩ := made
    obtain rfl : user = uid := by
      rw [Backend.answer, answer] at accepted
      exact CreateUserResult.user.inj accepted
    refine ⟨?_, ?_⟩
    · intro account
      obtain ⟨account, member, same⟩ := account
      exact free_uid_fresh backend execution.request.email user free account member same
    · rw [answer]
      exact ⟨_, List.mem_cons_self, rfl⟩
  · exact absurd accepted (refused.2.2 uid)

theorem create_user_keeps (backend : Backend) (email password : Text) (outcome : CreateUserResult) (uid : Uid)
    (account : backend.HasAccount uid) : (backend.createUser email password outcome).1.HasAccount uid := by
  rcases create_user_cases backend email password outcome with made | refused
  · obtain ⟨user, _, _, answer⟩ := made
    obtain ⟨older, member, same⟩ := account
    rw [answer]
    exact ⟨older, List.mem_cons_of_mem _ member, same⟩
  · rw [refused.2.1]
    exact account

section Order

variable (written other : Uid → Option NSError) (start : Backend) (uid : Uid)

theorem serially_accounts (order : List Execution) :
    (serially written start order).accounts = (serially other start order).accounts := by
  induction order using List.reverseRecOn with
  | nil => rfl
  | append_singleton front last ih =>
      rw [serially_snoc_accounts, serially_snoc_accounts]
      have firebase := (serially_firebase written start front).trans (serially_firebase other start front).symm
      exact (create_user_alike _ _ firebase ih _ _ _).1

theorem serially_keeps_account (front back : List Execution) (account : (serially written start front).HasAccount uid) :
    (serially written start (front ++ back)).HasAccount uid := by
  induction back using List.reverseRecOn with
  | nil => simpa using account
  | append_singleton back last ih =>
      rw [← List.append_assoc, Backend.HasAccount, serially_snoc_accounts]
      exact create_user_keeps _ _ _ _ uid ih

theorem serially_users_at (order : List Execution) (same : written uid = other uid) :
    (serially written start order).users uid = (serially other start order).users uid := by
  induction order using List.reverseRecOn with
  | nil => rfl
  | append_singleton front last ih =>
      have firebase := (serially_firebase written start front).trans (serially_firebase other start front).symm
      have answers := answer_alike _ _ firebase (serially_accounts written other start front) last
      rw [serially_snoc_users, serially_snoc_users, answers, same, ih]

theorem serially_unwritten (order : List Execution) (failed : written uid ≠ none) :
    (serially written start order).users uid = start.users uid := by
  induction order using List.reverseRecOn with
  | nil => rfl
  | append_singleton front last ih =>
      rw [serially_snoc_users, if_neg (fun both => failed both.2)]
      exact ih

theorem serially_written (front back : List Execution) (execution : Execution)
    (accepted : (serially written start front).answer execution = .user uid) (stored : written uid = none) :
    (serially written start (front ++ execution :: back)).users uid = some (usersDocument execution.request) := by
  induction back using List.reverseRecOn with
  | nil =>
      rw [serially_snoc_users, if_pos ⟨accepted, stored⟩]
  | append_singleton back last ih =>
      have made : (serially written start (front ++ [execution])).HasAccount uid := by
        rw [Backend.HasAccount, serially_snoc_accounts]
        exact (answer_fresh _ execution uid accepted).2
      have there : (serially written start (front ++ execution :: back)).HasAccount uid := by
        have later := serially_keeps_account written start uid (front ++ [execution]) back made
        simpa using later
      have again : (serially written start (front ++ execution :: back)).answer last ≠ .user uid := by
        intro second
        exact (answer_fresh _ last uid second).1 there
      rw [show front ++ execution :: (back ++ [last]) = (front ++ execution :: back) ++ [last] by simp,
        serially_snoc_users, if_neg (fun both => again both.1)]
      exact ih

end Order

def Answered (start : Backend) (order : List Execution) (request : RegisterUserRequest) (answer : CreateUserResult) : Prop :=
  ∃ front outcome back, order = front ++ ⟨request, outcome⟩ :: back ∧
    ∀ written, (serially written start front).answer ⟨request, outcome⟩ = answer

def Call.Explained (start : Backend) (order : List Execution) (written : Uid → Option NSError) : Call → Prop
  | .createUser _ request (.executed answer) => Answered start order request answer
  | .createUser _ request (.received answer) => Answered start order request answer
  | .setData _ uid data phase =>
      (∃ request, data = usersDocument request ∧ Answered start order request (.user uid)) ∧
        ∀ answer, phase = .executed answer ∨ phase = .received answer → written uid = answer
  | _ => True

structure Linearised (start : Backend) (order : List Execution) (completed : List Call) (app : App)
    (written : Uid → Option NSError) : Prop where
  accounts : (serially written start order).accounts = app.backend.accounts
  users : ∀ uid, (serially written start order).users uid = app.backend.users uid
  calls : ∀ call ∈ app.calls, call.Explained start order written
  reports : ∀ call ∈ completed, ∀ document completion, call.reports = some (document, completion) →
    ∃ front execution back, order = front ++ execution :: back ∧ usersDocument execution.request = document ∧
      (run (Service.serial written) ⟨start, []⟩ (front ++ [execution])).completions.getLast? = some completion

def Call.owes (uid : Uid) : Call → Bool
  | .createUser _ _ (.executed (.user user)) => user == uid
  | .createUser _ _ (.received (.user user)) => user == uid
  | .setData _ user _ .sent => user == uid
  | _ => false

structure App.Done (app : App) (uid : Uid) : Prop where
  account : app.backend.HasAccount uid
  calls : ∀ call ∈ app.calls, call.registers uid = false
  queue : ∀ data, (uid, data) ∉ app.mutationQueue

structure LinearInvariant (start : Backend) (order : List Execution) (completed : List Call) (app : App)
    (written : Uid → Option NSError) : Prop where
  firebase : app.backend.firebase = start.firebase
  accounts : (serially written start order).accounts = app.backend.accounts
  users : ∀ uid, (serially written start order).users uid = app.backend.users uid
  calls : ∀ call ∈ app.calls, call.Explained start order written
  log : ∀ call ∈ completed, call.Explained start order written
  done : ∀ signUp uid data phase, .setData signUp uid data phase ∈ completed → app.Done uid
  claimed : app.Claimed
  pending : ∀ call ∈ app.calls, ∀ uid, call.owes uid = true → written uid ≠ none
  queue : ∀ uid data, (uid, data) ∈ app.mutationQueue →
    (∃ request, data = usersDocument request ∧ Answered start order request (.user uid)) ∧
      (written uid ≠ none ∨ app.backend.users uid = some data)
  unmade : ∀ uid, ¬ app.backend.HasAccount uid → written uid ≠ none

theorem owes_registers (uid : Uid) (call : Call) (owes : call.owes uid = true) : call.registers uid = true := by
  match call with
  | .createUser signUp request (.executed (.user user)) => exact owes
  | .createUser signUp request (.received (.user user)) => exact owes
  | .setData signUp user data .sent => exact owes

theorem answered_longer (start : Backend) (order more : List Execution) (request : RegisterUserRequest)
    (answer : CreateUserResult) (answered : Answered start order request answer) :
    Answered start (order ++ more) request answer := by
  obtain ⟨front, outcome, back, place, answers⟩ := answered
  refine ⟨front, outcome, back ++ more, ?_, answers⟩
  rw [place]
  simp

theorem explained_longer (start : Backend) (order more : List Execution) (written : Uid → Option NSError) (call : Call)
    (explained : call.Explained start order written) : call.Explained start (order ++ more) written := by
  cases call with
  | signIn login request phase => trivial
  | createUser signUp request phase =>
      cases phase with
      | sent => trivial
      | executed answer => exact answered_longer start order more request answer explained
      | received answer => exact answered_longer start order more request answer explained
  | setData signUp uid data phase =>
      obtain ⟨⟨request, same, answered⟩, reply⟩ := explained
      exact ⟨⟨request, same, answered_longer start order more request _ answered⟩, reply⟩

theorem explained_reports (start : Backend) (order : List Execution) (written : Uid → Option NSError) (call : Call)
    (explained : call.Explained start order written) (document : Document) (completion : Completion)
    (reports : call.reports = some (document, completion)) :
    ∃ front execution back, order = front ++ execution :: back ∧ usersDocument execution.request = document ∧
      (run (Service.serial written) ⟨start, []⟩ (front ++ [execution])).completions.getLast? = some completion := by
  match call with
  | .createUser signUp request (.received answer) =>
      obtain ⟨front, outcome, back, place, answers⟩ := explained
      refine ⟨front, ⟨request, outcome⟩, back, place, ?_⟩
      rw [run_append, run_cons, run_nil]
      have answered : (run (Service.serial written) ⟨start, []⟩ front).backend.answer ⟨request, outcome⟩ = answer :=
        answers written
      rcases serial_cases (run (Service.serial written) ⟨start, []⟩ front) ⟨request, outcome⟩ written with
        ⟨error, callback, _, _, done⟩ | ⟨uid, created, _, _⟩
      · rw [answered] at callback
        rw [Call.reports, callback] at reports
        obtain ⟨rfl, rfl⟩ := Prod.mk.inj (Option.some.inj reports)
        rw [done, Service.complete]
        exact ⟨rfl, List.getLast?_concat⟩
      · rw [answered] at created
        rw [created] at reports
        cases reports
  | .setData signUp uid data (.received answer) =>
      obtain ⟨⟨request, rfl, front, outcome, back, place, answers⟩, reply⟩ := explained
      refine ⟨front, ⟨request, outcome⟩, back, place, ?_⟩
      have answered : (run (Service.serial written) ⟨start, []⟩ front).backend.answer ⟨request, outcome⟩ = .user uid :=
        answers written
      obtain ⟨rfl, rfl⟩ := Prod.mk.inj (Option.some.inj reports)
      rw [run_append, run_cons, run_nil]
      rcases serial_cases (run (Service.serial written) ⟨start, []⟩ front) ⟨request, outcome⟩ written with
        ⟨error, _, failed, _, _⟩ | ⟨user, created, _, done⟩
      · exact absurd answered (failed uid)
      · obtain rfl := CreateUserResult.user.inj (created.symm.trans answered)
        rw [done, Service.complete, reply answer (.inr rfl)]
        exact ⟨rfl, List.getLast?_concat⟩

section Done

open App

variable (app next : App) (uid : Uid)

theorem carried_done (accounts : ∀ account ∈ app.backend.accounts, account ∈ next.backend.accounts)
    (calls : ∀ call ∈ next.calls, call.registers uid = true → ∃ older ∈ app.calls, older.registers uid = true)
    (queue : next.mutationQueue ≤ app.mutationQueue) (done : app.Done uid) : next.Done uid := by
  obtain ⟨account, member, same⟩ := done.account
  refine ⟨⟨account, accounts account member, same⟩, ?_, ?_⟩
  · intro call member
    cases registers : call.registers uid with
    | false => rfl
    | true =>
        obtain ⟨older, inFlight, registered⟩ := calls call member registers
        rw [done.calls older inFlight] at registered
        cases registered
  · intro data member
    exact done.queue data (Multiset.mem_of_le queue member)

theorem fewer_done (accounts : next.backend.accounts = app.backend.accounts) (fewer : next.calls ≤ app.calls)
    (queue : next.mutationQueue ≤ app.mutationQueue) (done : app.Done uid) : next.Done uid := by
  refine carried_done app next uid ?_ ?_ queue done
  · intro account member
    rw [accounts]
    exact member
  · intro call member registers
    exact ⟨call, Multiset.mem_of_le fewer member, registers⟩

theorem exchange_done (call new : Call) (backend : Backend) (inFlight : call ∈ app.calls)
    (accounts : ∀ account ∈ app.backend.accounts, account ∈ backend.accounts)
    (registers : new.registers uid = true → call.registers uid = true) (done : app.Done uid) :
    (((app.forget call).send new).setBackend backend).Done uid := by
  refine carried_done app _ uid accounts ?_ (le_refl _) done
  intro other member registered
  rcases Multiset.mem_cons.mp member with rfl | old
  · exact ⟨call, inFlight, registers registered⟩
  · exact ⟨other, Multiset.mem_of_mem_erase old, registered⟩

theorem send_done (call : Call) (registers : call.registers uid = false) (done : app.Done uid) : (app.send call).Done uid := by
  refine carried_done app _ uid (fun _ member => member) ?_ (le_refl _) done
  intro other member registered
  rcases Multiset.mem_cons.mp member with rfl | old
  · rw [registers] at registered
    cases registered
  · exact ⟨other, old, registered⟩

theorem created_done (signUp : Nat) (request : RegisterUserRequest) (outcome : CreateUserResult)
    (inFlight : .createUser signUp request .sent ∈ app.calls) (done : app.Done uid) :
    (((app.forget (.createUser signUp request .sent)).send (.createUser signUp request (.executed
      (app.backend.createUser request.email request.password outcome).2))).setBackend
      (app.backend.createUser request.email request.password outcome).1).Done uid := by
  rcases create_user_cases app.backend request.email request.password outcome with accepted | refused
  · obtain ⟨user, _, free, answer⟩ := accepted
    rw [answer]
    refine exchange_done app uid _ _ _ inFlight (fun _ member => List.mem_cons_of_mem _ member) ?_ done
    intro registers
    obtain ⟨account, member, same⟩ := done.account
    have apart := free_uid_fresh app.backend request.email user free account member
    have equal : user = uid := by simpa [Call.registers] using registers
    exact absurd (same.trans equal.symm) apart
  · obtain ⟨_, same, failed⟩ := refused
    rw [same]
    refine exchange_done app uid _ _ _ inFlight (fun _ member => member) ?_ done
    intro registers
    cases result : (app.backend.createUser request.email request.password outcome).2 with
    | user user => exact absurd result (failed user)
    | error error =>
        rw [result] at registers
        cases registers
    | noUser =>
        rw [result] at registers
        cases registers

theorem launched_done (done : app.Done uid) : app.willConnect.Done uid := by
  refine ⟨done.account, ?_, ?_⟩
  · intro call member
    exact absurd member (Multiset.notMem_zero call)
  · intro data member
    rcases Multiset.mem_add.mp member with old | new
    · exact done.queue data old
    · obtain ⟨call, inFlight, unanswered⟩ := (Multiset.mem_filterMap _ _).mp new
      have registers := write_registers uid data call (unanswered_write _ call unanswered)
      rw [done.calls call inFlight] at registers
      cases registers

theorem step_done (icu : WordCharacters) (event : AppEvent) (done : app.Done uid) : (app.step icu event).Done uid := by
  have effect := step_effect icu app event
  generalize app.step icu event = after at effect
  cases effect with
  | idle none => exact done
  | launched => exact launched_done app uid done
  | signInSent login form request accepted => exact send_done app uid _ rfl done
  | signUpSent signUp form request accepted => exact send_done app uid _ rfl done
  | executedSignIn login request answer inFlight =>
      exact exchange_done app uid _ _ app.backend inFlight (fun _ member => member) id done
  | executedCreateUser signUp request outcome inFlight => exact created_done app uid signUp request outcome inFlight done
  | executedSetData signUp user data answer inFlight =>
      exact exchange_done app uid _ _ _ inFlight (fun _ member => member) id done
  | receivedSignIn login request answer inFlight =>
      obtain ⟨session, same⟩ := after_sign_in_session app.backend answer
      rw [same]
      exact exchange_done app uid _ _ (app.backend.setCurrentUser session) inFlight (fun _ member => member) id done
  | receivedCreateUser signUp request answer inFlight =>
      obtain ⟨session, same⟩ := after_create_user_session app.backend answer
      rw [same]
      refine exchange_done app uid _ _ (app.backend.setCurrentUser session) inFlight (fun _ member => member) ?_ done
      cases answer <;> exact id
  | receivedSetData signUp user data answer inFlight =>
      exact exchange_done app uid _ _ app.backend inFlight (fun _ member => member) id done
  | signedIn login request user inFlight reached =>
      exact fewer_done app _ uid rfl (Multiset.erase_le _ _) (le_refl _) done
  | writes signUp request user inFlight =>
      exact exchange_done app uid _ _ app.backend inFlight (fun _ member => member) id done
  | registered signUp user data inFlight top => exact fewer_done app _ uid rfl (Multiset.erase_le _ _) (le_refl _) done
  | reported call inFlight alert reports => exact fewer_done app _ uid rfl (Multiset.erase_le _ _) (le_refl _) done
  | unheard call inFlight => exact fewer_done app _ uid rfl (Multiset.erase_le _ _) (le_refl _) done
  | wroteMutation user data answer queued => exact fewer_done app _ uid rfl (le_refl _) (Multiset.erase_le _ _) done
  | _ => exact fewer_done app _ uid rfl (le_refl _) (le_refl _) done

end Done

structure App.Keeps (app next : App) : Prop where
  claimed : next.Claimed
  firebase : next.backend.firebase = app.backend.firebase
  done : ∀ uid, app.Done uid → next.Done uid

section Steps

open App

variable (start : Backend) (order : List Execution) (completed : List Call) (app next : App)
variable (written : Uid → Option NSError)

theorem step_firebase (icu : WordCharacters) (event : AppEvent) :
    (app.step icu event).backend.firebase = app.backend.firebase := by
  have effect := step_effect icu app event
  generalize app.step icu event = after at effect
  cases effect with
  | receivedSignIn login request answer inFlight =>
      obtain ⟨session, same⟩ := after_sign_in_session app.backend answer
      rw [same]
      rfl
  | receivedCreateUser signUp request answer inFlight =>
      obtain ⟨session, same⟩ := after_create_user_session app.backend answer
      rw [same]
      rfl
  | _ => rfl

theorem step_keeps (icu : WordCharacters) (event : AppEvent) (claimed : app.Claimed) : app.Keeps (app.step icu event) :=
  ⟨step_claimed app icu event claimed, step_firebase app icu event, fun uid => step_done app uid icu event⟩

theorem carried_linear (keeps : app.Keeps next) (accounts : next.backend.accounts = app.backend.accounts)
    (users : next.backend.users = app.backend.users)
    (calls : ∀ call ∈ next.calls, call ∈ app.calls ∨
      (call.Explained start order written ∧ ∀ uid, call.owes uid = true → written uid ≠ none))
    (queue : next.mutationQueue ≤ app.mutationQueue) (linear : LinearInvariant start order completed app written) :
    LinearInvariant start order completed next written := by
  refine ⟨keeps.firebase.trans linear.firebase, ?_, ?_, ?_, linear.log, ?_, keeps.claimed, ?_, ?_, ?_⟩
  · rw [accounts]
    exact linear.accounts
  · intro uid
    rw [users]
    exact linear.users uid
  · intro call member
    rcases calls call member with old | new
    · exact linear.calls call old
    · exact new.1
  · intro signUp uid data phase member
    exact keeps.done uid (linear.done signUp uid data phase member)
  · intro call member uid owes
    rcases calls call member with old | new
    · exact linear.pending call old uid owes
    · exact new.2 uid owes
  · intro uid data member
    rw [users]
    exact linear.queue uid data (Multiset.mem_of_le queue member)
  · intro uid none
    rw [Backend.HasAccount, accounts] at none
    exact linear.unmade uid none

theorem fewer_linear (keeps : app.Keeps next) (accounts : next.backend.accounts = app.backend.accounts)
    (users : next.backend.users = app.backend.users) (fewer : next.calls ≤ app.calls)
    (queue : next.mutationQueue = app.mutationQueue) (linear : LinearInvariant start order completed app written) :
    LinearInvariant start order completed next written :=
  carried_linear start order completed app next written keeps accounts users
    (fun _ member => .inl (Multiset.mem_of_le fewer member)) (le_of_eq queue) linear

theorem send_linear (call : Call) (keeps : app.Keeps (app.send call)) (explained : call.Explained start order written)
    (noDebt : ∀ uid, call.owes uid = false) (linear : LinearInvariant start order completed app written) :
    LinearInvariant start order completed (app.send call) written := by
  refine carried_linear start order completed app _ written keeps rfl rfl ?_ (le_refl _) linear
  intro other member
  rcases Multiset.mem_cons.mp member with rfl | old
  · refine .inr ⟨explained, ?_⟩
    intro uid owes
    rw [noDebt uid] at owes
    cases owes
  · exact .inl old

theorem exchange_linear (call new : Call) (backend : Backend) (inFlight : call ∈ app.calls)
    (keeps : app.Keeps (((app.forget call).send new).setBackend backend))
    (accounts : backend.accounts = app.backend.accounts) (users : backend.users = app.backend.users)
    (explained : call.Explained start order written → new.Explained start order written)
    (owes : ∀ uid, new.owes uid = true → call.owes uid = true)
    (linear : LinearInvariant start order completed app written) :
    LinearInvariant start order completed (((app.forget call).send new).setBackend backend) written := by
  refine carried_linear start order completed app _ written keeps accounts users ?_ (le_refl _) linear
  intro other member
  rcases Multiset.mem_cons.mp member with rfl | old
  · refine .inr ⟨explained (linear.calls call inFlight), ?_⟩
    intro uid owed
    exact linear.pending call inFlight uid (owes uid owed)
  · exact .inl (Multiset.mem_of_mem_erase old)

theorem created_linear (signUp : Nat) (request : RegisterUserRequest) (outcome : CreateUserResult)
    (keeps : app.Keeps (((app.forget (.createUser signUp request .sent)).send (.createUser signUp request (.executed
      (app.backend.createUser request.email request.password outcome).2))).setBackend
      (app.backend.createUser request.email request.password outcome).1))
    (linear : LinearInvariant start order completed app written) :
    LinearInvariant start (order ++ [⟨request, outcome⟩]) completed
      (((app.forget (.createUser signUp request .sent)).send (.createUser signUp request (.executed
        (app.backend.createUser request.email request.password outcome).2))).setBackend
        (app.backend.createUser request.email request.password outcome).1) written := by
  have firebase : ∀ other, (serially other start order).firebase = app.backend.firebase := by
    intro other
    rw [serially_firebase, linear.firebase]
  have answers : ∀ other, (serially other start order).answer ⟨request, outcome⟩ =
      (app.backend.createUser request.email request.password outcome).2 := by
    intro other
    have accounts := (serially_accounts other written start order).trans linear.accounts
    exact answer_alike _ app.backend (firebase other) accounts ⟨request, outcome⟩
  have unwritten : ∀ uid, (app.backend.createUser request.email request.password outcome).2 = .user uid → written uid ≠ none := by
    intro uid accepted
    exact linear.unmade uid (answer_fresh app.backend ⟨request, outcome⟩ uid accepted).1
  refine ⟨keeps.firebase.trans linear.firebase, ?_, ?_, ?_, ?_, ?_, keeps.claimed, ?_, ?_, ?_⟩
  · rw [serially_snoc_accounts]
    exact (create_user_alike _ app.backend (firebase written) linear.accounts _ _ _).1
  · intro uid
    rw [serially_snoc_users, answers written, if_neg (fun both => unwritten uid both.1 both.2)]
    exact linear.users uid
  · apply exchange_all
    · intro call member
      exact explained_longer start order _ written call (linear.calls call member)
    · exact ⟨order, outcome, [], rfl, answers⟩
  · intro call member
    exact explained_longer start order _ written call (linear.log call member)
  · intro signUp uid data phase member
    exact keeps.done uid (linear.done signUp uid data phase member)
  · apply exchange_all
    · exact linear.pending
    · intro uid owes
      apply unwritten uid
      cases answer : (app.backend.createUser request.email request.password outcome).2 with
      | user user =>
          rw [answer] at owes
          rw [show user = uid by simpa [Call.owes] using owes]
      | error error =>
          rw [answer] at owes
          cases owes
      | noUser =>
          rw [answer] at owes
          cases owes
  · intro uid data member
    obtain ⟨⟨older, document, answered⟩, settled⟩ := linear.queue uid data member
    exact ⟨⟨older, document, answered_longer start order _ older _ answered⟩, settled⟩
  · intro uid none
    apply linear.unmade uid
    intro account
    exact none (create_user_keeps app.backend _ _ _ uid account)

theorem explained_elsewhere (call : Call) (uid : Uid) (answer : Option NSError)
    (other : ∀ signUp user data phase, call = .setData signUp user data phase → user ≠ uid)
    (explained : call.Explained start order written) :
    call.Explained start order (Function.update written uid answer) := by
  cases call with
  | signIn login request phase => trivial
  | createUser signUp request phase =>
      cases phase with
      | sent => trivial
      | executed answer => exact explained
      | received answer => exact explained
  | setData signUp user data phase =>
      obtain ⟨made, reply⟩ := explained
      refine ⟨made, ?_⟩
      intro reported place
      rw [Function.update_of_ne (other signUp user data phase rfl)]
      exact reply reported place

theorem registers_elsewhere (call : Call) (uid : Uid) (apart : call.registers uid = false) (signUp : Nat) (user : Uid)
    (data : Document) (phase : Phase (Option NSError)) (same : call = .setData signUp user data phase) : user ≠ uid := by
  rw [same] at apart
  simpa [Call.registers] using apart

theorem written_users (uid : Uid) (data : Document) (answer : Option NSError)
    (made : ∃ request, data = usersDocument request ∧ Answered start order request (.user uid)) (pending : written uid ≠ none)
    (linear : LinearInvariant start order completed app written) (user : Uid) :
    (serially (Function.update written uid answer) start order).users user = (app.backend.setData uid data answer).users user := by
  obtain ⟨request, rfl, front, outcome, back, place, answers⟩ := made
  by_cases same : user = uid
  · subst same
    cases answer with
    | some error =>
        have failed : Function.update written user (some error) user ≠ none := by simp
        rw [serially_unwritten _ start user order failed, ← serially_unwritten written start user order pending,
          set_data_rejected]
        exact linear.users user
    | none =>
        have stored : Function.update written user none user = none := by simp
        rw [place, serially_written _ start user front back ⟨request, outcome⟩ (answers _) stored, set_data_stored,
          Function.update_self]
  · have elsewhere : (app.backend.setData uid (usersDocument request) answer).users user = app.backend.users user := by
      cases answer with
      | none =>
          rw [set_data_stored]
          exact Function.update_of_ne same _ _
      | some error => rw [set_data_rejected]
    rw [serially_users_at _ written start user order (Function.update_of_ne same _ _), elsewhere]
    exact linear.users user

theorem answered_linear (uid : Uid) (data : Document) (answer : Option NSError) (keeps : app.Keeps next)
    (backend : next.backend = app.backend.setData uid data answer)
    (made : ∃ request, data = usersDocument request ∧ Answered start order request (.user uid))
    (pending : written uid ≠ none) (account : app.backend.HasAccount uid) (unfinished : ¬ app.Done uid)
    (calls : ∀ call ∈ next.calls, (call ∈ app.calls ∧ call.registers uid = false) ∨
      ∃ signUp, call = .setData signUp uid data (.executed answer))
    (queue : ∀ user other, (user, other) ∈ next.mutationQueue → (user, other) ∈ app.mutationQueue ∧ user ≠ uid)
    (linear : LinearInvariant start order completed app written) :
    LinearInvariant start order completed next (Function.update written uid answer) := by
  have accounts : next.backend.accounts = app.backend.accounts := by
    rw [backend]
    rfl
  refine ⟨keeps.firebase.trans linear.firebase, ?_, ?_, ?_, ?_, ?_, keeps.claimed, ?_, ?_, ?_⟩
  · rw [serially_accounts _ written, accounts]
    exact linear.accounts
  · rw [backend]
    exact written_users start order completed app written uid data answer made pending linear
  · intro call member
    rcases calls call member with ⟨old, apart⟩ | ⟨signUp, rfl⟩
    · exact explained_elsewhere start order written call uid answer (registers_elsewhere call uid apart) (linear.calls call old)
    · refine ⟨made, ?_⟩
      intro reported place
      rcases place with executed | received
      · rw [← Phase.executed.inj executed]
        exact Function.update_self _ _ _
      · cases received
  · intro call member
    refine explained_elsewhere start order written call uid answer ?_ (linear.log call member)
    intro signUp user document phase same
    rintro rfl
    exact unfinished (linear.done signUp user document phase (same ▸ member))
  · intro signUp user document phase member
    exact keeps.done user (linear.done signUp user document phase member)
  · intro call member user owes
    rcases calls call member with ⟨old, apart⟩ | ⟨signUp, rfl⟩
    · have elsewhere : user ≠ uid := by
        rintro rfl
        rw [owes_registers user call owes] at apart
        cases apart
      rw [Function.update_of_ne elsewhere]
      exact linear.pending call old user owes
    · cases owes
  · intro user other member
    obtain ⟨old, apart⟩ := queue user other member
    obtain ⟨document, settled⟩ := linear.queue user other old
    refine ⟨document, ?_⟩
    rw [Function.update_of_ne apart, backend]
    cases answer with
    | none =>
        rw [set_data_stored, Function.update_of_ne apart]
        exact settled
    | some error =>
        rw [set_data_rejected]
        exact settled
  · intro user none
    rw [Backend.HasAccount, accounts] at none
    have apart : user ≠ uid := by
      rintro rfl
      exact none account
    rw [Function.update_of_ne apart]
    exact linear.unmade user none

theorem written_linear (signUp : Nat) (uid : Uid) (data : Document) (answer : Option NSError)
    (inFlight : .setData signUp uid data .sent ∈ app.calls)
    (keeps : app.Keeps (((app.forget (.setData signUp uid data .sent)).send (.setData signUp uid data
      (.executed answer))).setBackend (app.backend.setData uid data answer)))
    (linear : LinearInvariant start order completed app written) :
    LinearInvariant start order completed
      (((app.forget (.setData signUp uid data .sent)).send (.setData signUp uid data (.executed answer))).setBackend
        (app.backend.setData uid data answer)) (Function.update written uid answer) := by
  have registers : Call.registers uid (.setData signUp uid data .sent) = true := by simp [Call.registers]
  obtain ⟨alone, unqueued⟩ := App.alone_registers app _ inFlight uid registers linear.claimed
  have account := linear.claimed.accounts _ inFlight uid registers
  have pending : written uid ≠ none := linear.pending _ inFlight uid (by simp [Call.owes])
  have unfinished : ¬ app.Done uid := by
    intro done
    rw [done.calls _ inFlight] at registers
    cases registers
  refine answered_linear start order completed app _ written uid data answer keeps rfl (linear.calls _ inFlight).1 pending
    account unfinished ?_ ?_ linear
  · intro call member
    rcases Multiset.mem_cons.mp member with rfl | old
    · exact .inr ⟨signUp, rfl⟩
    · exact .inl ⟨Multiset.mem_of_mem_erase old, alone call old⟩
  · intro user other member
    refine ⟨member, ?_⟩
    rintro rfl
    exact unqueued other member

theorem mutation_linear (uid : Uid) (data : Document) (answer : Option NSError) (queued : (uid, data) ∈ app.mutationQueue)
    (keeps : app.Keeps { app with
      backend := app.backend.setData uid data answer
      mutationQueue := app.mutationQueue.erase (uid, data) })
    (linear : LinearInvariant start order completed app written) :
    ∃ answered, LinearInvariant start order completed
      { app with
        backend := app.backend.setData uid data answer
        mutationQueue := app.mutationQueue.erase (uid, data) } answered := by
  obtain ⟨alone, unqueued⟩ := alone_queued app uid data queued linear.claimed
  obtain ⟨made, unwritten | stored⟩ := linear.queue uid data queued
  · refine ⟨_, answered_linear start order completed app _ written uid data answer keeps rfl made unwritten
      (linear.claimed.queued _ queued) (fun done => done.queue data queued) ?_ ?_ linear⟩
    · intro call member
      exact .inl ⟨member, alone call member⟩
    · intro user other member
      refine ⟨Multiset.mem_of_mem_erase member, ?_⟩
      rintro rfl
      exact unqueued other member
  · have users : (app.backend.setData uid data answer).users = app.backend.users := by
      cases answer with
      | none => rw [set_data_stored, ← stored, Function.update_eq_self]
      | some error => rw [set_data_rejected]
    exact ⟨written, carried_linear start order completed app _ written keeps rfl users (fun _ member => .inl member)
      (Multiset.erase_le _ _) linear⟩

theorem launched_linear (keeps : app.Keeps app.willConnect) (linear : LinearInvariant start order completed app written) :
    LinearInvariant start order completed app.willConnect written := by
  refine ⟨linear.firebase, linear.accounts, linear.users, ?_, linear.log, ?_, keeps.claimed, ?_, ?_, linear.unmade⟩
  · intro call member
    exact absurd member (Multiset.notMem_zero call)
  · intro signUp uid data phase member
    exact keeps.done uid (linear.done signUp uid data phase member)
  · intro call member
    exact absurd member (Multiset.notMem_zero call)
  · intro uid data member
    rcases Multiset.mem_add.mp member with old | new
    · exact linear.queue uid data old
    · obtain ⟨call, inFlight, unanswered⟩ := (Multiset.mem_filterMap _ _).mp new
      match call with
      | .setData signUp user document .sent =>
          obtain ⟨rfl, rfl⟩ := Prod.mk.inj (Option.some.inj unanswered)
          exact ⟨(linear.calls _ inFlight).1, .inl (linear.pending _ inFlight user (by simp [Call.owes]))⟩
      | .setData signUp user document (.executed answer) =>
          obtain ⟨rfl, rfl⟩ := Prod.mk.inj (Option.some.inj unanswered)
          obtain ⟨made, reply⟩ := linear.calls _ inFlight
          have replied : written user = answer := reply answer (.inl rfl)
          refine ⟨made, ?_⟩
          cases answer with
          | some error =>
              left
              rw [replied]
              exact Option.some_ne_none error
          | none =>
              obtain ⟨request, rfl, front, outcome, back, place, answers⟩ := made
              right
              have same := linear.users user
              rw [place, serially_written written start user front back ⟨request, outcome⟩ (answers written) replied] at same
              exact same.symm

theorem logged_linear (call : Call) (explained : call.Explained start order written)
    (done : ∀ signUp uid data phase, call = .setData signUp uid data phase → app.Done uid)
    (linear : LinearInvariant start order completed app written) :
    LinearInvariant start order (completed ++ [call]) app written := by
  refine ⟨linear.firebase, linear.accounts, linear.users, linear.calls, ?_, ?_, linear.claimed, linear.pending,
    linear.queue, linear.unmade⟩
  · intro other member
    rcases List.mem_append.mp member with old | new
    · exact linear.log other old
    · rw [List.mem_singleton.mp new]
      exact explained
  · intro signUp uid data phase member
    rcases List.mem_append.mp member with old | new
    · exact linear.done signUp uid data phase old
    · exact done signUp uid data phase (List.mem_singleton.mp new).symm

theorem ended_done (call : Call) (inFlight : call ∈ app.calls) (calls : next.calls ≤ app.calls.erase call)
    (queue : next.mutationQueue = app.mutationQueue) (accounts : next.backend.accounts = app.backend.accounts)
    (claimed : app.Claimed) (signUp : Nat) (uid : Uid) (data : Document) (phase : Phase (Option NSError))
    (same : call = .setData signUp uid data phase) : next.Done uid := by
  have registers : call.registers uid = true := by
    rw [same]
    simp [Call.registers]
  obtain ⟨alone, unqueued⟩ := alone_registers app call inFlight uid registers claimed
  refine ⟨?_, ?_, ?_⟩
  · rw [Backend.HasAccount, accounts]
    exact claimed.accounts call inFlight uid registers
  · intro other member
    exact alone other (Multiset.mem_of_le calls member)
  · rw [queue]
    exact unqueued

theorem ended_linear (call : Call) (inFlight : call ∈ app.calls) (keeps : app.Keeps next)
    (calls : next.calls = app.calls.erase call) (queue : next.mutationQueue = app.mutationQueue)
    (accounts : next.backend.accounts = app.backend.accounts) (users : next.backend.users = app.backend.users)
    (linear : LinearInvariant start order completed app written) :
    LinearInvariant start order (completed ++ app.completes (.complete call)) next written := by
  have fewer := fewer_linear start order completed app next written keeps accounts users
    (calls ▸ Multiset.erase_le call app.calls) queue linear
  rw [completes]
  split
  · exact logged_linear start order completed next written call (linear.calls call inFlight)
      (ended_done app next call inFlight (le_of_eq calls) queue accounts linear.claimed) fewer
  · rw [List.append_nil]
    exact fewer

theorem writes_linear (signUp : Nat) (request : RegisterUserRequest) (uid : Uid)
    (inFlight : .createUser signUp request (.received (.user uid)) ∈ app.calls)
    (keeps : app.Keeps ((app.forget (.createUser signUp request (.received (.user uid)))).send
      (.setData signUp uid (usersDocument request) .sent)))
    (linear : LinearInvariant start order completed app written) :
    LinearInvariant start order
      (completed ++ app.completes (.complete (.createUser signUp request (.received (.user uid)))))
      ((app.forget (.createUser signUp request (.received (.user uid)))).send
        (.setData signUp uid (usersDocument request) .sent)) written := by
  have received : app.completes (.complete (.createUser signUp request (.received (.user uid)))) =
      [.createUser signUp request (.received (.user uid))] := if_pos ⟨rfl, inFlight⟩
  rw [received]
  refine logged_linear start order completed _ written _ (linear.calls _ inFlight)
    (fun _ _ _ _ impossible => nomatch impossible) ?_
  refine exchange_linear start order completed app written _ _ app.backend inFlight keeps rfl rfl ?_ (fun _ => id) linear
  intro answered
  refine ⟨⟨request, rfl, answered⟩, ?_⟩
  intro reported place
  rcases place with executed | received
  · cases executed
  · cases received

theorem step_linear_quietly (icu : WordCharacters) (event : AppEvent) (creates : app.executes event = [])
    (linear : LinearInvariant start order completed app written) :
    ∃ answered, LinearInvariant start order (completed ++ app.completes event) (app.step icu event) answered := by
  have keeps := step_keeps app icu event linear.claimed
  have effect := step_effect icu app event
  generalize app.step icu event = after at effect keeps
  cases effect with
  | idle _ silent =>
      rw [silent, List.append_nil]
      exact ⟨written, linear⟩
  | launched =>
      simp only [completes, List.append_nil]
      exact ⟨written, launched_linear start order completed app written keeps linear⟩
  | executedCreateUser signUp request outcome inFlight =>
      rw [executes, if_pos inFlight] at creates
      cases creates
  | executedSetData signUp uid data answer inFlight =>
      simp only [completes, List.append_nil]
      exact ⟨_, written_linear start order completed app written signUp uid data answer inFlight keeps linear⟩
  | wroteMutation uid data answer queued =>
      simp only [completes, List.append_nil]
      exact mutation_linear start order completed app written uid data answer queued keeps linear
  | signInSent login form request accepted =>
      simp only [completes, List.append_nil]
      exact ⟨written, send_linear start order completed app written _ keeps trivial (fun _ => rfl) linear⟩
  | signUpSent signUp form request accepted =>
      simp only [completes, List.append_nil]
      exact ⟨written, send_linear start order completed app written _ keeps trivial (fun _ => rfl) linear⟩
  | executedSignIn login request answer inFlight =>
      simp only [completes, List.append_nil]
      exact ⟨written, exchange_linear start order completed app written _ _ app.backend inFlight keeps rfl rfl id
        (fun _ => id) linear⟩
  | receivedSignIn login request answer inFlight =>
      simp only [completes, List.append_nil]
      obtain ⟨session, same⟩ := after_sign_in_session app.backend answer
      rw [same] at keeps ⊢
      exact ⟨written, exchange_linear start order completed app written _ _ (app.backend.setCurrentUser session) inFlight
        keeps rfl rfl id (fun _ => id) linear⟩
  | receivedCreateUser signUp request answer inFlight =>
      simp only [completes, List.append_nil]
      obtain ⟨session, same⟩ := after_create_user_session app.backend answer
      rw [same] at keeps ⊢
      refine ⟨written, exchange_linear start order completed app written _ _ (app.backend.setCurrentUser session) inFlight
        keeps rfl rfl id ?_ linear⟩
      cases answer <;> exact fun _ => id
  | receivedSetData signUp uid data answer inFlight =>
      simp only [completes, List.append_nil]
      refine ⟨written, exchange_linear start order completed app written _ _ app.backend inFlight keeps rfl rfl ?_
        (fun _ impossible => nomatch impossible) linear⟩
      intro explained
      refine ⟨explained.1, ?_⟩
      intro reported place
      rcases place with executed | received
      · cases executed
      · exact explained.2 reported (.inl (congrArg Phase.executed (Phase.received.inj received)))
  | writes signUp request uid inFlight =>
      exact ⟨written, writes_linear start order completed app written signUp request uid inFlight keeps linear⟩
  | signedIn login request user inFlight reached =>
      exact ⟨written, ended_linear start order completed app _ written _ inFlight keeps rfl rfl rfl rfl linear⟩
  | registered signUp uid data inFlight top =>
      exact ⟨written, ended_linear start order completed app _ written _ inFlight keeps rfl rfl rfl rfl linear⟩
  | reported call inFlight alert reports =>
      exact ⟨written, ended_linear start order completed app _ written _ inFlight keeps rfl rfl rfl rfl linear⟩
  | unheard call inFlight =>
      exact ⟨written, ended_linear start order completed app _ written _ inFlight keeps rfl rfl rfl rfl linear⟩
  | _ =>
      simp only [completes, List.append_nil]
      exact ⟨written, fewer_linear start order completed app _ written keeps rfl rfl (le_refl _) rfl linear⟩

theorem executes_cases (event : AppEvent) : app.executes event = [] ∨
    ∃ signUp request outcome, event = .executeCreateUser signUp request outcome ∧
      .createUser signUp request .sent ∈ app.calls := by
  cases event with
  | executeCreateUser signUp request outcome =>
      by_cases inFlight : .createUser signUp request .sent ∈ app.calls
      · exact .inr ⟨signUp, request, outcome, rfl, inFlight⟩
      · exact .inl (if_neg inFlight)
  | _ => exact .inl rfl

theorem step_linear (icu : WordCharacters) (event : AppEvent) (linear : LinearInvariant start order completed app written) :
    ∃ answered, LinearInvariant start (order ++ app.executes event) (completed ++ app.completes event) (app.step icu event)
      answered := by
  rcases executes_cases app event with quiet | ⟨signUp, request, outcome, rfl, inFlight⟩
  · rw [quiet, List.append_nil]
    exact step_linear_quietly start order completed app written icu event quiet linear
  · have keeps := step_keeps app icu (.executeCreateUser signUp request outcome) linear.claimed
    have stepped : app.step icu (.executeCreateUser signUp request outcome) =
        (((app.forget (.createUser signUp request .sent)).send (.createUser signUp request (.executed
          (app.backend.createUser request.email request.password outcome).2))).setBackend
          (app.backend.createUser request.email request.password outcome).1) := if_pos inFlight
    rw [stepped] at keeps ⊢
    rw [executes, if_pos inFlight]
    simp only [completes, List.append_nil]
    exact ⟨written, created_linear start order completed app written signUp request outcome keeps linear⟩

end Steps

theorem run_linear (icu : WordCharacters) (backend : Backend) (events : List AppEvent) :
    ∃ written, LinearInvariant backend (executions icu (App.scene backend) events)
      (completed icu (App.scene backend) events) (run (App.step icu) (App.scene backend) events) written := by
  induction events using List.reverseRecOn with
  | nil =>
      refine ⟨fun _ => some ⟨"lost"⟩, rfl, rfl, fun _ => rfl, ?_, ?_, ?_, App.scene_claimed backend, ?_, ?_, ?_⟩
      · intro call member
        exact absurd member (Multiset.notMem_zero call)
      · intro call member
        exact absurd member List.not_mem_nil
      · intro signUp uid data phase member
        exact absurd member List.not_mem_nil
      · intro call member
        exact absurd member (Multiset.notMem_zero call)
      · intro uid data member
        exact absurd member (Multiset.notMem_zero _)
      · intro uid _ impossible
        cases impossible
  | append_singleton events event ih =>
      obtain ⟨written, linear⟩ := ih
      rw [executions, completed, outputs_append, outputs_append, run_append]
      simp only [outputs, List.append_nil]
      exact step_linear backend _ _ _ written icu event linear

-- However the registrations of a run overlap, with sign-ins, with each other and with
-- cold launches, accounts, documents and reports are those of running them one by one.
theorem registrations_linearise (icu : WordCharacters) (backend : Backend) (events : List AppEvent) :
    ∃ written, Linearised backend (executions icu (App.scene backend) events) (completed icu (App.scene backend) events)
      (run (App.step icu) (App.scene backend) events) written := by
  obtain ⟨written, linear⟩ := run_linear icu backend events
  refine ⟨written, linear.accounts, linear.users, linear.calls, ?_⟩
  intro call member
  exact explained_reports backend _ written call (linear.log call member)

end DuplicatedApps
