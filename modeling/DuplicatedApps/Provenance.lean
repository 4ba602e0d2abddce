import DuplicatedApps.Effects
import DuplicatedApps.Submission

set_option autoImplicit false

namespace DuplicatedApps

open Runs Validator

def RegisterUserRequest.Checked (icu : WordCharacters) (request : RegisterUserRequest) : Prop :=
  isValidUsername icu request.username = true ∧ isValidEmail request.email = true ∧
    isPasswordValid request.password = true

def LoginUserRequest.Checked (request : LoginUserRequest) : Prop :=
  isValidEmail request.email = true ∧ isPasswordValid request.password = true

section Sources

variable (accepts : RegisterUserRequest → Prop) (signs : LoginUserRequest → Prop)

structure Backend.Made (backend : Backend) (uid : Uid) (request : RegisterUserRequest) : Prop where
  accepted : accepts request
  account : ⟨uid, request.email, request.password⟩ ∈ backend.accounts

def Call.Sourced (backend : Backend) : Call → Prop
  | .signIn _ request _ => signs request
  | .createUser _ request phase =>
      accepts request ∧ ∀ uid, phase = .executed (.user uid) ∨ phase = .received (.user uid) → backend.Made accepts uid request
  | .setData _ uid data _ => ∃ request, backend.Made accepts uid request ∧ data = usersDocument request

namespace App

structure Sourced (start : Backend) (app : App) : Prop where
  calls : ∀ call ∈ app.calls, call.Sourced accepts signs app.backend
  accounts : ∀ account ∈ app.backend.accounts, account ∈ start.accounts ∨
    ∃ request, accepts request ∧ account.email = request.email ∧ account.password = request.password
  documents : ∀ uid data, app.backend.users uid = some data → start.users uid = some data ∨
    ∃ request, app.backend.Made accepts uid request ∧ data = usersDocument request
  queue : ∀ uid data, (uid, data) ∈ app.mutationQueue → ∃ request, app.backend.Made accepts uid request ∧ data = usersDocument request

variable (start : Backend) (app next : App)

theorem made_later (one other : Backend) (more : ∀ account ∈ one.accounts, account ∈ other.accounts) (uid : Uid)
    (request : RegisterUserRequest) (made : one.Made accepts uid request) : other.Made accepts uid request :=
  ⟨made.accepted, more _ made.account⟩

theorem sourced_later (one other : Backend) (more : ∀ account ∈ one.accounts, account ∈ other.accounts) (call : Call)
    (sourced : call.Sourced accepts signs one) : call.Sourced accepts signs other := by
  cases call with
  | signIn login request phase => exact sourced
  | createUser signUp request phase =>
      refine ⟨sourced.1, ?_⟩
      intro uid answered
      exact made_later accepts one other more uid request (sourced.2 uid answered)
  | setData signUp uid data phase =>
      obtain ⟨request, made, same⟩ := sourced
      exact ⟨request, made_later accepts one other more uid request made, same⟩

theorem carried_sourced (accounts : next.backend.accounts = app.backend.accounts)
    (users : next.backend.users = app.backend.users) (queue : next.mutationQueue = app.mutationQueue)
    (calls : ∀ call ∈ next.calls, call ∈ app.calls ∨ call.Sourced accepts signs app.backend) (sourced : app.Sourced accepts signs start) :
    next.Sourced accepts signs start := by
  have more : ∀ account ∈ app.backend.accounts, account ∈ next.backend.accounts := by
    intro account member
    rw [accounts]
    exact member
  refine ⟨?_, ?_, ?_, ?_⟩
  · intro call member
    rcases calls call member with old | new
    · exact sourced_later accepts signs app.backend next.backend more call (sourced.calls call old)
    · exact sourced_later accepts signs app.backend next.backend more call new
  · rw [accounts]
    exact sourced.accounts
  · intro uid data present
    rw [users] at present
    rcases sourced.documents uid data present with before | ⟨request, made, same⟩
    · exact .inl before
    · exact .inr ⟨request, made_later accepts app.backend next.backend more uid request made, same⟩
  · intro uid data queued
    rw [queue] at queued
    obtain ⟨request, made, same⟩ := sourced.queue uid data queued
    exact ⟨request, made_later accepts app.backend next.backend more uid request made, same⟩

theorem fewer_sourced (accounts : next.backend.accounts = app.backend.accounts)
    (users : next.backend.users = app.backend.users) (queue : next.mutationQueue = app.mutationQueue)
    (fewer : next.calls ≤ app.calls) (sourced : app.Sourced accepts signs start) : next.Sourced accepts signs start :=
  carried_sourced accepts signs start app next accounts users queue (fun _ member => .inl (Multiset.mem_of_le fewer member))
    sourced

theorem send_sourced (call : Call) (passed : call.Sourced accepts signs app.backend) (sourced : app.Sourced accepts signs start) :
    (app.send call).Sourced accepts signs start := by
  refine carried_sourced accepts signs start app _ rfl rfl rfl ?_ sourced
  intro other member
  rcases Multiset.mem_cons.mp member with rfl | old
  · exact .inr passed
  · exact .inl old

theorem exchange_sourced (call new : Call) (backend : Backend) (inFlight : call ∈ app.calls)
    (accounts : backend.accounts = app.backend.accounts) (users : backend.users = app.backend.users)
    (passed : call.Sourced accepts signs app.backend → new.Sourced accepts signs app.backend) (sourced : app.Sourced accepts signs start) :
    (((app.forget call).send new).setBackend backend).Sourced accepts signs start := by
  refine carried_sourced accepts signs start app _ accounts users rfl ?_ sourced
  intro other member
  rcases Multiset.mem_cons.mp member with rfl | old
  · exact .inr (passed (sourced.calls call inFlight))
  · exact .inl (Multiset.mem_of_mem_erase old)

theorem created_sourced (signUp : Nat) (request : RegisterUserRequest) (outcome : CreateUserResult)
    (inFlight : .createUser signUp request .sent ∈ app.calls) (sourced : app.Sourced accepts signs start) :
    (((app.forget (.createUser signUp request .sent)).send (.createUser signUp request (.executed
      (app.backend.createUser request.email request.password outcome).2))).setBackend
      (app.backend.createUser request.email request.password outcome).1).Sourced accepts signs start := by
  have passed := (sourced.calls _ inFlight).1
  rcases create_user_cases app.backend request.email request.password outcome with accepted | refused
  · obtain ⟨user, _, _, answer⟩ := accepted
    rw [answer]
    have more : ∀ account ∈ app.backend.accounts,
        account ∈ (⟨user, request.email, request.password⟩ : Account) :: app.backend.accounts := by
      intro account member
      exact List.mem_cons_of_mem _ member
    refine ⟨?_, ?_, ?_, ?_⟩
    · apply exchange_all
      · intro call member
        exact sourced_later accepts signs app.backend _ more call (sourced.calls call member)
      · refine ⟨passed, ?_⟩
        intro uid answered
        refine ⟨passed, ?_⟩
        rcases answered with executed | received
        · obtain rfl := CreateUserResult.user.inj (Phase.executed.inj executed)
          exact List.mem_cons_self
        · cases received
    · intro account member
      rcases List.mem_cons.mp member with rfl | old
      · exact .inr ⟨request, passed, rfl, rfl⟩
      · exact sourced.accounts account old
    · intro uid data present
      rcases sourced.documents uid data present with before | ⟨other, made, same⟩
      · exact .inl before
      · exact .inr ⟨other, made_later accepts app.backend _ more uid other made, same⟩
    · intro uid data queued
      obtain ⟨other, made, same⟩ := sourced.queue uid data queued
      exact ⟨other, made_later accepts app.backend _ more uid other made, same⟩
  · obtain ⟨_, same, failed⟩ := refused
    rw [same]
    refine exchange_sourced accepts signs start app _ _ _ inFlight rfl rfl ?_ sourced
    intro _
    refine ⟨passed, ?_⟩
    intro uid answered
    rcases answered with executed | received
    · exact absurd (Phase.executed.inj executed) (failed uid)
    · cases received

theorem set_data_documents (uid user : Uid) (data document : Document) (answer : Option NSError)
    (present : (app.backend.setData uid data answer).users user = some document) :
    app.backend.users user = some document ∨ user = uid ∧ document = data := by
  cases answer with
  | some error =>
      rw [set_data_rejected] at present
      exact .inl present
  | none =>
      rw [set_data_stored] at present
      by_cases own : user = uid
      · subst own
        rw [Function.update_self] at present
        exact .inr ⟨rfl, (Option.some.inj present).symm⟩
      · rw [Function.update_of_ne own] at present
        exact .inl present

theorem written_sourced (uid : Uid) (data : Document) (answer : Option NSError)
    (passed : ∃ request, app.backend.Made accepts uid request ∧ data = usersDocument request)
    (backend : next.backend = app.backend.setData uid data answer)
    (calls : ∀ call ∈ next.calls, call.Sourced accepts signs app.backend)
    (queue : ∀ mutation ∈ next.mutationQueue, mutation ∈ app.mutationQueue) (sourced : app.Sourced accepts signs start) :
    next.Sourced accepts signs start := by
  have same : ∀ account ∈ app.backend.accounts, account ∈ next.backend.accounts := by
    intro account member
    rw [backend]
    exact member
  refine ⟨?_, ?_, ?_, ?_⟩
  · intro call member
    exact sourced_later accepts signs app.backend next.backend same call (calls call member)
  · rw [backend]
    exact sourced.accounts
  · intro user document present
    rw [backend] at present
    rcases set_data_documents app uid user data document answer present with before | ⟨rfl, rfl⟩
    · rcases sourced.documents user document before with older | ⟨request, made, written⟩
      · exact .inl older
      · exact .inr ⟨request, made_later accepts app.backend next.backend same user request made, written⟩
    · obtain ⟨request, made, written⟩ := passed
      exact .inr ⟨request, made_later accepts app.backend next.backend same user request made, written⟩
  · intro user document queued
    obtain ⟨request, made, written⟩ := sourced.queue user document (queue _ queued)
    exact ⟨request, made_later accepts app.backend next.backend same user request made, written⟩

theorem launched_sourced (sourced : app.Sourced accepts signs start) : app.willConnect.Sourced accepts signs start := by
  refine ⟨?_, sourced.accounts, sourced.documents, ?_⟩
  · intro call member
    exact absurd member (Multiset.notMem_zero call)
  · intro uid data queued
    rcases Multiset.mem_add.mp queued with old | new
    · exact sourced.queue uid data old
    · obtain ⟨call, inFlight, unanswered⟩ := (Multiset.mem_filterMap _ _).mp new
      have passed := sourced.calls call inFlight
      match call with
      | .setData signUp user document .sent =>
          obtain ⟨rfl, rfl⟩ := Prod.mk.inj (Option.some.inj unanswered)
          exact passed
      | .setData signUp user document (.executed answer) =>
          obtain ⟨rfl, rfl⟩ := Prod.mk.inj (Option.some.inj unanswered)
          exact passed

theorem step_sourced (icu : WordCharacters) (event : AppEvent)
    (signsUp : ∀ form request, event = .didTapSignUp form → didTapSignUpAction icu form = .submit request → accepts request)
    (signsIn : ∀ form request, event = .didTapSignIn form → didTapSignInAction form = .submit request → signs request)
    (sourced : app.Sourced accepts signs start) : (app.step icu event).Sourced accepts signs start := by
  have effect := step_effect icu app event
  generalize app.step icu event = after at effect
  cases effect with
  | signInSent login form request accepted =>
      have passed := signsIn form request rfl accepted
      exact send_sourced accepts signs start app _ passed sourced
  | signUpSent signUp form request accepted =>
      have passed := signsUp form request rfl accepted
      refine send_sourced accepts signs start app _ ⟨passed, ?_⟩ sourced
      intro uid answered
      rcases answered with executed | received
      · cases executed
      · cases received
  | executedSignIn login request answer inFlight =>
      exact exchange_sourced accepts signs start app _ _ app.backend inFlight rfl rfl id sourced
  | executedCreateUser signUp request outcome inFlight =>
      exact created_sourced accepts signs start app signUp request outcome inFlight sourced
  | executedSetData signUp uid data answer inFlight =>
      have passed := sourced.calls _ inFlight
      refine written_sourced accepts signs start app _ uid data answer passed rfl ?_ (fun _ => id) sourced
      exact exchange_all app.calls _ _ (fun call => call.Sourced accepts signs app.backend) sourced.calls passed
  | receivedSignIn login request answer inFlight =>
      obtain ⟨session, same⟩ := after_sign_in_session app.backend answer
      rw [same]
      exact exchange_sourced accepts signs start app _ _ (app.backend.setCurrentUser session) inFlight rfl rfl id sourced
  | receivedCreateUser signUp request answer inFlight =>
      obtain ⟨session, same⟩ := after_create_user_session app.backend answer
      rw [same]
      refine exchange_sourced accepts signs start app _ _ (app.backend.setCurrentUser session) inFlight rfl rfl ?_ sourced
      intro passed
      refine ⟨passed.1, ?_⟩
      intro uid answered
      rcases answered with executed | received
      · cases executed
      · exact passed.2 uid (.inl (congrArg Phase.executed (Phase.received.inj received)))
  | receivedSetData signUp uid data answer inFlight =>
      exact exchange_sourced accepts signs start app _ _ app.backend inFlight rfl rfl id sourced
  | writes signUp request uid inFlight =>
      refine exchange_sourced accepts signs start app _ _ app.backend inFlight rfl rfl ?_ sourced
      intro passed
      exact ⟨request, passed.2 uid (.inr rfl), rfl⟩
  | launched => exact launched_sourced accepts signs start app sourced
  | wroteMutation uid data answer queued =>
      refine written_sourced accepts signs start app _ uid data answer (sourced.queue uid data queued) rfl sourced.calls ?_ sourced
      exact fun _ member => Multiset.mem_of_mem_erase member
  | signedIn login request user inFlight reached =>
      exact fewer_sourced accepts signs start app _ rfl rfl rfl (Multiset.erase_le _ _) sourced
  | registered signUp uid data inFlight top => exact fewer_sourced accepts signs start app _ rfl rfl rfl (Multiset.erase_le _ _) sourced
  | reported call inFlight alert reports => exact fewer_sourced accepts signs start app _ rfl rfl rfl (Multiset.erase_le _ _) sourced
  | unheard call inFlight => exact fewer_sourced accepts signs start app _ rfl rfl rfl (Multiset.erase_le _ _) sourced
  | _ => exact fewer_sourced accepts signs start app _ rfl rfl rfl (le_refl _) sourced

theorem weaker_sourced (more : RegisterUserRequest → Prop) (weaker : ∀ request, accepts request → more request)
    (sourced : app.Sourced accepts signs start) : app.Sourced more signs start := by
  have made : ∀ uid request, app.backend.Made accepts uid request → app.backend.Made more uid request := by
    intro uid request made
    exact ⟨weaker request made.accepted, made.account⟩
  refine ⟨?_, ?_, ?_, ?_⟩
  · intro call member
    have before := sourced.calls call member
    cases call with
    | signIn login request phase => exact before
    | createUser signUp request phase => exact ⟨weaker request before.1, fun uid answered => made uid request (before.2 uid answered)⟩
    | setData signUp uid data phase =>
        obtain ⟨request, own, same⟩ := before
        exact ⟨request, made uid request own, same⟩
  · intro account member
    rcases sourced.accounts account member with older | ⟨request, accepted, email, password⟩
    · exact .inl older
    · exact .inr ⟨request, weaker request accepted, email, password⟩
  · intro uid data present
    rcases sourced.documents uid data present with older | ⟨request, own, same⟩
    · exact .inl older
    · exact .inr ⟨request, made uid request own, same⟩
  · intro uid data queued
    obtain ⟨request, own, same⟩ := sourced.queue uid data queued
    exact ⟨request, made uid request own, same⟩

end App

end Sources

theorem scene_sourced (accepts : RegisterUserRequest → Prop) (signs : LoginUserRequest → Prop) (backend : Backend) :
    (App.scene backend).Sourced accepts signs backend := by
  refine ⟨?_, ?_, ?_, ?_⟩
  · intro call member
    exact absurd member (Multiset.notMem_zero call)
  · intro account member
    exact .inl member
  · intro uid data present
    exact .inl present
  · intro uid data queued
    exact absurd queued (Multiset.notMem_zero _)

theorem backend_holds_checked_forms (icu : WordCharacters) (backend : Backend) (events : List AppEvent) :
    (run (App.step icu) (App.scene backend) events).Sourced (RegisterUserRequest.Checked icu) LoginUserRequest.Checked
      backend := by
  apply invariant_run (App.step icu) (App.Sourced (RegisterUserRequest.Checked icu) LoginUserRequest.Checked backend)
  · intro app event sourced
    refine App.step_sourced _ _ backend app icu event ?_ ?_ sourced
    · intro form request _ accepted
      exact ((sign_up_submits_iff icu form request).mp accepted).1
    · intro form request _ accepted
      exact ((sign_in_submits_iff form request).mp accepted).1
  · exact scene_sourced _ _ backend

def Call.success : Call → Option Uid
  | .signIn _ _ (.executed (.user uid)) => some uid
  | .createUser _ _ (.executed (.user uid)) => some uid
  | _ => none

def Call.signedInUser : Call → Option Uid
  | .signIn _ _ (.received (.user uid)) => some uid
  | _ => none

namespace App

def signsIn (app : App) : AppEvent → List Uid
  | .receive call => if call ∈ app.calls then call.success.toList else []
  | _ => []

structure Earned (start : Backend) (users : List Uid) (app : App) : Prop where
  current : app.backend.currentUser = users.getLast?.or start.currentUser
  session : ∀ user, app.userSession = some user → user ∈ users ∨ start.currentUser = some user
  calls : ∀ call ∈ app.calls, ∀ user, call.signedInUser = some user → user ∈ users
  tabs : .tabController ∈ app.viewControllers ∨ .tabController ∈ app.transitions → users ≠ [] ∨ start.currentUser ≠ none

section Earning

variable (start : Backend) (users : List Uid) (app next : App)

theorem carried_earned (current : next.backend.currentUser = app.backend.currentUser)
    (session : next.userSession = app.userSession)
    (calls : ∀ call ∈ next.calls, call ∈ app.calls ∨ call.signedInUser = none)
    (screens : .tabController ∈ next.viewControllers → .tabController ∈ app.viewControllers)
    (transitions : next.transitions = app.transitions) (earned : app.Earned start users) : next.Earned start users := by
  refine ⟨current.trans earned.current, ?_, ?_, ?_⟩
  · rw [session]
    exact earned.session
  · intro call member user signed
    rcases calls call member with old | none
    · exact earned.calls call old user signed
    · rw [none] at signed
      cases signed
  · rw [transitions]
    intro shown
    exact earned.tabs (shown.imp_left screens)

theorem send_earned (call : Call) (none : call.signedInUser = none) (earned : app.Earned start users) :
    (app.send call).Earned start users := by
  refine carried_earned start users app _ rfl rfl ?_ id rfl earned
  intro other member
  rcases Multiset.mem_cons.mp member with rfl | old
  · exact .inr none
  · exact .inl old

theorem forget_earned (call : Call) (earned : app.Earned start users) : (app.forget call).Earned start users :=
  carried_earned start users app _ rfl rfl (fun _ member => .inl (Multiset.mem_of_mem_erase member)) id rfl earned

theorem exchange_earned (call new : Call) (backend : Backend) (current : backend.currentUser = app.backend.currentUser)
    (none : new.signedInUser = none) (earned : app.Earned start users) :
    (((app.forget call).send new).setBackend backend).Earned start users := by
  have sent := send_earned start users (app.forget call) new none (forget_earned start users app call earned)
  exact carried_earned start users ((app.forget call).send new) _ current rfl (fun _ => .inl) id rfl sent

theorem checked_earned (earned : app.Earned start users) : app.checkAuthentication.Earned start users := by
  have known : ∀ user, app.backend.currentUser = some user → user ∈ users ∨ start.currentUser = some user := by
    intro user now
    rw [earned.current] at now
    cases last : users.getLast? with
    | some other =>
        rw [last] at now
        obtain rfl : other = user := Option.some.inj now
        exact .inl (List.mem_of_getLast? last)
    | none =>
        rw [last] at now
        exact .inr now
  refine ⟨earned.current, known, earned.calls, ?_⟩
  intro shown
  rcases shown with screen | pending
  · exact earned.tabs (.inl screen)
  · rcases Multiset.mem_cons.mp pending with root | old
    · cases now : app.backend.currentUser with
      | none =>
          rw [now] at root
          cases root
      | some user =>
          rcases known user now with received | before
          · exact .inl (List.ne_nil_of_mem received)
          · exact .inr (by simp [before])
    · exact earned.tabs (.inr old)

theorem launched_earned (earned : app.Earned start users) : (scene app.backend).Earned start users := by
  apply checked_earned
  refine ⟨earned.current, ?_, ?_, ?_⟩
  · intro user none
    cases none
  · intro call member
    exact absurd member (Multiset.notMem_zero call)
  · intro shown
    rcases shown with screen | pending
    · cases List.mem_singleton.mp screen
    · exact absurd pending (Multiset.notMem_zero _)

theorem received_earned (call new : Call) (user : Uid) (signed : ∀ other, new.signedInUser = some other → other = user)
    (earned : app.Earned start users) :
    (((app.forget call).send new).setBackend (app.backend.setCurrentUser (some user))).Earned start (users ++ [user]) := by
  refine ⟨?_, ?_, ?_, ?_⟩
  · rw [List.getLast?_concat]
    rfl
  · intro other session
    exact (earned.session other session).imp_left (List.mem_append_left _)
  · intro other member someone found
    rcases Multiset.mem_cons.mp member with rfl | old
    · rw [signed someone found]
      exact List.mem_append_right _ (List.mem_singleton_self _)
    · exact List.mem_append_left _ (earned.calls other (Multiset.mem_of_mem_erase old) someone found)
  · intro _
    exact .inl (by simp)

theorem step_earned_quietly (icu : WordCharacters) (event : AppEvent) (none : app.signsIn event = [])
    (earned : app.Earned start users) : (app.step icu event).Earned start users := by
  have effect := step_effect icu app event
  generalize app.step icu event = after at effect
  cases effect with
  | idle => exact earned
  | launched =>
      have launched := launched_earned start users app earned
      exact ⟨launched.current, launched.session, launched.calls, launched.tabs⟩
  | getStarted top =>
      refine carried_earned start users app _ rfl rfl (fun _ member => .inl member) ?_ rfl earned
      intro member
      simpa [pushViewController] using member
  | createAccount login top =>
      refine carried_earned start users app _ rfl rfl (fun _ member => .inl member) ?_ rfl earned
      intro member
      simpa [pushViewController] using member
  | poppedLogin login top =>
      exact carried_earned start users app _ rfl rfl (fun _ member => .inl member) (fun member => List.dropLast_subset _ member)
        rfl earned
  | poppedSignUp signUp top =>
      exact carried_earned start users app _ rfl rfl (fun _ member => .inl member) (fun member => List.dropLast_subset _ member)
        rfl earned
  | signInRefused form alert refused => exact carried_earned start users app _ rfl rfl (fun _ => .inl) id rfl earned
  | signUpRefused form alert refused => exact carried_earned start users app _ rfl rfl (fun _ => .inl) id rfl earned
  | signInSent login form request accepted => exact send_earned start users app _ rfl earned
  | signUpSent signUp form request accepted => exact send_earned start users app _ rfl earned
  | executedSignIn login request answer inFlight => exact exchange_earned start users app _ _ app.backend rfl rfl earned
  | executedCreateUser signUp request outcome inFlight =>
      exact exchange_earned start users app _ _ _ rfl rfl earned
  | executedSetData signUp uid data answer inFlight =>
      exact exchange_earned start users app _ _ _ rfl rfl earned
  | receivedSignIn login request answer inFlight =>
      cases answer with
      | error error => exact exchange_earned start users app _ _ app.backend rfl rfl earned
      | user user =>
          rw [signsIn, if_pos inFlight] at none
          cases none
  | receivedCreateUser signUp request answer inFlight =>
      cases answer with
      | error error => exact exchange_earned start users app _ _ app.backend rfl rfl earned
      | noUser => exact exchange_earned start users app _ _ app.backend rfl rfl earned
      | user user =>
          rw [signsIn, if_pos inFlight] at none
          cases none
  | receivedSetData signUp uid data answer inFlight =>
      exact exchange_earned start users app _ _ app.backend rfl rfl earned
  | signedIn login request user inFlight reached =>
      have forgotten := forget_earned start users app (.signIn login request (.received (.user user))) earned
      refine ⟨forgotten.current, forgotten.session, forgotten.calls, ?_⟩
      intro _
      exact .inl (List.ne_nil_of_mem (earned.calls _ inFlight user rfl))
  | writes signUp request uid inFlight => exact exchange_earned start users app _ _ app.backend rfl rfl earned
  | registered signUp uid data inFlight top =>
      exact checked_earned start users (app.forget _) (forget_earned start users app _ earned)
  | reported call inFlight alert reports =>
      exact carried_earned start users (app.forget call) _ rfl rfl (fun _ => .inl) id rfl (forget_earned start users app call earned)
  | unheard call inFlight => exact forget_earned start users app call earned
  | shown controller pending =>
      refine ⟨earned.current, earned.session, earned.calls, ?_⟩
      intro shown
      apply earned.tabs
      rcases shown with screen | later
      · rw [List.mem_singleton.mp screen]
        exact .inr pending
      · exact .inr (Multiset.mem_of_mem_erase later)
  | wroteMutation uid data answer queued => exact carried_earned start users app _ rfl rfl (fun _ => .inl) id rfl earned

theorem step_earned (icu : WordCharacters) (event : AppEvent) (earned : app.Earned start users) :
    (app.step icu event).Earned start (users ++ app.signsIn event) := by
  by_cases none : app.signsIn event = []
  · rw [none, List.append_nil]
    exact step_earned_quietly start users app icu event none earned
  · cases event with
    | receive call =>
        by_cases inFlight : call ∈ app.calls
        · rw [signsIn, if_pos inFlight] at none ⊢
          cases call with
          | signIn login request state =>
              cases state with
              | executed answer =>
                  cases answer with
                  | user user =>
                      rw [step, receive_sign_in app login request _ inFlight]
                      exact received_earned start users app _ _ user (fun _ same => (Option.some.inj same).symm) earned
                  | error error => exact absurd rfl none
              | _ => exact absurd rfl none
          | createUser signUp request state =>
              cases state with
              | executed answer =>
                  cases answer with
                  | user user =>
                      rw [step, receive_create_user app signUp request _ inFlight]
                      exact received_earned start users app _ _ user (fun _ same => by cases same) earned
                  | _ => exact absurd rfl none
              | _ => exact absurd rfl none
          | setData signUp uid data state => exact absurd rfl none
        · exact absurd (if_neg inFlight) none
    | _ => exact absurd rfl none

end Earning

end App

-- Whoever's success was received last is the current user, and neither a userSession nor
-- a TabController is there without one: no interleaving lets anybody in unanswered.
theorem session_is_earned (icu : WordCharacters) (backend : Backend) (events : List AppEvent) :
    (run (App.step icu) (App.scene backend) events).Earned backend
      (outputs (App.step icu) App.signsIn (App.scene backend) events) := by
  apply invariant_outputs (App.step icu) App.signsIn (App.Earned backend)
  · intro users app event earned
    exact App.step_earned backend users app icu event earned
  · apply App.launched_earned backend [] ⟨backend, none, [], 0, 0, 0, [], 0⟩
    refine ⟨rfl, ?_, ?_, ?_⟩
    · intro user none
      cases none
    · intro call member
      exact absurd member (Multiset.notMem_zero call)
    · intro shown
      rcases shown with screen | pending
      · cases screen
      · exact absurd pending (Multiset.notMem_zero _)

end DuplicatedApps
