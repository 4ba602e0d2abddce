import DuplicatedApps.App

set_option autoImplicit false

namespace DuplicatedApps

open Runs

namespace App

-- Signed in: that user's session under a TabController and nothing of the entry
-- screens. Signed out: no session and no TabController.
structure SessionAgrees (app : App) : Prop where
  signedIn : ∀ user, app.backend.currentUser = some user → app.userSession = some user ∧
    app.viewControllers.head? = some .tabController ∧ ∀ screen ∈ app.viewControllers, screen = .tabController
  signedOut : app.backend.currentUser = none → app.userSession = none ∧ .tabController ∉ app.viewControllers

def unfinished : Call → Bool
  | .signIn _ _ (.received (.user _)) => true
  | .signIn _ _ _ => false
  | .createUser .. => true
  | .setData .. => true

def Unfinished (app : App) : Prop := ∃ call ∈ app.calls, unfinished call = true

def signedInLogin : Call → Option Nat
  | .signIn login _ (.received (.user _)) => some login
  | _ => none

def endsUnchecked (app : App) : Call → Bool
  | .signIn _ _ (.received (.user _)) => true
  | .createUser _ request (.received answer) =>
      match createUserCallback request answer with
      | .completion _ _ => true
      | .setData _ _ => false
  | .setData signUp _ _ (.received answer) => answer.isSome || app.topViewController != some (.signUp signUp)
  | _ => false

def CompleteKeeps (app : App) (call : Call) : Prop :=
  call ∈ app.calls →
    (∀ login ∈ signedInLogin call, .login login ∉ app.viewControllers ∨ app.transitions ≠ 0) ∧
    (app.endsUnchecked call = true → app.userSession = app.backend.currentUser ∨ (app.forget call).Unfinished)

def TransitionKeeps (app : App) (controller : Screen) : Prop :=
  app.transitions = {controller} → (controller = .tabController ↔ app.userSession ≠ none)

def KeepsAgreement (app : App) : AppEvent → Prop
  | .complete call => app.CompleteKeeps call
  | .rootTransition controller => app.TransitionKeeps controller
  | _ => True

instance (app : App) : Decidable app.Unfinished := Multiset.decidableExistsMultiset

instance (app : App) (call : Call) : Decidable (app.CompleteKeeps call) :=
  inferInstanceAs (Decidable
    (call ∈ app.calls →
      (∀ login ∈ signedInLogin call, .login login ∉ app.viewControllers ∨ app.transitions ≠ 0) ∧
      (app.endsUnchecked call = true → app.userSession = app.backend.currentUser ∨ (app.forget call).Unfinished)))

instance (app : App) (controller : Screen) : Decidable (app.TransitionKeeps controller) :=
  inferInstanceAs (Decidable
    (app.transitions = {controller} → (controller = .tabController ↔ app.userSession ≠ none)))

instance (app : App) (event : AppEvent) : Decidable (app.KeepsAgreement event) :=
  match event with
  | .complete call => inferInstanceAs (Decidable (app.CompleteKeeps call))
  | .rootTransition controller => inferInstanceAs (Decidable (app.TransitionKeeps controller))
  | .willConnect | .didTapGetStarted | .handleCreateAccountTap | .didTapSignIn _ | .didTapSignUp _
  | .popViewController | .executeSignIn .. | .executeCreateUser .. | .executeSetData .. | .receive _
  | .writeMutation .. =>
      inferInstanceAs (Decidable True)

structure SessionInvariant (app : App) : Prop where
  session : app.userSession = app.backend.currentUser ∨ app.Unfinished
  signedIn : app.transitions = 0 → app.userSession ≠ none → app.viewControllers = [.tabController]
  signedOut : app.transitions = 0 → app.userSession = none → .tabController ∉ app.viewControllers

theorem invariant_agrees (app : App) (invariant : app.SessionInvariant) (quiescent : app.Quiescent) :
    app.SessionAgrees := by
  obtain ⟨noCalls, noTransitions⟩ := quiescent
  have same : app.userSession = app.backend.currentUser := by
    rcases invariant.session with same | waiting
    · exact same
    · obtain ⟨call, member, _⟩ := waiting
      rw [noCalls] at member
      exact absurd member (Multiset.notMem_zero call)
  apply SessionAgrees.mk
  · intro user current
    rw [current] at same
    have shown := invariant.signedIn noTransitions (by simp [same])
    rw [shown]
    exact ⟨same, rfl, by simp⟩
  · intro current
    rw [current] at same
    exact ⟨same, invariant.signedOut noTransitions same⟩

theorem check_authentication_pending (app : App) : app.checkAuthentication.transitions ≠ 0 := Multiset.cons_ne_zero

theorem check_authentication_invariant (app : App) : app.checkAuthentication.SessionInvariant where
  session := .inl rfl
  signedIn idle := absurd idle (check_authentication_pending app)
  signedOut idle := absurd idle (check_authentication_pending app)

theorem scene_invariant (backend : Backend) : (scene backend).SessionInvariant := check_authentication_invariant _

theorem carried_invariant (app next : App) (invariant : app.SessionInvariant)
    (settled : next.userSession = next.backend.currentUser ∨ next.Unfinished)
    (session : next.userSession = app.userSession) (transitions : next.transitions = app.transitions)
    (tabs : app.viewControllers = [.tabController] → next.viewControllers = [.tabController])
    (entry : .tabController ∉ app.viewControllers → .tabController ∉ next.viewControllers) :
    next.SessionInvariant := by
  apply SessionInvariant.mk settled
  · intro idle signedIn
    rw [transitions] at idle
    rw [session] at signedIn
    exact tabs (invariant.signedIn idle signedIn)
  · intro idle signedOut
    rw [transitions] at idle
    rw [session] at signedOut
    exact entry (invariant.signedOut idle signedOut)

theorem unfinished_send (app : App) (call : Call) (waiting : app.Unfinished) : (app.send call).Unfinished := by
  obtain ⟨other, member, unfinished⟩ := waiting
  exact ⟨other, Multiset.mem_cons_of_mem member, unfinished⟩

theorem unfinished_forget (app : App) (call : Call) (finished : unfinished call = false) (waiting : app.Unfinished) :
    (app.forget call).Unfinished := by
  obtain ⟨other, member, unfinished⟩ := waiting
  have apart : other ≠ call := by
    intro same
    rw [same, finished] at unfinished
    exact absurd unfinished (by decide)
  exact ⟨other, (Multiset.mem_erase_of_ne apart).mpr member, unfinished⟩

theorem unfinished_exchange (app : App) (call next : Call) (alike : unfinished next = unfinished call)
    (waiting : app.Unfinished) : ((app.forget call).send next).Unfinished := by
  cases kind : unfinished call with
  | true => exact ⟨next, Multiset.mem_cons_self _ _, alike.trans kind⟩
  | false => exact unfinished_send _ next (unfinished_forget app call kind waiting)

theorem tap_sign_in_cases (app : App) (form : LoginForm) :
    app.tapSignIn form = app ∨ (∃ alert, app.tapSignIn form = app.present alert) ∨
      ∃ call, app.tapSignIn form = app.send call := by
  rw [tapSignIn]
  split
  · cases didTapSignInAction form with
    | alert alert => exact .inr (.inl ⟨alert, rfl⟩)
    | submit request => exact .inr (.inr ⟨_, rfl⟩)
  · exact .inl rfl

theorem tap_sign_up_cases (icu : WordCharacters) (app : App) (form : SignUpForm) :
    app.tapSignUp icu form = app ∨ (∃ alert, app.tapSignUp icu form = app.present alert) ∨
      ∃ call, app.tapSignUp icu form = app.send call := by
  rw [tapSignUp]
  split
  · cases didTapSignUpAction icu form with
    | alert alert => exact .inr (.inl ⟨alert, rfl⟩)
    | submit request => exact .inr (.inr ⟨_, rfl⟩)
  · exact .inl rfl

theorem push_invariant (app : App) (screen : Screen) (nextController : Nat) (entry : screen ≠ .tabController)
    (top : app.topViewController ≠ some .tabController) (invariant : app.SessionInvariant) :
    SessionInvariant { app.pushViewController screen with nextController := nextController } := by
  refine carried_invariant app _ invariant invariant.session rfl rfl ?_ ?_
  · intro tabs
    rw [topViewController, tabs] at top
    exact absurd rfl top
  · intro none member
    rcases List.mem_append.mp member with old | new
    · exact none old
    · exact entry (List.mem_singleton.mp new).symm

theorem pop_invariant (app : App) (top : app.topViewController ≠ some .tabController)
    (invariant : app.SessionInvariant) :
    SessionInvariant { app with viewControllers := app.viewControllers.dropLast } := by
  refine carried_invariant app _ invariant invariant.session rfl rfl ?_ ?_
  · intro tabs
    rw [topViewController, tabs] at top
    exact absurd rfl top
  · intro none member
    exact none (List.dropLast_subset _ member)

theorem present_invariant (app : App) (alert : Alert) (invariant : app.SessionInvariant) :
    (app.present alert).SessionInvariant :=
  carried_invariant app _ invariant invariant.session rfl rfl id id

theorem send_invariant (app : App) (call : Call) (invariant : app.SessionInvariant) :
    (app.send call).SessionInvariant :=
  carried_invariant app _ invariant (invariant.session.imp_right (unfinished_send app call)) rfl rfl id id

theorem tap_invariant (app next : App)
    (outcome : next = app ∨ (∃ alert, next = app.present alert) ∨ ∃ call, next = app.send call)
    (invariant : app.SessionInvariant) : next.SessionInvariant := by
  rcases outcome with same | ⟨alert, presented⟩ | ⟨call, sent⟩
  · rw [same]
    exact invariant
  · rw [presented]
    exact present_invariant app alert invariant
  · rw [sent]
    exact send_invariant app call invariant

theorem exchange_invariant (app : App) (call next : Call) (backend : Backend)
    (alike : unfinished next = unfinished call) (current : backend.currentUser = app.backend.currentUser)
    (invariant : app.SessionInvariant) :
    (((app.forget call).send next).setBackend backend).SessionInvariant := by
  refine carried_invariant app _ invariant ?_ rfl rfl id id
  rcases invariant.session with same | waiting
  · exact .inl (same.trans current.symm)
  · exact .inr (unfinished_exchange app call next alike waiting)

theorem execute_invariant (app : App) (call next : Call) (backend : Backend)
    (alike : unfinished next = unfinished call) (current : backend.currentUser = app.backend.currentUser)
    (invariant : app.SessionInvariant) : (app.execute call next backend).SessionInvariant := by
  rw [execute]
  split
  · exact exchange_invariant app call next backend alike current invariant
  · exact invariant

theorem register_user_completion_cases (app : App) (signUp : Nat) (wasRegistered : Bool) (error : Option NSError) :
    (app.registerUserCompletion signUp wasRegistered error = app.checkAuthentication ∧ wasRegistered = true ∧
      error = none ∧ app.topViewController = some (.signUp signUp)) ∨
    ((app.registerUserCompletion signUp wasRegistered error = app ∨
        ∃ alert, app.registerUserCompletion signUp wasRegistered error = app.present alert) ∧
      (wasRegistered = true → error = none → app.topViewController ≠ some (.signUp signUp))) := by
  by_cases alive : .signUp signUp ∈ app.viewControllers
  · cases error with
    | some error =>
        refine .inr ⟨.inr ⟨AlertManager.showRegistrationErrorAlert (some error), ?_⟩, fun _ impossible => nomatch impossible⟩
        simp [registerUserCompletion, alive]
    | none =>
        cases wasRegistered with
        | false =>
            refine .inr ⟨.inr ⟨AlertManager.showRegistrationErrorAlert none, ?_⟩, fun impossible => nomatch impossible⟩
            simp [registerUserCompletion, alive]
        | true =>
            by_cases top : app.topViewController = some (.signUp signUp)
            · exact .inl ⟨by simp [registerUserCompletion, alive, top], rfl, rfl, top⟩
            · exact .inr ⟨.inl (by simp [registerUserCompletion, alive, top]), fun _ _ => top⟩
  · apply Or.inr
    constructor
    · exact .inl (by simp [registerUserCompletion, alive])
    · intro _ _ top
      exact alive (List.mem_of_getLast? top)

theorem registration_end_invariant (app : App) (signUp : Nat) (wasRegistered : Bool) (error : Option NSError)
    (signedIn : app.transitions = 0 → app.userSession ≠ none → app.viewControllers = [.tabController])
    (signedOut : app.transitions = 0 → app.userSession = none → .tabController ∉ app.viewControllers)
    (settled : (wasRegistered = true → error = none → app.topViewController ≠ some (.signUp signUp)) →
      app.userSession = app.backend.currentUser ∨ app.Unfinished) :
    (app.registerUserCompletion signUp wasRegistered error).SessionInvariant := by
  rcases register_user_completion_cases app signUp wasRegistered error with checked | unchecked
  · rw [checked.1]
    exact check_authentication_invariant app
  · obtain ⟨shown, notTop⟩ := unchecked
    have invariant : app.SessionInvariant := ⟨settled notTop, signedIn, signedOut⟩
    rcases shown with same | ⟨alert, presented⟩
    · rw [same]
      exact invariant
    · rw [presented]
      exact present_invariant app alert invariant

theorem receive_invariant (app : App) (call : Call) (invariant : app.SessionInvariant) :
    (app.receive call).SessionInvariant := by
  rcases receive_cases app call with same | ⟨inFlight, executed⟩
  · rw [same]
    exact invariant
  · rcases executed with ⟨login, request, answer, rfl⟩ | ⟨signUp, request, answer, rfl⟩ | ⟨signUp, uid, data, answer, rfl⟩
    · rw [receive_sign_in app login request answer inFlight]
      cases answer with
      | error error => exact exchange_invariant app _ _ _ rfl rfl invariant
      | user user =>
          refine carried_invariant app _ invariant ?_ rfl rfl id id
          exact .inr ⟨_, Multiset.mem_cons_self _ _, rfl⟩
    · rw [receive_create_user app signUp request answer inFlight]
      refine carried_invariant app _ invariant ?_ rfl rfl id id
      exact .inr ⟨_, Multiset.mem_cons_self _ _, rfl⟩
    · rw [receive_set_data app signUp uid data answer inFlight]
      exact exchange_invariant app _ _ app.backend rfl rfl invariant

theorem sign_in_completion_cases (app : App) (login : Nat) (answer : SignInResult) :
    (∃ error, answer = .error error ∧ app.signInCompletion login (signInCallback answer) =
      app.present (AlertManager.showSignInErrorAlert error)) ∨
    (∃ user, answer = .user user ∧ .login login ∈ app.viewControllers ∧
      app.signInCompletion login (signInCallback answer) = app.pushViewController .tabController) ∨
    (∃ user, answer = .user user ∧ .login login ∉ app.viewControllers ∧
      app.signInCompletion login (signInCallback answer) = app) := by
  cases answer with
  | error error => exact .inl ⟨error, rfl, rfl⟩
  | user user =>
      by_cases reached : .login login ∈ app.viewControllers
      · exact .inr (.inl ⟨user, rfl, reached, if_pos reached⟩)
      · exact .inr (.inr ⟨user, rfl, reached, if_neg reached⟩)

theorem sign_in_complete_invariant (app : App) (login : Nat) (request : LoginUserRequest) (answer : SignInResult)
    (inFlight : .signIn login request (.received answer) ∈ app.calls)
    (keeps : app.CompleteKeeps (.signIn login request (.received answer))) (invariant : app.SessionInvariant) :
    ((app.forget (.signIn login request (.received answer))).signInCompletion login
      (signInCallback answer)).SessionInvariant := by
  rcases sign_in_completion_cases (app.forget (.signIn login request (.received answer))) login answer with
    ⟨error, rfl, presented⟩ | ⟨user, rfl, reached, pushed⟩ | ⟨user, rfl, _, unreached⟩
  · have session := invariant.session.imp_right (unfinished_forget app (.signIn login request (.received (.error error))) rfl)
    rw [presented]
    exact present_invariant _ _ ⟨session, invariant.signedIn, invariant.signedOut⟩
  · have replaced := ((keeps inFlight).1 login rfl).resolve_left (not_not_intro reached)
    rw [pushed]
    exact ⟨(keeps inFlight).2 rfl, fun idle => absurd idle replaced, fun idle => absurd idle replaced⟩
  · rw [unreached]
    exact ⟨(keeps inFlight).2 rfl, invariant.signedIn, invariant.signedOut⟩

theorem complete_invariant (app : App) (call : Call) (keeps : app.CompleteKeeps call)
    (invariant : app.SessionInvariant) : (app.complete call).SessionInvariant := by
  rcases complete_cases app call with ⟨_, same⟩ | ⟨inFlight, received⟩
  · rw [same]
    exact invariant
  · rcases received with ⟨login, request, answer, rfl⟩ | ⟨signUp, request, answer, rfl⟩ | ⟨signUp, uid, data, answer, rfl⟩
    · rw [complete_sign_in app login request answer inFlight]
      exact sign_in_complete_invariant app login request answer inFlight keeps invariant
    · cases next : createUserCallback request answer with
      | completion wasRegistered error =>
          rw [complete_create_user_failed app signUp request answer inFlight wasRegistered error next]
          apply registration_end_invariant
          · exact invariant.signedIn
          · exact invariant.signedOut
          · intro _
            apply (keeps inFlight).2
            rw [endsUnchecked, next]
      | setData uid data =>
          rw [complete_create_user_writes app signUp request answer inFlight uid data next]
          refine carried_invariant app _ invariant ?_ rfl rfl id id
          exact .inr ⟨_, Multiset.mem_cons_self _ _, rfl⟩
    · rw [complete_set_data app signUp uid data answer inFlight]
      apply registration_end_invariant
      · exact invariant.signedIn
      · exact invariant.signedOut
      · intro notTop
        apply (keeps inFlight).2
        cases answer with
        | some error => rfl
        | none =>
            have top : app.topViewController ≠ some (.signUp signUp) := notTop rfl rfl
            simpa [endsUnchecked] using top

theorem transition_invariant (app : App) (controller : Screen) (keeps : app.TransitionKeeps controller)
    (invariant : app.SessionInvariant) : (app.rootTransition controller).SessionInvariant := by
  by_cases pending : controller ∈ app.transitions
  · have last : app.transitions.erase controller = 0 → (controller = .tabController ↔ app.userSession ≠ none) := by
      intro idle
      apply keeps
      rw [← Multiset.cons_erase pending, idle]
      rfl
    simp only [rootTransition, pending, if_true]
    apply SessionInvariant.mk
    · exact invariant.session
    · intro idle signedIn
      rw [(last idle).mpr signedIn]
    · intro idle signedOut member
      have tabs := (last idle).mp (List.mem_singleton.mp member).symm
      exact tabs signedOut
  · simpa only [rootTransition, pending, if_false] using invariant

theorem step_invariant (icu : WordCharacters) (app : App) (event : AppEvent) (invariant : app.SessionInvariant)
    (keeps : app.KeepsAgreement event) : (app.step icu event).SessionInvariant := by
  cases event with
  | willConnect =>
      have launched := scene_invariant app.backend
      exact ⟨.inl rfl, launched.signedIn, launched.signedOut⟩
  | didTapGetStarted =>
      rw [step, didTapGetStarted]
      split
      case h_1 top => exact push_invariant app _ _ (by simp) (by simp [top]) invariant
      case h_2 => exact invariant
  | handleCreateAccountTap =>
      rw [step, handleCreateAccountTap]
      split
      case h_1 top => exact push_invariant app _ _ (by simp) (by simp [top]) invariant
      case h_2 => exact invariant
  | didTapSignIn form => exact tap_invariant app _ (tap_sign_in_cases app form) invariant
  | didTapSignUp form => exact tap_invariant app _ (tap_sign_up_cases icu app form) invariant
  | popViewController =>
      rw [step, popViewController]
      split
      case h_1 top => exact pop_invariant app (by simp [top]) invariant
      case h_2 top => exact pop_invariant app (by simp [top]) invariant
      case h_3 => exact invariant
  | executeSignIn login request answer => exact execute_invariant app _ _ _ rfl rfl invariant
  | executeCreateUser signUp request outcome =>
      exact execute_invariant app _ _ _ rfl rfl invariant
  | executeSetData signUp uid data answer => exact execute_invariant app _ _ _ rfl rfl invariant
  | receive call => exact receive_invariant app call invariant
  | writeMutation uid data answer =>
      rw [step, writeMutation]
      split
      · exact ⟨invariant.session, invariant.signedIn, invariant.signedOut⟩
      · exact invariant
  | complete call => exact complete_invariant app call keeps invariant
  | rootTransition controller => exact transition_invariant app controller keeps invariant

section Seen

variable (app : App)

theorem agrees_session (agrees : app.SessionAgrees) : app.userSession = app.backend.currentUser := by
  cases current : app.backend.currentUser with
  | none => exact (agrees.signedOut current).1
  | some user => exact (agrees.signedIn user current).1

theorem pushed_disagrees (login : Nat) (reached : .login login ∈ app.viewControllers) :
    ¬ (app.pushViewController .tabController).SessionAgrees := by
  intro agrees
  cases current : app.backend.currentUser with
  | none =>
      have absent := (agrees.signedOut current).2
      exact absent (List.mem_append_right _ (List.mem_singleton_self _))
  | some user =>
      have all := (agrees.signedIn user current).2.2
      have same := all (.login login) (List.mem_append_left _ reached)
      cases same

theorem present_agrees (alert : Alert) (agrees : (app.present alert).SessionAgrees) : app.SessionAgrees :=
  ⟨agrees.signedIn, agrees.signedOut⟩

theorem unchecked_session (signUp : Nat) (wasRegistered : Bool) (error : Option NSError)
    (unchecked : wasRegistered = true → error = none → app.topViewController ≠ some (.signUp signUp))
    (agrees : (app.registerUserCompletion signUp wasRegistered error).SessionAgrees) :
    app.userSession = app.backend.currentUser := by
  rcases register_user_completion_cases app signUp wasRegistered error with
    ⟨_, registered, none, top⟩ | ⟨same | ⟨alert, presented⟩, _⟩
  · exact absurd top (unchecked registered none)
  · rw [same] at agrees
    exact agrees_session app agrees
  · rw [presented] at agrees
    exact agrees_session app (present_agrees app alert agrees)

theorem keeps_of_settled (call : Call) (noLogin : signedInLogin call = none)
    (settled : call ∈ app.calls → app.endsUnchecked call = true → app.userSession = app.backend.currentUser) :
    app.CompleteKeeps call := by
  intro inFlight
  constructor
  · intro login found
    rw [noLogin] at found
    cases found
  · intro unchecked
    exact .inl (settled inFlight unchecked)

theorem keeps_of_checked (call : Call) (noLogin : signedInLogin call = none) (checked : app.endsUnchecked call = false) :
    app.CompleteKeeps call := by
  apply keeps_of_settled app call noLogin
  intro _ unchecked
  rw [checked] at unchecked
  cases unchecked

theorem complete_seen (call : Call) (agrees : (app.complete call).SessionAgrees) : app.CompleteKeeps call := by
  match call with
  | .signIn login request (.received (.user user)) =>
      intro inFlight
      rw [complete_sign_in app login request (.user user) inFlight] at agrees
      rcases sign_in_completion_cases (app.forget _) login (.user user) with
        ⟨error, impossible, _⟩ | ⟨_, _, reached, pushed⟩ | ⟨_, _, unreached, idle⟩
      · cases impossible
      · rw [pushed] at agrees
        exact absurd agrees (pushed_disagrees _ login reached)
      · rw [idle] at agrees
        constructor
        · intro other same
          obtain rfl := Option.some.inj same
          exact .inl unreached
        · intro _
          have same := agrees_session (app.forget _) agrees
          exact .inl same
  | .createUser signUp request (.received answer) =>
      cases next : createUserCallback request answer with
      | setData uid data =>
          apply keeps_of_checked app _ rfl
          rw [endsUnchecked, next]
      | completion wasRegistered error =>
          apply keeps_of_settled app _ rfl
          intro inFlight _
          have failure := create_user_callback_reports request answer wasRegistered error next
          rw [complete_create_user_failed app signUp request answer inFlight wasRegistered error next] at agrees
          exact unchecked_session (app.forget _) signUp wasRegistered error
            (fun registered => absurd (failure.symm.trans registered) (by decide)) agrees
  | .setData signUp uid data (.received answer) =>
      apply keeps_of_settled app _ rfl
      intro inFlight ends
      rw [complete_set_data app signUp uid data answer inFlight] at agrees
      have notTop : (setDataCallback answer).2 = none → app.topViewController ≠ some (.signUp signUp) := by
        cases answer with
        | some error => exact fun impossible => nomatch impossible
        | none =>
            intro _
            simpa [endsUnchecked] using ends
      exact unchecked_session (app.forget _) signUp _ _ (fun _ => notTop) agrees
  | .signIn _ _ (.received (.error _)) => exact keeps_of_checked app _ rfl rfl
  | .signIn _ _ .sent => exact keeps_of_checked app _ rfl rfl
  | .signIn _ _ (.executed _) => exact keeps_of_checked app _ rfl rfl
  | .createUser _ _ .sent => exact keeps_of_checked app _ rfl rfl
  | .createUser _ _ (.executed _) => exact keeps_of_checked app _ rfl rfl
  | .setData _ _ _ .sent => exact keeps_of_checked app _ rfl rfl
  | .setData _ _ _ (.executed _) => exact keeps_of_checked app _ rfl rfl

theorem transition_seen (controller : Screen) (agrees : (app.rootTransition controller).SessionAgrees) :
    app.TransitionKeeps controller := by
  intro last
  have pending : controller ∈ app.transitions := by
    rw [last]
    exact Multiset.mem_singleton_self controller
  rw [rootTransition, if_pos pending] at agrees
  have settled := agrees_session { app with viewControllers := [controller] } ⟨agrees.signedIn, agrees.signedOut⟩
  have same : app.userSession = app.backend.currentUser := settled
  rw [same]
  cases current : app.backend.currentUser with
  | none =>
      have absent := (agrees.signedOut current).2
      simpa using fun tab => absent (by simp [tab])
  | some user =>
      have all := (agrees.signedIn user current).2.2
      have tab : controller = .tabController := all controller (List.mem_singleton_self controller)
      simp [tab]

theorem step_seen (icu : WordCharacters) (event : AppEvent) (agrees : (app.step icu event).SessionAgrees) :
    app.KeepsAgreement event := by
  cases event with
  | complete call => exact complete_seen app call agrees
  | rootTransition controller => exact transition_seen app controller agrees
  | _ => trivial

end Seen

end App

-- In every run that takes only such steps, session and screen agree in every state
-- with nothing pending. One more step that leaves nothing pending keeps them in
-- agreement exactly when it is such a step.
theorem session_agrees_with_screen (icu : WordCharacters) (backend : Backend) (events : List AppEvent)
    (keeps : Along (App.step icu) App.KeepsAgreement (App.scene backend) events) :
    (∀ reached ∈ trace (App.step icu) (App.scene backend) events, reached.Quiescent → reached.SessionAgrees) ∧
    ∀ event, ((run (App.step icu) (App.scene backend) events).step icu event).Quiescent →
      (((run (App.step icu) (App.scene backend) events).step icu event).SessionAgrees ↔
        (run (App.step icu) (App.scene backend) events).KeepsAgreement event) := by
  have start := App.scene_invariant backend
  have invariant := invariant_trace (App.step icu) App.KeepsAgreement App.SessionInvariant (App.step_invariant icu)
    (App.scene backend) events start keeps
  constructor
  · intro reached member quiescent
    exact App.invariant_agrees reached (invariant reached member) quiescent
  · intro event quiescent
    constructor
    · intro agrees
      exact App.step_seen _ icu event agrees
    · intro allowed
      have before := invariant _ (run_mem_trace _ _ _)
      exact App.invariant_agrees _ (App.step_invariant icu _ event before allowed) quiescent

def annasSignUp : List AppEvent :=
  [.rootTransition .welcome, .didTapGetStarted, .handleCreateAccountTap, .didTapSignUp annasForm,
    .executeCreateUser 1 annasForm.request (.user "anna"),
    .receive (.createUser 1 annasForm.request (.executed (.user "anna"))),
    .complete (.createUser 1 annasForm.request (.received (.user "anna"))),
    .executeSetData 1 "anna" (usersDocument annasForm.request) none,
    .receive (.setData 1 "anna" (usersDocument annasForm.request) (.executed none)),
    .complete (.setData 1 "anna" (usersDocument annasForm.request) (.received none)),
    .rootTransition .tabController]

theorem session_agrees_after_sign_up :
    (run (App.step asciiWords) (App.scene emptyBackend) annasSignUp).SessionAgrees :=
  (session_agrees_with_screen asciiWords emptyBackend annasSignUp (by decide)).1 _ (run_mem_trace _ _ _)
    ⟨by decide, by decide⟩

def annasSignIn : List AppEvent :=
  [.rootTransition .welcome, .didTapGetStarted, .didTapSignIn annasLogin,
    .executeSignIn 0 annasLogin.request (.user "anna"),
    .receive (.signIn 0 annasLogin.request (.executed (.user "anna"))),
    .complete (.signIn 0 annasLogin.request (.received (.user "anna")))]

theorem sign_in_leaves_session_behind :
    ¬ ∀ reached ∈ trace (App.step asciiWords) (App.scene emptyBackend) annasSignIn,
      reached.Quiescent → reached.SessionAgrees := by
  intro agrees
  have last := agrees _ (run_mem_trace _ _ _) ⟨by decide, by decide⟩
  have session := (last.signedIn "anna" (by decide)).1
  exact absurd session (by decide)

end DuplicatedApps
