import DuplicatedApps.Effects

set_option autoImplicit false

namespace DuplicatedApps

open Runs

def Screen.identity : Screen → Option Nat
  | .login controller => some controller
  | .signUp controller => some controller
  | _ => none

inductive Shape : List Screen → Prop
  | root (controller : Screen) (kind : controller = .welcome ∨ controller = .tabController) : Shape [controller]
  | login (login tabs : Nat) : Shape ([.welcome, .login login] ++ List.replicate tabs .tabController)
  | signUp (login signUp tabs : Nat) :
      Shape ([.welcome, .login login, .signUp signUp] ++ List.replicate tabs .tabController)

namespace App

structure NavigationStack (app : App) : Prop where
  shape : Shape app.viewControllers
  roots : ∀ controller ∈ app.transitions, controller = .welcome ∨ controller = .tabController
  identities : ∀ screen ∈ app.viewControllers, ∀ controller, screen.identity = some controller → controller < app.nextController

theorem top_of_tabs (front : List Screen) (tabs : Nat) (screen : Screen) (entry : screen ≠ .tabController)
    (top : (front ++ List.replicate tabs Screen.tabController).getLast? = some screen) :
    tabs = 0 ∧ front.getLast? = some screen := by
  cases tabs with
  | zero => exact ⟨rfl, by simpa using top⟩
  | succ tabs =>
      rw [List.replicate_succ', ← List.append_assoc, List.getLast?_concat] at top
      exact absurd (Option.some.inj top).symm entry

theorem shape_welcome (stack : List Screen) (shape : Shape stack) (top : stack.getLast? = some .welcome) :
    stack = [.welcome] := by
  cases shape with
  | root controller kind =>
      obtain rfl : controller = .welcome := Option.some.inj top
      rfl
  | login login tabs =>
      obtain ⟨_, last⟩ := top_of_tabs _ tabs .welcome (by simp) top
      cases last
  | signUp login signUp tabs =>
      obtain ⟨_, last⟩ := top_of_tabs _ tabs .welcome (by simp) top
      cases last

theorem shape_login (stack : List Screen) (login : Nat) (shape : Shape stack)
    (top : stack.getLast? = some (.login login)) : stack = [.welcome, .login login] := by
  cases shape with
  | root controller kind =>
      obtain rfl : controller = .login login := Option.some.inj top
      rcases kind with impossible | impossible
      · cases impossible
      · cases impossible
  | login other tabs =>
      obtain ⟨rfl, last⟩ := top_of_tabs _ tabs (.login login) (by simp) top
      obtain rfl := Screen.login.inj (Option.some.inj last)
      rfl
  | signUp other signUp tabs =>
      obtain ⟨_, last⟩ := top_of_tabs _ tabs (.login login) (by simp) top
      cases last

theorem shape_sign_up (stack : List Screen) (signUp : Nat) (shape : Shape stack)
    (top : stack.getLast? = some (.signUp signUp)) : ∃ login, stack = [.welcome, .login login, .signUp signUp] := by
  cases shape with
  | root controller kind =>
      obtain rfl : controller = .signUp signUp := Option.some.inj top
      rcases kind with impossible | impossible
      · cases impossible
      · cases impossible
  | login login tabs =>
      obtain ⟨_, last⟩ := top_of_tabs _ tabs (.signUp signUp) (by simp) top
      cases last
  | signUp login other tabs =>
      obtain ⟨rfl, last⟩ := top_of_tabs _ tabs (.signUp signUp) (by simp) top
      obtain rfl := Screen.signUp.inj (Option.some.inj last)
      exact ⟨login, rfl⟩

theorem shape_tab (stack : List Screen) (login : Nat) (shape : Shape stack) (reached : .login login ∈ stack) :
    Shape (stack ++ [.tabController]) := by
  cases shape with
  | root controller kind =>
      obtain rfl := List.mem_singleton.mp reached
      rcases kind with impossible | impossible
      · cases impossible
      · cases impossible
  | login other tabs =>
      rw [List.append_assoc, ← List.replicate_succ']
      exact .login other (tabs + 1)
  | signUp other signUp tabs =>
      rw [List.append_assoc, ← List.replicate_succ']
      exact .signUp other signUp (tabs + 1)

section Steps

variable (app next : App)

theorem same_navigation (screens : next.viewControllers = app.viewControllers)
    (transitions : next.transitions = app.transitions) (identities : next.nextController = app.nextController)
    (navigation : app.NavigationStack) : next.NavigationStack := by
  refine ⟨?_, ?_, ?_⟩
  · rw [screens]
    exact navigation.shape
  · rw [transitions]
    exact navigation.roots
  · rw [screens, identities]
    exact navigation.identities

theorem pushed_navigation (screen : Screen) (shape : Shape (app.viewControllers ++ [screen]))
    (identity : screen.identity = some app.nextController) (navigation : app.NavigationStack) :
    NavigationStack { app.pushViewController screen with nextController := app.nextController + 1 } := by
  refine ⟨shape, navigation.roots, ?_⟩
  intro other member controller same
  rcases List.mem_append.mp member with old | new
  · exact Nat.lt_succ_of_lt (navigation.identities other old controller same)
  · obtain rfl := List.mem_singleton.mp new
    rw [identity] at same
    obtain rfl := Option.some.inj same
    exact Nat.lt_succ_self _

theorem popped_navigation (shape : Shape app.viewControllers.dropLast) (navigation : app.NavigationStack) :
    NavigationStack { app with viewControllers := app.viewControllers.dropLast } := by
  refine ⟨shape, navigation.roots, ?_⟩
  intro screen member
  exact navigation.identities screen (List.dropLast_subset _ member)

theorem checked_navigation (navigation : app.NavigationStack) : app.checkAuthentication.NavigationStack := by
  refine ⟨navigation.shape, ?_, navigation.identities⟩
  intro controller pending
  rcases Multiset.mem_cons.mp pending with rfl | old
  · cases app.backend.currentUser with
    | none => exact .inl rfl
    | some user => exact .inr rfl
  · exact navigation.roots controller old

theorem shown_navigation (controller : Screen) (pending : controller ∈ app.transitions) (navigation : app.NavigationStack) :
    NavigationStack { app with viewControllers := [controller], transitions := app.transitions.erase controller } := by
  have kind := navigation.roots controller pending
  refine ⟨.root controller kind, ?_, ?_⟩
  · intro other member
    exact navigation.roots other (Multiset.mem_of_mem_erase member)
  · intro screen member identity same
    obtain rfl := List.mem_singleton.mp member
    rcases kind with rfl | rfl
    · cases same
    · cases same

theorem scene_navigation (backend : Backend) : (scene backend).NavigationStack := by
  apply checked_navigation
  refine ⟨.root .welcome (.inl rfl), ?_, ?_⟩
  · intro controller member
    exact absurd member (Multiset.notMem_zero controller)
  · intro screen member controller same
    obtain rfl := List.mem_singleton.mp member
    cases same

theorem step_navigation (icu : WordCharacters) (event : AppEvent) (navigation : app.NavigationStack) :
    (app.step icu event).NavigationStack := by
  have effect := step_effect icu app event
  generalize app.step icu event = after at effect
  cases effect with
  | launched => exact same_navigation (scene app.backend) _ rfl rfl rfl (scene_navigation app.backend)
  | getStarted top =>
      apply pushed_navigation app _ _ rfl navigation
      rw [shape_welcome _ navigation.shape top]
      exact .login _ 0
  | createAccount login top =>
      apply pushed_navigation app _ _ rfl navigation
      rw [shape_login _ login navigation.shape top]
      exact .signUp login _ 0
  | poppedLogin login top =>
      apply popped_navigation app _ navigation
      rw [shape_login _ login navigation.shape top]
      exact .root .welcome (.inl rfl)
  | poppedSignUp signUp top =>
      apply popped_navigation app _ navigation
      obtain ⟨login, stack⟩ := shape_sign_up _ signUp navigation.shape top
      rw [stack]
      exact .login login 0
  | signedIn login request user inFlight reached =>
      refine ⟨shape_tab _ login navigation.shape reached, navigation.roots, ?_⟩
      intro screen member controller same
      rcases List.mem_append.mp member with old | new
      · exact navigation.identities screen old controller same
      · obtain rfl := List.mem_singleton.mp new
        cases same
  | registered signUp uid data inFlight top =>
      exact checked_navigation (app.forget _) (same_navigation app _ rfl rfl rfl navigation)
  | shown controller pending => exact shown_navigation app controller pending navigation
  | _ => exact same_navigation app _ rfl rfl rfl navigation

end Steps

theorem run_navigation (icu : WordCharacters) (backend : Backend) (events : List AppEvent) :
    (run (App.step icu) (App.scene backend) events).NavigationStack :=
  invariant_run (App.step icu) NavigationStack (fun app event => step_navigation app icu event) (scene backend) events
    (scene_navigation backend)

structure Closed (app : App) (screen : Screen) : Prop where
  left : screen ∉ app.viewControllers
  used : ∃ controller, screen.identity = some controller ∧ controller < app.nextController

section Closing

variable (app next : App) (screen : Screen)

theorem same_closed (screens : next.viewControllers = app.viewControllers)
    (identities : next.nextController = app.nextController) (closed : app.Closed screen) : next.Closed screen := by
  refine ⟨?_, ?_⟩
  · rw [screens]
    exact closed.left
  · rw [identities]
    exact closed.used

theorem pushed_closed (pushed : Screen) (identity : pushed.identity = some app.nextController) (closed : app.Closed screen) :
    Closed { app.pushViewController pushed with nextController := app.nextController + 1 } screen := by
  obtain ⟨controller, same, older⟩ := closed.used
  refine ⟨?_, controller, same, Nat.lt_succ_of_lt older⟩
  intro member
  rcases List.mem_append.mp member with old | new
  · exact closed.left old
  · obtain rfl := List.mem_singleton.mp new
    rw [identity] at same
    obtain rfl := Option.some.inj same
    exact absurd older (Nat.lt_irrefl _)

theorem popped_closed (closed : app.Closed screen) :
    Closed { app with viewControllers := app.viewControllers.dropLast } screen :=
  ⟨fun member => closed.left (List.dropLast_subset _ member), closed.used⟩

theorem step_closed (icu : WordCharacters) (event : AppEvent) (warm : event ≠ .willConnect)
    (navigation : app.NavigationStack) (closed : app.Closed screen) : (app.step icu event).Closed screen := by
  have effect := step_effect icu app event
  generalize app.step icu event = after at effect
  cases effect with
  | launched => exact absurd rfl warm
  | getStarted top => exact pushed_closed app screen _ rfl closed
  | createAccount login top => exact pushed_closed app screen _ rfl closed
  | poppedLogin login top => exact popped_closed app screen closed
  | poppedSignUp signUp top => exact popped_closed app screen closed
  | signedIn login request user inFlight reached =>
      refine ⟨?_, closed.used⟩
      intro member
      rcases List.mem_append.mp member with old | new
      · exact closed.left old
      · obtain rfl := List.mem_singleton.mp new
        obtain ⟨controller, none, _⟩ := closed.used
        cases none
  | shown controller pending =>
      refine ⟨?_, closed.used⟩
      intro member
      obtain rfl := List.mem_singleton.mp member
      obtain ⟨identity, some, _⟩ := closed.used
      rcases navigation.roots screen pending with rfl | rfl
      · cases some
      · cases some
  | _ => exact same_closed app _ screen rfl rfl closed

theorem run_closed (icu : WordCharacters) (events : List AppEvent) (warm : ∀ event ∈ events, event ≠ .willConnect)
    (navigation : app.NavigationStack) (closed : app.Closed screen) :
    (run (App.step icu) app events).Closed screen := by
  have kept := invariant_events (App.step icu) (fun reached => reached.NavigationStack ∧ reached.Closed screen)
    (fun event => event ≠ .willConnect) (by
      intro reached event held warm
      exact ⟨step_navigation reached icu event held.1, step_closed reached screen icu event warm held.1 held.2⟩)
    app events warm ⟨navigation, closed⟩
  exact kept.2

end Closing

structure Unmoved (app next : App) : Prop where
  screens : next.viewControllers = app.viewControllers
  transitions : next.transitions = app.transitions
  session : next.userSession = app.userSession
  backend : next.backend = app.backend

end App

def Call.sender : Call → Screen
  | .signIn login _ _ => .login login
  | .createUser signUp _ _ => .signUp signUp
  | .setData signUp _ _ _ => .signUp signUp

namespace App

section Late

variable (app : App)

theorem late_registration (signUp : Nat) (left : .signUp signUp ∉ app.viewControllers) (wasRegistered : Bool)
    (error : Option NSError) : app.registerUserCompletion signUp wasRegistered error = app := if_neg left

theorem late_completion (call : Call) (left : call.sender ∉ app.viewControllers) :
    app.Unmoved (app.complete call) ∧
      ((app.complete call).alerts = app.alerts ∨
        ∃ login request error, call = .signIn login request (.received (.error error)) ∧
          (app.complete call).alerts = app.alerts ++ [AlertManager.showSignInErrorAlert error]) := by
  rcases complete_cases app call with ⟨_, same⟩ | ⟨inFlight, received⟩
  · rw [same]
    exact ⟨⟨rfl, rfl, rfl, rfl⟩, .inl rfl⟩
  · rcases received with ⟨login, request, answer, rfl⟩ | ⟨signUp, request, answer, rfl⟩ | ⟨signUp, uid, data, answer, rfl⟩
    · rw [complete_sign_in app login request answer inFlight]
      cases answer with
      | error error => exact ⟨⟨rfl, rfl, rfl, rfl⟩, .inr ⟨login, request, error, rfl, rfl⟩⟩
      | user user =>
          have gone : (app.forget (.signIn login request (.received (.user user)))).signInCompletion login none =
              app.forget (.signIn login request (.received (.user user))) := if_neg left
          rw [signInCallback, gone]
          exact ⟨⟨rfl, rfl, rfl, rfl⟩, .inl rfl⟩
    · cases next : createUserCallback request answer with
      | completion wasRegistered error =>
          rw [complete_create_user_failed app signUp request answer inFlight wasRegistered error next,
            late_registration (app.forget _) signUp left]
          exact ⟨⟨rfl, rfl, rfl, rfl⟩, .inl rfl⟩
      | setData uid data =>
          rw [complete_create_user_writes app signUp request answer inFlight uid data next]
          exact ⟨⟨rfl, rfl, rfl, rfl⟩, .inl rfl⟩
    · rw [complete_set_data app signUp uid data answer inFlight, late_registration (app.forget _) signUp left]
      exact ⟨⟨rfl, rfl, rfl, rfl⟩, .inl rfl⟩

end Late

end App

-- Whatever is tapped and whenever answers arrive: at most one login and one sign-up
-- screen, entered from Welcome, and no entry screen on top of a TabController.
theorem navigation_keeps_shape (icu : WordCharacters) (backend : Backend) (events : List AppEvent) :
    Shape (run (App.step icu) (App.scene backend) events).viewControllers ∧
      ∀ controller ∈ (run (App.step icu) (App.scene backend) events).transitions, Shape [controller] := by
  have navigation := App.run_navigation icu backend events
  refine ⟨navigation.shape, ?_⟩
  intro controller pending
  exact .root controller (navigation.roots controller pending)

-- A screen that was closed stays closed until the process ends, and what its requests
-- come to moves nothing: a registration is not even reported, a sign-in only if it failed.
theorem closed_screen_stays_closed (icu : WordCharacters) (backend : Backend) (before after : List AppEvent)
    (screen : Screen) (closed : (run (App.step icu) (App.scene backend) before).Closed screen)
    (warm : ∀ event ∈ after, event ≠ .willConnect) :
    let reached := run (App.step icu) (App.scene backend) (before ++ after)
    reached.Closed screen ∧ ∀ call, call.sender = screen → reached.Unmoved (reached.complete call) ∧
      ((reached.complete call).alerts = reached.alerts ∨
        ∃ login request error, call = .signIn login request (.received (.error error)) ∧
          (reached.complete call).alerts = reached.alerts ++ [AlertManager.showSignInErrorAlert error]) := by
  intro reached
  have still : reached.Closed screen := by
    have later := App.run_closed _ screen icu after warm (App.run_navigation icu backend before) closed
    rw [← run_append] at later
    exact later
  refine ⟨still, ?_⟩
  intro call sent
  apply App.late_completion reached call
  rw [sent]
  exact still.left

def annasRetreat : List AppEvent :=
  [.rootTransition .welcome, .didTapGetStarted, .handleCreateAccountTap, .didTapSignUp annasForm, .popViewController]

theorem annas_sign_up_stays_closed :
    (run (App.step asciiWords) (App.scene emptyBackend) (annasRetreat ++ [.handleCreateAccountTap])).Closed (.signUp 1) :=
  (closed_screen_stays_closed asciiWords emptyBackend annasRetreat [.handleCreateAccountTap] (.signUp 1)
    ⟨by decide, 1, rfl, by decide⟩ (by simp)).1

section Tally

def App.tally (app : App) : Nat :=
  app.alerts.length + app.calls.card + app.transitions.card + app.viewControllers.count .tabController

def AppEvent.asks : AppEvent → Bool
  | .willConnect => true
  | .didTapSignIn _ => true
  | .didTapSignUp _ => true
  | _ => false

variable (app : App)

theorem forget_tally (call : Call) (inFlight : call ∈ app.calls) : (app.forget call).tally + 1 = app.tally := by
  have fewer := Multiset.card_erase_add_one inFlight
  simp only [App.tally, App.forget]
  omega

theorem present_tally (alert : Alert) : (app.present alert).tally = app.tally + 1 := by
  simp only [App.tally, App.present, List.length_append, List.length_singleton]
  omega

theorem send_tally (call : Call) : (app.send call).tally = app.tally + 1 := by
  simp only [App.tally, App.send, Multiset.card_cons]
  omega

theorem exchange_tally (call new : Call) (backend : Backend) (inFlight : call ∈ app.calls) :
    (((app.forget call).send new).setBackend backend).tally = app.tally := by
  have forgotten := forget_tally app call inFlight
  have sent := send_tally (app.forget call) new
  exact sent.trans forgotten

theorem pop_tally : App.tally { app with viewControllers := app.viewControllers.dropLast } ≤ app.tally := by
  have fewer := (List.dropLast_sublist app.viewControllers).count_le .tabController
  simp only [App.tally]
  omega

theorem step_tally (icu : WordCharacters) (event : AppEvent) :
    (app.step icu event).tally ≤ app.tally + (if event.asks then 1 else 0) := by
  have effect := App.step_effect icu app event
  generalize app.step icu event = after at effect
  cases effect with
  | idle => exact Nat.le_add_right _ _
  | launched => exact Nat.le_add_left _ _
  | getStarted top => simp [App.tally, App.pushViewController]
  | createAccount login top => simp [App.tally, App.pushViewController]
  | poppedLogin login top => exact Nat.le_trans (pop_tally app) (Nat.le_add_right _ _)
  | poppedSignUp signUp top => exact Nat.le_trans (pop_tally app) (Nat.le_add_right _ _)
  | signInRefused form alert refused => exact Nat.le_of_eq (present_tally app alert)
  | signUpRefused form alert refused => exact Nat.le_of_eq (present_tally app alert)
  | signInSent login form request accepted => exact Nat.le_of_eq (send_tally app _)
  | signUpSent signUp form request accepted => exact Nat.le_of_eq (send_tally app _)
  | executedSignIn login request answer inFlight => exact Nat.le_of_eq (exchange_tally app _ _ app.backend inFlight)
  | executedCreateUser signUp request outcome inFlight => exact Nat.le_of_eq (exchange_tally app _ _ _ inFlight)
  | executedSetData signUp uid data answer inFlight => exact Nat.le_of_eq (exchange_tally app _ _ _ inFlight)
  | receivedSignIn login request answer inFlight => exact Nat.le_of_eq (exchange_tally app _ _ _ inFlight)
  | receivedCreateUser signUp request answer inFlight => exact Nat.le_of_eq (exchange_tally app _ _ _ inFlight)
  | receivedSetData signUp uid data answer inFlight => exact Nat.le_of_eq (exchange_tally app _ _ app.backend inFlight)
  | signedIn login request user inFlight reached =>
      have forgotten := forget_tally app _ inFlight
      have pushed : ((app.forget (.signIn login request (.received (.user user)))).pushViewController .tabController).tally =
          (app.forget (.signIn login request (.received (.user user)))).tally + 1 := by
        simp only [App.tally, App.pushViewController, List.count_append, List.count_singleton_self]
        omega
      exact Nat.le_of_eq (pushed.trans forgotten)
  | writes signUp request uid inFlight => exact Nat.le_of_eq (exchange_tally app _ _ app.backend inFlight)
  | registered signUp uid data inFlight top =>
      have forgotten := forget_tally app _ inFlight
      have checked : (app.forget (.setData signUp uid data (.received none))).checkAuthentication.tally =
          (app.forget (.setData signUp uid data (.received none))).tally + 1 := by
        simp only [App.tally, App.checkAuthentication, Multiset.card_cons]
        omega
      exact Nat.le_of_eq (checked.trans forgotten)
  | reported call inFlight alert reports =>
      exact Nat.le_of_eq ((present_tally (app.forget call) alert).trans (forget_tally app call inFlight))
  | unheard call inFlight =>
      have forgotten := forget_tally app call inFlight
      omega
  | shown controller pending =>
      have fewer := Multiset.card_erase_add_one pending
      have one : [controller].count .tabController ≤ 1 := List.count_le_length
      simp only [App.tally, AppEvent.asks]
      omega
  | wroteMutation uid data answer queued => exact Nat.le_refl _

end Tally

theorem taps_bound_reports (icu : WordCharacters) (start : App) (events : List AppEvent) :
    (run (App.step icu) start events).tally ≤ start.tally + events.countP AppEvent.asks :=
  potential_bound (App.step icu) App.tally AppEvent.asks (fun app event => step_tally app icu event) start events

end DuplicatedApps
