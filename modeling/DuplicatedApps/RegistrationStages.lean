import DuplicatedApps.Submission

set_option autoImplicit false

namespace DuplicatedApps

open Runs

def App.over (app : App) (backend : Backend) (calls : Multiset Call) : App :=
  { app with backend := backend, calls := calls }

section Over

variable (app : App) (backend : Backend) (call new : Call)

theorem over_in_flight : call ∈ (app.over backend {call}).calls := Multiset.mem_singleton_self call

theorem over_forget : (app.over backend {call}).forget call = app.over backend 0 := by
  simp [App.over, App.forget]

theorem over_send : (app.over backend 0).send new = app.over backend {new} := rfl

theorem over_execute (executed : Backend) :
    (app.over backend {call}).execute call new executed = app.over executed {new} := by
  rw [App.execute, if_pos (over_in_flight app backend call), over_forget, over_send]
  rfl

end Over

def App.settled (app : App) : App :=
  { app with
    userSession := app.backend.currentUser
    viewControllers := [App.rootController app.backend.currentUser] }

theorem checked_settles (app : App) :
    app.checkAuthentication.rootTransition (App.rootController app.backend.currentUser) = app.settled := by
  simp [App.rootTransition, App.checkAuthentication, App.settled]

section SignUp

variable (icu : WordCharacters) (replies : Replies) (start : App) (signUp : Nat) (form : SignUpForm)
  (request : RegisterUserRequest)

def firstAnswer : Backend × CreateUserResult :=
  start.backend.createUser request.email request.password replies.created

def createdBackend : Backend :=
  (firstAnswer replies start request).1.afterCreateUser (firstAnswer replies start request).2

def writtenBackend (uid : Uid) : Backend :=
  (createdBackend replies start request).setData uid (usersDocument request) replies.written

-- The stages of one registration, by itself, from its tap to the root it leads to.
inductive Solo : App → Prop
  | sent : Solo (start.over start.backend {.createUser signUp request .sent})
  | executed :
      Solo (start.over (firstAnswer replies start request).1
        {.createUser signUp request (.executed (firstAnswer replies start request).2)})
  | received :
      Solo (start.over (createdBackend replies start request)
        {.createUser signUp request (.received (firstAnswer replies start request).2)})
  | refused (error : Option NSError)
      (failed : createUserCallback request (firstAnswer replies start request).2 = .completion false error) :
      Solo ((start.over (createdBackend replies start request) 0).present
        (AlertManager.showRegistrationErrorAlert error))
  | writing (uid : Uid) (created : (firstAnswer replies start request).2 = .user uid) :
      Solo (start.over (createdBackend replies start request) {.setData signUp uid (usersDocument request) .sent})
  | wrote (uid : Uid) (created : (firstAnswer replies start request).2 = .user uid) :
      Solo (start.over (writtenBackend replies start request uid)
        {.setData signUp uid (usersDocument request) (.executed replies.written)})
  | reported (uid : Uid) (created : (firstAnswer replies start request).2 = .user uid) :
      Solo (start.over (writtenBackend replies start request uid)
        {.setData signUp uid (usersDocument request) (.received replies.written)})
  | unwritten (uid : Uid) (error : NSError) (created : (firstAnswer replies start request).2 = .user uid)
      (failed : replies.written = some error) :
      Solo ((start.over (writtenBackend replies start request uid) 0).present
        (AlertManager.showRegistrationErrorAlert (some error)))
  | checked (uid : Uid) (created : (firstAnswer replies start request).2 = .user uid) (done : replies.written = none) :
      Solo (start.over (writtenBackend replies start request uid) 0).checkAuthentication
  | shown (uid : Uid) (created : (firstAnswer replies start request).2 = .user uid) (done : replies.written = none) :
      Solo (start.over (writtenBackend replies start request uid) 0).settled

theorem register_user_failure_effect (app : App) (alive : .signUp signUp ∈ app.viewControllers) (error : Option NSError) :
    app.registerUserCompletion signUp false error = app.present (AlertManager.showRegistrationErrorAlert error) := by
  cases error with
  | some reason => simp [App.registerUserCompletion, alive]
  | none => simp [App.registerUserCompletion, alive]

theorem register_user_success_effect (app : App) (top : app.topViewController = some (.signUp signUp)) :
    app.registerUserCompletion signUp true none = app.checkAuthentication := by
  have alive : .signUp signUp ∈ app.viewControllers := List.mem_of_getLast? top
  simp [App.registerUserCompletion, alive, top]

theorem set_data_completion_effect (app : App) (top : app.topViewController = some (.signUp signUp)) :
    (∀ error, app.registerUserCompletion signUp (setDataCallback (some error)).1 (setDataCallback (some error)).2 =
      app.present (AlertManager.showRegistrationErrorAlert (some error))) ∧
    app.registerUserCompletion signUp (setDataCallback none).1 (setDataCallback none).2 = app.checkAuthentication := by
  have alive : .signUp signUp ∈ app.viewControllers := List.mem_of_getLast? top
  constructor
  · intro error
    exact register_user_failure_effect signUp app alive (some error)
  · exact register_user_success_effect signUp app top

theorem solo_moves (solo next : App) (ends : List Call) (idle : start.Quiescent)
    (top : start.topViewController = some (.signUp signUp)) (stage : Solo replies start signUp request solo)
    (move : Move replies solo ends next) :
    Solo replies start signUp request next := by
  have noTransitions : start.transitions = 0 := idle.2
  have alive : .signUp signUp ∈ start.viewControllers := List.mem_of_getLast? top
  cases stage with
  | sent =>
      rcases single_moves replies _ next _ ends move rfl noTransitions with rfl | rfl
      · exact .sent
      · rw [App.advance, over_execute]
        exact .executed
  | executed =>
      rcases single_moves replies _ next _ ends move rfl noTransitions with rfl | rfl
      · exact .executed
      · rw [App.advance, App.receive_create_user _ _ _ _ (over_in_flight _ _ _), over_forget, over_send]
        exact .received
  | received =>
      rcases single_moves replies _ next _ ends move rfl noTransitions with rfl | rfl
      · exact .received
      · rw [App.advance]
        cases following : createUserCallback request (firstAnswer replies start request).2 with
        | completion wasRegistered error =>
            obtain rfl := create_user_callback_reports request _ wasRegistered error following
            rw [App.complete_create_user_failed _ _ _ _ (over_in_flight _ _ _) false error following, over_forget,
              register_user_failure_effect signUp (start.over (createdBackend replies start request) 0) alive error]
            exact .refused error following
        | setData uid data =>
            obtain ⟨created, rfl⟩ := create_user_callback_writes request _ uid data following
            rw [App.complete_create_user_writes _ _ _ _ (over_in_flight _ _ _) uid _ following, over_forget, over_send]
            exact .writing uid created
  | refused error failed =>
      rw [none_moves replies _ next ends move rfl noTransitions]
      exact .refused error failed
  | writing uid created =>
      rcases single_moves replies _ next _ ends move rfl noTransitions with rfl | rfl
      · exact .writing uid created
      · rw [App.advance, over_execute]
        exact .wrote uid created
  | wrote uid created =>
      rcases single_moves replies _ next _ ends move rfl noTransitions with rfl | rfl
      · exact .wrote uid created
      · rw [App.advance, App.receive_set_data _ _ _ _ _ (over_in_flight _ _ _), over_forget, over_send]
        exact .reported uid created
  | reported uid created =>
      rcases single_moves replies _ next _ ends move rfl noTransitions with rfl | rfl
      · exact .reported uid created
      · rw [App.advance, App.complete_set_data _ _ _ _ _ (over_in_flight _ _ _), over_forget]
        have effect := set_data_completion_effect signUp (start.over (writtenBackend replies start request uid) 0) top
        cases written : replies.written with
        | some error =>
            rw [effect.1]
            exact .unwritten uid error created written
        | none =>
            rw [effect.2]
            exact .checked uid created written
  | unwritten uid error created failed =>
      rw [none_moves replies _ next ends move rfl noTransitions]
      exact .unwritten uid error created failed
  | checked uid created done =>
      cases move with
      | idle => exact .checked uid created done
      | advance call inFlight => exact absurd inFlight (Multiset.notMem_zero call)
      | rootTransition controller pending =>
          rcases Multiset.mem_cons.mp pending with rfl | other
          · rw [checked_settles]
            exact .shown uid created done
          · rw [show (start.over _ 0).transitions = 0 from noTransitions] at other
            exact absurd other (Multiset.notMem_zero controller)
  | shown uid created done =>
      rw [none_moves replies _ next ends move rfl noTransitions]
      exact .shown uid created done

def registrationOutcome : App :=
  let done := Service.registerUser ⟨start.backend, []⟩ request replies.created replies.written
  match done.completions with
  | [.registered false error] =>
      (start.over done.backend 0).present (AlertManager.showRegistrationErrorAlert error)
  | _ => (start.over done.backend 0).settled

theorem registration_refused (error : Option NSError)
    (failed : createUserCallback request (firstAnswer replies start request).2 = .completion false error) :
    registrationOutcome replies start request =
      (start.over (createdBackend replies start request) 0).present (AlertManager.showRegistrationErrorAlert error) := by
  simp only [firstAnswer] at failed
  simp [registrationOutcome, Service.registerUser, failed, Service.complete, createdBackend, firstAnswer]

theorem registration_written (uid : Uid) (created : (firstAnswer replies start request).2 = .user uid) :
    Service.registerUser ⟨start.backend, []⟩ request replies.created replies.written =
      ⟨writtenBackend replies start request uid,
        [.registered (setDataCallback replies.written).1 (setDataCallback replies.written).2]⟩ := by
  simp only [firstAnswer] at created
  simp [Service.registerUser, created, createUserCallback, Service.complete, writtenBackend, createdBackend,
    firstAnswer]

theorem solo_outcome (solo : App) (stage : Solo replies start signUp request solo) (quiescent : solo.Quiescent) :
    solo = registrationOutcome replies start request := by
  obtain ⟨noCalls, noTransitions⟩ := quiescent
  cases stage with
  | refused error failed => exact (registration_refused replies start request error failed).symm
  | unwritten uid error created failed =>
      rw [registrationOutcome, registration_written replies start request uid created, failed]
      rfl
  | shown uid created done =>
      rw [registrationOutcome, registration_written replies start request uid created, done]
      rfl
  | checked uid created done => exact absurd noTransitions Multiset.cons_ne_zero
  | sent => exact absurd noCalls (Multiset.singleton_ne_zero _)
  | executed => exact absurd noCalls (Multiset.singleton_ne_zero _)
  | received => exact absurd noCalls (Multiset.singleton_ne_zero _)
  | writing uid created => exact absurd noCalls (Multiset.singleton_ne_zero _)
  | wrote uid created => exact absurd noCalls (Multiset.singleton_ne_zero _)
  | reported uid created => exact absurd noCalls (Multiset.singleton_ne_zero _)

end SignUp

end DuplicatedApps
