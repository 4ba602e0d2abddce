import DuplicatedApps.App

set_option autoImplicit false

namespace DuplicatedApps

open Runs

-- The backend answers alike every time it is asked alike; in which order it executes and
-- answers the requests, and how that falls between the taps, is left open.
structure Replies where
  signIn : SignInResult
  created : CreateUserResult
  written : Option NSError

namespace Replies

def Executes (replies : Replies) : AppEvent → Prop
  | .executeSignIn _ _ answer => answer = replies.signIn
  | .executeCreateUser _ _ outcome => outcome = replies.created
  | .executeSetData _ _ _ answer => answer = replies.written
  | .receive _ => True
  | _ => False

def Handles (replies : Replies) : AppEvent → Prop
  | .complete _ => True
  | .rootTransition _ => True
  | event => replies.Executes event

instance (replies : Replies) (event : AppEvent) : Decidable (replies.Executes event) :=
  match event with
  | .executeSignIn _ _ answer => inferInstanceAs (Decidable (answer = replies.signIn))
  | .executeCreateUser _ _ outcome => inferInstanceAs (Decidable (outcome = replies.created))
  | .executeSetData _ _ _ answer => inferInstanceAs (Decidable (answer = replies.written))
  | .receive _ => inferInstanceAs (Decidable True)
  | .willConnect | .didTapGetStarted | .handleCreateAccountTap | .didTapSignIn _ | .didTapSignUp _
  | .popViewController | .complete _ | .rootTransition _ | .writeMutation .. => inferInstanceAs (Decidable False)

instance (replies : Replies) (event : AppEvent) : Decidable (replies.Handles event) :=
  match event with
  | .complete _ | .rootTransition _ => inferInstanceAs (Decidable True)
  | .executeSignIn login request answer =>
      inferInstanceAs (Decidable (replies.Executes (.executeSignIn login request answer)))
  | .executeCreateUser signUp request outcome =>
      inferInstanceAs (Decidable (replies.Executes (.executeCreateUser signUp request outcome)))
  | .executeSetData signUp uid data answer =>
      inferInstanceAs (Decidable (replies.Executes (.executeSetData signUp uid data answer)))
  | .receive call => inferInstanceAs (Decidable (replies.Executes (.receive call)))
  | .willConnect | .didTapGetStarted | .handleCreateAccountTap | .didTapSignIn _ | .didTapSignUp _
  | .popViewController | .writeMutation .. => inferInstanceAs (Decidable False)

end Replies

inductive Taps (tap : AppEvent) (replies : Replies) : Nat → List AppEvent → Prop
  | done : Taps tap replies 0 []
  | tap (taps : Nat) (rest : List AppEvent) (more : Taps tap replies taps rest) :
      Taps tap replies (taps + 1) (tap :: rest)
  | backend (taps : Nat) (event : AppEvent) (rest : List AppEvent) (executes : replies.Executes event)
      (more : Taps tap replies taps rest) : Taps tap replies taps (event :: rest)

structure Submission (icu : WordCharacters) (replies : Replies) (tap : AppEvent) (taps : Nat) (start : App)
    (events : List AppEvent) : Prop where
  parts : ∃ before after, Taps tap replies taps before ∧ (∀ event ∈ after, replies.Handles event) ∧ events = before ++ after
  quiescent : (run (App.step icu) start events).Quiescent

-- The completions of createUser that run when their sign-up screen has left the stack.
def App.unheard (app : App) : Call → Bool
  | .createUser signUp _ _ => decide (.signUp signUp ∉ app.viewControllers)
  | _ => false

def App.endsUnheard (app : App) (event : AppEvent) : List Call := (app.completes event).filter app.unheard

def App.advance (replies : Replies) (app : App) : Call → App
  | .signIn login request .sent =>
      app.execute (.signIn login request .sent) (.signIn login request (.executed replies.signIn)) app.backend
  | .createUser signUp request .sent =>
      let answer := app.backend.createUser request.email request.password replies.created
      app.execute (.createUser signUp request .sent) (.createUser signUp request (.executed answer.2)) answer.1
  | .setData signUp uid data .sent =>
      app.execute (.setData signUp uid data .sent) (.setData signUp uid data (.executed replies.written))
        (app.backend.setData uid data replies.written)
  | .signIn login request (.executed answer) => app.receive (.signIn login request (.executed answer))
  | .createUser signUp request (.executed answer) => app.receive (.createUser signUp request (.executed answer))
  | .setData signUp uid data (.executed answer) => app.receive (.setData signUp uid data (.executed answer))
  | .signIn login request (.received answer) => app.complete (.signIn login request (.received answer))
  | .createUser signUp request (.received answer) => app.complete (.createUser signUp request (.received answer))
  | .setData signUp uid data (.received answer) => app.complete (.setData signUp uid data (.received answer))

inductive Move (replies : Replies) (app : App) : List Call → App → Prop
  | idle : Move replies app [] app
  | advance (call : Call) (inFlight : call ∈ app.calls) :
      Move replies app (app.endsUnheard (.complete call)) (app.advance replies call)
  | rootTransition (controller : Screen) (pending : controller ∈ app.transitions) :
      Move replies app [] (app.rootTransition controller)

section Moves

variable (icu : WordCharacters) (replies : Replies) (app : App)

theorem execute_absent (call executed : Call) (backend : Backend) (absent : call ∉ app.calls) :
    app.execute call executed backend = app := if_neg absent

theorem receive_moves (call : Call) : Move replies app [] (app.receive call) := by
  rcases App.receive_cases app call with same | ⟨inFlight, executed⟩
  · rw [same]
    exact .idle
  · rcases executed with ⟨login, request, answer, rfl⟩ | ⟨signUp, request, answer, rfl⟩ | ⟨signUp, uid, data, answer, rfl⟩
    · exact .advance _ inFlight
    · exact .advance _ inFlight
    · exact .advance _ inFlight

theorem complete_moves (call : Call) : Move replies app (app.endsUnheard (.complete call)) (app.complete call) := by
  rcases App.complete_cases app call with ⟨none, same⟩ | ⟨inFlight, received⟩
  · rw [same, App.endsUnheard, none]
    exact .idle
  · rcases received with ⟨login, request, answer, rfl⟩ | ⟨signUp, request, answer, rfl⟩ | ⟨signUp, uid, data, answer, rfl⟩
    · exact .advance _ inFlight
    · exact .advance _ inFlight
    · exact .advance _ inFlight

theorem handles_moves (event : AppEvent) (handles : replies.Handles event) :
    Move replies app (app.endsUnheard event) (app.step icu event) := by
  cases event with
  | executeSignIn login request answer =>
      obtain rfl : answer = replies.signIn := handles
      by_cases inFlight : .signIn login request .sent ∈ app.calls
      · exact .advance _ inFlight
      · rw [App.step, execute_absent app _ _ _ inFlight]
        exact .idle
  | executeCreateUser signUp request outcome =>
      obtain rfl : outcome = replies.created := handles
      by_cases inFlight : .createUser signUp request .sent ∈ app.calls
      · exact .advance _ inFlight
      · rw [App.step, execute_absent app _ _ _ inFlight]
        exact .idle
  | executeSetData signUp uid data answer =>
      obtain rfl : answer = replies.written := handles
      by_cases inFlight : .setData signUp uid data .sent ∈ app.calls
      · exact .advance _ inFlight
      · rw [App.step, execute_absent app _ _ _ inFlight]
        exact .idle
  | receive call => exact receive_moves replies app call
  | complete call => exact complete_moves replies app call
  | rootTransition controller =>
      by_cases pending : controller ∈ app.transitions
      · exact .rootTransition controller pending
      · rw [App.step, App.rootTransition, if_neg pending]
        exact .idle
  | willConnect => exact absurd handles id
  | didTapGetStarted => exact absurd handles id
  | handleCreateAccountTap => exact absurd handles id
  | didTapSignIn form => exact absurd handles id
  | didTapSignUp form => exact absurd handles id
  | popViewController => exact absurd handles id
  | writeMutation uid data answer => exact absurd handles id

theorem executes_handles (event : AppEvent) (executes : replies.Executes event) : replies.Handles event := by
  cases event with
  | complete call => trivial
  | rootTransition controller => trivial
  | _ => exact executes

end Moves

section Single

variable (replies : Replies) (app next : App) (call : Call) (ends : List Call)

theorem none_moves (move : Move replies app ends next) (none : app.calls = 0) (settled : app.transitions = 0) :
    next = app := by
  cases move with
  | idle => rfl
  | advance other inFlight =>
      rw [none] at inFlight
      exact absurd inFlight (Multiset.notMem_zero other)
  | rootTransition controller pending =>
      rw [settled] at pending
      exact absurd pending (Multiset.notMem_zero controller)

theorem single_moves (move : Move replies app ends next) (only : app.calls = {call}) (settled : app.transitions = 0) :
    next = app ∨ next = app.advance replies call := by
  cases move with
  | idle => exact .inl rfl
  | advance other inFlight =>
      rw [only, Multiset.mem_singleton] at inFlight
      rw [inFlight]
      exact .inr rfl
  | rootTransition controller pending =>
      rw [settled] at pending
      exact absurd pending (Multiset.notMem_zero controller)

end Single

theorem taps_rule (icu : WordCharacters) (replies : Replies) (tap : AppEvent) (Inv : Nat → App → Prop)
    (tapped : ∀ count app, Inv count app → Inv (count + 1) (app.step icu tap))
    (executed : ∀ count app event, Inv count app → replies.Executes event → Inv count (app.step icu event))
    (taps : Nat) (events : List AppEvent) (tapping : Taps tap replies taps events) (count : Nat) (app : App)
    (holds : Inv count app) : Inv (count + taps) (run (App.step icu) app events) := by
  induction tapping generalizing count app with
  | done => exact holds
  | tap taps rest more ih =>
      have next := ih (count + 1) (app.step icu tap) (tapped count app holds)
      rw [run_cons, show count + (taps + 1) = count + 1 + taps by omega]
      exact next
  | backend taps event rest executes more ih => exact ih count _ (executed count app event holds executes)

section Exchange

variable (calls : Multiset Call) (call next : Call)

theorem exchange_all (P : Call → Prop) (all : ∀ other ∈ calls, P other) (new : P next) :
    ∀ other ∈ next ::ₘ calls.erase call, P other := by
  intro other member
  rcases Multiset.mem_cons.mp member with rfl | old
  · exact new
  · exact all other (Multiset.mem_of_mem_erase old)

theorem exchange_count (p : Call → Bool) (inFlight : call ∈ calls) :
    (next ::ₘ calls.erase call).countP (fun other => p other = true) + (if p call = true then 1 else 0) =
      calls.countP (fun other => p other = true) + (if p next = true then 1 else 0) := by
  have before := congrArg (Multiset.countP fun other => p other = true) (Multiset.cons_erase inFlight)
  rw [Multiset.countP_cons] at before
  rw [Multiset.countP_cons]
  omega

end Exchange

end DuplicatedApps
