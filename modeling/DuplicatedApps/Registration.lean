import DuplicatedApps.AuthService
import DuplicatedApps.Runs

set_option autoImplicit false

namespace DuplicatedApps

open Runs

def Registered (backend : Backend) (request : RegisterUserRequest) : Prop :=
  ∃ uid, backend.currentUser = some uid ∧
    (∃ account ∈ backend.accounts, account.uid = uid ∧ account.email = request.email) ∧
    ∃ document, backend.users uid = some document ∧
      document.lookup "username" = some request.username ∧ document.lookup "email" = some request.email

structure AllOrNothing (service : Service) (request : RegisterUserRequest) (created : CreateUserResult)
    (written : Option NSError) : Prop where
  once : ∃ wasRegistered error, (service.registerUser request created written).completions =
    service.completions ++ [.registered wasRegistered error]
  success : (service.registerUser request created written).completions =
      service.completions ++ [.registered true none] →
    Registered (service.registerUser request created written).backend request
  failure : ∀ error, (service.registerUser request created written).completions =
      service.completions ++ [.registered false error] →
    (service.registerUser request created written).backend = service.backend
  -- A second attempt gets the answer it would have got without the failed one.
  retry : ∀ error, (service.registerUser request created written).completions =
      service.completions ++ [.registered false error] →
    ∀ outcome, ((service.registerUser request created written).backend.createUser
        request.email request.password outcome).2 =
      (service.backend.createUser request.email request.password outcome).2

def WritesThrough (backend : Backend) (request : RegisterUserRequest) (created : CreateUserResult)
    (written : Option NSError) : Prop :=
  ∀ uid, created = .user uid → backend.taken request.email uid = false → written = none

def Operation.WritesThrough (service : Service) : Operation → Prop
  | .registerUser request created written => DuplicatedApps.WritesThrough service.backend request created written
  | _ => True

def AccountsHaveDocuments (start backend : Backend) : Prop :=
  ∀ account ∈ backend.accounts, account ∈ start.accounts ∨
    ∃ document, backend.users account.uid = some document ∧ document.lookup "email" = some account.email

theorem with_account_changes (backend : Backend) (request : RegisterUserRequest) (uid : Uid) :
    backend.withAccount request uid ≠ backend := by
  intro same
  have lengths := congrArg (fun b => b.accounts.length) same
  simp [Backend.withAccount] at lengths

theorem registered_after_writes (backend : Backend) (request : RegisterUserRequest) (uid : Uid) :
    Registered ((backend.withAccount request uid).setData uid (usersDocument request) none) request := by
  refine ⟨uid, rfl, ⟨_, List.mem_cons_self, rfl, rfl⟩, usersDocument request, ?_, rfl, rfl⟩
  rw [set_data_stored]
  exact Function.update_self _ _ _

theorem complete_completions (service : Service) (backend : Backend) (reported expected : Completion) :
    (service.complete backend reported).completions = service.completions ++ [expected] ↔ reported = expected := by
  simp [Service.complete]

theorem complete_reports_only (service : Service) (backend : Backend) (reported expected : Completion)
    (other : reported ≠ expected) :
    (service.complete backend reported).completions ≠ service.completions ++ [expected] := by
  intro found
  exact other ((complete_completions service backend reported expected).mp found)

theorem all_or_nothing_iff (service : Service) (request : RegisterUserRequest) (created : CreateUserResult)
    (written : Option NSError) :
    AllOrNothing service request created written ↔ WritesThrough service.backend request created written := by
  rcases register_user_cases service request created written with rejected | partialWrite | finished
  · obtain ⟨error, used, after⟩ := rejected
    refine ⟨fun _ uid eq free => ?_, fun _ => ?_⟩
    · rw [used uid eq] at free
      cases free
    · refine ⟨⟨false, error, by rw [after]; rfl⟩, ?_, ?_, ?_⟩
      · rw [after]
        intro reported
        exact absurd reported (complete_reports_only _ _ _ _ (by simp))
      · rw [after]
        exact fun _ _ => rfl
      · rw [after]
        exact fun _ _ _ => rfl
  · obtain ⟨uid, error, eq, free, failed, after⟩ := partialWrite
    refine ⟨fun holds => ?_, fun writes => ?_⟩
    · have unchanged := holds.failure (some error) (by rw [after]; rfl)
      rw [after] at unchanged
      exact absurd unchanged (with_account_changes _ _ _)
    · rw [writes uid eq free] at failed
      cases failed
  · obtain ⟨uid, eq, free, stored, after⟩ := finished
    refine ⟨fun _ _ _ _ => stored, fun _ => ?_⟩
    refine ⟨⟨true, none, by rw [after]; rfl⟩, ?_, ?_, ?_⟩
    · rw [after]
      exact fun _ => registered_after_writes service.backend request uid
    · rw [after]
      intro error reported
      exact absurd reported (complete_reports_only _ _ _ _ (by simp))
    · rw [after]
      intro error reported
      exact absurd reported (complete_reports_only _ _ _ _ (by simp))

theorem free_uid_fresh (backend : Backend) (email : Text) (uid : Uid) (free : backend.taken email uid = false) :
    ∀ account ∈ backend.accounts, account.uid ≠ uid := by
  intro account member same
  have used : backend.taken email uid = true := by
    simp only [Backend.taken, taken, List.any_eq_true]
    exact ⟨account, member, by simp [same]⟩
  rw [used] at free
  cases free

theorem registration_keeps_documents (start : Backend) (service : Service) (request : RegisterUserRequest)
    (created : CreateUserResult) (written : Option NSError) (holds : AccountsHaveDocuments start service.backend)
    (writes : WritesThrough service.backend request created written) :
    AccountsHaveDocuments start (service.registerUser request created written).backend := by
  rcases register_user_cases service request created written with rejected | partialWrite | finished
  · obtain ⟨_, _, after⟩ := rejected
    rw [after]
    exact holds
  · obtain ⟨uid, error, eq, free, failed, _⟩ := partialWrite
    rw [writes uid eq free] at failed
    cases failed
  · obtain ⟨uid, eq, free, _, after⟩ := finished
    rw [after]
    intro account member
    rcases List.mem_cons.mp member with same | older
    · refine .inr ⟨usersDocument request, ?_, ?_⟩
      · rw [same, Service.complete, set_data_stored]
        exact Function.update_self _ _ _
      · rw [same]
        rfl
    · have apart := free_uid_fresh service.backend request.email uid free account older
      have kept : ((service.backend.withAccount request uid).setData uid (usersDocument request) none).users account.uid =
          service.backend.users account.uid := by
        rw [set_data_stored]
        exact Function.update_of_ne apart _ _
      rcases holds account older with before | documented
      · exact .inl before
      · exact .inr (by simpa only [Service.complete, kept] using documented)

theorem step_keeps_documents (start : Backend) (service : Service) (operation : Operation)
    (holds : AccountsHaveDocuments start service.backend) (writes : operation.WritesThrough service) :
    AccountsHaveDocuments start (service.step operation).backend := by
  cases operation with
  | registerUser request created written =>
      exact registration_keeps_documents start service request created written holds writes
  | signIn request answer => cases answer <;> exact holds
  | signOut answer => cases answer <;> exact holds

-- One call is all or nothing exactly when an account it creates is also written
-- through; runs of such calls leave no account without its document.
theorem registration_all_or_nothing (service : Service) (request : RegisterUserRequest) (created : CreateUserResult)
    (written : Option NSError) (operations : List Operation) :
    (AllOrNothing service request created written ↔ WritesThrough service.backend request created written) ∧
    (Along Service.step (fun reached operation => operation.WritesThrough reached) service operations →
      ∀ reached ∈ trace Service.step service operations, AccountsHaveDocuments service.backend reached.backend) := by
  constructor
  · exact all_or_nothing_iff service request created written
  · intro along
    apply invariant_trace Service.step (fun reached operation => operation.WritesThrough reached)
      (fun reached => AccountsHaveDocuments service.backend reached.backend) _ service operations _ along
    · exact step_keeps_documents service.backend
    · intro account member
      exact .inl member

def sampleRequest : RegisterUserRequest :=
  ⟨['a', 'n', 'n', 'a'], ['a', '@', 'b', '.', 'c', 'o'], ['A', 'b', '1', '#', 'x', 'y']⟩

def permissionDenied : NSError := ⟨"Missing or insufficient permissions."⟩

theorem registration_partial_write :
    (emptyService.registerUser sampleRequest (.user "u1") (some permissionDenied)).completions =
        [.registered false (some permissionDenied)] ∧
      (emptyService.registerUser sampleRequest (.user "u1") (some permissionDenied)).backend.currentUser = some "u1" ∧
      (emptyService.registerUser sampleRequest (.user "u1") (some permissionDenied)).backend.users "u1" = none ∧
      ((emptyService.registerUser sampleRequest (.user "u1") (some permissionDenied)).backend.createUser
        sampleRequest.email sampleRequest.password (.user "u2")).2 = .error documentedFirebase.emailAlreadyInUse ∧
      ¬ AllOrNothing emptyService sampleRequest (.user "u1") (some permissionDenied) := by
  refine ⟨by decide, by decide, by decide, by decide, fun holds => ?_⟩
  have unchanged := holds.failure (some permissionDenied) (by decide)
  have session := congrArg Backend.currentUser unchanged
  exact absurd session (by decide)

end DuplicatedApps
