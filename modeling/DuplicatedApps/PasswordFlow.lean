import DuplicatedApps.AuthService
import DuplicatedApps.Runs

set_option autoImplicit false

namespace DuplicatedApps

open Runs

-- The operation with its password blotted out; equal images differ in passwords only.
def Operation.withoutPassword : Operation → Operation
  | .registerUser request created written => .registerUser ⟨request.username, request.email, []⟩ created written
  | .signIn request answer => .signIn ⟨request.email, []⟩ answer
  | .signOut answer => .signOut answer

def Document.withoutPassword (document : Document) : Document := document.filter fun entry => entry.1 != "password"

structure Observation where
  users : Uid → Option Document
  currentUser : Option Uid
  completions : List Completion

def observe (service : Service) : Observation :=
  ⟨service.backend.users, service.backend.currentUser, service.completions⟩

def observeWithoutPassword (service : Service) : Observation :=
  ⟨fun uid => (service.backend.users uid).map Document.withoutPassword, service.backend.currentUser, service.completions⟩

structure SameButPasswords (a b : Service) : Prop where
  firebase : a.backend.firebase = b.backend.firebase
  accounts : a.backend.accounts.map (fun account => (account.uid, account.email)) =
    b.backend.accounts.map (fun account => (account.uid, account.email))
  observed : observeWithoutPassword a = observeWithoutPassword b

theorem taken_by_keys (backend : Backend) (email : Text) (uid : Uid) :
    backend.taken email uid =
      (backend.accounts.map fun account => (account.uid, account.email)).any fun key => key.2 == email || key.1 == uid := by
  simp [Backend.taken, taken, List.any_map, Function.comp_def]

theorem same_taken (a b : Service) (same : SameButPasswords a b) (email : Text) (uid : Uid) :
    a.backend.taken email uid = b.backend.taken email uid := by
  rw [taken_by_keys, taken_by_keys, same.accounts]

theorem same_complete (a b : Service) (next other : Backend) (completion : Completion)
    (firebase : next.firebase = other.firebase)
    (accounts : next.accounts.map (fun account => (account.uid, account.email)) =
      other.accounts.map (fun account => (account.uid, account.email)))
    (users : ∀ uid, (next.users uid).map Document.withoutPassword = (other.users uid).map Document.withoutPassword)
    (session : next.currentUser = other.currentUser) (reported : a.completions = b.completions) :
    SameButPasswords (a.complete next completion) (b.complete other completion) := by
  refine ⟨firebase, accounts, ?_⟩
  simp [observeWithoutPassword, Service.complete, funext users, session, reported]

theorem same_fields (a b : Service) (same : SameButPasswords a b) :
    (∀ uid, (a.backend.users uid).map Document.withoutPassword = (b.backend.users uid).map Document.withoutPassword) ∧
      a.backend.currentUser = b.backend.currentUser ∧ a.completions = b.completions := by
  have observed := same.observed
  simp only [observeWithoutPassword, Observation.mk.injEq] at observed
  exact ⟨congrFun observed.1, observed.2⟩

theorem document_without_password (request other : RegisterUserRequest) (username : request.username = other.username)
    (email : request.email = other.email) :
    (usersDocument request).withoutPassword = (usersDocument other).withoutPassword := by
  simp [Document.withoutPassword, usersDocument, username, email]

theorem same_document (a b : Service) (same : SameButPasswords a b) (uid : Uid) (request other : RegisterUserRequest)
    (alike : (usersDocument request).withoutPassword = (usersDocument other).withoutPassword) (key : Uid) :
    (Function.update a.backend.users uid (some (usersDocument request)) key).map Document.withoutPassword =
      (Function.update b.backend.users uid (some (usersDocument other)) key).map Document.withoutPassword := by
  by_cases here : key = uid
  · subst key
    rw [Function.update_self, Function.update_self, Option.map_some, Option.map_some, alike]
  · rw [Function.update_of_ne here, Function.update_of_ne here]
    exact (same_fields a b same).1 key

theorem register_user_same (a b : Service) (request other : RegisterUserRequest) (created : CreateUserResult)
    (written : Option NSError) (same : SameButPasswords a b) (username : request.username = other.username)
    (email : request.email = other.email) :
    SameButPasswords (a.registerUser request created written) (b.registerUser other created written) := by
  obtain ⟨users, session, reported⟩ := same_fields a b same
  by_cases made : ∃ uid, created = .user uid
  · obtain ⟨uid, rfl⟩ := made
    have answered := same_taken a b same request.email uid
    rw [email] at answered
    cases used : b.backend.taken other.email uid with
    | true =>
        rw [used, ← email] at answered
        rw [Service.registerUser, Service.registerUser, create_user_used _ _ _ _ answered, create_user_used _ _ _ _ used,
          same.firebase]
        exact same_complete a b _ _ _ same.firebase same.accounts users session reported
    | false =>
        rw [used, ← email] at answered
        rw [Service.registerUser, Service.registerUser, create_user_free _ _ _ _ answered, create_user_free _ _ _ _ used]
        have accounts : ((uid, request.email) :: a.backend.accounts.map fun account => (account.uid, account.email)) =
            (uid, other.email) :: b.backend.accounts.map fun account => (account.uid, account.email) := by
          rw [same.accounts, email]
        cases written with
        | some error =>
            refine same_complete a b _ _ _ same.firebase accounts ?_ rfl reported
            rw [set_data_rejected, set_data_rejected]
            exact users
        | none =>
            refine same_complete a b _ _ _ same.firebase accounts ?_ rfl reported
            intro key
            rw [set_data_stored, set_data_stored]
            exact same_document a b same uid request other (document_without_password request other username email) key
  · have failed : ∀ uid, created ≠ .user uid := fun uid other => made ⟨uid, other⟩
    rw [Service.registerUser, Service.registerUser, create_user_failed _ _ _ _ failed, create_user_failed _ _ _ _ failed]
    cases created with
    | user uid => exact absurd rfl (failed uid)
    | error error => exact same_complete a b _ _ _ same.firebase same.accounts users session reported
    | noUser => exact same_complete a b _ _ _ same.firebase same.accounts users session reported

theorem step_same (a b : Service) (operation other : Operation) (same : SameButPasswords a b)
    (alike : operation.withoutPassword = other.withoutPassword) : SameButPasswords (a.step operation) (b.step other) := by
  obtain ⟨users, session, reported⟩ := same_fields a b same
  cases operation with
  | registerUser request created written =>
      cases other with
      | registerUser request' created' written' =>
          simp only [Operation.withoutPassword, Operation.registerUser.injEq, RegisterUserRequest.mk.injEq] at alike
          obtain ⟨⟨username, email, _⟩, rfl, rfl⟩ := alike
          exact register_user_same a b request request' created written same username email
      | signIn request' answer' => cases alike
      | signOut answer' => cases alike
  | signIn request answer =>
      cases other with
      | registerUser request' created' written' => cases alike
      | signIn request' answer' =>
          simp only [Operation.withoutPassword, Operation.signIn.injEq] at alike
          obtain ⟨_, rfl⟩ := alike
          cases answer with
          | error error => exact same_complete a b _ _ _ same.firebase same.accounts users session reported
          | user uid => exact same_complete a b _ _ _ same.firebase same.accounts users rfl reported
      | signOut answer' => cases alike
  | signOut answer =>
      cases other with
      | registerUser request' created' written' => cases alike
      | signIn request' answer' => cases alike
      | signOut answer' =>
          simp only [Operation.withoutPassword, Operation.signOut.injEq] at alike
          subst alike
          cases answer with
          | none => exact same_complete a b _ _ _ same.firebase same.accounts users rfl reported
          | some error => exact same_complete a b _ _ _ same.firebase same.accounts users session reported

-- At every step the two runs agree on the session, on what was reported and on
-- the users collection but for the entry that registerUser fills with the password.
theorem passwords_stay_in_their_field (start : Service) (operations others : List Operation)
    (alike : operations.map Operation.withoutPassword = others.map Operation.withoutPassword) :
    (trace Service.step start operations).map observeWithoutPassword =
      (trace Service.step start others).map observeWithoutPassword := by
  have pairs : List.Forall₂ (fun e f => Operation.withoutPassword e = Operation.withoutPassword f) operations others := by
    rwa [← List.forall₂_eq_eq_eq, List.forall₂_map_left_iff, List.forall₂_map_right_iff] at alike
  have states := related_traces Service.step SameButPasswords _ (fun a b e f => step_same a b e f) start start
    operations others ⟨rfl, rfl, rfl⟩ pairs
  rw [← List.forall₂_eq_eq_eq, List.forall₂_map_left_iff, List.forall₂_map_right_iff]
  exact states.imp fun _ _ same => same.observed

def registerWith (password : Text) : Operation :=
  .registerUser ⟨['a', 'n', 'n', 'a'], ['a', '@', 'b', '.', 'c', 'o'], password⟩ (.user "u1") none

def visitsWith (password : Text) : List Operation :=
  [registerWith password, registerWith password, .signOut none, .signIn ⟨['a', '@', 'b', '.', 'c', 'o'], password⟩ (.user "u1"),
    .signOut (some ⟨"keychain"⟩)]

theorem passwords_stay_in_their_field_pair :
    (trace Service.step emptyService (visitsWith ['A', 'b', '1', '#', 'x', 'y'])).map observeWithoutPassword =
      (trace Service.step emptyService (visitsWith ['C', 'd', '2', '!', 'z', 'w'])).map observeWithoutPassword :=
  passwords_stay_in_their_field emptyService _ _ rfl

theorem users_document_holds_password :
    [registerWith ['A', 'b', '1', '#', 'x', 'y']].map Operation.withoutPassword =
        [registerWith ['C', 'd', '2', '!', 'z', 'w']].map Operation.withoutPassword ∧
      (trace Service.step emptyService [registerWith ['A', 'b', '1', '#', 'x', 'y']]).map observe ≠
        (trace Service.step emptyService [registerWith ['C', 'd', '2', '!', 'z', 'w']]).map observe := by
  refine ⟨rfl, fun same => ?_⟩
  have stored := congrArg (fun states : List Observation => states.map fun state => state.users "u1") same
  exact absurd stored (by decide)

end DuplicatedApps
