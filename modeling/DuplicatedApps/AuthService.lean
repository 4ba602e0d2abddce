import Mathlib.Logic.Function.Basic
import DuplicatedApps.Foundation

set_option autoImplicit false

namespace DuplicatedApps

abbrev Uid := String

structure NSError where
  localizedDescription : String
deriving DecidableEq

structure RegisterUserRequest where
  username : Text
  email : Text
  password : Text
deriving DecidableEq

structure LoginUserRequest where
  email : Text
  password : Text
deriving DecidableEq

structure Account where
  uid : Uid
  email : Text
  password : Text
deriving DecidableEq

abbrev Document := List (String × Text)

inductive CreateUserResult where
  | error (error : NSError)
  | noUser
  | user (uid : Uid)
deriving DecidableEq

inductive SignInResult where
  | error (error : NSError)
  | user (uid : Uid)
deriving DecidableEq

def taken (accounts : List Account) (email : Text) (uid : Uid) : Bool :=
  accounts.any fun account => account.email == email || account.uid == uid

-- The service behind the SDK is not in the repository. This is what the app relies on:
-- an email or uid in use is refused, what is answered by an error changes nothing, and
-- what is stored is stored verbatim.
structure Firebase where
  emailAlreadyInUse : NSError
  createUser : List Account → Text → Text → CreateUserResult → List Account × CreateUserResult
  setData : (Uid → Option Document) → Uid → Document → Option NSError → Uid → Option Document
  created : ∀ accounts email password uid, taken accounts email uid = false →
    createUser accounts email password (.user uid) = (⟨uid, email, password⟩ :: accounts, .user uid)
  clash : ∀ accounts email password uid, taken accounts email uid = true →
    createUser accounts email password (.user uid) = (accounts, .error emailAlreadyInUse)
  failed : ∀ accounts email password outcome, (∀ uid, outcome ≠ .user uid) →
    createUser accounts email password outcome = (accounts, outcome)
  stored : ∀ users uid data, setData users uid data none = Function.update users uid (some data)
  rejected : ∀ users uid data error, setData users uid data (some error) = users

structure Backend where
  firebase : Firebase
  accounts : List Account
  users : Uid → Option Document
  currentUser : Option Uid

namespace Backend

def taken (backend : Backend) (email : Text) (uid : Uid) : Bool := DuplicatedApps.taken backend.accounts email uid

def createUser (backend : Backend) (email password : Text) (outcome : CreateUserResult) :
    Backend × CreateUserResult :=
  let answer := backend.firebase.createUser backend.accounts email password outcome
  ({ backend with accounts := answer.1 }, answer.2)

def setCurrentUser (backend : Backend) (user : Option Uid) : Backend := { backend with currentUser := user }

-- updateCurrentUser, which precedes the completion of a successful createUser.
def afterCreateUser (backend : Backend) : CreateUserResult → Backend
  | .user uid => backend.setCurrentUser (some uid)
  | _ => backend

def afterSignIn (backend : Backend) : SignInResult → Backend
  | .user uid => backend.setCurrentUser (some uid)
  | .error _ => backend

def setData (backend : Backend) (uid : Uid) (data : Document) (answer : Option NSError) : Backend :=
  { backend with users := backend.firebase.setData backend.users uid data answer }

end Backend

inductive RegisterStep where
  | completion (wasRegistered : Bool) (error : Option NSError)
  | setData (uid : Uid) (data : Document)

def usersDocument (request : RegisterUserRequest) : Document :=
  [("username", request.username), ("email", request.email), ("password", request.password)]

def createUserCallback (request : RegisterUserRequest) : CreateUserResult → RegisterStep
  | .error error => .completion false (some error)
  | .noUser => .completion false none
  | .user uid => .setData uid (usersDocument request)

def setDataCallback : Option NSError → Bool × Option NSError
  | some error => (false, some error)
  | none => (true, none)

def signInCallback : SignInResult → Option NSError
  | .error error => some error
  | .user _ => none

inductive Completion where
  | registered (wasRegistered : Bool) (error : Option NSError)
  | signedIn (error : Option NSError)
  | signedOut (error : Option NSError)
deriving DecidableEq

structure Service where
  backend : Backend
  completions : List Completion

def documentedFirebase : Firebase where
  emailAlreadyInUse := ⟨"The email address is already in use by another account."⟩
  createUser accounts email password
    | .user uid =>
        if taken accounts email uid then
          (accounts, .error ⟨"The email address is already in use by another account."⟩)
        else (⟨uid, email, password⟩ :: accounts, .user uid)
    | failure => (accounts, failure)
  setData users uid data
    | some _ => users
    | none => Function.update users uid (some data)
  created accounts email password uid free := by simp [free]
  clash accounts email password uid used := by simp [used]
  failed accounts email password outcome other := by
    cases outcome with
    | user uid => exact absurd rfl (other uid)
    | error error => rfl
    | noUser => rfl
  stored users uid data := rfl
  rejected users uid data error := rfl

def emptyBackend : Backend := ⟨documentedFirebase, [], fun _ => none, none⟩
def emptyService : Service := ⟨emptyBackend, []⟩

namespace Service

def complete (service : Service) (backend : Backend) (completion : Completion) : Service :=
  ⟨backend, service.completions ++ [completion]⟩

def registerUser (service : Service) (request : RegisterUserRequest) (created : CreateUserResult)
    (written : Option NSError) : Service :=
  let answer := service.backend.createUser request.email request.password created
  let backend := answer.1.afterCreateUser answer.2
  match createUserCallback request answer.2 with
  | .completion wasRegistered error => service.complete backend (.registered wasRegistered error)
  | .setData uid data =>
      let reported := setDataCallback written
      service.complete (backend.setData uid data written) (.registered reported.1 reported.2)

def signIn (service : Service) (_request : LoginUserRequest) (answer : SignInResult) : Service :=
  service.complete (service.backend.afterSignIn answer) (.signedIn (signInCallback answer))

def signOut (service : Service) : Option NSError → Service
  | none => service.complete (service.backend.setCurrentUser none) (.signedOut none)
  | some error => service.complete service.backend (.signedOut (some error))

end Service

inductive Operation where
  | registerUser (request : RegisterUserRequest) (created : CreateUserResult) (written : Option NSError)
  | signIn (request : LoginUserRequest) (answer : SignInResult)
  | signOut (answer : Option NSError)

def Service.step (service : Service) : Operation → Service
  | .registerUser request created written => service.registerUser request created written
  | .signIn request answer => service.signIn request answer
  | .signOut answer => service.signOut answer

section Specification

variable (backend : Backend) (email password : Text)

@[simp] theorem set_data_stored (uid : Uid) (data : Document) :
    (backend.setData uid data none).users = Function.update backend.users uid (some data) :=
  backend.firebase.stored _ _ _

@[simp] theorem set_data_rejected (uid : Uid) (data : Document) (error : NSError) :
    backend.setData uid data (some error) = backend := by
  rw [Backend.setData, backend.firebase.rejected]

theorem after_create_user_session (answer : CreateUserResult) :
    ∃ session, backend.afterCreateUser answer = backend.setCurrentUser session := by
  cases answer with
  | error error => exact ⟨backend.currentUser, rfl⟩
  | noUser => exact ⟨backend.currentUser, rfl⟩
  | user uid => exact ⟨some uid, rfl⟩

theorem after_sign_in_session (answer : SignInResult) :
    ∃ session, backend.afterSignIn answer = backend.setCurrentUser session := by
  cases answer with
  | error error => exact ⟨backend.currentUser, rfl⟩
  | user uid => exact ⟨some uid, rfl⟩

theorem create_user_free (uid : Uid) (free : backend.taken email uid = false) :
    backend.createUser email password (.user uid) =
      ({ backend with accounts := ⟨uid, email, password⟩ :: backend.accounts }, .user uid) := by
  rw [Backend.createUser, backend.firebase.created _ _ _ _ free]

theorem create_user_used (uid : Uid) (used : backend.taken email uid = true) :
    backend.createUser email password (.user uid) = (backend, .error backend.firebase.emailAlreadyInUse) := by
  rw [Backend.createUser, backend.firebase.clash _ _ _ _ used]

theorem create_user_failed (outcome : CreateUserResult) (failed : ∀ uid, outcome ≠ .user uid) :
    backend.createUser email password outcome = (backend, outcome) := by
  rw [Backend.createUser, backend.firebase.failed _ _ _ _ failed]

theorem create_user_cases (outcome : CreateUserResult) :
    (∃ uid, outcome = .user uid ∧ backend.taken email uid = false ∧
      backend.createUser email password outcome =
        ({ backend with accounts := ⟨uid, email, password⟩ :: backend.accounts }, .user uid)) ∨
    ((∀ uid, outcome = .user uid → backend.taken email uid = true) ∧
      (backend.createUser email password outcome).1 = backend ∧
      ∀ uid, (backend.createUser email password outcome).2 ≠ .user uid) := by
  by_cases made : ∃ uid, outcome = .user uid
  · obtain ⟨uid, rfl⟩ := made
    cases used : backend.taken email uid with
    | false => exact .inl ⟨uid, rfl, used, create_user_free backend email password uid used⟩
    | true =>
        rw [create_user_used backend email password uid used]
        exact .inr ⟨fun other same => CreateUserResult.user.inj same ▸ used, rfl, by simp⟩
  · have failed : ∀ uid, outcome ≠ .user uid := fun uid same => made ⟨uid, same⟩
    rw [create_user_failed backend email password outcome failed]
    exact .inr ⟨fun uid same => absurd same (failed uid), rfl, failed⟩

theorem create_user_callback_failure (request : RegisterUserRequest) (result : CreateUserResult)
    (failed : ∀ uid, result ≠ .user uid) :
    backend.afterCreateUser result = backend ∧
      ∃ error, createUserCallback request result = .completion false error := by
  cases result with
  | error error => exact ⟨rfl, some error, rfl⟩
  | noUser => exact ⟨rfl, none, rfl⟩
  | user uid => exact absurd rfl (failed uid)

end Specification

theorem create_user_callback_reports (request : RegisterUserRequest) (result : CreateUserResult)
    (wasRegistered : Bool) (error : Option NSError)
    (reports : createUserCallback request result = .completion wasRegistered error) : wasRegistered = false := by
  cases result with
  | error reason => exact (RegisterStep.completion.inj reports).1.symm
  | noUser => exact (RegisterStep.completion.inj reports).1.symm
  | user uid => cases reports

theorem create_user_callback_writes (request : RegisterUserRequest) (result : CreateUserResult) (uid : Uid)
    (data : Document) (writes : createUserCallback request result = .setData uid data) :
    result = .user uid ∧ data = usersDocument request := by
  cases result with
  | error reason => cases writes
  | noUser => cases writes
  | user other =>
      obtain ⟨rfl, rfl⟩ := RegisterStep.setData.inj writes
      exact ⟨rfl, rfl⟩

def Backend.withAccount (backend : Backend) (request : RegisterUserRequest) (uid : Uid) : Backend :=
  { backend with accounts := ⟨uid, request.email, request.password⟩ :: backend.accounts, currentUser := some uid }

theorem register_user_cases (service : Service) (request : RegisterUserRequest) (created : CreateUserResult)
    (written : Option NSError) :
    (∃ error, (∀ uid, created = .user uid → service.backend.taken request.email uid = true) ∧
      service.registerUser request created written =
        service.complete service.backend (.registered false error)) ∨
    (∃ uid error, created = .user uid ∧ service.backend.taken request.email uid = false ∧ written = some error ∧
      service.registerUser request created written =
        service.complete (service.backend.withAccount request uid) (.registered false (some error))) ∨
    (∃ uid, created = .user uid ∧ service.backend.taken request.email uid = false ∧ written = none ∧
      service.registerUser request created written =
        service.complete ((service.backend.withAccount request uid).setData uid (usersDocument request) none)
          (.registered true none)) := by
  rcases create_user_cases service.backend request.email request.password created with accepted | refused
  · obtain ⟨uid, eq, free, answer⟩ := accepted
    cases written with
    | some error =>
        refine .inr (.inl ⟨uid, error, eq, free, rfl, ?_⟩)
        simp only [Service.registerUser, answer, createUserCallback, set_data_rejected]
        rfl
    | none =>
        refine .inr (.inr ⟨uid, eq, free, rfl, ?_⟩)
        rw [Service.registerUser, answer]
        rfl
  · obtain ⟨used, same, failed⟩ := refused
    obtain ⟨unchanged, error, callback⟩ := create_user_callback_failure service.backend request _ failed
    refine .inl ⟨error, used, ?_⟩
    simp only [Service.registerUser, callback, same, unchanged]

end DuplicatedApps
