import Lyv.Models.User

/-!
# Requests, their completions and the server

A request and the closure that waits for its answer are sent together.  The
server answers requests one at a time, in any order, and each may fail; a write
is applied when it is answered, and its completion runs on the device later.
Until it is answered the process that made the write sees it in everything that it
reads.  A write is applied once: the writes that a reconnect repeats, because their
answers were lost, are left out.
-/

namespace Lyv

open Lyv.Library Lyv.Firebase

inductive Request where
  /-- Facebook's own log-in dialog. -/
  | logIn
  | signInWithEmail (email password : String)
  | signInWithCredential
  | createUser (email password : String)
  /-- `users/<uid>`: `setValue` and `observeSingleEvent`. -/
  | setUser (uid : String) (value : Json)
  | observeUser (uid : String)
  /-- `beacons` and `beacons/<key>`. -/
  | setBeacon (key : String) (value : Json)
  | removeBeacon (key : String)
  | observeBeacons

/-- Whether the request changes the server when it is answered. -/
def Request.isWrite : Request → Bool
  | .createUser _ _ | .setUser _ _ | .setBeacon _ _ | .removeBeacon _ => true
  | _ => false

inductive Response where
  | failed (error : String)
  | done
  | signedIn (user : FIRUser)
  | record (snapshot : DataSnapshot)
  | listing (children : Store String Node)

/-- The flow that calls `UserService.create`. -/
inductive Flow where
  | facebook
  | signUp
  deriving DecidableEq

/-- The `BeaconService` function a write comes from; it passes no completion. -/
inductive BeaconWrite where
  | create
  | updateBeacon
  | removeBeacon
  deriving DecidableEq

/-- The completions of the source, each with what it captures.  `scene`, `home`
and `profile` are the instances behind `self`, `user` is an object in memory. -/
inductive Closure where
  /-- `LoginController.didTapLoginButton`: after `signIn`, and after `show`. -/
  | loginSignedIn (scene : Nat)
  | loginShown (scene : Nat)
  /-- `didTapFacebookButton`: after `logIn`, after `signIn`, and after `show`. -/
  | facebookLoggedIn (scene : Nat)
  | facebookSignedIn (scene : Nat)
  | facebookShown (scene : Nat) (user : FIRUser)
  /-- `SignUpController.didTapSignUpButton`, after `createUser`. -/
  | signUpCreated (scene : Nat) (name : String)
  /-- `UserService.create`: after its `setValue`, and after the read that follows. -/
  | userCreated (flow : Flow) (uid : String) (scene : Nat)
  | userCreatedShown (scene : Nat)
  | updateUserValues (user : Nat)
  | getBeacons (uid : String) (profile : Nat)
  | beaconsLoaded (home : Nat)
  | noCompletion (write : BeaconWrite)
  deriving DecidableEq

/-- An operation in flight.  It is answered once it has a response; it is an
orphan when the process that waits for it has died. -/
structure Op where
  request : Request
  closure : Closure
  response : Option Response := none
  orphan : Bool := false

/-- What a dying process leaves behind: its writes that are still under way.  Those
that had not left the device yet are lost with it; such a one is answered by a failure. -/
def Op.orphaned (op : Op) : Option Op :=
  if op.request.isWrite && op.response.isNone then some { op with orphan := true } else none

/-! ## The server -/

structure Account where
  email : String
  password : String
  user : FIRUser
  deriving DecidableEq

structure Server where
  accounts : List Account
  users : Store String Node
  beacons : Store String Node

/-- How the environment answers a request. -/
inductive Outcome where
  | failure (error : String)
  | success
  /-- Success, with the account that Auth answers. -/
  | account (user : FIRUser)

/-- `setValue` at a child: an empty node leaves no child. -/
def setChild (children : Store String Node) (key : String) (value : Json) : Store String Node :=
  if (nodeFrom value).isEmpty then children.erase key
  else children.insert keyBefore key (nodeFrom value)

theorem lookup_setChild (children : Store String Node) (written key : String) (value : Json) :
    (setChild children written value).lookup key =
      if key = written then (if (nodeFrom value).isEmpty then none else some (nodeFrom value))
      else children.lookup key := by
  by_cases same : key = written
  · subst same
    by_cases empty : (nodeFrom value).isEmpty <;> simp [setChild, empty]
  · by_cases empty : (nodeFrom value).isEmpty <;>
      simp [setChild, empty, same, Store.lookup_erase_of_ne, Store.lookup_insert_of_ne]

namespace Server

def snapshotOfUser (server : Server) (uid : String) : DataSnapshot :=
  ⟨uid, (server.users.lookup uid).getD .empty⟩

/-- The user that `users/<uid>` decodes to. -/
def user (server : Server) (uid : String) : Option User :=
  User.ofSnapshot (server.snapshotOfUser uid)

/-- What a write of the database leaves. -/
def write (server : Server) : Request → Server
  | .setUser uid value => { server with users := setChild server.users uid value }
  | .setBeacon key value => { server with beacons := setChild server.beacons key value }
  | .removeBeacon key => { server with beacons := server.beacons.erase key }
  | _ => server

/-- `FRepo.set` applies a write locally, and `ackWrite` takes it back when its answer is there. -/
def overlay (server : Server) (op : Op) : Server :=
  if op.orphan || op.response.isSome then server else server.write op.request

/-- The database as a process with these operations under way sees it: `FWriteTree`
layers its own writes, in the order they were made, over what the server has. -/
def view (server : Server) (network : List Op) : Server := network.foldl overlay server

/-- The answer to a request, and the server afterwards.  A read gets what the
process that asks sees, its own writes included. -/
def answer (server view : Server) : Request → Outcome → Option (Response × Server)
  | _, .failure error => some (.failed error, server)
  | .logIn, .success => some (.done, server)
  | .signInWithEmail email password, .success =>
    (server.accounts.find? fun account =>
      decide (account.email = email) && decide (account.password = password)).map
        fun account => (.signedIn account.user, server)
  | .signInWithCredential, .account user => some (.signedIn user, server)
  | .createUser email password, .account user =>
    -- Auth takes an address once, and never hands out an identifier again
    if (server.accounts.any fun account =>
        decide (account.email = email) || decide (account.user.uid = user.uid)) ||
        (server.users.lookup user.uid).isSome then none
    else some (.signedIn user, { server with accounts := ⟨email, password, user⟩ :: server.accounts })
  | .setUser uid value, .success => some (.done, server.write (.setUser uid value))
  | .observeUser uid, .success => some (.record (view.snapshotOfUser uid), server)
  | .setBeacon key value, .success => some (.done, server.write (.setBeacon key value))
  | .removeBeacon key, .success => some (.done, server.write (.removeBeacon key))
  | .observeBeacons, .success => some (.listing view.beacons, server)
  | _, _ => none

theorem snapshotOfUser_setUser (server : Server) (written uid : String) (value : Json) :
    ({ server with users := setChild server.users written value } : Server).snapshotOfUser uid =
      if uid = written then ⟨uid, nodeFrom value⟩ else server.snapshotOfUser uid := by
  simp only [snapshotOfUser, lookup_setChild]
  by_cases same : uid = written
  · cases empty : (nodeFrom value).isEmpty with
    | false => simp [same]
    | true =>
      have absent : nodeFrom value = .empty := by
        cases node : nodeFrom value with
        | leaf value => simp [node, Node.isEmpty] at empty
        | children entries => simpa [node, Node.isEmpty, Node.empty] using empty
      simp [same, absent]
  · simp [same]

/-! ### What a process sees -/

/-- What holds of the server and is kept by each write of the process that is under
way, holds of what the process sees. -/
theorem view_induction (holds : Server → Prop) {server : Server} {network : List Op} (start : holds server)
    (written : ∀ current, ∀ op ∈ network, op.orphan = false → op.response = none → holds current →
      holds (current.write op.request)) : holds (server.view network) := by
  unfold view
  induction network generalizing server with
  | nil => exact start
  | cons op network inductionHypothesis =>
    refine inductionHypothesis ?_ fun current other member => written current other (List.mem_cons_of_mem op member)
    unfold overlay
    split
    · exact start
    next waits =>
      simp only [Bool.or_eq_true, not_or, Bool.not_eq_true, Option.isSome_eq_false_iff,
        Option.isNone_iff_eq_none] at waits
      exact written server op List.mem_cons_self waits.1 waits.2 start

@[simp] theorem view_nil (server : Server) : server.view [] = server := rfl

/-- What is sent last is seen, when it is a write. -/
theorem view_send (server : Server) (network : List Op) (request : Request) (closure : Closure) :
    server.view (network ++ [{ request := request, closure := closure }]) =
      (server.view network).write request := by
  simp [view, overlay]

/-- What a process sees at `users/<uid>` is there, or is what it is writing there. -/
theorem snapshotOfUser_view (server : Server) (network : List Op) (uid : String) :
    (server.view network).snapshotOfUser uid = server.snapshotOfUser uid ∨
    ∃ op ∈ network, op.orphan = false ∧ op.response = none ∧ ∃ value, op.request = .setUser uid value ∧
      (server.view network).snapshotOfUser uid = ⟨uid, nodeFrom value⟩ := by
  refine view_induction (fun current => current.snapshotOfUser uid = server.snapshotOfUser uid ∨
    ∃ op ∈ network, op.orphan = false ∧ op.response = none ∧ ∃ value, op.request = .setUser uid value ∧
      current.snapshotOfUser uid = ⟨uid, nodeFrom value⟩) (.inl rfl) ?_
  intro current op member attended waiting seen
  cases request : op.request with
  | setUser written value =>
    rw [write, snapshotOfUser_setUser]
    by_cases same : uid = written
    · subst same
      exact .inr ⟨op, member, attended, waiting, value, request, if_pos rfl⟩
    · rw [if_neg same]
      exact seen
  | _ => exact seen

/-- What the server does with each request. -/
inductive Answers (server view : Server) : Request → Outcome → Response → Server → Prop where
  | failed {request : Request} (error : String) :
      Answers server view request (.failure error) (.failed error) server
  | logIn : Answers server view .logIn .success .done server
  | signInWithEmail {email password : String} {account : Account} : account ∈ server.accounts →
      account.email = email → account.password = password →
      Answers server view (.signInWithEmail email password) .success (.signedIn account.user) server
  | signInWithCredential (user : FIRUser) :
      Answers server view .signInWithCredential (.account user) (.signedIn user) server
  | createUser {email password : String} {user : FIRUser} :
      (∀ account ∈ server.accounts, account.email ≠ email ∧ account.user.uid ≠ user.uid) →
      server.users.lookup user.uid = none →
      Answers server view (.createUser email password) (.account user) (.signedIn user)
        { server with accounts := ⟨email, password, user⟩ :: server.accounts }
  | setUser {uid : String} {value : Json} : Answers server view (.setUser uid value) .success .done
      { server with users := setChild server.users uid value }
  | observeUser {uid : String} :
      Answers server view (.observeUser uid) .success (.record (view.snapshotOfUser uid)) server
  | setBeacon {key : String} {value : Json} : Answers server view (.setBeacon key value) .success .done
      { server with beacons := setChild server.beacons key value }
  | removeBeacon {key : String} : Answers server view (.removeBeacon key) .success .done
      { server with beacons := server.beacons.erase key }
  | observeBeacons : Answers server view .observeBeacons .success (.listing view.beacons) server

theorem answer_cases {server view next : Server} {request : Request} {outcome : Outcome} {response : Response}
    (answered : server.answer view request outcome = some (response, next)) :
    server.Answers view request outcome response next := by
  unfold answer at answered
  split at answered
  case h_3 =>
    obtain ⟨account, found, same⟩ := Option.map_eq_some_iff.mp answered
    have matched := List.find?_some found
    simp only [Bool.and_eq_true, decide_eq_true_eq] at matched
    cases same
    exact .signInWithEmail (List.mem_of_find?_eq_some found) matched.1 matched.2
  case h_5 email password user =>
    split at answered
    · contradiction
    next fresh =>
      simp only [Bool.or_eq_true, not_or, Bool.not_eq_true, List.any_eq_false, decide_eq_true_eq,
        Option.isSome_eq_false_iff, Option.isNone_iff_eq_none] at fresh
      cases answered
      exact .createUser fresh.1 fresh.2
  all_goals first | contradiction | (cases answered; constructor)

/-- What is stored after an answer is what was stored, or what the write leaves. -/
theorem stored_answer {server view next : Server} {request : Request} {outcome : Outcome} {response : Response}
    (answered : server.answer view request outcome = some (response, next)) :
    (next.users = server.users ∧ next.beacons = server.beacons) ∨ next = server.write request := by
  cases answer_cases answered with
  | failed _ | logIn | signInWithEmail _ _ _ | signInWithCredential _ | createUser _ _ | observeUser
  | observeBeacons => exact .inl ⟨rfl, rfl⟩
  | setUser | setBeacon | removeBeacon => exact .inr rfl

end Server

end Lyv
