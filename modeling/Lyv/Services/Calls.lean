import Lyv.Models.Beacon
import Lyv.Services.Network

/-!
# `BeaconService` and `UserService`

Each function of the two services is the operation it sends.
-/

namespace Lyv

open Lyv.Library Lyv.Firebase

namespace Helper

def allowedChars : List Char :=
  "abcdefghijklmnopqrstuvwxyzABCDEFGHIJKLMNOPQRSTUVWXYZ0123456789".toList

/-- One character for each draw of `arc4random_uniform`. -/
def randomAlphaNumericString (draws : List (Fin 62)) : String :=
  String.ofList (draws.map fun draw => allowedChars.getD draw 'a')

end Helper

namespace BeaconService

def create (beacon : Beacon) (draws : List (Fin 62)) : Op where
  request := .setBeacon (Helper.randomAlphaNumericString draws) beacon.dictValue
  closure := .noCompletion .create

def updateBeacon (beacon : Beacon) : Except Trap Op :=
  match beacon.key with
  | none => throw (.unexpectedNil "beacon.key!")
  | some key => return {
      request := .setBeacon key beacon.dictValue
      closure := .noCompletion .updateBeacon }

def removeBeacon (beacon : Beacon) : Except Trap Op :=
  match beacon.key with
  | none => throw (.unexpectedNil "beacon.key!")
  | some key => return {
      request := .removeBeacon key
      closure := .noCompletion .removeBeacon }

def beacons (home : Nat) : Op where
  request := .observeBeacons
  closure := .beaconsLoaded home

end BeaconService

/-- The beacon that is stored at a key. -/
def Server.beacon (server : Server) (platform : Platform) (key : String) : Option Beacon :=
  (server.beacons.lookup key).bind fun node => Beacon.ofSnapshot platform ⟨key, node⟩

@[simp] theorem Server.beacon_setBeacon (server : Server) (platform : Platform) (key : String)
    (beacon : Beacon) :
    ({ server with beacons := setChild server.beacons key beacon.dictValue } : Server).beacon platform key =
      some { beacon with key := some key } := by
  simp [Server.beacon, lookup_setChild]

@[simp] theorem Server.user_setUser (server : Server) (uid : String) (value : Json) :
    ({ server with users := setChild server.users uid value } : Server).user uid =
      User.ofSnapshot ⟨uid, nodeFrom value⟩ := by
  simp [Server.user, snapshotOfUser_setUser]

theorem Server.isSome_user_write {server : Server} {request : Request} {uid : String}
    (decodes : ∀ value, request = .setUser uid value → (User.ofSnapshot ⟨uid, nodeFrom value⟩).isSome) :
    ((server.write request).user uid).isSome ↔
      (server.user uid).isSome ∨ ∃ value, request = .setUser uid value := by
  cases request with
  | setUser written value =>
    by_cases same : uid = written
    · subst same
      simp [write, decodes value rfl]
    · simp [write, user, snapshotOfUser_setUser, same, Ne.symm same]
  | _ =>
    simp only [reduceCtorEq, exists_false, or_false]
    rfl

/-- A process sees a user at `users/<uid>` where there is one, or where it is writing one. -/
theorem Server.isSome_user_view (server : Server) {network : List Op} {uid : String}
    (decodes : ∀ op ∈ network, ∀ value, op.request = .setUser uid value →
      (User.ofSnapshot ⟨uid, nodeFrom value⟩).isSome) :
    ((server.view network).user uid).isSome ↔ (server.user uid).isSome ∨
      ∃ op ∈ network, op.orphan = false ∧ op.response = none ∧ ∃ value, op.request = .setUser uid value := by
  induction network generalizing server with
  | nil => simp
  | cons op network inductionHypothesis =>
    have rest := inductionHypothesis (server.overlay op) fun other member =>
      decodes other (List.mem_cons_of_mem op member)
    have first : ((server.overlay op).user uid).isSome ↔ (server.user uid).isSome ∨
        op.orphan = false ∧ op.response = none ∧ ∃ value, op.request = .setUser uid value := by
      unfold overlay
      split
      next settled =>
        have settled : ¬ (op.orphan = false ∧ op.response = none) := by
          rintro ⟨attended, waiting⟩
          simp [attended, waiting] at settled
        tauto
      next waits =>
        simp only [Bool.or_eq_true, not_or, Bool.not_eq_true, Option.isSome_eq_false_iff,
          Option.isNone_iff_eq_none] at waits
        rw [isSome_user_write (decodes op List.mem_cons_self)]
        simp [waits]
    rw [view, List.foldl_cons]
    exact rest.trans (by rw [first]; simp [or_assoc])

namespace UserService

/-- The dictionary `create` stores. -/
def userAttrs (firUser : FIRUser) (username : String) : Json :=
  .object [("username", .string username),
    ("profileURL", .string (firUser.photoURL.getD "" ++ "?width=300&height=300"))]

def create (firUser : FIRUser) (username : String) (flow : Flow) (scene : Nat) : Op where
  request := .setUser firUser.uid (userAttrs firUser username)
  closure := .userCreated flow firUser.uid scene

/-- `user` is the object `reference` points to. -/
def updateUserValues (reference : Nat) (user : User) : Op where
  request := .setUser user.uid user.dictValue
  closure := .updateUserValues reference

/-- The `observeSingleEvent` of `show`, and of `create`. -/
def observe (uid : String) (closure : Closure) : Op where
  request := .observeUser uid
  closure := closure

def getBeacons (uid : String) (profile : Nat) : Op where
  request := .observeBeacons
  closure := .getBeacons uid profile

/-- The beacons that `getBeacons` keeps of a listing. -/
def beaconsOf (platform : Platform) (children : Store String Node) (uid : String) : List Beacon :=
  (BeaconService.decode platform children).filter fun beacon => beacon.uid = uid

/-- `beacons.map { $0.key! }`. -/
def keys : List Beacon → Except Trap (List String)
  | [] => return []
  | beacon :: beacons =>
    match beacon.key with
    | none => throw (.unexpectedNil "$0.key!")
    | some key => return key :: (← keys beacons)

/-- What `create` stores decodes to the new user, who has no beacons. -/
theorem ofSnapshot_userAttrs (firUser : FIRUser) (username : String) :
    User.ofSnapshot ⟨firUser.uid, nodeFrom (userAttrs firUser username)⟩ = some {
      uid := firUser.uid
      username := username
      beacons := []
      profileURL := firUser.photoURL.getD "" ++ "?width=300&height=300" } := by
  rw [userAttrs, User.ofSnapshot_nodeFrom (by simp) rfl]
  rfl

/-- Decoded beacons have their keys, so the unwraps of a completion succeed. -/
theorem keys_eq_ok {beacons : List Beacon} (keyed : ∀ beacon ∈ beacons, ∃ key, beacon.key = some key) :
    keys beacons = .ok (beacons.filterMap Beacon.key) := by
  induction beacons with
  | nil => rfl
  | cons beacon beacons inductionHypothesis =>
    obtain ⟨key, found⟩ := keyed beacon List.mem_cons_self
    have rest := inductionHypothesis fun other member => keyed other (List.mem_cons_of_mem _ member)
    simp [keys, found, rest, bind, Except.bind, pure, Except.pure]

@[simp] theorem keys_beaconsOf (platform : Platform) (children : Store String Node) (uid : String) :
    keys (beaconsOf platform children uid) =
      .ok ((beaconsOf platform children uid).filterMap Beacon.key) :=
  keys_eq_ok fun _ member => BeaconService.key_of_mem_decode (List.mem_filter.mp member).1

/-- The keys `getBeacons` finds are those of the children that decode to a beacon of the user. -/
theorem mem_keys_beaconsOf {platform : Platform} {children : Store String Node} {uid key : String} :
    key ∈ (beaconsOf platform children uid).filterMap Beacon.key ↔
      ∃ node beacon, children.lookup key = some node ∧
        Beacon.ofSnapshot platform ⟨key, node⟩ = some beacon ∧ beacon.uid = uid := by
  simp only [List.mem_filterMap, beaconsOf, List.mem_filter, decide_eq_true_eq,
    BeaconService.mem_decode]
  constructor
  · rintro ⟨beacon, ⟨⟨⟨stored, node⟩, member, decoded⟩, owner⟩, found⟩
    have key_eq : some stored = some key := (Beacon.ofSnapshot_key decoded).symm.trans found
    cases key_eq
    exact ⟨node, beacon, Store.lookup_eq_some_iff.mpr member, decoded, owner⟩
  · rintro ⟨node, beacon, found, decoded, owner⟩
    exact ⟨beacon, ⟨⟨(key, node), Store.lookup_eq_some_iff.mp found, decoded⟩, owner⟩,
      Beacon.ofSnapshot_key decoded⟩

end UserService

end Lyv
