import Lyv.Library.Counting
import Lyv.Library.Descent
import Lyv.App.Invariants

/-!
# The network comes to rest

A completion goes on with one operation at most, and the chains they form are
short: the longest is that of a Facebook sign-in for a new user.  Left to
answers and completions alone, the network of every device empties, whatever the
answers and their order.
-/

namespace Lyv

open Lyv.Library Lyv.Firebase

variable {devices : Nat} {platform : Platform} {starts : World devices → Prop}

/-- The operations, from this one on, that may follow one another. -/
def Closure.links : Closure → Nat
  | .facebookLoggedIn _ => 6
  | .facebookSignedIn _ => 5
  | .facebookShown _ _ | .signUpCreated _ _ => 4
  | .userCreated _ _ _ | .loginSignedIn _ => 3
  | .userCreatedShown _ | .loginShown _ => 2
  | .updateUserValues _ | .getBeacons _ _ | .beaconsLoaded _ | .noCompletion _ => 1

/-- The answers and completions that may still come of an operation. -/
def Op.work (op : Op) : Nat := 2 * op.closure.links - if op.response.isSome then 1 else 0

def Client.work (client : Client) : Nat := (client.network.map Op.work).sum

def World.work (world : World devices) : Nat := Finset.univ.sum fun device => (world.client device).work

/-- The operations in flight on all devices. -/
def World.inFlight (world : World devices) : Nat :=
  Finset.univ.sum fun device => (world.client device).network.length

/-- The action is an answer or a completion: no user has a part in it. -/
def Action.unattended : Action devices → Prop
  | .answer _ _ _ | .event _ (.deliver _ _) => True
  | .event _ _ => False

/-! ## What a completion adds -/

theorem Closure.links_bounds (closure : Closure) : 1 ≤ closure.links ∧ closure.links ≤ 6 := by
  cases closure <;> simp [links]

theorem Op.work_bounds (op : Op) : 1 ≤ op.work ∧ op.work ≤ 12 := by
  have bounds := op.closure.links_bounds
  unfold work
  split <;> omega

theorem Follows.work_eq {closure : Closure} {response : Response} {op : Op}
    (follows : Follows closure response op) : op.work + 2 = 2 * closure.links := by
  cases follows <;> rfl

theorem Closure.links_of_enters {closure : Closure} {scene : Nat} (enters : closure.enters = some scene) :
    2 ≤ closure.links := by
  cases closure <;> simp_all [Closure.enters, links]

namespace Client

variable {client next : Client}

theorem work_send (client : Client) (op : Op) : (client.send op).work = client.work + op.work := by
  simp [work, send]

theorem work_die (client : Client) (root : Root) : (client.die root).work ≤ client.work := by
  refine sum_filterMap_le Op.work (fun op orphan orphaned => ?_) client.network
  obtain ⟨_, _, rfl⟩ := Op.orphaned_eq_some.mp orphaned
  exact Nat.le_refl _

theorem work_signedIn (client : Client) (scene : Nat) (inWindow : Bool) (user : User) :
    (client.signedIn scene inWindow user).work ≤ client.work + 2 := by
  obtain ⟨_, _, entered⟩ | ⟨_, stayed⟩ := signedIn_cases client scene inWindow user
  · rw [entered]
    exact (work_send client (BeaconService.beacons client.fresh)).le
  · rw [stayed]
    exact Nat.le_add_right _ _

/-- A completion leaves less to come than the operation it answers. -/
theorem work_completion {inWindow : Bool} {closure : Closure} {response : Response}
    (outcome : Completion platform client inWindow closure response next) :
    next.work + 2 ≤ client.work + 2 * closure.links := by
  have links := closure.links_bounds
  cases outcome with
  | signIn _ follows =>
    have work := follows.work_eq
    rw [work_send]
    show client.work + _ + 2 ≤ _
    omega
  | follow _ follows =>
    have work := follows.work_eq
    rw [work_send]
    omega
  | @enter _ scene _ user enters _ =>
    have entered := work_signedIn client scene inWindow user
    have links := Closure.links_of_enters enters
    omega
  | updateUserValues _ _ | alert _ _ | nothing _ =>
    show client.work + 2 ≤ _
    omega
  | @getBeacons uid profile children =>
    obtain ⟨trap, _, crashed⟩ | ⟨_, _, _, listed⟩ := getBeaconsCompletion_cases client profile platform children uid
    · have work := work_die client (.trapped trap)
      rw [crashed]
      omega
    · rw [listed]
      show client.work + 2 ≤ _
      omega
  | @beaconsLoaded home children =>
    obtain ⟨trap, crashed⟩ | ⟨_, _, _, drawn⟩ | unseen :=
      beaconsCompletion_cases platform client home (BeaconService.decode platform children)
    · have work := work_die client (.trapped trap)
      rw [crashed]
      omega
    · rw [drawn]
      show client.work + 2 ≤ _
      omega
    · rw [unseen]
      omega

theorem work_deliver {index : Nat} {inWindow : Bool}
    (handled : client.handle platform (.deliver index inWindow) = some next) : next.work < client.work := by
  cases handle_cases handled with
  | tap _ tapped => cases tapped
  | @deliver _ _ op response found responded =>
    have outcome := complete_cases platform { client with network := client.network.eraseIdx index }
      inWindow op.closure response
    have completed := work_completion outcome
    have erased : ({ client with network := client.network.eraseIdx index } : Client).work + op.work =
        client.work := sum_eraseIdx Op.work found
    have work : op.work = 2 * op.closure.links - 1 := by simp [Op.work, responded]
    have links := op.closure.links_bounds
    omega

theorem work_answered {index : Nat} {op : Op} (response : Response) (found : client.network[index]? = some op)
    (waiting : op.response = none) : (client.answered index op response).work < client.work := by
  have bounds := op.work_bounds
  unfold answered
  split
  · have erased := sum_eraseIdx Op.work found
    show ((client.network.eraseIdx index).map Op.work).sum < (client.network.map Op.work).sum
    omega
  · have changed := sum_set Op.work found { op with response := some response }
    have before : op.work = 2 * op.closure.links := by simp [Op.work, waiting]
    have after : Op.work { op with response := some response } = 2 * op.closure.links - 1 := by simp [Op.work]
    show ((client.network.set index _).map Op.work).sum < (client.network.map Op.work).sum
    omega

theorem work_eq_zero : client.work = 0 ↔ client.network = [] := by
  constructor
  · intro none
    cases network : client.network with
    | nil => rfl
    | cons op ops =>
      have bounds := op.work_bounds
      simp only [work, network, List.map_cons, List.sum_cons] at none
      omega
  · intro empty
    simp [work, empty]

theorem work_le (client : Client) : client.work ≤ 12 * client.network.length := by
  unfold work
  induction client.network with
  | nil => simp
  | cons op ops inductionHypothesis =>
    have bounds := op.work_bounds
    rw [List.map_cons, List.sum_cons, List.length_cons]
    omega

end Client

/-! ## The whole network -/

theorem World.work_setClient (world : World devices) (device : Fin devices) (client : Client) :
    (world.setClient device client).work + (world.client device).work = world.work + client.work := by
  have same : ∀ other, other ≠ device →
      ((world.setClient device client).client other).work = (world.client other).work := by
    intro other different
    rw [World.setClient_client_of_ne _ different]
  have changed := sum_of_changed device same
  rwa [World.setClient_client_self] at changed

theorem lowers_work : (app platform starts).Lowers Action.unattended World.work := by
  intro world action next unattended taken
  obtain ⟨device, event, client, rfl, handled, rfl⟩ |
    ⟨device, index, _, op, response, server, rfl, found, waiting, _, rfl⟩ := step_cases taken
  · cases event with
    | deliver index inWindow =>
      have lower := Client.work_deliver handled
      have changed := world.work_setClient device client
      omega
    | _ => contradiction
  · have lower := Client.work_answered response found waiting
    have changed := world.work_setClient device ((world.client device).answered index op response)
    show (world.setClient device _).work < _
    omega

/-- Where something is in flight, it can be answered, or its completion can run. -/
theorem progresses_work : (app platform starts).Progresses Action.unattended World.work := by
  intro world busy
  obtain ⟨device, _, busy⟩ := Finset.exists_ne_zero_of_sum_ne_zero busy
  cases network : (world.client device).network with
  | nil => exact absurd (Client.work_eq_zero.mpr network) busy
  | cons op ops =>
    have found : (world.client device).network[0]? = some op := by simp [network]
    cases responded : op.response with
    | none =>
      have pending : world.pending device 0 = some op := by simp [World.pending, found, responded]
      refine ⟨.answer device 0 (.failure ""), ?_⟩
      simp [app, World.step, pending, Server.answer, Action.unattended]
    | some response =>
      refine ⟨.event device (.deliver 0 true), ?_⟩
      simp [app, World.step, Client.handle, Client.deliver, found, responded, Action.unattended]

theorem World.work_le (world : World devices) : world.work ≤ 12 * world.inFlight := by
  unfold work inFlight
  rw [Finset.mul_sum]
  exact Finset.sum_le_sum fun device _ => (world.client device).work_le

/-- From any state, answers and completions alone come to an end, in whatever
order they come: at most twelve for each operation in flight, those it leads to
included.  And they can go on until nothing is in flight on any device. -/
theorem network_comes_to_rest (platform : Platform) (world : World devices) :
    (∀ actions next, (∀ action ∈ actions, Action.unattended action) →
      (app platform Idle).run world actions = some next → actions.length ≤ 12 * world.inFlight) ∧
    ∃ actions next, (∀ action ∈ actions, Action.unattended action) ∧
      (app platform Idle).run world actions = some next ∧ ∀ device, (next.client device).network = [] := by
  refine ⟨fun actions next unattended taken => ?_, ?_⟩
  · have bound := lowers_work.length_add_le unattended taken
    have work := world.work_le
    omega
  · obtain ⟨actions, next, unattended, taken, rest⟩ := lowers_work.exists_run progresses_work world
    refine ⟨actions, next, unattended, taken, fun device => Client.work_eq_zero.mp ?_⟩
    exact Finset.sum_eq_zero_iff.mp rest device (Finset.mem_univ device)

end Lyv
