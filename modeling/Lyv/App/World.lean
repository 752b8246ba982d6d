import Mathlib.Data.Fintype.Basic
import Lyv.Library.Transition
import Lyv.App.Client

/-!
# Devices and the server

Any number of devices share one server.  A step is an event on one device, or
the server's answer to one operation in flight; nothing else constrains the
order.  What a device reads it sees with its own writes that are under way; a write
that is sent a second time, after the connection was lost, is left out.
-/

namespace Lyv

open Lyv.Library Lyv.Firebase

structure World (devices : Nat) where
  client : Fin devices → Client
  server : Server

inductive Action (devices : Nat) where
  | event (device : Fin devices) (event : Event)
  | answer (device : Fin devices) (index : Nat) (outcome : Outcome)

variable {devices : Nat}

/-- The operation gets its answer; nobody waits for the answer to an orphan. -/
def Client.answered (client : Client) (index : Nat) (op : Op) (response : Response) : Client :=
  { client with network :=
      if op.orphan then client.network.eraseIdx index
      else client.network.set index { op with response := some response } }

namespace Client

variable {client : Client} {index : Nat} {op other : Op} {response : Response}

theorem mem_of_mem_answered (member : other ∈ (client.answered index op response).network) :
    other ∈ client.network ∨ (op.orphan = false ∧ other = { op with response := some response }) := by
  unfold answered at member
  split at member
  · exact .inl (List.mem_of_mem_eraseIdx member)
  next waits => exact (List.mem_or_eq_of_mem_set member).imp_right fun same => ⟨by simpa using waits, same⟩

theorem mem_answered (found : client.network[index]? = some op) (member : other ∈ client.network)
    (different : other ≠ op) : other ∈ (client.answered index op response).network := by
  obtain ⟨position, present⟩ := List.mem_iff_getElem?.mp member
  have elsewhere : position ≠ index := by
    rintro rfl
    exact different (Option.some.inj (present.symm.trans found))
  unfold answered
  split
  · exact List.mem_eraseIdx_iff_getElem?.mpr ⟨position, elsewhere, present⟩
  · exact List.mem_of_getElem? ((List.getElem?_set_ne elsewhere.symm).trans present)

end Client

namespace World

def setClient (world : World devices) (device : Fin devices) (client : Client) : World devices :=
  { world with client := Function.update world.client device client }

@[simp] theorem setClient_server (world : World devices) (device : Fin devices) (client : Client) :
    (world.setClient device client).server = world.server := rfl

@[simp] theorem setClient_client_self (world : World devices) (device : Fin devices) (client : Client) :
    (world.setClient device client).client device = client := by
  simp [setClient]

theorem setClient_client_of_ne (world : World devices) {device other : Fin devices}
    (different : other ≠ device) (client : Client) :
    (world.setClient device client).client other = world.client other := by
  simp [setClient, different]

/-- The operation an answer is for, when it has none yet. -/
def pending (world : World devices) (device : Fin devices) (index : Nat) : Option Op :=
  (world.client device).network[index]?.filter fun op => op.response.isNone

/-- The operation that an action applies at the server. -/
def applied (world : World devices) : Action devices → Option Op
  | .answer device index .success => world.pending device index
  | _ => none

/-- The database as the process on a device sees it. -/
def view (world : World devices) (device : Fin devices) : Server :=
  world.server.view (world.client device).network

@[simp] theorem view_setClient_self (world : World devices) (device : Fin devices) (client : Client) :
    (world.setClient device client).view device = world.server.view client.network := by
  simp [view]

def step (platform : Platform) (world : World devices) : Action devices → Option (World devices)
  | .event device event =>
    ((world.client device).handle platform event).map (world.setClient device)
  | .answer device index outcome => do
    let op ← world.pending device index
    let (response, server) ← world.server.answer (world.view device) op.request outcome
    return { world.setClient device ((world.client device).answered index op response) with
      server := server }

end World

/-- The app on a number of devices, from the worlds it may start in. -/
def app (platform : Platform) (starts : World devices → Prop) :
    System (World devices) (Action devices) where
  initial := starts
  step := World.step platform

/-- No process runs yet. -/
def Idle (world : World devices) : Prop := ∀ device, (world.client device).Idle

theorem World.applied_answer {world : World devices} {device : Fin devices} {index : Nat} {op : Op}
    (found : (world.client device).network[index]? = some op) (waiting : op.response = none) :
    world.applied (.answer device index .success) = some op := by
  simp [applied, pending, found, waiting]

theorem World.applied_eq_some {world : World devices} {action : Action devices} {op : Op}
    (applied : world.applied action = some op) :
    ∃ device index, action = .answer device index .success ∧
      (world.client device).network[index]? = some op ∧ op.response = none := by
  unfold World.applied at applied
  split at applied
  next device index =>
    obtain ⟨found, waiting⟩ := Option.filter_eq_some_iff.mp applied
    exact ⟨device, index, rfl, found, Option.isNone_iff_eq_none.mp waiting⟩
  next => contradiction

/-- What a step is: an event on one device, or an answer, applied at the server. -/
theorem step_cases {platform : Platform} {starts : World devices → Prop} {world next : World devices}
    {action : Action devices} (taken : (app platform starts).step world action = some next) :
    (∃ device event client, action = .event device event ∧
      (world.client device).handle platform event = some client ∧
      next = world.setClient device client) ∨
    (∃ device index outcome op response server, action = .answer device index outcome ∧
      (world.client device).network[index]? = some op ∧ op.response = none ∧
      world.server.answer (world.view device) op.request outcome = some (response, server) ∧
      next = { world.setClient device ((world.client device).answered index op response) with
        server := server }) := by
  cases action with
  | event device event =>
    obtain ⟨client, handled, rfl⟩ := Option.map_eq_some_iff.mp taken
    exact .inl ⟨device, event, client, rfl, handled, rfl⟩
  | answer device index outcome =>
    simp only [app, World.step, Option.bind_eq_bind, Option.bind_eq_some_iff, Option.pure_def,
      Option.some.injEq, Prod.exists, World.pending, Option.filter_eq_some_iff,
      Option.isNone_iff_eq_none] at taken
    obtain ⟨op, ⟨found, waiting⟩, response, server, answered, rfl⟩ := taken
    exact .inr ⟨device, index, outcome, op, response, server, rfl, found, waiting, answered, rfl⟩

/-- What a step is to one device: nothing, an event on it, or an answer to one of its operations. -/
theorem client_cases {platform : Platform} {starts : World devices → Prop} {world next : World devices}
    {action : Action devices} (taken : (app platform starts).step world action = some next)
    (device : Fin devices) :
    next.client device = world.client device ∨
    (∃ event, action = .event device event ∧
      (world.client device).handle platform event = some (next.client device)) ∨
    (∃ index outcome op response server, action = .answer device index outcome ∧
      (world.client device).network[index]? = some op ∧ op.response = none ∧
      world.server.answer (world.view device) op.request outcome = some (response, server) ∧
      next.client device = (world.client device).answered index op response) := by
  obtain ⟨active, event, client, rfl, handled, rfl⟩ |
    ⟨active, index, outcome, op, response, server, rfl, found, waiting, answered, rfl⟩ := step_cases taken
  · by_cases here : device = active
    · subst here
      right; left
      exact ⟨event, rfl, by rw [World.setClient_client_self]; exact handled⟩
    · exact .inl (World.setClient_client_of_ne _ here _)
  · by_cases here : device = active
    · subst here
      right; right
      exact ⟨index, outcome, op, response, server, rfl, found, waiting, answered,
        World.setClient_client_self _ _ _⟩
    · exact .inl (World.setClient_client_of_ne _ here _)

/-- What holds on every device still does after a step, when the events and the
answers of a device keep it there. -/
theorem forall_client_step {platform : Platform} {starts : World devices → Prop}
    {world next : World devices} {action : Action devices} (holds : Client → Prop)
    (event : ∀ device next event, holds (world.client device) →
      (world.client device).handle platform event = some next → holds next)
    (answer : ∀ device index op response, holds (world.client device) →
      (world.client device).network[index]? = some op →
      holds ((world.client device).answered index op response))
    (every : ∀ device, holds (world.client device))
    (taken : (app platform starts).step world action = some next) :
    ∀ device, holds (next.client device) := by
  intro device
  obtain same | ⟨occurred, _, handled⟩ | ⟨index, _, op, response, _, _, found, _, _, answered⟩ :=
    client_cases taken device
  · rw [same]
    exact every device
  · exact event device _ _ (every device) handled
  · rw [answered]
    exact answer device _ _ _ (every device) found

/-! ## A world to run the model in -/

-- A numeral for a device asks that there is one; named instances spare each
-- definition below a copy of that proof.
instance oneDevice : NeZero 1 := ⟨Nat.one_ne_zero⟩

instance twoDevices : NeZero 2 := ⟨Nat.succ_ne_zero 1⟩

/-- Two accounts, each with its record, and no beacons. -/
def Server.sample : Server where
  accounts := [⟨"ann@lyv.app", "secret", ⟨"ann", none, none⟩⟩, ⟨"bob@lyv.app", "hidden", ⟨"bob", none, none⟩⟩]
  users := setChild (setChild .empty "ann" (User.dictValue { uid := "ann", username := "Ann" }))
    "bob" (User.dictValue { uid := "bob", username := "Bob" })
  beacons := .empty

/-- Freshly installed on every device. -/
def World.installed (server : Server) : World devices :=
  ⟨fun _ => { authCurrentUser := none, userDefaults := none }, server⟩

theorem idle_installed (server : Server) : Idle (World.installed server : World devices) :=
  fun _ => rfl

/-- The steps of a login that goes well, with the given number of operations in flight before it. -/
def loginActions (device : Fin devices) (email password : String) (inFlight : Nat) :
    List (Action devices) :=
  [.event device (.didTapLoginButton email password),
    .answer device inFlight .success, .event device (.deliver inFlight true),
    .answer device inFlight .success, .event device (.deliver inFlight true)]

/-- Ann launches the app and logs in. -/
def annLogsIn : List (Action 1) := .event 0 .didFinishLaunching :: loginActions 0 "ann@lyv.app" "secret" 0

/-- The sample server with one beacon, which is Ann's. -/
def Server.withBeacon : Server :=
  { Server.sample with beacons := setChild .empty "campfire" Beacon.sample.dictValue }

/-- Two beacons of Ann's that are alike but for their keys, and one of Bob's. -/
def Server.crowded : Server :=
  { Server.sample with beacons := setChild (setChild (setChild .empty "campfire" Beacon.sample.dictValue)
      "lantern" Beacon.sample.dictValue) "torch" (Beacon.dictValue { Beacon.sample with uid := "bob" }) }

/-- Ann opens her profile, and its listing arrives. -/
def annOpensProfile : List (Action 1) := annLogsIn ++
  [.event 0 (.screen .profileButtonPressed), .answer 0 1 .success, .event 0 (.deliver 1 true)]

end Lyv
