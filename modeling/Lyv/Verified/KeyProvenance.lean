import Lyv.App.Invariants

/-!
# Whose keys `getBeacons` leaves in the session

`getBeacons` filters the listing by the user it was called for, and assigns the
keys to the user that is current when the listing arrives.  The two are the
same account, or the filtered listing is empty, in exactly the runs in which no
key reaches another account.
-/

namespace Lyv

open Lyv.Library Lyv.Firebase

/-- The child of a listing under the key is a beacon of the user. -/
def OwnedIn (platform : Platform) (children : Store String Node) (key uid : String) : Prop :=
  ∃ node beacon, children.lookup key = some node ∧
    Beacon.ofSnapshot platform ⟨key, node⟩ = some beacon ∧ beacon.uid = uid

namespace Client

/-- The user and the listing that a completion of `getBeacons` runs with. -/
def listingOf : Closure → Response → Option (String × Store String Node)
  | .getBeacons uid _, .listing children => some (uid, children)
  | _, _ => none

/-- The user and the listing of the `getBeacons` completion that an event runs. -/
def fetched (client : Client) : Event → Option (String × Store String Node)
  -- a failed fetch has no listing, so its completion assigns nothing
  | .deliver index _ => do
    let op ← client.network[index]?
    let response ← op.response
    listingOf op.closure response
  | _ => none

/-- The object whose keys an event replaces, with the listing they come from. -/
def assigned (client : Client) (event : Event) : Option (Nat × Store String Node) :=
  match client.userCurrent, client.fetched event with
  | .ok (reference, _), some (_, children) => some (reference, children)
  | _, _ => none

/-- A listing arrives for the user that is current, or has nothing for its user. -/
def assignsOwn (platform : Platform) (client : Client) (event : Event) : Bool :=
  match client.userCurrent, client.fetched event with
  | .ok (_, user), some (uid, children) =>
    user.uid == uid || (UserService.beaconsOf platform children uid).isEmpty
  | _, _ => true

end Client

variable {devices : Nat} {platform : Platform}

/-- The listing that the keys of an object were last taken from, in the process that runs. -/
def loaded (device : Fin devices) (reference : Nat) :
    History (World devices) (Action devices) → Option (Store String Node)
  | [] => none
  | (world, .event active event) :: history =>
    if active = device then
      match event, (world.client device).assigned event with
      -- a process starts with objects of its own, none of them loaded
      | .didFinishLaunching, _ => none
      | _, some (target, children) =>
        if target = reference then some children else loaded device reference history
      | _, none => loaded device reference history
    else loaded device reference history
  | (_, .answer _ _ _) :: history => loaded device reference history

section

variable {device : Fin devices} {reference : Nat} {world : World devices} {event : Event}
  {history : History (World devices) (Action devices)}

theorem loaded_other {active : Fin devices} (other : device ≠ active) :
    loaded device reference ((world, .event active event) :: history) = loaded device reference history := by
  simp [loaded, Ne.symm other]

theorem loaded_launch :
    loaded device reference ((world, .event device .didFinishLaunching) :: history) = none := by
  simp [loaded]

theorem loaded_unassigned (notLaunch : event ≠ .didFinishLaunching)
    (none : (world.client device).assigned event = none) :
    loaded device reference ((world, .event device event) :: history) = loaded device reference history := by
  cases event <;> simp_all [loaded]

theorem loaded_assigned {target : Nat} {children : Store String Node}
    (notLaunch : event ≠ .didFinishLaunching)
    (some : (world.client device).assigned event = some (target, children)) :
    loaded device reference ((world, .event device event) :: history) =
      if target = reference then Option.some children else loaded device reference history := by
  cases event <;> simp_all [loaded]

end

/-- What is known of the objects of a process: the keys that came from a listing
are those of their own user's beacons in it. -/
structure Provenance (platform : Platform) (listing : Nat → Option (Store String Node)) (client : Client) :
    Prop where
  bound : client.running → ∀ reference children, listing reference = some children →
    reference < client.objects.length
  owned : ∀ reference user children, client.objects[reference]? = some user →
    listing reference = some children → ∀ key ∈ user.beacons, OwnedIn platform children key user.uid

theorem Provenance.of_objects {listing : Nat → Option (Store String Node)} {client next : Client}
    (provenance : Provenance platform listing client) (running : client.running)
    (objects : next.objects = client.objects) : Provenance platform listing next where
  bound _ := by
    rw [objects]
    exact provenance.bound running
  owned := by
    rw [objects]
    exact provenance.owned

theorem Provenance.of_die {listing : Nat → Option (Store String Node)} (client : Client) {root : Root}
    (stopped : (client.die root).running = false) : Provenance platform listing (client.die root) where
  bound running := by simp [stopped] at running
  owned := by simp [Client.die]

theorem fetched_deliver {client : Client} {index : Nat} {inWindow : Bool} {op : Op} {response : Response}
    (found : client.network[index]? = some op) (responded : op.response = some response) :
    client.fetched (.deliver index inWindow) = Client.listingOf op.closure response := by
  simp [Client.fetched, found, responded]

theorem fetched_eq_none_of_passive {client : Client} {index : Nat} {inWindow : Bool} {op : Op}
    {response : Response} (found : client.network[index]? = some op)
    (responded : op.response = some response)
    (other : ∀ uid profile children, response = .listing children → op.closure ≠ .getBeacons uid profile) :
    client.fetched (.deliver index inWindow) = none := by
  rw [fetched_deliver found responded]
  unfold Client.listingOf
  split
  next uid profile children closure => exact absurd closure (other _ _ _ rfl)
  next => rfl

theorem assigned_eq_none {client : Client} {event : Event} (nothing : client.fetched event = none) :
    client.assigned event = none := by
  unfold Client.assigned
  rw [nothing]
  split <;> simp_all

/-- The keys of a user's beacons in a listing are owned by that user there. -/
theorem ownedIn_of_mem_keys {children : Store String Node} {uid key : String}
    (member : key ∈ (UserService.beaconsOf platform children uid).filterMap Beacon.key) :
    OwnedIn platform children key uid :=
  UserService.mem_keys_beaconsOf.mp member

theorem OwnedIn.owner {children : Store String Node} {key uid : String}
    (owned : OwnedIn platform children key uid) :
    (children.lookup key).bind (fun node => (Beacon.ofSnapshot platform ⟨key, node⟩).map Beacon.uid) =
      some uid := by
  obtain ⟨node, beacon, found, decoded, rfl⟩ := owned
  simp [found, decoded]

/-- A key of a user's beacon in a listing is owned by nobody else there. -/
theorem OwnedIn.unique {children : Store String Node} {key first second : String}
    (left : OwnedIn platform children key first) (right : OwnedIn platform children key second) :
    first = second :=
  Option.some.inj (left.owner.symm.trans right.owner)

/-- A completion keeps the provenance, when a listing that replaces keys is for
the current user, or has nothing for its own. -/
theorem provenance_completion {client next : Client} {inWindow : Bool} {closure : Closure}
    {response : Response} {before after : Nat → Option (Store String Node)}
    (outcome : Completion platform client inWindow closure response next) (running : client.running)
    (provenance : Provenance platform before client)
    (plain : (∀ uid profile children, response = .listing children → closure ≠ .getBeacons uid profile) →
      after = before)
    (replaced : ∀ uid profile children reference user, closure = .getBeacons uid profile →
      response = .listing children → client.userCurrent = .ok (reference, user) →
      (user.uid = uid ∨ UserService.beaconsOf platform children uid = []) ∧
        after = fun position => if reference = position then some children else before position) :
    Provenance platform after next := by
  cases outcome with
  | signIn _ _ =>
    rw [plain (by simp)]
    exact provenance.of_objects running rfl
  | updateUserValues _ _ =>
    rw [plain (by simp)]
    exact provenance.of_objects running rfl
  | follow passive _ =>
    rw [plain passive.getBeacons]
    exact provenance.of_objects running rfl
  | alert _ passive =>
    rw [plain passive.getBeacons]
    exact provenance.of_objects running rfl
  | nothing passive =>
    rw [plain passive.getBeacons]
    exact provenance
  | @enter _ scene snapshot user _ _ =>
    rw [plain (by simp)]
    -- the new object stands behind all that a listing was loaded into
    have bound := provenance.bound running
    refine ⟨fun _ reference children found => ?_, fun reference stored children present found => ?_⟩
    · have position := bound reference children found
      simp only [Client.objects_signedIn, List.length_append, List.length_singleton]
      omega
    · have position := bound reference children found
      rw [Client.objects_signedIn, List.getElem?_append_left position] at present
      exact provenance.owned reference stored children present found
  | @beaconsLoaded home children =>
    rw [plain (by simp)]
    obtain ⟨trap, crashed⟩ | ⟨_, _, _, drawn⟩ | unseen :=
      Client.beaconsCompletion_cases platform client home (BeaconService.decode platform children)
    · rw [crashed]
      exact .of_die client rfl
    · rw [drawn]
      exact provenance.of_objects running rfl
    · rw [unseen]
      exact provenance
  | @getBeacons uid profile children =>
    obtain ⟨trap, _, crashed⟩ | ⟨reference, user, current, listed⟩ :=
      Client.getBeaconsCompletion_cases client profile platform children uid
    · rw [crashed]
      exact .of_die client rfl
    · obtain ⟨own, rfl⟩ := replaced uid profile children reference user rfl rfl current
      obtain ⟨_, stored⟩ := Client.userCurrent_eq_ok.mp current
      obtain ⟨position, _⟩ := List.getElem?_eq_some_iff.mp stored
      -- only the current object is rewritten, and the keys are its user's own
      rw [listed]
      refine ⟨fun _ target from' found => ?_, fun target holder from' present found key member => ?_⟩
      · simp only [List.length_set]
        by_cases same : reference = target
        · exact same ▸ position
        · exact provenance.bound running target from' (by simpa [same] using found)
      · by_cases same : reference = target
        · subst same
          simp only [if_true, Option.some.injEq] at found
          subst found
          simp only [List.getElem?_set_self position, Option.some.injEq] at present
          subst present
          obtain rfl | empty := own
          · exact ownedIn_of_mem_keys member
          · simp [empty] at member
        · simp only [same, if_false] at found
          rw [List.getElem?_set_ne same] at present
          exact provenance.owned target holder from' present found key member

theorem provenance_event {history : History (World devices) (Action devices)} {world : World devices}
    {device : Fin devices} {event : Event} {next : Client}
    (dormant : (world.client device).running = false → (world.client device).Dormant)
    (provenance : Provenance platform (fun reference => loaded device reference history)
      (world.client device))
    (own : (world.client device).assignsOwn platform event)
    (handled : (world.client device).handle platform event = some next) :
    Provenance platform
      (fun reference => loaded device reference ((world, .event device event) :: history)) next := by
  generalize client_eq : world.client device = client at *
  have unassigned : event ≠ .didFinishLaunching → client.fetched event = none →
      (fun reference => loaded device reference ((world, .event device event) :: history)) =
        fun reference => loaded device reference history := by
    intro notLaunch nothing
    funext reference
    exact loaded_unassigned notLaunch (client_eq ▸ assigned_eq_none nothing)
  cases Client.handle_cases handled with
  | launch _ => exact ⟨fun _ _ _ => by simp [loaded_launch], fun _ _ _ _ => by simp [loaded_launch]⟩
  | kill =>
    rw [unassigned (by simp) rfl]
    exact .of_die client rfl
  | crash _ =>
    rw [unassigned (by simp) rfl]
    exact .of_die client rfl
  | tap root tapped =>
    rw [unassigned (by cases tapped <;> simp) (by cases tapped <;> rfl)]
    exact provenance.of_objects (by simp [Client.running, root]) rfl
  | logout main =>
    obtain ⟨_, root⟩ := Client.isMain_iff.mp main
    rw [unassigned (by simp) rfl]
    exact provenance.of_objects (by simp [Client.running, root]) rfl
  | stay =>
    rw [unassigned (by simp) rfl]
    exact provenance
  | screen root _ =>
    rw [unassigned (by simp) rfl]
    exact provenance.of_objects (by simp [Client.running, root]) rfl
  | @deliver index inWindow op response found responded =>
    have running := running_of_responded dormant found responded
    refine provenance_completion (Client.complete_cases platform _ inWindow op.closure response) running
      (provenance.of_objects running rfl) (fun other => unassigned (by simp)
        (fetched_eq_none_of_passive found responded other)) ?_
    intro uid profile children reference user closure listing current
    have fetched : client.fetched (.deliver index inWindow) = some (uid, children) := by
      rw [fetched_deliver found responded, closure, listing]
      rfl
    have current : client.userCurrent = .ok (reference, user) := current
    refine ⟨by simpa [Client.assignsOwn, current, fetched] using own, ?_⟩
    funext position
    exact loaded_assigned (by simp) (by rw [client_eq]; simp [Client.assigned, current, fetched])

theorem fetched_eq_some {client : Client} {event : Event} {uid : String} {children : Store String Node}
    (fetched : client.fetched event = some (uid, children)) :
    ∃ index inWindow op profile, event = .deliver index inWindow ∧ client.network[index]? = some op ∧
      op.response = some (.listing children) ∧ op.closure = .getBeacons uid profile := by
  cases event with
  | deliver index inWindow =>
    simp only [Client.fetched, Option.bind_eq_bind, Option.bind_eq_some_iff] at fetched
    obtain ⟨op, found, response, responded, listing⟩ := fetched
    unfold Client.listingOf at listing
    split at listing
    next uid' profile children' closure =>
      cases listing
      exact ⟨index, inWindow, op, profile, rfl, found, responded, closure⟩
    next => contradiction
  | _ => simp [Client.fetched] at fetched

/-- A listing that leaves only keys of the current user was for that user, or had nothing. -/
theorem assignsOwn_of_owned {client next : Client} {event : Event}
    (handled : client.handle platform event = some next)
    (owned : ∀ reference user children, client.assigned event = some (reference, children) →
      next.userCurrent = .ok (reference, user) →
      ∀ key ∈ user.beacons, OwnedIn platform children key user.uid) :
    client.assignsOwn platform event := by
  unfold Client.assignsOwn
  split
  next reference user uid children current fetched =>
    obtain ⟨index, inWindow, op, profile, rfl, found, responded, closure⟩ := fetched_eq_some fetched
    have delivered : next = { client with network := client.network.eraseIdx index }.getBeaconsCompletion
        profile (UserService.beaconsOf platform children uid) := by
      simp only [Client.handle, Client.deliver, found, responded, closure, Option.bind_eq_bind,
        Option.bind_some, Option.pure_def, Option.some.injEq] at handled
      exact handled.symm
    obtain ⟨trap, none, _⟩ | ⟨reference', user', current', listed⟩ :=
      Client.getBeaconsCompletion_cases { client with network := client.network.eraseIdx index } profile
        platform children uid
    · have current : client.userCurrent = .error trap := none
      simp_all
    · obtain ⟨rfl, rfl⟩ : reference = reference' ∧ user = user' := by
        have same : client.userCurrent = .ok (reference', user') := current'
        simpa [current] using same
      obtain ⟨at', stored⟩ := Client.userCurrent_eq_ok.mp current
      obtain ⟨position, _⟩ := List.getElem?_eq_some_iff.mp stored
      have after : next.userCurrent = .ok (reference, { user with
          beacons := (UserService.beaconsOf platform children uid).filterMap Beacon.key }) := by
        rw [delivered, listed, Client.userCurrent_eq_ok]
        exact ⟨at', List.getElem?_set_self position⟩
      have assigned : client.assigned (.deliver index inWindow) = some (reference, children) := by
        simp [Client.assigned, current, fetched]
      -- a key that was kept has one owner in the listing: the user it was filtered for
      cases kept : UserService.beaconsOf platform children uid with
      | nil => simp
      | cons beacon beacons =>
        obtain ⟨key, key_eq⟩ := BeaconService.key_of_mem_decode
          (List.mem_filter.mp (kept ▸ List.mem_cons_self :
            beacon ∈ UserService.beaconsOf platform children uid)).1
        have member : key ∈ (UserService.beaconsOf platform children uid).filterMap Beacon.key :=
          List.mem_filterMap.mpr ⟨beacon, by simp [kept], key_eq⟩
        have same := (owned reference _ children assigned after key member).unique
          (ownedIn_of_mem_keys member)
        simpa using same
  next => rfl

/-- Every listing that arrives is for the current user of its device, or has nothing for its own. -/
def AssignsOwn (platform : Platform) : Guard (World devices) (Action devices) := fun _ world action =>
  match action with
  | .event device event => (world.client device).assignsOwn platform event
  | .answer _ _ _ => True

instance (history : History (World devices) (Action devices)) (world : World devices) :
    (action : Action devices) → Decidable (AssignsOwn platform history world action)
  | .event device event =>
    inferInstanceAs (Decidable ((world.client device).assignsOwn platform event = true))
  | .answer _ _ _ => isTrue trivial

/-- The keys of the current user that a listing has left there are those of the
current user's beacons in that listing. -/
def KeysOwned (platform : Platform) (history : History (World devices) (Action devices))
    (world : World devices) : Prop :=
  ∀ device reference user children, (world.client device).userCurrent = .ok (reference, user) →
    loaded device reference history = some children →
    ∀ key ∈ user.beacons, OwnedIn platform children key user.uid

/-- In every run, on every device, the keys that `getBeacons` has left in
`User.current` are the current user's own in all states, if and only if every
listing arrives for the current user or has nothing for its own. -/
theorem keys_owned_iff {history : History (World devices) (Action devices)} {world : World devices}
    (execution : Execution (app platform Idle) history world) :
    EveryState (KeysOwned platform) history world ↔ EveryStep (AssignsOwn platform) history := by
  refine execution.everyState_iff (fun history world => world.Sound ∧ ∀ device,
    Provenance platform (fun reference => loaded device reference history) (world.client device))
    ?starts ?preserved ?sound ?exact
  case starts =>
    intro world idle
    exact ⟨.of_idle idle, fun device => ⟨fun _ _ _ => by simp [loaded], fun _ _ _ _ => by simp [loaded]⟩⟩
  case preserved =>
    rintro history world action next ⟨sound, provenance⟩ own taken
    refine ⟨sound.step taken, fun device => ?_⟩
    obtain ⟨active, event, client, rfl, handled, rfl⟩ |
      ⟨active, index, outcome, op, response, server, rfl, _, _, _, rfl⟩ := step_cases taken
    · by_cases here : device = active
      · subst here
        rw [World.setClient_client_self]
        exact provenance_event (sound.dormant device) (provenance device) own handled
      · rw [World.setClient_client_of_ne _ here]
        simpa only [loaded_other here] using provenance device
    · by_cases here : device = active
      · subst here
        simp only [World.setClient_client_self]
        exact ⟨(provenance device).bound, (provenance device).owned⟩
      · simp only [World.setClient_client_of_ne _ here]
        exact provenance device
  case sound =>
    rintro history world ⟨_, provenance⟩ device reference user children current
    exact (provenance device).owned reference user children (Client.userCurrent_eq_ok.mp current).2
  case exact =>
    rintro history world action next - taken owned
    obtain ⟨active, event, client, rfl, handled, rfl⟩ | ⟨_, _, _, _, _, _, rfl, _⟩ := step_cases taken
    · -- the listing just assigned is the one last loaded, so the property speaks about it
      refine assignsOwn_of_owned handled fun reference user children assigned current => ?_
      refine owned active reference user children (by simpa using current) ?_
      have notLaunch : event ≠ .didFinishLaunching := by
        rintro rfl
        unfold Client.assigned at assigned
        split at assigned
        next fetched => simp [Client.fetched] at fetched
        next => contradiction
      rw [loaded_assigned notLaunch assigned, if_pos rfl]
    · trivial

/-- Ann opens her profile and logs out; Bob logs in before Ann's listing arrives. -/
def bobGetsAnnsListing : List (Action 1) := annLogsIn ++
  [.event 0 (.screen .profileButtonPressed), .answer 0 1 .success,
    .event 0 (.logoutButtonTapped true)] ++ loginActions 0 "bob@lyv.app" "hidden" 2 ++
  [.event 0 (.deliver 1 true)]

theorem annOpensProfile_taken :
    ((app .sample Idle).replay [] (World.installed .withBeacon) annOpensProfile).isSome := by
  decide +kernel

theorem bobGetsAnnsListing_taken :
    ((app .sample Idle).replay [] (World.installed .withBeacon) bobGetsAnnsListing).isSome := by
  decide +kernel

theorem annOpensProfile_keys_owned :
    EveryState (KeysOwned .sample)
      ((app .sample Idle).reached _ annOpensProfile annOpensProfile_taken).1
      ((app .sample Idle).reached _ annOpensProfile annOpensProfile_taken).2 :=
  (keys_owned_iff ((app .sample Idle).execution_reached (idle_installed .withBeacon) annOpensProfile
    annOpensProfile_taken)).mpr (by decide +kernel)

/-- Bob's session is left with the key of Ann's beacon. -/
theorem keys_not_always_owned :
    ¬ ∀ (platform : Platform) (devices : Nat) (history : History (World devices) (Action devices))
      (world : World devices), Execution (app platform Idle) history world →
      KeysOwned platform history world := by
  intro always
  have execution := (app .sample Idle).execution_reached (idle_installed .withBeacon) bobGetsAnnsListing
    bobGetsAnnsListing_taken
  have owner : ((loaded 0 1 ((app .sample Idle).reached _ bobGetsAnnsListing
      bobGetsAnnsListing_taken).1).bind fun children => (children.lookup "campfire").bind fun node =>
        (Beacon.ofSnapshot .sample ⟨"campfire", node⟩).map Beacon.uid) = some "ann" := by decide +kernel
  obtain ⟨children, arrived, _⟩ := Option.bind_eq_some_iff.mp owner
  have owned := always _ _ _ _ execution 0 1 { uid := "bob", username := "Bob", beacons := ["campfire"] }
    children (by decide +kernel) arrived "campfire" (by simp)
  rw [arrived, Option.bind_some, owned.owner] at owner
  exact absurd owner (by decide)

end Lyv
