import Lyv.Library.Leads
import Lyv.Verified.Quiescence
import Lyv.Verified.StoredRecords

/-!
# Devices catch up

A list on a screen may be old, and nothing brings it up to date by itself.  But
no device is left behind for good: what is in flight comes to rest, and a home
screen that is left and comes back loads what the database holds by then.
-/

namespace Lyv

open Lyv.Library Lyv.Firebase

variable {devices : Nat} {platform : Platform} {starts : World devices → Prop}

/-- Nobody starts a write: completions run, and screens are left for those below. -/
def Event.browses : Event → Prop
  | .deliver _ _ | .screen .leaveHome | .screen .exitToHome | .screen .exitToProfile => True
  | _ => False

def Action.browses : Action devices → Prop
  | .event _ occurred => occurred.browses
  | .answer _ _ _ => True

theorem browses_of_unattended (action : Action devices) (unattended : action.unattended) : action.browses := by
  cases action with
  | answer _ _ _ => trivial
  | event device event =>
    cases event with
    | deliver _ _ => trivial
    | _ => contradiction

theorem readableCreates_of_browses (history : History (World devices) (Action devices)) (world : World devices)
    (action : Action devices) (browses : action.browses) : ReadableCreates platform history world action := by
  intro beacon creating
  unfold Action.creating at creating
  split at creating <;> contradiction

/-! ## One device -/

/-- Browsing can bring a device from one state to the other, and leaves the server as it is. -/
def BrowsesTo (platform : Platform) (server : Server) (client next : Client) : Prop :=
  ∀ (devices : Nat) (starts : World devices → Prop) (world : World devices) (device : Fin devices),
    world.server = server → world.client device = client →
      (app platform starts).Leads Action.browses world (world.setClient device next)

namespace BrowsesTo

variable {server : Server} {client middle next : Client}

theorem trans (first : BrowsesTo platform server client middle) (second : BrowsesTo platform server middle next) :
    BrowsesTo platform server client next := by
  intro devices starts world device served here
  have there := first devices starts world device served here
  have on := second devices starts (world.setClient device middle) device served (by simp)
  have same : (world.setClient device middle).setClient device next = world.setClient device next := by
    simp [World.setClient]
  rw [same] at on
  exact there.trans on

theorem event {event : Event} (browses : event.browses) (handled : client.handle platform event = some next) :
    BrowsesTo platform server client next := by
  rintro devices starts world device rfl rfl
  have ofKind : (Action.event device event).browses := browses
  refine .single ofKind ?_
  simp [app, World.step, handled]

theorem answer {index : Nat} {op : Op} {outcome : Outcome} {response : Response}
    (found : client.network[index]? = some op) (waiting : op.response = none)
    (answered : server.answer (server.view client.network) op.request outcome = some (response, server)) :
    BrowsesTo platform server client (client.answered index op response) := by
  rintro devices starts world device rfl rfl
  have pending : world.pending device index = some op := by
    simp [World.pending, found, waiting]
  have ofKind : (Action.answer device index outcome).browses := trivial
  refine .single ofKind ?_
  simp only [app, World.step, World.view, pending, Option.bind_eq_bind, Option.bind_some, answered]
  rfl

end BrowsesTo

/-- The Main storyboard is up, a user is current, and nothing is in flight. -/
structure Client.Calm (client : Client) (scene : MainScene) : Prop where
  root : client.root = .main scene
  network : client.network = []
  current : ∃ current, client.userCurrent = .ok current

namespace Client

variable {server : Server} {client : Client} {scene : MainScene}

/-- A fetch of a profile that fails leaves nothing behind. -/
theorem browses_failing {uid : String} {profile : Nat}
    (network : client.network = [UserService.getBeacons uid profile]) :
    BrowsesTo platform server client { client with network := [] } := by
  have found : client.network[0]? = some (UserService.getBeacons uid profile) := by
    rw [network]
    rfl
  have failed : server.answer (server.view client.network) (UserService.getBeacons uid profile).request (.failure "") =
      some (.failed "", server) := rfl
  have looks : Event.browses (.deliver 0 true) := trivial
  refine BrowsesTo.trans (.answer found rfl failed) (.event looks ?_)
  simp [handle, deliver, answered, network, UserService.getBeacons, complete]

theorem Calm.exitToProfile {profile : ProfileController} {form : UpdateController} (calm : client.Calm scene)
    (screen : scene.screen = .update profile form) :
    ∃ next, BrowsesTo platform server client next ∧ next.Calm { scene with screen := .profile profile } := by
  obtain ⟨current, signedIn⟩ := calm.current
  have looks : Event.browses (.screen .exitToProfile) := trivial
  have handled : ∀ sent, MainScene.profileAppears client.userCurrent profile = .ok sent →
      client.handle platform (.screen .exitToProfile) =
        some (client.react { scene := { scene with screen := .profile profile }, sent := sent }) := by
    intro sent appears
    simp [handle, Client.screen, calm.root, MainScene.handle, screen, appears, bind, Except.bind, pure, Except.pure]
  cases loads : profile.loads with
  | false =>
    have exits := handled [] (by simp [MainScene.profileAppears, loads, pure, Except.pure])
    exact ⟨_, .event looks exits, rfl, by simp [react, calm.network], current, signedIn⟩
  | true =>
    have exits := handled [UserService.getBeacons current.2.uid profile.identifier]
      (by simp [MainScene.profileAppears, loads, signedIn, bind, Except.bind, pure, Except.pure])
    have sent : (client.react {
        scene := { scene with screen := .profile profile }
        sent := [UserService.getBeacons current.2.uid profile.identifier] }).network =
          [UserService.getBeacons current.2.uid profile.identifier] := by
      simp [react, calm.network]
    exact ⟨_, .trans (.event looks exits) (browses_failing sent), rfl, rfl, current, signedIn⟩

theorem Calm.leaveHome (calm : client.Calm scene) (screen : scene.screen = .home) :
    ∃ next, BrowsesTo platform server client next ∧ next.Calm { scene with screen := .other } := by
  have looks : Event.browses (.screen .leaveHome) := trivial
  have handled : client.handle platform (.screen .leaveHome) =
      some (client.react { scene := { scene with screen := .other } }) := by
    simp [handle, Client.screen, calm.root, MainScene.handle, screen, pure, Except.pure]
  exact ⟨_, .event looks handled, rfl, by simp [react, calm.network], calm.current⟩

/-- The listing that a home screen waits for reaches it. -/
theorem browses_loading (root : client.root = .main scene)
    (network : client.network = [BeaconService.beacons scene.home.identifier])
    (readable : Readable platform server.beacons) :
    ∃ home : HomeController, home.beacons = BeaconService.decode platform server.beacons ∧
      BrowsesTo platform server client { client with root := .main { scene with home := home }, network := [] } := by
  have found : client.network[0]? = some (BeaconService.beacons scene.home.identifier) := by
    rw [network]
    rfl
  have listed : server.answer (server.view client.network)
      (BeaconService.beacons scene.home.identifier).request .success = some (.listing server.beacons, server) := by
    rw [network]
    rfl
  have looks : Event.browses (.deliver 0 true) := trivial
  obtain ⟨home, loaded⟩ := (beaconsLoaded_isOk_iff scene.home _).mpr readable
  refine ⟨home, HomeController.beacons_beaconsLoaded loaded, .trans (.answer found rfl listed) (.event looks ?_)⟩
  simp [handle, deliver, answered, network, BeaconService.beacons, complete, beaconsCompletion, root, loaded]

/-- A home screen that comes back loads what the database holds. -/
theorem Calm.exitToHome (calm : client.Calm scene) (readable : Readable platform server.beacons)
    (screen : scene.screen = .other ∨ ∃ profile, scene.screen = .profile profile) :
    ∃ next scene, BrowsesTo platform server client next ∧ next.Calm scene ∧
      scene.home.beacons = BeaconService.decode platform server.beacons := by
  have looks : Event.browses (.screen .exitToHome) := trivial
  have handled : client.handle platform (.screen .exitToHome) = some (client.react {
      scene := { scene with screen := .home }
      sent := [BeaconService.beacons scene.home.identifier] }) := by
    obtain screen | ⟨profile, screen⟩ := screen <;>
      simp [handle, Client.screen, calm.root, MainScene.handle, screen, pure, Except.pure]
  have sent : (client.react {
      scene := { scene with screen := .home }
      sent := [BeaconService.beacons scene.home.identifier] }).network =
        [BeaconService.beacons scene.home.identifier] := by
    simp [react, calm.network]
  have root : (client.react {
      scene := { scene with screen := .home }
      sent := [BeaconService.beacons scene.home.identifier] }).root = .main { scene with screen := .home } := rfl
  obtain ⟨home, listed, loads⟩ := browses_loading root sent readable
  exact ⟨_, _, .trans (.event looks handled) loads, ⟨rfl, rfl, calm.current⟩, listed⟩

/-- From wherever a device is in the Main storyboard, its list can be brought up to date. -/
theorem Calm.catchUp (calm : client.Calm scene) (readable : Readable platform server.beacons) :
    ∃ next scene, BrowsesTo platform server client next ∧ next.Calm scene ∧
      scene.home.beacons = BeaconService.decode platform server.beacons := by
  cases screen : scene.screen with
  | home =>
    obtain ⟨middle, leaves, calm⟩ := calm.leaveHome screen
    obtain ⟨next, scene, loads, rest⟩ := calm.exitToHome readable (.inl rfl)
    exact ⟨next, scene, leaves.trans loads, rest⟩
  | other => exact calm.exitToHome readable (.inl screen)
  | profile profile => exact calm.exitToHome readable (.inr ⟨profile, screen⟩)
  | update profile form =>
    obtain ⟨middle, exits, calm⟩ := calm.exitToProfile screen
    obtain ⟨next, scene, loads, rest⟩ := calm.exitToHome readable (.inr ⟨profile, rfl⟩)
    exact ⟨next, scene, exits.trans loads, rest⟩

end Client

/-! ## All devices -/

theorem Completion.isMain {client next : Client} {inWindow : Bool} {closure : Closure} {response : Response}
    (outcome : Completion platform client inWindow closure response next) (main : client.isMain) :
    next.isMain ∨ ∃ trap, next.root = .trapped trap := by
  cases outcome with
  | signIn _ _ | updateUserValues _ _ | follow _ _ | alert _ _ | nothing _ => exact .inl main
  | enter _ _ => exact .inl (by rw [Client.isMain_signedIn, main, Bool.true_or])
  | @getBeacons uid profile children =>
    obtain ⟨_, _, crashed⟩ | ⟨_, _, _, listed⟩ :=
      Client.getBeaconsCompletion_cases client profile platform children uid
    · exact .inr ⟨_, by rw [crashed]; rfl⟩
    · exact .inl (by rw [listed, Client.isMain_profileLoaded]; exact main)
  | @beaconsLoaded home children =>
    obtain ⟨_, crashed⟩ | ⟨_, _, _, drawn⟩ | unseen :=
      Client.beaconsCompletion_cases platform client home (BeaconService.decode platform children)
    · exact .inr ⟨_, by rw [crashed]; rfl⟩
    · exact .inl (by rw [drawn]; rfl)
    · exact .inl (by rw [unseen]; exact main)

/-- Browsing leaves the Main storyboard up, or stops the process. -/
theorem Client.isMain_browses {client next : Client} {event : Event} (main : client.isMain) (browses : event.browses)
    (handled : client.handle platform event = some next) : next.isMain ∨ ∃ trap, next.root = .trapped trap := by
  cases Client.handle_cases handled with
  | launch _ | kill _ | stay | logout _ => contradiction
  | tap _ tapped => cases tapped <;> contradiction
  | crash _ => exact .inr ⟨_, rfl⟩
  | screen _ _ => exact .inl rfl
  | @deliver index inWindow op response _ _ =>
    exact (Client.complete_cases platform { client with network := client.network.eraseIdx index }
      inWindow op.closure response).isMain main

variable {stored : Store String Node} {history : History (World devices) (Action devices)}
  {world next : World devices} {action : Action devices}

/-- Where no process is stopped, a step that starts no write leaves every Main storyboard up. -/
theorem isMain_step (untrapped : ∀ device trap, (next.client device).root ≠ .trapped trap)
    (browses : action.browses) (taken : (app platform starts).step world action = some next) (device : Fin devices)
    (main : (world.client device).isMain) : (next.client device).isMain := by
  obtain same | ⟨event, rfl, handled⟩ | ⟨_, _, _, _, _, _, _, _, _, answered⟩ := client_cases taken device
  · rwa [same]
  · obtain stays | ⟨trap, stopped⟩ := Client.isMain_browses main browses handled
    · exact stays
    · exact absurd stopped (untrapped device trap)
  · rw [answered]
    exact main

/-- Nothing is in flight, and a device in the Main storyboard has its user. -/
structure World.Calm (server : Server) (world : World devices) : Prop where
  server : world.server = server
  network : ∀ device, (world.client device).network = []
  current : ∀ device, (world.client device).isMain → ∃ current, (world.client device).userCurrent = .ok current

/-- The device is not in the Main storyboard, or its list is what the database holds. -/
def World.Lists (platform : Platform) (device : Fin devices) (world : World devices) : Prop :=
  ∀ scene, (world.client device).root = .main scene →
    scene.home.beacons = BeaconService.decode platform world.server.beacons

theorem World.Calm.catchUp {server : Server} (readable : Readable platform server.beacons)
    (calm : world.Calm server) (device : Fin devices) :
    ∃ next, (app platform starts).Leads Action.browses world next ∧ next.Calm server ∧
      World.Lists platform device next ∧
      ∀ other, World.Lists platform other world → World.Lists platform other next := by
  by_cases main : (world.client device).isMain
  · obtain ⟨scene, root⟩ := Client.isMain_iff.mp main
    have here : (world.client device).Calm scene := ⟨root, calm.network device, calm.current device main⟩
    obtain ⟨next, after, leads, calm', listed⟩ := here.catchUp readable
    have lists : World.Lists platform device (world.setClient device next) := by
      intro scene root
      rw [World.setClient_client_self] at root
      cases calm'.root.symm.trans root
      rw [World.setClient_server, calm.server, listed]
    refine ⟨world.setClient device next, leads devices starts world device calm.server rfl, ⟨calm.server, ?_, ?_⟩,
      lists, ?_⟩
    · intro other
      by_cases same : other = device
      · subst same
        rw [World.setClient_client_self]
        exact calm'.network
      · rw [World.setClient_client_of_ne _ same]
        exact calm.network other
    · intro other
      by_cases same : other = device
      · subst same
        rw [World.setClient_client_self]
        exact fun _ => calm'.current
      · rw [World.setClient_client_of_ne _ same]
        exact calm.current other
    · intro other before
      by_cases same : other = device
      · exact same ▸ lists
      · intro scene root
        rw [World.setClient_client_of_ne _ same] at root
        exact before scene root
  · refine ⟨world, .refl world, calm, fun scene root => ?_, fun _ => id⟩
    exact absurd (Client.isMain_iff.mpr ⟨scene, root⟩) main

/-- What is in flight comes to rest; where nothing is, nothing needs to happen. -/
theorem leads_to_rest (platform : Platform) (starts : World devices → Prop) (world : World devices) :
    ∃ rest, (app platform starts).Leads Action.browses world rest ∧ (∀ device, (rest.client device).network = []) ∧
      ((∀ device, (world.client device).network = []) → rest = world) := by
  by_cases empty : ∀ device, (world.client device).network = []
  · exact ⟨world, .refl world, empty, fun _ => rfl⟩
  · obtain ⟨rest, drains, idle⟩ := lowers_work.leads progresses_work world
    refine ⟨rest, drains.mono browses_of_unattended, fun device => ?_, fun empty' => absurd empty' empty⟩
    exact Client.work_eq_zero.mp (Finset.sum_eq_zero_iff.mp idle device (Finset.mem_univ device))

theorem World.Safe.calm (safe : world.Safe platform stored history)
    (idle : ∀ device, (world.client device).network = []) : world.Calm world.server := by
  refine ⟨rfl, idle, fun device main => ?_⟩
  cases found : (world.client device).userCurrent with
  | ok current => exact ⟨current, rfl⟩
  | error trap => exact absurd found (safe.secured.userCurrent (.inl main) trap)

/-- No process stops on the way, so that every Main storyboard stays up. -/
theorem isMain_leads (reads : ReadsItsJpegs platform) (readable : Readable platform stored)
    (execution : Execution (app platform (StartsWith stored)) history world)
    (created : EveryStep (ReadableCreates platform) history)
    (leads : (app platform (StartsWith stored)).Leads Action.browses world next) (device : Fin devices)
    (main : (world.client device).isMain) : (next.client device).isMain := by
  obtain ⟨_, stays⟩ := leads.invariant
    (fun next => (∃ history, Execution (app platform (StartsWith stored)) history next ∧
      EveryStep (ReadableCreates platform) history) ∧ (next.client device).isMain)
    (by
      rintro middle action next ⟨⟨history, execution, created⟩, up⟩ browses taken
      have execution := execution.step taken
      have created : EveryStep (ReadableCreates platform) ((middle, action) :: history) :=
        ⟨readableCreates_of_browses history middle action browses, created⟩
      have safe := World.Safe.of_execution reads readable execution created
      exact ⟨⟨_, execution, created⟩, isMain_step safe.untrapped browses taken device up⟩)
    ⟨⟨history, execution, created⟩, main⟩
  exact stays

/-- From every state of a run over a database that can be drawn, the devices can
catch up without anyone writing: answers, completions and ways back through the
screens lead to a state in which nothing is in flight, whatever showed the Main
storyboard does, and every home screen lists what the database holds.  The
database stays as it is, unless something was in flight. -/
theorem devices_catch_up (reads : ReadsItsJpegs platform) (readable : Readable platform stored)
    (execution : Execution (app platform (StartsWith stored)) history world)
    (created : EveryStep (ReadableCreates platform) history) :
    ∃ actions next, (∀ action ∈ actions, Action.browses action) ∧
      (app platform (StartsWith stored)).run world actions = some next ∧
      (∀ device, (next.client device).network = []) ∧
      ((∀ device, (world.client device).network = []) → next.server = world.server) ∧
      ∀ device, (world.client device).isMain → ∃ scene, (next.client device).root = .main scene ∧
        scene.home.beacons = BeaconService.decode platform next.server.beacons := by
  -- first what is in flight comes to rest
  obtain ⟨rest, drains, idle, unmoved⟩ := leads_to_rest platform (StartsWith stored) world
  obtain ⟨_, execution', created'⟩ := execution.leads created readableCreates_of_browses drains
  have safe := World.Safe.of_execution reads readable execution' created'
  -- then one device after the other goes back to its home screen
  have readable' := safe.readable readable rest.server (mem_seen List.mem_cons_self)
  obtain ⟨next, loads, calm, lists⟩ := System.leads_all (World.Lists platform) (World.Calm rest.server)
    (fun device world calm => calm.catchUp readable' device) (List.finRange devices) (safe.calm idle)
  obtain ⟨actions, browses, taken⟩ := drains.trans loads
  refine ⟨actions, next, browses, taken, calm.network, fun empty => ?_, fun device main => ?_⟩
  · rw [calm.server, unmoved empty]
  · have up := isMain_leads reads readable execution created ⟨actions, browses, taken⟩ device main
    obtain ⟨scene, root⟩ := Client.isMain_iff.mp up
    exact ⟨scene, root, lists device (List.mem_finRange device) scene root⟩

/-- Ann's create is stored, and her home screen, which she has left, can still list it. -/
theorem annCreated_catches_up : ∃ actions next, (∀ action ∈ actions, Action.browses action) ∧
    besideCampfire.run annCreated actions = some next ∧ ∃ scene, (next.client 0).root = .main scene ∧
      scene.home.beacons = BeaconService.decode .sample next.server.beacons := by
  obtain ⟨actions, next, browses, taken, _, _, lists⟩ := devices_catch_up readsItsJpegs_sample
    readable_withBeacon annCreated_execution (by decide +kernel)
  exact ⟨actions, next, browses, taken, lists 0 (by decide +kernel)⟩

end Lyv
