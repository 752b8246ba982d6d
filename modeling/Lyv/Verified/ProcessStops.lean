import Lyv.App.Authors
import Lyv.Verified.MarkerSafety
import Lyv.Verified.SelectedRecord
import Lyv.Verified.SessionPresence

/-!
# What stops a process

The handlers unwrap the current user, keys and pictures.  The user and the keys
are always there, and the home screen only holds beacons that it has drawn.  So
a process stops in one kind of step: when the home screen's listing arrives and
a beacon of it has no picture.
-/

namespace Lyv

open Lyv.Library Lyv.Firebase

variable {devices : Nat} {platform : Platform} {starts : World devices → Prop}

/-- Every beacon of the listing has a picture. -/
def Readable (platform : Platform) (children : Store String Node) : Prop :=
  ∀ beacon ∈ BeaconService.decode platform children, (platform.imageOfData beacon.imageData).isSome

/-- The listing that an event hands to a home screen. -/
def Client.lists (client : Client) : Event → Option (Store String Node)
  | .deliver index _ => do
    let op ← client.network[index]?
    match op.closure, op.response with
    | .beaconsLoaded _, some (.listing children) => some children
    | _, _ => none
  | _ => none

theorem Client.lists_deliver {client : Client} {index : Nat} {inWindow : Bool} {op : Op} {home : Nat}
    {children : Store String Node} (found : client.network[index]? = some op)
    (closure : op.closure = .beaconsLoaded home) (responded : op.response = some (.listing children)) :
    client.lists (.deliver index inWindow) = some children := by
  simp [lists, found, closure, responded]

theorem Client.lists_eq_some {client : Client} {event : Event} {children : Store String Node}
    (lists : client.lists event = some children) :
    ∃ index inWindow op home, event = .deliver index inWindow ∧ client.network[index]? = some op ∧
      op.closure = .beaconsLoaded home ∧ op.response = some (.listing children) := by
  cases event with
  | deliver index inWindow =>
    simp only [Client.lists, Option.bind_eq_bind, Option.bind_eq_some_iff] at lists
    obtain ⟨op, found, lists⟩ := lists
    split at lists
    next home listing closure responded =>
      obtain rfl := Option.some.inj lists
      exact ⟨index, inWindow, op, home, rfl, found, closure, responded⟩
    · contradiction
  | _ => contradiction

/-! ## Screens -/

/-- Every beacon of the home screen has a picture: it was drawn. -/
def Client.Drawn (platform : Platform) (client : Client) : Prop :=
  ∀ scene, client.root = .main scene → ∀ beacon ∈ scene.home.beacons, (platform.imageOfData beacon.imageData).isSome

theorem HomeController.switchPressed_isOk {home : HomeController} (isOn : Bool)
    (drawn : ∀ beacon ∈ home.beacons, (platform.imageOfData beacon.imageData).isSome) :
    ∃ next, home.switchPressed platform isOn = .ok next := by
  have nodes : ∀ beacon ∈ home.beacons, ∃ node,
      beacon.creatAnnotationNode platform isOn home.coordinate = .ok node :=
    fun beacon member => (Beacon.creatAnnotationNode_isOk_iff platform beacon isOn home.coordinate).mpr
      (drawn beacon member)
  obtain ⟨created, pairs⟩ := exists_forall₂_iff.mpr nodes
  exact ⟨_, switchPressed_eq_ok.mpr ⟨created, pairs, rfl⟩⟩

/-- With a user, a key on the form and the pictures of the home screen, no event on a screen stops the process. -/
theorem MainScene.handle_ne_error {current : Except Trap (Nat × User)} {fresh : Nat} {scene : MainScene}
    (signedIn : ∀ trap, current ≠ .error trap)
    (keyed : ∀ profile form, scene.screen = .update profile form → form.beacon.bind Beacon.key ≠ none)
    (drawn : ∀ beacon ∈ scene.home.beacons, (platform.imageOfData beacon.imageData).isSome)
    (event : ScreenEvent) (trap : Trap) :
    scene.handle platform current fresh event ≠ some (.error trap) := by
  intro handled
  cases event with
  | switchPressed =>
    simp only [handle] at handled
    split at handled
    · obtain ⟨home, switched⟩ := HomeController.switchPressed_isOk (!scene.home.frameSwitch) drawn
      obtain stopped | ⟨_, _, rest⟩ := bind_eq_error.mp (Option.some.inj handled)
      · simp [switched] at stopped
      · exact absurd rest pure_ne_error
    · contradiction
  | profileButtonPressed =>
    simp only [handle] at handled
    split at handled
    · exact signedIn trap (profileButtonPressed_error (Option.some.inj handled))
    · contradiction
  | launchButtonPressed enabled now =>
    simp only [handle] at handled
    split at handled
    next screen =>
      obtain unread | ⟨_, keyless⟩ := launchButtonPressed_error (Option.some.inj handled)
      · exact signedIn trap unread
      · exact keyed _ _ screen keyless
    · contradiction
  | removeButtonPressed =>
    simp only [handle] at handled
    split at handled
    next screen =>
      obtain unread | ⟨_, keyless⟩ := removeButtonPressed_error (Option.some.inj handled)
      · exact signedIn trap unread
      · exact keyed _ _ screen keyless
    · contradiction
  | exitToProfile =>
    simp only [handle] at handled
    split at handled
    · obtain unread | ⟨_, _, rest⟩ := bind_eq_error.mp (Option.some.inj handled)
      · exact signedIn trap (profileAppears_error unread)
      · exact absurd rest pure_ne_error
    · contradiction
  | didSelectItemAt row =>
    simp only [handle] at handled
    split at handled
    · obtain ⟨_, _, rest⟩ := Option.map_eq_some_iff.mp handled
      exact absurd rest pure_ne_error
    · contradiction
  | homeLocation location => exact absurd (Option.some.inj handled) pure_ne_error
  | leaveHome | exitToHome | edit _ | updateLocation _ | create _ _ =>
    -- these events only move between screens
    simp only [handle] at handled
    repeat' split at handled
    all_goals first | contradiction | exact absurd (Option.some.inj handled) pure_ne_error

/-- An event changes the list of the home screen by no beacon. -/
theorem MainScene.home_beacons_reacted {current : Except Trap (Nat × User)} {fresh : Nat} {scene : MainScene}
    {event : ScreenEvent} {reaction : Reaction} (reacted : Reacted platform current fresh scene event reaction) :
    reaction.scene.home.beacons = scene.home.beacons := by
  cases reacted with
  | switchPressed _ switched => exact HomeController.beacons_switchPressed switched
  | _ => rfl

/-! ## Completions -/

namespace Client

variable {client next : Client}

/-- A listing with all its pictures is drawn, or the home screen that asked for it is gone. -/
theorem beaconsCompletion_of_readable (client : Client) (home : Nat) {beacons : List Beacon}
    (readable : ∀ beacon ∈ beacons, (platform.imageOfData beacon.imageData).isSome) :
    (∃ scene screen, client.root = .main scene ∧ screen.beacons = beacons ∧
      client.beaconsCompletion platform home beacons =
        { client with root := .main { scene with home := screen } }) ∨
    client.beaconsCompletion platform home beacons = client := by
  have drawn : ∀ controller : HomeController, ∃ screen, controller.beaconsLoaded platform beacons = .ok screen :=
    fun controller => (beaconsLoaded_isOk_iff controller beacons).mpr readable
  have offScreen : beaconsCompletion.offScreen platform home beacons client = client := by
    obtain ⟨_, loaded⟩ := drawn { identifier := home }
    simp [beaconsCompletion.offScreen, loaded]
  unfold beaconsCompletion
  split
  next scene root =>
    split
    next =>
      obtain ⟨screen, loaded⟩ := drawn scene.home
      rw [loaded]
      exact .inl ⟨scene, screen, root, HomeController.beacons_beaconsLoaded loaded, rfl⟩
    next => exact .inr offScreen
  next => exact .inr offScreen

/-- A listing without one of its pictures stops the process, whoever asked for it. -/
theorem beaconsCompletion_of_unreadable (client : Client) (home : Nat) {beacons : List Beacon}
    (unreadable : ¬ ∀ beacon ∈ beacons, (platform.imageOfData beacon.imageData).isSome) :
    ∃ trap, client.beaconsCompletion platform home beacons = client.die (.trapped trap) := by
  have stopped : ∀ controller : HomeController,
      ∃ trap, controller.beaconsLoaded platform beacons = .error trap := by
    intro controller
    cases loaded : controller.beaconsLoaded platform beacons with
    | error trap => exact ⟨trap, rfl⟩
    | ok screen => exact absurd ((beaconsLoaded_isOk_iff controller beacons).mp ⟨screen, loaded⟩) unreadable
  have offScreen : ∃ trap, beaconsCompletion.offScreen platform home beacons client =
      client.die (.trapped trap) := by
    obtain ⟨trap, loaded⟩ := stopped { identifier := home }
    exact ⟨trap, by simp [beaconsCompletion.offScreen, loaded]⟩
  unfold beaconsCompletion
  split
  next scene _ =>
    split
    next =>
      obtain ⟨trap, loaded⟩ := stopped scene.home
      exact ⟨trap, by rw [loaded]⟩
    next => exact offScreen
  next => exact offScreen

theorem drawn_completion {inWindow : Bool} {closure : Closure} {response : Response}
    (drawn : client.Drawn platform)
    (outcome : Completion platform client inWindow closure response next) : next.Drawn platform := by
  cases outcome with
  | signIn _ _ | updateUserValues _ _ | follow _ _ | alert _ _ | nothing _ => exact drawn
  | @enter _ scene _ user _ _ =>
    obtain ⟨_, _, entered⟩ | ⟨_, stayed⟩ := signedIn_cases client scene inWindow user
    · rw [entered]
      rintro _ ⟨⟩ _ member
      simp at member
    · rw [stayed]
      exact drawn
  | @getBeacons uid profile children =>
    obtain ⟨_, _, crashed⟩ | ⟨_, _, _, listed⟩ := getBeaconsCompletion_cases client profile platform children uid
    · rw [crashed]
      rintro _ ⟨⟩
    · rw [listed]
      intro scene shown
      cases root : client.root with
      | main before =>
        simp only [root, Root.profileLoaded, Root.main.injEq] at shown
        have home : scene.home = before.home := by
          rw [← shown]
          unfold MainScene.profileLoaded
          repeat' split
          all_goals rfl
        rw [home]
        exact drawn before root
      | _ => simp [root, Root.profileLoaded] at shown
  | @beaconsLoaded home children =>
    by_cases readable : Readable platform children
    · obtain ⟨scene, screen, root, list, shown⟩ | unseen :=
        beaconsCompletion_of_readable client home readable
      · rw [shown]
        rintro _ ⟨⟩
        show ∀ beacon ∈ screen.beacons, _
        rw [list]
        exact readable
      · rw [unseen]
        exact drawn
    · obtain ⟨trap, crashed⟩ := beaconsCompletion_of_unreadable client home readable
      rw [crashed]
      rintro _ ⟨⟩

theorem drawn_handle {event : Event} (drawn : client.Drawn platform)
    (handled : client.handle platform event = some next) : next.Drawn platform := by
  cases handle_cases handled with
  | launch _ =>
    obtain ⟨_, _, _, _, entered⟩ | ⟨_, shown⟩ := configureInitialRootViewController_cases client
    · rw [entered]
      rintro _ ⟨⟩ _ member
      simp at member
    · rw [shown]
      rintro _ ⟨⟩
  | kill | crash _ | logout _ => rintro _ ⟨⟩
  | tap _ _ | stay => exact drawn
  | screen root reacted =>
    rintro _ ⟨⟩
    rw [MainScene.home_beacons_reacted (MainScene.handle_reacted reacted)]
    exact drawn _ root
  | @deliver index inWindow op response _ _ =>
    have outcome := complete_cases platform { client with network := client.network.eraseIdx index }
      inWindow op.closure response
    exact drawn_completion (by exact drawn) outcome

/-- A completion that stops the process hands the home screen a listing without one of its pictures. -/
theorem completion_trapped {inWindow : Bool} {closure : Closure} {response : Response}
    (untrapped : ∀ trap, client.root ≠ .trapped trap) (present : ∀ uid profile,
      closure = .getBeacons uid profile → ∀ trap, client.userCurrent ≠ .error trap)
    (outcome : Completion platform client inWindow closure response next) {trap : Trap}
    (trapped : next.root = .trapped trap) :
    ∃ home children, closure = .beaconsLoaded home ∧ response = .listing children ∧
      ¬ Readable platform children := by
  cases outcome with
  | signIn _ _ | updateUserValues _ _ | follow _ _ | alert _ _ | nothing _ => exact absurd trapped (untrapped trap)
  | @enter _ scene _ user _ _ =>
    obtain ⟨_, _, entered⟩ | ⟨_, stayed⟩ := signedIn_cases client scene inWindow user
    · rw [entered] at trapped
      contradiction
    · rw [stayed] at trapped
      exact absurd trapped (untrapped trap)
  | @getBeacons uid profile children =>
    obtain ⟨trap, unread, _⟩ | ⟨_, _, _, listed⟩ := getBeaconsCompletion_cases client profile platform children uid
    · exact absurd unread (present uid profile rfl trap)
    · rw [listed] at trapped
      cases root : client.root with
      | trapped other => exact absurd root (untrapped other)
      | _ => simp [root, Root.profileLoaded] at trapped
  | @beaconsLoaded home children =>
    refine ⟨home, children, rfl, rfl, fun readable => ?_⟩
    obtain ⟨scene, screen, _, _, shown⟩ | unseen :=
      beaconsCompletion_of_readable client home readable
    · rw [shown] at trapped
      contradiction
    · rw [unseen] at trapped
      exact absurd trapped (untrapped trap)

end Client

/-! ## Runs -/

/-- What a run keeps that a process may rely on. -/
structure World.Secured (platform : Platform) (history : History (World devices) (Action devices))
    (world : World devices) : Prop where
  sound : world.Sound
  present : world.Present
  selects : world.Selects platform history
  drawn : ∀ device, (world.client device).Drawn platform
  picture : ∀ device trap, (world.client device).root = .trapped trap →
    trap = .unexpectedNil "UIImage(data: self.imageData)!"

section

variable {history : History (World devices) (Action devices)} {world next : World devices}
  {action : Action devices} {device : Fin devices}

theorem World.Secured.userCurrent (secured : world.Secured platform history)
    (reads : (world.client device).Reads) (trap : Trap) : (world.client device).userCurrent ≠ .error trap :=
  (secured.present device).userCurrent reads trap

/-- No event on a screen stops the process. -/
theorem World.Secured.handle_ne_error (secured : world.Secured platform history) {scene : MainScene}
    (root : (world.client device).root = .main scene) (event : ScreenEvent) (trap : Trap) :
    scene.handle platform (world.client device).userCurrent (world.client device).fresh event ≠
      some (.error trap) := by
  refine MainScene.handle_ne_error (secured.userCurrent (.inl (Client.isMain_iff.mpr ⟨scene, root⟩)))
    (fun profile form screen => ?_) (secured.drawn device scene root) event trap
  obtain ⟨beacon, held, key, keyed, _⟩ :=
    (secured.selects.traced device).form (Client.form_eq_some.mpr ⟨scene, profile, root, screen⟩)
  simp [held, keyed]

/-- An event that stops a process hands it a listing without one of its pictures. -/
theorem World.Secured.lists_of_trapped (secured : world.Secured platform history) {event : Event}
    {client : Client} (untrapped : ∀ trap, (world.client device).root ≠ .trapped trap)
    (handled : (world.client device).handle platform event = some client) {trap : Trap}
    (trapped : client.root = .trapped trap) :
    ∃ children, (world.client device).lists event = some children ∧ ¬ Readable platform children := by
  cases Client.handle_cases handled with
  | launch _ =>
    obtain ⟨_, _, _, _, entered⟩ | ⟨_, shown⟩ :=
      Client.configureInitialRootViewController_cases (world.client device)
    · rw [entered] at trapped
      contradiction
    · rw [shown] at trapped
      contradiction
  | kill | logout _ | screen _ _ => contradiction
  | tap _ _ | stay => exact absurd trapped (untrapped trap)
  | @crash event _ _ =>
    simp only [Client.handle, Client.screen] at handled
    split at handled
    next scene root =>
      obtain ⟨result, reacted, same⟩ := Option.map_eq_some_iff.mp handled
      cases result with
      | ok reaction => cases congrArg Client.root same
      | error other => exact absurd reacted (secured.handle_ne_error root event other)
    next => contradiction
  | @deliver index inWindow op response found responded =>
    have outcome := Client.complete_cases platform
      { (world.client device) with network := (world.client device).network.eraseIdx index } inWindow
      op.closure response
    have reads : ∀ uid profile, op.closure = .getBeacons uid profile → (world.client device).Reads :=
      fun uid profile closure => .inr ⟨op, List.mem_of_getElem? found, by rw [closure]; rfl⟩
    obtain ⟨home, children, closure, rfl, unreadable⟩ := Client.completion_trapped (by exact untrapped)
      (by exact fun uid profile closure => secured.userCurrent (reads uid profile closure)) outcome trapped
    exact ⟨children, Client.lists_deliver found closure responded, unreadable⟩

/-- A listing without one of its pictures stops the process. -/
theorem Client.trapped_of_lists {client next : Client} {event : Event} {children : Store String Node}
    (lists : client.lists event = some children) (unreadable : ¬ Readable platform children)
    (handled : client.handle platform event = some next) : ∃ trap, next.root = .trapped trap := by
  obtain ⟨index, inWindow, op, home, rfl, found, closure, responded⟩ := Client.lists_eq_some lists
  cases Client.handle_cases handled with
  | tap _ tapped => cases tapped
  | deliver found' responded' =>
    obtain rfl := Option.some.inj (found.symm.trans found')
    obtain rfl := Option.some.inj (responded.symm.trans responded')
    rw [closure]
    obtain ⟨trap, crashed⟩ := Client.beaconsCompletion_of_unreadable
      { client with network := client.network.eraseIdx index } home unreadable
    exact ⟨trap, congrArg Client.root crashed⟩

theorem World.Secured.of_idle (idle : Idle world) : world.Secured platform [] where
  sound := .of_idle idle
  present device := by
    rw [idle device]
    exact ⟨by simp, by simp [Client.Reads, Client.isMain], by simp⟩
  selects := ⟨.of_idle idle [], fun device op member => by rw [idle device] at member; simp at member,
    fun device => by rw [idle device]; simp⟩
  drawn device := by
    rw [idle device]
    rintro _ ⟨⟩
  picture device := by
    rw [idle device]
    rintro _ ⟨⟩

theorem World.Secured.step (secured : world.Secured platform history)
    (taken : (app platform starts).step world action = some next) :
    next.Secured platform ((world, action) :: history) where
  sound := secured.sound.step taken
  present := secured.present.step secured.sound.wellFormed taken
  selects := secured.selects.step taken
  drawn := forall_client_step (Client.Drawn platform) (fun _ _ _ drawn handled => Client.drawn_handle drawn handled)
    (fun _ _ _ _ drawn _ => drawn) secured.drawn taken
  picture device trap trapped := by
    obtain same | ⟨event, _, handled⟩ | ⟨_, _, _, _, _, _, _, _, _, answered⟩ := client_cases taken device
    · exact secured.picture device trap (same ▸ trapped)
    · obtain before | stops := Client.handle_trapped handled trapped
      · exact secured.picture device trap before
      · cases stops with
        | picture => rfl
        | @listed op _ uid profile _ member _ closure unread =>
          have reads : op.closure.reads := by rw [closure]; rfl
          exact absurd unread (secured.userCurrent (.inr ⟨op, member, reads⟩) trap)
        | screen root stops =>
          cases stops with
          | picture => rfl
          | session unread =>
            exact absurd unread (secured.userCurrent (.inl (Client.isMain_iff.mpr ⟨_, root⟩)) trap)
          | key screen keyless =>
            obtain ⟨beacon, held, key, keyed, _⟩ :=
              (secured.selects.traced device).form (Client.form_eq_some.mpr ⟨_, _, root, screen⟩)
            simp [held, keyed] at keyless
    · rw [answered] at trapped
      exact secured.picture device trap trapped

theorem World.Secured.of_execution (execution : Execution (app platform Idle) history world) :
    world.Secured platform history :=
  execution.always (fun history world => world.Secured platform history) (fun _ idle => .of_idle idle)
    (fun _ _ _ _ secured taken => secured.step taken)

/-- In every run a process stops on the unwrap of a picture only, and exactly in
the steps that hand the home screen a listing in which a beacon has none.  Not
the switch, the profile, the form, nor any other completion ever stops it. -/
theorem process_stops_iff (execution : Execution (app platform Idle) history world)
    (taken : (app platform Idle).step world action = some next) (device : Fin devices) :
    (∀ trap, (next.client device).root = .trapped trap →
      trap = .unexpectedNil "UIImage(data: self.imageData)!") ∧
    (((world.client device).running ∧ ∃ trap, (next.client device).root = .trapped trap) ↔
      ∃ event children, action = .event device event ∧ (world.client device).lists event = some children ∧
        ¬ Readable platform children) := by
  have secured := World.Secured.of_execution execution
  refine ⟨(secured.step taken).picture device, ?_, ?_⟩
  · rintro ⟨running, trap, trapped⟩
    have untrapped : ∀ trap, (world.client device).root ≠ .trapped trap := by
      intro trap before
      simp [Client.running, before] at running
    obtain same | ⟨event, rfl, handled⟩ | ⟨_, _, _, _, _, _, _, _, _, answered⟩ := client_cases taken device
    · exact absurd (same ▸ trapped) (untrapped trap)
    · obtain ⟨children, lists, unreadable⟩ := secured.lists_of_trapped untrapped handled trapped
      exact ⟨event, children, rfl, lists, unreadable⟩
    · rw [answered] at trapped
      exact absurd trapped (untrapped trap)
  · rintro ⟨event, children, rfl, lists, unreadable⟩
    obtain ⟨index, _, op, _, _, found, _, responded⟩ := Client.lists_eq_some lists
    obtain ⟨client, handled, rfl⟩ := Option.map_eq_some_iff.mp taken
    refine ⟨running_of_responded (secured.sound.dormant device) found responded, ?_⟩
    rw [World.setClient_client_self]
    exact Client.trapped_of_lists lists unreadable handled

end

/-- Ann logs in where a stored beacon has no picture, and the home screen's listing is answered. -/
def annLists : List (Action 1) := annLogsIn ++ [.answer 0 0 .success]

def Server.pictureless : Server := { Server.sample with beacons := setChild .empty "k" Lyv.pictureless.dictValue }

theorem annLists_taken :
    ((app .sample Idle).replay [] (World.installed .pictureless) annLists).isSome := by
  decide +kernel

def World.annListed : World 1 := ((app .sample Idle).reached (World.installed .pictureless) annLists annLists_taken).2

theorem annListed_delivered : ((app .sample Idle).step .annListed (.event 0 (.deliver 0 true))).isSome := by
  decide +kernel

theorem annListed_stops : ∃ trap, ((Option.get _ annListed_delivered).client 0).root = .trapped trap := by
  have stops := (process_stops_iff ((app .sample Idle).execution_reached (idle_installed .pictureless)
    annLists annLists_taken) (Option.some_get annListed_delivered).symm 0).2
  have handed : ((World.annListed.client 0).lists (.deliver 0 true)).any (fun children =>
      (BeaconService.decode .sample children).any fun beacon =>
        (Platform.sample.imageOfData beacon.imageData).isNone) = true := by
    decide +kernel
  obtain ⟨children, lists, unreadable⟩ := (Option.any_eq_true _ _).mp handed
  obtain ⟨beacon, member, none⟩ := List.any_eq_true.mp unreadable
  refine (stops.mpr ⟨_, children, rfl, lists, fun readable => ?_⟩).2
  have some := readable beacon member
  simp_all

end Lyv
