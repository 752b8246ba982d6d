import Lyv.Library.Results
import Lyv.App.MainScene

/-!
# What an event on a screen leads to

`MainScene.handle` is inverted once: each event that a screen takes has one
reaction, or stops the process for one of three reasons.  The operations that
are sent and the beacons that are held are read off from there.
-/

namespace Lyv

open Lyv.Library Lyv.Firebase

/-! ## Home -/

namespace HomeController

variable {platform : Platform} {home : HomeController}

theorem prepare_eq (home : HomeController) (uid : String) :
    home.prepare (.ok uid) = .ok (home.beacons.filter fun beacon => beacon.uid = uid) := by
  unfold prepare
  split
  next empty => simp [empty, pure, Except.pure]
  next => rfl

theorem prepare_error {current : Except Trap String} {trap : Trap}
    (stopped : home.prepare current = .error trap) : current = .error trap := by
  unfold prepare at stopped
  split at stopped
  · exact absurd stopped pure_ne_error
  · obtain unread | ⟨_, _, rest⟩ := bind_eq_error.mp stopped
    · exact unread
    · exact absurd rest pure_ne_error

/-- What is handed to the profile is in the list of the home screen. -/
theorem mem_of_prepare {current : Except Trap String} {beacons : List Beacon}
    (prepared : home.prepare current = .ok beacons) : ∀ beacon ∈ beacons, beacon ∈ home.beacons := by
  unfold prepare at prepared
  split at prepared
  · obtain rfl := pure_eq_ok.mp prepared
    simp
  next listed _ =>
    obtain ⟨uid, _, rest⟩ := bind_eq_ok.mp prepared
    obtain rfl := pure_eq_ok.mp rest
    exact fun beacon member => (List.mem_filter.mp member).1

theorem beacons_switchPressed {isOn : Bool} {next : HomeController}
    (switched : home.switchPressed platform isOn = .ok next) : next.beacons = home.beacons := by
  obtain ⟨_, _, rfl⟩ := switchPressed_eq_ok.mp switched
  rfl

theorem beacons_beaconsLoaded {beacons : List Beacon} {next : HomeController}
    (loaded : home.beaconsLoaded platform beacons = .ok next) : next.beacons = beacons := by
  obtain ⟨_, _, rfl⟩ := beaconsLoaded_eq_ok.mp loaded
  rfl

/-- A marker fails on its picture alone. -/
theorem addNodes_error {withLine : Bool} {coordinate : Coordinate} {view : SceneLocationView}
    {beacons : List Beacon} {trap : Trap}
    (stopped : addNodes platform withLine coordinate view beacons = .error trap) :
    trap = .unexpectedNil "UIImage(data: self.imageData)!" := by
  induction beacons generalizing view with
  | nil => exact absurd stopped pure_ne_error
  | cons beacon beacons inductionHypothesis =>
    obtain undrawn | ⟨_, _, rest⟩ := bind_eq_error.mp stopped
    · exact Beacon.creatAnnotationNode_error undrawn
    · exact inductionHypothesis rest

theorem switchPressed_error {isOn : Bool} {trap : Trap}
    (stopped : home.switchPressed platform isOn = .error trap) :
    trap = .unexpectedNil "UIImage(data: self.imageData)!" := by
  obtain undrawn | ⟨_, _, rest⟩ := bind_eq_error.mp stopped
  · exact addNodes_error undrawn
  · exact absurd rest pure_ne_error

theorem beaconsLoaded_error {beacons : List Beacon} {trap : Trap}
    (stopped : home.beaconsLoaded platform beacons = .error trap) :
    trap = .unexpectedNil "UIImage(data: self.imageData)!" := by
  obtain undrawn | ⟨_, _, rest⟩ := bind_eq_error.mp stopped
  · exact addNodes_error undrawn
  · exact absurd rest pure_ne_error

end HomeController

theorem UpdateController.beacon_setupUI (platform : Platform) (form : UpdateController) :
    (form.setupUI platform).beacon = form.beacon := by
  unfold setupUI
  split <;> rfl

theorem UpdateController.beacon_edit (form : UpdateController) (change : Edit) :
    (form.edit change).beacon = form.beacon := by
  cases change <;> rfl

/-! ## Reactions -/

namespace MainScene

variable {platform : Platform} {current : Except Trap (Nat × User)} {fresh : Nat} {scene : MainScene}

/-- What each event leads to. -/
inductive Reacted (platform : Platform) (current : Except Trap (Nat × User)) (fresh : Nat)
    (scene : MainScene) : ScreenEvent → Reaction → Prop where
  | switchPressed {home : HomeController} : scene.screen = .home →
      scene.home.switchPressed platform (!scene.home.frameSwitch) = .ok home →
      Reacted platform current fresh scene .switchPressed { scene := { scene with home := home } }
  | homeLocation (location : Coordinate) : Reacted platform current fresh scene (.homeLocation location)
      { scene := { scene with home := scene.home.didUpdateLocations location } }
  | leaveHome : scene.screen = .home →
      Reacted platform current fresh scene .leaveHome { scene := { scene with screen := .other } }
  | exitToHome : Reacted platform current fresh scene .exitToHome {
      scene := { scene with screen := .home }
      sent := [BeaconService.beacons scene.home.identifier] }
  | profileButtonPressed {beacons : List Beacon} {sent : List Op} : scene.screen = .home →
      scene.home.prepare (current.map fun user => user.2.uid) = .ok beacons →
      profileAppears current { identifier := fresh, beacons := beacons } = .ok sent →
      Reacted platform current fresh scene .profileButtonPressed {
        scene := { scene with screen := .profile { identifier := fresh, beacons := beacons } }
        sent := sent }
  | didSelectItemAt {profile : ProfileController} {row : Nat} {beacon : Beacon} :
      scene.screen = .profile profile → profile.beacons[row]? = some beacon →
      Reacted platform current fresh scene (.didSelectItemAt row) {
        scene := { scene with
          screen := .update { profile with selectedBeacon := some beacon }
            (UpdateController.setupUI platform { beacon := some beacon }) } }
  | edit {profile : ProfileController} {form : UpdateController} (change : UpdateController.Edit) :
      scene.screen = .update profile form → Reacted platform current fresh scene (.edit change)
        { scene := { scene with screen := .update profile (form.edit change) } }
  | updateLocation {profile : ProfileController} {form : UpdateController} (location : Coordinate) :
      scene.screen = .update profile form → Reacted platform current fresh scene (.updateLocation location)
        { scene := { scene with screen := .update profile (form.didUpdateLocations location) } }
  | refused {enabled : Bool} {now : SwiftDouble} (message : String) :
      Reacted platform current fresh scene (.launchButtonPressed enabled now)
        { scene := scene, alert := some { message := message } }
  | saved {profile : ProfileController} {form : UpdateController} {enabled : Bool} {now : SwiftDouble}
      {reference : Nat} {user : User} {key : String} {sent : List Op} :
      scene.screen = .update profile form → current = .ok (reference, user) →
      form.nameTextField ≠ "" → enabled → (form.newBeacon platform user.uid now).key = some key →
      profileAppears current profile = .ok sent →
      Reacted platform current fresh scene (.launchButtonPressed enabled now) {
        scene := { scene with screen := .profile profile }
        sent := { request := .setBeacon key (form.newBeacon platform user.uid now).dictValue
                  closure := .noCompletion .updateBeacon } ::
          UserService.updateUserValues reference user :: sent }
  | removed {profile : ProfileController} {form : UpdateController} {removed sent : List Op} :
      scene.screen = .update profile form → removal form = .ok removed →
      profileAppears current profile = .ok sent →
      Reacted platform current fresh scene .removeButtonPressed
        { scene := { scene with screen := .profile profile }, sent := removed ++ sent }
  | exitToProfile {profile : ProfileController} {form : UpdateController} {sent : List Op} :
      scene.screen = .update profile form → profileAppears current profile = .ok sent →
      Reacted platform current fresh scene .exitToProfile
        { scene := { scene with screen := .profile profile }, sent := sent }
  | create (beacon : Beacon) {draws : List (Fin 62)} : draws.length = 28 →
      Reacted platform current fresh scene (.create beacon draws)
        { scene := scene, sent := [BeaconService.create beacon draws] }

/-- A press of the launch button shows an alert, or writes the beacon of the
form and then the user. -/
theorem launchButtonPressed_cases {profile : ProfileController} {form : UpdateController}
    {enabled : Bool} {now : SwiftDouble} {reaction : Reaction}
    (pressed : launchButtonPressed platform current scene profile form enabled now = .ok reaction) :
    (∃ message, reaction = { scene := scene, alert := some { message := message } }) ∨
    (∃ reference user key appears, current = .ok (reference, user) ∧
      form.nameTextField ≠ "" ∧ enabled ∧ (form.newBeacon platform user.uid now).key = some key ∧
      profileAppears current profile = .ok appears ∧
      reaction = {
        scene := { scene with screen := .profile profile }
        sent := { request := .setBeacon key (form.newBeacon platform user.uid now).dictValue
                  closure := .noCompletion .updateBeacon } ::
          UserService.updateUserValues reference user :: appears }) := by
  obtain ⟨outcome, updated, rest⟩ := bind_eq_ok.mp pressed
  cases outcome with
  | inl message => exact .inl ⟨message, (pure_eq_ok.mp rest).symm⟩
  | inr newBeacon =>
    obtain ⟨titled, located, uid, signedIn, rfl⟩ := UpdateController.updateBeacon_eq_inr.mp updated
    obtain ⟨⟨reference, user⟩, found, rfl⟩ := map_eq_ok.mp signedIn
    obtain ⟨update, keyed, rest⟩ := bind_eq_ok.mp rest
    obtain ⟨_, found', rest⟩ := bind_eq_ok.mp rest
    obtain rfl := Except.ok.inj (found.symm.trans found')
    obtain ⟨appears, appears_eq, rest⟩ := bind_eq_ok.mp rest
    obtain rfl := pure_eq_ok.mp rest
    unfold BeaconService.updateBeacon at keyed
    split at keyed
    · cases keyed
    next key key_eq =>
      obtain rfl := pure_eq_ok.mp keyed
      exact .inr ⟨reference, user, key, appears, found, titled, located, key_eq, appears_eq, rfl⟩

theorem handle_reacted {event : ScreenEvent} {reaction : Reaction}
    (handled : scene.handle platform current fresh event = some (.ok reaction)) :
    Reacted platform current fresh scene event reaction := by
  cases event with
  | switchPressed =>
    simp only [handle] at handled
    split at handled
    next screen =>
      obtain ⟨home, switched, rest⟩ := bind_eq_ok.mp (Option.some.inj handled)
      obtain rfl := pure_eq_ok.mp rest
      exact .switchPressed screen switched
    · contradiction
  | homeLocation location =>
    obtain rfl := pure_eq_ok.mp (Option.some.inj handled)
    exact .homeLocation location
  | leaveHome =>
    simp only [handle] at handled
    split at handled
    next screen =>
      obtain rfl := pure_eq_ok.mp (Option.some.inj handled)
      exact .leaveHome screen
    · contradiction
  | exitToHome =>
    simp only [handle] at handled
    split at handled
    · obtain rfl := pure_eq_ok.mp (Option.some.inj handled)
      exact .exitToHome
    · obtain rfl := pure_eq_ok.mp (Option.some.inj handled)
      exact .exitToHome
    · contradiction
  | profileButtonPressed =>
    simp only [handle] at handled
    split at handled
    next screen =>
      obtain ⟨beacons, prepared, rest⟩ := bind_eq_ok.mp (Option.some.inj handled)
      obtain ⟨_, _, rest⟩ := bind_eq_ok.mp rest
      obtain ⟨sent, appears, rest⟩ := bind_eq_ok.mp rest
      obtain rfl := pure_eq_ok.mp rest
      exact .profileButtonPressed screen prepared appears
    · contradiction
  | didSelectItemAt row =>
    simp only [handle] at handled
    split at handled
    next profile screen =>
      obtain ⟨_, selected, rest⟩ := Option.map_eq_some_iff.mp handled
      obtain ⟨beacon, found, same⟩ := Option.bind_eq_some_iff.mp selected
      obtain rfl := pure_eq_ok.mp rest
      obtain rfl := Option.some.inj same
      exact .didSelectItemAt screen found
    · contradiction
  | edit change =>
    simp only [handle] at handled
    split at handled
    next screen =>
      obtain rfl := pure_eq_ok.mp (Option.some.inj handled)
      exact .edit change screen
    · contradiction
  | updateLocation location =>
    simp only [handle] at handled
    split at handled
    next screen =>
      obtain rfl := pure_eq_ok.mp (Option.some.inj handled)
      exact .updateLocation location screen
    · contradiction
  | launchButtonPressed enabled now =>
    simp only [handle] at handled
    split at handled
    next screen =>
      obtain ⟨message, rfl⟩ | ⟨reference, user, key, sent, signedIn, titled, located, keyed, appears, rfl⟩ :=
        launchButtonPressed_cases (Option.some.inj handled)
      · exact .refused message
      · exact .saved screen signedIn titled located keyed appears
    · contradiction
  | removeButtonPressed =>
    simp only [handle] at handled
    split at handled
    next screen =>
      obtain ⟨removed, taken, rest⟩ := bind_eq_ok.mp (Option.some.inj handled)
      obtain ⟨sent, appears, rest⟩ := bind_eq_ok.mp rest
      obtain rfl := pure_eq_ok.mp rest
      exact .removed screen taken appears
    · contradiction
  | exitToProfile =>
    simp only [handle] at handled
    split at handled
    next screen =>
      obtain ⟨sent, appears, rest⟩ := bind_eq_ok.mp (Option.some.inj handled)
      obtain rfl := pure_eq_ok.mp rest
      exact .exitToProfile screen appears
    · contradiction
  | create beacon draws =>
    simp only [handle] at handled
    split at handled
    · split at handled
      next length =>
        obtain rfl := pure_eq_ok.mp (Option.some.inj handled)
        exact .create beacon length
      · contradiction
    · contradiction

end MainScene

/-! ## Identifiers -/

/-- Which profile is on the stack. -/
def Screen.identifier : Screen → Option Nat
  | .profile shown | .update shown _ => some shown.identifier
  | _ => none

/-- The screen that the completion of a listing is for. -/
def Closure.reader : Closure → Option Nat
  | .beaconsLoaded home => some home
  | .getBeacons _ profile => some profile
  | _ => none

namespace MainScene

/-- The screen is the home screen, or the profile that is on the stack. -/
def Reads (scene : MainScene) (reader : Nat) : Prop :=
  scene.home.identifier = reader ∨ scene.screen.identifier = some reader

variable {platform : Platform} {current : Except Trap (Nat × User)} {fresh : Nat} {scene : MainScene}
  {event : ScreenEvent} {reaction : Reaction}

/-- A profile that comes onto the stack is a new one. -/
theorem identifier_reacted (reacted : Reacted platform current fresh scene event reaction) {profile : Nat}
    (shown : reaction.scene.screen.identifier = some profile) :
    profile = fresh ∨ scene.screen.identifier = some profile := by
  cases reacted with
  | switchPressed _ _ | homeLocation _ | refused _ | create _ _ => exact .inr shown
  | leaveHome _ | exitToHome => contradiction
  | profileButtonPressed _ _ _ => exact .inl (Option.some.inj shown).symm
  | didSelectItemAt screen _ | edit _ screen | updateLocation _ screen | saved screen _ _ _ _ _
  | removed screen _ _ | exitToProfile screen _ =>
    rw [screen]
    exact .inr shown

theorem identifier_profileLoaded (fetched : Nat) (beacons : List Beacon) :
    (scene.profileLoaded fetched beacons).screen.identifier = scene.screen.identifier := by
  unfold profileLoaded
  split
  next screen =>
    split
    · rw [screen]
      rfl
    · rfl
  next screen =>
    split
    · rw [screen]
      rfl
    · rfl
  · rfl

end MainScene

/-! ## Traps -/

namespace MainScene

variable {platform : Platform} {current : Except Trap (Nat × User)} {fresh : Nat} {scene : MainScene}

/-- What may stop the process: nobody is signed in, a picture is no image, or
the form has no key. -/
inductive Stops (current : Except Trap (Nat × User)) (scene : MainScene) : Trap → Prop where
  | session {trap : Trap} : current = .error trap → Stops current scene trap
  | picture : Stops current scene (.unexpectedNil "UIImage(data: self.imageData)!")
  | key {profile : ProfileController} {form : UpdateController} : scene.screen = .update profile form →
      form.beacon.bind Beacon.key = none → Stops current scene (.unexpectedNil "beacon.key!")

theorem profileAppears_error {profile : ProfileController} {trap : Trap}
    (stopped : profileAppears current profile = .error trap) : current = .error trap := by
  unfold profileAppears at stopped
  split at stopped
  · obtain unread | ⟨_, _, rest⟩ := bind_eq_error.mp stopped
    · exact unread
    · exact absurd rest pure_ne_error
  · exact absurd stopped pure_ne_error

theorem profileButtonPressed_error {trap : Trap}
    (stopped : profileButtonPressed current fresh scene = .error trap) : current = .error trap := by
  obtain unprepared | ⟨beacons, _, rest⟩ := bind_eq_error.mp stopped
  · exact map_eq_error.mp (HomeController.prepare_error unprepared)
  · obtain unread | ⟨_, _, rest⟩ := bind_eq_error.mp rest
    · exact unread
    · obtain unread | ⟨_, _, rest⟩ := bind_eq_error.mp rest
      · exact profileAppears_error unread
      · exact absurd rest pure_ne_error

theorem launchButtonPressed_error {profile : ProfileController} {form : UpdateController} {enabled : Bool}
    {now : SwiftDouble} {trap : Trap}
    (stopped : launchButtonPressed platform current scene profile form enabled now = .error trap) :
    current = .error trap ∨
      trap = .unexpectedNil "beacon.key!" ∧ form.beacon.bind Beacon.key = none := by
  obtain unread | ⟨outcome, updated, rest⟩ := bind_eq_error.mp stopped
  · -- the form itself stops on the current user only
    unfold UpdateController.updateBeacon at unread
    split at unread
    · exact absurd unread pure_ne_error
    · split at unread
      · exact absurd unread pure_ne_error
      · obtain unread | ⟨_, _, rest⟩ := bind_eq_error.mp unread
        · exact .inl (map_eq_error.mp unread)
        · exact absurd rest pure_ne_error
  · cases outcome with
    | inl message => exact absurd rest pure_ne_error
    | inr newBeacon =>
      obtain unkeyed | ⟨_, _, rest⟩ := bind_eq_error.mp rest
      · right
        -- the new beacon has the key of the form's beacon
        have key : newBeacon.key = form.beacon.bind Beacon.key := by
          obtain ⟨_, _, _, _, rfl⟩ := UpdateController.updateBeacon_eq_inr.mp updated
          rfl
        unfold BeaconService.updateBeacon at unkeyed
        split at unkeyed
        next none => exact ⟨(Except.error.inj unkeyed).symm, key.symm.trans none⟩
        next => exact absurd unkeyed pure_ne_error
      · left
        obtain unread | ⟨_, _, rest⟩ := bind_eq_error.mp rest
        · exact unread
        · obtain unread | ⟨_, _, rest⟩ := bind_eq_error.mp rest
          · exact profileAppears_error unread
          · exact absurd rest pure_ne_error

theorem removeButtonPressed_error {profile : ProfileController} {form : UpdateController} {trap : Trap}
    (stopped : removeButtonPressed current scene profile form = .error trap) :
    current = .error trap ∨
      trap = .unexpectedNil "beacon.key!" ∧ form.beacon.bind Beacon.key = none := by
  obtain unremoved | ⟨_, _, rest⟩ := bind_eq_error.mp stopped
  · right
    unfold removal at unremoved
    split at unremoved
    next beacon held =>
      have unkeyed := map_eq_error.mp unremoved
      unfold BeaconService.removeBeacon at unkeyed
      split at unkeyed
      next none => exact ⟨(Except.error.inj unkeyed).symm, by rw [held, Option.bind_some, none]⟩
      next => exact absurd unkeyed pure_ne_error
    next => exact absurd unremoved pure_ne_error
  · left
    obtain unread | ⟨_, _, rest⟩ := bind_eq_error.mp rest
    · exact profileAppears_error unread
    · exact absurd rest pure_ne_error

theorem handle_error {event : ScreenEvent} {trap : Trap}
    (handled : scene.handle platform current fresh event = some (.error trap)) :
    Stops current scene trap := by
  cases event with
  | switchPressed =>
    simp only [handle] at handled
    split at handled
    · obtain undrawn | ⟨_, _, rest⟩ := bind_eq_error.mp (Option.some.inj handled)
      · obtain rfl := HomeController.switchPressed_error undrawn
        exact .picture
      · exact absurd rest pure_ne_error
    · contradiction
  | profileButtonPressed =>
    simp only [handle] at handled
    split at handled
    · exact .session (profileButtonPressed_error (Option.some.inj handled))
    · contradiction
  | launchButtonPressed enabled now =>
    simp only [handle] at handled
    split at handled
    next screen =>
      obtain unread | ⟨rfl, keyless⟩ := launchButtonPressed_error (Option.some.inj handled)
      · exact .session unread
      · exact .key screen keyless
    · contradiction
  | removeButtonPressed =>
    simp only [handle] at handled
    split at handled
    next screen =>
      obtain unread | ⟨rfl, keyless⟩ := removeButtonPressed_error (Option.some.inj handled)
      · exact .session unread
      · exact .key screen keyless
    · contradiction
  | exitToProfile =>
    simp only [handle] at handled
    split at handled
    · obtain unread | ⟨_, _, rest⟩ := bind_eq_error.mp (Option.some.inj handled)
      · exact .session (profileAppears_error unread)
      · exact absurd rest pure_ne_error
    · contradiction
  | didSelectItemAt row =>
    simp only [handle] at handled
    split at handled
    · obtain ⟨_, _, rest⟩ := Option.map_eq_some_iff.mp handled
      exact absurd rest pure_ne_error
    · contradiction
  | homeLocation location => exact absurd (Option.some.inj handled) pure_ne_error
  | leaveHome | exitToHome | edit _ | updateLocation _ =>
    simp only [handle] at handled
    split at handled <;> first | contradiction | exact absurd (Option.some.inj handled) pure_ne_error
  | create beacon draws =>
    simp only [handle] at handled
    split at handled
    · split at handled
      · exact absurd (Option.some.inj handled) pure_ne_error
      · contradiction
    · contradiction

end MainScene

end Lyv
