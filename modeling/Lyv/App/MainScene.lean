import Lyv.Controllers.HomeController
import Lyv.Controllers.UpdateController
import Lyv.Services.Calls

/-!
# The Main storyboard

The home screen is at the bottom of the navigation stack; over it stands the
profile, and over that the update screen.  An event on a screen changes the
stack and sends operations; it reads the session but never writes it.
-/

namespace Lyv

inductive Screen where
  | home
  /-- The details and the create screens. -/
  | other
  | profile (profile : ProfileController)
  | update (profile : ProfileController) (form : UpdateController)

structure MainScene where
  home : HomeController
  screen : Screen := .home

inductive ScreenEvent where
  | switchPressed
  | homeLocation (location : Coordinate)
  | leaveHome
  | exitToHome
  | profileButtonPressed
  | didSelectItemAt (row : Nat)
  | edit (edit : UpdateController.Edit)
  | updateLocation (location : Coordinate)
  | launchButtonPressed (locationServicesEnabled : Bool) (now : SwiftDouble)
  | removeButtonPressed
  | exitToProfile
  /-- The create screen calls `BeaconService.create`. -/
  | create (beacon : Beacon) (draws : List (Fin 62))

/-- An alert's title and message. -/
structure Alert where
  title : String := ""
  message : String
  deriving DecidableEq

/-- What an event on a screen leads to. -/
structure Reaction where
  scene : MainScene
  sent : List Op := []
  alert : Option Alert := none

namespace MainScene

/-- `ProfileController.viewWillAppear`. -/
def profileAppears (current : Except Trap (Nat × User)) (profile : ProfileController) :
    Except Trap (List Op) :=
  if profile.loads then do
    let (_, user) ← current
    return [UserService.getBeacons user.uid profile.identifier]
  else return []

/-- `HomeController.profileButtonPressed`: `prepare`, then `setupUI` and `viewWillAppear` of the profile. -/
def profileButtonPressed (current : Except Trap (Nat × User)) (fresh : Nat) (scene : MainScene) :
    Except Trap Reaction := do
  let beacons ← scene.home.prepare (current.map fun user => user.2.uid)
  -- `setupUI` reads the user's name
  let _ ← current
  let profile : ProfileController := { identifier := fresh, beacons := beacons }
  let sent ← profileAppears current profile
  return { scene := { scene with screen := .profile profile }, sent := sent }

/-- `UpdateController.launchButtonPressed`, with the unwind to the profile. -/
def launchButtonPressed (platform : Platform) (current : Except Trap (Nat × User))
    (scene : MainScene) (profile : ProfileController) (form : UpdateController)
    (locationServicesEnabled : Bool) (now : SwiftDouble) : Except Trap Reaction := do
  match ← form.updateBeacon platform (current.map fun user => user.2.uid) locationServicesEnabled now with
  | .inl message => return { scene := scene, alert := some { message := message } }
  | .inr newBeacon => do
    -- the user is written with the list that is in memory, whoever's beacon this is
    let update ← BeaconService.updateBeacon newBeacon
    let (reference, user) ← current
    let sent ← profileAppears current profile
    return {
      scene := { scene with screen := .profile profile }
      sent := update :: UserService.updateUserValues reference user :: sent }

/-- The removal of the beacon that the form was opened for. -/
def removal (form : UpdateController) : Except Trap (List Op) :=
  match form.beacon with
  | some beacon => (BeaconService.removeBeacon beacon).map fun op => [op]
  | none => return []

/-- `UpdateController.removeButtonPressed`, with the unwind to the profile. -/
def removeButtonPressed (current : Except Trap (Nat × User)) (scene : MainScene)
    (profile : ProfileController) (form : UpdateController) : Except Trap Reaction := do
  -- the list of the user is neither changed nor written
  let removed ← removal form
  let sent ← profileAppears current profile
  return { scene := { scene with screen := .profile profile }, sent := removed ++ sent }

/-- The reaction to an event, where the screen that is shown has it. -/
def handle (platform : Platform) (current : Except Trap (Nat × User)) (fresh : Nat)
    (scene : MainScene) : ScreenEvent → Option (Except Trap Reaction)
  | .switchPressed =>
    match scene.screen with
    | .home => some do
      let home ← scene.home.switchPressed platform !scene.home.frameSwitch
      return { scene := { scene with home := home } }
    | _ => none
  | .homeLocation location =>
    some (return { scene := { scene with home := scene.home.didUpdateLocations location } })
  | .leaveHome =>
    match scene.screen with
    | .home => some (return { scene := { scene with screen := .other } })
    | _ => none
  | .exitToHome =>
    match scene.screen with
    | .other | .profile _ => some (return {
        scene := { scene with screen := .home }
        sent := [BeaconService.beacons scene.home.identifier] })
    | _ => none
  | .profileButtonPressed =>
    match scene.screen with
    | .home => some (scene.profileButtonPressed current fresh)
    | _ => none
  | .didSelectItemAt row =>
    match scene.screen with
    | .profile profile => (profile.didSelectItemAt row).map fun profile =>
      let form : UpdateController := { beacon := profile.selectedBeacon }
      return { scene := { scene with screen := .update profile (form.setupUI platform) } }
    | _ => none
  | .edit edit =>
    match scene.screen with
    | .update profile form =>
      some (return { scene := { scene with screen := .update profile (form.edit edit) } })
    | _ => none
  | .updateLocation location =>
    match scene.screen with
    | .update profile form =>
      some (return { scene := { scene with screen := .update profile (form.didUpdateLocations location) } })
    | _ => none
  | .launchButtonPressed locationServicesEnabled now =>
    match scene.screen with
    | .update profile form =>
      some (scene.launchButtonPressed platform current profile form locationServicesEnabled now)
    | _ => none
  | .removeButtonPressed =>
    match scene.screen with
    | .update profile form => some (scene.removeButtonPressed current profile form)
    | _ => none
  | .exitToProfile =>
    match scene.screen with
    | .update profile _ => some do
      let sent ← profileAppears current profile
      return { scene := { scene with screen := .profile profile }, sent := sent }
    | _ => none
  | .create beacon draws =>
    match scene.screen with
    | .other =>
      -- `randomAlphaNumericString(length: 28)`
      if draws.length = 28 then
        some (return { scene := scene, sent := [BeaconService.create beacon draws] })
      else none
    | _ => none

/-- The completion of a profile's fetch, when that profile is still on the stack. -/
def profileLoaded (scene : MainScene) (identifier : Nat) (beacons : List Beacon) : MainScene :=
  match scene.screen with
  | .profile profile =>
    if profile.identifier = identifier then
      { scene with screen := .profile (profile.beaconsLoaded beacons) }
    else scene
  | .update profile form =>
    if profile.identifier = identifier then
      { scene with screen := .update (profile.beaconsLoaded beacons) form }
    else scene
  | _ => scene

end MainScene

end Lyv
