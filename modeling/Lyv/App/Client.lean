import Lyv.App.MainScene

/-!
# The app on one device

The session is kept four times over: by Auth, in UserDefaults, in
`User._current`, and by the storyboard that is on the window.  Auth and
UserDefaults survive the process; everything else dies with it.
-/

namespace Lyv

open Lyv.Firebase

inductive Root where
  /-- No process is running: it was never launched, was killed, or has crashed. -/
  | stopped
  | trapped (trap : Trap)
  | login (scene : Nat)
  | main (scene : MainScene)

/-- A profile's fetch reaches the storyboard on the window. -/
def Root.profileLoaded (profile : Nat) (beacons : List Beacon) : Root → Root
  | .main scene => .main (scene.profileLoaded profile beacons)
  | root => root

structure Client where
  authCurrentUser : Option FIRUser
  /-- The archive under `currentUser`. -/
  userDefaults : Option Archive
  /-- The `User` objects of the process; `current` and completions refer to them by position. -/
  objects : List User := []
  current : Option Nat := none
  root : Root := .stopped
  network : List Op := []
  alerts : List Alert := []
  fresh : Nat := 0

inductive Event where
  | didFinishLaunching
  | kill
  | didTapLoginButton (email password : String)
  | didTapFacebookButton
  | didTapSignUpButton (email password name : String)
  | logoutButtonTapped (signedOut : Bool)
  | screen (event : ScreenEvent)
  /-- The completion of an answered operation runs; `inWindow` says whether the
  controller that started it is still on the login stack. -/
  | deliver (index : Nat) (inWindow : Bool)

namespace Client

/-- A device with no process, and whatever an earlier one has left behind. -/
def Idle (client : Client) : Prop :=
  client = { authCurrentUser := client.authCurrentUser, userDefaults := client.userDefaults }

def currentUser (client : Client) : Option User :=
  client.current.bind fun reference => client.objects[reference]?

/-- `User.current`. -/
def userCurrent (client : Client) : Except Trap (Nat × User) :=
  match client.current with
  | none => throw (.fatalError "Error: current user doesn't exist")
  | some reference =>
    match client.objects[reference]? with
    | none => throw (.fatalError "Error: current user doesn't exist")
    | some user => return (reference, user)

/-- The process ends. -/
def die (client : Client) (root : Root) : Client where
  authCurrentUser := client.authCurrentUser
  userDefaults := client.userDefaults
  root := root
  network := client.network.filterMap Op.orphaned
  fresh := client.fresh

def send (client : Client) (op : Op) : Client :=
  { client with network := client.network ++ [op] }

def showAlert (client : Client) (alert : Alert) : Client :=
  { client with alerts := client.alerts ++ [alert] }

/-- `User.setCurrent(user)` with a user that was just decoded. -/
def setCurrentNew (client : Client) (user : User) : Client :=
  { client with objects := client.objects ++ [user], current := some client.objects.length }

/-- `User.setCurrent(user)` with an object that exists already. -/
def setCurrent (client : Client) (reference : Nat) : Client :=
  { client with current := some reference }

/-- The part of `setCurrent` under `writeToUserDefaults`. -/
def writeToUserDefaults (client : Client) (user : User) : Client :=
  { client with userDefaults := some user.encode }

/-- The Main storyboard comes up: `setupUI` and `viewWillAppear` of the home screen. -/
def enterMain (client : Client) : Client :=
  match client.userCurrent with
  | .error trap => client.die (.trapped trap)
  | .ok _ => { client with
      root := .main { home := { identifier := client.fresh } }
      network := client.network ++ [BeaconService.beacons client.fresh]
      fresh := client.fresh + 1 }

def enterLogin (client : Client) : Client :=
  { client with root := .login client.fresh, fresh := client.fresh + 1 }

/-- `configureInitialRootViewController`. -/
def configureInitialRootViewController (client : Client) : Client :=
  match client.authCurrentUser, client.userDefaults.bind User.decode with
  -- whose account it is does not matter, and the archive is not written again
  | some _, some user => (client.setCurrentNew user).enterMain
  | _, _ => client.enterLogin

/-- What all four sign-in completions do with the user they end with:
`setCurrent`, and a new root where `self.view.window` is still there. -/
def signedIn (client : Client) (scene : Nat) (inWindow : Bool) (user : User) : Client :=
  let client := (client.setCurrentNew user).writeToUserDefaults user
  match client.root with
  | .login shown => if shown = scene ∧ inWindow then client.enterMain else client
  | _ => client

def didTapLoginButton (client : Client) (email password : String) : Option Client :=
  match client.root with
  | .login scene => some (client.send {
      request := .signInWithEmail email password, closure := .loginSignedIn scene })
  | _ => none

/-- The same in the landing and the login controller. -/
def didTapFacebookButton (client : Client) : Option Client :=
  match client.root with
  | .login scene => some (client.send { request := .logIn, closure := .facebookLoggedIn scene })
  | _ => none

def didTapSignUpButton (client : Client) (email password name : String) : Option Client :=
  match client.root with
  | .login scene => some (client.send {
      request := .createUser email password, closure := .signUpCreated scene name })
  | _ => none

/-- The button stands on the profile; where `signOut` throws, nothing happens. -/
def logoutButtonTapped (client : Client) (signedOut : Bool) : Option Client :=
  match client.root with
  | .main { screen := .profile _, .. } =>
    -- neither `User._current` nor the archive is cleared, and no request is cancelled
    some (if signedOut then { client with authCurrentUser := none }.enterLogin else client)
  | _ => none

/-- The reaction of a screen takes effect. -/
def react (client : Client) (reaction : Reaction) : Client :=
  { client with
    root := .main reaction.scene
    network := client.network ++ reaction.sent
    alerts := client.alerts ++ reaction.alert.toList
    fresh := client.fresh + 1 }

def screen (platform : Platform) (client : Client) (event : ScreenEvent) : Option Client :=
  match client.root with
  | .main scene =>
    (scene.handle platform client.userCurrent client.fresh event).map fun
      | .error trap => client.die (.trapped trap)
      | .ok reaction => client.react reaction
  | _ => none

/-- The completion of `UserService.getBeacons`, with the one of the profile's `viewWillAppear`. -/
def getBeaconsCompletion (client : Client) (profile : Nat) (beacons : List Beacon) : Client :=
  match client.userCurrent, UserService.keys beacons with
  | .ok (reference, user), .ok keys => { client with
      objects := client.objects.set reference { user with beacons := keys }
      root := client.root.profileLoaded profile beacons }
  | .error trap, _ => client.die (.trapped trap)
  | _, .error trap => client.die (.trapped trap)

/-- The completion of `BeaconService.beacons`.  A home screen that is gone still
builds its nodes, which nobody sees. -/
def beaconsCompletion (platform : Platform) (client : Client) (home : Nat) (beacons : List Beacon) :
    Client :=
  match client.root with
  | .main scene =>
    if scene.home.identifier = home then
      match scene.home.beaconsLoaded platform beacons with
      | .error trap => client.die (.trapped trap)
      | .ok home => { client with root := .main { scene with home := home } }
    else offScreen client
  | _ => offScreen client
where
  offScreen (client : Client) : Client :=
    match ({ identifier := home } : HomeController).beaconsLoaded platform beacons with
    | .error trap => client.die (.trapped trap)
    | .ok _ => client

/-- A completion runs with its answer.  A failed read never runs its completion,
and Auth has signed the account in before it runs one of its own. -/
def complete (platform : Platform) (client : Client) (inWindow : Bool) :
    Closure → Response → Client
  | .loginSignedIn scene, .signedIn firUser =>
    { client with authCurrentUser := some firUser }.send
      (UserService.observe firUser.uid (.loginShown scene))
  | .loginShown scene, .record snapshot =>
    match User.ofSnapshot snapshot with
    | some user => client.signedIn scene inWindow user
    | none => client.showAlert { message := "Login Failed" }
  | .facebookLoggedIn scene, .done =>
    client.send { request := .signInWithCredential, closure := .facebookSignedIn scene }
  | .facebookSignedIn _, .failed error =>
    client.showAlert { title := "Login Error", message := error }
  | .facebookSignedIn scene, .signedIn firUser =>
    { client with authCurrentUser := some firUser }.send
      (UserService.observe firUser.uid (.facebookShown scene firUser))
  | .facebookShown scene firUser, .record snapshot =>
    match User.ofSnapshot snapshot with
    | some user => client.signedIn scene inWindow user
    -- the sign-in goes on as a sign-up
    | none =>
      client.send (UserService.create firUser (firUser.displayName.getD "Name") .facebook scene)
  | .signUpCreated scene name, .signedIn firUser =>
    { client with authCurrentUser := some firUser }.send
      (UserService.create firUser name .signUp scene)
  | .userCreated _ uid scene, .done =>
    client.send (UserService.observe uid (.userCreatedShown scene))
  | .userCreatedShown scene, .record snapshot =>
    match User.ofSnapshot snapshot with
    | some user => client.signedIn scene inWindow user
    | none => client
  -- the error path only asserts, and then falls through
  | .updateUserValues reference, .done | .updateUserValues reference, .failed _ =>
    match client.objects[reference]? with
    | some user => (client.setCurrent reference).writeToUserDefaults user
    | none => client
  | .getBeacons uid profile, .listing children =>
    client.getBeaconsCompletion profile (UserService.beaconsOf platform children uid)
  | .beaconsLoaded home, .listing children =>
    client.beaconsCompletion platform home (BeaconService.decode platform children)
  -- what is left only prints: a login or a sign-up that fails, a `create` that is rejected
  | _, _ => client

def deliver (platform : Platform) (client : Client) (index : Nat) (inWindow : Bool) :
    Option Client := do
  let op ← client.network[index]?
  let response ← op.response
  return { client with network := client.network.eraseIdx index }.complete platform inWindow
    op.closure response

/-- One event on the device, where it can happen. -/
def handle (platform : Platform) (client : Client) : Event → Option Client
  | .didFinishLaunching =>
    match client.root with
    -- a crashed app is launched again like any other
    | .stopped | .trapped _ => some client.configureInitialRootViewController
    | _ => none
  | .kill =>
    match client.root with
    | .login _ | .main _ => some (client.die .stopped)
    | _ => none
  | .didTapLoginButton email password => client.didTapLoginButton email password
  | .didTapFacebookButton => client.didTapFacebookButton
  | .didTapSignUpButton email password name => client.didTapSignUpButton email password name
  | .logoutButtonTapped signedOut => client.logoutButtonTapped signedOut
  | .screen event => client.screen platform event
  | .deliver index inWindow => client.deliver platform index inWindow

end Client

end Lyv
