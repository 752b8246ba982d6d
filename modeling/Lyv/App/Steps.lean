import Lyv.App.Screens
import Lyv.App.World

/-!
# What a step can do

Each part of a client's step is described once: the operations a screen or a
completion may send, the completions that write the session, and where the
operations in flight come from.  The results about runs are derived from these
lemmas and do not unfold the handlers again.
-/

namespace Lyv

open Lyv.Library Lyv.Firebase

/-! ## The session -/

namespace Client

def isMain (client : Client) : Bool :=
  match client.root with
  | .main _ => true
  | _ => false

/-- A process is running: a storyboard is on the window. -/
def running (client : Client) : Bool :=
  match client.root with
  | .login _ | .main _ => true
  | _ => false

theorem isMain_iff {client : Client} : client.isMain ↔ ∃ scene, client.root = .main scene := by
  unfold isMain
  cases client.root <;> simp

theorem userCurrent_eq_ok {client : Client} {reference : Nat} {user : User} :
    client.userCurrent = .ok (reference, user) ↔
      client.current = some reference ∧ client.objects[reference]? = some user := by
  unfold userCurrent
  cases current : client.current with
  | none => simp [throw, throwThe, MonadExceptOf.throw]
  | some position =>
    cases stored : client.objects[position]? with
    | none =>
      simp only [stored, throw, throwThe, MonadExceptOf.throw, reduceCtorEq, Option.some.injEq,
        false_iff, not_and]
      rintro rfl
      simp [stored]
    | some object =>
      simp only [stored, pure, Except.pure, Except.ok.injEq, Prod.mk.injEq, Option.some.injEq]
      constructor
      · rintro ⟨rfl, rfl⟩
        exact ⟨rfl, stored⟩
      · rintro ⟨rfl, found⟩
        exact ⟨rfl, by simpa [stored] using found⟩

theorem currentUser_eq_some {client : Client} {user : User} :
    client.currentUser = some user ↔
      ∃ reference, client.userCurrent = .ok (reference, user) := by
  simp [currentUser, userCurrent_eq_ok, Option.bind_eq_some_iff]

/-- The home screen's first fetch, once the Main storyboard is up. -/
theorem enterMain_eq {client : Client} {current : Nat × User} (found : client.userCurrent = .ok current) :
    client.enterMain = { client with
      root := .main { home := { identifier := client.fresh } }
      network := client.network ++ [BeaconService.beacons client.fresh]
      fresh := client.fresh + 1 } := by
  simp [enterMain, found]

theorem userCurrent_setCurrentNew (client : Client) (user : User) :
    (client.setCurrentNew user).userCurrent = .ok (client.objects.length, user) := by
  simp [userCurrent_eq_ok, setCurrentNew]

theorem configureInitialRootViewController_cases (client : Client) :
    (∃ account user, client.authCurrentUser = some account ∧
      client.userDefaults.bind User.decode = some user ∧
      client.configureInitialRootViewController = { client.setCurrentNew user with
        root := .main { home := { identifier := client.fresh } }
        network := client.network ++ [BeaconService.beacons client.fresh]
        fresh := client.fresh + 1 }) ∨
    ((client.authCurrentUser = none ∨ client.userDefaults.bind User.decode = none) ∧
      client.configureInitialRootViewController = client.enterLogin) := by
  unfold configureInitialRootViewController
  cases signedIn : client.authCurrentUser with
  | none => exact .inr ⟨.inl rfl, rfl⟩
  | some account =>
    cases archived : client.userDefaults.bind User.decode with
    | none => exact .inr ⟨.inr rfl, rfl⟩
    | some user =>
      exact .inl ⟨account, user, rfl, rfl, enterMain_eq (userCurrent_setCurrentNew client user)⟩

/-- A sign-in that ends with a user takes over the session, and the window
where its controller is still on it. -/
theorem signedIn_cases (client : Client) (scene : Nat) (inWindow : Bool) (user : User) :
    (client.root = .login scene ∧ inWindow ∧
      client.signedIn scene inWindow user = { (client.setCurrentNew user).writeToUserDefaults user with
        root := .main { home := { identifier := client.fresh } }
        network := client.network ++ [BeaconService.beacons client.fresh]
        fresh := client.fresh + 1 }) ∨
    (¬ (client.root = .login scene ∧ inWindow) ∧
      client.signedIn scene inWindow user = (client.setCurrentNew user).writeToUserDefaults user) := by
  have current : ((client.setCurrentNew user).writeToUserDefaults user).userCurrent =
      .ok (client.objects.length, user) := userCurrent_setCurrentNew client user
  cases root : client.root with
  | login shown =>
    -- the controller's own scene, or one that came up after a logout
    by_cases here : shown = scene ∧ inWindow
    · refine .inl ⟨by rw [here.1], here.2, ?_⟩
      simp only [signedIn, setCurrentNew, writeToUserDefaults, root, here, and_self, if_true]
      exact enterMain_eq current
    · refine .inr ⟨by simpa using here, ?_⟩
      simp only [signedIn, setCurrentNew, writeToUserDefaults, root, here, if_false]
  | stopped | trapped _ | main _ =>
    exact .inr ⟨by simp, by simp [signedIn, setCurrentNew, writeToUserDefaults, root]⟩

/-- Whether the window of a login scene is still there for a completion to replace its root. -/
def opens (client : Client) (scene : Nat) (inWindow : Bool) : Bool :=
  match client.root with
  | .login shown => shown == scene && inWindow
  | _ => false

section

variable (client : Client) (scene : Nat) (inWindow : Bool) (user : User)

/-- Whether or not the Main storyboard comes up, the session is that of the user. -/
theorem signedIn_eq : ∃ root network fresh, client.signedIn scene inWindow user =
    { (client.setCurrentNew user).writeToUserDefaults user with
      root := root, network := network, fresh := fresh } := by
  obtain ⟨_, _, entered⟩ | ⟨_, stayed⟩ := signedIn_cases client scene inWindow user
  · exact ⟨_, _, _, entered⟩
  · exact ⟨_, _, _, stayed⟩

@[simp] theorem authCurrentUser_signedIn :
    (client.signedIn scene inWindow user).authCurrentUser = client.authCurrentUser := by
  obtain ⟨root, network, fresh, signedIn⟩ := signedIn_eq client scene inWindow user
  rw [signedIn]
  rfl

@[simp] theorem userDefaults_signedIn :
    (client.signedIn scene inWindow user).userDefaults = some user.encode := by
  obtain ⟨root, network, fresh, signedIn⟩ := signedIn_eq client scene inWindow user
  rw [signedIn]
  rfl

@[simp] theorem objects_signedIn :
    (client.signedIn scene inWindow user).objects = client.objects ++ [user] := by
  obtain ⟨root, network, fresh, signedIn⟩ := signedIn_eq client scene inWindow user
  rw [signedIn]
  rfl

@[simp] theorem current_signedIn :
    (client.signedIn scene inWindow user).current = some client.objects.length := by
  obtain ⟨root, network, fresh, signedIn⟩ := signedIn_eq client scene inWindow user
  rw [signedIn]
  rfl

@[simp] theorem alerts_signedIn : (client.signedIn scene inWindow user).alerts = client.alerts := by
  obtain ⟨root, network, fresh, signedIn⟩ := signedIn_eq client scene inWindow user
  rw [signedIn]
  rfl

@[simp] theorem currentUser_signedIn :
    (client.signedIn scene inWindow user).currentUser = some user := by
  simp [currentUser]

@[simp] theorem isMain_signedIn :
    (client.signedIn scene inWindow user).isMain = (client.isMain || client.opens scene inWindow) := by
  obtain ⟨root, here, entered⟩ | ⟨gone, stayed⟩ := signedIn_cases client scene inWindow user
  · rw [entered]
    simp [isMain, opens, root, here]
  · rw [stayed]
    have same : ((client.setCurrentNew user).writeToUserDefaults user).root = client.root := rfl
    have closed : client.opens scene inWindow = false := by
      unfold opens
      split
      next shown root => simpa [root] using gone
      next => rfl
    simp only [isMain, same, closed, Bool.or_false]

end

end Client

/-! ## Screens -/

/-- The operations that an event on a screen of the Main storyboard sends. -/
inductive ScreenOp (current : Except Trap (Nat × User)) : ScreenEvent → Op → Prop where
  | beacons {event : ScreenEvent} (home : Nat) : ScreenOp current event (BeaconService.beacons home)
  | getBeacons {event : ScreenEvent} {reference : Nat} {user : User} (profile : Nat) :
      current = .ok (reference, user) → ScreenOp current event (UserService.getBeacons user.uid profile)
  | create (beacon : Beacon) (draws : List (Fin 62)) :
      ScreenOp current (.create beacon draws) (BeaconService.create beacon draws)
  | updateBeacon {enabled : Bool} {now : SwiftDouble} {reference : Nat} {user : User} {beacon : Beacon}
      {key : String} : current = .ok (reference, user) → beacon.uid = user.uid →
      ScreenOp current (.launchButtonPressed enabled now)
        { request := .setBeacon key beacon.dictValue, closure := .noCompletion .updateBeacon }
  | removeBeacon (key : String) :
      ScreenOp current .removeButtonPressed
        { request := .removeBeacon key, closure := .noCompletion .removeBeacon }
  | updateUserValues {enabled : Bool} {now : SwiftDouble} {reference : Nat} {user : User} :
      current = .ok (reference, user) →
      ScreenOp current (.launchButtonPressed enabled now) (UserService.updateUserValues reference user)

namespace MainScene

variable {platform : Platform} {current : Except Trap (Nat × User)} {fresh : Nat} {scene : MainScene}

theorem profileAppears_sent {profile : ProfileController} {sent : List Op} {event : ScreenEvent}
    (appears : profileAppears current profile = .ok sent) : ∀ op ∈ sent, ScreenOp current event op := by
  unfold profileAppears at appears
  split at appears
  · obtain ⟨⟨reference, user⟩, found, rest⟩ := bind_eq_ok.mp appears
    obtain rfl := pure_eq_ok.mp rest
    simp only [List.mem_singleton, forall_eq]
    exact .getBeacons _ found
  · obtain rfl := pure_eq_ok.mp appears
    simp

theorem removal_sent {form : UpdateController} {removed : List Op}
    (taken : removal form = .ok removed) : ∀ op ∈ removed, ScreenOp current .removeButtonPressed op := by
  unfold removal at taken
  split at taken
  · obtain ⟨op, keyed, rfl⟩ := map_eq_ok.mp taken
    unfold BeaconService.removeBeacon at keyed
    split at keyed
    · cases keyed
    · obtain rfl := pure_eq_ok.mp keyed
      simp only [List.mem_singleton, forall_eq]
      exact .removeBeacon _
  · obtain rfl := pure_eq_ok.mp taken
    simp

theorem handle_sent {event : ScreenEvent} {reaction : Reaction}
    (handled : scene.handle platform current fresh event = some (.ok reaction)) :
    ∀ op ∈ reaction.sent, ScreenOp current event op := by
  intro op member
  cases handle_reacted handled with
  | switchPressed _ _ | homeLocation _ | leaveHome _ | didSelectItemAt _ _ | edit _ _ | updateLocation _ _
  | refused _ => simp at member
  | exitToHome =>
    obtain rfl := List.mem_singleton.mp member
    exact .beacons _
  | profileButtonPressed _ _ appears | exitToProfile _ appears =>
    exact profileAppears_sent appears op member
  | saved _ signedIn _ _ _ appears =>
    obtain rfl | member := List.mem_cons.mp member
    · exact .updateBeacon signedIn rfl
    · obtain rfl | member := List.mem_cons.mp member
      · exact .updateUserValues signedIn
      · exact profileAppears_sent appears op member
  | removed _ removed appears =>
    obtain member | member := List.mem_append.mp member
    · exact removal_sent removed op member
    · exact profileAppears_sent appears op member
  | create beacon _ =>
    obtain rfl := List.mem_singleton.mp member
    exact .create beacon _

end MainScene

/-! ## Completions -/

/-- The completions that Auth runs with the account it has signed in. -/
def Closure.signsIn : Closure → Bool
  | .loginSignedIn _ | .facebookSignedIn _ | .signUpCreated _ _ => true
  | _ => false

/-- The answers that a completion of `setValue` runs with. -/
def Response.settles : Response → Bool
  | .done | .failed _ => true
  | _ => false

/-- The login scene of a completion that makes the record it reads the current user. -/
def Closure.enters : Closure → Option Nat
  | .loginShown scene | .facebookShown scene _ | .userCreatedShown scene => some scene
  | _ => none

/-- The completion is that of `updateUserValues`. -/
def Closure.updates : Closure → Bool
  | .updateUserValues _ => true
  | _ => false

/-- The login scene whose sign-in a completion is part of. -/
def Closure.scene : Closure → Option Nat
  | .loginSignedIn scene | .loginShown scene | .facebookLoggedIn scene | .facebookSignedIn scene
  | .facebookShown scene _ | .signUpCreated scene _ | .userCreated _ _ scene
  | .userCreatedShown scene => some scene
  | _ => none

/-- The completion is part of a sign-in that Auth has answered. -/
def Closure.authenticated : Closure → Bool
  | .loginShown _ | .facebookShown _ _ | .userCreated _ _ _ | .userCreatedShown _ => true
  | _ => false

/-- The operation a completion goes on with. -/
inductive Follows : Closure → Response → Op → Prop where
  | loginShow {scene : Nat} {firUser : FIRUser} :
      Follows (.loginSignedIn scene) (.signedIn firUser)
        (UserService.observe firUser.uid (.loginShown scene))
  | facebookSignIn {scene : Nat} :
      Follows (.facebookLoggedIn scene) .done
        { request := .signInWithCredential, closure := .facebookSignedIn scene }
  | facebookShow {scene : Nat} {firUser : FIRUser} :
      Follows (.facebookSignedIn scene) (.signedIn firUser)
        (UserService.observe firUser.uid (.facebookShown scene firUser))
  | facebookCreate {scene : Nat} {firUser : FIRUser} {snapshot : DataSnapshot} :
      User.ofSnapshot snapshot = none →
      Follows (.facebookShown scene firUser) (.record snapshot)
        (UserService.create firUser (firUser.displayName.getD "Name") .facebook scene)
  | signUpCreate {scene : Nat} {name : String} {firUser : FIRUser} :
      Follows (.signUpCreated scene name) (.signedIn firUser)
        (UserService.create firUser name .signUp scene)
  | createdShow {flow : Flow} {uid : String} {scene : Nat} :
      Follows (.userCreated flow uid scene) .done
        (UserService.observe uid (.userCreatedShown scene))

/-- The completion touches nothing of the session with this answer. -/
structure Passive (client : Client) (closure : Closure) (response : Response) : Prop where
  signIn : ∀ firUser, response = .signedIn firUser → closure.signsIn = false
  enter : ∀ scene snapshot, response = .record snapshot → closure.enters = some scene →
    User.ofSnapshot snapshot = none
  updateUserValues : ∀ reference, response.settles → closure = .updateUserValues reference →
    client.objects[reference]? = none
  getBeacons : ∀ uid profile children, response = .listing children → closure ≠ .getBeacons uid profile

/-- What a completion does to the client it runs on. -/
inductive Completion (platform : Platform) (client : Client) (inWindow : Bool) :
    Closure → Response → Client → Prop where
  | signIn {closure : Closure} {firUser : FIRUser} {op : Op} : closure.signsIn →
      Follows closure (.signedIn firUser) op →
      Completion platform client inWindow closure (.signedIn firUser)
        ({ client with authCurrentUser := some firUser }.send op)
  | enter {closure : Closure} {scene : Nat} {snapshot : DataSnapshot} {user : User} :
      closure.enters = some scene → User.ofSnapshot snapshot = some user →
      Completion platform client inWindow closure (.record snapshot)
        (client.signedIn scene inWindow user)
  | updateUserValues {reference : Nat} {user : User} {response : Response} : response.settles →
      client.objects[reference]? = some user →
      Completion platform client inWindow (.updateUserValues reference) response
        ((client.setCurrent reference).writeToUserDefaults user)
  | getBeacons {uid : String} {profile : Nat} {children : Store String Node} :
      Completion platform client inWindow (.getBeacons uid profile) (.listing children)
        (client.getBeaconsCompletion profile (UserService.beaconsOf platform children uid))
  | beaconsLoaded {home : Nat} {children : Store String Node} :
      Completion platform client inWindow (.beaconsLoaded home) (.listing children)
        (client.beaconsCompletion platform home (BeaconService.decode platform children))
  | follow {closure : Closure} {response : Response} {op : Op} : Passive client closure response →
      Follows closure response op →
      Completion platform client inWindow closure response (client.send op)
  | alert {closure : Closure} {response : Response} (alert : Alert) : Passive client closure response →
      Completion platform client inWindow closure response (client.showAlert alert)
  | nothing {closure : Closure} {response : Response} : Passive client closure response →
      Completion platform client inWindow closure response client

namespace Client

theorem complete_cases (platform : Platform) (client : Client) (inWindow : Bool) (closure : Closure)
    (response : Response) :
    Completion platform client inWindow closure response
      (client.complete platform inWindow closure response) := by
  unfold complete
  split
  · exact .signIn rfl .loginShow
  · split
    next user decoded => exact .enter rfl decoded
    next missing => exact .alert _ ⟨by simp, by simp [missing], by simp, by simp⟩
  · exact .follow ⟨by simp, by simp, by simp, by simp⟩ .facebookSignIn
  · exact .alert _ ⟨by simp, by simp, by simp, by simp⟩
  · exact .signIn rfl .facebookShow
  · split
    next user decoded => exact .enter rfl decoded
    next missing => exact .follow ⟨by simp, by simp [missing], by simp, by simp⟩ (.facebookCreate missing)
  · exact .signIn rfl .signUpCreate
  · exact .follow ⟨by simp, by simp, by simp, by simp⟩ .createdShow
  · split
    next user decoded => exact .enter rfl decoded
    next missing => exact .nothing ⟨by simp, by simp [missing], by simp, by simp⟩
  · split
    next user found => exact .updateUserValues rfl found
    next missing => exact .nothing ⟨by simp, by simp, by rintro _ _ ⟨⟩; exact missing, by simp⟩
  · split
    next user found => exact .updateUserValues rfl found
    next missing => exact .nothing ⟨by simp, by simp, by rintro _ _ ⟨⟩; exact missing, by simp⟩
  · exact .getBeacons
  · exact .beaconsLoaded
  next =>
    -- none of the completions above is run with this answer
    refine .nothing ⟨?_, ?_, ?_, ?_⟩
    · rintro firUser rfl
      cases closure <;> simp_all [Closure.signsIn]
    · rintro scene snapshot rfl
      cases closure <;> simp_all [Closure.enters]
    · rintro reference settles rfl
      cases response <;> simp_all [Response.settles]
    · rintro uid profile children rfl rfl
      simp_all

theorem getBeaconsCompletion_cases (client : Client) (profile : Nat) (platform : Platform)
    (children : Store String Node) (uid : String) :
    (∃ trap, client.userCurrent = .error trap ∧
      client.getBeaconsCompletion profile (UserService.beaconsOf platform children uid) =
        client.die (.trapped trap)) ∨
    (∃ reference user, client.userCurrent = .ok (reference, user) ∧
      client.getBeaconsCompletion profile (UserService.beaconsOf platform children uid) = { client with
        objects := client.objects.set reference { user with
          beacons := (UserService.beaconsOf platform children uid).filterMap Beacon.key }
        root := client.root.profileLoaded profile (UserService.beaconsOf platform children uid) }) := by
  simp only [getBeaconsCompletion, UserService.keys_beaconsOf]
  cases found : client.userCurrent with
  | error trap => exact .inl ⟨trap, rfl, rfl⟩
  | ok pair => exact .inr ⟨pair.1, pair.2, rfl, rfl⟩

theorem isMain_profileLoaded (client : Client) (profile : Nat) (beacons : List Beacon)
    (objects : List User) :
    ({ client with objects := objects, root := client.root.profileLoaded profile beacons } : Client).isMain =
      client.isMain := by
  cases root : client.root <;> simp [isMain, Root.profileLoaded, root]

theorem beaconsCompletion_cases (platform : Platform) (client : Client) (home : Nat)
    (beacons : List Beacon) :
    (∃ trap, client.beaconsCompletion platform home beacons = client.die (.trapped trap)) ∨
    (∃ scene screen, client.root = .main scene ∧
      client.beaconsCompletion platform home beacons =
        { client with root := .main { scene with home := screen } }) ∨
    client.beaconsCompletion platform home beacons = client := by
  -- the list of a home screen that is gone leaves the client alone, unless a picture traps
  have offScreen : (∃ trap, beaconsCompletion.offScreen platform home beacons client =
      client.die (.trapped trap)) ∨
      beaconsCompletion.offScreen platform home beacons client = client := by
    unfold beaconsCompletion.offScreen
    split
    next trap _ => exact .inl ⟨trap, rfl⟩
    next => exact .inr rfl
  unfold beaconsCompletion
  split
  next scene root =>
    split
    next =>
      split
      next trap _ => exact .inl ⟨trap, rfl⟩
      next screen _ => exact .inr (.inl ⟨scene, screen, root, rfl⟩)
    next => exact offScreen.imp_right .inr
  next => exact offScreen.imp_right .inr

end Client

/-! ## Events -/

/-- The operations that the buttons of a login scene send. -/
inductive Tapped (scene : Nat) : Event → Op → Prop where
  | login {email password : String} :
      Tapped scene (.didTapLoginButton email password)
        { request := .signInWithEmail email password, closure := .loginSignedIn scene }
  | facebook :
      Tapped scene .didTapFacebookButton { request := .logIn, closure := .facebookLoggedIn scene }
  | signUp {email password name : String} :
      Tapped scene (.didTapSignUpButton email password name)
        { request := .createUser email password, closure := .signUpCreated scene name }

/-- What an event does to the client it happens on. -/
inductive Reacts (platform : Platform) (client : Client) : Event → Client → Prop where
  | launch : client.running = false →
      Reacts platform client .didFinishLaunching client.configureInitialRootViewController
  | kill : client.running → Reacts platform client .kill (client.die .stopped)
  | tap {event : Event} {op : Op} {scene : Nat} : client.root = .login scene → Tapped scene event op →
      Reacts platform client event (client.send op)
  | logout : client.isMain →
      Reacts platform client (.logoutButtonTapped true) { client with authCurrentUser := none }.enterLogin
  | stay : Reacts platform client (.logoutButtonTapped false) client
  | crash {event : ScreenEvent} {trap : Trap} : client.isMain →
      Reacts platform client (.screen event) (client.die (.trapped trap))
  | screen {event : ScreenEvent} {scene : MainScene} {reaction : Reaction} : client.root = .main scene →
      scene.handle platform client.userCurrent client.fresh event = some (.ok reaction) →
      Reacts platform client (.screen event) (client.react reaction)
  | deliver {index : Nat} {inWindow : Bool} {op : Op} {response : Response} :
      client.network[index]? = some op → op.response = some response →
      Reacts platform client (.deliver index inWindow)
        ({ client with network := client.network.eraseIdx index }.complete platform inWindow
          op.closure response)

theorem Client.handle_cases {platform : Platform} {client next : Client} {event : Event}
    (handled : client.handle platform event = some next) : Reacts platform client event next := by
  cases event with
  | didFinishLaunching =>
    simp only [handle] at handled
    split at handled
    · obtain rfl := Option.some.inj handled
      exact .launch (by simp_all [running])
    · obtain rfl := Option.some.inj handled
      exact .launch (by simp_all [running])
    · contradiction
  | kill =>
    simp only [handle] at handled
    split at handled
    · obtain rfl := Option.some.inj handled
      exact .kill (by simp_all [running])
    · obtain rfl := Option.some.inj handled
      exact .kill (by simp_all [running])
    · contradiction
  | didTapLoginButton email password =>
    simp only [handle, didTapLoginButton] at handled
    split at handled
    next scene root =>
      obtain rfl := Option.some.inj handled
      exact .tap root .login
    · contradiction
  | didTapFacebookButton =>
    simp only [handle, didTapFacebookButton] at handled
    split at handled
    next scene root =>
      obtain rfl := Option.some.inj handled
      exact .tap root .facebook
    · contradiction
  | didTapSignUpButton email password name =>
    simp only [handle, didTapSignUpButton] at handled
    split at handled
    next scene root =>
      obtain rfl := Option.some.inj handled
      exact .tap root .signUp
    · contradiction
  | logoutButtonTapped signedOut =>
    simp only [handle, logoutButtonTapped] at handled
    split at handled
    next root =>
      obtain rfl := Option.some.inj handled
      cases signedOut with
      | false => exact .stay
      | true => exact .logout (isMain_iff.mpr ⟨_, root⟩)
    · contradiction
  | screen event =>
    simp only [handle, Client.screen] at handled
    split at handled
    next scene root =>
      obtain ⟨result, reacted, rfl⟩ := Option.map_eq_some_iff.mp handled
      cases result with
      | error trap => exact .crash (isMain_iff.mpr ⟨_, root⟩)
      | ok reaction => exact .screen root reacted
    next => contradiction
  | deliver index inWindow =>
    simp only [handle, Client.deliver, Option.bind_eq_bind, Option.bind_eq_some_iff, Option.pure_def,
      Option.some.injEq] at handled
    obtain ⟨op, found, response, responded, rfl⟩ := handled
    exact .deliver found responded

/-! ## Traps -/

namespace Client

theorem beaconsCompletion_trapped {platform : Platform} {client : Client} {home : Nat}
    {beacons : List Beacon} {trap : Trap}
    (trapped : (client.beaconsCompletion platform home beacons).root = .trapped trap) :
    client.root = .trapped trap ∨ trap = .unexpectedNil "UIImage(data: self.imageData)!" := by
  have offScreen : (beaconsCompletion.offScreen platform home beacons client).root = .trapped trap →
      client.root = .trapped trap ∨ trap = .unexpectedNil "UIImage(data: self.imageData)!" := by
    intro trapped
    unfold beaconsCompletion.offScreen at trapped
    split at trapped
    next stopped =>
      cases trapped
      exact .inr (HomeController.beaconsLoaded_error stopped)
    next => exact .inl trapped
  unfold beaconsCompletion at trapped
  split at trapped
  · split at trapped
    · split at trapped
      next stopped =>
        cases trapped
        exact .inr (HomeController.beaconsLoaded_error stopped)
      next => contradiction
    · exact offScreen trapped
  · exact offScreen trapped

/-- What may stop the process on a device. -/
inductive Stops (client : Client) : Trap → Prop where
  | screen {scene : MainScene} {trap : Trap} : client.root = .main scene →
      MainScene.Stops client.userCurrent scene trap → Stops client trap
  | listed {op : Op} {response : Response} {uid : String} {profile : Nat} {trap : Trap} :
      op ∈ client.network → op.response = some response → op.closure = .getBeacons uid profile →
      client.userCurrent = .error trap → Stops client trap
  | picture : Stops client (.unexpectedNil "UIImage(data: self.imageData)!")

theorem complete_trapped {platform : Platform} {client : Client} {inWindow : Bool} {closure : Closure}
    {response : Response} {trap : Trap}
    (trapped : (client.complete platform inWindow closure response).root = .trapped trap) :
    client.root = .trapped trap ∨ trap = .unexpectedNil "UIImage(data: self.imageData)!" ∨
      (∃ uid profile, closure = .getBeacons uid profile) ∧ client.userCurrent = .error trap := by
  generalize completed : client.complete platform inWindow closure response = next at trapped
  have outcome := complete_cases platform client inWindow closure response
  rw [completed] at outcome
  cases outcome with
  | signIn _ _ | updateUserValues _ _ | follow _ _ | alert _ _ | nothing _ => exact .inl trapped
  | @enter _ scene _ user _ _ =>
    obtain ⟨_, _, entered⟩ | ⟨_, stayed⟩ := signedIn_cases client scene inWindow user
    · rw [entered] at trapped
      contradiction
    · rw [stayed] at trapped
      exact .inl trapped
  | @getBeacons uid profile children =>
    obtain ⟨other, unread, crashed⟩ | ⟨_, _, _, listed⟩ :=
      getBeaconsCompletion_cases client profile platform children uid
    · rw [crashed] at trapped
      cases trapped
      exact .inr (.inr ⟨⟨uid, profile, rfl⟩, unread⟩)
    · rw [listed] at trapped
      left
      cases root : client.root <;> simp_all [Root.profileLoaded]
  | beaconsLoaded => exact (beaconsCompletion_trapped trapped).imp_right .inl

/-- A process that traps had a reason to before the event. -/
theorem handle_trapped {platform : Platform} {client next : Client} {event : Event} {trap : Trap}
    (handled : client.handle platform event = some next) (trapped : next.root = .trapped trap) :
    client.root = .trapped trap ∨ client.Stops trap := by
  cases handle_cases handled with
  | launch _ =>
    obtain ⟨_, _, _, _, entered⟩ | ⟨_, shown⟩ := configureInitialRootViewController_cases client
    · rw [entered] at trapped
      contradiction
    · rw [shown] at trapped
      contradiction
  | kill | logout _ | screen _ _ => contradiction
  | tap _ _ | stay => exact .inl trapped
  | crash _ =>
    cases trapped
    simp only [handle, Client.screen] at handled
    split at handled
    next scene root =>
      obtain ⟨result, reacted, same⟩ := Option.map_eq_some_iff.mp handled
      cases result with
      | error other =>
        cases congrArg Client.root same
        exact .inr (.screen root (MainScene.handle_error reacted))
      | ok reaction => cases congrArg Client.root same
    next => contradiction
  | deliver found responded =>
    obtain before | rfl | ⟨⟨uid, profile, closure⟩, unread⟩ := complete_trapped trapped
    · exact .inl before
    · exact .inr .picture
    · exact .inr (.listed (List.mem_of_getElem? found) responded closure unread)

end Client

/-! ## Operations in flight -/

/-- The operations that an event on a device may send. -/
inductive Sent (client : Client) : Event → Op → Prop where
  | beacons {event : Event} (home : Nat) : Sent client event (BeaconService.beacons home)
  | tap {event : Event} {op : Op} {scene : Nat} : client.root = .login scene → Tapped scene event op →
      Sent client event op
  | screen {event : ScreenEvent} {op : Op} : ScreenOp client.userCurrent event op →
      Sent client (.screen event) op
  | follow {index : Nat} {inWindow : Bool} {answered op : Op} {response : Response} :
      client.network[index]? = some answered → answered.response = some response →
      Follows answered.closure response op → Sent client (.deliver index inWindow) op

/-- An operation in flight after an event was so before, is what a dying
process left of one, or has just been sent. -/
def Continues (client : Client) (event : Event) (op : Op) : Prop :=
  op ∈ client.network ∨ (∃ former ∈ client.network, former.orphaned = some op) ∨ Sent client event op

namespace Client

theorem continues_die {client : Client} {root : Root} {event : Event} {op : Op}
    (member : op ∈ (client.die root).network) : Continues client event op := by
  obtain ⟨former, present, orphaned⟩ := List.mem_filterMap.mp member
  exact .inr (.inl ⟨former, present, orphaned⟩)

theorem continues_append {client : Client} {event : Event} {sent : List Op} {op : Op}
    (allowed : ∀ op ∈ sent, Sent client event op) (member : op ∈ client.network ++ sent) :
    Continues client event op :=
  (List.mem_append.mp member).imp_right fun present => .inr (allowed op present)

theorem signedIn_network (client : Client) (scene : Nat) (inWindow : Bool) (user : User) :
    ∀ op ∈ (client.signedIn scene inWindow user).network,
      op ∈ client.network ∨ ∃ home, op = BeaconService.beacons home := by
  obtain ⟨_, _, entered⟩ | ⟨_, stayed⟩ := signedIn_cases client scene inWindow user
  · rw [entered]
    intro op member
    obtain member | member := List.mem_append.mp member
    · exact .inl member
    · exact .inr ⟨_, List.mem_singleton.mp member⟩
  · rw [stayed]
    exact fun op member => .inl member

theorem completion_network {platform : Platform} {client next : Client} {inWindow : Bool}
    {closure : Closure} {response : Response}
    (outcome : Completion platform client inWindow closure response next) :
    ∀ op ∈ next.network, op ∈ client.network ∨
      (∃ former ∈ client.network, former.orphaned = some op) ∨ Follows closure response op ∨
      ∃ home, op = BeaconService.beacons home := by
  intro op member
  -- a completion that traps ends the process
  have dead : ∀ trap, op ∈ (client.die (.trapped trap)).network →
      ∃ former ∈ client.network, former.orphaned = some op :=
    fun trap => List.mem_filterMap.mp
  cases outcome with
  | signIn _ follows =>
    obtain member | member := List.mem_append.mp member
    · exact .inl member
    · obtain rfl := List.mem_singleton.mp member
      exact .inr (.inr (.inl follows))
  | enter _ _ =>
    exact (signedIn_network client _ inWindow _ op member).imp_right fun home => .inr (.inr home)
  | updateUserValues _ _ | alert _ _ | nothing _ => exact .inl member
  | getBeacons =>
    obtain ⟨trap, _, crashed⟩ | ⟨_, _, _, listed⟩ := getBeaconsCompletion_cases client _ platform _ _
    · exact .inr (.inl (dead trap (crashed ▸ member)))
    · rw [listed] at member
      exact .inl member
  | beaconsLoaded =>
    obtain ⟨trap, crashed⟩ | ⟨_, _, _, drawn⟩ | unseen := beaconsCompletion_cases platform client _ _
    · exact .inr (.inl (dead trap (crashed ▸ member)))
    · rw [drawn] at member
      exact .inl member
    · exact .inl (unseen ▸ member)
  | follow _ follows =>
    obtain member | member := List.mem_append.mp member
    · exact .inl member
    · obtain rfl := List.mem_singleton.mp member
      exact .inr (.inr (.inl follows))

/-- Where the operations in flight after an event come from. -/
theorem handle_network {platform : Platform} {client next : Client} {event : Event}
    (handled : client.handle platform event = some next) :
    ∀ op ∈ next.network, Continues client event op := by
  intro op member
  cases handle_cases handled with
  | launch _ =>
    obtain ⟨_, _, _, _, entered⟩ | ⟨_, shown⟩ := configureInitialRootViewController_cases client
    · rw [entered] at member
      refine continues_append (fun op present => ?_) member
      obtain rfl := List.mem_singleton.mp present
      exact .beacons _
    · rw [shown] at member
      exact .inl member
  | kill | crash _ => exact continues_die member
  | tap root tapped => exact continues_append (by simpa using .tap root tapped) member
  | logout _ | stay => exact .inl member
  | screen _ reacted =>
    exact continues_append (fun op present => .screen (MainScene.handle_sent reacted op present)) member
  | @deliver index inWindow answered response found responded =>
    obtain member | ⟨former, member, orphaned⟩ | follows | ⟨home, rfl⟩ :=
      completion_network (complete_cases platform _ inWindow answered.closure response) op member
    · exact .inl (List.mem_of_mem_eraseIdx member)
    · exact .inr (.inl ⟨former, List.mem_of_mem_eraseIdx member, orphaned⟩)
    · exact .inr (.inr (.follow found responded follows))
    · exact .inr (.inr (.beacons home))

end Client

/-- Where the operations in flight after a step come from: on the device of an
event, from there; after an answer, the answered operation carries its response. -/
theorem step_network {platform : Platform} {starts : World devices → Prop} {world next : World devices}
    {action : Action devices} (taken : (app platform starts).step world action = some next)
    {device : Fin devices} {op : Op} (member : op ∈ (next.client device).network) :
    op ∈ (world.client device).network ∨
    (∃ event, action = .event device event ∧
      ((∃ former ∈ (world.client device).network, former.orphaned = some op) ∨
        Sent (world.client device) event op)) ∨
    (∃ index outcome former response server, action = .answer device index outcome ∧
      (world.client device).network[index]? = some former ∧ former.response = none ∧
      former.orphan = false ∧ world.server.answer (world.view device) former.request outcome = some (response, server) ∧
      op = { former with response := some response }) := by
  obtain same | ⟨event, occurred, handled⟩ |
    ⟨index, outcome, former, response, server, occurred, found, waiting, answered, next_eq⟩ :=
    client_cases taken device
  · rw [same] at member
    exact .inl member
  · exact (Client.handle_network handled op member).imp_right fun new => .inl ⟨event, occurred, new⟩
  · rw [next_eq] at member
    obtain member | ⟨waits, rfl⟩ := Client.mem_of_mem_answered member
    · exact .inl member
    · exact .inr (.inr ⟨index, outcome, former, response, server, occurred, found, waiting, waits, answered, rfl⟩)

end Lyv
