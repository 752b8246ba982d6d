import Lyv.App.Steps

/-!
# What holds of every operation in flight

Each operation pairs a request with the completion the source passes it, carries
only answers that a server gives, and waits for one only while its process runs.
The operations of a sign-in bring the Main storyboard up only with an account.
-/

namespace Lyv

open Lyv.Library Lyv.Firebase

/-- The requests of the source, each with its completion. -/
inductive Paired : Request → Closure → Prop where
  | login {email password : String} {scene : Nat} :
      Paired (.signInWithEmail email password) (.loginSignedIn scene)
  | loginShown {uid : String} {scene : Nat} : Paired (.observeUser uid) (.loginShown scene)
  | logIn {scene : Nat} : Paired .logIn (.facebookLoggedIn scene)
  | facebookSignedIn {scene : Nat} : Paired .signInWithCredential (.facebookSignedIn scene)
  | facebookShown {scene : Nat} {firUser : FIRUser} :
      Paired (.observeUser firUser.uid) (.facebookShown scene firUser)
  | signUp {email password name : String} {scene : Nat} :
      Paired (.createUser email password) (.signUpCreated scene name)
  | userCreated {firUser : FIRUser} {username : String} {flow : Flow} {scene : Nat} :
      Paired (.setUser firUser.uid (UserService.userAttrs firUser username))
        (.userCreated flow firUser.uid scene)
  | userCreatedShown {uid : String} {scene : Nat} : Paired (.observeUser uid) (.userCreatedShown scene)
  | updateUserValues {reference : Nat} {user : User} :
      Paired (.setUser user.uid user.dictValue) (.updateUserValues reference)
  | getBeacons {uid : String} {profile : Nat} : Paired .observeBeacons (.getBeacons uid profile)
  | beaconsLoaded {home : Nat} : Paired .observeBeacons (.beaconsLoaded home)
  | create {key : String} {beacon : Beacon} : Paired (.setBeacon key beacon.dictValue) (.noCompletion .create)
  | updateBeacon {key : String} {beacon : Beacon} :
      Paired (.setBeacon key beacon.dictValue) (.noCompletion .updateBeacon)
  | removeBeacon {key : String} : Paired (.removeBeacon key) (.noCompletion .removeBeacon)

/-- Every value that is written at `users/<uid>` decodes to a user. -/
theorem Paired.decodes {uid : String} {value : Json} {closure : Closure}
    (paired : Paired (.setUser uid value) closure) : (User.ofSnapshot ⟨uid, nodeFrom value⟩).isSome := by
  cases paired with
  | userCreated => simp [UserService.ofSnapshot_userAttrs]
  | updateUserValues => simp

structure Op.WellFormed (op : Op) : Prop where
  paired : Paired op.request op.closure
  answered : ∀ response, op.response = some response →
    ∃ (server view next : Server) (outcome : Outcome), server.answer view op.request outcome = some (response, next)
  orphan : op.orphan → op.response = none

theorem Op.WellFormed.of_paired {request : Request} {closure : Closure} (paired : Paired request closure) :
    Op.WellFormed { request := request, closure := closure } :=
  ⟨paired, by simp, by simp⟩

theorem Op.orphaned_eq_some {op orphan : Op} :
    op.orphaned = some orphan ↔
      op.request.isWrite ∧ op.response = none ∧ orphan = { op with orphan := true } := by
  unfold orphaned
  split
  next leaves =>
    simp only [Bool.and_eq_true, Option.isNone_iff_eq_none] at leaves
    simp [leaves, eq_comm]
  next stays =>
    simp only [Bool.and_eq_true, Option.isNone_iff_eq_none] at stays
    simp only [reduceCtorEq, false_iff]
    exact fun leaves => stays ⟨leaves.1, leaves.2.1⟩

theorem ScreenOp.wellFormed {current : Except Trap (Nat × User)} {event : ScreenEvent} {op : Op}
    (sent : ScreenOp current event op) : op.WellFormed := by
  cases sent with
  | beacons home => exact .of_paired .beaconsLoaded
  | getBeacons profile _ => exact .of_paired .getBeacons
  | create beacon draws => exact .of_paired .create
  | updateBeacon _ _ => exact .of_paired .updateBeacon
  | removeBeacon key => exact .of_paired .removeBeacon
  | updateUserValues _ => exact .of_paired .updateUserValues

theorem Follows.wellFormed {closure : Closure} {response : Response} {op : Op}
    (follows : Follows closure response op) : op.WellFormed := by
  cases follows with
  | loginShow => exact .of_paired .loginShown
  | facebookSignIn => exact .of_paired .facebookSignedIn
  | facebookShow => exact .of_paired .facebookShown
  | facebookCreate _ => exact .of_paired .userCreated
  | signUpCreate => exact .of_paired .userCreated
  | createdShow => exact .of_paired .userCreatedShown

theorem Sent.wellFormed {client : Client} {event : Event} {op : Op} (sent : Sent client event op) :
    op.WellFormed := by
  cases sent with
  | beacons home => exact .of_paired .beaconsLoaded
  | tap _ tapped =>
    cases tapped with
    | login => exact .of_paired .login
    | facebook => exact .of_paired .logIn
    | signUp => exact .of_paired .signUp
  | screen sent => exact sent.wellFormed
  | follow _ _ follows => exact follows.wellFormed

variable {devices : Nat} {platform : Platform} {starts : World devices → Prop}

/-- Every operation in flight on every device is well-formed. -/
def World.WellFormed (world : World devices) : Prop :=
  ∀ device, ∀ op ∈ (world.client device).network, op.WellFormed

theorem wellFormed_step {world next : World devices} {action : Action devices}
    (wellFormed : world.WellFormed) (taken : (app platform starts).step world action = some next) :
    next.WellFormed := by
  intro device op member
  obtain member | ⟨event, rfl, ⟨former, present, orphaned⟩ | sent⟩ |
    ⟨index, outcome, former, response, server, rfl, found, waiting, waits, answered, rfl⟩ :=
    step_network taken member
  · exact wellFormed device op member
  · obtain ⟨_, waiting, rfl⟩ := Op.orphaned_eq_some.mp orphaned
    exact ⟨(wellFormed device former present).paired, by simp [waiting], fun _ => waiting⟩
  · exact sent.wellFormed
  · refine ⟨(wellFormed device former (List.mem_of_getElem? found)).paired, ?_, by simp [waits]⟩
    rintro _ ⟨⟩
    exact ⟨world.server, world.view device, server, outcome, answered⟩

/-- A process sees a user where there is one, or where it is writing one. -/
theorem World.WellFormed.isSome_user_view {world : World devices} (wellFormed : world.WellFormed)
    (device : Fin devices) (uid : String) :
    ((world.view device).user uid).isSome ↔ (world.server.user uid).isSome ∨
      ∃ op ∈ (world.client device).network, op.orphan = false ∧ op.response = none ∧
        ∃ value, op.request = .setUser uid value :=
  world.server.isSome_user_view fun op member _ request =>
    (request ▸ (wellFormed device op member).paired : Paired (.setUser uid _) op.closure).decodes

/-- A record that decodes goes on decoding. -/
theorem isSome_user_step {world next : World devices} {action : Action devices} (wellFormed : world.WellFormed)
    (taken : (app platform starts).step world action = some next) {uid : String}
    (present : (world.server.user uid).isSome) : (next.server.user uid).isSome := by
  obtain ⟨_, _, _, _, _, rfl⟩ | ⟨device, _, _, op, _, server, rfl, inFlight, _, answered, rfl⟩ := step_cases taken
  · exact present
  · show (server.user uid).isSome
    have paired := (wellFormed device op (List.mem_of_getElem? inFlight)).paired
    obtain ⟨users, _⟩ | rfl := Server.stored_answer answered
    · rwa [Server.user, Server.snapshotOfUser, users]
    · refine (Server.isSome_user_write fun value request => ?_).mpr (.inl present)
      exact (request ▸ paired : Paired (.setUser uid value) op.closure).decodes

/-- A process that is gone has no session in memory and waits for no answers:
only its writes are under way. -/
structure Client.Dormant (client : Client) : Prop where
  current : client.current = none
  objects : client.objects = []
  network : ∀ op ∈ client.network, op.orphan ∧ op.response = none

theorem Client.dormant_die (client : Client) (root : Root) : (client.die root).Dormant := by
  refine ⟨rfl, rfl, fun op member => ?_⟩
  obtain ⟨former, _, orphaned⟩ := List.mem_filterMap.mp member
  obtain ⟨_, waiting, rfl⟩ := Op.orphaned_eq_some.mp orphaned
  exact ⟨rfl, waiting⟩

/-- Only a process that runs gets completions. -/
theorem running_of_responded {client : Client} {index : Nat} {op : Op} {response : Response}
    (dormant : client.running = false → client.Dormant) (found : client.network[index]? = some op)
    (responded : op.response = some response) : client.running := by
  by_contra stopped
  have waiting := ((dormant (by simpa using stopped)).network op (List.mem_of_getElem? found)).2
  simp [waiting] at responded

theorem Client.running_signedIn (client : Client) (scene : Nat) (inWindow : Bool) (user : User) :
    (client.signedIn scene inWindow user).running = client.running := by
  obtain ⟨root, _, entered⟩ | ⟨_, stayed⟩ := Client.signedIn_cases client scene inWindow user
  · rw [entered]
    simp [Client.running, root]
  · rw [stayed]
    rfl

theorem Completion.running {client next : Client} {inWindow : Bool} {closure : Closure}
    {response : Response} (outcome : Completion platform client inWindow closure response next) :
    next.running = client.running ∨ next.Dormant := by
  cases outcome with
  | signIn _ _ | updateUserValues _ _ | follow _ _ | alert _ _ | nothing _ => exact .inl rfl
  | enter _ _ => exact .inl (Client.running_signedIn client _ inWindow _)
  | @getBeacons uid profile children =>
    obtain ⟨trap, _, crashed⟩ | ⟨_, _, _, listed⟩ :=
      Client.getBeaconsCompletion_cases client profile platform children uid
    · exact .inr (crashed ▸ Client.dormant_die client _)
    · rw [listed]
      cases root : client.root <;> simp [Client.running, Root.profileLoaded, root]
  | @beaconsLoaded home children =>
    obtain ⟨trap, crashed⟩ | ⟨_, _, root, drawn⟩ | unseen :=
      Client.beaconsCompletion_cases platform client home (BeaconService.decode platform children)
    · exact .inr (crashed ▸ Client.dormant_die client _)
    · rw [drawn]
      simp [Client.running, root]
    · exact .inl (by rw [unseen])

/-- What is under way for a process that is gone stays so. -/
theorem dormant_handle {client next : Client} {event : Event}
    (dormant : client.running = false → client.Dormant)
    (handled : client.handle platform event = some next) : next.running = false → next.Dormant := by
  intro stopped
  cases Client.handle_cases handled with
  | launch _ =>
    obtain ⟨_, _, _, _, entered⟩ | ⟨_, shown⟩ := Client.configureInitialRootViewController_cases client
    · rw [entered] at stopped
      simp [Client.running] at stopped
    · rw [shown] at stopped
      simp [Client.running, Client.enterLogin] at stopped
  | kill | crash _ => exact Client.dormant_die client _
  | tap root _ => simp [Client.running, Client.send, root] at stopped
  | logout _ => simp [Client.running, Client.enterLogin] at stopped
  | screen _ _ => simp [Client.running, Client.react] at stopped
  | stay => exact dormant stopped
  | @deliver index inWindow op response found responded =>
    obtain same | asleep := (Client.complete_cases platform
      { client with network := client.network.eraseIdx index } inWindow op.closure response).running
    · have running := running_of_responded dormant found responded
      have idle : client.running = false := same.symm.trans stopped
      simp [running] at idle
    · exact asleep

def World.Dormant (world : World devices) : Prop :=
  ∀ device, (world.client device).running = false → (world.client device).Dormant

/-- The answer to an orphan is dropped. -/
theorem Client.Dormant.answered {client : Client} (dormant : client.Dormant) {index : Nat} {op : Op}
    (found : client.network[index]? = some op) (response : Response) :
    (client.answered index op response).Dormant := by
  refine ⟨dormant.current, dormant.objects, fun former member => ?_⟩
  have orphan := (dormant.network op (List.mem_of_getElem? found)).1
  simp only [Client.answered, orphan, if_true] at member
  exact dormant.network former (List.mem_of_mem_eraseIdx member)

theorem dormant_step {world next : World devices} {action : Action devices} (dormant : world.Dormant)
    (taken : (app platform starts).step world action = some next) : next.Dormant :=
  forall_client_step (fun client => client.running = false → client.Dormant)
    (fun _ _ _ asleep handled => dormant_handle asleep handled)
    (fun _ _ _ response asleep found stopped => (asleep stopped).answered found response) dormant taken

/-! ## The way to the Main storyboard -/

/-- The Main storyboard is up, or on its way up, only with an account signed in. -/
structure Client.Entered (client : Client) : Prop where
  main : client.isMain → client.authCurrentUser.isSome
  shown : ∀ scene, client.root = .login scene → scene < client.fresh
  scenes : ∀ op ∈ client.network, ∀ scene, op.closure.scene = some scene → scene < client.fresh
  signIns : ∀ op ∈ client.network, ∀ scene, client.root = .login scene → op.closure.scene = some scene →
    op.closure.authenticated → client.authCurrentUser.isSome

namespace Client

theorem Entered.of_die {client : Client} (entered : client.Entered) (root : Root)
    (gone : ∀ scene, root ≠ .login scene) (main : ∀ scene, root ≠ .main scene) :
    (client.die root).Entered := by
  refine ⟨fun shown => ?_, fun scene shown => absurd shown (gone scene), fun op member scene closure => ?_,
    fun op _ scene shown => absurd shown (gone scene)⟩
  · obtain ⟨scene, shown⟩ := isMain_iff.mp shown
    exact absurd shown (main scene)
  · obtain ⟨former, present, orphaned⟩ := List.mem_filterMap.mp member
    obtain ⟨_, _, rfl⟩ := Op.orphaned_eq_some.mp orphaned
    exact entered.scenes former present scene closure

/-- A login storyboard that comes up anew is the scene of no sign-in under way. -/
theorem Entered.of_enterLogin {client : Client}
    (scenes : ∀ op ∈ client.network, ∀ scene, op.closure.scene = some scene → scene < client.fresh) :
    client.enterLogin.Entered where
  main shown := by simp [enterLogin, isMain] at shown
  shown scene shown := by
    cases shown
    exact Nat.lt_succ_self _
  scenes op member scene closure := Nat.lt_succ_of_lt (scenes op member scene closure)
  signIns op member scene shown closure := by
    cases shown
    exact absurd (scenes op member _ closure) (Nat.lt_irrefl _)

/-- The Main storyboard comes up, and the home screen's fetch is sent. -/
theorem Entered.of_enterMain (client : Client) {next : Client} {home : HomeController}
    (scenes : ∀ op ∈ client.network, ∀ scene, op.closure.scene = some scene → scene < client.fresh)
    (signedIn : next.authCurrentUser.isSome) (root : next.root = .main { home := home })
    (network : next.network = client.network ++ [BeaconService.beacons client.fresh])
    (fresh : next.fresh = client.fresh + 1) : next.Entered where
  main _ := signedIn
  shown scene shown := by simp [root] at shown
  scenes op member scene closure := by
    rw [network] at member
    rw [fresh]
    obtain member | member := List.mem_append.mp member
    · exact Nat.lt_succ_of_lt (scenes op member scene closure)
    · obtain rfl := List.mem_singleton.mp member
      simp [BeaconService.beacons, Closure.scene] at closure
  signIns op _ scene shown := by simp [root] at shown

/-- One more operation goes on with the sign-in of an operation that was in flight. -/
theorem Entered.of_send {client : Client} (entered : client.Entered) {op : Op}
    (scene : ∀ scene, op.closure.scene = some scene → scene < client.fresh)
    (signedIn : ∀ scene, client.root = .login scene → op.closure.scene = some scene →
      op.closure.authenticated → client.authCurrentUser.isSome) : (client.send op).Entered where
  main := entered.main
  shown := entered.shown
  scenes other member target closure := by
    obtain member | member := List.mem_append.mp member
    · exact entered.scenes other member target closure
    · obtain rfl := List.mem_singleton.mp member
      exact scene target closure
  signIns other member target shown closure := by
    obtain member | member := List.mem_append.mp member
    · exact entered.signIns other member target shown closure
    · obtain rfl := List.mem_singleton.mp member
      exact signedIn target shown closure

end Client

theorem Follows.scene_eq {closure : Closure} {response : Response} {op : Op}
    (follows : Follows closure response op) : op.closure.scene = closure.scene := by
  cases follows <;> rfl

theorem Follows.authenticated {closure : Closure} {response : Response} {op : Op}
    (follows : Follows closure response op) (authenticated : op.closure.authenticated) :
    closure.authenticated ∨ ∃ firUser, response = .signedIn firUser := by
  cases follows with
  | facebookSignIn => simp [Closure.authenticated] at authenticated
  | facebookCreate _ | createdShow => exact .inl rfl
  | loginShow | facebookShow | signUpCreate => exact .inr ⟨_, rfl⟩

theorem Closure.scene_of_enters {closure : Closure} {scene : Nat} (enters : closure.enters = some scene) :
    closure.scene = some scene ∧ closure.authenticated := by
  cases closure <;> simp_all [Closure.enters, Closure.scene, Closure.authenticated]

theorem ScreenOp.scene_eq_none {current : Except Trap (Nat × User)} {event : ScreenEvent} {op : Op}
    (sent : ScreenOp current event op) : op.closure.scene = none := by
  cases sent <;> rfl

/-- A completion of a sign-in leads to the Main storyboard only after Auth has answered it. -/
theorem entered_completion {client next : Client} {inWindow : Bool} {closure : Closure}
    {response : Response} (entered : client.Entered)
    (scene : ∀ scene, closure.scene = some scene → scene < client.fresh)
    (signedIn : ∀ scene, client.root = .login scene → closure.scene = some scene →
      closure.authenticated → client.authCurrentUser.isSome)
    (outcome : Completion platform client inWindow closure response next) : next.Entered := by
  cases outcome with
  | @signIn _ firUser op _ follows =>
    -- from here on an account is signed in, whoever asks
    have renewed : ({ client with authCurrentUser := some firUser } : Client).Entered :=
      ⟨fun _ => rfl, entered.shown, entered.scenes, fun _ _ _ _ _ _ => rfl⟩
    exact renewed.of_send (fun target same => scene target (follows.scene_eq ▸ same)) fun _ _ _ _ => rfl
  | @enter _ target snapshot user enters decoded =>
    obtain ⟨same, authenticated⟩ := Closure.scene_of_enters enters
    obtain ⟨root, _, shown⟩ | ⟨_, stayed⟩ := Client.signedIn_cases client target inWindow user
    · rw [shown]
      exact .of_enterMain client entered.scenes (signedIn target root same authenticated) rfl rfl rfl
    · rw [stayed]
      exact ⟨entered.main, entered.shown, entered.scenes, entered.signIns⟩
  | updateUserValues _ _ => exact ⟨entered.main, entered.shown, entered.scenes, entered.signIns⟩
  | @getBeacons uid profile children =>
    obtain ⟨trap, _, crashed⟩ | ⟨_, _, _, listed⟩ :=
      Client.getBeaconsCompletion_cases client profile platform children uid
    · exact crashed ▸ entered.of_die _ (by simp) (by simp)
    · rw [listed]
      have login : ∀ scene, client.root.profileLoaded profile (UserService.beaconsOf platform children uid) =
          .login scene → client.root = .login scene := by
        cases root : client.root <;> simp [Root.profileLoaded]
      exact ⟨fun main => entered.main (by rwa [Client.isMain_profileLoaded] at main),
        fun scene shown => entered.shown scene (login scene shown), entered.scenes,
        fun op member scene shown => entered.signIns op member scene (login scene shown)⟩
  | @beaconsLoaded home children =>
    obtain ⟨trap, crashed⟩ | ⟨_, _, root, drawn⟩ | unseen :=
      Client.beaconsCompletion_cases platform client home (BeaconService.decode platform children)
    · exact crashed ▸ entered.of_die _ (by simp) (by simp)
    · rw [drawn]
      exact ⟨fun _ => entered.main (Client.isMain_iff.mpr ⟨_, root⟩), by simp, entered.scenes, by simp⟩
    · rw [unseen]
      exact entered
  | @follow _ _ op passive follows =>
    refine entered.of_send (fun target same => scene target (follows.scene_eq ▸ same))
      fun target shown same authenticated => ?_
    obtain earlier | ⟨firUser, rfl⟩ := follows.authenticated authenticated
    · exact signedIn target shown (follows.scene_eq ▸ same) earlier
    · -- the completions that Auth answers are not passive
      have signsIn := passive.signIn firUser rfl
      cases follows <;> simp [Closure.signsIn] at signsIn
  | alert _ _ => exact ⟨entered.main, entered.shown, entered.scenes, entered.signIns⟩
  | nothing _ => exact entered

theorem entered_handle {client next : Client} {event : Event} (entered : client.Entered)
    (handled : client.handle platform event = some next) : next.Entered := by
  cases Client.handle_cases handled with
  | launch _ =>
    obtain ⟨account, user, signedIn, _, shown⟩ | ⟨_, shown⟩ :=
      Client.configureInitialRootViewController_cases client
    · rw [shown]
      exact .of_enterMain client entered.scenes (by simp [Client.setCurrentNew, signedIn]) rfl rfl rfl
    · exact shown ▸ .of_enterLogin entered.scenes
  | kill => exact entered.of_die _ (by simp) (by simp)
  | crash _ => exact entered.of_die _ (by simp) (by simp)
  | @tap _ op scene root tapped =>
    -- the sign-in belongs to the scene that is shown, and Auth has not answered it yet
    have fresh := entered.shown scene root
    refine entered.of_send ?_ ?_
    · cases tapped <;> (rintro _ ⟨⟩; exact fresh)
    · cases tapped <;> simp [Closure.authenticated]
  | logout _ => exact .of_enterLogin entered.scenes
  | stay => exact entered
  | @screen event scene reaction root reacted =>
    refine ⟨fun _ => entered.main (Client.isMain_iff.mpr ⟨_, root⟩), by simp [Client.react],
      fun op member target closure => ?_, by simp [Client.react]⟩
    obtain member | member := List.mem_append.mp member
    · exact Nat.lt_succ_of_lt (entered.scenes op member target closure)
    · simp [(MainScene.handle_sent reacted op member).scene_eq_none] at closure
  | @deliver index inWindow op response found responded =>
    have member := List.mem_of_getElem? found
    have erased : ({ client with network := client.network.eraseIdx index } : Client).Entered :=
      ⟨entered.main, entered.shown,
        fun other present => entered.scenes other (List.mem_of_mem_eraseIdx present),
        fun other present => entered.signIns other (List.mem_of_mem_eraseIdx present)⟩
    exact entered_completion erased (entered.scenes op member) (entered.signIns op member)
      (Client.complete_cases platform _ inWindow op.closure response)

def World.Entered (world : World devices) : Prop := ∀ device, (world.client device).Entered

theorem Client.Entered.answered {client : Client} (entered : client.Entered) {index : Nat} {op : Op}
    (found : client.network[index]? = some op) (response : Response) :
    (client.answered index op response).Entered := by
  -- the operations that remain have the closures they had
  have closures : ∀ other ∈ (client.answered index op response).network,
      ∃ former ∈ client.network, former.closure = other.closure := by
    intro other present
    obtain present | ⟨_, rfl⟩ := Client.mem_of_mem_answered present
    · exact ⟨other, present, rfl⟩
    · exact ⟨op, List.mem_of_getElem? found, rfl⟩
  refine ⟨entered.main, entered.shown, fun other present scene closure => ?_,
    fun other present scene shown closure authenticated => ?_⟩
  · obtain ⟨former, member, same⟩ := closures other present
    exact entered.scenes former member scene (same ▸ closure)
  · obtain ⟨former, member, same⟩ := closures other present
    exact entered.signIns former member scene shown (same ▸ closure) (same ▸ authenticated)

theorem entered_step {world next : World devices} {action : Action devices} (entered : world.Entered)
    (taken : (app platform starts).step world action = some next) : next.Entered :=
  forall_client_step Client.Entered (fun _ _ _ => entered_handle)
    (fun _ _ _ response entered found => entered.answered found response) entered taken

/-- What every run keeps, from devices on which no process runs. -/
structure World.Sound (world : World devices) : Prop where
  wellFormed : world.WellFormed
  dormant : world.Dormant
  entered : world.Entered

theorem World.Sound.of_idle {world : World devices} (idle : Idle world) : world.Sound where
  wellFormed device op member := by
    rw [idle device] at member
    simp at member
  dormant device _ := by
    rw [idle device]
    exact ⟨rfl, rfl, by simp⟩
  entered device := by
    rw [idle device]
    exact ⟨by simp [Client.isMain], by simp, by simp, by simp⟩

theorem World.Sound.step {world next : World devices} {action : Action devices} (sound : world.Sound)
    (taken : (app platform starts).step world action = some next) : next.Sound :=
  ⟨wellFormed_step sound.wellFormed taken, dormant_step sound.dormant taken,
    entered_step sound.entered taken⟩

/-! ## Writes of the user -/

/-- The value that an `updateUserValues` still under way stores at `users/<uid>`. -/
def Op.update (op : Op) (uid : String) : Option Json :=
  match op.request, op.closure, op.response with
  | .setUser target value, .updateUserValues _, none => if target = uid then some value else none
  | _, _, _ => none

theorem Op.update_eq_some {op : Op} {uid : String} {value : Json} :
    op.update uid = some value ↔
      op.request = .setUser uid value ∧ op.closure.updates ∧ op.response = none := by
  obtain ⟨request, closure, response, orphan⟩ := op
  unfold Op.update
  split
  next target stored reference same closed waiting =>
    simp only at same closed waiting
    subst same closed waiting
    by_cases here : target = uid <;> simp [here, Closure.updates]
  next other =>
    simp only [reduceCtorEq, false_iff, not_and]
    rintro rfl updates rfl
    cases closure <;> simp_all [Closure.updates]

/-- Some `updateUserValues` of the user is still under way. -/
def updating (network : List Op) (uid : String) : Bool := network.any fun op => (op.update uid).isSome

/-- `users/<uid>` was last written by `updateUserValues`. -/
def updatedLast (history : History (World devices) (Action devices)) (uid : String) : Bool :=
  match history with
  | [] => false
  | (world, action) :: history =>
    match world.applied action with
    | some { request := .setUser target _, closure, .. } =>
      if target = uid then closure.updates else updatedLast history uid
    | _ => updatedLast history uid

theorem updatedLast_unapplied {world : World devices} {action : Action devices}
    {history : History (World devices) (Action devices)} (unapplied : world.applied action = none) :
    updatedLast ((world, action) :: history) = updatedLast history := by
  funext uid
  simp [updatedLast, unapplied]

theorem updatedLast_applied {uid : String} {world : World devices} {action : Action devices}
    {history : History (World devices) (Action devices)} {op : Op} (applied : world.applied action = some op)
    (other : ∀ value, op.request ≠ .setUser uid value) :
    updatedLast ((world, action) :: history) uid = updatedLast history uid := by
  obtain ⟨request, closure, response, orphan⟩ := op
  rw [updatedLast, applied]
  split
  next target value _ _ _ same =>
    obtain ⟨rfl, _, _, _⟩ := Op.mk.inj (Option.some.inj same)
    rw [if_neg]
    rintro rfl
    exact other value rfl
  next => rfl

end Lyv
