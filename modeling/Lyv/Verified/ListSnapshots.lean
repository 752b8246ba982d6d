import Lyv.App.Held

/-!
# Lists are snapshots

A list on a screen is one listing of the database, whole, as the device saw it:
that of the home screen holds all the beacons of one moment, and that of a profile
one user's beacons of one moment.  Records that others change while the listing is
under way are never mixed in.
-/

namespace Lyv

open Lyv.Library Lyv.Firebase

variable {devices : Nat} {platform : Platform} {starts : World devices → Prop}

/-- The list has not been loaded, or is the listing of one of the servers. -/
def Snapshot (platform : Platform) (servers : List Server) (beacons : List Beacon) : Prop :=
  beacons = [] ∨ ∃ server ∈ servers, beacons = BeaconService.decode platform server.beacons

/-- The list is empty, or one user's part of the listing of one of the servers. -/
def SnapshotOf (platform : Platform) (servers : List Server) (beacons : List Beacon) : Prop :=
  beacons = [] ∨ ∃ server ∈ servers, ∃ uid, beacons = UserService.beaconsOf platform server.beacons uid

/-- The list of the profile that is on the stack. -/
def Screen.profileList : Screen → Option (List Beacon)
  | .profile shown | .update shown _ => some shown.beacons
  | _ => none

/-- The list of the home screen. -/
def Client.homeList (client : Client) : List Beacon :=
  match client.root with
  | .main scene => scene.home.beacons
  | _ => []

/-- Every list on the device, and every listing on its way, is that of one server. -/
structure Client.Consistent (platform : Platform) (servers : List Server) (client : Client) : Prop where
  home : ∀ scene, client.root = .main scene → Snapshot platform servers scene.home.beacons
  profile : ∀ scene, client.root = .main scene → ∀ beacons, scene.screen.profileList = some beacons →
    SnapshotOf platform servers beacons
  listings : ∀ op ∈ client.network, ∀ children, op.response = some (.listing children) →
    ∃ server ∈ servers, children = server.beacons

section

variable {before after : List Server} {beacons : List Beacon} {server : Server}

theorem Snapshot.mono (snapshot : Snapshot platform before beacons) (more : ∀ server ∈ before, server ∈ after) :
    Snapshot platform after beacons :=
  snapshot.imp_right fun ⟨server, member, same⟩ => ⟨server, more server member, same⟩

theorem SnapshotOf.mono (snapshot : SnapshotOf platform before beacons)
    (more : ∀ server ∈ before, server ∈ after) : SnapshotOf platform after beacons :=
  snapshot.imp_right fun ⟨server, member, owned⟩ => ⟨server, more server member, owned⟩

/-- The home screen hands the profile one user's part of its list. -/
theorem Snapshot.prepare {home : HomeController} (snapshot : Snapshot platform before home.beacons)
    {current : Except Trap String} (prepared : home.prepare current = .ok beacons) :
    SnapshotOf platform before beacons := by
  unfold HomeController.prepare at prepared
  split at prepared
  · exact .inl (pure_eq_ok.mp prepared).symm
  next listed nonempty =>
    obtain ⟨uid, _, rest⟩ := bind_eq_ok.mp prepared
    obtain rfl := pure_eq_ok.mp rest
    obtain empty | ⟨server, member, same⟩ := snapshot
    · exact absurd empty nonempty
    · exact .inr ⟨server, member, uid, by rw [same]; rfl⟩

end

/-! ## Screens -/

namespace MainScene

variable {current : Except Trap (Nat × User)} {fresh : Nat} {scene : MainScene} {event : ScreenEvent}
  {reaction : Reaction} {servers : List Server}

theorem snapshot_reacted (home : Snapshot platform servers scene.home.beacons)
    (reacted : Reacted platform current fresh scene event reaction) :
    Snapshot platform servers reaction.scene.home.beacons := by
  cases reacted with
  | switchPressed _ switched =>
    show Snapshot platform servers (HomeController.beacons _)
    rw [HomeController.beacons_switchPressed switched]
    exact home
  | _ => exact home

theorem profileList_reacted (home : Snapshot platform servers scene.home.beacons)
    (profile : ∀ beacons, scene.screen.profileList = some beacons → SnapshotOf platform servers beacons)
    (reacted : Reacted platform current fresh scene event reaction) :
    ∀ beacons, reaction.scene.screen.profileList = some beacons → SnapshotOf platform servers beacons := by
  intro beacons shown
  cases reacted with
  | switchPressed _ _ | homeLocation _ | refused _ | create _ _ => exact profile beacons shown
  | leaveHome _ | exitToHome => contradiction
  | profileButtonPressed _ prepared _ =>
    obtain rfl := Option.some.inj shown
    exact home.prepare prepared
  | didSelectItemAt screen _ | edit _ screen | updateLocation _ screen | saved screen _ _ _ _ _
  | removed screen _ _ | exitToProfile screen _ =>
    obtain rfl := Option.some.inj shown
    exact profile _ (by rw [screen]; rfl)

/-- A fetch that reaches a profile on the stack replaces its whole list. -/
theorem profileList_profileLoaded (identifier : Nat) {fetched : List Beacon}
    (snapshot : scene.screen.identifier = some identifier → SnapshotOf platform servers fetched)
    (profile : ∀ beacons, scene.screen.profileList = some beacons → SnapshotOf platform servers beacons) :
    ∀ beacons, (scene.profileLoaded identifier fetched).screen.profileList = some beacons →
      SnapshotOf platform servers beacons := by
  intro beacons shown
  unfold profileLoaded at shown
  split at shown
  next below screen =>
    split at shown
    next same =>
      obtain rfl := Option.some.inj shown
      exact snapshot (by rw [screen, Screen.identifier, same])
    next => exact profile beacons shown
  next below form screen =>
    split at shown
    next same =>
      obtain rfl := Option.some.inj shown
      exact snapshot (by rw [screen, Screen.identifier, same])
    next => exact profile beacons shown
  next => exact profile beacons shown

theorem home_profileLoaded (identifier : Nat) (fetched : List Beacon) :
    (scene.profileLoaded identifier fetched).home = scene.home := by
  unfold profileLoaded
  repeat' split
  all_goals rfl

end MainScene

/-! ## Devices -/

namespace Client

variable {client next : Client} {servers : List Server}

theorem Consistent.mono {more : List Server} (consistent : client.Consistent platform servers)
    (grows : ∀ server ∈ servers, server ∈ more) : client.Consistent platform more where
  home scene root := (consistent.home scene root).mono grows
  profile scene root beacons shown := (consistent.profile scene root beacons shown).mono grows
  listings op member children responded := by
    obtain ⟨server, present, same⟩ := consistent.listings op member children responded
    exact ⟨server, grows server present, same⟩

/-- The lists of a scene that has just come up are empty. -/
theorem lists_of_fresh {home : Nat} (root : client.root = .main { home := { identifier := home } }) :
    (∀ scene, client.root = .main scene → Snapshot platform servers scene.home.beacons) ∧
      ∀ scene, client.root = .main scene → ∀ beacons, scene.screen.profileList = some beacons →
        SnapshotOf platform servers beacons := by
  rw [root]
  constructor
  · rintro _ ⟨⟩
    exact .inl rfl
  · rintro _ ⟨⟩ _ ⟨⟩

theorem lists_of_absent (gone : ∀ scene, client.root ≠ .main scene) :
    (∀ scene, client.root = .main scene → Snapshot platform servers scene.home.beacons) ∧
      ∀ scene, client.root = .main scene → ∀ beacons, scene.screen.profileList = some beacons →
        SnapshotOf platform servers beacons :=
  ⟨fun scene root => absurd root (gone scene), fun scene root => absurd root (gone scene)⟩

theorem lists_completion {inWindow : Bool} {closure : Closure} {response : Response}
    (home : ∀ scene, client.root = .main scene → Snapshot platform servers scene.home.beacons)
    (profile : ∀ scene, client.root = .main scene → ∀ beacons, scene.screen.profileList = some beacons →
      SnapshotOf platform servers beacons)
    (listed : ∀ scene, client.root = .main scene → ∀ reader, closure.reader = some reader → scene.Reads reader →
      ∀ children, response = .listing children → ∃ server ∈ servers, children = server.beacons)
    (outcome : Completion platform client inWindow closure response next) :
    (∀ scene, next.root = .main scene → Snapshot platform servers scene.home.beacons) ∧
      ∀ scene, next.root = .main scene → ∀ beacons, scene.screen.profileList = some beacons →
        SnapshotOf platform servers beacons := by
  cases outcome with
  | signIn _ _ | updateUserValues _ _ | follow _ _ | alert _ _ | nothing _ => exact ⟨home, profile⟩
  | @enter _ scene _ user _ _ =>
    obtain ⟨_, _, entered⟩ | ⟨_, stayed⟩ := signedIn_cases client scene inWindow user
    · exact lists_of_fresh (by rw [entered])
    · rw [stayed]
      exact ⟨home, profile⟩
  | @getBeacons uid identifier children =>
    obtain ⟨_, _, crashed⟩ | ⟨_, _, _, fetched⟩ :=
      getBeaconsCompletion_cases client identifier platform children uid
    · exact lists_of_absent (by rw [crashed]; simp [die])
    · rw [fetched]
      cases root : client.root with
      | main before =>
        simp only [Root.profileLoaded, Root.main.injEq, forall_eq']
        refine ⟨by rw [MainScene.home_profileLoaded]; exact home before root,
          MainScene.profileList_profileLoaded identifier (fun shown => ?_) (profile before root)⟩
        obtain ⟨server, member, rfl⟩ := listed before root identifier rfl (.inr shown) children rfl
        exact .inr ⟨server, member, uid, rfl⟩
      | stopped | trapped _ | login _ => exact lists_of_absent (by simp [Root.profileLoaded])
  | @beaconsLoaded asked children =>
    unfold beaconsCompletion
    split
    next scene root =>
      split
      next same =>
        split
        · exact lists_of_absent (by simp [die])
        next screen loaded =>
          obtain ⟨server, member, rfl⟩ := listed scene root asked rfl (.inl same) children rfl
          constructor
          · rintro _ ⟨⟩
            exact .inr ⟨server, member, HomeController.beacons_beaconsLoaded loaded⟩
          · rintro _ ⟨⟩
            exact profile scene root
      next =>
        unfold beaconsCompletion.offScreen
        split
        · exact lists_of_absent (by simp [die])
        · exact ⟨home, profile⟩
    next =>
      unfold beaconsCompletion.offScreen
      split
      · exact lists_of_absent (by simp [die])
      · exact ⟨home, profile⟩

theorem Consistent.handle {event : Event} (consistent : client.Consistent platform servers)
    (handled : client.handle platform event = some next) : next.Consistent platform servers := by
  have listings : ∀ op ∈ next.network, ∀ children, op.response = some (.listing children) →
      ∃ server ∈ servers, children = server.beacons := by
    intro op member children responded
    obtain before | ⟨former, _, orphaned⟩ | sent := handle_network handled op member
    · exact consistent.listings op before children responded
    · obtain ⟨_, waiting, rfl⟩ := Op.orphaned_eq_some.mp orphaned
      simp [waiting] at responded
    · simp [sent.response_eq_none] at responded
  suffices lists : (∀ scene, next.root = .main scene → Snapshot platform servers scene.home.beacons) ∧
      ∀ scene, next.root = .main scene → ∀ beacons, scene.screen.profileList = some beacons →
        SnapshotOf platform servers beacons from ⟨lists.1, lists.2, listings⟩
  cases handle_cases handled with
  | launch _ =>
    obtain ⟨_, _, _, _, entered⟩ | ⟨_, shown⟩ := configureInitialRootViewController_cases client
    · exact lists_of_fresh (by rw [entered])
    · exact lists_of_absent (by rw [shown]; simp [enterLogin])
  | kill | crash _ => exact lists_of_absent (by simp [die])
  | logout _ => exact lists_of_absent (by simp [enterLogin])
  | tap _ _ | stay => exact ⟨consistent.home, consistent.profile⟩
  | screen root reacted =>
    have home := consistent.home _ root
    constructor
    · rintro _ ⟨⟩
      exact MainScene.snapshot_reacted home (MainScene.handle_reacted reacted)
    · rintro _ ⟨⟩
      exact MainScene.profileList_reacted home (consistent.profile _ root) (MainScene.handle_reacted reacted)
  | @deliver index inWindow op response found responded =>
    have outcome := complete_cases platform { client with network := client.network.eraseIdx index }
      inWindow op.closure response
    refine lists_completion (by exact consistent.home) (by exact consistent.profile) ?_ outcome
    rintro _ _ _ _ _ children rfl
    exact consistent.listings op (List.mem_of_getElem? found) children responded

/-- An answer brings the listing as the device saw it. -/
theorem Consistent.answered (consistent : client.Consistent platform servers) {index : Nat} {op : Op}
    {response : Response} (listed : ∀ children, response = .listing children →
      ∃ server ∈ servers, children = server.beacons) :
    (client.answered index op response).Consistent platform servers where
  home := consistent.home
  profile := consistent.profile
  listings other member children responded := by
    obtain before | ⟨_, rfl⟩ := mem_of_mem_answered member
    · exact consistent.listings other before children responded
    · exact listed children (Option.some.inj responded)

end Client

/-! ## Runs -/

def World.Consistent (platform : Platform) (history : History (World devices) (Action devices))
    (world : World devices) : Prop :=
  ∀ device, (world.client device).Consistent platform (viewed device history world)

theorem World.Consistent.step {history : History (World devices) (Action devices)} {world next : World devices}
    {action : Action devices} (consistent : world.Consistent platform history)
    (taken : (app platform starts).step world action = some next) :
    next.Consistent platform ((world, action) :: history) := by
  intro device
  have kept : (world.client device).Consistent platform (viewed device ((world, action) :: history) next) :=
    (consistent device).mono fun server member => List.mem_cons_of_mem _ member
  obtain same | ⟨event, _, handled⟩ | ⟨index, _, op, response, server, _, _, _, answered, next_eq⟩ :=
    client_cases taken device
  · rw [same]
    exact kept
  · exact kept.handle handled
  · rw [next_eq]
    refine kept.answered ?_
    rintro children rfl
    generalize op.request = request at answered
    cases Server.answer_cases answered
    exact ⟨world.view device, List.mem_cons_of_mem _ List.mem_cons_self, rfl⟩

theorem World.Consistent.of_idle {world : World devices} (idle : Idle world)
    (history : History (World devices) (Action devices)) : world.Consistent platform history := by
  intro device
  rw [idle device]
  exact ⟨by simp, by simp, by simp⟩

theorem World.Consistent.of_execution {history : History (World devices) (Action devices)} {world : World devices}
    (execution : Execution (app platform Idle) history world) : world.Consistent platform history :=
  execution.always (fun history world => world.Consistent platform history)
    (fun _ idle => .of_idle idle []) (fun _ _ _ _ consistent taken => consistent.step taken)

end Lyv
