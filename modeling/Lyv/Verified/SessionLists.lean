import Lyv.Verified.ListSnapshots

/-!
# Lists belong to their session

A fetch outlives the screen that asked for it, and the session: it may be
answered after a logout and a new login.  Its listing then reaches nobody.  So
what is shown is what the device saw after the Main storyboard came up: the
database, with the writes of its own process that were under way.
-/

namespace Lyv

open Lyv.Library Lyv.Firebase

variable {devices : Nat} {platform : Platform} {starts : World devices → Prop}

/-- What a device has seen of the database since its Main storyboard came up. -/
def sinceMain (device : Fin devices) : History (World devices) (Action devices) → World devices → List Server
  | [], world => [world.view device]
  | (before, _) :: history, world =>
    if (before.client device).isMain then world.view device :: sinceMain device history before
    else [world.view device]

/-! ## Screens -/

namespace MainScene

variable {current : Except Trap (Nat × User)} {fresh : Nat} {scene : MainScene} {event : ScreenEvent}
  {reaction : Reaction}

theorem home_identifier_reacted (reacted : Reacted platform current fresh scene event reaction) :
    reaction.scene.home.identifier = scene.home.identifier := by
  cases reacted with
  | switchPressed _ switched =>
    obtain ⟨_, _, rfl⟩ := HomeController.switchPressed_eq_ok.mp switched
    rfl
  | _ => rfl

/-- A screen that reads listings after an event did so before, or is a new profile. -/
theorem reads_reacted (reacted : Reacted platform current fresh scene event reaction) {reader : Nat}
    (reads : reaction.scene.Reads reader) : reader = fresh ∨ scene.Reads reader := by
  obtain home | profile := reads
  · exact .inr (.inl ((home_identifier_reacted reacted).symm.trans home))
  · exact (identifier_reacted reacted profile).imp_right .inr

/-- A fetch is for a screen that is there. -/
theorem reads_sent (reacted : Reacted platform current fresh scene event reaction) {op : Op}
    (member : op ∈ reaction.sent) {reader : Nat} (closure : op.closure.reader = some reader) :
    reaction.scene.Reads reader := by
  have appears : ∀ {shown : ProfileController} {sent : List Op}, profileAppears current shown = .ok sent →
      op ∈ sent → some shown.identifier = some reader := by
    intro shown sent appears member
    unfold profileAppears at appears
    split at appears
    · obtain ⟨_, _, rest⟩ := bind_eq_ok.mp appears
      obtain rfl := pure_eq_ok.mp rest
      obtain rfl := List.mem_singleton.mp member
      exact closure
    · obtain rfl := pure_eq_ok.mp appears
      contradiction
  cases reacted with
  | switchPressed _ _ | homeLocation _ | leaveHome _ | didSelectItemAt _ _ | edit _ _ | updateLocation _ _
  | refused _ => contradiction
  | exitToHome =>
    obtain rfl := List.mem_singleton.mp member
    exact .inl (Option.some.inj closure)
  | create _ _ =>
    obtain rfl := List.mem_singleton.mp member
    contradiction
  | profileButtonPressed _ _ sent | exitToProfile _ sent => exact .inr (appears sent member)
  | saved _ _ _ _ _ sent =>
    obtain rfl | member := List.mem_cons.mp member
    · contradiction
    · obtain rfl | member := List.mem_cons.mp member
      · contradiction
      · exact .inr (appears sent member)
  | removed screen taken sent =>
    obtain member | member := List.mem_append.mp member
    · have pressed : Pressed scene current .removeButtonPressed op := pressed_of_removal screen taken op member
      cases pressed
      contradiction
    · exact .inr (appears sent member)

theorem reads_profileLoaded {identifier reader : Nat} {beacons : List Beacon}
    (reads : (scene.profileLoaded identifier beacons).Reads reader) : scene.Reads reader := by
  rw [Reads, home_profileLoaded, identifier_profileLoaded] at reads
  exact reads

end MainScene

/-! ## Devices -/

/-- What the screens show, and what is on its way to them, is from these servers;
what is on its way to other screens comes to none. -/
structure Client.Renewed (platform : Platform) (servers : List Server) (client : Client) : Prop where
  home : ∀ scene, client.root = .main scene → Snapshot platform servers scene.home.beacons
  profile : ∀ scene, client.root = .main scene → ∀ beacons, scene.screen.profileList = some beacons →
    SnapshotOf platform servers beacons
  listings : ∀ scene, client.root = .main scene → ∀ op ∈ client.network, ∀ reader,
    op.closure.reader = some reader → scene.Reads reader → ∀ children, op.response = some (.listing children) →
      ∃ server ∈ servers, children = server.beacons
  shown : ∀ scene, client.root = .main scene → ∀ reader, scene.Reads reader → reader < client.fresh
  readers : ∀ op ∈ client.network, ∀ reader, op.closure.reader = some reader → reader < client.fresh

namespace Client

variable {client next : Client} {servers more : List Server}

theorem Renewed.mono (renewed : client.Renewed platform servers) (grows : ∀ server ∈ servers, server ∈ more) :
    client.Renewed platform more where
  home scene root := (renewed.home scene root).mono grows
  profile scene root beacons shown := (renewed.profile scene root beacons shown).mono grows
  listings scene root op member reader closure reads children responded := by
    obtain ⟨server, present, same⟩ := renewed.listings scene root op member reader closure reads children responded
    exact ⟨server, grows server present, same⟩
  shown := renewed.shown
  readers := renewed.readers

/-- Where the Main storyboard is not up, there are no lists. -/
theorem Renewed.of_absent (gone : ∀ scene, client.root ≠ .main scene)
    (readers : ∀ op ∈ client.network, ∀ reader, op.closure.reader = some reader → reader < client.fresh) :
    client.Renewed platform servers where
  home scene root := absurd root (gone scene)
  profile scene root := absurd root (gone scene)
  listings scene root := absurd root (gone scene)
  shown scene root := absurd root (gone scene)
  readers := readers

theorem Renewed.of_die (renewed : client.Renewed platform servers) (root : Root)
    (gone : ∀ scene, root ≠ .main scene) : (client.die root).Renewed platform servers := by
  refine .of_absent gone fun op member reader closure => ?_
  obtain ⟨former, present, orphaned⟩ := List.mem_filterMap.mp member
  obtain ⟨_, _, rfl⟩ := Op.orphaned_eq_some.mp orphaned
  exact renewed.readers former present reader closure

end Client

theorem ScreenOp.unanswered {current : Except Trap (Nat × User)} {event : ScreenEvent} {op : Op}
    (sent : ScreenOp current event op) : op.response = none := by
  cases sent <;> rfl

theorem Follows.reader_eq_none {closure : Closure} {response : Response} {op : Op}
    (follows : Follows closure response op) : op.closure.reader = none := by
  cases follows <;> rfl

theorem Tapped.reader_eq_none {scene : Nat} {event : Event} {op : Op} (tapped : Tapped scene event op) :
    op.closure.reader = none := by
  cases tapped <;> rfl

namespace Client

variable {client next : Client} {servers : List Server}

/-- The Main storyboard that comes up reads nothing that was under way. -/
theorem Renewed.of_enterMain (renewed : client.Renewed platform servers)
    (root : next.root = .main { home := { identifier := client.fresh } })
    (network : next.network = client.network ++ [BeaconService.beacons client.fresh])
    (fresh : next.fresh = client.fresh + 1) : next.Renewed platform servers := by
  refine ⟨(lists_of_fresh root).1, (lists_of_fresh root).2, ?_, ?_, ?_⟩
  · intro scene shown op member reader closure reads children responded
    cases root.symm.trans shown
    obtain rfl | absent := reads
    · rw [network] at member
      obtain member | member := List.mem_append.mp member
      · exact absurd (renewed.readers op member _ closure) (Nat.lt_irrefl _)
      · obtain rfl := List.mem_singleton.mp member
        contradiction
    · contradiction
  · intro scene shown reader reads
    cases root.symm.trans shown
    rw [fresh]
    obtain rfl | absent := reads
    · exact Nat.lt_succ_self _
    · contradiction
  · intro op member reader closure
    rw [network] at member
    rw [fresh]
    obtain member | member := List.mem_append.mp member
    · exact Nat.lt_succ_of_lt (renewed.readers op member reader closure)
    · obtain rfl := List.mem_singleton.mp member
      obtain rfl := Option.some.inj closure
      exact Nat.lt_succ_self _

/-- An event that brings no new screen, and sends no fetch. -/
theorem Renewed.keep (renewed : client.Renewed platform servers)
    (lists : (∀ scene, next.root = .main scene → Snapshot platform servers scene.home.beacons) ∧
      ∀ scene, next.root = .main scene → ∀ beacons, scene.screen.profileList = some beacons →
        SnapshotOf platform servers beacons)
    (screens : ∀ scene, next.root = .main scene → ∃ former, client.root = .main former ∧
      ∀ reader, scene.Reads reader → former.Reads reader)
    (sent : ∀ op ∈ next.network, op ∈ client.network ∨ op.closure.reader = none)
    (fresh : client.fresh ≤ next.fresh) : next.Renewed platform servers where
  home := lists.1
  profile := lists.2
  listings scene root op member reader closure reads := by
    obtain ⟨former, before, readers⟩ := screens scene root
    obtain member | silent := sent op member
    · exact renewed.listings former before op member reader closure (readers reader reads)
    · simp [silent] at closure
  shown scene root reader reads := by
    obtain ⟨former, before, readers⟩ := screens scene root
    exact Nat.lt_of_lt_of_le (renewed.shown former before reader (readers reader reads)) fresh
  readers op member reader closure := by
    obtain member | silent := sent op member
    · exact Nat.lt_of_lt_of_le (renewed.readers op member reader closure) fresh
    · simp [silent] at closure

/-- A list that arrives leaves the screens that are there. -/
theorem reads_beaconsCompletion {home : Nat} {beacons : List Beacon} {scene : MainScene}
    (root : (client.beaconsCompletion platform home beacons).root = .main scene) :
    ∃ former, client.root = .main former ∧ ∀ reader, scene.Reads reader → former.Reads reader := by
  have offScreen : (beaconsCompletion.offScreen platform home beacons client).root = .main scene →
      ∃ former, client.root = .main former ∧ ∀ reader, scene.Reads reader → former.Reads reader := by
    unfold beaconsCompletion.offScreen
    split
    · exact fun root => absurd root (by simp [die])
    · exact fun root => ⟨scene, root, fun _ => id⟩
  unfold beaconsCompletion at root
  split at root
  next former before =>
    split at root
    · split at root
      · exact absurd root (by simp [die])
      next screen loaded =>
        obtain ⟨_, _, rfl⟩ := HomeController.beaconsLoaded_eq_ok.mp loaded
        cases root
        exact ⟨former, before, fun _ => id⟩
    · exact offScreen root
  · exact offScreen root

theorem Renewed.completion {inWindow : Bool} {closure : Closure} {response : Response}
    (renewed : client.Renewed platform servers)
    (listed : ∀ scene, client.root = .main scene → ∀ reader, closure.reader = some reader → scene.Reads reader →
      ∀ children, response = .listing children → ∃ server ∈ servers, children = server.beacons)
    (outcome : Completion platform client inWindow closure response next) : next.Renewed platform servers := by
  have lists := lists_completion renewed.home renewed.profile listed outcome
  have unmoved : ∀ scene, client.root = .main scene → ∃ former, client.root = .main former ∧
      ∀ reader, scene.Reads reader → former.Reads reader := fun scene root => ⟨scene, root, fun _ => id⟩
  have following : ∀ {op : Op}, Follows closure response op → ∀ other ∈ client.network ++ [op],
      other ∈ client.network ∨ other.closure.reader = none := by
    intro op follows other member
    refine (List.mem_append.mp member).imp_right fun last => ?_
    obtain rfl := List.mem_singleton.mp last
    exact follows.reader_eq_none
  cases outcome with
  | signIn _ follows | follow _ follows => exact renewed.keep lists unmoved (following follows) le_rfl
  | updateUserValues _ _ | alert _ _ | nothing _ => exact renewed.keep lists unmoved (fun _ => .inl) le_rfl
  | @enter _ scene _ user _ _ =>
    obtain ⟨_, _, entered⟩ | ⟨_, stayed⟩ := signedIn_cases client scene inWindow user
    · rw [entered]
      exact renewed.of_enterMain rfl rfl rfl
    · rw [stayed] at lists ⊢
      exact renewed.keep lists unmoved (fun _ => .inl) le_rfl
  | @getBeacons uid profile children =>
    obtain ⟨_, _, crashed⟩ | ⟨_, _, _, fetched⟩ := getBeaconsCompletion_cases client profile platform children uid
    · rw [crashed]
      exact renewed.of_die _ (by simp)
    · rw [fetched] at lists ⊢
      refine renewed.keep lists (fun scene root => ?_) (fun _ => .inl) le_rfl
      cases before : client.root with
      | main former =>
        simp only [before, Root.profileLoaded, Root.main.injEq] at root
        subst root
        exact ⟨former, rfl, fun _ => MainScene.reads_profileLoaded⟩
      | _ => simp [before, Root.profileLoaded] at root
  | @beaconsLoaded home children =>
    obtain ⟨_, crashed⟩ | ⟨before, screen, root, drawn⟩ | unseen :=
      beaconsCompletion_cases platform client home (BeaconService.decode platform children)
    · rw [crashed]
      exact renewed.of_die _ (by simp)
    · have screens : ∀ scene, (client.beaconsCompletion platform home
          (BeaconService.decode platform children)).root = .main scene →
          ∃ former, client.root = .main former ∧ ∀ reader, scene.Reads reader → former.Reads reader :=
        fun _ => reads_beaconsCompletion
      rw [drawn] at lists screens ⊢
      exact renewed.keep lists screens (fun _ => .inl) le_rfl
    · rw [unseen] at lists ⊢
      exact renewed.keep lists unmoved (fun _ => .inl) le_rfl

theorem Renewed.handle {event : Event} (renewed : client.Renewed platform servers)
    (handled : client.handle platform event = some next) : next.Renewed platform servers := by
  cases handle_cases handled with
  | launch _ =>
    obtain ⟨_, _, _, _, entered⟩ | ⟨_, shown⟩ := configureInitialRootViewController_cases client
    · rw [entered]
      exact renewed.of_enterMain rfl rfl rfl
    · rw [shown]
      exact .of_absent (by simp [enterLogin]) fun op member reader closure =>
        Nat.lt_succ_of_lt (renewed.readers op member reader closure)
  | kill | crash _ => exact renewed.of_die _ (by simp)
  | logout _ =>
    exact .of_absent (by simp [enterLogin]) fun op member reader closure =>
      Nat.lt_succ_of_lt (renewed.readers op member reader closure)
  | stay => exact renewed
  | @tap _ op scene root tapped =>
    refine renewed.keep ⟨renewed.home, renewed.profile⟩ (fun scene root => ⟨scene, root, fun _ => id⟩) ?_ le_rfl
    intro other member
    refine (List.mem_append.mp member).imp_right fun last => ?_
    obtain rfl := List.mem_singleton.mp last
    exact tapped.reader_eq_none
  | @screen _ scene reaction root reacts =>
    have reacted := MainScene.handle_reacted reacts
    have home := renewed.home scene root
    refine ⟨?_, ?_, ?_, ?_, ?_⟩
    · rintro _ ⟨⟩
      exact MainScene.snapshot_reacted home reacted
    · rintro _ ⟨⟩
      exact MainScene.profileList_reacted home (renewed.profile scene root) reacted
    · rintro _ ⟨⟩ op member reader closure reads children responded
      obtain before | sent := List.mem_append.mp member
      · obtain rfl | reads := MainScene.reads_reacted reacted reads
        · exact absurd (renewed.readers op before _ closure) (Nat.lt_irrefl _)
        · exact renewed.listings scene root op before reader closure reads children responded
      · simp [(MainScene.handle_sent reacts op sent).unanswered] at responded
    · rintro _ ⟨⟩ reader reads
      obtain rfl | reads := MainScene.reads_reacted reacted reads
      · exact Nat.lt_succ_self _
      · exact Nat.lt_succ_of_lt (renewed.shown scene root reader reads)
    · intro op member reader closure
      obtain before | sent := List.mem_append.mp member
      · exact Nat.lt_succ_of_lt (renewed.readers op before reader closure)
      · obtain rfl | reads := MainScene.reads_reacted reacted (MainScene.reads_sent reacted sent closure)
        · exact Nat.lt_succ_self _
        · exact Nat.lt_succ_of_lt (renewed.shown scene root reader reads)
  | @deliver index inWindow op response found responded =>
    have member := List.mem_of_getElem? found
    have erased : ({ client with network := client.network.eraseIdx index } : Client).Renewed platform servers :=
      ⟨renewed.home, renewed.profile,
        fun scene root other present => renewed.listings scene root other (List.mem_of_mem_eraseIdx present),
        renewed.shown, fun other present => renewed.readers other (List.mem_of_mem_eraseIdx present)⟩
    refine erased.completion ?_ (complete_cases platform _ inWindow op.closure response)
    rintro scene root reader closure reads children rfl
    exact renewed.listings scene root op member reader closure reads children responded

/-- An answer brings the listing as the device saw it. -/
theorem Renewed.answered (renewed : client.Renewed platform servers) {index : Nat} {op : Op} {response : Response}
    (found : client.network[index]? = some op) (listed : client.isMain → ∀ children, response = .listing children →
      ∃ server ∈ servers, children = server.beacons) :
    (client.answered index op response).Renewed platform servers := by
  have closures : ∀ other ∈ (client.answered index op response).network,
      ∃ former ∈ client.network, former.closure = other.closure := by
    intro other present
    obtain present | ⟨_, rfl⟩ := mem_of_mem_answered present
    · exact ⟨other, present, rfl⟩
    · exact ⟨op, List.mem_of_getElem? found, rfl⟩
  refine ⟨renewed.home, renewed.profile, fun scene root other member reader closure reads children responded => ?_,
    renewed.shown, fun other member reader closure => ?_⟩
  · obtain before | ⟨_, rfl⟩ := mem_of_mem_answered member
    · exact renewed.listings scene root other before reader closure reads children responded
    · exact listed (isMain_iff.mpr ⟨scene, root⟩) children (Option.some.inj responded)
  · obtain ⟨former, member, same⟩ := closures other member
    exact renewed.readers former member reader (same ▸ closure)

end Client

/-! ## Runs -/

section

variable {history : History (World devices) (Action devices)} {world next : World devices}
  {action : Action devices} {device : Fin devices}

theorem mem_sinceMain : world.view device ∈ sinceMain device history world := by
  cases history with
  | nil => exact List.mem_singleton.mpr rfl
  | cons entry history =>
    unfold sinceMain
    split <;> exact List.mem_cons_self

/-- While the Main storyboard stays up, what was seen is kept. -/
theorem sinceMain_cons (main : (world.client device).isMain) :
    ∀ server ∈ sinceMain device history world, server ∈ sinceMain device ((world, action) :: history) next := by
  intro server member
  simp only [sinceMain, main, if_true]
  exact List.mem_cons_of_mem _ member

theorem renewed_step (renewed : (world.client device).Renewed platform (sinceMain device history world))
    (taken : (app platform starts).step world action = some next) :
    (next.client device).Renewed platform (sinceMain device ((world, action) :: history) next) := by
  -- a device that is not in the Main storyboard has no lists to account for
  have kept : (world.client device).Renewed platform (sinceMain device ((world, action) :: history) next) := by
    by_cases main : (world.client device).isMain
    · exact renewed.mono (sinceMain_cons main)
    · exact .of_absent (fun scene root => main (Client.isMain_iff.mpr ⟨scene, root⟩)) renewed.readers
  obtain same | ⟨event, _, handled⟩ | ⟨index, _, op, response, server, _, found, _, answered, next_eq⟩ :=
    client_cases taken device
  · rw [same]
    exact kept
  · exact kept.handle handled
  · rw [next_eq]
    refine kept.answered found fun main => ?_
    rintro children rfl
    generalize op.request = request at answered
    cases Server.answer_cases answered
    exact ⟨world.view device, sinceMain_cons main _ mem_sinceMain, rfl⟩

/-- In every state of every run, what the home screen shows is empty or all that
the device saw at one moment since the Main storyboard came up on it, and what a
profile shows is empty or all that it saw of one user at such a moment: no fetch of
an earlier session reaches a screen. -/
theorem lists_belong_to_session (execution : Execution (app platform Idle) history world)
    (scene : MainScene) (root : (world.client device).root = .main scene) :
    (scene.home.beacons = [] ∨ ∃ server ∈ sinceMain device history world,
      scene.home.beacons = BeaconService.decode platform server.beacons) ∧
    ∀ beacons, scene.screen.profileList = some beacons → beacons = [] ∨
      ∃ server ∈ sinceMain device history world, ∃ uid,
        beacons = UserService.beaconsOf platform server.beacons uid := by
  have renewed : (world.client device).Renewed platform (sinceMain device history world) :=
    execution.always (fun history world => (world.client device).Renewed platform (sinceMain device history world))
      (fun world idle => by
        rw [idle device]
        exact .of_absent (by simp) (by simp))
      (fun _ _ _ _ renewed taken => renewed_step renewed taken)
  exact ⟨renewed.home scene root, renewed.profile scene root⟩

end

/-- Ann logs out with both fetches under way, and logs in again; the home screen
that is gone gets its listing, and then the one that is there. -/
def annReturns : List (Action 1) := annLogsIn ++
  [.event 0 (.screen .profileButtonPressed), .event 0 (.logoutButtonTapped true)] ++
  loginActions 0 "ann@lyv.app" "secret" 2 ++
  [.answer 0 0 .success, .event 0 (.deliver 0 true), .answer 0 1 .success, .event 0 (.deliver 1 true)]

theorem annReturns_taken : ((app .sample Idle).replay [] (World.installed .withBeacon) annReturns).isSome := by
  decide +kernel

def annReturned : History (World 1) (Action 1) × World 1 :=
  (app .sample Idle).reached (World.installed .withBeacon) annReturns annReturns_taken

theorem annReturned_lists : ∃ scene, (annReturned.2.client 0).root = .main scene ∧
    ∃ server ∈ sinceMain 0 annReturned.1 annReturned.2,
      scene.home.beacons = BeaconService.decode .sample server.beacons := by
  have shown : (annReturned.2.client 0).isMain := by
    decide +kernel
  have listed : (annReturned.2.client 0).homeList.isEmpty = false := by
    decide +kernel
  obtain ⟨scene, root⟩ := Client.isMain_iff.mp shown
  have execution : Execution (app .sample Idle) annReturned.1 annReturned.2 :=
    (app .sample Idle).execution_reached (idle_installed .withBeacon) annReturns annReturns_taken
  refine ⟨scene, root, (lists_belong_to_session execution scene root).1.resolve_left fun empty => ?_⟩
  simp [Client.homeList, root, empty] at listed

end Lyv
