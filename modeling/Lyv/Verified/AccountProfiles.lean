import Lyv.Verified.ListSnapshots
import Lyv.Verified.SessionIdentity

/-!
# Whose beacons a profile shows

The profile is handed the current user's part of the home screen's list, or
fetches the beacons of the user that is current when it appears; by the time
they are shown another user may be current.  While every event keeps to one
account, they are that account's, and so is what is on its way.
-/

namespace Lyv

open Lyv.Library Lyv.Firebase

variable {devices : Nat} {platform : Platform} {starts : World devices → Prop}

/-! ## Screens -/

theorem Screen.held_of_profileList {screen : Screen} {beacons : List Beacon}
    (shown : screen.profileList = some beacons) : ∀ beacon ∈ beacons, beacon ∈ screen.held := by
  intro beacon member
  cases screen with
  | home | other => contradiction
  | profile profile =>
    cases shown
    exact List.mem_append_left _ member
  | update profile form =>
    cases shown
    exact List.mem_append_left _ (List.mem_append_left _ member)

theorem HomeController.owned_of_prepare {home : HomeController} {current : Except Trap String}
    {beacons : List Beacon} (prepared : home.prepare current = .ok beacons) :
    ∀ beacon ∈ beacons, current = .ok beacon.uid := by
  intro beacon member
  unfold prepare at prepared
  split at prepared
  · obtain rfl := pure_eq_ok.mp prepared
    contradiction
  · obtain ⟨uid, found, rest⟩ := bind_eq_ok.mp prepared
    obtain rfl := pure_eq_ok.mp rest
    rw [found, of_decide_eq_true (List.mem_filter.mp member).2]

namespace MainScene

variable {current : Except Trap (Nat × User)} {fresh : Nat} {scene : MainScene} {event : ScreenEvent}
  {reaction : Reaction}

/-- What a profile and its form hold stays one user's, as long as that user is the current one. -/
theorem owned_reacted {uid : String} (owned : ∀ beacon ∈ scene.screen.held, beacon.uid = uid)
    (signedIn : ∀ reference user, current = .ok (reference, user) → user.uid = uid)
    (reacted : Reacted platform current fresh scene event reaction) :
    ∀ beacon ∈ reaction.scene.screen.held, beacon.uid = uid := by
  intro beacon member
  cases reacted with
  | switchPressed _ _ | homeLocation _ | refused _ | create _ _ => exact owned beacon member
  | leaveHome _ | exitToHome => contradiction
  | profileButtonPressed _ prepared _ =>
    simp only [Screen.held, ProfileController.held, Option.toList_none, List.append_nil] at member
    obtain ⟨⟨reference, user⟩, found, same⟩ :=
      map_eq_ok.mp (HomeController.owned_of_prepare prepared beacon member)
    exact same ▸ signedIn reference user found
  | didSelectItemAt screen found =>
    simp only [Screen.held, ProfileController.held, UpdateController.beacon_setupUI, Option.toList_some,
      List.mem_append, List.mem_singleton] at member
    have selected := List.mem_of_getElem? found
    simp only [screen, Screen.held, ProfileController.held, List.mem_append] at owned
    obtain (listed | rfl) | rfl := member
    · exact owned beacon (.inl listed)
    · exact owned _ (.inl selected)
    · exact owned _ (.inl selected)
  | edit change screen =>
    simp only [Screen.held, UpdateController.beacon_edit] at member
    simp only [screen, Screen.held] at owned
    exact owned beacon member
  | updateLocation _ screen =>
    rw [screen] at owned
    exact owned beacon member
  | saved screen _ _ _ _ _ | removed screen _ _ | exitToProfile screen _ =>
    rw [screen] at owned
    exact owned beacon (List.mem_append_left _ member)

/-- A profile fetches the beacons of the current user, and for itself. -/
theorem fetches_reacted (reacted : Reacted platform current fresh scene event reaction) {op : Op}
    (member : op ∈ reaction.sent) {uid : String} {profile : Nat} (closure : op.closure = .getBeacons uid profile) :
    (∃ reference user, current = .ok (reference, user) ∧ user.uid = uid) ∧
      reaction.scene.screen.identifier = some profile := by
  have appears : ∀ {shown : ProfileController} {sent : List Op}, profileAppears current shown = .ok sent →
      op ∈ sent → (∃ reference user, current = .ok (reference, user) ∧ user.uid = uid) ∧
        shown.identifier = profile := by
    intro shown sent appears member
    unfold profileAppears at appears
    split at appears
    · obtain ⟨⟨reference, user⟩, found, rest⟩ := bind_eq_ok.mp appears
      obtain rfl := pure_eq_ok.mp rest
      obtain rfl := List.mem_singleton.mp member
      obtain ⟨rfl, rfl⟩ := Closure.getBeacons.inj closure
      exact ⟨⟨reference, user, found, rfl⟩, rfl⟩
    · obtain rfl := pure_eq_ok.mp appears
      contradiction
  cases reacted with
  | switchPressed _ _ | homeLocation _ | leaveHome _ | didSelectItemAt _ _ | edit _ _ | updateLocation _ _
  | refused _ => contradiction
  | exitToHome | create _ _ =>
    obtain rfl := List.mem_singleton.mp member
    contradiction
  | profileButtonPressed _ _ sent | exitToProfile _ sent =>
    exact (appears sent member).imp_right (congrArg some)
  | saved _ _ _ _ _ sent =>
    obtain rfl | member := List.mem_cons.mp member
    · contradiction
    · obtain rfl | member := List.mem_cons.mp member
      · contradiction
      · exact (appears sent member).imp_right (congrArg some)
  | removed screen taken sent =>
    obtain member | member := List.mem_append.mp member
    · have pressed : Pressed scene current .removeButtonPressed op := pressed_of_removal screen taken op member
      cases pressed
      contradiction
    · exact (appears sent member).imp_right (congrArg some)

/-- A fetch reaches the profile that it is for. -/
theorem owned_profileLoaded {fetched : Nat} {beacons : List Beacon} :
    ∀ beacon ∈ (scene.profileLoaded fetched beacons).screen.held, beacon ∈ scene.screen.held ∨
      (scene.screen.identifier = some fetched ∧ beacon ∈ beacons) := by
  intro beacon member
  unfold profileLoaded at member
  split at member
  next profile screen =>
    split at member
    next same =>
      simp only [Screen.held, ProfileController.held, ProfileController.beaconsLoaded, List.mem_append] at member
      simp only [screen, Screen.held, Screen.identifier, same, ProfileController.held, List.mem_append]
      tauto
    · exact .inl member
  next profile form screen =>
    split at member
    next same =>
      simp only [Screen.held, ProfileController.held, ProfileController.beaconsLoaded, List.mem_append] at member
      simp only [screen, Screen.held, Screen.identifier, same, ProfileController.held, List.mem_append]
      tauto
    · exact .inl member
  · exact .inl member

end MainScene

/-! ## Devices -/

theorem Follows.closure_ne_getBeacons {closure : Closure} {response : Response} {op : Op}
    (follows : Follows closure response op) (uid : String) (profile : Nat) :
    op.closure ≠ .getBeacons uid profile := by
  cases follows <;> exact Closure.noConfusion

/-- The profile on the stack, and what is on its way to it, are those of the current user. -/
structure Client.Own (client : Client) : Prop where
  same : client.isMain → client.SameAccount
  held : ∀ scene, client.root = .main scene → ∀ beacon ∈ scene.screen.held, client.sessionUid = some beacon.uid
  fetched : ∀ scene, client.root = .main scene → ∀ op ∈ client.network, ∀ uid profile,
    op.closure = .getBeacons uid profile → scene.screen.identifier = some profile → client.sessionUid = some uid
  shown : ∀ scene, client.root = .main scene → ∀ profile, scene.screen.identifier = some profile →
    profile < client.fresh
  fetching : ∀ op ∈ client.network, ∀ uid profile, op.closure = .getBeacons uid profile → profile < client.fresh

namespace Client

variable {client next : Client}

/-- Where no storyboard is up, or one has just come up, there is no profile. -/
theorem Own.of_bare (same : client.isMain → client.SameAccount)
    (bare : ∀ scene, client.root = .main scene → scene.screen = .home)
    (fetching : ∀ op ∈ client.network, ∀ uid profile, op.closure = .getBeacons uid profile →
      profile < client.fresh) : client.Own where
  same := same
  held scene root beacon member := by
    rw [bare scene root] at member
    contradiction
  fetched scene root _ _ _ _ _ shown := by
    rw [bare scene root] at shown
    contradiction
  shown scene root _ shown := by
    rw [bare scene root] at shown
    contradiction
  fetching := fetching

theorem uid_completion {inWindow : Bool} {closure : Closure} {response : Response}
    (outcome : Completion platform client inWindow closure response next) :
    next.accountUid = client.accountUid ∨ next.sessionUid = client.sessionUid := by
  cases outcome with
  | signIn _ _ => exact .inr rfl
  | enter _ _ => exact .inl (by simp [accountUid])
  | updateUserValues _ _ | follow _ _ | alert _ _ | nothing _ => exact .inl rfl
  | @getBeacons uid profile children =>
    obtain ⟨_, _, crashed⟩ | ⟨_, _, _, listed⟩ := getBeaconsCompletion_cases client profile platform children uid
    · exact .inl (by rw [crashed]; rfl)
    · exact .inl (by rw [listed]; rfl)
  | @beaconsLoaded home children =>
    obtain ⟨_, crashed⟩ | ⟨_, _, _, drawn⟩ | unseen :=
      beaconsCompletion_cases platform client home (BeaconService.decode platform children)
    · exact .inl (by rw [crashed]; rfl)
    · exact .inl (by rw [drawn]; rfl)
    · exact .inl (by rw [unseen])

/-- An event moves Auth or the session, not both. -/
theorem uid_handle {event : Event} (handled : client.handle platform event = some next) :
    next.accountUid = client.accountUid ∨ next.sessionUid = client.sessionUid := by
  cases handle_cases handled with
  | launch _ =>
    obtain ⟨_, _, _, _, entered⟩ | ⟨_, shown⟩ := configureInitialRootViewController_cases client
    · exact .inl (by rw [entered]; rfl)
    · exact .inl (by rw [shown]; rfl)
  | kill | crash _ | tap _ _ | stay | screen _ _ => exact .inl rfl
  | logout _ => exact .inr rfl
  | @deliver index inWindow op response _ _ =>
    have moved := uid_completion (complete_cases platform
      { client with network := client.network.eraseIdx index } inWindow op.closure response)
    exact moved

/-- An account that is signed in before and after an event is the same account. -/
theorem sessionUid_handle {event : Event} (handled : client.handle platform event = some next)
    (before : client.SameAccount) (after : next.SameAccount) : next.sessionUid = client.sessionUid := by
  obtain ⟨uid, session, account⟩ := before
  obtain ⟨uid', session', account'⟩ := after
  obtain stays | stays := uid_handle handled
  · rw [session, session', ← account, ← account', stays]
  · exact stays

theorem Own.of_die (own : client.Own) (root : Root) (gone : ∀ scene, root ≠ .main scene) :
    (client.die root).Own := by
  refine .of_bare (fun main => ?_) (fun scene shown => absurd shown (gone scene)) ?_
  · obtain ⟨scene, shown⟩ := isMain_iff.mp main
    exact absurd shown (gone scene)
  · intro op member uid profile closure
    obtain ⟨former, present, orphaned⟩ := List.mem_filterMap.mp member
    obtain ⟨_, _, rfl⟩ := Op.orphaned_eq_some.mp orphaned
    exact own.fetching former present uid profile closure

/-- An event that leaves the profile on the stack, and sends no fetch for it. -/
theorem Own.keep (own : client.Own) (same : next.isMain → next.SameAccount)
    (stays : client.isMain → next.isMain → next.sessionUid = client.sessionUid)
    (screens : ∀ scene, next.root = .main scene → ∃ former, client.root = .main former ∧
      scene.screen.identifier = former.screen.identifier ∧ ∀ beacon ∈ scene.screen.held,
        beacon ∈ former.screen.held ∨ client.sessionUid = some beacon.uid)
    (sent : ∀ op ∈ next.network, op ∈ client.network ∨ ∀ uid profile, op.closure ≠ .getBeacons uid profile)
    (fresh : client.fresh ≤ next.fresh) : next.Own where
  same := same
  held scene root beacon member := by
    obtain ⟨former, before, _, held⟩ := screens scene root
    rw [stays (isMain_iff.mpr ⟨_, before⟩) (isMain_iff.mpr ⟨_, root⟩)]
    exact (held beacon member).elim (own.held former before beacon) id
  fetched scene root op member uid profile closure shown := by
    obtain ⟨former, before, identifier, _⟩ := screens scene root
    rw [stays (isMain_iff.mpr ⟨_, before⟩) (isMain_iff.mpr ⟨_, root⟩)]
    obtain member | other := sent op member
    · exact own.fetched former before op member uid profile closure (identifier ▸ shown)
    · exact absurd closure (other uid profile)
  shown scene root profile shown := by
    obtain ⟨former, before, identifier, _⟩ := screens scene root
    exact Nat.lt_of_lt_of_le (own.shown former before profile (identifier ▸ shown)) fresh
  fetching op member uid profile closure := by
    obtain member | other := sent op member
    · exact Nat.lt_of_lt_of_le (own.fetching op member uid profile closure) fresh
    · exact absurd closure (other uid profile)

/-- The Main storyboard comes up without a profile. -/
theorem Own.of_enterMain (own : client.Own) {home : HomeController} (same : next.isMain → next.SameAccount)
    (root : next.root = .main { home := home })
    (network : next.network = client.network ++ [BeaconService.beacons client.fresh])
    (fresh : next.fresh = client.fresh + 1) : next.Own := by
  refine .of_bare same ?_ ?_
  · intro scene shown
    cases root.symm.trans shown
    rfl
  · intro op member uid profile closure
    rw [network] at member
    rw [fresh]
    obtain member | member := List.mem_append.mp member
    · exact Nat.lt_succ_of_lt (own.fetching op member uid profile closure)
    · obtain rfl := List.mem_singleton.mp member
      contradiction

theorem Own.completion {inWindow : Bool} {closure : Closure} {response : Response} (own : client.Own)
    (outcome : Completion platform client inWindow closure response next)
    (same : next.isMain → next.SameAccount)
    (stays : client.isMain → next.isMain → next.sessionUid = client.sessionUid)
    (fetched : ∀ scene, client.root = .main scene → ∀ uid profile, closure = .getBeacons uid profile →
      scene.screen.identifier = some profile → client.sessionUid = some uid) : next.Own := by
  have unmoved : ∀ scene, client.root = .main scene → ∃ former, client.root = .main former ∧
      scene.screen.identifier = former.screen.identifier ∧ ∀ beacon ∈ scene.screen.held,
        beacon ∈ former.screen.held ∨ client.sessionUid = some beacon.uid :=
    fun scene root => ⟨scene, root, rfl, fun _ => .inl⟩
  have following : ∀ {op : Op}, Follows closure response op → ∀ other ∈ client.network ++ [op],
      other ∈ client.network ∨ ∀ uid profile, other.closure ≠ .getBeacons uid profile := by
    intro op follows other member
    refine (List.mem_append.mp member).imp_right fun last => ?_
    obtain rfl := List.mem_singleton.mp last
    exact follows.closure_ne_getBeacons
  cases outcome with
  | signIn _ follows | follow _ follows => exact own.keep same stays unmoved (following follows) le_rfl
  | updateUserValues _ _ | alert _ _ | nothing _ =>
    exact own.keep same stays unmoved (fun _ => .inl) le_rfl
  | @enter _ scene _ user _ _ =>
    obtain ⟨_, _, entered⟩ | ⟨_, stayed⟩ := signedIn_cases client scene inWindow user
    · rw [entered] at same ⊢
      exact own.of_enterMain same rfl rfl rfl
    · rw [stayed] at same stays ⊢
      exact own.keep same stays unmoved (fun _ => .inl) le_rfl
  | @getBeacons uid profile children =>
    obtain ⟨_, _, crashed⟩ | ⟨_, _, _, listed⟩ := getBeaconsCompletion_cases client profile platform children uid
    · rw [crashed]
      exact own.of_die _ (by simp)
    · rw [listed] at same stays ⊢
      refine own.keep same stays ?_ (fun _ => .inl) le_rfl
      intro scene root
      cases before : client.root with
      | main former =>
        simp only [before, Root.profileLoaded, Root.main.injEq] at root
        subst root
        refine ⟨former, rfl, MainScene.identifier_profileLoaded _ _, fun beacon member => ?_⟩
        refine (MainScene.owned_profileLoaded beacon member).imp_right ?_
        rintro ⟨shown, listed⟩
        rw [fetched former before uid profile rfl shown, of_decide_eq_true (List.mem_filter.mp listed).2]
      | _ => simp [before, Root.profileLoaded] at root
  | @beaconsLoaded home children =>
    obtain ⟨_, crashed⟩ | ⟨before, screen, root, drawn⟩ | unseen :=
      beaconsCompletion_cases platform client home (BeaconService.decode platform children)
    · rw [crashed]
      exact own.of_die _ (by simp)
    · rw [drawn] at same stays ⊢
      refine own.keep same stays ?_ (fun _ => .inl) le_rfl
      rintro _ ⟨⟩
      exact ⟨before, root, rfl, fun _ => .inl⟩
    · rw [unseen] at same stays ⊢
      exact own.keep same stays unmoved (fun _ => .inl) le_rfl

/-- An event that keeps to one account leaves no other's beacons on the profile. -/
theorem Own.handle {event : Event} (own : client.Own) (keeps : client.keepsAccountAt event)
    (handled : client.handle platform event = some next) : next.Own := by
  have same := (sameAccount_handle_iff own.same handled).mpr keeps
  have stays : client.isMain → next.isMain → next.sessionUid = client.sessionUid :=
    fun before after => sessionUid_handle handled (own.same before) (same after)
  cases handle_cases handled with
  | launch _ =>
    obtain ⟨_, _, _, _, entered⟩ | ⟨_, shown⟩ := configureInitialRootViewController_cases client
    · rw [entered] at same ⊢
      exact own.of_enterMain same rfl rfl rfl
    · rw [shown] at same ⊢
      refine .of_bare same (by simp [enterLogin]) fun op member uid profile closure => ?_
      exact Nat.lt_succ_of_lt (own.fetching op member uid profile closure)
  | kill | crash _ => exact own.of_die _ (by simp)
  | logout _ =>
    refine .of_bare same (by simp [enterLogin]) fun op member uid profile closure => ?_
    exact Nat.lt_succ_of_lt (own.fetching op member uid profile closure)
  | stay => exact own
  | @tap _ op scene root tapped =>
    refine own.keep same stays (fun scene root => ⟨scene, root, rfl, fun _ => .inl⟩) ?_ le_rfl
    intro other member
    refine (List.mem_append.mp member).imp_right fun last uid profile => ?_
    obtain rfl := List.mem_singleton.mp last
    cases tapped <;> exact Closure.noConfusion
  | @screen _ scene reaction root reacts =>
    have reacted := MainScene.handle_reacted reacts
    obtain ⟨uid, session, _⟩ := own.same (isMain_iff.mpr ⟨scene, root⟩)
    have signedIn : ∀ reference user, client.userCurrent = .ok (reference, user) → user.uid = uid :=
      fun reference user current => Option.some.inj ((sessionUid_of_userCurrent current).symm.trans session)
    have session' : (client.react reaction).sessionUid = some uid := session
    refine ⟨same, ?_, ?_, ?_, ?_⟩
    · rintro _ ⟨⟩ beacon member
      rw [session', MainScene.owned_reacted (fun beacon held =>
        Option.some.inj ((own.held scene root beacon held).symm.trans session)) signedIn reacted beacon member]
    · rintro _ ⟨⟩ op member uid' profile closure shown
      rw [session']
      obtain before | sent := List.mem_append.mp member
      · obtain rfl | shown := MainScene.identifier_reacted reacted shown
        · exact absurd (own.fetching op before uid' _ closure) (Nat.lt_irrefl _)
        · exact session.symm.trans (own.fetched scene root op before uid' profile closure shown)
      · obtain ⟨⟨reference, user, current, same⟩, _⟩ := MainScene.fetches_reacted reacted sent closure
        rw [← same, signedIn reference user current]
    · rintro _ ⟨⟩ profile shown
      obtain rfl | shown := MainScene.identifier_reacted reacted shown
      · exact Nat.lt_succ_self _
      · exact Nat.lt_succ_of_lt (own.shown scene root profile shown)
    · intro op member uid' profile closure
      obtain before | sent := List.mem_append.mp member
      · exact Nat.lt_succ_of_lt (own.fetching op before uid' profile closure)
      · obtain ⟨_, shown⟩ := MainScene.fetches_reacted reacted sent closure
        obtain rfl | shown := MainScene.identifier_reacted reacted shown
        · exact Nat.lt_succ_self _
        · exact Nat.lt_succ_of_lt (own.shown scene root profile shown)
  | @deliver index inWindow op response found responded =>
    have member := List.mem_of_getElem? found
    have erased : ({ client with network := client.network.eraseIdx index } : Client).Own :=
      ⟨own.same, own.held, fun scene root other present => own.fetched scene root other (List.mem_of_mem_eraseIdx present),
        own.shown, fun other present => own.fetching other (List.mem_of_mem_eraseIdx present)⟩
    exact erased.completion (complete_cases platform _ inWindow op.closure response) same stays
      fun scene root => own.fetched scene root op member

theorem Own.answered (own : client.Own) {index : Nat} {op : Op} (found : client.network[index]? = some op)
    (response : Response) : (client.answered index op response).Own := by
  have closures : ∀ other ∈ (client.answered index op response).network,
      ∃ former ∈ client.network, former.closure = other.closure := by
    intro other present
    obtain present | ⟨_, rfl⟩ := mem_of_mem_answered present
    · exact ⟨other, present, rfl⟩
    · exact ⟨op, List.mem_of_getElem? found, rfl⟩
  refine ⟨own.same, own.held, fun scene root other present uid profile closure => ?_, own.shown,
    fun other present uid profile closure => ?_⟩
  · obtain ⟨former, member, same⟩ := closures other present
    exact own.fetched scene root former member uid profile (same.trans closure)
  · obtain ⟨former, member, same⟩ := closures other present
    exact own.fetching former member uid profile (same.trans closure)

end Client

/-! ## Runs -/

section

variable {history : History (World devices) (Action devices)} {world next : World devices}
  {action : Action devices}

theorem Client.Own.of_idle {client : Client} (idle : client.Idle) : client.Own := by
  rw [idle]
  refine .of_bare ?_ ?_ ?_ <;> simp [isMain]

theorem own_step (own : ∀ device, (world.client device).Own) (keeps : KeepsAccount history world action)
    (taken : (app platform starts).step world action = some next) : ∀ device, (next.client device).Own := by
  intro device
  obtain same | ⟨event, rfl, handled⟩ | ⟨index, _, op, response, _, _, found, _, _, answered⟩ :=
    client_cases taken device
  · rw [same]
    exact own device
  · exact (own device).handle keeps handled
  · rw [answered]
    exact (own device).answered found response

/-- In every state of every run whose events keep to one account, what a profile
and its form hold is the beacons of the account that is signed in, and its list
is empty or all that the device saw of that account at one moment of the run. -/
theorem profiles_show_account (execution : Execution (app platform Idle) history world)
    (keeps : EveryStep KeepsAccount history) :
    EveryState (fun history world => ∀ device scene, (world.client device).root = .main scene →
      ∃ uid, (world.client device).sessionUid = some uid ∧ (world.client device).accountUid = some uid ∧
        (∀ beacon ∈ scene.screen.held, beacon.uid = uid) ∧
        ∀ beacons, scene.screen.profileList = some beacons → beacons = [] ∨
          ∃ view ∈ viewed device history world, beacons = UserService.beaconsOf platform view.beacons uid)
      history world := by
  refine execution.everyState (fun history world => (∀ device, (world.client device).Own) ∧
    world.Consistent platform history) ?starts ?preserved ?sound keeps
  case starts =>
    intro world idle
    exact ⟨fun device => .of_idle (idle device), .of_idle idle []⟩
  case preserved =>
    rintro history world action next ⟨own, consistent⟩ keeps taken
    exact ⟨own_step own keeps taken, consistent.step taken⟩
  case sound =>
    rintro history world ⟨own, consistent⟩ device scene root
    obtain ⟨uid, session, account⟩ := (own device).same (Client.isMain_iff.mpr ⟨scene, root⟩)
    have held : ∀ beacon ∈ scene.screen.held, beacon.uid = uid := fun beacon member =>
      Option.some.inj (((own device).held scene root beacon member).symm.trans session)
    refine ⟨uid, session, account, held, fun beacons shown => ?_⟩
    obtain empty | ⟨view, seen, owner, rfl⟩ := (consistent device).profile scene root beacons shown
    · exact .inl empty
    -- a list that is not empty has an owner, and that is the account
    refine or_iff_not_imp_left.mpr fun nonempty => ⟨view, seen, ?_⟩
    obtain ⟨beacon, listed⟩ := List.exists_mem_of_ne_nil _ nonempty
    have owned : beacon.uid = owner := of_decide_eq_true (List.mem_filter.mp listed).2
    rw [← owned, held beacon (Screen.held_of_profileList shown beacon listed)]

end

/-- Ann opens the beacon that her profile has fetched. -/
def annSelects : List (Action 1) := annOpensProfile ++ [.event 0 (.screen (.didSelectItemAt 0))]

theorem annSelects_taken : ((app .sample Idle).replay [] (World.installed .withBeacon) annSelects).isSome := by
  decide +kernel

def annSelected : History (World 1) (Action 1) × World 1 :=
  (app .sample Idle).reached (World.installed .withBeacon) annSelects annSelects_taken

/-- What the device shows on a profile and its form. -/
def Client.shown (client : Client) : List Beacon :=
  match client.root with
  | .main scene => scene.screen.held
  | _ => []

theorem annSelected_account : (annSelected.2.client 0).shown.length = 3 ∧
    ∀ beacon ∈ (annSelected.2.client 0).shown, (annSelected.2.client 0).sessionUid = some beacon.uid := by
  have every := profiles_show_account ((app .sample Idle).execution_reached (idle_installed .withBeacon)
    annSelects annSelects_taken) (by decide +kernel)
  refine ⟨by decide +kernel, fun beacon shown => ?_⟩
  have main : (annSelected.2.client 0).isMain := by
    decide +kernel
  obtain ⟨scene, root⟩ := Client.isMain_iff.mp main
  obtain ⟨uid, session, _, held, _⟩ := every.last 0 scene root
  rw [Client.shown, root] at shown
  rw [held beacon shown]
  exact session

end Lyv
