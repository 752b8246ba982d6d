import Lyv.App.Invariants

/-!
# Where the beacons on a device come from

A device holds beacons in its lists, in selections and in the form.  None of
them is made there: each was decoded from a listing, that is, from a record that
the server had at the beacon's key, or that the process saw there because it was
writing it.
-/

namespace Lyv

open Lyv.Library Lyv.Firebase

/-! ## What is held -/

def ProfileController.held (profile : ProfileController) : List Beacon :=
  profile.beacons ++ profile.selectedBeacon.toList

def Screen.held : Screen → List Beacon
  | .profile below => below.held
  | .update below form => below.held ++ form.beacon.toList
  | _ => []

def MainScene.held (scene : MainScene) : List Beacon := scene.home.beacons ++ scene.screen.held

/-- The form is open for a beacon. -/
def MainScene.Selected (scene : MainScene) : Prop :=
  ∀ profile form, scene.screen = .update profile form → form.beacon.isSome

namespace MainScene

variable {platform : Platform} {current : Except Trap (Nat × User)} {fresh : Nat} {scene : MainScene}
  {event : ScreenEvent} {reaction : Reaction}

/-- An event moves beacons between screens, and makes none. -/
theorem held_reacted (reacted : Reacted platform current fresh scene event reaction) :
    ∀ beacon ∈ reaction.scene.held, beacon ∈ scene.held := by
  intro beacon member
  cases reacted with
  | @switchPressed home screen switched =>
    simp only [held, HomeController.beacons_switchPressed switched] at member
    exact member
  | homeLocation _ | refused _ | create _ _ => exact member
  | leaveHome _ | exitToHome =>
    simp only [held, Screen.held, List.append_nil] at member
    exact List.mem_append_left _ member
  | profileButtonPressed _ prepared _ =>
    simp only [held, Screen.held, ProfileController.held, Option.toList_none, List.append_nil,
      List.mem_append] at member
    exact List.mem_append_left _ (member.elim id (HomeController.mem_of_prepare prepared beacon))
  | didSelectItemAt screen found =>
    simp only [held, Screen.held, ProfileController.held, UpdateController.beacon_setupUI, Option.toList_some,
      List.mem_append, List.mem_singleton] at member
    have selected := List.mem_of_getElem? found
    simp only [held, screen, Screen.held, ProfileController.held, List.mem_append]
    obtain home | (listed | rfl) | rfl := member
    · exact .inl home
    · exact .inr (.inl listed)
    · exact .inr (.inl selected)
    · exact .inr (.inl selected)
  | edit change screen =>
    simp only [held, Screen.held, UpdateController.beacon_edit] at member
    simpa only [held, screen, Screen.held] using member
  | updateLocation _ screen =>
    rw [held, screen]
    exact member
  | saved screen _ _ _ _ _ | removed screen _ _ | exitToProfile screen _ =>
    simp only [held, Screen.held, List.mem_append] at member
    simp only [held, screen, Screen.held, List.mem_append]
    exact member.imp_right .inl

theorem selected_reacted (selected : scene.Selected)
    (reacted : Reacted platform current fresh scene event reaction) : reaction.scene.Selected := by
  intro profile form shown
  cases reacted with
  | switchPressed _ _ | homeLocation _ | refused _ | create _ _ => exact selected profile form shown
  | leaveHome _ | exitToHome | profileButtonPressed _ _ _ | saved _ _ _ _ _ _ | removed _ _ _
  | exitToProfile _ _ => contradiction
  | didSelectItemAt _ _ =>
    cases shown
    rw [UpdateController.beacon_setupUI]
    rfl
  | edit change screen =>
    cases shown
    rw [UpdateController.beacon_edit]
    exact selected _ _ screen
  | updateLocation _ screen =>
    cases shown
    have before := selected _ _ screen
    exact before

/-- A fetched list replaces the profile's. -/
theorem held_profileLoaded (identifier : Nat) (beacons : List Beacon) :
    ∀ beacon ∈ (scene.profileLoaded identifier beacons).held, beacon ∈ scene.held ∨ beacon ∈ beacons := by
  intro beacon member
  unfold profileLoaded at member
  split at member
  next profile screen =>
    split at member
    · simp only [held, Screen.held, ProfileController.held, ProfileController.beaconsLoaded,
        List.mem_append] at member
      simp only [held, screen, Screen.held, ProfileController.held, List.mem_append]
      tauto
    · exact .inl member
  next profile form screen =>
    split at member
    · simp only [held, Screen.held, ProfileController.held, ProfileController.beaconsLoaded,
        List.mem_append] at member
      simp only [held, screen, Screen.held, ProfileController.held, List.mem_append]
      tauto
    · exact .inl member
  · exact .inl member

theorem selected_profileLoaded (selected : scene.Selected) (identifier : Nat) (beacons : List Beacon) :
    (scene.profileLoaded identifier beacons).Selected := by
  intro profile form shown
  unfold profileLoaded at shown
  split at shown
  · split at shown
    · contradiction
    · exact selected profile form shown
  next screen =>
    split at shown
    · cases shown
      exact selected _ _ screen
    · exact selected profile form shown
  · exact selected profile form shown

end MainScene

def Client.held (client : Client) : List Beacon :=
  match client.root with
  | .main scene => scene.held
  | _ => []

/-! ## What the form writes -/

/-- The completion of a write that a press on the form sends. -/
def Closure.ofForm : Closure → Bool
  | .noCompletion .updateBeacon | .noCompletion .removeBeacon | .updateUserValues _ => true
  | _ => false

/-- What a press writes: the beacon at the key of the form's beacon, and after an
update the current user. -/
inductive Pressed (scene : MainScene) (current : Except Trap (Nat × User)) : ScreenEvent → Op → Prop where
  | updateBeacon {profile : ProfileController} {form : UpdateController} {beacon : Beacon} {key : String}
      {enabled : Bool} {now : SwiftDouble} (value : Json) : scene.screen = .update profile form →
      form.beacon = some beacon → beacon.key = some key →
      Pressed scene current (.launchButtonPressed enabled now)
        { request := .setBeacon key value, closure := .noCompletion .updateBeacon }
  | updateUserValues {profile : ProfileController} {form : UpdateController} {enabled : Bool}
      {now : SwiftDouble} {reference : Nat} {user : User} : scene.screen = .update profile form →
      current = .ok (reference, user) →
      Pressed scene current (.launchButtonPressed enabled now) (UserService.updateUserValues reference user)
  | removeBeacon {profile : ProfileController} {form : UpdateController} {beacon : Beacon} {key : String} :
      scene.screen = .update profile form → form.beacon = some beacon → beacon.key = some key →
      Pressed scene current .removeButtonPressed
        { request := .removeBeacon key, closure := .noCompletion .removeBeacon }

namespace MainScene

variable {platform : Platform} {current : Except Trap (Nat × User)} {fresh : Nat} {scene : MainScene}
  {event : ScreenEvent} {reaction : Reaction}

theorem profileAppears_not_ofForm {profile : ProfileController} {sent : List Op}
    (appears : profileAppears current profile = .ok sent) : ∀ op ∈ sent, op.closure.ofForm = false := by
  unfold profileAppears at appears
  split at appears
  · obtain ⟨user, _, rest⟩ := bind_eq_ok.mp appears
    obtain rfl := pure_eq_ok.mp rest
    simp [UserService.getBeacons, Closure.ofForm]
  · obtain rfl := pure_eq_ok.mp appears
    simp

theorem pressed_of_removal {profile : ProfileController} {form : UpdateController} {removed : List Op}
    (screen : scene.screen = .update profile form) (taken : removal form = .ok removed) :
    ∀ op ∈ removed, Pressed scene current .removeButtonPressed op := by
  unfold removal at taken
  split at taken
  next beacon held =>
    obtain ⟨op, keyed, rfl⟩ := map_eq_ok.mp taken
    unfold BeaconService.removeBeacon at keyed
    split at keyed
    · contradiction
    next key key_eq =>
      obtain rfl := pure_eq_ok.mp keyed
      simp only [List.mem_singleton, forall_eq]
      exact .removeBeacon screen held key_eq
  · obtain rfl := pure_eq_ok.mp taken
    simp

theorem pressed_reacted (reacted : Reacted platform current fresh scene event reaction) :
    ∀ op ∈ reaction.sent, op.closure.ofForm → Pressed scene current event op := by
  intro op member ofForm
  cases reacted with
  | switchPressed _ _ | homeLocation _ | leaveHome _ | didSelectItemAt _ _ | edit _ _ | updateLocation _ _
  | refused _ => simp at member
  | exitToHome | create _ _ =>
    obtain rfl := List.mem_singleton.mp member
    contradiction
  | profileButtonPressed _ _ appears | exitToProfile _ appears =>
    simp [profileAppears_not_ofForm appears op member] at ofForm
  | saved screen signedIn _ _ keyed appears =>
    obtain rfl | member := List.mem_cons.mp member
    · obtain ⟨beacon, held, key⟩ := Option.bind_eq_some_iff.mp keyed
      exact .updateBeacon _ screen held key
    · obtain rfl | member := List.mem_cons.mp member
      · exact .updateUserValues screen signedIn
      · simp [profileAppears_not_ofForm appears op member] at ofForm
  | removed screen taken appears =>
    obtain member | member := List.mem_append.mp member
    · exact pressed_of_removal screen taken op member
    · simp [profileAppears_not_ofForm appears op member] at ofForm

end MainScene

theorem Follows.not_ofForm {closure : Closure} {response : Response} {op : Op}
    (follows : Follows closure response op) : op.closure.ofForm = false := by
  cases follows <;> rfl

/-- A write of the form comes from a press, unless it was in flight before. -/
theorem pressed_handle {platform : Platform} {client next : Client} {event : Event} {op : Op}
    (handled : client.handle platform event = some next) (member : op ∈ next.network)
    (ofForm : op.closure.ofForm) :
    op ∈ client.network ∨ (∃ former ∈ client.network, former.orphaned = some op) ∨
      ∃ scene screenEvent reaction, event = .screen screenEvent ∧ client.root = .main scene ∧
        scene.handle platform client.userCurrent client.fresh screenEvent = some (.ok reaction) ∧
        op ∈ reaction.sent ∧ Pressed scene client.userCurrent screenEvent op := by
  obtain before | orphaned | sent := Client.handle_network handled op member
  · exact .inl before
  · exact .inr (.inl orphaned)
  · cases sent with
    | beacons home => contradiction
    | tap _ tapped => cases tapped <;> contradiction
    | follow _ _ follows => simp [follows.not_ofForm] at ofForm
    | screen _ =>
      cases Client.handle_cases handled with
      | tap _ tapped => cases tapped
      | crash _ => exact .inr (.inl (List.mem_filterMap.mp member))
      | screen root reacted =>
        obtain before | sent := List.mem_append.mp member
        · exact .inl before
        · exact .inr (.inr ⟨_, _, _, rfl, root, reacted, sent,
            MainScene.pressed_reacted (MainScene.handle_reacted reacted) op sent ofForm⟩)

/-! ## Where it comes from -/

variable {devices : Nat} {platform : Platform} {starts : World devices → Prop}

/-- The servers that a run has passed through. -/
def passed (history : History (World devices) (Action devices)) (world : World devices) : List Server :=
  world.server :: history.map fun entry => entry.1.server

/-- The database as the server has it, and as the process on each device sees it. -/
def World.views (world : World devices) : List Server :=
  world.server :: (List.finRange devices).map world.view

/-- The views of the database in all states of a run. -/
def seen (history : History (World devices) (Action devices)) (world : World devices) : List Server :=
  world.views ++ history.flatMap fun entry => entry.1.views

/-- What the process on a device saw of the database in the states of a run. -/
def viewed (device : Fin devices) (history : History (World devices) (Action devices)) (world : World devices) :
    List Server := world.view device :: history.map fun entry => entry.1.view device

theorem World.view_mem_views (world : World devices) (device : Fin devices) : world.view device ∈ world.views :=
  List.mem_cons_of_mem _ (List.mem_map_of_mem (List.mem_finRange device))

/-- What holds of the server, and is kept by the writes under way, holds of every view. -/
theorem World.forall_views {world : World devices} (holds : Server → Prop) (server : holds world.server)
    (written : ∀ device, ∀ op ∈ (world.client device).network, op.orphan = false → op.response = none →
      ∀ current, holds current → holds (current.write op.request)) : ∀ view ∈ world.views, holds view := by
  intro view member
  obtain rfl | member := List.mem_cons.mp member
  · exact server
  · obtain ⟨device, _, rfl⟩ := List.mem_map.mp member
    exact Server.view_induction holds server fun current op member attended waiting =>
      written device op member attended waiting current

theorem mem_seen {history : History (World devices) (Action devices)} {world : World devices} {server : Server}
    (member : server ∈ world.views) : server ∈ seen history world := List.mem_append_left _ member

theorem mem_seen_cons {history : History (World devices) (Action devices)} {world next : World devices}
    {action : Action devices} {server : Server} :
    server ∈ seen ((world, action) :: history) next ↔ server ∈ next.views ∨ server ∈ seen history world := by
  simp [seen]

theorem viewed_subset_seen {device : Fin devices} {history : History (World devices) (Action devices)}
    {world : World devices} : viewed device history world ⊆ seen history world := by
  intro server member
  obtain rfl | member := List.mem_cons.mp member
  · exact mem_seen (world.view_mem_views device)
  · obtain ⟨entry, present, rfl⟩ := List.mem_map.mp member
    exact List.mem_append_right _ (List.mem_flatMap.mpr ⟨entry, present, entry.1.view_mem_views device⟩)

/-- The beacon was decoded from the record at its key, as one of the servers had it. -/
def DecodedIn (platform : Platform) (servers : List Server) (beacon : Beacon) : Prop :=
  ∃ key, beacon.key = some key ∧ ∃ server ∈ servers, server.beacon platform key = some beacon

theorem DecodedIn.mono {before after : List Server} {beacon : Beacon}
    (decoded : DecodedIn platform before beacon) (more : ∀ server ∈ before, server ∈ after) :
    DecodedIn platform after beacon := by
  obtain ⟨key, keyed, server, member, stored⟩ := decoded
  exact ⟨key, keyed, server, more server member, stored⟩

theorem decodedIn_of_mem_decode {servers : List Server} {server : Server} (member : server ∈ servers) :
    ∀ beacon ∈ BeaconService.decode platform server.beacons, DecodedIn platform servers beacon := by
  intro beacon listed
  obtain ⟨⟨key, node⟩, present, decoded⟩ := BeaconService.mem_decode.mp listed
  have found : server.beacons.lookup key = some node := Store.lookup_eq_some_iff.mpr present
  exact ⟨key, Beacon.ofSnapshot_key decoded, server, member, by simp [Server.beacon, found, decoded]⟩

/-- Every beacon on the device has an origin: those that are held, those in
listings that have been answered, and those that an update is writing. -/
structure Client.Traced (platform : Platform) (origin : Beacon → Prop) (client : Client) : Prop where
  held : ∀ beacon ∈ client.held, origin beacon
  selected : ∀ scene, client.root = .main scene → scene.Selected
  listed : ∀ op ∈ client.network, ∀ children, op.response = some (.listing children) →
    ∀ beacon ∈ BeaconService.decode platform children, origin beacon
  updates : ∀ op ∈ client.network, op.closure = .noCompletion .updateBeacon →
    ∃ key value beacon, op.request = .setBeacon key value ∧ beacon.key = some key ∧ origin beacon

theorem Follows.response_eq_none {closure : Closure} {response : Response} {op : Op}
    (follows : Follows closure response op) : op.response = none := by
  cases follows <;> rfl

theorem Sent.response_eq_none {client : Client} {event : Event} {op : Op} (sent : Sent client event op) :
    op.response = none := by
  cases sent with
  | beacons home => rfl
  | tap _ tapped => cases tapped <;> rfl
  | screen sent => cases sent <;> rfl
  | follow _ _ follows => exact follows.response_eq_none

namespace Client

variable {origin : Beacon → Prop} {client next : Client}

theorem Traced.mono {other : Beacon → Prop} (traced : client.Traced platform origin)
    (more : ∀ beacon, origin beacon → other beacon) : client.Traced platform other where
  held beacon member := more beacon (traced.held beacon member)
  selected := traced.selected
  listed op member children responded beacon present :=
    more beacon (traced.listed op member children responded beacon present)
  updates op member closure := by
    obtain ⟨key, value, beacon, request, keyed, known⟩ := traced.updates op member closure
    exact ⟨key, value, beacon, request, keyed, more beacon known⟩

theorem held_of_root {scene : MainScene} (root : client.root = .main scene) : client.held = scene.held := by
  simp [Client.held, root]

/-- A fetched list replaces that of the home screen. -/
theorem held_beaconsCompletion {home : Nat} {beacons : List Beacon} :
    ∀ beacon ∈ (client.beaconsCompletion platform home beacons).held, beacon ∈ client.held ∨ beacon ∈ beacons := by
  have offScreen : ∀ beacon ∈ (beaconsCompletion.offScreen platform home beacons client).held,
      beacon ∈ client.held := by
    unfold beaconsCompletion.offScreen
    split
    · simp [Client.held, die]
    · exact fun _ member => member
  intro beacon member
  unfold beaconsCompletion at member
  split at member
  next scene root =>
    split at member
    · split at member
      · simp [Client.held, die] at member
      next loaded =>
        have list := HomeController.beacons_beaconsLoaded loaded
        simp only [Client.held, MainScene.held, list, List.mem_append] at member
        rw [held_of_root root]
        exact member.symm.imp_left (List.mem_append_right _)
    · exact .inl (offScreen beacon member)
  · exact .inl (offScreen beacon member)

/-- What a completion leaves held was held before, or is in the listing it ran with. -/
theorem held_completion {inWindow : Bool} {closure : Closure} {response : Response}
    (outcome : Completion platform client inWindow closure response next) :
    ∀ beacon ∈ next.held, beacon ∈ client.held ∨
      ∃ children, response = .listing children ∧ beacon ∈ BeaconService.decode platform children := by
  intro beacon member
  cases outcome with
  | signIn _ _ | updateUserValues _ _ | follow _ _ | alert _ _ | nothing _ => exact .inl member
  | @enter _ scene _ user _ _ =>
    obtain ⟨_, _, entered⟩ | ⟨_, stayed⟩ := signedIn_cases client scene inWindow user
    · rw [entered] at member
      simp [Client.held, MainScene.held, Screen.held] at member
    · rw [stayed] at member
      exact .inl member
  | @getBeacons uid profile children =>
    obtain ⟨_, _, crashed⟩ | ⟨_, _, _, listed⟩ := getBeaconsCompletion_cases client profile platform children uid
    · rw [crashed] at member
      simp [Client.held, die] at member
    · rw [listed] at member
      cases root : client.root with
      | main scene =>
        simp only [Client.held, root, Root.profileLoaded] at member
        rw [held_of_root root]
        refine (MainScene.held_profileLoaded profile _ beacon member).imp_right fun fetched => ?_
        exact ⟨children, rfl, (List.mem_filter.mp fetched).1⟩
      | _ => simp [Client.held, root, Root.profileLoaded] at member
  | @beaconsLoaded home children =>
    exact (held_beaconsCompletion beacon member).imp_right fun fetched => ⟨children, rfl, fetched⟩

theorem held_handle {event : Event} (handled : client.handle platform event = some next) :
    ∀ beacon ∈ next.held, beacon ∈ client.held ∨ ∃ op ∈ client.network, ∃ children,
      op.response = some (.listing children) ∧ beacon ∈ BeaconService.decode platform children := by
  intro beacon member
  cases handle_cases handled with
  | launch _ =>
    obtain ⟨_, _, _, _, entered⟩ | ⟨_, shown⟩ := configureInitialRootViewController_cases client
    · rw [entered] at member
      simp [Client.held, MainScene.held, Screen.held] at member
    · rw [shown] at member
      simp [Client.held, enterLogin] at member
  | kill | crash _ => simp [Client.held, die] at member
  | logout _ => simp [Client.held, enterLogin] at member
  | tap _ _ | stay => exact .inl member
  | @screen _ scene reaction root reacted =>
    left
    rw [held_of_root root]
    exact MainScene.held_reacted (MainScene.handle_reacted reacted) beacon member
  | @deliver index inWindow op response found responded =>
    have outcome := complete_cases platform { client with network := client.network.eraseIdx index }
      inWindow op.closure response
    obtain before | ⟨children, rfl, fetched⟩ := held_completion outcome beacon member
    · exact .inl before
    · exact .inr ⟨op, List.mem_of_getElem? found, children, responded, fetched⟩

theorem selected_completion {inWindow : Bool} {closure : Closure} {response : Response}
    (selected : ∀ scene, client.root = .main scene → scene.Selected)
    (outcome : Completion platform client inWindow closure response next) :
    ∀ scene, next.root = .main scene → scene.Selected := by
  cases outcome with
  | signIn _ _ | updateUserValues _ _ | follow _ _ | alert _ _ | nothing _ => exact selected
  | @enter _ scene _ user _ _ =>
    obtain ⟨_, _, entered⟩ | ⟨_, stayed⟩ := signedIn_cases client scene inWindow user
    · rw [entered]
      rintro _ ⟨⟩ _ _ ⟨⟩
    · rw [stayed]
      exact selected
  | @getBeacons uid profile children =>
    obtain ⟨_, _, crashed⟩ | ⟨_, _, _, listed⟩ := getBeaconsCompletion_cases client profile platform children uid
    · rw [crashed]
      rintro _ ⟨⟩
    · rw [listed]
      intro scene shown
      cases root : client.root with
      | main before =>
        simp only [root, Root.profileLoaded, Root.main.injEq] at shown
        subst shown
        exact MainScene.selected_profileLoaded (selected before root) _ _
      | _ => simp [root, Root.profileLoaded] at shown
  | @beaconsLoaded home children =>
    obtain ⟨_, crashed⟩ | ⟨before, _, root, drawn⟩ | unseen :=
      beaconsCompletion_cases platform client home (BeaconService.decode platform children)
    · rw [crashed]
      rintro _ ⟨⟩
    · rw [drawn]
      rintro _ ⟨⟩ profile form screen
      exact selected before root profile form screen
    · rw [unseen]
      exact selected

theorem selected_handle {event : Event}
    (selected : ∀ scene, client.root = .main scene → scene.Selected)
    (handled : client.handle platform event = some next) :
    ∀ scene, next.root = .main scene → scene.Selected := by
  cases handle_cases handled with
  | launch _ =>
    obtain ⟨_, _, _, _, entered⟩ | ⟨_, shown⟩ := configureInitialRootViewController_cases client
    · rw [entered]
      rintro _ ⟨⟩ _ _ ⟨⟩
    · rw [shown]
      rintro _ ⟨⟩
  | kill | crash _ | logout _ => rintro _ ⟨⟩
  | tap _ _ | stay => exact selected
  | screen root reacted =>
    rintro _ ⟨⟩
    exact MainScene.selected_reacted (selected _ root) (MainScene.handle_reacted reacted)
  | @deliver index inWindow op response _ _ =>
    have outcome := complete_cases platform { client with network := client.network.eraseIdx index }
      inWindow op.closure response
    exact selected_completion (by exact selected) outcome

/-- An event brings no beacon to the device that was not on it. -/
theorem Traced.handle {event : Event} (traced : client.Traced platform origin)
    (handled : client.handle platform event = some next) : next.Traced platform origin where
  held beacon member := by
    obtain before | ⟨op, present, children, responded, fetched⟩ := held_handle handled beacon member
    · exact traced.held beacon before
    · exact traced.listed op present children responded beacon fetched
  selected := selected_handle traced.selected handled
  listed op member children responded := by
    obtain before | ⟨former, _, orphaned⟩ | sent := handle_network handled op member
    · exact traced.listed op before children responded
    · obtain ⟨_, waiting, rfl⟩ := Op.orphaned_eq_some.mp orphaned
      simp [waiting] at responded
    · simp [sent.response_eq_none] at responded
  updates op member closure := by
    obtain before | ⟨former, before, orphaned⟩ | ⟨scene, _, _, rfl, root, _, _, pressed⟩ :=
      pressed_handle handled member (by rw [closure]; rfl)
    · exact traced.updates op before closure
    · obtain ⟨_, _, rfl⟩ := Op.orphaned_eq_some.mp orphaned
      exact traced.updates former before closure
    · cases pressed with
      | @updateBeacon profile form beacon key _ _ value screen held keyed =>
        refine ⟨key, value, beacon, rfl, keyed, traced.held beacon ?_⟩
        rw [held_of_root root, MainScene.held, screen, Screen.held, held]
        simp
      | updateUserValues _ _ | removeBeacon _ _ _ => simp [UserService.updateUserValues] at closure

/-- An answer brings a listing of the server's beacons at most. -/
theorem Traced.answered (traced : client.Traced platform origin) {index : Nat} {op : Op}
    (found : client.network[index]? = some op) {response : Response}
    (listed : ∀ children, response = .listing children →
      ∀ beacon ∈ BeaconService.decode platform children, origin beacon) :
    (client.answered index op response).Traced platform origin where
  held := traced.held
  selected := traced.selected
  listed other member children responded := by
    obtain before | ⟨_, rfl⟩ := mem_of_mem_answered member
    · exact traced.listed other before children responded
    · exact listed children (Option.some.inj responded)
  updates other member closure := by
    obtain before | ⟨_, rfl⟩ := mem_of_mem_answered member
    · exact traced.updates other before closure
    · exact traced.updates op (List.mem_of_getElem? found) closure

end Client

/-- Every beacon on a device was decoded from a record that the device saw. -/
def World.Traced (platform : Platform) (history : History (World devices) (Action devices))
    (world : World devices) : Prop :=
  ∀ device, (world.client device).Traced platform (DecodedIn platform (viewed device history world))

theorem World.Traced.of_idle {world : World devices} (idle : Idle world)
    (history : History (World devices) (Action devices)) : world.Traced platform history := by
  intro device
  rw [idle device]
  refine ⟨?_, ?_, ?_, ?_⟩ <;> simp [Client.held]

theorem World.Traced.step {history : History (World devices) (Action devices)} {world next : World devices}
    {action : Action devices} (traced : world.Traced platform history)
    (taken : (app platform starts).step world action = some next) :
    next.Traced platform ((world, action) :: history) := by
  intro device
  have kept : (world.client device).Traced platform
      (DecodedIn platform (viewed device ((world, action) :: history) next)) :=
    (traced device).mono fun beacon decoded => decoded.mono fun server member => List.mem_cons_of_mem _ member
  obtain same | ⟨event, _, handled⟩ | ⟨index, outcome, op, response, server, _, found, _, answered, next_eq⟩ :=
    client_cases taken device
  · rw [same]
    exact kept
  · exact kept.handle handled
  · rw [next_eq]
    refine kept.answered found ?_
    rintro children rfl
    generalize op.request = request at answered
    cases Server.answer_cases answered
    exact decodedIn_of_mem_decode (List.mem_cons_of_mem _ List.mem_cons_self)

end Lyv
