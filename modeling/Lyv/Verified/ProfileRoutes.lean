import Lyv.App.Steps

/-!
# The two routes to the profile

The home screen hands over what it filters from its own list, and the profile
fetches the listing when that leaves it empty.  Both filter the same listing, but
only the completion of the fetch also sets the keys of the session.
-/

namespace Lyv

open Lyv.Library Lyv.Firebase

variable {devices : Nat}

/-- The list of the profile that is shown, and the keys of the session. -/
def Client.profile (client : Client) : Option (List Beacon × List String) :=
  match client.root with
  | .main { screen := .profile profile, .. } =>
    client.currentUser.map fun user => (profile.beacons, user.beacons)
  | _ => none

namespace World

/-- The home screen is shown on a device, with a list of beacons. -/
def homeWith (world : World devices) (device : Fin devices) (home : HomeController)
    (beacons : List Beacon) : World devices :=
  world.setClient device { world.client device with
    root := .main { home := { home with beacons := beacons } } }

/-- The profile button is pressed; a fetch that this sends is answered, and its completion runs. -/
def openProfile (platform : Platform) (world : World devices) (device : Fin devices) :
    Option (World devices) := do
  let index := (world.client device).network.length
  let opened ← world.step platform (.event device (.screen .profileButtonPressed))
  if (opened.client device).network.length = index then return opened
  else do
    let answered ← opened.step platform (.answer device index .success)
    answered.step platform (.event device (.deliver index true))

end World

/-- The keys of the children that are beacons of the user, the latest first. -/
def ownKeys (platform : Platform) (children : Store String Node) (uid : String) : List String :=
  (children.entries.reverse.filter fun child =>
    (Beacon.ofSnapshot platform ⟨child.1, child.2⟩).any fun beacon => beacon.uid = uid).map Prod.fst

/-- From a home screen that has loaded the listing, and from one with an earlier
list, the profile gets the same beacons, and the session their keys. -/
def RoutesAgree (platform : Platform) (world : World devices) (device : Fin devices)
    (home : HomeController) (earlier : List Beacon) : Prop :=
  ∃ beacons keys, UserService.keys beacons = .ok keys ∧
    ∀ list ∈ [BeaconService.decode platform (world.view device).beacons, earlier],
      ((world.homeWith device home list).openProfile platform device).bind
        (fun after => (after.client device).profile) = some (beacons, keys)

namespace UserService

variable {platform : Platform} {children : Store String Node} {uid : String}

theorem filterMap_key_beaconsOf :
    (beaconsOf platform children uid).filterMap Beacon.key = ownKeys platform children uid := by
  unfold beaconsOf BeaconService.decode ownKeys
  induction children.entries.reverse with
  | nil => rfl
  | cons child entries inductionHypothesis =>
    cases decoded : Beacon.ofSnapshot platform ⟨child.1, child.2⟩ with
    | none => simpa [decoded] using inductionHypothesis
    | some beacon =>
      have key := Beacon.ofSnapshot_key decoded
      by_cases owner : beacon.uid = uid
      · simpa [decoded, owner, key] using inductionHypothesis
      · simpa [decoded, owner] using inductionHypothesis

theorem beaconsOf_eq_nil :
    beaconsOf platform children uid = [] ↔ ownKeys platform children uid = [] := by
  rw [← filterMap_key_beaconsOf, List.filterMap_eq_nil_iff]
  constructor
  · intro none
    simp [none]
  · intro keyless
    rw [List.eq_nil_iff_forall_not_mem]
    intro beacon member
    obtain ⟨key, keyed⟩ := BeaconService.key_of_mem_decode (List.mem_filter.mp member).1
    simp [keyless beacon member] at keyed

end UserService

/-! ## Opening the profile -/

section

variable {client : Client} {home : HomeController} {reference : Nat} {user : User}

/-- The profile comes up with the user's beacons of the home list, and fetches them when there are none. -/
theorem handle_profileButtonPressed (platform : Platform) (root : client.root = .main { home := home })
    (signedIn : client.userCurrent = .ok (reference, user)) :
    client.handle platform (.screen .profileButtonPressed) = some (client.react {
      scene := { home := home, screen := .profile {
        identifier := client.fresh
        beacons := home.beacons.filter fun beacon => beacon.uid = user.uid } }
      sent := if (home.beacons.filter fun beacon => beacon.uid = user.uid) = [] then
        [UserService.getBeacons user.uid client.fresh] else [] }) := by
  have prepared := home.prepare_eq user.uid
  by_cases none : (home.beacons.filter fun beacon => beacon.uid = user.uid) = []
  · simp only [Client.handle, Client.screen, root, MainScene.handle, MainScene.profileButtonPressed,
      signedIn, Except.map, prepared, MainScene.profileAppears, ProfileController.loads, bind, Except.bind,
      pure, Except.pure, Option.map_some, none, List.length_nil, decide_true, if_true]
  · simp only [Client.handle, Client.screen, root, MainScene.handle, MainScene.profileButtonPressed,
      signedIn, Except.map, prepared, MainScene.profileAppears, ProfileController.loads, bind, Except.bind,
      pure, Except.pure, Option.map_some, none, List.length_eq_zero_iff, decide_false, if_false,
      Bool.false_eq_true]

/-- What the completion of the profile's fetch leaves on the screen and in the session. -/
theorem profile_getBeacons (platform : Platform) {profile : ProfileController}
    (root : client.root = .main { home := home, screen := .profile profile })
    (signedIn : client.userCurrent = .ok (reference, user)) (children : Store String Node) :
    (client.getBeaconsCompletion profile.identifier
      (UserService.beaconsOf platform children user.uid)).profile =
      some (UserService.beaconsOf platform children user.uid,
        (UserService.beaconsOf platform children user.uid).filterMap Beacon.key) := by
  obtain ⟨current, stored⟩ := Client.userCurrent_eq_ok.mp signedIn
  obtain ⟨bound, _⟩ := List.getElem?_eq_some_iff.mp stored
  simp [Client.getBeaconsCompletion, signedIn, Client.profile, Client.currentUser, current, bound, root,
    Root.profileLoaded, MainScene.profileLoaded, ProfileController.beaconsLoaded]

end

/-- The operation that was sent last is answered, and its completion runs. -/
theorem answer_deliver (platform : Platform) (world : World devices) {device : Fin devices}
    {before : List Op} {op : Op} {response : Response} {server : Server}
    (last : (world.client device).network = before ++ [op]) (waiting : op.response = none)
    (waits : op.orphan = false)
    (answered : world.server.answer (world.view device) op.request .success = some (response, server)) :
    ((world.step platform (.answer device before.length .success)).bind fun next =>
      next.step platform (.event device (.deliver before.length true))) =
      some { world.setClient device
          (({ world.client device with network := before } : Client).complete platform true op.closure
            response) with server := server } := by
  have pending : world.pending device before.length = some op := by
    simp [World.pending, last, waiting]
  have taken : world.step platform (.answer device before.length .success) =
      some { world.setClient device ((world.client device).answered before.length op response) with
        server := server } := by
    simp [World.step, pending, answered]
  have network : ((world.client device).answered before.length op response).network =
      before ++ [{ op with response := some response }] := by
    simp [Client.answered, waits, last]
  have erased : (before ++ [{ op with response := some response }]).eraseIdx before.length = before := by
    simp [List.eraseIdx_append_of_length_le]
  rw [taken, Option.bind_some]
  simp only [World.step, Client.handle, Client.deliver, World.setClient_client_self, network,
    List.getElem?_concat_length, Option.bind_eq_bind, Option.bind_some, erased, Option.pure_def,
    Option.map_some]
  simp [Client.answered, World.setClient]

section

variable {platform : Platform} {world : World devices} {device : Fin devices} {home : HomeController}
  {reference : Nat} {user : User}

/-- The home list has beacons of the user, and they are handed over. -/
theorem openProfile_listed (root : (world.client device).root = .main { home := home })
    (signedIn : (world.client device).userCurrent = .ok (reference, user))
    (listed : (home.beacons.filter fun beacon => beacon.uid = user.uid) ≠ []) :
    (world.openProfile platform device).bind (fun after => (after.client device).profile) =
      some (home.beacons.filter fun beacon => beacon.uid = user.uid, user.beacons) := by
  have pressed := handle_profileButtonPressed platform root signedIn
  rw [if_neg listed] at pressed
  have session := Client.currentUser_eq_some.mpr ⟨reference, signedIn⟩
  simp only [World.openProfile, World.step, pressed, Option.map_some, Option.bind_eq_bind, Option.bind_some,
    World.setClient_client_self, Client.react, List.append_nil, if_true, Option.pure_def, Client.profile]
  exact congrArg (Option.map fun user => (_, user.beacons)) session

/-- The home list has none, and the profile fetches them. -/
theorem openProfile_fetched (root : (world.client device).root = .main { home := home })
    (signedIn : (world.client device).userCurrent = .ok (reference, user))
    (unlisted : (home.beacons.filter fun beacon => beacon.uid = user.uid) = []) :
    (world.openProfile platform device).bind (fun after => (after.client device).profile) =
      some (UserService.beaconsOf platform (world.view device).beacons user.uid,
        (UserService.beaconsOf platform (world.view device).beacons user.uid).filterMap Beacon.key) := by
  have pressed := handle_profileButtonPressed platform root signedIn
  rw [if_pos unlisted] at pressed
  set opened := (world.client device).react {
    scene := { home := home, screen := .profile {
      identifier := (world.client device).fresh
      beacons := home.beacons.filter fun beacon => beacon.uid = user.uid } }
    sent := [UserService.getBeacons user.uid (world.client device).fresh] } with opened_eq
  have network : ((world.setClient device opened).client device).network =
      (world.client device).network ++ [UserService.getBeacons user.uid (world.client device).fresh] := by
    rw [World.setClient_client_self, opened_eq]
    rfl
  -- the fetch is a read, so the device sees what it saw
  have seen : (world.setClient device opened).view device = world.view device := by
    rw [World.view_setClient_self]
    exact Server.view_send _ _ _ _
  have delivered := answer_deliver platform (world.setClient device opened) network rfl rfl rfl
  rw [seen] at delivered
  have sent : (opened.network.length = (world.client device).network.length) = False := by
    simp [opened_eq, Client.react]
  have taken : world.step platform (.event device (.screen .profileButtonPressed)) =
      some (world.setClient device opened) := by
    rw [World.step, pressed, Option.map_some]
  simp only [World.openProfile, taken, Option.bind_eq_bind, Option.bind_some, World.setClient_client_self,
    sent, if_false, delivered]
  have session : ({ opened with network := (world.client device).network } : Client).userCurrent =
      .ok (reference, user) := signedIn
  exact profile_getBeacons platform rfl session (world.view device).beacons

/-- From either list the profile gets the user's beacons, but only a fetch gives the session their keys. -/
theorem profile_homeWith (signedIn : (world.client device).currentUser = some user) (list : List Beacon) :
    ((world.homeWith device home list).openProfile platform device).bind
        (fun after => (after.client device).profile) =
      some (if (list.filter fun beacon => beacon.uid = user.uid) = [] then
        (UserService.beaconsOf platform (world.view device).beacons user.uid,
          (UserService.beaconsOf platform (world.view device).beacons user.uid).filterMap Beacon.key)
      else (list.filter fun beacon => beacon.uid = user.uid, user.beacons)) := by
  obtain ⟨reference, current⟩ := Client.currentUser_eq_some.mp signedIn
  have shown : (world.homeWith device home list).client device = { world.client device with
      root := .main { home := { home with beacons := list } } } := World.setClient_client_self _ _ _
  have root : ((world.homeWith device home list).client device).root =
      .main { home := { home with beacons := list } } := by rw [shown]
  have current : ((world.homeWith device home list).client device).userCurrent = .ok (reference, user) := by
    rw [shown]
    exact current
  have seen : (world.homeWith device home list).view device = world.view device :=
    World.view_setClient_self _ _ _
  split
  next unlisted => exact seen ▸ openProfile_fetched root current unlisted
  next listed => exact openProfile_listed root current listed

/-- The routes agree if and only if the user has no beacon, or the session has
the keys of the user's beacons already. -/
theorem routes_agree_iff (signedIn : (world.client device).currentUser = some user)
    {earlier : List Beacon} (unlisted : ∀ beacon ∈ earlier, beacon.uid ≠ user.uid) :
    RoutesAgree platform world device home earlier ↔
      ownKeys platform (world.view device).beacons user.uid = [] ∨
        user.beacons = ownKeys platform (world.view device).beacons user.uid := by
  have none : (earlier.filter fun beacon => beacon.uid = user.uid) = [] := by
    simpa [List.filter_eq_nil_iff] using unlisted
  have loaded : ((BeaconService.decode platform (world.view device).beacons).filter fun beacon =>
      beacon.uid = user.uid) = UserService.beaconsOf platform (world.view device).beacons user.uid := rfl
  have keyed := UserService.keys_beaconsOf platform (world.view device).beacons user.uid
  simp only [RoutesAgree, List.forall_mem_cons, List.not_mem_nil, false_implies, implies_true, and_true,
    profile_homeWith signedIn, none, loaded, if_true, Option.some.injEq]
  rw [← UserService.beaconsOf_eq_nil, ← UserService.filterMap_key_beaconsOf]
  set own := UserService.beaconsOf platform (world.view device).beacons user.uid
  by_cases empty : own = []
  · simp only [empty, if_true, true_or, iff_true]
    exact ⟨[], [], rfl, rfl, rfl⟩
  · simp only [empty, if_false, false_or, Prod.mk.injEq]
    constructor
    · rintro ⟨_, _, _, ⟨rfl, rfl⟩, _, same⟩
      exact same.symm
    · intro same
      exact ⟨own, own.filterMap Beacon.key, keyed, ⟨rfl, same⟩, rfl, rfl⟩

end

/-! ## Where the routes part -/

theorem annLogsIn_withBeacon :
    ((app .sample Idle).replay [] (World.installed .withBeacon) annLogsIn).isSome := by
  decide +kernel

/-- Ann has logged in, and a beacon of hers is stored that her record does not list. -/
def World.annAtHome : World 1 :=
  ((app .sample Idle).reached (World.installed .withBeacon) annLogsIn annLogsIn_withBeacon).2

theorem currentUser_annAtHome :
    (World.annAtHome.client 0).currentUser = some { uid := "ann", username := "Ann" } := by
  decide +kernel

/-- Ann logs in beside Bob's beacon and opens her profile, which lists both of hers. -/
theorem annOpensProfile_crowded :
    ((app .sample Idle).replay [] (World.installed .crowded) annOpensProfile).isSome := by
  decide +kernel

def World.annReloaded : World 1 :=
  ((app .sample Idle).reached (World.installed .crowded) annOpensProfile annOpensProfile_crowded).2

/-- The session lists her beacons already, so it does after both routes; the earlier
list of the home screen has Bob's beacon alone. -/
theorem annReloaded_routes_agree :
    ownKeys .sample (World.annReloaded.view 0).beacons "ann" = ["lantern", "campfire"] ∧
      RoutesAgree .sample .annReloaded 0 { identifier := 1 }
        [{ Beacon.sample with uid := "bob", key := some "torch" }] := by
  have signedIn : (World.annReloaded.client 0).currentUser =
      some { uid := "ann", username := "Ann", beacons := ["lantern", "campfire"] } := by
    decide +kernel
  have own : ownKeys .sample (World.annReloaded.view 0).beacons "ann" = ["lantern", "campfire"] := by
    decide +kernel
  exact ⟨own, (routes_agree_iff signedIn (by simp)).mpr (.inr own.symm)⟩

/-- Her profile has the beacon on both routes, but after one of them the session does not list it. -/
theorem routes_not_always_agree :
    ¬ ∀ (platform : Platform) (world : World 1) (home : HomeController) (user : User)
      (earlier : List Beacon), (world.client 0).currentUser = some user →
      (∀ beacon ∈ earlier, beacon.uid ≠ user.uid) → RoutesAgree platform world 0 home earlier := by
  intro always
  obtain ⟨beacons, keys, keyed, agree⟩ :=
    always .sample .annAtHome { identifier := 1 } _ [] currentUser_annAtHome (by simp)
  have listed : ((BeaconService.decode .sample (World.annAtHome.view 0).beacons).filter fun beacon =>
      beacon.uid = "ann") = [{ Beacon.sample with key := some "campfire" }] := by
    decide +kernel
  have loaded := agree _ List.mem_cons_self
  rw [profile_homeWith currentUser_annAtHome, listed, if_neg (List.cons_ne_nil _ _)] at loaded
  obtain ⟨rfl, rfl⟩ := Prod.mk.inj (Option.some.inj loaded)
  exact absurd (Except.ok.inj keyed) (by decide)

end Lyv
