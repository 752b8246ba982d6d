import Lyv.App.UnderWay

/-!
# The owner index

Whose a beacon is, is stored twice: in the `uid` of each beacon and in the list
at `users/<uid>/beacons`.  An update writes the list that is in memory along
with the beacon; a removal leaves the list alone.  The list stays exact as long
as every update is pressed with the right keys in memory, and no listed beacon
is removed.
-/

namespace Lyv

open Lyv.Library Lyv.Firebase

/-- The `uid` of a stored beacon. -/
def ownerOf (node : Node) : Option String :=
  (node.val.asDictionary.bind fun dict => dict.lookup "uid").bind Json.asString

/-- The list of a stored user. -/
def keysIn (node : Node) : List String :=
  ((node.val.asDictionary.bind fun dict => dict.lookup "beacons").bind Json.asStrings).getD []

@[simp] theorem ownerOf_dictValue (beacon : Beacon) : ownerOf (nodeFrom beacon.dictValue) = some beacon.uid := by
  have uid : (nodeFrom beacon.dictValue).child "uid" = some (.string beacon.uid) :=
    child_nodeFrom beacon.nodup_fields "uid"
  obtain ⟨dict, asDictionary⟩ := asDictionary_of_child uid (by decide)
  simp only [ownerOf, asDictionary, Option.bind_some, lookup_asDictionary asDictionary, uid, Json.asString]

theorem keysIn_of_ofSnapshot {snapshot : DataSnapshot} {user : User}
    (decoded : User.ofSnapshot snapshot = some user) : keysIn snapshot.node = user.beacons := by
  simp only [User.ofSnapshot, Option.bind_eq_bind, Option.bind_eq_some_iff, Option.pure_def,
    Option.some.injEq] at decoded
  obtain ⟨dict, asDictionary, _, _, rfl⟩ := decoded
  have asDictionary : snapshot.node.val.asDictionary = some dict := asDictionary
  simp [keysIn, asDictionary]

@[simp] theorem keysIn_dictValue (user : User) : keysIn (nodeFrom user.dictValue) = user.beacons :=
  keysIn_of_ofSnapshot (User.ofSnapshot_dictValue user)

namespace Server

/-- The list at `users/<uid>/beacons`. -/
def index (server : Server) (uid : String) : List String := keysIn (server.snapshotOfUser uid).node

/-- The keys of the beacons whose `uid` is the user's. -/
def keysOf (server : Server) (uid : String) : List String :=
  (server.beacons.entries.filter fun child => ownerOf child.2 == some uid).map Prod.fst

theorem mem_keysOf {server : Server} {uid key : String} :
    key ∈ server.keysOf uid ↔ ∃ node, server.beacons.lookup key = some node ∧ ownerOf node = some uid := by
  simp only [keysOf, List.mem_map, List.mem_filter, beq_iff_eq, Prod.exists, exists_and_right,
    exists_eq_right, Store.lookup_eq_some_iff]

theorem mem_keysOf_setBeacon {server : Server} {written key : String} {beacon : Beacon} :
    key ∈ ({ server with beacons := setChild server.beacons written beacon.dictValue } : Server).keysOf
        beacon.uid ↔ key = written ∨ key ∈ server.keysOf beacon.uid := by
  simp only [mem_keysOf, lookup_setChild, Beacon.isEmpty_nodeFrom_dictValue]
  by_cases same : key = written <;> simp [same]

@[simp] theorem index_beacons (server : Server) (beacons : Store String Node) (uid : String) :
    ({ server with beacons := beacons } : Server).index uid = server.index uid := rfl

@[simp] theorem keysOf_users (server : Server) (users : Store String Node) (uid : String) :
    ({ server with users := users } : Server).keysOf uid = server.keysOf uid := rfl

theorem mem_keysOf_removeBeacon {server : Server} {uid removed key : String} :
    key ∈ ({ server with beacons := server.beacons.erase removed } : Server).keysOf uid ↔
      key ≠ removed ∧ key ∈ server.keysOf uid := by
  simp only [mem_keysOf]
  by_cases same : key = removed
  · simp [same]
  · simp [same, Store.lookup_erase_of_ne]

theorem index_setUser (server : Server) (written uid : String) (value : Json) :
    ({ server with users := setChild server.users written value } : Server).index uid =
      if uid = written then keysIn (nodeFrom value) else server.index uid := by
  unfold index
  rw [snapshotOfUser_setUser]
  split <;> rfl

end Server

/-- Two lists have the same keys in them. -/
def SameKeys (first second : List String) : Prop := ∀ key, key ∈ first ↔ key ∈ second

instance (first second : List String) : Decidable (SameKeys first second) :=
  decidable_of_iff ((∀ key ∈ first, key ∈ second) ∧ ∀ key ∈ second, key ∈ first)
    ⟨fun both key => ⟨both.1 key, both.2 key⟩,
      fun same => ⟨fun key => (same key).mp, fun key => (same key).mpr⟩⟩

/-! ## Writes under way -/

/-- The key of a beacon that is still being written. -/
def Op.saves (op : Op) : Option String :=
  match op.request, op.response with
  | .setBeacon key _, none => some key
  | _, _ => none

theorem Op.saves_eq_some {op : Op} {key : String} :
    op.saves = some key ↔ (∃ value, op.request = .setBeacon key value) ∧ op.response = none := by
  obtain ⟨request, closure, response, orphan⟩ := op
  cases request <;> cases response <;> simp [Op.saves]

/-- The keys of the beacons that are being written. -/
def saving (network : List Op) : List String := network.filterMap Op.saves

theorem mem_saving {network : List Op} {key : String} :
    key ∈ saving network ↔ ∃ value closure, UnderWay network (.setBeacon key value) closure := by
  simp only [saving, List.mem_filterMap, Op.saves_eq_some]
  constructor
  · rintro ⟨op, member, ⟨value, request⟩, waiting⟩
    exact ⟨value, op.closure, op, member, request, rfl, waiting⟩
  · rintro ⟨value, _, op, member, request, _, waiting⟩
    exact ⟨op, member, ⟨value, request⟩, waiting⟩

theorem exists_update_iff {network : List Op} {uid : String} {value : Json} :
    (∃ op ∈ network, op.update uid = some value) ↔
      ∃ reference, UnderWay network (.setUser uid value) (.updateUserValues reference) := by
  simp only [Op.update_eq_some]
  constructor
  · rintro ⟨op, member, request, updates, waiting⟩
    cases closure : op.closure with
    | updateUserValues reference => exact ⟨reference, op, member, request, closure, waiting⟩
    | _ => simp [closure, Closure.updates] at updates
  · rintro ⟨reference, op, member, request, closure, waiting⟩
    exact ⟨op, member, request, by simp [closure, Closure.updates], waiting⟩

theorem updating_iff {network : List Op} {uid : String} :
    updating network uid ↔
      ∃ value reference, UnderWay network (.setUser uid value) (.updateUserValues reference) := by
  simp only [← exists_update_iff, updating, List.any_eq_true, Option.isSome_iff_exists]
  exact ⟨fun ⟨op, member, value, under⟩ => ⟨value, op, member, under⟩,
    fun ⟨value, op, member, under⟩ => ⟨op, member, value, under⟩⟩

theorem SameWrites.mem_saving {before after : List Op} (same : SameWrites before after) {key : String} :
    key ∈ saving after ↔ key ∈ saving before := by
  rw [Lyv.mem_saving, Lyv.mem_saving]
  exact exists_congr fun value => exists_congr fun closure => same _ closure rfl

theorem mem_saving_answered {client : Client} {index : Nat} {op : Op} (response : Response)
    (found : client.network[index]? = some op) (waiting : op.response = none) (key : String) :
    key ∈ saving client.network ↔ (∃ value, op.request = .setBeacon key value) ∨
      key ∈ saving (client.answered index op response).network := by
  simp only [mem_saving, underWay_answered response found waiting, exists_or, exists_and_left,
    exists_eq', and_true]

/-! ## The profile, update and remove flows -/

/-- The event stays on the home, profile and update screens. -/
def ScreenEvent.inProfileFlows : ScreenEvent → Bool
  | .leaveHome | .create _ _ => false
  | _ => true

def Event.inProfileFlows : Event → Bool
  | .screen event => event.inProfileFlows
  | .deliver _ _ => true
  | _ => false

namespace Client

/-- The key of the beacon that a press of the launch button writes. -/
def savesKey (client : Client) (enabled : Bool) : Option String :=
  match client.root with
  | .main { screen := .update _ form, .. } =>
    if form.nameTextField = "" ∨ !enabled then none else form.beacon.bind Beacon.key
  | _ => none

/-- A client that is signed in as the user, with no sign-in under way. -/
structure Profiled (uid : String) (client : Client) : Prop where
  objects : ∀ user ∈ client.objects, user.uid = uid
  scenes : ∀ op ∈ client.network, op.closure.scene = none
  saves : ∀ op ∈ client.network, ∀ key value, op.request = .setBeacon key value →
    ∃ beacon : Beacon, value = beacon.dictValue ∧ beacon.uid = uid

/-- What an event of the flows adds to the writes under way. -/
inductive Proceeds (client : Client) : Event → Client → Prop where
  | quiet {event : Event} {next : Client} : SameWrites client.network next.network →
      Proceeds client event next
  | saves {enabled : Bool} {now : SwiftDouble} {next : Client} {key : String} {reference : Nat}
      {user : User} {value : Json} :
      client.savesKey enabled = some key → client.userCurrent = .ok (reference, user) →
      (∀ request closure, request.sets → (UnderWay next.network request closure ↔
        UnderWay client.network request closure ∨
          (.setBeacon key value = request ∧ .noCompletion .updateBeacon = closure) ∨
          (.setUser user.uid user.dictValue = request ∧ .updateUserValues reference = closure))) →
      Proceeds client (.screen (.launchButtonPressed enabled now)) next

theorem Profiled.uid_of_current {uid : String} {client : Client} (profiled : client.Profiled uid)
    {reference : Nat} {user : User} (current : client.userCurrent = .ok (reference, user)) : user.uid = uid :=
  profiled.objects user (List.mem_of_getElem? (userCurrent_eq_ok.mp current).2)

end Client

theorem Follows.scene_ne_none {closure : Closure} {response : Response} {op : Op}
    (follows : Follows closure response op) : closure.scene ≠ none := by
  cases follows <;> simp [Closure.scene]

namespace Client

variable {platform : Platform} {uid : String}

theorem profiled_network {client next : Client} {event : Event} (profiled : client.Profiled uid)
    (flows : event.inProfileFlows) (handled : client.handle platform event = some next) :
    ∀ op ∈ next.network, op.closure.scene = none ∧ ∀ key value, op.request = .setBeacon key value →
      ∃ beacon : Beacon, value = beacon.dictValue ∧ beacon.uid = uid := by
  intro op member
  obtain present | ⟨former, present, orphaned⟩ | sent := handle_network handled op member
  · exact ⟨profiled.scenes op present, profiled.saves op present⟩
  · obtain ⟨_, _, rfl⟩ := Op.orphaned_eq_some.mp orphaned
    exact ⟨profiled.scenes former present, profiled.saves former present⟩
  · cases sent with
    | beacons home => exact ⟨rfl, by simp [BeaconService.beacons]⟩
    | tap _ tapped => cases tapped <;> simp [Event.inProfileFlows] at flows
    | follow found _ follows =>
      exact absurd (profiled.scenes _ (List.mem_of_getElem? found)) follows.scene_ne_none
    | screen sent =>
      refine ⟨sent.scene_eq_none, fun key value request => ?_⟩
      cases sent with
      | create _ _ => simp [Event.inProfileFlows, ScreenEvent.inProfileFlows] at flows
      | @updateBeacon _ _ _ user beacon _ current owner =>
        cases request
        exact ⟨beacon, rfl, owner.trans (profiled.uid_of_current current)⟩
      | beacons _ | getBeacons _ _ | removeBeacon _ | updateUserValues _ => cases request

/-- A completion that is not part of a sign-in. -/
theorem profiled_completion (client : Client) {next : Client} {inWindow : Bool} {closure : Closure}
    {response : Response} (objects : ∀ user ∈ client.objects, user.uid = uid) (scene : closure.scene = none)
    (outcome : Completion platform client inWindow closure response next) :
    (∀ user ∈ next.objects, user.uid = uid) ∧ SameWrites client.network next.network := by
  cases outcome with
  | signIn _ follows => exact absurd scene follows.scene_ne_none
  | follow _ follows => exact absurd scene follows.scene_ne_none
  | enter enters _ => simp [(Closure.scene_of_enters enters).1] at scene
  | updateUserValues _ _ | alert _ _ | nothing _ => exact ⟨objects, .refl _⟩
  | @getBeacons fetched profile children =>
    obtain ⟨trap, _, crashed⟩ | ⟨reference, user, current, listed⟩ :=
      getBeaconsCompletion_cases client profile platform children fetched
    · rw [crashed]
      exact ⟨by simp [die], .die client _⟩
    · rw [listed]
      refine ⟨fun other member => ?_, .refl _⟩
      obtain member | rfl := List.mem_or_eq_of_mem_set member
      · exact objects other member
      · exact objects user (List.mem_of_getElem? (userCurrent_eq_ok.mp current).2)
  | @beaconsLoaded home children =>
    obtain ⟨trap, crashed⟩ | ⟨_, _, _, drawn⟩ | unseen :=
      beaconsCompletion_cases platform client home (BeaconService.decode platform children)
    · rw [crashed]
      exact ⟨by simp [die], .die client _⟩
    · rw [drawn]
      exact ⟨objects, .refl _⟩
    · rw [unseen]
      exact ⟨objects, .refl _⟩

theorem profiled_handle {client next : Client} {event : Event} (profiled : client.Profiled uid)
    (flows : event.inProfileFlows) (handled : client.handle platform event = some next) :
    next.Profiled uid ∧ client.Proceeds event next := by
  have network := profiled_network profiled flows handled
  suffices outcome : (∀ user ∈ next.objects, user.uid = uid) ∧ client.Proceeds event next from
    ⟨⟨outcome.1, fun op member => (network op member).1, fun op member => (network op member).2⟩, outcome.2⟩
  cases handle_cases handled with
  | launch _ | kill _ | logout _ | stay => simp [Event.inProfileFlows] at flows
  | tap _ tapped => cases tapped <;> simp [Event.inProfileFlows] at flows
  | crash _ => exact ⟨by simp [die], .quiet (.die client _)⟩
  | @deliver index inWindow op response found responded =>
    have completed := profiled_completion { client with network := client.network.eraseIdx index }
      profiled.objects (profiled.scenes op (List.mem_of_getElem? found))
      (complete_cases platform _ inWindow op.closure response)
    exact ⟨completed.1, .quiet (.trans (.eraseIdx found responded) completed.2)⟩
  | @screen event scene reaction root reacted =>
    refine ⟨profiled.objects, ?_⟩
    by_cases press : ∃ enabled now, event = .launchButtonPressed enabled now
    · -- the two writes of a save, or an alert and nothing sent
      obtain ⟨enabled, now, rfl⟩ := press
      simp only [MainScene.handle] at reacted
      split at reacted
      next profile form shown =>
        obtain ⟨message, rfl⟩ |
          ⟨reference, user, key, appears, current, titled, located, keyed, appears_eq, rfl⟩ :=
          MainScene.launchButtonPressed_cases (Option.some.inj reacted)
        · exact .quiet (.append (by simp))
        · refine @Proceeds.saves client enabled now _ key reference user
            (form.newBeacon platform user.uid now).dictValue ?_ current fun request closure sets => ?_
          · obtain ⟨home, screen⟩ := scene
            obtain rfl : screen = .update profile form := shown
            have keyed : form.beacon.bind Beacon.key = some key := keyed
            simp [savesKey, root, titled, located, keyed]
          · -- what the profile sends when it comes back is a read
            have reads : ¬ UnderWay appears request closure := by
              rintro ⟨op, member, rfl, _⟩
              have sent : ScreenOp client.userCurrent .exitToProfile op :=
                MainScene.profileAppears_sent appears_eq op member
              cases sent <;> cases sets
            simp only [react, underWay_append, underWay_cons, reads, or_false, UserService.updateUserValues,
              and_true]
      next => contradiction
    · refine .quiet (.append fun op member => ?_)
      cases MainScene.handle_sent reacted op member with
      | updateBeacon _ _ | updateUserValues _ => exact absurd ⟨_, _, rfl⟩ press
      | create _ _ => simp [Event.inProfileFlows, ScreenEvent.inProfileFlows] at flows
      | beacons _ | getBeacons _ _ | removeBeacon _ => rfl

end Client

/-- The keys of the user's beacons, with those that are being written. -/
def World.expected (world : World 1) (uid : String) : List String :=
  saving (world.client 0).network ++ world.server.keysOf uid

/-- The list of the user has been written: by an update of the run, or before it. -/
def listed (uid : String) (history : History (World 1) (Action 1)) (world : World 1) : Prop :=
  updatedLast history uid ∨ world.server.index uid ≠ []

instance (uid : String) (history : History (World 1) (Action 1)) (world : World 1) :
    Decidable (listed uid history world) := inferInstanceAs (Decidable (_ ∨ _))

/-- The step is one of the flows, and no write fails. -/
def InProfileFlows : Guard (World 1) (Action 1) := fun _ world action =>
  match action with
  | .event _ event => event.inProfileFlows
  | .answer _ _ .success => True
  | .answer device index (.failure _) => ∀ op ∈ world.pending device index, op.request.isWrite = false
  | .answer _ _ (.account _) => False

/-- The key that an action removes at the server. -/
def World.removes (world : World 1) (action : Action 1) : Option String :=
  match world.applied action with
  | some { request := .removeBeacon key, .. } => some key
  | _ => none

theorem World.removes_applied {world : World 1} {action : Action 1} {op : Op} {key : String}
    (applied : world.applied action = some op) (request : op.request = .removeBeacon key) :
    world.removes action = some key := by
  obtain ⟨asked, closure, response, orphan⟩ := op
  simp only at request
  subst request
  simp [removes, applied]

/-- The key of the beacon that an action starts to write. -/
def World.presses (world : World 1) : Action 1 → Option String
  | .event device (.screen (.launchButtonPressed enabled _)) => (world.client device).savesKey enabled
  | _ => none

/-- An update is pressed with exactly the user's keys in memory, that of the
beacon included, and brings in no key while another update is under way.  No
beacon of the user is removed while a list has it. -/
def KeepsIndex (uid : String) : Guard (World 1) (Action 1) := fun history world action =>
  (∀ key ∈ world.presses action, ∀ user ∈ (world.client 0).currentUser,
    SameKeys user.beacons (key :: world.expected uid) ∧
      (updating (world.client 0).network uid → key ∈ world.expected uid)) ∧
  ∀ key ∈ world.removes action, listed uid history world ∨ updating (world.client 0).network uid →
    key ∈ world.server.keysOf uid → key ∈ saving (world.client 0).network

/-- What is known of the index throughout a run of the flows. -/
structure Indexed (uid : String) (history : History (World 1) (Action 1)) (world : World 1) : Prop where
  wellFormed : world.WellFormed
  profiled : (world.client 0).Profiled uid
  lists : ∀ value reference,
    UnderWay (world.client 0).network (.setUser uid value) (.updateUserValues reference) →
    SameKeys (keysIn (nodeFrom value)) (world.expected uid)
  stored : listed uid history world → updating (world.client 0).network uid = false →
    SameKeys (world.server.index uid) (world.expected uid)

/-- A step that changes neither the expected keys nor the lists, stored and under way. -/
theorem Indexed.of_same {uid : String} {history later : History (World 1) (Action 1)} {world next : World 1}
    (indexed : Indexed uid history world) (wellFormed : next.WellFormed)
    (profiled : (next.client 0).Profiled uid) (expected : SameKeys (next.expected uid) (world.expected uid))
    (under : ∀ value reference,
      UnderWay (next.client 0).network (.setUser uid value) (.updateUserValues reference) ↔
        UnderWay (world.client 0).network (.setUser uid value) (.updateUserValues reference))
    (index : next.server.index uid = world.server.index uid)
    (updated : updatedLast later uid → updatedLast history uid) : Indexed uid later next := by
  refine ⟨wellFormed, profiled, fun value reference sent key => ?_, fun written none key => ?_⟩
  · exact (indexed.lists value reference ((under value reference).mp sent) key).trans (expected key).symm
  · have none : updating (world.client 0).network uid = false := by
      by_contra sent
      obtain ⟨value, reference, sent⟩ := updating_iff.mp (by simpa using sent)
      have sent := updating_iff.mpr ⟨value, reference, (under value reference).mpr sent⟩
      simp [none] at sent
    have written : listed uid history world := written.imp updated (index ▸ ·)
    rw [index]
    exact (indexed.stored written none key).trans (expected key).symm

theorem indexed_event {uid : String} {platform : Platform} {history : History (World 1) (Action 1)}
    {world : World 1} {event : Event} {client : Client} (indexed : Indexed uid history world)
    (flows : event.inProfileFlows) (keeps : KeepsIndex uid history world (.event 0 event))
    (handled : (world.client 0).handle platform event = some client)
    (wellFormed : (world.setClient 0 client).WellFormed) :
    Indexed uid ((world, .event 0 event) :: history) (world.setClient 0 client) := by
  obtain ⟨profiled, proceeds⟩ := Client.profiled_handle indexed.profiled flows handled
  cases proceeds with
  | quiet same =>
    refine indexed.of_same wellFormed (by simpa using profiled) (fun key => ?_) (fun value reference => ?_) rfl
      fun updated => by rwa [updatedLast_unapplied rfl] at updated
    · simp only [World.expected, List.mem_append, World.setClient_client_self, World.setClient_server,
        same.mem_saving]
    · rw [World.setClient_client_self]
      exact same _ _ rfl
  | @saves enabled now _ key reference user value pressed current sets =>
    obtain ⟨same, grows⟩ := keeps.1 key pressed user (Client.currentUser_eq_some.mpr ⟨reference, current⟩)
    have owner : user.uid = uid := indexed.profiled.uid_of_current current
    have saved : ∀ other, other ∈ saving client.network ↔
        other = key ∨ other ∈ saving (world.client 0).network := by
      intro other
      rw [mem_saving, mem_saving]
      constructor
      · rintro ⟨stored, closure, under⟩
        obtain under | ⟨request, _⟩ | ⟨request, _⟩ := (sets _ closure rfl).mp under
        · exact .inr ⟨stored, closure, under⟩
        · cases request
          exact .inl rfl
        · cases request
      · rintro (rfl | ⟨stored, closure, under⟩)
        · exact ⟨value, _, (sets _ _ rfl).mpr (.inr (.inl ⟨rfl, rfl⟩))⟩
        · exact ⟨stored, closure, (sets _ _ rfl).mpr (.inl under)⟩
    have expected : ∀ other, other ∈ (world.setClient 0 client).expected uid ↔
        other = key ∨ other ∈ world.expected uid := by
      intro other
      simp only [World.expected, List.mem_append, World.setClient_client_self, World.setClient_server,
        saved, or_assoc]
    refine ⟨wellFormed, by simpa using profiled, fun stored target under other => ?_, fun _ none => ?_⟩
    · rw [World.setClient_client_self, sets _ _ rfl] at under
      rw [expected]
      obtain under | ⟨request, _⟩ | ⟨request, _⟩ := under
      · -- a list sent before names the key already, or it would miss it now
        have present := grows (updating_iff.mpr ⟨stored, target, under⟩)
        rw [indexed.lists stored target under other]
        exact ⟨.inr, fun either => either.elim (fun here => here ▸ present) id⟩
      · cases request
      · -- the list just sent is the one in memory
        cases request
        rw [keysIn_dictValue, same other, List.mem_cons]
    · -- the update that has just been sent is under way
      have sent : updating client.network uid := updating_iff.mpr
        ⟨user.dictValue, reference, (sets _ _ rfl).mpr (.inr (.inr ⟨by rw [owner], rfl⟩))⟩
      rw [World.setClient_client_self, sent] at none
      cases none

theorem profiled_answered {uid : String} {client : Client} {index : Nat} {op : Op} {response : Response}
    (profiled : client.Profiled uid) (found : client.network[index]? = some op) :
    (client.answered index op response).Profiled uid := by
  have member := List.mem_of_getElem? found
  refine ⟨profiled.objects, fun other present => ?_, fun other present => ?_⟩
  · obtain present | ⟨_, rfl⟩ := Client.mem_of_mem_answered present
    · exact profiled.scenes other present
    · exact profiled.scenes op member
  · obtain present | ⟨_, rfl⟩ := Client.mem_of_mem_answered present
    · exact profiled.saves other present
    · exact profiled.saves op member

section

variable {uid : String} {history later : History (World 1) (Action 1)} {world next : World 1} {index : Nat}
  {op : Op} {response : Response}

theorem indexed_unset (indexed : Indexed uid history world)
    (found : (world.client 0).network[index]? = some op) (waiting : op.response = none)
    (wellFormed : next.WellFormed) (client : next.client 0 = (world.client 0).answered index op response)
    (unset : op.request.sets = false) (beacons : next.server.beacons = world.server.beacons)
    (users : next.server.users = world.server.users)
    (updated : updatedLast later uid → updatedLast history uid) : Indexed uid later next := by
  have same : SameWrites (world.client 0).network (next.client 0).network :=
    client ▸ .answered found waiting unset
  refine indexed.of_same wellFormed (client ▸ profiled_answered indexed.profiled found) (fun key => ?_)
    (fun value reference => same _ _ rfl) ?_ updated
  · simp only [World.expected, List.mem_append, same.mem_saving, Server.keysOf, beacons]
  · simp only [Server.index, Server.snapshotOfUser, users]

/-- The beacon was being written, and is now there. -/
theorem indexed_setBeacon {key : String} {beacon : Beacon} (indexed : Indexed beacon.uid history world)
    (found : (world.client 0).network[index]? = some op) (waiting : op.response = none)
    (wellFormed : next.WellFormed) (client : next.client 0 = (world.client 0).answered index op response)
    (request : op.request = .setBeacon key beacon.dictValue)
    (server : next.server = { world.server with
      beacons := setChild world.server.beacons key beacon.dictValue })
    (updated : updatedLast later beacon.uid → updatedLast history beacon.uid) :
    Indexed beacon.uid later next := by
  refine indexed.of_same wellFormed (client ▸ profiled_answered indexed.profiled found) (fun other => ?_)
    (fun value reference => ?_) (by rw [server, Server.index_beacons]) updated
  · have saved : other ∈ saving (world.client 0).network ↔
        other = key ∨ other ∈ saving (next.client 0).network := by
      rw [mem_saving_answered response found waiting, client, request]
      simp [eq_comm]
    rw [World.expected, World.expected, List.mem_append, List.mem_append, saved, server,
      Server.mem_keysOf_setBeacon, or_left_comm, or_assoc]
  · rw [client, underWay_answered response found waiting, request]
    simp

/-- The beacon is on no list, or is being written anew. -/
theorem indexed_removeBeacon {key : String} (indexed : Indexed uid history world)
    (found : (world.client 0).network[index]? = some op) (waiting : op.response = none)
    (wellFormed : next.WellFormed) (client : next.client 0 = (world.client 0).answered index op response)
    (request : op.request = .removeBeacon key)
    (server : next.server = { world.server with beacons := world.server.beacons.erase key })
    (updated : updatedLast later uid → updatedLast history uid)
    (keeps : listed uid history world ∨ updating (world.client 0).network uid →
      key ∈ world.server.keysOf uid → key ∈ saving (world.client 0).network) :
    Indexed uid later next := by
  have profiled : (next.client 0).Profiled uid := client ▸ profiled_answered indexed.profiled found
  have same : SameWrites (world.client 0).network (next.client 0).network :=
    client ▸ .answered found waiting (by rw [request]; rfl)
  have index : next.server.index uid = world.server.index uid := by rw [server, Server.index_beacons]
  by_cases written : listed uid history world ∨ updating (world.client 0).network uid
  · -- the key stays expected, because its beacon is being written again
    refine indexed.of_same wellFormed profiled (fun other => ?_) (fun value reference => same _ _ rfl)
      index updated
    have being := keeps written
    rw [World.expected, World.expected, List.mem_append, List.mem_append, same.mem_saving, server,
      Server.mem_keysOf_removeBeacon]
    refine ⟨fun either => either.imp_right And.right, fun either => ?_⟩
    by_cases here : other = key
    · subst here
      exact .inl (either.elim id being)
    · exact either.imp_right fun present => ⟨here, present⟩
  · -- there is no list yet that could name the beacon
    obtain ⟨unlisted, none⟩ := not_or.mp written
    refine ⟨wellFormed, profiled, fun value reference under => ?_, fun listed => ?_⟩
    · exact absurd (updating_iff.mpr ⟨value, reference, (same _ _ rfl).mp under⟩) none
    · exact absurd (listed.imp updated (index ▸ ·)) unlisted

/-- The list that was being written is now stored. -/
theorem indexed_setUser {target : String} {value : Json} {reference : Nat}
    (indexed : Indexed uid history world)
    (found : (world.client 0).network[index]? = some op) (waiting : op.response = none)
    (wellFormed : next.WellFormed) (client : next.client 0 = (world.client 0).answered index op response)
    (request : op.request = .setUser target value) (closure : op.closure = .updateUserValues reference)
    (server : next.server = { world.server with users := setChild world.server.users target value })
    (updated : target ≠ uid → updatedLast later uid → updatedLast history uid) : Indexed uid later next := by
  have profiled : (next.client 0).Profiled uid := client ▸ profiled_answered indexed.profiled found
  have expected : SameKeys (next.expected uid) (world.expected uid) := by
    intro key
    have saved : key ∈ saving (world.client 0).network ↔ key ∈ saving (next.client 0).network := by
      rw [mem_saving_answered response found waiting, client, request]
      simp
    rw [World.expected, World.expected, List.mem_append, List.mem_append, saved, server,
      Server.keysOf_users]
  have under : ∀ other position,
      UnderWay (world.client 0).network (.setUser uid other) (.updateUserValues position) ↔
      (op.request = .setUser uid other ∧ op.closure = .updateUserValues position) ∨
        UnderWay (next.client 0).network (.setUser uid other) (.updateUserValues position) :=
    fun other position => client ▸ underWay_answered response found waiting _ _
  by_cases here : target = uid
  · subst here
    refine ⟨wellFormed, profiled, fun other position sent key => ?_, fun _ _ key => ?_⟩
    · exact (indexed.lists other position ((under other position).mpr (.inr sent)) key).trans (expected key).symm
    · rw [server, Server.index_setUser, if_pos rfl]
      exact (indexed.lists value reference ((under value reference).mpr (.inl ⟨request, closure⟩)) key).trans
        (expected key).symm
  · refine indexed.of_same wellFormed profiled expected (fun other position => ?_) ?_ (updated here)
    · rw [under, request]
      simp [here]
    · rw [server, Server.index_setUser, if_neg (Ne.symm here)]

end

theorem indexed_answer {uid : String} {history : History (World 1) (Action 1)} {world next : World 1}
    {index : Nat} {outcome : Outcome} {op : Op} {response : Response} {server : Server}
    (indexed : Indexed uid history world) (flows : InProfileFlows history world (.answer 0 index outcome))
    (keeps : KeepsIndex uid history world (.answer 0 index outcome))
    (found : (world.client 0).network[index]? = some op) (waiting : op.response = none)
    (answered : world.server.answer (world.view 0) op.request outcome = some (response, server))
    (wellFormed : next.WellFormed) (client : next.client 0 = (world.client 0).answered index op response)
    (same : next.server = server) : Indexed uid ((world, .answer 0 index outcome) :: history) next := by
  have applied := World.applied_answer found waiting
  have member := List.mem_of_getElem? found
  have paired := (indexed.wellFormed 0 op member).paired
  have scene := indexed.profiled.scenes op member
  generalize request : op.request = asked at answered paired
  cases Server.answer_cases answered with
  | failed error =>
    -- in these flows only a read fails
    have unset : op.request.sets = false := by
      by_contra sets
      have write := flows op (by simp [World.pending, found, waiting])
      simp [Request.isWrite_of_sets (by simpa using sets)] at write
    exact indexed_unset indexed found waiting wellFormed client unset (by rw [same]) (by rw [same])
      fun updated => by rwa [updatedLast_unapplied rfl] at updated
  | logIn | signInWithEmail _ _ _ | observeUser | observeBeacons =>
    exact indexed_unset indexed found waiting wellFormed client (by rw [request]; rfl) (by rw [same])
      (by rw [same]) fun updated => by rwa [updatedLast_applied applied (by simp [request])] at updated
  | signInWithCredential _ | createUser _ _ =>
    exact indexed_unset indexed found waiting wellFormed client (by rw [request]; rfl) (by rw [same])
      (by rw [same]) fun updated => by rwa [updatedLast_unapplied rfl] at updated
  | @setBeacon key value =>
    obtain ⟨beacon, rfl, rfl⟩ := indexed.profiled.saves op member key value request
    exact indexed_setBeacon indexed found waiting wellFormed client request same
      fun updated => by rwa [updatedLast_applied applied (by simp [request])] at updated
  | @removeBeacon key =>
    exact indexed_removeBeacon indexed found waiting wellFormed client request same
      (fun updated => by rwa [updatedLast_applied applied (by simp [request])] at updated)
      (keeps.2 key (World.removes_applied applied request))
  | @setUser target value =>
    -- no sign-in is under way, so the write is that of an update
    obtain ⟨reference, closure⟩ : ∃ reference, op.closure = .updateUserValues reference := by
      generalize op.closure = closure at paired scene
      cases paired with
      | updateUserValues => exact ⟨_, rfl⟩
      | userCreated => cases scene
    exact indexed_setUser indexed found waiting wellFormed client request closure same
      fun different updated => by
        rwa [updatedLast_applied applied (by simp [request, different])] at updated

/-- A client shows the Main storyboard for the user, and nothing but the home
screen's list is being fetched.  A list stored for the user is exact. -/
structure SignedIn (uid : String) (world : World 1) : Prop where
  main : (world.client 0).isMain
  current : (world.client 0).currentUser.isSome
  objects : ∀ user ∈ (world.client 0).objects, user.uid = uid
  network : ∀ op ∈ (world.client 0).network, ∃ home, op = BeaconService.beacons home
  exact : world.server.index uid ≠ [] → SameKeys (world.server.index uid) (world.server.keysOf uid)

theorem indexed_start {uid : String} {world : World 1} (signedIn : SignedIn uid world) :
    Indexed uid [] world := by
  have reads : ∀ request closure, request.sets → ¬ UnderWay (world.client 0).network request closure := by
    rintro _ _ sets ⟨op, member, rfl, _⟩
    obtain ⟨home, rfl⟩ := signedIn.network op member
    cases sets
  refine ⟨fun device op member => ?_, ⟨signedIn.objects, fun op member => ?_, fun op member => ?_⟩,
    fun value reference under => absurd under (reads _ _ rfl), fun written _ key => ?_⟩
  · obtain rfl := Subsingleton.elim device 0
    obtain ⟨home, rfl⟩ := signedIn.network op member
    exact .of_paired .beaconsLoaded
  · obtain ⟨home, rfl⟩ := signedIn.network op member
    rfl
  · obtain ⟨home, rfl⟩ := signedIn.network op member
    rintro key value ⟨⟩
  · have stored := written.resolve_left (by simp [updatedLast])
    rw [signedIn.exact stored key, World.expected, List.mem_append, or_iff_right]
    rw [mem_saving]
    rintro ⟨value, closure, under⟩
    exact reads _ _ rfl under

/-- A write of an update or a remove flow has been applied. -/
def wrote (history : History (World 1) (Action 1)) : Bool :=
  history.any fun entry => (entry.1.applied entry.2).any fun op => op.request.isWrite

/-- With nothing in flight after a flow, a list that has been written has exactly the user's keys. -/
def IndexExact (uid : String) (history : History (World 1) (Action 1)) (world : World 1) : Prop :=
  (world.client 0).network = [] → wrote history → listed uid history world →
    SameKeys (world.server.index uid) (world.server.keysOf uid)

/-- In every run of the profile, update and remove flows that keeps the index, it is exact in every state. -/
theorem index_exact {uid : String} {platform : Platform} {history : History (World 1) (Action 1)}
    {world : World 1} (execution : Execution (app platform (SignedIn uid)) history world)
    (flows : EveryStep InProfileFlows history) (keeps : EveryStep (KeepsIndex uid) history) :
    EveryState (IndexExact uid) history world := by
  refine execution.everyState (Indexed uid) (fun world => indexed_start) ?preserved ?sound (flows.and keeps)
  case preserved =>
    rintro history world action next indexed ⟨flows, keeps⟩ taken
    have wellFormed := wellFormed_step indexed.wellFormed taken
    obtain ⟨active, event, client, rfl, handled, rfl⟩ |
      ⟨active, index, outcome, op, response, server, rfl, found, waiting, answered, rfl⟩ := step_cases taken
    · obtain rfl := Subsingleton.elim active 0
      exact indexed_event indexed flows keeps handled wellFormed
    · obtain rfl := Subsingleton.elim active 0
      exact indexed_answer indexed flows keeps found waiting answered wellFormed (by simp) rfl
  case sound =>
    -- with nothing in flight the expected keys are those in the database
    rintro history world indexed settled - written key
    have none : updating (world.client 0).network uid = false := by rw [settled]; rfl
    rw [indexed.stored written none key, World.expected, settled]
    rfl

instance (history : History (World 1) (Action 1)) (world : World 1) :
    (action : Action 1) → Decidable (InProfileFlows history world action)
  | .event _ event => inferInstanceAs (Decidable (event.inProfileFlows = true))
  | .answer _ _ .success => isTrue trivial
  | .answer device index (.failure _) =>
    inferInstanceAs (Decidable (∀ op ∈ world.pending device index, op.request.isWrite = false))
  | .answer _ _ (.account _) => isFalse id

instance (uid : String) (history : History (World 1) (Action 1)) (world : World 1)
    (action : Action 1) : Decidable (KeepsIndex uid history world action) :=
  inferInstanceAs (Decidable (_ ∧ _))

/-- Ann is signed in, owns one beacon, and the home screen is about to fetch its list. -/
def World.annSignedIn : World 1 where
  client _ := {
    authCurrentUser := some ⟨"ann", none, none⟩
    userDefaults := some (User.encode { uid := "ann", username := "Ann" })
    objects := [{ uid := "ann", username := "Ann" }]
    current := some 0
    root := .main { home := { identifier := 1 } }
    network := [BeaconService.beacons 1]
    fresh := 2 }
  server := .withBeacon

theorem signedIn_annSignedIn : SignedIn "ann" World.annSignedIn where
  main := rfl
  current := rfl
  objects := by simp [World.annSignedIn]
  network op member := ⟨1, List.mem_singleton.mp member⟩
  exact stored := absurd (by decide +kernel) stored

/-- Ann opens her profile before the home screen has its list, and saves her beacon. -/
def annSavesFetched : List (Action 1) :=
  [.event 0 (.screen .profileButtonPressed), .answer 0 0 .success, .event 0 (.deliver 0 true),
    .answer 0 0 .success, .event 0 (.deliver 0 true), .event 0 (.screen (.didSelectItemAt 0)),
    .event 0 (.screen (.launchButtonPressed true Beacon.sample.date)), .answer 0 0 .success,
    .answer 0 1 .success, .event 0 (.deliver 0 true), .event 0 (.deliver 0 true)]

/-- Then she removes it. -/
def annRemovesListed : List (Action 1) := annSavesFetched ++
  [.event 0 (.screen (.didSelectItemAt 0)), .event 0 (.screen .removeButtonPressed), .answer 0 0 .success,
    .event 0 (.deliver 0 true)]

theorem annSavesFetched_taken :
    ((app .sample (SignedIn "ann")).replay [] World.annSignedIn annSavesFetched).isSome := by
  decide +kernel

theorem annRemovesListed_taken :
    ((app .sample (SignedIn "ann")).replay [] World.annSignedIn annRemovesListed).isSome := by
  decide +kernel

theorem annSavesFetched_index_exact :
    EveryState (IndexExact "ann")
      ((app .sample (SignedIn "ann")).reached _ annSavesFetched annSavesFetched_taken).1
      ((app .sample (SignedIn "ann")).reached _ annSavesFetched annSavesFetched_taken).2 :=
  index_exact ((app .sample (SignedIn "ann")).execution_reached signedIn_annSignedIn annSavesFetched
    annSavesFetched_taken) (by decide +kernel) (by decide +kernel)

theorem annRemovesListed_dangles :
    let result := (app .sample (SignedIn "ann")).reached World.annSignedIn annRemovesListed
      annRemovesListed_taken
    (result.2.client 0).network.isEmpty = true ∧ wrote result.1 = true ∧
      result.2.server.index "ann" = ["campfire"] ∧ result.2.server.keysOf "ann" = [] := by
  decide +kernel

theorem annRemovesListed_flows :
    EveryStep InProfileFlows ((app .sample (SignedIn "ann")).reached World.annSignedIn annRemovesListed
      annRemovesListed_taken).1 := by
  decide +kernel

/-- The list keeps the key of the beacon that was removed. -/
theorem index_not_always_exact :
    ¬ ∀ (uid : String) (platform : Platform) (history : History (World 1) (Action 1)) (world : World 1),
      Execution (app platform (SignedIn uid)) history world → EveryStep InProfileFlows history →
      IndexExact uid history world := by
  intro always
  obtain ⟨settled, wrote, index, keys⟩ := annRemovesListed_dangles
  have same := always _ _ _ _ ((app .sample (SignedIn "ann")).execution_reached signedIn_annSignedIn
    annRemovesListed annRemovesListed_taken) annRemovesListed_flows (List.isEmpty_iff.mp settled) wrote
    (.inr (by rw [index]; simp)) "campfire"
  rw [index, keys] at same
  simp at same

end Lyv
