import Lyv.App.Held

/-!
# Who writes a beacon

A beacon is written by a `create`, or by a press on a form that is saved.  Every
`setBeacon` in flight is traced to the event that sent it, with the form and the
user it was built from; what is stored or seen is traced from there.  A form
writes where its beacon was seen, so every key goes back to the start or to a `create`.
-/

namespace Lyv

open Lyv.Library Lyv.Firebase

variable {devices : Nat} {platform : Platform} {starts : World devices → Prop}

/-- The event starts to write the beacon at the key. -/
inductive Client.Authors (platform : Platform) (client : Client) :
    Event → String → Beacon → BeaconWrite → Prop where
  | create (beacon : Beacon) {draws : List (Fin 62)} : draws.length = 28 →
      Authors platform client (.screen (.create beacon draws)) (Helper.randomAlphaNumericString draws)
        beacon .create
  | updateBeacon {scene : MainScene} {profile : ProfileController} {form : UpdateController}
      {reference : Nat} {user : User} {key : String} {now : SwiftDouble} : client.root = .main scene →
      scene.screen = .update profile form → client.userCurrent = .ok (reference, user) →
      form.nameTextField ≠ "" → form.beacon.bind Beacon.key = some key →
      Authors platform client (.screen (.launchButtonPressed true now)) key
        (form.newBeacon platform user.uid now) .updateBeacon

/-- The operation is the `setValue` of a beacon. -/
def Op.SetsBeacon (op : Op) (key : String) (beacon : Beacon) (write : BeaconWrite) : Prop :=
  op.request = .setBeacon key beacon.dictValue ∧ op.closure = .noCompletion write

theorem Follows.request_ne_setBeacon {closure : Closure} {response : Response} {op : Op}
    (follows : Follows closure response op) (key : String) (value : Json) : op.request ≠ .setBeacon key value := by
  cases follows <;> exact Request.noConfusion

theorem MainScene.reads_of_profileAppears {current : Except Trap (Nat × User)} {profile : ProfileController}
    {sent : List Op} (appears : profileAppears current profile = .ok sent) {key : String} {value : Json} :
    ∀ op ∈ sent, op.request ≠ .setBeacon key value := by
  intro op member request
  cases (MainScene.profileAppears_sent appears op member : ScreenOp current .exitToProfile op) with
  | beacons _ | getBeacons _ _ => contradiction

/-- What an event on a screen writes is what the event is the author of. -/
theorem Client.authors_reacted {client : Client} {scene : MainScene} {event : ScreenEvent}
    {reaction : Reaction} (root : client.root = .main scene)
    (reacted : MainScene.Reacted platform client.userCurrent client.fresh scene event reaction)
    {op : Op} (member : op ∈ reaction.sent) {key : String} {value : Json}
    (request : op.request = .setBeacon key value) :
    ∃ beacon write, client.Authors platform (.screen event) key beacon write ∧ op.SetsBeacon key beacon write := by
  cases reacted with
  | switchPressed _ _ | homeLocation _ | leaveHome _ | didSelectItemAt _ _ | edit _ _ | updateLocation _ _
  | refused _ => simp at member
  | exitToHome =>
    obtain rfl := List.mem_singleton.mp member
    contradiction
  | profileButtonPressed _ _ appears | exitToProfile _ appears =>
    exact absurd request (MainScene.reads_of_profileAppears appears op member)
  | @saved profile form enabled now reference user saved sent screen signedIn titled located keyed appears =>
    obtain rfl | member := List.mem_cons.mp member
    · cases request
      obtain rfl : enabled = true := located
      exact ⟨_, _, .updateBeacon root screen signedIn titled keyed, rfl, rfl⟩
    · obtain rfl | member := List.mem_cons.mp member
      · contradiction
      · exact absurd request (MainScene.reads_of_profileAppears appears op member)
  | @removed profile form removed sent screen taken appears =>
    obtain member | member := List.mem_append.mp member
    · have pressed : Pressed scene client.userCurrent .removeButtonPressed op :=
        MainScene.pressed_of_removal screen taken op member
      cases pressed
      contradiction
    · exact absurd request (MainScene.reads_of_profileAppears appears op member)
  | @create beacon draws length =>
    obtain rfl := List.mem_singleton.mp member
    cases request
    exact ⟨beacon, _, .create beacon length, rfl, rfl⟩

/-- A `setBeacon` in flight after an event was in flight before, or the event is its author. -/
theorem Client.authors_handle {client next : Client} {event : Event} {op : Op}
    (handled : client.handle platform event = some next) (member : op ∈ next.network)
    {key : String} {value : Json} (request : op.request = .setBeacon key value) :
    (∃ former ∈ client.network, former.request = op.request ∧ former.closure = op.closure) ∨
      ∃ beacon write, client.Authors platform event key beacon write ∧ op.SetsBeacon key beacon write := by
  obtain before | ⟨former, before, orphaned⟩ | sent := Client.handle_network handled op member
  · exact .inl ⟨op, before, rfl, rfl⟩
  · obtain ⟨_, _, rfl⟩ := Op.orphaned_eq_some.mp orphaned
    exact .inl ⟨former, before, rfl, rfl⟩
  · cases sent with
    | beacons home => contradiction
    | tap _ tapped => cases tapped <;> contradiction
    | follow _ _ follows => exact absurd request (follows.request_ne_setBeacon key value)
    | screen _ =>
      cases Client.handle_cases handled with
      | tap _ tapped => cases tapped
      | crash _ =>
        obtain ⟨former, before, orphaned⟩ := List.mem_filterMap.mp member
        obtain ⟨_, _, rfl⟩ := Op.orphaned_eq_some.mp orphaned
        exact .inl ⟨former, before, rfl, rfl⟩
      | screen root reacted =>
        obtain before | sent := List.mem_append.mp member
        · exact .inl ⟨op, before, rfl, rfl⟩
        · exact .inr (authors_reacted root (MainScene.handle_reacted reacted) sent request)

/-- Some step of the history is the author of the beacon. -/
def AuthoredIn (platform : Platform) (history : History (World devices) (Action devices)) (key : String)
    (beacon : Beacon) (write : BeaconWrite) : Prop :=
  ∃ before device event, (before, Action.event device event) ∈ history ∧
    (before.client device).Authors platform event key beacon write

theorem AuthoredIn.mono {history : History (World devices) (Action devices)} {key : String} {beacon : Beacon}
    {write : BeaconWrite} (authored : AuthoredIn platform history key beacon write)
    (entry : World devices × Action devices) : AuthoredIn platform (entry :: history) key beacon write := by
  obtain ⟨before, device, event, member, authors⟩ := authored
  exact ⟨before, device, event, List.mem_cons_of_mem _ member, authors⟩

/-- Every `setBeacon` in flight has its author in the history. -/
def World.Authored (platform : Platform) (history : History (World devices) (Action devices))
    (world : World devices) : Prop :=
  ∀ device, ∀ op ∈ (world.client device).network, ∀ key value, op.request = .setBeacon key value →
    ∃ beacon write, AuthoredIn platform history key beacon write ∧ op.SetsBeacon key beacon write

theorem World.Authored.of_idle {world : World devices} (idle : Idle world) : world.Authored platform [] := by
  intro device op member
  rw [idle device] at member
  contradiction

theorem World.Authored.step {history : History (World devices) (Action devices)} {world next : World devices}
    {action : Action devices} (authored : world.Authored platform history)
    (taken : (app platform starts).step world action = some next) :
    next.Authored platform ((world, action) :: history) := by
  intro device op member key value request
  -- what was in flight before keeps its author
  have former : ∀ former ∈ (world.client device).network, former.request = op.request →
      former.closure = op.closure → ∃ beacon write,
        AuthoredIn platform ((world, action) :: history) key beacon write ∧ op.SetsBeacon key beacon write := by
    intro former before same closure
    obtain ⟨beacon, write, author, sets⟩ := authored device former before key value (same.trans request)
    exact ⟨beacon, write, author.mono _, same ▸ sets.1, closure ▸ sets.2⟩
  obtain same | ⟨event, rfl, handled⟩ | ⟨index, _, answered, response, _, _, found, _, _, next_eq⟩ :=
    client_cases taken device
  · rw [same] at member
    exact former op member rfl rfl
  · obtain ⟨other, before, same, closure⟩ | ⟨beacon, write, authors, sets⟩ :=
      Client.authors_handle handled member request
    · exact former other before same closure
    · exact ⟨beacon, write, ⟨world, device, event, List.mem_cons_self, authors⟩, sets⟩
  · rw [next_eq] at member
    obtain before | ⟨_, rfl⟩ := Client.mem_of_mem_answered member
    · exact former op before rfl rfl
    · exact former answered (List.mem_of_getElem? found) rfl rfl

/-! ## What is stored -/

variable {stored : Store String Node} {history : History (World devices) (Action devices)}
  {world next : World devices} {action : Action devices}

/-- The record at the key was there at the start, or has its author in the history. -/
def Attributed (platform : Platform) (stored : Store String Node)
    (history : History (World devices) (Action devices)) (key : String) (node : Node) : Prop :=
  stored.lookup key = some node ∨
    ∃ beacon write, AuthoredIn platform history key beacon write ∧ node = nodeFrom beacon.dictValue

theorem Attributed.mono {key : String} {node : Node} (attributed : Attributed platform stored history key node)
    (entry : World devices × Action devices) : Attributed platform stored (entry :: history) key node :=
  attributed.imp_right fun ⟨beacon, write, authored, same⟩ => ⟨beacon, write, authored.mono entry, same⟩

/-- Every record of the server is accounted for. -/
def Server.Accounted (server : Server) (platform : Platform) (stored : Store String Node)
    (history : History (World devices) (Action devices)) : Prop :=
  ∀ key node, server.beacons.lookup key = some node → Attributed platform stored history key node

/-- A write whose author is known keeps the records accounted for. -/
theorem Server.Accounted.write {server : Server} {request : Request}
    (accounted : server.Accounted platform stored history)
    (authored : ∀ key value, request = .setBeacon key value → ∃ beacon write,
      AuthoredIn platform history key beacon write ∧ value = beacon.dictValue) :
    (server.write request).Accounted platform stored history := by
  intro key node found
  cases request with
  | setBeacon written value =>
    rw [Server.write, lookup_setChild] at found
    split at found
    next same =>
      -- the record that has just been written has the author of the write
      obtain ⟨beacon, write, author, rfl⟩ := authored written value rfl
      simp only [Beacon.isEmpty_nodeFrom_dictValue, Bool.false_eq_true, if_false, Option.some.injEq] at found
      exact .inr ⟨beacon, write, same ▸ author, found.symm⟩
    next => exact accounted key node found
  | removeBeacon removed =>
    by_cases same : key = removed
    · simp [Server.write, same] at found
    · rw [Server.write, Store.lookup_erase_of_ne _ same] at found
      exact accounted key node found
  | _ => exact accounted key node found

/-- Every `setBeacon` in flight has its author, and so has every record that was seen
and was not there at the start. -/
structure World.Accounted (platform : Platform) (stored : Store String Node)
    (history : History (World devices) (Action devices)) (world : World devices) : Prop where
  authored : world.Authored platform history
  records : ∀ server ∈ seen history world, server.Accounted platform stored history

theorem World.Accounted.of_idle (idle : Idle world) : world.Accounted platform world.server.beacons [] := by
  refine ⟨.of_idle idle, fun server member => ?_⟩
  obtain present | member := List.mem_append.mp member
  · refine World.forall_views (fun view => view.Accounted platform world.server.beacons [])
      (fun _ _ found => .inl found) (fun device op member => ?_) server present
    rw [idle device] at member
    contradiction
  · contradiction

theorem World.Accounted.step (accounted : world.Accounted platform stored history)
    (taken : (app platform starts).step world action = some next) :
    next.Accounted platform stored ((world, action) :: history) := by
  have authored := accounted.authored.step taken
  have former : ∀ server ∈ seen history world, server.Accounted platform stored ((world, action) :: history) :=
    fun server member key node found => (accounted.records server member key node found).mono _
  have before := former world.server (mem_seen List.mem_cons_self)
  have server : next.server.Accounted platform stored ((world, action) :: history) := by
    obtain ⟨_, _, _, _, _, rfl⟩ | ⟨device, _, _, op, _, server, _, found, _, answered, rfl⟩ := step_cases taken
    · exact before
    · show server.Accounted platform stored _
      obtain ⟨_, beacons⟩ | rfl := Server.stored_answer answered
      · exact fun key node found => before key node (beacons ▸ found)
      · refine before.write fun key value request => ?_
        obtain ⟨beacon, write, author, sets⟩ :=
          accounted.authored device op (List.mem_of_getElem? found) key value request
        exact ⟨beacon, write, author.mono _, (Request.setBeacon.inj (request.symm.trans sets.1)).2⟩
  refine ⟨authored, fun view member => ?_⟩
  obtain present | member := mem_seen_cons.mp member
  · refine World.forall_views (fun view => view.Accounted platform stored ((world, action) :: history)) server
      (fun device op member _ _ current holds => ?_) view present
    refine holds.write fun key value request => ?_
    obtain ⟨beacon, write, author, sets⟩ := authored device op member key value request
    exact ⟨beacon, write, author, (Request.setBeacon.inj (request.symm.trans sets.1)).2⟩
  · exact former view member

/-! ## Keys in use -/

/-- The key was taken at the start, or has been drawn for a beacon that is created. -/
def InUse (platform : Platform) (stored : Store String Node)
    (history : History (World devices) (Action devices)) (key : String) : Prop :=
  (stored.lookup key).isSome ∨ ∃ beacon, AuthoredIn platform history key beacon .create

theorem InUse.mono {key : String} (used : InUse platform stored history key)
    (entry : World devices × Action devices) : InUse platform stored (entry :: history) key :=
  used.imp_right fun ⟨beacon, authored⟩ => ⟨beacon, authored.mono entry⟩

/-- The key of a `create` has been drawn. -/
theorem AuthoredIn.drawn {key : String} {beacon : Beacon} (authored : AuthoredIn platform history key beacon .create) :
    ∃ draws : List (Fin 62), draws.length = 28 ∧ key = Helper.randomAlphaNumericString draws := by
  obtain ⟨before, device, event, _, authors⟩ := authored
  cases authors with
  | create _ drawn => exact ⟨_, drawn, rfl⟩

/-- The key of `/beacons` that a request writes at. -/
def Request.beaconKey : Request → Option String
  | .setBeacon key _ | .removeBeacon key => some key
  | _ => none

/-- A write adds no key but its own. -/
theorem Server.isSome_lookup_write {server : Server} {request : Request} {key : String}
    (present : ((server.write request).beacons.lookup key).isSome) :
    (server.beacons.lookup key).isSome ∨ request.beaconKey = some key := by
  cases request with
  | setBeacon written value =>
    by_cases same : key = written
    · exact .inr (congrArg some same.symm)
    · exact .inl (by rwa [Server.write, lookup_setChild, if_neg same] at present)
  | removeBeacon removed =>
    by_cases same : key = removed
    · exact .inr (congrArg some same.symm)
    · exact .inl (by rwa [Server.write, Store.lookup_erase_of_ne _ same] at present)
  | _ => exact .inl present

/-- Forms write at keys in use, so no other keys are ever seen. -/
structure World.KeysInUse (platform : Platform) (stored : Store String Node)
    (history : History (World devices) (Action devices)) (world : World devices) : Prop where
  wellFormed : world.WellFormed
  traced : world.Traced platform history
  accounted : world.Accounted platform stored history
  authors : ∀ key beacon write, AuthoredIn platform history key beacon write → InUse platform stored history key
  writes : ∀ device, ∀ op ∈ (world.client device).network, ∀ key, op.request.beaconKey = some key →
    InUse platform stored history key

namespace World.KeysInUse

theorem of_idle (idle : Idle world) : world.KeysInUse platform world.server.beacons [] where
  wellFormed device op member := by
    rw [idle device] at member
    contradiction
  traced := .of_idle idle []
  accounted := .of_idle idle
  authors := by
    rintro _ _ _ ⟨_, _, _, member, _⟩
    contradiction
  writes device op member := by
    rw [idle device] at member
    contradiction

/-- A key at which a record was seen is in use. -/
theorem of_seen (keys : world.KeysInUse platform stored history) {server : Server}
    (member : server ∈ seen history world) {key : String} (present : (server.beacons.lookup key).isSome) :
    InUse platform stored history key := by
  obtain ⟨node, found⟩ := Option.isSome_iff_exists.mp present
  obtain before | ⟨beacon, write, authored, _⟩ := keys.accounted.records server member key node found
  · exact .inl (by rw [before]; rfl)
  · exact keys.authors key beacon write authored

/-- The key of a beacon on a device is in use. -/
theorem of_held (keys : world.KeysInUse platform stored history) {device : Fin devices} {beacon : Beacon}
    (held : beacon ∈ (world.client device).held) {key : String} (keyed : beacon.key = some key) :
    InUse platform stored history key := by
  obtain ⟨_, keyed', server, member, decoded⟩ := (keys.traced device).held beacon held
  obtain rfl := Option.some.inj (keyed'.symm.trans keyed)
  obtain ⟨node, found, _⟩ := Option.bind_eq_some_iff.mp decoded
  exact keys.of_seen (viewed_subset_seen member) (by rw [found]; rfl)

theorem held_form {client : Client} {scene : MainScene} {profile : ProfileController} {form : UpdateController}
    {beacon : Beacon} (root : client.root = .main scene) (screen : scene.screen = .update profile form)
    (selected : form.beacon = some beacon) : beacon ∈ client.held := by
  rw [Client.held_of_root root, MainScene.held, screen, Screen.held, selected]
  simp

theorem step (keys : world.KeysInUse platform stored history)
    (taken : (app platform starts).step world action = some next) :
    next.KeysInUse platform stored ((world, action) :: history) := by
  have accounted := keys.accounted.step taken
  have authors : ∀ key beacon write, AuthoredIn platform ((world, action) :: history) key beacon write →
      InUse platform stored ((world, action) :: history) key := by
    rintro key beacon write ⟨before, device, event, member, authors⟩
    obtain here | earlier := List.mem_cons.mp member
    · cases here
      cases authors with
      | create _ length =>
        exact .inr ⟨beacon, _, device, _, List.mem_cons_self, .create beacon length⟩
      | updateBeacon root screen _ _ keyed =>
        obtain ⟨held, selected, keyed⟩ := Option.bind_eq_some_iff.mp keyed
        exact (keys.of_held (held_form root screen selected) keyed).mono _
    · exact (keys.authors key beacon write ⟨before, device, event, earlier, authors⟩).mono _
  refine ⟨wellFormed_step keys.wellFormed taken, keys.traced.step taken, accounted, authors, ?_⟩
  intro device op member key writes
  cases request : op.request with
  | setBeacon written value =>
    obtain ⟨beacon, write, authored, _⟩ := accounted.authored device op member written value request
    rw [request, Request.beaconKey, Option.some.injEq] at writes
    exact writes ▸ authors written beacon write authored
  | removeBeacon removed =>
    rw [request, Request.beaconKey, Option.some.injEq] at writes
    subst writes
    have former : ∀ former ∈ (world.client device).network, former.request = op.request →
        InUse platform stored ((world, action) :: history) removed :=
      fun former before same => (keys.writes device former before removed (by rw [same, request]; rfl)).mono _
    obtain same | ⟨event, rfl, handled⟩ | ⟨index, _, answered, _, _, _, found, _, _, next_eq⟩ :=
      client_cases taken device
    · rw [same] at member
      exact former op member rfl
    · have paired := (wellFormed_step keys.wellFormed taken device op member).paired
      have closure : op.closure.ofForm := by
        rw [request] at paired
        generalize op.closure = closure at paired
        cases paired
        rfl
      obtain before | ⟨other, before, orphaned⟩ | ⟨scene, _, _, rfl, root, _, _, pressed⟩ :=
        pressed_handle handled member closure
      · exact former op before rfl
      · obtain ⟨_, _, rfl⟩ := Op.orphaned_eq_some.mp orphaned
        exact former other before rfl
      · cases pressed with
        | updateBeacon _ _ _ _ | updateUserValues _ _ => contradiction
        | removeBeacon screen selected keyed =>
          obtain rfl := Request.removeBeacon.inj request
          exact (keys.of_held (held_form root screen selected) keyed).mono _
    · rw [next_eq] at member
      obtain before | ⟨_, rfl⟩ := Client.mem_of_mem_answered member
      · exact former op before rfl
      · exact former answered (List.mem_of_getElem? found) rfl
  | _ =>
    rw [request] at writes
    contradiction

end World.KeysInUse

end Lyv
