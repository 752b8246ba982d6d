import Lyv.Verified.OwnerStability
import Lyv.Verified.SelectedRecord

/-!
# Only owners change their beacons

The database lets anyone write anywhere; it is the screens that keep users to
their own beacons.  What changes a record was sent by a press on a form, and the
form was open for a beacon of the user who pressed.
-/

namespace Lyv

open Lyv.Library Lyv.Firebase

variable {devices : Nat} {platform : Platform} {stored : Store String Node}
  {history : History (World devices) (Action devices)} {world next : World devices} {action : Action devices}
  {key uid : String}

/-- The operation as it was when it was sent. -/
def Op.sent (op : Op) : Op := { request := op.request, closure := op.closure }

/-- A press on a form, with the user as the current one of the device, has sent the operation. -/
def PressedBy (platform : Platform) (history : History (World devices) (Action devices)) (device : Fin devices)
    (op : Op) (uid : String) : Prop :=
  ∃ before scene event reaction, (before, Action.event device (.screen event)) ∈ history ∧
    (before.client device).root = .main scene ∧ (before.client device).sessionUid = some uid ∧
    scene.handle platform (before.client device).userCurrent (before.client device).fresh event =
      some (.ok reaction) ∧
    op.sent ∈ reaction.sent ∧ Pressed scene (before.client device).userCurrent event op.sent

/-- A press of the user has sent the operation, and no other user's has. -/
def PressedOnlyBy (platform : Platform) (history : History (World devices) (Action devices)) (device : Fin devices)
    (op : Op) (uid : String) : Prop :=
  PressedBy platform history device op uid ∧ ∀ other, PressedBy platform history device op other → other = uid

/-- The operation is the `create` of a beacon of the user, and an update of that beacon has overtaken it. -/
def Overtaken (platform : Platform) (history : History (World devices) (Action devices)) (key : String) (op : Op)
    (uid : String) : Prop :=
  ∃ beacon, AuthoredIn platform history key beacon .create ∧ op.SetsBeacon key beacon .create ∧
    beacon.uid = uid ∧ ∃ entry ∈ history, entry.1.overwrites entry.2 = some key

theorem PressedBy.mono {device : Fin devices} {op : Op} (pressed : PressedBy platform history device op uid)
    (entry : World devices × Action devices) : PressedBy platform (entry :: history) device op uid := by
  obtain ⟨before, scene, event, reaction, member, rest⟩ := pressed
  exact ⟨before, scene, event, reaction, List.mem_cons_of_mem _ member, rest⟩

/-- What the process and the server do with an operation leaves the press that sent it. -/
theorem PressedBy.congr {device : Fin devices} {op other : Op} (pressed : PressedBy platform history device op uid)
    (closure : op.closure = other.closure) (request : op.request = other.request) :
    PressedBy platform history device other uid := by
  have same : other.sent = op.sent := by rw [Op.sent, Op.sent, closure, request]
  rwa [PressedBy, same]

/-- What is in flight from a form was pressed by the owner of the key. -/
def World.OwnPresses (platform : Platform) (stored : Store String Node)
    (history : History (World devices) (Action devices)) (world : World devices) : Prop :=
  ∀ device, ∀ op ∈ (world.client device).network, op.closure.ofForm → ∀ key, op.request.beaconKey = some key →
    ∃ uid, PressedBy platform history device op uid ∧ Owns platform stored history key uid

theorem World.Owned.owns_pressed (owned : world.Owned platform stored history) {device : Fin devices}
    {scene : MainScene} {event : ScreenEvent} {op : Op} (root : (world.client device).root = .main scene)
    (pressed : Pressed scene (world.client device).userCurrent event op) (keyed : op.request.beaconKey = some key) :
    ∃ uid, (world.client device).sessionUid = some uid ∧ Owns platform stored history key uid := by
  cases pressed with
  | updateBeacon _ screen selected beaconKey =>
    obtain rfl := Option.some.inj keyed
    exact owned.owns_form root screen selected beaconKey
  | updateUserValues _ _ => contradiction
  | removeBeacon screen selected beaconKey =>
    obtain rfl := Option.some.inj keyed
    exact owned.owns_form root screen selected beaconKey

theorem World.OwnPresses.step {starts : World devices → Prop} (presses : world.OwnPresses platform stored history)
    (owned : world.Owned platform stored history)
    (taken : (app platform starts).step world action = some next) :
    next.OwnPresses platform stored ((world, action) :: history) := by
  intro device op member ofForm key keyed
  have former : ∀ former ∈ (world.client device).network, former.closure = op.closure →
      former.request = op.request → ∃ uid, PressedBy platform ((world, action) :: history) device op uid ∧
        Owns platform stored ((world, action) :: history) key uid := by
    intro former before closure request
    obtain ⟨uid, pressed, owns⟩ := presses device former before (closure ▸ ofForm) key (request ▸ keyed)
    exact ⟨uid, (pressed.congr closure request).mono _, owns.mono _⟩
  obtain same | ⟨event, rfl, handled⟩ | ⟨index, _, answered, response, _, _, found, _, _, next_eq⟩ :=
    client_cases taken device
  · rw [same] at member
    exact former op member rfl rfl
  · obtain before | ⟨other, before, orphaned⟩ | ⟨scene, screenEvent, reaction, rfl, root, reacted, sent, pressed⟩ :=
      pressed_handle handled member ofForm
    · exact former op before rfl rfl
    · obtain ⟨_, _, rfl⟩ := Op.orphaned_eq_some.mp orphaned
      exact former other before rfl rfl
    · obtain ⟨uid, session, owns⟩ := owned.owns_pressed root pressed keyed
      have fresh : op = op.sent := pressed.op_eq
      rw [fresh] at sent pressed
      exact ⟨uid, ⟨world, scene, screenEvent, reaction, List.mem_cons_self, root, session, reacted, sent, pressed⟩,
        owns.mono _⟩
  · rw [next_eq] at member
    obtain before | ⟨_, rfl⟩ := Client.mem_of_mem_answered member
    · exact former op before rfl rfl
    · exact former answered (List.mem_of_getElem? found) rfl rfl

/-- Everyone who has pressed for a key owns it. -/
def OwnersPress (platform : Platform) (stored : Store String Node)
    (history : History (World devices) (Action devices)) : Prop :=
  ∀ device op uid, PressedBy platform history device op uid → ∀ key, op.request.beaconKey = some key →
    Owns platform stored history key uid

theorem World.Owned.ownersPress_cons (owned : world.Owned platform stored history)
    (owners : OwnersPress platform stored history) (action : Action devices) :
    OwnersPress platform stored ((world, action) :: history) := by
  rintro device op uid ⟨before, scene, event, reaction, member, root, session, reacted, sent, pressed⟩ key keyed
  obtain ⟨rfl, rfl⟩ | earlier := by simpa using member
  · obtain ⟨other, current, owns⟩ := owned.owns_pressed root pressed keyed
    obtain rfl := Option.some.inj (session.symm.trans current)
    exact owns.mono _
  · have pressedBefore : PressedBy platform history device op uid :=
      ⟨before, scene, event, reaction, earlier, root, session, reacted, sent, pressed⟩
    exact (owners device op uid pressedBefore key keyed).mono _

/-- What holds of every state: owners, keys and presses. -/
structure World.Guarded (platform : Platform) (stored : Store String Node)
    (history : History (World devices) (Action devices)) (world : World devices) : Prop where
  owned : world.Owned platform stored history
  keyed : world.Keyed platform stored history
  presses : world.OwnPresses platform stored history
  pressers : OwnersPress platform stored history

/-- A step that changes the record of a beacon applies what a press of its owner has
sent, or a `create` of the owner's that comes late. -/
theorem World.Guarded.changed {starts : World devices → Prop} (guarded : world.Guarded platform stored history)
    (fresh : FreshDraws stored ((world, action) :: history))
    (taken : (app platform starts).step world action = some next) {beacon : Beacon}
    (found : world.server.beacon platform key = some beacon)
    (changed : next.server.beacons.lookup key ≠ world.server.beacons.lookup key) :
    ∃ device index op, action = .answer device index .success ∧ world.applied action = some op ∧
      op.request.beaconKey = some key ∧
      (PressedOnlyBy platform history device op beacon.uid ∨ Overtaken platform history key op beacon.uid) := by
  have keyed := guarded.keyed.step taken
  obtain ⟨_, _, _, _, _, rfl⟩ |
    ⟨device, index, outcome, op, response, server, rfl, inFlight, waiting, answered, rfl⟩ := step_cases taken
  · contradiction
  have member := List.mem_of_getElem? inFlight
  have applied := World.applied_answer inFlight waiting
  have paired := (guarded.keyed.inUse.wellFormed device op member).paired
  have changed : server.beacons.lookup key ≠ world.server.beacons.lookup key := changed
  -- there is one owner of the key, who has the beacon that was found
  have owner := guarded.owned.seen (mem_seen List.mem_cons_self) found
  have byOwner : op.closure.ofForm → op.request.beaconKey = some key →
      PressedOnlyBy platform history device op beacon.uid := by
    intro ofForm requested
    obtain ⟨uid, pressed, owns⟩ := guarded.presses device op member ofForm key requested
    rw [guarded.owned.unique key uid beacon.uid owns owner] at pressed
    refine ⟨pressed, fun other also => ?_⟩
    exact guarded.owned.unique key other beacon.uid (guarded.pressers device op other also key requested) owner
  cases request_eq : op.request with
  | setBeacon written value =>
    rw [request_eq] at answered paired
    cases Server.answer_cases answered with
    | failed _ => contradiction
    | setBeacon =>
      obtain rfl : written = key := by
        by_contra different
        exact changed (by rw [lookup_setChild, if_neg (Ne.symm different)])
      refine ⟨device, index, op, rfl, applied, by rw [request_eq]; rfl, ?_⟩
      generalize closure_eq : op.closure = closure at paired
      cases paired with
      | updateBeacon => exact .inl (byOwner (by rw [closure_eq]; rfl) (by rw [request_eq]; rfl))
      | @create _ author =>
        -- a `create` finds nothing at its key, unless it comes after an update
        have created : world.creates (.answer device index .success) = some (written, author.dictValue) := by
          rw [World.creates_applied applied, Op.created, request_eq, closure_eq]
        obtain absent | overtaken := guarded.keyed.created_new keyed fresh created
        · obtain ⟨node, lookup, _⟩ := Option.bind_eq_some_iff.mp found
          simp [absent] at lookup
        · obtain ⟨beacon', write, authored, sets⟩ :=
            guarded.owned.accounted.authored device op member written _ request_eq
          obtain rfl : write = .create := by simpa [closure_eq] using sets.2.symm
          exact .inr ⟨beacon', authored, sets,
            guarded.owned.unique written _ _ (.inr ⟨beacon', _, authored, rfl⟩) owner, overtaken⟩
  | removeBeacon removed =>
    rw [request_eq] at answered paired
    cases Server.answer_cases answered with
    | failed _ => contradiction
    | removeBeacon =>
      obtain rfl : removed = key := by
        by_contra different
        exact changed (Store.lookup_erase_of_ne _ (Ne.symm different))
      refine ⟨device, index, op, rfl, applied, by rw [request_eq]; rfl, .inl ?_⟩
      generalize closure_eq : op.closure = closure at paired
      cases paired
      exact byOwner (by rw [closure_eq]; rfl) (by rw [request_eq]; rfl)
  | _ =>
    rw [request_eq] at answered
    cases Server.answer_cases answered <;> contradiction

/-- In every run whose events keep to one account on each device and whose draws
are new, a step that changes or removes the record of a beacon applies an operation
that was sent, on the device that it is answered on, by a press on a form with the
beacon's own user signed in there, and by no other user's press; or a `create` of
that user's for the very key, which an update of the beacon has overtaken. -/
theorem beacons_changed_by_owner (execution : Execution (app platform (StartsWith stored)) history world)
    (fresh : FreshDraws stored history) (keeps : EveryStep KeepsAccount history) :
    EveryStep (fun history world action => ∀ next,
      (app platform (StartsWith stored)).step world action = some next → ∀ key beacon,
        world.server.beacon platform key = some beacon →
        next.server.beacons.lookup key ≠ world.server.beacons.lookup key →
        ∃ device index op, action = .answer device index .success ∧ world.applied action = some op ∧
          op.request.beaconKey = some key ∧
          (PressedOnlyBy platform history device op beacon.uid ∨ Overtaken platform history key op beacon.uid))
      history := by
  refine execution.everyStep (fun history world => world.Guarded platform stored history) ?starts ?preserved ?sound
    (fresh.everyStep.and keeps)
  case starts =>
    rintro world ⟨idle, rfl⟩
    refine ⟨.of_idle idle, .of_idle idle, fun device op member => ?_, fun _ _ _ pressed => ?_⟩
    · rw [idle device] at member
      contradiction
    · obtain ⟨_, _, _, _, member, _⟩ := pressed
      contradiction
  case preserved =>
    rintro history world action next guarded ⟨fresh, keeps⟩ taken
    exact ⟨guarded.owned.step fresh keeps taken, guarded.keyed.step taken,
      guarded.presses.step guarded.owned taken, guarded.owned.ownersPress_cons guarded.pressers action⟩
  case sound =>
    rintro history world action _ guarded ⟨fresh, _⟩ _ next taken key beacon found changed
    exact guarded.changed fresh taken found changed

/-! ## Ann's removal -/

theorem annPressesRemove_besideCampfire :
    (besideCampfire.replay [] (World.installed .withBeacon) annPressesRemove).isSome := by
  decide +kernel

/-- Ann has pressed Remove, and the server has not answered. -/
def annPressed : History (World 1) (Action 1) × World 1 :=
  besideCampfire.reached (World.installed .withBeacon) annPressesRemove annPressesRemove_besideCampfire

theorem annPressed_answered : (besideCampfire.step annPressed.2 (.answer 0 1 .success)).isSome := by
  decide +kernel

theorem drawn_annPressed : drawn ((annPressed.2, .answer 0 1 .success) :: annPressed.1) = [] := by
  decide +kernel

theorem annPressed_removes : ∃ op, annPressed.2.applied (.answer 0 1 .success) = some op ∧
    op.request.beaconKey = some "campfire" ∧ PressedOnlyBy .sample annPressed.1 0 op "ann" := by
  have taken := (Option.some_get annPressed_answered).symm
  have execution : Execution besideCampfire ((annPressed.2, .answer 0 1 .success) :: annPressed.1)
      (Option.get _ annPressed_answered) := (besideCampfire.execution_reached ⟨idle_installed .withBeacon, rfl⟩ annPressesRemove
    annPressesRemove_besideCampfire).step taken
  have none := drawn_annPressed
  have fresh : FreshDraws Server.withBeacon.beacons ((annPressed.2, .answer 0 1 .success) :: annPressed.1) := by
    constructor <;> simp [none]
  have owned : (annPressed.2.server.beacon .sample "campfire").map Beacon.uid = some "ann" := by
    decide +kernel
  obtain ⟨beacon, found, uid⟩ := Option.map_eq_some_iff.mp owned
  have gone : ((Option.get _ annPressed_answered).server.beacons.lookup "campfire").isSome = false := by
    decide +kernel
  have before : (annPressed.2.server.beacons.lookup "campfire").isSome = true := by
    decide +kernel
  obtain ⟨device, index, op, answer, applied, keyed, pressed | late⟩ :=
    (beacons_changed_by_owner execution fresh (by decide +kernel)).1 _ taken "campfire" beacon found (by
      intro same
      simp [same, before] at gone)
  · cases answer
    exact ⟨op, applied, keyed, uid ▸ pressed⟩
  · -- no `create` has been called
    obtain ⟨_, authored, _⟩ := late
    obtain ⟨entry, member, _, draws, drew, _⟩ := (authored.mono (annPressed.2, .answer 0 1 .success)).drew
    have listed : draws ∈ drawn ((annPressed.2, .answer 0 1 .success) :: annPressed.1) :=
      List.mem_filterMap.mpr ⟨entry, member, drew⟩
    simp [none] at listed

end Lyv
