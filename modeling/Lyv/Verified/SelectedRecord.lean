import Lyv.App.Authors

/-!
# What Update and Remove write

The beacon of the form was decoded from a record, and it carries that record's
key through the listing, the filter, the selection and the segue.  A press
therefore finds a key to unwrap, and its writes change that record alone and,
for an update, the record of the user.
-/

namespace Lyv

open Lyv.Library Lyv.Firebase

variable {devices : Nat} {platform : Platform} {starts : World devices → Prop}

/-- The form that is shown. -/
def Client.form (client : Client) : Option UpdateController :=
  match client.root with
  | .main { screen := .update _ form, .. } => some form
  | _ => none

theorem Client.form_eq_some {client : Client} {form : UpdateController} :
    client.form = some form ↔
      ∃ scene profile, client.root = .main scene ∧ scene.screen = .update profile form := by
  unfold Client.form
  constructor
  · intro shown
    split at shown
    next home profile form' root =>
      cases shown
      exact ⟨_, profile, root, rfl⟩
    next => contradiction
  · rintro ⟨⟨home, _⟩, profile, root, rfl⟩
    rw [root]

/-- A press on a form was taken that writes this. -/
def PressedIn (history : History (World devices) (Action devices)) (device : Fin devices)
    (request : Request) (closure : Closure) : Prop :=
  ∃ before scene event, (before, Action.event device (.screen event)) ∈ history ∧
    (before.client device).root = .main scene ∧
    Pressed scene (before.client device).userCurrent event { request := request, closure := closure }

/-- Nothing changes but the record that the request names. -/
def Request.ChangesOnly (request : Request) (before after : Server) : Prop :=
  match request with
  | .setBeacon key _ | .removeBeacon key =>
    after.accounts = before.accounts ∧ after.users = before.users ∧
      ∀ other, other ≠ key → after.beacons.lookup other = before.beacons.lookup other
  | .setUser uid _ =>
    after.accounts = before.accounts ∧ after.beacons = before.beacons ∧
      ∀ other, other ≠ uid → after.users.lookup other = before.users.lookup other
  | _ => after = before

/-! ## Presses and their writes -/

theorem PressedIn.mono {history : History (World devices) (Action devices)} {device : Fin devices}
    {request : Request} {closure : Closure} (pressed : PressedIn history device request closure)
    (entry : World devices × Action devices) : PressedIn (entry :: history) device request closure := by
  obtain ⟨before, scene, event, member, rest⟩ := pressed
  exact ⟨before, scene, event, List.mem_cons_of_mem _ member, rest⟩

/-- Every write of a form that is in flight was pressed. -/
def World.WritesPressed (history : History (World devices) (Action devices)) (world : World devices) : Prop :=
  ∀ device, ∀ op ∈ (world.client device).network, op.closure.ofForm →
    PressedIn history device op.request op.closure

theorem Pressed.op_eq {scene : MainScene} {current : Except Trap (Nat × User)} {event : ScreenEvent} {op : Op}
    (pressed : Pressed scene current event op) : op = { request := op.request, closure := op.closure } := by
  cases pressed <;> rfl

theorem writesPressed_step {history : History (World devices) (Action devices)} {world next : World devices}
    {action : Action devices} (pressed : world.WritesPressed history)
    (taken : (app platform starts).step world action = some next) :
    next.WritesPressed ((world, action) :: history) := by
  intro device op member ofForm
  obtain same | ⟨event, rfl, handled⟩ | ⟨index, _, answered, response, _, _, found, _, _, next_eq⟩ :=
    client_cases taken device
  · rw [same] at member
    exact (pressed device op member ofForm).mono _
  · obtain before | ⟨former, before, orphaned⟩ | ⟨scene, screenEvent, _, rfl, root, _, _, here⟩ :=
      pressed_handle handled member ofForm
    · exact (pressed device op before ofForm).mono _
    · obtain ⟨_, _, rfl⟩ := Op.orphaned_eq_some.mp orphaned
      exact (pressed device former before ofForm).mono _
    · exact ⟨world, scene, screenEvent, List.mem_cons_self, root, here.op_eq ▸ here⟩
  · rw [next_eq] at member
    obtain before | ⟨_, rfl⟩ := Client.mem_of_mem_answered member
    · exact (pressed device op before ofForm).mono _
    · exact (pressed device answered (List.mem_of_getElem? found) ofForm).mono _

theorem Server.changesOnly_answer {server view next : Server} {request : Request} {response : Response}
    (write : request.isWrite) (created : ∀ email password, request ≠ .createUser email password)
    (answered : server.answer view request .success = some (response, next)) :
    request.ChangesOnly server next := by
  cases Server.answer_cases answered with
  | setUser =>
    refine ⟨rfl, rfl, fun other different => ?_⟩
    rw [lookup_setChild, if_neg different]
  | setBeacon =>
    refine ⟨rfl, rfl, fun other different => ?_⟩
    rw [lookup_setChild, if_neg different]
  | removeBeacon => exact ⟨rfl, rfl, fun other different => Store.lookup_erase_of_ne _ different⟩
  | logIn | signInWithEmail _ _ _ | observeUser | observeBeacons => contradiction

/-! ## The form's key -/

theorem Client.Traced.form {client : Client} {origin : Beacon → Prop} {form : UpdateController}
    (traced : client.Traced platform origin) (shown : client.form = some form) :
    ∃ beacon, form.beacon = some beacon ∧ origin beacon := by
  obtain ⟨scene, profile, root, screen⟩ := Client.form_eq_some.mp shown
  obtain ⟨beacon, held⟩ := Option.isSome_iff_exists.mp (traced.selected scene root profile form screen)
  refine ⟨beacon, held, traced.held beacon ?_⟩
  rw [Client.held_of_root root, MainScene.held, screen, Screen.held, held]
  simp

/-- An event on a device whose beacons have their keys does not stop for one. -/
theorem keyed_handle {client next : Client} {event : Event} {servers : List Server}
    (traced : client.Traced platform (DecodedIn platform servers))
    (keyed : client.root ≠ .trapped (.unexpectedNil "beacon.key!"))
    (present : ∀ trap, client.userCurrent = .error trap → trap ≠ .unexpectedNil "beacon.key!")
    (handled : client.handle platform event = some next) :
    next.root ≠ .trapped (.unexpectedNil "beacon.key!") := by
  intro trapped
  generalize key_eq : Trap.unexpectedNil "beacon.key!" = trap at trapped
  obtain before | stops := Client.handle_trapped handled trapped
  · exact keyed (key_eq ▸ before)
  · cases stops with
    | picture => simp at key_eq
    | listed _ _ _ unread => exact present _ unread key_eq.symm
    | screen root stops =>
      cases stops with
      | picture => simp at key_eq
      | session unread => exact present _ unread key_eq.symm
      | key screen keyless =>
        obtain ⟨beacon, held, key, keyed, _⟩ := traced.form (Client.form_eq_some.mpr ⟨_, _, root, screen⟩)
        simp [held, keyed] at keyless

/-- What holds of every state of a run: beacons have their records, writes have
their presses, and no process has stopped for want of a key. -/
structure World.Selects (platform : Platform) (history : History (World devices) (Action devices))
    (world : World devices) : Prop where
  traced : world.Traced platform history
  pressed : world.WritesPressed history
  keyed : ∀ device, (world.client device).root ≠ .trapped (.unexpectedNil "beacon.key!")

theorem userCurrent_error {client : Client} {trap : Trap} (unread : client.userCurrent = .error trap) :
    trap ≠ .unexpectedNil "beacon.key!" := by
  rintro rfl
  unfold Client.userCurrent at unread
  split at unread
  · simp [throw, throwThe, MonadExceptOf.throw] at unread
  · split at unread <;> simp [throw, throwThe, MonadExceptOf.throw, pure, Except.pure] at unread

theorem World.Selects.step {history : History (World devices) (Action devices)} {world next : World devices}
    {action : Action devices} (selects : world.Selects platform history)
    (taken : (app platform starts).step world action = some next) :
    next.Selects platform ((world, action) :: history) where
  traced := selects.traced.step taken
  pressed := writesPressed_step selects.pressed taken
  keyed := forall_client_step (fun client => client.root ≠ .trapped (.unexpectedNil "beacon.key!"))
    (fun device _ _ keyed handled => keyed_handle (selects.traced device) keyed
      (fun _ => userCurrent_error) handled)
    (fun _ _ _ _ keyed _ => keyed) selects.keyed taken

theorem World.Selects.of_execution {history : History (World devices) (Action devices)}
    {world : World devices} (execution : Execution (app platform Idle) history world) :
    world.Selects platform history :=
  execution.always (fun history world => world.Selects platform history)
    (fun world (idle : Idle world) => ⟨.of_idle idle [],
      fun device op member => by rw [idle device] at member; simp at member,
      fun device => by rw [idle device]; simp⟩)
    (fun _ _ _ _ selects taken => selects.step taken)

/-- The beacon of a form has the key of the record that it was decoded from, as the
device saw it, so no press traps on it; and what a press writes changes the record at that key alone,
or the record of the current user. -/
theorem selected_record_written {history : History (World devices) (Action devices)}
    {world next : World devices} {action : Action devices}
    (execution : Execution (app platform Idle) history world)
    (taken : (app platform Idle).step world action = some next) :
    (∀ device form, (world.client device).form = some form →
      ∃ beacon key, form.beacon = some beacon ∧ beacon.key = some key ∧
        ∃ view ∈ viewed device history world, view.beacon platform key = some beacon) ∧
    (∀ device, (next.client device).root ≠ .trapped (.unexpectedNil "beacon.key!")) ∧
    ∀ op, world.applied action = some op → op.closure.ofForm →
      (∃ device, PressedIn history device op.request op.closure) ∧
        op.request.ChangesOnly world.server next.server := by
  have selects := World.Selects.of_execution execution
  refine ⟨fun device form shown => ?_, (selects.step taken).keyed, fun op applied ofForm => ?_⟩
  · obtain ⟨beacon, held, key, keyed, stored⟩ := (selects.traced device).form shown
    exact ⟨beacon, key, held, keyed, stored⟩
  · obtain ⟨device, index, rfl, found, waiting⟩ := World.applied_eq_some applied
    have pressed := selects.pressed device op (List.mem_of_getElem? found) ofForm
    refine ⟨⟨device, pressed⟩, ?_⟩
    obtain ⟨_, _, _, same, _⟩ | ⟨_, _, _, other, response, server, same, found', _, answered, rfl⟩ :=
      step_cases taken
    · contradiction
    · cases same
      obtain rfl := Option.some.inj (found.symm.trans found')
      obtain ⟨_, _, _, _, _, pressed⟩ := pressed
      generalize op.request = request at answered pressed
      generalize op.closure = closure at pressed
      cases pressed <;> exact Server.changesOnly_answer rfl (by simp) answered

/-- Ann opens the first beacon of her profile and presses Remove. -/
def annPressesRemove : List (Action 1) := annOpensProfile ++
  [.event 0 (.screen (.didSelectItemAt 0)), .event 0 (.screen .removeButtonPressed)]

theorem annPressesRemove_taken :
    ((app .sample Idle).replay [] (World.installed .crowded) annPressesRemove).isSome := by
  decide +kernel

def World.annRemoving : World 1 :=
  ((app .sample Idle).reached (World.installed .crowded) annPressesRemove annPressesRemove_taken).2

theorem annRemoving_answered :
    ((app .sample Idle).step .annRemoving (.answer 0 1 .success)).isSome := by
  decide +kernel

/-- The lantern goes, and the campfire, which has the same owner and contents, stays. -/
theorem annRemoving_changesOnly :
    (World.annRemoving.server.beacons.lookup "lantern").isSome ∧
      (World.annRemoving.server.beacons.lookup "campfire").isSome ∧
      (Option.get _ annRemoving_answered).server.beacons.lookup "lantern" = none ∧
      ∀ other, other ≠ "lantern" → (Option.get _ annRemoving_answered).server.beacons.lookup other =
        World.annRemoving.server.beacons.lookup other := by
  have written := (selected_record_written ((app .sample Idle).execution_reached (idle_installed .crowded)
    annPressesRemove annPressesRemove_taken) (Option.some_get annRemoving_answered).symm).2.2
  have applied : (World.annRemoving.applied (.answer 0 1 .success)).any (fun op => op.closure.ofForm &&
      decide (op.request.beaconKey = some "lantern")) = true := by
    decide +kernel
  obtain ⟨op, found, checked⟩ := (Option.any_eq_true _ _).mp applied
  obtain ⟨ofForm, named⟩ := Bool.and_eq_true_iff.mp checked
  have named := of_decide_eq_true named
  have changed := (written op found ofForm).2
  have gone : (Option.get _ annRemoving_answered).server.beacons.lookup "lantern" = none :=
    Option.isNone_iff_eq_none.mp (by decide +kernel)
  refine ⟨by decide +kernel, by decide +kernel, gone, ?_⟩
  generalize op.request = request at named changed
  cases request with
  | setBeacon key value | removeBeacon key =>
    obtain rfl := Option.some.inj named
    exact changed.2.2
  | _ => contradiction

end Lyv
