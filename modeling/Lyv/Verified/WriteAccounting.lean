import Lyv.Library.Counting
import Lyv.Verified.ProcessStops

/-!
# What becomes of writes

A write that an event begins is in flight until it is applied, or until it comes to
nothing: the server rejects it, or it is lost with the process that sent it.  On each
device the writes that were begun are those that were applied, those that came to
nothing and those that still wait.
-/

namespace Lyv

open Lyv.Library Lyv.Firebase

variable {devices : Nat} {platform : Platform} {starts : World devices → Prop}

/-! ## What is started and what is answered -/

/-- The writes that an event on a screen begins: those of `create`, of a form that is saved,
and of one whose beacon is removed. -/
def MainScene.begins (platform : Platform) (current : Except Trap (Nat × User)) (scene : MainScene) :
    ScreenEvent → List Request
  | .create beacon draws => [.setBeacon (Helper.randomAlphaNumericString draws) beacon.dictValue]
  | .launchButtonPressed locationServicesEnabled now =>
    match scene.screen with
    | .update _ form =>
      match form.updateBeacon platform (current.map fun user => user.2.uid) locationServicesEnabled now,
        current with
      | .ok (.inr newBeacon), .ok (_, user) =>
        (newBeacon.key.map fun key => Request.setBeacon key newBeacon.dictValue).toList ++
          [.setUser user.uid user.dictValue]
      | _, _ => []
    | _ => []
  | .removeButtonPressed =>
    match scene.screen with
    | .update _ form => ((form.beacon.bind Beacon.key).map Request.removeBeacon).toList
    | _ => []
  | _ => []

/-- The write that a completion goes on with: the record of a new user. -/
def Closure.begins : Closure → Response → List Request
  | .facebookShown _ firUser, .record snapshot =>
    match User.ofSnapshot snapshot with
    | some _ => []
    | none => [.setUser firUser.uid (UserService.userAttrs firUser (firUser.displayName.getD "Name"))]
  | .signUpCreated _ name, .signedIn firUser => [.setUser firUser.uid (UserService.userAttrs firUser name)]
  | _, _ => []

def Client.begins (platform : Platform) (client : Client) : Event → List Request
  | .didTapSignUpButton email password _ => [.createUser email password]
  | .screen event =>
    match client.root with
    | .main scene => scene.begins platform client.userCurrent event
    | _ => []
  | .deliver index _ =>
    match client.network[index]? with
    | some op => op.response.toList.flatMap op.closure.begins
    | none => []
  | _ => []

/-- The writes that the events on a device have begun, the latest first. -/
def begun (platform : Platform) (device : Fin devices) :
    History (World devices) (Action devices) → List Request
  | [] => []
  | (world, .event active event) :: history =>
    (if active = device then (world.client device).begins platform event else []) ++
      begun platform device history
  | (_, .answer _ _ _) :: history => begun platform device history

/-- The answer is an error: the request was rejected, or lost. -/
def Outcome.failed : Outcome → Bool
  | .failure _ => true
  | _ => false

/-- The requests of a device that have failed, or those that have not, of all that got an
answer, the latest first. -/
def settled (device : Fin devices) (failed : Bool) : History (World devices) (Action devices) → List Request
  | [] => []
  | (world, .answer active index outcome) :: history =>
    (if active = device ∧ outcome.failed = failed then ((world.pending device index).map Op.request).toList
      else []) ++ settled device failed history
  | (_, .event _ _) :: history => settled device failed history

/-- The operation waits for its answer, and is one of those counted. -/
def Op.waits (counts : Request → Bool) (op : Op) : Bool := op.response.isNone && counts op.request

/-! ## Screens -/

section

variable {counts : Request → Bool}

theorem uncounted (writes : ∀ request, counts request → request.isWrite) {request : Request}
    (read : request.isWrite = false) : counts request = false := by
  by_contra counted
  simp [writes request (by simpa using counted)] at read

theorem countP_waits (sent : List Op) (waiting : ∀ op ∈ sent, op.response = none) :
    sent.countP (Op.waits counts) = (sent.map Op.request).countP counts := by
  rw [List.countP_map]
  refine List.countP_congr fun op member => ?_
  simp [Op.waits, waiting op member]

/-- What a profile sends when it comes up is no write. -/
theorem MainScene.countP_profileAppears (writes : ∀ request, counts request → request.isWrite)
    {current : Except Trap (Nat × User)} {profile : ProfileController} {sent : List Op}
    (appears : profileAppears current profile = .ok sent) : sent.countP (Op.waits counts) = 0 := by
  refine List.countP_eq_zero.mpr fun op member => ?_
  have read : op.request.isWrite = false := by
    cases (profileAppears_sent appears op member : ScreenOp current .exitToProfile op) with
    | beacons _ | getBeacons _ _ => rfl
  simp [Op.waits, uncounted writes read]

theorem MainScene.begins_launchButtonPressed (writes : ∀ request, counts request → request.isWrite)
    {current : Except Trap (Nat × User)} {scene : MainScene} {profile : ProfileController}
    {form : UpdateController} {enabled : Bool} {now : SwiftDouble} {reaction : Reaction}
    (screen : scene.screen = .update profile form)
    (pressed : launchButtonPressed platform current scene profile form enabled now = .ok reaction) :
    reaction.sent.countP (Op.waits counts) =
      (scene.begins platform current (.launchButtonPressed enabled now)).countP counts := by
  obtain ⟨outcome, updated, rest⟩ := bind_eq_ok.mp pressed
  cases outcome with
  | inl message =>
    obtain rfl := pure_eq_ok.mp rest
    simp [begins, screen, updated]
  | inr newBeacon =>
    obtain ⟨update, keyed, rest⟩ := bind_eq_ok.mp rest
    obtain ⟨⟨reference, user⟩, signedIn, rest⟩ := bind_eq_ok.mp rest
    obtain ⟨appears, appears_eq, rest⟩ := bind_eq_ok.mp rest
    obtain rfl := pure_eq_ok.mp rest
    have reads := MainScene.countP_profileAppears writes appears_eq
    unfold BeaconService.updateBeacon at keyed
    split at keyed
    · contradiction
    next key key_eq =>
      obtain rfl := pure_eq_ok.mp keyed
      subst signedIn
      have begun : scene.begins platform (.ok (reference, user)) (.launchButtonPressed enabled now) =
          [.setBeacon key newBeacon.dictValue, .setUser user.uid user.dictValue] := by
        simp [begins, screen, updated, key_eq]
      rw [begun, List.countP_cons, List.countP_cons, reads]
      simp [Op.waits, UserService.updateUserValues, List.countP_cons]

theorem MainScene.begins_removeButtonPressed (writes : ∀ request, counts request → request.isWrite)
    {current : Except Trap (Nat × User)} {scene : MainScene} {profile : ProfileController}
    {form : UpdateController} {reaction : Reaction} (screen : scene.screen = .update profile form)
    (pressed : removeButtonPressed current scene profile form = .ok reaction) :
    reaction.sent.countP (Op.waits counts) =
      (scene.begins platform current .removeButtonPressed).countP counts := by
  obtain ⟨removed, removal_eq, rest⟩ := bind_eq_ok.mp pressed
  obtain ⟨appears, appears_eq, rest⟩ := bind_eq_ok.mp rest
  obtain rfl := pure_eq_ok.mp rest
  have reads := MainScene.countP_profileAppears writes appears_eq
  rw [List.countP_append, reads]
  unfold removal at removal_eq
  split at removal_eq
  next beacon held =>
    obtain ⟨op, keyed, rfl⟩ := map_eq_ok.mp removal_eq
    unfold BeaconService.removeBeacon at keyed
    split at keyed
    · contradiction
    next key key_eq =>
      obtain rfl := pure_eq_ok.mp keyed
      simp [begins, screen, held, key_eq, Op.waits]
  next none =>
    obtain rfl := pure_eq_ok.mp removal_eq
    simp [begins, screen, none]

/-- The waiting writes that a reaction sends are those that its event begins. -/
theorem MainScene.begins_handle (writes : ∀ request, counts request → request.isWrite)
    {current : Except Trap (Nat × User)} {fresh : Nat} {scene : MainScene} {event : ScreenEvent}
    {reaction : Reaction} (handled : scene.handle platform current fresh event = some (.ok reaction)) :
    reaction.sent.countP (Op.waits counts) = (scene.begins platform current event).countP counts := by
  have observes : counts .observeBeacons = false := uncounted writes rfl
  have reacted := handle_reacted handled
  cases event with
  | launchButtonPressed enabled now =>
    simp only [handle] at handled
    split at handled
    next screen => exact begins_launchButtonPressed writes screen (Option.some.inj handled)
    · contradiction
  | removeButtonPressed =>
    simp only [handle] at handled
    split at handled
    next screen => exact begins_removeButtonPressed writes screen (Option.some.inj handled)
    · contradiction
  | create beacon draws =>
    cases reacted
    simp [begins, BeaconService.create, Op.waits, List.countP_cons]
  | switchPressed | homeLocation _ | leaveHome | didSelectItemAt _ | edit _ | updateLocation _ =>
    cases reacted
    rfl
  | exitToHome =>
    cases reacted
    simp [begins, BeaconService.beacons, Op.waits, observes]
  | profileButtonPressed =>
    cases reacted with
    | profileButtonPressed _ _ appears => exact countP_profileAppears writes appears
  | exitToProfile =>
    cases reacted with
    | exitToProfile _ appears => exact countP_profileAppears writes appears

end

/-! ## Devices -/

namespace Client

variable {client next : Client} {counts : Request → Bool}

/-- A dying process leaves its writes in flight. -/
theorem waits_die (writes : ∀ request, counts request → request.isWrite) (root : Root) :
    (client.die root).network.countP (Op.waits counts) = client.network.countP (Op.waits counts) := by
  show (client.network.filterMap Op.orphaned).countP _ = _
  rw [List.countP_filterMap]
  refine List.countP_congr fun op _ => ?_
  unfold Op.orphaned Op.waits
  cases op.response with
  | some response => simp
  | none =>
    cases write : op.request.isWrite with
    | true => simp
    | false => simp [uncounted writes write]

theorem waits_send (op : Op) (waiting : op.response = none) :
    (client.send op).network.countP (Op.waits counts) =
      client.network.countP (Op.waits counts) + [op.request].countP counts := by
  rw [send, List.countP_append, countP_waits [op] (by simpa using waiting), List.map_singleton]

theorem waits_read (writes : ∀ request, counts request → request.isWrite) (op : Op) (waiting : op.response = none)
    (read : op.request.isWrite = false) :
    (client.send op).network.countP (Op.waits counts) = client.network.countP (Op.waits counts) := by
  simp [waits_send op waiting, uncounted writes read]

theorem waits_signedIn (writes : ∀ request, counts request → request.isWrite) (scene : Nat) (inWindow : Bool)
    (user : User) :
    (client.signedIn scene inWindow user).network.countP (Op.waits counts) =
      client.network.countP (Op.waits counts) := by
  obtain ⟨_, _, entered⟩ | ⟨_, stayed⟩ := signedIn_cases client scene inWindow user
  · rw [entered]
    exact waits_read writes (BeaconService.beacons client.fresh) rfl rfl
  · rw [stayed]
    rfl

theorem waits_complete (writes : ∀ request, counts request → request.isWrite) (inWindow : Bool)
    (closure : Closure) (response : Response) :
    (client.complete platform inWindow closure response).network.countP (Op.waits counts) =
      client.network.countP (Op.waits counts) + (closure.begins response).countP counts := by
  unfold complete
  split
  · exact waits_read writes _ rfl rfl
  · split
    · exact waits_signedIn writes _ _ _
    · rfl
  · exact waits_read writes _ rfl rfl
  · rfl
  · exact waits_read writes _ rfl rfl
  next scene firUser snapshot =>
    split
    next user decoded =>
      simp only [Closure.begins, decoded, List.countP_nil, Nat.add_zero]
      exact waits_signedIn writes _ _ _
    next missing =>
      simp only [Closure.begins, missing]
      exact waits_send _ rfl
  · exact waits_send _ rfl
  · exact waits_read writes _ rfl rfl
  · split
    · exact waits_signedIn writes _ _ _
    · rfl
  · split <;> rfl
  · split <;> rfl
  next uid profile children =>
    obtain ⟨trap, _, crashed⟩ | ⟨_, _, _, listed⟩ := getBeaconsCompletion_cases client profile platform children uid
    · rw [crashed]
      exact waits_die writes _
    · rw [listed]
      rfl
  next home children =>
    obtain ⟨trap, crashed⟩ | ⟨_, _, _, drawn⟩ | unseen :=
      beaconsCompletion_cases platform client home (BeaconService.decode platform children)
    · rw [crashed]
      exact waits_die writes _
    · rw [drawn]
      rfl
    · rw [unseen]
      rfl
  next =>
    have nothing : closure.begins response = [] := by
      unfold Closure.begins
      split <;> simp_all
    rw [nothing]
    rfl

/-- After an event the waiting writes are those that waited before and those that the event begins. -/
theorem waits_handle (writes : ∀ request, counts request → request.isWrite) {event : Event}
    (uncrashed : ∀ scene event trap, client.root = .main scene →
      scene.handle platform client.userCurrent client.fresh event ≠ some (.error trap))
    (handled : client.handle platform event = some next) :
    next.network.countP (Op.waits counts) =
      client.network.countP (Op.waits counts) + (client.begins platform event).countP counts := by
  cases handle_cases handled with
  | launch _ =>
    obtain ⟨_, _, _, _, entered⟩ | ⟨_, shown⟩ := configureInitialRootViewController_cases client
    · rw [entered]
      exact waits_read writes (BeaconService.beacons client.fresh) rfl rfl
    · rw [shown]
      rfl
  | kill => exact waits_die writes _
  | tap _ tapped =>
    cases tapped with
    | login | facebook => exact waits_read writes _ rfl rfl
    | signUp => exact waits_send _ rfl
  | logout _ | stay => rfl
  | crash _ =>
    simp only [handle, Client.screen] at handled
    split at handled
    next scene root =>
      obtain ⟨result, reacted, same⟩ := Option.map_eq_some_iff.mp handled
      cases result with
      | ok reaction => cases congrArg Client.root same
      | error other => exact absurd reacted (uncrashed scene _ other root)
    next => contradiction
  | @screen event scene reaction root reacted =>
    show (client.network ++ reaction.sent).countP (Op.waits counts) = _
    rw [List.countP_append, MainScene.begins_handle writes reacted]
    simp only [Client.begins, root]
  | @deliver index inWindow op response found responded =>
    -- the operation that is delivered has its answer, and did not wait
    have erased := countP_eraseIdx (Op.waits counts) found
    simp only [Op.waits, responded, Option.isNone_some, Bool.false_and, Bool.false_eq_true, if_false,
      Nat.add_zero] at erased
    rw [waits_complete writes]
    simp only [Client.begins, found, responded, Option.toList_some, List.flatMap_cons, List.flatMap_nil,
      List.append_nil]
    exact congrArg (· + _) erased

/-- An answer takes the operation out of those that wait. -/
theorem waits_answered {index : Nat} {op : Op} (response : Response) (found : client.network[index]? = some op)
    (waiting : op.response = none) :
    (client.answered index op response).network.countP (Op.waits counts) + [op.request].countP counts =
      client.network.countP (Op.waits counts) := by
  have waits : (if op.waits counts then 1 else 0) = [op.request].countP counts := by
    simp [Op.waits, waiting, List.countP_cons]
  unfold answered
  split
  · rw [← countP_eraseIdx (Op.waits counts) found, waits]
  · have changed := countP_set (Op.waits counts) found { op with response := some response }
    have answered : Op.waits counts { op with response := some response } = false := by
      simp [Op.waits]
    rw [answered, waits] at changed
    simpa using changed

end Client

/-! ## Runs -/

section

variable {counts : Request → Bool} {history : History (World devices) (Action devices)}
  {world next : World devices} {action : Action devices} {device : Fin devices}

/-- On the device, the writes begun are those that wait, and those that were applied or came to nothing. -/
def Balanced (platform : Platform) (counts : Request → Bool) (device : Fin devices)
    (history : History (World devices) (Action devices)) (world : World devices) : Prop :=
  (begun platform device history).countP counts =
    (world.client device).network.countP (Op.waits counts) + (settled device false history).countP counts +
      (settled device true history).countP counts

/-- An answer settles one request, one way or the other. -/
theorem countP_settled_answer {index : Nat} {op : Op} (outcome : Outcome)
    (pending : world.pending device index = some op) :
    (settled device false ((world, .answer device index outcome) :: history)).countP counts +
        (settled device true ((world, .answer device index outcome) :: history)).countP counts =
      [op.request].countP counts + (settled device false history).countP counts +
        (settled device true history).countP counts := by
  cases failed : outcome.failed <;>
    simp [settled, failed, pending, List.countP_cons] <;> omega

theorem balanced_step (writes : ∀ request, counts request → request.isWrite)
    (secured : world.Secured platform history) (balanced : Balanced platform counts device history world)
    (taken : (app platform starts).step world action = some next) :
    Balanced platform counts device ((world, action) :: history) next := by
  unfold Balanced at balanced ⊢
  obtain ⟨active, event, client, rfl, handled, rfl⟩ |
    ⟨active, index, outcome, op, response, server, rfl, found, waiting, _, rfl⟩ := step_cases taken
  · by_cases here : active = device
    · subst here
      have waits := Client.waits_handle writes
        (fun scene event trap root => secured.handle_ne_error root event trap) handled
      simp only [begun, settled, if_true, List.countP_append, World.setClient_client_self]
      omega
    · simp only [begun, settled, here, if_false, List.nil_append,
        World.setClient_client_of_ne _ (Ne.symm here)]
      exact balanced
  · have pending : world.pending active index = some op := by
      simp [World.pending, found, waiting]
    by_cases here : active = device
    · subst here
      have waits : ((world.client active).answered index op response).network.countP (Op.waits counts) +
          [op.request].countP counts = (world.client active).network.countP (Op.waits counts) :=
        Client.waits_answered response found waiting
      have answer := @countP_settled_answer devices counts history world active index op outcome pending
      show (begun platform active history).countP counts =
        ((world.setClient active _).client active).network.countP _ + _ + _
      rw [World.setClient_client_self]
      omega
    · simp only [begun, settled, here, false_and, if_false, List.nil_append]
      show _ = ((world.setClient active _).client device).network.countP _ + _ + _
      rw [World.setClient_client_of_ne _ (Ne.symm here)]
      exact balanced

/-- In every run, and for every way to count writes, the writes that a device has
begun are those that still wait for their answer, those that the server has applied,
and those that came to nothing, because the server rejected them or because they were
lost with their process. -/
theorem writes_accounted_for (writes : ∀ request, counts request → request.isWrite)
    (execution : Execution (app platform Idle) history world) (device : Fin devices) :
    (begun platform device history).countP counts =
      (world.client device).network.countP (Op.waits counts) + (settled device false history).countP counts +
        (settled device true history).countP counts := by
  obtain ⟨_, balanced⟩ := execution.always
    (fun history world => world.Secured platform history ∧ Balanced platform counts device history world)
    (fun world idle => ⟨.of_idle idle, by rw [Balanced, idle device]; rfl⟩)
    (fun _ _ _ _ kept taken => ⟨kept.1.step taken, balanced_step writes kept.1 kept.2 taken⟩)
  exact balanced

end

/-- Ann creates two beacons; one is applied, and the other is lost when the app is killed. -/
def annIsKilled : List (Action 1) := annLogsIn ++
  [.event 0 (.screen .leaveHome), .event 0 (.screen (.create .sample (List.replicate 28 (Fin.last 61)))),
    .event 0 (.screen (.create .sample (List.replicate 28 (Fin.last 60).castSucc))), .answer 0 1 .success,
    .event 0 .kill, .answer 0 0 (.failure "lost")]

theorem annIsKilled_taken :
    ((app .sample Idle).replay [] (World.installed .sample) annIsKilled).isSome := by
  decide +kernel

def annKilled : History (World 1) (Action 1) × World 1 :=
  (app .sample Idle).reached (World.installed .sample) annIsKilled annIsKilled_taken

theorem annKilled_execution : Execution (app .sample Idle) annKilled.1 annKilled.2 :=
  (app .sample Idle).execution_reached (idle_installed .sample) annIsKilled annIsKilled_taken

/-- Of the two writes one was applied and one was lost, and none waits. -/
theorem annKilled_loses : (begun .sample 0 annKilled.1).countP Request.isWrite = 2 ∧
    (settled 0 false annKilled.1).countP Request.isWrite = 1 ∧
    (settled 0 true annKilled.1).countP Request.isWrite = 1 ∧
    (annKilled.2.client 0).network.countP (Op.waits Request.isWrite) = 0 := by
  have accounted : (begun .sample 0 annKilled.1).countP Request.isWrite =
      (annKilled.2.client 0).network.countP (Op.waits Request.isWrite) +
        (settled 0 false annKilled.1).countP Request.isWrite +
        (settled 0 true annKilled.1).countP Request.isWrite :=
    writes_accounted_for (fun _ write => write) annKilled_execution 0
  have begun_two : (begun .sample 0 annKilled.1).countP Request.isWrite = 2 := by
    decide +kernel
  have applied_one : (settled 0 false annKilled.1).countP Request.isWrite = 1 := by
    decide +kernel
  have lost_one : (settled 0 true annKilled.1).countP Request.isWrite = 1 := by
    decide +kernel
  exact ⟨begun_two, applied_one, lost_one, by omega⟩

end Lyv
