import Lyv.App.Invariants

/-!
# Whether signing in spares a user's list

A Facebook sign-in reads `users/<uid>` and creates it when there is none, with a
`setValue` on the whole node.  Between the two another device may have stored a
list there.  No list is lost in the runs that store none in between.
-/

namespace Lyv

open Lyv.Library Lyv.Firebase

/-- The snapshot decodes to a user with beacons. -/
def listsBeacons (snapshot : DataSnapshot) : Bool :=
  match User.ofSnapshot snapshot with
  | some user => !user.beacons.isEmpty
  | none => false

theorem isSome_of_listsBeacons {snapshot : DataSnapshot} (lists : listsBeacons snapshot) :
    (User.ofSnapshot snapshot).isSome := by
  unfold listsBeacons at lists
  split at lists
  next decoded => rw [decoded]; rfl
  next => contradiction

/-- The operation is a Facebook sign-in of the user that has found no record, or
the `create` that follows, still under way. -/
def Op.creates (op : Op) (uid : String) : Bool :=
  match op.closure, op.response with
  | .userCreated .facebook target _, none => target == uid
  | .facebookShown _ firUser, some (.record snapshot) =>
    firUser.uid == uid && (User.ofSnapshot snapshot).isNone
  | _, _ => false

variable {devices : Nat} {platform : Platform}

/-- What was last written at `users/<uid>` is a non-empty list, by `updateUserValues`. -/
def storedList (uid : String) : History (World devices) (Action devices) → Bool
  | [] => false
  | (world, action) :: history =>
    match world.applied action with
    | some { request := .setUser target value, closure, .. } =>
      if target = uid then closure.updates && listsBeacons ⟨uid, nodeFrom value⟩
      else storedList uid history
    | _ => storedList uid history

/-- The action applies a `create` of a sign-in where a list has been stored. -/
def erasesList (history : History (World devices) (Action devices)) (world : World devices)
    (action : Action devices) : Bool :=
  match world.applied action with
  | some { request := .setUser uid _, closure := .userCreated .facebook _ _, .. } => storedList uid history
  | _ => false

/-- Some `create` of a sign-in has removed a list that `updateUserValues` had stored. -/
def erased : History (World devices) (Action devices) → Bool
  | [] => false
  | (world, action) :: history => erasesList history world action || erased history

/-- A list is stored for a user only while nobody is about to create that user. -/
def World.storesSafely (world : World devices) (action : Action devices) : Bool :=
  match world.applied action with
  | some { request := .setUser uid value, closure, .. } =>
    !(closure.updates && listsBeacons ⟨uid, nodeFrom value⟩) ||
      decide (∀ device, ∀ op ∈ (world.client device).network, op.creates uid = false)
  | _ => true

/-- No list is stored for a user while a Facebook sign-in is about to create that user. -/
def NoListWhileCreating : Guard (World devices) (Action devices) := fun _ world action =>
  world.storesSafely action

instance (history : History (World devices) (Action devices)) (world : World devices)
    (action : Action devices) : Decidable (NoListWhileCreating history world action) :=
  inferInstanceAs (Decidable (world.storesSafely action = true))

/-- A stored list is in the record, and nobody is about to create that record. -/
structure ListsSafe (history : History (World devices) (Action devices)) (world : World devices) : Prop where
  sound : world.Sound
  stored : ∀ uid, storedList uid history → listsBeacons (world.server.snapshotOfUser uid)
  uncreated : ∀ uid, storedList uid history →
    ∀ device, ∀ op ∈ (world.client device).network, op.creates uid = false

theorem creates_of_follows {closure : Closure} {response : Response} {op : Op} {uid : String}
    (follows : Follows closure response op) (creates : op.creates uid) :
    ∃ scene firUser snapshot, closure = .facebookShown scene firUser ∧ firUser.uid = uid ∧
      response = .record snapshot ∧ User.ofSnapshot snapshot = none := by
  cases follows with
  | @facebookCreate scene firUser snapshot missing =>
    exact ⟨scene, firUser, snapshot, rfl, by simpa [Op.creates, UserService.create] using creates, rfl,
      missing⟩
  | loginShow | facebookSignIn | facebookShow | signUpCreate | createdShow =>
    simp [Op.creates, UserService.observe, UserService.create] at creates

/-- Only the completion of a sign-in that has found no record sends a `create`. -/
theorem creates_of_sent {client : Client} {event : Event} {op : Op} {uid : String}
    (sent : Sent client event op) (creates : op.creates uid) :
    ∃ answered ∈ client.network, answered.creates uid := by
  cases sent with
  | beacons home => simp [Op.creates, BeaconService.beacons] at creates
  | tap _ tapped => cases tapped <;> simp [Op.creates] at creates
  | screen sent =>
    cases sent <;> simp [Op.creates, BeaconService.beacons, BeaconService.create, UserService.getBeacons,
      UserService.updateUserValues] at creates
  | @follow index inWindow answered _ response found responded follows =>
    obtain ⟨scene, firUser, snapshot, closure, rfl, rfl, missing⟩ := creates_of_follows follows creates
    exact ⟨answered, List.mem_of_getElem? found, by simp [Op.creates, closure, responded, missing]⟩

theorem creates_of_orphaned {former op : Op} {uid : String} (orphaned : former.orphaned = some op)
    (creates : op.creates uid) : former.creates uid := by
  obtain ⟨_, waiting, rfl⟩ := Op.orphaned_eq_some.mp orphaned
  simpa [Op.creates, waiting] using creates

/-- An answer starts a creation only where the process sees no user. -/
theorem creates_of_answered {server view next : Server} {outcome : Outcome} {former : Op} {response : Response}
    {uid : String} (paired : Paired former.request former.closure)
    (answered : server.answer view former.request outcome = some (response, next))
    (creates : Op.creates { former with response := some response } uid) :
    view.user uid = none ∧ former.request = .observeUser uid := by
  obtain ⟨request, closure, _, orphan⟩ := former
  cases paired with
  | @facebookShown scene firUser =>
    -- the answer of `show` is where a creation starts
    cases Server.answer_cases answered with
    | failed error => simp [Op.creates] at creates
    | observeUser =>
      simp only [Op.creates, Bool.and_eq_true, beq_iff_eq, Option.isNone_iff_eq_none] at creates
      obtain ⟨rfl, missing⟩ := creates
      exact ⟨missing, rfl⟩
  | @userCreated firUser username flow scene => cases flow <;> simp [Op.creates] at creates
  | _ => simp [Op.creates] at creates

theorem storedList_unapplied {uid : String} {world : World devices} {action : Action devices}
    {history : History (World devices) (Action devices)} (unapplied : world.applied action = none) :
    storedList uid ((world, action) :: history) = storedList uid history := by
  simp [storedList, unapplied]

/-- No event starts a creation of a user where none is under way. -/
theorem uncreated_event {world next : World devices} {active : Fin devices} {event : Event} {uid : String}
    (taken : (app platform Idle).step world (.event active event) = some next)
    (uncreated : ∀ device, ∀ op ∈ (world.client device).network, op.creates uid = false) :
    ∀ device, ∀ op ∈ (next.client device).network, op.creates uid = false := by
  intro device op member
  by_contra creates
  have creates : op.creates uid := by simpa using creates
  obtain member | ⟨_, _, ⟨former, present, orphaned⟩ | sent⟩ | ⟨_, _, _, _, _, action, _⟩ :=
    step_network taken member
  · simp [uncreated device op member] at creates
  · have creating := creates_of_orphaned orphaned creates
    simp [uncreated device former present] at creating
  · obtain ⟨answered, present, creating⟩ := creates_of_sent sent creates
    simp [uncreated device answered present] at creating
  · cases action

/-- After an answer a stored list is in the record, and nobody was about to create that record. -/
theorem stored_answered {history : History (World devices) (Action devices)} {world : World devices}
    {active : Fin devices} {index : Nat} {outcome : Outcome} {former : Op} {response : Response}
    {server : Server} {uid : String} (safe : ListsSafe history world)
    (guarded : NoListWhileCreating history world (.answer active index outcome))
    (found : (world.client active).network[index]? = some former) (waiting : former.response = none)
    (answered : world.server.answer (world.view active) former.request outcome = some (response, server))
    (listed : storedList uid ((world, .answer active index outcome) :: history)) :
    listsBeacons (server.snapshotOfUser uid) ∧
      ∀ device, ∀ op ∈ (world.client device).network, op.creates uid = false := by
  have applied := World.applied_answer found waiting
  obtain ⟨request, closure, _, orphan⟩ := former
  cases Server.answer_cases answered with
  | failed _ | signInWithCredential _ | createUser _ _ =>
    rw [storedList_unapplied rfl] at listed
    exact ⟨safe.stored uid listed, safe.uncreated uid listed⟩
  | logIn | signInWithEmail _ _ _ | observeUser | observeBeacons | setBeacon | removeBeacon =>
    have before : storedList uid history := by simpa [storedList, applied] using listed
    exact ⟨safe.stored uid before, safe.uncreated uid before⟩
  | @setUser target value =>
    rw [Server.snapshotOfUser_setUser]
    by_cases same : target = uid
    · -- the write is the one that stores the list, and the guard is about it
      subst same
      have written : closure.updates && listsBeacons ⟨target, nodeFrom value⟩ := by
        simpa [storedList, applied] using listed
      have clear : ∀ device, ∀ op ∈ (world.client device).network, op.creates target = false := by
        simpa [NoListWhileCreating, World.storesSafely, applied, written] using guarded
      rw [if_pos rfl]
      exact ⟨(Bool.and_eq_true_iff.mp written).2, clear⟩
    · have before : storedList uid history := by simpa [storedList, applied, same] using listed
      rw [if_neg (Ne.symm same)]
      exact ⟨safe.stored uid before, safe.uncreated uid before⟩

theorem listsSafe_step {history : History (World devices) (Action devices)} {world next : World devices}
    {action : Action devices} (safe : ListsSafe history world)
    (guarded : NoListWhileCreating history world action)
    (taken : (app platform Idle).step world action = some next) :
    ListsSafe ((world, action) :: history) next := by
  have sound := safe.sound.step taken
  obtain ⟨active, event, client, rfl, _, rfl⟩ |
    ⟨active, index, outcome, former, response, server, rfl, found, waiting, answered, rfl⟩ := step_cases taken
  · refine ⟨sound, fun uid listed => safe.stored uid ?_, fun uid listed =>
      uncreated_event taken (safe.uncreated uid ?_)⟩ <;> rwa [storedList_unapplied rfl] at listed
  · refine ⟨sound, fun uid listed => (stored_answered safe guarded found waiting answered listed).1,
      fun uid listed device op member => ?_⟩
    have before := (stored_answered safe guarded found waiting answered listed).2
    -- only the operation just answered is new, and it was a read that found nobody
    obtain member | ⟨_, action, _⟩ | ⟨_, _, former', response', server', action, found', _, _, answered', rfl⟩ :=
      step_network taken member
    · exact before device op member
    · cases action
    · cases action
      by_contra creates
      have creates : Op.creates { former' with response := some response' } uid := by simpa using creates
      have paired := (safe.sound.wellFormed active former' (List.mem_of_getElem? found')).paired
      obtain ⟨missing, request⟩ := creates_of_answered paired answered' creates
      -- a read changes nothing at the server, so the list was there to be found
      obtain rfl := Option.some.inj (found.symm.trans found')
      have unchanged : server = world.server := by
        rw [request] at answered
        cases Server.answer_cases answered <;> rfl
      have stored := (stored_answered safe guarded found waiting answered listed).1
      rw [unchanged] at stored
      have present : (world.server.user uid).isSome := isSome_of_listsBeacons stored
      have seen := (safe.sound.wellFormed.isSome_user_view active uid).mpr (.inl present)
      simp [missing] at seen

/-- A `create` that is applied while lists are safe finds no list to remove. -/
theorem not_erasesList {history : History (World devices) (Action devices)} {world : World devices}
    {action : Action devices} (safe : ListsSafe history world) : erasesList history world action = false := by
  unfold erasesList
  split
  next uid value target scene response orphan applied =>
    obtain ⟨device, index, rfl, found, rfl⟩ := World.applied_eq_some applied
    have member := List.mem_of_getElem? found
    have paired := (safe.sound.wellFormed device _ member).paired
    simp only at paired
    cases paired
    -- the `create` was under way itself, which the invariant rules out
    by_contra listed
    have creates := safe.uncreated _ (by simpa using listed) device _ member
    simp [Op.creates] at creates
  next => rfl

/-- In every run that stores no list for a user while a Facebook sign-in is
about to create that user, no `create` of a sign-in removes a stored list. -/
theorem sign_in_spares_lists {history : History (World devices) (Action devices)} {world : World devices}
    (execution : Execution (app platform Idle) history world)
    (guarded : EveryStep NoListWhileCreating history) : erased history = false := by
  have kept : ListsSafe history world ∧ erased history = false := by
    refine execution.invariant (fun history world => ListsSafe history world ∧ erased history = false)
      ?starts ?preserved guarded
    case starts =>
      intro world idle
      exact ⟨⟨.of_idle idle, fun _ listed => by simp [storedList] at listed,
        fun _ listed => by simp [storedList] at listed⟩, rfl⟩
    case preserved =>
      rintro history world action next ⟨safe, spared⟩ guarded taken
      exact ⟨listsSafe_step safe guarded taken, by simp [erased, not_erasesList safe, spared]⟩
  exact kept.2

/-- A Facebook sign-in, up to the answer of `show`. -/
def facebookActions {devices : Nat} (device : Fin devices) (user : FIRUser) : List (Action devices) :=
  [.event device .didFinishLaunching, .event device .didTapFacebookButton, .answer device 0 .success,
    .event device (.deliver 0 true), .answer device 0 (.account user), .event device (.deliver 0 true),
    .answer device 0 .success]

def cal : FIRUser := ⟨"cal", none, some "Cal"⟩

/-- The sign-in goes on without a record: `create`, the read that follows, and the Main storyboard. -/
def createActions {devices : Nat} (device : Fin devices) : List (Action devices) :=
  [.event device (.deliver 0 true), .answer device 0 .success, .event device (.deliver 0 true),
    .answer device 0 .success, .event device (.deliver 0 true)]

/-- On the second device Cal creates a beacon, opens it from the profile and saves
it; the list of its key is stored. -/
def calSaves : List (Action 2) :=
  [.event 1 (.screen .leaveHome),
    .event 1 (.screen (.create { Beacon.sample with uid := "cal" } (List.replicate 28 0))),
    .answer 1 1 .success, .event 1 (.screen .exitToHome), .event 1 (.screen .profileButtonPressed),
    .answer 1 3 .success, .event 1 (.deliver 3 true), .event 1 (.screen (.didSelectItemAt 0)),
    .event 1 (.screen (.launchButtonPressed true Beacon.sample.date)), .answer 1 4 .success]

/-- Cal signs in on the second device and saves a beacon, and then signs in on the first. -/
def calReturns : List (Action 2) := facebookActions 1 cal ++ createActions 1 ++ calSaves ++
  facebookActions 0 cal ++ [.event 0 (.deliver 0 true)]

/-- On the first device Cal's sign-in finds no record.  On the second it goes all the way. -/
def calSignsInTwice : List (Action 2) := facebookActions 0 cal ++ facebookActions 1 cal ++ createActions 1

/-- Cal saves on the second device; then the sign-in on the first device goes on. -/
def calSavesBetween : List (Action 2) :=
  calSignsInTwice ++ calSaves ++ [.event 0 (.deliver 0 true), .answer 0 0 .success]

theorem calReturns_taken : ((app .sample Idle).replay [] (World.installed .sample) calReturns).isSome := by
  decide +kernel

theorem calSavesBetween_taken :
    ((app .sample Idle).replay [] (World.installed .sample) calSavesBetween).isSome := by
  decide +kernel

def calReturned : History (World 2) (Action 2) × World 2 :=
  (app .sample Idle).reached (World.installed .sample) calReturns calReturns_taken

/-- The later sign-in finds the record with its list, and leaves it. -/
theorem calReturned_spares_list : storedList "cal" calReturned.1 ∧
    listsBeacons (calReturned.2.server.snapshotOfUser "cal") ∧
    (calReturned.2.client 0).currentUser.map User.uid = some "cal" ∧ erased calReturned.1 = false :=
  ⟨by decide +kernel, by decide +kernel, by decide +kernel,
    sign_in_spares_lists ((app .sample Idle).execution_reached (idle_installed .sample) calReturns
      calReturns_taken) (by decide +kernel)⟩

theorem calSavesBetween_erases :
    erased ((app .sample Idle).reached (World.installed .sample) calSavesBetween
      calSavesBetween_taken).1 = true := by
  decide +kernel

/-- The sign-in on the first device creates Cal's record anew, without the list. -/
theorem sign_in_erases_list :
    ¬ ∀ (platform : Platform) (devices : Nat) (history : History (World devices) (Action devices))
      (world : World devices), Execution (app platform Idle) history world → erased history = false := by
  intro always
  have spares := always _ _ _ _ ((app .sample Idle).execution_reached (idle_installed .sample)
    calSavesBetween calSavesBetween_taken)
  rw [calSavesBetween_erases] at spares
  contradiction

end Lyv
