import Lyv.App.Invariants

/-!
# The copies of the signed-in user

The user is held by `User.current`, by the archive in UserDefaults and by
`users/<uid>`.  `updateUserValues` sends the first to the third and archives it
when it is answered; `getBeacons` changes the first alone, and a relaunch takes
it from the second.  Once `updateUserValues` has written the record, the three
agree for as long as neither a listing nor a sign-in nor the end of the process
leaves one of them behind.
-/

namespace Lyv

open Lyv.Library Lyv.Firebase

/-- The completion of an `updateUserValues` is still to run. -/
def Op.awaited (op : Op) : Bool := op.closure.updates && !op.orphan

/-- `User.current`, or where there is none the archived user. -/
def Client.holder (client : Client) : Option User :=
  match client.currentUser with
  | some user => some user
  | none => client.userDefaults.bind User.decode

section

variable (updated : String → Bool) (record : String → Option User)

/-- `updateUserValues` was the last to write the record, or is writing it. -/
def writes (network : List Op) (uid : String) : Bool := updated uid || updating network uid

/-- A user is what `updateUserValues` has written, or is writing, for it. -/
structure Agrees (network : List Op) (user : User) : Prop where
  stored : updated user.uid → record user.uid = some user
  underWay : ∀ op ∈ network, ∀ value ∈ op.update user.uid,
    User.ofSnapshot ⟨user.uid, nodeFrom value⟩ = some user

instance (network : List Op) (user : User) : Decidable (Agrees updated record network user) :=
  decidable_of_iff ((updated user.uid → record user.uid = some user) ∧
      ∀ op ∈ network, ∀ value ∈ op.update user.uid, User.ofSnapshot ⟨user.uid, nodeFrom value⟩ = some user)
    ⟨fun both => ⟨both.1, both.2⟩, fun agrees => ⟨agrees.1, agrees.2⟩⟩

namespace Client

/-- Nothing is lost with the process: what `updateUserValues` writes is archived. -/
def archives (client : Client) : Bool :=
  match client.currentUser with
  | some user =>
    client.userDefaults.bind User.decode == some user || !writes updated client.network user.uid
  | none => true

/-- Whether a completion leaves the copies together.  A sign-in does when it ends
with a user that agrees, and no completion of `updateUserValues` is to come; a
listing does when it leaves the list as it is, or the record is not one of
`updateUserValues`. -/
def completesTogether (platform : Platform) (client : Client) : Closure → Response → Bool
  | .getBeacons uid _, .listing children =>
    match client.userCurrent with
    | .ok (_, user) =>
      (UserService.beaconsOf platform children uid).filterMap Beacon.key == user.beacons ||
        !writes updated client.network user.uid
    | .error _ => true
  | closure, .record snapshot =>
    match closure.enters, User.ofSnapshot snapshot with
    | some _, some user =>
      decide (Agrees updated record client.network user) && client.network.all fun op => !op.awaited
    | _, _ => true
  | _, _ => true

/-- The event ends the process. -/
def ends (platform : Platform) (client : Client) (event : Event) : Bool :=
  match client.handle platform event with
  | some next => client.running && !next.running
  | none => false

/-- Whether an event leaves the copies together. -/
def keepsTogether (platform : Platform) (client : Client) (event : Event) : Bool :=
  (!client.ends platform event || client.archives updated) &&
  match event with
  | .deliver index _ =>
    match client.network[index]?, client.network[index]?.bind Op.response with
    | some op, some response =>
      { client with network := client.network.eraseIdx index }.completesTogether updated record platform
        op.closure response
    | _, _ => true
  | _ => true

/-- What is known of the copies on a device. -/
structure Together (client : Client) : Prop where
  agrees : ∀ user, client.holder = some user → Agrees updated record client.network user
  awaited : ∀ op ∈ client.network, ∀ reference, op.closure = .updateUserValues reference →
    op.orphan = false → client.current = some reference
  bound : ∀ reference, client.current = some reference → reference < client.objects.length
  archived : ∀ user, client.currentUser = some user → ∃ archived,
    client.userDefaults.bind User.decode = some archived ∧ archived.uid = user.uid ∧
      (archived = user ∨ (∃ op ∈ client.network, op.awaited) ∨ writes updated client.network user.uid = false)

end Client

variable {updated record}

theorem Follows.updates_eq_false {closure : Closure} {response : Response} {op : Op}
    (follows : Follows closure response op) : op.closure.updates = false := by
  cases follows <;> rfl

theorem Tapped.updates_eq_false {scene : Nat} {event : Event} {op : Op} (tapped : Tapped scene event op) :
    op.closure.updates = false := by
  cases tapped <;> rfl

/-- Every update under way afterwards was so before. -/
def Inherits (before after : List Op) : Prop :=
  ∀ op ∈ after, ∀ uid value, op.update uid = some value →
    ∃ former ∈ before, former.update uid = some value

theorem Inherits.of_mem {before after : List Op}
    (former : ∀ op ∈ after, op ∈ before ∨ op.closure.updates = false) : Inherits before after := by
  intro op member uid value under
  obtain present | other := former op member
  · exact ⟨op, present, under⟩
  · simp [(Op.update_eq_some.mp under).2.1] at other

theorem Inherits.of_die (client : Client) (root : Root) :
    Inherits client.network (client.die root).network := by
  intro op member uid value under
  obtain ⟨former, present, orphaned⟩ := List.mem_filterMap.mp member
  obtain ⟨_, _, rfl⟩ := Op.orphaned_eq_some.mp orphaned
  exact ⟨former, present, Op.update_eq_some.mpr (Op.update_eq_some.mp under)⟩

theorem Agrees.mono {before after : List Op} {user : User} (inherits : Inherits before after)
    (agrees : Agrees updated record before user) : Agrees updated record after user where
  stored := agrees.stored
  underWay op member value under := by
    obtain ⟨former, present, same⟩ := inherits op member _ value under
    exact agrees.underWay former present value same

theorem writes_eq_false {network : List Op} {uid : String} :
    writes updated network uid = false ↔
      updated uid = false ∧ ∀ op ∈ network, op.update uid = none := by
  simp [writes, updating]

theorem writes_mono {before after : List Op} {uid : String} (inherits : Inherits before after)
    (unwritten : writes updated before uid = false) : writes updated after uid = false := by
  obtain ⟨notUpdated, none⟩ := writes_eq_false.mp unwritten
  refine writes_eq_false.mpr ⟨notUpdated, fun op member => ?_⟩
  cases under : op.update uid with
  | none => rfl
  | some value =>
    obtain ⟨former, present, same⟩ := inherits op member uid value under
    simp [none former present] at same

/-- Where `updateUserValues` writes nothing, any user agrees. -/
theorem Agrees.of_unwritten {network : List Op} {user : User}
    (unwritten : writes updated network user.uid = false) : Agrees updated record network user := by
  obtain ⟨notUpdated, none⟩ := writes_eq_false.mp unwritten
  exact ⟨by simp [notUpdated], fun op member value under => by simp [none op member] at under⟩

namespace Client

theorem holder_of_currentUser {client : Client} {user : User} (current : client.currentUser = some user) :
    client.holder = some user := by
  simp [holder, current]

theorem holder_of_none {client : Client} (none : client.current = none) :
    client.holder = client.userDefaults.bind User.decode := by
  simp [holder, currentUser, none]

/-- Steps that leave the session as it is, and send no update, keep the copies together. -/
theorem Together.of_network {client next : Client} (together : client.Together updated record)
    (userDefaults : next.userDefaults = client.userDefaults) (objects : next.objects = client.objects)
    (current : next.current = client.current)
    (former : ∀ op ∈ next.network, op ∈ client.network ∨ op.closure.updates = false)
    (kept : ∀ op ∈ client.network, op.awaited → op ∈ next.network) : next.Together updated record := by
  have same : next.currentUser = client.currentUser := by simp [currentUser, objects, current]
  have inherits := Inherits.of_mem former
  refine ⟨fun user held => ?_, fun op member reference closure waits => ?_, ?_, fun user found => ?_⟩
  · exact (together.agrees user (by simpa [holder, same, userDefaults] using held)).mono inherits
  · obtain present | other := former op member
    · exact current ▸ together.awaited op present reference closure waits
    · simp [closure, Closure.updates] at other
  · rw [current, objects]
    exact together.bound
  · obtain ⟨archived, decoded, uid, settled⟩ := together.archived user (same ▸ found)
    refine ⟨archived, userDefaults ▸ decoded, uid, ?_⟩
    obtain equal | ⟨op, member, awaited⟩ | unwritten := settled
    · exact .inl equal
    · exact .inr (.inl ⟨op, kept op member awaited, awaited⟩)
    · exact .inr (.inr (writes_mono inherits unwritten))

theorem Together.of_append {client next : Client} (together : client.Together updated record)
    {sent : List Op} (userDefaults : next.userDefaults = client.userDefaults)
    (objects : next.objects = client.objects) (current : next.current = client.current)
    (network : next.network = client.network ++ sent) (others : ∀ op ∈ sent, op.closure.updates = false) :
    next.Together updated record := by
  refine together.of_network userDefaults objects current (fun op member => ?_) fun op member _ => ?_
  · rw [network] at member
    exact (List.mem_append.mp member).imp_right (others op)
  · rw [network]
    exact List.mem_append_left _ member

theorem archives_mono {client next : Client} (inherits : Inherits client.network next.network)
    (userDefaults : next.userDefaults = client.userDefaults) (current : next.currentUser = client.currentUser)
    (lossless : client.archives updated) : next.archives updated := by
  unfold archives at lossless ⊢
  rw [current, userDefaults]
  cases held : client.currentUser with
  | none => rfl
  | some user =>
    simp only [held, Bool.or_eq_true, Bool.not_eq_true'] at lossless ⊢
    exact lossless.imp_right (writes_mono inherits)

/-- The process ends with the current user archived, or with nothing written of it. -/
theorem Together.of_die {client : Client} (together : client.Together updated record)
    (lossless : client.archives updated) (root : Root) : (client.die root).Together updated record := by
  refine ⟨fun user held => ?_, fun op member reference _ waits => ?_, by simp [die], by simp [die, currentUser]⟩
  · -- with nobody current, the archive is the copy that the next launch starts from
    refine Agrees.mono (.of_die client root) ?_
    have archive : client.userDefaults.bind User.decode = some user := by
      rwa [holder_of_none rfl] at held
    cases current : client.currentUser with
    | none => exact together.agrees user (by simpa [holder, current] using archive)
    | some holder =>
      obtain ⟨archived, decoded, uid, _⟩ := together.archived holder current
      obtain rfl := Option.some.inj (decoded.symm.trans archive)
      simp only [archives, current, archive, Bool.or_eq_true, beq_iff_eq, Option.some.injEq,
        Bool.not_eq_true'] at lossless
      obtain rfl | unwritten := lossless
      · exact together.agrees archived (holder_of_currentUser current)
      · exact .of_unwritten (uid ▸ unwritten)
  · obtain ⟨former, _, orphaned⟩ := List.mem_filterMap.mp member
    obtain ⟨_, _, rfl⟩ := Op.orphaned_eq_some.mp orphaned
    simp at waits

/-- A user that agrees takes over the session, and is archived. -/
theorem Together.of_archived {next : Client} (user : User)
    (agrees : Agrees updated record next.network user) (current : next.currentUser = some user)
    (archive : next.userDefaults.bind User.decode = some user)
    (awaited : ∀ op ∈ next.network, ∀ reference, op.closure = .updateUserValues reference →
      op.orphan = false → next.current = some reference) : next.Together updated record := by
  refine ⟨fun holder held => ?_, awaited, fun reference found => ?_, fun holder found => ?_⟩
  · rw [holder_of_currentUser current] at held
    exact Option.some.inj held ▸ agrees
  · obtain ⟨position, at', stored⟩ := Option.bind_eq_some_iff.mp current
    obtain rfl := Option.some.inj (at'.symm.trans found)
    exact (List.getElem?_eq_some_iff.mp stored).1
  · obtain rfl := Option.some.inj (current.symm.trans found)
    exact ⟨user, archive, rfl, .inl rfl⟩

/-- A listing leaves the list as it is, or replaces it where `updateUserValues` writes nothing. -/
theorem Together.of_listed {client next : Client} (together : client.Together updated record)
    {reference : Nat} {user : User} {keys : List String} (current : client.userCurrent = .ok (reference, user))
    (keeps : keys = user.beacons ∨ writes updated client.network user.uid = false)
    (objects : next.objects = client.objects.set reference { user with beacons := keys })
    (same : next.current = client.current) (userDefaults : next.userDefaults = client.userDefaults)
    (network : next.network = client.network) : next.Together updated record := by
  obtain ⟨at', stored⟩ := userCurrent_eq_ok.mp current
  obtain ⟨position, _⟩ := List.getElem?_eq_some_iff.mp stored
  have before : client.currentUser = some user := currentUser_eq_some.mpr ⟨reference, current⟩
  have after : next.currentUser = some { user with beacons := keys } := by
    simp [currentUser, same, at', objects, position]
  refine ⟨fun holder held => ?_, fun op member target closure waits => ?_, fun target found => ?_,
    fun holder found => ?_⟩
  · rw [holder_of_currentUser after] at held
    obtain rfl := Option.some.inj held
    rw [network]
    obtain rfl | unwritten := keeps
    · exact together.agrees user (holder_of_currentUser before)
    · exact .of_unwritten unwritten
  · rw [same]
    exact together.awaited op (network ▸ member) target closure waits
  · rw [objects, List.length_set]
    exact together.bound target (same ▸ found)
  · obtain rfl := Option.some.inj (after.symm.trans found)
    obtain ⟨archived, decoded, uid, settled⟩ := together.archived user before
    refine ⟨archived, userDefaults ▸ decoded, uid, ?_⟩
    rw [network]
    obtain rfl | unwritten := keeps
    · exact settled
    · exact .inr (.inr unwritten)

theorem awaited_of_mem_eraseIdx {client : Client} {index : Nat} {op : Op}
    (found : client.network[index]? = some op) (other : op.awaited = false) {former : Op}
    (member : former ∈ client.network) (awaited : former.awaited) : former ∈ client.network.eraseIdx index := by
  obtain ⟨position, present⟩ := List.mem_iff_getElem?.mp member
  refine List.mem_eraseIdx_iff_getElem?.mpr ⟨position, ?_, present⟩
  rintro rfl
  obtain rfl := Option.some.inj (found.symm.trans present)
  simp [other] at awaited

/-- An answer leaves what was awaited awaited. -/
theorem awaited_answered {client : Client} {index : Nat} {op : Op} {response : Response}
    (found : client.network[index]? = some op) {former : Op} (member : former ∈ client.network)
    (awaited : former.awaited) : ∃ other ∈ (client.answered index op response).network, other.awaited := by
  by_cases same : former = op
  · subst same
    have waits : former.orphan = false := by
      simp only [Op.awaited, Bool.and_eq_true, Bool.not_eq_true'] at awaited
      exact awaited.2
    obtain ⟨inside, _⟩ := List.getElem?_eq_some_iff.mp found
    refine ⟨{ former with response := some response }, ?_, awaited⟩
    simp only [answered, waits, Bool.false_eq_true, if_false]
    exact List.mem_of_getElem? (List.getElem?_set_self inside)
  · exact ⟨former, mem_answered found member same, awaited⟩

/-- Any completion other than that of `updateUserValues`. -/
theorem together_completion {client next : Client} {inWindow : Bool} {closure : Closure}
    {response : Response} (together : client.Together updated record) (other : closure.updates = false)
    (keeps : client.completesTogether updated record platform closure response)
    (lossless : next.running = false → client.running → client.archives updated)
    (running : client.running)
    (outcome : Completion platform client inWindow closure response next) :
    next.Together updated record := by
  cases outcome with
  | signIn _ follows =>
    exact together.of_append rfl rfl rfl rfl (by simpa using follows.updates_eq_false)
  | follow _ follows =>
    exact together.of_append rfl rfl rfl rfl (by simpa using follows.updates_eq_false)
  | alert _ _ => exact together.of_network rfl rfl rfl (fun _ => .inl) fun _ member _ => member
  | nothing _ => exact together
  | updateUserValues _ _ => simp [Closure.updates] at other
  | @enter _ scene snapshot user enters decoded =>
    simp only [completesTogether, enters, decoded, Bool.and_eq_true, decide_eq_true_eq, List.all_eq_true,
      Bool.not_eq_true'] at keeps
    obtain ⟨agrees, settled⟩ := keeps
    -- entering sends a read of the home screen, and no update
    have inherits : Inherits client.network (client.signedIn scene inWindow user).network := by
      refine .of_mem fun op member => ?_
      obtain present | ⟨home, rfl⟩ := signedIn_network client scene inWindow user op member
      · exact .inl present
      · exact .inr rfl
    refine .of_archived user (agrees.mono inherits) (by simp) (by simp)
      fun op member reference update waits => ?_
    obtain present | ⟨home, rfl⟩ := signedIn_network client scene inWindow user op member
    · simpa [Op.awaited, update, waits, Closure.updates] using settled op present
    · cases update
  | @getBeacons uid profile children =>
    obtain ⟨trap, none, crashed⟩ | ⟨reference, user, current, listed⟩ :=
      getBeaconsCompletion_cases client profile platform children uid
    · rw [crashed] at lossless ⊢
      exact together.of_die (lossless rfl running) _
    · simp only [completesTogether, current, Bool.or_eq_true, beq_iff_eq, Bool.not_eq_true'] at keeps
      rw [listed]
      exact together.of_listed current keeps rfl rfl rfl rfl
  | @beaconsLoaded home children =>
    obtain ⟨trap, crashed⟩ | ⟨_, _, _, drawn⟩ | unseen :=
      beaconsCompletion_cases platform client home (BeaconService.decode platform children)
    · rw [crashed] at lossless ⊢
      exact together.of_die (lossless rfl running) _
    · rw [drawn]
      exact together.of_network rfl rfl rfl (fun _ => .inl) fun _ member _ => member
    · rw [unseen]
      exact together

/-- The completion of `updateUserValues` archives the current user. -/
theorem together_updated {client : Client} {index : Nat} {inWindow : Bool} {op : Op} {response : Response}
    {reference : Nat} (together : client.Together updated record) (wellFormed : op.WellFormed)
    (found : client.network[index]? = some op) (responded : op.response = some response)
    (closure : op.closure = .updateUserValues reference) :
    (({ client with network := client.network.eraseIdx index } : Client).complete platform inWindow
      op.closure response).Together updated record := by
  have member := List.mem_of_getElem? found
  -- an orphan has no answer to run a completion with
  have waits : op.orphan = false := by
    by_contra orphan
    simp [wellFormed.orphan (by simpa using orphan)] at responded
  have current := together.awaited op member reference closure waits
  obtain ⟨user, stored⟩ : ∃ user, client.objects[reference]? = some user :=
    ⟨_, List.getElem?_eq_getElem (together.bound reference current)⟩
  -- the server answers a `setValue` with success or failure, and both run the completion
  have settles : response.settles := by
    obtain ⟨server, view, next, outcome, answered⟩ := wellFormed.answered response responded
    have paired := wellFormed.paired
    rw [closure] at paired
    generalize op.request = request at paired answered
    cases paired
    cases Server.answer_cases answered <;> rfl
  have completed : ({ client with network := client.network.eraseIdx index } : Client).complete platform inWindow
      op.closure response = (({ client with network := client.network.eraseIdx index } : Client).setCurrent
        reference).writeToUserDefaults user := by
    rw [closure]
    cases response <;> simp_all [complete, Response.settles]
  have held : client.currentUser = some user := by simp [currentUser, current, stored]
  rw [completed]
  refine .of_archived user ?_ (by simp [currentUser, setCurrent, writeToUserDefaults, stored])
    (by simp [writeToUserDefaults]) fun other present target update waits => ?_
  · exact (together.agrees user (holder_of_currentUser held)).mono
      (.of_mem fun other present => .inl (List.mem_of_mem_eraseIdx present))
  · have same := together.awaited other (List.mem_of_mem_eraseIdx present) target update waits
    exact current.symm.trans same

/-- An event on one of the screens may send an update of the current user. -/
theorem together_react {client : Client} {event : ScreenEvent} {reaction : Reaction}
    (together : client.Together updated record)
    (sent : ∀ op ∈ reaction.sent, ScreenOp client.userCurrent event op) :
    (client.react reaction).Together updated record := by
  have update : ∀ op ∈ reaction.sent, op.closure.updates → ∃ reference user,
      client.userCurrent = .ok (reference, user) ∧ op = UserService.updateUserValues reference user := by
    intro op member updates
    cases sent op member with
    | updateUserValues current => exact ⟨_, _, current, rfl⟩
    | beacons _ | getBeacons _ _ | create _ _ | updateBeacon _ _ | removeBeacon _ => cases updates
  refine ⟨fun user held => ?_, fun op member reference closure waits => ?_, together.bound, fun user found => ?_⟩
  · have agrees := together.agrees user held
    refine ⟨agrees.stored, fun op member value under => ?_⟩
    obtain member | member := List.mem_append.mp member
    · exact agrees.underWay op member value under
    · -- the update that has just been sent carries the current user
      obtain ⟨request, updates, _⟩ := Op.update_eq_some.mp under
      obtain ⟨reference, current, found, rfl⟩ := update op member updates
      obtain rfl := Option.some.inj
        ((holder_of_currentUser (currentUser_eq_some.mpr ⟨reference, found⟩)).symm.trans held)
      cases request
      exact User.ofSnapshot_dictValue current
  · obtain member | member := List.mem_append.mp member
    · exact together.awaited op member reference closure waits
    · obtain ⟨target, user, found, rfl⟩ := update op member (by simp [closure, Closure.updates])
      cases closure
      exact (userCurrent_eq_ok.mp found).1
  · obtain ⟨archived, decoded, uid, settled⟩ := together.archived user found
    refine ⟨archived, decoded, uid, ?_⟩
    obtain equal | ⟨op, member, awaited⟩ | unwritten := settled
    · exact .inl equal
    · exact .inr (.inl ⟨op, List.mem_append_left _ member, awaited⟩)
    · -- an update just sent is awaited, and its completion will archive the user
      by_cases updates : ∃ op ∈ reaction.sent, op.closure.updates
      · obtain ⟨op, member, updates⟩ := updates
        obtain ⟨reference, current, _, rfl⟩ := update op member updates
        exact .inr (.inl ⟨_, List.mem_append_right _ member, rfl⟩)
      · simp only [not_exists, not_and, Bool.not_eq_true] at updates
        exact .inr (.inr (writes_mono (.of_mem fun op member =>
          (List.mem_append.mp member).imp_right (updates op)) unwritten))

theorem together_handle {client next : Client} {event : Event}
    (wellFormed : ∀ op ∈ client.network, op.WellFormed)
    (dormant : client.running = false → client.Dormant)
    (together : client.Together updated record)
    (keeps : client.keepsTogether updated record platform event)
    (handled : client.handle platform event = some next) : next.Together updated record := by
  obtain ⟨lossless, completes⟩ := Bool.and_eq_true_iff.mp keeps
  have lossless : next.running = false → client.running → client.archives updated := by
    intro stopped running
    simpa [ends, handled, stopped, running] using lossless
  cases handle_cases handled with
  | launch stopped =>
    -- the archived user becomes current, and what is under way of it is an orphan's
    obtain ⟨none, empty, waiting⟩ := dormant stopped
    obtain ⟨account, user, _, archive, entered⟩ | ⟨_, shown⟩ :=
      configureInitialRootViewController_cases client
    · have agrees := together.agrees user (by rw [holder_of_none none]; exact archive)
      rw [entered]
      refine .of_archived user (agrees.mono (.of_mem fun op member => ?_)) (by simp [currentUser, setCurrentNew])
        archive fun op member reference closure waits => ?_
      · refine (List.mem_append.mp member).imp_right fun present => ?_
        obtain rfl := List.mem_singleton.mp present
        rfl
      · obtain present | present := List.mem_append.mp member
        · simp [(waiting op present).1] at waits
        · obtain rfl := List.mem_singleton.mp present
          cases closure
    · rw [shown]
      exact together.of_network rfl rfl rfl (fun _ => .inl) fun _ member _ => member
  | kill running => exact together.of_die (lossless rfl running) _
  | crash main =>
    obtain ⟨scene, root⟩ := isMain_iff.mp main
    exact together.of_die (lossless rfl (by simp [running, root])) _
  | tap _ tapped =>
    exact together.of_append rfl rfl rfl rfl (by simpa using tapped.updates_eq_false)
  | logout _ | stay => exact together.of_network rfl rfl rfl (fun _ => .inl) fun _ member _ => member
  | screen _ reacted => exact together_react together (MainScene.handle_sent reacted)
  | @deliver index inWindow op response found responded =>
    have member := List.mem_of_getElem? found
    have running := running_of_responded dormant found responded
    simp only [found, Option.bind_some, responded] at completes
    -- the completion of an update archives; any other leaves what is awaited in flight
    cases updates : op.closure.updates with
    | true =>
      obtain ⟨reference, closure⟩ : ∃ reference, op.closure = .updateUserValues reference := by
        cases closure : op.closure <;> simp_all [Closure.updates]
      exact together_updated together (wellFormed op member) found responded closure
    | false =>
      have erased : ({ client with network := client.network.eraseIdx index } : Client).Together
          updated record :=
        together.of_network rfl rfl rfl (fun _ present => .inl (List.mem_of_mem_eraseIdx present))
          fun _ present awaited => awaited_of_mem_eraseIdx found (by simp [Op.awaited, updates]) present awaited
      exact together_completion erased updates completes
        (fun stopped running => archives_mono (.of_mem fun _ present => .inl (List.mem_of_mem_eraseIdx present))
          rfl rfl (lossless stopped running)) running (complete_cases platform _ inWindow op.closure response)

end Client

end

/-! ## Runs of one client -/

variable {devices : Nat} {platform : Platform}

/-- What an answer leaves stored by `updateUserValues` was so before, or is what it stores. -/
theorem updatedLast_answered {history : History (World devices) (Action devices)} {world : World devices}
    {device : Fin devices} {index : Nat} {outcome : Outcome} {op : Op} {response : Response}
    {server : Server} {uid : String} (found : (world.client device).network[index]? = some op)
    (waiting : op.response = none)
    (answered : world.server.answer view op.request outcome = some (response, server))
    (updated : updatedLast ((world, .answer device index outcome) :: history) uid) :
    (updatedLast history uid ∧ server.user uid = world.server.user uid) ∨
      ∃ value, op.update uid = some value ∧ server.user uid = User.ofSnapshot ⟨uid, nodeFrom value⟩ := by
  have applied := World.applied_answer found waiting
  obtain ⟨request, closure, _, orphan⟩ := op
  cases Server.answer_cases answered with
  | failed _ | signInWithCredential _ | createUser _ _ =>
    rw [updatedLast_unapplied rfl] at updated
    exact .inl ⟨updated, rfl⟩
  | logIn | signInWithEmail _ _ _ | observeUser | observeBeacons | setBeacon | removeBeacon =>
    exact .inl ⟨by simpa [updatedLast, applied] using updated, rfl⟩
  | @setUser target value =>
    simp only [Server.user, Server.snapshotOfUser_setUser]
    by_cases same : uid = target
    · -- the write of a `create` ends the record's time as one of `updateUserValues`
      subst same
      have updates : closure.updates := by simpa [updatedLast, applied] using updated
      exact .inr ⟨value, Op.update_eq_some.mpr ⟨rfl, updates, waiting⟩, by simp⟩
    · exact .inl ⟨by simpa [updatedLast, applied, Ne.symm same] using updated, by simp [same]⟩

theorem together_answered {history : History (World devices) (Action devices)} {world : World devices}
    {device : Fin devices} {index : Nat} {outcome : Outcome} {op : Op} {response : Response}
    {server : Server} (together : (world.client device).Together (updatedLast history) world.server.user)
    (found : (world.client device).network[index]? = some op) (waiting : op.response = none)
    (answered : world.server.answer view op.request outcome = some (response, server)) :
    ((world.client device).answered index op response).Together
      (updatedLast ((world, .answer device index outcome) :: history)) server.user := by
  have stored : ∀ uid, updatedLast ((world, .answer device index outcome) :: history) uid →
      (updatedLast history uid ∧ server.user uid = world.server.user uid) ∨
        ∃ value, op.update uid = some value ∧ server.user uid = User.ofSnapshot ⟨uid, nodeFrom value⟩ :=
    fun uid => updatedLast_answered found waiting answered
  have member := List.mem_of_getElem? found
  have inherits : Inherits (world.client device).network
      ((world.client device).answered index op response).network := by
    intro other present uid value under
    obtain present | ⟨_, rfl⟩ := Client.mem_of_mem_answered present
    · exact ⟨other, present, under⟩
    · simp [Op.update_eq_some] at under
  refine ⟨fun user held => ?_, fun other present reference closure waits => ?_, together.bound,
    fun user current => ?_⟩
  · have agrees := together.agrees user held
    refine ⟨fun updated => ?_, (agrees.mono inherits).underWay⟩
    obtain ⟨before, same⟩ | ⟨value, under, same⟩ := stored user.uid updated
    · rw [same]
      exact agrees.stored before
    · rw [same]
      exact agrees.underWay op member value under
  · obtain present | ⟨_, rfl⟩ := Client.mem_of_mem_answered present
    · exact together.awaited other present reference closure waits
    · exact together.awaited op member reference closure waits
  · obtain ⟨archived, decoded, uid, settled⟩ := together.archived user current
    refine ⟨archived, decoded, uid, ?_⟩
    obtain equal | ⟨other, present, awaited⟩ | unwritten := settled
    · exact .inl equal
    · exact .inr (.inl (Client.awaited_answered found present awaited))
    · refine .inr (.inr (writes_eq_false.mpr ⟨?_, (writes_eq_false.mp (writes_mono inherits unwritten)).2⟩))
      obtain ⟨notUpdated, none⟩ := writes_eq_false.mp unwritten
      by_contra updated
      obtain ⟨before, _⟩ | ⟨value, under, _⟩ := stored user.uid (by simpa using updated)
      · simp [notUpdated] at before
      · simp [none op member] at under

/-- Every event leaves the copies together. -/
def KeepsTogether (platform : Platform) : Guard (World devices) (Action devices) := fun history world action =>
  match action with
  | .event device event =>
    (world.client device).keepsTogether (updatedLast history) world.server.user platform event
  | .answer _ _ _ => True

instance (history : History (World devices) (Action devices)) (world : World devices) :
    (action : Action devices) → Decidable (KeepsTogether platform history world action)
  | .event device event => inferInstanceAs (Decidable
      ((world.client device).keepsTogether (updatedLast history) world.server.user platform event = true))
  | .answer _ _ _ => isTrue trivial

/-- The user that is current after the process is killed and launched again. -/
def Client.relaunched (platform : Platform) (client : Client) : Option User := do
  let stopped ← client.handle platform .kill
  let launched ← stopped.handle platform .didFinishLaunching
  launched.currentUser

/-- With the Main storyboard up and nothing in flight, a user that `updateUserValues`
has stored is the one in memory, in the archive and in the record, and a relaunch restores it. -/
def CopiesAgree (platform : Platform) (history : History (World devices) (Action devices))
    (world : World devices) : Prop :=
  ∀ device user, (world.client device).isMain → (world.client device).network = [] →
    (world.client device).currentUser = some user → updatedLast history user.uid →
    (world.client device).userDefaults.bind User.decode = some user ∧
      world.server.user user.uid = some user ∧ (world.client device).relaunched platform = some user

theorem relaunched_eq {client : Client} {user : User} (main : client.isMain)
    (signedIn : client.authCurrentUser.isSome)
    (archived : client.userDefaults.bind User.decode = some user) :
    client.relaunched platform = some user := by
  obtain ⟨scene, root⟩ := Client.isMain_iff.mp main
  obtain ⟨account, found⟩ := Option.isSome_iff_exists.mp signedIn
  have killed : client.handle platform .kill = some (client.die .stopped) := by
    simp [Client.handle, root]
  have launched : (client.die .stopped).handle platform .didFinishLaunching =
      some (client.die .stopped).configureInitialRootViewController := rfl
  simp only [Client.relaunched, killed, launched, Option.bind_eq_bind, Option.bind_some]
  obtain ⟨_, user', _, archived', entered⟩ | ⟨missing, _⟩ :=
    Client.configureInitialRootViewController_cases (client.die .stopped)
  · obtain rfl := Option.some.inj (archived'.symm.trans archived)
    rw [entered]
    simp [Client.currentUser, Client.setCurrentNew]
  · have present : (client.die .stopped).authCurrentUser = some account := found
    have kept : (client.die .stopped).userDefaults.bind User.decode = some user := archived
    simp [present, kept] at missing

/-- In every run of one client whose events all leave the copies together, the
three copies agree in every state. -/
theorem copies_agree {history : History (World 1) (Action 1)} {world : World 1}
    (execution : Execution (app platform Idle) history world)
    (together : EveryStep (KeepsTogether platform) history) :
    EveryState (CopiesAgree platform) history world := by
  refine execution.everyState (fun history world => world.Sound ∧
    (world.client 0).Together (updatedLast history) world.server.user) ?starts ?preserved ?sound together
  case starts =>
    intro world idle
    refine ⟨.of_idle idle, ?_⟩
    rw [idle 0]
    exact ⟨fun user _ => ⟨by simp [updatedLast], by simp⟩, by simp, by simp, by simp [Client.currentUser]⟩
  case preserved =>
    rintro history world action next ⟨sound, together⟩ keeps taken
    refine ⟨sound.step taken, ?_⟩
    obtain ⟨active, event, client, rfl, handled, rfl⟩ |
      ⟨active, index, outcome, op, response, server, rfl, found, waiting, answered, rfl⟩ := step_cases taken
    · obtain rfl := Subsingleton.elim active 0
      rw [World.setClient_client_self, updatedLast_unapplied rfl]
      exact Client.together_handle (sound.wellFormed 0) (sound.dormant 0) together keeps handled
    · obtain rfl := Subsingleton.elim active 0
      simp only [World.setClient_client_self]
      exact together_answered together found waiting answered
  case sound =>
    rintro history world ⟨sound, together⟩ device user main settled current updated
    obtain rfl := Subsingleton.elim device 0
    have stored := (together.agrees user (Client.holder_of_currentUser current)).stored updated
    obtain ⟨archived, decoded, _, equal | ⟨op, member, _⟩ | unwritten⟩ := together.archived user current
    · subst equal
      exact ⟨decoded, stored, relaunched_eq main ((sound.entered 0).main main) decoded⟩
    · simp [settled] at member
    · simp [(writes_eq_false.mp unwritten).1] at updated

/-- Ann logs in, opens her beacon from the list that the home screen hands over, and saves it. -/
def annSaves : List (Action 1) := annLogsIn ++
  [.answer 0 0 .success, .event 0 (.deliver 0 true), .event 0 (.screen .profileButtonPressed),
    .event 0 (.screen (.didSelectItemAt 0)),
    .event 0 (.screen (.launchButtonPressed true Beacon.sample.date)), .answer 0 0 .success,
    .answer 0 1 .success, .event 0 (.deliver 0 true), .event 0 (.deliver 0 true)]

/-- Then she relaunches the app, and opens her profile before the home screen has a list. -/
def annReopensProfile : List (Action 1) := annSaves ++
  [.event 0 .kill, .event 0 .didFinishLaunching, .event 0 (.screen .profileButtonPressed),
    .answer 0 0 .success, .answer 0 1 .success, .event 0 (.deliver 0 true), .event 0 (.deliver 0 true)]

theorem annSaves_taken :
    ((app .sample Idle).replay [] (World.installed .withBeacon) annSaves).isSome := by
  decide +kernel

theorem annReopensProfile_taken :
    ((app .sample Idle).replay [] (World.installed .withBeacon) annReopensProfile).isSome := by
  decide +kernel

theorem annSaves_copies_agree :
    EveryState (CopiesAgree .sample)
      ((app .sample Idle).reached _ annSaves annSaves_taken).1
      ((app .sample Idle).reached _ annSaves annSaves_taken).2 :=
  copies_agree ((app .sample Idle).execution_reached (idle_installed .withBeacon) annSaves annSaves_taken)
    (by decide +kernel)

/-- Nothing is in flight, and what `updateUserValues` has stored for Ann has no
beacons; `User.current` has one. -/
theorem annReopensProfile_diverges :
    let result := (app .sample Idle).reached (World.installed .withBeacon) annReopensProfile
      annReopensProfile_taken
    (result.2.client 0).isMain = true ∧ (result.2.client 0).network.isEmpty = true ∧
      (result.2.client 0).currentUser = some { uid := "ann", username := "Ann", beacons := ["campfire"] } ∧
      updatedLast result.1 "ann" = true ∧
      result.2.server.user "ann" = some { uid := "ann", username := "Ann" } := by
  decide +kernel

theorem copies_not_always_agree :
    ¬ ∀ (platform : Platform) (history : History (World 1) (Action 1)) (world : World 1),
      Execution (app platform Idle) history world → CopiesAgree platform history world := by
  intro always
  obtain ⟨main, settled, current, updated, record⟩ := annReopensProfile_diverges
  obtain ⟨_, stored, _⟩ := always _ _ _ ((app .sample Idle).execution_reached (idle_installed .withBeacon)
    annReopensProfile annReopensProfile_taken) 0 _ main (List.isEmpty_iff.mp settled) current updated
  rw [record] at stored
  exact absurd stored (by decide)

end Lyv
