import Lyv.Library.Refinement
import Lyv.App.Board
import Lyv.Verified.AccountCards
import Lyv.Verified.CreatedBeacons

/-!
# The app is a board

Every run of the app, over any number of devices, is a run of the board.  A
`create` that is called draws its key, a sign-up that goes on to `create` announces
its card, and an applied write is one change; launches, screens, reads, failures and
other completions are none.  What makes the board take each change is known from the
operations in flight: they write at keys in use, and users with a card of theirs.
-/

namespace Lyv

open Lyv.Library Lyv.Firebase

variable {devices : Nat} {platform : Platform} {start : World devices}

/-- The board that the app keeps: beacons, and users by their identifiers. -/
abbrev BeaconBoard := Board String Beacon String Card

abbrev BeaconChange := Change String Beacon String Card

/-- The entry that `users/<uid>` decodes to. -/
def Server.person (server : Server) (uid : String) : Option (Card × List String) :=
  (server.user uid).map fun user => (user.card, user.beacons)

/-- The change that an operation makes when it is applied. -/
def Op.change (platform : Platform) (op : Op) : Option BeaconChange :=
  match op.request with
  | .setBeacon key value =>
    (Beacon.ofSnapshot platform ⟨key, nodeFrom value⟩).map fun beacon =>
      if op.closure = .noCompletion .create then .post key beacon else .revise key beacon
  | .removeBeacon key => some (.withdraw key)
  | .setUser _ _ => op.stores.map fun user =>
    if op.closure.updates then .save user.uid user.card user.beacons else .register user.uid user.card
  | _ => none

/-- The sign-up that goes on with this completion. -/
def Closure.signUp : Closure → Response → Option BeaconChange
  | .facebookShown _ firUser, .record snapshot =>
    if (User.ofSnapshot snapshot).isNone then
      some (.signUp firUser.uid (UserService.card firUser (firUser.displayName.getD "Name")))
    else none
  | .signUpCreated _ name, .signedIn firUser =>
    some (.signUp firUser.uid (UserService.card firUser name))
  | _, _ => none

/-- What an event announces: the key that a `create` draws, or a sign-up. -/
def Client.announces (client : Client) : Event → Option BeaconChange
  | .screen (.create _ draws) => some (.draw (Helper.randomAlphaNumericString draws))
  | .deliver index _ =>
    client.network[index]?.bind fun op => op.response.bind fun response => op.closure.signUp response
  | _ => none

def World.change (platform : Platform) (world : World devices) : Action devices → Option BeaconChange
  | .event device event => (world.client device).announces event
  | .answer device index outcome =>
    (world.applied (.answer device index outcome)).bind (Op.change platform)

/-- The board that a run begins with. -/
def World.board (platform : Platform) (start : World devices) : BeaconBoard where
  posts := start.server.beacon platform
  people := start.server.person
  used := {key | (start.server.beacons.lookup key).isSome}
  listed := {key | ∃ user, start.Recorded user ∧ key ∈ user.beacons}
  cards uid := {card | ∃ user, start.Recorded user ∧ user.uid = uid ∧ user.card = card}

theorem World.sound_board (platform : Platform) (start : World devices) : (start.board platform).Sound where
  posts key present := by
    obtain ⟨beacon, found⟩ := Option.isSome_iff_exists.mp present
    obtain ⟨node, stored, _⟩ := Option.bind_eq_some_iff.mp found
    exact Option.isSome_iff_exists.mpr ⟨node, stored⟩
  people uid card keys found := by
    obtain ⟨user, stored, entry⟩ := Option.map_eq_some_iff.mp found
    obtain ⟨rfl, rfl⟩ := Prod.mk.inj entry
    have recorded : start.Recorded user := .inl ⟨uid, stored⟩
    exact ⟨⟨user, recorded, User.ofSnapshot_uid stored, rfl⟩, fun key member => .inr ⟨user, recorded, member⟩⟩

/-! ## What becomes known -/

section

variable {history : History (World devices) (Action devices)} {world : World devices} {action : Action devices}

/-- A step brings a key into use only by drawing it. -/
theorem InUse.of_cons {stored : Store String Node} {key : String}
    (used : InUse platform stored ((world, action) :: history) key) :
    InUse platform stored history key ∨ world.change platform action = some (.draw key) := by
  obtain before | ⟨beacon, before, device, event, member, authors⟩ := used
  · exact .inl (.inl before)
  · obtain here | earlier := List.mem_cons.mp member
    · cases here
      cases authors
      exact .inr rfl
    · exact .inl (.inr ⟨beacon, before, device, event, earlier, authors⟩)

theorem Registers.signUp_eq {closure : Closure} {response : Response} {firUser : FIRUser} {username : String}
    (registers : Registers closure response firUser username) :
    closure.signUp response = some (.signUp firUser.uid (UserService.card firUser username)) := by
  cases registers with
  | facebook missing => simp [Closure.signUp, missing]
  | signUp => rfl

/-- A step makes a card known only by a sign-up. -/
theorem CardOf.of_cons (platform : Platform) {uid : String} {card : Card}
    (known : CardOf start ((world, action) :: history) uid card) :
    CardOf start history uid card ∨ world.change platform action = some (.signUp uid card) := by
  obtain before | ⟨before, device, index, inWindow, op, response, firUser, username, member, found, responded,
    registers, rfl, rfl⟩ := known
  · exact .inl (.inl before)
  · obtain here | earlier := List.mem_cons.mp member
    · cases here
      exact .inr (by simp [World.change, Client.announces, found, responded, registers.signUp_eq])
    · exact .inl (.inr ⟨before, device, index, inWindow, op, response, firUser, username, earlier, found,
        responded, registers, rfl, rfl⟩)

end

/-! ## What a step changes -/

/-- What a step does to the beacons and the users, with the change it makes. -/
inductive World.Makes (world : World devices) : Server → Option BeaconChange → Prop where
  | nothing {server : Server} : server.beacons = world.server.beacons → server.users = world.server.users →
      Makes world server none
  | draw (key : String) : Makes world world.server (some (.draw key))
  | post {device : Fin devices} {op : Op} {key : String} (beacon : Beacon) :
      op ∈ (world.client device).network → op.request.beaconKey = some key →
      Makes world { world.server with beacons := setChild world.server.beacons key beacon.dictValue }
        (some (.post key { beacon with key := some key }))
  | revise {device : Fin devices} {op : Op} {key : String} (beacon : Beacon) :
      op ∈ (world.client device).network → op.request.beaconKey = some key →
      Makes world { world.server with beacons := setChild world.server.beacons key beacon.dictValue }
        (some (.revise key { beacon with key := some key }))
  | withdraw {device : Fin devices} {op : Op} {key : String} :
      op ∈ (world.client device).network → op.request.beaconKey = some key →
      Makes world { world.server with beacons := world.server.beacons.erase key } (some (.withdraw key))
  | signUp (uid : String) (card : Card) : Makes world world.server (some (.signUp uid card))
  | register {device : Fin devices} {op : Op} {user : User} {value : Json} :
      op ∈ (world.client device).network → op.stores = some user → user.beacons = [] →
      User.ofSnapshot ⟨user.uid, nodeFrom value⟩ = some user →
      Makes world { world.server with users := setChild world.server.users user.uid value }
        (some (.register user.uid user.card))
  | save {device : Fin devices} {op : Op} {user : User} :
      op ∈ (world.client device).network → op.stores = some user →
      Makes world { world.server with users := setChild world.server.users user.uid user.dictValue }
        (some (.save user.uid user.card user.beacons))

theorem makes_announces (world : World devices) (client : Client) (event : Event) :
    world.Makes world.server (client.announces event) := by
  unfold Client.announces
  split
  next => exact .draw _
  next index _ =>
    cases client.network[index]? with
    | none => exact .nothing rfl rfl
    | some op =>
      simp only [Option.bind_some]
      cases op.response with
      | none => exact .nothing rfl rfl
      | some response =>
        simp only [Option.bind_some, Closure.signUp]
        split
        next => split <;> first | exact .signUp _ _ | exact .nothing rfl rfl
        next => exact .signUp _ _
        next => exact .nothing rfl rfl
  next => exact .nothing rfl rfl

theorem makes_step {starts : World devices → Prop} {world next : World devices} {action : Action devices}
    (wellFormed : world.WellFormed) (taken : (app platform starts).step world action = some next) :
    world.Makes next.server (world.change platform action) := by
  obtain ⟨device, event, client, rfl, _, rfl⟩ |
    ⟨device, index, outcome, op, response, server, rfl, found, waiting, answered, rfl⟩ := step_cases taken
  · exact makes_announces world (world.client device) event
  · have member := List.mem_of_getElem? found
    have paired := (wellFormed device op member).paired
    have applied := World.applied_answer found waiting
    have change : world.change platform (.answer device index .success) = op.change platform := by
      rw [World.change, applied, Option.bind_some]
    show world.Makes server _
    obtain ⟨request, closure, _, _⟩ := op
    cases Server.answer_cases answered with
    | failed _ | signInWithCredential _ | createUser _ _ => exact .nothing rfl rfl
    | logIn | signInWithEmail _ _ _ | observeUser | observeBeacons =>
      rw [change]
      exact .nothing rfl rfl
    | @setBeacon key value =>
      rw [change]
      cases paired with
      | @create _ beacon =>
        simp only [Op.change, Beacon.ofSnapshot_dictValue, Option.map_some, if_true]
        exact .post beacon member rfl
      | @updateBeacon _ beacon =>
        simp only [Op.change, Beacon.ofSnapshot_dictValue, Option.map_some, Closure.noCompletion.injEq,
          reduceCtorEq, if_false]
        exact .revise beacon member rfl
    | @removeBeacon key =>
      rw [change]
      exact .withdraw member rfl
    | @setUser uid value =>
      rw [change]
      cases paired with
      | @userCreated firUser username flow scene =>
        have stores := UserService.ofSnapshot_userAttrs firUser username
        simp only [Op.change, Op.stores, stores, Option.map_some, Closure.updates, Bool.false_eq_true, if_false]
        exact .register member (by simpa only [Op.stores] using stores) rfl stores
      | @updateUserValues reference user =>
        simp only [Op.change, Op.stores, User.ofSnapshot_dictValue, Option.map_some, Closure.updates, if_true]
        exact .save member (by simp [Op.stores])

/-! ## What the server shows after a write -/

namespace Server

theorem person_congr {after before : Server} (users : after.users = before.users) :
    after.person = before.person := by
  funext uid
  simp only [person, Server.user, snapshotOfUser, users]

theorem beacon_congr {after before : Server} (platform : Platform) (beacons : after.beacons = before.beacons) :
    after.beacon platform = before.beacon platform := by
  funext key
  simp only [beacon, beacons]

variable (server : Server)

theorem person_of_beacons (beacons : Store String Node) :
    ({ server with beacons := beacons } : Server).person = server.person := rfl

theorem beacon_of_users (platform : Platform) (users : Store String Node) :
    ({ server with users := users } : Server).beacon platform = server.beacon platform := rfl

theorem beacon_stored (platform : Platform) (written key : String) (beacon : Beacon) :
    ({ server with beacons := setChild server.beacons written beacon.dictValue } : Server).beacon platform key =
      if written = key then some { beacon with key := some written } else server.beacon platform key := by
  by_cases same : written = key
  · subst same
    rw [beacon_setBeacon, if_pos rfl]
  · rw [if_neg same, Server.beacon, Server.beacon, lookup_setChild, if_neg (Ne.symm same)]

theorem beacon_erased (platform : Platform) (erased key : String) :
    ({ server with beacons := server.beacons.erase erased } : Server).beacon platform key =
      if erased = key then none else server.beacon platform key := by
  by_cases same : erased = key
  · subst same
    simp [beacon]
  · rw [beacon, beacon, Store.lookup_erase_of_ne _ (Ne.symm same), if_neg same]

theorem person_stored (written uid : String) (value : Json) {user : User}
    (decoded : User.ofSnapshot ⟨written, nodeFrom value⟩ = some user) :
    ({ server with users := setChild server.users written value } : Server).person uid =
      if written = uid then some (user.card, user.beacons) else server.person uid := by
  by_cases same : written = uid
  · subst same
    rw [person, user_setUser, decoded, Option.map_some, if_pos rfl]
  · rw [person, person, Server.user, Server.user, snapshotOfUser_setUser, if_neg (Ne.symm same), if_neg same]

end Server

namespace World.Makes

variable {world : World devices} {server : Server} {made : BeaconChange}

/-- The posts of the server change as the change says. -/
theorem beacon (makes : world.Makes server (some made)) (platform : Platform) (key : String) :
    server.beacon platform key = (made.postAt key).getD (world.server.beacon platform key) := by
  cases makes with
  | post posted _ _ | revise posted _ _ =>
    rw [Server.beacon_stored, Change.postAt]
    split <;> rfl
  | withdraw _ _ =>
    rw [Server.beacon_erased, Change.postAt]
    split <;> rfl
  | register _ _ _ _ | save _ _ =>
    rw [Server.beacon_of_users]
    rfl
  | draw _ | signUp _ _ => rfl

/-- The entries of the server change as the change says. -/
theorem person (makes : world.Makes server (some made)) (uid : String) :
    server.person uid = (made.entryOf uid).getD (world.server.person uid) := by
  cases makes with
  | post _ _ _ | revise _ _ _ | withdraw _ _ =>
    rw [Server.person_of_beacons]
    rfl
  | register _ _ listless decoded =>
    rw [Server.person_stored _ _ _ _ decoded, Change.entryOf, listless]
    split <;> rfl
  | @save _ _ user _ _ =>
    rw [Server.person_stored _ _ _ _ (User.ofSnapshot_dictValue user), Change.entryOf]
    split <;> rfl
  | draw _ | signUp _ _ => rfl

end World.Makes

/-! ## The refinement -/

/-- What a run has established, apart from the board. -/
structure World.Established (platform : Platform) (world start : World devices)
    (history : History (World devices) (Action devices)) : Prop where
  vouched : World.Vouched platform world start history
  inUse : world.KeysInUse platform start.server.beacons history

/-- The board is what the server shows, and it knows the keys and the cards that the app relies on. -/
structure World.Shows (platform : Platform) (world start : World devices)
    (history : History (World devices) (Action devices)) (board : BeaconBoard) : Prop where
  posts : board.posts = world.server.beacon platform
  people : board.people = world.server.person
  used : ∀ key, InUse platform start.server.beacons history key → key ∈ board.used
  listed : ∀ user, start.Recorded user → ∀ key ∈ user.beacons, key ∈ board.listed
  cards : ∀ uid card, CardOf start history uid card → card ∈ board.cards uid

section

variable {history : History (World devices) (Action devices)} {world next : World devices}
  {action : Action devices} {board : BeaconBoard}

theorem World.Established.step {starts : World devices → Prop}
    (established : World.Established platform world start history)
    (taken : (app platform starts).step world action = some next) :
    World.Established platform next start ((world, action) :: history) :=
  ⟨established.vouched.step established.inUse taken, established.inUse.step taken⟩

theorem World.Shows.key (shows : World.Shows platform world start history board) {key : String}
    (known : KnownKey platform start history key) : key ∈ board.used ∨ key ∈ board.listed := by
  obtain ⟨user, recorded, member⟩ | used := known
  · exact .inr (shows.listed user recorded key member)
  · exact .inl (shows.used key used)

/-- The board takes the change that a step makes. -/
theorem World.Shows.allows (shows : World.Shows platform world start history board)
    (established : World.Established platform world start history) {server : Server} {made : BeaconChange}
    (makes : world.Makes server (some made)) : board.Allows made := by
  cases makes with
  | draw _ | signUp _ _ => trivial
  | post _ member writes | revise _ member writes | withdraw member writes =>
    exact shows.used _ (established.inUse.writes _ _ member _ writes)
  | register member stores _ _ =>
    exact shows.cards _ _ ((established.vouched.clients _).writes _ member _ stores).card
  | save member stores =>
    have vouched := (established.vouched.clients _).writes _ member _ stores
    exact ⟨shows.cards _ _ vouched.card, fun key listed => shows.key (vouched.keys key listed)⟩

theorem World.Shows.stutter (shows : World.Shows platform world start history board)
    (silent : world.change platform action = none) (makes : world.Makes next.server none) :
    World.Shows platform next start ((world, action) :: history) board := by
  generalize server_eq : next.server = server at makes
  cases makes with
  | nothing beacons users =>
    rw [← server_eq] at beacons users
    refine ⟨?_, ?_, fun key used => shows.used key ?_, shows.listed, fun uid card known => shows.cards uid card ?_⟩
    · rw [shows.posts, Server.beacon_congr platform beacons]
    · rw [shows.people, Server.person_congr users]
    · exact used.of_cons.resolve_right (by simp [silent])
    · exact (known.of_cons platform).resolve_right (by simp [silent])

theorem World.Shows.changes (shows : World.Shows platform world start history board) {made : BeaconChange}
    (change : world.change platform action = some made) (makes : world.Makes next.server (some made)) :
    World.Shows platform next start ((world, action) :: history) (board.apply made) where
  posts := by
    funext key
    rw [Board.posts_apply, shows.posts, makes.beacon platform key]
  people := by
    funext uid
    rw [Board.people_apply, shows.people, makes.person uid]
  -- what was in use or known still is, and what has come in is what the change announces
  used key used := by
    rw [Board.mem_used_apply]
    refine used.of_cons.symm.imp (fun drawn => ?_) (shows.used key)
    obtain rfl := Option.some.inj (change.symm.trans drawn)
    rfl
  listed := shows.listed
  cards uid card known := by
    rw [Board.mem_cards_apply]
    refine (known.of_cons platform).symm.imp (fun signedUp => ?_) (shows.cards uid card)
    obtain rfl := Option.some.inj (change.symm.trans signedUp)
    exact if_pos rfl

end

section

variable {history : History (World devices) (Action devices)} {world : World devices}

/-- What relates a run of the app to the board it has led to. -/
def World.Keeps (platform : Platform) (start : World devices) (history : History (World devices) (Action devices))
    (world : World devices) (board : BeaconBoard) : Prop :=
  World.Established platform world start history ∧ World.Shows platform world start history board

theorem keeps_initial (world : World devices) (starts : StartsFrom start world) :
    ∃ board, board = start.board platform ∧ World.Keeps platform start [] world board := by
  obtain ⟨idle, rfl⟩ := starts
  refine ⟨_, rfl, ⟨.of_idle idle, .of_idle idle⟩, rfl, rfl, ?_,
    fun user recorded key member => ⟨user, recorded, member⟩, ?_⟩
  · rintro key (present | ⟨_, _, _, _, member, _⟩)
    · exact present
    · contradiction
  · rintro uid card (recorded | ⟨_, _, _, _, _, _, _, _, member, _⟩)
    · exact recorded
    · contradiction

theorem keeps_stutter (history : History (World devices) (Action devices)) (world : World devices)
    (board : BeaconBoard) (action : Action devices) (next : World devices)
    (keeps : World.Keeps platform start history world board)
    (taken : (app platform (StartsFrom start)).step world action = some next)
    (none : world.change platform action = none) :
    World.Keeps platform start ((world, action) :: history) next board :=
  ⟨keeps.1.step taken, keeps.2.stutter none (none ▸ makes_step keeps.1.inUse.wellFormed taken)⟩

theorem keeps_changes (history : History (World devices) (Action devices)) (world : World devices)
    (board : BeaconBoard) (action : Action devices) (next : World devices) (made : BeaconChange)
    (keeps : World.Keeps platform start history world board)
    (taken : (app platform (StartsFrom start)).step world action = some next)
    (some : world.change platform action = some made) :
    ∃ after, (Board.system (start.board platform)).step board made = .some after ∧
      World.Keeps platform start ((world, action) :: history) next after := by
  have makes : world.Makes next.server (.some made) := some ▸ makes_step keeps.1.inUse.wellFormed taken
  have allowed := keeps.2.allows keeps.1 makes
  exact ⟨board.apply made, Board.step_eq_some.mpr ⟨allowed, rfl⟩, keeps.1.step taken,
    keeps.2.changes some makes⟩

/-- The app refines the board that it begins with. -/
def appRefinement (platform : Platform) (start : World devices) :
    Refinement (app platform (StartsFrom start)) (Board.system (start.board platform)) where
  change := World.change platform
  related := World.Keeps platform start
  initial := keeps_initial
  stutter := keeps_stutter
  changes := keeps_changes

/-- The changes of a run, the latest first. -/
def changes (platform : Platform) (history : History (World devices) (Action devices)) : List BeaconChange :=
  history.filterMap fun entry => entry.1.change platform entry.2

/-- Every run of the app is a run of the board it begins with: the draws, the
sign-ups and the applied writes, in order, are changes that the board takes, nothing
else changes it, and what the server's records decode to is what the board shows. -/
theorem app_refines_board (execution : Execution (app platform (StartsFrom start)) history world) :
    ∃ trace board, Execution (Board.system (start.board platform)) trace board ∧
      trace.map Prod.snd = changes platform history ∧
      board.posts = world.server.beacon platform ∧ board.people = world.server.person := by
  obtain ⟨trace, board, follows, ⟨_, shows⟩, same⟩ := (appRefinement platform start).exists_execution execution
  exact ⟨trace, board, follows, same, shows.posts, shows.people⟩

/-- What holds of the board holds of the server: a record decodes to what was
written there last, or is as it was at first; a beacon is only at a key that was
taken at the start or was drawn by a `create`; and a user has a card from the start
or of a sign-up, and lists keys from the start or that were drawn. -/
theorem records_follow_changes (execution : Execution (app platform (StartsFrom start)) history world) :
    (∀ key, world.server.beacon platform key =
      latest (Change.postAt key) (start.server.beacon platform key) (changes platform history)) ∧
    (∀ uid, world.server.person uid =
      latest (Change.entryOf uid) (start.server.person uid) (changes platform history)) ∧
    (∀ key, (world.server.beacon platform key).isSome → (start.server.beacons.lookup key).isSome ∨
      Change.draw key ∈ changes platform history) ∧
    (∀ user uid, world.server.user uid = some user →
      ((∃ original, start.Recorded original ∧ original.uid = uid ∧ original.card = user.card) ∨
        Change.signUp uid user.card ∈ changes platform history) ∧
      ∀ key ∈ user.beacons, ((start.server.beacons.lookup key).isSome ∨
        Change.draw key ∈ changes platform history) ∨
          ∃ original, start.Recorded original ∧ key ∈ original.beacons) := by
  obtain ⟨trace, board, follows, ⟨_, shows⟩, same⟩ := (appRefinement platform start).exists_execution execution
  have posts := shows.posts
  have people := shows.people
  have same : trace.map Prod.snd = changes platform history := same
  have sound := Board.sound_of_execution follows (start.sound_board platform)
  rw [← same]
  refine ⟨fun key => ?_, fun uid => ?_, fun key present => ?_, fun user uid found => ?_⟩
  · rw [← posts]
    exact Board.posts_eq_latest follows key
  · rw [← people]
    exact Board.people_eq_latest follows uid
  · rw [← posts] at present
    exact (Board.mem_used follows).mp (sound.posts key present)
  · have entry : board.people uid = some (user.card, user.beacons) := by
      rw [people, Server.person, found, Option.map_some]
    obtain ⟨card, keys⟩ := sound.people uid user.card user.beacons entry
    refine ⟨(Board.mem_cards follows).mp card, fun key member => ?_⟩
    have known := keys key member
    rw [Board.listed_eq follows] at known
    exact known.imp_left (Board.mem_used follows).mp

end

/-! ## Cal's board -/

theorem calSavesBetween_started :
    ((app .sample (StartsFrom (World.installed .sample))).replay [] (World.installed .sample)
      calSavesBetween).isSome := by
  decide +kernel

/-- Cal is registered, posts, revises and saves, and is registered anew. -/
def calBoard : History (World 2) (Action 2) × World 2 :=
  (app .sample (StartsFrom (World.installed .sample))).reached _ calSavesBetween calSavesBetween_started

theorem calBoard_execution :
    Execution (app .sample (StartsFrom (World.installed .sample))) calBoard.1 calBoard.2 :=
  (app .sample (StartsFrom (World.installed .sample))).execution_reached ⟨idle_installed .sample, rfl⟩
    calSavesBetween calSavesBetween_started

theorem calBoard_refines : ∃ trace board,
    Execution (Board.system ((World.installed .sample : World 2).board .sample)) trace board ∧
      trace.map Prod.snd = changes .sample calBoard.1 ∧ (board.people "cal").isSome := by
  obtain ⟨trace, board, follows, same, _, people⟩ := app_refines_board calBoard_execution
  refine ⟨trace, board, follows, same, ?_⟩
  rw [people]
  decide +kernel

theorem calBoard_registered : ∃ card : Card, card.username = "Cal" ∧
    Change.signUp "cal" card ∈ changes .sample calBoard.1 := by
  have named : (calBoard.2.server.user "cal").map User.username = some "Cal" := by decide +kernel
  obtain ⟨user, found, username⟩ := Option.map_eq_some_iff.mp named
  obtain ⟨original, recorded, same, _⟩ | signedUp :=
    ((records_follow_changes calBoard_execution).2.2.2 user "cal" found).1
  · have stored := recorded.of_installed
    rw [same] at stored
    have none : (Server.sample.user "cal").isSome = false := by decide +kernel
    simp [stored] at none
  · exact ⟨user.card, username, signedUp⟩

end Lyv
