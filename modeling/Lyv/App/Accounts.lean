import Lyv.App.Authors

/-!
# Names and pictures of accounts

A user's name and picture are written when the account signs up, and only copied
from then on: from records into objects, from objects into archives and back, and
from objects into records.  The list of keys is replaced by `getBeacons`, which
takes it from a listing.
-/

namespace Lyv

open Lyv.Library Lyv.Firebase

variable {devices : Nat} {platform : Platform} {starts : World devices → Prop}

/-- The name and the picture of an account. -/
structure Card where
  username : String
  profileURL : String
  deriving DecidableEq

def User.card (user : User) : Card := ⟨user.username, user.profileURL⟩

/-- The card of the record that `UserService.create` writes. -/
def UserService.card (firUser : FIRUser) (username : String) : Card :=
  ⟨username, firUser.photoURL.getD "" ++ "?width=300&height=300"⟩

/-- The completion calls `UserService.create` with the account and the name. -/
inductive Registers : Closure → Response → FIRUser → String → Prop where
  | facebook {scene : Nat} {firUser : FIRUser} {snapshot : DataSnapshot} :
      User.ofSnapshot snapshot = none →
      Registers (.facebookShown scene firUser) (.record snapshot) firUser (firUser.displayName.getD "Name")
  | signUp {scene : Nat} {name : String} {firUser : FIRUser} :
      Registers (.signUpCreated scene name) (.signedIn firUser) firUser name

/-- The user's card goes with the account, and the user lists known keys. -/
structure User.Vouched (cards : String → Card → Prop) (keys : String → Prop) (user : User) : Prop where
  card : cards user.uid user.card
  keys : ∀ key ∈ user.beacons, keys key

/-- The user that a `setValue` at `users/<uid>` stores. -/
def Op.stores (op : Op) : Option User :=
  match op.request with
  | .setUser uid value => User.ofSnapshot ⟨uid, nodeFrom value⟩
  | _ => none

theorem Op.stores_eq {op : Op} {uid : String} {value : Json} (request : op.request = .setUser uid value) :
    op.stores = User.ofSnapshot ⟨uid, nodeFrom value⟩ := by
  rw [Op.stores, request]

/-- Every user on the device is vouched for: those in memory, in the archive, in
records that have been answered and in records that are being written; and the keys
of listings that have been answered are known. -/
structure Client.Vouched (cards : String → Card → Prop) (keys : String → Prop) (client : Client) : Prop where
  objects : ∀ user ∈ client.objects, user.Vouched cards keys
  archive : ∀ user, client.userDefaults.bind User.decode = some user → user.Vouched cards keys
  records : ∀ op ∈ client.network, ∀ snapshot user, op.response = some (.record snapshot) →
    User.ofSnapshot snapshot = some user → user.Vouched cards keys
  listings : ∀ op ∈ client.network, ∀ children key, op.response = some (.listing children) →
    (children.lookup key).isSome → keys key
  writes : ∀ op ∈ client.network, ∀ user, op.stores = some user → user.Vouched cards keys

/-- What an event registers has signed up. -/
def Client.RegistersOnly (client : Client) (cards : String → Card → Prop) (event : Event) : Prop :=
  ∀ index inWindow op response firUser username, event = .deliver index inWindow →
    client.network[index]? = some op → op.response = some response →
    Registers op.closure response firUser username → cards firUser.uid (UserService.card firUser username)

section

variable {cards : String → Card → Prop} {keys : String → Prop}

theorem User.Vouched.mono {others : String → Card → Prop} {more : String → Prop} {user : User}
    (vouched : user.Vouched cards keys) (cards_mono : ∀ uid card, cards uid card → others uid card)
    (keys_mono : ∀ key, keys key → more key) : user.Vouched others more :=
  ⟨cards_mono _ _ vouched.card, fun key member => keys_mono key (vouched.keys key member)⟩

namespace Client

variable {client next : Client}

theorem Vouched.mono {others : String → Card → Prop} {more : String → Prop} (vouched : client.Vouched cards keys)
    (cards_mono : ∀ uid card, cards uid card → others uid card) (keys_mono : ∀ key, keys key → more key) :
    client.Vouched others more where
  objects user member := (vouched.objects user member).mono cards_mono keys_mono
  archive user archived := (vouched.archive user archived).mono cards_mono keys_mono
  records op member snapshot user responded decoded :=
    (vouched.records op member snapshot user responded decoded).mono cards_mono keys_mono
  listings op member children key responded present :=
    keys_mono key (vouched.listings op member children key responded present)
  writes op member user stores := (vouched.writes op member user stores).mono cards_mono keys_mono

theorem Vouched.current (vouched : client.Vouched cards keys) {reference : Nat} {user : User}
    (current : client.userCurrent = .ok (reference, user)) : user.Vouched cards keys :=
  vouched.objects user (List.mem_of_getElem? (userCurrent_eq_ok.mp current).2)

/-! ## Operations -/

/-- An operation that is sent stores a user that is vouched for: one in memory, or an
account that signs up. -/
theorem Vouched.sent (vouched : client.Vouched cards keys) {event : Event}
    (registers : client.RegistersOnly cards event) {op : Op} (sent : Sent client event op) {user : User}
    (stores : op.stores = some user) : user.Vouched cards keys := by
  cases sent with
  | beacons home => contradiction
  | tap _ tapped => cases tapped <;> contradiction
  | screen sent =>
    cases sent with
    | beacons _ | getBeacons _ _ | create _ _ | updateBeacon _ _ | removeBeacon _ => contradiction
    | updateUserValues current =>
      simp only [UserService.updateUserValues, Op.stores, User.ofSnapshot_dictValue, Option.some.injEq] at stores
      exact stores ▸ vouched.current current
  | @follow index inWindow answered _ response found responded follows =>
    have registered := fun firUser username => registers index inWindow answered response firUser username rfl
      found responded
    generalize answered.closure = former at follows registered
    cases follows with
    | loginShow | facebookSignIn | facebookShow | createdShow => contradiction
    | @facebookCreate _ firUser _ missing =>
      simp only [UserService.create, Op.stores, UserService.ofSnapshot_userAttrs, Option.some.injEq] at stores
      subst stores
      exact ⟨registered _ _ (.facebook missing), by simp⟩
    | signUpCreate =>
      simp only [UserService.create, Op.stores, UserService.ofSnapshot_userAttrs, Option.some.injEq] at stores
      subst stores
      exact ⟨registered _ _ .signUp, by simp⟩

/-- What is in flight after an event is vouched for, as what was in flight before. -/
theorem Vouched.network (vouched : client.Vouched cards keys) {event : Event}
    (registers : client.RegistersOnly cards event) (handled : client.handle platform event = some next)
    {op : Op} (member : op ∈ next.network) :
    (∀ snapshot user, op.response = some (.record snapshot) →
      User.ofSnapshot snapshot = some user → user.Vouched cards keys) ∧
    (∀ children key, op.response = some (.listing children) → (children.lookup key).isSome → keys key) ∧
    (∀ user, op.stores = some user → user.Vouched cards keys) := by
  obtain before | ⟨former, before, orphaned⟩ | sent := handle_network handled op member
  · exact ⟨vouched.records op before, vouched.listings op before, vouched.writes op before⟩
  · obtain ⟨_, waiting, rfl⟩ := Op.orphaned_eq_some.mp orphaned
    exact ⟨by simp [waiting], by simp [waiting], vouched.writes former before⟩
  · exact ⟨by simp [sent.response_eq_none], by simp [sent.response_eq_none],
      fun _ stores => vouched.sent registers sent stores⟩

/-! ## The session -/

/-- The objects and the archive after an event are vouched for. -/
structure Held (cards : String → Card → Prop) (keys : String → Prop) (client : Client) : Prop where
  objects : ∀ user ∈ client.objects, user.Vouched cards keys
  archive : ∀ user, client.userDefaults.bind User.decode = some user → user.Vouched cards keys

theorem Vouched.session (vouched : client.Vouched cards keys) : client.Held cards keys :=
  ⟨vouched.objects, vouched.archive⟩

theorem Held.of_same (held : client.Held cards keys) (objects : next.objects = client.objects)
    (userDefaults : next.userDefaults = client.userDefaults) : next.Held cards keys :=
  ⟨by rw [objects]; exact held.objects, by rw [userDefaults]; exact held.archive⟩

theorem Held.die (held : client.Held cards keys) (root : Root) : (client.die root).Held cards keys :=
  ⟨by simp [Client.die], held.archive⟩

/-- A user that is vouched for joins the objects. -/
theorem Held.append (held : client.Held cards keys) {user : User} (vouched : user.Vouched cards keys)
    (objects : next.objects = client.objects ++ [user])
    (archive : ∀ user, next.userDefaults.bind User.decode = some user → user.Vouched cards keys) :
    next.Held cards keys := by
  refine ⟨?_, archive⟩
  intro other member
  rw [objects] at member
  obtain member | member := List.mem_append.mp member
  · exact held.objects other member
  · exact List.mem_singleton.mp member ▸ vouched

theorem Held.completion (held : client.Held cards keys) {inWindow : Bool} {closure : Closure}
    {response : Response} (outcome : Completion platform client inWindow closure response next)
    (records : ∀ snapshot user, response = .record snapshot →
      User.ofSnapshot snapshot = some user → user.Vouched cards keys)
    (listings : ∀ children key, response = .listing children → (children.lookup key).isSome → keys key) :
    next.Held cards keys := by
  cases outcome with
  | signIn _ _ | follow _ _ | alert _ _ | nothing _ => exact held.of_same rfl rfl
  | @enter _ scene snapshot user _ decoded =>
    have vouched := records snapshot user rfl decoded
    refine held.append vouched (objects_signedIn client scene inWindow user) ?_
    intro archived found
    rw [userDefaults_signedIn, Option.bind_some, User.decode_encode] at found
    exact Option.some.inj found ▸ vouched
  | @updateUserValues reference user _ _ found =>
    -- the object that was written is archived
    refine ⟨held.objects, fun archived decoded => ?_⟩
    rw [writeToUserDefaults, Option.bind_some, User.decode_encode] at decoded
    exact Option.some.inj decoded ▸ held.objects user (List.mem_of_getElem? found)
  | @getBeacons uid profile children =>
    obtain ⟨trap, _, crashed⟩ | ⟨reference, user, current, listed⟩ :=
      getBeaconsCompletion_cases client profile platform children uid
    · rw [crashed]
      exact held.die _
    · rw [listed]
      refine ⟨fun other member => ?_, held.archive⟩
      obtain member | rfl := List.mem_or_eq_of_mem_set member
      · exact held.objects other member
      · -- the list is new, the card is that of the object
        have before := held.objects user (List.mem_of_getElem? (userCurrent_eq_ok.mp current).2)
        refine ⟨before.card, fun key found => ?_⟩
        obtain ⟨node, _, present, _⟩ := UserService.mem_keys_beaconsOf.mp found
        exact listings children key rfl (by simp [present])
  | @beaconsLoaded home children =>
    obtain ⟨trap, crashed⟩ | ⟨_, _, _, drawn⟩ | unseen :=
      beaconsCompletion_cases platform client home (BeaconService.decode platform children)
    · rw [crashed]
      exact held.die _
    · rw [drawn]
      exact held.of_same rfl rfl
    · rw [unseen]
      exact held

theorem Vouched.held (vouched : client.Vouched cards keys) {event : Event}
    (handled : client.handle platform event = some next) : next.Held cards keys := by
  cases handle_cases handled with
  | launch _ =>
    obtain ⟨_, user, _, archived, entered⟩ | ⟨_, shown⟩ := configureInitialRootViewController_cases client
    · rw [entered]
      exact vouched.session.append (vouched.archive user archived) rfl vouched.archive
    · rw [shown]
      exact vouched.session.of_same rfl rfl
  | kill _ | crash _ => exact vouched.session.die _
  | tap _ _ | logout _ | screen _ _ => exact vouched.session.of_same rfl rfl
  | stay => exact vouched.session
  | @deliver index inWindow op response found responded =>
    have member := List.mem_of_getElem? found
    have session : ({ client with network := client.network.eraseIdx index } : Client).Held cards keys :=
      vouched.session.of_same rfl rfl
    apply session.completion (complete_cases platform _ inWindow op.closure response)
    · rintro snapshot user rfl decoded
      exact vouched.records op member snapshot user responded decoded
    · rintro children key rfl present
      exact vouched.listings op member children key responded present

/-- An event leaves every user vouched for, when what it registers is. -/
theorem Vouched.handle (vouched : client.Vouched cards keys) {event : Event}
    (registers : client.RegistersOnly cards event) (handled : client.handle platform event = some next) :
    next.Vouched cards keys where
  objects := (vouched.held handled).objects
  archive := (vouched.held handled).archive
  records _ member := (vouched.network registers handled member).1
  listings _ member := (vouched.network registers handled member).2.1
  writes _ member := (vouched.network registers handled member).2.2

theorem Vouched.answered (vouched : client.Vouched cards keys) {index : Nat} {op : Op}
    (found : client.network[index]? = some op) {response : Response}
    (records : ∀ snapshot user, response = .record snapshot →
      User.ofSnapshot snapshot = some user → user.Vouched cards keys)
    (listings : ∀ children key, response = .listing children → (children.lookup key).isSome → keys key) :
    (client.answered index op response).Vouched cards keys where
  objects := vouched.objects
  archive := vouched.archive
  records other member snapshot user responded := by
    obtain before | ⟨_, rfl⟩ := mem_of_mem_answered member
    · exact vouched.records other before snapshot user responded
    · exact records snapshot user (Option.some.inj responded)
  listings other member children key responded := by
    obtain before | ⟨_, rfl⟩ := mem_of_mem_answered member
    · exact vouched.listings other before children key responded
    · exact listings children key (Option.some.inj responded)
  writes other member := by
    obtain before | ⟨_, rfl⟩ := mem_of_mem_answered member
    · exact vouched.writes other before
    · exact vouched.writes op (List.mem_of_getElem? found)

end Client

end

/-! ## Runs -/

/-- The user is on the server, or is archived on a device. -/
def World.Recorded (world : World devices) (user : User) : Prop :=
  (∃ uid, world.server.user uid = some user) ∨
    ∃ device, (world.client device).userDefaults.bind User.decode = some user

/-- A completion of the history has called `create` for the account with the card. -/
def SignedUpIn (history : History (World devices) (Action devices)) (uid : String) (card : Card) : Prop :=
  ∃ before device index inWindow op response firUser username,
    (before, Action.event device (.deliver index inWindow)) ∈ history ∧
    (before.client device).network[index]? = some op ∧ op.response = some response ∧
    Registers op.closure response firUser username ∧ uid = firUser.uid ∧
    card = UserService.card firUser username

theorem SignedUpIn.mono {history : History (World devices) (Action devices)} {uid : String} {card : Card}
    (signedUp : SignedUpIn history uid card) (entry : World devices × Action devices) :
    SignedUpIn (entry :: history) uid card := by
  obtain ⟨before, device, index, inWindow, op, response, firUser, username, member, registered⟩ := signedUp
  exact ⟨before, device, index, inWindow, op, response, firUser, username, List.mem_cons_of_mem _ member, registered⟩

/-- The card was the account's at the start, or the account has signed up with it. -/
def CardOf (start : World devices) (history : History (World devices) (Action devices)) (uid : String)
    (card : Card) : Prop :=
  (∃ user, start.Recorded user ∧ user.uid = uid ∧ user.card = card) ∨ SignedUpIn history uid card

/-- The key was listed by a user at the start, or is in use. -/
def KnownKey (platform : Platform) (start : World devices) (history : History (World devices) (Action devices))
    (key : String) : Prop :=
  (∃ user, start.Recorded user ∧ key ∈ user.beacons) ∨ InUse platform start.server.beacons history key

/-- Every user, on every device and on the server, is vouched for. -/
structure World.Vouched (platform : Platform) (world start : World devices)
    (history : History (World devices) (Action devices)) : Prop where
  clients : ∀ device, (world.client device).Vouched (CardOf start history) (KnownKey platform start history)
  users : ∀ uid user, world.server.user uid = some user →
    user.Vouched (CardOf start history) (KnownKey platform start history)

theorem User.Vouched.of_recorded {start : World devices} {user : User} (recorded : start.Recorded user)
    (platform : Platform) (history : History (World devices) (Action devices)) :
    user.Vouched (CardOf start history) (KnownKey platform start history) :=
  ⟨.inl ⟨user, recorded, rfl, rfl⟩, fun _ member => .inl ⟨user, recorded, member⟩⟩

theorem World.Vouched.of_idle {start : World devices} (idle : Idle start) : Vouched platform start start [] where
  clients device := by
    have archived : ∀ user, (start.client device).userDefaults.bind User.decode = some user →
        user.Vouched (CardOf start []) (KnownKey platform start []) :=
      fun user decoded => .of_recorded (.inr ⟨device, decoded⟩) _ _
    rw [idle device]
    exact ⟨by simp, archived, by simp, by simp, by simp⟩
  users uid user found := .of_recorded (.inl ⟨uid, found⟩) _ _

/-- A record that a process sees is vouched for: it is the server's, or the process is writing it. -/
theorem World.Vouched.view {start world : World devices} {history : History (World devices) (Action devices)}
    (vouched : Vouched platform world start history) {device : Fin devices} {uid : String} {user : User}
    (decoded : User.ofSnapshot ((world.view device).snapshotOfUser uid) = some user) :
    user.Vouched (CardOf start history) (KnownKey platform start history) := by
  obtain same | ⟨op, member, _, _, value, request, same⟩ :=
    world.server.snapshotOfUser_view (world.client device).network uid
  · rw [World.view, same] at decoded
    exact vouched.users uid user decoded
  · rw [World.view, same] at decoded
    exact (vouched.clients device).writes op member user ((Op.stores_eq request).trans decoded)

theorem World.Vouched.step {start : World devices} {history : History (World devices) (Action devices)}
    {world next : World devices} {action : Action devices} (vouched : Vouched platform world start history)
    (inUse : world.KeysInUse platform start.server.beacons history)
    (taken : (app platform starts).step world action = some next) :
    Vouched platform next start ((world, action) :: history) := by
  have cards_mono : ∀ uid card, CardOf start history uid card →
      CardOf start ((world, action) :: history) uid card := fun _ _ known => known.imp_right fun signedUp => signedUp.mono _
  have keys_mono : ∀ key, KnownKey platform start history key →
      KnownKey platform start ((world, action) :: history) key := fun _ known => known.imp_right fun used => used.mono _
  have kept := fun device => (vouched.clients device).mono cards_mono keys_mono
  have users := fun uid user found => (vouched.users uid user found).mono cards_mono keys_mono
  refine ⟨fun device => ?_, ?_⟩
  · obtain same | ⟨event, rfl, handled⟩ | ⟨index, _, op, response, server, _, found, _, answered, next_eq⟩ :=
      client_cases taken device
    · rw [same]
      exact kept device
    · refine (kept device).handle ?_ handled
      rintro index inWindow op response firUser username rfl found responded registered
      exact .inr ⟨world, device, index, inWindow, op, response, firUser, username, List.mem_cons_self,
        found, responded, registered, rfl, rfl⟩
    · rw [next_eq]
      generalize op.request = request at answered
      apply (kept device).answered found
      · rintro snapshot user rfl decoded
        cases Server.answer_cases answered
        exact (vouched.view decoded).mono cards_mono keys_mono
      · rintro children key rfl present
        cases Server.answer_cases answered
        exact .inr ((inUse.of_seen (mem_seen (world.view_mem_views device)) present).mono _)
  · obtain ⟨_, _, _, _, _, rfl⟩ | ⟨device, _, _, op, _, server, rfl, inFlight, _, answered, rfl⟩ := step_cases taken
    · exact users
    · intro uid user stored
      have stored : server.user uid = some user := stored
      obtain ⟨same, _⟩ | rfl := Server.stored_answer answered
      · rw [Server.user, Server.snapshotOfUser, same] at stored
        exact users uid user stored
      · have writes := (kept device).writes op (List.mem_of_getElem? inFlight) user
        cases request : op.request with
        | setUser written value =>
          rw [request, Server.user, Server.write, Server.snapshotOfUser_setUser] at stored
          split at stored
          next same => exact writes ((Op.stores_eq request).trans (same ▸ stored))
          next => exact users uid user stored
        | _ =>
          rw [request] at stored
          exact users uid user stored

end Lyv
