import Lyv.Firebase.Path
import Lyv.Verified.BoardRefinement
import Lyv.Verified.StoredRecords

/-!
# Where requests go

`child` raises an exception on a few characters, and takes a slash as a way
further down.  No request of a run meets either: the keys of beacons are drawn
or come from listings, and the identifiers of users come from Auth, from records
that were asked for and from the archive.  So `beacons` and `users` are flat, as
the stores of the server have them.
-/

namespace Lyv

open Lyv.Library Lyv.Firebase

variable {devices : Nat} {platform : Platform} {start : World devices}

/-- The reference that a function of the services builds; those of Auth build none. -/
def Request.reference : Request → Option DatabaseReference
  | .setUser uid _ | .observeUser uid => (DatabaseReference.root.child "users").bind fun users => users.child uid
  | .setBeacon key _ | .removeBeacon key =>
    (DatabaseReference.root.child "beacons").bind fun beacons => beacons.child key
  | .observeBeacons => DatabaseReference.root.child "beacons"
  | .logIn | .signInWithEmail _ _ | .signInWithCredential | .createUser _ _ => some .root

/-- Where the server keeps what the request is about. -/
def Request.location : Request → List String
  | .setUser uid _ | .observeUser uid => ["users", uid]
  | .setBeacon key _ | .removeBeacon key => ["beacons", key]
  | .observeBeacons => ["beacons"]
  | .logIn | .signInWithEmail _ _ | .signInWithCredential | .createUser _ _ => []

/-- The key that the request puts behind `users` or `beacons`. -/
def Request.key : Request → Option String
  | .setUser key _ | .observeUser key | .setBeacon key _ | .removeBeacon key => some key
  | _ => none

/-- The value of a `setValue`. -/
def Request.value : Request → Option Json
  | .setUser _ value | .setBeacon _ value => some value
  | _ => none

theorem Request.reference_eq {request : Request} (valid : ∀ key, request.key = some key → isValidKey key) :
    request.reference = some ⟨request.location⟩ := by
  have users := DatabaseReference.root.child_of_isValidKey (show isValidKey "users" by decide)
  have beacons := DatabaseReference.root.child_of_isValidKey (show isValidKey "beacons" by decide)
  cases request with
  | logIn | signInWithEmail _ _ | signInWithCredential | createUser _ _ => rfl
  | observeBeacons => exact beacons
  | setUser uid _ | observeUser uid =>
    rw [reference, users, Option.bind_some, DatabaseReference.child_of_isValidKey _ (valid uid rfl)]
    rfl
  | setBeacon key _ | removeBeacon key =>
    rw [reference, beacons, Option.bind_some, DatabaseReference.child_of_isValidKey _ (valid key rfl)]
    rfl

/-! ## What the app writes -/

theorem Beacon.validKeys_dictValue (beacon : Beacon) : beacon.dictValue.validKeys := by
  have names : isValidKey "date" ∧ isValidKey "title" ∧ isValidKey "uid" ∧ isValidKey "distance" ∧
      isValidKey "description" ∧ isValidKey "latitude" ∧ isValidKey "longitude" ∧ isValidKey "imageData" := by
    decide
  simp [dictValue, fields, Json.validKeys, validFields, names]

theorem User.validKeys_dictValue (user : User) : user.dictValue.validKeys := by
  have names : isValidKey "uid" ∧ isValidKey "username" ∧ isValidKey "beacons" ∧ isValidKey "profileURL" := by
    decide
  simp [dictValue, Json.validKeys, validFields, validItems_map_string, names]

theorem UserService.validKeys_userAttrs (firUser : FIRUser) (username : String) :
    (UserService.userAttrs firUser username).validKeys := by
  have names : isValidKey "username" ∧ isValidKey "profileURL" := by decide
  simp [userAttrs, Json.validKeys, validFields, names]

/-- The values that are stored have valid keys, whatever is in them. -/
theorem Paired.validKeys {request : Request} {closure : Closure} (paired : Paired request closure) {value : Json}
    (stored : request.value = some value) : value.validKeys := by
  cases paired with
  | login | loginShown | logIn | facebookSignedIn | facebookShown | signUp | userCreatedShown | getBeacons
  | beaconsLoaded | removeBeacon => contradiction
  | userCreated => exact Option.some.inj stored ▸ UserService.validKeys_userAttrs _ _
  | updateUserValues => exact Option.some.inj stored ▸ User.validKeys_dictValue _
  | create | updateBeacon => exact Option.some.inj stored ▸ Beacon.validKeys_dictValue _

theorem Helper.isValidKey_randomAlphaNumericString {draws : List (Fin 62)} (drawn : draws.length = 28) :
    isValidKey (randomAlphaNumericString draws) := by
  have alphanumeric : ∀ character ∈ allowedChars, character ∉ kInvalidKeyCharacters := by
    have every : (allowedChars.all fun character => !kInvalidKeyCharacters.contains character) = true := by
      decide +kernel
    simpa using every
  rw [isValidKey_iff, toList_randomAlphaNumericString]
  refine ⟨fun empty => ?_, fun character member => ?_⟩
  · have none := congrArg List.length empty
    simp [drawn] at none
  · obtain ⟨draw, _, rfl⟩ := List.mem_map.mp member
    exact alphanumeric _ (allowedChar_mem draw)

/-! ## Runs -/

/-- A key in use is valid, when those that were taken at the start are. -/
theorem InUse.isValidKey {history : History (World devices) (Action devices)} {key : String}
    (used : InUse platform start.server.beacons history key)
    (taken : ∀ key, (start.server.beacons.lookup key).isSome → isValidKey key) : isValidKey key := by
  obtain present | ⟨beacon, authored⟩ := used
  · exact taken key present
  · obtain ⟨draws, drawn, rfl⟩ := authored.drawn
    exact Helper.isValidKey_randomAlphaNumericString drawn

/-- What the run begins with has valid keys: the database checks its own, and
identifiers are Auth's. -/
structure World.Valid (start : World devices) : Prop where
  beacons : ∀ key, (start.server.beacons.lookup key).isSome → isValidKey key
  accounts : ∀ account ∈ start.server.accounts, isValidKey account.user.uid
  recorded : ∀ user, start.Recorded user → isValidKey user.uid

/-- Auth hands out identifiers that are valid keys. -/
def ValidAccounts : Guard (World devices) (Action devices) := fun _ _ action =>
  match action with
  | .answer _ _ (.account user) => isValidKey user.uid
  | _ => True

instance (history : History (World devices) (Action devices)) (world : World devices) :
    (action : Action devices) → Decidable (ValidAccounts history world action)
  | .answer _ _ (.account user) => inferInstanceAs (Decidable (isValidKey user.uid = true))
  | .answer _ _ .success | .answer _ _ (.failure _) | .event _ _ => isTrue trivial

/-- Every key that is met in a run is valid. -/
structure World.Addressed (platform : Platform) (world start : World devices)
    (history : History (World devices) (Action devices)) : Prop where
  established : World.Established platform world start history
  taken : ∀ key, (start.server.beacons.lookup key).isSome → isValidKey key
  recorded : ∀ user, start.Recorded user → isValidKey user.uid
  signUps : ∀ uid card, SignedUpIn history uid card → isValidKey uid
  accounts : ∀ account ∈ world.server.accounts, isValidKey account.user.uid
  signedIn : ∀ device, ∀ op ∈ (world.client device).network, ∀ firUser, op.response = some (.signedIn firUser) →
    isValidKey firUser.uid
  observed : ∀ device, ∀ op ∈ (world.client device).network, ∀ uid, op.request = .observeUser uid → isValidKey uid

section

variable {history : History (World devices) (Action devices)} {world next : World devices}
  {action : Action devices}

theorem World.Addressed.card (addressed : World.Addressed platform world start history) {uid : String}
    {card : Card} (known : CardOf start history uid card) : isValidKey uid := by
  obtain ⟨user, recorded, rfl, _⟩ | signedUp := known
  · exact addressed.recorded user recorded
  · exact addressed.signUps uid card signedUp

/-- The key of every request in flight is valid. -/
theorem World.Addressed.key (addressed : World.Addressed platform world start history) {device : Fin devices}
    {op : Op} (member : op ∈ (world.client device).network) {key : String} (keyed : op.request.key = some key) :
    isValidKey key := by
  have paired := (addressed.established.inUse.wellFormed device op member).paired
  have observed := addressed.observed device op member
  have vouched := addressed.established.vouched.clients device
  generalize request_eq : op.request = request at paired keyed observed
  generalize closure_eq : op.closure = closure at paired
  cases paired with
  | login | logIn | facebookSignedIn | signUp | getBeacons | beaconsLoaded => contradiction
  | loginShown | facebookShown | userCreatedShown =>
    obtain rfl := Option.some.inj keyed
    exact observed _ rfl
  | @userCreated firUser username =>
    obtain rfl := Option.some.inj keyed
    have stores := (Op.stores_eq request_eq).trans (UserService.ofSnapshot_userAttrs firUser username)
    exact addressed.card (vouched.writes op member _ stores).card
  | @updateUserValues _ user =>
    obtain rfl := Option.some.inj keyed
    have stores := (Op.stores_eq request_eq).trans (User.ofSnapshot_dictValue user)
    exact addressed.card (vouched.writes op member user stores).card
  | create | updateBeacon | removeBeacon =>
    exact (addressed.established.inUse.writes device op member key (by rw [request_eq]; exact keyed)).isValidKey
      addressed.taken

theorem World.Addressed.of_starts (starts : StartsFrom start world) (valid : start.Valid) :
    World.Addressed platform world start [] := by
  obtain ⟨idle, rfl⟩ := starts
  have quiet : ∀ device, (world.client device).network = [] := fun device => by rw [idle device]
  refine ⟨⟨.of_idle idle, .of_idle idle⟩, valid.beacons, valid.recorded, ?_, valid.accounts, by simp [quiet],
    by simp [quiet]⟩
  rintro uid card ⟨_, _, _, _, _, _, _, _, member, _⟩
  contradiction

/-- An answer signs in an account of the server, or one that Auth hands out. -/
theorem Server.signedIn_answer {server view after : Server} {request : Request} {outcome : Outcome}
    {firUser : FIRUser} (answered : server.answer view request outcome = some (.signedIn firUser, after)) :
    (∃ account ∈ server.accounts, account.user = firUser) ∨ outcome = .account firUser := by
  cases Server.answer_cases answered with
  | signInWithEmail member _ _ => exact .inl ⟨_, member, rfl⟩
  | signInWithCredential _ | createUser _ _ => exact .inr rfl

/-- An answer adds no account but one that Auth hands out. -/
theorem Server.accounts_answer {server view after : Server} {request : Request} {outcome : Outcome}
    {response : Response} (answered : server.answer view request outcome = some (response, after)) :
    ∀ account ∈ after.accounts, account ∈ server.accounts ∨ outcome = .account account.user := by
  intro account member
  cases Server.answer_cases answered with
  | failed _ | logIn | signInWithEmail _ _ _ | signInWithCredential _ | setUser | observeUser | setBeacon
  | removeBeacon | observeBeacons => exact .inl member
  | createUser _ _ =>
    obtain rfl | member := List.mem_cons.mp member
    · exact .inr rfl
    · exact .inl member

/-- A read of a user goes on from a sign-in, or from a `create`. -/
theorem Follows.observes {closure : Closure} {response : Response} {op : Op} {uid : String}
    (follows : Follows closure response op) (request : op.request = .observeUser uid) :
    (∃ firUser, response = .signedIn firUser ∧ firUser.uid = uid) ∨
      ∃ flow scene, closure = .userCreated flow uid scene := by
  cases follows with
  | loginShow | facebookShow =>
    cases request
    exact .inl ⟨_, rfl, rfl⟩
  | createdShow =>
    cases request
    exact .inr ⟨_, _, rfl⟩
  | facebookSignIn | facebookCreate _ | signUpCreate => contradiction

theorem Paired.key_of_userCreated {request : Request} {flow : Flow} {uid : String} {scene : Nat}
    (paired : Paired request (.userCreated flow uid scene)) : request.key = some uid := by
  cases paired
  rfl

theorem World.Addressed.step {starts : World devices → Prop}
    (addressed : World.Addressed platform world start history)
    (guarded : ValidAccounts history world action)
    (taken : (app platform starts).step world action = some next) :
    World.Addressed platform next start ((world, action) :: history) where
  established := addressed.established.step taken
  taken := addressed.taken
  recorded := addressed.recorded
  signUps uid card signedUp := by
    obtain ⟨before, device, index, inWindow, op, response, firUser, username, member, found, responded,
      registered, rfl, rfl⟩ := signedUp
    obtain same | member := List.mem_cons.mp member
    · -- the sign-up has just been completed, of an account that was signed in or shown
      obtain ⟨rfl, rfl⟩ := Prod.mk.inj same
      have member := List.mem_of_getElem? found
      have paired := (addressed.established.inUse.wellFormed device op member).paired
      have signedIn := addressed.signedIn device op member
      have key : ∀ key, op.request.key = some key → isValidKey key := fun _ keyed => addressed.key member keyed
      generalize op.request = request at paired key
      generalize op.closure = closure at paired registered
      cases registered with
      | facebook _ =>
        cases paired
        exact key _ rfl
      | signUp => exact signedIn firUser responded
    · exact addressed.signUps _ _ ⟨before, device, index, inWindow, op, response, firUser, username, member, found,
        responded, registered, rfl, rfl⟩
  accounts account member := by
    obtain ⟨_, _, _, _, _, rfl⟩ | ⟨_, _, _, _, _, _, rfl, _, _, answered, rfl⟩ := step_cases taken
    · exact addressed.accounts account member
    · obtain before | rfl := Server.accounts_answer answered account member
      · exact addressed.accounts account before
      · exact guarded
  signedIn device op member firUser responded := by
    obtain before | ⟨event, rfl, ⟨former, before, orphaned⟩ | sent⟩ |
      ⟨index, outcome, former, response, server, rfl, found, _, _, answered, rfl⟩ := step_network taken member
    · exact addressed.signedIn device op before firUser responded
    · obtain ⟨_, waiting, rfl⟩ := Op.orphaned_eq_some.mp orphaned
      simp [waiting] at responded
    · simp [sent.response_eq_none] at responded
    · obtain rfl := Option.some.inj responded
      obtain ⟨account, known, rfl⟩ | rfl := Server.signedIn_answer answered
      · exact addressed.accounts account known
      · exact guarded
  observed device op member uid request := by
    obtain before | ⟨event, rfl, ⟨former, before, orphaned⟩ | sent⟩ |
      ⟨index, outcome, former, response, server, rfl, found, _, _, answered, rfl⟩ := step_network taken member
    · exact addressed.observed device op before uid request
    · obtain ⟨_, _, rfl⟩ := Op.orphaned_eq_some.mp orphaned
      exact addressed.observed device former before uid request
    · cases sent with
      | beacons home => contradiction
      | tap _ tapped => cases tapped <;> contradiction
      | screen sent => cases sent <;> contradiction
      | @follow index inWindow answered _ response found responded follows =>
        have member := List.mem_of_getElem? found
        obtain ⟨firUser, rfl, rfl⟩ | ⟨flow, scene, closure⟩ := follows.observes request
        · exact addressed.signedIn device answered member firUser responded
        · have paired := (addressed.established.inUse.wellFormed device answered member).paired
          rw [closure] at paired
          exact addressed.key member paired.key_of_userCreated
    · exact addressed.observed device former (List.mem_of_getElem? found) uid request

end

/-- The request is sent to the child it is about, with a value that the database takes. -/
def Op.Addressed (op : Op) : Prop :=
  op.request.reference = some ⟨op.request.location⟩ ∧ ∀ value, op.request.value = some value → value.validKeys

/-- From a database with valid keys, and with identifiers from Auth that are valid
keys, no request of any run raises an exception over its path or the keys of its
value: each is sent to the very child of `users` or `beacons` that it is about, and
the keys of the database stay valid. -/
theorem requests_go_to_children {history : History (World devices) (Action devices)} {world : World devices}
    (valid : start.Valid) (execution : Execution (app platform (StartsFrom start)) history world)
    (guarded : EveryStep ValidAccounts history) :
    (∀ device, ∀ op ∈ (world.client device).network, op.Addressed) ∧
      ∀ key, (world.server.beacons.lookup key).isSome → isValidKey key := by
  have addressed := execution.invariant (fun history world => World.Addressed platform world start history)
    (fun _ starts => .of_starts starts valid) (fun _ _ _ _ addressed guarded taken => addressed.step guarded taken)
    guarded
  have inUse := addressed.established.inUse
  refine ⟨fun device op member => ⟨?_, fun value stored => ?_⟩,
    fun key present => (inUse.of_seen (mem_seen List.mem_cons_self) present).isValidKey addressed.taken⟩
  · exact Request.reference_eq fun key keyed => addressed.key member keyed
  · exact (inUse.wellFormed device op member).paired.validKeys stored

/-! ## Cal's requests -/

theorem valid_installed : (World.installed .sample : World devices).Valid where
  beacons key present := by
    have absent : Server.sample.beacons.lookup key = none := rfl
    simp [World.installed, absent] at present
  accounts := by
    show ∀ account ∈ Server.sample.accounts, isValidKey account.user.uid
    decide
  recorded user recorded := by
    obtain same | same := sample_user_uid (Option.isSome_iff_exists.mpr ⟨user, recorded.of_installed⟩)
    · rw [same]
      decide
    · rw [same]
      decide

theorem calBoard_addressed : ¬ ∃ key, (calBoard.2.server.beacons.lookup key).isSome ∧ isValidKey key = false := by
  rintro ⟨key, present, invalid⟩
  have valid := (requests_go_to_children valid_installed calBoard_execution (by decide +kernel)).2 key present
  simp [valid] at invalid

end Lyv
