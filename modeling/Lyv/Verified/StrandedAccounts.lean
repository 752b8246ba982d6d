import Lyv.App.Invariants

/-!
# Which accounts an e-mail login can enter

Sign-up makes an Auth account first and the record `users/<uid>` afterwards; the
e-mail login needs both and creates neither.  A login is followed here from its tap
to the record that it reads, through whatever else happens in between; it enters
exactly when the record is there as it is read.
-/

namespace Lyv

open Lyv.Library Lyv.Firebase

variable {devices : Nat} {platform : Platform} {starts : World devices → Prop}

/-- No process runs, and no e-mail account has been made yet. -/
def Unused (world : World devices) : Prop := Idle world ∧ world.server.accounts = []

/-- What the accounts of a run have in common: addresses are taken once, and the
records of the accounts, where they exist, decode. -/
structure AccountsSound (server : Server) : Prop where
  addresses : (server.accounts.map Account.email).Nodup
  decode : ∀ account ∈ server.accounts, ∀ node, server.users.lookup account.user.uid = some node →
    (User.ofSnapshot ⟨account.user.uid, node⟩).isSome

/-- The record of an account is stored where it decodes. -/
theorem AccountsSound.isSome_user {server : Server} (sound : AccountsSound server) {account : Account}
    (member : account ∈ server.accounts) :
    (server.user account.user.uid).isSome ↔ (server.users.lookup account.user.uid).isSome := by
  cases stored : server.users.lookup account.user.uid with
  | none =>
    have absent : server.user account.user.uid = none := by
      rw [Server.user, Server.snapshotOfUser, stored]
      rfl
    simp [absent]
  | some node =>
    have decoded := sound.decode account member node stored
    simp [Server.user, Server.snapshotOfUser, stored, decoded]

theorem accountsSound_answer {server view next : Server} {request : Request} {closure : Closure}
    {outcome : Outcome} {response : Response} (sound : AccountsSound server)
    (paired : Paired request closure)
    (answered : server.answer view request outcome = some (response, next)) : AccountsSound next := by
  cases Server.answer_cases answered with
  | failed _ | logIn | signInWithEmail _ _ _ | signInWithCredential _ | observeUser | observeBeacons =>
    exact sound
  | setBeacon | removeBeacon => exact ⟨sound.addresses, sound.decode⟩
  | @createUser email password user fresh absent =>
    refine ⟨?_, fun account member node stored => ?_⟩
    · simp only [List.map_cons, List.nodup_cons, List.mem_map, not_exists, not_and]
      exact ⟨fun account member => (fresh account member).1, sound.addresses⟩
    · obtain rfl | member := List.mem_cons.mp member
      · simp [absent] at stored
      · exact sound.decode account member node stored
  | @setUser uid value =>
    refine ⟨sound.addresses, fun account member node stored => ?_⟩
    rw [lookup_setChild] at stored
    by_cases same : account.user.uid = uid
    · rw [if_pos same] at stored
      split at stored
      · contradiction
      · obtain rfl := Option.some.inj stored
        exact same ▸ paired.decodes
    · rw [if_neg same] at stored
      exact sound.decode account member node stored

theorem accountsSound_step {world next : World devices} {action : Action devices}
    (wellFormed : world.WellFormed) (sound : AccountsSound world.server)
    (taken : (app platform starts).step world action = some next) : AccountsSound next.server := by
  obtain ⟨_, _, _, rfl, _, rfl⟩ | ⟨device, _, _, op, _, _, rfl, found, _, answered, rfl⟩ :=
    step_cases taken
  · exact sound
  · exact accountsSound_answer sound (wellFormed device op (List.mem_of_getElem? found)).paired answered

theorem accountsSound_of_execution {history : History (World devices) (Action devices)}
    {world : World devices} (execution : Execution (app platform Unused) history world) :
    world.WellFormed ∧ AccountsSound world.server := by
  refine execution.always (fun _ world => world.WellFormed ∧ AccountsSound world.server) ?starts ?preserved
  case starts =>
    rintro world ⟨idle, none⟩
    exact ⟨(World.Sound.of_idle idle).wellFormed, by simp [none], by simp [none]⟩
  case preserved =>
    rintro history world action next ⟨wellFormed, accounts⟩ taken
    exact ⟨wellFormed_step wellFormed taken, accountsSound_step wellFormed accounts taken⟩

/-- An account stays. -/
theorem mem_accounts_step {world next : World devices} {action : Action devices}
    (taken : (app platform starts).step world action = some next) {account : Account}
    (member : account ∈ world.server.accounts) : account ∈ next.server.accounts := by
  obtain ⟨_, _, _, _, _, rfl⟩ | ⟨_, _, _, op, _, server, rfl, _, _, answered, rfl⟩ := step_cases taken
  · exact member
  · show account ∈ server.accounts
    generalize op.request = request at answered
    cases Server.answer_cases answered with
    | createUser _ _ => exact List.mem_cons_of_mem _ member
    | failed _ | logIn | signInWithEmail _ _ _ | signInWithCredential _ | setUser | observeUser | setBeacon
    | removeBeacon | observeBeacons => exact member

/-- An account signs in with its own address and password. -/
theorem answer_signInWithEmail {server : Server} (view : Server) {account : Account}
    (addresses : (server.accounts.map Account.email).Nodup) (member : account ∈ server.accounts) :
    server.answer view (.signInWithEmail account.email account.password) .success =
      some (.signedIn account.user, server) := by
  have found : server.accounts.find? (fun other => decide (other.email = account.email) &&
      decide (other.password = account.password)) = some account := by
    generalize server.accounts = accounts at addresses member
    induction accounts with
    | nil => simp at member
    | cons first accounts inductionHypothesis =>
      simp only [List.map_cons, List.nodup_cons, List.mem_map, not_exists, not_and] at addresses
      obtain rfl | member := List.mem_cons.mp member
      · simp
      · have different : first.email ≠ account.email := fun same =>
          addresses.1 account member same.symm
        simp [different, inductionHypothesis addresses.2 member]
  simp only [Server.answer, found, Option.map_some]

/-! ## A login among other steps -/

/-- The login scene that is on the window. -/
def Client.loginScene (client : Client) : Option Nat :=
  match client.root with
  | .login scene => some scene
  | _ => none

/-- The operation that `didTapLoginButton` sends. -/
def signIn (account : Account) (scene : Nat) : Op where
  request := .signInWithEmail account.email account.password
  closure := .loginSignedIn scene

/-- How far a login has come, with the operation that it waits for and its answer. -/
inductive LoginStage (devices : Nat) where
  | signingIn
  | signedIn (response : Response)
  | reading (op : Op)
  | shown (op : Op) (response : Response) (read : World devices)

/-- An e-mail login with the address and the password of an account, begun on the
device at `start`: each of its own steps is one of the history, with a success for
an answer, and any other steps of any device stand between them. -/
inductive Login (device : Fin devices) (account : Account) (scene : Nat) (start : World devices) :
    History (World devices) (Action devices) → LoginStage devices → Prop where
  | tap {history : History (World devices) (Action devices)} :
      (start.client device).loginScene = some scene → account ∈ start.server.accounts →
      Login device account scene start
        ((start, .event device (.didTapLoginButton account.email account.password)) :: history) .signingIn
  | signIn {history : History (World devices) (Action devices)} {world : World devices} {index : Nat}
      {response : Response} {server : Server} : Login device account scene start history .signingIn →
      (world.client device).network[index]? = some (signIn account scene) →
      world.server.answer (world.view device) (signIn account scene).request .success = some (response, server) →
      Login device account scene start ((world, .answer device index .success) :: history) (.signedIn response)
  | goOn {history : History (World devices) (Action devices)} {world : World devices} {index : Nat}
      {inWindow : Bool} {response : Response} {op : Op} :
      Login device account scene start history (.signedIn response) →
      (world.client device).network[index]? = some { signIn account scene with response := some response } →
      Follows (signIn account scene).closure response op →
      Login device account scene start ((world, .event device (.deliver index inWindow)) :: history) (.reading op)
  | read {history : History (World devices) (Action devices)} {world : World devices} {index : Nat} {op : Op}
      {response : Response} {server : Server} : Login device account scene start history (.reading op) →
      (world.client device).network[index]? = some op →
      world.server.answer (world.view device) op.request .success = some (response, server) →
      Login device account scene start ((world, .answer device index .success) :: history)
        (.shown op response world)
  | between {history : History (World devices) (Action devices)} {stage : LoginStage devices}
      (entry : World devices × Action devices) : Login device account scene start history stage →
      Login device account scene start (entry :: history) stage

/-- The process sees `users/<uid>`: it is there, or the process is writing it. -/
def World.RecordSeen (world : World devices) (device : Fin devices) (uid : String) : Prop :=
  (world.server.users.lookup uid).isSome ∨
    ∃ op ∈ (world.client device).network, op.orphan = false ∧ op.response = none ∧
      ∃ value, op.request = .setUser uid value

/-- What is known of an account while it logs in. -/
structure World.Registered (world start : World devices) (account : Account) : Prop where
  wellFormed : world.WellFormed
  sound : AccountsSound world.server
  member : account ∈ world.server.accounts
  kept : (start.server.users.lookup account.user.uid).isSome → (world.server.users.lookup account.user.uid).isSome

theorem World.Registered.step {start world next : World devices} {action : Action devices} {account : Account}
    (registered : world.Registered start account)
    (taken : (app platform starts).step world action = some next) : next.Registered start account := by
  have sound := accountsSound_step registered.wellFormed registered.sound taken
  have member := mem_accounts_step taken registered.member
  refine ⟨wellFormed_step registered.wellFormed taken, sound, member, fun present => ?_⟩
  have before := (registered.sound.isSome_user registered.member).mpr (registered.kept present)
  exact (sound.isSome_user member).mp (isSome_user_step registered.wellFormed taken before)

/-- What an account's login reads decodes exactly when the process sees the record. -/
theorem World.Registered.recordSeen {start world : World devices} {account : Account}
    (registered : world.Registered start account) (device : Fin devices) :
    ((world.view device).user account.user.uid).isSome ↔ world.RecordSeen device account.user.uid := by
  rw [registered.wellFormed.isSome_user_view, registered.sound.isSome_user registered.member, World.RecordSeen]

/-- What each stage has brought. -/
def LoginStage.Sound (device : Fin devices) (account : Account) (scene : Nat) (start : World devices) :
    LoginStage devices → Prop
  | .signingIn => True
  | .signedIn response => response = .signedIn account.user
  | .reading op => op = UserService.observe account.user.uid (.loginShown scene)
  | .shown op response read => op = UserService.observe account.user.uid (.loginShown scene) ∧
      response = .record ((read.view device).snapshotOfUser account.user.uid) ∧ read.Registered start account

/-- A login signs its account in and reads the record of the account, whatever comes between. -/
theorem Login.sound {device : Fin devices} {account : Account} {scene : Nat} {start : World devices}
    {history : History (World devices) (Action devices)} {stage : LoginStage devices}
    (login : Login device account scene start history stage) {world : World devices}
    (execution : Execution (app platform Unused) history world) :
    world.Registered start account ∧ stage.Sound device account scene start := by
  induction login generalizing world with
  | tap _ member =>
    cases execution with
    | step earlier taken =>
      obtain ⟨wellFormed, sound⟩ := accountsSound_of_execution earlier
      have registered : start.Registered start account := ⟨wellFormed, sound, member, id⟩
      exact ⟨registered.step taken, trivial⟩
  | @signIn _ before _ _ _ _ _ answered inductionHypothesis =>
    cases execution with
    | step earlier taken =>
      obtain ⟨registered, _⟩ := inductionHypothesis earlier
      have signedIn := answer_signInWithEmail (before.view device) registered.sound.addresses registered.member
      obtain ⟨response, _⟩ := Prod.mk.inj (Option.some.inj (answered.symm.trans signedIn))
      exact ⟨registered.step taken, response⟩
  | goOn _ _ follows inductionHypothesis =>
    cases execution with
    | step earlier taken =>
      obtain ⟨registered, rfl⟩ := inductionHypothesis earlier
      cases follows
      exact ⟨registered.step taken, rfl⟩
  | read _ _ answered inductionHypothesis =>
    cases execution with
    | step earlier taken =>
      obtain ⟨registered, rfl⟩ := inductionHypothesis earlier
      obtain ⟨response, _⟩ := Prod.mk.inj (Option.some.inj answered)
      exact ⟨registered.step taken, rfl, response.symm, registered⟩
  | between _ _ inductionHypothesis =>
    cases execution with
    | step earlier taken =>
      obtain ⟨registered, sound⟩ := inductionHypothesis earlier
      exact ⟨registered.step taken, sound⟩

/-- The completion leaves the device in the Main storyboard as the account, and without an alert. -/
def LoginEnters (world next : World devices) (device : Fin devices) (account : Account) : Prop :=
  (next.client device).isMain ∧ (next.client device).currentUser.map User.uid = some account.user.uid ∧
    (next.client device).alerts = (world.client device).alerts

/-- In every run from no accounts, an e-mail login to an account that was made, with
the right password and a success for every answer, enters the Main storyboard as
that account if and only if the process sees `users/<uid>` in the state in which the
read of it is answered, and the login's scene is still on the window when its last
completion runs, or the Main storyboard is up by then.  Where it does not see the
record the login ends in an alert; and it sees a record that was there at the tap. -/
theorem login_enters_iff {history : History (World devices) (Action devices)} {start read world : World devices}
    {device : Fin devices} {account : Account} {scene index : Nat} {op : Op} {response : Response}
    (execution : Execution (app platform Unused) history world)
    (login : Login device account scene start history (.shown op response read))
    (found : (world.client device).network[index]? = some { op with response := some response })
    (inWindow : Bool) :
    ∃ next, (app platform Unused).step world (.event device (.deliver index inWindow)) = some next ∧
      (LoginEnters world next device account ↔ read.RecordSeen device account.user.uid ∧
        ((world.client device).isMain ∨ (world.client device).opens scene inWindow)) ∧
      (¬ read.RecordSeen device account.user.uid →
        (next.client device).alerts = (world.client device).alerts ++ [{ message := "Login Failed" }]) ∧
      ((start.server.users.lookup account.user.uid).isSome → read.RecordSeen device account.user.uid) := by
  obtain ⟨_, rfl, rfl, registered⟩ := login.sound execution
  have seen := registered.recordSeen device
  obtain ⟨next, taken, client⟩ : ∃ next, (app platform Unused).step world (.event device (.deliver index inWindow)) =
      some next ∧ next.client device =
        ({ world.client device with network := (world.client device).network.eraseIdx index } : Client).complete
          platform inWindow (.loginShown scene) (.record ((read.view device).snapshotOfUser account.user.uid)) := by
    simp [app, World.step, Client.handle, Client.deliver, found, UserService.observe]
  refine ⟨next, taken, ?_⟩
  simp only [Client.complete] at client
  cases decoded : User.ofSnapshot ((read.view device).snapshotOfUser account.user.uid) with
  | none =>
    -- `show` finds nobody, and the login has no way to create the record
    have unseen : ¬ read.RecordSeen device account.user.uid := by
      rw [← seen, Server.user, decoded]
      exact Bool.noConfusion
    rw [decoded] at client
    refine ⟨iff_of_false (fun enters => ?_) (fun holds => unseen holds.1), fun _ => by rw [client]; rfl,
      fun present => .inl (registered.kept present)⟩
    have alerted := enters.2.2
    simp [client, Client.showAlert] at alerted
  | some user =>
    -- whoever wrote the record, it decodes to a user of that identifier
    have there : read.RecordSeen device account.user.uid := by
      rw [← seen, Server.user, decoded]
      rfl
    rw [decoded] at client
    refine ⟨?_, fun unseen => absurd there unseen, fun _ => there⟩
    have uid : user.uid = account.user.uid := User.ofSnapshot_uid decoded
    simp only [LoginEnters, client, Client.isMain_signedIn, Client.currentUser_signedIn, Option.map_some, uid,
      Client.alerts_signedIn, Bool.or_eq_true, there, true_and, and_true]
    exact Iff.rfl

/-! ## Dan's logins -/

def dan : Account := ⟨"dan@lyv.app", "letmein", ⟨"dan", none, none⟩⟩

/-- Nobody uses the app yet. -/
def unusedWorld : World 1 := World.installed ⟨[], .empty, .empty⟩

theorem unused_unusedWorld : Unused unusedWorld := ⟨idle_installed _, rfl⟩

/-- Dan signs up; his account is made, and the create of his record is sent. -/
def danSignsUp : List (Action 1) :=
  [.event 0 .didFinishLaunching, .event 0 (.didTapSignUpButton dan.email dan.password "Dan"),
    .answer 0 0 (.account dan.user), .event 0 (.deliver 0 true)]

/-- The process is killed, and launched again. -/
def danReturns : List (Action 1) := danSignsUp ++ [.event 0 .kill, .event 0 .didFinishLaunching]

/-- Dan logs in, and the write of the killed process arrives after Auth's answer. -/
def danLogsIn : List (Action 1) := danReturns ++
  [.event 0 (.didTapLoginButton dan.email dan.password), .answer 0 1 .success, .answer 0 0 .success,
    .event 0 (.deliver 0 true), .answer 0 0 .success]

theorem danReturns_taken : ((app .sample Unused).replay [] unusedWorld danReturns).isSome := by
  decide +kernel

theorem danLogsIn_taken : ((app .sample Unused).replay [] unusedWorld danLogsIn).isSome := by
  decide +kernel

def danReturned : History (World 1) (Action 1) × World 1 :=
  (app .sample Unused).reached unusedWorld danReturns danReturns_taken

def danLoggedIn : History (World 1) (Action 1) × World 1 :=
  (app .sample Unused).reached unusedWorld danLogsIn danLogsIn_taken

/-- There is no record at the tap, and the login enters all the same. -/
theorem danLoggedIn_enters : danReturned.2.server.users.lookup "dan" = none ∧
    ∃ next, (app .sample Unused).step danLoggedIn.2 (.event 0 (.deliver 0 true)) = some next ∧
      LoginEnters danLoggedIn.2 next 0 dan := by
  have login : Login 0 dan 1 danReturned.2 danLoggedIn.1 (.shown _ _ _) :=
    .read (.goOn (.between _ (.signIn (.tap rfl (by decide +kernel)) rfl rfl)) rfl .loginShow) rfl rfl
  have execution : Execution (app .sample Unused) danLoggedIn.1 danLoggedIn.2 :=
    (app .sample Unused).execution_reached unused_unusedWorld danLogsIn danLogsIn_taken
  have found : (danLoggedIn.2.client 0).network[0]? = some _ := rfl
  obtain ⟨next, taken, enters, _⟩ := login_enters_iff execution login found true
  exact ⟨Option.isNone_iff_eq_none.mp (by decide +kernel), next, taken,
    enters.mpr ⟨.inl (by decide +kernel), .inr (by decide +kernel)⟩⟩

/-- The write of Dan's record is rejected, and he logs in. -/
def danIsRejected : List (Action 1) := danSignsUp ++
  [.answer 0 0 (.failure "permission denied"), .event 0 (.deliver 0 true),
    .event 0 (.didTapLoginButton dan.email dan.password), .answer 0 0 .success, .event 0 (.deliver 0 true),
    .answer 0 0 .success]

theorem danIsRejected_taken : ((app .sample Unused).replay [] unusedWorld danIsRejected).isSome := by
  decide +kernel

def danRejected : History (World 1) (Action 1) × World 1 :=
  (app .sample Unused).reached unusedWorld danIsRejected danIsRejected_taken

theorem danRejected_notMain : ((app .sample Unused).step danRejected.2 (.event 0 (.deliver 0 true))).map
    (fun next => (next.client 0).isMain) = some false := by
  decide +kernel

/-- A login that goes well throughout, with its scene on the window, can end in an alert. -/
theorem login_not_always_enters :
    ¬ ∀ (platform : Platform) (devices : Nat) (history : History (World devices) (Action devices))
      (start read world next : World devices) (device : Fin devices) (account : Account) (scene index : Nat)
      (op : Op) (response : Response), Execution (app platform Unused) history world →
      Login device account scene start history (.shown op response read) →
      (world.client device).network[index]? = some { op with response := some response } →
      (world.client device).loginScene = some scene →
      (app platform Unused).step world (.event device (.deliver index true)) = some next →
      LoginEnters world next device account := by
  intro always
  have login : Login 0 dan 0 _ danRejected.1 (.shown _ _ _) :=
    .read (.goOn (.signIn (.tap rfl (by decide +kernel)) rfl rfl) rfl .loginShow) rfl rfl
  have execution : Execution (app .sample Unused) danRejected.1 danRejected.2 :=
    (app .sample Unused).execution_reached unused_unusedWorld danIsRejected danIsRejected_taken
  have stays := danRejected_notMain
  obtain ⟨next, taken, notMain⟩ := Option.map_eq_some_iff.mp stays
  have found : (danRejected.2.client 0).network[0]? = some _ := rfl
  have enters := always .sample 1 _ _ _ _ next 0 dan 0 0 _ _ execution login found (by decide +kernel) taken
  simp [enters.1] at notMain

end Lyv
