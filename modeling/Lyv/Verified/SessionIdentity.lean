import Lyv.App.Steps

/-!
# The account that is signed in

Auth and `User._current` are written at different moments: Auth when a sign-in
is answered, `User._current` when a profile has been read, when an update is
acknowledged, and at launch from whatever is archived.  The two agree for as
long as none of these finds, or puts, the other's account elsewhere.
-/

namespace Lyv

open Lyv.Library Lyv.Firebase

namespace Client

def sessionUid (client : Client) : Option String := client.currentUser.map User.uid

def accountUid (client : Client) : Option String := client.authCurrentUser.map FIRUser.uid

/-- `User.current` is the account that Auth has signed in. -/
def SameAccount (client : Client) : Prop :=
  ∃ uid, client.sessionUid = some uid ∧ client.accountUid = some uid

/-- Whether a completion keeps to one account: while the Main storyboard is up, a
sign-in answers the session's account, and while it is up or comes up, the
user that becomes current is that of Auth. -/
def keepsAccount (client : Client) (inWindow : Bool) : Closure → Response → Bool
  | closure, .signedIn firUser =>
    !closure.signsIn || !client.isMain || client.sessionUid == some firUser.uid
  | closure, .record snapshot =>
    match closure.enters, User.ofSnapshot snapshot with
    | some scene, some user =>
      !(client.isMain || client.opens scene inWindow) || client.accountUid == some user.uid
    | _, _ => true
  | .updateUserValues reference, .done | .updateUserValues reference, .failed _ =>
    match client.objects[reference]? with
    | some user => !client.isMain || client.accountUid == some user.uid
    | none => true
  | _, _ => true

/-- Whether an event keeps to one account: at launch, the archived user is that of Auth. -/
def keepsAccountAt (client : Client) : Event → Bool
  | .didFinishLaunching =>
    match client.authCurrentUser, client.userDefaults.bind User.decode with
    | some account, some user => account.uid == user.uid
    | _, _ => true
  | .deliver index inWindow =>
    match client.network[index]?, client.network[index]?.bind Op.response with
    | some op, some response => client.keepsAccount inWindow op.closure response
    | _, _ => true
  | _ => true

theorem sessionUid_of_userCurrent {client : Client} {reference : Nat} {user : User}
    (current : client.userCurrent = .ok (reference, user)) : client.sessionUid = some user.uid := by
  simp [sessionUid, currentUser_eq_some.mpr ⟨reference, current⟩]

theorem keepsAccount_of_passive {client : Client} {inWindow : Bool} {closure : Closure}
    {response : Response} (passive : Passive client closure response) :
    client.keepsAccount inWindow closure response := by
  unfold keepsAccount
  split
  next firUser => simp [passive.signIn firUser rfl]
  next snapshot =>
    split
    next scene user enters decoded =>
      simp [passive.enter scene snapshot rfl enters] at decoded
    next => rfl
  next reference => simp [passive.updateUserValues reference rfl rfl]
  next reference error => simp [passive.updateUserValues reference rfl rfl]
  next => rfl

/-- A completion ends in agreement, from agreement, exactly when it keeps to one account. -/
theorem sameAccount_complete_iff {platform : Platform} {client : Client} {inWindow : Bool}
    {closure : Closure} {response : Response} (same : client.isMain → client.SameAccount) :
    ((client.complete platform inWindow closure response).isMain →
        (client.complete platform inWindow closure response).SameAccount) ↔
      client.keepsAccount inWindow closure response := by
  have outcome := complete_cases platform client inWindow closure response
  generalize client.complete platform inWindow closure response = next at outcome
  cases outcome with
  | @signIn _ firUser op signsIn follows =>
    -- Auth moves to the account and the session stays where it was
    have session : ({ client with authCurrentUser := some firUser }.send op).SameAccount ↔
        client.sessionUid = some firUser.uid := by
      simp [SameAccount, accountUid, send, sessionUid, currentUser]
    have main : ({ client with authCurrentUser := some firUser }.send op).isMain = client.isMain := rfl
    rw [session, main]
    cases shown : client.isMain <;> simp [keepsAccount, signsIn, shown]
  | @enter _ scene snapshot user enters decoded =>
    -- the session moves to the user and Auth stays where it was
    have session : (client.signedIn scene inWindow user).SameAccount ↔
        client.accountUid = some user.uid := by
      simp [SameAccount, sessionUid, accountUid]
    rw [session, isMain_signedIn]
    cases main : client.isMain || client.opens scene inWindow <;>
      simp [keepsAccount, enters, decoded, main]
  | @updateUserValues reference user response settles found =>
    have session : ((client.setCurrent reference).writeToUserDefaults user).SameAccount ↔
        client.accountUid = some user.uid := by
      simp [SameAccount, sessionUid, accountUid, currentUser, setCurrent, writeToUserDefaults, found]
    have main : ((client.setCurrent reference).writeToUserDefaults user).isMain = client.isMain := rfl
    rw [session, main]
    have keeps : client.keepsAccount inWindow (.updateUserValues reference) response =
        (!client.isMain || client.accountUid == some user.uid) := by
      cases response <;> simp_all [Response.settles, keepsAccount]
    rw [keeps]
    cases client.isMain <;> simp
  | @getBeacons uid profile children =>
    obtain ⟨trap, _, crashed⟩ | ⟨reference, user, current, listed⟩ :=
      getBeaconsCompletion_cases client profile platform children uid
    · simp [crashed, die, isMain, keepsAccount]
    · -- the keys of the current user are replaced, but never its uid
      have unchanged : ∀ root, ({ client with
          objects := client.objects.set reference { user with
            beacons := (UserService.beaconsOf platform children uid).filterMap Beacon.key }
          root := root } : Client).SameAccount ↔ client.SameAccount := by
        intro root
        have before := sessionUid_of_userCurrent current
        obtain ⟨current, found⟩ := userCurrent_eq_ok.mp current
        obtain ⟨bound, _⟩ := List.getElem?_eq_some_iff.mp found
        have after : ({ client with
            objects := client.objects.set reference { user with
              beacons := (UserService.beaconsOf platform children uid).filterMap Beacon.key }
            root := root } : Client).sessionUid = some user.uid := by
          simp [sessionUid, currentUser, current, bound]
        simp only [SameAccount, before, after]
        rfl
      rw [listed, unchanged, isMain_profileLoaded]
      simpa [keepsAccount] using same
  | @beaconsLoaded home children =>
    obtain ⟨trap, crashed⟩ | ⟨scene, screen, root, drawn⟩ | unseen :=
      beaconsCompletion_cases platform client home (BeaconService.decode platform children)
    · simp [crashed, die, isMain, keepsAccount]
    · rw [drawn]
      exact iff_of_true (fun _ => same (isMain_iff.mpr ⟨scene, root⟩)) rfl
    · rw [unseen]
      exact iff_of_true same rfl
  | follow passive _ => exact iff_of_true same (keepsAccount_of_passive passive)
  | alert _ passive => exact iff_of_true same (keepsAccount_of_passive passive)
  | nothing passive => exact iff_of_true same (keepsAccount_of_passive passive)

/-- An event ends in agreement, from agreement, exactly when it keeps to one account. -/
theorem sameAccount_handle_iff {platform : Platform} {client next : Client} {event : Event}
    (same : client.isMain → client.SameAccount) (handled : client.handle platform event = some next) :
    (next.isMain → next.SameAccount) ↔ client.keepsAccountAt event := by
  cases handle_cases handled with
  | launch _ =>
    obtain ⟨account, user, signedIn, archived, entered⟩ | ⟨missing, shown⟩ :=
      configureInitialRootViewController_cases client
    · rw [entered]
      simp [isMain, keepsAccountAt, signedIn, archived, SameAccount, sessionUid, accountUid, currentUser,
        setCurrentNew]
    · rw [shown]
      have keeps : client.keepsAccountAt .didFinishLaunching := by
        obtain missing | missing := missing <;> simp [keepsAccountAt, missing]
      simpa [enterLogin, isMain] using keeps
  | kill => simp [die, isMain, keepsAccountAt]
  | crash _ => simp [die, isMain, keepsAccountAt]
  | tap root tapped => cases tapped <;> simp [send, isMain, root, keepsAccountAt]
  | logout _ => simp [enterLogin, isMain, keepsAccountAt]
  | stay => simpa [keepsAccountAt] using same
  | screen root reacted => exact iff_of_true (fun _ => same (isMain_iff.mpr ⟨_, root⟩)) rfl
  | @deliver index inWindow op response found responded =>
    have keeps : client.keepsAccountAt (.deliver index inWindow) =
        ({ client with network := client.network.eraseIdx index } : Client).keepsAccount inWindow
          op.closure response := by
      simp only [keepsAccountAt, found, Option.bind_some, responded]
      rfl
    rw [keeps]
    exact sameAccount_complete_iff same

end Client

/-- Every event of the step keeps to one account. -/
def KeepsAccount {devices : Nat} : Guard (World devices) (Action devices) := fun _ world action =>
  match action with
  | .event device event => (world.client device).keepsAccountAt event
  | .answer _ _ _ => True

variable {devices : Nat} {platform : Platform}

instance (history : History (World devices) (Action devices)) (world : World devices) :
    (action : Action devices) → Decidable (KeepsAccount history world action)
  | .event device event => inferInstanceAs (Decidable ((world.client device).keepsAccountAt event = true))
  | .answer _ _ _ => isTrue trivial

theorem sameAccount_answered {client : Client} {index : Nat} {op : Op} {response : Response} :
    ((client.answered index op response).isMain → (client.answered index op response).SameAccount) ↔
      (client.isMain → client.SameAccount) := Iff.rfl

/-- In every run, on every device, `User.current` is the account of Auth in all
states that show the Main storyboard, if and only if every event keeps to one account. -/
theorem session_identity_iff {history : History (World devices) (Action devices)}
    {world : World devices} (execution : Execution (app platform Idle) history world) :
    EveryState (fun _ world => ∀ device,
        (world.client device).isMain → (world.client device).SameAccount) history world ↔
      EveryStep KeepsAccount history := by
  -- one step decides both directions, and the invariant is the property itself
  have step_iff : ∀ (world next : World devices) action, (app platform Idle).step world action = some next →
      (∀ device, (world.client device).isMain → (world.client device).SameAccount) →
      ((∀ device, (next.client device).isMain → (next.client device).SameAccount) ↔
        ∀ history, KeepsAccount history world action) := by
    intro world next action taken same
    obtain ⟨active, event, client, rfl, handled, rfl⟩ |
      ⟨active, index, outcome, op, response, server, rfl, _, _, _, rfl⟩ := step_cases taken
    · have agrees := Client.sameAccount_handle_iff (same active) handled
      constructor
      · intro every _
        exact agrees.mp (by simpa using every active)
      · intro keeps device
        by_cases here : device = active
        · subst here
          simpa using agrees.mpr (keeps [])
        · rw [World.setClient_client_of_ne _ here]
          exact same device
    · refine iff_of_true (fun device => ?_) (fun _ => trivial)
      by_cases here : device = active
      · subst here
        simpa using sameAccount_answered.mpr (same device)
      · simpa [World.setClient_client_of_ne _ here] using same device
  refine execution.everyState_iff
    (fun _ world => ∀ device, (world.client device).isMain → (world.client device).SameAccount)
    ?starts ?preserved (fun _ _ same => same) ?exact
  case starts =>
    intro world idle device main
    rw [idle device] at main
    simp [Client.isMain] at main
  case preserved =>
    intro history world action next same keeps taken
    exact (step_iff world next action taken same).mpr fun _ => keeps
  case exact =>
    intro history world action next same taken every
    exact (step_iff world next action taken same).mp every history

/-- Ann logs in and out; Bob signs in, and the process is killed before his
record is read; the app is launched again. -/
def bobIsInterrupted : List (Action 1) := annLogsIn ++
  [.event 0 (.screen .profileButtonPressed), .event 0 (.logoutButtonTapped true),
    .event 0 (.didTapLoginButton "bob@lyv.app" "hidden"), .answer 0 2 .success,
    .event 0 (.deliver 2 true), .event 0 .kill, .event 0 .didFinishLaunching]

theorem annLogsIn_taken :
    ((app .sample Idle).replay [] (World.installed .sample) annLogsIn).isSome := by
  decide +kernel

theorem bobIsInterrupted_taken :
    ((app .sample Idle).replay [] (World.installed .sample) bobIsInterrupted).isSome := by
  decide +kernel

/-- The run of one login, which keeps to one account throughout. -/
theorem annLogsIn_keeps_identity :
    EveryState (fun _ (world : World 1) => ∀ device,
        (world.client device).isMain → (world.client device).SameAccount)
      ((app .sample Idle).reached _ annLogsIn annLogsIn_taken).1
      ((app .sample Idle).reached _ annLogsIn annLogsIn_taken).2 :=
  (session_identity_iff ((app .sample Idle).execution_reached (idle_installed .sample) annLogsIn
    annLogsIn_taken)).mpr (by decide +kernel)

/-- After the relaunch Ann is the current user, and Bob is signed in. -/
theorem session_identity_fails :
    ¬ ∀ (platform : Platform) (devices : Nat) (history : History (World devices) (Action devices))
      (world : World devices), Execution (app platform Idle) history world →
      ∀ device, (world.client device).isMain → (world.client device).SameAccount := by
  intro always
  obtain ⟨uid, session, account⟩ := always _ _ _ _ ((app .sample Idle).execution_reached
    (idle_installed .sample) bobIsInterrupted bobIsInterrupted_taken) 0 (by decide +kernel)
  have ann : Client.sessionUid ((((app .sample Idle).reached _ bobIsInterrupted
      bobIsInterrupted_taken).2).client 0) = some "ann" := by decide +kernel
  have bob : Client.accountUid ((((app .sample Idle).reached _ bobIsInterrupted
      bobIsInterrupted_taken).2).client 0) = some "bob" := by decide +kernel
  rw [ann] at session
  rw [bob, ← session] at account
  exact absurd account (by decide)

end Lyv
