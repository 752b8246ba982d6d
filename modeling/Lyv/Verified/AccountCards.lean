import Lyv.App.Accounts
import Lyv.Verified.SignInOverwrite

/-!
# What an account is called

A user that is met anywhere, in memory, in an archive or in a record, carries a
name and a picture that the account had at the start, or that this very account
has signed up with.  Saving a form copies them; it never moves them to another
account, and it never loses the record.
-/

namespace Lyv

open Lyv.Library Lyv.Firebase

variable {devices : Nat} {platform : Platform} {starts : World devices → Prop} {start : World devices}

/-- The run begins in this world, in which no process runs. -/
def StartsFrom (start world : World devices) : Prop := Idle world ∧ world = start

/-- The user is in memory on a device, in an archive or in a record. -/
def World.Around (world : World devices) (user : User) : Prop :=
  (∃ device, user ∈ (world.client device).objects) ∨ world.Recorded user

section

variable {history : History (World devices) (Action devices)} {world next : World devices}
  {action : Action devices}

theorem World.Vouched.around (vouched : World.Vouched platform world start history) {user : User}
    (around : world.Around user) : user.Vouched (CardOf start history) (KnownKey platform start history) := by
  obtain ⟨device, member⟩ | ⟨uid, found⟩ | ⟨device, archived⟩ := around
  · exact (vouched.clients device).objects user member
  · exact vouched.users uid user found
  · exact (vouched.clients device).archive user archived

theorem World.Vouched.of_execution (execution : Execution (app platform (StartsFrom start)) history world) :
    World.Vouched platform world start history := by
  refine (execution.always (fun history world => World.Vouched platform world start history ∧
    world.KeysInUse platform start.server.beacons history) ?_ ?_).1
  · rintro world ⟨idle, rfl⟩
    exact ⟨.of_idle idle, .of_idle idle⟩
  · rintro history world action next ⟨vouched, inUse⟩ taken
    exact ⟨vouched.step inUse taken, inUse.step taken⟩

/-- The records that decode on a server passed before still do. -/
theorem isSome_user_of_passed (execution : Execution (app platform (StartsFrom start)) history world) :
    ∀ server ∈ passed history world, ∀ uid, (server.user uid).isSome → (world.server.user uid).isSome := by
  refine (execution.always (fun history world => world.WellFormed ∧ ∀ server ∈ passed history world, ∀ uid,
    (server.user uid).isSome → (world.server.user uid).isSome) ?_ ?_).2
  · rintro world ⟨idle, _⟩
    refine ⟨(World.Sound.of_idle idle).wellFormed, fun server member uid present => ?_⟩
    obtain rfl := List.mem_singleton.mp member
    exact present
  · rintro history world action next ⟨wellFormed, stay⟩ taken
    refine ⟨wellFormed_step wellFormed taken, fun server member uid present => ?_⟩
    obtain rfl | member := List.mem_cons.mp member
    · exact present
    · exact isSome_user_step wellFormed taken (stay server member uid present)

/-- In every run, every user in memory, in an archive or in a record has a name and
a picture that the same account had at the start or has signed up with in the run,
and lists only keys that were listed or taken at the start or that a `create` of the
run has drawn; and a record that has once decoded does so in every later state. -/
theorem accounts_keep_their_cards (execution : Execution (app platform (StartsFrom start)) history world) :
    (∀ user, world.Around user →
      ((∃ original, start.Recorded original ∧ original.uid = user.uid ∧ original.card = user.card) ∨
        SignedUpIn history user.uid user.card) ∧
      ∀ key ∈ user.beacons, (∃ original, start.Recorded original ∧ key ∈ original.beacons) ∨
        (start.server.beacons.lookup key).isSome ∨ ∃ beacon, AuthoredIn platform history key beacon .create) ∧
    (∀ server ∈ passed history world, ∀ uid, (server.user uid).isSome → (world.server.user uid).isSome) := by
  have vouched := World.Vouched.of_execution execution
  refine ⟨fun user around => ?_, isSome_user_of_passed execution⟩
  exact ⟨(vouched.around around).card, (vouched.around around).keys⟩

end

/-! ## Cal's registration -/

theorem World.Recorded.of_installed {server : Server} {user : User}
    (recorded : (World.installed server : World devices).Recorded user) : server.user user.uid = some user := by
  obtain ⟨uid, found⟩ | ⟨_, archived⟩ := recorded
  · rw [User.ofSnapshot_uid found]
    exact found
  · contradiction

theorem calReturns_started :
    ((app .sample (StartsFrom (World.installed .sample))).replay [] (World.installed .sample)
      calReturns).isSome := by
  decide +kernel

/-- Cal signs up, creates and saves a beacon, and signs in on another device. -/
def calKnown : History (World 2) (Action 2) × World 2 :=
  (app .sample (StartsFrom (World.installed .sample))).reached _ calReturns calReturns_started

theorem sample_user_uid {uid : String} (known : (Server.sample.user uid).isSome) : uid = "ann" ∨ uid = "bob" := by
  by_contra neither
  obtain ⟨notAnn, notBob⟩ := not_or.mp neither
  have absent : Server.sample.users.lookup uid = none := by
    rw [Server.sample, lookup_setChild, if_neg notBob, lookup_setChild, if_neg notAnn]
    rfl
  have missing : Server.sample.user uid = none := by
    rw [Server.user, Server.snapshotOfUser, absent]
    rfl
  simp [missing] at known

/-- Neither Ann nor Bob lists a beacon at the start. -/
theorem beacons_of_sample {uid : String} {user : User} (found : Server.sample.user uid = some user) :
    user.beacons = [] := by
  have listless : ∀ uid ∈ ["ann", "bob"],
      (Server.sample.user uid).all (fun user => user.beacons.isEmpty) = true := by
    decide +kernel
  obtain rfl | rfl := sample_user_uid (by rw [found]; rfl)
  · simpa [found] using listless "ann" (by simp)
  · simpa [found] using listless "bob" (by simp)

theorem calKnown_keeps_card : ∃ user, calKnown.2.server.user "cal" = some user ∧ user.username = "Cal" ∧
    SignedUpIn calKnown.1 "cal" user.card ∧ user.beacons ≠ [] ∧
    ∀ key ∈ user.beacons, ∃ beacon, AuthoredIn .sample calKnown.1 key beacon .create := by
  have execution : Execution (app .sample (StartsFrom (World.installed .sample))) calKnown.1 calKnown.2 :=
    (app .sample (StartsFrom (World.installed .sample))).execution_reached ⟨idle_installed .sample, rfl⟩
      calReturns calReturns_started
  have named : (calKnown.2.server.user "cal").any (fun user =>
      decide (user.username = "Cal") && !user.beacons.isEmpty) = true := by
    decide +kernel
  obtain ⟨user, found, checked⟩ := (Option.any_eq_true _ _).mp named
  simp only [Bool.and_eq_true, decide_eq_true_eq, Bool.not_eq_true', List.isEmpty_eq_false_iff] at checked
  have uid : user.uid = "cal" := User.ofSnapshot_uid found
  obtain ⟨card, keys⟩ := (accounts_keep_their_cards execution).1 user (.inr (.inl ⟨_, found⟩))
  refine ⟨user, found, checked.1, ?_, checked.2, fun key member => ?_⟩
  · obtain ⟨original, recorded, same, _⟩ | signedUp := card
    · -- nobody has that identifier at the start
      have newcomer : (Server.sample.user "cal").isSome = false := by decide +kernel
      have stored := recorded.of_installed
      rw [same, uid] at stored
      simp [stored] at newcomer
    · rwa [uid] at signedUp
  · obtain ⟨original, recorded, listed⟩ | before | drawn := keys key member
    · simp [beacons_of_sample recorded.of_installed] at listed
    · exact absurd before (by simp [World.installed, Server.sample, Store.lookup, Store.empty])
    · exact drawn

end Lyv
