import Lyv.App.Invariants

/-!
# Reads of the current user

`User.current` stops the process when nobody is signed in.  It is read on the
screens of the Main storyboard and in the completion of `getBeacons`, which may
run after a logout.  A logout leaves `User._current` alone, and whatever starts
a read has set it.
-/

namespace Lyv

open Lyv.Library Lyv.Firebase

variable {devices : Nat} {platform : Platform} {starts : World devices → Prop}

/-- The completion reads `User.current`. -/
def Closure.reads : Closure → Bool
  | .getBeacons _ _ => true
  | _ => false

/-- `User.current` may be read: the Main storyboard is up, or a completion that reads it is to come. -/
def Client.Reads (client : Client) : Prop :=
  client.isMain ∨ ∃ op ∈ client.network, op.closure.reads

/-- `User._current` refers to an object, and is set where it may be read. -/
structure Client.Present (client : Client) : Prop where
  stored : ∀ reference, client.current = some reference → reference < client.objects.length
  read : client.Reads → client.current.isSome
  root : ∀ message, client.root ≠ .trapped (.fatalError message)

namespace Client

variable {client next : Client}

theorem Present.currentUser (present : client.Present) (reads : client.Reads) :
    ∃ user, client.currentUser = some user := by
  obtain ⟨reference, current⟩ := Option.isSome_iff_exists.mp (present.read reads)
  have bound := present.stored reference current
  exact ⟨client.objects[reference], by simp [Client.currentUser, current, bound]⟩

theorem Present.userCurrent (present : client.Present) (reads : client.Reads) (trap : Trap) :
    client.userCurrent ≠ .error trap := by
  obtain ⟨user, found⟩ := present.currentUser reads
  obtain ⟨reference, current⟩ := currentUser_eq_some.mp found
  simp [current]

/-- An orphaned operation is a write, and reads nothing. -/
theorem not_reads_die (wellFormed : ∀ op ∈ client.network, op.WellFormed) (root : Root)
    (gone : ∀ scene, root ≠ .main scene) : ¬ (client.die root).Reads := by
  rintro (main | ⟨op, member, reads⟩)
  · obtain ⟨scene, shown⟩ := isMain_iff.mp main
    exact gone scene shown
  · obtain ⟨former, present, orphaned⟩ := List.mem_filterMap.mp member
    obtain ⟨writes, _, rfl⟩ := Op.orphaned_eq_some.mp orphaned
    have paired := (wellFormed former present).paired
    generalize former.request = request at writes paired
    generalize former.closure = closure at reads paired
    cases paired <;> simp_all [Closure.reads, Request.isWrite]

end Client

theorem Follows.not_reads {closure : Closure} {response : Response} {op : Op}
    (follows : Follows closure response op) : op.closure.reads = false := by
  cases follows <;> rfl

namespace Client

variable {client next : Client}

/-- What is sent after it reads nothing leaves the reads as they were. -/
theorem Reads.of_send {op : Op} (reads : (client.send op).Reads) (other : op.closure.reads = false) :
    client.Reads := by
  obtain main | ⟨former, member, reads⟩ := reads
  · exact .inl main
  · obtain member | member := List.mem_append.mp member
    · exact .inr ⟨former, member, reads⟩
    · obtain rfl := List.mem_singleton.mp member
      simp [other] at reads

theorem Reads.of_eraseIdx {index : Nat}
    (reads : ({ client with network := client.network.eraseIdx index } : Client).Reads) : client.Reads :=
  reads.imp_right fun ⟨op, member, reads⟩ => ⟨op, List.mem_of_mem_eraseIdx member, reads⟩

/-- The reference stays in bounds: objects are added, and changed in place. -/
theorem stored_completion {inWindow : Bool} {closure : Closure} {response : Response}
    (stored : ∀ reference, client.current = some reference → reference < client.objects.length)
    (outcome : Completion platform client inWindow closure response next) :
    ∀ reference, next.current = some reference → reference < next.objects.length := by
  cases outcome with
  | signIn _ _ | follow _ _ | alert _ _ | nothing _ => exact stored
  | enter _ _ =>
    intro reference current
    rw [current_signedIn] at current
    cases current
    simp
  | updateUserValues _ found =>
    rintro _ ⟨⟩
    exact (List.getElem?_eq_some_iff.mp found).1
  | @getBeacons uid profile children =>
    obtain ⟨_, _, crashed⟩ | ⟨_, _, _, listed⟩ := getBeaconsCompletion_cases client profile platform children uid
    · rw [crashed]
      simp [die]
    · rw [listed]
      simpa using stored
  | @beaconsLoaded home children =>
    obtain ⟨_, crashed⟩ | ⟨_, _, _, drawn⟩ | unseen :=
      beaconsCompletion_cases platform client home (BeaconService.decode platform children)
    · rw [crashed]
      simp [die]
    · rw [drawn]
      exact stored
    · rw [unseen]
      exact stored

theorem stored_handle {event : Event}
    (stored : ∀ reference, client.current = some reference → reference < client.objects.length)
    (handled : client.handle platform event = some next) :
    ∀ reference, next.current = some reference → reference < next.objects.length := by
  cases handle_cases handled with
  | launch _ =>
    obtain ⟨_, _, _, _, entered⟩ | ⟨_, shown⟩ := configureInitialRootViewController_cases client
    · rw [entered]
      rintro _ ⟨⟩
      simp [setCurrentNew]
    · rw [shown]
      exact stored
  | kill | crash _ => simp [die]
  | tap _ _ | logout _ | stay | screen _ _ => exact stored
  | @deliver index inWindow op response _ _ =>
    have outcome := complete_cases platform { client with network := client.network.eraseIdx index }
      inWindow op.closure response
    exact stored_completion (by exact stored) outcome

/-- Only a dying process loses its current user, and it leaves nothing to read it. -/
theorem read_completion {inWindow : Bool} {closure : Closure} {response : Response}
    (wellFormed : ∀ op ∈ client.network, op.WellFormed)
    (read : client.Reads ∨ closure.reads → client.current.isSome)
    (outcome : Completion platform client inWindow closure response next) :
    next.Reads → next.current.isSome := by
  cases outcome with
  | signIn _ follows | follow _ follows =>
    intro reads
    exact read (.inl (Reads.of_send reads follows.not_reads))
  | enter _ _ => simp
  | updateUserValues _ _ => exact fun _ => rfl
  | alert _ _ | nothing _ => exact fun reads => read (.inl reads)
  | @getBeacons uid profile children =>
    obtain ⟨_, _, crashed⟩ | ⟨_, _, _, listed⟩ := getBeaconsCompletion_cases client profile platform children uid
    · rw [crashed]
      exact fun reads => absurd reads (not_reads_die wellFormed _ (by simp))
    · rw [listed]
      exact fun _ => read (.inr rfl)
  | @beaconsLoaded home children =>
    obtain ⟨_, crashed⟩ | ⟨_, _, root, drawn⟩ | unseen :=
      beaconsCompletion_cases platform client home (BeaconService.decode platform children)
    · rw [crashed]
      exact fun reads => absurd reads (not_reads_die wellFormed _ (by simp))
    · rw [drawn]
      exact fun _ => read (.inl (.inl (isMain_iff.mpr ⟨_, root⟩)))
    · rw [unseen]
      exact fun reads => read (.inl reads)

theorem read_handle {event : Event} (wellFormed : ∀ op ∈ client.network, op.WellFormed)
    (read : client.Reads → client.current.isSome)
    (handled : client.handle platform event = some next) : next.Reads → next.current.isSome := by
  cases handle_cases handled with
  | launch _ =>
    obtain ⟨_, _, _, _, entered⟩ | ⟨_, shown⟩ := configureInitialRootViewController_cases client
    · rw [entered]
      exact fun _ => rfl
    · rw [shown]
      rintro (main | waits)
      · simp [isMain, enterLogin] at main
      · exact read (.inr waits)
  | kill => exact fun reads => absurd reads (not_reads_die wellFormed _ (by simp))
  | crash _ => exact fun reads => absurd reads (not_reads_die wellFormed _ (by simp))
  | tap _ tapped =>
    intro reads
    exact read (reads.of_send (by cases tapped <;> rfl))
  | logout _ =>
    rintro (main | waits)
    · simp [isMain, enterLogin] at main
    · exact read (.inr waits)
  | stay => exact read
  | screen root _ => exact fun _ => read (.inl (isMain_iff.mpr ⟨_, root⟩))
  | @deliver index inWindow op response found _ =>
    have erased : ∀ other ∈ client.network.eraseIdx index, other.WellFormed :=
      fun other member => wellFormed other (List.mem_of_mem_eraseIdx member)
    have outcome := complete_cases platform { client with network := client.network.eraseIdx index }
      inWindow op.closure response
    refine read_completion (by exact erased) ?_ outcome
    rintro (reads | reads)
    · exact read reads.of_eraseIdx
    · exact read (.inr ⟨op, List.mem_of_getElem? found, reads⟩)

end Client

/-- A read finds the user, so an event never ends in the trap. -/
theorem present_handle {client next : Client} {event : Event} (present : client.Present)
    (wellFormed : ∀ op ∈ client.network, op.WellFormed)
    (handled : client.handle platform event = some next) : next.Present := by
  refine ⟨Client.stored_handle present.stored handled, Client.read_handle wellFormed present.read handled,
    fun message trapped => ?_⟩
  obtain before | stops := Client.handle_trapped handled trapped
  · exact present.root message before
  · cases stops with
    | screen root stops =>
      cases stops with
      | session unread => exact present.userCurrent (.inl (Client.isMain_iff.mpr ⟨_, root⟩)) _ unread
    | listed member _ closure unread =>
      exact present.userCurrent (.inr ⟨_, member, by rw [closure]; rfl⟩) _ unread

theorem Client.Present.answered {client : Client} (present : client.Present) {index : Nat} {op : Op}
    (found : client.network[index]? = some op) (response : Response) :
    (client.answered index op response).Present := by
  refine ⟨present.stored, fun reads => present.read ?_, present.root⟩
  refine reads.imp_right ?_
  rintro ⟨other, member, reads⟩
  obtain member | ⟨_, rfl⟩ := Client.mem_of_mem_answered member
  · exact ⟨other, member, reads⟩
  · exact ⟨op, List.mem_of_getElem? found, reads⟩

def World.Present (world : World devices) : Prop := ∀ device, (world.client device).Present

theorem World.Present.step {world next : World devices} {action : Action devices}
    (present : world.Present) (wellFormed : world.WellFormed)
    (taken : (app platform starts).step world action = some next) : next.Present :=
  forall_client_step Client.Present
    (fun device _ _ present handled => present_handle present (wellFormed device) handled)
    (fun _ _ _ response present found => present.answered found response) present taken

/-- On no device does a run ever stop for want of a current user: there is one
whenever the Main storyboard is up or a completion that reads it is to come. -/
theorem current_user_exists {history : History (World devices) (Action devices)} {world : World devices}
    (execution : Execution (app platform Idle) history world) (device : Fin devices) :
    (∀ message, (world.client device).root ≠ .trapped (.fatalError message)) ∧
      ((world.client device).Reads → ∃ user, (world.client device).currentUser = some user) := by
  obtain ⟨_, present⟩ := execution.always (fun _ world => world.WellFormed ∧ world.Present)
    (fun world idle => ⟨(World.Sound.of_idle idle).wellFormed, fun device => by
      rw [idle device]
      exact ⟨by simp, by simp [Client.Reads, Client.isMain], by simp⟩⟩)
    (fun _ _ _ _ kept taken =>
      ⟨wellFormed_step kept.1 taken, World.Present.step kept.2 kept.1 taken⟩)
  exact ⟨(present device).root, (present device).currentUser⟩

/-- Ann opens her profile and logs out while the fetch of its list is under way. -/
def annLeavesProfile : List (Action 1) := annLogsIn ++
  [.event 0 (.screen .profileButtonPressed), .event 0 (.logoutButtonTapped true), .answer 0 1 .success]

theorem annLeavesProfile_taken :
    ((app .sample Idle).replay [] (World.installed .sample) annLeavesProfile).isSome := by
  decide +kernel

theorem annLeavesProfile_current_user :
    ∃ user, (((app .sample Idle).reached _ annLeavesProfile annLeavesProfile_taken).2.client 0).currentUser =
      some user := by
  refine (current_user_exists ((app .sample Idle).execution_reached (idle_installed .sample)
    annLeavesProfile annLeavesProfile_taken) 0).2 (.inr ?_)
  have waits : (((app .sample Idle).reached _ annLeavesProfile annLeavesProfile_taken).2.client 0).network.any
      (fun op => op.closure.reads) = true := by
    decide +kernel
  simpa [List.any_eq_true] using waits

end Lyv
