import Lyv.App.Steps

/-!
# Whether a removed beacon stays removed

`updateBeacon` writes the whole record at its key and does not ask whether it is
still there.  As long as every update finds the record it replaces, a removed
key stays away until a `create` draws it.
-/

namespace Lyv

open Lyv.Library Lyv.Firebase

variable {devices : Nat} {platform : Platform} {starts : World devices → Prop}

/-- A `removeBeacon` has removed the key, and no `create` has drawn it since. -/
def removed (key : String) : History (World devices) (Action devices) → Bool
  | [] => false
  | (world, action) :: history =>
    match world.applied action with
    | some { request := .removeBeacon target, .. } => target == key || removed key history
    | some { request := .setBeacon target _, closure := .noCompletion .create, .. } =>
      target != key && removed key history
    | _ => removed key history

/-- A write of a beacon that is applied is a `create`, or finds its key still there. -/
def World.updatesExisting (world : World devices) (action : Action devices) : Bool :=
  match world.applied action with
  | some { request := .setBeacon key _, closure, .. } =>
    closure == .noCompletion .create || (world.server.beacons.lookup key).isSome
  | _ => true

/-- Every update that is applied finds the record it replaces. -/
def UpdatesExisting : Guard (World devices) (Action devices) := fun _ world action =>
  world.updatesExisting action

instance (history : History (World devices) (Action devices)) (world : World devices)
    (action : Action devices) : Decidable (UpdatesExisting history world action) :=
  inferInstanceAs (Decidable (world.updatesExisting action = true))

theorem removed_unapplied {key : String} {world : World devices} {action : Action devices}
    {history : History (World devices) (Action devices)} (unapplied : world.applied action = none) :
    removed key ((world, action) :: history) = removed key history := by
  simp [removed, unapplied]

theorem removed_create {key target : String} {world : World devices} {action : Action devices}
    {history : History (World devices) (Action devices)} {op : Op} {value : Json}
    (applied : world.applied action = some op) (request : op.request = .setBeacon target value)
    (closure : op.closure = .noCompletion .create) :
    removed key ((world, action) :: history) = (target != key && removed key history) := by
  obtain ⟨_, _, _, _⟩ := op
  simp only at request closure
  subst request closure
  simp [removed, applied]

/-- A step keeps removed keys away when an update that is applied finds its record. -/
theorem removed_step {history : History (World devices) (Action devices)} {world next : World devices}
    {action : Action devices}
    (absent : ∀ key, removed key history → world.server.beacons.lookup key = none)
    (existing : UpdatesExisting history world action)
    (taken : (app platform starts).step world action = some next) :
    ∀ key, removed key ((world, action) :: history) → next.server.beacons.lookup key = none := by
  intro key gone
  obtain ⟨device, event, client, rfl, _, rfl⟩ |
    ⟨device, index, outcome, op, response, server, rfl, found, waiting, answered, rfl⟩ :=
    step_cases taken
  · exact absent key (by rwa [removed_unapplied rfl] at gone)
  · have applied : world.applied (.answer device index .success) = some op :=
      World.applied_answer found waiting
    obtain ⟨request, closure, _, orphan⟩ := op
    cases Server.answer_cases answered with
    | failed _ | signInWithCredential _ | createUser _ _ =>
      exact absent key (by rwa [removed_unapplied rfl] at gone)
    | logIn | signInWithEmail _ _ _ | setUser | observeUser | observeBeacons =>
      exact absent key (by simpa [removed, applied] using gone)
    | @removeBeacon target =>
      by_cases same : key = target
      · subst same
        exact Store.lookup_erase_self _ _
      · have before : removed key history := by
          simpa [removed, applied, Ne.symm same] using gone
        exact (Store.lookup_erase_of_ne _ same).trans (absent key before)
    | @setBeacon target value =>
      -- only `BeaconService` writes beacons, through `create` or `updateBeacon`
      by_cases create : closure = .noCompletion .create
      · rw [removed_create applied rfl create, Bool.and_eq_true, bne_iff_ne] at gone
        obtain ⟨different, gone⟩ := gone
        simpa [lookup_setChild, Ne.symm different] using absent key gone
      · -- an update finds its key, so the key is not one of those removed
        have present : (world.server.beacons.lookup target).isSome := by
          simpa [UpdatesExisting, World.updatesExisting, applied, create] using existing
        have before : removed key history := by
          simp only [removed, applied] at gone
          split at gone
          next same => simp_all
          next same => simp_all
          next => exact gone
        have different : key ≠ target := by
          rintro rfl
          simp [absent key before] at present
        simpa [lookup_setChild, different] using absent key before

/-- In every run in which each update that is applied finds its record, a key
that has been removed does not exist until a `create` draws it. -/
theorem removed_stays_removed {history : History (World devices) (Action devices)} {world : World devices}
    (execution : Execution (app platform Idle) history world)
    (existing : EveryStep UpdatesExisting history) :
    EveryState (fun history (world : World devices) => ∀ key, removed key history →
      world.server.beacons.lookup key = none) history world :=
  execution.everyState (fun history world => ∀ key, removed key history →
      world.server.beacons.lookup key = none)
    (fun _ _ _ gone => by simp [removed] at gone)
    (fun _ _ _ _ absent existing taken => removed_step absent existing taken)
    (fun _ _ absent => absent) existing

/-- Ann opens her beacon and removes it. -/
def annRemoves : List (Action 1) := annOpensProfile ++
  [.event 0 (.screen (.didSelectItemAt 0)), .event 0 (.screen .removeButtonPressed), .answer 0 1 .success]

/-- Ann removes her beacon, opens it again from the list on her profile, and saves it. -/
def annRemovesAndSaves : List (Action 1) := annRemoves ++
  [.event 0 (.screen (.didSelectItemAt 0)),
    .event 0 (.screen (.launchButtonPressed true Beacon.sample.date)), .answer 0 2 .success]

theorem annRemovesAndSaves_taken :
    ((app .sample Idle).replay [] (World.installed .withBeacon) annRemovesAndSaves).isSome := by
  decide +kernel

/-- Ann sees all beacons, opens her profile, removes one of her two beacons and saves the other. -/
def annTidiesUp : List (Action 1) := annLogsIn ++
  [.answer 0 0 .success, .event 0 (.deliver 0 true), .event 0 (.screen .profileButtonPressed),
    .event 0 (.screen (.didSelectItemAt 0)), .event 0 (.screen .removeButtonPressed), .answer 0 0 .success,
    .event 0 (.screen (.didSelectItemAt 1)),
    .event 0 (.screen (.launchButtonPressed true Beacon.sample.date)), .answer 0 1 .success]

theorem annTidiesUp_taken :
    ((app .sample Idle).replay [] (World.installed .crowded) annTidiesUp).isSome := by
  decide +kernel

/-- The campfire is updated after the lantern is removed, and the lantern stays away. -/
theorem annTidiesUp_stays_removed :
    (((app .sample Idle).reached _ annTidiesUp annTidiesUp_taken).1.any fun entry =>
      (entry.1.applied entry.2).any fun op => decide (op.closure = .noCompletion .updateBeacon)) ∧
    removed "lantern" ((app .sample Idle).reached _ annTidiesUp annTidiesUp_taken).1 ∧
    EveryState (fun history (world : World 1) => ∀ key, removed key history →
        world.server.beacons.lookup key = none)
      ((app .sample Idle).reached _ annTidiesUp annTidiesUp_taken).1
      ((app .sample Idle).reached _ annTidiesUp annTidiesUp_taken).2 :=
  ⟨by decide +kernel, by decide +kernel,
    removed_stays_removed ((app .sample Idle).execution_reached (idle_installed .crowded) annTidiesUp
      annTidiesUp_taken) (by decide +kernel)⟩

/-- Saving brings the removed record back. -/
theorem removed_comes_back :
    ¬ ∀ (platform : Platform) (devices : Nat) (history : History (World devices) (Action devices))
      (world : World devices), Execution (app platform Idle) history world →
      ∀ key, removed key history → world.server.beacons.lookup key = none := by
  intro always
  have absent := always _ _ _ _ ((app .sample Idle).execution_reached (idle_installed .withBeacon)
    annRemovesAndSaves annRemovesAndSaves_taken) "campfire" (by decide +kernel)
  have present : (((app .sample Idle).reached _ annRemovesAndSaves
      annRemovesAndSaves_taken).2.server.beacons.lookup "campfire").isSome := by decide +kernel
  simp [absent] at present

end Lyv
