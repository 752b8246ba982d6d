import Lyv.Verified.CreatedBeacons
import Lyv.Verified.ProcessStops

/-!
# What is stored

A record of `/beacons` was there at the start, or a `create` or a saved form of
the run is its author.  What the app writes it can read, so a database that
decodes goes on doing so, and one whose pictures can be drawn never stops a
process.
-/

namespace Lyv

open Lyv.Library Lyv.Firebase

variable {devices : Nat} {platform : Platform} {starts : World devices → Prop} {stored : Store String Node}

/-- The child decodes to a beacon. -/
def Decodes (platform : Platform) (child : String × Node) : Prop :=
  (Beacon.ofSnapshot platform ⟨child.1, child.2⟩).isSome

section

variable {history : History (World devices) (Action devices)} {world next : World devices}
  {action : Action devices}

theorem World.Accounted.of_execution (execution : Execution (app platform (StartsWith stored)) history world) :
    world.Accounted platform stored history := by
  refine execution.always (fun history world => world.Accounted platform stored history) ?_
    fun _ _ _ _ accounted taken => accounted.step taken
  rintro world ⟨idle, rfl⟩
  exact .of_idle idle

/-- An attributed record decodes, when those that were there at the start do. -/
theorem Attributed.decodes {key : String} {node : Node} (attributed : Attributed platform stored history key node)
    (readable : ∀ child ∈ stored.entries, Decodes platform child) : Decodes platform (key, node) := by
  obtain found | ⟨beacon, _, _, rfl⟩ := attributed
  · exact readable _ (Store.lookup_eq_some_iff.mp found)
  · rw [Decodes, Beacon.ofSnapshot_dictValue]
    rfl

/-- In every run each record of `/beacons` was there at the start or is, unchanged
and readable, what a `create` or a saved form of the run has written at its key;
a database in which every record decodes stays one. -/
theorem stored_records_authored (execution : Execution (app platform (StartsWith stored)) history world) :
    (∀ key node, world.server.beacons.lookup key = some node → stored.lookup key = some node ∨
      ∃ beacon write, AuthoredIn platform history key beacon write ∧ node = nodeFrom beacon.dictValue ∧
        world.server.beacon platform key = some { beacon with key := some key }) ∧
    ((∀ child ∈ stored.entries, Decodes platform child) →
      ∀ child ∈ world.server.beacons.entries, Decodes platform child) := by
  have accounted := World.Accounted.of_execution execution
  refine ⟨fun key node found => ?_, fun readable child member => ?_⟩
  · refine (accounted.records world.server (mem_seen List.mem_cons_self) key node found).imp_right ?_
    rintro ⟨beacon, write, authored, rfl⟩
    exact ⟨beacon, write, authored, rfl, by simp [Server.beacon, found]⟩
  · exact (accounted.records world.server (mem_seen List.mem_cons_self) child.1 child.2
      (Store.lookup_eq_some_iff.mpr member)).decodes readable

/-! ## Pictures -/

/-- A beacon is created with a picture that can be read. -/
def ReadableCreates (platform : Platform) : Guard (World devices) (Action devices) := fun _ _ action =>
  ∀ beacon ∈ action.creating, (platform.imageOfData beacon.imageData).isSome

instance (platform : Platform) (history : History (World devices) (Action devices)) (world : World devices)
    (action : Action devices) : Decidable (ReadableCreates platform history world action) :=
  inferInstanceAs (Decidable (∀ beacon ∈ action.creating, (platform.imageOfData beacon.imageData).isSome))

/-- UIKit reads the JPEGs that it writes. -/
def ReadsItsJpegs (platform : Platform) : Prop :=
  ∀ image data, platform.jpegData image = some data → (platform.imageOfData data).isSome

theorem UpdateController.jpg_isImage (reads : ReadsItsJpegs platform) (form : UpdateController) :
    (platform.imageOfData (form.jpg platform)).isSome := by
  unfold jpg
  cases written : form.imageButton.bind platform.jpegData with
  | none => exact platform.locationPin_isImage
  | some data =>
    obtain ⟨image, _, encoded⟩ := Option.bind_eq_some_iff.mp written
    exact reads image data encoded

theorem Client.Authors.readable {client : Client} {event : Event} {key : String} {beacon : Beacon}
    {write : BeaconWrite} {device : Fin devices} (authors : client.Authors platform event key beacon write)
    (reads : ReadsItsJpegs platform) (created : ReadableCreates platform history world (.event device event)) :
    (platform.imageOfData beacon.imageData).isSome := by
  cases authors with
  | create beacon _ => exact created beacon rfl
  | updateBeacon _ _ _ _ _ => exact UpdateController.jpg_isImage reads _

/-- Listings that can be drawn, as long as the records that are written can be. -/
structure World.Safe (platform : Platform) (stored : Store String Node)
    (history : History (World devices) (Action devices)) (world : World devices) : Prop where
  secured : world.Secured platform history
  accounted : world.Accounted platform stored history
  written : ∀ key beacon write, AuthoredIn platform history key beacon write →
    (platform.imageOfData beacon.imageData).isSome
  untrapped : ∀ device trap, (world.client device).root ≠ .trapped trap

/-- The records that were seen can be drawn, when those of the start and of the authors can. -/
theorem World.Accounted.readable (accounted : world.Accounted platform stored history)
    (readable : Readable platform stored) (written : ∀ key beacon write,
      AuthoredIn platform history key beacon write → (platform.imageOfData beacon.imageData).isSome) :
    ∀ server ∈ seen history world, Readable platform server.beacons := by
  intro server seen beacon member
  obtain ⟨⟨key, node⟩, present, decoded⟩ := BeaconService.mem_decode.mp member
  obtain found | ⟨author, write, authored, rfl⟩ :=
    accounted.records server seen key node (Store.lookup_eq_some_iff.mpr present)
  · exact readable beacon (BeaconService.mem_decode.mpr ⟨(key, node), Store.lookup_eq_some_iff.mp found, decoded⟩)
  · rw [Beacon.ofSnapshot_dictValue] at decoded
    obtain rfl := Option.some.inj decoded
    exact written key author write authored

/-- The listings in flight are of what was seen. -/
theorem World.Secured.readable_lists (secured : world.Secured platform history)
    (readable : ∀ server ∈ seen history world, Readable platform server.beacons) {device : Fin devices}
    {event : Event} {children : Store String Node} (lists : (world.client device).lists event = some children) :
    Readable platform children := by
  obtain ⟨_, _, op, _, _, found, _, responded⟩ := Client.lists_eq_some lists
  intro beacon member
  obtain ⟨key, _, server, present, decoded⟩ :=
    (secured.selects.traced device).listed op (List.mem_of_getElem? found) children responded beacon member
  obtain ⟨node, lookup, decoded⟩ := Option.bind_eq_some_iff.mp decoded
  exact readable server (viewed_subset_seen present) beacon
    (BeaconService.mem_decode.mpr ⟨(key, node), Store.lookup_eq_some_iff.mp lookup, decoded⟩)

/-- Everything that was seen can be drawn. -/
theorem World.Safe.readable (safe : world.Safe platform stored history) (readable : Readable platform stored) :
    ∀ server ∈ seen history world, Readable platform server.beacons :=
  safe.accounted.readable readable safe.written

theorem World.Safe.step (reads : ReadsItsJpegs platform) (readable : Readable platform stored)
    (safe : world.Safe platform stored history) (created : ReadableCreates platform history world action)
    (taken : (app platform starts).step world action = some next) :
    next.Safe platform stored ((world, action) :: history) := by
  have accounted := safe.accounted.step taken
  have written : ∀ key beacon write, AuthoredIn platform ((world, action) :: history) key beacon write →
      (platform.imageOfData beacon.imageData).isSome := by
    rintro key beacon write ⟨before, device, event, member, authors⟩
    obtain here | earlier := List.mem_cons.mp member
    · cases here
      exact authors.readable reads created
    · exact safe.written key beacon write ⟨before, device, event, earlier, authors⟩
  refine ⟨safe.secured.step taken, accounted, written, fun device trap trapped => ?_⟩
  obtain same | ⟨event, _, handled⟩ | ⟨_, _, _, _, _, _, _, _, _, answered⟩ := client_cases taken device
  · exact safe.untrapped device trap (same ▸ trapped)
  · obtain ⟨children, lists, unreadable⟩ :=
      safe.secured.lists_of_trapped (safe.untrapped device) handled trapped
    exact unreadable (safe.secured.readable_lists (safe.readable readable) lists)
  · rw [answered] at trapped
    exact safe.untrapped device trap trapped

theorem World.Safe.of_starts (starts : StartsWith stored world) : world.Safe platform stored [] := by
  obtain ⟨idle, rfl⟩ := starts
  refine ⟨.of_idle idle, .of_idle idle, ?_, fun device => by rw [idle device]; simp⟩
  rintro _ _ _ ⟨_, _, _, member, _⟩
  contradiction

theorem World.Safe.of_execution (reads : ReadsItsJpegs platform) (readable : Readable platform stored)
    (execution : Execution (app platform (StartsWith stored)) history world)
    (created : EveryStep (ReadableCreates platform) history) : world.Safe platform stored history :=
  execution.invariant (fun history world => world.Safe platform stored history)
    (fun _ starts => .of_starts starts)
    (fun _ _ _ _ safe created taken => safe.step reads readable created taken) created

/-- A database whose pictures can be drawn never stops a process: whatever the
devices do, no force-unwrap fails, and the pictures of what they write can be
drawn in turn. -/
theorem readable_database_never_stops (reads : ReadsItsJpegs platform) (readable : Readable platform stored)
    (execution : Execution (app platform (StartsWith stored)) history world)
    (created : EveryStep (ReadableCreates platform) history) :
    EveryState (fun _ world => (∀ device trap, (world.client device).root ≠ .trapped trap) ∧
      Readable platform world.server.beacons) history world :=
  execution.everyState (fun history world => world.Safe platform stored history)
    (fun _ starts => .of_starts starts)
    (fun _ _ _ _ safe created taken => safe.step reads readable created taken)
    (fun _ _ safe => ⟨safe.untrapped, safe.readable readable _ (mem_seen List.mem_cons_self)⟩) created

end

/-! ## Ann's create -/

def annCreated : World 1 := Option.get _ annCreating_answered

theorem annCreated_execution : Execution besideCampfire ((annCreating.2, .answer 0 1 .success) :: annCreating.1)
    annCreated :=
  (besideCampfire.execution_reached ⟨idle_installed .withBeacon, rfl⟩ annCreates annCreates_taken).step
    (Option.some_get annCreating_answered).symm

theorem annCreated_authored : ∃ beacon write,
    AuthoredIn .sample ((annCreating.2, .answer 0 1 .success) :: annCreating.1)
      (Helper.randomAlphaNumericString annDraws) beacon write := by
  have present : (annCreated.server.beacons.lookup (Helper.randomAlphaNumericString annDraws)).isSome := by
    decide +kernel
  have absent : (Server.withBeacon.beacons.lookup (Helper.randomAlphaNumericString annDraws)).isSome = false := by
    decide +kernel
  obtain ⟨node, found⟩ := Option.isSome_iff_exists.mp present
  obtain before | ⟨beacon, write, authored, _⟩ := (stored_records_authored annCreated_execution).1 _ node found
  · simp [before] at absent
  · exact ⟨beacon, write, authored⟩

theorem readsItsJpegs_sample : ReadsItsJpegs .sample := by
  intro image data written
  simp only [Platform.sample, Option.ite_none_right_eq_some, Option.some.injEq] at written
  obtain ⟨jpeg, rfl⟩ := written
  simp [Platform.sample, jpeg]

theorem readable_withBeacon : Readable .sample Server.withBeacon.beacons := by
  have every : (BeaconService.decode .sample Server.withBeacon.beacons).all (fun beacon =>
      (Platform.sample.imageOfData beacon.imageData).isSome) = true := by
    decide +kernel
  exact List.all_eq_true.mp every

theorem annCreated_never_stopped : ¬ ∃ trap, (annCreated.client 0).root = .trapped trap := by
  have untrapped := (readable_database_never_stops readsItsJpegs_sample readable_withBeacon annCreated_execution
    (by decide +kernel)).last.1
  rintro ⟨trap, trapped⟩
  exact untrapped 0 trap trapped

end Lyv
