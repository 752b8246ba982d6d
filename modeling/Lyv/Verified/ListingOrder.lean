import Lyv.Firebase.KeyOrder
import Lyv.Verified.AccountCards
import Lyv.Verified.CreatedBeacons
import Lyv.Verified.ListSnapshots
import Lyv.Verified.RemovedBeacons

/-!
# The order of listings

A listing comes in the order of the keys, and the services turn it round.  The
order does not tell every two keys apart, but it does those of a database that has
been in order and those that creates draw.  So a list depends on the records
alone, and not on the writes that led to them.
-/

namespace Lyv

open Lyv.Library Lyv.Firebase

variable {devices : Nat} {platform : Platform} {start : World devices}

/-- The beacons stand in the order of their keys, the last key first. -/
def Descending (beacons : List Beacon) : Prop :=
  beacons.Pairwise fun earlier later =>
    ∃ high low, earlier.key = some high ∧ later.key = some low ∧ keyBefore low high

theorem Descending.filter {beacons : List Beacon} (descending : Descending beacons) (keep : Beacon → Bool) :
    Descending (beacons.filter keep) :=
  List.Pairwise.sublist List.filter_sublist descending

theorem descending_decode {children : Store String Node} (sorted : children.Sorted keyBefore) :
    Descending (BeaconService.decode platform children) := by
  refine List.Pairwise.filterMap _ ?_ (List.pairwise_reverse.mpr sorted)
  intro later earlier before high decoded low decoded'
  exact ⟨_, _, Beacon.ofSnapshot_key decoded, Beacon.ofSnapshot_key decoded', before⟩

/-- Two stores in order with the same records list the same beacons. -/
theorem decode_eq_of_lookup {children others : Store String Node} (sorted : children.Sorted keyBefore)
    (sorted' : others.Sorted keyBefore) (same : ∀ key, children.lookup key = others.lookup key) :
    BeaconService.decode platform children = BeaconService.decode platform others := by
  rw [BeaconService.decode, BeaconService.decode, sorted.entries_eq sorted' keyBefore_asymm same]

/-! ## Keys that can be compared -/

theorem Helper.tryParseStringToInt_randomAlphaNumericString {draws : List (Fin 62)} (drawn : draws.length = 28) :
    tryParseStringToInt (randomAlphaNumericString draws) = none := by
  refine tryParseStringToInt_of_long ?_
  rw [← String.length_toList, toList_randomAlphaNumericString, List.length_map, drawn]
  omega

/-- Keys that creates draw can be compared with all others. -/
theorem Helper.keyBefore_randomAlphaNumericString {draws : List (Fin 62)} (drawn : draws.length = 28) {other : String}
    (different : other ≠ randomAlphaNumericString draws) :
    keyBefore (randomAlphaNumericString draws) other ∨ keyBefore other (randomAlphaNumericString draws) :=
  keyBefore_total (tryParseStringToInt_randomAlphaNumericString drawn) different

section

variable {history : History (World devices) (Action devices)} {world next : World devices}
  {action : Action devices}

theorem InUse.comparable (sorted : start.server.beacons.Sorted keyBefore) {key other : String}
    (used : InUse platform start.server.beacons history key)
    (used' : InUse platform start.server.beacons history other) (different : other ≠ key) :
    keyBefore key other ∨ keyBefore other key := by
  obtain present | ⟨_, authored⟩ := used
  · obtain present' | ⟨_, authored⟩ := used'
    · exact sorted.comparable present present' different.symm
    · obtain ⟨draws, drawn, rfl⟩ := authored.drawn
      exact (Helper.keyBefore_randomAlphaNumericString drawn different.symm).symm
  · obtain ⟨draws, drawn, rfl⟩ := authored.drawn
    exact Helper.keyBefore_randomAlphaNumericString drawn different

/-! ## Runs -/

theorem sorted_setChild {children : Store String Node} (sorted : children.Sorted keyBefore) {key : String}
    (value : Json) (comparable : ∀ other, (children.lookup other).isSome → other ≠ key →
      keyBefore key other ∨ keyBefore other key) : (setChild children key value).Sorted keyBefore := by
  unfold setChild
  split
  · exact sorted.erase key
  · exact sorted.insert keyBefore_trans _ comparable

/-- A write keeps the records in order, when they can be compared with its key. -/
theorem Server.sorted_write {server : Server} {request : Request} (sorted : server.beacons.Sorted keyBefore)
    (comparable : ∀ key, request.beaconKey = some key → ∀ other, (server.beacons.lookup other).isSome →
      other ≠ key → keyBefore key other ∨ keyBefore other key) :
    (server.write request).beacons.Sorted keyBefore := by
  cases request with
  | setBeacon key value => exact sorted_setChild sorted value (comparable key rfl)
  | removeBeacon key => exact sorted.erase key
  | _ => exact sorted

/-- The records that are seen stand in order. -/
structure World.Ordered (platform : Platform) (world start : World devices)
    (history : History (World devices) (Action devices)) : Prop where
  inUse : world.KeysInUse platform start.server.beacons history
  sorted : ∀ server ∈ seen history world, server.beacons.Sorted keyBefore

/-- What is in flight keeps the views in order, as they list keys in use alone. -/
theorem sorted_views (startSorted : start.server.beacons.Sorted keyBefore)
    (inUse : world.KeysInUse platform start.server.beacons history)
    (sorted : world.server.beacons.Sorted keyBefore) : ∀ view ∈ world.views, view.beacons.Sorted keyBefore := by
  have used : ∀ view ∈ world.views, ∀ key, (view.beacons.lookup key).isSome →
      InUse platform start.server.beacons history key :=
    fun view member key present => inUse.of_seen (mem_seen member) present
  refine fun view member => (World.forall_views (fun view => view.beacons.Sorted keyBefore ∧
    ∀ key, (view.beacons.lookup key).isSome → InUse platform start.server.beacons history key)
    ⟨sorted, used world.server List.mem_cons_self⟩ (fun device op inFlight _ _ current holds => ?_) view member).1
  refine ⟨Server.sorted_write holds.1 fun key keyed other present different =>
    (inUse.writes device op inFlight key keyed).comparable startSorted (holds.2 other present) different, ?_⟩
  intro key present
  obtain before | keyed := Server.isSome_lookup_write present
  · exact holds.2 key before
  · exact inUse.writes device op inFlight key keyed

theorem World.Ordered.of_starts (starts : StartsFrom start world) (sorted : start.server.beacons.Sorted keyBefore) :
    World.Ordered platform world start [] := by
  obtain ⟨idle, rfl⟩ := starts
  refine ⟨.of_idle idle, fun server member => ?_⟩
  obtain present | member := List.mem_append.mp member
  · have inUse : world.KeysInUse platform world.server.beacons [] := .of_idle idle
    exact sorted_views sorted inUse sorted server present
  · contradiction

theorem World.Ordered.step (startSorted : start.server.beacons.Sorted keyBefore)
    (ordered : World.Ordered platform world start history)
    (taken : (app platform (StartsFrom start)).step world action = some next) :
    World.Ordered platform next start ((world, action) :: history) := by
  have inUse := ordered.inUse.step taken
  have before := ordered.sorted world.server (mem_seen List.mem_cons_self)
  have server : next.server.beacons.Sorted keyBefore := by
    obtain ⟨_, _, _, _, _, rfl⟩ | ⟨device, _, _, op, _, server, rfl, found, _, answered, rfl⟩ := step_cases taken
    · exact before
    · show server.beacons.Sorted keyBefore
      obtain ⟨_, same⟩ | rfl := Server.stored_answer answered
      · rwa [same]
      · refine Server.sorted_write before fun key keyed other present different => ?_
        have used := ordered.inUse.writes device op (List.mem_of_getElem? found) key keyed
        exact used.comparable startSorted (ordered.inUse.of_seen (mem_seen List.mem_cons_self) present) different
  refine ⟨inUse, fun view member => ?_⟩
  obtain present | member := mem_seen_cons.mp member
  · exact sorted_views startSorted inUse server view present
  · exact ordered.sorted view member

/-- From a database that lists its beacons in the order of their keys, every run
keeps to that order: each list of beacons on a screen descends by key; what the
server and each device have of the records stands in order in every state, and is
listed as every store in order with the same records is, whatever the writes that
led to either.  The order does not tell every two keys apart, but it does the keys
that creates draw from all others. -/
theorem listings_keep_key_order (sorted : start.server.beacons.Sorted keyBefore)
    (execution : Execution (app platform (StartsFrom start)) history world) :
    (∀ device scene, (world.client device).root = .main scene → Descending scene.home.beacons ∧
      ∀ beacons, scene.screen.profileList = some beacons → Descending beacons) ∧
    (∀ server ∈ seen history world, server.beacons.Sorted keyBefore ∧
      ∀ other : Store String Node, other.Sorted keyBefore →
        (∀ key, other.lookup key = server.beacons.lookup key) →
        BeaconService.decode platform other = BeaconService.decode platform server.beacons) ∧
    (∀ draws : List (Fin 62), draws.length = 28 → ∀ other ≠ Helper.randomAlphaNumericString draws,
      keyBefore (Helper.randomAlphaNumericString draws) other ∨
        keyBefore other (Helper.randomAlphaNumericString draws)) ∧
    ∃ key other, key ≠ other ∧ compareKey key other = .eq := by
  have ordered : World.Ordered platform world start history :=
    execution.always (fun history world => World.Ordered platform world start history)
      (fun _ starts => .of_starts starts sorted) (fun _ _ _ _ ordered taken => ordered.step sorted taken)
  have idle : Execution (app platform Idle) history world := execution.weaken (fun _ starts => starts.1) rfl
  refine ⟨fun device scene root => ?_, fun server member => ?_,
    fun draws drawn other different => Helper.keyBefore_randomAlphaNumericString drawn different,
    "-0", "00", by decide, compareKey_negativeZero⟩
  · have consistent := World.Consistent.of_execution idle device
    constructor
    · obtain empty | ⟨server, member, listed⟩ := consistent.home scene root
      · rw [empty]
        exact List.Pairwise.nil
      · rw [listed]
        exact descending_decode (ordered.sorted server (viewed_subset_seen member))
    · intro beacons shown
      obtain rfl | ⟨server, member, uid, rfl⟩ := consistent.profile scene root beacons shown
      · exact List.Pairwise.nil
      · exact (descending_decode (ordered.sorted server (viewed_subset_seen member))).filter _
  · have now := ordered.sorted server member
    exact ⟨now, fun other sorted' same => decode_eq_of_lookup sorted' now same⟩

end

/-! ## Ann's home screen -/

theorem annTidiesUp_started :
    ((app .sample (StartsFrom (World.installed .crowded))).replay [] (World.installed .crowded)
      annTidiesUp).isSome := by
  decide +kernel

/-- Ann has removed one beacon and revised another, with all three on her home screen. -/
def annTidied : History (World 1) (Action 1) × World 1 :=
  (app .sample (StartsFrom (World.installed .crowded))).reached _ annTidiesUp annTidiesUp_started

theorem sorted_crowded : Server.crowded.beacons.Sorted keyBefore := by
  show List.Pairwise _ _
  decide +kernel

/-- The home screen shows the last key first, and the records that are left stand in order. -/
theorem annTidied_ordered : ∃ scene, (annTidied.2.client 0).root = .main scene ∧
    scene.home.beacons.map Beacon.key = [some "torch", some "lantern", some "campfire"] ∧
    Descending scene.home.beacons ∧
    annTidied.2.server.beacons.entries.map Prod.fst = ["campfire", "torch"] ∧
    annTidied.2.server.beacons.Sorted keyBefore := by
  have execution : Execution (app .sample (StartsFrom (World.installed .crowded))) annTidied.1 annTidied.2 :=
    (app .sample (StartsFrom (World.installed .crowded))).execution_reached ⟨idle_installed .crowded, rfl⟩
      annTidiesUp annTidiesUp_started
  obtain ⟨lists, stores, _⟩ := listings_keep_key_order sorted_crowded execution
  obtain ⟨scene, root⟩ := Client.isMain_iff.mp (show (annTidied.2.client 0).isMain = true by decide +kernel)
  have shown : (annTidied.2.client 0).homeList.map Beacon.key = [some "torch", some "lantern", some "campfire"] := by
    decide +kernel
  simp only [Client.homeList, root] at shown
  exact ⟨scene, root, shown, (lists 0 scene root).1, by decide +kernel,
    (stores annTidied.2.server (mem_seen List.mem_cons_self)).1⟩

end Lyv
