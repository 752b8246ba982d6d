import Lyv.Firebase.NormalForm
import Lyv.Verified.RequestPaths

/-!
# Records that read back

A snapshot's value is all there is of a record: written back, it is stored as the
very node it was read from.  Every record of a run is, since everything the app
writes is stored in normal form; only a list of more than `2 ^ 30` keys would not be.
-/

namespace Lyv

open Lyv.Library Lyv.Firebase

variable {devices : Nat} {platform : Platform}

/-! ## What the app writes -/

theorem comparable_of_nodup {fields : List (String × Json)} (nodup : (fields.map Prod.fst).Nodup)
    (notIntegers : ∀ field ∈ fields, tryParseStringToInt field.1 = none) :
    fields.Pairwise fun field other => keyBefore field.1 other.1 ∨ keyBefore other.1 field.1 := by
  refine (List.pairwise_map.mp nodup).imp_of_mem fun first _ different => ?_
  exact keyBefore_total (notIntegers _ first) different.symm

theorem Beacon.storable_dictValue (beacon : Beacon) : beacon.dictValue.Storable := by
  have plain : plainKey "date" ∧ plainKey "title" ∧ plainKey "uid" ∧ plainKey "distance" ∧
      plainKey "description" ∧ plainKey "latitude" ∧ plainKey "longitude" ∧ plainKey "imageData" := by
    decide +kernel
  refine ⟨comparable_of_nodup beacon.nodup_fields ?_, ?_, ?_⟩
  · simp only [fields, List.forall_mem_cons]
    decide +kernel
  · simp [fields]
  · simp [fields, StorableFields, Json.Storable, plain]

theorem UserService.storable_userAttrs (firUser : FIRUser) (username : String) :
    (UserService.userAttrs firUser username).Storable := by
  have plain : plainKey "username" ∧ plainKey "profileURL" := by decide +kernel
  refine ⟨comparable_of_nodup (by simp) ?_, by simp, by simp [StorableFields, Json.Storable, plain]⟩
  simp only [List.forall_mem_cons]
  decide +kernel

theorem storableItems_map_string (texts : List String) : StorableItems (texts.map Json.string) := by
  induction texts with
  | nil => trivial
  | cons text texts inductionHypothesis => exact ⟨trivial, inductionHypothesis⟩

theorem User.storable_dictValue (user : User) (few : user.beacons.length ≤ 2 ^ 30) : user.dictValue.Storable := by
  have plain : plainKey "uid" ∧ plainKey "username" ∧ plainKey "beacons" ∧ plainKey "profileURL" := by
    decide +kernel
  refine ⟨comparable_of_nodup (by simp) ?_, by simp, ?_⟩
  · simp only [List.forall_mem_cons]
    decide +kernel
  · simpa [StorableFields, Json.Storable, storableItems_map_string, plain] using few

/-! ## What the server keeps -/

/-- The list of the user that a record decodes to can be numbered with 32 bits. -/
def FewKeys (snapshot : DataSnapshot) : Prop :=
  ∀ user, User.ofSnapshot snapshot = some user → user.beacons.length ≤ 2 ^ 30

/-- Every record is a node in normal form, and none is empty. -/
structure Server.Normal (server : Server) : Prop where
  beacons : ∀ key node, server.beacons.lookup key = some node → node.isEmpty = false ∧ node.Normal
  users : ∀ uid node, server.users.lookup uid = some node →
    node.isEmpty = false ∧ (FewKeys ⟨uid, node⟩ → node.Normal)

/-- A child after a write is one from before, or what has been written. -/
theorem lookup_setChild_cases {children : Store String Node} {written key : String} {value : Json} {node : Node}
    (found : (setChild children written value).lookup key = some node) :
    children.lookup key = some node ∨ key = written ∧ node = nodeFrom value ∧ node.isEmpty = false := by
  rw [lookup_setChild] at found
  split at found
  next same =>
    split at found
    next => contradiction
    next present =>
      obtain rfl := Option.some.inj found
      exact .inr ⟨same, rfl, by simpa using present⟩
  next => exact .inl found

/-- A write of the app keeps the records in normal form. -/
theorem Server.Normal.write {server : Server} {request : Request} {closure : Closure} (normal : server.Normal)
    (paired : Paired request closure) : (server.write request).Normal := by
  cases request with
  | setUser written value =>
    refine ⟨normal.beacons, fun uid node found => ?_⟩
    obtain before | ⟨rfl, rfl, present⟩ := lookup_setChild_cases found
    · exact normal.users uid node before
    · refine ⟨present, fun few => ?_⟩
      cases paired with
      | userCreated => exact normal_nodeFrom _ (UserService.storable_userAttrs _ _)
      | @updateUserValues _ user =>
        exact normal_nodeFrom _ (user.storable_dictValue (few user (User.ofSnapshot_dictValue user)))
  | setBeacon written value =>
    refine ⟨fun key node found => ?_, normal.users⟩
    obtain before | ⟨rfl, rfl, present⟩ := lookup_setChild_cases found
    · exact normal.beacons key node before
    · cases paired with
      | create | updateBeacon => exact ⟨present, normal_nodeFrom _ (Beacon.storable_dictValue _)⟩
  | removeBeacon erased =>
    refine ⟨fun key node found => ?_, normal.users⟩
    by_cases same : key = erased
    · simp [Server.write, same] at found
    · exact normal.beacons key node (by rwa [Server.write, Store.lookup_erase_of_ne _ same] at found)
  | _ => exact normal

/-- Writing back what was read leaves every child as it was. -/
theorem lookup_setChild_val {children : Store String Node} {key : String} {node : Node}
    (found : children.lookup key = some node) (present : node.isEmpty = false) (normal : node.Normal)
    (other : String) : (setChild children key node.val).lookup other = children.lookup other := by
  rw [lookup_setChild, nodeFrom_val node normal, present]
  split
  next same => rw [same, found]; rfl
  next => rfl

/-- Every record that is seen is a node in normal form. -/
structure World.Normal (history : History (World devices) (Action devices)) (world : World devices) : Prop where
  wellFormed : world.WellFormed
  records : ∀ server ∈ seen history world, server.Normal

/-- What is in flight keeps the views in normal form. -/
theorem normal_views {world : World devices} (wellFormed : world.WellFormed) (normal : world.server.Normal) :
    ∀ view ∈ world.views, view.Normal :=
  World.forall_views Server.Normal normal fun device op member _ _ _ holds =>
    holds.write (wellFormed device op member).paired

theorem World.Normal.of_idle {world : World devices} (idle : Idle world) (normal : world.server.Normal) :
    world.Normal [] := by
  have wellFormed := (World.Sound.of_idle idle).wellFormed
  refine ⟨wellFormed, fun server member => ?_⟩
  obtain present | member := List.mem_append.mp member
  · exact normal_views wellFormed normal server present
  · contradiction

theorem World.Normal.step {starts : World devices → Prop} {history : History (World devices) (Action devices)}
    {world next : World devices} {action : Action devices} (normal : world.Normal history)
    (taken : (app platform starts).step world action = some next) : next.Normal ((world, action) :: history) := by
  have wellFormed := wellFormed_step normal.wellFormed taken
  have before := normal.records world.server (mem_seen List.mem_cons_self)
  have server : next.server.Normal := by
    obtain ⟨_, _, _, _, _, rfl⟩ | ⟨device, _, _, op, _, server, rfl, found, _, answered, rfl⟩ := step_cases taken
    · exact before
    · show server.Normal
      obtain ⟨users, beacons⟩ | rfl := Server.stored_answer answered
      · exact ⟨beacons ▸ before.beacons, users ▸ before.users⟩
      · exact before.write (normal.wellFormed device op (List.mem_of_getElem? found)).paired
  refine ⟨wellFormed, fun view member => ?_⟩
  obtain present | member := mem_seen_cons.mp member
  · exact normal_views wellFormed server view present
  · exact normal.records view member

/-- In every run that begins with records in normal form, the value of every
record that the server has or a device sees says all there is: written back to
where it was read, it is stored as the very node it was read from, and no child
of the store changes. -/
theorem records_read_back {start world : World devices} {history : History (World devices) (Action devices)}
    (normal : start.server.Normal) (execution : Execution (app platform (StartsFrom start)) history world) :
    ∀ server ∈ seen history world,
      (∀ key node, server.beacons.lookup key = some node → nodeFrom node.val = node ∧
        ∀ other, (setChild server.beacons key node.val).lookup other = server.beacons.lookup other) ∧
      ∀ uid node, server.users.lookup uid = some node → FewKeys ⟨uid, node⟩ → nodeFrom node.val = node ∧
        ∀ other, (setChild server.users uid node.val).lookup other = server.users.lookup other := by
  have kept : world.Normal history :=
    execution.always (fun history world => world.Normal history)
      (fun _ ⟨idle, same⟩ => .of_idle idle (same ▸ normal)) fun _ _ _ _ normal taken => normal.step taken
  intro server member
  have records := kept.records server member
  refine ⟨fun key node found => ?_, fun uid node found few => ?_⟩
  · obtain ⟨present, normal⟩ := records.beacons key node found
    exact ⟨nodeFrom_val node normal, lookup_setChild_val found present normal⟩
  · obtain ⟨present, normal⟩ := records.users uid node found
    exact ⟨nodeFrom_val node (normal few), lookup_setChild_val found present (normal few)⟩

theorem normal_sample : Server.sample.Normal where
  beacons key node found := by
    have absent : Server.sample.beacons.lookup key = none := rfl
    simp [absent] at found
  users uid node found := by
    obtain ann | ⟨_, rfl, present⟩ := lookup_setChild_cases found
    · obtain none | ⟨_, rfl, present⟩ := lookup_setChild_cases ann
      · contradiction
      · exact ⟨present, fun _ => normal_nodeFrom _ (User.storable_dictValue _ (by decide))⟩
    · exact ⟨present, fun _ => normal_nodeFrom _ (User.storable_dictValue _ (by decide))⟩

theorem calBoard_readBack : ∃ key node, calBoard.2.server.beacons.lookup key = some node ∧
    nodeFrom node.val = node := by
  have kept : calBoard.2.server.beacons.entries.isEmpty = false := by decide +kernel
  obtain ⟨⟨key, node⟩, rest, entries⟩ := List.exists_cons_of_ne_nil (by simpa using kept)
  have found : calBoard.2.server.beacons.lookup key = some node :=
    Store.lookup_eq_some_iff.mpr (by rw [entries]; exact List.mem_cons_self)
  exact ⟨key, node, found, ((records_read_back normal_sample calBoard_execution _
    (mem_seen List.mem_cons_self)).1 key node found).1⟩

end Lyv
