import Lyv.Services.Calls

/-!
# The record formats

Each codec is two lists of field names that were written apart.  What a decoder
accepts is described field by field; the round trips follow, because an encoder
writes what its decoder describes.
-/

namespace Lyv

open Lyv.Library Lyv.Firebase

/-! ## Users -/

/-- The archive of a user, the record that `updateUserValues` stores and the one
that `create` stores all decode to the user they were made from. -/
theorem user_round_trips (server view : Server) (user : User) (reference : Nat) (firUser : FIRUser)
    (username : String) (flow : Flow) (scene : Nat) :
    User.decode user.encode = some user ∧
    (∃ stored, server.answer view (UserService.updateUserValues reference user).request .success =
        some (.done, stored) ∧ stored.user user.uid = some user) ∧
    ∃ stored, server.answer view (UserService.create firUser username flow scene).request .success =
        some (.done, stored) ∧
      stored.user firUser.uid = some {
        uid := firUser.uid
        username := username
        beacons := []
        profileURL := firUser.photoURL.getD "" ++ "?width=300&height=300" } := by
  refine ⟨User.decode_encode user, ⟨_, rfl, ?_⟩, ⟨_, rfl, ?_⟩⟩
  · rw [Server.write, Server.user_setUser, User.ofSnapshot_dictValue]
  · rw [Server.write, Server.user_setUser, UserService.ofSnapshot_userAttrs]

/-! ## Beacons -/

/-- The type a field of a record is cast to. -/
inductive FieldType where
  | string
  | timeInterval
  | int
  | float

/-- The values that the cast accepts. -/
def FieldType.Reads : FieldType → Json → Prop
  | .string, value => ∃ text, value = .string text
  | .timeInterval, value => ∃ number : SwiftDouble, value.numeric = .number number.val
  | .int, value => ∃ number : SwiftInt, value.numeric = .number number.val
  | .float, value => ∃ number : SwiftFloat, value.numeric = .number number.val

namespace Beacon

/-- The eight fields of a record. -/
def schema : List (String × FieldType) :=
  [("date", .timeInterval), ("title", .string), ("uid", .string), ("distance", .int),
    ("description", .string), ("latitude", .float), ("longitude", .float), ("imageData", .string)]

/-- The children of a record that are fields of a beacon. -/
def childrenOf (node : Node) : List (String × Json) :=
  schema.filterMap fun field => (node.child field.1).map (field.1, ·)

variable {platform : Platform} {snapshot : DataSnapshot} {beacon : Beacon}

theorem ofSnapshot_isSome_iff : (ofSnapshot platform snapshot).isSome ↔
    ∀ field ∈ schema, ∃ value, snapshot.node.child field.1 = some value ∧ field.2.Reads value := by
  rw [Option.isSome_iff_exists]
  simp only [ofSnapshot_eq_some, schema, List.forall_mem_cons, List.not_mem_nil, false_implies,
    implies_true, and_true]
  constructor
  · rintro ⟨beacon, record⟩
    obtain ⟨date, date_eq, date'⟩ := Option.map_eq_some_iff.mp record.date
    obtain ⟨distance, distance_eq, distance'⟩ := Option.map_eq_some_iff.mp record.distance
    obtain ⟨latitude, latitude_eq, latitude'⟩ := Option.map_eq_some_iff.mp record.latitude
    obtain ⟨longitude, longitude_eq, longitude'⟩ := Option.map_eq_some_iff.mp record.longitude
    obtain ⟨text, text_eq, _⟩ := record.imageData
    exact ⟨⟨date, date_eq, _, date'⟩, ⟨_, record.title, _, rfl⟩, ⟨_, record.uid, _, rfl⟩,
      ⟨distance, distance_eq, _, distance'⟩, ⟨_, record.description, _, rfl⟩,
      ⟨latitude, latitude_eq, _, latitude'⟩, ⟨longitude, longitude_eq, _, longitude'⟩,
      ⟨_, text_eq, _, rfl⟩⟩
  · rintro ⟨⟨_, date_eq, date, date'⟩, ⟨_, title_eq, title, rfl⟩, ⟨_, uid_eq, uid, rfl⟩,
      ⟨_, distance_eq, distance, distance'⟩, ⟨_, description_eq, description, rfl⟩,
      ⟨_, latitude_eq, latitude, latitude'⟩, ⟨_, longitude_eq, longitude, longitude'⟩,
      ⟨_, text_eq, text, rfl⟩⟩
    -- the beacon is made of what the casts give
    exact ⟨{
        title := title
        date := date
        distance := distance
        description := description
        imageData := imageDataOf platform text
        uid := uid
        key := some snapshot.key
        latitude := latitude
        longitude := longitude }, {
      key := rfl
      title := title_eq
      uid := uid_eq
      description := description_eq
      date := by rw [date_eq, Option.map_some, date']
      distance := by rw [distance_eq, Option.map_some, distance']
      latitude := by rw [latitude_eq, Option.map_some, latitude']
      longitude := by rw [longitude_eq, Option.map_some, longitude']
      imageData := ⟨text, text_eq, rfl⟩ }⟩

/-- A decoded beacon encodes to the record it came from, when its picture was canonical. -/
theorem fields_of_ofSnapshot (decoded : ofSnapshot platform snapshot = some beacon) {bytes : Data}
    (canonical : snapshot.node.child "imageData" = some (.string (Base64.encode bytes))) :
    beacon.fields = (childrenOf snapshot.node).map fun field => (field.1, field.2.numeric) := by
  have record := ofSnapshot_eq_some.mp decoded
  obtain ⟨date, date_eq, date'⟩ := Option.map_eq_some_iff.mp record.date
  obtain ⟨distance, distance_eq, distance'⟩ := Option.map_eq_some_iff.mp record.distance
  obtain ⟨latitude, latitude_eq, latitude'⟩ := Option.map_eq_some_iff.mp record.latitude
  obtain ⟨longitude, longitude_eq, longitude'⟩ := Option.map_eq_some_iff.mp record.longitude
  obtain ⟨text, text_eq, image⟩ := record.imageData
  have same : Base64.encode bytes = text := by
    simpa [canonical] using text_eq
  have imageData : beacon.imageData = bytes := by
    rw [image, ← same, imageDataOf, Base64.decode_encode, Option.getD_some]
  simp only [fields, childrenOf, schema, List.filterMap_cons, List.filterMap_nil, Option.map_some,
    record.title, record.uid, record.description, date_eq, distance_eq, latitude_eq, longitude_eq,
    canonical, List.map_cons, List.map_nil, date', distance', latitude', longitude', imageData,
    numeric_string]

/-- An encoder's record has the eight fields, and no others of them. -/
theorem childrenOf_dictValue (beacon : Beacon) : childrenOf (nodeFrom beacon.dictValue) = beacon.fields := by
  have children : ∀ name, (nodeFrom beacon.dictValue).child name =
      (beacon.fields.lookup name).bind readBack := child_nodeFrom beacon.nodup_fields
  simp only [childrenOf, schema, List.filterMap_cons, List.filterMap_nil, children]
  rfl

end Beacon

/-- A stored beacon decodes to itself under its key.  A record is accepted exactly
when its eight children can be cast, and the beacon then encodes to these
children; a boolean among them was read, and is written, as a number. -/
theorem beacon_round_trips (platform : Platform) (key : String) :
    (∀ (server view : Server) (beacon : Beacon),
      ∃ stored, server.answer view (.setBeacon key beacon.dictValue) .success = some (.done, stored) ∧
        stored.beacon platform key = some { beacon with key := some key }) ∧
    ∀ node : Node,
      ((Beacon.ofSnapshot platform ⟨key, node⟩).isSome ↔
        ∀ field ∈ Beacon.schema, ∃ value, node.child field.1 = some value ∧ field.2.Reads value) ∧
      ∀ (beacon : Beacon) (bytes : Data), Beacon.ofSnapshot platform ⟨key, node⟩ = some beacon →
        node.child "imageData" = some (.string (Base64.encode bytes)) →
        beacon.dictValue =
          .object ((Beacon.childrenOf node).map fun field => (field.1, field.2.numeric)) ∧
        ((∀ field ∈ Beacon.childrenOf node, ∀ value, field.2 ≠ .bool value) →
          beacon.dictValue = .object (Beacon.childrenOf node)) := by
  refine ⟨fun server _ beacon => ⟨_, rfl, Server.beacon_setBeacon server platform key beacon⟩,
    fun node => ⟨Beacon.ofSnapshot_isSome_iff, fun beacon bytes decoded canonical => ?_⟩⟩
  have fields := Beacon.fields_of_ofSnapshot decoded canonical
  have unchanged : (∀ field ∈ Beacon.childrenOf node, ∀ value, field.2 ≠ .bool value) →
      ((Beacon.childrenOf node).map fun field => (field.1, field.2.numeric)) =
        Beacon.childrenOf node := by
    intro numbers
    calc ((Beacon.childrenOf node).map fun field => (field.1, field.2.numeric))
        = (Beacon.childrenOf node).map id :=
          List.map_congr_left fun field member =>
            Prod.ext rfl (numeric_of_not_bool (numbers field member))
      _ = Beacon.childrenOf node := List.map_id _
  exact ⟨congrArg Json.object fields,
    fun numbers => congrArg Json.object (fields.trans (unchanged numbers))⟩

/-- The sample beacon's record is what the beacon decoded from it encodes to. -/
theorem beacon_round_trips_sample :
    Beacon.sample.dictValue = .object (Beacon.childrenOf (nodeFrom Beacon.sample.dictValue)) := by
  refine (((beacon_round_trips .sample "campfire").2 (nodeFrom Beacon.sample.dictValue)).2
    { Beacon.sample with key := some "campfire" } Beacon.sample.imageData
    (Beacon.ofSnapshot_dictValue _ _ _) (child_nodeFrom Beacon.sample.nodup_fields "imageData")).2 ?_
  rw [Beacon.childrenOf_dictValue]
  simp [Beacon.fields]

end Lyv
