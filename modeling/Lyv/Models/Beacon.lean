import Lyv.Library.Base64
import Lyv.Models.Platform

/-!
# The beacon model

The database codec of a beacon, and the marker that the home screen builds from
one.  A record is refused when one of its eight fields cannot be cast; text that
is not base64 falls back to the bundled pin.
-/

namespace Lyv

open Lyv.Library Lyv.Firebase

structure Beacon where
  title : String
  date : SwiftDouble
  distance : SwiftInt
  description : String
  imageData : Data
  uid : String
  key : Option String := none
  latitude : SwiftFloat
  longitude : SwiftFloat
  deriving DecidableEq

/-- `BeaconView` after it has been filled in: what `asImage()` renders. -/
structure BeaconView where
  frame : CGSize
  image : UIImage
  titleLabel : String
  longFrameHidden : Bool
  deriving DecidableEq

/-- `LocationAnnotationNode` of ARCL, with the image it was made from. -/
structure LocationAnnotationNode where
  latitude : SwiftFloat
  longitude : SwiftFloat
  altitude : ℚ
  view : BeaconView
  imageSize : CGSize
  name : String
  deriving DecidableEq

/-- The size `resizeImage(targetSize:)` draws at. -/
def resizedSize (size targetSize : CGSize) : CGSize :=
  let widthRatio := targetSize.width / size.width
  let heightRatio := targetSize.height / size.height
  if widthRatio > heightRatio then ⟨size.width * heightRatio, size.height * heightRatio⟩
  else ⟨size.width * widthRatio, size.height * widthRatio⟩

def setSizeFrom (distance : ℚ) : CGSize :=
  let maxDistance : ℚ := 1
  let maxSize : CGSize := ⟨125, 300⟩
  let minSize : CGSize := ⟨31.25, 75⟩
  let distancePercentage := distance / maxDistance
  let widthPerc := maxSize.width - minSize.width
  let heightPerc := maxSize.height - minSize.height
  let width := distancePercentage * widthPerc
  let height := distancePercentage * heightPerc
  let size : CGSize := ⟨maxSize.width - width, maxSize.height - height⟩
  if size.height > maxSize.height then maxSize
  else if size.height < minSize.height then minSize
  else size

namespace Beacon

def fields (beacon : Beacon) : List (String × Json) :=
  [("date", .number beacon.date.val), ("title", .string beacon.title),
    ("uid", .string beacon.uid), ("distance", .number beacon.distance.val),
    ("description", .string beacon.description), ("latitude", .number beacon.latitude.val),
    ("longitude", .number beacon.longitude.val),
    ("imageData", .string (Base64.encode beacon.imageData))]

def dictValue (beacon : Beacon) : Json := .object beacon.fields

/-- `Data(base64Encoded:)`, or the bundled pin. -/
def imageDataOf (platform : Platform) (text : String) : Data :=
  (Base64.decode text).getD platform.locationPinData

/-- `init?(snapshot:)`. -/
def ofSnapshot (platform : Platform) (snapshot : DataSnapshot) : Option Beacon := do
  let dict ← snapshot.value.asDictionary
  let title ← (dict.lookup "title").bind Json.asString
  let date ← (dict.lookup "date").bind asTimeInterval
  let uid ← (dict.lookup "uid").bind Json.asString
  let distance ← (dict.lookup "distance").bind asInt
  let description ← (dict.lookup "description").bind Json.asString
  let imageData ← (dict.lookup "imageData").bind Json.asString
  let latitude ← (dict.lookup "latitude").bind asFloat
  let longitude ← (dict.lookup "longitude").bind asFloat
  return {
    uid := uid
    key := some snapshot.key
    title := title
    date := date
    distance := distance
    description := description
    imageData := imageDataOf platform imageData
    latitude := latitude
    longitude := longitude }

def coordinate (beacon : Beacon) : Coordinate := ⟨beacon.latitude.val, beacon.longitude.val⟩

def creatAnnotationNode (platform : Platform) (beacon : Beacon) (withLine : Bool)
    (currentLocation : Coordinate) : Except Trap LocationAnnotationNode := do
  -- the force-unwrap of `UIImage(data:)`
  let image ← match platform.imageOfData beacon.imageData with
    | some image => pure image
    | none => throw (.unexpectedNil "UIImage(data: self.imageData)!")
  let distance := platform.distance currentLocation beacon.coordinate / 1609.344
  let size := setSizeFrom distance
  let frame : CGSize := ⟨125, 300⟩
  return {
    latitude := beacon.latitude
    longitude := beacon.longitude
    altitude := 15
    view := ⟨frame, image, beacon.title, !withLine⟩
    imageSize := resizedSize frame size
    name := beacon.title }

/-- The distance in miles: the quotient of two doubles. -/
def miles (platform : Platform) (beacon : Beacon) (currentLocation : Coordinate) : ℚ :=
  FloatFormat.double.round
    (platform.distance currentLocation beacon.coordinate / FloatFormat.double.round 1609.344)

/-- The miles that the details show. -/
def getDistance (platform : Platform) (beacon : Beacon) (currentLocation : Coordinate) : Except Trap ℚ :=
  let distance := beacon.miles platform currentLocation
  match doubleOf (Decimal.fixed 2 distance) with
  | some rounded => return rounded
  | none => throw (.unexpectedNil "Double(String(format:\"%.2f\", distance))!")

/-! ## The codec -/

/-- What a record holds when a beacon is decoded from it. -/
structure DecodesFrom (platform : Platform) (snapshot : DataSnapshot) (beacon : Beacon) : Prop where
  key : beacon.key = some snapshot.key
  title : snapshot.node.child "title" = some (.string beacon.title)
  uid : snapshot.node.child "uid" = some (.string beacon.uid)
  description : snapshot.node.child "description" = some (.string beacon.description)
  date : (snapshot.node.child "date").map Json.numeric = some (.number beacon.date.val)
  distance : (snapshot.node.child "distance").map Json.numeric = some (.number beacon.distance.val)
  latitude : (snapshot.node.child "latitude").map Json.numeric = some (.number beacon.latitude.val)
  longitude : (snapshot.node.child "longitude").map Json.numeric = some (.number beacon.longitude.val)
  imageData : ∃ text, snapshot.node.child "imageData" = some (.string text) ∧
    beacon.imageData = imageDataOf platform text

theorem ofSnapshot_eq_some {platform : Platform} {snapshot : DataSnapshot} {beacon : Beacon} :
    ofSnapshot platform snapshot = some beacon ↔ DecodesFrom platform snapshot beacon := by
  constructor
  · intro decoded
    obtain ⟨dict, asDictionary, decoded⟩ := Option.bind_eq_some_iff.mp decoded
    have children := lookup_asDictionary asDictionary
    simp only [children, Option.bind_eq_bind, Option.bind_eq_some_iff, Option.pure_def,
      Option.some.injEq, asString_eq_some, asInt_eq_some, asFloat_eq_some,
      asTimeInterval_eq_some] at decoded
    obtain ⟨_, ⟨_, title, rfl⟩, _, ⟨_, date, date'⟩, _, ⟨_, uid, rfl⟩, _, ⟨_, distance, distance'⟩,
      _, ⟨_, description, rfl⟩, _, ⟨_, imageData, rfl⟩, _, ⟨_, latitude, latitude'⟩,
      _, ⟨_, longitude, longitude'⟩, rfl⟩ := decoded
    exact {
      key := rfl
      title := title
      uid := uid
      description := description
      date := by rw [date, Option.map_some, date']
      distance := by rw [distance, Option.map_some, distance']
      latitude := by rw [latitude, Option.map_some, latitude']
      longitude := by rw [longitude, Option.map_some, longitude']
      imageData := ⟨_, imageData, rfl⟩ }
  · intro record
    -- the children have names that are no indices, so the record reads as a dictionary
    obtain ⟨dict, asDictionary⟩ := asDictionary_of_child record.title (by decide)
    have children := lookup_asDictionary asDictionary
    obtain ⟨date, date_eq, date'⟩ := Option.map_eq_some_iff.mp record.date
    obtain ⟨distance, distance_eq, distance'⟩ := Option.map_eq_some_iff.mp record.distance
    obtain ⟨latitude, latitude_eq, latitude'⟩ := Option.map_eq_some_iff.mp record.latitude
    obtain ⟨longitude, longitude_eq, longitude'⟩ := Option.map_eq_some_iff.mp record.longitude
    obtain ⟨text, text_eq, image⟩ := record.imageData
    simp only [ofSnapshot, DataSnapshot.value, asDictionary, children, record.title, record.uid,
      record.description, date_eq, distance_eq, latitude_eq, longitude_eq, text_eq, Json.asString,
      asTimeInterval_eq_some.mpr date', asInt_eq_some.mpr distance', asFloat_eq_some.mpr latitude',
      asFloat_eq_some.mpr longitude', Option.bind_eq_bind, Option.bind_some, Option.pure_def,
      ← record.key, ← image]

theorem ofSnapshot_key {platform : Platform} {snapshot : DataSnapshot} {beacon : Beacon}
    (decoded : ofSnapshot platform snapshot = some beacon) : beacon.key = some snapshot.key :=
  (ofSnapshot_eq_some.mp decoded).key

theorem nodup_fields (beacon : Beacon) : (beacon.fields.map Prod.fst).Nodup := by
  simp [fields]

theorem title_mem_fields (beacon : Beacon) : ("title", Json.string beacon.title) ∈ beacon.fields := by
  simp [fields]

@[simp] theorem isEmpty_nodeFrom_dictValue (beacon : Beacon) :
    (nodeFrom beacon.dictValue).isEmpty = false :=
  isEmpty_nodeFrom_object (title_mem_fields beacon) rfl

/-- A stored beacon decodes to itself, under the key it was stored at. -/
@[simp] theorem ofSnapshot_dictValue (platform : Platform) (beacon : Beacon) (key : String) :
    ofSnapshot platform ⟨key, nodeFrom beacon.dictValue⟩ = some { beacon with key := some key } := by
  have children := child_nodeFrom (nodup_fields beacon)
  refine ofSnapshot_eq_some.mpr {
    key := rfl
    title := (children "title").trans rfl
    uid := (children "uid").trans rfl
    description := (children "description").trans rfl
    date := congrArg (Option.map Json.numeric) (children "date")
    distance := congrArg (Option.map Json.numeric) (children "distance")
    latitude := congrArg (Option.map Json.numeric) (children "latitude")
    longitude := congrArg (Option.map Json.numeric) (children "longitude")
    imageData := ⟨_, (children "imageData").trans rfl, ?_⟩ }
  simp [imageDataOf]

/-- A marker is made whenever there is a picture. -/
theorem creatAnnotationNode_eq_ok {platform : Platform} {beacon : Beacon} {withLine : Bool}
    {location : Coordinate} {node : LocationAnnotationNode} :
    creatAnnotationNode platform beacon withLine location = .ok node ↔
      ∃ image, platform.imageOfData beacon.imageData = some image ∧ node = {
        latitude := beacon.latitude
        longitude := beacon.longitude
        altitude := 15
        view := ⟨⟨125, 300⟩, image, beacon.title, !withLine⟩
        imageSize := resizedSize ⟨125, 300⟩
          (setSizeFrom (platform.distance location beacon.coordinate / 1609.344))
        name := beacon.title } := by
  unfold creatAnnotationNode
  cases platform.imageOfData beacon.imageData with
  | none => simp [bind, Except.bind, throw, throwThe, MonadExceptOf.throw]
  | some image => simp [bind, Except.bind, pure, Except.pure, eq_comm]

/-- The only force-unwrap on the way to a marker is that of its picture. -/
theorem creatAnnotationNode_isOk_iff (platform : Platform) (beacon : Beacon) (withLine : Bool)
    (location : Coordinate) :
    (∃ node, beacon.creatAnnotationNode platform withLine location = .ok node) ↔
      (platform.imageOfData beacon.imageData).isSome := by
  simp only [creatAnnotationNode_eq_ok, Option.isSome_iff_exists]
  constructor
  · rintro ⟨_, image, decoded, _⟩
    exact ⟨image, decoded⟩
  · rintro ⟨image, decoded⟩
    exact ⟨_, image, decoded, rfl⟩

theorem creatAnnotationNode_error {platform : Platform} {beacon : Beacon} {withLine : Bool}
    {location : Coordinate} {trap : Trap}
    (stopped : creatAnnotationNode platform beacon withLine location = .error trap) :
    trap = .unexpectedNil "UIImage(data: self.imageData)!" := by
  unfold creatAnnotationNode at stopped
  cases decoded : platform.imageOfData beacon.imageData with
  | none =>
    rw [decoded] at stopped
    exact (Except.error.inj stopped).symm
  | some image => simp [decoded, bind, Except.bind, pure, Except.pure] at stopped

/-- What `%.2f` writes is always read. -/
theorem getDistance_eq (platform : Platform) (beacon : Beacon) (currentLocation : Coordinate) :
    beacon.getDistance platform currentLocation =
      .ok (FloatFormat.double.round (Decimal.rounded 2 (beacon.miles platform currentLocation))) := by
  simp only [getDistance, doubleOf, Decimal.parse_fixed, Option.map_some]
  rfl

/-- A beacon that is farther in metres is no nearer in miles. -/
theorem miles_mono {platform : Platform} {near far : Beacon} {currentLocation : Coordinate}
    (farther : platform.distance currentLocation near.coordinate ≤ platform.distance currentLocation far.coordinate) :
    near.miles platform currentLocation ≤ far.miles platform currentLocation := by
  have mile : 0 < FloatFormat.double.round 1609.344 := by
    decide +kernel
  exact FloatFormat.double.round_mono (by decide) (div_le_div_of_nonneg_right farther mile.le)

-- an eighth of a mile comes out as a double that is exactly between two hundredths
example : Decimal.fixed 2 (FloatFormat.double.round
    (FloatFormat.double.round 201.168 / FloatFormat.double.round 1609.344)) = "0.12" := by
  decide +kernel

/-- A beacon with the sample platform's pin for its picture. -/
def sample : Beacon where
  title := "Campfire"
  date := ⟨0, by decide +kernel⟩
  distance := ⟨5, by decide⟩
  description := ""
  imageData := [0xFF, 0xD8, 0xFF]
  uid := "ann"
  latitude := ⟨0, by decide +kernel⟩
  longitude := ⟨0, by decide +kernel⟩

end Beacon

namespace BeaconService

/-- What `BeaconService.beacons` makes of the children of `/beacons`. -/
def decode (platform : Platform) (children : Store String Node) : List Beacon :=
  children.entries.reverse.filterMap fun child => Beacon.ofSnapshot platform ⟨child.1, child.2⟩

theorem mem_decode {platform : Platform} {children : Store String Node} {beacon : Beacon} :
    beacon ∈ decode platform children ↔
      ∃ child ∈ children.entries, Beacon.ofSnapshot platform ⟨child.1, child.2⟩ = some beacon := by
  simp [decode]

/-- Every decoded beacon carries the key of the child it was decoded from. -/
theorem key_of_mem_decode {platform : Platform} {children : Store String Node} {beacon : Beacon}
    (member : beacon ∈ decode platform children) : ∃ key, beacon.key = some key := by
  obtain ⟨child, _, decoded⟩ := mem_decode.mp member
  exact ⟨_, Beacon.ofSnapshot_key decoded⟩

end BeaconService

end Lyv
