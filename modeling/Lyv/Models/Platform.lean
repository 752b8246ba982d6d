import Lyv.Library.Decimal
import Lyv.Firebase.Node

/-!
# Swift values and the platform underneath

Numbers are exact rationals; `Int`, `Float` and `Double` are the subsets their
formats can hold, and the conditional casts from a database number succeed
exactly on those.  UIKit's image decoding, its JPEG writer and Core Location's
distance are not part of the program: they are fields of a `Platform`, with the
documented behaviour the program relies on.
-/

namespace Lyv

open Lyv.Library Lyv.Firebase

/-- How a Swift process stops: a `fatalError`, or a force-unwrap of `nil`. -/
inductive Trap where
  | fatalError (message : String)
  | unexpectedNil (expression : String)
  deriving DecidableEq

abbrev Data := List UInt8

/-- Swift's `==` on strings, canonical equivalence: what the program needs of it
is that it is an equivalence. -/
structure TextEquality where
  same : String → String → Bool
  equivalence : Equivalence fun first second => same first second = true

/-- Strings that are equal scalar by scalar are equal in Swift, and where every
text is in one normal form no others are. -/
def TextEquality.normalised : TextEquality where
  same first second := first = second
  equivalence := by
    simp only [decide_eq_true_eq]
    exact ⟨Eq.refl, Eq.symm, Eq.trans⟩

/-! ## Numbers -/

abbrev SwiftInt := { value : ℤ // -2 ^ 63 ≤ value ∧ value < 2 ^ 63 }

abbrev SwiftFloat := { value : ℚ // FloatFormat.single.Represents value }

abbrev SwiftDouble := { value : ℚ // FloatFormat.double.Represents value }

/-- `Float(_:)` of a number in the range of the format. -/
def floatOf (value : ℚ) : SwiftFloat :=
  if represents : FloatFormat.single.Represents (FloatFormat.single.round value) then
    ⟨FloatFormat.single.round value, represents⟩
  else ⟨0, FloatFormat.single.represents_zero⟩

@[simp] theorem floatOf_val (value : SwiftFloat) : floatOf value.val = value := by
  obtain ⟨value, represents⟩ := value
  simp [floatOf, FloatFormat.single.round_of_represents represents, represents]

/-- `Double(_:)` of a decimal text: the member next to what the text says. -/
def doubleOf (text : String) : Option ℚ := (Decimal.parse text).map FloatFormat.double.round

/-- `as? Int`. -/
def asInt (json : Json) : Option SwiftInt :=
  json.asNumber.bind fun value =>
    if exactly : value.den = 1 ∧ -2 ^ 63 ≤ value.num ∧ value.num < 2 ^ 63 then
      some ⟨value.num, exactly.2⟩
    else none

/-- `as? Float`. -/
def asFloat (json : Json) : Option SwiftFloat :=
  json.asNumber.bind fun value =>
    if represents : FloatFormat.single.Represents value then some ⟨value, represents⟩ else none

/-- `as? TimeInterval`, a `Double`. -/
def asTimeInterval (json : Json) : Option SwiftDouble :=
  json.asNumber.bind fun value =>
    if represents : FloatFormat.double.Represents value then some ⟨value, represents⟩ else none

theorem asInt_eq_some {json : Json} {value : SwiftInt} :
    asInt json = some value ↔ json.numeric = .number value.val := by
  simp only [asInt, Option.bind_eq_some_iff, asNumber_eq_some]
  constructor
  · rintro ⟨number, numeric, cast⟩
    split at cast
    next exactly =>
      obtain rfl := Option.some.inj cast
      exact numeric.trans (congrArg Json.number (Rat.den_eq_one_iff number |>.mp exactly.1).symm)
    next => contradiction
  · intro numeric
    have exactly : (value.val : ℚ).den = 1 ∧ -2 ^ 63 ≤ (value.val : ℚ).num ∧
        (value.val : ℚ).num < 2 ^ 63 := by
      rw [Rat.num_intCast]
      exact ⟨Rat.den_intCast _, value.property⟩
    refine ⟨value.val, numeric, ?_⟩
    rw [dif_pos exactly]
    exact congrArg some (Subtype.ext (Rat.num_intCast _))

theorem asFloat_eq_some {json : Json} {value : SwiftFloat} :
    asFloat json = some value ↔ json.numeric = .number value.val := by
  simp only [asFloat, Option.bind_eq_some_iff, asNumber_eq_some]
  constructor
  · rintro ⟨number, numeric, cast⟩
    split at cast
    next represents =>
      obtain rfl := Option.some.inj cast
      exact numeric
    next => contradiction
  · intro numeric
    exact ⟨value.val, numeric, dif_pos value.property⟩

theorem asTimeInterval_eq_some {json : Json} {value : SwiftDouble} :
    asTimeInterval json = some value ↔ json.numeric = .number value.val := by
  simp only [asTimeInterval, Option.bind_eq_some_iff, asNumber_eq_some]
  constructor
  · rintro ⟨number, numeric, cast⟩
    split at cast
    next represents =>
      obtain rfl := Option.some.inj cast
      exact numeric
    next => contradiction
  · intro numeric
    exact ⟨value.val, numeric, dif_pos value.property⟩

/-! ## Places and images -/

/-- `CLLocationCoordinate2D`, in degrees. -/
structure Coordinate where
  latitude : ℚ
  longitude : ℚ
  deriving DecidableEq

/-- `CLLocationCoordinate2D()`, the placeholder before the first delivery. -/
def Coordinate.zero : Coordinate := ⟨0, 0⟩

inductive CLAuthorizationStatus where
  | notDetermined
  | restricted
  | denied
  | authorizedAlways
  | authorizedWhenInUse
  deriving DecidableEq

/-- What both controllers of the location manager do when its permission changes. -/
def alertForAuthorization (status : CLAuthorizationStatus) : Option String :=
  if status = .denied then some "Please allow location access to create beacons and see nearby beacons"
  else none

structure CGSize where
  width : ℚ
  height : ℚ
  deriving DecidableEq

/-- A decoded image, known by its raster. -/
structure UIImage where
  raster : List UInt8
  deriving DecidableEq

/-- The frameworks the program calls, with the bundled assets it names. -/
structure Platform where
  /-- `UIImage(data:)`. -/
  imageOfData : Data → Option UIImage
  /-- `jpegData(compressionQuality: 0.5)`. -/
  jpegData : UIImage → Option Data
  locationPin : UIImage
  locationPinData : Data
  locationPin_jpegData : jpegData locationPin = some locationPinData
  /-- UIKit reads the JPEG bytes it wrote. -/
  locationPin_isImage : (imageOfData locationPinData).isSome
  emptyData_notImage : imageOfData [] = none
  /-- `CLLocation.distance(from:)` between two coordinates, in metres. -/
  distance : Coordinate → Coordinate → ℚ
  distance_isDouble : ∀ here there, FloatFormat.double.Represents (distance here there)

/-- A platform to run the model on: images are the byte strings that start as a
JPEG does, and distances that come out as doubles are measured along the meridians
and the equator. -/
def Platform.sample : Platform where
  imageOfData data := if data.take 2 = [0xFF, 0xD8] then some ⟨data⟩ else none
  jpegData image := if image.raster.take 2 = [0xFF, 0xD8] then some image.raster else none
  locationPin := ⟨[0xFF, 0xD8, 0xFF]⟩
  locationPinData := [0xFF, 0xD8, 0xFF]
  locationPin_jpegData := rfl
  locationPin_isImage := rfl
  emptyData_notImage := rfl
  distance here there :=
    let metres := 111195 * (|here.latitude - there.latitude| + |here.longitude - there.longitude|)
    if FloatFormat.double.Represents metres then metres else 0
  distance_isDouble here there := by
    dsimp only
    split
    next exactly => exact exactly
    next => exact FloatFormat.double.represents_zero

end Lyv
