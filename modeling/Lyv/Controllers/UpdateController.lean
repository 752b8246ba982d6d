import Mathlib.Data.Rat.Floor
import Lyv.Library.Results
import Lyv.Models.Beacon

/-!
# The profile screen and its form

The list of the profile is handed over by the home screen, and fetched only when that
list is empty.  The form is filled from the selected beacon, and a press of the launch
button builds a whole new record from it.
-/

namespace Lyv

open Lyv.Library

structure ProfileController where
  identifier : Nat
  beacons : List Beacon := []
  selectedBeacon : Option Beacon := none

namespace ProfileController

/-- Whether `viewWillAppear` fetches the list. -/
def loads (profile : ProfileController) : Bool := profile.beacons.length = 0

/-- The completion that `viewWillAppear` passes to `UserService.getBeacons`. -/
def beaconsLoaded (profile : ProfileController) (beacons : List Beacon) : ProfileController :=
  { profile with beacons := beacons }

/-- `collectionView(_:didSelectItemAt:)`, up to the segue. -/
def didSelectItemAt (profile : ProfileController) (row : Nat) : Option ProfileController := do
  let beacon ← profile.beacons[row]?
  return { profile with selectedBeacon := some beacon }

end ProfileController

/-! ## The form -/

/-- The storyboard's distance slider, from 1 to 50. -/
abbrev Slider := { value : SwiftFloat // 1 ≤ value.val ∧ value.val ≤ 50 }

namespace Slider

def minimum : Slider := ⟨⟨1, by decide +kernel⟩, by decide +kernel⟩

def maximum : Slider := ⟨⟨50, by decide +kernel⟩, by decide +kernel⟩

/-- `setValue(_:animated:)`. -/
def setValue (value : SwiftFloat) : Slider :=
  if low : value.val < 1 then minimum
  else if high : 50 < value.val then maximum
  else ⟨value, not_lt.mp low, not_lt.mp high⟩

/-- `Int(distanceSlider.value)`. -/
def miles (slider : Slider) : SwiftInt :=
  ⟨⌊slider.val.val⌋, by
    have positive : (0 : ℤ) ≤ ⌊slider.val.val⌋ :=
      Int.floor_nonneg.mpr (le_trans (by norm_num) slider.property.1)
    have small : ⌊slider.val.val⌋ ≤ 50 := by
      exact_mod_cast (Int.floor_le slider.val.val).trans slider.property.2
    omega⟩

/-- The slider shows a whole number of miles in its range as it is. -/
theorem miles_setValue {distance : SwiftInt} (low : 1 ≤ distance.val) (high : distance.val ≤ 50) :
    (setValue (floatOf distance.val)).miles = distance := by
  have represents : FloatFormat.single.Represents (distance.val : ℚ) := by
    have count : (distance.val : ℚ) = (distance.val.toNat : ℚ) := by
      exact_mod_cast (Int.toNat_of_nonneg (by omega)).symm
    rw [count]
    exact FloatFormat.single.represents_natCast (by simp only [FloatFormat.single]; omega) (by decide)
  have float : floatOf distance.val = ⟨distance.val, represents⟩ := floatOf_val ⟨distance.val, represents⟩
  have notLow : ¬ (distance.val : ℚ) < 1 := by exact_mod_cast not_lt.mpr low
  have notHigh : ¬ 50 < (distance.val : ℚ) := by exact_mod_cast not_lt.mpr high
  simp only [setValue, float, notLow, notHigh, dif_neg, not_false_eq_true]
  exact Subtype.ext (Int.floor_intCast distance.val)

end Slider

structure UpdateController where
  beacon : Option Beacon := none
  nameTextField : String := ""
  descriptionTextField : String := ""
  distanceSlider : Slider := .minimum
  imageButton : Option UIImage := none
  coordinate : Coordinate := .zero

namespace UpdateController

/-- What the user does to the form. -/
inductive Edit where
  | nameTextField (text : String)
  | descriptionTextField (text : String)
  | distanceSlider (value : Slider)
  | imageButton (image : UIImage)

def edit (form : UpdateController) : Edit → UpdateController
  | .nameTextField text => { form with nameTextField := text }
  | .descriptionTextField text => { form with descriptionTextField := text }
  | .distanceSlider value => { form with distanceSlider := value }
  | .imageButton image => { form with imageButton := some image }

def setupUI (platform : Platform) (form : UpdateController) : UpdateController :=
  match form.beacon with
  | some beacon => { form with
      nameTextField := beacon.title
      descriptionTextField := beacon.description
      distanceSlider := .setValue (floatOf beacon.distance.val)
      imageButton := platform.imageOfData beacon.imageData }
  | none => form

def didUpdateLocations (form : UpdateController) (location : Coordinate) : UpdateController :=
  { form with coordinate := location }

/-- `locationManager(_:didUpdateLocations:)` with the whole delivery, the oldest location first. -/
def locationManagerDidUpdate (form : UpdateController) (locations : List Coordinate) : UpdateController :=
  match locations.head? with
  | some location => form.didUpdateLocations location
  | none => form

/-- The alert of `locationManager(_:didChangeAuthorization:)`. -/
def didChangeAuthorization (_ : UpdateController) (status : CLAuthorizationStatus) : Option String :=
  alertForAuthorization status

/-- The JPEG of the picture on the button, or the bundled pin's. -/
def jpg (platform : Platform) (form : UpdateController) : Data :=
  (form.imageButton.bind platform.jpegData).getD platform.locationPinData

def newBeacon (platform : Platform) (form : UpdateController) (uid : String) (now : SwiftDouble) :
    Beacon where
  title := form.nameTextField
  uid := uid
  date := now
  distance := form.distanceSlider.miles
  description := form.descriptionTextField
  imageData := form.jpg platform
  latitude := floatOf form.coordinate.latitude
  longitude := floatOf form.coordinate.longitude
  key := form.beacon.bind Beacon.key

/-- `updateBeacon()` up to its two writes: an alert, or the beacon to be written. -/
def updateBeacon (platform : Platform) (form : UpdateController) (current : Except Trap String)
    (locationServicesEnabled : Bool) (now : SwiftDouble) : Except Trap (String ⊕ Beacon) :=
  if form.nameTextField = "" then return .inl "Please add a title for your beacon"
  else if !locationServicesEnabled then
    return .inl "Enable location services in Setting to add a beacon"
  else do
    let uid ← current
    return .inr (form.newBeacon platform uid now)

/-- What it takes for a record to be written. -/
theorem updateBeacon_eq_inr {platform : Platform} {form : UpdateController} {current : Except Trap String}
    {locationServicesEnabled : Bool} {now : SwiftDouble} {newBeacon : Beacon} :
    form.updateBeacon platform current locationServicesEnabled now = .ok (.inr newBeacon) ↔
      form.nameTextField ≠ "" ∧ locationServicesEnabled ∧
        ∃ uid, current = .ok uid ∧ newBeacon = form.newBeacon platform uid now := by
  unfold updateBeacon
  by_cases untitled : form.nameTextField = ""
  · simp [untitled, pure_eq_ok]
  · cases locationServicesEnabled with
    | false => simp [untitled, pure_eq_ok]
    | true => cases current <;> simp [untitled, pure, Except.pure, bind, Except.bind, eq_comm]

end UpdateController

end Lyv
