import Lyv.Controllers.HomeController
import Lyv.Verified.DetailsSegue
import Lyv.Verified.ListSnapshots
import Lyv.Verified.ProcessStops

/-!
# What the details show

A touch finds markers, and a marker always has a name.  The beacons of the home
screen have been drawn, so their pictures are there when the details unwrap them;
and what `%.2f` writes is always read.  So neither a touch nor the details that it
opens ever stop the process.
-/

namespace Lyv

open Lyv.Library

variable {devices : Nat} {platform : Platform}

/-- The view shows the beacon, and its distance to the hundredth of a mile. -/
structure DetailsView.Shows (platform : Platform) (view : DetailsView) (beacon : Beacon)
    (currentLocation : Coordinate) : Prop where
  image : platform.imageOfData beacon.imageData = some view.image
  titleLabel : view.titleLabel = beacon.title
  descriptionTextView : view.descriptionTextView = beacon.description
  distance : ∃ hundredths, view.distance = FloatFormat.double.round hundredths ∧
    (100 * hundredths).den = 1 ∧ |hundredths - beacon.miles platform currentLocation| ≤ 1 / 200

/-- The details of a beacon with a picture are shown. -/
theorem DetailsController.setupUI_eq {platform : Platform} {beacon : Beacon} {image : UIImage}
    (picture : platform.imageOfData beacon.imageData = some image) (currentLocation : Coordinate) :
    (DetailsController.mk (some beacon)).setupUI platform currentLocation = .ok (some
      ⟨image, beacon.title, beacon.description,
        FloatFormat.double.round (Decimal.rounded 2 (beacon.miles platform currentLocation))⟩) := by
  simp only [setupUI, picture, Beacon.getDistance_eq]
  rfl

theorem den_rounded (value : ℚ) : (100 * Decimal.rounded 2 value).den = 1 := by
  have whole : 100 * Decimal.rounded 2 value =
      ((if value < 0 then -(Decimal.units 2 value : ℤ) else Decimal.units 2 value : ℤ) : ℚ) := by
    rw [Decimal.rounded, show (10 : ℚ) ^ 2 = 100 by norm_num, mul_div_cancel₀ _ (by norm_num)]
    split
    · push_cast
      rfl
    · rfl
  rw [whole]
  exact Rat.den_intCast _

/-- The details of a beacon with a picture show that beacon. -/
theorem DetailsController.shows_setupUI {platform : Platform} {beacon : Beacon} {view : DetailsView}
    {currentLocation : Coordinate}
    (shown : (DetailsController.mk (some beacon)).setupUI platform currentLocation = .ok (some view)) :
    view.Shows platform beacon currentLocation ∧
      view.distance = FloatFormat.double.round (Decimal.rounded 2 (beacon.miles platform currentLocation)) := by
  cases picture : platform.imageOfData beacon.imageData with
  | none =>
    simp only [setupUI, picture] at shown
    contradiction
  | some image =>
    rw [setupUI_eq picture] at shown
    obtain rfl := Option.some.inj (Except.ok.inj shown)
    refine ⟨⟨picture, rfl, rfl, _, rfl, den_rounded _, ?_⟩, rfl⟩
    have within := Decimal.abs_rounded_sub_le 2 (beacon.miles platform currentLocation)
    norm_num at within
    exact within

/-- The details of farther beacons show no smaller distance. -/
theorem DetailsView.distance_le {platform : Platform} {near far : Beacon} {nearView farView : DetailsView}
    {currentLocation : Coordinate}
    (nearShown : (DetailsController.mk (some near)).setupUI platform currentLocation = .ok (some nearView))
    (farShown : (DetailsController.mk (some far)).setupUI platform currentLocation = .ok (some farView))
    (farther : platform.distance currentLocation near.coordinate ≤ platform.distance currentLocation far.coordinate) :
    nearView.distance ≤ farView.distance := by
  rw [(DetailsController.shows_setupUI nearShown).2, (DetailsController.shows_setupUI farShown).2]
  exact FloatFormat.double.round_mono (by decide) (Decimal.rounded_mono 2 (Beacon.miles_mono farther))

/-- In every state of every run with a home screen, a touch on whatever markers
opens the details of the beacons that have a marker's name, in the order of the
markers and of the list, and neither the touch nor the details stop the process:
each shows its beacon with its picture and with the hundredth of a mile next to the
quotient of doubles, and a farther beacon never shows as a nearer one. -/
theorem details_show_beacons {history : History (World devices) (Action devices)} {world : World devices}
    (execution : Execution (app platform Idle) history world) {device : Fin devices} {scene : MainScene}
    (root : (world.client device).root = .main scene) (text : TextEquality) (nodes : List LocationAnnotationNode)
    (currentLocation : Coordinate) :
    ∃ selectedBeacon shown, scene.home.touchesBegan text (some (nodes.map fun node => ⟨node.annotationNode⟩)) =
        .ok ({ scene.home with selectedBeacon := selectedBeacon }, shown.map fun beacon => ⟨some beacon⟩) ∧
      shown = (nodes.flatMap fun node => scene.home.beacons.filter fun beacon => text.same node.name beacon.title) ∧
      ∀ beacon ∈ shown, ∃ view,
        (DetailsController.mk (some beacon)).setupUI platform currentLocation = .ok (some view) ∧
        view.Shows platform beacon currentLocation ∧
        ∀ other ∈ shown, ∀ otherView,
          (DetailsController.mk (some other)).setupUI platform currentLocation = .ok (some otherView) →
          platform.distance currentLocation beacon.coordinate ≤ platform.distance currentLocation other.coordinate →
          view.distance ≤ otherView.distance := by
  have drawn := (World.Secured.of_execution execution).drawn device scene root
  obtain ⟨selectedBeacon, touched⟩ := scene.home.touchesBegan_eq text nodes
  refine ⟨selectedBeacon, nodes.flatMap fun node => scene.home.matching text node.name, ?_, rfl,
    fun beacon member => ?_⟩
  · rw [touched, List.map_flatMap]
  · obtain ⟨node, _, matched⟩ := List.mem_flatMap.mp member
    obtain ⟨image, picture⟩ := Option.isSome_iff_exists.mp (drawn beacon (List.mem_filter.mp matched).1)
    have opened := DetailsController.setupUI_eq picture currentLocation
    refine ⟨_, opened, (DetailsController.shows_setupUI opened).1, fun other _ otherView shown farther => ?_⟩
    exact DetailsView.distance_le opened shown farther

/-- The marker of the sample beacon. -/
def campfireMarker : LocationAnnotationNode where
  latitude := Beacon.sample.latitude
  longitude := Beacon.sample.longitude
  altitude := 15
  view := ⟨⟨125, 300⟩, Platform.sample.locationPin, "Campfire", true⟩
  imageSize := ⟨125, 300⟩
  name := "Campfire"

/-- Ann logs in, and the home screen loads its list. -/
def annLoadsHome : List (Action 1) := annLogsIn ++ [.answer 0 0 .success, .event 0 (.deliver 0 true)]

theorem annLoadsHome_taken :
    ((app .sample Idle).replay [] (World.installed .withBeacon) annLoadsHome).isSome := by
  decide +kernel

def annHome : History (World 1) (Action 1) × World 1 :=
  (app .sample Idle).reached (World.installed .withBeacon) annLoadsHome annLoadsHome_taken

theorem annHome_details : ∃ scene selectedBeacon beacon, (annHome.2.client 0).root = .main scene ∧
    scene.home.touchesBegan .normalised (some [⟨campfireMarker.annotationNode⟩]) =
      .ok ({ scene.home with selectedBeacon := selectedBeacon }, [⟨some beacon⟩]) ∧
    ∃ view, (DetailsController.mk (some beacon)).setupUI .sample ⟨1 / 64, 0⟩ = .ok (some view) ∧
      view.Shows .sample beacon ⟨1 / 64, 0⟩ := by
  have shown : (annHome.2.client 0).isMain := by
    decide +kernel
  have listed : ((annHome.2.client 0).homeList.filter fun beacon =>
      TextEquality.normalised.same "Campfire" beacon.title).length = 1 := by
    decide +kernel
  obtain ⟨scene, root⟩ := Client.isMain_iff.mp shown
  obtain ⟨selectedBeacon, opened, touched, found, views⟩ := details_show_beacons
    ((app .sample Idle).execution_reached (idle_installed .withBeacon) annLoadsHome annLoadsHome_taken)
    root .normalised [campfireMarker] ⟨1 / 64, 0⟩
  simp only [Client.homeList, root] at listed
  obtain ⟨beacon, alone⟩ := List.length_eq_one_iff.mp listed
  obtain rfl : opened = [beacon] := found.trans ((List.flatMap_singleton _ _).trans alone)
  obtain ⟨view, set, shows, _⟩ := views beacon List.mem_cons_self
  exact ⟨scene, selectedBeacon, beacon, root, touched, view, set, shows⟩

end Lyv
