import Lyv.Library.Results
import Lyv.Models.Beacon

/-!
# The home screen and its details

The list of beacons and the AR scene drawn from it.  Two handlers add nodes to
the scene: the completion of a fetch appends to whatever is there, and the
switch clears the scene first.  A touch opens the details, which unwrap the
picture and the rounded distance of their beacon.
-/

namespace Lyv

open Lyv.Library

/-- The nodes of ARCL's `SceneLocationView`. -/
structure SceneLocationView where
  locationNodes : List LocationAnnotationNode := []

namespace SceneLocationView

def addLocationNodeWithConfirmedLocation (view : SceneLocationView)
    (locationNode : LocationAnnotationNode) : SceneLocationView :=
  ⟨view.locationNodes ++ [locationNode]⟩

def removeAllNodes (_ : SceneLocationView) : SceneLocationView := ⟨[]⟩

end SceneLocationView

/-- A node of SceneKit, with the name it may have. -/
structure SCNNode where
  name : Option String

/-- The node inside a marker, which carries the marker's name. -/
def LocationAnnotationNode.annotationNode (marker : LocationAnnotationNode) : SCNNode := ⟨some marker.name⟩

structure SCNHitTestResult where
  node : SCNNode

structure DetailsController where
  beacon : Option Beacon := none
  deriving DecidableEq

/-- `identifier` tells apart the instances that completions hold on to. -/
structure HomeController where
  identifier : Nat
  beacons : List Beacon := []
  selectedBeacon : Option Beacon := none
  sceneLocationView : SceneLocationView := {}
  frameSwitch : Bool := false
  coordinate : Coordinate := .zero

namespace HomeController

/-- The `forEach` of both handlers. -/
def addNodes (platform : Platform) (withLine : Bool) (coordinate : Coordinate)
    (view : SceneLocationView) : List Beacon → Except Trap SceneLocationView
  | [] => return view
  | beacon :: beacons => do
    let node ← beacon.creatAnnotationNode platform withLine coordinate
    addNodes platform withLine coordinate (view.addLocationNodeWithConfirmedLocation node) beacons

/-- The completion that `viewWillAppear` passes to `BeaconService.beacons`. -/
def beaconsLoaded (platform : Platform) (home : HomeController) (beacons : List Beacon) :
    Except Trap HomeController := do
  -- `withLine` is left at its default, and the nodes of an earlier fetch stay
  let view ← addNodes platform false home.coordinate home.sceneLocationView beacons
  return { home with beacons := beacons, sceneLocationView := view }

/-- The user flips the switch, which runs `switchPressed`. -/
def switchPressed (platform : Platform) (home : HomeController) (isOn : Bool) :
    Except Trap HomeController := do
  let view ← addNodes platform isOn home.coordinate home.sceneLocationView.removeAllNodes home.beacons
  return { home with frameSwitch := isOn, sceneLocationView := view }

def didUpdateLocations (home : HomeController) (location : Coordinate) : HomeController :=
  { home with coordinate := location }

/-- `locationManager(_:didUpdateLocations:)` with the whole delivery, the oldest location first. -/
def locationManagerDidUpdate (home : HomeController) (locations : List Coordinate) : HomeController :=
  match locations.head? with
  | some location => home.didUpdateLocations location
  | none => home

/-- The alert of `locationManager(_:didChangeAuthorization:)`. -/
def didChangeAuthorization (_ : HomeController) (status : CLAuthorizationStatus) : Option String :=
  alertForAuthorization status

/-- The list `prepare(for:)` hands to the profile. -/
def prepare (home : HomeController) (current : Except Trap String) : Except Trap (List Beacon) :=
  match home.beacons with
  -- the filter of an empty list never asks for the current user
  | [] => return []
  | beacons => do
    let uid ← current
    return beacons.filter fun beacon => beacon.uid = uid

/-- `prepare(for:)` for the segue `toDetailsController`. -/
def prepareDetails (home : HomeController) : DetailsController :=
  match home.selectedBeacon with
  | some beacon => { beacon := beacon }
  | none => {}

/-- `performSegue(withIdentifier: "toDetailsController", sender: self)`, after what was shown before. -/
def performDetailsSegue (home : HomeController) (shown : List DetailsController) :
    HomeController × List DetailsController :=
  (home, shown ++ [home.prepareDetails])

/-- The `forEach` over the beacons for one hit. -/
def touchNode (text : TextEquality) (node : SCNNode) (home : HomeController) (shown : List DetailsController) :
    List Beacon → Except Trap (HomeController × List DetailsController)
  | [] => return (home, shown)
  | beacon :: beacons =>
    match node.name with
    | none => throw (.unexpectedNil "result.node.name!")
    | some name =>
      if text.same name beacon.title then
        let (home, shown) := { home with selectedBeacon := some beacon }.performDetailsSegue shown
        -- `return` leaves the closure, and the `forEach` goes on
        touchNode text node home shown beacons
      else touchNode text node home shown beacons

/-- The loop over the hits. -/
def touchResults (text : TextEquality) (home : HomeController) (shown : List DetailsController) :
    List SCNHitTestResult → Except Trap (HomeController × List DetailsController)
  | [] => return (home, shown)
  | result :: hitResults => do
    let (home, shown) ← touchNode text result.node home shown home.beacons
    touchResults text home shown hitResults

/-- The home screen after a touch, and the details that its segues show, in their
order.  `hitResults` is what the hit test finds at the first touch, if there is one. -/
def touchesBegan (text : TextEquality) (home : HomeController) (hitResults : Option (List SCNHitTestResult)) :
    Except Trap (HomeController × List DetailsController) :=
  match hitResults with
  | some hitResults => touchResults text home [] hitResults
  | none => return (home, [])

/-- What the `forEach` leaves in the scene: the old nodes and one node for each beacon. -/
theorem addNodes_eq_ok {platform : Platform} {withLine : Bool} {coordinate : Coordinate}
    {view next : SceneLocationView} {beacons : List Beacon} :
    addNodes platform withLine coordinate view beacons = .ok next ↔
      ∃ created, next.locationNodes = view.locationNodes ++ created ∧
        List.Forall₂ (fun beacon node =>
          beacon.creatAnnotationNode platform withLine coordinate = .ok node) beacons created := by
  induction beacons generalizing view with
  | nil =>
    constructor
    · rintro ⟨⟩
      exact ⟨[], by simp, .nil⟩
    · rintro ⟨created, nodes, pairs⟩
      cases pairs
      obtain ⟨nodes'⟩ := next
      simp only [List.append_nil] at nodes
      subst nodes
      rfl
  | cons beacon beacons inductionHypothesis =>
    cases made : beacon.creatAnnotationNode platform withLine coordinate with
    | error trap =>
      constructor
      · intro taken
        simp [addNodes, made, bind, Except.bind] at taken
      · rintro ⟨created, _, pairs⟩
        cases pairs with
        | cons first _ => simp [made] at first
    | ok node =>
      have unfolded : addNodes platform withLine coordinate view (beacon :: beacons) =
          addNodes platform withLine coordinate
            (view.addLocationNodeWithConfirmedLocation node) beacons := by
        simp [addNodes, made, bind, Except.bind]
      rw [unfolded, inductionHypothesis]
      constructor
      · rintro ⟨created, nodes, pairs⟩
        refine ⟨node :: created, ?_, .cons made pairs⟩
        simpa [SceneLocationView.addLocationNodeWithConfirmedLocation] using nodes
      · rintro ⟨_, nodes, pairs⟩
        cases pairs with
        | @cons _ first _ created same pairs =>
          rw [made] at same
          cases same
          refine ⟨created, ?_, pairs⟩
          simpa [SceneLocationView.addLocationNodeWithConfirmedLocation] using nodes

/-- A completed fetch replaces the list and adds its nodes to the scene. -/
theorem beaconsLoaded_eq_ok {platform : Platform} {home next : HomeController} {beacons : List Beacon} :
    home.beaconsLoaded platform beacons = .ok next ↔
      ∃ created, List.Forall₂ (fun beacon node =>
          beacon.creatAnnotationNode platform false home.coordinate = .ok node) beacons created ∧
        next = { home with
          beacons := beacons
          sceneLocationView := ⟨home.sceneLocationView.locationNodes ++ created⟩ } := by
  simp only [beaconsLoaded, bind_eq_ok, pure_eq_ok, addNodes_eq_ok]
  constructor
  · rintro ⟨⟨view⟩, ⟨created, rfl, pairs⟩, rfl⟩
    exact ⟨created, pairs, rfl⟩
  · rintro ⟨created, pairs, rfl⟩
    exact ⟨⟨_⟩, ⟨created, rfl, pairs⟩, rfl⟩

/-- The switch leaves a scene of new nodes only. -/
theorem switchPressed_eq_ok {platform : Platform} {home next : HomeController} {isOn : Bool} :
    home.switchPressed platform isOn = .ok next ↔
      ∃ created, List.Forall₂ (fun beacon node =>
          beacon.creatAnnotationNode platform isOn home.coordinate = .ok node) home.beacons created ∧
        next = { home with frameSwitch := isOn, sceneLocationView := ⟨created⟩ } := by
  simp only [switchPressed, bind_eq_ok, pure_eq_ok, addNodes_eq_ok]
  constructor
  · rintro ⟨⟨view⟩, ⟨created, nodes, pairs⟩, rfl⟩
    obtain rfl : view = created := nodes
    exact ⟨view, pairs, rfl⟩
  · rintro ⟨created, pairs, rfl⟩
    exact ⟨⟨created⟩, ⟨created, rfl, pairs⟩, rfl⟩

end HomeController

/-! ## The details screen -/

/-- The outlets after `setupUI`. -/
structure DetailsView where
  image : UIImage
  titleLabel : String
  descriptionTextView : String
  /-- The number in `distanceLabel`, in front of the `m`. -/
  distance : ℚ

/-- `setupUI`; without a beacon the outlets stay as the storyboard has them. -/
def DetailsController.setupUI (platform : Platform) (details : DetailsController) (currentLocation : Coordinate) :
    Except Trap (Option DetailsView) :=
  match details.beacon with
  | none => return none
  | some beacon => do
    let image ← match platform.imageOfData beacon.imageData with
      | some image => pure image
      | none => throw (.unexpectedNil "UIImage(data: beacon.imageData)!")
    let distance ← beacon.getDistance platform currentLocation
    return some ⟨image, beacon.title, beacon.description, distance⟩

end Lyv
