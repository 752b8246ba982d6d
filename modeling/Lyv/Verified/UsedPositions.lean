import Lyv.Library.Results
import Lyv.Library.Transition
import Lyv.Controllers.HomeController
import Lyv.Controllers.UpdateController

/-!
# Which position is used

The home screen and the form each keep a coordinate.  It starts as a placeholder
and takes the first location of every delivery, which is the oldest one; whether
there has been a delivery is asked nowhere.
-/

namespace Lyv

open Lyv.Library

/-- The home screen, the form that may be open, the alerts shown and the records written, each at its key. -/
structure PositionRun where
  home : HomeController
  form : Option UpdateController := none
  alerts : List String := []
  written : List (String × Beacon) := []

inductive PositionEvent where
  | homeAuthorization (status : CLAuthorizationStatus)
  | homeLocations (locations : List Coordinate)
  | beaconsLoaded (beacons : List Beacon)
  | switchPressed
  | formOpened (beacon : Option Beacon)
  | formAuthorization (status : CLAuthorizationStatus)
  | formLocations (locations : List Coordinate)
  | edit (edit : UpdateController.Edit)
  | launchButtonPressed (current : Except Trap String) (locationServicesEnabled : Bool) (now : SwiftDouble)
  | exitToProfile

namespace PositionRun

def showAlert (run : PositionRun) (alert : Option String) : PositionRun :=
  { run with alerts := run.alerts ++ alert.toList }

def step (platform : Platform) (run : PositionRun) : PositionEvent → Option PositionRun
  | .homeAuthorization status => some (run.showAlert (run.home.didChangeAuthorization status))
  | .homeLocations locations => some { run with home := run.home.locationManagerDidUpdate locations }
  | .beaconsLoaded beacons =>
    (run.home.beaconsLoaded platform beacons).toOption.map fun home => { run with home := home }
  | .switchPressed =>
    (run.home.switchPressed platform !run.home.frameSwitch).toOption.map fun home => { run with home := home }
  | .formOpened beacon =>
    match run.form with
    -- each form is a new controller
    | none => some { run with form := some (({ beacon := beacon } : UpdateController).setupUI platform) }
    | some _ => none
  | .formAuthorization status =>
    run.form.map fun form => run.showAlert (form.didChangeAuthorization status)
  | .formLocations locations =>
    run.form.map fun form => { run with form := some (form.locationManagerDidUpdate locations) }
  | .edit edit => run.form.map fun form => { run with form := some (form.edit edit) }
  | .launchButtonPressed current locationServicesEnabled now => do
    let form ← run.form
    match form.updateBeacon platform current locationServicesEnabled now with
    | .ok (.inl message) => return run.showAlert (some message)
    | .ok (.inr newBeacon) =>
      -- the force-unwrap of `BeaconService.updateBeacon`
      let key ← newBeacon.key
      return { run with form := none, written := run.written ++ [(key, newBeacon)] }
    | .error _ => none
  | .exitToProfile => run.form.map fun _ => { run with form := none }

end PositionRun

/-- The two controllers, from the launch of the home screen on. -/
def positions (platform : Platform) : System PositionRun PositionEvent where
  initial run := ∃ identifier, run = { home := { identifier := identifier } }
  step := PositionRun.step platform

/-! ## Deliveries -/

/-- What an event delivers to the home screen. -/
def PositionEvent.toHome : PositionEvent → List Coordinate
  | .homeLocations locations => locations
  | _ => []

/-- What an event delivers to the form that is open. -/
def PositionEvent.toForm : PositionEvent → List Coordinate
  | .formLocations locations => locations
  | _ => []

def PositionEvent.opensForm : PositionEvent → Bool
  | .formOpened _ => true
  | _ => false

/-- The deliveries to the home screen, the latest first. -/
def homeDeliveries (history : History PositionRun PositionEvent) : List (List Coordinate) :=
  history.map fun entry => entry.2.toHome

/-- The deliveries to the form since it was opened. -/
def formDeliveries (history : History PositionRun PositionEvent) : List (List Coordinate) :=
  (history.takeWhile fun entry => !entry.2.opensForm).map fun entry => entry.2.toForm

/-- The most recent location: a delivery is in the order of time. -/
def mostRecent (deliveries : List (List Coordinate)) : Option Coordinate :=
  deliveries.findSome? List.getLast?

/-- There has been a location, and the last delivery that brought any starts with its most recent one. -/
def PositionKnown (deliveries : List (List Coordinate)) : Prop :=
  ∃ delivery, deliveries.find? (fun locations => !locations.isEmpty) = some delivery ∧
    delivery.head? = delivery.getLast?

/-- The coordinate that is kept: the first location of the last delivery that brought any. -/
def keptCoordinate (deliveries : List (List Coordinate)) : Coordinate :=
  latest List.head? .zero deliveries

/-- What is kept is the most recent location exactly when the position is known. -/
theorem mostRecent_eq_kept_iff (deliveries : List (List Coordinate)) :
    mostRecent deliveries = some (keptCoordinate deliveries) ↔ PositionKnown deliveries := by
  induction deliveries with
  | nil => simp [mostRecent, PositionKnown]
  | cons delivery deliveries inductionHypothesis =>
    cases delivery with
    | nil =>
      have recent : mostRecent ([] :: deliveries) = mostRecent deliveries := rfl
      have kept : keptCoordinate ([] :: deliveries) = keptCoordinate deliveries := rfl
      have known : PositionKnown ([] :: deliveries) ↔ PositionKnown deliveries := .rfl
      rw [recent, kept, known]
      exact inductionHypothesis
    | cons location locations =>
      have recent : mostRecent ((location :: locations) :: deliveries) = (location :: locations).getLast? := by
        simp [mostRecent, List.getLast?_cons]
      have kept : keptCoordinate ((location :: locations) :: deliveries) = location := rfl
      have known : PositionKnown ((location :: locations) :: deliveries) ↔
          (location :: locations).head? = (location :: locations).getLast? := by
        simp [PositionKnown]
      rw [recent, kept, known, List.head?_cons, eq_comm]

/-- Saving finds the position of the form known, and building markers that of the home screen. -/
def PositionsKnown : Guard PositionRun PositionEvent := fun history run event =>
  match event with
  | .beaconsLoaded beacons => beacons ≠ [] → PositionKnown (homeDeliveries history)
  | .switchPressed => run.home.beacons ≠ [] → PositionKnown (homeDeliveries history)
  | .launchButtonPressed _ locationServicesEnabled _ => ∀ form, run.form = some form →
      form.nameTextField ≠ "" → locationServicesEnabled → PositionKnown (formDeliveries history)
  | _ => True

/-- Every marker is the one that its beacon has seen from the most recent location. -/
def SizedFrom (platform : Platform) (withLine : Bool) (recent : Option Coordinate) (beacons : List Beacon)
    (nodes : List LocationAnnotationNode) : Prop :=
  List.Forall₂ (fun beacon node => ∃ location, recent = some location ∧
    beacon.creatAnnotationNode platform withLine location = .ok node) beacons nodes

/-- The record that is written, and the markers that are built, go by the most recent location. -/
def RealPositions (platform : Platform) : Guard PositionRun PositionEvent := fun history run event =>
  match event with
  | .beaconsLoaded beacons => ∀ home, run.home.beaconsLoaded platform beacons = .ok home →
      ∃ created, home.sceneLocationView.locationNodes = run.home.sceneLocationView.locationNodes ++ created ∧
        SizedFrom platform false (mostRecent (homeDeliveries history)) beacons created
  | .switchPressed => ∀ home, run.home.switchPressed platform (!run.home.frameSwitch) = .ok home →
      SizedFrom platform home.frameSwitch (mostRecent (homeDeliveries history)) home.beacons
        home.sceneLocationView.locationNodes
  | .launchButtonPressed current locationServicesEnabled now => ∀ form beacon, run.form = some form →
      form.updateBeacon platform current locationServicesEnabled now = .ok (.inr beacon) →
      ∃ location, mostRecent (formDeliveries history) = some location ∧
        beacon.latitude = floatOf location.latitude ∧ beacon.longitude = floatOf location.longitude
  | _ => True

/-! ## What is kept -/

variable {platform : Platform}

namespace HomeController

theorem coordinate_locationManagerDidUpdate (home : HomeController) (locations : List Coordinate) :
    (home.locationManagerDidUpdate locations).coordinate = locations.head?.getD home.coordinate := by
  unfold locationManagerDidUpdate
  cases locations.head? <;> rfl

end HomeController

namespace UpdateController

theorem coordinate_locationManagerDidUpdate (form : UpdateController) (locations : List Coordinate) :
    (form.locationManagerDidUpdate locations).coordinate = locations.head?.getD form.coordinate := by
  unfold locationManagerDidUpdate
  cases locations.head? <;> rfl

theorem coordinate_setupUI (form : UpdateController) : (form.setupUI platform).coordinate = form.coordinate := by
  unfold setupUI
  split <;> rfl

theorem coordinate_edit (form : UpdateController) (change : Edit) :
    (form.edit change).coordinate = form.coordinate := by
  cases change <;> rfl

end UpdateController

/-- Each controller keeps the first location of the last delivery to it. -/
structure PositionRun.Keeps (history : History PositionRun PositionEvent) (run : PositionRun) : Prop where
  home : run.home.coordinate = keptCoordinate (homeDeliveries history)
  form : ∀ form, run.form = some form → form.coordinate = keptCoordinate (formDeliveries history)

theorem kept_homeDeliveries (run : PositionRun) (event : PositionEvent)
    (history : History PositionRun PositionEvent) :
    keptCoordinate (homeDeliveries ((run, event) :: history)) =
      event.toHome.head?.getD (keptCoordinate (homeDeliveries history)) :=
  latest_cons _ _ _ _

theorem kept_formDeliveries {event : PositionEvent} (open' : event.opensForm = false) (run : PositionRun)
    (history : History PositionRun PositionEvent) :
    keptCoordinate (formDeliveries ((run, event) :: history)) =
      event.toForm.head?.getD (keptCoordinate (formDeliveries history)) := by
  rw [formDeliveries, List.takeWhile_cons_of_pos (by simp [open']), List.map_cons]
  exact latest_cons _ _ _ _

theorem keeps_step {history : History PositionRun PositionEvent} {run next : PositionRun}
    {event : PositionEvent} (keeps : run.Keeps history)
    (taken : (positions platform).step run event = some next) : next.Keeps ((run, event) :: history) := by
  -- an event that opens no form leaves or moves each coordinate as it delivers
  have kept : event.opensForm = false →
      next.home.coordinate = event.toHome.head?.getD run.home.coordinate →
      (∀ form, next.form = some form → ∃ former, run.form = some former ∧
        form.coordinate = event.toForm.head?.getD former.coordinate) →
      next.Keeps ((run, event) :: history) := by
    intro other home forms
    refine ⟨?_, fun form shown => ?_⟩
    · rw [kept_homeDeliveries, home, keeps.home]
    · obtain ⟨former, shown', moved⟩ := forms form shown
      rw [kept_formDeliveries other, moved, keeps.form former shown']
  have same : ∀ form, run.form = some form → ∃ former, run.form = some former ∧
      form.coordinate = former.coordinate := fun form shown => ⟨form, shown, rfl⟩
  simp only [positions] at taken
  cases event with
  | homeAuthorization status =>
    obtain rfl := Option.some.inj taken
    exact kept rfl rfl same
  | homeLocations locations =>
    obtain rfl := Option.some.inj taken
    exact kept rfl (HomeController.coordinate_locationManagerDidUpdate _ _) same
  | beaconsLoaded beacons =>
    obtain ⟨home, loaded, rfl⟩ := Option.map_eq_some_iff.mp taken
    obtain ⟨_, _, rfl⟩ := HomeController.beaconsLoaded_eq_ok.mp (toOption_eq_some.mp loaded)
    exact kept rfl rfl same
  | switchPressed =>
    obtain ⟨home, switched, rfl⟩ := Option.map_eq_some_iff.mp taken
    obtain ⟨_, _, rfl⟩ := HomeController.switchPressed_eq_ok.mp (toOption_eq_some.mp switched)
    exact kept rfl rfl same
  | formOpened beacon =>
    simp only [PositionRun.step] at taken
    split at taken
    · obtain rfl := Option.some.inj taken
      refine ⟨?_, ?_⟩
      · rw [kept_homeDeliveries]
        exact keeps.home
      · rintro _ ⟨⟩
        exact UpdateController.coordinate_setupUI _
    · contradiction
  | formAuthorization status =>
    obtain ⟨form, shown, rfl⟩ := Option.map_eq_some_iff.mp taken
    exact kept rfl rfl same
  | formLocations locations =>
    obtain ⟨form, shown, rfl⟩ := Option.map_eq_some_iff.mp taken
    refine kept rfl rfl ?_
    rintro _ ⟨⟩
    exact ⟨form, shown, UpdateController.coordinate_locationManagerDidUpdate _ _⟩
  | edit change =>
    obtain ⟨form, shown, rfl⟩ := Option.map_eq_some_iff.mp taken
    refine kept rfl rfl ?_
    rintro _ ⟨⟩
    exact ⟨form, shown, UpdateController.coordinate_edit _ _⟩
  | launchButtonPressed current enabled now =>
    obtain ⟨form, shown, taken⟩ := Option.bind_eq_some_iff.mp taken
    split at taken
    · obtain rfl := Option.some.inj taken
      exact kept rfl rfl same
    · obtain ⟨key, _, written⟩ := Option.bind_eq_some_iff.mp taken
      obtain rfl := Option.some.inj written
      exact kept rfl rfl (by simp)
    · contradiction
  | exitToProfile =>
    obtain ⟨form, shown, rfl⟩ := Option.map_eq_some_iff.mp taken
    exact kept rfl rfl (by simp)

theorem PositionRun.Keeps.of_execution {history : History PositionRun PositionEvent} {run : PositionRun}
    (execution : Execution (positions platform) history run) : run.Keeps history := by
  refine execution.always (fun history run => run.Keeps history) ?_ fun _ _ _ _ => keeps_step
  rintro _ ⟨identifier, rfl⟩
  exact ⟨rfl, by simp⟩

/-- A step whose position is known uses it. -/
theorem real_of_known {history : History PositionRun PositionEvent} {run : PositionRun} {event : PositionEvent}
    (keeps : run.Keeps history) (known : PositionsKnown history run event) :
    RealPositions platform history run event := by
  -- markers are built from the coordinate that the home screen keeps
  have sized : ∀ withLine beacons created, (beacons ≠ [] → PositionKnown (homeDeliveries history)) →
      List.Forall₂ (fun beacon node =>
        beacon.creatAnnotationNode platform withLine run.home.coordinate = .ok node) beacons created →
      SizedFrom platform withLine (mostRecent (homeDeliveries history)) beacons created := by
    intro withLine beacons created position pairs
    by_cases none : beacons = []
    · subst none
      cases pairs
      exact .nil
    · have recent := (mostRecent_eq_kept_iff _).mpr (position none)
      rw [← keeps.home] at recent
      exact pairs.imp fun _ _ made => ⟨_, recent, made⟩
  cases event with
  | beaconsLoaded beacons =>
    intro home loaded
    obtain ⟨created, pairs, rfl⟩ := HomeController.beaconsLoaded_eq_ok.mp loaded
    exact ⟨created, rfl, sized false beacons created known pairs⟩
  | switchPressed =>
    intro home switched
    obtain ⟨created, pairs, rfl⟩ := HomeController.switchPressed_eq_ok.mp switched
    exact sized _ run.home.beacons created known pairs
  | launchButtonPressed current enabled now =>
    intro form beacon shown written
    obtain ⟨titled, services, uid, _, rfl⟩ := UpdateController.updateBeacon_eq_inr.mp written
    have recent := (mostRecent_eq_kept_iff _).mpr (known form shown titled services)
    rw [← keeps.form form shown] at recent
    exact ⟨form.coordinate, recent, rfl, rfl⟩
  | homeAuthorization _ | homeLocations _ | formOpened _ | formAuthorization _ | formLocations _ | edit _
  | exitToProfile => trivial

/-- In every run in which no record is written, and no marker built, before a
location has come to the controller, and in which the last delivery to it starts
with its most recent location, records and markers go by that location. -/
theorem real_positions_used {history : History PositionRun PositionEvent} {run : PositionRun}
    (execution : Execution (positions platform) history run) (known : EveryStep PositionsKnown history) :
    EveryStep (RealPositions platform) history := by
  induction execution with
  | start _ => trivial
  | step earlier taken inductionHypothesis =>
    exact ⟨real_of_known (.of_execution earlier) known.1, inductionHypothesis known.2⟩

/-- The sample beacon as it is listed, with its key. -/
def Beacon.campfire : Beacon := { Beacon.sample with key := some "campfire" }

/-- A campfire is loaded and saved, each time after a location has come. -/
def located : List PositionEvent :=
  [.homeLocations [⟨1, 2⟩], .beaconsLoaded [.campfire], .formOpened (some .campfire), .formLocations [],
    .formLocations [⟨1, 2⟩], .launchButtonPressed (.ok "ann") true Beacon.sample.date]

/-- The form is opened without permission, and saved; location services are on. -/
def unlocated : List PositionEvent :=
  [.formOpened (some .campfire), .formAuthorization .denied,
    .launchButtonPressed (.ok "ann") true Beacon.sample.date]

theorem positions_initial : (positions .sample).initial { home := { identifier := 0 } } := ⟨0, rfl⟩

theorem located_taken : ((positions .sample).replay [] { home := { identifier := 0 } } located).isSome := by
  decide +kernel

theorem unlocated_taken : ((positions .sample).replay [] { home := { identifier := 0 } } unlocated).isSome := by
  decide +kernel

theorem located_positions : EveryStep (RealPositions .sample)
    ((positions .sample).reached _ located located_taken).1 := by
  refine real_positions_used ((positions .sample).execution_reached positions_initial located located_taken) ?_
  refine ⟨fun form _ _ _ => ⟨[⟨1, 2⟩], rfl, rfl⟩, trivial, trivial, trivial, fun _ => ⟨[⟨1, 2⟩], rfl, rfl⟩,
    trivial, trivial⟩

/-- Without permission no location comes, and the placeholder is stored. -/
theorem positions_not_always_real :
    ¬ ∀ (platform : Platform) (history : History PositionRun PositionEvent) (run : PositionRun),
      Execution (positions platform) history run → EveryStep (RealPositions platform) history := by
  intro always
  have real := (always .sample _ _ ((positions .sample).execution_reached positions_initial unlocated
    unlocated_taken)).1
  obtain ⟨location, recent, _⟩ := real _ _ rfl rfl
  contradiction

end Lyv
