import Lyv.Library.Results
import Lyv.Library.Transition
import Lyv.Controllers.HomeController

/-!
# The AR scene and the list it is drawn from

The home screen as a transition system of its own, with the number of fetches
in flight.  The switch rebuilds the scene; a fetch that completes adds to it,
always without lines.  So the scene mirrors the list if and only if the fetch
that completes last finds it empty and the switch off.
-/

namespace Lyv

open Lyv.Library

/-- The home screen, the fetches it waits for, and whether one has completed. -/
structure HomeRun where
  home : HomeController
  inFlight : Nat := 0
  completed : Bool := false

inductive HomeEvent where
  | viewWillAppear
  /-- A pending completion of `BeaconService.beacons` runs with a list. -/
  | delivered (beacons : List Beacon)
  | switchPressed
  | viewWillDisappear
  | didUpdateLocations (location : Coordinate)

namespace HomeRun

def step (platform : Platform) (run : HomeRun) : HomeEvent → Option HomeRun
  | .viewWillAppear => some { run with inFlight := run.inFlight + 1 }
  | .delivered beacons =>
    if run.inFlight = 0 then none
    else (run.home.beaconsLoaded platform beacons).toOption.map fun home =>
      { home := home, inFlight := run.inFlight - 1, completed := true }
  | .switchPressed =>
    (run.home.switchPressed platform !run.home.frameSwitch).toOption.map fun home =>
      { run with home := home }
  | .viewWillDisappear => some run
  | .didUpdateLocations location => some { run with home := run.home.didUpdateLocations location }

end HomeRun

/-- The home screen of the storyboard, from its first appearance on. -/
def homeScreen (platform : Platform) : System HomeRun HomeEvent where
  initial run := ∃ identifier, run = { home := { identifier := identifier } }
  step := HomeRun.step platform

/-- One node for every beacon of the list, each built with lines as the switch says. -/
def Mirrors (platform : Platform) (home : HomeController) : Prop :=
  ∃ created, home.sceneLocationView.locationNodes.Perm created ∧
    List.Forall₂ (fun beacon node => ∃ location,
      beacon.creatAnnotationNode platform home.frameSwitch location = .ok node) home.beacons created

theorem Mirrors.length_eq {platform : Platform} {home : HomeController}
    (mirrored : Mirrors platform home) :
    home.sceneLocationView.locationNodes.length = home.beacons.length := by
  obtain ⟨created, permutation, pairs⟩ := mirrored
  exact permutation.length_eq.trans pairs.length_eq.symm

/-- The fetch that completes last finds an empty scene, and the switch off
unless it brings nothing to draw. -/
def LastFetchFindsClear : Guard HomeRun HomeEvent := fun _ run event =>
  match event with
  | .delivered beacons => run.inFlight = 1 →
      run.home.sceneLocationView.locationNodes = [] ∧ (run.home.frameSwitch = false ∨ beacons = [])
  | _ => True

variable {platform : Platform}

theorem longFrameHidden_of_created {beacon : Beacon} {withLine : Bool} {location : Coordinate}
    {node : LocationAnnotationNode}
    (created : beacon.creatAnnotationNode platform withLine location = .ok node) :
    node.view.longFrameHidden = !withLine := by
  obtain ⟨_, _, rfl⟩ := Beacon.creatAnnotationNode_eq_ok.mp created
  rfl

/-- After a switch the scene mirrors the list, whatever it held before. -/
theorem mirrors_of_switchPressed {home next : HomeController} {isOn : Bool}
    (pressed : home.switchPressed platform isOn = .ok next) : Mirrors platform next := by
  obtain ⟨created, pairs, rfl⟩ := HomeController.switchPressed_eq_ok.mp pressed
  exact ⟨created, .refl _, pairs.imp fun _ _ made => ⟨_, made⟩⟩

/-- A completed fetch leaves a mirror exactly when it found the scene empty, and
the switch off unless there was nothing to draw. -/
theorem mirrors_of_beaconsLoaded_iff {home next : HomeController} {beacons : List Beacon}
    (loaded : home.beaconsLoaded platform beacons = .ok next) :
    Mirrors platform next ↔
      home.sceneLocationView.locationNodes = [] ∧ (home.frameSwitch = false ∨ beacons = []) := by
  obtain ⟨created, pairs, rfl⟩ := HomeController.beaconsLoaded_eq_ok.mp loaded
  constructor
  · intro mirrors
    -- one node for each beacon leaves no room for the nodes of before
    have noOthers : home.sceneLocationView.locationNodes = [] := by
      have lengths : (home.sceneLocationView.locationNodes ++ created).length = beacons.length :=
        mirrors.length_eq
      rw [List.length_append, ← pairs.length_eq] at lengths
      exact List.length_eq_zero_iff.mp (by omega)
    refine ⟨noOthers, ?_⟩
    obtain ⟨mirror, permutation, mirrored⟩ := mirrors
    cases pairs with
    | nil => exact .inr rfl
    | @cons beacon node _ _ made _ =>
      left
      -- the first new node has no line, and it stands for some beacon of the mirror
      have member : node ∈ mirror := permutation.subset (by simp)
      obtain ⟨_, _, _, rebuilt⟩ := exists_of_mem_right mirrored member
      have hidden := (longFrameHidden_of_created made).symm.trans (longFrameHidden_of_created rebuilt)
      simpa using hidden
  · rintro ⟨noOthers, clear⟩
    refine ⟨created, by simp [noOthers], ?_⟩
    obtain off | rfl := clear
    · rw [off]
      exact pairs.imp fun _ _ made => ⟨_, made⟩
    · cases pairs
      exact .nil

theorem mirrors_of_step {run next : HomeRun} {history : History HomeRun HomeEvent} {event : HomeEvent}
    (mirrored : run.inFlight = 0 → Mirrors platform run.home)
    (guarded : LastFetchFindsClear history run event)
    (taken : (homeScreen platform).step run event = some next) :
    next.inFlight = 0 → Mirrors platform next.home := by
  intro settled
  cases event with
  | viewWillAppear =>
    obtain rfl := Option.some.inj taken
    simp at settled
  | delivered beacons =>
    simp only [homeScreen, HomeRun.step] at taken
    split at taken
    · contradiction
    next waiting =>
      obtain ⟨home, loaded, rfl⟩ := Option.map_eq_some_iff.mp taken
      have last : run.inFlight = 1 := by simp only at settled; omega
      exact (mirrors_of_beaconsLoaded_iff (toOption_eq_some.mp loaded)).mpr (guarded last)
  | switchPressed =>
    obtain ⟨home, pressed, rfl⟩ := Option.map_eq_some_iff.mp taken
    exact mirrors_of_switchPressed (toOption_eq_some.mp pressed)
  | viewWillDisappear =>
    obtain rfl := Option.some.inj taken
    exact mirrored settled
  | didUpdateLocations location =>
    obtain rfl := Option.some.inj taken
    exact mirrored settled

/-- In every run of the home screen, the scene mirrors the list in every state
with no fetch in flight after the first completion, if and only if every fetch
that completes last finds the scene clear. -/
theorem scene_mirrors_iff (platform : Platform) {history : History HomeRun HomeEvent} {run : HomeRun}
    (execution : Execution (homeScreen platform) history run) :
    EveryState (fun _ run => run.inFlight = 0 → run.completed → Mirrors platform run.home) history run ↔
      EveryStep LastFetchFindsClear history := by
  refine execution.everyState_iff (fun _ run => run.inFlight = 0 → Mirrors platform run.home)
    ?starts (fun _ _ _ _ => mirrors_of_step) (fun _ _ holds settled _ => holds settled) ?exact
  case starts =>
    rintro _ ⟨identifier, rfl⟩ _
    exact ⟨[], .refl _, .nil⟩
  case exact =>
    intro history run event next _ taken mirrored
    cases event with
    | delivered beacons =>
      simp only [homeScreen, HomeRun.step] at taken
      split at taken
      · contradiction
      · obtain ⟨home, loaded, rfl⟩ := Option.map_eq_some_iff.mp taken
        intro last
        exact (mirrors_of_beaconsLoaded_iff (toOption_eq_some.mp loaded)).mp
          (mirrored (by simp [last]) rfl)
    | viewWillAppear | switchPressed | viewWillDisappear | didUpdateLocations _ => trivial

/-- The home screen appears, loads a beacon, and the user turns the lines on. -/
def firstAppearance : List HomeEvent := [.viewWillAppear, .delivered [.sample], .switchPressed]

/-- The user comes back to the home screen, and the same beacon is loaded again. -/
def secondAppearance : List HomeEvent :=
  [.viewWillAppear, .delivered [.sample], .viewWillDisappear, .viewWillAppear, .delivered [.sample]]

theorem homeScreen_initial : (homeScreen .sample).initial { home := { identifier := 0 } } := ⟨0, rfl⟩

theorem firstAppearance_taken :
    ((homeScreen .sample).replay [] { home := { identifier := 0 } } firstAppearance).isSome := by
  decide +kernel

theorem secondAppearance_taken :
    ((homeScreen .sample).replay [] { home := { identifier := 0 } } secondAppearance).isSome := by
  decide +kernel

/-- The run of one appearance, all of whose states mirror the list. -/
theorem firstAppearance_mirrors :
    EveryState (fun _ run => run.inFlight = 0 → run.completed → Mirrors .sample run.home)
      ((homeScreen .sample).reached _ firstAppearance firstAppearance_taken).1
      ((homeScreen .sample).reached _ firstAppearance firstAppearance_taken).2 :=
  (scene_mirrors_iff .sample ((homeScreen .sample).execution_reached homeScreen_initial
    firstAppearance firstAppearance_taken)).mpr
    ⟨trivial, fun _ => ⟨rfl, .inl rfl⟩, trivial, trivial⟩

/-- After the second appearance there are two markers for one beacon. -/
theorem scene_not_always_mirrored :
    ¬ ∀ (platform : Platform) (history : History HomeRun HomeEvent) (run : HomeRun),
      Execution (homeScreen platform) history run →
      EveryState (fun _ run => run.inFlight = 0 → run.completed → Mirrors platform run.home)
        history run := by
  intro always
  have mirrors := (always _ _ _ ((homeScreen .sample).execution_reached homeScreen_initial
    secondAppearance secondAppearance_taken)).last (by decide +kernel) (by decide +kernel)
  exact absurd mirrors.length_eq (by decide +kernel)

end Lyv
