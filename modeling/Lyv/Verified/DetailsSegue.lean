import Lyv.Library.Results
import Lyv.Controllers.HomeController

/-!
# Which details a tap opens

A hit is matched with the beacons by title, for every hit and every beacon: the
`return` after the segue leaves only the closure.  So a tap opens the details
once exactly when there is one hit and one beacon has its title.
-/

namespace Lyv

open Lyv.Library

namespace HomeController

variable (text : TextEquality)

/-- The beacons that a name matches. -/
def matching (home : HomeController) (name : String) : List Beacon :=
  home.beacons.filter fun beacon => text.same name beacon.title

/-- One segue for every beacon that the name matches, in the order of the list. -/
theorem touchNode_eq (home : HomeController) (shown : List DetailsController) (name : String)
    (beacons : List Beacon) :
    ∃ selectedBeacon, touchNode text ⟨some name⟩ home shown beacons =
      .ok ({ home with selectedBeacon := selectedBeacon }, shown ++
        (beacons.filter fun beacon => text.same name beacon.title).map fun beacon => { beacon := some beacon }) := by
  induction beacons generalizing home shown with
  | nil => exact ⟨home.selectedBeacon, by simp [touchNode, pure, Except.pure]⟩
  | cons beacon beacons inductionHypothesis =>
    by_cases same : text.same name beacon.title
    · obtain ⟨selectedBeacon, rest⟩ := inductionHypothesis { home with selectedBeacon := some beacon }
        (shown ++ [{ beacon := some beacon }])
      refine ⟨selectedBeacon, ?_⟩
      simp only [touchNode, same, if_true, performDetailsSegue, prepareDetails, rest, List.filter_cons,
        List.map_cons, List.append_assoc, List.cons_append, List.nil_append]
    · obtain ⟨selectedBeacon, rest⟩ := inductionHypothesis home shown
      refine ⟨selectedBeacon, ?_⟩
      simp only [touchNode, same, rest, List.filter_cons]
      rfl

/-- The segues of a touch on markers. -/
theorem touchResults_eq (home : HomeController) (shown : List DetailsController)
    (nodes : List LocationAnnotationNode) :
    ∃ selectedBeacon, touchResults text home shown (nodes.map fun node => ⟨node.annotationNode⟩) =
      .ok ({ home with selectedBeacon := selectedBeacon }, shown ++
        nodes.flatMap fun node => (home.matching text node.name).map fun beacon => { beacon := some beacon }) := by
  induction nodes generalizing home shown with
  | nil => exact ⟨home.selectedBeacon, by simp [touchResults, pure, Except.pure]⟩
  | cons node nodes inductionHypothesis =>
    obtain ⟨selected, first⟩ := touchNode_eq text home shown node.name home.beacons
    obtain ⟨selectedBeacon, rest⟩ := inductionHypothesis { home with selectedBeacon := selected }
      (shown ++ (home.matching text node.name).map fun beacon => { beacon := some beacon })
    refine ⟨selectedBeacon, ?_⟩
    simp only [List.map_cons, touchResults, LocationAnnotationNode.annotationNode, first]
    -- the loop goes on with the same list of beacons
    refine rest.trans ?_
    rw [List.flatMap_cons, List.append_assoc]
    rfl

theorem touchesBegan_eq (home : HomeController) (nodes : List LocationAnnotationNode) :
    ∃ selectedBeacon, home.touchesBegan text (some (nodes.map fun node => ⟨node.annotationNode⟩)) =
      .ok ({ home with selectedBeacon := selectedBeacon },
        nodes.flatMap fun node => (home.matching text node.name).map fun beacon => { beacon := some beacon }) :=
  touchResults_eq text home [] nodes

end HomeController

/-! ## Markers of the list -/

/-- A marker that was built from a beacon of the list. -/
def BuiltFrom (platform : Platform) (beacons : List Beacon) (beacon : Beacon) (node : LocationAnnotationNode) :
    Prop :=
  beacon ∈ beacons ∧ ∃ withLine location, beacon.creatAnnotationNode platform withLine location = .ok node

theorem BuiltFrom.name_eq {platform : Platform} {beacons : List Beacon} {beacon : Beacon}
    {node : LocationAnnotationNode} (built : BuiltFrom platform beacons beacon node) : node.name = beacon.title := by
  obtain ⟨_, withLine, location, made⟩ := built
  obtain ⟨_, _, rfl⟩ := Beacon.creatAnnotationNode_eq_ok.mp made
  rfl

theorem BuiltFrom.mem_matching {platform : Platform} {home : HomeController} {beacon : Beacon}
    {node : LocationAnnotationNode} (built : BuiltFrom platform home.beacons beacon node) (text : TextEquality) :
    beacon ∈ home.matching text node.name := by
  refine List.mem_filter.mpr ⟨built.1, ?_⟩
  rw [built.name_eq]
  exact text.equivalence.refl beacon.title

/-- After the switch, the markers of the scene are those of the list. -/
theorem builtFrom_switchPressed {platform : Platform} {home next : HomeController} {isOn : Bool}
    (switched : home.switchPressed platform isOn = .ok next) :
    List.Forall₂ (BuiltFrom platform next.beacons) next.beacons next.sceneLocationView.locationNodes := by
  obtain ⟨created, pairs, rfl⟩ := HomeController.switchPressed_eq_ok.mp switched
  refine List.forall₂_iff_get.mpr ⟨pairs.length_eq, fun index bound bound' => ⟨List.get_mem _ _, ?_⟩⟩
  exact ⟨isOn, home.coordinate, (List.forall₂_iff_get.mp pairs).2 index bound bound'⟩

/-- A touch shows the details of the beacon in front, once, exactly when nothing
else is hit and no other beacon of the list has its title. -/
theorem details_shown_once_iff {platform : Platform} {text : TextEquality} {home : HomeController}
    {front : Beacon} {sources : List Beacon} {node : LocationAnnotationNode} {nodes : List LocationAnnotationNode}
    (built : List.Forall₂ (BuiltFrom platform home.beacons) (front :: sources) (node :: nodes)) :
    (∃ next, home.touchesBegan text (some ((node :: nodes).map fun node => ⟨node.annotationNode⟩)) =
      .ok (next, [{ beacon := some front }])) ↔
    nodes = [] ∧ (home.beacons.filter fun beacon => text.same front.title beacon.title).length = 1 := by
  obtain ⟨selectedBeacon, touched⟩ := home.touchesBegan_eq text (node :: nodes)
  cases built with
  | cons first others =>
    have frontmost := first.mem_matching text
    have matched : home.matching text node.name =
        home.beacons.filter fun beacon => text.same front.title beacon.title := by
      rw [HomeController.matching, first.name_eq]
    rw [touched, ← matched, List.flatMap_cons]
    constructor
    · rintro ⟨next, same⟩
      have shown := congrArg List.length (congrArg Prod.snd (Except.ok.inj same))
      rw [List.length_append, List.length_map, List.length_singleton] at shown
      have one : 0 < (home.matching text node.name).length := List.length_pos_of_mem frontmost
      refine ⟨?_, by omega⟩
      -- a second hit is a marker of some beacon, and shows that one too
      cases others with
      | nil => rfl
      | cons second _ =>
        have two : 0 < (home.matching text _).length := List.length_pos_of_mem (second.mem_matching text)
        rw [List.flatMap_cons, List.length_append, List.length_map] at shown
        omega
    · rintro ⟨rfl, one⟩
      obtain ⟨only, alone⟩ := List.length_eq_one_iff.mp one
      rw [alone] at frontmost ⊢
      obtain rfl := List.mem_singleton.mp frontmost
      exact ⟨_, rfl⟩

/-- Two beacons, at the same place. -/
def HomeController.campfireAndLake : HomeController where
  identifier := 0
  beacons := [.sample, { Beacon.sample with title := "Lake" }]

theorem HomeController.campfireAndLake_marker (beacon : Beacon) (member : beacon ∈ campfireAndLake.beacons) :
    ∃ node, BuiltFrom .sample campfireAndLake.beacons beacon node := by
  have picture : (Platform.sample.imageOfData beacon.imageData).isSome := by
    revert beacon
    decide
  obtain ⟨node, made⟩ := (Beacon.creatAnnotationNode_isOk_iff .sample beacon false .zero).mpr picture
  exact ⟨node, member, false, .zero, made⟩

theorem campfire_shown_once : ∃ (node : LocationAnnotationNode) (next : HomeController),
    HomeController.campfireAndLake.touchesBegan .normalised (some [⟨node.annotationNode⟩]) =
      .ok (next, [{ beacon := some .sample }]) := by
  obtain ⟨node, built⟩ := HomeController.campfireAndLake_marker .sample (by decide)
  refine ⟨node, (details_shown_once_iff (.cons built .nil)).mpr ⟨rfl, ?_⟩⟩
  decide

/-- Where one marker stands behind the other, a touch opens the details of both. -/
theorem details_not_always_shown_once :
    ¬ ∀ (platform : Platform) (text : TextEquality) (home : HomeController) (front : Beacon)
      (sources : List Beacon) (node : LocationAnnotationNode) (nodes : List LocationAnnotationNode),
      List.Forall₂ (BuiltFrom platform home.beacons) (front :: sources) (node :: nodes) →
      ∃ next, home.touchesBegan text (some ((node :: nodes).map fun node => ⟨node.annotationNode⟩)) =
        .ok (next, [{ beacon := some front }]) := by
  intro always
  obtain ⟨campfire, builtCampfire⟩ := HomeController.campfireAndLake_marker .sample (by decide)
  obtain ⟨lake, builtLake⟩ :=
    HomeController.campfireAndLake_marker { Beacon.sample with title := "Lake" } (by decide)
  obtain ⟨next, same⟩ := always .sample .normalised .campfireAndLake .sample _ campfire [lake]
    (.cons builtCampfire (.cons builtLake .nil))
  obtain ⟨selectedBeacon, touched⟩ :=
    HomeController.campfireAndLake.touchesBegan_eq .normalised [campfire, lake]
  have shown := congrArg Prod.snd (Except.ok.inj (touched.symm.trans same))
  simp only [List.flatMap_cons, List.flatMap_nil, builtCampfire.name_eq, builtLake.name_eq] at shown
  revert shown
  decide

end Lyv
