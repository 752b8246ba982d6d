import Lyv.Library.Results
import Lyv.Controllers.HomeController
import Lyv.Services.Network

/-!
# Which databases the home screen survives

The marker of a beacon is drawn from its picture with a force-unwrap.  Text
under `imageData` that is not base64 falls back to the bundled pin, but base64
of bytes that are no image, such as the empty text, does not.
-/

namespace Lyv

open Lyv.Library Lyv.Firebase

/-- The bytes under `imageData`, when it holds base64 text. -/
def storedImage (snapshot : DataSnapshot) : Option Data := do
  let dict ← snapshot.value.asDictionary
  let text ← (dict.lookup "imageData").bind Json.asString
  Base64.decode text

/-- Every record that decodes, and whose `imageData` is base64, holds an image there. -/
def ImagesReadable (platform : Platform) (children : Store String Node) : Prop :=
  ∀ child ∈ children.entries, (Beacon.ofSnapshot platform ⟨child.1, child.2⟩).isSome →
    ∀ data, storedImage ⟨child.1, child.2⟩ = some data → (platform.imageOfData data).isSome

variable {platform : Platform}

theorem imageData_of_ofSnapshot {snapshot : DataSnapshot} {beacon : Beacon}
    (decoded : Beacon.ofSnapshot platform snapshot = some beacon) :
    beacon.imageData = (storedImage snapshot).getD platform.locationPinData := by
  obtain ⟨text, stored, image⟩ := (Beacon.ofSnapshot_eq_some.mp decoded).imageData
  obtain ⟨dict, asDictionary⟩ := asDictionary_of_child stored (by decide)
  have read : storedImage snapshot = Base64.decode text := by
    simp only [storedImage, DataSnapshot.value, asDictionary, lookup_asDictionary asDictionary, stored,
      Json.asString, Option.bind_eq_bind, Option.bind_some]
  rw [image, read, Beacon.imageDataOf]

theorem image_isSome_iff {snapshot : DataSnapshot} {beacon : Beacon}
    (decoded : Beacon.ofSnapshot platform snapshot = some beacon) :
    (platform.imageOfData beacon.imageData).isSome ↔
      ∀ data, storedImage snapshot = some data → (platform.imageOfData data).isSome := by
  rw [imageData_of_ofSnapshot decoded]
  cases storedImage snapshot with
  | none => simp [platform.locationPin_isImage]
  | some data => simp

/-- Loading a list draws its markers if and only if every beacon of it has a picture. -/
theorem beaconsLoaded_isOk_iff (home : HomeController) (beacons : List Beacon) :
    (∃ next, home.beaconsLoaded platform beacons = .ok next) ↔
      ∀ beacon ∈ beacons, (platform.imageOfData beacon.imageData).isSome := by
  simp only [HomeController.beaconsLoaded_eq_ok, ← Beacon.creatAnnotationNode_isOk_iff platform _ false
    home.coordinate, ← exists_forall₂_iff]
  constructor
  · rintro ⟨_, created, pairs, _⟩
    exact ⟨created, pairs⟩
  · rintro ⟨created, pairs⟩
    exact ⟨_, created, pairs, rfl⟩

/-- The home screen survives loading the database, wherever the user is, exactly
when every record that decodes and has base64 for its picture has an image there. -/
theorem home_survives_iff (platform : Platform) (children : Store String Node) (home : HomeController) :
    (∃ next, home.beaconsLoaded platform (BeaconService.decode platform children) = .ok next) ↔
      ImagesReadable platform children := by
  rw [beaconsLoaded_isOk_iff]
  constructor
  · rintro drawn child member accepted data stored
    obtain ⟨beacon, decoded⟩ := Option.isSome_iff_exists.mp accepted
    exact (image_isSome_iff decoded).mp
      (drawn beacon (BeaconService.mem_decode.mpr ⟨child, member, decoded⟩)) data stored
  · intro readable beacon member
    obtain ⟨child, present, decoded⟩ := BeaconService.mem_decode.mp member
    exact (image_isSome_iff decoded).mpr fun data stored =>
      readable child present (by simp [decoded]) data stored

/-- A record like any other, with the empty text under `imageData`. -/
def pictureless : Beacon := { Beacon.sample with imageData := [] }

/-- One record with an empty picture crashes the home screen. -/
theorem home_not_always_survives :
    ¬ ∀ (platform : Platform) (children : Store String Node) (home : HomeController),
      ∃ next, home.beaconsLoaded platform (BeaconService.decode platform children) = .ok next := by
  intro survives
  have readable := (beaconsLoaded_isOk_iff _ _).mp
    (survives .sample (setChild .empty "k" pictureless.dictValue) { identifier := 0 })
  have decoded : { pictureless with key := some "k" } ∈
      BeaconService.decode .sample (setChild .empty "k" pictureless.dictValue) :=
    BeaconService.mem_decode.mpr ⟨("k", nodeFrom pictureless.dictValue),
      Store.lookup_eq_some_iff.mp (by simp [lookup_setChild]), Beacon.ofSnapshot_dictValue _ _ _⟩
  exact absurd (readable _ decoded) (by decide)

end Lyv
