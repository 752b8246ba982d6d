import Mathlib.Order.Lattice
import Mathlib.Tactic.FieldSimp
import Mathlib.Tactic.Linarith
import Lyv.Models.Beacon

/-!
# Marker scaling

`setSizeFrom` clamps on the height alone, but both of its components are the same
multiple of the largest marker, so the clamp acts on that multiple.  Such a size
has the ratio of the view, which is why the aspect fit of `resizeImage` returns
it unchanged.
-/

namespace Lyv

namespace CGSize

/-- Sizes are compared component-wise. -/
instance componentwise : Preorder CGSize := .lift fun size => (size.width, size.height)

def Positive (size : CGSize) : Prop := 0 < size.width ∧ 0 < size.height

def SameRatio (first second : CGSize) : Prop :=
  first.width * second.height = second.width * first.height

def scale (factor : ℚ) (size : CGSize) : CGSize := ⟨size.width * factor, size.height * factor⟩

theorem le_iff {first second : CGSize} :
    first ≤ second ↔ first.width ≤ second.width ∧ first.height ≤ second.height := .rfl

theorem sameRatio_scale (factor : ℚ) (size : CGSize) : SameRatio (size.scale factor) size := by
  simp only [SameRatio, scale]
  ring

theorem scale_le_scale {size : CGSize} (positive : size.Positive) {first second : ℚ}
    (smaller : first ≤ second) : size.scale first ≤ size.scale second := by
  obtain ⟨width, height⟩ := positive
  exact le_iff.mpr ⟨mul_le_mul_of_nonneg_left smaller width.le,
    mul_le_mul_of_nonneg_left smaller height.le⟩

end CGSize

/-! ## The aspect fit -/

section

variable {size targetSize : CGSize}

theorem resizedSize_eq_scale (size targetSize : CGSize) :
    resizedSize size targetSize =
      size.scale (min (targetSize.width / size.width) (targetSize.height / size.height)) := by
  simp only [resizedSize, CGSize.scale]
  split
  next wide => rw [min_eq_right wide.le]
  next tall => rw [min_eq_left (not_lt.mp tall)]

/-- The smaller of the two ratios is the one that fits. -/
theorem resizedSize_le (positive : size.Positive) : resizedSize size targetSize ≤ targetSize := by
  obtain ⟨width, height⟩ := positive
  rw [resizedSize_eq_scale, CGSize.le_iff]
  constructor
  · calc size.width * min (targetSize.width / size.width) (targetSize.height / size.height)
        ≤ size.width * (targetSize.width / size.width) := by gcongr; exact min_le_left _ _
      _ = targetSize.width := by field_simp
  · calc size.height * min (targetSize.width / size.width) (targetSize.height / size.height)
        ≤ size.height * (targetSize.height / size.height) := by gcongr; exact min_le_right _ _
      _ = targetSize.height := by field_simp

/-- In the dimension whose ratio it is, it fits exactly. -/
theorem resizedSize_exact (positive : size.Positive) :
    (resizedSize size targetSize).width = targetSize.width ∨
      (resizedSize size targetSize).height = targetSize.height := by
  obtain ⟨width, height⟩ := positive
  rw [resizedSize_eq_scale]
  obtain smaller | smaller := min_choice (targetSize.width / size.width) (targetSize.height / size.height)
  · left
    rw [smaller, CGSize.scale]
    field_simp
  · right
    rw [smaller, CGSize.scale]
    field_simp

/-- A target of the same shape is met in both dimensions. -/
theorem resizedSize_scale (positive : size.Positive) (factor : ℚ) :
    resizedSize size (size.scale factor) = size.scale factor := by
  obtain ⟨width, height⟩ := positive
  have first : (size.scale factor).width / size.width = factor := by
    rw [CGSize.scale]
    field_simp
  have second : (size.scale factor).height / size.height = factor := by
    rw [CGSize.scale]
    field_simp
  rw [resizedSize_eq_scale, first, second, min_self]

end

/-! ## The size of a marker -/

namespace Marker

def maxSize : CGSize := ⟨125, 300⟩

def minSize : CGSize := ⟨31.25, 75⟩

theorem positive_maxSize : maxSize.Positive := by
  constructor <;> norm_num [maxSize]

/-- The part of the largest marker that is drawn from a distance. -/
def factor (distance : ℚ) : ℚ := max (1 / 4) (min 1 (1 - 3 / 4 * distance))

theorem scale_quarter : maxSize.scale (1 / 4) = minSize := by
  norm_num [maxSize, minSize, CGSize.scale]

theorem scale_one : maxSize.scale 1 = maxSize := by
  norm_num [maxSize, CGSize.scale]

/-- The clamp on the height clamps the multiple. -/
theorem setSizeFrom_eq_scale (distance : ℚ) : setSizeFrom distance = maxSize.scale (factor distance) := by
  simp only [setSizeFrom, factor]
  split
  next near =>
    -- nearer than no distance at all
    have one : (1 : ℚ) ≤ 1 - 3 / 4 * distance := by linarith
    rw [min_eq_left one, max_eq_right (by norm_num), scale_one, maxSize]
  next =>
    split
    next far =>
      have quarter : 1 - 3 / 4 * distance ≤ 1 / 4 := by linarith
      rw [min_eq_right (quarter.trans (by norm_num)), max_eq_left quarter, scale_quarter, minSize]
    next notNear notFar =>
      have one : 1 - 3 / 4 * distance ≤ 1 := by linarith
      have quarter : 1 / 4 ≤ 1 - 3 / 4 * distance := by linarith
      rw [min_eq_right one, max_eq_right quarter]
      simp only [maxSize, CGSize.scale, CGSize.mk.injEq]
      constructor <;> ring

theorem antitone_factor : Antitone factor := by
  intro near far farther
  have smaller : 1 - 3 / 4 * far ≤ 1 - 3 / 4 * near := by linarith
  exact max_le_max le_rfl (min_le_min le_rfl smaller)

theorem antitone_setSizeFrom : Antitone setSizeFrom := by
  intro near far farther
  rw [setSizeFrom_eq_scale, setSizeFrom_eq_scale]
  exact CGSize.scale_le_scale positive_maxSize (antitone_factor farther)

theorem minSize_le (distance : ℚ) : minSize ≤ setSizeFrom distance := by
  rw [setSizeFrom_eq_scale, ← scale_quarter]
  exact CGSize.scale_le_scale positive_maxSize (le_max_left _ _)

theorem le_maxSize (distance : ℚ) : setSizeFrom distance ≤ maxSize := by
  have small : factor distance ≤ 1 := max_le (by norm_num) (min_le_left _ _)
  calc setSizeFrom distance = maxSize.scale (factor distance) := setSizeFrom_eq_scale distance
    _ ≤ maxSize.scale 1 := CGSize.scale_le_scale positive_maxSize small
    _ = maxSize := scale_one

theorem sameRatio_setSizeFrom (distance : ℚ) : (setSizeFrom distance).SameRatio maxSize := by
  rw [setSizeFrom_eq_scale]
  exact CGSize.sameRatio_scale _ _

theorem resizedSize_setSizeFrom (distance : ℚ) :
    resizedSize maxSize (setSizeFrom distance) = setSizeFrom distance := by
  rw [setSizeFrom_eq_scale]
  exact resizedSize_scale positive_maxSize _

end Marker

/-- Markers shrink with the distance between two bounds, keep their shape, and
are drawn at exactly the size that their distance asks for. -/
theorem marker_scaling :
    (∀ distance : ℚ, 0 ≤ distance →
      (⟨31.25, 75⟩ : CGSize) ≤ setSizeFrom distance ∧ setSizeFrom distance ≤ ⟨125, 300⟩ ∧
        (setSizeFrom distance).SameRatio ⟨125, 300⟩ ∧
        ∀ farther, distance ≤ farther → setSizeFrom farther ≤ setSizeFrom distance) ∧
    (∀ size targetSize : CGSize, size.Positive → targetSize.Positive →
      (resizedSize size targetSize).SameRatio size ∧ resizedSize size targetSize ≤ targetSize ∧
        ((resizedSize size targetSize).width = targetSize.width ∨
          (resizedSize size targetSize).height = targetSize.height)) ∧
    (∀ (platform : Platform) (beacon : Beacon) (withLine : Bool) (location : Coordinate)
      (node : LocationAnnotationNode), beacon.creatAnnotationNode platform withLine location = .ok node →
      node.view.frame = ⟨125, 300⟩ ∧
        node.imageSize = setSizeFrom (platform.distance location beacon.coordinate / 1609.344)) := by
  refine ⟨fun distance _ => ?_, fun size targetSize positive _ => ?_,
    fun platform beacon withLine location node made => ?_⟩
  · exact ⟨Marker.minSize_le distance, Marker.le_maxSize distance, Marker.sameRatio_setSizeFrom distance,
      fun farther apart => Marker.antitone_setSizeFrom apart⟩
  · refine ⟨?_, resizedSize_le positive, resizedSize_exact positive⟩
    rw [resizedSize_eq_scale]
    exact CGSize.sameRatio_scale _ _
  · obtain ⟨image, _, rfl⟩ := Beacon.creatAnnotationNode_eq_ok.mp made
    exact ⟨rfl, Marker.resizedSize_setSizeFrom _⟩

/-- Half a mile away, in a square, and for the sample beacon where it stands. -/
theorem marker_scaling_sample :
    (⟨31.25, 75⟩ : CGSize) ≤ setSizeFrom (1 / 2) ∧
      (resizedSize ⟨200, 100⟩ ⟨50, 50⟩).SameRatio ⟨200, 100⟩ ∧
      ∀ node, Beacon.sample.creatAnnotationNode .sample false .zero = .ok node →
        node.imageSize = setSizeFrom 0 := by
  refine ⟨(marker_scaling.1 (1 / 2) (by norm_num)).1,
    (marker_scaling.2.1 _ _ (by constructor <;> norm_num) (by constructor <;> norm_num)).1,
    fun node made => ?_⟩
  have near : Platform.sample.distance .zero Beacon.sample.coordinate / 1609.344 = 0 := by decide +kernel
  rw [(marker_scaling.2.2 _ _ _ _ _ made).2, near]

end Lyv
