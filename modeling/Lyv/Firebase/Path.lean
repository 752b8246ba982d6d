import Mathlib.Data.List.Basic
import Lyv.Firebase.Node

/-!
# Paths and keys

A reference is the list of keys on the way from the root.  `child` takes a whole
path and checks it for a few characters only, so that a text with a slash leads
further down; a key has no slash and is one step.
-/

namespace Lyv.Firebase

def kInvalidPathCharacters : List Char := ['[', ']', '.', '#', '$']

def kInvalidKeyCharacters : List Char := ['[', ']', '.', '#', '$', '/']

def isValidPathString (pathString : String) : Bool :=
  !pathString.toList.isEmpty && pathString.toList.all fun character => !kInvalidPathCharacters.contains character

def isValidKey (key : String) : Bool :=
  !key.toList.isEmpty && key.toList.all fun character => !kInvalidKeyCharacters.contains character

/-- `FPath pathWithString:`: the pieces between slashes that are not empty. -/
def pathWithString (string : String) : List String :=
  ((string.toList.splitOn '/').filter fun piece => !piece.isEmpty).map String.ofList

structure DatabaseReference where
  path : List String
  deriving DecidableEq

def DatabaseReference.root : DatabaseReference := ⟨[]⟩

/-- `child:`; nothing stands for the exception that it raises. -/
def DatabaseReference.child (reference : DatabaseReference) (pathString : String) : Option DatabaseReference :=
  if isValidPathString pathString then some ⟨reference.path ++ pathWithString pathString⟩ else none

mutual
/-- What `nodeFrom` checks of the keys of a value before it is stored. -/
def Json.validKeys : Json → Bool
  | .array items => validItems items
  | .object fields => validFields fields
  | _ => true

def validItems : List Json → Bool
  | [] => true
  | item :: items => item.validKeys && validItems items

def validFields : List (String × Json) → Bool
  | [] => true
  | (key, value) :: fields => isValidKey key && value.validKeys && validFields fields
end

theorem isValidKey_iff {key : String} :
    isValidKey key ↔ key.toList ≠ [] ∧ ∀ character ∈ key.toList, character ∉ kInvalidKeyCharacters := by
  simp [isValidKey]

theorem isValidPathString_of_isValidKey {key : String} (valid : isValidKey key) : isValidPathString key := by
  obtain ⟨nonempty, every⟩ := isValidKey_iff.mp valid
  simp only [isValidPathString, Bool.and_eq_true, Bool.not_eq_true', List.isEmpty_eq_false_iff,
    List.all_eq_true, List.contains_eq_mem, decide_eq_false_iff_not]
  refine ⟨nonempty, fun character member invalid => every character member ?_⟩
  have fewer : kInvalidPathCharacters ⊆ kInvalidKeyCharacters := by decide
  exact fewer invalid

theorem pathWithString_of_isValidKey {key : String} (valid : isValidKey key) : pathWithString key = [key] := by
  obtain ⟨nonempty, every⟩ := isValidKey_iff.mp valid
  have undivided : '/' ∉ key.toList := fun member => every '/' member (by decide)
  rw [pathWithString, List.splitOn_eq_singleton undivided]
  simp [nonempty]

/-- A valid key leads to the child of that key. -/
theorem DatabaseReference.child_of_isValidKey (reference : DatabaseReference) {key : String}
    (valid : isValidKey key) : reference.child key = some ⟨reference.path ++ [key]⟩ := by
  rw [child, if_pos (isValidPathString_of_isValidKey valid), pathWithString_of_isValidKey valid]

-- a slash in an identifier leads to a child of a child
example : (DatabaseReference.mk ["users"]).child "ann/bob" = some ⟨["users", "ann", "bob"]⟩ := by decide +kernel

theorem validItems_map_string (texts : List String) : validItems (texts.map Json.string) := by
  induction texts with
  | nil => rfl
  | cons text texts inductionHypothesis => simpa [validItems, Json.validKeys] using inductionHypothesis

end Lyv.Firebase
