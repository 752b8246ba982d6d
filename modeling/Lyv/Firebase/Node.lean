import Mathlib.Data.Rat.Defs
import Lyv.Library.Store

/-!
# Database values and snapshots

`Json` is what the application hands to `setValue` and reads back from a
snapshot; `Node` is what the database keeps.  `nodeFrom` drops empty
containers and turns an array into numbered children, and `Node.val` guesses an
array back from children whose keys are all integers.
-/

namespace Lyv.Firebase

open Lyv.Library

inductive Json where
  | null
  | bool (value : Bool)
  | number (value : ℚ)
  | string (value : String)
  | array (items : List Json)
  | object (fields : List (String × Json))

inductive Leaf where
  | bool (value : Bool)
  | number (value : ℚ)
  | string (value : String)

/-- A stored node, without a priority; a node without children is the empty node, that is, absent. -/
inductive Node where
  | leaf (value : Leaf)
  | children (entries : List (String × Node))

def Node.empty : Node := .children []

def Node.isEmpty : Node → Bool
  | .leaf _ => false
  | .children entries => entries.isEmpty

/-! ## Keys -/

/-- Where each run of ten in `decimalDigitCharacterSet` begins: the decimal digits of all scripts. -/
def decimalZeros : List Nat :=
  [0x30, 0x660, 0x6F0, 0x7C0, 0x966, 0x9E6, 0xA66, 0xAE6, 0xB66, 0xBE6, 0xC66, 0xCE6, 0xD66, 0xDE6, 0xE50, 0xED0,
    0xF20, 0x1040, 0x1090, 0x17E0, 0x1810, 0x1946, 0x19D0, 0x1A80, 0x1A90, 0x1B50, 0x1BB0, 0x1C40, 0x1C50, 0xA620,
    0xA8D0, 0xA900, 0xA9D0, 0xA9F0, 0xAA50, 0xABF0, 0xFF10, 0x104A0, 0x11066, 0x110F0, 0x11136, 0x111D0, 0x112F0,
    0x11450, 0x114D0, 0x11650, 0x116C0, 0x11730, 0x118E0, 0x11C50, 0x11D50, 0x16A60, 0x16B50, 0x1D7CE, 0x1D7D8,
    0x1D7E2, 0x1D7EC, 0x1D7F6, 0x1E950]

def isDecimalDigit (character : Char) : Bool :=
  decimalZeros.any fun first => first ≤ character.toNat && character.toNat < first + 10

/-- The number that a string of decimal digits begins with. -/
def intForString (string : String) : Option Nat :=
  -- `scanInteger` goes on as long as the digits are those of ASCII
  let digits := string.toList.takeWhile Char.isDigit
  if !string.toList.all isDecimalDigit || digits.isEmpty then none else some (Nat.ofDigitChars 10 digits 0)

/-- What `valForExport` counts a key as; leading zeros make it a string. -/
def integerKey (key : String) : Option Nat :=
  match key.toList with
  | '0' :: _ :: _ => none
  | _ => intForString key

/-- The integers `compareKey` orders before all other keys, in the range of 32 bits. -/
def tryParseStringToInt (key : String) : Option Int :=
  let digits := match key.toList with
    | '-' :: digits => digits
    | digits => digits
  let magnitude : Int := Nat.ofDigitChars 10 digits 0
  let value := if key.toList.head? = some '-' then -magnitude else magnitude
  if 11 < key.length || digits.isEmpty || !digits.all Char.isDigit then none
  else if value < -2147483648 || 2147483647 < value then none
  else some value

def utf16 (character : Char) : List Nat :=
  if character.toNat < 0x10000 then [character.toNat]
  else [0xD800 + (character.toNat - 0x10000) / 0x400, 0xDC00 + (character.toNat - 0x10000) % 0x400]

/-- The order of sibling keys: integers by value and then length, other keys by their UTF-16 units. -/
def compareKey (first second : String) : Ordering :=
  match tryParseStringToInt first, tryParseStringToInt second with
  | some left, some right =>
    (compare left right).then (compare first.length second.length)
  | some _, none => .lt
  | none, some _ => .gt
  | none, none => compareOfLessAndEq (first.toList.flatMap utf16) (second.toList.flatMap utf16)

def keyBefore (first second : String) : Bool := compareKey first second == .lt

/-! ## Writing -/

mutual
/-- `FSnapshotUtilities.nodeFrom`: the node a value is stored as. -/
def nodeFrom : Json → Node
  | .null => .empty
  | .bool value => .leaf (.bool value)
  | .number value => .leaf (.number value)
  | .string value => .leaf (.string value)
  | .array items => .children (arrayChildren 0 items)
  | .object fields => .children (dictionaryChildren fields)

def arrayChildren (index : Nat) : List Json → List (String × Node)
  | [] => []
  | item :: items =>
    let node := nodeFrom item
    -- an absent item leaves a gap in the keys
    if node.isEmpty then arrayChildren (index + 1) items
    else (index.repr, node) :: arrayChildren (index + 1) items

def dictionaryChildren : List (String × Json) → List (String × Node)
  | [] => []
  | (key, value) :: fields =>
    let node := nodeFrom value
    if node.isEmpty then dictionaryChildren fields
    else (dictionaryChildren fields).orderedInsert (fun new old => keyBefore new.1 old.1) (key, node)
end

/-! ## Reading -/

def Leaf.val : Leaf → Json
  | .bool value => .bool value
  | .number value => .number value
  | .string value => .string value

def allIntegerKeys (fields : List (String × Json)) : Bool :=
  fields.all fun field => (integerKey field.1).isSome

def maxKey (fields : List (String × Json)) : Nat :=
  fields.foldl (fun largest field => max largest ((integerKey field.1).getD 0)) 0

/-- The last part of `FChildrenNode.valForExport:`, with `exp` false. -/
def exportChildren (fields : List (String × Json)) : Json :=
  if fields.isEmpty then .null
  -- children that are mostly an array are read as one, with `null` in the gaps
  else if allIntegerKeys fields && maxKey fields < 2 * fields.length then
    .array ((List.range (maxKey fields + 1)).map fun index => (fields.lookup index.repr).getD .null)
  else .object fields

mutual
def Node.val : Node → Json
  | .leaf value => value.val
  | .children entries => exportChildren (valEntries entries)

def valEntries : List (String × Node) → List (String × Json)
  | [] => []
  | (key, node) :: entries => (key, node.val) :: valEntries entries
end

/-- The value of the child at a key. -/
def Node.child : Node → String → Option Json
  | .leaf _, _ => none
  | .children entries, key => (entries.lookup key).map Node.val

structure DataSnapshot where
  key : String
  node : Node

def DataSnapshot.value (snapshot : DataSnapshot) : Json := snapshot.node.val

/-! ## Conditional casts of snapshot values -/

/-- `as? [String : Any]`. -/
def Json.asDictionary : Json → Option (List (String × Json))
  | .object fields => some fields
  | _ => none

/-- `as? String`. -/
def Json.asString : Json → Option String
  | .string value => some value
  | _ => none

/-- The number an `NSNumber` holds; a boolean is one too. -/
def Json.asNumber : Json → Option ℚ
  | .number value => some value
  | .bool value => some (if value then 1 else 0)
  | _ => none

/-- `as? [String]`. -/
def Json.asStrings : Json → Option (List String)
  | .array items => items.mapM Json.asString
  | _ => none

/-- The value as an `NSNumber` where it is one: a boolean is 0 or 1. -/
def Json.numeric : Json → Json
  | .bool value => .number (if value then 1 else 0)
  | value => value

@[simp] theorem numeric_string (text : String) : (Json.string text).numeric = .string text := rfl

theorem numeric_of_not_bool {json : Json} (number : ∀ value, json ≠ .bool value) :
    json.numeric = json := by
  cases json with
  | bool value => exact absurd rfl (number value)
  | _ => rfl

theorem asNumber_eq_some {json : Json} {value : ℚ} :
    json.asNumber = some value ↔ json.numeric = .number value := by
  cases json <;> simp [Json.asNumber, Json.numeric]

theorem asString_eq_some {json : Json} {text : String} :
    json.asString = some text ↔ json = .string text := by
  cases json <;> simp [Json.asString]

/-! ## What a stored dictionary reads back as -/

theorem lookup_valEntries (entries : List (String × Node)) (key : String) :
    (valEntries entries).lookup key = (entries.lookup key).map Node.val := by
  induction entries with
  | nil => rfl
  | cons entry entries inductionHypothesis =>
    obtain ⟨first, node⟩ := entry
    simp only [valEntries, List.lookup_cons]
    split <;> simp [inductionHypothesis]

/-- A node that reads as a dictionary has its children's values as fields. -/
theorem lookup_asDictionary {node : Node} {dict : List (String × Json)}
    (asDictionary : node.val.asDictionary = some dict) (key : String) :
    dict.lookup key = node.child key := by
  cases node with
  | leaf value => cases value <;> simp [Node.val, Leaf.val, Json.asDictionary] at asDictionary
  | children entries =>
    simp only [Node.val, exportChildren] at asDictionary
    split at asDictionary
    · simp [Json.asDictionary] at asDictionary
    · split at asDictionary
      · simp [Json.asDictionary] at asDictionary
      · obtain rfl := Option.some.inj asDictionary
        exact lookup_valEntries entries key

/-- One child whose key is no index makes a node read as a dictionary. -/
theorem asDictionary_of_child {node : Node} {key : String} {value : Json}
    (found : node.child key = some value) (notIndex : integerKey key = none) :
    ∃ dict, node.val.asDictionary = some dict := by
  cases node with
  | leaf _ => simp [Node.child] at found
  | children entries =>
    have member : (key, value) ∈ valEntries entries := by
      obtain ⟨before, after, split, _⟩ :=
        List.lookup_eq_some_iff.mp ((lookup_valEntries entries key).trans found)
      rw [split]
      simp
    have nonempty : (valEntries entries).isEmpty = false := by
      simpa using List.ne_nil_of_mem member
    have notAll : allIntegerKeys (valEntries entries) = false := by
      simp only [allIntegerKeys, List.all_eq_false]
      exact ⟨_, member, by simp [notIndex]⟩
    exact ⟨valEntries entries, by simp [Node.val, exportChildren, nonempty, notAll, Json.asDictionary]⟩

theorem mem_dictionaryChildren {fields : List (String × Json)} {key : String} {node : Node} :
    (key, node) ∈ dictionaryChildren fields ↔
      ∃ value, (key, value) ∈ fields ∧ nodeFrom value = node ∧ node.isEmpty = false := by
  induction fields with
  | nil => simp [dictionaryChildren]
  | cons field fields inductionHypothesis =>
    obtain ⟨first, value⟩ := field
    simp only [dictionaryChildren, List.mem_cons, Prod.mk.injEq]
    split
    next empty =>
      rw [inductionHypothesis]
      constructor
      · rintro ⟨stored, member, rest⟩
        exact ⟨stored, .inr member, rest⟩
      · rintro ⟨stored, ⟨rfl, rfl⟩ | member, rfl, present⟩
        · simp [empty] at present
        · exact ⟨stored, member, rfl, present⟩
    next present =>
      rw [List.mem_orderedInsert, inductionHypothesis]
      simp only [Prod.mk.injEq]
      constructor
      · rintro (⟨rfl, rfl⟩ | ⟨stored, member, rest⟩)
        · exact ⟨value, .inl ⟨rfl, rfl⟩, rfl, by simpa using present⟩
        · exact ⟨stored, .inr member, rest⟩
      · rintro ⟨stored, ⟨rfl, rfl⟩ | member, rfl, here⟩
        · exact .inl ⟨rfl, rfl⟩
        · exact .inr ⟨stored, member, rfl, here⟩

theorem nodup_dictionaryChildren {fields : List (String × Json)}
    (nodup : (fields.map Prod.fst).Nodup) : ((dictionaryChildren fields).map Prod.fst).Nodup := by
  induction fields with
  | nil => simp [dictionaryChildren]
  | cons field fields inductionHypothesis =>
    obtain ⟨first, value⟩ := field
    simp only [List.map_cons, List.nodup_cons] at nodup
    simp only [dictionaryChildren]
    split
    · exact inductionHypothesis nodup.2
    · rw [((List.perm_orderedInsert _ _ _).map Prod.fst).nodup_iff, List.map_cons, List.nodup_cons]
      refine ⟨fun member => nodup.1 ?_, inductionHypothesis nodup.2⟩
      obtain ⟨⟨key, node⟩, stored, rfl⟩ := List.mem_map.mp member
      obtain ⟨original, present, _⟩ := mem_dictionaryChildren.mp stored
      exact List.mem_map.mpr ⟨_, present, rfl⟩

/-- What a field of a dictionary reads back as: nothing when it was stored as an empty node. -/
def readBack (value : Json) : Option Json :=
  if (nodeFrom value).isEmpty then none else some (nodeFrom value).val

theorem lookup_dictionaryChildren_eq_some {fields : List (String × Json)}
    (nodup : (fields.map Prod.fst).Nodup) {key : String} {node : Node} :
    (dictionaryChildren fields).lookup key = some node ↔
      ∃ value, fields.lookup key = some value ∧ nodeFrom value = node ∧ node.isEmpty = false := by
  rw [lookup_eq_some_iff_mem (nodup_dictionaryChildren nodup), mem_dictionaryChildren]
  simp only [lookup_eq_some_iff_mem nodup]

/-- Each field of a stored dictionary reads back on its own. -/
theorem child_nodeFrom {fields : List (String × Json)}
    (nodup : (fields.map Prod.fst).Nodup) (key : String) :
    (nodeFrom (.object fields)).child key = (fields.lookup key).bind readBack := by
  simp only [nodeFrom, Node.child]
  ext stored
  simp only [Option.map_eq_some_iff, Option.bind_eq_some_iff, lookup_dictionaryChildren_eq_some nodup,
    readBack]
  constructor
  · rintro ⟨_, ⟨value, found, rfl, present⟩, rfl⟩
    exact ⟨value, found, by simp [present]⟩
  · rintro ⟨value, found, read⟩
    -- a value that is stored as an empty node is no child, and reads back as nothing
    split at read
    · contradiction
    next present =>
      obtain rfl := Option.some.inj read
      exact ⟨nodeFrom value, ⟨value, found, rfl, by simpa using present⟩, rfl⟩

theorem isEmpty_nodeFrom_object {fields : List (String × Json)} {name : String} {value : Json}
    (member : (name, value) ∈ fields) (present : (nodeFrom value).isEmpty = false) :
    (nodeFrom (.object fields)).isEmpty = false := by
  have stored : (name, nodeFrom value) ∈ dictionaryChildren fields :=
    mem_dictionaryChildren.mpr ⟨value, member, rfl, present⟩
  simpa [nodeFrom, Node.isEmpty] using List.ne_nil_of_mem stored

/-- A stored dictionary reads back as a dictionary when one of its fields has a
name that is no index; each field then reads back on its own. -/
theorem asDictionary_nodeFrom {fields : List (String × Json)}
    (nodup : (fields.map Prod.fst).Nodup) {name : String} {value : Json}
    (member : (name, value) ∈ fields) (present : (nodeFrom value).isEmpty = false)
    (notIndex : integerKey name = none) :
    ∃ stored, (nodeFrom (.object fields)).val.asDictionary = some stored ∧
      ∀ key, stored.lookup key = (fields.lookup key).bind readBack := by
  have read : (nodeFrom (.object fields)).child name = some (nodeFrom value).val := by
    have stored : readBack value = some (nodeFrom value).val := by simp [readBack, present]
    rw [child_nodeFrom nodup, (lookup_eq_some_iff_mem nodup).mpr member, Option.bind_some, stored]
  obtain ⟨stored, asDictionary⟩ := asDictionary_of_child read notIndex
  exact ⟨stored, asDictionary, fun key =>
    (lookup_asDictionary asDictionary key).trans (child_nodeFrom nodup key)⟩

end Lyv.Firebase
