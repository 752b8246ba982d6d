import Mathlib.Data.List.Pairwise
import Mathlib.Data.List.Sort

/-!
# Ordered keyed stores

A store is a list of entries in which no key occurs twice; a new entry is placed
by a comparison of keys.  The lookup lemmas do not depend on that comparison, so
they hold for any order a database may keep its children in.
-/

namespace Lyv.Library

variable {Key Value : Type*} [DecidableEq Key]

theorem lookup_eq_some_iff_mem {entries : List (Key × Value)}
    (nodup : (entries.map Prod.fst).Nodup) {key : Key} {value : Value} :
    entries.lookup key = some value ↔ (key, value) ∈ entries := by
  induction entries with
  | nil => simp
  | cons entry entries inductionHypothesis =>
    obtain ⟨first, stored⟩ := entry
    simp only [List.map_cons, List.nodup_cons, List.mem_map, Prod.exists, exists_and_right,
      exists_eq_right, not_exists] at nodup
    by_cases same : key = first
    · subst same
      have absent : (key, value) ∉ entries := nodup.1 value
      simp [absent, eq_comm]
    · have different : (key == first) = false := by simpa using same
      simp [List.lookup_cons, different, same, inductionHypothesis nodup.2]

/-- An entry that can be compared with all others is put in its place. -/
theorem pairwise_orderedInsert {Entry : Type*} {relation : Entry → Entry → Prop} [DecidableRel relation]
    (trans : ∀ first second third, relation first second → relation second third → relation first third)
    {new : Entry} {entries : List Entry} (compared : ∀ entry ∈ entries, relation new entry ∨ relation entry new)
    (sorted : entries.Pairwise relation) : (entries.orderedInsert relation new).Pairwise relation := by
  induction entries with
  | nil => exact List.pairwise_singleton _ _
  | cons first entries inductionHypothesis =>
    obtain ⟨later, rest⟩ := List.pairwise_cons.mp sorted
    rw [List.orderedInsert]
    split
    next below =>
      refine List.pairwise_cons.mpr ⟨fun entry member => ?_, sorted⟩
      obtain rfl | member := List.mem_cons.mp member
      · exact below
      · exact trans _ _ _ below (later entry member)
    next notBelow =>
      have above := (compared first List.mem_cons_self).resolve_left notBelow
      refine List.pairwise_cons.mpr ⟨fun entry member => ?_,
        inductionHypothesis (fun entry member => compared entry (List.mem_cons_of_mem _ member)) rest⟩
      obtain rfl | member := (List.mem_orderedInsert _).mp member
      · exact above
      · exact later entry member

/-- Entries with pairwise distinct keys. -/
structure Store (Key Value : Type*) where
  entries : List (Key × Value)
  nodup : (entries.map Prod.fst).Nodup

namespace Store

def empty : Store Key Value := ⟨[], List.nodup_nil⟩

def lookup (store : Store Key Value) (key : Key) : Option Value := store.entries.lookup key

def erase (store : Store Key Value) (key : Key) : Store Key Value where
  entries := store.entries.filter fun entry => entry.1 ≠ key
  nodup := store.nodup.sublist (List.filter_sublist.map _)

/-- Puts the entry where the comparison places its key, in place of an older entry of the key. -/
def insert (before : Key → Key → Bool) (store : Store Key Value) (key : Key) (value : Value) :
    Store Key Value where
  entries := (store.erase key).entries.orderedInsert (fun new old => before new.1 old.1) (key, value)
  nodup := by
    rw [((List.perm_orderedInsert _ _ _).map Prod.fst).nodup_iff]
    simp only [List.map_cons, List.nodup_cons]
    exact ⟨by simp [erase], (store.erase key).nodup⟩

theorem lookup_eq_some_iff {store : Store Key Value} {key : Key} {value : Value} :
    store.lookup key = some value ↔ (key, value) ∈ store.entries :=
  lookup_eq_some_iff_mem store.nodup

theorem mem_erase {store : Store Key Value} {erased key : Key} {value : Value} :
    (key, value) ∈ (store.erase erased).entries ↔ (key, value) ∈ store.entries ∧ key ≠ erased := by
  simp [erase]

theorem mem_insert {before : Key → Key → Bool} {store : Store Key Value} {inserted key : Key}
    {new value : Value} :
    (key, value) ∈ (store.insert before inserted new).entries ↔
      (key = inserted ∧ value = new) ∨ ((key, value) ∈ store.entries ∧ key ≠ inserted) := by
  simp only [insert, List.mem_orderedInsert, Prod.mk.injEq, mem_erase]

@[simp] theorem lookup_erase_self (store : Store Key Value) (key : Key) :
    (store.erase key).lookup key = none := by
  rw [Option.eq_none_iff_forall_ne_some]
  intro value found
  exact (mem_erase.mp (lookup_eq_some_iff.mp found)).2 rfl

theorem lookup_erase_of_ne (store : Store Key Value) {erased key : Key} (different : key ≠ erased) :
    (store.erase erased).lookup key = store.lookup key := by
  ext value
  rw [lookup_eq_some_iff, lookup_eq_some_iff, mem_erase]
  simp [different]

@[simp] theorem lookup_insert_self (before : Key → Key → Bool) (store : Store Key Value) (key : Key)
    (value : Value) : (store.insert before key value).lookup key = some value := by
  rw [lookup_eq_some_iff, mem_insert]
  exact .inl ⟨rfl, rfl⟩

theorem lookup_insert_of_ne (before : Key → Key → Bool) (store : Store Key Value)
    {inserted key : Key} (new : Value) (different : key ≠ inserted) :
    (store.insert before inserted new).lookup key = store.lookup key := by
  ext value
  rw [lookup_eq_some_iff, lookup_eq_some_iff, mem_insert]
  simp [different]

/-! ## Order -/

/-- The entries stand in the order of their keys. -/
def Sorted (before : Key → Key → Bool) (store : Store Key Value) : Prop :=
  store.entries.Pairwise fun earlier later => before earlier.1 later.1

variable {before : Key → Key → Bool} {store : Store Key Value}

theorem Sorted.erase (sorted : store.Sorted before) (key : Key) : (store.erase key).Sorted before :=
  List.Pairwise.sublist List.filter_sublist sorted

/-- An entry whose key can be compared with all others is put in its place. -/
theorem Sorted.insert (sorted : store.Sorted before) (trans : ∀ {first second third}, before first second →
    before second third → before first third) {key : Key} (value : Value)
    (comparable : ∀ other, (store.lookup other).isSome → other ≠ key → before key other ∨ before other key) :
    (store.insert before key value).Sorted before := by
  have compared : ∀ entry ∈ (store.erase key).entries, before key entry.1 ∨ before entry.1 key := by
    intro entry member
    obtain ⟨member, different⟩ := mem_erase.mp member
    exact comparable entry.1 (Option.isSome_iff_exists.mpr ⟨_, lookup_eq_some_iff.mpr member⟩) different
  have transitive : ∀ first second third : Key × Value, before first.1 second.1 → before second.1 third.1 →
      before first.1 third.1 := fun _ _ _ => trans
  exact pairwise_orderedInsert transitive compared (sorted.erase key)

/-- The keys of a sorted store can be compared with each other. -/
theorem Sorted.comparable (sorted : store.Sorted before) {key other : Key} (found : (store.lookup key).isSome)
    (found' : (store.lookup other).isSome) (different : key ≠ other) : before key other ∨ before other key := by
  obtain ⟨value, found⟩ := Option.isSome_iff_exists.mp found
  obtain ⟨value', found'⟩ := Option.isSome_iff_exists.mp found'
  have symmetric : Std.Symm fun entry other : Key × Value => before entry.1 other.1 ∨ before other.1 entry.1 :=
    ⟨fun _ _ => Or.symm⟩
  have compared : store.entries.Pairwise fun entry other => before entry.1 other.1 ∨ before other.1 entry.1 :=
    List.Pairwise.imp Or.inl sorted
  exact compared.forall (lookup_eq_some_iff.mp found) (lookup_eq_some_iff.mp found')
    fun same => different (congrArg Prod.fst same)

/-- Sorted stores are known by what is found in them. -/
theorem Sorted.entries_eq {other : Store Key Value} (sorted : store.Sorted before) (sorted' : other.Sorted before)
    (asymm : ∀ {first second}, before first second → ¬ before second first)
    (same : ∀ key, store.lookup key = other.lookup key) : store.entries = other.entries := by
  refine List.Perm.eq_of_pairwise (fun _ _ _ _ below above => absurd above (asymm below)) sorted sorted' ?_
  rw [List.perm_ext_iff_of_nodup store.nodup.of_map other.nodup.of_map]
  rintro ⟨key, value⟩
  rw [← lookup_eq_some_iff, ← lookup_eq_some_iff, same]

end Store

end Lyv.Library
