import Mathlib.Data.Set.Insert
import Mathlib.Logic.Function.Basic
import Lyv.Library.Results
import Lyv.Library.Transition

/-!
# The board

What the app is for, apart from devices, sessions and callbacks: people with a
name and a picture keep posts on a shared board.  A post goes up, is revised or is
withdrawn only under a key that has been drawn or was there from the beginning.  A
person signs up with a card; only such a card is registered, and it is saved
together with the person's list.
-/

namespace Lyv

open Lyv.Library

structure Board (Key Post Person Card : Type) where
  posts : Key → Option Post
  people : Person → Option (Card × List Key)
  /-- The keys that were taken from the beginning or have been drawn. -/
  used : Set Key
  /-- The keys that people listed from the beginning. -/
  listed : Set Key
  /-- The cards that a person had from the beginning or has signed up with. -/
  cards : Person → Set Card

inductive Change (Key Post Person Card : Type) where
  | draw (key : Key)
  | post (key : Key) (post : Post)
  | revise (key : Key) (post : Post)
  | withdraw (key : Key)
  | signUp (person : Person) (card : Card)
  | register (person : Person) (card : Card)
  | save (person : Person) (card : Card) (keys : List Key)

namespace Change

variable {Key Post Person Card : Type}

/-- What becomes of the post under a key. -/
def postAt [DecidableEq Key] (key : Key) : Change Key Post Person Card → Option (Option Post)
  | .post changed new | .revise changed new => if changed = key then some (some new) else none
  | .withdraw changed => if changed = key then some none else none
  | _ => none

/-- What becomes of a person's entry. -/
def entryOf [DecidableEq Person] (person : Person) :
    Change Key Post Person Card → Option (Option (Card × List Key))
  | .register changed card => if changed = person then some (some (card, [])) else none
  | .save changed card keys => if changed = person then some (some (card, keys)) else none
  | _ => none

/-- The key that comes into use. -/
def newKey : Change Key Post Person Card → Option Key
  | .draw key => some key
  | _ => none

/-- The card that a person signs up with. -/
def newCard [DecidableEq Person] (person : Person) : Change Key Post Person Card → Option Card
  | .signUp changed card => if changed = person then some card else none
  | _ => none

end Change

namespace Board

variable {Key Post Person Card : Type} [DecidableEq Key] [DecidableEq Person]

/-- The changes that a board takes. -/
def Allows (board : Board Key Post Person Card) : Change Key Post Person Card → Prop
  | .draw _ | .signUp _ _ => True
  | .post key _ | .revise key _ | .withdraw key => key ∈ board.used
  | .register person card => card ∈ board.cards person
  | .save person card keys => card ∈ board.cards person ∧ ∀ key ∈ keys, key ∈ board.used ∨ key ∈ board.listed

def apply (board : Board Key Post Person Card) (change : Change Key Post Person Card) :
    Board Key Post Person Card where
  posts key := (change.postAt key).getD (board.posts key)
  people person := (change.entryOf person).getD (board.people person)
  used := {key | change.newKey = some key} ∪ board.used
  listed := board.listed
  cards person := {card | change.newCard person = some card} ∪ board.cards person

section

variable (board : Board Key Post Person Card) (change : Change Key Post Person Card)

@[simp] theorem posts_apply (key : Key) :
    (board.apply change).posts key = (change.postAt key).getD (board.posts key) := rfl

@[simp] theorem people_apply (person : Person) :
    (board.apply change).people person = (change.entryOf person).getD (board.people person) := rfl

@[simp] theorem listed_apply : (board.apply change).listed = board.listed := rfl

@[simp] theorem mem_used_apply (key : Key) :
    key ∈ (board.apply change).used ↔ change.newKey = some key ∨ key ∈ board.used := Iff.rfl

@[simp] theorem mem_cards_apply (person : Person) (card : Card) :
    card ∈ (board.apply change).cards person ↔
      change.newCard person = some card ∨ card ∈ board.cards person := Iff.rfl

end

open Classical in
/-- The board as a system of its own, from one beginning. -/
noncomputable def system (start : Board Key Post Person Card) :
    System (Board Key Post Person Card) (Change Key Post Person Card) where
  initial board := board = start
  step board change := if board.Allows change then some (board.apply change) else none

/-- Posts are under keys in use, and people have cards of theirs and list known keys. -/
structure Sound (board : Board Key Post Person Card) : Prop where
  posts : ∀ key, (board.posts key).isSome → key ∈ board.used
  people : ∀ person card keys, board.people person = some (card, keys) →
    card ∈ board.cards person ∧ ∀ key ∈ keys, key ∈ board.used ∨ key ∈ board.listed

theorem step_eq_some {start board next : Board Key Post Person Card} {change : Change Key Post Person Card} :
    (system start).step board change = some next ↔ board.Allows change ∧ next = board.apply change := by
  simp [system, eq_comm]

theorem Sound.apply {board : Board Key Post Person Card} {change : Change Key Post Person Card}
    (sound : board.Sound) (allowed : board.Allows change) : (board.apply change).Sound where
  posts key present := by
    rw [posts_apply] at present
    rw [mem_used_apply]
    cases change with
    | post changed new | revise changed new =>
      by_cases same : changed = key
      · exact .inr (same ▸ allowed)
      · exact .inr (sound.posts key (by simpa [Change.postAt, same] using present))
    | withdraw changed =>
      by_cases same : changed = key
      · simp [Change.postAt, same] at present
      · exact .inr (sound.posts key (by simpa [Change.postAt, same] using present))
    | draw _ | signUp _ _ | register _ _ | save _ _ _ => exact .inr (sound.posts key present)
  people person card keys found := by
    rw [people_apply] at found
    simp only [mem_cards_apply, mem_used_apply, listed_apply]
    have before : board.people person = some (card, keys) →
        (change.newCard person = some card ∨ card ∈ board.cards person) ∧
          ∀ key ∈ keys, (change.newKey = some key ∨ key ∈ board.used) ∨ key ∈ board.listed := by
      intro found
      obtain ⟨registered, known⟩ := sound.people person card keys found
      exact ⟨.inr registered, fun key member => (known key member).imp_left .inr⟩
    cases change with
    | draw _ | post _ _ | revise _ _ | withdraw _ | signUp _ _ => exact before found
    | register changed new =>
      by_cases same : changed = person
      · simp only [Change.entryOf, same, if_true, Option.getD_some, Option.some.injEq, Prod.mk.injEq] at found
        obtain ⟨rfl, rfl⟩ := found
        exact ⟨.inr (same ▸ allowed), by simp⟩
      · exact before (by simpa [Change.entryOf, same] using found)
    | save changed new list =>
      by_cases same : changed = person
      · simp only [Change.entryOf, same, if_true, Option.getD_some, Option.some.injEq, Prod.mk.injEq] at found
        obtain ⟨rfl, rfl⟩ := found
        exact ⟨.inr (same ▸ allowed.1), fun key member => (allowed.2 key member).imp_left .inr⟩
      · exact before (by simpa [Change.entryOf, same] using found)

section

variable {start board : Board Key Post Person Card}
  {trace : History (Board Key Post Person Card) (Change Key Post Person Card)}

theorem sound_of_execution (execution : Execution (system start) trace board) (sound : start.Sound) :
    board.Sound := by
  refine execution.always (fun _ board => board.Sound) ?_ fun _ _ _ _ sound taken => ?_
  · rintro board rfl
    exact sound
  · obtain ⟨allowed, rfl⟩ := step_eq_some.mp taken
    exact sound.apply allowed

/-- Every post is the one that was put up last, or is still as it was at first. -/
theorem posts_eq_latest (execution : Execution (system start) trace board) (key : Key) :
    board.posts key = latest (Change.postAt key) (start.posts key) (trace.map Prod.snd) := by
  refine execution.always (fun trace board =>
    board.posts key = latest (Change.postAt key) (start.posts key) (trace.map Prod.snd)) ?_ ?_
  · rintro board rfl
    rfl
  · intro trace board change next holds taken
    obtain ⟨_, rfl⟩ := step_eq_some.mp taken
    rw [List.map_cons, latest_cons, ← holds, posts_apply]

/-- Every entry is the one that was registered or saved last, or is still as it was at first. -/
theorem people_eq_latest (execution : Execution (system start) trace board) (person : Person) :
    board.people person = latest (Change.entryOf person) (start.people person) (trace.map Prod.snd) := by
  refine execution.always (fun trace board =>
    board.people person = latest (Change.entryOf person) (start.people person) (trace.map Prod.snd)) ?_ ?_
  · rintro board rfl
    rfl
  · intro trace board change next holds taken
    obtain ⟨_, rfl⟩ := step_eq_some.mp taken
    rw [List.map_cons, latest_cons, ← holds, people_apply]

/-- The keys in use are those from the beginning and those that were drawn. -/
theorem mem_used (execution : Execution (system start) trace board) {key : Key} :
    key ∈ board.used ↔ key ∈ start.used ∨ Change.draw key ∈ trace.map Prod.snd := by
  refine execution.always (fun trace board =>
    key ∈ board.used ↔ key ∈ start.used ∨ Change.draw key ∈ trace.map Prod.snd) ?_ ?_
  · rintro board rfl
    simp
  · intro trace board change next holds taken
    obtain ⟨_, rfl⟩ := step_eq_some.mp taken
    have new : change.newKey = some key ↔ Change.draw key = change := by
      cases change <;> simp [Change.newKey, eq_comm]
    simp only [mem_used_apply, holds, new, List.map_cons, List.mem_cons]
    exact or_left_comm

/-- A person's cards are those from the beginning and those of sign-ups. -/
theorem mem_cards (execution : Execution (system start) trace board) {person : Person} {card : Card} :
    card ∈ board.cards person ↔
      card ∈ start.cards person ∨ Change.signUp person card ∈ trace.map Prod.snd := by
  refine execution.always (fun trace board => card ∈ board.cards person ↔
    card ∈ start.cards person ∨ Change.signUp person card ∈ trace.map Prod.snd) ?_ ?_
  · rintro board rfl
    simp
  · intro trace board change next holds taken
    obtain ⟨_, rfl⟩ := step_eq_some.mp taken
    have new : change.newCard person = some card ↔ Change.signUp person card = change := by
      cases change <;> simp [Change.newCard, eq_comm]
    simp only [mem_cards_apply, holds, new, List.map_cons, List.mem_cons]
    exact or_left_comm

theorem listed_eq (execution : Execution (system start) trace board) : board.listed = start.listed := by
  refine execution.always (fun _ board => board.listed = start.listed) ?_ fun _ _ _ _ holds taken => ?_
  · rintro board rfl
    rfl
  · obtain ⟨_, rfl⟩ := step_eq_some.mp taken
    exact holds

end

end Board

end Lyv
