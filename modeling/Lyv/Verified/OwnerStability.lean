import Lyv.Verified.AccountProfiles
import Lyv.Verified.KeyProvenance
import Lyv.Verified.SessionCopies
import Lyv.Verified.StoredRecords

/-!
# Beacons keep their owners

A saved form writes the current user into the record, whoever owned it before.
While every event keeps to one account, the form is open for a beacon of that
account, so the owner stays; and a `create` finds no owner at the key that it
draws.
-/

namespace Lyv

open Lyv.Library Lyv.Firebase

variable {devices : Nat} {platform : Platform} {starts : World devices → Prop} {stored : Store String Node}
  {history : History (World devices) (Action devices)} {world next : World devices} {action : Action devices}
  {key uid : String}

/-- The user had a beacon at the key at the start, or one was written there for it. -/
def Owns (platform : Platform) (stored : Store String Node) (history : History (World devices) (Action devices))
    (key uid : String) : Prop :=
  OwnedIn platform stored key uid ∨
    ∃ beacon write, AuthoredIn platform history key beacon write ∧ beacon.uid = uid

theorem Owns.mono (owns : Owns platform stored history key uid) (entry : World devices × Action devices) :
    Owns platform stored (entry :: history) key uid :=
  owns.imp_right fun ⟨beacon, write, authored, same⟩ => ⟨beacon, write, authored.mono entry, same⟩

/-- Whoever has a beacon at the key owns it. -/
theorem Attributed.owns {node : Node} {beacon : Beacon} (attributed : Attributed platform stored history key node)
    (decoded : Beacon.ofSnapshot platform ⟨key, node⟩ = some beacon) :
    Owns platform stored history key beacon.uid := by
  obtain found | ⟨author, write, authored, rfl⟩ := attributed
  · exact .inl ⟨node, beacon, found, decoded, rfl⟩
  · rw [Beacon.ofSnapshot_dictValue] at decoded
    obtain rfl := Option.some.inj decoded
    exact .inr ⟨author, write, authored, rfl⟩

/-- Each key has one owner, in all that was stored and in all that was written. -/
structure World.Owned (platform : Platform) (stored : Store String Node)
    (history : History (World devices) (Action devices)) (world : World devices) : Prop where
  traced : world.Traced platform history
  accounted : world.Accounted platform stored history
  own : ∀ device, (world.client device).Own
  known : ∀ key uid, Owns platform stored history key uid → (stored.lookup key).isSome ∨
    ∃ draws ∈ drawn history, key = Helper.randomAlphaNumericString draws
  unique : ∀ key one other, Owns platform stored history key one → Owns platform stored history key other →
    one = other

theorem World.Owned.of_idle (idle : Idle world) : world.Owned platform world.server.beacons [] where
  traced := .of_idle idle []
  accounted := .of_idle idle
  own device := .of_idle (idle device)
  known key uid owns := by
    obtain ⟨node, _, found, _⟩ | ⟨_, _, ⟨_, _, _, member, _⟩, _⟩ := owns
    · exact .inl (by rw [found]; rfl)
    · contradiction
  unique key one other first second := by
    obtain first | ⟨_, _, ⟨_, _, _, member, _⟩, _⟩ := first
    · obtain second | ⟨_, _, ⟨_, _, _, member, _⟩, _⟩ := second
      · exact first.unique second
      · contradiction
    · contradiction

/-- Whoever was seen to have a beacon at a key owns it. -/
theorem World.Owned.seen (owned : world.Owned platform stored history) {server : Server}
    (member : server ∈ seen history world) {beacon : Beacon} (found : server.beacon platform key = some beacon) :
    Owns platform stored history key beacon.uid := by
  obtain ⟨node, lookup, decoded⟩ := Option.bind_eq_some_iff.mp found
  exact (owned.accounted.records server member key node lookup).owns decoded

/-- The beacon of a form was seen at its key, and is the current user's. -/
theorem World.Owned.owns_form (owned : world.Owned platform stored history) {device : Fin devices}
    {scene : MainScene} {profile : ProfileController} {form : UpdateController} {beacon : Beacon}
    (root : (world.client device).root = .main scene) (screen : scene.screen = .update profile form)
    (selected : form.beacon = some beacon) (keyed : beacon.key = some key) :
    ∃ uid, (world.client device).sessionUid = some uid ∧ Owns platform stored history key uid := by
  have member : beacon ∈ scene.screen.held := by
    rw [screen, Screen.held, selected]
    simp
  have held : beacon ∈ (world.client device).held := by
    rw [Client.held_of_root root]
    exact List.mem_append_right _ member
  obtain ⟨_, keyed', server, viewed, found⟩ := (owned.traced device).held beacon held
  obtain rfl := Option.some.inj (keyed'.symm.trans keyed)
  exact ⟨beacon.uid, (owned.own device).held scene root beacon member,
    owned.seen (viewed_subset_seen viewed) found⟩

/-- A saved form writes for the owner of the key. -/
theorem World.Owned.owns_authors (owned : world.Owned platform stored history) {device : Fin devices}
    {event : Event} {beacon : Beacon} {write : BeaconWrite}
    (authors : (world.client device).Authors platform event key beacon write) :
    (∃ draws, event = .screen (.create beacon draws) ∧ key = Helper.randomAlphaNumericString draws) ∨
      Owns platform stored history key beacon.uid := by
  cases authors with
  | create beacon _ => exact .inl ⟨_, rfl, rfl⟩
  | @updateBeacon scene profile form reference user _ now root screen current _ keyed =>
    obtain ⟨held, selected, keyed⟩ := Option.bind_eq_some_iff.mp keyed
    obtain ⟨uid, session, owns⟩ := owned.owns_form root screen selected keyed
    obtain rfl : user.uid = uid := Option.some.inj ((Client.sessionUid_of_userCurrent current).symm.trans session)
    exact .inr owns

/-- What a step adds to the owners: those that a `create` draws a key for. -/
theorem World.Owned.owns_cons (owned : world.Owned platform stored history)
    (owns : Owns platform stored ((world, action) :: history) key uid) :
    Owns platform stored history key uid ∨ ∃ device beacon draws,
      action = .event device (.screen (.create beacon draws)) ∧
        key = Helper.randomAlphaNumericString draws ∧ beacon.uid = uid := by
  obtain stored | ⟨beacon, write, ⟨before, device, event, member, authors⟩, rfl⟩ := owns
  · exact .inl (.inl stored)
  · obtain here | earlier := List.mem_cons.mp member
    · cases here
      obtain ⟨draws, rfl, rfl⟩ | owns := owned.owns_authors authors
      · exact .inr ⟨device, beacon, draws, rfl, rfl, rfl⟩
      · exact .inl owns
    · exact .inl (.inr ⟨beacon, write, ⟨before, device, event, earlier, authors⟩, rfl⟩)

/-- Nobody owns a key that has just been drawn. -/
theorem World.Owned.unowned (owned : world.Owned platform stored history) {device : Fin devices}
    {beacon : Beacon} {draws : List (Fin 62)}
    (fresh : FreshDraws stored ((world, .event device (.screen (.create beacon draws))) :: history)) :
    ¬ Owns platform stored history (Helper.randomAlphaNumericString draws) uid := by
  intro owns
  obtain ⟨distinct, unstored⟩ := fresh
  rw [drawn_cons] at distinct unstored
  obtain present | ⟨former, member, same⟩ := owned.known _ uid owns
  · exact unstored draws List.mem_cons_self draws present rfl
  · obtain rfl := Helper.randomAlphaNumericString_injective same
    exact (List.nodup_cons.mp distinct).1 member

theorem World.Owned.step (owned : world.Owned platform stored history)
    (fresh : FreshDraws stored ((world, action) :: history)) (keeps : KeepsAccount history world action)
    (taken : (app platform starts).step world action = some next) :
    next.Owned platform stored ((world, action) :: history) := by
  refine ⟨owned.traced.step taken, owned.accounted.step taken, own_step owned.own keeps taken, ?_, ?_⟩
  · intro key uid owns
    rw [drawn_cons]
    obtain before | ⟨device, beacon, draws, rfl, rfl, rfl⟩ := owned.owns_cons owns
    · exact (owned.known key uid before).imp_right fun ⟨draws, member, same⟩ =>
        ⟨draws, List.mem_append_right _ member, same⟩
    · exact .inr ⟨draws, List.mem_cons_self, rfl⟩
  · intro key one other first second
    obtain before | ⟨_, beacon, draws, rfl, rfl, rfl⟩ := owned.owns_cons first
    · obtain before' | ⟨_, beacon, draws, rfl, rfl, rfl⟩ := owned.owns_cons second
      · exact owned.unique key one other before before'
      · exact absurd before (owned.unowned fresh)
    · obtain before | ⟨_, beacon', draws', same, _, rfl⟩ := owned.owns_cons second
      · exact absurd before (owned.unowned fresh)
      · cases same
        rfl

theorem World.Owned.of_execution (execution : Execution (app platform (StartsWith stored)) history world)
    (fresh : FreshDraws stored history) (keeps : EveryStep KeepsAccount history) :
    world.Owned platform stored history := by
  refine execution.invariant (fun history world => world.Owned platform stored history) ?starts ?preserved
    (fresh.everyStep.and keeps)
  case starts =>
    rintro world ⟨idle, rfl⟩
    exact .of_idle idle
  case preserved =>
    rintro history world action next owned ⟨fresh, keeps⟩ taken
    exact owned.step fresh keeps taken

/-- In every run whose events keep to one account on each device and whose draws
are new, a key has one owner: all beacons that are ever stored or seen there, before
or after a removal, and all that are written for it, are the same user's. -/
theorem owners_never_change (execution : Execution (app platform (StartsWith stored)) history world)
    (fresh : FreshDraws stored history) (keeps : EveryStep KeepsAccount history) (key : String) :
    ∃ owner, (∀ server ∈ seen history world, ∀ beacon, server.beacon platform key = some beacon →
        beacon.uid = owner) ∧
      ∀ beacon write, AuthoredIn platform history key beacon write → beacon.uid = owner := by
  have owned := World.Owned.of_execution execution fresh keeps
  by_cases anyone : ∃ uid, Owns platform stored history key uid
  · obtain ⟨owner, owns⟩ := anyone
    refine ⟨owner, fun server member beacon found => ?_, fun beacon write authored => ?_⟩
    · exact owned.unique key _ _ (owned.seen member found) owns
    · exact owned.unique key _ _ (.inr ⟨beacon, write, authored, rfl⟩) owns
  · refine ⟨"", fun server member beacon found => ?_, fun beacon write authored => ?_⟩
    · exact absurd ⟨_, owned.seen member found⟩ anyone
    · exact absurd ⟨_, .inr ⟨beacon, write, authored, rfl⟩⟩ anyone

/-! ## Ann's save -/

theorem annSaves_besideCampfire :
    (besideCampfire.replay [] (World.installed .withBeacon) annSaves).isSome := by
  decide +kernel

def annSaved : History (World 1) (Action 1) × World 1 :=
  besideCampfire.reached (World.installed .withBeacon) annSaves annSaves_besideCampfire

theorem freshDraws_annSaved : FreshDraws Server.withBeacon.beacons annSaved.1 := by
  have none : drawn annSaved.1 = [] := by
    decide +kernel
  constructor <;> simp [none]

/-- The record that Ann has saved is stored, and it is hers as it was before. -/
theorem annSaved_owner : ∃ owner, (annSaved.2.server.beacon .sample "campfire").map Beacon.uid = some owner ∧
    ∀ server ∈ seen annSaved.1 annSaved.2, ∀ beacon, server.beacon .sample "campfire" = some beacon →
      beacon.uid = owner := by
  have present : (annSaved.2.server.beacon .sample "campfire").isSome := by
    decide +kernel
  obtain ⟨beacon, found⟩ := Option.isSome_iff_exists.mp present
  obtain ⟨owner, every, _⟩ := owners_never_change
    (besideCampfire.execution_reached ⟨idle_installed .withBeacon, rfl⟩ annSaves annSaves_besideCampfire)
    freshDraws_annSaved (by decide +kernel) "campfire"
  refine ⟨owner, ?_, every⟩
  rw [found, Option.map_some, every annSaved.2.server (mem_seen List.mem_cons_self) beacon found]

end Lyv
