import Mathlib.Data.List.GetD
import Mathlib.Data.Set.List
import Lyv.Library.Counting
import Lyv.App.Authors

/-!
# Created beacons

`create` writes at the key it draws without looking what is there.  Each draw
sequence gives its own key, so as long as no sequence is drawn twice, or stands
behind a stored key, the creates write at new keys; an update writes only at a
key that was stored at the start or that a `create` has drawn.
-/

namespace Lyv

open Lyv.Library Lyv.Firebase

/-! ## Keys and draws -/

namespace Helper

/-- The character for a draw. -/
def allowedChar (draw : Fin 62) : Char := allowedChars.getD draw 'a'

theorem length_allowedChars : allowedChars.length = 62 := by
  decide +kernel

theorem nodup_allowedChars : allowedChars.Nodup := by
  decide +kernel

theorem allowedChar_eq (draw : Fin 62) :
    ∃ bound : draw.val < allowedChars.length, allowedChar draw = allowedChars[draw.val] := by
  have bound : draw.val < allowedChars.length := by
    rw [length_allowedChars]
    exact draw.isLt
  exact ⟨bound, List.getD_eq_getElem _ _ bound⟩

theorem allowedChar_injective : Function.Injective allowedChar := by
  intro first second same
  obtain ⟨_, first_eq⟩ := allowedChar_eq first
  obtain ⟨_, second_eq⟩ := allowedChar_eq second
  rw [first_eq, second_eq] at same
  exact Fin.ext (nodup_allowedChars.getElem_inj_iff.mp same)

theorem allowedChar_mem (draw : Fin 62) : allowedChar draw ∈ allowedChars := by
  obtain ⟨bound, draw_eq⟩ := allowedChar_eq draw
  rw [draw_eq]
  exact List.getElem_mem bound

theorem allowedChar_surjective : ∀ character ∈ allowedChars, ∃ draw, allowedChar draw = character := by
  intro character member
  obtain ⟨index, bound, rfl⟩ := List.mem_iff_getElem.mp member
  obtain ⟨_, draw_eq⟩ := allowedChar_eq ⟨index, length_allowedChars ▸ bound⟩
  exact ⟨_, draw_eq⟩

theorem toList_randomAlphaNumericString (draws : List (Fin 62)) :
    (randomAlphaNumericString draws).toList = draws.map allowedChar := by
  simp only [randomAlphaNumericString, String.toList_ofList]
  induction draws with
  | nil => rfl
  | cons draw draws inductionHypothesis => simpa [allowedChar] using inductionHypothesis

theorem randomAlphaNumericString_injective : Function.Injective randomAlphaNumericString := by
  intro first second same
  have lists := congrArg String.toList same
  rw [toList_randomAlphaNumericString, toList_randomAlphaNumericString] at lists
  exact allowedChar_injective.list_map lists

/-- Draw sequences of a length and texts of that length over the alphabet correspond one to one. -/
theorem randomAlphaNumericString_bijOn (length : Nat) :
    Set.BijOn randomAlphaNumericString {draws | draws.length = length}
      {text | text.length = length ∧ ∀ character ∈ text.toList, character ∈ allowedChars} := by
  refine ⟨?_, randomAlphaNumericString_injective.injOn, ?_⟩
  · intro draws drawn
    have list := toList_randomAlphaNumericString draws
    constructor
    · rw [← String.length_toList, list, List.length_map]
      exact drawn
    · rw [list]
      intro character member
      obtain ⟨draw, _, rfl⟩ := List.mem_map.mp member
      exact allowedChar_mem draw
  · rintro text ⟨long, allowed⟩
    -- each character of the text has its draw
    have drawn : text.toList ∈ Set.range (List.map allowedChar) := by
      rw [Set.range_list_map]
      exact fun character member => allowedChar_surjective character (allowed character member)
    obtain ⟨draws, drawn⟩ := drawn
    refine ⟨draws, ?_, ?_⟩
    · calc draws.length = (draws.map allowedChar).length := (List.length_map _).symm
        _ = text.toList.length := by rw [drawn]
        _ = length := long
    · rw [← String.toList_inj, toList_randomAlphaNumericString, drawn]

end Helper

/-! ## Creates and overwrites -/

variable {devices : Nat} {platform : Platform} {starts : World devices → Prop}

/-- The sequence that a `create` draws when it is called. -/
def Event.draws : Event → Option (List (Fin 62))
  | .screen (.create _ draws) => some draws
  | _ => none

def Action.draws : Action devices → Option (List (Fin 62))
  | .event _ occurred => occurred.draws
  | .answer _ _ _ => none

def drawn (history : History (World devices) (Action devices)) : List (List (Fin 62)) :=
  history.filterMap fun entry => entry.2.draws

/-- The beacon that the create screen calls `create` with. -/
def Action.creating : Action devices → Option Beacon
  | .event _ (.screen (.create beacon _)) => some beacon
  | _ => none

/-- A key that a `create` writes at is the one that it drew for the beacon. -/
theorem AuthoredIn.drew {history : History (World devices) (Action devices)} {key : String} {beacon : Beacon}
    (authored : AuthoredIn platform history key beacon .create) :
    ∃ entry ∈ history, entry.2.creating = some beacon ∧
      ∃ draws, entry.2.draws = some draws ∧ key = Helper.randomAlphaNumericString draws := by
  obtain ⟨before, device, event, member, authors⟩ := authored
  cases authors with
  | create _ _ => exact ⟨_, member, rfl, _, rfl, rfl⟩

/-- What a `create` writes, and where. -/
def Op.created (op : Op) : Option (String × Json) :=
  match op.request, op.closure with
  | .setBeacon key value, .noCompletion .create => some (key, value)
  | _, _ => none

/-- The key of an `updateBeacon` or a `removeBeacon`. -/
def Op.overwritten (op : Op) : Option String :=
  match op.request, op.closure with
  | .setBeacon key _, .noCompletion .updateBeacon => some key
  | .removeBeacon key, .noCompletion .removeBeacon => some key
  | _, _ => none

def World.creates (world : World devices) (action : Action devices) : Option (String × Json) :=
  (world.applied action).bind Op.created

def World.overwrites (world : World devices) (action : Action devices) : Option String :=
  (world.applied action).bind Op.overwritten

/-- The keys that creates have written at. -/
def createdKeys (history : History (World devices) (Action devices)) : List String :=
  history.filterMap fun entry => (entry.1.creates entry.2).map Prod.fst

/-- A `create` has written the value at the key, and no update or removal of the key has come since. -/
def Standing (key : String) (value : Json) : History (World devices) (Action devices) → Prop
  | [] => False
  | (world, action) :: history =>
    world.creates action = some (key, value) ∨
      (Standing key value history ∧ world.overwrites action ≠ some key)

/-- What a step does to the beacons. -/
inductive World.Writes (world : World devices) (action : Action devices) : Store String Node → Prop where
  | nothing : world.creates action = none → world.overwrites action = none →
      Writes world action world.server.beacons
  | create {device : Fin devices} {op : Op} {key : String} (beacon : Beacon) :
      op ∈ (world.client device).network → op.SetsBeacon key beacon .create →
      world.creates action = some (key, beacon.dictValue) → world.overwrites action = none →
      Writes world action (setChild world.server.beacons key beacon.dictValue)
  | updateBeacon {key : String} (beacon : Beacon) :
      world.creates action = none → world.overwrites action = some key →
      Writes world action (setChild world.server.beacons key beacon.dictValue)
  | removeBeacon {key : String} : world.creates action = none → world.overwrites action = some key →
      Writes world action (world.server.beacons.erase key)

theorem World.creates_applied {world : World devices} {action : Action devices} {op : Op}
    (applied : world.applied action = some op) : world.creates action = op.created := by
  rw [World.creates, applied, Option.bind_some]

theorem World.overwrites_applied {world : World devices} {action : Action devices} {op : Op}
    (applied : world.applied action = some op) : world.overwrites action = op.overwritten := by
  rw [World.overwrites, applied, Option.bind_some]

theorem writes_step {world next : World devices} {action : Action devices} (wellFormed : world.WellFormed)
    (taken : (app platform starts).step world action = some next) :
    world.Writes action next.server.beacons := by
  obtain ⟨device, event, client, rfl, _, rfl⟩ |
    ⟨device, index, outcome, op, response, server, rfl, found, waiting, answered, rfl⟩ := step_cases taken
  · exact .nothing rfl rfl
  · have member := List.mem_of_getElem? found
    have applied := World.applied_answer found waiting
    have creates := World.creates_applied applied
    have overwrites := World.overwrites_applied applied
    have paired := (wellFormed device op member).paired
    show world.Writes _ server.beacons
    obtain ⟨request, closure, _, _⟩ := op
    cases Server.answer_cases answered with
    | failed _ | signInWithCredential _ | createUser _ _ => exact .nothing rfl rfl
    | logIn | signInWithEmail _ _ _ | setUser | observeUser | observeBeacons => exact .nothing creates overwrites
    | @setBeacon key value =>
      show world.Writes _ (setChild world.server.beacons key value)
      cases paired with
      | @create _ beacon => exact .create beacon member ⟨rfl, rfl⟩ creates overwrites
      | @updateBeacon _ beacon => exact .updateBeacon beacon creates overwrites
    | removeBeacon =>
      cases paired
      exact .removeBeacon creates overwrites

/-! ## Creates in flight -/

/-- A `create` at the key that has not been answered. -/
def Op.creating (key : String) (op : Op) : Bool :=
  op.response.isNone && op.created.any fun entry => entry.1 = key

theorem Op.created_of_creating {key : String} {op : Op} (creating : op.creating key) :
    ∃ entry, op.created = some entry := by
  unfold Op.creating at creating
  obtain ⟨_, created⟩ := Bool.and_eq_true_iff.mp creating
  obtain ⟨entry, created, _⟩ := (Option.any_eq_true _ _).mp created
  exact ⟨entry, created⟩

theorem Follows.created_eq_none {closure : Closure} {response : Response} {op : Op}
    (follows : Follows closure response op) : op.created = none := by
  cases follows <;> rfl

theorem Tapped.created_eq_none {scene : Nat} {event : Event} {op : Op} (tapped : Tapped scene event op) :
    op.created = none := by
  cases tapped <;> rfl

theorem ScreenOp.created {current : Except Trap (Nat × User)} {event : ScreenEvent} {op : Op}
    {entry : String × Json} (sent : ScreenOp current event op) (created : op.created = some entry) :
    ∃ beacon draws, event = .create beacon draws := by
  cases sent with
  | create beacon draws => exact ⟨beacon, draws, rfl⟩
  | beacons _ | getBeacons _ _ | updateBeacon _ _ | removeBeacon _ | updateUserValues _ => contradiction

namespace Client

variable {client next : Client} {key : String}

theorem creating_die (root : Root) :
    (client.die root).network.countP (Op.creating key) ≤ client.network.countP (Op.creating key) := by
  refine countP_filterMap_le _ fun op orphan orphaned creating => ?_
  obtain ⟨_, _, rfl⟩ := Op.orphaned_eq_some.mp orphaned
  exact creating

theorem creating_append {network sent : List Op} (others : ∀ op ∈ sent, op.created = none) :
    (network ++ sent).countP (Op.creating key) = network.countP (Op.creating key) := by
  have none : sent.countP (Op.creating key) = 0 := by
    refine List.countP_eq_zero.mpr fun op member creating => ?_
    obtain ⟨entry, created⟩ := Op.created_of_creating creating
    simp [others op member] at created
  rw [List.countP_append, none, Nat.add_zero]

theorem creating_completion {inWindow : Bool} {closure : Closure} {response : Response}
    (outcome : Completion platform client inWindow closure response next) :
    next.network.countP (Op.creating key) ≤ client.network.countP (Op.creating key) := by
  cases outcome with
  | signIn _ follows | follow _ follows =>
    exact (creating_append (by simpa using follows.created_eq_none)).le
  | @enter _ scene _ user _ _ =>
    obtain ⟨_, _, entered⟩ | ⟨_, stayed⟩ := signedIn_cases client scene inWindow user
    · rw [entered]
      exact (creating_append (by simp [BeaconService.beacons, Op.created])).le
    · rw [stayed]
      exact le_rfl
  | updateUserValues _ _ | alert _ _ | nothing _ => exact le_rfl
  | getBeacons =>
    obtain ⟨_, _, crashed⟩ | ⟨_, _, _, listed⟩ := getBeaconsCompletion_cases client _ platform _ _
    · rw [crashed]
      exact creating_die _
    · rw [listed]
  | beaconsLoaded =>
    obtain ⟨_, crashed⟩ | ⟨_, _, _, drawn⟩ | unseen := beaconsCompletion_cases platform client _ _
    · rw [crashed]
      exact creating_die _
    · rw [drawn]
    · rw [unseen]

end Client

theorem MainScene.creating_handle {current : Except Trap (Nat × User)} {fresh : Nat} {scene : MainScene}
    {event : ScreenEvent} {reaction : Reaction} {key : String}
    (handled : scene.handle platform current fresh event = some (.ok reaction)) :
    reaction.sent.countP (Op.creating key) ≤
      ((Event.screen event).draws.map Helper.randomAlphaNumericString).toList.count key := by
  by_cases create : ∃ beacon draws, event = .create beacon draws
  · obtain ⟨beacon, draws, rfl⟩ := create
    cases MainScene.handle_reacted handled with
    | create =>
      apply le_of_eq
      simp [BeaconService.create, Op.creating, Op.created, Event.draws, List.countP_cons, List.count_cons]
  · have none : reaction.sent.countP (Op.creating key) = 0 := by
      refine List.countP_eq_zero.mpr fun op member creating => ?_
      obtain ⟨entry, created⟩ := Op.created_of_creating creating
      exact create ((MainScene.handle_sent handled op member).created created)
    rw [none]
    exact Nat.zero_le _

/-- An event puts at most the `create` that it calls in flight. -/
theorem Client.creating_handle {client next : Client} {event : Event}
    (handled : client.handle platform event = some next) (key : String) :
    next.network.countP (Op.creating key) ≤ client.network.countP (Op.creating key) +
      (event.draws.map Helper.randomAlphaNumericString).toList.count key := by
  cases handle_cases handled with
  | launch _ =>
    apply Nat.le_add_right_of_le
    obtain ⟨_, _, _, _, entered⟩ | ⟨_, shown⟩ := configureInitialRootViewController_cases client
    · rw [entered]
      exact (creating_append (by simp [BeaconService.beacons, Op.created])).le
    · rw [shown]
      exact le_rfl
  | kill | crash _ => exact Nat.le_add_right_of_le (creating_die _)
  | tap _ tapped =>
    exact Nat.le_add_right_of_le (creating_append (by simpa using tapped.created_eq_none)).le
  | logout _ | stay => exact Nat.le_add_right _ _
  | screen _ reacted =>
    show (client.network ++ _).countP _ ≤ _
    rw [List.countP_append]
    exact Nat.add_le_add_left (MainScene.creating_handle reacted) _
  | @deliver index inWindow op response found responded =>
    calc _ ≤ (client.network.eraseIdx index).countP (Op.creating key) :=
          creating_completion (complete_cases platform _ inWindow op.closure response)
      _ ≤ client.network.countP (Op.creating key) := (List.eraseIdx_sublist _ _).countP_le
      _ ≤ _ := Nat.le_add_right _ _

/-- An answer takes the operation out of those in flight. -/
theorem Client.creating_answered {client : Client} {index : Nat} {op : Op}
    (found : client.network[index]? = some op) (response : Response) (key : String) :
    (client.answered index op response).network.countP (Op.creating key) +
      (if op.creating key then 1 else 0) = client.network.countP (Op.creating key) := by
  unfold Client.answered
  split
  · exact countP_eraseIdx (Op.creating key) found
  · exact countP_set (Op.creating key) found _

/-- The creates at the key that have not been answered. -/
def World.creating (world : World devices) (key : String) : Nat :=
  Finset.univ.sum fun device => (world.client device).network.countP (Op.creating key)

/-! ## Fresh keys -/

/-- What a history and the world it leads to say about keys: a `create` at a key
has drawn it, and what is there was stored at the start, created or updated. -/
structure World.Keyed (platform : Platform) (stored : Store String Node)
    (history : History (World devices) (Action devices)) (world : World devices) : Prop where
  inUse : world.KeysInUse platform stored history
  counted : ∀ key, world.creating key + (createdKeys history).count key ≤
    ((drawn history).map Helper.randomAlphaNumericString).count key
  known : ∀ key, (world.server.beacons.lookup key).isSome → (stored.lookup key).isSome ∨
    key ∈ createdKeys history ∨ ∃ entry ∈ history, entry.1.overwrites entry.2 = some key

theorem createdKeys_cons (world : World devices) (action : Action devices)
    (history : History (World devices) (Action devices)) :
    createdKeys ((world, action) :: history) =
      ((world.creates action).map Prod.fst).toList ++ createdKeys history := by
  cases created : world.creates action <;> simp [createdKeys, created]

theorem drawn_cons (world : World devices) (action : Action devices)
    (history : History (World devices) (Action devices)) :
    drawn ((world, action) :: history) = action.draws.toList ++ drawn history := by
  cases draws : action.draws <;> simp [drawn, draws]

/-- Only the device that a step is on has other operations in flight. -/
theorem creating_setClient (world : World devices) (device : Fin devices) (client : Client) (key : String) :
    (world.setClient device client).creating key + (world.client device).network.countP (Op.creating key) =
      world.creating key + client.network.countP (Op.creating key) := by
  have same : ∀ other, other ≠ device →
      ((world.setClient device client).client other).network.countP (Op.creating key) =
        (world.client other).network.countP (Op.creating key) := by
    intro other different
    rw [World.setClient_client_of_ne _ different]
  have changed := sum_of_changed device same
  rwa [World.setClient_client_self] at changed

theorem count_creates {world : World devices} {device : Fin devices} {index : Nat} {op : Op} (outcome : Outcome)
    (found : (world.client device).network[index]? = some op) (waiting : op.response = none) (key : String) :
    ((world.creates (.answer device index outcome)).map Prod.fst).toList.count key ≤
      if op.creating key then 1 else 0 := by
  cases outcome with
  | failure _ | account _ => exact Nat.zero_le _
  | success =>
    rw [World.creates_applied (World.applied_answer found waiting), Op.creating, waiting]
    cases op.created <;> simp [List.count_cons]

theorem counted_step {stored : Store String Node} {history : History (World devices) (Action devices)}
    {world next : World devices} {action : Action devices} (keyed : world.Keyed platform stored history)
    (taken : (app platform starts).step world action = some next) (key : String) :
    next.creating key + (createdKeys ((world, action) :: history)).count key ≤
      ((drawn ((world, action) :: history)).map Helper.randomAlphaNumericString).count key := by
  have before := keyed.counted key
  rw [createdKeys_cons, drawn_cons, List.count_append, List.map_append, List.count_append]
  obtain ⟨device, event, client, rfl, handled, rfl⟩ |
    ⟨device, index, outcome, op, response, server, rfl, found, waiting, answered, rfl⟩ := step_cases taken
  · have changed := creating_setClient world device client key
    have called := Client.creating_handle handled key
    have draws : (Action.event device event).draws.toList.map Helper.randomAlphaNumericString =
        (event.draws.map Helper.randomAlphaNumericString).toList := Option.toList_map.symm
    have creates : ((world.creates (.event device event)).map Prod.fst).toList.count key = 0 := rfl
    rw [draws]
    omega
  · have changed := creating_setClient world device ((world.client device).answered index op response) key
    have taken := Client.creating_answered found response key
    have creates := count_creates outcome found waiting key
    show (world.setClient device ((world.client device).answered index op response)).creating key + _ ≤ _
    omega

theorem known_step {stored : Store String Node} {history : History (World devices) (Action devices)}
    {world next : World devices} {action : Action devices} (keyed : world.Keyed platform stored history)
    (taken : (app platform starts).step world action = some next) :
    ∀ key, (next.server.beacons.lookup key).isSome → (stored.lookup key).isSome ∨
      key ∈ createdKeys ((world, action) :: history) ∨
        ∃ entry ∈ (world, action) :: history, entry.1.overwrites entry.2 = some key := by
  intro key present
  have earlier : (world.server.beacons.lookup key).isSome → (stored.lookup key).isSome ∨
      key ∈ createdKeys ((world, action) :: history) ∨
        ∃ entry ∈ (world, action) :: history, entry.1.overwrites entry.2 = some key := by
    intro present
    rw [createdKeys_cons]
    obtain before | created | ⟨entry, member, overwrites⟩ := keyed.known key present
    · exact .inl before
    · exact .inr (.inl (List.mem_append_right _ created))
    · exact .inr (.inr ⟨entry, List.mem_cons_of_mem _ member, overwrites⟩)
  have writes := writes_step keyed.inUse.wellFormed taken
  generalize next.server.beacons = after at writes present
  cases writes with
  | nothing _ _ => exact earlier present
  | @create _ _ written beacon _ _ created _ =>
    rw [lookup_setChild] at present
    by_cases same : key = written
    · right; left
      rw [createdKeys_cons, created, same]
      exact List.mem_cons_self
    · exact earlier (by simpa [same] using present)
  | @updateBeacon written beacon _ overwrites =>
    rw [lookup_setChild] at present
    by_cases same : key = written
    · exact .inr (.inr ⟨_, List.mem_cons_self, same ▸ overwrites⟩)
    · exact earlier (by simpa [same] using present)
  | @removeBeacon erased _ _ =>
    by_cases same : key = erased
    · simp [same] at present
    · exact earlier (by rwa [Store.lookup_erase_of_ne _ same] at present)

theorem World.Keyed.step {stored : Store String Node} {history : History (World devices) (Action devices)}
    {world next : World devices} {action : Action devices} (keyed : world.Keyed platform stored history)
    (taken : (app platform starts).step world action = some next) :
    next.Keyed platform stored ((world, action) :: history) where
  inUse := keyed.inUse.step taken
  counted := counted_step keyed taken
  known := known_step keyed taken

theorem World.Keyed.of_idle {world : World devices} (idle : Idle world) :
    world.Keyed platform world.server.beacons [] where
  inUse := .of_idle idle
  counted key := by
    have none : world.creating key = 0 := by
      refine Finset.sum_eq_zero fun device _ => ?_
      rw [idle device]
      rfl
    rw [none]
    exact Nat.le_refl 0
  known key present := .inl present

/-- No sequence is drawn twice, and none stands behind a key that was stored at the start. -/
structure FreshDraws (stored : Store String Node) (history : History (World devices) (Action devices)) :
    Prop where
  distinct : (drawn history).Nodup
  unstored : ∀ draws ∈ drawn history, ∀ former,
    (stored.lookup (Helper.randomAlphaNumericString former)).isSome → draws ≠ former

theorem FreshDraws.of_cons {stored : Store String Node} {history : History (World devices) (Action devices)}
    {world : World devices} {action : Action devices} (fresh : FreshDraws stored ((world, action) :: history)) :
    FreshDraws stored history := by
  obtain ⟨distinct, unstored⟩ := fresh
  rw [drawn_cons] at distinct unstored
  exact ⟨distinct.of_append_right, fun draws member => unstored draws (List.mem_append_right _ member)⟩

/-- New draws are new at every step. -/
theorem FreshDraws.everyStep {stored : Store String Node} {history : History (World devices) (Action devices)}
    (fresh : FreshDraws stored history) :
    EveryStep (fun history world action => FreshDraws stored ((world, action) :: history)) history := by
  induction history with
  | nil => trivial
  | cons entry history inductionHypothesis => exact ⟨fresh, inductionHypothesis fresh.of_cons⟩

section

variable {stored : Store String Node} {history : History (World devices) (Action devices)}
  {world next : World devices} {action : Action devices}

theorem World.Keyed.nodup_createdKeys (keyed : world.Keyed platform stored history)
    (fresh : FreshDraws stored history) : (createdKeys history).Nodup := by
  refine List.nodup_iff_count_le_one.mpr fun key => ?_
  have distinct := fresh.distinct.map Helper.randomAlphaNumericString_injective
  have once := List.nodup_iff_count_le_one.mp distinct key
  have counted := keyed.counted key
  omega

theorem World.Keyed.unstored_createdKeys (keyed : world.Keyed platform stored history)
    (fresh : FreshDraws stored history) : ∀ key ∈ createdKeys history, stored.lookup key = none := by
  intro key created
  have counted := keyed.counted key
  have present := List.count_pos_iff.mpr created
  have drawnKey : 0 < ((drawn history).map Helper.randomAlphaNumericString).count key := by omega
  obtain ⟨draws, member, rfl⟩ := List.mem_map.mp (List.count_pos_iff.mp drawnKey)
  by_contra found
  exact fresh.unstored draws member draws (Option.isSome_iff_ne_none.mpr found) rfl

/-- A `create` that is applied finds nothing at its key, unless an update of the
same beacon has overtaken it. -/
theorem World.Keyed.created_new (keyed : world.Keyed platform stored history)
    (after : next.Keyed platform stored ((world, action) :: history))
    (fresh : FreshDraws stored ((world, action) :: history)) {key : String} {value : Json}
    (created : world.creates action = some (key, value)) : world.server.beacons.lookup key = none ∨
      ∃ entry ∈ history, entry.1.overwrites entry.2 = some key := by
  have keys : createdKeys ((world, action) :: history) = key :: createdKeys history := by
    rw [createdKeys_cons, created]
    rfl
  have distinct := after.nodup_createdKeys fresh
  have unstored := after.unstored_createdKeys fresh key (by simp [keys])
  rw [keys, List.nodup_cons] at distinct
  cases found : world.server.beacons.lookup key with
  | none => exact .inl rfl
  | some node =>
    obtain before | before | overwritten := keyed.known key (by rw [found]; rfl)
    · simp [unstored] at before
    · exact absurd before distinct.1
    · exact .inr overwritten

/-- A `create` that is called draws a key that no process has ever seen in use. -/
theorem World.Keyed.unseen (keyed : world.Keyed platform stored history)
    (fresh : FreshDraws stored ((world, action) :: history)) {draws : List (Fin 62)}
    (called : action.draws = some draws) : ∀ server ∈ seen history world,
      server.beacons.lookup (Helper.randomAlphaNumericString draws) = none := by
  intro server member
  obtain ⟨distinct, unstored⟩ := fresh
  rw [drawn_cons, called] at distinct unstored
  by_contra present
  obtain before | ⟨beacon, authored⟩ := keyed.inUse.of_seen member (Option.isSome_iff_ne_none.mpr present)
  · exact unstored draws List.mem_cons_self draws before rfl
  · obtain ⟨entry, drew, _, former, former_eq, same⟩ := authored.drew
    have twice : former ∈ drawn history := List.mem_filterMap.mpr ⟨entry, drew, former_eq⟩
    rw [Helper.randomAlphaNumericString_injective same] at distinct
    exact (List.nodup_cons.mp distinct).1 twice

/-- What a `create` wrote is where it wrote it, and is the beacon that it was called with. -/
def Kept (platform : Platform) (history : History (World devices) (Action devices)) (world : World devices) :
    Prop :=
  ∀ key value, Standing key value history →
    world.server.beacons.lookup key = some (nodeFrom value) ∧
      ∃ beacon, AuthoredIn platform history key beacon .create ∧ value = beacon.dictValue

theorem Standing.mem_createdKeys {key : String} {value : Json} (standing : Standing key value history) :
    key ∈ createdKeys history := by
  induction history with
  | nil => exact standing.elim
  | cons entry history inductionHypothesis =>
    rw [createdKeys_cons]
    obtain created | ⟨standing, _⟩ := standing
    · simp [created]
    · exact List.mem_append_right _ (inductionHypothesis standing)

theorem kept_step (kept : Kept platform history world) (inUse : world.KeysInUse platform stored history)
    (distinct : (createdKeys ((world, action) :: history)).Nodup)
    (taken : (app platform starts).step world action = some next) :
    Kept platform ((world, action) :: history) next := by
  intro key value standing
  have writes := writes_step inUse.wellFormed taken
  generalize next.server.beacons = after at writes
  obtain created | ⟨standing, untouched⟩ := standing
  · cases writes with
    | @create device op written beacon member sets created' _ =>
      obtain ⟨rfl, rfl⟩ := Prod.mk.inj (Option.some.inj (created.symm.trans created'))
      -- the event that sent this operation was called with the beacon
      obtain ⟨author, write, authored, request, closure⟩ :=
        inUse.accounted.authored device op member key _ sets.1
      obtain rfl : write = .create := Closure.noCompletion.inj (closure.symm.trans sets.2)
      refine ⟨by simp [lookup_setChild], author, authored.mono _, ?_⟩
      exact (Request.setBeacon.inj (sets.1.symm.trans request)).2
    | nothing none _ | updateBeacon _ none _ | removeBeacon none _ => simp [none] at created
  · obtain ⟨found, beacon, authored, encoded⟩ := kept key value standing
    refine ⟨?_, beacon, authored.mono _, encoded⟩
    cases writes with
    | nothing _ _ => exact found
    | @create _ _ written _ _ _ created _ =>
      -- no key is created twice, so this is another one
      have different : key ≠ written := by
        rintro rfl
        rw [createdKeys_cons, created] at distinct
        exact (List.nodup_cons.mp distinct).1 standing.mem_createdKeys
      rwa [lookup_setChild, if_neg different]
    | @updateBeacon written _ _ overwrites =>
      have different : key ≠ written := fun same => untouched (same ▸ overwrites)
      rwa [lookup_setChild, if_neg different]
    | @removeBeacon erased _ overwrites =>
      have different : key ≠ erased := fun same => untouched (same ▸ overwrites)
      rwa [Store.lookup_erase_of_ne _ different]

end

/-- No process runs, and these are the stored beacons. -/
def StartsWith (stored : Store String Node) (world : World devices) : Prop :=
  Idle world ∧ world.server.beacons = stored

/-- Creates that draw distinct sequences, none of them behind a stored key, write
at distinct keys that were new when they were drawn, and the beacon that each was
called with stays readable, unchanged, until an update or a removal of its key; and
there is one sequence for each text over the alphabet. -/
theorem created_beacons_kept {stored : Store String Node}
    {history : History (World devices) (Action devices)} {world : World devices}
    (execution : Execution (app platform (StartsWith stored)) history world)
    (fresh : FreshDraws stored history) :
    (createdKeys history).Nodup ∧ (∀ key ∈ createdKeys history, stored.lookup key = none) ∧
    EveryStep (fun history world action => ∀ draws, action.draws = some draws →
      ∀ server ∈ seen history world,
        server.beacons.lookup (Helper.randomAlphaNumericString draws) = none) history ∧
    EveryStep (fun history world action => ∀ key value, world.creates action = some (key, value) →
      world.server.beacons.lookup key = none ∨
        ∃ entry ∈ history, entry.1.overwrites entry.2 = some key) history ∧
    (∀ key value, Standing key value history → ∃ beacon, AuthoredIn platform history key beacon .create ∧
      value = beacon.dictValue ∧ world.server.beacon platform key = some { beacon with key := some key }) ∧
    ∀ length, Set.BijOn Helper.randomAlphaNumericString {draws | draws.length = length}
      {text | text.length = length ∧ ∀ character ∈ text.toList, character ∈ Helper.allowedChars} := by
  have starts : ∀ world : World devices, StartsWith stored world → world.Keyed platform stored [] := by
    rintro world ⟨idle, rfl⟩
    exact .of_idle idle
  have keyed : world.Keyed platform stored history :=
    execution.always (fun history world => world.Keyed platform stored history) starts
      fun _ _ _ _ keyed taken => keyed.step taken
  have kept : world.Keyed platform stored history ∧ Kept platform history world :=
    execution.invariant (fun history world => world.Keyed platform stored history ∧ Kept platform history world)
      (fun world initial => ⟨starts world initial, fun _ _ standing => standing.elim⟩)
      (fun _ _ _ _ holds fresh taken => ⟨holds.1.step taken,
        kept_step holds.2 holds.1.inUse ((holds.1.step taken).nodup_createdKeys fresh) taken⟩)
      fresh.everyStep
  refine ⟨keyed.nodup_createdKeys fresh, keyed.unstored_createdKeys fresh, ?unseen, ?new,
    fun key value standing => ?_, Helper.randomAlphaNumericString_bijOn⟩
  case unseen =>
    exact execution.everyStep (fun history world => world.Keyed platform stored history) starts
      (fun _ _ _ _ keyed _ taken => keyed.step taken)
      (fun _ _ _ _ keyed fresh _ _ called => keyed.unseen fresh called) fresh.everyStep
  case new =>
    exact execution.everyStep (fun history world => world.Keyed platform stored history) starts
      (fun _ _ _ _ keyed _ taken => keyed.step taken)
      (fun _ _ _ _ keyed fresh taken _ _ created => keyed.created_new (keyed.step taken) fresh created)
      fresh.everyStep
  obtain ⟨found, beacon, authored, rfl⟩ := kept.2 key value standing
  exact ⟨beacon, authored, rfl, by simp [Server.beacon, found]⟩

def annDraws : List (Fin 62) := List.replicate 28 (Fin.last 61)

/-- Ann logs in and creates a beacon, beside the one that is stored. -/
def annCreates : List (Action 1) := annLogsIn ++
  [.event 0 (.screen .leaveHome), .event 0 (.screen (.create .sample annDraws))]

/-- The app on Ann's device, with that one stored beacon. -/
def besideCampfire : System (World 1) (Action 1) := app .sample (StartsWith Server.withBeacon.beacons)

theorem annCreates_taken : (besideCampfire.replay [] (World.installed .withBeacon) annCreates).isSome := by
  decide +kernel

def annCreating : History (World 1) (Action 1) × World 1 :=
  besideCampfire.reached (World.installed .withBeacon) annCreates annCreates_taken

theorem annCreating_answered : (besideCampfire.step annCreating.2 (.answer 0 1 .success)).isSome := by
  decide +kernel

theorem drawn_annCreating : drawn ((annCreating.2, .answer 0 1 .success) :: annCreating.1) = [annDraws] := by
  decide +kernel

theorem freshDraws_annCreating :
    FreshDraws Server.withBeacon.beacons ((annCreating.2, .answer 0 1 .success) :: annCreating.1) := by
  refine ⟨?_, ?_⟩
  · rw [drawn_annCreating]
    exact List.nodup_singleton _
  · rw [drawn_annCreating]
    rintro draws member former stored rfl
    obtain rfl := List.mem_singleton.mp member
    revert stored
    decide +kernel

theorem creating_annCreating :
    (((annCreating.2, .answer 0 1 .success) :: annCreating.1).filterMap fun entry => entry.2.creating) =
      [Beacon.sample] := by
  decide +kernel

theorem annCreated_kept :
    (Option.get _ annCreating_answered).server.beacon .sample (Helper.randomAlphaNumericString annDraws) =
      some { Beacon.sample with key := some (Helper.randomAlphaNumericString annDraws) } := by
  have execution := besideCampfire.execution_reached ⟨idle_installed .withBeacon, rfl⟩ annCreates annCreates_taken
  have kept := (created_beacons_kept (execution.step (Option.some_get annCreating_answered).symm)
    freshDraws_annCreating).2.2.2.2.1
  have creates : (annCreating.2.creates (.answer 0 1 .success)).any
      (fun entry => entry.1 = Helper.randomAlphaNumericString annDraws) = true := by
    decide +kernel
  obtain ⟨⟨key, value⟩, created, same⟩ := (Option.any_eq_true _ _).mp creates
  obtain rfl := of_decide_eq_true same
  obtain ⟨beacon, authored, _, found⟩ := kept _ value (.inl created)
  -- only one beacon was created in the run
  obtain ⟨entry, member, creating, _⟩ := authored.drew
  have listed : beacon ∈ [Beacon.sample] :=
    creating_annCreating ▸ List.mem_filterMap.mpr ⟨entry, member, creating⟩
  rw [found, List.mem_singleton.mp listed]

end Lyv
