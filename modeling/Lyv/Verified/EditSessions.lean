import Lyv.Library.Results
import Lyv.App.UnderWay

/-!
# Edit sessions

A session opens the form from the profile's list, changes some of its fields and
saves the whole record.  The list is not fetched again between sessions, so each
of them starts from the record as it was before the first.  Edits survive when
no session but the last has given a field that the last one leaves alone a value
other than its original one.
-/

namespace Lyv

open Lyv.Library Lyv.Firebase

/-- What reaches the form while it is open. -/
inductive Input where
  | edit (change : UpdateController.Edit)
  | location (location : Coordinate)

namespace Input

def event : Input → ScreenEvent
  | .edit change => .edit change
  | .location place => .updateLocation place

def title : Input → Option String
  | .edit (.nameTextField text) => some text
  | _ => none

def description : Input → Option String
  | .edit (.descriptionTextField text) => some text
  | _ => none

def distance : Input → Option SwiftInt
  | .edit (.distanceSlider value) => some value.miles
  | _ => none

end Input

def UpdateController.take (form : UpdateController) : Input → UpdateController
  | .edit change => form.edit change
  | .location place => form.didUpdateLocations place

/-- The row that is opened, what reaches the form, and the time of the press. -/
structure Session where
  row : Nat
  inputs : List Input
  now : SwiftDouble

namespace Session

/-- The values that the session gives, where it changes the field. -/
def title (session : Session) : Option String := session.inputs.reverse.findSome? Input.title

def description (session : Session) : Option String := session.inputs.reverse.findSome? Input.description

def distance (session : Session) : Option SwiftInt := session.inputs.reverse.findSome? Input.distance

def actions (session : Session) : List (Action 1) :=
  .event 0 (.screen (.didSelectItemAt session.row)) ::
    (session.inputs.map fun input => .event 0 (.screen input.event)) ++
    [.event 0 (.screen (.launchButtonPressed true session.now))]

end Session

/-- An answer that succeeds, or a completion. -/
def Action.settles : Action 1 → Bool
  | .answer _ _ .success | .event _ (.deliver _ _) => true
  | _ => false

/-- The key of a row of the profile that is shown. -/
def World.keyOfRow (world : World 1) (row : Nat) : Option String :=
  match (world.client 0).root with
  | .main { screen := .profile profile, .. } => profile.beacons[row]?.bind Beacon.key
  | _ => none

/-- Sessions on the beacon at a key, the latest first, each with all its writes
acknowledged before the next.  They follow each other on one profile. -/
inductive Sessions (platform : Platform) (key : String) (start : World 1) : List Session → World 1 → Prop where
  | nil : Sessions platform key start [] start
  | cons {session : Session} {earlier : List Session} {settling : List (Action 1)} {before after : World 1} :
      Sessions platform key start earlier before → before.keyOfRow session.row = some key →
      (∀ action ∈ settling, action.settles) →
      (app platform Idle).run before (session.actions ++ settling) = some after →
      (after.client 0).network = [] → Sessions platform key start (session :: earlier) after

/-! ## The form -/

namespace UpdateController

variable (form : UpdateController) (inputs : List Input)

theorem beacon_takes : (inputs.foldl take form).beacon = form.beacon := by
  induction inputs generalizing form with
  | nil => rfl
  | cons input inputs inductionHypothesis =>
    rw [List.foldl_cons, inductionHypothesis]
    cases input with
    | edit change => cases change <;> rfl
    | location place => rfl

theorem nameTextField_takes : (inputs.foldl take form).nameTextField =
    latest Input.title form.nameTextField inputs.reverse := by
  refine foldl_eq_latest nameTextField (fun form input => ?_) form inputs
  cases input with
  | edit change => cases change <;> rfl
  | location place => rfl

theorem descriptionTextField_takes : (inputs.foldl take form).descriptionTextField =
    latest Input.description form.descriptionTextField inputs.reverse := by
  refine foldl_eq_latest descriptionTextField (fun form input => ?_) form inputs
  cases input with
  | edit change => cases change <;> rfl
  | location place => rfl

theorem miles_takes : (inputs.foldl take form).distanceSlider.miles =
    latest Input.distance form.distanceSlider.miles inputs.reverse := by
  refine foldl_eq_latest (fun form => form.distanceSlider.miles) (fun form input => ?_) form inputs
  cases input with
  | edit change => cases change <;> rfl
  | location place => rfl

end UpdateController

/-! ## One session -/

/-- A profile's list has one beacon at the key. -/
structure Lists (key : String) (original : Beacon) (profile : ProfileController) : Prop where
  loaded : profile.beacons ≠ []
  only : ∀ beacon ∈ profile.beacons, beacon.key = some key → beacon = original

/-- The profile is shown, and somebody is signed in. -/
structure Shown (key : String) (original : Beacon) (client : Client) : Prop where
  profile : ∃ home profile, client.root = .main { home := home, screen := .profile profile } ∧
    Lists key original profile
  current : ∃ current, client.userCurrent = .ok current

/-- The form is shown over the profile, with nothing in flight. -/
structure Editing (key : String) (original : Beacon) (form : UpdateController) (client : Client) : Prop where
  form : ∃ home profile, client.root = .main { home := home, screen := .update profile form } ∧
    Lists key original profile
  current : ∃ current, client.userCurrent = .ok current
  network : client.network = []

/-- The form as a session opens it. -/
def openedForm (platform : Platform) (original : Beacon) : UpdateController :=
  ({ beacon := some original } : UpdateController).setupUI platform

section

variable {platform : Platform} {key : String} {original : Beacon} {client next : Client}

theorem editing_opened {row : Nat} (shown : Shown key original client) (settled : client.network = [])
    (selected : ∀ home profile, client.root = .main { home := home, screen := .profile profile } →
      profile.beacons[row]?.bind Beacon.key = some key)
    (handled : client.handle platform (.screen (.didSelectItemAt row)) = some next) :
    original.key = some key ∧ Editing key original (openedForm platform original) next := by
  obtain ⟨⟨home, profile, root, lists⟩, current⟩ := shown
  obtain ⟨beacon, found, keyed⟩ := Option.bind_eq_some_iff.mp (selected home profile root)
  obtain rfl := lists.only beacon (List.mem_of_getElem? found) keyed
  have opened : next = client.react { scene := {
      home := home
      screen := .update { profile with selectedBeacon := some beacon } (openedForm platform beacon) } } := by
    simpa [Client.handle, Client.screen, root, MainScene.handle, ProfileController.didSelectItemAt, found,
      pure, Except.pure, eq_comm, openedForm] using handled
  subst opened
  exact ⟨keyed, ⟨_, _, rfl, lists.loaded, lists.only⟩, current, by simp [Client.react, settled]⟩

theorem editing_taken {form : UpdateController} {input : Input} (editing : Editing key original form client)
    (handled : client.handle platform (.screen input.event) = some next) :
    Editing key original (form.take input) next := by
  obtain ⟨⟨home, profile, root, lists⟩, current, settled⟩ := editing
  have taken : next = client.react {
      scene := { home := home, screen := .update profile (form.take input) } } := by
    cases input <;>
      simpa [Client.handle, Client.screen, root, MainScene.handle, Input.event, UpdateController.take,
        pure, Except.pure, eq_comm] using handled
  subst taken
  exact ⟨⟨_, _, rfl, lists⟩, current, by simp [Client.react, settled]⟩

/-- A press with a title and a user writes the form's beacon and the user, and
shows the profile, whose list is not fetched again. -/
theorem pressed {form : UpdateController} {now : SwiftDouble} (editing : Editing key original form client)
    (titled : form.nameTextField ≠ "") (keyed : form.beacon.bind Beacon.key = some key)
    (handled : client.handle platform (.screen (.launchButtonPressed true now)) = some next) :
    Shown key original next ∧ ∃ reference user, next.network = [
      { request := .setBeacon key (form.newBeacon platform user.uid now).dictValue
        closure := .noCompletion .updateBeacon },
      UserService.updateUserValues reference user] := by
  obtain ⟨⟨home, profile, root, lists⟩, ⟨⟨reference, user⟩, current⟩, settled⟩ := editing
  -- the list is there, so the profile that comes back sends no fetch
  have loads : profile.loads = false := by
    simp [ProfileController.loads, lists.loaded]
  have keyed : (form.newBeacon platform user.uid now).key = some key := keyed
  have reaction : next = client.react {
      scene := { home := home, screen := .profile profile }
      sent := [
        { request := .setBeacon key (form.newBeacon platform user.uid now).dictValue
          closure := .noCompletion .updateBeacon },
        UserService.updateUserValues reference user] } := by
    simpa [Client.handle, Client.screen, root, MainScene.handle, MainScene.launchButtonPressed,
      UpdateController.updateBeacon, titled, current, BeaconService.updateBeacon, keyed,
      MainScene.profileAppears, loads, bind, Except.bind, pure, Except.pure, Except.map, eq_comm] using handled
  subst reaction
  exact ⟨⟨⟨_, _, rfl, lists⟩, ⟨_, current⟩⟩, reference, user, by simp [Client.react, settled]⟩

/-- The two writes of a session, on their way to being acknowledged. -/
structure Settling (key : String) (original record : Beacon) (client : Client) (server : Server) : Prop where
  shown : Shown key original client
  network : ∀ op ∈ client.network,
    (op.request = .setBeacon key record.dictValue ∧ op.closure = .noCompletion .updateBeacon) ∨
    ∃ uid value reference, op.request = .setUser uid value ∧ op.closure = .updateUserValues reference
  stored : UnderWay client.network (.setBeacon key record.dictValue) (.noCompletion .updateBeacon) ∨
    server.beacons.lookup key = some (nodeFrom record.dictValue)

theorem Settling.deliver {record : Beacon} {server : Server} {index : Nat} {inWindow : Bool}
    (settling : Settling key original record client server)
    (handled : client.handle platform (.deliver index inWindow) = some next) :
    Settling key original record next server := by
  cases Client.handle_cases handled with
  | tap _ tapped => cases tapped
  | @deliver _ _ op response found responded =>
    have same := SameWrites.eraseIdx found responded
    have erased : Settling key original record { client with network := client.network.eraseIdx index } server :=
      ⟨⟨settling.shown.profile, settling.shown.current⟩,
        fun other member => settling.network other (List.mem_of_mem_eraseIdx member),
        settling.stored.imp_left (same _ _ rfl).mpr⟩
    obtain ⟨_, closure⟩ | ⟨_, _, reference, _, closure⟩ := settling.network op (List.mem_of_getElem? found)
    · rw [closure]
      exact erased
    · -- the completion makes the user that was written current, and archives it
      have completed := Client.complete_cases platform
        { client with network := client.network.eraseIdx index } inWindow op.closure response
      rw [closure] at completed ⊢
      generalize Client.complete _ _ _ _ _ = after at completed ⊢
      cases completed with
      | @updateUserValues _ user _ _ stored =>
        exact ⟨⟨erased.shown.profile, (reference, user), Client.userCurrent_eq_ok.mpr ⟨rfl, stored⟩⟩,
          erased.network, erased.stored⟩
      | signIn signsIn _ => cases signsIn
      | enter enters _ => cases enters
      | follow _ follows => cases follows
      | alert _ _ => exact ⟨⟨erased.shown.profile, erased.shown.current⟩, erased.network, erased.stored⟩
      | nothing _ => exact erased

theorem Settling.answer {record : Beacon} {server view after : Server} {index : Nat} {op : Op} {response : Response}
    (settling : Settling key original record client server)
    (found : client.network[index]? = some op) (waiting : op.response = none)
    (answered : server.answer view op.request .success = some (response, after)) :
    Settling key original record (client.answered index op response) after := by
  have origin := settling.network op (List.mem_of_getElem? found)
  refine ⟨⟨settling.shown.profile, settling.shown.current⟩, fun other member => ?_, ?_⟩
  · obtain present | ⟨_, rfl⟩ := Client.mem_of_mem_answered member
    · exact settling.network other present
    · exact origin
  · have under := underWay_answered response found waiting (.setBeacon key record.dictValue)
      (.noCompletion .updateBeacon)
    obtain ⟨request, closure⟩ | ⟨uid, value, reference, request, closure⟩ := origin
    · -- the beacon's own write is applied
      rw [request] at answered
      cases Server.answer_cases answered
      right
      simp [lookup_setChild]
    · -- the user's write leaves the beacon as it is
      rw [request] at answered
      cases Server.answer_cases answered
      exact settling.stored.imp_left fun earlier => (under.mp earlier).resolve_left (by simp [request])

end

/-! ## Runs of sessions -/

section

variable {platform : Platform} {key : String} {original : Beacon}

theorem run_cons {starts : World 1 → Prop} {world after : World 1} {action : Action 1}
    {actions : List (Action 1)} :
    (app platform starts).run world (action :: actions) = some after ↔
      ∃ next, (app platform starts).step world action = some next ∧
        (app platform starts).run next actions = some after :=
  Option.bind_eq_some_iff

theorem step_event {starts : World 1 → Prop} {world next : World 1} {event : Event}
    (taken : (app platform starts).step world (.event 0 event) = some next) :
    (world.client 0).handle platform event = some (next.client 0) ∧ next.server = world.server := by
  obtain ⟨client, handled, rfl⟩ := Option.map_eq_some_iff.mp taken
  exact ⟨by simpa using handled, rfl⟩

/-- The inputs of a session go to the form, one after the other. -/
theorem editing_run {inputs : List Input} {rest : List (Action 1)} {form : UpdateController}
    {world after : World 1} (editing : Editing key original form (world.client 0))
    (taken : (app platform Idle).run world
      ((inputs.map fun input => .event 0 (.screen input.event)) ++ rest) = some after) :
    ∃ before, Editing key original (inputs.foldl UpdateController.take form) (before.client 0) ∧
      (app platform Idle).run before rest = some after := by
  induction inputs generalizing form world with
  | nil => exact ⟨world, editing, taken⟩
  | cons input inputs inductionHypothesis =>
    obtain ⟨next, stepped, taken⟩ := run_cons.mp taken
    exact inductionHypothesis (editing_taken editing (step_event stepped).1) taken

/-- The writes of a session are acknowledged in some order. -/
theorem settling_run {record : Beacon} {actions : List (Action 1)} {world after : World 1}
    (settling : Settling key original record (world.client 0) world.server)
    (settles : ∀ action ∈ actions, action.settles)
    (taken : (app platform Idle).run world actions = some after) :
    Settling key original record (after.client 0) after.server := by
  induction actions generalizing world with
  | nil =>
    obtain rfl := Option.some.inj taken
    exact settling
  | cons action actions inductionHypothesis =>
    obtain ⟨next, stepped, taken⟩ := run_cons.mp taken
    refine inductionHypothesis ?_ (fun other member => settles other (List.mem_cons_of_mem _ member)) taken
    have settle := settles action List.mem_cons_self
    obtain ⟨device, event, client, rfl, handled, rfl⟩ |
      ⟨device, index, outcome, op, response, server, rfl, found, waiting, answered, rfl⟩ := step_cases stepped
    · obtain rfl := Subsingleton.elim device 0
      cases event with
      | deliver index inWindow => simpa using settling.deliver handled
      | _ => cases settle
    · obtain rfl := Subsingleton.elim device 0
      cases outcome with
      | success => simpa using settling.answer found waiting answered
      | _ => cases settle

/-- A session stores what it gives, over the beacon as the list has it. -/
theorem session_stores {session : Session} {settling : List (Action 1)} {before after : World 1}
    (shown : Shown key original (before.client 0)) (settled : (before.client 0).network = [])
    (selected : before.keyOfRow session.row = some key) (titled : original.title ≠ "")
    (range : 1 ≤ original.distance.val ∧ original.distance.val ≤ 50) (given : session.title ≠ some "")
    (settles : ∀ action ∈ settling, action.settles)
    (taken : (app platform Idle).run before (session.actions ++ settling) = some after)
    (acknowledged : (after.client 0).network = []) :
    Shown key original (after.client 0) ∧ ∃ record, after.server.beacon platform key = some record ∧
      record.title = session.title.getD original.title ∧
      record.description = session.description.getD original.description ∧
      record.distance = session.distance.getD original.distance := by
  simp only [Session.actions, List.cons_append, List.append_assoc, List.nil_append] at taken
  -- the row opens the form on the beacon as the list has it
  obtain ⟨opened, stepped, taken⟩ := run_cons.mp taken
  obtain ⟨keyed, editing⟩ := editing_opened shown settled (fun home profile root => by
    simpa [World.keyOfRow, root] using selected) (step_event stepped).1
  obtain ⟨filled, editing, taken⟩ := editing_run editing taken
  obtain ⟨saved, stepped, taken⟩ := run_cons.mp taken
  -- each field holds what the session gave last, or what the form was opened with
  generalize form_eq : session.inputs.foldl UpdateController.take (openedForm platform original) = form
    at editing
  have title : form.nameTextField = session.title.getD original.title := by
    rw [← form_eq, UpdateController.nameTextField_takes]
    rfl
  have description : form.descriptionTextField = session.description.getD original.description := by
    rw [← form_eq, UpdateController.descriptionTextField_takes]
    rfl
  have distance : form.distanceSlider.miles = session.distance.getD original.distance := by
    rw [← form_eq, UpdateController.miles_takes]
    exact congrArg _ (Slider.miles_setValue range.1 range.2)
  have keyed : form.beacon.bind Beacon.key = some key := by
    rw [← form_eq, UpdateController.beacon_takes]
    exact keyed
  have named : form.nameTextField ≠ "" := by
    rw [title]
    cases text : session.title with
    | none => exact titled
    | some text => simpa [text] using given
  -- the press sends both writes, and they are acknowledged in some order
  obtain ⟨handled, -⟩ := step_event stepped
  obtain ⟨shown, reference, user, network⟩ := pressed editing named keyed handled
  have settling : Settling key original (form.newBeacon platform user.uid session.now) (saved.client 0)
      saved.server := by
    refine ⟨shown, ?_, .inl ?_⟩
    · rw [network]
      simp [UserService.updateUserValues]
    · rw [network]
      exact ⟨_, List.mem_cons_self, rfl, rfl, rfl⟩
  have done := settling_run settling settles taken
  have stored := done.stored.resolve_left (by rw [acknowledged]; simp [UnderWay])
  exact ⟨done.shown, { form.newBeacon platform user.uid session.now with key := some key },
    by simp [Server.beacon, stored], title, description, distance⟩

end

/-- The profile lists the beacon as it is stored, and nothing is in flight. -/
structure Opened (platform : Platform) (key : String) (original : Beacon) (world : World 1) : Prop where
  shown : Shown key original (world.client 0)
  network : (world.client 0).network = []
  stored : world.server.beacon platform key = some original
  titled : original.title ≠ ""
  range : 1 ≤ original.distance.val ∧ original.distance.val ≤ 50

/-- Each field of the stored beacon is as the last session left it that changed it. -/
def EditsKept (platform : Platform) (key : String) (original : Beacon) (sessions : List Session)
    (world : World 1) : Prop :=
  ∃ record, world.server.beacon platform key = some record ∧
    record.title = latest Session.title original.title sessions ∧
    record.description = latest Session.description original.description sessions ∧
    record.distance = latest Session.distance original.distance sessions

/-- The last session changes the field, or those before it have left it at its original value. -/
def Restores {Value : Type} (given : Session → Option Value) (original : Value) : List Session → Prop
  | [] => True
  | last :: earlier => given last = none → latest given original earlier = original

section

variable {platform : Platform} {key : String} {original : Beacon}

theorem restores_iff {Value : Type} {given : Session → Option Value} {original : Value}
    {sessions : List Session} :
    (sessions.head?.bind given).getD original = latest given original sessions ↔
      Restores given original sessions := by
  cases sessions with
  | nil => simp [Restores]
  | cons last earlier =>
    show (given last).getD original = _ ↔ (given last = none → _)
    exact getD_eq_latest_iff

/-- After any number of sessions, the last one's values stand over the original beacon. -/
theorem sessions_store {sessions : List Session} {start after : World 1}
    (opened : Opened platform key original start) (run : Sessions platform key start sessions after)
    (given : ∀ session ∈ sessions, session.title ≠ some "") :
    Shown key original (after.client 0) ∧ (after.client 0).network = [] ∧
      ∃ record, after.server.beacon platform key = some record ∧
        record.title = (sessions.head?.bind Session.title).getD original.title ∧
        record.description = (sessions.head?.bind Session.description).getD original.description ∧
        record.distance = (sessions.head?.bind Session.distance).getD original.distance := by
  induction run with
  | nil => exact ⟨opened.shown, opened.network, original, opened.stored, rfl, rfl, rfl⟩
  | @cons session earlier settling before after _ selected settles taken acknowledged inductionHypothesis =>
    -- the list still has the original, so what the earlier sessions stored is written over
    obtain ⟨shown, settled, _⟩ :=
      inductionHypothesis fun other member => given other (List.mem_cons_of_mem _ member)
    obtain ⟨shown, stored⟩ := session_stores shown settled selected opened.titled opened.range
      (given session List.mem_cons_self) settles taken acknowledged
    exact ⟨shown, acknowledged, stored⟩

/-- After any sequence of sessions no edit is lost, if and only if every field
is changed by the last session, or left at its original value by those before it. -/
theorem edits_kept_iff {sessions : List Session} {start after : World 1}
    (opened : Opened platform key original start) (run : Sessions platform key start sessions after)
    (given : ∀ session ∈ sessions, session.title ≠ some "") :
    EditsKept platform key original sessions after ↔
      Restores Session.title original.title sessions ∧
        Restores Session.description original.description sessions ∧
        Restores Session.distance original.distance sessions := by
  obtain ⟨_, _, record, stored, title, description, distance⟩ := sessions_store opened run given
  rw [← restores_iff, ← restores_iff, ← restores_iff, ← title, ← description, ← distance]
  constructor
  · rintro ⟨kept, found, fields⟩
    obtain rfl := Option.some.inj (stored.symm.trans found)
    exact fields
  · exact fun fields => ⟨record, stored, fields⟩

end

/-- Ann's profile lists her beacon as it is stored. -/
def World.annOnProfile : World 1 where
  client _ := {
    authCurrentUser := some ⟨"ann", none, none⟩
    userDefaults := some (User.encode { uid := "ann", username := "Ann" })
    objects := [{ uid := "ann", username := "Ann" }]
    current := some 0
    root := .main {
      home := { identifier := 1 }
      screen := .profile { identifier := 2, beacons := [{ Beacon.sample with key := some "campfire" }] } }
    fresh := 3 }
  server := .withBeacon

theorem opened_annOnProfile :
    Opened .sample "campfire" { Beacon.sample with key := some "campfire" } .annOnProfile where
  shown := ⟨⟨_, _, rfl, by simp, by simp⟩, ⟨_, rfl⟩⟩
  network := rfl
  stored := by decide +kernel
  titled := by decide
  range := by decide

/-- Ann gives her beacon another title. -/
def rename : Session := ⟨0, [.edit (.nameTextField "Bonfire")], Beacon.sample.date⟩

/-- Then she gives it a description, with the title or without. -/
def describe : Session := ⟨0, [.edit (.descriptionTextField "Bring wood")], Beacon.sample.date⟩

def renameAndDescribe : Session :=
  ⟨0, [.edit (.nameTextField "Bonfire"), .edit (.descriptionTextField "Bring wood")], Beacon.sample.date⟩

/-- Both writes are answered, and their completions run. -/
def acknowledged : List (Action 1) :=
  [.answer 0 0 .success, .answer 0 1 .success, .event 0 (.deliver 0 true), .event 0 (.deliver 0 true)]

theorem rename_taken :
    ((app .sample Idle).run .annOnProfile (rename.actions ++ acknowledged)).isSome := by
  decide +kernel

def World.annRenamed : World 1 := Option.get _ rename_taken

theorem describe_taken :
    ((app .sample Idle).run .annRenamed (describe.actions ++ acknowledged)).isSome := by
  decide +kernel

theorem renameAndDescribe_taken :
    ((app .sample Idle).run .annRenamed (renameAndDescribe.actions ++ acknowledged)).isSome := by
  decide +kernel

theorem sessions_annRenamed : Sessions .sample "campfire" .annOnProfile [rename] .annRenamed :=
  .cons .nil (by decide +kernel) (by decide) (Option.some_get rename_taken).symm
    (List.isEmpty_iff.mp (by decide +kernel))

theorem renameAndDescribe_edits_kept :
    EditsKept .sample "campfire" { Beacon.sample with key := some "campfire" } [renameAndDescribe, rename]
      (Option.get _ renameAndDescribe_taken) :=
  (edits_kept_iff opened_annOnProfile
    (.cons sessions_annRenamed (by decide +kernel) (by decide) (Option.some_get renameAndDescribe_taken).symm
      (List.isEmpty_iff.mp (by decide +kernel))) (by decide)).mpr
    ⟨fun none => absurd none (by decide), fun none => absurd none (by decide), fun _ => rfl⟩

theorem describe_keeps_title :
    ((Option.get _ describe_taken).server.beacon .sample "campfire").map Beacon.title = some "Campfire" := by
  decide +kernel

/-- The description brings the first title back. -/
theorem edits_not_always_kept :
    ¬ ∀ (platform : Platform) (key : String) (original : Beacon) (sessions : List Session)
      (start after : World 1), Opened platform key original start →
      Sessions platform key start sessions after → (∀ session ∈ sessions, session.title ≠ some "") →
      EditsKept platform key original sessions after := by
  intro always
  obtain ⟨record, stored, title, _⟩ := always _ _ _ [describe, rename] _ (Option.get _ describe_taken)
    opened_annOnProfile (.cons sessions_annRenamed (by decide +kernel) (by decide)
      (Option.some_get describe_taken).symm (List.isEmpty_iff.mp (by decide +kernel))) (by decide)
  have kept := describe_keeps_title
  rw [stored, Option.map_some, title] at kept
  exact absurd kept (by decide)

end Lyv
