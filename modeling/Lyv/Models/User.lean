import Lyv.Firebase.StringArray

/-!
# The user model

`dictValue` and `ofSnapshot` are the two directions of the database codec,
`encode` and `decode` those of the keyed archive in UserDefaults.
-/

namespace Lyv

open Lyv.Firebase

namespace Constants.UserDefaults

def uid : String := "uid"
def username : String := "username"
def beacons : String := "beacons"
def profileURL : String := "profileURL"

end Constants.UserDefaults

/-- The account behind a sign-in, `FirebaseAuth.User`. -/
structure FIRUser where
  uid : String
  photoURL : Option String
  displayName : Option String
  deriving DecidableEq

structure User where
  uid : String
  username : String
  beacons : List String := []
  profileURL : String := ""
  deriving DecidableEq

namespace User

def dictValue (user : User) : Json :=
  .object [("uid", .string user.uid), ("username", .string user.username),
    ("beacons", .array (user.beacons.map Json.string)), ("profileURL", .string user.profileURL)]

/-- `init?(snapshot:)`. -/
def ofSnapshot (snapshot : DataSnapshot) : Option User := do
  let dict ← snapshot.value.asDictionary
  let username ← (dict.lookup "username").bind Json.asString
  return {
    uid := snapshot.key
    username := username
    beacons := ((dict.lookup "beacons").bind Json.asStrings).getD []
    profileURL := ((dict.lookup "profileURL").bind Json.asString).getD "" }

end User

/-- The values of a keyed archive, by their keys. -/
abbrev Archive := List (String × Json)

namespace User

/-- `encode(with:)`, as `archivedData(withRootObject:)` runs it. -/
def encode (user : User) : Archive :=
  [(Constants.UserDefaults.uid, .string user.uid),
    (Constants.UserDefaults.username, .string user.username),
    (Constants.UserDefaults.beacons, .array (user.beacons.map Json.string)),
    (Constants.UserDefaults.profileURL, .string user.profileURL)]

/-- `init?(coder:)`, as `unarchiveObject(with:)` runs it. -/
def decode (archive : Archive) : Option User := do
  let uid ← (archive.lookup Constants.UserDefaults.uid).bind Json.asString
  let username ← (archive.lookup Constants.UserDefaults.username).bind Json.asString
  return {
    uid := uid
    username := username
    beacons := ((archive.lookup Constants.UserDefaults.beacons).bind Json.asStrings).getD []
    profileURL := ((archive.lookup Constants.UserDefaults.profileURL).bind Json.asString).getD "" }

@[simp] theorem decode_encode (user : User) : decode user.encode = some user := by
  simp [decode, encode, Constants.UserDefaults.uid, Constants.UserDefaults.username,
    Constants.UserDefaults.beacons, Constants.UserDefaults.profileURL, List.lookup_cons, Json.asString,
    asStrings_map_string]

theorem ofSnapshot_uid {snapshot : DataSnapshot} {user : User}
    (decoded : ofSnapshot snapshot = some user) : user.uid = snapshot.key := by
  simp only [ofSnapshot, Option.bind_eq_bind, Option.bind_eq_some_iff, Option.pure_def,
    Option.some.injEq] at decoded
  obtain ⟨_, _, _, _, rfl⟩ := decoded
  rfl

/-- What `ofSnapshot` reads from any stored dictionary with a user's name in it. -/
theorem ofSnapshot_nodeFrom {fields : List (String × Json)} (nodup : (fields.map Prod.fst).Nodup)
    {username : String} (named : fields.lookup "username" = some (.string username)) (key : String) :
    ofSnapshot ⟨key, nodeFrom (.object fields)⟩ = some {
      uid := key
      username := username
      beacons := (((fields.lookup "beacons").bind readBack).bind Json.asStrings).getD []
      profileURL := (((fields.lookup "profileURL").bind readBack).bind Json.asString).getD "" } := by
  have member : ("username", Json.string username) ∈ fields :=
    (Lyv.Library.lookup_eq_some_iff_mem nodup).mp named
  obtain ⟨stored, asDictionary, lookups⟩ :=
    asDictionary_nodeFrom nodup member rfl (by decide)
  have username' : (readBack (.string username)).bind Json.asString = some username := rfl
  simp [ofSnapshot, DataSnapshot.value, asDictionary, lookups, named, username']

/-- A stored user decodes to itself, whatever its list of beacons. -/
@[simp] theorem ofSnapshot_dictValue (user : User) :
    ofSnapshot ⟨user.uid, nodeFrom user.dictValue⟩ = some user := by
  have profile : (readBack (.string user.profileURL)).bind Json.asString = some user.profileURL := rfl
  rw [dictValue, ofSnapshot_nodeFrom (by simp) rfl]
  simp [List.lookup_cons, readBack_strings, profile]

end User

end Lyv
