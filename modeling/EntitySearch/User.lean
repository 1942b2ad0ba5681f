import EntitySearch.Schema
import EntitySearch.Settings
import EntitySearch.Store
import EntitySearch.Value.Json

/-!
Users: what they hold, how they are searched, and how their settings are edited. A user without
a name of their own, of rank `anonymous`, gets edited settings back but nothing is saved.
-/

namespace EntitySearch

/-- Ranks from least to most privileged. -/
inductive AccessRank
  | anonymous
  | restricted
  | regular
  | power
  | moderator
  | administrator
  deriving DecidableEq

instance : Key AccessRank where
  noun := "access rank"
  all := [.anonymous, .restricted, .regular, .power, .moderator, .administrator]
  name
    | .anonymous => "anonymous"
    | .restricted => "restricted"
    | .regular => "regular"
    | .power => "power"
    | .moderator => "moderator"
    | .administrator => "administrator"
  mem_all := by rintro ⟨⟩ <;> decide
  name_injective := by rintro ⟨⟩ ⟨⟩ h <;> first | rfl | exact absurd h (by decide)

structure User where
  id : Uuid
  name : String
  email : Option String
  passwordHash : String
  rank : AccessRank
  registered : Moment
  lastLogin : Option Moment
  settings : Settings
  deriving DecidableEq

inductive UserSort
  | name
  | registered
  | lastLogin
  deriving DecidableEq

instance : Key UserSort where
  noun := "user order key"
  all := [.name, .registered, .lastLogin]
  name
    | .name => "name"
    | .registered => "registration_time"
    | .lastLogin => "last_login_time"
  mem_all := by rintro ⟨⟩ <;> decide
  name_injective := by rintro ⟨⟩ ⟨⟩ h <;> first | rfl | exact absurd h (by decide)

inductive UserField
  | name
  | email
  | rank
  | registered
  | lastLogin
  deriving DecidableEq

instance : Key UserField where
  noun := "user criterion"
  all := [.name, .email, .rank, .registered, .lastLogin]
  name
    | .name => "name"
    | .email => "email"
    | .rank => "rank"
    | .registered => "registration_time"
    | .lastLogin => "last_login_time"
  mem_all := by rintro ⟨⟩ <;> decide
  name_injective := by rintro ⟨⟩ ⟨⟩ h <;> first | rfl | exact absurd h (by decide)

namespace User

def isAnonymous (u : User) : Bool := u.rank == .anonymous

def kind : UserField → ValueKind
  | .name | .email => .text
  | .rank => .enum ((Key.all (K := AccessRank)).map Key.name)
  | .registered | .lastLogin => .moment

def value (u : User) : UserField → Value
  | .name => .text u.name
  | .email => .orNull .text u.email
  | .rank => .text (Key.name u.rank)
  | .registered => .moment u.registered
  | .lastLogin => .orNull .moment u.lastLogin

def sortValue (u : User) : UserSort → Value
  | .name => .text u.name
  | .registered => .moment u.registered
  | .lastLogin => .orNull .moment u.lastLogin

/-- Newest registrations first; what has no key is a name. -/
def schema : Schema User UserSort UserField where
  plural := "users"
  singular := "user"
  id := User.id
  kind := kind
  values u k := [u.value k]
  sortValue := sortValue
  defaultOrder := .ofList [(.registered, .descending)]
  keyless := some .name

def toJson (u : User) : Json :=
  .object [
    ("id", .string u.id.text),
    ("name", .string u.name),
    ("email", .ofString? u.email),
    ("password_hash", .string u.passwordHash),
    ("access_rank", .string (Key.name u.rank)),
    ("registration_time", .string (Timestamp.text u.registered)),
    ("last_login_time", .ofString? (u.lastLogin.map Timestamp.text)),
    ("settings", u.settings.toJson)]

def members : List String :=
  ["id", "name", "email", "password_hash", "access_rank", "registration_time", "last_login_time",
    "settings"]

/-- Reads a record; the settings may be missing. -/
def ofJson? (j : Json) : Option User := do
  let m ← j.record? members 7
  some {
    id := ← Json.required? m "id" fun j => j.string?.bind Uuid.ofText?
    name := ← Json.required? m "name" Json.string?
    email := ← Json.optional? m "email" Json.string?
    passwordHash := ← Json.required? m "password_hash" Json.string?
    rank := ← Json.required? m "access_rank" fun j => j.name?.bind Key.find?
    registered := ← Json.required? m "registration_time" fun j => j.string?.bind Timestamp.ofText?
    lastLogin := ← Json.optional? m "last_login_time" fun j => j.string?.bind Timestamp.ofText?
    settings := ← Json.defaulted? m "settings" .standard Settings.ofJson? }

/-- Applies changes to the settings of a stored user, and saves the user unless anonymous. -/
def editSettings {m : Type → Type} [Monad m] (s : Store m User UserSort UserField) (id : Uuid)
    (changes : InsertionMap String Json) : ExceptT SearchError m User := do
  let user ← s.find schema id
  let settings ← Store.check (user.settings.apply changes)
  let edited := { user with settings }
  if edited.isAnonymous then pure edited else s.save edited

end User

end EntitySearch
