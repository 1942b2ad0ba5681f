import EntitySearch.Error
import EntitySearch.Json.Basic
import EntitySearch.Key

/-!
Settings of a user: five switches and a page length. Changes come as JSON, are all checked first
and then all made, so a refused change leaves every setting as it was.
-/

namespace EntitySearch

/-- The settings that are on or off. -/
inductive Switch
  | endlessScrolling
  | showTags
  | hideDownvoted
  | keepUploadFlags
  | upscaleSmallPosts
  deriving DecidableEq

inductive SettingKey
  | switch (s : Switch)
  | postsPerPage
  deriving DecidableEq

namespace SettingKey

def name : SettingKey → String
  | .switch .endlessScrolling => "endless_scrolling"
  | .switch .showTags => "show_tags"
  | .switch .hideDownvoted => "hide_downvoted"
  | .switch .keepUploadFlags => "keep_upload_flags"
  | .switch .upscaleSmallPosts => "upscale_small_posts"
  | .postsPerPage => "posts_per_page"

instance : Key SettingKey where
  noun := "setting"
  all := [.switch .endlessScrolling, .switch .showTags, .switch .hideDownvoted,
    .switch .keepUploadFlags, .switch .upscaleSmallPosts, .postsPerPage]
  name := name
  mem_all := by rintro (⟨⟨⟩⟩ | _) <;> decide
  name_injective := by
    rintro (⟨⟨⟩⟩ | _) (⟨⟨⟩⟩ | _) h <;> first | rfl | exact absurd h (by decide)

/-- A setting with exactly this name. -/
def read (s : String) : Except InputError SettingKey :=
  match Key.find? s with
  | some k => .ok k
  | none => .error (.unknownSetting s)

end SettingKey

/-- A change that has been checked. -/
inductive SettingChange
  | switch (s : Switch) (on : Bool)
  | postsPerPage (n : Nat)
  deriving DecidableEq

def maxPostsPerPage : Nat := 100

/-- A switch takes a boolean, the page length a whole number from 1 to 100. -/
def SettingChange.read (name : String) (value : Json) : Except InputError SettingChange := do
  match ← SettingKey.read name with
  | .switch s =>
    match value.boolean? with
    | some on => pure (.switch s on)
    | none => throw (.settingValue name .notBoolean)
  | .postsPerPage =>
    match value.nat64? with
    | some n =>
      if n = 0 ∨ maxPostsPerPage < n then throw (.settingValue name .outOfRange)
      else pure (.postsPerPage n)
    | none => throw (.settingValue name .notPositiveInteger)

structure Settings where
  endlessScrolling : Bool := false
  showTags : Bool := false
  hideDownvoted : Bool := false
  keepUploadFlags : Bool := false
  upscaleSmallPosts : Bool := false
  postsPerPage : Nat := 40
  deriving DecidableEq

namespace Settings

/-- Off, and 40 posts a page. -/
def standard : Settings := {}

def setSwitch (s : Settings) (on : Bool) : Switch → Settings
  | .endlessScrolling => { s with endlessScrolling := on }
  | .showTags => { s with showTags := on }
  | .hideDownvoted => { s with hideDownvoted := on }
  | .keepUploadFlags => { s with keepUploadFlags := on }
  | .upscaleSmallPosts => { s with upscaleSmallPosts := on }

def set (s : Settings) : SettingChange → Settings
  | .switch w on => s.setSwitch on w
  | .postsPerPage n => { s with postsPerPage := n }

/-- Sets what a key names to on or off; a key that names no switch changes nothing. -/
def setKey (s : Settings) (on : Bool) : SettingKey → Settings
  | .switch w => s.setSwitch on w
  | .postsPerPage => s

/-- Checks all changes in ascending order of their names, then makes them all. -/
def apply (s : Settings) (changes : InsertionMap String Json) : Except InputError Settings := do
  let entries := changes.entries.mergeSort fun a b => (compare a.1 b.1).isLE
  let checked ← entries.mapM fun (name, value) => SettingChange.read name value
  pure (checked.foldl set s)

def toJson (s : Settings) : Json :=
  .object [
    ("endless_scrolling", .boolean s.endlessScrolling),
    ("show_tags", .boolean s.showTags),
    ("hide_downvoted", .boolean s.hideDownvoted),
    ("keep_upload_flags", .boolean s.keepUploadFlags),
    ("upscale_small_posts", .boolean s.upscaleSmallPosts),
    ("posts_per_page", .integer s.postsPerPage)]

def members : List String :=
  ["endless_scrolling", "show_tags", "hide_downvoted", "keep_upload_flags",
    "upscale_small_posts", "posts_per_page"]

/-- Reads a record; what is missing is as in `standard`. -/
def ofJson? (j : Json) : Option Settings := do
  let m ← j.record? members 0
  let switch (name : String) := Json.defaulted? m name false Json.boolean?
  some {
    endlessScrolling := ← switch "endless_scrolling"
    showTags := ← switch "show_tags"
    hideDownvoted := ← switch "hide_downvoted"
    keepUploadFlags := ← switch "keep_upload_flags"
    upscaleSmallPosts := ← switch "upscale_small_posts"
    postsPerPage := ← Json.defaulted? m "posts_per_page" 40 Json.nat32? }

end Settings

end EntitySearch
