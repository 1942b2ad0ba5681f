import EntitySearch.Json.Basic
import EntitySearch.Schema
import EntitySearch.Value.Json

/-!
Posts: an image with its tags, a safety rating, and counts. The ratio of an image is width by
height and is missing while the height is zero.
-/

namespace EntitySearch

inductive Safety
  | safe
  | sketchy
  | unsafeForWork
  deriving DecidableEq

instance : Key Safety where
  noun := "safety"
  all := [.safe, .sketchy, .unsafeForWork]
  name
    | .safe => "safe"
    | .sketchy => "sketchy"
    | .unsafeForWork => "unsafe"
  mem_all := by rintro ⟨⟩ <;> decide
  name_injective := by rintro ⟨⟩ ⟨⟩ h <;> first | rfl | exact absurd h (by decide)

structure Post where
  id : Uuid
  uploader : Option String
  tags : List String
  safety : Safety
  score : Int
  favorites : Int
  notes : Int
  /-- Width and height in pixels; zero when unknown. -/
  width : Nat
  height : Nat
  created : Moment
  deriving DecidableEq

inductive PostSort
  | created
  | score
  | favorites
  | tagCount
  deriving DecidableEq

instance : Key PostSort where
  noun := "post order key"
  all := [.created, .score, .favorites, .tagCount]
  name
    | .created => "creation_time"
    | .score => "score"
    | .favorites => "favorite_count"
    | .tagCount => "tag_count"
  mem_all := by rintro ⟨⟩ <;> decide
  name_injective := by rintro ⟨⟩ ⟨⟩ h <;> first | rfl | exact absurd h (by decide)

inductive PostField
  | tag
  | uploader
  | safety
  | score
  | favorites
  | tagCount
  | notes
  | hasNotes
  | width
  | height
  | ratio
  | created
  deriving DecidableEq

instance : Key PostField where
  noun := "post criterion"
  all := [.tag, .uploader, .safety, .score, .favorites, .tagCount, .notes, .hasNotes, .width,
    .height, .ratio, .created]
  name
    | .tag => "tag"
    | .uploader => "uploader"
    | .safety => "safety"
    | .score => "score"
    | .favorites => "favorite_count"
    | .tagCount => "tag_count"
    | .notes => "note_count"
    | .hasNotes => "has_notes"
    | .width => "image_width"
    | .height => "image_height"
    | .ratio => "image_ar"
    | .created => "creation_time"
  mem_all := by rintro ⟨⟩ <;> decide
  name_injective := by rintro ⟨⟩ ⟨⟩ h <;> first | rfl | exact absurd h (by decide)

namespace Post

def tagCount (p : Post) : Int := p.tags.length

/-- Width by height, while the height is not zero. -/
def ratio? (p : Post) : Option Binary64 :=
  if 0 < p.height then some (.ofRatio false p.width p.height) else none

def kind : PostField → ValueKind
  | .tag | .uploader => .text
  | .safety => .enum ((Key.all (K := Safety)).map Key.name)
  | .score | .favorites | .tagCount | .notes | .width | .height => .integer
  | .hasNotes => .boolean
  | .ratio => .float
  | .created => .moment

def values (p : Post) : PostField → List Value
  | .tag => p.tags.map .text
  | .uploader => [.orNull .text p.uploader]
  | .safety => [.text (Key.name p.safety)]
  | .score => [.integer p.score]
  | .favorites => [.integer p.favorites]
  | .tagCount => [.integer p.tagCount]
  | .notes => [.integer p.notes]
  | .hasNotes => [.boolean (0 < p.notes)]
  | .width => [.integer p.width]
  | .height => [.integer p.height]
  | .ratio => [.orNull .float p.ratio?]
  | .created => [.moment p.created]

def sortValue (p : Post) : PostSort → Value
  | .created => .moment p.created
  | .score => .integer p.score
  | .favorites => .integer p.favorites
  | .tagCount => .integer p.tagCount

/-- Newest first; what has no key is a tag. -/
def schema : Schema Post PostSort PostField where
  plural := "posts"
  singular := "post"
  id := Post.id
  kind := kind
  values := values
  sortValue := sortValue
  defaultOrder := .ofList [(.created, .descending)]
  keyless := some .tag

def toJson (p : Post) : Json :=
  .object [
    ("id", .string p.id.text),
    ("uploader", .ofString? p.uploader),
    ("tags", .array (p.tags.map .string)),
    ("safety", .string (Key.name p.safety)),
    ("score", .integer p.score),
    ("favorite_count", .integer p.favorites),
    ("note_count", .integer p.notes),
    ("width", .integer p.width),
    ("height", .integer p.height),
    ("creation_time", .string (Timestamp.text p.created))]

def members : List String :=
  ["id", "uploader", "tags", "safety", "score", "favorite_count", "note_count", "width", "height",
    "creation_time"]

/-- Reads a record. -/
def ofJson? (j : Json) : Option Post := do
  let m ← j.record? members 10
  some {
    id := ← Json.required? m "id" fun j => j.string?.bind Uuid.ofText?
    uploader := ← Json.optional? m "uploader" Json.string?
    tags := ← Json.required? m "tags" (Json.listOf? Json.string?)
    safety := ← Json.required? m "safety" fun j => j.name?.bind Key.find?
    score := ← Json.required? m "score" Json.int64?
    favorites := ← Json.required? m "favorite_count" Json.int64?
    notes := ← Json.required? m "note_count" Json.int64?
    width := ← Json.required? m "width" Json.nat32?
    height := ← Json.required? m "height" Json.nat32?
    created := ← Json.required? m "creation_time" fun j => j.string?.bind Timestamp.ofText? }

end Post

end EntitySearch
