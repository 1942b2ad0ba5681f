import EntitySearch.Proofs.JsonText
import EntitySearch.Value.Json

/-!
Field values written as JSON and read again. In any text form of JSON that loses nothing, all values
without rounding come back as what they were, except for moments: they are written as strings, and
a string comes back as a text (`Value.restored_eq_self_iff`).
-/

namespace EntitySearch

/-- A text form of JSON from which all values without parts are read back as they were written,
floats apart. -/
def Json.Lossless (write : Json → String) (read : String → Option Json) : Prop :=
  ∀ j : Json, j.IsPlain → read (write j) = some j

namespace Value

/-- A value that a field can hold, and that is no float. Whole numbers have signed words of 64
bits. -/
inductive IsExact : Value → Prop
  | text (s : String) : IsExact (.text s)
  | integer {i : Int} (h : Number.fitsInt64 i = true) : IsExact (.integer i)
  | boolean (b : Bool) : IsExact (.boolean b)
  | moment (t : Moment) : IsExact (.moment t)
  | null : IsExact .null

/-- What becomes of a value that is written as JSON and read again. -/
def restored (write : Json → String) (read : String → Option Json) (v : Value) : Option Value :=
  (read (write v.toJson)).bind ofJson?

variable {v : Value}

theorem IsExact.isPlain_toJson (h : v.IsExact) : v.toJson.IsPlain := by
  cases h with
  | text s => exact .string s
  | integer h => exact .integer h
  | boolean b => exact .boolean b
  | moment t => exact .string _
  | null => exact .null

/-- The kind of a value is left out of its JSON, and is found again by the shape of the JSON. -/
theorem ofJson?_toJson (h : v.IsExact) (hmoment : ∀ t, v ≠ .moment t) :
    ofJson? v.toJson = some v := by
  cases h with
  | integer h => rw [toJson, ofJson?, if_pos h]
  | moment t => exact absurd rfl (hmoment t)
  | _ => rfl

section

variable {write : Json → String} {read : String → Option Json} (hlossless : Json.Lossless write read)

include hlossless

theorem restored_eq (h : v.IsExact) : restored write read v = ofJson? v.toJson := by
  rw [restored, hlossless v.toJson h.isPlain_toJson]
  rfl

theorem restored_moment (t : Moment) :
    restored write read (.moment t) = some (.text (Timestamp.text t)) :=
  restored_eq hlossless (.moment t)

end

theorem lossless_text : Json.Lossless Json.text Json.ofText? := fun _ => Json.ofText?_text

/-- Texts, whole numbers, truth values and null survive JSON, whatever they are. No moment does: it
comes back as the text of its timestamp. -/
theorem restored_eq_self_iff {write : Json → String} {read : String → Option Json}
    (hlossless : Json.Lossless write read) :
    (∀ v : Value, v.IsExact → (restored write read v = some v ↔ ∀ t, v ≠ .moment t)) ∧
    ∀ t, restored write read (.moment t) = some (.text (Timestamp.text t)) := by
  refine ⟨fun v hv => ?_, restored_moment hlossless⟩
  constructor
  · intro h t hv
    rw [hv, restored_moment hlossless] at h
    exact absurd (Option.some.inj h) nofun
  · intro hmoment
    rw [restored_eq hlossless hv, ofJson?_toJson hv hmoment]

/-- A text that looks like a timestamp is a text again, and the least whole number is itself. -/
theorem restored_eq_self_iff_timestamp :
    let date : Value := .text "2015-03-01T01:02:03Z"
    let least : Value := .integer (-0x8000000000000000)
    Json.Lossless Json.text Json.ofText? ∧ date.IsExact ∧ least.IsExact ∧
      restored Json.text Json.ofText? date = some date ∧
      restored Json.text Json.ofText? least = some least := by
  intro date least
  have hdate : date.IsExact := .text _
  have hleast : least.IsExact := .integer (by decide)
  obtain ⟨hself, -⟩ := restored_eq_self_iff lossless_text
  exact ⟨lossless_text, hdate, hleast, (hself date hdate).2 nofun, (hself least hleast).2 nofun⟩

/-- A moment of the first of March 2015 comes back as a text, so that not all values survive. -/
theorem restored_moment_ne_self :
    let t : Moment := ⟨63560768523, 0, by decide⟩
    restored Json.text Json.ofText? (.moment t) = some (.text "2015-03-01T01:02:03Z") ∧
      ¬ ∀ v : Value, v.IsExact → restored Json.text Json.ofText? v = some v := by
  intro t
  have htext : Timestamp.text t = "2015-03-01T01:02:03Z" := by decide +kernel
  have hmoment : restored Json.text Json.ofText? (.moment t) =
      some (.text "2015-03-01T01:02:03Z") := by
    rw [restored_moment lossless_text, htext]
  refine ⟨hmoment, fun h => ?_⟩
  rw [h (.moment t) (.moment t)] at hmoment
  exact absurd (Option.some.inj hmoment) nofun

end Value

end EntitySearch
