import EntitySearch.Error

/-!
Closed sets of keys. Every key has a name of its own, so reading the name of a key gives that
key back (`find?_name`) and every other text is refused.
-/

namespace EntitySearch

/-- A finite type whose members are written by name. -/
class Key (K : Type) where
  /-- What a key of this type is called when a name is refused. -/
  noun : String
  /-- All keys, in the order in which they are listed. -/
  all : List K
  name : K → String
  mem_all : ∀ k, k ∈ all
  name_injective : ∀ a b, name a = name b → a = b

namespace Key

variable {K : Type} [Key K]

def find? (s : String) : Option K := all.find? fun k => name k == s

/-- The key with exactly this name. -/
def read (s : String) : Except InputError K :=
  match find? s with
  | some k => .ok k
  | none => .error (.unknownKey (noun K) s)

theorem find?_eq_some_iff {s : String} {k : K} : find? s = some k ↔ name k = s := by
  constructor
  · intro h
    simpa using List.find?_some h
  · rintro rfl
    cases h : find? (K := K) (name k) with
    | none => simpa using List.find?_eq_none.1 h k (mem_all k)
    | some j =>
      have hj : name j = name k := by simpa using List.find?_some h
      rw [name_injective j k hj]

theorem find?_name (k : K) : find? (name k) = some k := find?_eq_some_iff.2 rfl

theorem read_eq_ok_iff {s : String} {k : K} : read s = .ok k ↔ name k = s := by
  rw [read, ← find?_eq_some_iff]
  cases find? (K := K) s <;> simp

theorem eq_of_read_eq_error {s : String} {e : InputError} (h : read (K := K) s = .error e) :
    e = .unknownKey (noun K) s := by
  rw [read] at h
  split at h
  · contradiction
  · exact (Except.error.inj h).symm

end Key

end EntitySearch
