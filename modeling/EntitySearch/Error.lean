import EntitySearch.Uuid

/-!
What can go wrong, by cause, and the one wording of each cause. Faults of the caller's input are
found before any store is asked; faults of a store are passed on as they are.
-/

namespace EntitySearch

/-- Why a value does not suit a setting. -/
inductive SettingFault
  | notPositiveInteger
  | outOfRange
  | notBoolean
  deriving DecidableEq

def SettingFault.message : SettingFault → String
  | .notPositiveInteger => "expected a positive integer"
  | .outOfRange => "out of range"
  | .notBoolean => "expected a boolean"

/-- Faults of the caller's input. -/
inductive InputError
  | pageNumber (n : Nat)
  | pageSize (n : Nat)
  | pageSizeTooLarge (requested max : Nat)
  /-- A name outside the closed set of keys that `kind` describes. -/
  | unknownKey (kind name : String)
  | direction (text : String)
  | escape (text : String)
  | criterionValue (key text : String)
  | rangeNotAllowed (key : String)
  | emptyRange (key : String)
  /-- A token without a key, for a type that has no criterion for such tokens. -/
  | keylessCriterion (entity : String)
  | unknownSetting (name : String)
  | settingValue (key : String) (fault : SettingFault)
  deriving DecidableEq

def InputError.message : InputError → String
  | .pageNumber n => s!"page number must be at least 1, got {n}"
  | .pageSize n => s!"page size must be at least 1, got {n}"
  | .pageSizeTooLarge requested max => s!"page size {requested} exceeds the maximum of {max}"
  | .unknownKey kind name => s!"unknown {kind} '{name}'"
  | .direction text => s!"invalid order direction '{text}'"
  | .escape text => s!"unterminated or unsupported escape sequence in '{text}'"
  | .criterionValue key text => s!"value '{text}' is not valid for criterion '{key}'"
  | .rangeNotAllowed key => s!"ranged criteria are not valid for '{key}'"
  | .emptyRange key => s!"range for '{key}' needs at least one bound"
  | .keylessCriterion entity => s!"{entity} does not support criteria without a key"
  | .unknownSetting name => s!"unknown setting '{name}'"
  | .settingValue key fault => s!"invalid value for setting '{key}': {fault.message}"

/-- Faults of a store. -/
inductive StoreError
  | unavailable (backend : String)
  | query (backend message : String)
  | lockPoisoned (message : String)
  deriving DecidableEq

def StoreError.message : StoreError → String
  | .unavailable backend => s!"storage backend '{backend}' is unavailable"
  | .query backend message => s!"{backend} query error: {message}"
  | .lockPoisoned message => s!"storage lock poisoned: {message}"

/-- Whatever keeps an operation on a collection from answering. -/
inductive SearchError
  | input (e : InputError)
  | store (e : StoreError)
  | notFound (entity : String) (id : Uuid)
  deriving DecidableEq

namespace SearchError

def message : SearchError → String
  | .input e => e.message
  | .store e => e.message
  | .notFound entity id => s!"{entity} with id {id.text} not found"

/-- A stable word for the category of the error. -/
def code : SearchError → String
  | .input _ => "VALIDATION_ERROR"
  | .store _ => "DATA_ACCESS_ERROR"
  | .notFound _ _ => "ENTITY_NOT_FOUND"

def isNotFound : SearchError → Bool
  | .notFound _ _ => true
  | _ => false

end SearchError

end EntitySearch
