import EntitySearch.Yaml.Token

/-!
Reading a YAML text of one document. Where a node may be left out, the tokens that may follow it
say that it is missing, and the empty plain scalar stands for it.
-/

namespace EntitySearch.Yaml

mutual

/-- One node and the tokens after it. As a key or value of a block mapping, a sequence may be
without an indentation of its own. -/
def takeNode : Nat → Bool → List Token → Option (Yaml × List Token)
  | 0, _, _ => none
  | fuel + 1, inMapping, ts =>
    match ts with
    | .plain s :: rest => some (.plain s, rest)
    | .quoted s :: rest => some (.quoted s, rest)
    | .flowSequence :: rest => takeFlowItems fuel [] rest
    | .flowMapping :: rest => takeFlowEntries fuel [] rest
    | .blockSequence :: rest => takeItems fuel [] rest
    | .blockMapping :: rest => takeEntries fuel [] rest
    | .item :: _ => if inMapping then takeLevelItems fuel [] ts else none
    | _ => none

/-- A node that is missing when one of the tokens `after` comes next. -/
def takeOptional : Nat → Bool → List Token → List Token → Option (Yaml × List Token)
  | 0, _, _, _ => none
  | fuel + 1, inMapping, after, ts =>
    if ts.head?.any after.contains then some (nothing, ts) else takeNode fuel inMapping ts

/-- A value after its mark, or nothing without one. -/
def takeValue : Nat → Bool → List Token → List Token → Option (Yaml × List Token)
  | 0, _, _, _ => none
  | fuel + 1, inMapping, after, ts =>
    match ts with
    | .value :: rest => takeOptional fuel inMapping after rest
    | _ => some (nothing, ts)

/-- The rest of a block sequence with an indentation of its own. -/
def takeItems : Nat → List Yaml → List Token → Option (Yaml × List Token)
  | 0, _, _ => none
  | fuel + 1, done, ts =>
    match ts with
    | .item :: rest => do
      let (item, rest) ← takeOptional fuel false [.item, .blockEnd] rest
      takeItems fuel (item :: done) rest
    | .blockEnd :: rest => some (.sequence done.reverse, rest)
    | _ => none

/-- The rest of a block sequence at the level of the mapping it stands in. -/
def takeLevelItems : Nat → List Yaml → List Token → Option (Yaml × List Token)
  | 0, _, _ => none
  | fuel + 1, done, ts =>
    match ts with
    | .item :: rest => do
      let (item, rest) ← takeOptional fuel false [.item, .key, .value, .blockEnd] rest
      takeLevelItems fuel (item :: done) rest
    | _ => some (.sequence done.reverse, ts)

/-- The rest of a block mapping. -/
def takeEntries : Nat → List (Yaml × Yaml) → List Token → Option (Yaml × List Token)
  | 0, _, _ => none
  | fuel + 1, done, ts =>
    match ts with
    | .key :: rest => do
      let (key, rest) ← takeOptional fuel true [.key, .value, .blockEnd] rest
      let (value, rest) ← takeValue fuel true [.key, .value, .blockEnd] rest
      takeEntries fuel ((key, value) :: done) rest
    | .blockEnd :: rest => some (.mapping done.reverse, rest)
    | _ => none

/-- The rest of a flow sequence. A key in it begins a mapping of one entry; when no node follows
the mark of a key, the token after it is passed over. -/
def takeFlowItems : Nat → List Yaml → List Token → Option (Yaml × List Token)
  | 0, _, _ => none
  | fuel + 1, done, ts =>
    match ts with
    | .flowSequenceEnd :: rest => some (.sequence done.reverse, rest)
    | _ => do
      let (item, rest) ←
        match ts with
        | .key :: rest => do
          let (key, rest) ←
            match rest with
            | .value :: rest | .comma :: rest | .flowSequenceEnd :: rest => some (nothing, rest)
            | _ => takeNode fuel false rest
          let (value, rest) ← takeValue fuel false [.comma, .flowSequenceEnd] rest
          some (.mapping [(key, value)], rest)
        | _ => takeNode fuel false ts
      match rest with
      | .comma :: rest => takeFlowItems fuel (item :: done) rest
      | .flowSequenceEnd :: rest => some (.sequence (item :: done).reverse, rest)
      | _ => none

/-- The rest of a flow mapping. A node that is no key is one without a value. -/
def takeFlowEntries : Nat → List (Yaml × Yaml) → List Token → Option (Yaml × List Token)
  | 0, _, _ => none
  | fuel + 1, done, ts =>
    match ts with
    | .flowMappingEnd :: rest => some (.mapping done.reverse, rest)
    | _ => do
      let (entry, rest) ←
        match ts with
        | .key :: rest => do
          let (key, rest) ← takeOptional fuel false [.value, .comma, .flowMappingEnd] rest
          let (value, rest) ← takeValue fuel false [.comma, .flowMappingEnd] rest
          some ((key, value), rest)
        | _ => do
          let (key, rest) ← takeNode fuel false ts
          some ((key, nothing), rest)
      match rest with
      | .comma :: rest => takeFlowEntries fuel (entry :: done) rest
      | .flowMappingEnd :: rest => some (.mapping (entry :: done).reverse, rest)
      | _ => none

end

/-- Enough fuel for a node of so many tokens: each takes three calls at most. -/
def nodeFuel (ts : List Token) : Nat := 3 * ts.length + 1

/-- The node of a document, whose start need not be marked. After its end only end marks
may come. -/
def ofTokens? (ts : List Token) : Option Yaml := do
  let node := takeNode (nodeFuel ts) false
  let (y, rest) ←
    match ts with
    | [] | [.documentStart] => some (nothing, [])
    | .documentStart :: .documentEnd :: rest => some (nothing, rest)
    | .documentStart :: rest => node rest
    | _ => node ts
  if rest.all (· == .documentEnd) then some y else none

def ofText? (s : String) : Option Yaml := (tokens? s).bind ofTokens?

end EntitySearch.Yaml
