import EntityQuery.Error
import EntityQuery.Json.Outline

/-! The settings of conditions and updates, and their form as a JSON document. -/

namespace EntityQuery

/-- What becomes of a value that an update cannot convert: it is kept as it is, or the whole update
fails. -/
inductive CoercionPolicy where
  | degrade
  | strict
  deriving DecidableEq, Repr

def CoercionPolicy.name : CoercionPolicy → String
  | degrade => "degrade"
  | strict => "strict"

structure Config where
  listSeparator : Char := ','
  coercionPolicy : CoercionPolicy := .degrade
  dateFormats : List String := []
  deriving DecidableEq, Repr

namespace Config

def separatorOf? : JsonOutline → Option Char
  | .string (some s) =>
    match s.toList with
    | [c] => some c
    | _ => none
  | _ => none

def policyOfName? (name : String) : Option CoercionPolicy :=
  [CoercionPolicy.degrade, .strict].find? (·.name == name)

/-- The name of a policy, which may also be the only key of an object that holds null. -/
def policyOf? : JsonOutline → Option CoercionPolicy
  | .string (some name) => policyOfName? name
  | .object [(some name, .null)] => policyOfName? name
  | _ => none

def formatOf? : JsonOutline → Option String
  | .string s => s
  | _ => none

def formatsOf? : JsonOutline → Option (List String)
  | .array items => items.mapM formatOf?
  | _ => none

/-- The setting under a key: nothing where the key is missing, failure where it is repeated or its
value cannot be read. -/
def setting? {α : Type} (members : List (String × JsonOutline)) (key : String)
    (read? : JsonOutline → Option α) : Option (Option α) :=
  match members.filter (·.1 == key) with
  | [] => some none
  | [(_, value)] => (read? value).map some
  | _ => none

def ofSettings (separator : Option Char) (policy : Option CoercionPolicy)
    (formats : Option (List String)) : Config :=
  let base : Config := {}
  ⟨separator.getD base.listSeparator, policy.getD base.coercionPolicy,
    formats.getD base.dateFormats⟩

/-- An object with settings under their keys, all else in it being ignored, or a list of up to three
settings in their order. -/
def ofOutline? : JsonOutline → Option Config
  | .object members => do
    let members ← members.mapM fun (key, value) => key.map (·, value)
    let separator ← setting? members "list_separator" separatorOf?
    let policy ← setting? members "coercion_policy" policyOf?
    let formats ← setting? members "date_formats" formatsOf?
    return ofSettings separator policy formats
  | .array [] => some {}
  | .array [a] => do return ofSettings (← separatorOf? a) none none
  | .array [a, b] => do return ofSettings (← separatorOf? a) (← policyOf? b) none
  | .array [a, b, c] => do
    return ofSettings (← separatorOf? a) (← policyOf? b) (← formatsOf? c)
  | _ => none

def ofText (text : String) : Except QueryError Config :=
  match (JsonOutline.ofText? text).bind ofOutline? with
  | some config => .ok config
  | none => .error .invalidConfiguration

end Config

end EntityQuery
