import AliasSync.Json.Basic

/-! Records from JSON: an object whose known members occur at most once, or an array of them in their
order, of which some at the end may be missing. Other members are passed over. -/

namespace AliasSync.Json

def text? : Json → Option String
  | .string text => text
  | _ => none

def items? : Json → Option (List Json)
  | .array items => some items
  | _ => none

/-- The value of the only member of a name, or nothing where there is none. Two are too many. -/
def member? (name : String) (members : List (Option String × Json)) : Option (Option Json) :=
  match members.filter (·.1 == some name) with
  | [] => some none
  | [(_, value)] => some (some value)
  | _ => none

/-- The values of the named members, each of which may be missing. -/
def record? (names : List String) : Json → Option (List (Option Json))
  | .object members =>
    if members.all (·.1.isSome) then names.mapM (member? · members) else none
  | .array items =>
    if items.length ≤ names.length then
      some (items.map some ++ List.replicate (names.length - items.length) none)
    else none
  | _ => none

def orDefault (default : α) (decode : Json → Option α) : Option Json → Option α
  | none => some default
  | some value => decode value

def orNull (decode : Json → Option α) : Option Json → Option (Option α)
  | none => some none
  | some .null => some none
  | some value => (decode value).map some

end AliasSync.Json
