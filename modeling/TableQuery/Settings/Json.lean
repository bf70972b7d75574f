import TableQuery.Error
import TableQuery.Json
import TableQuery.Settings

/-!
# Settings as JSON

Settings are read from an object with any of the three fields, or from an array of their values in
order, which may be short. Unknown fields are passed over; a known field may not come twice. They
are written as an object of three lines.
-/

namespace TableQuery

namespace ConditionMode

/-- The mode that a tree names: a string, or an object with the name as its only field and null as
its value. -/
def ofJson? : Json → Option ConditionMode
  | .string points => (Json.textOf? points).bind ofName?
  | .object [(points, .null)] => (Json.textOf? points).bind ofName?
  | _ => none

end ConditionMode

namespace Settings

/-- The truth value of a tree. -/
def flagOfJson? : Json → Option Bool
  | .bool value => some value
  | _ => none

/-- The names of the fields, in order. -/
def fieldNames : List String := ["where_mode", "like_case_insensitive", "nulls_first"]

/-- The settings with one field set; none when the value does not suit it. -/
def setField? (settings : Settings) (name : String) (value : Json) : Option Settings :=
  match name with
  | "where_mode" =>
    (ConditionMode.ofJson? value).map fun mode => { settings with conditionMode := mode }
  | "like_case_insensitive" =>
    (flagOfJson? value).map fun flag => { settings with ignoreCase := flag }
  | "nulls_first" => (flagOfJson? value).map fun flag => { settings with nullsFirst := flag }
  | _ => some settings

/-- Sets the fields of an object one after the other; `seen` holds the known ones already set. -/
def setFields? (settings : Settings) (seen : List String) :
    List (List Nat × Json) → Option Settings
  | [] => some settings
  | (points, value) :: rest => do
    let name ← Json.textOf? points
    if seen.contains name then none
    else
      let settings ← settings.setField? name value
      setFields? settings (if fieldNames.contains name then name :: seen else seen) rest

/-- The settings that a tree describes. -/
def ofJson? : Json → Option Settings
  | .object fields => setFields? {} [] fields
  | .array items =>
    if items.length ≤ fieldNames.length then
      (fieldNames.zip items).foldlM (fun settings (name, value) => settings.setField? name value) {}
    else none
  | _ => none

/-- The settings that a text describes. -/
def ofText (text : String) : Result Settings :=
  match (Json.read? text).bind ofJson? with
  | some settings => .ok settings
  | none => .error .settings

/-- The settings as a text. -/
def toText (settings : Settings) : String :=
  let line (name value : String) := "  " ++ Json.writeString name ++ ": " ++ value
  let flag (value : Bool) := if value then "true" else "false"
  let lines :=
    [line "where_mode" (Json.writeString settings.conditionMode.name),
      line "like_case_insensitive" (flag settings.ignoreCase),
      line "nulls_first" (flag settings.nullsFirst)]
  "\x7b\n" ++ ",\n".intercalate lines ++ "\n\x7d"

end Settings

end TableQuery
