import TableQuery.Text.Blank
import TableQuery.Text.Case

/-!
# Settings

How conditions are combined, whether patterns heed case, and where empty cells sort. Settings start
from defaults and may be overridden one by one by texts; a text that says nothing is passed over.
-/

namespace TableQuery

/-- How the comparisons of a condition are combined: as the tree says, or all of them at once. -/
inductive ConditionMode where
  | boolean
  | conjunctive
  deriving DecidableEq

namespace ConditionMode

/-- The name of a mode. -/
def name : ConditionMode → String
  | boolean => "boolean"
  | conjunctive => "conjunctive"

/-- The mode of exactly this name. -/
def ofName? (text : String) : Option ConditionMode :=
  [boolean, conjunctive].find? fun mode => mode.name == text

/-- The mode that a text names, in any ASCII case and with white space around it. -/
def ofText? (text : String) : Option ConditionMode := ofName? (Text.asciiLower (Text.trim text))

end ConditionMode

/-- The settings of an engine. -/
structure Settings where
  conditionMode : ConditionMode := .boolean
  ignoreCase : Bool := false
  nullsFirst : Bool := true
  deriving DecidableEq, Inhabited

namespace Settings

/-- The truth value that a text names, in any ASCII case and with white space around it. -/
def flag? (text : String) : Option Bool :=
  let word := Text.asciiLower (Text.trim text)
  if ["true", "1", "yes", "on"].contains word then some true
  else if ["false", "0", "no", "off"].contains word then some false
  else none

/-- Texts that override single settings. -/
structure Overrides where
  conditionMode : Option String := none
  ignoreCase : Option String := none
  nullsFirst : Option String := none

/-- The settings after overriding; a text without meaning leaves its setting as it was. -/
def override (settings : Settings) (overrides : Overrides) : Settings where
  conditionMode :=
    (overrides.conditionMode.bind ConditionMode.ofText?).getD settings.conditionMode
  ignoreCase := (overrides.ignoreCase.bind flag?).getD settings.ignoreCase
  nullsFirst := (overrides.nullsFirst.bind flag?).getD settings.nullsFirst

end Settings

end TableQuery
