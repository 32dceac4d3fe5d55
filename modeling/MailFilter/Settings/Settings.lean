import MailFilter.QuickSearch.Search
import MailFilter.Settings.SettingsFault

/-!
# Settings

The settings of the program, each under a key, with a text for every value. An optional setting that
is not set is shown as `none`, and is set to nothing by that word or by a blank text.

## Main results

* `ofName?_name`: a key is found under its name.
-/

namespace MailFilter

/-- The settings. -/
structure Settings where
  rulesPath : Option Path := none
  /-- How many seconds a command may take. -/
  timeout : Option UInt64 := none
  searchMode : QuickSearch.Mode := .extended
  parallel : Bool := false
  quiet : Bool := false
deriving DecidableEq

namespace Settings

/-- The key of a setting. -/
inductive Key where
  | rulesPath
  | timeout
  | searchMode
  | parallel
  | quiet
deriving DecidableEq, Repr

/-- The name of a key. -/
def Key.name : Key → String
  | rulesPath => "rules_path"
  | timeout => "exec_timeout_secs"
  | searchMode => "quicksearch_mode"
  | parallel => "parallel"
  | quiet => "quiet"

/-- The key of a name. -/
def Key.ofName? : String → Option Key
  | "rules_path" => some rulesPath
  | "exec_timeout_secs" => some timeout
  | "quicksearch_mode" => some searchMode
  | "parallel" => some parallel
  | "quiet" => some quiet
  | _ => none

/-- A key is found under its name. -/
theorem Key.ofName?_name (k : Key) : ofName? k.name = some k := by cases k <;> rfl

/-! ### Showing -/

/-- The text of a truth value. -/
def truthText (b : Bool) : String := if b then "true" else "false"

/-- The text of a setting. -/
def text (s : Settings) : Key → String
  | .rulesPath => (s.rulesPath.map (·.text)).getD "none"
  | .timeout => (s.timeout.map fun n => Text.natural n.toNat).getD "none"
  | .searchMode => s.searchMode.name
  | .parallel => truthText s.parallel
  | .quiet => truthText s.quiet

/-- The text of the setting under a key. -/
def get (s : Settings) (key : String) : Except SettingsFault String :=
  match Key.ofName? key with
  | some k => .ok (s.text k)
  | none => .error (.unknownKey key)

/-! ### Setting -/

/-- Whether a text stands for nothing. -/
def isUnset (value : String) : Bool := value == "" || Text.equalsIgnoringCase value "none"

/-- Reads a truth value. -/
def truth (k : Key) (value : String) : Except SettingsFault Bool :=
  if value = "true" then .ok true
  else if value = "false" then .ok false
  else .error (.invalidValue k.name value .truth)

/-- Changes one setting to the value of a text without blanks around it. What comes of it is the
answer, and the settings afterwards. -/
def setKey (s : Settings) (k : Key) (value : String) : Except SettingsFault Unit × Settings :=
  match k with
  | .rulesPath => (.ok (), { s with rulesPath := if isUnset value then none else some ⟨value⟩ })
  | .timeout =>
    if isUnset value then (.ok (), { s with timeout := none })
    else
      match Text.readUInt64? value.toList with
      | some n => (.ok (), { s with timeout := some n })
      | none => (.error (.invalidValue k.name value .seconds), s)
  | .searchMode =>
    match QuickSearch.Mode.read value with
    | .ok m => (.ok (), { s with searchMode := m })
    | .error e => (.error (.unknownMode e), s)
  | .parallel =>
    match truth k value with
    | .ok b => (.ok (), { s with parallel := b })
    | .error e => (.error e, s)
  | .quiet =>
    match truth k value with
    | .ok b => (.ok (), { s with quiet := b })
    | .error e => (.error e, s)

/-- Changes the setting under a key to the value of a text. -/
def set (s : Settings) (key value : String) : Except SettingsFault Unit × Settings :=
  match Key.ofName? key with
  | some k => s.setKey k (Text.trimmed value)
  | none => (.error (.unknownKey key), s)

end Settings

end MailFilter
