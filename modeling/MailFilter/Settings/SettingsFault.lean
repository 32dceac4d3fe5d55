import MailFilter.Files.FileTree

/-!
# Faults of the Settings

Why a setting cannot be shown or changed, and why the file of settings cannot be used.
-/

namespace MailFilter

/-- What the values of a setting look like. -/
inductive ValueForm where
  | seconds
  | truth
deriving DecidableEq, Repr

/-- How messages describe it. -/
def ValueForm.description : ValueForm → String
  | seconds => "a number of seconds"
  | truth => "'true' or 'false'"

/-- Why something fails that has to do with the settings. -/
inductive SettingsFault where
  | unknownKey (key : String)
  | invalidValue (key value : String) (form : ValueForm)
  | unknownMode (message : String)
  | directory (fault : FileFault)
  /-- The limit is too large to be written. -/
  | tooLarge
  | write (fault : FileFault)
  /-- The file cannot be read, is no document, or has a value of the wrong kind. -/
  | unreadable
deriving DecidableEq

namespace SettingsFault

/-- The names of the settings, as messages list them. -/
def knownKeys : String := "rules_path, exec_timeout_secs, quicksearch_mode, parallel, quiet"

/-- The text of the message. What is wrong with a file is not said. -/
def message? : SettingsFault → Option String
  | unknownKey key =>
    some ("missing configuration field \"" ++
      s!"Unknown configuration key: '{key}'. Available keys: {knownKeys}\"")
  | invalidValue key value form =>
    some s!"Invalid value for {key}: '{value}'. Use {form.description}"
  | unknownMode message => some message
  | directory fault => some ("Failed to create config directory: " ++ fault.message)
  | tooLarge => some "Failed to serialize config: out-of-range value for u64 type"
  | write fault => some ("Failed to write config file: " ++ fault.message)
  | unreadable => none

end SettingsFault

end MailFilter
