import MailFilter.Settings.Environment
import MailFilter.Settings.Settings
import MailFilter.Toml.Document
import MailFilter.Toml.Printer

/-!
# The File of Settings

Settings are kept in a TOML document. A variable of the environment comes before the value in the
file. Values are taken in whatever form they have, as far as it makes sense: a number for a text, a
word for a truth value, and so on.
-/

namespace MailFilter.Settings

open Toml (Entries Row Scalar Value)

/-! ### The forms of values -/

/-- The truth value of a word. -/
def truthOfWord? (word : String) : Option Bool :=
  if word = "true" ∨ word = "on" ∨ word = "yes" then some true
  else if word = "false" ∨ word = "off" ∨ word = "no" then some false
  else none

/-- The text in a value, where dates count as texts. -/
def textIn? : Value → Option String
  | .scalar (.text t) => some t
  | .scalar (.dateTime t) => some t
  | _ => none

/-- Takes a value for a truth value. -/
def toTruth? : Value → Option Bool
  | .scalar (.truth b) => some b
  | .scalar (.integer n) => some (n != 0)
  | .scalar (.real x) => some !x.isZero
  | v => (textIn? v).bind fun t =>
    let word := Text.lowered t
    if word = "1" then some true else if word = "0" then some false else truthOfWord? word

/-- Takes a value for an unsigned word. -/
def toWord? : Value → Option UInt64
  | .scalar (.truth b) => some (if b then 1 else 0)
  | .scalar (.integer n) => if 0 ≤ n.toInt then some (UInt64.ofNat n.toInt.toNat) else none
  | .scalar (.real x) => some x.toWord
  | v => (textIn? v).bind fun t =>
    match truthOfWord? (Text.lowered t) with
    | some b => some (if b then 1 else 0)
    | none => Text.readUInt64? t.toList

/-- Takes a value for a text. -/
def toText? : Value → Option String
  | .scalar (.truth b) => some (truthText b)
  | .scalar (.integer n) => some (Text.integer n.toInt)
  | .scalar (.real x) => some (String.ofList x.write)
  | v => textIn? v

/-- Takes a value for a search mode: its name, or a table with the name for its only key. -/
def toMode? (v : Value) : Option QuickSearch.Mode :=
  match textIn? v, v with
  | some name, _ => QuickSearch.Mode.ofName? name
  | none, .table _ [(name, _)] => QuickSearch.Mode.ofName? name
  | none, _ => none

/-! ### Reading -/

/-- The value of a key, where the environment comes before the file. -/
def valueOf? (e : Environment) (entries : Entries) (k : Key) : Option Value :=
  match e.lookup? k.name with
  | some s => some (.scalar s)
  | none => entries.lookup k.name

/-- Takes a value that may be missing. -/
def orDefault {α : Type} (default : α) (read : Value → Except SettingsFault α) :
    Option Value → Except SettingsFault α
  | some v => read v
  | none => .ok default

/-- Takes a value for something, or finds that it is of the wrong kind. -/
def required {α : Type} (read? : Value → Option α) (v : Value) : Except SettingsFault α :=
  match read? v with
  | some a => .ok a
  | none => .error .unreadable

/-- The settings in a document and an environment. -/
def ofEntries (e : Environment) (entries : Entries) : Except SettingsFault Settings := do
  let value? := valueOf? e entries
  let rulesPath ← orDefault none (required fun v => (toText? v).map fun t => some ⟨t⟩)
    (value? .rulesPath)
  let timeout ← orDefault none (required fun v => (toWord? v).map some) (value? .timeout)
  let searchMode ← orDefault .extended (required toMode?) (value? .searchMode)
  let parallel ← orDefault false (required toTruth?) (value? .parallel)
  let quiet ← orDefault false (required toTruth?) (value? .quiet)
  return ⟨rulesPath, timeout, searchMode, parallel, quiet⟩

/-! ### Writing -/

/-- The lines of the document, if the limit can be written. -/
def row? (s : Settings) : Option Row :=
  if s.timeout.any (Int64.maxValue.toInt < ·.toNat) then none
  else
    some ((s.rulesPath.map fun p => (Key.rulesPath.name, Scalar.text p.text)).toList ++
      (s.timeout.map fun n =>
        (Key.timeout.name, Scalar.integer (Int64.ofNat n.toNat))).toList ++
      [(Key.searchMode.name, .text s.searchMode.name), (Key.parallel.name, .truth s.parallel),
        (Key.quiet.name, .truth s.quiet)])

/-- The document of the settings, if the limit can be written. -/
def document? (s : Settings) : Option String :=
  s.row?.map fun row => String.ofList (Toml.writeRow row)

/-- Writes the settings to a file. -/
def save (s : Settings) (p : Path) (t : FileTree) : Except SettingsFault Unit × FileTree :=
  match t.makeParents p with
  | .error e => (.error (.directory e), t)
  | .ok t =>
    match s.document? with
    | none => (.error .tooLarge, t)
    | some text =>
      match t.write p text with
      | .error e => (.error (.write e), t)
      | .ok t => (.ok (), t)

/-- Reads the settings from a file that is there. -/
def read (e : Environment) (p : Path) (t : FileTree) : Except SettingsFault Settings :=
  match t.read p with
  | .error _ => .error .unreadable
  | .ok text =>
    match Toml.read? text with
    | none => .error .unreadable
    | some entries => ofEntries e entries

/-- Reads the settings from a file, which is written with the default settings if it is missing. -/
def load (e : Environment) (p : Path) (t : FileTree) : Except SettingsFault Settings × FileTree :=
  if t.contains p then (read e p t, t)
  else
    match save {} p t with
    | (.error e, t) => (.error e, t)
    | (.ok (), t) => (read e p t, t)

end MailFilter.Settings
