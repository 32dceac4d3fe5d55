import MailFilter.Store.StoreFormat

/-!
# The File of Rules

Requests to the rules in a file. Every request reads the file afresh, and one that changes the rules
writes it back at its end, so that requests of several programs see each other's changes. Before the
file is written, its bytes are copied to a backup beside it.

The files are part of the result also where a request fails, because writing can fail half way. A
request that is refused for any other reason leaves them alone.

## Main results

* `change_of_refused`: a change that is refused leaves the files alone.
* `change_ok_iff`: a change that succeeds has written the changed rules.
-/

namespace MailFilter

open Calendar (Instant)

/-- A file of rules: its path, and whether it is copied to a backup before it is written. -/
structure RuleFile where
  path : Path
  keepsBackup : Bool := true
  format : StoreFormat := .toml

namespace RuleFile

/-! ### Reading and writing -/

/-- Reads the rules. A file that is missing holds none. -/
def load (f : RuleFile) (t : FileTree) : Except StoreFault RuleStore :=
  if t.contains f.path then
    match t.read f.path with
    | .error e => .error (.file e)
    | .ok text =>
      match f.format.read? text with
      | some s => .ok s
      | none => .error .unreadable
  else .ok []

/-- The place of the backup: the same name with `toml.backup` for its extension. -/
def backupPlace (f : RuleFile) : Place :=
  FileTree.resolve (f.path.componentsWithExtension "toml.backup")

/-- Copies the file to its backup, if there is a file and a backup is kept. -/
def backUp (f : RuleFile) (t : FileTree) : Except FileFault FileTree :=
  if f.keepsBackup && t.contains f.path then
    match t.bytesAt (FileTree.resolve f.path.components) with
    | .ok bytes => t.writeAt f.backupPlace bytes
    | .error e => .error e
  else .ok t

/-- Writes the rules. -/
def save (f : RuleFile) (s : RuleStore) (t : FileTree) : Except FileFault Unit × FileTree :=
  match t.makeParents f.path with
  | .error e => (.error e, t)
  | .ok t =>
    match f.backUp t with
    | .error e => (.error e, t)
    | .ok t =>
      match t.write f.path (f.format.render s) with
      | .error e => (.error e, t)
      | .ok t => (.ok (), t)

/-- Writes the rules, and answers a request with `answer` where that succeeds. -/
def saving {α : Type} (f : RuleFile) (s : RuleStore) (answer : α) (t : FileTree) :
    Except StoreFault α × FileTree :=
  match f.save s t with
  | (.ok (), t) => (.ok answer, t)
  | (.error e, t) => (.error (.file e), t)

/-- Reads the rules, changes them, and writes them back. -/
def change {α : Type} (f : RuleFile) (step : RuleStore → Except StoreFault (α × RuleStore))
    (t : FileTree) : Except StoreFault α × FileTree :=
  match f.load t with
  | .error e => (.error e, t)
  | .ok s =>
    match step s with
    | .error e => (.error e, t)
    | .ok (a, s) => f.saving s a t

variable {α : Type} {f : RuleFile} {t : FileTree} {s : RuleStore} {e : StoreFault}
  {step : RuleStore → Except StoreFault (α × RuleStore)}

/-- A change that is refused leaves the files alone. -/
theorem change_of_refused (hl : f.load t = .ok s) (hs : step s = .error e) :
    f.change step t = (.error e, t) := by
  simp only [change, hl, hs]

/-- A change that succeeds has written the changed rules. -/
theorem change_ok_iff {a : α} {t' : FileTree} :
    f.change step t = (.ok a, t') ↔
      ∃ s s', f.load t = .ok s ∧ step s = .ok (a, s') ∧ f.save s' t = (.ok (), t') := by
  unfold change
  constructor
  · intro h
    split at h
    · cases h
    · next s hl =>
      split at h
      · cases h
      · next b s' hs =>
        unfold saving at h
        split at h
        · next hw =>
          cases h
          exact ⟨s, s', hl, hs, hw⟩
        · cases h
  · rintro ⟨s, s', hl, hs, hw⟩
    simp only [hl, hs, saving, hw]

/-! ### Requests -/

/-- Adds a rule that has just been made. -/
def create (f : RuleFile) (now : Instant) (name description text : String) (t : FileTree) :
    Except StoreFault StoredRule × FileTree :=
  f.change (fun s => s.create now name description text) t

/-- The rule of a name. -/
def get (f : RuleFile) (name : String) (t : FileTree) : Except StoreFault StoredRule :=
  match f.load t with
  | .error e => .error e
  | .ok s => s.get name

/-- Replaces the rule of the same name. -/
def update (f : RuleFile) (r : StoredRule) (t : FileTree) : Except StoreFault Unit × FileTree :=
  f.change (fun s => (s.update r).map ((), ·)) t

/-- Takes the rule of a name out. -/
def delete (f : RuleFile) (name : String) (t : FileTree) :
    Except StoreFault StoredRule × FileTree :=
  f.change (fun s => s.remove name) t

/-- Gives a rule another name; its place and its statistics stay. -/
def rename (f : RuleFile) (old new : String) (t : FileTree) : Except StoreFault Unit × FileTree :=
  f.change (fun s => (s.rename old new).map ((), ·)) t

/-- Counts a use of a rule. -/
def recordUse (f : RuleFile) (now : Instant) (name : String) (t : FileTree) :
    Except StoreFault Unit × FileTree :=
  f.change (fun s => (s.recordUse now name).map ((), ·)) t

/-- The rules of several names in the order of the names; all rules if there are no names. -/
def ruleSet (f : RuleFile) (names : List String) (t : FileTree) : Except StoreFault RuleSet :=
  match f.load t with
  | .error e => .error e
  | .ok s => s.ruleSet names

/-- Writes rules as a document of a rule set; the answer is their number. -/
def exportRules (f : RuleFile) (target : Path) (names : List String) (t : FileTree) :
    Except StoreFault Nat × FileTree :=
  match f.ruleSet names t with
  | .error e => (.error e, t)
  | .ok rules =>
    match t.makeParents target with
    | .error e => (.error (.file e), t)
    | .ok t =>
      match t.write target rules.document with
      | .error e => (.error (.file e), t)
      | .ok t => (.ok rules.length, t)

/-- Adds the rules of a document of a rule set. The clock is read once for each rule. The answer
counts the rules that were taken over and those that were left out. -/
def importRules (f : RuleFile) (clock : Nat → Instant) (source : Path)
    (collision : RuleStore.Collision) (t : FileTree) : Except StoreFault (Nat × Nat) × FileTree :=
  match f.load t with
  | .error e => (.error e, t)
  | .ok s =>
    match t.read source with
    | .error e => (.error (.file e), t)
    | .ok text =>
      match RuleSet.ofDocument text with
      | .error e => (.error (.invalidLine e), t)
      | .ok rules =>
        match s.importRules clock collision rules with
        | .error e => (.error e, t)
        | .ok i => f.saving i.store (i.imported, i.skipped) t

end RuleFile

end MailFilter
