import MailFilter.Program.Matching

/-!
# Commands on Stored Rules

Listing, showing, adding, changing and removing stored rules, taking them to a document and from
one, and how often they were used.
-/

namespace MailFilter.Program

open Procedure (print printLine printLines query change result)
open Report (plural)

namespace Session

/-- Prints a line, unless the program is to be quiet. -/
def say (s : Session) (line : String) : Procedure Unit := if s.quiet then return else printLine line

/-- The characters that the names in a list take. They are counted in bytes. -/
def listWidth (rules : RuleStore) : Nat :=
  (rules.map fun r => Text.byteLength r.name.toList).foldl max 4

/-- Lists the rules. -/
def listRules (s : Session) : Procedure Unit := do
  let rules ← query .store s.ruleFile.load
  if rules.isEmpty then s.noRules
  else
    s.say "Saved Rules:"
    s.say ""
    printLines (rules.map fun r =>
      Report.ruleLine s.surroundings.colours r (listWidth rules) s.quiet)

/-- Shows a rule. -/
def showRule (s : Session) (name : String) : Procedure Unit := do
  let r ← query .store (s.ruleFile.get name)
  if s.quiet then printLine r.rule else print r.display

/-- Adds a rule. -/
def addRule (s : Session) (name rule description : String) : Procedure Unit := do
  let r ← change .store (s.ruleFile.create (s.surroundings.clock 0) name description rule)
  s.say s!"Rule '{r.name}' saved as: {r.rule}"

/-- The text that a rule gets: that of a new rule in canonical form, or the one that it has. -/
def newText (r : StoredRule) : Option String → Except SyntaxError String
  | some rule => (Rule.parse rule).map (·.text)
  | none => .ok r.rule

/-- Changes the text of a rule, its description, or both. -/
def editRule (s : Session) (name : String) (rule description : Option String) : Procedure Unit := do
  let r ← query .store (s.ruleFile.get name)
  let text ← result .syntax_ (newText r rule)
  let r := { r with rule := text, description := description.getD r.description }
  change .store (s.ruleFile.update r)
  s.say s!"Rule '{name}' updated: {r.rule}"

/-- Whether a line of input confirms a question. -/
def confirms (input : String) : Bool :=
  let line := (Text.lines input.toList).headD []
  let word := Text.asciiLower (Text.trim line)
  word == "y".toList || word == "yes".toList

/-- Removes a rule, after a question that must be confirmed. -/
def removeRule (s : Session) (name : String) (force : Bool) : Procedure Unit := do
  let _ ← query .store (s.ruleFile.get name)
  let asked := !force && !s.quiet
  if asked then print s!"Delete rule '{name}'? (y/N): "
  if asked && !confirms s.surroundings.input then printLine "Cancelled"
  else
    let _ ← change .store (s.ruleFile.delete name)
    s.say s!"Rule '{name}' deleted"

/-- Gives a rule another name. -/
def renameRule (s : Session) (old new : String) : Procedure Unit := do
  change .store (s.ruleFile.rename old new)
  s.say s!"Rule '{old}' renamed to '{new}'"

/-- Writes rules to a document, or prints them. -/
def exportRules (s : Session) (names : List String) : Option Path → Procedure Unit
  | some target => do
    let count ← change .store (s.ruleFile.exportRules target names)
    let rules := plural count "rule"
    s.say s!"Exported {rules} to {target.text}"
  | none => do
    let rules ← query .store (s.ruleFile.ruleSet names)
    print rules.document

/-- Takes over the rules of a document. -/
def importRules (s : Session) (source : Path) (collision : RuleStore.Collision) :
    Procedure Unit := do
  let (imported, skipped) ←
    change .store (s.ruleFile.importRules s.surroundings.clock source collision)
  s.say ("Imported " ++ plural imported "rule")
  if 0 < skipped then s.say ("Skipped " ++ plural skipped "rule" ++ " already present")

/-- How many rules a table of statistics shows. -/
def tableLength : Nat := 5

/-- A line of a table of statistics. -/
def tableLine (r : StoredRule) (value : String) : String :=
  "  " ++ Report.padded 24 r.name ++ " " ++ value

/-- Prints how often rules were used, and when. -/
def statistics (s : Session) : Procedure Unit := do
  let rules ← query .store s.ruleFile.load
  let total := rules.foldl (fun n r => n + r.useCount.toNat) 0
  if s.quiet then printLine (Text.natural rules.length ++ " " ++ Text.natural total)
  else
    printLine s!"Rules: {Text.natural rules.length}"
    printLine s!"Total uses: {Text.natural total}"
    if !rules.isEmpty then
      printLine ""
      printLine "Most used:"
      printLines ((rules.mostUsed.take tableLength).map fun r =>
        tableLine r (Text.natural r.useCount.toNat))
      printLine ""
      printLine "Recently used:"
      printLines ((rules.recentlyUsed.take tableLength).map fun r =>
        tableLine r r.lastUsed.display)

/-- Does what a command on stored rules asks for. -/
def rules (s : Session) : RulesCommand → Procedure Unit
  | .list => s.listRules
  | .details name => s.showRule name
  | .add name rule description => s.addRule name rule description
  | .edit name rule description => s.editRule name rule description
  | .remove name force => s.removeRule name force
  | .rename old new => s.renameRule old new
  | .export names target => s.exportRules names target
  | .importFrom source collision => s.importRules source collision
  | .statistics => s.statistics

end Session

end MailFilter.Program
