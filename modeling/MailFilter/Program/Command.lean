import MailFilter.Message.Source
import MailFilter.Program.Arguments
import MailFilter.QuickSearch.Search
import MailFilter.Store.RuleStore

/-!
# Commands of the Program

What the program can be asked to do, and how that is written on a command line.
-/

namespace MailFilter.Program

/-- Where messages come from, and whether they may be looked at side by side. The verdicts do not
depend on that. -/
structure MessageSource where
  path : Path
  format : Option Message.Format
  parallel : Bool

/-- The format of the messages: the one that was asked for, or the one that the path tells. -/
def MessageSource.formatUsed (m : MessageSource) : Message.Format :=
  m.format.getD (.ofPath m.path)

/-- What a filter goes by: a rule, or the name of a stored one. -/
inductive RuleChoice where
  | rule (text : String)
  | stored (name : String)

/-- A command on stored rules. -/
inductive RulesCommand where
  | list
  | details (name : String)
  | add (name rule description : String)
  | edit (name : String) (rule description : Option String)
  | remove (name : String) (force : Bool)
  | rename (old new : String)
  | export (names : List String) (target : Option Path)
  | importFrom (source : Path) (collision : RuleStore.Collision)
  | statistics

/-- A command. -/
inductive Command where
  | check (rule : String)
  | filter (choice : RuleChoice) (count : Bool) (messages : MessageSource)
  | classify (first : Bool) (messages : MessageSource)
  | search (query : String) (mode : Option QuickSearch.Mode) (messages : MessageSource)
  | rules (command : RulesCommand)
  | setSetting (setting : String)
  | getSetting (key : String)

/-! ### Command lines -/

/-- The options that every command has. -/
def commonOptions : List OptionSpec :=
  [⟨some 'q', "quiet", .flag⟩, ⟨some 'v', "verbose", .flag⟩, ⟨some 'h', "help", .help⟩]

/-- The options of the commands that read messages. -/
def messageOptions : List OptionSpec :=
  [⟨some 'm', "messages", .value .path⟩,
    ⟨none, "format", .value (.oneOf ["json", "csv", "tsv"])⟩, ⟨none, "parallel", .flag⟩] ++
    commonOptions

/-- A command whose arguments must all be given. -/
def fixedCommand (names arguments : List String) : CommandSpec :=
  .leaf names commonOptions (arguments.map fun a => { name := a }) [] (arguments.map ([·]))

/-- The option for a description. -/
def descriptionOption : OptionSpec := ⟨some 'd', "description", .value .text⟩

/-- The commands on stored rules. -/
def rulesSpec : CommandSpec :=
  .branch ["rules"] commonOptions
    [fixedCommand ["list", "ls"] [],
      fixedCommand ["show"] ["name"],
      .leaf ["add"] (descriptionOption :: commonOptions) [{ name := "name" }, { name := "rule" }] []
        [["name"], ["rule"]],
      .leaf ["edit"] (descriptionOption :: commonOptions) [{ name := "name" }, { name := "rule" }]
        [] [["name"], ["rule", "description"]],
      .leaf ["remove", "rm"] (⟨some 'f', "force", .flag⟩ :: commonOptions) [{ name := "name" }] []
        [["name"]],
      fixedCommand ["rename", "mv"] ["old", "new"],
      .leaf ["export"] (⟨some 'o', "output", .value .path⟩ :: commonOptions)
        [{ name := "names", many := true }] [] [],
      .leaf ["import"]
        (⟨none, "overwrite", .flag⟩ :: ⟨none, "skip-existing", .flag⟩ :: commonOptions)
        [{ name := "path", kind := .path }] [("overwrite", "skip-existing")] [["path"]],
      fixedCommand ["stats"] []]

/-- The command line of the program. -/
def spec : CommandSpec :=
  .branch ["mailmatch"] (⟨some 'V', "version", .version⟩ :: commonOptions)
    [fixedCommand ["check", "c"] ["rule"],
      .leaf ["filter", "f"]
        (⟨some 'r', "rule-name", .value .text⟩ :: ⟨none, "count", .flag⟩ :: messageOptions)
        [{ name := "rule" }] [("rule", "rule-name")] [["rule", "rule-name"], ["messages"]],
      .leaf ["classify"] (⟨none, "first", .flag⟩ :: messageOptions) [] [] [["messages"]],
      .leaf ["search", "s"]
        (⟨none, "mode", .value (.oneOf ["subject", "from", "to", "extended"])⟩ :: messageOptions)
        [{ name := "query" }] [] [["messages"]],
      rulesSpec,
      .branch ["config"] commonOptions
        [fixedCommand ["set"] ["setting"], fixedCommand ["get"] ["key"]]]

namespace Line

/-- The value under a name, if it is given. -/
def value? (l : Line) (name : String) : Option String := (l.values name).head?

/-- The value under a name that must be given. -/
def value (l : Line) (name : String) : String := (l.value? name).getD ""

/-- Where messages come from. -/
def messages (l : Line) : MessageSource where
  path := ⟨l.value "messages"⟩
  format := (l.value? "format").map fun f =>
    if f = "csv" then .table ',' else if f = "tsv" then .table '\t' else .json
  parallel := l.has "parallel"

/-- The command on stored rules that a line asks for. -/
def rulesCommand : (name : String) → Line → RulesCommand
  | "show", l => .details (l.value "name")
  | "add", l => .add (l.value "name") (l.value "rule") (l.value "description")
  | "edit", l => .edit (l.value "name") (l.value? "rule") (l.value? "description")
  | "remove", l => .remove (l.value "name") (l.has "force")
  | "rename", l => .rename (l.value "old") (l.value "new")
  | "export", l => .export (l.values "names") ((l.value? "output").map fun p => ⟨p⟩)
  | "import", l =>
    .importFrom ⟨l.value "path"⟩
      (if l.has "overwrite" then .overwrite else if l.has "skip-existing" then .skip else .refuse)
  | "stats", _ => .statistics
  | _, _ => .list

/-- The command that a line asks for. -/
def command (l : Line) : Command :=
  match l.path with
  | ["filter"] =>
    .filter
      (match l.value? "rule-name" with
        | some name => .stored name
        | none => .rule (l.value "rule"))
      (l.has "count") l.messages
  | ["classify"] => .classify (l.has "first") l.messages
  | ["search"] =>
    .search (l.value "query") ((l.value? "mode").bind QuickSearch.Mode.ofName?) l.messages
  | ["rules", name] => .rules (rulesCommand name l)
  | ["config", "set"] => .setSetting (l.value "setting")
  | ["config", _] => .getSetting (l.value "key")
  | _ => .check (l.value "rule")

end Line

/-- A request to the program: a command, and whether it is to be quiet. -/
structure Request where
  command : Command
  quiet : Bool

/-- The request that the words of a command line make. -/
def Request.ofArguments (arguments : List String) : Except UsageFault Request :=
  (spec.read {} arguments).map fun l => ⟨l.command, l.has "quiet"⟩

end MailFilter.Program
