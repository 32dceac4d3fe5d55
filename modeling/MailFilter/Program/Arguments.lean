/-!
# Command Lines

How the words of a command line are told apart: options with a dash and a letter or with two dashes
and a name, their values, the names of commands, and the arguments in order. Everything behind two
dashes alone is an argument.

A value that is a word of its own is checked only when the next option or argument that is known
comes up, or at the end. So a word that is not known is reported before a bad value in front of it.
-/

namespace MailFilter.Program

/-- Why a command line is not accepted, or what else is asked for. -/
inductive UsageFault where
  | invalidValue
  | argumentConflict
  | missingArgument
  | unknownArgument
  | tooManyValues
  | invalidCommand
  | missingCommand
  | nothingGiven
  | helpRequested
  | versionRequested
deriving DecidableEq, Repr

/-- The exit code. Help and the version are no failures. -/
def UsageFault.exitCode : UsageFault → Nat
  | helpRequested => 0
  | versionRequested => 0
  | _ => 2

/-! ### What is accepted -/

/-- The form of a value. -/
inductive ValueKind where
  | text
  | path
  | oneOf (names : List String)
deriving DecidableEq, Repr

/-- Whether a text is a value of a form. A path has a name. -/
def ValueKind.accepts (k : ValueKind) (value : String) : Bool :=
  match k with
  | text => true
  | path => value != ""
  | oneOf names => names.contains value

/-- What an option does. -/
inductive Effect where
  | flag
  | value (kind : ValueKind)
  | help
  | version
deriving DecidableEq, Repr

/-- An option. Values are found under its long name. -/
structure OptionSpec where
  short : Option Char
  long : String
  effect : Effect

/-- An argument that has its place. Only the last one may stand for many. -/
structure ArgumentSpec where
  name : String
  kind : ValueKind := .text
  many : Bool := false

/-- A command: its names, its options, and either its arguments or its own commands. `conflicts` are
pairs that exclude each other, and of every list in `demands` one must be given. -/
inductive CommandSpec where
  | leaf (names : List String) (options : List OptionSpec) (arguments : List ArgumentSpec)
    (conflicts : List (String × String)) (demands : List (List String))
  | branch (names : List String) (options : List OptionSpec) (children : List CommandSpec)

namespace CommandSpec

/-- The names of a command, the full one first. -/
def names : CommandSpec → List String
  | leaf ns _ _ _ _ => ns
  | branch ns _ _ => ns

/-- The options of a command. -/
def options : CommandSpec → List OptionSpec
  | leaf _ os _ _ _ => os
  | branch _ os _ => os

/-- The argument at a place. Every place from the one of an argument for many on is that one's. -/
def argument? (c : CommandSpec) (place : Nat) : Option ArgumentSpec :=
  match c with
  | leaf _ _ as _ _ => as[place]? <|> as.getLast?.filter (·.many)
  | branch _ _ _ => none

/-- The command of a name below a command. -/
def child? (c : CommandSpec) (name : String) : Option CommandSpec :=
  match c with
  | leaf _ _ _ _ _ => none
  | branch _ _ cs => cs.find? fun c => c.names.contains name

end CommandSpec

/-! ### What is given -/

/-- Names with their values; a flag has none. -/
abbrev Given := List (String × List String)

/-- An option or an argument whose values are not checked yet. -/
structure Pending where
  name : String
  kind : ValueKind
  many : Bool
  values : List String

/-- How far the words of one command have been read. -/
structure Progress where
  given : Given := []
  pending : Option Pending := none
  /-- Whether the pending option waits for its value. -/
  waiting : Bool := false
  place : Nat := 0
  trailing : Bool := false

namespace Progress

/-- Whether something is given. -/
def isGiven (p : Progress) (name : String) : Bool := p.given.any (·.1 == name)

/-- Takes over an option or an argument with its values. It may be given once. -/
def stow (p : Progress) (name : String) (values : List String) : Except UsageFault Progress :=
  if p.isGiven name then .error .argumentConflict
  else .ok { p with given := p.given ++ [(name, values)] }

/-- Checks what is pending and takes it over. -/
def settle (p : Progress) : Except UsageFault Progress :=
  match p.pending with
  | none => .ok p
  | some q =>
    if q.values.isEmpty then .error .invalidValue
    else if !q.many && p.isGiven q.name then .error .argumentConflict
    else if q.values.all q.kind.accepts then
      .ok { p with given := p.given ++ [(q.name, q.values)], pending := none }
    else .error .invalidValue

/-- Takes a flag. -/
def flag (p : Progress) (name : String) : Except UsageFault Progress :=
  match p.settle with
  | .error e => .error e
  | .ok p => { p with waiting := false }.stow name []

/-- Takes an option with the value that is attached to it, or waits for its value. -/
def option (p : Progress) (name : String) (kind : ValueKind) (attached : Option String) :
    Except UsageFault Progress :=
  match p.settle, attached with
  | .error e, _ => .error e
  | .ok p, some value =>
    if p.isGiven name then .error .argumentConflict
    else if kind.accepts value then { p with waiting := false }.stow name [value]
    else .error .invalidValue
  | .ok p, none => .ok { p with pending := some ⟨name, kind, false, []⟩, waiting := true }

/-- Does what an option asks for. `attached` is a value behind an equals sign. -/
def act (p : Progress) (o : OptionSpec) (attached : Option String) : Except UsageFault Progress :=
  let only (next : Except UsageFault Progress) : Except UsageFault Progress :=
    if attached.isSome then .error .tooManyValues else next
  match o.effect with
  | .value kind => p.option o.long kind attached
  | .flag => only (p.flag o.long)
  | .help => only (p.settle.bind fun _ => .error .helpRequested)
  | .version => only (p.settle.bind fun _ => .error .versionRequested)

/-- Takes a word as an argument, if there is a place for one. -/
def word (p : Progress) (c : CommandSpec) (text : String) : Except UsageFault Progress :=
  match c.argument? p.place with
  | none => .error .unknownArgument
  | some a =>
    match p.pending with
    | some q =>
      if q.name = a.name ∧ a.many then
        .ok { p with pending := some { q with values := q.values ++ [text] } }
      else fresh a
    | none => fresh a
where
  /-- Begins with an argument. -/
  fresh (a : ArgumentSpec) : Except UsageFault Progress :=
    match p.settle with
    | .error e => .error e
    | .ok p =>
      .ok { p with
        pending := some ⟨a.name, a.kind, a.many, [text]⟩
        waiting := false
        place := p.place + if a.many then 0 else 1 }

end Progress

/-! ### Words -/

/-- What a word looks like. -/
inductive Shape where
  | escape
  | long (name : String) (attached : Option String)
  | short (letters : List Char)
  | plain

/-- Splits a text at its first equals sign. -/
def splitEquals (s : List Char) : String × Option String :=
  match s.dropWhile (· != '=') with
  | [] => (String.ofList s, none)
  | _ :: value => (String.ofList (s.takeWhile (· != '=')), some (String.ofList value))

/-- What a word looks like. A single dash is a plain word. -/
def Shape.ofWord (text : String) : Shape :=
  match text.toList with
  | ['-', '-'] => escape
  | '-' :: '-' :: s => long (splitEquals s).1 (splitEquals s).2
  | '-' :: c :: s => short (c :: s)
  | _ => plain

/-- Takes an option that is written with its name. -/
def Progress.long (p : Progress) (c : CommandSpec) (name : String) (attached : Option String) :
    Except UsageFault Progress :=
  match c.options.find? (·.long == name) with
  | some o => p.act o attached
  | none => .error .unknownArgument

/-- Takes options that are written with their letters. What follows the letter of an option with a
value is the value. -/
def Progress.short (c : CommandSpec) : Progress → List Char → Except UsageFault Progress
  | p, [] => .ok p
  | p, letter :: rest =>
    match c.options.find? (·.short == some letter) with
    | none => .error .unknownArgument
    | some o =>
      match o.effect with
      | .value kind =>
        let attached :=
          match rest with
          | [] => none
          | '=' :: value => some (String.ofList value)
          | value => some (String.ofList value)
        p.option o.long kind attached
      | _ =>
        match p.act o none with
        | .error e => .error e
        | .ok p => short c p rest

/-! ### Lines -/

/-- What a command line says: the names of the command and its commands, and what is given. -/
structure Line where
  path : List String
  given : Given

/-- What is given under a name, from the command or one above it. -/
def Line.values (l : Line) (name : String) : List String :=
  (l.given.filter (·.1 == name)).flatMap (·.2)

/-- Whether something is given. -/
def Line.has (l : Line) (name : String) : Bool := l.given.any (·.1 == name)

/-- Checks the demands of a command whose words have all been read. -/
def CommandSpec.finish (c : CommandSpec) (p : Progress) : Except UsageFault Line :=
  match p.settle with
  | .error e => .error e
  | .ok p =>
    match c with
    | .branch _ _ _ => .error (if p.given.isEmpty then .nothingGiven else .missingCommand)
    | .leaf _ _ _ conflicts demands =>
      if conflicts.any fun (a, b) => p.isGiven a && p.isGiven b then .error .argumentConflict
      else if demands.all (·.any p.isGiven) then .ok ⟨[], p.given⟩
      else .error .missingArgument

/-- What is said to a word that has no place. -/
def CommandSpec.misplaced (c : CommandSpec) (p : Progress) (text : String) : UsageFault :=
  match c with
  | .leaf _ _ _ _ _ => .unknownArgument
  | .branch _ _ _ =>
    if p.trailing && (text == "help" || (c.child? text).isSome) then .unknownArgument
    else .invalidCommand

/-- Follows the names behind the command for help. -/
def CommandSpec.help (c : CommandSpec) : List String → UsageFault
  | [] => .helpRequested
  | name :: rest =>
    match c.child? name with
    | some child => help child rest
    | none =>
      match c with
      | .branch _ _ _ => if name = "help" ∧ rest = [] then .helpRequested else .invalidCommand
      | .leaf _ _ _ _ _ => .invalidCommand

/-- Reads the words of a command. -/
def CommandSpec.read (c : CommandSpec) (p : Progress) : List String → Except UsageFault Line
  | [] => c.finish p
  | text :: rest =>
    let asWord : Except UsageFault Line :=
      match c.argument? p.place with
      | none => .error (c.misplaced p text)
      | some _ =>
        match p.word c text with
        | .error e => .error e
        | .ok p => read c p rest
    let waitingFor := if p.waiting then p.pending else none
    if p.trailing then asWord
    else
      match waitingFor, c, c.child? text with
      | none, .branch _ _ _, some child =>
        match read child {} rest with
        | .error e => .error e
        | .ok line => .ok ⟨child.names.headD "" :: line.path, p.given ++ line.given⟩
      | _, _, _ =>
        if waitingFor.isNone && text == "help" && (c matches .branch _ _ _) then
          .error (c.help rest)
        else
          match Shape.ofWord text, waitingFor with
          | .escape, _ => read c { p with trailing := true } rest
          | .long name attached, _ =>
            match p.long c name attached with
            | .error e => .error e
            | .ok p => read c p rest
          | .short letters, _ =>
            match Progress.short c p letters with
            | .error e => .error e
            | .ok p => read c p rest
          | .plain, some q =>
            read c { p with pending := some { q with values := [text] }, waiting := false } rest
          | .plain, none => asWord

end MailFilter.Program
