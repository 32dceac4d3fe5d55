import MailFilter.Shell.Token

/-!
# Commands of the Shell

Words make up simple commands. Those are joined by pipes, by `&&` and `||`, by `;`, `&` and line
ends, and by the words for conditions, loops and choices. A command between parentheses or braces
stands for one command.
-/

namespace MailFilter.Shell

/-- Where a command reads from or writes to. -/
structure Redirection where
  descriptor : Option Nat
  operator : String
  target : Word
deriving DecidableEq, Repr

/-- A command. -/
inductive Command where
  | simple (words : List Word) (redirections : List Redirection)
  | pipe (first second : Command)
  | negation (c : Command)
  | both (first second : Command)
  | either (first second : Command)
  | sequence (first second : Command)
  | background (c : Command)
  | subshell (c : Command)
  | redirected (c : Command) (redirections : List Redirection)
  /-- Goes by the verdict of a test. -/
  | branch (test yes no : Command)
  /-- Does the body as long as the test has a verdict. -/
  | loop (verdict : Bool) (test body : Command)
  /-- Does the body with a parameter for each of several words. -/
  | each (name : String) (words : List Word) (body : Command)
  /-- Goes by whether a word has one of several forms. -/
  | choice (subject : Word) (forms : List Word) (yes no : Command)

/-- A command that does nothing. -/
def Command.nothing : Command := .simple [] []

/-! ### Taking tokens -/

/-- Takes tokens, or fails. -/
abbrev Parser := StateT (List Token) Option

/-- Takes one token. -/
def take (t : Token) : Parser Unit := do
  match ← get with
  | head :: rest => if head = t then set rest else failure
  | [] => failure

/-- Takes an operator. -/
def operator (text : String) : Parser Unit := take (.operator text)

/-- Takes a word that is written without quotes and parameters. -/
def keyword (text : String) : Parser Unit := take (.word (.plain text))

/-- Takes any word. -/
def anyWord : Parser Word := do
  match ← get with
  | .word w :: rest =>
    set rest
    return w
  | _ => failure

/-- Takes the first alternative if it does not fail, else the second one. -/
def either {α : Type} (a b : Parser α) : Parser α := fun s =>
  match a.run s with
  | some result => some result
  | none => b.run s

/-- Takes what may be missing. -/
def possibly (p : Parser Unit) : Parser Unit := either p (pure ())

/-- Takes as often as possible. -/
def repeated {α : Type} (p : Parser α) : Parser (List α) := modifyGet (Text.Reader.takeMany p)

/-- Takes line ends. -/
def lineEnds : Parser Unit := do
  let _ ← repeated (operator "\n")

/-! ### Simple commands -/

/-- Takes a redirection with its target. -/
def redirected : Parser Redirection := do
  match ← get with
  | .redirection d o :: .word w :: rest =>
    set rest
    return ⟨d, o, w⟩
  | _ => failure

/-- The words that do not start a simple command. -/
def reservedWords : List String :=
  ["\x7b", "\x7d", "!", "if", "then", "elif", "else", "fi", "while", "until", "for", "do", "done",
    "case", "esac"]

/-- Takes a simple command. -/
def simpleCommand : Parser Command := do
  match ← get with
  | .word w :: _ => if reservedWords.any (Word.plain · == w) then failure
  | _ => pure ()
  let part : Parser (Word ⊕ Redirection) := either (.inl <$> anyWord) (.inr <$> redirected)
  let parts := (← part) :: (← repeated part)
  let words := parts.filterMap fun p => p.getLeft?
  return .simple words (parts.filterMap fun p => p.getRight?)

/-! ### Lists of commands -/

/-- Takes a pipeline of commands. -/
def pipeline (command : Parser Command) : Parser Command := do
  let negated ← either (do keyword "!"; return true) (pure false)
  let first ← command
  let more ← repeated do
    operator "|"
    lineEnds
    command
  let c := (more.foldl .pipe first)
  return if negated then .negation c else c

/-- Takes pipelines with `&&` and `||` between them. -/
def andOr (command : Parser Command) : Parser Command := do
  let first ← pipeline command
  let more ← repeated do
    let both ← either (do operator "&&"; return true) (do operator "||"; return false)
    lineEnds
    return (both, ← pipeline command)
  return more.foldl (fun a (both, b) => if both then .both a b else .either a b) first

/-- Takes what separates two commands: whether the first one runs in the background. -/
def separator : Parser Bool := do
  let inBackground ←
    either (do operator "&"; return true) (do
      either (operator ";") (operator "\n")
      return false)
  lineEnds
  return inBackground

/-- Joins commands, each with what separates it from the next one. -/
def join (first : Command) : List (Bool × Command) → (last : Bool) → Command
  | [], last => if last then .background first else first
  | (inBackground, c) :: rest, last =>
    .sequence (if inBackground then .background first else first) (join c rest last)

/-- Takes a list of commands with `;`, `&` or line ends between them and perhaps behind the last. -/
def commandList (command : Parser Command) : Parser Command := do
  lineEnds
  let first ← andOr command
  let more ← repeated do
    let inBackground ← separator
    return (inBackground, ← andOr command)
  let last ← either (some <$> separator) (pure none)
  return join first more (last.getD false)

/-! ### Conditions, loops and choices -/

/-- Takes a condition behind its first word, with fewer than `count` conditions behind it. -/
def condition (commands : Parser Command) : (count : Nat) → Parser Command
  | 0 => failure
  | count + 1 => do
    let test ← commands
    keyword "then"
    let yes ← commands
    let no ← either (do keyword "elif"; condition commands count) (do
      let no ← either (do keyword "else"; commands) (pure .nothing)
      keyword "fi"
      return no)
    return .branch test yes no

/-- Takes the body of a loop. -/
def body (commands : Parser Command) : Parser Command := do
  keyword "do"
  let c ← commands
  keyword "done"
  return c

/-- Takes a loop over words behind its first word. -/
def wordLoop (commands : Parser Command) : Parser Command := do
  let name ← anyWord
  lineEnds
  let words ← either (do keyword "in"; repeated anyWord) (pure [])
  possibly do
    let _ ← separator
  let c ← body commands
  return .each (String.ofList (name.filterMap fun | .bare c => some c | _ => none)) words c

/-- Takes an alternative of a choice: forms of the word, and a command. -/
def alternative (commands : Parser Command) : Parser (List Word × Command) := do
  possibly (operator "(")
  let first ← anyWord
  if first = .plain "esac" then failure
  let more ← repeated (operator "|" *> anyWord)
  operator ")"
  let c ← either commands (do lineEnds; return .nothing)
  possibly (operator ";;")
  lineEnds
  return (first :: more, c)

/-- Takes a choice behind its first word. -/
def wordChoice (commands : Parser Command) : Parser Command := do
  let subject ← anyWord
  lineEnds
  keyword "in"
  lineEnds
  let alternatives ← repeated (alternative commands)
  keyword "esac"
  return alternatives.foldr (fun (forms, yes) no => .choice subject forms yes no) .nothing

/-- Takes a command that holds commands. -/
def compound (commands : Parser Command) : Parser Command := do
  let count := (← get).length
  let c ←
    match ← get with
    | .operator "(" :: _ => do
      operator "("
      let c ← commands
      operator ")"
      pure (.subshell c)
    | _ =>
      either (do keyword "\x7b"; let c ← commands; keyword "\x7d"; return c) <|
      either (do keyword "if"; condition commands count) <|
      either (do keyword "while"; return .loop true (← commands) (← body commands)) <|
      either (do keyword "until"; return .loop false (← commands) (← body commands)) <|
      either (do keyword "for"; wordLoop commands) (do keyword "case"; wordChoice commands)
  match ← repeated redirected with
  | [] => return c
  | rs => return .redirected c rs

/-- Takes a command with commands that stand inside each other at most `depth` deep. -/
def commandWithin : (depth : Nat) → Parser Command
  | 0 => simpleCommand
  | depth + 1 => either simpleCommand (compound (commandList (commandWithin depth)))

/-- The command that tokens make up. Commands stand inside each other no deeper than there are
tokens. -/
def Command.ofTokens? (ts : List Token) : Option Command :=
  if ts.all (· == .operator "\n") then some .nothing
  else
    match (commandList (commandWithin ts.length)).run ts with
    | some (c, []) => some c
    | _ => none

/-! ### Scripts -/

/-- What a text asks for: a command, and whether that is all that the text holds. -/
structure Script where
  command : Command
  isWhole : Bool

/-- The front parts of tokens that end with a line, the longest first. -/
def frontLines (ts : List Token) : List (List Token) :=
  ((List.range ts.length).map fun n => ts.take (ts.length - n)).filter fun front =>
    front.getLast? == some (.operator "\n")

/-- What a text asks for. Of one that is no command those lines in front are taken that are one. -/
def Script.ofText (text : List Char) : Script :=
  let (ts, isWhole) := tokensOf text
  match if isWhole then Command.ofTokens? ts else none with
  | some c => ⟨c, true⟩
  | none => ⟨((frontLines ts).findSome? Command.ofTokens?).getD .nothing, false⟩

end MailFilter.Shell
