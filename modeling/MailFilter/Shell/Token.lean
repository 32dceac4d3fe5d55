import MailFilter.Text.Reader

/-!
# Words of the Shell

The text of a command is a sequence of words, operators and redirections. A word has parts: plain
characters, quoted texts, parameters, and what another command writes. What stands between quotes is
never split.
-/

namespace MailFilter.Shell

open Text (Reader)

/-- A part of a word. -/
inductive Piece where
  | bare (c : Char)
  | quoted (text : List Char)
  | parameter (name : String) (quoted : Bool)
  /-- What a command writes. -/
  | output (command : List Char) (quoted : Bool)
  /-- The number that a sum comes to. -/
  | number (sum : List Char)
deriving DecidableEq, Repr

/-- A word, as it is written. -/
abbrev Word := List Piece

/-- The word of plain characters. -/
def Word.plain (text : String) : Word := text.toList.map .bare

/-- A token. -/
inductive Token where
  | word (w : Word)
  | operator (text : String)
  | redirection (descriptor : Option Nat) (operator : String)
deriving DecidableEq, Repr

/-! ### Parameters and commands in words -/

/-- Whether a character may stand in the name of a parameter. -/
def isNameChar (c : Char) : Bool := Text.isAlphanumeric c || c == '_'

/-- Takes the name of a parameter behind its dollar sign. -/
def parameterName : Reader String := do
  let c ← Reader.any
  if "$?#@*!-0123456789".toList.contains c then return String.ofList [c]
  if !isNameChar c then failure
  return String.ofList (c :: (← Reader.takeWhile isNameChar))

/-- The text up to the parenthesis that closes a group, and what follows it. `depth` groups are open
inside of it, and `quote` is the quote that is open. -/
def closeGroup? : (depth : Nat) → (quote : Option Char) → List Char →
    Option (List Char × List Char)
  | _, _, [] => none
  | depth, some q, c :: s =>
    if c = '\\' ∧ q = '"' then
      match s with
      | d :: s => (closeGroup? depth (some q) s).map fun (text, rest) => (c :: d :: text, rest)
      | [] => none
    else
      let quote := if c = q then none else some q
      (closeGroup? depth quote s).map fun (text, rest) => (c :: text, rest)
  | depth, none, c :: s =>
    if c = '\\' then
      match s with
      | d :: s => (closeGroup? depth none s).map fun (text, rest) => (c :: d :: text, rest)
      | [] => none
    else if c = ')' then
      match depth with
      | 0 => some ([], s)
      | depth + 1 => (closeGroup? depth none s).map fun (text, rest) => (c :: text, rest)
    else
      let depth := if c = '(' then depth + 1 else depth
      let quote := if c = '\'' ∨ c = '"' then some c else none
      (closeGroup? depth quote s).map fun (text, rest) => (c :: text, rest)

/-- Takes a group behind its opening parenthesis: a sum between two pairs of parentheses, or a
command. -/
def group (quoted : Bool) : Reader Piece := do
  match closeGroup? 0 none (← Reader.rest) with
  | some (text, rest) =>
    set rest
    match text, text.getLast? with
    | '(' :: sum, some ')' => return .number sum.dropLast
    | _, _ => return .output text quoted
  | none => failure

/-- Takes a dollar sign: a parameter, a group, or the sign itself where no name follows. -/
def dollar (quoted : Bool) : Reader Piece := do
  Reader.char '$'
  match ← Reader.peek? with
  | some '(' => do
    Reader.char '('
    group quoted
  | some '\x7b' => do
    Reader.char '\x7b'
    let name ← Reader.takeWhile (· != '\x7d')
    Reader.char '\x7d'
    return .parameter (String.ofList name) quoted
  | _ =>
    match ← Reader.optional parameterName with
    | some name => return .parameter name quoted
    | none => return if quoted then .quoted ['$'] else .bare '$'

/-- Takes a command between grave accents. A backslash in front of an accent, a dollar sign or
another backslash is dropped. -/
def accented (quoted : Bool) : Reader Piece := do
  Reader.char '\x60'
  let chars ← Reader.many do
    let c ← Reader.satisfying (· != '\x60')
    if c ≠ '\\' then return [c]
    let d ← Reader.any
    return if "\x60$\\".toList.contains d then [d] else [c, d]
  Reader.char '\x60'
  return .output chars.flatten quoted

/-! ### Words -/

/-- Whether a character ends a word. -/
def endsWord (c : Char) : Bool :=
  c == ' ' || c == '\t' || c == '\n' || c == ';' || c == '&' || c == '|' || c == '<' || c == '>' ||
    c == '(' || c == ')'

/-- Takes a part of a text between double quotes. -/
def quotedPiece : Reader Piece := do
  match ← Reader.peek? with
  | some '$' => dollar true
  | some '\x60' => accented true
  | some '\\' => do
    Reader.char '\\'
    let c ← Reader.any
    return .quoted <|
      if "$\x60\"\\".toList.contains c then [c] else if c = '\n' then [] else ['\\', c]
  | _ => return .quoted [← Reader.satisfying (· != '"')]

/-- Takes parts of a word. -/
def pieces : Reader Word := do
  match ← Reader.peek? with
  | some '\'' => do
    Reader.char '\''
    let text ← Reader.takeWhile (· != '\'')
    Reader.char '\''
    return [.quoted text]
  | some '"' => do
    Reader.char '"'
    let parts ← Reader.many quotedPiece
    Reader.char '"'
    return .quoted [] :: parts
  | some '\\' => do
    Reader.char '\\'
    match ← Reader.optional .any with
    | some '\n' => return []
    | some c => return [.quoted [c]]
    | none => return [.bare '\\']
  | some '$' => return [← dollar false]
  | some '\x60' => return [← accented false]
  | _ => return [.bare (← Reader.satisfying (!endsWord ·))]

/-- Takes a word. -/
def word : Reader Word := do
  let first ← pieces
  let more ← Reader.many pieces
  return first ++ more.flatten

/-! ### Tokens -/

/-- The operators between commands, longer ones first. -/
def operators : List String := ["&&", "||", ";;", ";", "&", "|", "(", ")", "\n"]

/-- The operators for redirections, longer ones first. -/
def redirectionOperators : List String := [">>", ">&", ">|", "<<", "<&", "<>", ">", "<"]

/-- Takes one of several texts. -/
def oneOf (texts : List String) : Reader String := do
  let s ← Reader.rest
  match texts.find? fun t => t.toList.isPrefixOf s with
  | some t =>
    Reader.literal t.toList
    return t
  | none => failure

/-- Takes an operator for a redirection, with the number in front of it. -/
def redirection : Reader Token := do
  let digits ← Reader.takeWhile Text.isDigit
  return .redirection (Text.readNatural? digits) (← oneOf redirectionOperators)

/-- Takes blanks, comments and continued lines. -/
def skipBlanks : Reader Unit := do
  let _ ← Reader.many (.orElse (.char ' ') (.orElse (.char '\t') (.literal ['\\', '\n'])))
  if (← Reader.peek?) = some '#' then
    let _ ← Reader.takeWhile (· != '\n')

/-- Takes a token. -/
def token : Reader Token := do
  skipBlanks
  .orElse redirection (.orElse (.operator <$> oneOf operators) (.word <$> word))

/-- The tokens in front of a text, and whether they are all that there is. -/
def tokensOf (text : List Char) : List Token × Bool :=
  let (ts, rest) := Reader.takeMany token text
  (ts, (Reader.readAll? skipBlanks rest).isSome)

end MailFilter.Shell
