import MailFilter.Json.Lexical
import MailFilter.Text.Reader

/-!
# Words of TOML

Blanks, comments, line ends, strings in their four forms, and keys.
-/

namespace MailFilter.Toml

open Text (Reader)

/-! ### Between values -/

/-- Takes spaces and tabs. -/
def blanks : Reader Unit := do
  let _ ← Reader.takeWhile fun c => c == ' ' || c == '\t'

/-- Takes a line end. -/
def newline : Reader Unit := .orElse (.char '\n') (.literal ['\r', '\n'])

/-- Whether a character may stand in a comment or a literal string: every one but the control
characters, of which the tab is allowed. -/
def isPrintable (c : Char) : Bool := c == '\t' || (32 ≤ c.toNat && c.toNat != 127)

/-- Takes a comment up to the end of its line. -/
def comment : Reader Unit := do
  Reader.char '#'
  let _ ← Reader.takeWhile isPrintable

/-- Takes what may follow on a line, and its end. -/
def lineEnd : Reader Unit := do
  blanks
  let _ ← Reader.optional comment
  .orElse newline .atEnd

/-- Takes blanks, comments and line ends. -/
def trivia : Reader Unit := do
  blanks
  let _ ← Reader.many do
    let _ ← Reader.optional comment
    newline
    blanks

/-! ### Strings -/

/-- The character behind a backslash, for the escapes of one character. -/
def simpleEscape? (c : Char) : Option Char :=
  if c = '"' ∨ c = '\\' then some c
  else if c = 'b' then some '\x08'
  else if c = 't' then some '\t'
  else if c = 'n' then some '\n'
  else if c = 'f' then some '\x0c'
  else if c = 'r' then some '\r'
  else none

/-- Reads hexadecimal digits from the left, continuing from the number read so far. -/
def readHex? : Nat → List Char → Option Nat
  | n, [] => some n
  | n, c :: s =>
    match Json.hexValue? c with
    | some d => readHex? (16 * n + d) s
    | none => none

/-- Takes the number of a character in `count` hexadecimal digits. -/
def codePoint (count : Nat) : Reader Char := do
  let s ← get
  set (s.drop count)
  match readHex? 0 (s.take count) with
  | some n => if (s.take count).length = count ∧ n.isValidChar then return Char.ofNat n else failure
  | none => failure

/-- Takes an escape. -/
def escape : Reader Char := do
  Reader.char '\\'
  let c ← Reader.any
  if c = 'u' then codePoint 4
  else if c = 'U' then codePoint 8
  else
    match simpleEscape? c with
    | some c => return c
    | none => failure

/-- Takes a character of a basic string. -/
def basicChar : Reader Char :=
  .orElse escape (.satisfying fun c => isPrintable c && c != '"' && c != '\\')

/-- Takes a basic string. -/
def basicString : Reader (List Char) := do
  Reader.char '"'
  let text ← Reader.many basicChar
  Reader.char '"'
  return text

/-- Takes a literal string. -/
def literalString : Reader (List Char) := do
  Reader.char '\''
  let text ← Reader.takeWhile fun c => isPrintable c && c != '\''
  Reader.char '\''
  return text

/-- Takes a line end inside a string, where every line end is a line feed. -/
def innerNewline : Reader (List Char) := do
  newline
  return ['\n']

/-- Takes a backslash at the end of a line with the blanks and line ends after it. -/
def continuation : Reader (List Char) := do
  Reader.char '\\'
  blanks
  newline
  let _ ← Reader.many (.orElse newline (.orElse (.char ' ') (.char '\t')))
  return []

/-- Takes one or two quotes inside a string of several lines. -/
def innerQuotes (quote : Char) : Reader (List Char) := do
  let run ← Reader.takeWhile (· == quote)
  if run.length = 1 ∨ run.length = 2 then return run else failure

/-- Takes the three quotes that close a string of several lines; up to two more quotes in front of
them belong to the string. -/
def closingQuotes (quote : Char) : Reader (List Char) := do
  let run ← Reader.takeWhile (· == quote)
  if 3 ≤ run.length ∧ run.length ≤ 5 then return run.drop 3 else failure

/-- Takes a string of several lines, whose parts `piece` takes. A line end behind the opening quotes
is left out. -/
def longString (quote : Char) (piece : Reader (List Char)) : Reader (List Char) := do
  Reader.literal [quote, quote, quote]
  let _ ← Reader.optional newline
  let pieces ← Reader.many (.orElse (innerQuotes quote) (.orElse innerNewline piece))
  let quotes ← closingQuotes quote
  return pieces.flatten ++ quotes

/-- Takes a string of any form. -/
def string : Reader String := do
  let longBasic := longString '"' (.orElse continuation ((fun c => [c]) <$> basicChar))
  let longLiteral :=
    longString '\'' ((fun c => [c]) <$> .satisfying fun c => isPrintable c && c != '\'')
  let text ←
    match ← Reader.rest with
    | '"' :: '"' :: '"' :: _ => longBasic
    | '\'' :: '\'' :: '\'' :: _ => longLiteral
    | '"' :: _ => basicString
    | _ => literalString
  return String.ofList text

/-! ### Keys -/

/-- Whether a character may stand in a key without quotes. -/
def isBareChar (c : Char) : Bool := Text.isAlphanumeric c || c == '_' || c == '-'

/-- Takes one part of a key. -/
def simpleKey : Reader String := do
  match ← Reader.peek? with
  | some '"' => return String.ofList (← basicString)
  | some '\'' => return String.ofList (← literalString)
  | _ =>
    let name ← Reader.takeWhile isBareChar
    if name.isEmpty then failure
    return String.ofList name

/-- How many tables may stand inside each other. -/
def depthLimit : Nat := 79

/-- Takes a key, whose parts are separated by dots. The last part comes apart from the others. -/
def key : Reader (List String × String) := do
  blanks
  let first ← simpleKey
  blanks
  let more ← Reader.many do
    Reader.char '.'
    blanks
    let part ← simpleKey
    blanks
    return part
  let parts := first :: more
  if depthLimit < parts.length then failure
  return (parts.dropLast, parts.getLastD first)

end MailFilter.Toml
