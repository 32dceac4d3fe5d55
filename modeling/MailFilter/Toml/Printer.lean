import MailFilter.Toml.Value

/-!
# Writing TOML

Tables of values without parts, one key on a line. A text is written in the form that needs the
fewest escapes: as a basic string where it can stand as it is, as a literal string where quotes or
backslashes would need escapes, and in the form for several lines where it has any.
-/

namespace MailFilter.Toml

/-! ### Strings -/

/-- What decides about the form of a string. -/
structure Contents where
  /-- There is a control character that no form takes as it is. -/
  hasControl : Bool
  hasNewline : Bool
  hasBackslash : Bool
  /-- The most double quotes in a row. -/
  doubleQuotes : Nat
  /-- The most single quotes in a row. -/
  singleQuotes : Nat

/-- The length of the longest run of a character, where a run of length `here` is under way. -/
def longestRun (quote : Char) : (here : Nat) → List Char → Nat
  | here, [] => here
  | here, c :: s =>
    if c = quote then longestRun quote (here + 1) s else max here (longestRun quote 0 s)

/-- Whether a character is a control character that has to be escaped. -/
def isControl (c : Char) : Bool :=
  (c.toNat < 32 && c != '\t' && c != '\n') || c.toNat == 127

/-- What decides about the form of a text. -/
def Contents.ofText (s : List Char) : Contents where
  hasControl := s.any isControl
  hasNewline := s.any (· == '\n')
  hasBackslash := s.any (· == '\\')
  doubleQuotes := longestRun '"' 0 s
  singleQuotes := longestRun '\'' 0 s

/-- The form of a string. -/
inductive Form where
  | basic
  | literal
  | longBasic
  | longLiteral
deriving DecidableEq, Repr

/-- The form in which a text is written. -/
def Form.ofContents (c : Contents) : Form :=
  if !c.hasControl && !c.hasBackslash && c.doubleQuotes == 0 && !c.hasNewline then basic
  else if !c.hasControl && c.singleQuotes == 0 && !c.hasNewline then literal
  else if !c.hasControl && !c.hasBackslash && c.doubleQuotes ≤ 2 then longBasic
  else if !c.hasControl && c.singleQuotes ≤ 2 then longLiteral
  else if c.hasNewline then longBasic
  else basic

/-- The digit of a number below sixteen. -/
def hexDigit (d : Nat) : Char := if d < 10 then Char.ofNat (48 + d) else Char.ofNat (55 + d)

/-- A character by its number, in four digits. -/
def writeCodePoint (n : Nat) : List Char :=
  '\\' :: 'u' :: [12, 8, 4, 0].map fun shift => hexDigit (n >>> shift % 16)

/-- A character inside a basic string, in one line or in several. -/
def writeChar (long : Bool) (c : Char) : List Char :=
  if c = '\\' then ['\\', '\\']
  else if c = '\x08' then ['\\', 'b']
  else if c = '\x0c' then ['\\', 'f']
  else if c = '\r' then ['\\', 'r']
  else if c = '\n' then if long then ['\n'] else ['\\', 'n']
  else if c = '\t' then ['\\', 't']
  else if isControl c then writeCodePoint c.toNat
  else [c]

/-- The characters of a basic string in several lines. `quotes` double quotes stand directly before;
the third in a row is escaped. -/
def writeLong : (quotes : Nat) → List Char → List Char
  | _, [] => []
  | quotes, c :: s =>
    if c = '"' then
      if quotes = 2 then '\\' :: '"' :: writeLong 0 s else '"' :: writeLong (quotes + 1) s
    else writeChar true c ++ writeLong 0 s

/-- The characters of a basic string in one line. -/
def writeBasic (s : List Char) : List Char :=
  s.flatMap fun c => if c = '"' then ['\\', '"'] else writeChar false c

/-- A text as a string. A line end behind the opening quotes is not part of it. -/
def writeString (s : List Char) : List Char :=
  let c := Contents.ofText s
  let open_ := if c.hasNewline then ['\n'] else []
  match Form.ofContents c with
  | .basic => '"' :: writeBasic s ++ ['"']
  | .literal => '\'' :: s ++ ['\'']
  | .longBasic => "\"\"\"".toList ++ open_ ++ writeLong 0 s ++ "\"\"\"".toList
  | .longLiteral => "'''".toList ++ open_ ++ s ++ "'''".toList

/-! ### Tables -/

/-- A value without parts. -/
def Scalar.write : Scalar → List Char
  | text t => writeString t.toList
  | integer n => Text.writeInt n.toInt
  | real x => x.write
  | truth b => (if b then "true" else "false").toList
  | dateTime t => t.toList

/-- Keys of letters, digits and underscores, with their values. -/
abbrev Row := List (String × Scalar)

/-- The lines of a table. -/
def writeRow (row : Row) : List Char :=
  row.flatMap fun (key, value) => key.toList ++ " = ".toList ++ value.write ++ ['\n']

/-- A list of tables under a name, each with its header. -/
def writeRows (name : String) : List Row → List Char
  | [] => name.toList ++ " = []\n".toList
  | rows =>
    ['\n'].intercalate (rows.map fun row =>
      '[' :: '[' :: name.toList ++ ']' :: ']' :: '\n' :: writeRow row)

end MailFilter.Toml
