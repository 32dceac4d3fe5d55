import MailFilter.Regex.Pattern
import MailFilter.Text.Blank
import MailFilter.Text.Decimal

/-!
# Reading Patterns

The notation of patterns: literals, classes, groups, alternatives and repetitions, escapes, places,
and flags that hold to the end of their group. There are no back references and no conditions on
the text around a group, so a pattern can always be matched in one pass.

Reading works with a stack of open groups. The text that remains gets shorter with every step, and
an empty answer says that the text is no pattern.
-/

namespace MailFilter.Regex

open Text (isBlank isDigit)

/-! ### Flags -/

/-- The flags that decide what the notation means. -/
structure Flags where
  ignoreCase : Bool := false
  multiLine : Bool := false
  dotAll : Bool := false
  lazy : Bool := false
  unicode : Bool := true
  crlf : Bool := false
  verbose : Bool := false

namespace Flags

/-- Sets the flag of a letter. -/
def set? (f : Flags) (letter : Char) (value : Bool) : Option Flags :=
  match letter with
  | 'i' => some { f with ignoreCase := value }
  | 'm' => some { f with multiLine := value }
  | 's' => some { f with dotAll := value }
  | 'U' => some { f with lazy := value }
  | 'u' => some { f with unicode := value }
  | 'R' => some { f with crlf := value }
  | 'x' => some { f with verbose := value }
  | _ => none

/-- Reads flags up to the character that ends them, which is given back with what follows. A letter
occurs once, a hyphen at most once and not at the end. -/
def read (f : Flags) (seen : List Char) (negated dangling : Bool) :
    List Char → Option (Flags × Bool × Char × List Char)
  | [] => none
  | c :: s =>
    if c = ':' ∨ c = ')' then if dangling then none else some (f, seen.isEmpty, c, s)
    else if c = '-' then if negated then none else read f seen true true s
    else if seen.contains c then none
    else
      match f.set? c (!negated) with
      | some f => read f (c :: seen) negated false s
      | none => none

/-- Folds a set where case is ignored. -/
def fold (f : Flags) (s : CharSet) : CharSet := if f.ignoreCase then .folded f.unicode s else s

/-- A finished class: folded, perhaps turned round, and within ASCII where bytes are meant. -/
def finish? (f : Flags) (negated : Bool) (s : CharSet) : Option CharSet :=
  let folded := f.fold s
  let set := if negated then folded.complement else folded
  if f.unicode || set.isAscii then some set else none

end Flags

/-! ### Blanks and numbers -/

/-- Skips blanks and comments, from inside a comment or not. -/
def skipSpace (comment : Bool) : List Char → List Char
  | [] => []
  | c :: s =>
    if comment then skipSpace (c != '\n') s
    else if c = '#' then skipSpace true s
    else if isBlank c then skipSpace false s
    else c :: s

/-- Skips blanks and comments where they do not count. -/
def Flags.skip (f : Flags) (s : List Char) : List Char :=
  if f.verbose then skipSpace false s else s

/-- Takes at most `n` characters that satisfy a test, and skips blanks and comments before each of
them where they do not count. -/
def Flags.take (f : Flags) (p : Char → Bool) : Nat → List Char → List Char × List Char
  | 0, s => ([], s)
  | n + 1, s =>
    match f.skip s with
    | [] => ([], [])
    | c :: rest =>
      if p c then
        let (taken, rest) := f.take p n rest
        (c :: taken, rest)
      else ([], c :: rest)

/-- Takes the characters that satisfy a test, and skips blanks and comments before each of them
where they do not count. -/
def Flags.takeWhile (f : Flags) (p : Char → Bool) (s : List Char) : List Char × List Char :=
  f.take p s.length s

/-- Reads a number that fits a word of thirty-two bits, with blanks around it. `none` stands for a
missing number, and nothing is read for one that does not fit. -/
def Flags.readCount (f : Flags) (s : List Char) : Option (Option Nat × List Char) :=
  let (digits, rest) := f.takeWhile isDigit (Text.trimStart s)
  let rest := Text.trimStart rest
  match Text.readNatural? digits with
  | none => some (none, rest)
  | some n => if n < UInt32.size then some (some n, rest) else none

/-! ### Escapes -/

/-- What an escape stands for. -/
inductive Escape where
  | literal (c : Char)
  | set (s : CharSet)
  | look (l : Look)

/-- The punctuation with a meaning of its own. -/
def isMeta (c : Char) : Bool := "\\.+*?()|[]\x7b\x7d^$#&-~".toList.contains c

/-- The characters of ASCII that a backslash leaves as they are. -/
def isEscapable (c : Char) : Bool :=
  isMeta c || (c.toNat < 128 && !Text.isAlphanumeric c && c != '<' && c != '>')

/-- The value of a hexadecimal digit. -/
def hexDigit? (c : Char) : Option Nat :=
  if '0' ≤ c ∧ c ≤ '9' then some (c.toNat - 48)
  else if 'a' ≤ c ∧ c ≤ 'f' then some (c.toNat - 87)
  else if 'A' ≤ c ∧ c ≤ 'F' then some (c.toNat - 55)
  else none

/-- The character whose number has these hexadecimal digits, of which there is at least one. -/
def hexChar? (digits : List Char) : Option Char :=
  if digits = [] then none
  else
    let n := digits.foldl (fun n c => 16 * n + (hexDigit? c).getD 0) 0
    if n.isValidChar then some (Char.ofNat n) else none

/-- Reads the number of a character: a fixed count of digits, or any number of them in braces. -/
def Flags.readHex? (f : Flags) (count : Nat) (s : List Char) : Option (Char × List Char) :=
  match f.skip s with
  | '\x7b' :: s =>
    match f.takeWhile (fun c => (hexDigit? c).isSome) s with
    | (digits, '\x7d' :: rest) => (hexChar? digits).map ((·, f.skip rest))
    | _ => none
  | s =>
    let (digits, rest) := f.take (fun c => (hexDigit? c).isSome) count s
    if digits.length = count then
      match hexChar? digits with
      | some c => if count = 2 ∧ !f.unicode ∧ 128 ≤ c.toNat then none else some (c, f.skip rest)
      | none => none
    else none

/-- Splits a text at the first occurrence of a part. -/
def splitAtPart? (part : List Char) : List Char → Option (List Char × List Char)
  | [] => none
  | c :: s =>
    if part.isPrefixOf (c :: s) then some ([], (c :: s).drop part.length)
    else (splitAtPart? part s).map fun (a, b) => (c :: a, b)

/-- The class of a property in braces: a name, or a name and a value. The answer says whether the
class is turned round. -/
def bracedProperty? (s : List Char) : Option (Bool × CharSet) :=
  match splitAtPart? ['!', '='] s with
  | some (property, value) => (CharSet.ofValue? property value).map (true, ·)
  | none =>
    match splitAtPart? [':'] s with
    | some (property, value) => (CharSet.ofValue? property value).map (false, ·)
    | none =>
      match splitAtPart? ['='] s with
      | some (property, value) => (CharSet.ofValue? property value).map (false, ·)
      | none => (CharSet.ofName? s).map (false, ·)

/-- Reads the class of a property behind its letter. -/
def Flags.readProperty? (f : Flags) (negated : Bool) (s : List Char) :
    Option (CharSet × List Char) := do
  if !f.unicode then none
  match f.skip s with
  | '\x7b' :: s =>
    match f.takeWhile (· != '\x7d') s with
    | (name, '\x7d' :: rest) =>
      let (turned, set) ← bracedProperty? name
      return (← f.finish? (negated != turned) set, rest)
    | _ => none
  | '\\' :: _ => none
  | c :: rest => return (← f.finish? negated (← CharSet.ofName? [c]), f.skip rest)
  | [] => none

/-- Reads what may follow `\b` in braces. Braces that cannot hold a name are left alone. -/
def Flags.readBoundary? (f : Flags) (s : List Char) : Option (Look × List Char) :=
  match s with
  | '\x7b' :: inside =>
    let isNameChar := fun c => Text.isLetter c || c == '-'
    match f.skip inside with
    | [] => none
    | c :: _ =>
      if isNameChar c then
        match f.takeWhile isNameChar inside with
        | (name, '\x7d' :: rest) =>
          match String.ofList name with
          | "start" => some (.wordStart f.unicode, rest)
          | "end" => some (.wordEnd f.unicode, rest)
          | "start-half" => some (.wordStartHalf f.unicode, rest)
          | "end-half" => some (.wordEndHalf f.unicode, rest)
          | _ => none
        | _ => none
      else some (.wordBoundary f.unicode, s)
  | _ => some (.wordBoundary f.unicode, s)

/-- Reads what stands behind a backslash. -/
def Flags.readEscape? (f : Flags) : List Char → Option (Escape × List Char)
  | [] => none
  | c :: s =>
    match c with
    | 'x' => (f.readHex? 2 s).map fun (c, s) => (.literal c, s)
    | 'u' => (f.readHex? 4 s).map fun (c, s) => (.literal c, s)
    | 'U' => (f.readHex? 8 s).map fun (c, s) => (.literal c, s)
    | 'p' => (f.readProperty? false s).map fun (set, s) => (.set set, s)
    | 'P' => (f.readProperty? true s).map fun (set, s) => (.set set, s)
    | 'a' => some (.literal '\x07', s)
    | 'f' => some (.literal '\x0c', s)
    | 't' => some (.literal '\t', s)
    | 'n' => some (.literal '\n', s)
    | 'r' => some (.literal '\r', s)
    | 'v' => some (.literal '\x0b', s)
    | 'A' => some (.look .textStart, s)
    | 'z' => some (.look .textEnd, s)
    | 'b' => (f.readBoundary? s).map fun (l, s) => (.look l, s)
    | 'B' => some (.look (.noWordBoundary f.unicode), s)
    | '<' => some (.look (.wordStart f.unicode), s)
    | '>' => some (.look (.wordEnd f.unicode), s)
    | _ =>
      match CharSet.ofLetter? f.unicode c.toLower with
      | some set =>
        if c.isLower then some (.set set, s)
        else if f.unicode then some (.set set.complement, s)
        else none
      | none => if isEscapable c then some (.literal c, s) else none

/-! ### Classes in brackets -/

/-- The operations between the parts of a class. -/
inductive ClassOp where
  | inter
  | diff
  | xor

/-- Applies an operation to two folded sets. -/
def ClassOp.apply (f : Flags) (op : ClassOp) (a b : CharSet) : CharSet :=
  match op with
  | inter => .inter (f.fold a) (f.fold b)
  | diff => .diff (f.fold a) (f.fold b)
  | xor => .xor (f.fold a) (f.fold b)

/-- A class that is being read: whether it is turned round, the operation that waits for its right
side, and the items of the part that is being read. -/
structure OpenClass where
  negated : Bool
  pending : Option (ClassOp × CharSet)
  items : CharSet

namespace OpenClass

/-- Adds an item. -/
def add (c : OpenClass) (item : CharSet) : OpenClass :=
  { c with items := match c.items with
    | .none => item
    | items => .union items item }

/-- The parts so far, put together from the left. -/
def value (f : Flags) (c : OpenClass) : CharSet :=
  match c.pending with
  | some (op, left) => op.apply f left c.items
  | none => c.items

/-- Starts the right side of an operation. -/
def operate (f : Flags) (c : OpenClass) (op : ClassOp) : OpenClass :=
  { c with pending := some (op, c.value f), items := .none }

end OpenClass

/-- Takes the hyphens in front as literals. -/
def Flags.takeHyphens (f : Flags) (c : OpenClass) (s : List Char) : OpenClass × List Char :=
  let (hyphens, rest) := f.takeWhile (· == '-') s
  (hyphens.foldl (fun c hyphen => c.add (.single hyphen)) c, rest)

/-- Opens a class behind its bracket. Hyphens and a closing bracket in front are literals. -/
def Flags.openClass (f : Flags) (s : List Char) : OpenClass × List Char :=
  let (negated, s) :=
    match f.skip s with
    | '^' :: s => (true, f.skip s)
    | s => (false, s)
  let (c, rest) := f.takeHyphens ⟨negated, none, .none⟩ s
  match c.items, rest with
  | .none, ']' :: rest => (c.add (.single ']'), f.skip rest)
  | _, _ => (c, rest)

/-- Reads the name of a class between colons behind a bracket, if there is one. The answer says
whether the class is turned round. -/
def readPosix? (s : List Char) : Option (Bool × CharSet × List Char) :=
  match s with
  | ':' :: s =>
    let (negated, s) :=
      match s with
      | '^' :: s => (true, s)
      | s => (false, s)
    match s.dropWhile (· != ':') with
    | ':' :: ']' :: rest =>
      (CharSet.ofPosixName? (String.ofList (s.takeWhile (· != ':')))).map fun set =>
        (negated, set, rest)
    | _ => none
  | _ => none

/-- Reads one item of a class, which is not a bracket. -/
def Flags.readItem? (f : Flags) : List Char → Option (Escape × List Char)
  | [] => none
  | '\\' :: s => f.readEscape? s
  | c :: s => some (.literal c, s)

/-- Where bytes are meant, a literal of a class lies within ASCII. -/
def Flags.allows (f : Flags) (c : Char) : Bool := f.unicode || c.toNat < 128

/-- Reads an item or a range. -/
def Flags.readRange? (f : Flags) (s : List Char) : Option (CharSet × List Char) := do
  let (first, rest) ← f.readItem? s
  let rest := f.skip rest
  let alone : Option (CharSet × List Char) :=
    match first with
    | .literal c => if f.allows c then some (.single c, rest) else none
    | .set set => some (set, rest)
    | .look _ => none
  match rest with
  | [] => none
  | '-' :: behind =>
    match f.skip behind with
    | ']' :: _ => alone
    | '-' :: _ => alone
    | behind =>
      match first, ← f.readItem? behind with
      | .literal a, (.literal b, rest) =>
        if a ≤ b ∧ f.allows a ∧ f.allows b then some (.range a.toNat b.toNat, rest) else none
      | _, _ => none
  | _ => alone

/-- The result of one step inside a class: the class is finished, or it goes on. -/
inductive ClassStep where
  | finished (set : CharSet) (rest : List Char)
  | further (outer : List OpenClass) (current : OpenClass) (rest : List Char)

/-- One step inside a class. -/
def Flags.stepClass? (f : Flags) (outer : List OpenClass) (current : OpenClass) (s : List Char) :
    Option ClassStep :=
  match f.skip s with
  | [] => none
  | '[' :: s =>
    match readPosix? s with
    | some (negated, set, rest) =>
      (f.finish? negated set).map fun set => .further outer (current.add set) rest
    | none =>
      if 250 ≤ outer.length then none
      else
        let (inner, rest) := f.openClass s
        some (.further (current :: outer) inner rest)
  | ']' :: rest =>
    match f.finish? current.negated (current.value f), outer with
    | none, _ => none
    | some set, [] => some (.finished set rest)
    | some set, c :: outer => some (.further outer (c.add set) rest)
  | '&' :: '&' :: rest => some (.further outer (current.operate f .inter) rest)
  | '-' :: '-' :: rest => some (.further outer (current.operate f .diff) rest)
  | '~' :: '~' :: rest => some (.further outer (current.operate f .xor) rest)
  | s => (f.readRange? s).map fun (set, rest) => .further outer (current.add set) rest

/-- Reads a class up to its closing bracket. -/
def Flags.readClass? (f : Flags) (outer : List OpenClass) (current : OpenClass) (s : List Char) :
    Option (CharSet × List Char) :=
  match f.stepClass? outer current s with
  | none => none
  | some (.finished set rest) => some (set, rest)
  | some (.further outer current rest) =>
    if rest.length < s.length then f.readClass? outer current rest else none
termination_by s.length

/-! ### Groups, alternatives and repetitions -/

/-- An item of a sequence: flags, which cannot be repeated, or a pattern with its depth. -/
inductive Item where
  | flags
  | pattern (p : Pattern) (depth : Nat)

/-- A group that is being read: its finished alternatives and the items of the current one, both
from the last to the first. -/
structure OpenGroup where
  branches : List (Pattern × Nat) := []
  items : List Item := []

namespace OpenGroup

/-- Adds a pattern. -/
def add (g : OpenGroup) (p : Pattern) (depth : Nat) : OpenGroup :=
  { g with items := .pattern p depth :: g.items }

/-- The sequence of the items. -/
def sequence (g : OpenGroup) : Pattern × Nat :=
  let patterns := g.items.filterMap fun
    | .flags => none
    | .pattern p depth => some (p, depth)
  match patterns with
  | [] => (.empty, 0)
  | [single] => single
  | last :: before =>
    before.foldl (fun (p, depth) (q, d) => (.seq q p, max depth (d + 1))) (last.1, last.2 + 1)

/-- Starts another alternative. -/
def alternate (g : OpenGroup) : OpenGroup := ⟨g.sequence :: g.branches, []⟩

/-- All alternatives. -/
def value (g : OpenGroup) : Pattern × Nat :=
  match g.branches with
  | [] => g.sequence
  | branches =>
    let last := g.sequence
    branches.foldl (fun (p, depth) (q, d) => (.alt q p, max depth (d + 1))) (last.1, last.2 + 1)

/-- Repeats the last item, which must be a pattern. -/
def repeat? (g : OpenGroup) (least : Nat) (most : Option Nat) : Option OpenGroup :=
  match g.items with
  | .pattern p depth :: before =>
    some { g with items := .pattern (.repeated p least most) (depth + 1) :: before }
  | _ => none

end OpenGroup

/-- The state of reading: the groups around the current one with the flags to return to, the
current group, its flags and the names of groups so far. -/
structure State where
  outer : List (OpenGroup × Flags) := []
  group : OpenGroup := {}
  flags : Flags
  names : List (List Char) := []

namespace State

/-- Adds a pattern to the current group. -/
def add (st : State) (p : Pattern) (depth : Nat) : State :=
  { st with group := st.group.add p depth }

/-- Opens a group whose flags are given. -/
def enter (st : State) (flags : Flags) : State :=
  { st with outer := (st.group, st.flags) :: st.outer, group := {}, flags := flags }

/-- A literal, up to case where case is ignored. -/
def literal (st : State) (c : Char) : State := st.add (.set (st.flags.fold (.single c))) 0

/-- Whether a character may stand in the name of a group. -/
def isNameChar (first : Bool) (c : Char) : Bool :=
  if first then c == '_' || CharSet.alphabetic.contains c.toNat
  else
    c == '_' || c == '.' || c == '[' || c == ']' || CharSet.alphabetic.contains c.toNat ||
      (CharSet.categories ["nd", "nl", "no"]).contains c.toNat

/-- Opens a group with a name, which must be new. -/
def enterNamed? (st : State) (s : List Char) : Option (State × List Char) :=
  match s.takeWhile (· != '>'), s.dropWhile (· != '>') with
  | c :: name, '>' :: rest =>
    if isNameChar true c && name.all (isNameChar false) && !st.names.contains (c :: name) then
      some ({ st.enter st.flags with names := (c :: name) :: st.names }, rest)
    else none
  | _, _ => none

/-- Reads what stands behind an opening parenthesis. -/
def openGroup? (st : State) (s : List Char) : Option (State × List Char) :=
  match st.flags.skip s with
  | '?' :: '=' :: _ => none
  | '?' :: '!' :: _ => none
  | '?' :: '<' :: '=' :: _ => none
  | '?' :: '<' :: '!' :: _ => none
  | '?' :: 'P' :: '<' :: s => st.enterNamed? s
  | '?' :: '<' :: s => st.enterNamed? s
  | '?' :: s =>
    match st.flags.read [] false false s with
    | some (flags, _, ':', rest) => some (st.enter flags, rest)
    | some (flags, unchanged, _, rest) =>
      if unchanged then none
      else
        some ({ st with flags := flags, group := { st.group with
          items := .flags :: st.group.items } }, rest)
    | none => none
  | s => some (st.enter st.flags, s)

/-- Closes the current group. -/
def closeGroup? (st : State) : Option State :=
  match st.outer with
  | [] => none
  | (group, flags) :: outer =>
    let (p, depth) := st.group.value
    if 250 < depth + 1 then none
    else some { st with outer := outer, group := group.add p (depth + 1), flags := flags }

/-- Repeats the last item, and takes the mark that asks for few repetitions. -/
def repeat? (st : State) (least : Nat) (most : Option Nat) (s : List Char) :
    Option (State × List Char) :=
  (st.group.repeat? least most).map fun group =>
    ({ st with group := group }, match s with
      | '?' :: rest => rest
      | _ => s)

/-- Reads a counted repetition behind its brace. -/
def repeatCounted? (st : State) (s : List Char) : Option (State × List Char) := do
  let (least?, rest) ← st.flags.readCount (st.flags.skip s)
  let least ← least?
  match rest with
  | '\x7d' :: rest => st.repeat? least (some least) (st.flags.skip rest)
  | ',' :: rest =>
    match st.flags.skip rest with
    | '\x7d' :: rest => st.repeat? least none (st.flags.skip rest)
    | rest =>
      let (most?, rest) ← st.flags.readCount rest
      let most ← most?
      match rest with
      | '\x7d' :: rest =>
        if least ≤ most then st.repeat? least (some most) (st.flags.skip rest) else none
      | _ => none
  | _ => none

/-- The class of the point. Where bytes are meant it would not keep to whole characters. -/
def dot? (f : Flags) : Option CharSet :=
  if !f.unicode then none
  else if f.dotAll then some .everything
  else if f.crlf then some (.complement (.union (.single '\n') (.single '\r')))
  else some (.complement (.single '\n'))

/-- Adds what an escape stands for. -/
def addEscape (st : State) : Escape → State
  | .literal c => st.literal c
  | .set s => st.add (.set s) 0
  | .look l => st.add (.look l) 0

/-- Reads one item. -/
def step? (st : State) (c : Char) (s : List Char) : Option (State × List Char) :=
  match c with
  | '(' => st.openGroup? s
  | ')' => st.closeGroup?.map ((·, s))
  | '|' => some ({ st with group := st.group.alternate }, s)
  | '[' =>
    let (current, rest) := st.flags.openClass s
    (st.flags.readClass? [] current rest).map fun (set, rest) => (st.add (.set set) 1, rest)
  | '?' => st.repeat? 0 (some 1) s
  | '*' => st.repeat? 0 none s
  | '+' => st.repeat? 1 none s
  | '\x7b' => st.repeatCounted? s
  | '\\' => (st.flags.readEscape? s).map fun (e, rest) => (st.addEscape e, rest)
  | '.' => (dot? st.flags).map fun set => (st.add (.set set) 0, s)
  | '^' =>
    let l := if st.flags.multiLine then if st.flags.crlf then .crlfStart else .lineStart
      else .textStart
    some (st.add (.look l) 0, s)
  | '$' =>
    let l := if st.flags.multiLine then if st.flags.crlf then .crlfEnd else .lineEnd
      else .textEnd
    some (st.add (.look l) 0, s)
  | c => some (st.literal c, s)

/-- Reads up to the end. -/
def read? (st : State) (s : List Char) : Option Pattern :=
  match st.flags.skip s with
  | [] =>
    let (p, depth) := st.group.value
    if st.outer.isEmpty && depth ≤ 250 then some p else none
  | c :: rest =>
    match st.step? c rest with
    | some (st, rest') => if rest'.length < s.length then st.read? rest' else none
    | none => none
termination_by s.length

end State

/-- The number of states that a pattern may have. -/
def weightLimit : Nat := 327680

/-- The pattern of a text. A pattern that asks for too many states is refused. -/
def Pattern.ofText? (ignoreCase : Bool) (s : List Char) : Option Pattern :=
  let start : Flags := { ignoreCase := ignoreCase }
  match State.read? { flags := start } s with
  | some p => if p.weight ≤ weightLimit then some p else none
  | none => none

end MailFilter.Regex
