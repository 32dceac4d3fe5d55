import MailFilter.Files.FileTree
import MailFilter.Regex.Parser
import MailFilter.Text.Decimal
import MailFilter.Text.Lines
import MailFilter.Text.Substring

/-!
# Programs of the Shell

The programs that conditions on messages make use of: tests of texts, numbers and files, searches
in texts, output, and waiting. A program takes its arguments and what is piped into it, and gives an
exit code, an output, and the milliseconds it takes.

The files are those of a tree, and a few that every system has.
-/

namespace MailFilter.Shell

open Regex (Pattern)

/-- What a program did. -/
structure Report where
  code : Nat
  output : List Char := []
  milliseconds : Nat := 0
  takesInput : Bool := false

/-! ### Files -/

/-- The directories that are always there. -/
def ownDirectories : List String :=
  ["/", "/bin", "/dev", "/etc", "/home", "/proc", "/root", "/sbin", "/tmp", "/usr", "/usr/bin",
    "/usr/lib", "/var", "/var/tmp"]

/-- The programs that are always there. -/
def ownPrograms : List String :=
  ["/bin/sh", "/bin/true", "/bin/false", "/bin/cat", "/bin/echo", "/bin/ls", "/bin/sleep",
    "/usr/bin/env", "/usr/bin/test"]

/-- The files that are always there and no programs. -/
def ownFiles : List String := ["/etc/passwd", "/etc/group", "/etc/hosts", "/etc/hostname"]

/-- The empty device. -/
def emptyDevice : String := "/dev/null"

/-- Whether there is a directory at a path. -/
def isDirectory (t : FileTree) (p : String) : Bool :=
  p != "" &&
    let components := Path.components ⟨p⟩
    (components.isEmpty || components == [".."] ||
      ownDirectories.any fun d => Path.components ⟨d⟩ == components) ||
    match t.find? (FileTree.resolve components) with
    | some .directory => true
    | _ => false

/-- The bytes of the file at a path. -/
def fileAt? (t : FileTree) (p : String) : Option FileBytes :=
  if p = "" then none
  else if p = emptyDevice then some .empty
  else (t.bytesAt (FileTree.resolve (Path.components ⟨p⟩))).toOption

/-- Whether there is a file at a path that is no device. -/
def isFile (t : FileTree) (p : String) : Bool :=
  p != emptyDevice && ((fileAt? t p).isSome || ownPrograms.contains p || ownFiles.contains p)

/-- Whether there is something at a path. -/
def isPresent (t : FileTree) (p : String) : Bool :=
  isFile t p || isDirectory t p || p == emptyDevice

/-- Whether a file can be written at a path. -/
def isWritable (t : FileTree) (p : String) : Bool :=
  p == emptyDevice ||
    (p != "" && !isDirectory t p &&
      isDirectory t (match Path.parentComponents ⟨p⟩ with
        | [] => "."
        | components => "/".intercalate components))

/-! ### Tests -/

/-- A test of one text. -/
def unaryTest? (t : FileTree) (operator operand : String) : Option Bool :=
  match operator with
  | "-n" => some (operand != "")
  | "-z" => some (operand == "")
  | "-f" => some (isFile t operand)
  | "-s" =>
    some ((fileAt? t operand).any (·.size != 0) || isDirectory t operand ||
      ownPrograms.contains operand || ownFiles.contains operand)
  | "-d" => some (isDirectory t operand)
  | "-e" | "-r" | "-w" | "-O" | "-G" => some (isPresent t operand)
  | "-x" => some (isDirectory t operand || ownPrograms.contains operand)
  | "-c" => some (operand == emptyDevice)
  | "-L" | "-h" | "-p" | "-S" | "-b" | "-t" | "-u" | "-g" | "-k" => some false
  | _ => none

/-- A comparison of two numbers. -/
def numberTest? (operator : String) : Option (Int → Int → Bool) :=
  match operator with
  | "-eq" => some fun a b => a == b
  | "-ne" => some fun a b => a != b
  | "-lt" => some fun a b => a < b
  | "-le" => some fun a b => a ≤ b
  | "-gt" => some fun a b => b < a
  | "-ge" => some fun a b => b ≤ a
  | _ => none

/-- A test of two texts. -/
def binaryTest? (a operator b : String) : Option Bool :=
  match operator with
  | "=" | "==" => some (a == b)
  | "!=" => some (a != b)
  | _ => do
    let compare ← numberTest? operator
    return compare (← Text.readInteger? (Text.trim a.toList))
      (← Text.readInteger? (Text.trim b.toList))

/-- A test of at most four arguments. None is one that is not understood. -/
def shortTest? (t : FileTree) : List String → Option Bool
  | [] => some false
  | [a] => some (a != "")
  | ["!", a] => some (a == "")
  | [operator, operand] => unaryTest? t operator operand
  | [a, "-a", b] => some (a != "" && b != "")
  | [a, "-o", b] => some (a != "" || b != "")
  | "!" :: rest => (shortTest? t rest).map (!·)
  | [a, operator, b] => binaryTest? a operator b
  | _ => none

/-- What stands in front of a word and behind it, if it is there. -/
def splitAt? (word : String) : List String → Option (List String × List String)
  | [] => none
  | a :: rest =>
    if a = word then some ([], rest)
    else (splitAt? word rest).map fun (front, back) => (a :: front, back)

/-- A test with at most `count` tests in it, which `-a` and `-o` join. -/
def testWithin? (t : FileTree) : (count : Nat) → List String → Option Bool
  | 0, _ => none
  | count + 1, arguments =>
    match shortTest? t arguments with
    | some verdict => some verdict
    | none =>
      match splitAt? "-o" arguments, splitAt? "-a" arguments with
      | some (front, back), _ => do
        return (← testWithin? t count front) || (← testWithin? t count back)
      | none, some (front, back) => do
        return (← testWithin? t count front) && (← testWithin? t count back)
      | none, none => none

/-- A test. -/
def test? (t : FileTree) (arguments : List String) : Option Bool :=
  testWithin? t (arguments.length + 1) arguments

/-- The exit code of a test. -/
def testCode (result : Option Bool) : Nat :=
  match result with
  | some true => 0
  | some false => 1
  | none => 2

/-! ### Searching -/

/-- How a search is done. -/
structure SearchOptions where
  fixed : Bool := false
  ignoreCase : Bool := false
  inverted : Bool := false
  quiet : Bool := false

/-- Takes letters for options. -/
def SearchOptions.add? (o : SearchOptions) : List Char → Option SearchOptions
  | [] => some o
  | 'F' :: s => { o with fixed := true }.add? s
  | 'i' :: s => { o with ignoreCase := true }.add? s
  | 'v' :: s => { o with inverted := true }.add? s
  | 'q' :: s => { o with quiet := true }.add? s
  | 's' :: s | 'E' :: s | 'c' :: s | 'n' :: s | 'o' :: s | 'h' :: s => o.add? s
  | _ => none

/-- The options in front of arguments, and the other arguments. -/
def SearchOptions.split? (o : SearchOptions) : List String → Option (SearchOptions × List String)
  | [] => some (o, [])
  | a :: rest =>
    if a = "--" then some (o, rest)
    else
      match a.toList with
      | '-' :: c :: s => (o.add? (c :: s)).bind (split? · rest)
      | _ => some (o, a :: rest)

/-- Whether a line is found, if the text to look for is understood. -/
def SearchOptions.finder? (o : SearchOptions) (wanted : String) : Option (List Char → Bool) :=
  if o.fixed then
    let fold := fun s => if o.ignoreCase then Text.asciiLower s else s
    some fun line => Text.occursIn (fold wanted.toList) (fold line)
  else (Pattern.ofText? o.ignoreCase wanted.toList).map fun p => p.matchesIn

/-- Searches the lines of files, or of what is piped in. -/
def search (t : FileTree) (arguments : List String) (input : List Char) : Report :=
  match SearchOptions.split? {} arguments with
  | some (o, wanted :: paths) =>
    match o.finder? wanted with
    | none => ⟨2, [], 0, false⟩
    | some finds =>
      let texts := paths.map fun p =>
        ((fileAt? t p).bind FileTree.text?).map fun (text : String) => text.toList
      let sources := if paths.isEmpty then [some input] else texts
      let found := (sources.filterMap id).flatMap fun text =>
        (Text.lines text).filter fun line => finds line != o.inverted
      let failed := sources.any (·.isNone)
      let output := if o.quiet then [] else found.flatMap (· ++ ['\n'])
      let code :=
        if failed && (found.isEmpty || !o.quiet) then 2 else if found.isEmpty then 1 else 0
      ⟨code, output, 0, paths.isEmpty⟩
  | _ => ⟨2, [], 0, false⟩

/-! ### Output and waiting -/

/-- Arguments with a blank between them. -/
def joined (arguments : List String) : List Char := (" ".intercalate arguments).toList

/-- Writes arguments in the places of a format. -/
def format : List Char → List String → List Char
  | [], _ => []
  | '%' :: '%' :: s, as => '%' :: format s as
  | '%' :: 's' :: s, a :: as => a.toList ++ format s as
  | '%' :: 'd' :: s, a :: as => a.toList ++ format s as
  | '%' :: 's' :: s, [] => format s []
  | '%' :: 'd' :: s, [] => '0' :: format s []
  | '\\' :: 'n' :: s, as => '\n' :: format s as
  | '\\' :: 't' :: s, as => '\t' :: format s as
  | '\\' :: '\\' :: s, as => '\\' :: format s as
  | c :: s, as => c :: format s as

/-- The contents of files one after the other, or what is piped in. -/
def concatenate (t : FileTree) (paths : List String) (input : List Char) : Report :=
  let texts := paths.map fun p =>
    if p = "-" then some input
    else ((fileAt? t p).bind FileTree.text?).map fun (text : String) => text.toList
  if paths.isEmpty then ⟨0, input, 0, true⟩
  else
    ⟨if texts.any (·.isNone) then 1 else 0, (texts.filterMap id).flatten, 0, paths.contains "-"⟩

/-- The milliseconds of what does not end. -/
def endless : Nat := Nat.pow 10 15

/-- The milliseconds of a length of time: a decimal number with a letter for its unit. -/
def milliseconds? (text : String) : Option Nat := do
  if text = "infinity" ∨ text = "inf" then return endless
  let s := text.toList
  let isUnit := fun c => c == 's' || c == 'm' || c == 'h' || c == 'd'
  let number := s.takeWhile (!isUnit ·)
  let unit ←
    match s.dropWhile (!isUnit ·) with
    | [] | ['s'] => some 1000
    | ['m'] => some 60000
    | ['h'] => some 3600000
    | ['d'] => some 86400000
    | _ => none
  let whole := number.takeWhile (· != '.')
  let fraction := (number.dropWhile (· != '.')).drop 1
  let n ← Text.readNatural? (whole ++ fraction)
  return n * unit / Nat.pow 10 fraction.length

/-- Waits for the sum of lengths of time. -/
def sleep (arguments : List String) : Report :=
  match arguments, arguments.mapM milliseconds? with
  | _ :: _, some times => { code := 0, milliseconds := times.foldl (· + ·) 0 }
  | _, _ => { code := 1 }

/-! ### Programs by name -/

/-- The name of a program without the directory where programs are. -/
def programName (name : String) : String :=
  let s := name.toList
  match ["/usr/bin/".toList, "/bin/".toList].find? fun d => d.isPrefixOf s with
  | some d => String.ofList (s.drop d.length)
  | none => name

/-- Runs the program of a name. -/
def program? (t : FileTree) (name : String) (arguments : List String) (input : List Char) :
    Option Report :=
  match programName name with
  | "true" => some { code := 0 }
  | "false" => some { code := 1 }
  | "test" => some { code := testCode (test? t arguments) }
  | "[" =>
    let isClosed := arguments.getLast? = some "]"
    some { code := if isClosed then testCode (test? t arguments.dropLast) else 2 }
  | "echo" =>
    some (match arguments with
      | "-n" :: rest => { code := 0, output := joined rest }
      | _ => { code := 0, output := joined arguments ++ ['\n'] })
  | "printf" =>
    some (match arguments with
      | [] => { code := 2 }
      | f :: rest => { code := 0, output := format f.toList rest })
  | "cat" => some (concatenate t arguments input)
  | "grep" => some (search t arguments input)
  | "sleep" => some (sleep arguments)
  | "pwd" => some { code := 0, output := ['/', '\n'] }
  | "ls" =>
    some { code := if (arguments.filter (!·.startsWith "-")).all (isPresent t) then 0 else 2 }
  | _ => none

end MailFilter.Shell
