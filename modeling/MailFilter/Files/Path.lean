/-!
# Paths

A path is a text with slashes between its components. Empty components and single dots say
nothing. The last component is the name of the file, and what follows the last dot of a name is its
extension; a dot at the front of a name starts none.
-/

namespace MailFilter

/-- A path. -/
structure Path where
  text : String
deriving DecidableEq, Repr

namespace Path

/-- The parts of a text between slashes. -/
def splitSlashes : List Char → List (List Char)
  | [] => [[]]
  | c :: s =>
    if c = '/' then [] :: splitSlashes s
    else
      match splitSlashes s with
      | [] => [[c]]
      | part :: parts => (c :: part) :: parts

/-- The components of a path, behind a slash for a path that starts at the root. -/
def components (p : Path) : List String :=
  let parts := (splitSlashes p.text.toList).filter fun part => part != [] && part != ['.']
  let names := parts.map String.ofList
  if p.text.toList.head? = some '/' then "/" :: names else names

/-- Whether the path asks for a directory, by a slash at its end. -/
def asksDirectory (p : Path) : Bool := p.text.toList.getLast? == some '/'

/-- The name at the end of the path, if it has one. -/
def fileName? (p : Path) : Option String :=
  match p.components.getLast? with
  | some name => if name = ".." ∨ name = "/" then none else some name
  | none => none

/-- Splits a name at its last dot, unless that is at the front. -/
def splitName (name : List Char) : List Char × Option (List Char) :=
  let behind := name.reverse.takeWhile (· != '.')
  let rest := name.reverse.dropWhile (· != '.')
  match rest with
  | '.' :: c :: before => ((c :: before).reverse, some behind.reverse)
  | _ => (name, none)

/-- The extension of the name. -/
def extension? (p : Path) : Option String :=
  p.fileName?.bind fun name => (splitName name.toList).2.map String.ofList

/-- The components before the last one. -/
def parentComponents (p : Path) : List String := p.components.dropLast

/-- The components with another extension in place of the one there is. -/
def componentsWithExtension (p : Path) (extension : String) : List String :=
  match p.fileName? with
  | some name =>
    p.parentComponents ++ [String.ofList (splitName name.toList).1 ++ "." ++ extension]
  | none => p.components

end Path

end MailFilter
