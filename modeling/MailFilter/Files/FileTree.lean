import MailFilter.Files.Path

/-!
# Files

The files that the program reads and writes, as a value. A tree maps places, which are lists of
components, to files and directories. Reading and writing fail as they do on a disk.

## Main results

* `find?_put`: what is found after a file has been written.
* `text?_ofText`: a text that was written is read back.
-/

namespace MailFilter

/-- What fails when a file is read or written. -/
inductive FileFault where
  | notFound
  | exists
  | notDirectory
  | isDirectory
  | notText
deriving DecidableEq, Repr

/-- The text of the message. -/
def FileFault.message : FileFault → String
  | notFound => "No such file or directory (os error 2)"
  | FileFault.exists => "File exists (os error 17)"
  | notDirectory => "Not a directory (os error 20)"
  | isDirectory => "Is a directory (os error 21)"
  | notText => "stream did not contain valid UTF-8"

/-- The bytes of a file. -/
abbrev FileBytes := ByteArray

/-- What stands at a place. -/
inductive Node where
  | file (bytes : FileBytes)
  | directory

/-- A place in a tree, from its root down. -/
abbrev Place := List String

/-- The files and directories at their places. The root is a directory without an entry. -/
structure FileTree where
  entries : List (Place × Node)

namespace FileTree

/-- A tree without files. -/
def empty : FileTree := ⟨[]⟩

/-- What stands at a place. -/
def find? (t : FileTree) (place : Place) : Option Node :=
  if place = [] then some .directory else t.entries.lookup place

/-- Puts a node at a place, over what stood there. -/
def put (t : FileTree) (place : Place) (node : Node) : FileTree :=
  ⟨(place, node) :: t.entries.filter (·.1 != place)⟩

/-- What is found after a node has been put at a place. -/
theorem find?_put (t : FileTree) {place other : Place} (node : Node) (h : place ≠ []) :
    (t.put place node).find? other = if other = place then some node else t.find? other := by
  simp only [find?, put]
  by_cases ho : other = place
  · subst ho
    simp [h]
  · rw [if_neg ho]
    split
    · rfl
    · rw [List.lookup_cons, beq_false_of_ne ho]
      simp only
      induction t.entries with
      | nil => rfl
      | cons e rest ih =>
        obtain ⟨p, n⟩ := e
        by_cases hp : p = place
        · subst hp
          simp [List.lookup_cons, beq_false_of_ne ho, ih]
        · have hb : (p != place) = true := by simpa using hp
          simp only [List.filter_cons, hb, if_true, List.lookup_cons, ih]

/-- Follows the components that lead upwards. -/
def resolve (components : List String) : Place :=
  components.foldl (fun place c => if c = ".." then place.dropLast else place ++ [c]) []

/-- A place and the places above it, from the root down. -/
def downTo : Place → List Place
  | [] => [[]]
  | c :: place => [] :: (downTo place).map (c :: ·)

/-- The places above a place, from the root down. -/
def above (place : Place) : List Place := (downTo place).dropLast

/-- Whether a file stands above a place, where only directories can. -/
def isBlocked (t : FileTree) (place : Place) : Bool :=
  (above place).any fun p =>
    match t.find? p with
    | some (.file _) => true
    | _ => false

/-- Whether something stands at a path. -/
def contains (t : FileTree) (p : Path) : Bool :=
  p.text != "" &&
    match t.find? (resolve p.components) with
    | some (.file _) => !p.asksDirectory
    | some .directory => true
    | none => false

/-! ### Reading -/

/-- The bytes of the file at a place. -/
def bytesAt (t : FileTree) (place : Place) : Except FileFault FileBytes :=
  match t.find? place with
  | some (.file bytes) => .ok bytes
  | some .directory => .error .isDirectory
  | none => .error (if t.isBlocked place then .notDirectory else .notFound)

/-- The bytes of a text. -/
def ofText (text : String) : FileBytes := text.toUTF8

/-- The text of bytes, if they are one. -/
def text? (bytes : FileBytes) : Option String := String.fromUTF8? bytes

/-- A text is read back from its bytes. -/
theorem text?_ofText (text : String) : text? (ofText text) = some text := by
  unfold text? ofText String.fromUTF8?
  exact dif_pos (c := text.toUTF8.IsValidUTF8) text.isValidUTF8

/-- Reads the text of a file. -/
def read (t : FileTree) (p : Path) : Except FileFault String :=
  if p.text = "" then .error .notFound
  else
    match t.bytesAt (resolve p.components) with
    | .error e => .error e
    | .ok bytes =>
      if p.asksDirectory then .error .notDirectory
      else
        match text? bytes with
        | some text => .ok text
        | none => .error .notText

/-! ### Writing -/

/-- Makes the directories that are missing down to a place. -/
def makeDirectories (t : FileTree) (place : Place) : Except FileFault FileTree :=
  if t.isBlocked place then .error .notDirectory
  else
    match t.find? place with
    | some (.file _) => .error .exists
    | some .directory => .ok t
    | none =>
      .ok ((downTo place).foldl (fun t p =>
        match t.find? p with
        | some _ => t
        | none => t.put p .directory) t)

/-- Makes the directories above the last component of a path. -/
def makeParents (t : FileTree) (p : Path) : Except FileFault FileTree :=
  t.makeDirectories (resolve p.parentComponents)

/-- Writes bytes at a place, whose directory must be there. -/
def writeAt (t : FileTree) (place : Place) (bytes : FileBytes) : Except FileFault FileTree :=
  match t.find? place with
  | some .directory => .error .isDirectory
  | some (.file _) => .ok (t.put place (.file bytes))
  | none =>
    if t.isBlocked place then .error .notDirectory
    else
      match t.find? place.dropLast with
      | some .directory => .ok (t.put place (.file bytes))
      | _ => .error .notFound

/-- Writes a text to a file, whose directory must be there. -/
def write (t : FileTree) (p : Path) (text : String) : Except FileFault FileTree :=
  if p.text = "" then .error .notFound
  else
    let place := resolve p.components
    if p.asksDirectory then
      match t.find? place with
      | some (.file _) => .error .notDirectory
      | _ => .error .isDirectory
    else t.writeAt place (ofText text)

end FileTree

end MailFilter
