import MailFilter.Message.Source
import MailFilter.Store.RuleFile

/-!
# Saving the Rules

Where a file of rules can be written at all (`RuleFile.IsWritable`), saving succeeds whatever the
rules are, what was saved is what is loaded next, and the file can be written again. Everything else
stays: the only places that change are that of the file, that of its backup, and missing directories
above them.

## Main results

* `FileTree.find?_makeMissing`: what is found after directories have been made.
* `RuleFile.IsWritable.save_ok`: saving succeeds, with what it changes.
* `RuleFile.load_saved`: the rules are loaded as they were saved, if the format reads them back.
* `Message.load_congr`: messages are loaded from what their file holds.
-/

namespace MailFilter

/-! ### Places -/

namespace FileTree

/-- A place is made by adding a name that does not lead upwards. -/
theorem resolve_append {components : List String} {name : String} (h : name ≠ "..") :
    resolve (components ++ [name]) = resolve components ++ [name] := by
  rw [resolve, List.foldl_append, List.foldl_cons, List.foldl_nil, if_neg h]
  rfl

/-- The way down to a place goes along the places above it. -/
theorem mem_downTo {p place : Place} : p ∈ downTo place ↔ p <+: place := by
  induction place generalizing p with
  | nil => simp [downTo]
  | cons c place ih =>
    cases p with
    | nil => simp [downTo]
    | cons d p =>
      rw [downTo, List.mem_cons, List.mem_map, List.cons_prefix_cons, ← ih]
      simp only [List.cons.injEq, reduceCtorEq, false_or]
      constructor
      · rintro ⟨q, hq, rfl, rfl⟩
        exact ⟨rfl, hq⟩
      · rintro ⟨rfl, hp⟩
        exact ⟨p, hp, rfl, rfl⟩

/-- The way down to a place goes on to what is in it. -/
theorem downTo_append (place : Place) (name : String) :
    downTo (place ++ [name]) = downTo place ++ [place ++ [name]] := by
  induction place with
  | nil => rfl
  | cons c place ih => simp [downTo, ih]

/-- What is in a place is not above it. -/
theorem append_notPrefix (place : Place) (name : String) : ¬ place ++ [name] <+: place := by
  intro h
  have hlen := h.length_le
  simp only [List.length_append, List.length_singleton] at hlen
  omega

/-- No file stands on the way down to a place. -/
def IsOpen (t : FileTree) (place : Place) : Prop :=
  ∀ p, p <+: place → ∀ bytes, t.find? p ≠ some (.file bytes)

/-- Nothing blocks what is in a place that is open. -/
theorem isBlocked_append {t : FileTree} {place : Place} (h : t.IsOpen place) (name : String) :
    t.isBlocked (place ++ [name]) = false := by
  rw [isBlocked, above, downTo_append, List.dropLast_concat, List.any_eq_false]
  intro p hp
  have hopen := h p (mem_downTo.1 hp)
  split
  · next bytes hfind => exact absurd hfind (hopen bytes)
  · simp

/-- Nothing blocks a place that is open. -/
theorem isBlocked_of_isOpen {t : FileTree} {place : Place} (h : t.IsOpen place) :
    t.isBlocked place = false := by
  rw [isBlocked, List.any_eq_false]
  intro p hp
  have hopen := h p (mem_downTo.1 (List.dropLast_subset _ hp))
  split
  · next bytes hfind => exact absurd hfind (hopen bytes)
  · simp

/-! ### Directories and files -/

/-- Makes a directory where nothing stands. -/
def makeMissing (t : FileTree) (p : Place) : FileTree :=
  match t.find? p with
  | some _ => t
  | none => t.put p .directory

/-- What is found after directories have been made. -/
theorem find?_makeMissing (t : FileTree) (ps : List Place) (q : Place) :
    (ps.foldl makeMissing t).find? q =
      match t.find? q with
      | some node => some node
      | none => if q ∈ ps then some .directory else none := by
  induction ps generalizing t with
  | nil =>
    rw [List.foldl_nil]
    cases t.find? q <;> simp
  | cons p ps ih =>
    rw [List.foldl_cons, ih]
    cases hp : t.find? p with
    | some node =>
      have hkept : t.makeMissing p = t := by simp only [makeMissing, hp]
      rw [hkept]
      cases hq : t.find? q with
      | some _ => rfl
      | none =>
        have hne : q ≠ p := by
          rintro rfl
          rw [hq] at hp
          cases hp
        simp [hne]
    | none =>
      have hne : p ≠ [] := by
        rintro rfl
        cases hp
      have hput : t.makeMissing p = t.put p .directory := by simp only [makeMissing, hp]
      rw [hput, find?_put t .directory hne]
      by_cases hq : q = p
      · simp [hq, hp]
      · simp [hq]

/-- The directories down to a place that is open can be made. -/
theorem makeDirectories_of_isOpen {t : FileTree} {place : Place} (h : t.IsOpen place) :
    ∃ t', t.makeDirectories place = .ok t' ∧ t'.find? place = some .directory ∧
      t'.IsOpen place ∧ (∀ p node, t.find? p = some node → t'.find? p = some node) ∧
      ∀ p, ¬ p <+: place → t'.find? p = t.find? p := by
  rw [makeDirectories]
  rw [isBlocked_of_isOpen h]
  simp only [Bool.false_eq_true, if_false]
  split
  · next bytes hfind => exact absurd hfind (h place (List.prefix_refl place) bytes)
  · next hfind => exact ⟨t, rfl, hfind, h, fun _ _ hp => hp, fun _ _ => rfl⟩
  · next hfind =>
    refine ⟨(downTo place).foldl makeMissing t, rfl, ?_, ?_, ?_, ?_⟩
    · rw [find?_makeMissing, hfind]
      simp [mem_downTo]
    · intro p hp bytes
      have hopen := h p hp bytes
      rw [find?_makeMissing]
      cases hpf : t.find? p with
      | some node => rwa [hpf] at hopen
      | none => simp [mem_downTo, hp]
    · intro p node hp
      rw [find?_makeMissing, hp]
    · intro p hp
      rw [find?_makeMissing]
      cases t.find? p <;> simp [mem_downTo, hp]

/-- Bytes can be written into a directory, where no directory stands. -/
theorem writeAt_ok {t : FileTree} {place : Place} {name : String}
    (hopen : t.IsOpen place) (hdirectory : t.find? place = some .directory)
    (hfree : t.find? (place ++ [name]) ≠ some .directory) (bytes : FileBytes) :
    t.writeAt (place ++ [name]) bytes = .ok (t.put (place ++ [name]) (.file bytes)) := by
  rw [writeAt]
  split
  · next hfind => exact absurd hfind hfree
  · rfl
  · rw [isBlocked_append hopen, List.dropLast_concat, hdirectory]
    rfl

/-- Reading a text depends on what stands at its place. -/
theorem read_congr {t t' : FileTree} {p : Path}
    (h : t'.find? (resolve p.components) = t.find? (resolve p.components)) {text : String}
    (hread : t.read p = .ok text) : t'.read p = .ok text := by
  rw [read, bytesAt] at hread ⊢
  rw [h]
  split at hread
  · cases hread
  · next hp =>
    rw [if_neg hp]
    cases hfind : t.find? (resolve p.components) with
    | none =>
      rw [hfind] at hread
      cases hread
    | some node =>
      rw [hfind] at hread
      cases node with
      | directory => cases hread
      | file bytes => exact hread

/-- A text is read from a file that holds it. -/
theorem read_of_file {t : FileTree} {p : Path} {text : String} (htext : p.text ≠ "")
    (hasks : p.asksDirectory = false)
    (hfind : t.find? (resolve p.components) = some (.file (ofText text))) :
    t.read p = .ok text := by
  simp [read, htext, bytesAt, hfind, hasks, text?_ofText]

/-- What is read stands in a file. -/
theorem exists_file_of_read {t : FileTree} {p : Path} {text : String} (h : t.read p = .ok text) :
    ∃ bytes, t.find? (resolve p.components) = some (.file bytes) := by
  rw [read, bytesAt] at h
  split at h
  · cases h
  · split at h
    · cases h
    · next bytes hb =>
      split at hb
      · next found hfind => exact ⟨found, hfind⟩
      · cases hb
      · cases hb

end FileTree

/-! ### The file of rules -/

namespace RuleFile

open FileTree (resolve IsOpen)

/-- The place of the file. -/
def place (f : RuleFile) : Place := resolve f.path.components

/-- The directory of the file. -/
def directory (f : RuleFile) : Place := resolve f.path.parentComponents

/-- Whether the rules can be written: the path names a file, no file stands where directories must
be, and no directory where the file or its backup must be. -/
structure IsWritable (f : RuleFile) (t : FileTree) : Prop where
  named : f.path.fileName?.isSome
  notDirectory : f.path.asksDirectory = false
  isOpen : t.IsOpen f.directory
  place : t.find? f.place ≠ some .directory
  backup : t.find? f.backupPlace ≠ some .directory

variable {f : RuleFile} {t t' : FileTree}

/-- A path that names a file is a directory and a name in it. -/
theorem components_of_fileName? {p : Path} {name : String} (h : p.fileName? = some name) :
    p.components = p.parentComponents ++ [name] ∧ name ≠ ".." ∧ p.text ≠ "" := by
  rw [Path.fileName?] at h
  cases hlast : p.components.getLast? with
  | none =>
    rw [hlast] at h
    cases h
  | some last =>
    rw [hlast] at h
    simp only at h
    split at h
    · cases h
    · next hn =>
      cases h
      refine ⟨?_, fun hup => hn (.inl hup), ?_⟩
      · obtain ⟨front, hfront⟩ := List.getLast?_eq_some_iff.1 hlast
        rw [Path.parentComponents, hfront, List.dropLast_concat]
      · intro hempty
        obtain rfl : p = ⟨""⟩ := by cases p; simpa using hempty
        cases hlast

/-- A text can be written to a path that names a file in a directory that is there. -/
theorem write_ok {p : Path} (hnamed : p.fileName?.isSome) (hasks : p.asksDirectory = false)
    (hopen : t.IsOpen (resolve p.parentComponents))
    (hdirectory : t.find? (resolve p.parentComponents) = some .directory)
    (hfree : t.find? (resolve p.components) ≠ some .directory) (text : String) :
    resolve p.components ≠ [] ∧
      t.write p text = .ok (t.put (resolve p.components) (.file (FileTree.ofText text))) := by
  obtain ⟨name, hname⟩ := Option.isSome_iff_exists.1 hnamed
  obtain ⟨hcomponents, hup, htext⟩ := components_of_fileName? hname
  have hplace : resolve p.components = resolve p.parentComponents ++ [name] := by
    rw [hcomponents, FileTree.resolve_append hup]
  rw [FileTree.write, if_neg htext, hasks]
  simp only [Bool.false_eq_true, if_false]
  rw [hplace] at hfree ⊢
  exact ⟨by simp, FileTree.writeAt_ok hopen hdirectory hfree _⟩

/-- The file is a name in its directory. -/
theorem place_eq {name : String} (h : f.path.fileName? = some name) :
    f.place = f.directory ++ [name] := by
  obtain ⟨hcomponents, hup, -⟩ := components_of_fileName? h
  rw [place, hcomponents, FileTree.resolve_append hup]
  rfl

/-- The backup is a name in the same directory. -/
theorem backupPlace_eq {name : String} (h : f.path.fileName? = some name) :
    f.backupPlace =
      f.directory ++ [String.ofList (Path.splitName name.toList).1 ++ "." ++ "toml.backup"] := by
  rw [backupPlace, Path.componentsWithExtension, h]
  simp only
  rw [FileTree.resolve_append]
  · rfl
  · intro hdots
    have hlen := congrArg String.length hdots
    simp only [String.length_append] at hlen
    have hext : "toml.backup".length = 11 := by decide
    have hup : "..".length = 2 := by decide
    omega

/-- The file and its backup are names in one directory. -/
theorem exists_names (h : f.path.fileName?.isSome) :
    (∃ name, f.place = f.directory ++ [name]) ∧
      (∃ name, f.backupPlace = f.directory ++ [name]) ∧ f.path.text ≠ "" := by
  obtain ⟨name, hname⟩ := Option.isSome_iff_exists.1 h
  exact ⟨⟨name, place_eq hname⟩, ⟨_, backupPlace_eq hname⟩, (components_of_fileName? hname).2.2⟩

/-- The root is open. -/
theorem isOpen_of_eq_nil {place : Place} (h : place = []) : t.IsOpen place := by
  subst h
  intro p hp bytes
  rw [List.prefix_nil.1 hp, FileTree.find?, if_pos rfl]
  simp

/-- Where there are no files, rules can be written to every path that names a file. -/
theorem isWritable_empty (hnamed : f.path.fileName?.isSome)
    (hasks : f.path.asksDirectory = false) : f.IsWritable .empty := by
  have hempty : ∀ place : Place, place ≠ [] → FileTree.empty.find? place = none := fun place h => by
    rw [FileTree.find?, if_neg h]
    rfl
  obtain ⟨⟨name, hname⟩, ⟨backup, hbackup⟩, -⟩ := exists_names hnamed
  refine ⟨hnamed, hasks, fun p _ bytes => ?_, ?_, ?_⟩
  · cases p <;> simp [FileTree.find?, FileTree.empty]
  · simp [hempty f.place (by simp [hname])]
  · simp [hempty f.backupPlace (by simp [hbackup])]

/-- Nothing in a directory is above it. -/
theorem ne_of_prefix {p directory : Place} {name : String} (h : p <+: directory) :
    p ≠ directory ++ [name] := by
  rintro rfl
  exact FileTree.append_notPrefix directory name h

/-- The backup is made, and nothing else changes. -/
theorem backUp_ok (hnamed : f.path.fileName?.isSome) (hopen : t.IsOpen f.directory)
    (hdirectory : t.find? f.directory = some .directory)
    (hplace : t.find? f.place ≠ some .directory)
    (hbackup : t.find? f.backupPlace ≠ some .directory) :
    ∃ t', f.backUp t = .ok t' ∧ t'.find? f.backupPlace ≠ some .directory ∧
      ∀ p, p ≠ f.backupPlace → t'.find? p = t.find? p := by
  obtain ⟨-, ⟨name, hname⟩, -⟩ := exists_names hnamed
  rw [backUp]
  split
  · next hc =>
    have hfile : ∃ bytes, t.find? f.place = some (.file bytes) := by
      simp only [FileTree.contains, Bool.and_eq_true] at hc
      obtain ⟨-, -, hc⟩ := hc
      split at hc
      · next bytes hfind => exact ⟨bytes, hfind⟩
      · next hfind => exact absurd hfind hplace
      · cases hc
    obtain ⟨bytes, hfind⟩ := hfile
    have hbytes : t.bytesAt (resolve f.path.components) = .ok bytes := by
      rw [FileTree.bytesAt, show t.find? (resolve f.path.components) = _ from hfind]
    rw [hname] at hbackup ⊢
    simp only [hbytes, FileTree.writeAt_ok hopen hdirectory hbackup]
    have hne : f.directory ++ [name] ≠ [] := by simp
    refine ⟨_, rfl, ?_, fun p hp => ?_⟩
    · rw [FileTree.find?_put _ _ hne, if_pos rfl]
      simp
    · rw [FileTree.find?_put _ _ hne, if_neg hp]
  · exact ⟨t, rfl, hbackup, fun _ _ => rfl⟩

/-- Saving succeeds where the rules can be written. The file holds the rules, it can be written
again, and whatever stood elsewhere still does. -/
theorem IsWritable.save_ok (h : f.IsWritable t) (s : RuleStore) :
    ∃ t', f.save s t = (.ok (), t') ∧
      t'.find? f.place = some (.file (FileTree.ofText (f.format.render s))) ∧ f.IsWritable t' ∧
      ∀ p node, p ≠ f.place → p ≠ f.backupPlace → t.find? p = some node →
        t'.find? p = some node := by
  obtain ⟨⟨name, hname⟩, ⟨backup, hbackup⟩, -⟩ := exists_names h.named
  obtain ⟨t₁, hmake, hdirectory₁, hopen₁, hkept₁, hsame₁⟩ :=
    FileTree.makeDirectories_of_isOpen h.isOpen
  have hplace₁ : t₁.find? f.place ≠ some .directory := by
    rw [hname, hsame₁ _ (FileTree.append_notPrefix f.directory name), ← hname]
    exact h.place
  have hbackup₁ : t₁.find? f.backupPlace ≠ some .directory := by
    rw [hbackup, hsame₁ _ (FileTree.append_notPrefix f.directory backup), ← hbackup]
    exact h.backup
  obtain ⟨t₂, hback, hbackup₂, hsame₂⟩ :=
    backUp_ok h.named hopen₁ hdirectory₁ hplace₁ hbackup₁
  have habove : ∀ p, p <+: f.directory → p ≠ f.backupPlace := fun p hp =>
    hbackup ▸ ne_of_prefix hp
  have hopen₂ : t₂.IsOpen f.directory := fun p hp bytes => by
    rw [hsame₂ p (habove p hp)]
    exact hopen₁ p hp bytes
  have hdirectory₂ : t₂.find? f.directory = some .directory := by
    rw [hsame₂ _ (habove _ (List.prefix_refl _)), hdirectory₁]
  have hplace₂ : t₂.find? f.place ≠ some .directory := by
    by_cases heq : f.place = f.backupPlace
    · rw [heq]
      exact hbackup₂
    · rw [hsame₂ _ heq]
      exact hplace₁
  let content := FileTree.ofText (f.format.render s)
  obtain ⟨hne, hwrite⟩ : f.place ≠ [] ∧
      t₂.write f.path (f.format.render s) = .ok (t₂.put f.place (.file content)) :=
    write_ok h.named h.notDirectory hopen₂ hdirectory₂ hplace₂ _
  refine ⟨t₂.put f.place (.file content), ?_, ?_, ⟨h.named, h.notDirectory, ?_, ?_, ?_⟩, ?_⟩
  · have hparents : t.makeDirectories (resolve f.path.parentComponents) = _ := hmake
    simp only [save, FileTree.makeParents, hparents, hback, hwrite]
  · rw [FileTree.find?_put _ _ hne, if_pos rfl]
  · intro p hp bytes
    rw [FileTree.find?_put _ _ hne, if_neg (hname ▸ ne_of_prefix hp)]
    exact hopen₂ p hp bytes
  · rw [FileTree.find?_put _ _ hne, if_pos rfl]
    simp
  · rw [FileTree.find?_put _ _ hne]
    split
    · simp
    · exact hbackup₂
  · intro p node hp hpb hfind
    rw [FileTree.find?_put _ _ hne, if_neg hp, hsame₂ p hpb]
    exact hkept₁ p node hfind

/-- The rules are loaded from the text in their file. -/
theorem load_of_file {text : String} (htext : f.path.text ≠ "")
    (hdirectory : f.path.asksDirectory = false)
    (hfind : t.find? f.place = some (.file (FileTree.ofText text))) :
    f.load t =
      match f.format.read? text with
      | some s => .ok s
      | none => .error .unreadable := by
  have hfind : t.find? (resolve f.path.components) = _ := hfind
  have hcontains : t.contains f.path = true := by
    simp [FileTree.contains, htext, hfind, hdirectory]
  have hread : t.read f.path = .ok text := FileTree.read_of_file htext hdirectory hfind
  cases hformat : f.format.read? text <;> simp only [load, hcontains, hread, hformat, if_true]

/-- The rules are loaded as they were saved, if the format reads them back. -/
theorem load_saved {s : RuleStore} (h : f.IsWritable t)
    (hfind : t.find? f.place = some (.file (FileTree.ofText (f.format.render s))))
    (hformat : f.format.read? (f.format.render s) = some s) : f.load t = .ok s := by
  obtain ⟨-, -, htext⟩ := exists_names h.named
  rw [load_of_file htext h.notDirectory hfind, hformat]

/-! ### Loading after any save

Saving can fail half way. Then the file holds what it held before, or directories have been made
down to its place; what is loaded is what was loaded before, or nothing is. -/

/-- The rules are loaded from what stands at the place of the file. -/
theorem load_congr (h : t'.find? f.place = t.find? f.place) : f.load t' = f.load t := by
  have h : t'.find? (resolve f.path.components) = t.find? (resolve f.path.components) := h
  have hcontains : t'.contains f.path = t.contains f.path := by
    rw [FileTree.contains, FileTree.contains, h]
  rw [load, load, hcontains]
  split
  · next hc =>
    -- what is there is a file or a directory, so it does not matter what stands above it
    have hread : t'.read f.path = t.read f.path := by
      rw [FileTree.contains] at hc
      rw [FileTree.read, FileTree.read, FileTree.bytesAt, FileTree.bytesAt, h]
      cases hfind : t.find? (resolve f.path.components) with
      | some node => cases node <;> rfl
      | none => simp [hfind] at hc
    rw [hread]
  · rfl

/-- A path without characters leads to no file. -/
theorem load_of_empty (h : f.path.text = "") (t : FileTree) : f.load t = .ok [] := by
  simp [load, FileTree.contains, h]

/-- No rules are loaded from a directory. -/
theorem text_of_load_directory (hfind : t.find? f.place = some .directory)
    {s : RuleStore} (h : f.load t = .ok s) : f.path.text = "" := by
  by_cases htext : f.path.text = ""
  · exact htext
  · have hfind : t.find? (resolve f.path.components) = some .directory := hfind
    have hcontains : t.contains f.path = true := by
      simp [FileTree.contains, htext, hfind]
    rw [load, if_pos hcontains, FileTree.read, if_neg htext, FileTree.bytesAt, hfind] at h
    cases h

/-- Making directories changes no place but those on the way down. -/
theorem find?_of_makeDirectories {place : Place} (h : t.makeDirectories place = .ok t')
    (q : Place) : t'.find? q = t.find? q ∨ q <+: place ∧ t'.find? q = some .directory := by
  rw [FileTree.makeDirectories] at h
  split at h
  · cases h
  · split at h
    · cases h
    · cases h
      exact .inl rfl
    · cases h
      have hq := FileTree.find?_makeMissing t (FileTree.downTo place) q
      by_cases hmem : q ∈ FileTree.downTo place
      · cases hfind : t.find? q with
        | some node =>
          rw [hfind] at hq
          exact .inl hq
        | none =>
          rw [hfind] at hq
          exact .inr ⟨FileTree.mem_downTo.1 hmem, hq.trans (if_pos hmem)⟩
      · left
        rw [if_neg hmem] at hq
        refine hq.trans ?_
        cases t.find? q <;> rfl

/-- Bytes that could be written stand at their place, which is not the root. -/
theorem put_of_writeAt {place : Place} {bytes : FileBytes} (h : t.writeAt place bytes = .ok t') :
    place ≠ [] ∧ t' = t.put place (.file bytes) := by
  have hne : place ≠ [] := by
    rintro rfl
    cases h
  refine ⟨hne, ?_⟩
  rw [FileTree.writeAt] at h
  split at h
  · cases h
  · cases h
    rfl
  · split at h
    · cases h
    · split at h
      · cases h
        rfl
      · cases h

/-- A text that could be written stands at the place of its path, which is not the root. -/
theorem put_of_write {p : Path} {text : String} (h : t.write p text = .ok t') :
    p.text ≠ "" ∧ p.asksDirectory = false ∧ resolve p.components ≠ [] ∧
      t' = t.put (resolve p.components) (.file (FileTree.ofText text)) := by
  simp only [FileTree.write] at h
  split at h
  · cases h
  · next htext =>
    split at h
    · split at h <;> cases h
    · next hdirectory =>
      obtain ⟨hne, rfl⟩ := put_of_writeAt h
      exact ⟨htext, Bool.not_eq_true _ ▸ hdirectory, hne, rfl⟩

/-- Making the backup leaves the file as it is, even where both are in one place. -/
theorem find?_of_backUp (h : f.backUp t = .ok t') : t'.find? f.place = t.find? f.place := by
  rw [backUp] at h
  split at h
  · split at h
    · next bytes hbytes =>
      obtain ⟨hne, rfl⟩ := put_of_writeAt h
      rw [FileTree.find?_put _ _ hne]
      split
      · next heq =>
        rw [FileTree.bytesAt] at hbytes
        split at hbytes
        · next found hfind =>
          cases hbytes
          exact hfind.symm
        · cases hbytes
        · cases hbytes
      · rfl
    · cases h
  · cases h
    rfl

/-- A save makes directories, a backup, and the file. -/
theorem save_ok_iff {s : RuleStore} : f.save s t = (.ok (), t') ↔
    ∃ t₁ t₂, t.makeParents f.path = .ok t₁ ∧ f.backUp t₁ = .ok t₂ ∧
      t₂.write f.path (f.format.render s) = .ok t' := by
  rw [save]
  cases t.makeParents f.path with
  | error e => simp
  | ok t₁ =>
    cases hback : f.backUp t₁ with
    | error e => simp [hback]
    | ok t₂ =>
      cases hwrite : t₂.write f.path (f.format.render s) <;> simp [hback, hwrite]

/-- A save changes no place but those of the file, of its backup and on the way down to them. -/
theorem find?_of_save {s : RuleStore} {q : Place} (hfile : q ≠ f.place)
    (hbackup : q ≠ f.backupPlace) (habove : ¬ q <+: f.directory) :
    (f.save s t).2.find? q = t.find? q := by
  rw [save]
  cases hmake : t.makeParents f.path with
  | error e => rfl
  | ok t₁ =>
    have hsame₁ : t₁.find? q = t.find? q :=
      (find?_of_makeDirectories hmake q).resolve_right fun h => habove h.1
    cases hback : f.backUp t₁ with
    | error e =>
      simp only [hback]
      exact hsame₁
    | ok t₂ =>
      have hsame₂ : t₂.find? q = t₁.find? q := by
        rw [backUp] at hback
        split at hback
        · split at hback
          · obtain ⟨hne, rfl⟩ := put_of_writeAt hback
            rw [FileTree.find?_put _ _ hne, if_neg hbackup]
          · cases hback
        · cases hback
          rfl
      cases hwrite : t₂.write f.path (f.format.render s) with
      | error e =>
        simp only [hback, hwrite]
        exact hsame₂.trans hsame₁
      | ok t₃ =>
        obtain ⟨-, -, hne, rfl⟩ := put_of_write hwrite
        simp only [hback, hwrite]
        exact (FileTree.find?_put _ _ hne).trans ((if_neg hfile).trans (hsame₂.trans hsame₁))

/-- A save that fails leaves the file as it is, or there is a directory in its place, which can only
be where the path names no file. -/
theorem find?_of_save_error {s : RuleStore} {e : FileFault} (h : f.save s t = (.error e, t')) :
    t'.find? f.place = t.find? f.place ∨
      f.path.fileName?.isSome = false ∧ t'.find? f.place = some .directory := by
  have hparents : ∀ {t₁}, t.makeParents f.path = .ok t₁ → t₁.find? f.place = t.find? f.place ∨
      f.path.fileName?.isSome = false ∧ t₁.find? f.place = some .directory := by
    intro t₁ hmake
    rcases find?_of_makeDirectories hmake f.place with hsame | ⟨habove, hdirectory⟩
    · exact .inl hsame
    · refine .inr ⟨Bool.eq_false_iff.2 fun hnamed => ?_, hdirectory⟩
      obtain ⟨⟨name, hname⟩, -⟩ := exists_names hnamed
      exact ne_of_prefix habove hname
  rw [save] at h
  split at h
  · cases h
    exact .inl rfl
  · next t₁ hmake =>
    split at h
    · cases h
      exact hparents hmake
    · next t₂ hback =>
      split at h
      · cases h
        rw [find?_of_backUp hback]
        exact hparents hmake
      · cases h

/-- What is loaded after a save that failed was loaded before it. -/
theorem load_of_save_error {s s' : RuleStore} {e : FileFault} (h : f.save s t = (.error e, t'))
    (hl : f.load t' = .ok s') : f.load t = .ok s' := by
  rcases find?_of_save_error h with hsame | ⟨-, hdirectory⟩
  · rwa [← load_congr hsame]
  · have htext := text_of_load_directory hdirectory hl
    rw [load_of_empty htext] at hl ⊢
    exact hl

/-- What is loaded after a save that succeeded is what the format reads of the rules. -/
theorem load_of_save_ok {s : RuleStore} (h : f.save s t = (.ok (), t')) :
    f.load t' =
      match f.format.read? (f.format.render s) with
      | some s' => .ok s'
      | none => .error .unreadable := by
  obtain ⟨t₁, t₂, -, -, hwrite⟩ := save_ok_iff.1 h
  obtain ⟨htext, hdirectory, hne, rfl⟩ := put_of_write hwrite
  exact load_of_file htext hdirectory ((FileTree.find?_put t₂ _ hne).trans (if_pos rfl))

/-- Whether a path leads to something else than the file of rules and its backup. -/
def IsApart (f : RuleFile) (p : Path) : Prop :=
  resolve p.components ≠ f.place ∧ resolve p.components ≠ f.backupPlace

instance (f : RuleFile) (p : Path) : Decidable (f.IsApart p) := instDecidableAnd

end RuleFile

/-- Messages are loaded from what a file holds. -/
theorem Message.load_congr {t t' : FileTree} {p : Path} {format : Message.Format}
    {ms : List Message} (h : Message.load t p format = .ok ms)
    (hkept : ∀ bytes, t.find? (FileTree.resolve p.components) = some (.file bytes) →
      t'.find? (FileTree.resolve p.components) = some (.file bytes)) :
    Message.load t' p format = .ok ms := by
  rw [Message.load] at h ⊢
  split at h
  · cases h
  · next text hread =>
    obtain ⟨bytes, hfind⟩ := FileTree.exists_file_of_read hread
    rw [FileTree.read_congr ((hkept bytes hfind).trans hfind.symm) hread]
    exact h

end MailFilter
