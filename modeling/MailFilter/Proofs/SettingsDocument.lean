import MailFilter.Proofs.Saving
import MailFilter.Proofs.TomlDocument
import MailFilter.Settings.SettingsFile

/-!
# The Document of the Settings

Each setting is read by itself, from the variable or the entry of its own key (`Settings.Reads`), so
that settings can be compared key by key (`Settings.Agree`). They are written as one table, with
nothing under the key of an optional setting that is not set, and read back as they were.

## Main results

* `Settings.ofEntries_ok_iff`: settings are read key by key.
* `Settings.ofEntries_row`, `Settings.load_of_save`: settings are read back as they were written.
* `Settings.agree_of_load`: without a variable for its key, a setting comes from the file.
-/

namespace MailFilter

/-- What comes out of two steps that can fail. -/
theorem bind_ok_iff {α β ε : Type} {a : Except ε α} {f : α → Except ε β} {b : β} :
    (a >>= f) = .ok b ↔ ∃ x, a = .ok x ∧ f x = .ok b := by
  cases a <;> simp [bind, Except.bind]

namespace Settings

open FileTree (resolve)
open Toml (Entries IsBare IsReadable IsRow Row Scalar Value isReadable_integer isReadable_text
  isReadable_truth rowEntries)

/-! ### Key by key -/

/-- Whether two settings have the same under a key. -/
def Agree (k : Key) (s s' : Settings) : Prop :=
  match k with
  | .rulesPath => s.rulesPath = s'.rulesPath
  | .timeout => s.timeout = s'.timeout
  | .searchMode => s.searchMode = s'.searchMode
  | .parallel => s.parallel = s'.parallel
  | .quiet => s.quiet = s'.quiet

variable {s s' : Settings} {k : Key}

theorem Agree.refl (k : Key) (s : Settings) : Agree k s s := by
  cases k <;> rfl

theorem Agree.symm (h : Agree k s s') : Agree k s' s := by
  cases k <;> exact Eq.symm h

theorem Agree.trans {s'' : Settings} (h : Agree k s s') (h' : Agree k s' s'') : Agree k s s'' := by
  cases k <;> exact Eq.trans h h'

/-- Whether the value of a key, if there is one, is read as what settings have under it. -/
def Reads (k : Key) (v : Option Value) (s : Settings) : Prop :=
  match k with
  | .rulesPath =>
    orDefault none (required fun v => (toText? v).map fun t => some ⟨t⟩) v = .ok s.rulesPath
  | .timeout => orDefault none (required fun v => (toWord? v).map some) v = .ok s.timeout
  | .searchMode => orDefault .extended (required toMode?) v = .ok s.searchMode
  | .parallel => orDefault false (required toTruth?) v = .ok s.parallel
  | .quiet => orDefault false (required toTruth?) v = .ok s.quiet

/-- A value is read in one way. -/
theorem Reads.agree {v : Option Value} (h : Reads k v s) (h' : Reads k v s') : Agree k s s' := by
  cases k <;> exact Except.ok.inj (Eq.trans (Eq.symm h) h')

/-- Settings are read key by key. -/
theorem ofEntries_ok_iff {e : Environment} {entries : Entries} :
    ofEntries e entries = .ok s ↔ ∀ k, Reads k (valueOf? e entries k) s := by
  have hkeys : (∀ k, Reads k (valueOf? e entries k) s) ↔
      Reads .rulesPath (valueOf? e entries .rulesPath) s ∧
      Reads .timeout (valueOf? e entries .timeout) s ∧
      Reads .searchMode (valueOf? e entries .searchMode) s ∧
      Reads .parallel (valueOf? e entries .parallel) s ∧
      Reads .quiet (valueOf? e entries .quiet) s := by
    refine ⟨fun h => ⟨h _, h _, h _, h _, h _⟩, fun ⟨h₁, h₂, h₃, h₄, h₅⟩ k => ?_⟩
    cases k <;> assumption
  rw [hkeys, ofEntries]
  simp only [Reads, bind_ok_iff]
  constructor
  · rintro ⟨rulesPath, h₁, timeout, h₂, searchMode, h₃, parallel, h₄, quiet, h₅, heq⟩
    cases heq
    exact ⟨h₁, h₂, h₃, h₄, h₅⟩
  · rintro ⟨h₁, h₂, h₃, h₄, h₅⟩
    exact ⟨_, h₁, _, h₂, _, h₃, _, h₄, _, h₅, rfl⟩

/-- A setting is read in the same way where the same stands under its key. -/
theorem agree_of_ofEntries {e e' : Environment} {entries entries' : Entries}
    (h : ofEntries e entries = .ok s) (h' : ofEntries e' entries' = .ok s')
    (hvalue : valueOf? e entries k = valueOf? e' entries' k) : Agree k s s' := by
  have hreads := ofEntries_ok_iff.1 h k
  rw [hvalue] at hreads
  exact hreads.agree (ofEntries_ok_iff.1 h' k)

/-! ### Writing and reading back -/

/-- What is written under a key, if anything is. -/
def scalar? (s : Settings) : Key → Option Scalar
  | .rulesPath => s.rulesPath.map fun p => .text p.text
  | .timeout => s.timeout.map fun n => .integer (Int64.ofNat n.toNat)
  | .searchMode => some (.text s.searchMode.name)
  | .parallel => some (.truth s.parallel)
  | .quiet => some (.truth s.quiet)

/-- The table of settings can be read. -/
theorem isRow_of_row? {row : Row} (h : s.row? = some row) : IsRow row := by
  obtain ⟨rulesPath, timeout, searchMode, parallel, quiet⟩ := s
  rw [row?] at h
  split at h
  · cases h
  · obtain rfl := Option.some.inj h
    refine ⟨?_, ?_, ?_⟩
    · cases rulesPath <;> cases timeout <;> simp [Key.name]
    · have hbare : ∀ k : Key, IsBare k.name := by
        intro k
        cases k <;> decide +kernel
      cases rulesPath <;> cases timeout <;> simp [hbare]
    · cases rulesPath <;> cases timeout <;>
        simp [isReadable_text, isReadable_integer, isReadable_truth]

/-- What stands under a key of the table of settings. -/
theorem lookup_row {row : Row} (h : s.row? = some row) (k : Key) :
    (rowEntries row).lookup k.name = (s.scalar? k).map .scalar := by
  obtain ⟨rulesPath, timeout, searchMode, parallel, quiet⟩ := s
  rw [row?] at h
  split at h
  · cases h
  · obtain rfl := Option.some.inj h
    cases rulesPath <;> cases timeout <;> cases k <;> rfl

/-- A limit that is written is not larger than what the document can hold. -/
theorem timeout_le_of_row? {row : Row} (h : s.row? = some row) {n : UInt64}
    (hn : s.timeout = some n) : n.toNat < 2 ^ 63 := by
  rw [row?, hn] at h
  split at h
  · cases h
  · next hle =>
    simp only [Option.any_some, decide_eq_true_eq] at hle
    have hmax : Int64.maxValue.toInt = 2 ^ 63 - 1 := by decide
    omega

/-- Settings are read back from the table that they are written as. -/
theorem ofEntries_row {row : Row} (h : s.row? = some row) :
    ofEntries [] (rowEntries row) = .ok s := by
  rw [ofEntries_ok_iff]
  intro k
  rw [valueOf?, Environment.lookup?_nil]
  simp only [lookup_row h]
  cases k with
  | rulesPath =>
    rw [Reads, scalar?]
    cases s.rulesPath <;> rfl
  | timeout =>
    rw [Reads, scalar?]
    cases hn : s.timeout with
    | none => rfl
    | some n =>
      have hvalue : (Int64.ofNat n.toNat).toInt = n.toNat :=
        Int64.toInt_ofNat_of_lt (timeout_le_of_row? h hn)
      simp [orDefault, required, toWord?, hvalue]
  | searchMode =>
    simp [Reads, scalar?, orDefault, required, toMode?, textIn?, QuickSearch.Mode.ofName?_name]
  | parallel => rfl
  | quiet => rfl

/-- Settings are read back from the document that they are written as. -/
theorem read?_document {text : String} (h : s.document? = some text) :
    ∃ entries, Toml.read? text = some entries ∧ ofEntries [] entries = .ok s := by
  obtain ⟨row, hrow, rfl⟩ := Option.map_eq_some_iff.1 h
  exact ⟨rowEntries row, Toml.read?_writeRow (isRow_of_row? hrow), ofEntries_row hrow⟩

/-! ### Files -/

variable {e : Environment} {p : Path} {t t' : FileTree}

/-- Settings that were saved stand in their file, and are read from it if no variables are set. -/
theorem read_of_save (h : s.save p t = (.ok (), t')) :
    t'.contains p = true ∧ read [] p t' = .ok s := by
  rw [save] at h
  split at h
  · cases h
  · next t₁ hmake =>
    split at h
    · cases h
    · next text htext =>
      split at h
      · cases h
      · next t₂ hwrite =>
        cases h
        obtain ⟨hpath, hasks, hplace, rfl⟩ := RuleFile.put_of_write hwrite
        have hfind : (t₁.put (resolve p.components) (.file (FileTree.ofText text))).find?
            (resolve p.components) = some (.file (FileTree.ofText text)) :=
          (FileTree.find?_put t₁ _ hplace).trans (if_pos rfl)
        obtain ⟨entries, hentries, hsettings⟩ := read?_document htext
        refine ⟨by simp [FileTree.contains, hpath, hfind, hasks], ?_⟩
        rw [read, FileTree.read_of_file hpath hasks hfind]
        simp only [hentries, hsettings]

/-- Settings that were saved are loaded next, if no variables are set. -/
theorem load_of_save (h : s.save p t = (.ok (), t')) : load [] p t' = (.ok s, t') := by
  obtain ⟨hcontains, hread⟩ := read_of_save h
  rw [load, if_pos hcontains, hread]

/-- Where there is no file, the settings that hold by default are loaded. -/
theorem eq_default_of_load (hmissing : t.contains p = false) (h : (load [] p t).1 = .ok s) :
    s = {} := by
  rw [load, if_neg (by simp [hmissing])] at h
  split at h
  · cases h
  · next t₁ hsave =>
    rw [(read_of_save hsave).2] at h
    exact (Except.ok.inj h).symm

/-- The same document is loaded whatever variables are set. -/
theorem exists_load_eq (p : Path) (t : FileTree) :
    ∃ document : Except SettingsFault Entries, ∀ e, (load e p t).1 = document >>= ofEntries e := by
  have hread : ∀ t : FileTree, ∃ document : Except SettingsFault Entries,
      ∀ e, read e p t = document >>= ofEntries e := fun t => by
    cases htext : t.read p with
    | error fault => exact ⟨.error .unreadable, fun e => by simp only [read, htext]; rfl⟩
    | ok text =>
      cases hentries : Toml.read? text with
      | none => exact ⟨.error .unreadable, fun e => by simp only [read, htext, hentries]; rfl⟩
      | some entries => exact ⟨.ok entries, fun e => by simp only [read, htext, hentries]; rfl⟩
  by_cases hcontains : t.contains p = true
  · simpa only [load, if_pos hcontains] using hread t
  · simp only [load, if_neg hcontains]
    split
    · next fault t₁ hsave => exact ⟨.error fault, fun e => rfl⟩
    · next t₁ hsave => exact hread t₁

/-- Without a variable for its key, a setting comes from the file. -/
theorem agree_of_load (h : (load e p t).1 = .ok s) (hfile : (load [] p t).1 = .ok s')
    (hkey : e.lookup? k.name = none) : Agree k s s' := by
  obtain ⟨document, hdocument⟩ := exists_load_eq p t
  rw [hdocument, bind_ok_iff] at h hfile
  obtain ⟨entries, hentries, h⟩ := h
  obtain ⟨entries', hentries', hfile⟩ := hfile
  obtain rfl := Except.ok.inj (hentries.symm.trans hentries')
  refine agree_of_ofEntries h hfile ?_
  rw [valueOf?, valueOf?, hkey, Environment.lookup?_nil]

end Settings

end MailFilter
