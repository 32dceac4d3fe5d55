import Mathlib.Data.List.Basic
import MailFilter.Proofs.SettingsDocument

/-!
# Settings After Many Calls

Settings start with what holds by default and are changed by calls, each with the name of a key and
a text (`Settings.run`). A call that fails changes nothing. Whatever texts the calls had, the
settings can be written down and are read back as they were, as long as no variable of the
environment stands in front of the file.

A document can hold whole numbers below 2 ^ 63 only, and a limit may be any unsigned word. Settings
with a larger limit are refused, and then the file stays as it was (`Settings.save_tooLarge`).

## Main results

* `Settings.document?_isSome_iff`: which settings can be written down.
* `Settings.save_ok`, `Settings.save_refused`: what a save does, in both cases.
* `Settings.load_of_isFree`: other variables do not matter.
* `Settings.load_of_save_run`: settings that calls lead to are saved and loaded again.
-/

namespace MailFilter

open FileTree (resolve)

/-! ### Places for a file -/

/-- Whether a file can be written: the path names a file, no file stands where directories must be,
and no directory where the file must be. -/
structure FileTree.CanWrite (t : FileTree) (p : Path) : Prop where
  named : p.fileName?.isSome
  notDirectory : p.asksDirectory = false
  isOpen : t.IsOpen (resolve p.parentComponents)
  place : t.find? (resolve p.components) ≠ some .directory

/-- The directories above a file that can be written are made, and what is at its place stays. -/
theorem FileTree.CanWrite.makeParents {t : FileTree} {p : Path} (h : t.CanWrite p) :
    ∃ t₁, t.makeParents p = .ok t₁ ∧
      t₁.find? (resolve p.components) = t.find? (resolve p.components) ∧
      ∀ text, ∃ t₂, t₁.write p text = .ok t₂ := by
  obtain ⟨name, hname⟩ := Option.isSome_iff_exists.1 h.named
  obtain ⟨hcomponents, hup, -⟩ := RuleFile.components_of_fileName? hname
  obtain ⟨t₁, hmake, hdirectory, hopen, -, hsame⟩ := FileTree.makeDirectories_of_isOpen h.isOpen
  have hplace : t₁.find? (resolve p.components) = t.find? (resolve p.components) := by
    rw [hcomponents, FileTree.resolve_append hup]
    exact hsame _ (FileTree.append_notPrefix _ name)
  have hfree : t₁.find? (resolve p.components) ≠ some .directory := hplace ▸ h.place
  refine ⟨t₁, hmake, hplace, fun text => ?_⟩
  obtain ⟨-, hwrite⟩ := RuleFile.write_ok h.named h.notDirectory hopen hdirectory hfree text
  exact ⟨_, hwrite⟩

/-! ### Variables -/

/-- Whether no variable sets a key. -/
def Environment.IsFree (e : Environment) : Prop := ∀ v ∈ e, key? v.1 = none

/-- Variables that set no key have no value for one. -/
theorem Environment.IsFree.lookup? {e : Environment} (h : e.IsFree) (key : String) :
    e.lookup? key = none := by
  have hfind : e.reverse.find? (fun v => key? v.1 == some key) = none :=
    List.find?_eq_none.2 fun v hv => by simp [h v (List.mem_reverse.1 hv)]
  rw [Environment.lookup?, hfind]
  rfl

namespace Settings

variable {s : Settings} {p : Path} {t : FileTree}

/-- Variables that set no key do not matter. -/
theorem load_of_isFree {e : Environment} (h : e.IsFree) (p : Path) (t : FileTree) :
    load e p t = load [] p t := by
  have hvalue : ∀ entries, valueOf? e entries = valueOf? [] entries := fun entries => by
    funext k
    rw [valueOf?, valueOf?, h.lookup?, Environment.lookup?_nil]
  simp only [load, read, ofEntries, hvalue]

/-! ### Saving -/

/-- Whether the limit can be written down. -/
def Fits (s : Settings) : Prop := ∀ n, s.timeout = some n → n.toNat < 2 ^ 63

/-- Settings can be written down exactly if the limit can. -/
theorem document?_isSome_iff : s.document?.isSome = true ↔ s.Fits := by
  have hmax : Int64.maxValue.toInt = 2 ^ 63 - 1 := by decide
  rw [document?, Option.isSome_map, row?, Fits]
  cases s.timeout with
  | none => simp
  | some n =>
    simp only [Option.any_some, decide_eq_true_eq, hmax]
    split
    · next hlarge => simp; omega
    · next hsmall => simp; omega

/-- Settings that fit are saved. -/
theorem save_ok (hp : t.CanWrite p) (hfits : s.Fits) : ∃ t', s.save p t = (.ok (), t') := by
  obtain ⟨text, htext⟩ := Option.isSome_iff_exists.1 (document?_isSome_iff.2 hfits)
  obtain ⟨t₁, hmake, -, hwrite⟩ := hp.makeParents
  obtain ⟨t₂, hwrite⟩ := hwrite text
  exact ⟨t₂, by simp only [save, hmake, htext, hwrite]⟩

/-- Settings that do not fit are refused, and the file stays as it was. -/
theorem save_refused (hp : t.CanWrite p) (hlarge : ¬s.Fits) :
    ∃ t', s.save p t = (.error .tooLarge, t') ∧
      t'.find? (resolve p.components) = t.find? (resolve p.components) := by
  have hnone : s.document? = none := by
    rwa [← document?_isSome_iff, Option.not_isSome_iff_eq_none] at hlarge
  obtain ⟨t₁, hmake, hsame, -⟩ := hp.makeParents
  exact ⟨t₁, by simp only [save, hmake, hnone], hsame⟩

/-! ### Calls -/

/-- What a call leads to: the name of a key and a text change a setting, or nothing if they make no
sense. -/
def call (s : Settings) (c : String × String) : Settings := (s.set c.1 c.2).2

/-- What a call answers. -/
def answer (s : Settings) (c : String × String) : Except SettingsFault Unit := (s.set c.1 c.2).1

/-- What calls lead to, one behind the other. -/
def run (s : Settings) (calls : List (String × String)) : Settings := calls.foldl call s

/-- The limit that a call asks for, if it does. -/
def limitAsked? (c : String × String) : Option UInt64 :=
  if Key.ofName? c.1 = some .timeout then Text.readUInt64? (Text.trimmed c.2).toList else none

/-- Changing another setting leaves the limit alone, and the limit is set to what the text says. -/
theorem timeout_of_setKey (s : Settings) (k : Key) (value : String) :
    (s.setKey k value).2.timeout = s.timeout ∨ k = .timeout ∧
      ∀ n, (s.setKey k value).2.timeout = some n → Text.readUInt64? value.toList = some n := by
  cases k with
  | rulesPath => exact .inl rfl
  | searchMode =>
    rw [setKey]
    cases QuickSearch.Mode.read value <;> exact .inl rfl
  | parallel | quiet =>
    rw [setKey]
    split <;> exact .inl rfl
  | timeout =>
    rw [setKey]
    split
    · exact .inr ⟨rfl, fun n hn => by cases hn⟩
    · split
      · next m hm => exact .inr ⟨rfl, fun n hn => hm.trans hn⟩
      · exact .inl rfl

/-- A limit that can be written down is left by a call that asks for no larger one. -/
theorem Fits.call (h : s.Fits) {c : String × String}
    (hc : ∀ n, limitAsked? c = some n → n.toNat < 2 ^ 63) : (call s c).Fits := by
  rw [Settings.call, set]
  split
  · next k hk =>
    rcases timeout_of_setKey s k (Text.trimmed c.2) with hsame | ⟨rfl, hread⟩
    · rw [Fits, hsame]
      exact h
    · exact fun n hn => hc n (by rw [limitAsked?, if_pos hk, hread n hn])
  · exact h

/-- So it is by any number of such calls. -/
theorem Fits.run {calls : List (String × String)} (h : s.Fits)
    (hcalls : ∀ c ∈ calls, ∀ n, limitAsked? c = some n → n.toNat < 2 ^ 63) :
    (run s calls).Fits := by
  induction calls generalizing s with
  | nil => exact h
  | cons c rest ih =>
    exact ih (h.call (hcalls c List.mem_cons_self))
      fun c' hc' => hcalls c' (List.mem_cons_of_mem _ hc')

/-- Settings that calls lead to are saved and loaded again wherever a file can be written, if the
limit can be written down; so it is if no call asks for a larger one. Otherwise they are refused. -/
theorem load_of_save_run (hp : t.CanWrite p) (calls : List (String × String)) :
    let s := run {} calls
    (s.Fits → ∃ t', s.save p t = (.ok (), t') ∧
      ∀ e : Environment, e.IsFree → load e p t' = (.ok s, t')) ∧
    ((∀ c ∈ calls, ∀ n, limitAsked? c = some n → n.toNat < 2 ^ 63) → s.Fits) ∧
    (¬s.Fits → ∃ t', s.save p t = (.error .tooLarge, t') ∧
      t'.find? (resolve p.components) = t.find? (resolve p.components)) := by
  intro s
  have hdefault : Fits {} := fun n hn => by cases hn
  refine ⟨fun hfits => ?_, hdefault.run, save_refused hp⟩
  obtain ⟨t', hsave⟩ := save_ok hp hfits
  refine ⟨t', hsave, fun e he => ?_⟩
  rw [load_of_isFree he, load_of_save hsave]

/-- A path with a line feed and quotes, the largest limit, and calls that fail. -/
theorem load_of_save_run_largest :
    let p : Path := ⟨"cfg/mailmatch/config.toml"⟩
    let calls := [("rules_path", " a\n\"b'c "), ("exec_timeout_secs", "9223372036854775807"),
      ("quicksearch_mode", "FROM"), ("quiet", "perhaps"), ("colour", "red")]
    let s : Settings :=
      ⟨some ⟨"a\n\"b'c"⟩, some 9223372036854775807, .sender, false, false⟩
    FileTree.empty.CanWrite p ∧ run {} calls = s ∧
      ∃ t', s.save p .empty = (.ok (), t') ∧ load [("HOME", "/root")] p t' = (.ok s, t') := by
  intro p calls s
  have hp : FileTree.empty.CanWrite p := by
    refine ⟨by decide +kernel, by decide +kernel, fun place _ bytes => ?_, ?_⟩
    · cases place <;> simp [FileTree.find?, FileTree.empty]
    · have hplace : resolve p.components = ["cfg", "mailmatch", "config.toml"] := by
        decide +kernel
      simp [hplace, FileTree.find?, FileTree.empty]
  have hrun : run {} calls = s := by decide +kernel
  have hfits : (run {} calls).Fits := fun n hn => by
    rw [hrun] at hn
    obtain rfl := Option.some.inj hn
    decide
  obtain ⟨t', hsave, hload⟩ := (load_of_save_run hp calls).1 hfits
  rw [hrun] at hsave hload
  exact ⟨hp, hrun, t', hsave, hload _ fun v hv => by
    rw [List.mem_singleton.1 hv]
    decide +kernel⟩

/-- A limit that a call can set and no document can hold. -/
theorem save_tooLarge :
    let s := run {} [("exec_timeout_secs", "9223372036854775808")]
    let t' := (s.save ⟨"config.toml"⟩ .empty).2
    s.timeout = some 9223372036854775808 ∧
      (s.save ⟨"config.toml"⟩ .empty).1 = .error .tooLarge ∧
      (load [] ⟨"config.toml"⟩ t').1 = .ok {} :=
  ⟨by decide +kernel, by decide +kernel, by decide +kernel⟩

end Settings

end MailFilter
