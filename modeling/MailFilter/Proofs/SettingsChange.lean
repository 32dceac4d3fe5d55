import MailFilter.Proofs.Histories
import MailFilter.Proofs.SettingsDocument

/-!
# Changing a Setting

A run that changes a setting reads the settings, changes the one, and writes all of them down. What
it reads is what is in force: a variable of the environment comes before the entry of its key. So
the file has the new value of the one key afterwards, and under every other key what was in force.
That is what the file had before where no variable stands in front of it, and else the value of the
variable (`Invocation.setSetting_keeps_variable`).

## Main results

* `Settings.setKey_eq`: what a text sets a key to depends on nothing else.
* `Session.setSetting_ok`: the settings that are written down.
* `Invocation.loaded_after_setSetting`: what the file has after a setting was changed.
-/

namespace MailFilter

/-! ### One key of the settings -/

namespace Settings

/-- Settings with what others have under a key. -/
def withKey (k : Key) (s source : Settings) : Settings :=
  match k with
  | .rulesPath => { s with rulesPath := source.rulesPath }
  | .timeout => { s with timeout := source.timeout }
  | .searchMode => { s with searchMode := source.searchMode }
  | .parallel => { s with parallel := source.parallel }
  | .quiet => { s with quiet := source.quiet }

variable {s s' : Settings} {j k : Key} {value : String}

theorem agree_withKey (k : Key) (s source : Settings) : Agree k (withKey k s source) source := by
  cases k <;> rfl

theorem agree_withKey_of_ne (h : j ≠ k) (s source : Settings) :
    Agree j (withKey k s source) s := by
  cases k <;> cases j <;> first | rfl | exact absurd rfl h

/-- Whether a text makes sense for a key, and what it sets the key to, depends on nothing else. A
text that makes no sense changes nothing. -/
theorem setKey_eq (s : Settings) (k : Key) (value : String) :
    s.setKey k value =
      match setKey {} k value with
      | (.ok (), source) => (.ok (), withKey k s source)
      | (.error e, _) => (.error e, s) := by
  cases k with
  | rulesPath => rfl
  | timeout =>
    simp only [setKey]
    split
    · rfl
    · cases Text.readUInt64? value.toList <;> rfl
  | searchMode =>
    simp only [setKey]
    cases QuickSearch.Mode.read value <;> rfl
  | parallel =>
    simp only [setKey]
    cases truth .parallel value <;> rfl
  | quiet =>
    simp only [setKey]
    cases truth .quiet value <;> rfl

/-- What becomes of settings when a key is set: they have something else under it, or the text is
refused and they stay as they are. -/
theorem setKey_cases (s : Settings) (k : Key) (value : String) :
    (∃ source, setKey {} k value = (.ok (), source) ∧
        s.setKey k value = (.ok (), withKey k s source)) ∨
      ∃ e, (setKey {} k value).1 = .error e ∧ s.setKey k value = (.error e, s) := by
  have hset := s.setKey_eq k value
  rcases hsource : setKey {} k value with ⟨e | ⟨⟩, source⟩
  · rw [hsource] at hset
    exact .inr ⟨e, rfl, hset⟩
  · rw [hsource] at hset
    exact .inl ⟨source, rfl, hset⟩

/-- Changing a setting leaves the others alone. -/
theorem agree_of_setKey (s : Settings) (value : String) (hj : j ≠ k) :
    Agree j (s.setKey k value).2 s := by
  rcases s.setKey_cases k value with ⟨source, -, hset⟩ | ⟨e, -, hset⟩
  · rw [hset]
    exact agree_withKey_of_ne hj s source
  · rw [hset]
    exact .refl j s

/-- A text that changes a setting changes it to the same in all settings. -/
theorem exists_setKey (h : s.setKey k value = (.ok (), s')) (other : Settings) :
    ∃ other', other.setKey k value = (.ok (), other') ∧ Agree k s' other' := by
  rcases s.setKey_cases k value with ⟨source, hsource, hset⟩ | ⟨e, -, hset⟩
  · obtain rfl : withKey k s source = s' := congrArg Prod.snd (hset.symm.trans h)
    refine ⟨withKey k other source, by rw [setKey_eq, hsource], ?_⟩
    exact (agree_withKey k s source).trans (agree_withKey k other source).symm
  · rw [hset] at h
    cases h

end Settings

namespace Program

open Procedure

/-- A setting is changed in the settings of the session, and these are written down. -/
theorem Session.setSetting_ok {s : Session} {setting : String} {w w' : World}
    (h : s.setSetting setting w = (.ok (), w')) :
    ∃ name value k new, Text.splitFirst? '=' setting.toList = some (name, value) ∧
      Settings.Key.ofName? (Text.trimmed (String.ofList name)) = some k ∧
      s.settings.setKey k (Text.trimmed (String.ofList value)) = (.ok (), new) ∧
      new.save (s.surroundings.ownFile "config.toml") w.files = (.ok (), w'.files) := by
  rw [setSetting] at h
  cases hsplit : Text.splitFirst? '=' setting.toList with
  | none =>
    rw [hsplit] at h
    cases h
  | some words =>
    obtain ⟨name, value⟩ := words
    rw [hsplit] at h
    obtain ⟨⟨⟩, w₁, hresult, hrest⟩ := exists_of_bind h
    obtain ⟨hset, rfl⟩ := eq_of_result hresult
    obtain ⟨⟨⟩, w₂, hsave, hshow⟩ := exists_of_bind hrest
    obtain ⟨shown, w₃, hshown, hsay⟩ := exists_of_bind hshow
    obtain ⟨-, rfl⟩ := eq_of_result hshown
    have hfiles : w'.files = w₃.files := by
      have hleaves := s.leavesFiles_say s!"Set {Text.trimmed (String.ofList name)} = {shown}" w₃
      rwa [hsay] at hleaves
    have hsave := eq_of_change hsave
    rw [← hfiles] at hsave
    rw [Settings.set] at hset hsave
    split at hset
    · next k hk =>
      simp only [hk] at hsave
      exact ⟨name, value, k, _, rfl, hk, Prod.ext hset rfl, hsave⟩
    · cases hset

/-! ### Runs -/

namespace Invocation

/-- The file of the settings. -/
def settingsFile (i : Invocation) : Path := i.surroundings.ownFile "config.toml"

variable {i : Invocation} {setting : String}

/-- A run that changes a setting reads the settings and then changes the one. -/
theorem exists_of_setSetting (hcommand : i.command? = some (.setSetting setting))
    (hsuccess : i.ending.exitCode = 0) :
    ∃ settings quiet w w', Settings.load i.surroundings.environment i.settingsFile i.before =
        (.ok settings, w.files) ∧
      Session.setSetting ⟨i.surroundings, settings, quiet⟩ setting w = (.ok (), w') ∧
      w'.files = i.after := by
  unfold after ending command? run at *
  cases harguments : Request.ofArguments i.arguments with
  | error e =>
    rw [harguments] at hcommand
    cases hcommand
  | ok r =>
    rw [harguments] at hcommand
    have hr : r.command = .setSetting setting := Option.some.inj hcommand
    simp only [harguments] at hsuccess ⊢
    rcases hperform : r.perform i.surroundings { files := i.before } with ⟨e | b, w⟩
    · rw [hperform] at hsuccess
      cases hsuccess
    · obtain ⟨settings, w₁, hload, hdone⟩ := exists_of_bind hperform
      simp only [hr, Session.perform] at hdone
      obtain ⟨⟨⟩, w₂, hset, hpure⟩ := exists_of_bind hdone
      cases hpure
      exact ⟨settings, _, w₁, w, eq_of_change hload, hset, rfl⟩

/-- After a setting was changed, its file can be loaded without any variables. It has the new value
under the key, and under every other key what was in force: what the file had before, if there is no
variable for that key. -/
theorem loaded_after_setSetting {old : Settings}
    (hcommand : i.command? = some (.setSetting setting)) (hsuccess : i.ending.exitCode = 0)
    (hold : (Settings.load [] i.settingsFile i.before).1 = .ok old) :
    (i.before.contains i.settingsFile = false → old = {}) ∧
    ∃ name value k wanted inForce new,
      Text.splitFirst? '=' setting.toList = some (name, value) ∧
      Settings.Key.ofName? (Text.trimmed (String.ofList name)) = some k ∧
      old.setKey k (Text.trimmed (String.ofList value)) = (.ok (), wanted) ∧
      (Settings.load i.surroundings.environment i.settingsFile i.before).1 = .ok inForce ∧
      Settings.load [] i.settingsFile i.after = (.ok new, i.after) ∧
      Settings.Agree k new wanted ∧
      ∀ j, j ≠ k → Settings.Agree j new inForce ∧
        (i.surroundings.environment.lookup? j.name = none → Settings.Agree j new old) := by
  refine ⟨fun hmissing => Settings.eq_default_of_load hmissing hold, ?_⟩
  obtain ⟨inForce, quiet, w, w', hload, hset, hafter⟩ := exists_of_setSetting hcommand hsuccess
  obtain ⟨name, value, k, new, hsplit, hkey, hnew, hsave⟩ := Session.setSetting_ok hset
  obtain ⟨wanted, hwanted, hagree⟩ := Settings.exists_setKey hnew old
  have hinForce : (Settings.load i.surroundings.environment i.settingsFile i.before).1 =
      .ok inForce := by rw [hload]
  refine ⟨name, value, k, wanted, inForce, new, hsplit, hkey, hwanted, hinForce, ?_, hagree,
    fun j hj => ?_⟩
  · rw [← hafter]
    exact Settings.load_of_save hsave
  · have hkept := inForce.agree_of_setKey (Text.trimmed (String.ofList value)) hj
    rw [hnew] at hkept
    exact ⟨hkept, fun hnone => hkept.trans (Settings.agree_of_load hinForce hold hnone)⟩

/-- A limit in the file is kept when a flag is changed, also where a variable says something else
about the flag. -/
theorem loaded_after_setSetting_limited :
    let σ : Surroundings := ⟨[("MAILMATCH_PARALLEL", "true")], ⟨"cfg"⟩, "",
      fun _ => ⟨0, 0, 0⟩, false, Shell.runner⟩
    let start : FileTree := ⟨[(["cfg", "mailmatch", "config.toml"],
      .file (FileTree.ofText "exec_timeout_secs = 7\n"))]⟩
    let i : Invocation := ⟨σ, ["config", "set", "parallel = false"], start⟩
    i.command? = some (.setSetting "parallel = false") ∧ i.ending.exitCode = 0 ∧
      (Settings.load [] i.settingsFile i.before).1 = .ok { timeout := some 7 } ∧
      ∃ new, Settings.load [] i.settingsFile i.after = (.ok new, i.after) ∧
        new.timeout = some 7 := by
  intro σ start i
  have hcommand : i.command? = some (.setSetting "parallel = false") := rfl
  have hsuccess : i.ending.exitCode = 0 := by decide +kernel
  have hold : (Settings.load [] i.settingsFile i.before).1 = .ok { timeout := some 7 } := by
    decide +kernel
  have hfree : i.surroundings.environment.lookup? Settings.Key.timeout.name = none := by
    decide +kernel
  obtain ⟨-, name, value, k, wanted, inForce, new, hsplit, hkey, -, -, hload, -, hkept⟩ :=
    loaded_after_setSetting hcommand hsuccess hold
  -- the limit stands under another key, and no variable is set for it
  have hparts : Text.splitFirst? '=' "parallel = false".toList =
      some ("parallel ".toList, " false".toList) := by decide +kernel
  obtain ⟨rfl, rfl⟩ := Prod.mk.inj (Option.some.inj (hsplit.symm.trans hparts))
  have hparallel : Settings.Key.ofName? (Text.trimmed (String.ofList "parallel ".toList)) =
      some .parallel := by decide +kernel
  obtain rfl := Option.some.inj (hkey.symm.trans hparallel)
  exact ⟨hcommand, hsuccess, hold, new, hload, (hkept .timeout (by decide)).2 hfree⟩

/-- Changing a flag writes down a limit that only a variable has set. -/
theorem setSetting_keeps_variable :
    let σ : Surroundings := ⟨[("MAILMATCH_EXEC_TIMEOUT_SECS", "5")], ⟨"cfg"⟩, "",
      fun _ => ⟨0, 0, 0⟩, false, Shell.runner⟩
    let i : Invocation := ⟨σ, ["config", "set", "parallel=true"], .empty⟩
    i.command? = some (.setSetting "parallel=true") ∧ i.ending.exitCode = 0 ∧
      (Settings.load [] i.settingsFile i.before).1 = .ok {} ∧
      (Settings.load [] i.settingsFile i.after).1 = .ok { parallel := true, timeout := some 5 } :=
  ⟨rfl, by decide +kernel, by decide +kernel, by decide +kernel⟩

end Invocation

end Program

end MailFilter
