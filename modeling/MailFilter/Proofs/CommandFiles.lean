import MailFilter.Program.Run
import MailFilter.Proofs.Calls
import MailFilter.Proofs.Procedures

/-!
# What Commands Do to the File of Rules

A command that changes the rules makes one request to their file, and none of the others writes to
it (`Session.request?`). Some commands make their request only after a look at the file: an edit
needs the rule that it changes, and a filter the rule that it goes by. What follows the request is a
report or the look at messages, and no more changes of files.

Besides the file of rules the program writes to the file of settings and to the documents that it
exports. Files are compared by their bytes (`FileTree.fileAt?`), because a directory may be made
where nothing stands.

## Main results

* `Session.rules_follows`, `Session.chosenRule_follows`: commands do what their requests do.
* `Session.files_perform_of_some`: the files after a command with a request.
* `Session.fileAt?_perform_of_none`: a command without a request leaves the file of rules alone.
* `Session.fileAt?_perform_of_failed`: and so does a command on stored rules that fails.
-/

namespace MailFilter

open FileTree (resolve)

/-! ### Files and their bytes -/

namespace FileTree

/-- The bytes of the file at a place, if there is one. -/
def fileAt? (t : FileTree) (place : Place) : Option FileBytes :=
  match t.find? place with
  | some (.file bytes) => some bytes
  | _ => none

variable {t t' : FileTree} {place q : Place}

/-- The bytes at a place are those of the file there. -/
theorem fileAt?_eq_some {bytes : FileBytes} :
    t.fileAt? place = some bytes ↔ t.find? place = some (.file bytes) := by
  rw [fileAt?]
  split
  · next hfind => simp [hfind]
  · next hfile =>
    constructor
    · intro h
      cases h
    · intro h
      exact absurd h (hfile bytes)

/-- There are the same bytes where the same stands. -/
theorem fileAt?_congr (h : t'.find? q = t.find? q) : t'.fileAt? q = t.fileAt? q := by
  rw [fileAt?, fileAt?, h]

/-- Making directories changes no file. -/
theorem fileAt?_of_makeDirectories (h : t.makeDirectories place = .ok t') (q : Place) :
    t'.fileAt? q = t.fileAt? q := by
  cases hfind : t.find? q with
  | some node => exact fileAt?_congr ((find?_of_makeDirectories h hfind).trans hfind.symm)
  | none =>
    rcases RuleFile.find?_of_makeDirectories h q with hsame | ⟨-, hdirectory⟩
    · exact fileAt?_congr hsame
    · rw [fileAt?, fileAt?, hfind, hdirectory]

/-- Writing a text changes no other file. -/
theorem fileAt?_of_write {p : Path} {text : String} (h : t.write p text = .ok t')
    (hq : q ≠ resolve p.components) : t'.fileAt? q = t.fileAt? q := by
  obtain ⟨-, -, hne, rfl⟩ := RuleFile.put_of_write h
  exact fileAt?_congr ((find?_put t _ hne).trans (if_neg hq))

end FileTree

/-- Writing down settings changes no other file. -/
theorem Settings.fileAt?_save (settings : Settings) {p : Path} (t : FileTree) {q : Place}
    (hq : q ≠ resolve p.components) : (settings.save p t).2.fileAt? q = t.fileAt? q := by
  rw [save]
  cases hmake : t.makeParents p with
  | error e => rfl
  | ok t₁ =>
    have hmade : t₁.fileAt? q = t.fileAt? q := FileTree.fileAt?_of_makeDirectories hmake q
    cases settings.document? with
    | none => exact hmade
    | some text =>
      simp only
      cases hwrite : t₁.write p text with
      | error e => exact hmade
      | ok t₂ => exact (FileTree.fileAt?_of_write hwrite hq).trans hmade

/-- Reading settings changes no other file. -/
theorem Settings.fileAt?_load (e : Environment) {p : Path} (t : FileTree) {q : Place}
    (hq : q ≠ resolve p.components) : (load e p t).2.fileAt? q = t.fileAt? q := by
  rw [load]
  split
  · rfl
  · have hsave := fileAt?_save {} t hq
    split
    · next hsaved => rwa [hsaved] at hsave
    · next hsaved => rwa [hsaved] at hsave

/-- Settings that are there are read from their file. -/
theorem Settings.load_of_same {e : Environment} {p : Path} {t t' : FileTree} {settings : Settings}
    (hcontains : t.contains p = true)
    (hsame : t'.find? (resolve p.components) = t.find? (resolve p.components))
    (h : (load e p t).1 = .ok settings) : load e p t' = (.ok settings, t') := by
  have hcontains' : t'.contains p = true := by rwa [FileTree.contains, hsame]
  rw [load, if_pos hcontains, read] at h
  rw [load, if_pos hcontains', read]
  split at h
  · cases h
  · next text hread =>
    rw [FileTree.read_congr hsame hread]
    exact congrArg (·, t') h

/-- An export changes no other file. -/
theorem RuleFile.fileAt?_exportRules (f : RuleFile) {target : Path} (names : List String)
    (t : FileTree) {q : Place} (hq : q ≠ resolve target.components) :
    (f.exportRules target names t).2.fileAt? q = t.fileAt? q := by
  rw [exportRules]
  cases f.ruleSet names t with
  | error e => rfl
  | ok rules =>
    simp only
    cases hmake : t.makeParents target with
    | error e => rfl
    | ok t₁ =>
      have hmade : t₁.fileAt? q = t.fileAt? q := FileTree.fileAt?_of_makeDirectories hmake q
      simp only
      cases hwrite : t₁.write target rules.document with
      | error e => exact hmade
      | ok t₂ => exact (FileTree.fileAt?_of_write hwrite hq).trans hmade

namespace RuleFile

open FileTree (fileAt?)

variable {f : RuleFile} {t t' : FileTree} {s : RuleStore}

/-- What is loaded depends on the file alone; without one there are no rules. -/
theorem load_of_fileAt? (h : t'.fileAt? f.place = t.fileAt? f.place) (hload : f.load t' = .ok s) :
    f.load t = .ok s ∨ s = [] := by
  cases hfind : t'.find? f.place with
  | none =>
    have hmissing : t'.contains f.path = false := by
      have hfind : t'.find? (resolve f.path.components) = none := hfind
      simp [FileTree.contains, hfind]
    rw [load_of_missing hmissing] at hload
    exact .inr (Except.ok.inj hload).symm
  | some node =>
    cases node with
    | directory =>
      rw [load_of_empty (text_of_load_directory hfind hload)] at hload
      exact .inr (Except.ok.inj hload).symm
    | file bytes =>
      have hfile : t.fileAt? f.place = some bytes := by rw [← h, fileAt?, hfind]
      have hsame : t.find? f.place = some (.file bytes) := FileTree.fileAt?_eq_some.1 hfile
      rw [load_congr (hfind.trans hsame.symm)] at hload
      exact .inl hload

end RuleFile

namespace Program

open Procedure (LeavesFiles change files_bind files_well leavesFiles_pure print printLine query
  result)
open RuleFile (answered)

/-! ### Procedures that make a request -/

namespace Procedure

variable {α β : Type} {a : Procedure α} {w : World} {x : Except StoreFault β × FileTree}

/-- Whether a procedure does what a request does: it leaves the same files behind, it answers where
the request is granted, and it fails with its fault where it is not. -/
structure Follows (a : Procedure α) (w : World) (x : Except StoreFault β × FileTree) : Prop where
  files : (a w).2.files = x.2
  granted : ∀ b, x.1 = .ok b → ∃ y, (a w).1 = .ok y
  refused : ∀ e, x.1 = .error e → (a w).1 = .error (.store e)

/-- What a procedure does is what it comes down to. -/
theorem Follows.of_eq {b : Procedure α} {w' : World} (h : a w = b w') (hb : b.Follows w' x) :
    a.Follows w x :=
  ⟨h ▸ hb.files, h ▸ hb.granted, h ▸ hb.refused⟩

/-- An answer of another kind changes nothing. -/
theorem Follows.answered {γ : Type} {kind : β → γ} (h : a.Follows w x) :
    a.Follows w (answered kind x) where
  files := h.files
  granted b hb := by
    obtain ⟨y, hy, -⟩ := map_ok_iff.1 hb
    exact h.granted y hy
  refused e he := h.refused e (map_error_iff.1 he)

/-- A change of the files of rules, with a report of it. -/
theorem follows_change {f : FileTree → Except StoreFault β × FileTree} {next : β → Procedure α}
    (h : ∀ b, (next b).Answers) (w : World) :
    Follows (change .store f >>= next) w (f w.files) := by
  rcases hf : f w.files with ⟨e | b, t⟩
  · refine .of_eq (b := fun w => (.error (.store e), w)) (bind_of_error (change_of_error hf))
      ⟨rfl, ?_, ?_⟩
    · rintro _ ⟨⟩
    · rintro _ ⟨⟩
      rfl
  · refine .of_eq (bind_of_ok (change_of_ok hf)) ⟨(h b).leaves _, fun _ _ => (h b).answers _, ?_⟩
    rintro _ ⟨⟩

end Procedure

open Procedure (Answers Follows bind_of_error bind_of_ok follows_change query_of_error query_of_ok)

namespace Session

variable (s : Session)

/-! ### The requests of commands -/

/-- The request that a filter by a stored rule makes, if there is such a rule. -/
def useRequest? (t : FileTree) (name : String) : Option RuleFile.Request :=
  match s.ruleFile.get name t with
  | .error _ => none
  | .ok stored =>
    match stored.parsed with
    | .error _ => none
    | .ok _ => some (.recordUse (s.surroundings.clock 0) name)

/-- The request that a command on stored rules makes, if it gets that far. -/
def rulesRequest? (t : FileTree) : RulesCommand → Option RuleFile.Request
  | .add name rule description => some (.create (s.surroundings.clock 0) name description rule)
  | .edit name rule description =>
    match s.ruleFile.get name t with
    | .error _ => none
    | .ok r =>
      match newText r rule with
      | .error _ => none
      | .ok text =>
        some (.update { r with rule := text, description := description.getD r.description })
  | .remove name force =>
    match s.ruleFile.get name t with
    | .error _ => none
    | .ok _ =>
      if (!force && !s.quiet) && !confirms s.surroundings.input then none else some (.delete name)
  | .rename old new => some (.rename old new)
  | .importFrom source collision => some (.importRules s.surroundings.clock source collision)
  | _ => none

/-- The request to the file of rules that a command makes, if it makes one. -/
def request? (t : FileTree) : Command → Option RuleFile.Request
  | .filter (.stored name) _ _ => s.useRequest? t name
  | .rules c => s.rulesRequest? t c
  | _ => none

variable {s} {w : World} {t : FileTree} {q : RuleFile.Request} {name : String}

/-- A filter makes a request for a stored rule with a text that is a rule. -/
theorem useRequest?_of_get {stored : StoredRule} {rule : Rule}
    (hget : s.ruleFile.get name t = .ok stored) (hrule : stored.parsed = .ok rule) :
    s.useRequest? t name = some (.recordUse (s.surroundings.clock 0) name) := by
  simp only [useRequest?, hget, hrule]

/-- A filter makes no request but for a stored rule with a text that is a rule. -/
theorem useRequest?_eq_some (h : s.useRequest? t name = some q) :
    ∃ stored rule, s.ruleFile.get name t = .ok stored ∧ stored.parsed = .ok rule ∧
      q = .recordUse (s.surroundings.clock 0) name := by
  rw [useRequest?] at h
  split at h
  · cases h
  · next stored hget =>
    split at h
    · cases h
    · next rule hrule => exact ⟨stored, rule, hget, hrule, (Option.some.inj h).symm⟩

/-- An edit makes a request for a stored rule and a text that is a rule. -/
theorem rulesRequest?_edit {rule description : Option String}
    (h : s.rulesRequest? t (.edit name rule description) = some q) :
    ∃ r text, s.ruleFile.get name t = .ok r ∧ newText r rule = .ok text ∧
      q = .update { r with rule := text, description := description.getD r.description } := by
  rw [rulesRequest?] at h
  split at h
  · cases h
  · next r hget =>
    split at h
    · cases h
    · next text htext => exact ⟨r, text, hget, htext, (Option.some.inj h).symm⟩

/-- A removal makes a request for a stored rule, once it is confirmed. -/
theorem rulesRequest?_remove {force : Bool} (h : s.rulesRequest? t (.remove name force) = some q) :
    ∃ r, s.ruleFile.get name t = .ok r ∧
      ((!force && !s.quiet) && !confirms s.surroundings.input) = false ∧ q = .delete name := by
  rw [rulesRequest?] at h
  split at h
  · cases h
  · next r hget =>
    split at h
    · cases h
    · next hconfirmed =>
      exact ⟨r, hget, Bool.eq_false_iff.2 hconfirmed, (Option.some.inj h).symm⟩

/-- A filter by a stored rule chooses it with its request. -/
theorem chosenRule_follows (h : s.useRequest? w.files name = some q) :
    Follows (s.chosenRule (.stored name)) w (q.perform s.ruleFile w.files) := by
  obtain ⟨stored, rule, hget, hrule, rfl⟩ := useRequest?_eq_some h
  refine .of_eq (bind_of_ok (query_of_ok hget)) ?_
  rw [hrule]
  exact (follows_change (fun _ => ⟨leavesFiles_pure rule, fun _ => ⟨rule, rfl⟩⟩) w).answered

/-- A command on stored rules does what its request does. -/
theorem rules_follows {c : RulesCommand} (h : s.rulesRequest? w.files c = some q) :
    Follows (s.rules c) w (q.perform s.ruleFile w.files) := by
  cases c with
  | add name rule description =>
    cases h
    exact (follows_change (fun _ => s.answers_say _) w).answered
  | rename old new =>
    cases h
    exact (follows_change (fun _ => s.answers_say _) w).answered
  | importFrom source collision =>
    cases h
    refine (follows_change (fun counts => ?_) w).answered
    exact (s.answers_say _).bind fun _ =>
      .ite (s.answers_say _) ⟨leavesFiles_pure (), fun _ => ⟨(), rfl⟩⟩
  | edit name rule description =>
    obtain ⟨r, text, hget, htext, rfl⟩ := rulesRequest?_edit h
    refine .of_eq (bind_of_ok (query_of_ok hget)) ?_
    rw [htext]
    exact (follows_change (fun _ => s.answers_say _) w).answered
  | remove name force =>
    obtain ⟨r, hget, hconfirmed, rfl⟩ := rulesRequest?_remove h
    refine .of_eq (bind_of_ok (query_of_ok hget)) ?_
    simp only [hconfirmed, Bool.false_eq_true, if_false]
    split
    · -- the question is printed first
      exact .of_eq (bind_of_ok rfl) (follows_change (fun _ => s.answers_say _) _).answered
    · exact (follows_change (fun _ => s.answers_say _) w).answered
  | list => cases h
  | details name => cases h
  | «export» names target => cases h
  | statistics => cases h

/-! ### Commands without a request -/

/-- A filter by a stored rule without a request chooses no rule. -/
theorem chosenRule_of_none (h : s.useRequest? w.files name = none) :
    ∃ fault, s.chosenRule (.stored name) w = (.error fault, w) := by
  rw [useRequest?] at h
  split at h
  · next e hget => exact ⟨_, bind_of_error (query_of_error hget)⟩
  · next stored hget =>
    split at h
    · next e hrule =>
      refine ⟨.store e, (bind_of_ok (query_of_ok hget)).trans ?_⟩
      rw [hrule]
      rfl
    · cases h

/-- A command on stored rules without a request changes no file but the one that it exports to. -/
theorem fileAt?_rules_of_none {c : RulesCommand} {place : Place}
    (h : s.rulesRequest? w.files c = none)
    (hexport : ∀ names target, c = .export names (some target) →
      place ≠ resolve target.components) :
    (s.rules c w).2.files.fileAt? place = w.files.fileAt? place := by
  cases c with
  | list => rw [rules, s.leavesFiles_listRules w]
  | details name => rw [rules, s.leavesFiles_showRule name w]
  | statistics => rw [rules, s.leavesFiles_statistics w]
  | add => cases h
  | rename => cases h
  | importFrom => cases h
  | edit name rule description =>
    rw [rulesRequest?] at h
    split at h
    · next e hget => rw [rules, editRule, bind_of_error (query_of_error hget)]
    · next r hget =>
      split at h
      · next e htext =>
        rw [rules, editRule, bind_of_ok (query_of_ok hget), htext]
        rfl
      · cases h
  | remove name force =>
    rw [rulesRequest?] at h
    split at h
    · next e hget => rw [rules, removeRule, bind_of_error (query_of_error hget)]
    · next r hget =>
      split at h
      · next hrefused =>
        rw [rules, removeRule, bind_of_ok (query_of_ok hget)]
        simp only [hrefused, if_true]
        split <;> rfl
      · cases h
  | «export» names target =>
    cases target with
    | none =>
      have hprints : (s.exportRules names none).LeavesFiles :=
        (Procedure.leavesFiles_query _ _).bind fun _ => Procedure.leavesFiles_print _
      rw [rules, hprints w]
    | some target =>
      have hplace := hexport names target rfl
      rw [rules, exportRules, files_bind (fun _ => s.leavesFiles_say _), Procedure.files_change]
      exact s.ruleFile.fileAt?_exportRules names w.files hplace

end Session

/-! ### Commands -/

/-- The place that a command exports to. -/
def Command.exportPlace? : Command → Option Place
  | .rules (.export _ (some target)) => some (resolve target.components)
  | _ => none

/-- Whether a command is one of those that may change the file of rules. -/
def Command.mayChangeRules : Command → Bool
  | .filter (.stored _) _ _ => true
  | .rules (.add ..) | .rules (.edit ..) | .rules (.remove ..) | .rules (.rename ..)
  | .rules (.importFrom ..) => true
  | _ => false

/-- The place of the file of settings. -/
def Surroundings.settingsPlace (s : Surroundings) : Place :=
  resolve (s.ownFile "config.toml").components

namespace Session

variable {s : Session} {w : World} {c : Command}

/-- Only some commands make requests. -/
theorem request?_of_not (h : c.mayChangeRules = false) (t : FileTree) : s.request? t c = none := by
  cases c with
  | filter choice =>
    cases choice with
    | rule => rfl
    | stored => cases h
  | rules c => cases c <;> first | rfl | cases h
  | _ => rfl

/-- The files after a command that makes a request are those after its request. -/
theorem files_perform_of_some {q : RuleFile.Request} (h : s.request? w.files c = some q) :
    (s.perform c w).2.files = q.run s.ruleFile w.files := by
  rw [← RuleFile.Request.perform_snd]
  cases c with
  | filter choice count source =>
    cases choice with
    | rule => cases h
    | stored name =>
      rw [perform, files_well, files_filter]
      exact (chosenRule_follows h).files
  | rules c =>
    rw [perform, files_well]
    exact (rules_follows h).files
  | check => cases h
  | classify => cases h
  | search => cases h
  | setSetting => cases h
  | getSetting => cases h

/-- Printing a setting leaves files alone. -/
theorem leavesFiles_getSetting (s : Session) (key : String) : (s.getSetting key).LeavesFiles :=
  (Procedure.leavesFiles_result _ _).bind fun _ => Procedure.leavesFiles_printLine _

/-- Changing a setting changes no file but that of the settings. -/
theorem fileAt?_setSetting {place : Place} (setting : String)
    (hplace : s.surroundings.settingsPlace ≠ place) (w : World) :
    (s.setSetting setting w).2.files.fileAt? place = w.files.fileAt? place := by
  rw [setSetting]
  cases Text.splitFirst? '=' setting.toList with
  | none => rfl
  | some words =>
    let key := Text.trimmed (String.ofList words.1)
    have hshown : ∀ settings : Settings, ∀ _ : Unit, (do
        let shown ← result .settings (settings.get key)
        s.say s!"Set {key} = {shown}").LeavesFiles := fun settings _ =>
      (Procedure.leavesFiles_result _ _).bind fun _ => s.leavesFiles_say _
    simp only
    rcases s.settings.set key (String.ofList words.2) with ⟨e | ⟨⟩, settings⟩
    · rfl
    · have hset : result Fault.settings (.ok ()) w = (.ok (), w) := rfl
      rw [bind_of_ok hset, files_bind (hshown settings), Procedure.files_change]
      exact settings.fileAt?_save w.files hplace.symm

/-- A command without a request leaves the file of rules as it is, unless it is the one that the
command exports to or that of the settings. -/
theorem fileAt?_perform_of_none {place : Place} (h : s.request? w.files c = none)
    (hexport : c.exportPlace? ≠ some place) (hsettings : s.surroundings.settingsPlace ≠ place) :
    (s.perform c w).2.files.fileAt? place = w.files.fileAt? place := by
  have hleft : (s.perform c).LeavesFiles →
      (s.perform c w).2.files.fileAt? place = w.files.fileAt? place := fun hleaves => by
    rw [hleaves w]
  cases c with
  | check rule => exact hleft (s.leavesFiles_check rule)
  | classify first source => exact hleft (s.leavesFiles_classify first source).well
  | search query mode source => exact hleft (s.leavesFiles_search query mode source).well
  | getSetting key => exact hleft (s.leavesFiles_getSetting key).well
  | setSetting setting =>
    rw [perform, files_well]
    exact fileAt?_setSetting setting hsettings w
  | filter choice count source =>
    rw [perform, files_well, files_filter]
    cases choice with
    | rule text => rw [chosenRule, Procedure.leavesFiles_result _ _ w]
    | stored name =>
      obtain ⟨fault, hnone⟩ := chosenRule_of_none h
      rw [hnone]
  | rules c =>
    rw [perform, files_well]
    refine fileAt?_rules_of_none h fun names target hc hplace => hexport ?_
    rw [hc, hplace]
    rfl

/-- A command on stored rules that fails, and does not fail at a file, leaves the file of rules as
it is. -/
theorem fileAt?_rules_of_failed {c : RulesCommand} {fault : Fault}
    (hexport : (Command.rules c).exportPlace? ≠ some s.ruleFile.place)
    (h : (s.rules c w).1 = .error fault) (hfault : ∀ e, fault ≠ .store (.file e)) :
    (s.rules c w).2.files.fileAt? s.ruleFile.place = w.files.fileAt? s.ruleFile.place := by
  cases hrequest : s.rulesRequest? w.files c with
  | none =>
    refine fileAt?_rules_of_none hrequest fun names target hc hplace => hexport ?_
    rw [hc, hplace]
    rfl
  | some q =>
    have hfollows := rules_follows hrequest
    rw [hfollows.files]
    cases hanswer : (q.perform s.ruleFile w.files).1 with
    | ok answer =>
      obtain ⟨y, hy⟩ := hfollows.granted answer hanswer
      rw [hy] at h
      cases h
    | error e =>
      have heq : Fault.store e = fault := by
        rw [hfollows.refused e hanswer] at h
        exact Except.error.inj h
      have hrefused : ∀ e', e ≠ .file e' := fun e' he => hfault e' (heq ▸ he ▸ rfl)
      rw [RuleFile.Request.perform_eq] at hanswer ⊢
      exact congrArg (·.fileAt? s.ruleFile.place)
        (RuleFile.change_refused (Prod.ext hanswer rfl) hrefused)

/-- A command on stored rules that fails, and does not fail at a file, leaves the file of rules as
it is. -/
theorem fileAt?_perform_of_failed {c : RulesCommand} {fault : Fault}
    (hexport : (Command.rules c).exportPlace? ≠ some s.ruleFile.place)
    (h : (s.perform (.rules c) w).1 = .error fault) (hfault : ∀ e, fault ≠ .store (.file e)) :
    (s.perform (.rules c) w).2.files.fileAt? s.ruleFile.place =
      w.files.fileAt? s.ruleFile.place := by
  have hrules : (s.rules c w).1 = .error fault := by
    rcases hanswer : s.rules c w with ⟨e | _, w'⟩
    · rw [perform, bind_of_error hanswer] at h
      exact congrArg Except.error (Except.error.inj h)
    · rw [perform, bind_of_ok hanswer] at h
      cases h
  rw [perform, files_bind fun _ => leavesFiles_pure true]
  exact fileAt?_rules_of_failed hexport hrules hfault

end Session

end Program

end MailFilter
