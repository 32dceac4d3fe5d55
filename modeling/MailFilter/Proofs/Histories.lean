import MailFilter.Proofs.UseCounts

/-!
# Histories

The program is run again and again, and between two runs others may do to other files whatever they
want. A history is such a sequence with the files at its end (`History`). What every run keeps of
the file of rules holds at the end of a history: only some commands ever change it, a command on
stored rules that fails leaves it alone, and the counts of uses are those that the runs tell.

The file of rules is supposed to be one file that only the commands on it write to. Where it is the
file of settings as well, every run writes to it if it is missing (`History.changed_by_check`).

## Main results

* `Invocation.after_cases`: a run ends early, or does what its command does.
* `History.accounts`: what changes the file of rules, and what the counts in it say.
-/

namespace MailFilter.Program

open RuleStore (Event usesSince)

/-! ### Runs of the program -/

/-- A run of the program: what surrounds it, the words of its command line, and the files before
it. -/
structure Invocation where
  surroundings : Surroundings
  arguments : List String
  before : FileTree

namespace Invocation

variable (i : Invocation)

/-- How the run ends. -/
def ending : Ending := (run i.surroundings i.arguments i.before).1

/-- The files after the run. -/
def after : FileTree := (run i.surroundings i.arguments i.before).2.files

/-- The command that the words ask for, if they are accepted. -/
def command? : Option Command := (Request.ofArguments i.arguments).toOption.map (·.command)

/-- The session of the run, once the settings are read, and the files then. -/
def session? : Option (Session × FileTree) :=
  match Request.ofArguments i.arguments with
  | .error _ => none
  | .ok r =>
    match Settings.load i.surroundings.environment (i.surroundings.ownFile "config.toml")
      i.before with
    | (.error _, _) => none
    | (.ok settings, t) => some (⟨i.surroundings, settings, r.quiet || settings.quiet⟩, t)

/-- What counts of the run for the uses of rules. -/
def event : Event :=
  match i.command?, i.session? with
  | some c, some (s, t) => s.event { files := t } c
  | _, _ => .other

/-- Whether the rules of the run are those in a file, the run exports nothing to it, and it is not
the file of settings. -/
structure Respects (f : RuleFile) : Prop where
  ruleFile : ∀ s t, i.session? = some (s, t) → s.ruleFile = f
  exports : ∀ c, i.command? = some c → c.exportPlace? ≠ some f.place
  settings : i.surroundings.settingsPlace ≠ f.place

variable {i} {place : Place}

/-- A run ends early and leaves all files but that of the settings alone, or it does what its
command does in its session. -/
theorem after_cases (hsettings : i.surroundings.settingsPlace ≠ place) :
    i.session? = none ∧ i.after.fileAt? place = i.before.fileAt? place ∨
    ∃ s t c, i.session? = some (s, t) ∧ i.command? = some c ∧ s.surroundings = i.surroundings ∧
      t.fileAt? place = i.before.fileAt? place ∧
      i.after = (s.perform c { files := t }).2.files ∧
      ∀ fault, i.ending = .failed fault → (s.perform c { files := t }).1 = .error fault := by
  have hread := Settings.fileAt?_load i.surroundings.environment i.before hsettings.symm
  unfold after ending session? command? run
  cases Request.ofArguments i.arguments with
  | error e => exact .inl ⟨rfl, rfl⟩
  | ok r =>
    simp only
    rcases hload : Settings.load i.surroundings.environment
      (i.surroundings.ownFile "config.toml") i.before with ⟨e | settings, t⟩
    · rw [hload] at hread
      have hperform : r.perform i.surroundings { files := i.before } =
          (.error (.settings e), { files := t }) :=
        Procedure.bind_of_error (by simp only [Procedure.change, hload])
      rw [hperform]
      exact .inl ⟨rfl, hread⟩
    · rw [hload] at hread
      let s : Session := ⟨i.surroundings, settings, r.quiet || settings.quiet⟩
      have hperform : r.perform i.surroundings { files := i.before } =
          s.perform r.command { files := t } :=
        Procedure.bind_of_ok (Procedure.change_of_ok hload)
      rw [hperform]
      refine .inr ⟨s, t, r.command, rfl, rfl, rfl, hread, ?_⟩
      rcases s.perform r.command { files := t } with ⟨e | well, w⟩
      · exact ⟨rfl, fun fault hfault => congrArg Except.error (Ending.failed.inj hfault)⟩
      · exact ⟨rfl, fun fault hfault => by cases hfault⟩

/-- A run whose settings are read has a session. -/
theorem session?_of_load {r : Request} {settings : Settings} {t : FileTree}
    (hr : Request.ofArguments i.arguments = .ok r)
    (hload : Settings.load i.surroundings.environment (i.surroundings.ownFile "config.toml")
      i.before = (.ok settings, t)) :
    i.session? = some (⟨i.surroundings, settings, r.quiet || settings.quiet⟩, t) ∧
      i.command? = some r.command := by
  rw [session?, command?, hr]
  simp only [hload, true_and]
  rfl

/-- A run that exports nothing, with its rules in a file that is not the file of settings. -/
theorem Respects.of_session {s : Session} {t : FileTree} {c : Command} {f : RuleFile}
    (hsession : i.session? = some (s, t) ∧ i.command? = some c) (hf : s.ruleFile = f)
    (hexport : c.exportPlace? = none) (hsettings : i.surroundings.settingsPlace ≠ f.place) :
    i.Respects f where
  ruleFile s' t' h := by
    cases hsession.1.symm.trans h
    exact hf
  exports c' hc := by
    cases hsession.2.symm.trans hc
    simp [hexport]
  settings := hsettings

/-- The files after a run that makes a request are those after its request. -/
theorem after_of_request {s : Session} {t : FileTree} {c : Command} {q : RuleFile.Request}
    (hsettings : i.surroundings.settingsPlace ≠ place) (hsession : i.session? = some (s, t))
    (hc : i.command? = some c) (hq : s.request? t c = some q) : i.after = q.run s.ruleFile t := by
  rcases after_cases hsettings with ⟨hnone, -⟩ | ⟨s', t', c', hsession', hc', -, -, hafter, -⟩
  · rw [hnone] at hsession
    cases hsession
  · obtain ⟨rfl, rfl⟩ := Prod.mk.inj (Option.some.inj (hsession.symm.trans hsession'))
    obtain rfl := Option.some.inj (hc.symm.trans hc')
    rw [hafter]
    exact Session.files_perform_of_some (w := { files := t }) hq

/-- A run whose request is granted takes the rules to the next store, where they can be written, and
changes no place but those of the file, of its backup and on the way down to them. -/
theorem after_of_granted {s : Session} {t : FileTree} {c : Command} {q : RuleFile.Request}
    {f : RuleFile} {store store' : RuleStore} (hf : s.ruleFile = f)
    (hsettings : i.surroundings.settingsPlace ≠ place)
    (hsession : i.session? = some (s, t) ∧ i.command? = some c) (hq : s.request? t c = some q)
    (hw : f.IsWritable t) (hload : f.load t = .ok store) (happly : q.apply t store = .ok store')
    (hdated : q.IsDated) :
    f.load i.after = .ok store' ∧ f.IsWritable i.after ∧
      ∀ p, p ≠ f.place → p ≠ f.backupPlace → ¬ p <+: f.directory →
        i.after.find? p = t.find? p := by
  subst hf
  rw [after_of_request hsettings hsession.1 hsession.2 hq]
  obtain ⟨hload', hw'⟩ := RuleFile.load_run_of_isWritable rfl hw hload happly hdated
  exact ⟨hload', hw', fun p => RuleFile.Request.find?_of_run⟩

/-! ### What runs keep -/

variable {f : RuleFile}

/-- Only some commands ever change the file of rules. -/
theorem mayChangeRules_of_changed (h : i.Respects f)
    (hchanged : i.after.fileAt? f.place ≠ i.before.fileAt? f.place) :
    ∃ c, i.command? = some c ∧ c.mayChangeRules = true := by
  rcases after_cases h.settings with ⟨-, hsame⟩ | ⟨s, t, c, hsession, hc, hs, hread, hafter, -⟩
  · exact absurd hsame hchanged
  · refine ⟨c, hc, Bool.not_eq_false _ ▸ fun hnot => hchanged ?_⟩
    rw [hafter, Session.fileAt?_perform_of_none (Session.request?_of_not hnot _) (h.exports c hc)
      (hs ▸ h.settings), hread]

/-- A command on stored rules that fails, and does not fail at a file, leaves the file of rules as
it is. -/
theorem fileAt?_of_failed {c : RulesCommand} {fault : Fault} (h : i.Respects f)
    (hc : i.command? = some (.rules c)) (hending : i.ending = .failed fault)
    (hfault : ∀ e, fault ≠ .store (.file e)) :
    i.after.fileAt? f.place = i.before.fileAt? f.place := by
  rcases after_cases h.settings with
    ⟨-, hsame⟩ | ⟨s, t, c', hsession, hc', hs, hread, hafter, hends⟩
  · exact hsame
  · obtain rfl : Command.rules c = c' := Option.some.inj (hc.symm.trans hc')
    obtain rfl := h.ruleFile s t hsession
    rw [hafter, Session.fileAt?_perform_of_failed (h.exports _ hc) (hends fault hending) hfault,
      hread]

/-- A run keeps the counts of uses right. -/
theorem counted_after {uses : String → Nat} (h : i.Respects f) (hcounted : f.Counted i.before uses)
    (hfits : ∀ name, uses name + 1 < UInt32.size) : f.Counted i.after (i.event.uses uses) := by
  rcases after_cases h.settings with ⟨hnone, hsame⟩ | ⟨s, t, c, hsession, hc, hs, hread, hafter, -⟩
  · have hevent : i.event = .other := by
      rw [event, hnone]
      split
      · next hsome => cases hsome
      · rfl
    rw [hevent]
    exact hcounted.congr hsame
  · have hevent : i.event = s.event { files := t } c := by rw [event, hc, hsession]
    obtain rfl := h.ruleFile s t hsession
    rw [hevent, hafter]
    exact Session.counted_perform (w := { files := t }) (hcounted.congr hread) hfits
      (h.exports c hc) (hs ▸ h.settings)

/-- A run leaves a file of rules that can be read, if the clock has regular instants. -/
theorem isReadable_after (h : i.Respects f) (hreadable : f.IsReadable i.before)
    (hclock : ∀ n, (i.surroundings.clock n).IsRegular) : f.IsReadable i.after := by
  rcases after_cases h.settings with ⟨-, hsame⟩ | ⟨s, t, c, hsession, hc, hs, hread, hafter, -⟩
  · exact hreadable.congr hsame
  · obtain rfl := h.ruleFile s t hsession
    rw [hafter]
    exact Session.isReadable_perform (w := { files := t }) (hreadable.congr hread) (hs ▸ hclock)
      (h.exports c hc) (hs ▸ h.settings)

end Invocation

/-! ### Runs one after the other -/

/-- The runs of the program from some files on, the last one first, with the files at the end.
Between two runs everything but the file of rules may change. -/
inductive History (f : RuleFile) (t : FileTree) : List Invocation → FileTree → Prop
  | start : History f t [] t
  | run {is : List Invocation} (i : Invocation) :
      History f t is i.before → History f t (i :: is) i.after
  | elsewhere {is : List Invocation} {t' t'' : FileTree} :
      History f t is t' → t''.fileAt? f.place = t'.fileAt? f.place → History f t is t''

namespace History

variable {f : RuleFile} {t t' : FileTree} {is : List Invocation}

/-- The counts of uses are those that the runs tell, at the end of every history that starts without
rules and is not too long. -/
theorem counted (h : History f t is t') (hmissing : t.contains f.path = false)
    (his : ∀ i ∈ is, i.Respects f) (hlength : is.length < UInt32.size) :
    f.Counted t' (usesSince (is.map Invocation.event)) := by
  induction h with
  | start =>
    intro s hs
    rw [RuleFile.load_of_missing hmissing] at hs
    cases hs
    exact ⟨RuleStore.isSound_nil, fun r hr => by cases hr⟩
  | @run is i _ ih =>
    obtain ⟨hi, his⟩ := List.forall_mem_cons.1 his
    rw [List.length_cons] at hlength
    refine Invocation.counted_after hi (ih his (by omega)) fun name => ?_
    have hle := RuleStore.usesSince_le (is.map Invocation.event) name
    rw [List.length_map] at hle
    omega
  | elsewhere _ hsame ih => exact (ih his hlength).congr hsame

/-- There is something to load at the end of every history that starts without rules, if there is a
file then and the clocks have regular instants. -/
theorem isReadable (h : History f t is t') (hmissing : t.contains f.path = false)
    (his : ∀ i ∈ is, i.Respects f)
    (hclocks : ∀ i ∈ is, ∀ n, (i.surroundings.clock n).IsRegular) : f.IsReadable t' := by
  induction h with
  | start => exact .inr ⟨[], RuleFile.load_of_missing hmissing⟩
  | @run is i _ ih =>
    obtain ⟨hi, his⟩ := List.forall_mem_cons.1 his
    obtain ⟨hclock, hclocks⟩ := List.forall_mem_cons.1 hclocks
    exact Invocation.isReadable_after hi (ih his hclocks) hclock
  | elsewhere _ hsame ih => exact (ih his hclocks).congr hsame

/-- In every history that starts without rules, whose runs are fewer than the numbers of a word and
keep their rules in one file that they export nothing to and that is not the file of settings:

* only adding, editing, removing, renaming and importing rules and filtering by a stored rule ever
  change the file of rules;
* a command on stored rules that fails, and does not fail at a file, leaves it as it is;
* the count of each stored rule is the number of filters that chose it, under the name that it had
  then, since it was added or since an import put it in the place of another one;
* if the clocks have regular instants, the file can be read. -/
theorem accounts (h : History f t is t') (hmissing : t.contains f.path = false)
    (his : ∀ i ∈ is, i.Respects f) (hlength : is.length < 2 ^ 32) :
    (∀ i ∈ is, i.after.fileAt? f.place ≠ i.before.fileAt? f.place →
      ∃ c, i.command? = some c ∧ c.mayChangeRules = true) ∧
    (∀ i ∈ is, ∀ c fault, i.command? = some (.rules c) → i.ending = .failed fault →
      (∀ e, fault ≠ .store (.file e)) → i.after.fileAt? f.place = i.before.fileAt? f.place) ∧
    (∀ s, f.load t' = .ok s → ∀ r ∈ s,
      r.useCount.toNat = usesSince (is.map Invocation.event) r.name) ∧
    ((∀ i ∈ is, ∀ n, (i.surroundings.clock n).IsRegular) →
      t'.fileAt? f.place = none ∨ ∃ s, f.load t' = .ok s) := by
  refine ⟨fun i hi => Invocation.mayChangeRules_of_changed (his i hi),
    fun i hi c fault => Invocation.fileAt?_of_failed (his i hi), fun s hs => ?_,
    h.isReadable hmissing his⟩
  exact (h.counted hmissing his hlength s hs).2

/-- A rule is added and then chosen by a filter whose messages are missing. The filter fails, and
the use is counted. -/
theorem accounts_used :
    let σ : Surroundings := ⟨[("MAILMATCH_RULES_PATH", "rules.toml")], ⟨"cfg"⟩, "",
      fun _ => ⟨0, 0, 0⟩, false, Shell.runner⟩
    let f : RuleFile := ⟨⟨"rules.toml"⟩, true, .toml⟩
    let start : FileTree := ⟨[(["cfg", "mailmatch", "config.toml"], .file (FileTree.ofText ""))]⟩
    let adds : Invocation := ⟨σ, ["rules", "add", "a", "U"], start⟩
    let filters : Invocation := ⟨σ, ["filter", "-r", "a", "-m", "none.json"], adds.after⟩
    start.contains f.path = false ∧ History f start [filters, adds] filters.after ∧
      (∀ i ∈ [filters, adds], i.Respects f) ∧
      f.load filters.after = .ok [⟨"a", "", ⟨0, 0, 0⟩, ⟨0, 0, 0⟩, 1, "U"⟩] ∧
      usesSince ([filters, adds].map Invocation.event) "a" = 1 := by
  intro σ f start adds filters
  let config : Place := ["cfg", "mailmatch", "config.toml"]
  let settings : Settings := { rulesPath := some ⟨"rules.toml"⟩ }
  let s : Session := ⟨σ, settings, false⟩
  let r : StoredRule := .make ⟨0, 0, 0⟩ "a" "" "U"
  have hf : s.ruleFile = f := rfl
  have hplace : f.place = ["rules.toml"] := by decide +kernel
  have hbackup : f.backupPlace = ["rules.toml.backup"] := by decide +kernel
  have hdirectory : f.directory = [] := by decide +kernel
  have hconfig : FileTree.resolve (σ.ownFile "config.toml").components = config := by decide +kernel
  have hapart : σ.settingsPlace ≠ f.place := by decide +kernel
  have hmissing : start.contains f.path = false := by decide +kernel
  have hregular : (⟨0, 0, 0⟩ : Calendar.Instant).IsRegular := ⟨by decide +kernel, by decide +kernel⟩
  -- the path of the rules comes from the environment, and the file of settings holds nothing
  have hsettings : ∀ t : FileTree, t.find? config = start.find? config →
      Settings.load σ.environment (σ.ownFile "config.toml") t = (.ok settings, t) := fun t hsame =>
    Settings.load_of_same (by decide +kernel) (hconfig ▸ hsame) (by decide +kernel)
  have hw : f.IsWritable start := by
    refine ⟨by decide +kernel, by decide +kernel, RuleFile.isOpen_of_eq_nil hdirectory, ?_, ?_⟩
    · rw [hplace]
      simp [start, FileTree.find?, List.lookup_cons]
    · rw [hbackup]
      simp [start, FileTree.find?, List.lookup_cons]
  -- the rule is added
  let create : RuleFile.Request := .create ⟨0, 0, 0⟩ "a" "" "U"
  have hadds : adds.session? = some (s, start) ∧ adds.command? = some (.rules (.add "a" "U" "")) :=
    Invocation.session?_of_load (r := ⟨.rules (.add "a" "U" ""), false⟩) rfl (hsettings start rfl)
  have hcreate : create.apply start [] = .ok [r] := by decide +kernel
  have hrequest₁ : s.request? start (.rules (.add "a" "U" "")) = some create := rfl
  obtain ⟨hload₁, hw₁, hkept⟩ := Invocation.after_of_granted (i := adds) hf hapart hadds
    hrequest₁ hw (RuleFile.load_of_missing hmissing) hcreate hregular
  have hconfig₁ : adds.after.find? config = start.find? config :=
    hkept config (by rw [hplace]; decide) (by rw [hbackup]; decide) (by rw [hdirectory]; decide)
  -- the filter chooses it
  let command : Command := .filter (.stored "a") false ⟨⟨"none.json"⟩, none, false⟩
  let use : RuleFile.Request := .recordUse ⟨0, 0, 0⟩ "a"
  have hfilters : filters.session? = some (s, adds.after) ∧ filters.command? = some command :=
    Invocation.session?_of_load (r := ⟨command, false⟩) rfl (hsettings adds.after hconfig₁)
  have hget : s.ruleFile.get "a" adds.after = .ok r := by
    rw [hf, RuleFile.get, hload₁]
    decide +kernel
  have hparsed : r.parsed = .ok ⟨[⟨false, .status .unread⟩], .all, by simp⟩ := by decide +kernel
  have hrequest : s.request? adds.after command = some use :=
    Session.useRequest?_of_get hget hparsed
  have huse : use.apply adds.after [r] = .ok [{ r with useCount := 1 }] := by decide +kernel
  obtain ⟨hload, -⟩ := Invocation.after_of_granted (i := filters) hf hapart hfilters hrequest hw₁
    hload₁ huse hregular
  have hrespects : ∀ i ∈ [filters, adds], i.Respects f :=
    List.forall_mem_cons.2 ⟨.of_session hfilters hf rfl hapart,
      List.forall_mem_singleton.2 (.of_session hadds hf rfl hapart)⟩
  have hhistory : History f start [filters, adds] filters.after := .run filters (.run adds .start)
  obtain ⟨-, -, hcounts, -⟩ := accounts hhistory hmissing hrespects (by decide)
  exact ⟨hmissing, hhistory, hrespects, hload, (hcounts _ hload _ List.mem_cons_self).symm⟩

/-- Where the file of rules is the file of settings, checking a rule changes it: the settings are
written down before the rule is looked at. -/
theorem changed_by_check :
    let σ : Surroundings := ⟨[("MAILMATCH_RULES_PATH", "cfg/mailmatch/config.toml")], ⟨"cfg"⟩, "",
      fun _ => ⟨0, 0, 0⟩, false, Shell.runner⟩
    let f : RuleFile := ⟨⟨"cfg/mailmatch/config.toml"⟩, true, .toml⟩
    let checks : Invocation := ⟨σ, ["check", "U"], .empty⟩
    FileTree.empty.contains f.path = false ∧ History f .empty [checks] checks.after ∧
      (∀ s t, checks.session? = some (s, t) → s.ruleFile = f) ∧
      checks.command? = some (.check "U") ∧
      checks.after.fileAt? f.place ≠ checks.before.fileAt? f.place := by
  intro σ f checks
  have hpath : checks.session?.map (fun x => x.1.ruleFile.path) = some f.path := by decide +kernel
  have hafter : (checks.after.fileAt? f.place).isSome = true := by decide +kernel
  refine ⟨by decide +kernel, .run checks .start, fun s t h => ?_, rfl, fun hsame => ?_⟩
  · rw [h] at hpath
    have hpath : s.ruleFile.path = f.path := Option.some.inj hpath
    show (⟨s.ruleFile.path, true, .toml⟩ : RuleFile) = f
    rw [hpath]
  · have hbefore : (checks.before.fileAt? f.place).isSome = false := by decide +kernel
    rw [hsame, hbefore] at hafter
    cases hafter

end History

end MailFilter.Program
