import MailFilter.Program.Rules
import MailFilter.Proofs.Saving
import MailFilter.Proofs.SetDocument
import MailFilter.Proofs.StoreDocument
import MailFilter.Proofs.StoreInvariant

/-!
# Requests to a File of Rules

The requests that may change the rules in a file, one after the other, each of them granted, refused
or failing while the file is written. Between two requests other programs may do to other files
whatever they want.

A request reads the file, takes the store to the next one, and writes that. So what every step from
one store to the next keeps, and what is kept where a store is written and read again, holds of all
that is ever read from the file (`Run.keeps`). Of an instant the file keeps the timestamp only;
nothing that is proved of a run depends on that, but for the fact that the file can be read.

## Main results

* `Request.forall_mem_apply`: what all rules have in common is kept, if the rules that a request
  brings have it.
* `Run.keeps`, `Run.loads`: what holds of all that is read, and when there is something to read.
* `stored_of_run`: names are distinct and valid, every text is a rule, and it is a canonical text if
  no update brings another one.
-/

namespace MailFilter

open Calendar (Instant)

/-- A text that is the canonical text of the rule that it is read as. -/
def Rule.IsCanonical (text : String) : Prop := ∃ rule, Rule.parse text = .ok rule ∧ rule.text = text

/-- The canonical text of a rule that can be written is canonical. -/
theorem Rule.isCanonical_text {rule : Rule} (h : rule.IsWritable) : Rule.IsCanonical rule.text :=
  ⟨rule, parse_text_of_isWritable h, rfl⟩

/-- The text that a rule gets in an edit is canonical, if the one that it has is. -/
theorem Program.Session.isCanonical_of_newText {r : StoredRule} {given : Option String}
    {text : String} (h : newText r given = .ok text) (hr : Rule.IsCanonical r.rule) :
    Rule.IsCanonical text := by
  cases given with
  | none =>
    cases h
    exact hr
  | some given =>
    obtain ⟨rule, hparse, rfl⟩ := map_ok_iff.1 h
    exact Rule.isCanonical_text (Rule.isWritable_of_parse hparse)

/-! ### What the rules of a store have in common -/

namespace RuleStore

variable {s s' : RuleStore} {P : StoredRule → Prop}

/-- Adding a rule that has a property. -/
theorem forall_mem_add {r : StoredRule} (hs : ∀ r ∈ s, P r) (hr : P r) (h : s.add r = .ok s') :
    ∀ r ∈ s', P r := by
  obtain ⟨-, -, rfl⟩ := add_ok_iff.1 h
  exact List.forall_mem_append.2 ⟨hs, by simpa using hr⟩

/-- Changing a rule so that it keeps a property. -/
theorem forall_mem_onRule {name : String} {g : StoredRule → StoredRule} (hs : ∀ r ∈ s, P r)
    (hg : ∀ r, P r → P (g r)) : ∀ r ∈ s.onRule name g, P r := by
  intro r hr
  rcases mem_onRule hr with hr | ⟨r₀, hr₀, -, rfl⟩
  · exact hs r hr
  · exact hg r₀ (hs r₀ hr₀)

/-- Replacing a rule by one that has a property. -/
theorem forall_mem_update {r : StoredRule} (hs : ∀ r ∈ s, P r) (hr : P r)
    (h : s.update r = .ok s') : ∀ r ∈ s', P r := by
  obtain ⟨-, -, rfl⟩ := update_ok_iff.1 h
  exact forall_mem_onRule hs fun _ _ => hr

/-- Taking over one rule that has a property. -/
theorem forall_mem_importStep {now : Instant} {collision : Collision} {i i' : Import}
    {listed : ListedRule}
    (hmade : ∀ name, P (.make now name listed.description listed.rule.text))
    (hi : ∀ r ∈ i.store, P r) (h : i.step now collision listed = .ok i') :
    ∀ r ∈ i'.store, P r := by
  rcases Import.step_ok_iff.1 h with ⟨-, ⟨-, rfl⟩ | ⟨-, -, rfl⟩⟩ | ⟨-, -, rfl⟩
  · exact hi
  · exact forall_mem_onRule hi fun _ _ => hmade _
  · exact List.forall_mem_append.2 ⟨hi, List.forall_mem_singleton.2 (hmade _)⟩

/-- Taking over rules that have a property. -/
theorem forall_mem_importRun {collision : Collision} {clock : Nat → Instant}
    {i i' : Import} {rules : RuleSet}
    (hclock : ∀ n name description, ∀ rule : Rule, rule.IsWritable →
      P (.make (clock n) name description rule.text))
    (hrules : ∀ r ∈ rules, r.rule.IsWritable) (hi : ∀ r ∈ i.store, P r)
    (h : Import.run collision clock i rules = .ok i') : ∀ r ∈ i'.store, P r := by
  induction rules generalizing clock i with
  | nil =>
    cases h
    exact hi
  | cons listed rules ih =>
    obtain ⟨hlisted, hrest⟩ := List.forall_mem_cons.1 hrules
    rw [Import.run] at h
    split at h
    · cases h
    · next i₁ hstep =>
      have hmade := fun name => hclock 0 name listed.description listed.rule hlisted
      exact ih (fun n => hclock (n + 1)) hrest (forall_mem_importStep hmade hi hstep) h

end RuleStore

/-! ### What requests make of a store -/

/-- A request that may change the rules. -/
inductive RuleFile.Request where
  | create (now : Instant) (name description text : String)
  | update (r : StoredRule)
  | delete (name : String)
  | rename (old new : String)
  | recordUse (now : Instant) (name : String)
  | importRules (clock : Nat → Instant) (source : Path) (collision : RuleStore.Collision)

namespace RuleFile.Request

/-- The files after a request, whatever becomes of it. -/
def run (f : RuleFile) (t : FileTree) : Request → FileTree
  | create now name description text => (f.create now name description text t).2
  | update r => (f.update r t).2
  | delete name => (f.delete name t).2
  | rename old new => (f.rename old new t).2
  | recordUse now name => (f.recordUse now name t).2
  | importRules clock source collision => (f.importRules clock source collision t).2

/-- The store that a request asks for. An import reads its source. -/
def apply (t : FileTree) (s : RuleStore) : Request → Except StoreFault RuleStore
  | create now name description text => (s.create now name description text).map (·.2)
  | update r => s.update r
  | delete name => (s.remove name).map (·.2)
  | rename old new => s.rename old new
  | recordUse now name => s.recordUse now name
  | importRules clock source collision =>
    match t.read source with
    | .error e => .error (.file e)
    | .ok text =>
      match RuleSet.ofDocument text with
      | .error e => .error (.invalidLine e)
      | .ok rules => (s.importRules clock collision rules).map (·.store)

/-- The files after a change: where the rules are read and the change is granted, they are those
after a save. -/
theorem change_snd {α : Type} (f : RuleFile)
    (step : RuleStore → Except StoreFault (α × RuleStore)) (t : FileTree) :
    (f.change step t).2 =
      match f.load t with
      | .error _ => t
      | .ok s =>
        match (step s).map (·.2) with
        | .error _ => t
        | .ok s' => (f.save s' t).2 := by
  rw [RuleFile.change]
  cases f.load t with
  | error e => rfl
  | ok s =>
    simp only
    cases step s with
    | error e => rfl
    | ok answer =>
      simp only [Except.map, RuleFile.saving]
      split <;> simp_all

/-- A request reads the rules, takes them to the next store, and writes that. -/
theorem run_eq (f : RuleFile) (t : FileTree) (q : Request) :
    q.run f t =
      match f.load t with
      | .error _ => t
      | .ok s =>
        match q.apply t s with
        | .error _ => t
        | .ok s' => (f.save s' t).2 := by
  have hunit : ∀ x : Except StoreFault RuleStore, (x.map ((), ·)).map (·.2) = x := by
    rintro (_ | _) <;> rfl
  cases q with
  | create now name description text => exact change_snd f _ t
  | delete name => exact change_snd f _ t
  | update r =>
    rw [run, RuleFile.update, change_snd]
    simp only [hunit, apply]
  | rename old new =>
    rw [run, RuleFile.rename, change_snd]
    simp only [hunit, apply]
  | recordUse now name =>
    rw [run, RuleFile.recordUse, change_snd]
    simp only [hunit, apply]
  | importRules clock source collision =>
    rw [run, RuleFile.importRules]
    cases f.load t with
    | error e => rfl
    | ok s =>
      simp only [apply]
      cases t.read source with
      | error e => rfl
      | ok text =>
        simp only
        cases RuleSet.ofDocument text with
        | error e => rfl
        | ok rules =>
          simp only
          cases s.importRules clock collision rules with
          | error e => rfl
          | ok i =>
            simp only [Except.map, RuleFile.saving]
            split <;> simp_all

variable {f : RuleFile} {t : FileTree} {s s' : RuleStore} {q : Request}

/-- A request that changes the files reads the rules, and is granted by the store. -/
theorem exists_apply_of_run_ne (h : q.run f t ≠ t) :
    ∃ s s', f.load t = .ok s ∧ q.apply t s = .ok s' := by
  rw [run_eq] at h
  split at h
  · exact absurd rfl h
  · next s hload =>
    split at h
    · exact absurd rfl h
    · next s' happly => exact ⟨s, s', hload, happly⟩

/-- A request changes no place but those of the file, of its backup and on the way down to them. -/
theorem find?_of_run {p : Place} (hfile : p ≠ f.place) (hbackup : p ≠ f.backupPlace)
    (habove : ¬ p <+: f.directory) : (q.run f t).find? p = t.find? p := by
  rw [run_eq]
  split
  · rfl
  · split
    · rfl
    · exact find?_of_save hfile hbackup habove

/-- An import that is granted has read its source. -/
theorem importRules_of_apply {clock : Nat → Instant} {source : Path}
    {collision : RuleStore.Collision}
    (h : (importRules clock source collision).apply t s = .ok s') :
    ∃ text rules i, t.read source = .ok text ∧ RuleSet.ofDocument text = .ok rules ∧
      s.importRules clock collision rules = .ok i ∧ i.store = s' := by
  rw [apply] at h
  split at h
  · cases h
  · next text hread =>
    split at h
    · cases h
    · next rules hrules =>
      obtain ⟨i, hi, hstore⟩ := map_ok_iff.1 h
      exact ⟨text, rules, i, hread, hrules, hi, hstore⟩

/-- A request that is granted is a step from the store to the next one. -/
theorem step_of_apply (h : q.apply t s = .ok s') : RuleStore.Step s s' := by
  cases q with
  | create now name description text =>
    obtain ⟨⟨r, s₁⟩, hc, rfl⟩ := map_ok_iff.1 h
    exact .create hc
  | update r => exact .update h
  | delete name =>
    obtain ⟨⟨r, s₁⟩, hr, rfl⟩ := map_ok_iff.1 h
    exact .remove hr
  | rename old new => exact .rename h
  | recordUse now name => exact .recordUse h
  | importRules clock source collision =>
    obtain ⟨text, rules, i, -, -, hi, rfl⟩ := importRules_of_apply h
    exact .importRules hi

/-- Whether the rules that a request brings have a property, and the rules that it changes keep
it. Rules that are made have canonical texts. -/
def Keeps (P : StoredRule → Prop) : Request → Prop
  | create now name description _ =>
    ∀ rule : Rule, rule.IsWritable → P (.make now name description rule.text)
  | update r => P r
  | delete _ => True
  | rename _ new => ∀ r, P r → P { r with name := new }
  | recordUse now _ => ∀ r, P r → P (r.used now)
  | importRules clock _ _ => ∀ n name description, ∀ rule : Rule, rule.IsWritable →
      P (.make (clock n) name description rule.text)

variable {P : StoredRule → Prop}

/-- What all rules of a store have in common is kept by a request whose rules have it. -/
theorem forall_mem_apply (h : q.apply t s = .ok s') (hs : ∀ r ∈ s, P r) (hq : q.Keeps P) :
    ∀ r ∈ s', P r := by
  cases q with
  | create now name description text =>
    obtain ⟨⟨r, s₁⟩, hc, rfl⟩ := map_ok_iff.1 h
    obtain ⟨-, rule, hparse, rfl, ha⟩ := RuleStore.create_ok_iff.1 hc
    exact RuleStore.forall_mem_add hs (hq rule (Rule.isWritable_of_parse hparse)) ha
  | update r => exact RuleStore.forall_mem_update hs hq h
  | delete name =>
    obtain ⟨⟨r, s₁⟩, hr, rfl⟩ := map_ok_iff.1 h
    exact fun r hr' => hs r ((RuleStore.sublist_of_remove hr).subset hr')
  | rename old new =>
    obtain ⟨-, -, -, rfl⟩ := RuleStore.rename_ok_iff.1 h
    exact RuleStore.forall_mem_onRule hs hq
  | recordUse now name =>
    obtain ⟨-, -, -, rfl⟩ := RuleStore.recordUse_ok_iff.1 h
    exact RuleStore.forall_mem_onRule hs hq
  | importRules clock source collision =>
    obtain ⟨text, rules, i, -, hrules, hi, rfl⟩ := importRules_of_apply h
    refine RuleStore.forall_mem_importRun (i := ⟨s, 0, 0, 0⟩) hq (fun r hr => ?_) hs hi
    exact (Rule.parse_text_ok_iff _).1 (RuleSet.isListable_of_ofDocument hrules r hr).writable

/-- Rules with canonical texts stay such, if no update brings another one. -/
theorem keeps_isCanonical (hq : ∀ r, q = .update r → Rule.IsCanonical r.rule) :
    q.Keeps fun r => Rule.IsCanonical r.rule := by
  cases q with
  | create => exact fun rule hrule => Rule.isCanonical_text hrule
  | update r => exact hq r rfl
  | delete => trivial
  | rename => exact fun r hr => hr
  | recordUse => exact fun r hr => hr
  | importRules => exact fun _ _ _ rule hrule => Rule.isCanonical_text hrule

/-- Whether the instants of a request are regular. -/
def IsDated : Request → Prop
  | create now _ _ _ => now.IsRegular
  | update r => r.IsDated
  | recordUse now _ => now.IsRegular
  | importRules clock _ _ => ∀ n, (clock n).IsRegular
  | _ => True

/-- Rules with regular instants stay such. -/
theorem IsDated.keeps (hq : q.IsDated) : q.Keeps StoredRule.IsDated := by
  cases q with
  | create now name description => exact fun rule _ => StoredRule.isDated_make hq _ _ _
  | update r => exact hq
  | delete => trivial
  | rename => exact fun r hr => ⟨hr.created, hr.lastUsed⟩
  | recordUse => exact fun r hr => ⟨hr.created, hq⟩
  | importRules => exact fun n _ _ rule _ => StoredRule.isDated_make (hq n) _ _ _

end RuleFile.Request

/-! ### Runs -/

namespace RuleFile

/-- What requests make of the files, one after the other. Between two requests the other files may
change. -/
inductive Run (f : RuleFile) (t : FileTree) : List Request → FileTree → Prop
  | start : Run f t [] t
  | request {qs : List Request} {t' : FileTree} (q : Request) :
      Run f t qs t' → Run f t (qs ++ [q]) (q.run f t')
  | elsewhere {qs : List Request} {t' t'' : FileTree} :
      Run f t qs t' → t''.find? f.place = t'.find? f.place → Run f t qs t''

variable {f : RuleFile} {t t' : FileTree} {qs : List Request}

/-- What requests and reading again keep is kept of what is read. -/
theorem load_run_keeps {Q : RuleStore → Prop} (q : Request)
    (hreread : ∀ s s', f.format.read? (f.format.render s) = some s' → Q s → Q s')
    (happly : ∀ s s', q.apply t s = .ok s' → Q s → Q s')
    (h : ∀ s, f.load t = .ok s → Q s) : ∀ s, f.load (q.run f t) = .ok s → Q s := by
  intro s₁ hload
  rw [Request.run_eq] at hload
  split at hload
  · exact h s₁ hload
  · next s hs =>
    split at hload
    · exact h s₁ hload
    · next s' hs' =>
      have hQ : Q s' := happly s s' hs' (h s hs)
      cases hsave : f.save s' t with
      | mk answer t₁ =>
        rw [hsave] at hload
        cases answer with
        | error e => exact h s₁ (load_of_save_error hsave hload)
        | ok _ =>
          rw [load_of_save_ok hsave] at hload
          split at hload
          · next s₂ hread =>
            cases hload
            exact hreread s' s₁ hread hQ
          · cases hload

/-- What every request and reading again keep holds of all that is read in a run. -/
theorem Run.keeps {Q : RuleStore → Prop} (hrun : Run f t qs t')
    (hreread : ∀ s s', f.format.read? (f.format.render s) = some s' → Q s → Q s')
    (happly : ∀ q ∈ qs, ∀ t s s', q.apply t s = .ok s' → Q s → Q s')
    (h : ∀ s, f.load t = .ok s → Q s) : ∀ s, f.load t' = .ok s → Q s := by
  induction hrun with
  | start => exact h
  | @request qs t₁ q _ ih =>
    obtain ⟨hqs, hq⟩ := List.forall_mem_append.1 happly
    exact load_run_keeps q hreread (hq q (List.mem_singleton_self q) t₁) (ih hqs)
  | elsewhere _ hsame ih =>
    rw [load_congr hsame]
    exact ih happly

/-- There is something to read after a request with regular instants, unless a directory has been
made in the place of the file, which can only be where the path names no file. -/
theorem load_run_ok_or {s : RuleStore} {q : Request} (hf : f.format = .toml) (hq : q.IsDated)
    (h : f.load t = .ok s) :
    (∃ s', f.load (q.run f t) = .ok s') ∨
      f.path.fileName?.isSome = false ∧ (q.run f t).find? f.place = some .directory := by
  rw [Request.run_eq, h]
  simp only
  split
  · exact .inl ⟨s, h⟩
  · next s' hs' =>
    cases hsave : f.save s' t with
    | mk answer t₁ =>
      cases answer with
      | error e =>
        rcases find?_of_save_error hsave with hsame | hdirectory
        · exact .inl ⟨s, (load_congr hsame).trans h⟩
        · exact .inr hdirectory
      | ok _ =>
        have hdated := Request.forall_mem_apply hs' (isDated_of_load hf h) hq.keeps
        refine .inl ⟨s', ?_⟩
        rw [load_of_save_ok hsave, hf, StoreFormat.read?_render hdated]

/-- Where the path names a file, there is something to read after a request with regular
instants. -/
theorem load_run_ok {s : RuleStore} {q : Request} (hf : f.format = .toml)
    (hnamed : f.path.fileName?.isSome) (hq : q.IsDated) (h : f.load t = .ok s) :
    ∃ s', f.load (q.run f t) = .ok s' :=
  (load_run_ok_or hf hq h).resolve_right fun hdirectory => by simp [hnamed] at hdirectory

/-- A request that is granted takes effect where the rules can be written, and they can be written
again. -/
theorem load_run_of_isWritable {s s' : RuleStore} {q : Request} (hf : f.format = .toml)
    (hw : f.IsWritable t) (h : f.load t = .ok s) (hs' : q.apply t s = .ok s') (hq : q.IsDated) :
    f.load (q.run f t) = .ok s' ∧ f.IsWritable (q.run f t) := by
  obtain ⟨t₁, hsave, -, hw₁, -⟩ := hw.save_ok s'
  have hrun : q.run f t = t₁ := by
    rw [Request.run_eq, h]
    simp only [hs', hsave]
  have hdated := Request.forall_mem_apply hs' (isDated_of_load hf h) hq.keeps
  rw [hrun, load_of_save_ok hsave, hf, StoreFormat.read?_render hdated]
  exact ⟨rfl, hw₁⟩

/-- Where the path names a file, there is something to read in every run with regular instants. -/
theorem Run.loads (hrun : Run f t qs t') (hf : f.format = .toml)
    (hnamed : f.path.fileName?.isSome) (hqs : ∀ q ∈ qs, q.IsDated) (h : ∃ s, f.load t = .ok s) :
    ∃ s, f.load t' = .ok s := by
  induction hrun with
  | start => exact h
  | @request qs t₁ q _ ih =>
    obtain ⟨hqs, hq⟩ := List.forall_mem_append.1 hqs
    obtain ⟨s, hs⟩ := ih hqs
    exact load_run_ok hf hnamed (hq q (List.mem_singleton_self q)) hs
  | elsewhere _ hsame ih =>
    rw [load_congr hsame]
    exact ih hqs

/-! ### What is stored -/

/-- Reading a store again keeps it sound. -/
theorem isSound_of_read?_render {s s' : RuleStore}
    (h : StoreFormat.toml.read? (StoreFormat.toml.render s) = some s') (hs : s.IsSound) :
    s'.IsSound := by
  refine ⟨StoreFormat.names_of_read?_render h ▸ hs.nodup, fun r' hr' => ?_⟩
  obtain ⟨r, hr, created, lastUsed, rfl⟩ := StoreFormat.redated_of_read?_render h r' hr'
  exact hs.valid r hr

/-- A file that is missing holds no rules. -/
theorem load_of_missing (h : t.contains f.path = false) : f.load t = .ok [] := by
  rw [load, if_neg]
  simp [h]

/-- What is read in a run is sound, if it is where the run starts. -/
theorem Run.isSound (hrun : Run f t qs t') (hf : f.format = .toml)
    (h : ∀ s, f.load t = .ok s → s.IsSound) : ∀ s, f.load t' = .ok s → s.IsSound :=
  hrun.keeps (fun _ _ h => isSound_of_read?_render (hf ▸ h))
    (fun _ _ _ _ _ h hs => hs.step (Request.step_of_apply h)) h

/-- The texts that are read in a run are canonical, if they are where the run starts and no update
brings another one. -/
theorem Run.isCanonical (hrun : Run f t qs t') (hf : f.format = .toml)
    (hupdates : ∀ r, .update r ∈ qs → Rule.IsCanonical r.rule)
    (h : ∀ s, f.load t = .ok s → ∀ r ∈ s, Rule.IsCanonical r.rule) :
    ∀ s, f.load t' = .ok s → ∀ r ∈ s, Rule.IsCanonical r.rule := by
  refine hrun.keeps (Q := fun s => ∀ r ∈ s, Rule.IsCanonical r.rule) (fun s s' h hs r' hr' => ?_)
    (fun q hq t s s' h hs => ?_) h
  · rw [hf] at h
    obtain ⟨r, hr, created, lastUsed, rfl⟩ := StoreFormat.redated_of_read?_render h r' hr'
    exact hs r hr
  · exact Request.forall_mem_apply h hs
      (Request.keeps_isCanonical fun r hr => hupdates r (hr ▸ hq))

/-- Whatever requests are made of a file that was missing, in what is read from it the names are
distinct, every name is valid and every text is a rule. If no update brings another one, every text
is canonical, and so is the text that an edit passes on. There is something to read, where the path
names a file and the instants of the requests are regular. -/
theorem stored_of_run (hf : f.format = .toml) (hmissing : t.contains f.path = false)
    (hrun : Run f t qs t') :
    (∀ s, f.load t' = .ok s →
      s.names.Nodup ∧
      (∀ r ∈ s, checkName r.name = .ok () ∧ ∃ rule, Rule.parse r.rule = .ok rule) ∧
      ((∀ r, .update r ∈ qs → Rule.IsCanonical r.rule) → ∀ r ∈ s, Rule.IsCanonical r.rule ∧
        ∀ given text, Program.Session.newText r given = .ok text → Rule.IsCanonical text)) ∧
    (f.path.fileName?.isSome → (∀ q ∈ qs, q.IsDated) → ∃ s, f.load t' = .ok s) := by
  have hempty : f.load t = .ok [] := load_of_missing hmissing
  have hsound : ∀ s, f.load t' = .ok s → s.IsSound :=
    hrun.isSound hf fun s hs => Except.ok.inj (hempty.symm.trans hs) ▸ RuleStore.isSound_nil
  refine ⟨fun s hs => ⟨(hsound s hs).nodup, fun r hr => ?_, fun hupdates r hr => ?_⟩,
    fun hnamed hqs => hrun.loads hf hnamed hqs ⟨[], hempty⟩⟩
  · exact StoredRule.validate_ok_iff.1 ((hsound s hs).valid r hr)
  · have hstart : ∀ s, f.load t = .ok s → ∀ r ∈ s, Rule.IsCanonical r.rule := fun s hs =>
      Except.ok.inj (hempty.symm.trans hs) ▸ by simp
    have hr := hrun.isCanonical hf hupdates hstart s hs r hr
    exact ⟨hr, fun given text h => Program.Session.isCanonical_of_newText h hr⟩

/-- A rule is added and gets another name. -/
theorem stored_of_run_renamed :
    ∃ t', Run ⟨⟨"rules.toml"⟩, true, .toml⟩ .empty
        [.create ⟨0, 0, 0⟩ "a" "" "s x&!N", .rename "a" "b"] t' ∧
      load ⟨⟨"rules.toml"⟩, true, .toml⟩ t' =
        .ok [⟨"b", "", ⟨0, 0, 0⟩, ⟨0, 0, 0⟩, 0, "s \"x\" & ~N"⟩] ∧
      checkName "b" = .ok () ∧ (∃ rule, Rule.parse "s \"x\" & ~N" = .ok rule) ∧
      Rule.IsCanonical "s \"x\" & ~N" := by
  let f : RuleFile := ⟨⟨"rules.toml"⟩, true, .toml⟩
  let create : Request := .create ⟨0, 0, 0⟩ "a" "" "s x&!N"
  let rename : Request := .rename "a" "b"
  have hw : f.IsWritable .empty := isWritable_empty (by decide +kernel) (by decide +kernel)
  have hmissing : FileTree.empty.contains f.path = false := by decide +kernel
  have hload : f.load .empty = .ok [] := load_of_missing hmissing
  have hregular : create.IsDated := ⟨by decide +kernel, by decide +kernel⟩
  have hcreate : create.apply .empty [] =
      .ok [⟨"a", "", ⟨0, 0, 0⟩, ⟨0, 0, 0⟩, 0, "s \"x\" & ~N"⟩] := by decide +kernel
  obtain ⟨hload₁, hw₁⟩ := load_run_of_isWritable rfl hw hload hcreate hregular
  have hrename : rename.apply (create.run f .empty)
      [⟨"a", "", ⟨0, 0, 0⟩, ⟨0, 0, 0⟩, 0, "s \"x\" & ~N"⟩] =
        .ok [⟨"b", "", ⟨0, 0, 0⟩, ⟨0, 0, 0⟩, 0, "s \"x\" & ~N"⟩] := by decide +kernel
  obtain ⟨hload₂, -⟩ := load_run_of_isWritable rfl hw₁ hload₁ hrename trivial
  have hrun : Run f .empty [create, rename] (rename.run f (create.run f .empty)) :=
    .request rename (.request create .start)
  obtain ⟨-, hvalid, hcanonical⟩ :=
    (stored_of_run rfl hmissing hrun).1 _ hload₂
  obtain ⟨hname, hparses⟩ := hvalid _ List.mem_cons_self
  refine ⟨_, hrun, hload₂, hname, hparses, (hcanonical (fun r hr => ?_) _ List.mem_cons_self).1⟩
  simp [create, rename] at hr

end RuleFile

end MailFilter
