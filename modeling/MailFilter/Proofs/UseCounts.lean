import MailFilter.Proofs.CommandFiles
import MailFilter.Proofs.Imports

/-!
# How Often Rules Were Used

Of all that commands do, few things count for the uses of a rule: a filter chooses it, it is added,
it gets another name, or an import brings it (`RuleStore.Event`). From these events alone one can
tell how often the rule of each name was used (`RuleStore.usesSince`), and this is the count that is
stored, until there are more uses than the word for it can tell.

The count is part of the record of a rule, and the commands treat the record in different ways: some
copy it, some make a new one, some take it to another name. So there is one lemma for each of them,
first for the store and then for the file, where records are written and read again.

## Main results

* `RuleStore.CountsBy.recordUse`, `RuleStore.CountsBy.imported`: what requests do to the counts.
* `RuleFile.Counted.of_granted`, `RuleFile.Counted.of_refused`: the same for the counts in a file.
* `Program.Session.counted_perform`: a command keeps the counts right.
-/

namespace MailFilter

/-! ### Counts of uses -/

namespace RuleStore

/-- What counts for the uses of rules: a rule is used, it is added, it gets another name, or rules
of some names are brought by an import. -/
inductive Event where
  | other
  | used (name : String)
  | added (name : String)
  | renamed (old new : String)
  | imported (names : List String)
deriving DecidableEq

/-- How often the rules of names were used, after one more event. -/
def Event.uses (before : String → Nat) : Event → String → Nat
  | other, n => before n
  | used name, n => if n = name then before n + 1 else before n
  | added name, n => if n = name then 0 else before n
  | renamed old new, n => if n = new then before old else before n
  | imported names, n => if n ∈ names then 0 else before n

/-- How often the rule of a name was used since there is one, by all events from the last one
back. -/
def usesSince : List Event → String → Nat
  | [], _ => 0
  | e :: es, n => e.uses (usesSince es) n

/-- A rule was not used more often than there were events. -/
theorem usesSince_le (es : List Event) (n : String) : usesSince es n ≤ es.length := by
  induction es generalizing n with
  | nil => exact Nat.le_refl 0
  | cons e es ih =>
    have hn := ih n
    rw [usesSince, List.length_cons]
    cases e with
    | other => exact Nat.le_succ_of_le hn
    | used name =>
      simp only [Event.uses]
      split <;> omega
    | added name =>
      simp only [Event.uses]
      split <;> omega
    | renamed old new =>
      have hold := ih old
      simp only [Event.uses]
      split <;> omega
    | imported names =>
      simp only [Event.uses]
      split <;> omega

/-- Whether the counts of all rules are those of their names. -/
def CountsBy (s : RuleStore) (uses : String → Nat) : Prop :=
  ∀ r ∈ s, r.useCount.toNat = uses r.name

variable {s s' : RuleStore} {uses uses' : String → Nat} {r : StoredRule} {name : String}

/-- Fewer rules. -/
theorem CountsBy.sublist (h : s.CountsBy uses) (hs : s'.Sublist s) : s'.CountsBy uses :=
  fun r hr => h r (hs.subset hr)

/-- A rule that is added was never used. -/
theorem CountsBy.add (h : s.CountsBy uses) (hr : r.useCount = 0) (ha : s.add r = .ok s') :
    s'.CountsBy ((Event.added r.name).uses uses) := by
  obtain ⟨hfree, -, rfl⟩ := add_ok_iff.1 ha
  intro r' hr'
  rcases List.mem_append.1 hr' with hr' | hr'
  · have hne : r'.name ≠ r.name := fun hn => hfree (List.mem_map.2 ⟨r', hr', hn⟩)
    rw [Event.uses, if_neg hne, h r' hr']
  · obtain rfl := List.mem_singleton.1 hr'
    rw [Event.uses, if_pos rfl, hr]
    rfl

/-- A rule is changed, and the counts of the other ones stay. -/
theorem CountsBy.onRule {f : StoredRule → StoredRule} (hnodup : s.names.Nodup)
    (hchanged : ∀ r ∈ s, r.name = name → (f r).useCount.toNat = uses' (f r).name)
    (hother : ∀ r ∈ s, r.name ≠ name → r.useCount.toNat = uses' r.name) :
    (s.onRule name f).CountsBy uses' := by
  intro r hr
  rcases mem_onRule_of_nodup hnodup hr with ⟨hr, hn⟩ | ⟨r₀, hr₀, hn, rfl⟩
  · exact hother r hr hn
  · exact hchanged r₀ hr₀ hn

/-- A rule that is replaced keeps its count, if the new one has it. -/
theorem CountsBy.update (h : s.CountsBy uses) (hnodup : s.names.Nodup)
    (hu : s.update r = .ok s') (hr : r.useCount.toNat = uses r.name) : s'.CountsBy uses := by
  obtain ⟨-, -, rfl⟩ := update_ok_iff.1 hu
  exact .onRule hnodup (fun _ _ _ => hr) fun r hr _ => h r hr

/-- A rule takes its count along to another name. -/
theorem CountsBy.rename {new : String} (h : s.CountsBy uses) (hnodup : s.names.Nodup)
    (hr : s.rename name new = .ok s') : s'.CountsBy ((Event.renamed name new).uses uses) := by
  obtain ⟨-, hfree, -, rfl⟩ := rename_ok_iff.1 hr
  refine .onRule hnodup (fun r hr hn => ?_) fun r hr _ => ?_
  · rw [Event.uses, if_pos rfl, ← hn]
    exact h r hr
  · have hne : r.name ≠ new := fun hn => hfree (List.mem_map.2 ⟨r, hr, hn⟩)
    rw [Event.uses, if_neg hne, h r hr]

/-- A use is counted, as long as the number fits. -/
theorem CountsBy.recordUse {now : Calendar.Instant} (h : s.CountsBy uses) (hnodup : s.names.Nodup)
    (hfits : uses name + 1 < UInt32.size) (hr : s.recordUse now name = .ok s') :
    s'.CountsBy ((Event.used name).uses uses) := by
  obtain ⟨-, -, -, rfl⟩ := recordUse_ok_iff.1 hr
  refine .onRule hnodup (fun r hr hn => ?_) fun r hr hn => ?_
  · have hcount : r.useCount.toNat = uses name := hn ▸ h r hr
    have hroom : r.CanCount := by rwa [StoredRule.CanCount, hcount]
    have hname : (r.used now).name = name := hn
    rw [StoredRule.useCount_used now hroom, hname, Event.uses, if_pos rfl, hcount]
  · rw [Event.uses, if_neg hn, h r hr]

instance (s : RuleStore) (collision : Collision) (rules : RuleSet) (name : String) :
    Decidable (s.IsTaken collision rules name) := instDecidableOr

/-- The names of the rules that an import brings. -/
def takenOver (s s' : RuleStore) (collision : Collision) (rules : RuleSet) : List String :=
  s'.names.filter fun name => s.IsTaken collision rules name

/-- The names of the rules that an import brings are those that come from it. -/
theorem mem_takenOver {collision : Collision} {rules : RuleSet} :
    name ∈ s.takenOver s' collision rules ↔ name ∈ s'.names ∧ s.IsTaken collision rules name := by
  simp [takenOver]

/-- A rule that an import brings was never used, and the counts of the other ones stay. -/
theorem CountsBy.imported {collision : Collision} {rules : RuleSet} (h : s.CountsBy uses)
    (hi : Imported s collision rules s') :
    s'.CountsBy ((Event.imported (s.takenOver s' collision rules)).uses uses) := by
  intro r hr
  have hname : r.name ∈ s'.names := List.mem_map.2 ⟨r, hr, rfl⟩
  rw [Event.uses]
  by_cases htaken : s.IsTaken collision rules r.name
  · obtain ⟨now, description, text, hmade⟩ := hi.made r hr htaken
    rw [if_pos (mem_takenOver.2 ⟨hname, htaken⟩), hmade]
    rfl
  · rw [if_neg fun hmem => htaken (mem_takenOver.1 hmem).2, h r (hi.kept r hr htaken)]

end RuleStore

/-! ### Counts in a file -/

namespace RuleFile

open RuleStore (Event)

variable {f : RuleFile} {t t' : FileTree} {uses uses' : String → Nat} {q : Request}

/-- Whether what is loaded is sound, and the counts of all rules are those of their names. -/
def Counted (f : RuleFile) (t : FileTree) (uses : String → Nat) : Prop :=
  ∀ s, f.load t = .ok s → s.IsSound ∧ s.CountsBy uses

/-- A rule that is found is one of those that are loaded. -/
theorem exists_of_get {r : StoredRule} {name : String} (h : f.get name t = .ok r) :
    ∃ s, f.load t = .ok s ∧ r ∈ s := by
  rw [get] at h
  split at h
  · cases h
  · next s hload =>
    rw [RuleStore.get] at h
    split at h
    · next hget =>
      cases h
      exact ⟨s, hload, List.mem_of_find?_eq_some hget⟩
    · cases h

/-- The counts are those of a file that is the same. -/
theorem Counted.congr (h : f.Counted t uses) (hsame : t'.fileAt? f.place = t.fileAt? f.place) :
    f.Counted t' uses := by
  intro s hs
  rcases load_of_fileAt? hsame hs with hload | rfl
  · exact h s hload
  · exact ⟨RuleStore.isSound_nil, fun r hr => by cases hr⟩

/-- A request that is refused leaves the counts as they are. -/
theorem Counted.of_refused {e : StoreFault} (h : f.Counted t uses)
    (hq : (q.perform f t).1 = .error e) : f.Counted (q.run f t) uses := by
  intro s hs
  rw [← Request.perform_snd] at hs
  rw [Request.perform_eq] at hq hs
  exact h s (load_of_change_error (Prod.ext hq rfl) hs)

/-- A request that is granted takes the counts to those of the next store. -/
theorem Counted.of_granted {a : Answer} (hf : f.format = .toml) (h : f.Counted t uses)
    (hq : (q.perform f t).1 = .ok a)
    (hstep : ∀ s s' s'', f.load t = .ok s → q.apply t s = .ok s' → f.load (q.run f t) = .ok s'' →
      s''.names = s'.names → s.IsSound → s.CountsBy uses → s'.CountsBy uses') :
    f.Counted (q.run f t) uses' := by
  have hrun := Request.perform_snd f t q
  rw [Request.perform_eq] at hq hrun
  have hchange : f.change (fun s => q.step t s) t = (.ok a, q.run f t) := Prod.ext hq hrun
  obtain ⟨s, s', hload, hgranted, hsave⟩ := change_ok_iff.1 hchange
  have happly : q.apply t s = .ok s' := by
    rw [Request.apply_eq_step, hgranted]
    rfl
  obtain ⟨hsound, hcounts⟩ := h s hload
  -- what is loaded next has the names and counts of the store that was saved
  have hreread : ∀ s'', f.load (q.run f t) = .ok s'' →
      StoreFormat.toml.read? (StoreFormat.toml.render s') = some s'' := fun s'' hs'' => by
    rw [load_of_save_ok hsave, hf] at hs''
    split at hs''
    · next hread =>
      cases hs''
      exact hread
    · cases hs''
  intro s'' hs''
  have hnames : s''.names = s'.names := StoreFormat.names_of_read?_render (hreread s'' hs'')
  refine ⟨isSound_of_read?_render (hreread s'' hs'')
    (hsound.step (Request.step_of_apply happly)), fun r'' hr'' => ?_⟩
  obtain ⟨r, hr, created, lastUsed, rfl⟩ :=
    StoreFormat.redated_of_read?_render (hreread s'' hs'') r'' hr''
  exact hstep s s' s'' hload happly hs'' hnames hsound hcounts r hr

/-- Whether there is something to load, if there is a file. -/
def IsReadable (f : RuleFile) (t : FileTree) : Prop :=
  t.fileAt? f.place = none ∨ ∃ s, f.load t = .ok s

/-- A file that is the same can be read as well. -/
theorem IsReadable.congr (h : f.IsReadable t) (hsame : t'.fileAt? f.place = t.fileAt? f.place) :
    f.IsReadable t' := by
  cases hfile : t'.fileAt? f.place with
  | none => exact .inl hfile
  | some bytes =>
    have hfile' : t.fileAt? f.place = some bytes := hsame.symm.trans hfile
    have hload : f.load t' = f.load t := load_congr
      ((FileTree.fileAt?_eq_some.1 hfile).trans (FileTree.fileAt?_eq_some.1 hfile').symm)
    rcases h with hnone | hsome
    · rw [hfile'] at hnone
      cases hnone
    · exact .inr (hload ▸ hsome)

/-- A request with regular instants leaves a file that can be read. -/
theorem IsReadable.run (hf : f.format = .toml) (hq : q.IsDated) (h : f.IsReadable t) :
    f.IsReadable (q.run f t) := by
  cases hload : f.load t with
  | error e =>
    rw [Request.run_eq, hload]
    exact h
  | ok s =>
    rcases load_run_ok_or hf hq hload with hloaded | ⟨-, hdirectory⟩
    · exact .inr hloaded
    · refine .inl ?_
      rw [FileTree.fileAt?, hdirectory]

/-- The names of the rules that an import brought, from what the file held before and after it. -/
def takenOver (f : RuleFile) (source : Path) (collision : RuleStore.Collision) (t t' : FileTree) :
    List String :=
  match f.load t, f.load t', t.read source with
  | .ok s, .ok s', .ok text =>
    match RuleSet.ofDocument text with
    | .ok rules => s.takenOver s' collision rules
    | .error _ => []
  | _, _, _ => []

end RuleFile

/-! ### Events of commands -/

namespace Program

open RuleStore (Event usesSince)

namespace Session

/-- An event that takes place where a procedure succeeds. -/
def eventOf {α : Type} (answer : Except Fault α) (event : Event) : Event :=
  match answer with
  | .ok _ => event
  | .error _ => .other

/-- What counts of a command on stored rules that succeeds, with the files before and after it. -/
def rulesEvent (f : RuleFile) (t t' : FileTree) : RulesCommand → Event
  | .add name _ _ => .added name
  | .rename old new => .renamed old new
  | .importFrom source collision => .imported (f.takenOver source collision t t')
  | _ => .other

/-- What counts of a command. A filter uses a stored rule as soon as the rule is chosen, whatever
becomes of the messages. -/
def event (s : Session) (w : World) : Command → Event
  | .filter (.stored name) _ _ => eventOf (s.chosenRule (.stored name) w).1 (.used name)
  | .rules c =>
    eventOf (s.rules c w).1 (rulesEvent s.ruleFile w.files (s.rules c w).2.files c)
  | _ => .other

variable {s : Session} {w : World} {uses : String → Nat} {q : RuleFile.Request}

/-- Nothing counts of a command without a request. -/
theorem event_of_none {c : Command} (h : s.request? w.files c = none) : s.event w c = .other := by
  cases c with
  | filter choice count source =>
    cases choice with
    | rule => rfl
    | stored name =>
      obtain ⟨fault, hnone⟩ := chosenRule_of_none h
      rw [event, hnone]
      rfl
  | rules c =>
    have hother : ∀ answer : Except Fault Unit, eventOf answer .other = .other := by
      rintro (_ | _) <;> rfl
    cases c with
    | add => cases h
    | rename => cases h
    | importFrom => cases h
    | _ => exact hother _
  | _ => rfl

/-- A filter by a stored rule keeps the counts right. -/
theorem counted_chosenRule {name : String} (h : s.ruleFile.Counted w.files uses)
    (hfits : uses name + 1 < UInt32.size) (hq : s.useRequest? w.files name = some q) :
    s.ruleFile.Counted (q.run s.ruleFile w.files)
      ((eventOf (s.chosenRule (.stored name) w).1 (.used name)).uses uses) := by
  have hfollows := chosenRule_follows hq
  cases hanswer : (q.perform s.ruleFile w.files).1 with
  | error e =>
    rw [hfollows.refused e hanswer]
    exact h.of_refused hanswer
  | ok answer =>
    obtain ⟨rule, hrule⟩ := hfollows.granted answer hanswer
    rw [hrule]
    refine h.of_granted rfl hanswer fun store store' _ _ happly _ _ hsound hcounts => ?_
    obtain ⟨_, _, -, -, rfl⟩ := useRequest?_eq_some hq
    exact hcounts.recordUse hsound.nodup hfits happly

/-- A command on stored rules keeps the counts right. -/
theorem counted_rules {c : RulesCommand} (h : s.ruleFile.Counted w.files uses)
    (hq : s.rulesRequest? w.files c = some q) :
    s.ruleFile.Counted (q.run s.ruleFile w.files)
      ((eventOf (s.rules c w).1 (rulesEvent s.ruleFile w.files (s.rules c w).2.files c)).uses
        uses) := by
  have hfollows := rules_follows hq
  cases hanswer : (q.perform s.ruleFile w.files).1 with
  | error e =>
    rw [hfollows.refused e hanswer]
    exact h.of_refused hanswer
  | ok answer =>
    obtain ⟨y, hy⟩ := hfollows.granted answer hanswer
    rw [hy, hfollows.files, RuleFile.Request.perform_snd]
    refine h.of_granted rfl hanswer
      fun store store' store'' hload happly hload' hnames hsound hcounts => ?_
    cases c with
    | list => cases hq
    | details => cases hq
    | «export» => cases hq
    | statistics => cases hq
    | add name rule description =>
      cases hq
      obtain ⟨⟨r, _⟩, hcreate, rfl⟩ := map_ok_iff.1 happly
      obtain ⟨-, _, -, rfl, hadd⟩ := RuleStore.create_ok_iff.1 hcreate
      exact hcounts.add rfl hadd
    | edit name rule description =>
      obtain ⟨r, text, hget, -, rfl⟩ := rulesRequest?_edit hq
      obtain ⟨_, hloaded, hr⟩ := RuleFile.exists_of_get hget
      obtain rfl := Except.ok.inj (hload.symm.trans hloaded)
      exact hcounts.update hsound.nodup happly (hcounts r hr)
    | remove name force =>
      obtain ⟨_, -, -, rfl⟩ := rulesRequest?_remove hq
      obtain ⟨⟨r, _⟩, hremove, rfl⟩ := map_ok_iff.1 happly
      exact hcounts.sublist (RuleStore.sublist_of_remove hremove)
    | rename old new =>
      cases hq
      exact hcounts.rename hsound.nodup happly
    | importFrom source collision =>
      cases hq
      obtain ⟨text, rules, i, hread, hrules, hi, rfl⟩ :=
        RuleFile.Request.importRules_of_apply happly
      have himported := RuleStore.imported_of_importRules hsound.nodup hi
      have htaken : store.takenOver store'' collision rules =
          store.takenOver i.store collision rules := by
        rw [RuleStore.takenOver, RuleStore.takenOver, hnames]
      rw [rulesEvent, RuleFile.takenOver, hload, hload', hread]
      simp only [hrules, htaken]
      exact hcounts.imported himported

/-- A command keeps the counts right. -/
theorem counted_perform {c : Command} (h : s.ruleFile.Counted w.files uses)
    (hfits : ∀ name, uses name + 1 < UInt32.size)
    (hexport : c.exportPlace? ≠ some s.ruleFile.place)
    (hsettings : s.surroundings.settingsPlace ≠ s.ruleFile.place) :
    s.ruleFile.Counted (s.perform c w).2.files ((s.event w c).uses uses) := by
  cases hq : s.request? w.files c with
  | none =>
    rw [event_of_none hq]
    exact h.congr (fileAt?_perform_of_none hq hexport hsettings)
  | some q =>
    rw [files_perform_of_some hq]
    cases c with
    | filter choice count source =>
      cases choice with
      | rule => cases hq
      | stored name => exact counted_chosenRule h (hfits name) hq
    | rules c => exact counted_rules h hq
    | check => cases hq
    | classify => cases hq
    | search => cases hq
    | setSetting => cases hq
    | getSetting => cases hq

/-- The request of a command has regular instants, if the clock has them. -/
theorem isDated_of_request? {c : Command} (hclock : ∀ n, (s.surroundings.clock n).IsRegular)
    (hq : s.request? w.files c = some q) : q.IsDated := by
  cases c with
  | check => cases hq
  | classify => cases hq
  | search => cases hq
  | setSetting => cases hq
  | getSetting => cases hq
  | filter choice count source =>
    cases choice with
    | rule => cases hq
    | stored name =>
      obtain ⟨_, _, -, -, rfl⟩ := useRequest?_eq_some hq
      exact hclock 0
  | rules c =>
    cases c with
    | list => cases hq
    | details => cases hq
    | «export» => cases hq
    | statistics => cases hq
    | add =>
      cases hq
      exact hclock 0
    | rename =>
      cases hq
      trivial
    | importFrom =>
      cases hq
      exact hclock
    | edit name rule description =>
      obtain ⟨r, text, hget, -, rfl⟩ := rulesRequest?_edit hq
      obtain ⟨store, hload, hr⟩ := RuleFile.exists_of_get hget
      have hdated := RuleFile.isDated_of_load rfl hload r hr
      exact ⟨hdated.created, hdated.lastUsed⟩
    | remove name force =>
      obtain ⟨_, -, -, rfl⟩ := rulesRequest?_remove hq
      trivial

/-- A command leaves a file of rules that can be read, if the clock has regular instants. -/
theorem isReadable_perform {c : Command} (h : s.ruleFile.IsReadable w.files)
    (hclock : ∀ n, (s.surroundings.clock n).IsRegular)
    (hexport : c.exportPlace? ≠ some s.ruleFile.place)
    (hsettings : s.surroundings.settingsPlace ≠ s.ruleFile.place) :
    s.ruleFile.IsReadable (s.perform c w).2.files := by
  cases hq : s.request? w.files c with
  | none => exact h.congr (fileAt?_perform_of_none hq hexport hsettings)
  | some q =>
    rw [files_perform_of_some hq]
    exact h.run rfl (isDated_of_request? hclock hq)

end Session

end Program

end MailFilter
