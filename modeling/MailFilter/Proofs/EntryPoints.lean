import MailFilter.Proofs.Expansion
import MailFilter.Proofs.Procedures
import MailFilter.Proofs.RoundTrip
import MailFilter.Proofs.Saving
import MailFilter.Proofs.StoreDocument
import MailFilter.Proofs.StoreInvariant
import MailFilter.Proofs.Verdict

/-!
# Four Ways to Use a Rule

A rule can be given to a filter as a text, stored and then named to a filter, given to an extended
search, and met by a classifier among all stored rules. A stored rule is kept as its canonical text
and read again, and a search expands aliases before it reads; both end up with the rule that the
text is. So the first three take the same messages, or fail alike.

A classifier tries every stored rule on every message, and ends without an answer if one of them has
no verdict: a command cannot be made from the date of every message. Where it has an answer, it
gives the name of the rule to exactly the messages that the filter takes.

## Main results

* `Session.filtered_fst`, `Session.found_fst`: what a filter and a search take.
* `Session.addRule_ok`: a rule is added, and the file keeps what it needs to be used.
* `Session.labelled_fst`: what a classifier answers.
* `Session.entryPoints_agree`: all four agree.
-/

namespace MailFilter.Program

open Calendar (Instant)
open CommandTemplate (Fault)
open Procedure (change note query reading result)

namespace Session

variable {s : Session} {answer : Call → Outcome} {w : World} {source : MessageSource}
  {messages : List Message} {rule : Rule}

/-! ### Filters and searches -/

/-- The messages that a rule takes, from its verdicts. -/
def taken (ctx : Context) (rule : Rule) (messages : List Message) :
    Except Program.Fault Selection :=
  match messages.mapM (rule.verdict ctx) with
  | .error e => .error (.command e)
  | .ok verdicts => .ok ⟨messages, selected messages verdicts⟩

/-- A session whose runner looks at the call alone evaluates rules alike whatever the files are. -/
theorem context_eq (h : ∀ t log call, s.surroundings.runner t log call = answer call)
    (now : Instant) (t t' : FileTree) : s.context now t = s.context now t' := by
  have hrunner : s.surroundings.runner t = s.surroundings.runner t' := by
    funext log call
    rw [h, h]
  simp only [context, hrunner]

/-- A filter takes what its rule takes. -/
theorem filtered_fst (h : ∀ t log call, s.surroundings.runner t log call = answer call)
    {choice : RuleChoice} {w' : World} (hchosen : s.chosenRule choice w = (.ok rule, w'))
    (hmessages : Message.load w'.files source.path source.formatUsed = .ok messages) :
    (s.filtered choice source w).1 =
      taken (s.context (s.surroundings.clock 1) w'.files) rule messages := by
  have hanswers : (s.context (s.surroundings.clock 1) w'.files).AnswersByCall answer := h w'.files
  obtain ⟨x, log, hrun⟩ :=
    Matcher.runAll_eq hanswers messages (Matcher.uses_ofRule rule) []
  have hload : load source w' = (.ok messages, w') := Procedure.query_of_ok hmessages
  rw [filtered, taken]
  rw [Procedure.bind_of_ok hchosen, Procedure.bind_of_ok hload,
    Procedure.bind_of_ok (Procedure.reading_eq _ w'), hrun]
  cases messages.mapM (rule.verdict (s.context (s.surroundings.clock 1) w'.files)) with
  | error e => rfl
  | ok verdicts =>
    show (Prod.fst ((if x.hasFault then _ else _ : Procedure Selection) w')) = _
    split <;> rfl

/-- A filter by a text that is a rule takes what the rule takes. -/
theorem filtered_text_fst (h : ∀ t log call, s.surroundings.runner t log call = answer call)
    {text : String} (hrule : Rule.parse text = .ok rule)
    (hmessages : Message.load w.files source.path source.formatUsed = .ok messages) :
    (s.filtered (.rule text) source w).1 =
      taken (s.context (s.surroundings.clock 1) w.files) rule messages := by
  have hchosen : s.chosenRule (.rule text) w = (.ok rule, w) := by
    simp only [chosenRule, hrule]
    rfl
  exact filtered_fst h hchosen hmessages

/-- An extended search for a text that is a rule takes what the rule takes. -/
theorem found_fst (h : ∀ t log call, s.surroundings.runner t log call = answer call)
    {text : String} (hrule : Rule.parse text = .ok rule)
    (hmessages : Message.load w.files source.path source.formatUsed = .ok messages) :
    (s.found text (some .extended) source w).1 =
      taken (s.context (s.surroundings.clock 0) w.files) rule messages := by
  have hanswers : (s.context (s.surroundings.clock 0) w.files).AnswersByCall answer := h w.files
  obtain ⟨x, log, hrun⟩ :=
    QuickSearch.Search.runAll_eq hanswers messages
      (s := ⟨text, .extended, some (.rule (.ofRule rule))⟩) rfl (Matcher.uses_ofRule rule) []
  have hload : load source w = (.ok messages, w) := Procedure.query_of_ok hmessages
  rw [found, taken]
  simp only [Option.getD_some, QuickSearch.Search.prepare_of_parse hrule]
  rw [Procedure.bind_of_ok hload]
  simp only [QuickSearch.Search.isActive, Option.isSome_some, Bool.not_true, Bool.false_and,
    Bool.false_eq_true, if_false]
  rw [Procedure.bind_of_ok (Procedure.reading_eq _ w), hrun]
  cases messages.mapM (rule.verdict (s.context (s.surroundings.clock 0) w.files)) <;> rfl

/-! ### Adding and using a rule -/

/-- A rule is added where the rules can be written. The file is loaded with it, can be written
again, and whatever stood elsewhere still does. -/
theorem addRule_ok {store : RuleStore} {text name description : String}
    (hrule : Rule.parse text = .ok rule) (hload : s.ruleFile.load w.files = .ok store)
    (hwritable : s.ruleFile.IsWritable w.files) (hname : checkName name = .ok ())
    (hfree : name ∉ store.names) (hnow : (s.surroundings.clock 0).IsRegular) :
    ∃ w', s.addRule name text description w = (.ok (), w') ∧
      s.ruleFile.load w'.files =
        .ok (store ++ [.make (s.surroundings.clock 0) name description rule.text]) ∧
      s.ruleFile.IsWritable w'.files ∧
      ∀ p node, p ≠ s.ruleFile.place → p ≠ s.ruleFile.backupPlace →
        w.files.find? p = some node → w'.files.find? p = some node := by
  let new := StoredRule.make (s.surroundings.clock 0) name description rule.text
  have hvalid : new.validate = .ok () := StoredRule.validate_ok_iff.2
    ⟨hname, rule, Rule.parse_text_of_isWritable (Rule.isWritable_of_parse hrule)⟩
  have hadd : store.add new = .ok (store ++ [new]) :=
    RuleStore.add_ok_iff.2 ⟨hfree, hvalid, rfl⟩
  have hcreate : store.create (s.surroundings.clock 0) name description text =
      .ok (new, store ++ [new]) :=
    RuleStore.create_ok_iff.2 ⟨hname, rule, hrule, rfl, hadd⟩
  obtain ⟨t', hsave, hfind, hwritable', hkept⟩ := hwritable.save_ok (store ++ [new])
  have hchange : s.ruleFile.create (s.surroundings.clock 0) name description text w.files =
      (.ok new, t') :=
    RuleFile.change_ok_iff.2 ⟨store, store ++ [new], hload, hcreate, hsave⟩
  have hdated : ∀ r ∈ store ++ [new], r.IsDated := by
    rw [List.forall_mem_append, List.forall_mem_singleton]
    exact ⟨RuleFile.isDated_of_load rfl hload, StoredRule.isDated_make hnow _ _ _⟩
  have hloaded := RuleFile.load_saved hwritable' hfind (StoreFormat.read?_render hdated)
  rw [addRule]
  rw [Procedure.bind_of_ok (Procedure.change_of_ok hchange)]
  rw [say]
  split
  · exact ⟨_, rfl, hloaded, hwritable', hkept⟩
  · exact ⟨_, rfl, hloaded, hwritable', hkept⟩

/-- Going by a stored rule reads it and counts a use, if there is room in the count, and whatever
stood elsewhere still does. -/
theorem chosenRule_stored {store : RuleStore} {name : String} {stored : StoredRule}
    (hload : s.ruleFile.load w.files = .ok store) (hwritable : s.ruleFile.IsWritable w.files)
    (hget : store.get? name = some stored) (hcount : stored.CanCount)
    (hrule : Rule.parse stored.rule = .ok rule) :
    ∃ w', s.chosenRule (.stored name) w = (.ok rule, w') ∧
      ∀ p node, p ≠ s.ruleFile.place → p ≠ s.ruleFile.backupPlace →
        w.files.find? p = some node → w'.files.find? p = some node := by
  have hstored : s.ruleFile.get name w.files = .ok stored := by
    simp only [RuleFile.get, hload, RuleStore.get, hget]
  have hparsed : stored.parsed = .ok rule := by simp only [StoredRule.parsed, hrule]
  let used := store.onRule name (·.used (s.surroundings.clock 0))
  have huse : (store.recordUse (s.surroundings.clock 0) name).map ((), ·) = .ok ((), used) := by
    rw [RuleStore.recordUse_ok_iff.2 ⟨stored, hget, hcount, rfl⟩]
    rfl
  obtain ⟨t', hsave, -, -, hkept⟩ := hwritable.save_ok used
  have hchange : s.ruleFile.recordUse (s.surroundings.clock 0) name w.files = (.ok (), t') :=
    RuleFile.change_ok_iff.2 ⟨store, used, hload, huse, hsave⟩
  refine ⟨{ w with files := t' }, ?_, hkept⟩
  unfold chosenRule
  simp only
  rw [Procedure.bind_of_ok (Procedure.query_of_ok hstored), hparsed]
  show (Procedure.change _ _ >>= fun _ => _) w = _
  rw [Procedure.bind_of_ok (Procedure.change_of_ok hchange)]
  rfl

/-- A filter by a stored rule takes what the rule takes. -/
theorem filtered_stored_fst (h : ∀ t log call, s.surroundings.runner t log call = answer call)
    {store : RuleStore} {name : String} {stored : StoredRule}
    (hload : s.ruleFile.load w.files = .ok store) (hwritable : s.ruleFile.IsWritable w.files)
    (hget : store.get? name = some stored) (hcount : stored.CanCount)
    (hrule : Rule.parse stored.rule = .ok rule)
    (hmessages : Message.load w.files source.path source.formatUsed = .ok messages)
    (hapart : s.ruleFile.IsApart source.path) :
    (s.filtered (.stored name) source w).1 =
      taken (s.context (s.surroundings.clock 1) w.files) rule messages := by
  obtain ⟨w', hchosen, hkept⟩ := chosenRule_stored hload hwritable hget hcount hrule
  have hmessages' : Message.load w'.files source.path source.formatUsed = .ok messages :=
    Message.load_congr hmessages fun bytes => hkept _ _ hapart.1 hapart.2
  rw [filtered_fst h hchosen hmessages', context_eq h _ w'.files w.files]

/-! ### Classifiers -/

/-- The verdicts of a classifier that tries all rules, by the places of the rules that take a
message. -/
theorem labels_eq {ctx : Context} (h : ctx.AnswersByCall answer) (ms : List Message)
    {c : Classifier} {rs : List Rule} (hc : List.Forall₂ Matcher.Uses c rs) (log : CallLog) :
    labels ctx false ms c log =
      (ms.mapM fun m => rs.mapM (Rule.verdict ctx m)).map fun verdicts =>
        verdicts.map fun vs => selected (List.range vs.length) vs := by
  induction ms generalizing c log with
  | nil => rfl
  | cons m ms ih =>
    obtain ⟨c', log', hall, hc'⟩ := Classifier.all_eq h m hc log
    simp only [labels, Bool.false_eq_true, if_false, hall, List.mapM_cons]
    cases rs.mapM (Rule.verdict ctx m) with
    | error e => rfl
    | ok vs =>
      simp only [Except.map, bind, Except.bind, pure, Except.pure, ih hc' log']
      cases ms.mapM fun m => rs.mapM (Rule.verdict ctx m) <;> rfl

/-- What is selected, changed one by one, is selected from what is changed. -/
theorem selected_map {α β : Type} (f : α → β) (l : List α) (vs : List Bool) :
    (selected l vs).map f = selected (l.map f) vs := by
  simp [selected, List.zip_map_left, List.filter_map, Function.comp_def]

/-- What is selected from one more element. -/
theorem selected_concat {α : Type} {l : List α} {vs : List Bool} (h : l.length = vs.length)
    (a : α) (v : Bool) :
    selected (l ++ [a]) (vs ++ [v]) = selected l vs ++ if v then [a] else [] := by
  rw [selected, List.zip_append h, List.filter_append, List.map_append]
  cases v <;> rfl

/-- What is selected is there. -/
theorem mem_of_mem_selected {α : Type} {l : List α} {vs : List Bool} {a : α}
    (h : a ∈ selected l vs) : a ∈ l := by
  obtain ⟨⟨a', v⟩, hmem, rfl⟩ := List.mem_map.1 h
  exact (List.of_mem_zip (List.mem_of_mem_filter hmem)).1

/-- The names of the rules at places are selected from the names. -/
theorem names_selected {rules : RuleSet} {vs : List Bool} (h : vs.length = rules.length) :
    (selected (List.range vs.length) vs).map (fun i => (rules[i]?.bind (·.name)).getD "-") =
      selected (rules.map fun l => l.name.getD "-") vs := by
  have hnames : (List.range rules.length).map (fun i => (rules[i]?.bind (·.name)).getD "-") =
      rules.map fun l => l.name.getD "-" := by
    refine List.ext_getElem (by simp) fun i h₁ h₂ => ?_
    have hi : i < rules.length := by simpa using h₂
    simp [hi]
  rw [selected_map, h, hnames]

/-- The names that the rules of a set give to messages, from the verdicts of the rules. -/
def labelledBy (ctx : Context) (rules : RuleSet) (messages : List Message) :
    Except Program.Fault (Option (List (Message × List String))) :=
  match messages.mapM fun m => (rules.map (·.rule)).mapM (Rule.verdict ctx m) with
  | .error e => .error (.command e)
  | .ok verdicts =>
    .ok (some (messages.zip (verdicts.map fun vs =>
      selected (rules.map fun l => l.name.getD "-") vs)))

/-- A classifier that tries all rules gives the names of the rules that take a message. -/
theorem labelled_fst (h : ∀ t log call, s.surroundings.runner t log call = answer call)
    {rules : RuleSet} (hrules : s.ruleFile.ruleSet [] w.files = .ok rules) (hne : rules ≠ [])
    (hmessages : Message.load w.files source.path source.formatUsed = .ok messages) :
    (s.labelled false source w).1 =
      labelledBy (s.context (s.surroundings.clock 0) w.files) rules messages := by
  have hanswers : (s.context (s.surroundings.clock 0) w.files).AnswersByCall answer := h w.files
  have hload : load source w = (.ok messages, w) := Procedure.query_of_ok hmessages
  have hempty : rules.isEmpty = false := by simpa using hne
  rw [labelled, labelledBy]
  rw [Procedure.bind_of_ok (Procedure.query_of_ok hrules), hempty]
  simp only [Bool.false_eq_true, if_false]
  rw [Procedure.bind_of_ok hload, Procedure.bind_of_ok (Procedure.reading_eq _ w),
    labels_eq hanswers messages (Classifier.uses_ofRules rules)]
  cases hverdicts : messages.mapM fun m =>
      (rules.map (·.rule)).mapM (Rule.verdict (s.context (s.surroundings.clock 0) w.files) m) with
  | error e => rfl
  | ok verdicts =>
    have hnames : (verdicts.map fun vs => selected (List.range vs.length) vs).map (fun ps =>
          ps.map fun i => (rules[i]?.bind (·.name)).getD "-") =
        verdicts.map fun vs => selected (rules.map fun l => l.name.getD "-") vs := by
      rw [List.map_map]
      refine List.map_congr_left fun vs hvs => ?_
      obtain ⟨m, -, hm⟩ := exists_of_mem_mapM hverdicts hvs
      have hlen := (mapM_ok_iff.1 hm).length_eq
      exact names_selected (by simpa using hlen.symm)
    exact congrArg (fun names => Except.ok (some (messages.zip names))) hnames

/-- What a classifier knows of a stored rule: the rule that its text is, and its name. -/
structure Lists (r : StoredRule) (l : ListedRule) : Prop where
  rule : Rule.parse r.rule = .ok l.rule
  name : l.name = some r.name

/-- The rules of a store all of whose rules are accepted. -/
theorem exists_ruleSet {store : RuleStore} (h : ∀ r ∈ store, r.validate = .ok ()) :
    ∃ rules, store.ruleSet [] = .ok rules ∧ List.Forall₂ Lists store rules := by
  have hall : ∀ r ∈ store, ∃ l : ListedRule,
      r.parsed.map (fun rule => (⟨some r.name, r.description, rule⟩ : ListedRule)) = .ok l := by
    intro r hr
    obtain ⟨-, rule, hrule⟩ := StoredRule.validate_ok_iff.1 (h r hr)
    exact ⟨_, by simp only [StoredRule.parsed, hrule]; rfl⟩
  obtain ⟨rules, hrules⟩ := exists_mapM_ok_iff.2 hall
  refine ⟨rules, hrules, (mapM_ok_iff.1 hrules).imp ?_⟩
  intro r l hl
  obtain ⟨rule, hparsed, rfl⟩ := map_ok_iff.1 hl
  rw [StoredRule.parsed] at hparsed
  split at hparsed
  · next hrule =>
    cases hparsed
    exact ⟨hrule, rfl⟩
  · cases hparsed

/-- The names in a set of stored rules. -/
theorem names_of_forall₂ {store : RuleStore} {rules : RuleSet}
    (h : List.Forall₂ Lists store rules) : (rules.map fun l => l.name.getD "-") = store.names := by
  induction h with
  | nil => rfl
  | cons hl _ ih =>
    rw [List.map_cons, ih, hl.name]
    rfl

/-- The messages that a classifier gives the last name to are those that the last rule takes. -/
theorem filter_labelled {ctx : Context} {rs : List Rule} {names : List String} {name : String}
    (hlen : names.length = rs.length) (hfree : name ∉ names) {verdicts : List (List Bool)}
    (h : messages.mapM (fun m => (rs ++ [rule]).mapM (Rule.verdict ctx m)) = .ok verdicts) :
    ∃ bs, messages.mapM (rule.verdict ctx) = .ok bs ∧
      ((messages.zip (verdicts.map fun vs => selected (names ++ [name]) vs)).filter
        (·.2.contains name)).map (·.1) = selected messages bs := by
  rw [mapM_ok_iff] at h
  induction h with
  | nil => exact ⟨[], rfl, rfl⟩
  | @cons m vs ms vss hm _ ih =>
    obtain ⟨bs, hbs, hselected⟩ := ih
    obtain ⟨vs₀, b, hvs₀, hb, rfl⟩ := forall₂_concat_left_iff.1 (mapM_ok_iff.1 hm)
    refine ⟨b :: bs, mapM_ok_iff.2 (.cons hb (mapM_ok_iff.1 hbs)), ?_⟩
    have hlen' : names.length = vs₀.length := hlen.trans hvs₀.length_eq
    have hcontains : (selected (names ++ [name]) (vs₀ ++ [b])).contains name = b := by
      rw [selected_concat hlen', List.contains_append]
      have hold : (selected names vs₀).contains name = false := by
        rw [Bool.eq_false_iff, Ne, List.contains_iff_mem]
        intro hmem
        exact hfree (mem_of_mem_selected hmem)
      rw [hold, Bool.false_or]
      cases b <;> simp
    rw [List.map_cons, List.zip_cons_cons, List.filter_cons, hcontains]
    cases b
    · exact hselected
    · exact congrArg (m :: ·) hselected

/-- A classifier that has an answer gives the last name to the messages that the last rule takes. -/
theorem taken_of_labelledBy {ctx : Context} {rules : RuleSet} {l : ListedRule} {name : String}
    (hname : l.name = some name) (hfree : name ∉ rules.map fun l => l.name.getD "-")
    {labelled : List (Message × List String)}
    (h : labelledBy ctx (rules ++ [l]) messages = .ok (some labelled)) :
    taken ctx l.rule messages =
      .ok ⟨messages, (labelled.filter (·.2.contains name)).map (·.1)⟩ := by
  rw [labelledBy] at h
  split at h
  · cases h
  · next verdicts hverdicts =>
    cases h
    rw [List.map_append, List.map_singleton] at hverdicts
    obtain ⟨bs, hbs, hselected⟩ := filter_labelled (by simp) hfree hverdicts
    rw [taken, hbs, List.map_append, List.map_singleton, hname, Option.getD_some, hselected]

/-! ### All four -/

/-- The session with another clock; every run of the program has its own. -/
def withClock (s : Session) (clock : Nat → Instant) : Session :=
  { s with surroundings := { s.surroundings with clock := clock } }

/-- Whether the text of a stored rule is a rule that has a verdict on a message. -/
def HasVerdict (ctx : Context) (m : Message) (r : StoredRule) : Prop :=
  ∃ rule verdict, Rule.parse r.rule = .ok rule ∧ rule.verdict ctx m = .ok verdict

/-- Whether every rule in a set of stored rules has a verdict. -/
theorem hasVerdict_of_forall₂ {ctx : Context} {m : Message} {store : RuleStore} {rules : RuleSet}
    (h : List.Forall₂ Lists store rules) :
    (∀ l ∈ rules, ∃ verdict, l.rule.verdict ctx m = .ok verdict) ↔
      ∀ r ∈ store, HasVerdict ctx m r := by
  induction h with
  | nil => simp
  | @cons r l store rules hl _ ih =>
    rw [List.forall_mem_cons, List.forall_mem_cons, ih]
    refine and_congr_left fun _ => ?_
    constructor
    · rintro ⟨verdict, hverdict⟩
      exact ⟨l.rule, verdict, hl.rule, hverdict⟩
    · rintro ⟨rule, verdict, hparse, hverdict⟩
      obtain rfl : l.rule = rule := Except.ok.inj (hl.rule.symm.trans hparse)
      exact ⟨verdict, hverdict⟩

/-- A classifier has an answer exactly if every rule of it has a verdict on every message. -/
theorem exists_labelledBy_iff {ctx : Context} {rules : RuleSet} :
    (∃ labelled, labelledBy ctx rules messages = .ok (some labelled)) ↔
      ∀ m ∈ messages, ∀ l ∈ rules, ∃ verdict, l.rule.verdict ctx m = .ok verdict := by
  have hiff : (∃ labelled, labelledBy ctx rules messages = .ok (some labelled)) ↔
      ∃ verdicts, messages.mapM (fun m => (rules.map (·.rule)).mapM (Rule.verdict ctx m)) =
        .ok verdicts := by
    rw [labelledBy]
    cases messages.mapM fun m => (rules.map (·.rule)).mapM (Rule.verdict ctx m) <;> simp
  rw [hiff, exists_mapM_ok_iff]
  refine forall₂_congr fun m _ => ?_
  rw [exists_mapM_ok_iff, List.forall_mem_map]

/-- The four ways to use a rule agree. In a session whose runner looks at the call alone, with a
file of rules that requests have built and that can be written, a rule is added under a name that is
free, at an instant that a timestamp can tell. A filter by its text, a filter by its name and an
extended search for its text then take the same messages, or fail alike. If a classifier has an
answer, it gives the name to exactly these messages, and it has one exactly if every stored rule has
a verdict on every message. -/
theorem entryPoints_agree {store : RuleStore} {text name description : String} {now : Instant}
    {c₁ c₂ c₃ c₄ c₅ : Nat → Instant}
    (hrunner : ∀ t log call, s.surroundings.runner t log call = answer call)
    (hrule : Rule.parse text = .ok rule)
    (hload : s.ruleFile.load w.files = .ok store) (hbuilt : store.Built)
    (hwritable : s.ruleFile.IsWritable w.files)
    (hname : checkName name = .ok ()) (hfree : name ∉ store.names)
    (hmessages : Message.load w.files source.path source.formatUsed = .ok messages)
    (hapart : s.ruleFile.IsApart source.path) (hc₂ : (c₂ 0).IsRegular)
    (hc₁ : c₁ 1 = now) (hc₃ : c₃ 1 = now) (hc₄ : c₄ 0 = now) (hc₅ : c₅ 0 = now) :
    ∃ w', (s.withClock c₂).addRule name text description w = (.ok (), w') ∧
      (∀ v ∈ [w, w'],
        ((s.withClock c₁).filtered (.rule text) source v).1 =
            ((s.withClock c₃).filtered (.stored name) source w').1 ∧
          ((s.withClock c₄).found text (some .extended) source v).1 =
            ((s.withClock c₃).filtered (.stored name) source w').1) ∧
      (∀ labelled, ((s.withClock c₅).labelled false source w').1 = .ok (some labelled) →
        ((s.withClock c₃).filtered (.stored name) source w').1 =
          .ok ⟨messages, (labelled.filter (·.2.contains name)).map (·.1)⟩) ∧
      ((∃ labelled, ((s.withClock c₅).labelled false source w').1 = .ok (some labelled)) ↔
        ∀ m ∈ messages, (∃ verdict, rule.verdict (s.context now w.files) m = .ok verdict) ∧
          ∀ r ∈ store, HasVerdict (s.context now w.files) m r) := by
  subst hc₁
  obtain ⟨w', hadd, hloaded, hwritable', hkept⟩ :=
    addRule_ok (s := s.withClock c₂) hrule hload hwritable hname hfree hc₂
  -- the rule that was added, and what the other commands see of it
  let new := StoredRule.make (c₂ 0) name description rule.text
  have hreparse : Rule.parse new.rule = .ok rule :=
    Rule.parse_text_of_isWritable (Rule.isWritable_of_parse hrule)
  have hget : RuleStore.get? (store ++ [new]) name = some new := by
    have hvalid : new.validate = .ok () := StoredRule.validate_ok_iff.2 ⟨hname, rule, hreparse⟩
    have hadded : store.add new = .ok (store ++ [new]) :=
      RuleStore.add_ok_iff.2 ⟨hfree, hvalid, rfl⟩
    rw [RuleStore.get?_add hadded]
    exact if_pos rfl
  have hcount : new.CanCount := StoredRule.canCount_make _ _ _ _
  have hmessages' : Message.load w'.files source.path source.formatUsed = .ok messages :=
    Message.load_congr hmessages fun bytes => hkept _ _ hapart.1 hapart.2
  have hstored : ((s.withClock c₃).filtered (.stored name) source w').1 =
      taken (s.context (c₁ 1) w.files) rule messages := by
    rw [filtered_stored_fst (s := s.withClock c₃) hrunner hloaded hwritable' hget hcount hreparse
      hmessages' hapart]
    show taken (s.context (c₃ 1) w'.files) rule messages = _
    rw [hc₃, context_eq hrunner (c₁ 1) w'.files w.files]
  -- what the classifier sees
  have hsound : ∀ r ∈ store ++ [new], r.validate = .ok () := by
    rw [List.forall_mem_append]
    refine ⟨hbuilt.isSound.valid, ?_⟩
    rw [List.forall_mem_singleton]
    exact StoredRule.validate_ok_iff.2 ⟨hname, rule, hreparse⟩
  obtain ⟨rules, hrules, hall⟩ := exists_ruleSet hsound
  obtain ⟨rules, l, hstore, hl, rfl⟩ := forall₂_concat_left_iff.1 hall
  obtain rfl : l.rule = rule := Except.ok.inj (hl.rule.symm.trans hreparse)
  have hloaded' : s.ruleFile.load w'.files = .ok (store ++ [new]) := hloaded
  have hset : s.ruleFile.ruleSet [] w'.files = .ok (rules ++ [l]) := by
    rw [RuleFile.ruleSet, hloaded']
    exact hrules
  have hlabelled : ((s.withClock c₅).labelled false source w').1 =
      labelledBy (s.context (c₁ 1) w.files) (rules ++ [l]) messages := by
    rw [labelled_fst (s := s.withClock c₅) hrunner hset (by simp) hmessages']
    show labelledBy (s.context (c₅ 0) w'.files) (rules ++ [l]) messages = _
    rw [hc₅, context_eq hrunner (c₁ 1) w'.files w.files]
  refine ⟨w', hadd, ?_, ?_, ?_⟩
  · intro v hv
    have hmessagesᵥ : Message.load v.files source.path source.formatUsed = .ok messages := by
      rcases List.mem_pair.1 hv with rfl | rfl
      · exact hmessages
      · exact hmessages'
    rw [hstored]
    constructor
    · rw [filtered_text_fst (s := s.withClock c₁) hrunner hrule hmessagesᵥ]
      show taken (s.context (c₁ 1) v.files) l.rule messages = _
      rw [context_eq hrunner (c₁ 1) v.files w.files]
    · rw [found_fst (s := s.withClock c₄) hrunner hrule hmessagesᵥ]
      show taken (s.context (c₄ 0) v.files) l.rule messages = _
      rw [hc₄, context_eq hrunner (c₁ 1) v.files w.files]
  · intro labelled hlabels
    rw [hlabelled] at hlabels
    rw [hstored]
    refine taken_of_labelledBy hl.name ?_ hlabels
    rw [names_of_forall₂ hstore]
    exact hfree
  · rw [hlabelled, exists_labelledBy_iff]
    refine forall₂_congr fun m _ => ?_
    rw [List.forall_mem_append, List.forall_mem_singleton, hasVerdict_of_forall₂ hstore, and_comm]

/-! ### A rule on the date beside another rule -/

/-- A session in which every command succeeds and the clock stands still. -/
def sample : Session where
  surroundings :=
    { environment := [], configDirectory := ⟨"home"⟩, input := "", clock := fun _ => .ofEpoch 0 0,
      colours := false, runner := fun _ _ _ => .exited 0 }
  settings := {}
  quiet := true

/-- The files of the sample: one with messages. -/
def sampleWorld (mail : String) : World where
  files := ⟨[(["m.json"], .file (FileTree.ofText mail))]⟩

/-- Where the sample takes its messages from. -/
def sampleSource : MessageSource := ⟨⟨"m.json"⟩, none, false⟩

/-- A stored rule that gives the date of every message to a command. -/
def dated : StoredRule := .make (.ofEpoch 0 0) "dated" "" "X \"echo %d\" & N"

/-- A stored rule on the subject. -/
def far : StoredRule := .make (.ofEpoch 0 0) "far" "" "s \"far\""

/-- The rule of `dated`. -/
def datedRule : Rule := ⟨[⟨false, .command "echo %d"⟩, ⟨false, .status .new⟩], .all, by simp⟩

/-- The rule of `far`. -/
def farRule : Rule := ⟨[⟨false, .text .subject .plain "far"⟩], .all, by simp⟩

/-- A store with `dated` is built by one request. -/
theorem built_dated : RuleStore.Built [dated] := by
  have hcreate : RuleStore.create [] (.ofEpoch 0 0) "dated" "" "X \"echo %d\" & N" =
      .ok (dated, [dated]) := by decide +kernel
  exact .step .empty (.create hcreate)

/-- The clock of the sample. -/
theorem isRegular_sample : (sample.surroundings.clock 0).IsRegular :=
  ⟨by decide +kernel, by decide +kernel⟩

/-- The rules of the sample can be written. -/
theorem isWritable_sample (mail : String) :
    sample.ruleFile.IsWritable (sampleWorld mail).files where
  named := by decide +kernel
  notDirectory := by decide +kernel
  isOpen p hp bytes h := by
    have hdown : FileTree.downTo sample.ruleFile.directory =
        [[], ["home"], ["home", "mailmatch"]] := by decide +kernel
    rw [← FileTree.mem_downTo, hdown] at hp
    simp only [List.mem_cons, List.not_mem_nil, or_false] at hp
    rcases hp with rfl | rfl | rfl <;> cases h
  place := by
    have hplace : sample.ruleFile.place = ["home", "mailmatch", "rules.toml"] := by decide +kernel
    rw [hplace]
    simp [sampleWorld, FileTree.find?, List.lookup_cons]
  backup := by
    have hplace : sample.ruleFile.backupPlace = ["home", "mailmatch", "rules.toml.backup"] := by
      decide +kernel
    rw [hplace]
    simp [sampleWorld, FileTree.find?, List.lookup_cons]

/-- Messages are loaded from the sample. -/
theorem load_sample {mail : String} (h : Message.listOfText .json mail = .ok messages) :
    Message.load (sampleWorld mail).files sampleSource.path sampleSource.formatUsed =
      .ok messages := by
  have hread : (sampleWorld mail).files.read sampleSource.path = .ok mail := by
    have hplace : FileTree.resolve sampleSource.path.components = ["m.json"] := by decide +kernel
    have hfile : sampleSource.path.text ≠ "" ∧ sampleSource.path.asksDirectory = false := by
      decide +kernel
    simp [FileTree.read, FileTree.bytesAt, hplace, hfile, sampleWorld, FileTree.find?,
      FileTree.text?_ofText]
  have hformat : sampleSource.formatUsed = .json := by decide +kernel
  rw [Message.load, hread, hformat]
  exact h

/-- The files of the sample with `dated` in the store. -/
theorem exists_added_dated {mail : String} (h : Message.listOfText .json mail = .ok messages) :
    ∃ w, sample.addRule "dated" "X \"echo %d\" & N" "" (sampleWorld mail) = (.ok (), w) ∧
      sample.ruleFile.load w.files = .ok [dated] ∧ sample.ruleFile.IsWritable w.files ∧
      Message.load w.files sampleSource.path sampleSource.formatUsed = .ok messages := by
  have hrule : Rule.parse "X \"echo %d\" & N" = .ok datedRule := by decide +kernel
  have hload : sample.ruleFile.load (sampleWorld mail).files = .ok [] := rfl
  have hname : checkName "dated" = .ok () := by decide +kernel
  obtain ⟨w, hadd, hloaded, hwritable, hkept⟩ :=
    addRule_ok (s := sample) hrule hload (isWritable_sample mail) hname (by simp [RuleStore.names])
      isRegular_sample
  have hdated : StoredRule.make (.ofEpoch 0 0) "dated" "" datedRule.text = dated := by
    decide +kernel
  refine ⟨w, hadd, hdated ▸ hloaded, hwritable, ?_⟩
  exact Message.load_congr (load_sample h) fun bytes => hkept _ _ (by decide +kernel)
    (by decide +kernel)

/-- Beside `dated`, the rule `far` is met alike by all four if no message has a date. -/
theorem entryPoints_agree_far :
    ∃ w w', sample.addRule "dated" "X \"echo %d\" & N" ""
        (sampleWorld "[\x7b\"subject\":\"far\"\x7d,\x7b\"subject\":\"near\"\x7d]") = (.ok (), w) ∧
      sample.addRule "far" "s far" "" w = (.ok (), w') ∧
      (sample.filtered (.rule "s far") sampleSource w).1 =
        (sample.filtered (.stored "far") sampleSource w').1 ∧
      (sample.found "s far" (some .extended) sampleSource w).1 =
        (sample.filtered (.stored "far") sampleSource w').1 ∧
      ∃ labelled, (sample.labelled false sampleSource w').1 = .ok (some labelled) ∧
        (sample.filtered (.stored "far") sampleSource w').1 =
          .ok ⟨[{ subject := some "far" }, { subject := some "near" }],
            (labelled.filter (·.2.contains "far")).map (·.1)⟩ := by
  have hmail : Message.listOfText .json
      "[\x7b\"subject\":\"far\"\x7d,\x7b\"subject\":\"near\"\x7d]" =
        .ok [{ subject := some "far" }, { subject := some "near" }] := by decide +kernel
  obtain ⟨w, hdated, hload, hwritable, hmessages⟩ := exists_added_dated hmail
  have hrule : Rule.parse "s far" = .ok farRule := by decide +kernel
  have hname : checkName "far" = .ok () := by decide +kernel
  have hfree : "far" ∉ RuleStore.names [dated] := by decide +kernel
  have hclock : sample.surroundings.clock 0 = sample.surroundings.clock 1 := rfl
  obtain ⟨w', hadd, hboth, hlabels, hanswers⟩ :=
    entryPoints_agree (s := sample) (fun _ _ _ => rfl) hrule hload built_dated hwritable hname
      hfree hmessages (by decide +kernel) isRegular_sample
      hclock.symm hclock.symm rfl rfl
  obtain ⟨hfilter, hsearch⟩ := hboth w List.mem_cons_self
  -- what the verdicts depend on does not include the files
  let ctx := sample.context (sample.surroundings.clock 1) .empty
  have hverdicts : ∀ m ∈ [({ subject := some "far" } : Message), { subject := some "near" }],
      (∃ verdict, farRule.verdict ctx m = .ok verdict) ∧
        ∃ verdict, datedRule.verdict ctx m = .ok verdict := by decide +kernel
  have hdatedRule : Rule.parse dated.rule = .ok datedRule := by decide +kernel
  obtain ⟨labelled, hlabelled⟩ := hanswers.2 fun m hm => by
    obtain ⟨hfar, verdict, hverdict⟩ := hverdicts m hm
    refine ⟨hfar, fun r hr => ?_⟩
    obtain rfl := List.mem_singleton.1 hr
    exact ⟨datedRule, verdict, hdatedRule, hverdict⟩
  exact ⟨w, w', hdated, hadd, hfilter, hsearch, labelled, hlabelled, hlabels labelled hlabelled⟩

/-- A message from the year 10000 and one without a date. -/
def farAndNear : String :=
  "[\x7b\"subject\":\"far\",\"date\":\"+10000-01-01T00:00:00Z\"\x7d,\x7b\"subject\":\"near\"\x7d]"

/-- The classifier need not have an answer where the others do: the year 10000 has no date in mail
headers, and the rule that asks for it is not the one that was added. -/
theorem labelled_error_beside_filtered :
    let remote : Message := { subject := some "far", date := some ⟨2932897, 0, 0⟩ }
    let taken : Except Program.Fault Selection :=
      .ok ⟨[remote, { subject := some "near" }], [remote]⟩
    ∃ w w', sample.addRule "dated" "X \"echo %d\" & N" "" (sampleWorld farAndNear) = (.ok (), w) ∧
      sample.addRule "far" "s far" "" w = (.ok (), w') ∧
      (sample.filtered (.rule "s far") sampleSource w').1 = taken ∧
      (sample.filtered (.stored "far") sampleSource w').1 = taken ∧
      (sample.found "s far" (some .extended) sampleSource w').1 = taken ∧
      (sample.labelled false sampleSource w').1 = .error (.command .unwritableDate) := by
  intro remote taken
  have hmail : Message.listOfText .json farAndNear = .ok [remote, { subject := some "near" }] := by
    decide +kernel
  obtain ⟨w, hdated, hload, hwritable, hmessages⟩ := exists_added_dated hmail
  have hrule : Rule.parse "s far" = .ok farRule := by decide +kernel
  have hname : checkName "far" = .ok () := by decide +kernel
  have hfree : "far" ∉ RuleStore.names [dated] := by decide +kernel
  have hanswer : ∀ t log call, sample.surroundings.runner t log call = .exited 0 :=
    fun _ _ _ => rfl
  obtain ⟨w', hadd, hloaded, hwritable', hkept⟩ :=
    addRule_ok (s := sample) hrule hload hwritable hname hfree isRegular_sample
  have hmessages' : Message.load w'.files sampleSource.path sampleSource.formatUsed =
      .ok [remote, { subject := some "near" }] :=
    Message.load_congr hmessages fun bytes => hkept _ _ (by decide +kernel) (by decide +kernel)
  have htaken : Session.taken (sample.context (.ofEpoch 0 0) .empty) farRule
      [remote, { subject := some "near" }] = taken := by decide +kernel
  refine ⟨w, w', hdated, hadd, ?_, ?_, ?_, ?_⟩
  · exact (filtered_text_fst hanswer hrule hmessages').trans htaken
  · have hget : RuleStore.get?
        ([dated] ++ [.make (sample.surroundings.clock 0) "far" "" farRule.text]) "far" =
          some far := by decide +kernel
    have hfar : Rule.parse far.rule = .ok farRule := by decide +kernel
    have hcount : far.CanCount := by decide +kernel
    have hapart : sample.ruleFile.IsApart sampleSource.path := by decide +kernel
    exact (filtered_stored_fst hanswer hloaded hwritable' hget hcount hfar hmessages'
      hapart).trans htaken
  · exact (found_fst hanswer hrule hmessages').trans htaken
  · have hrules : sample.ruleFile.ruleSet [] w'.files =
        .ok [⟨some "dated", "", datedRule⟩, ⟨some "far", "", farRule⟩] := by
      rw [RuleFile.ruleSet, hloaded]
      decide +kernel
    have hlabelled : labelledBy (sample.context (.ofEpoch 0 0) .empty)
        [⟨some "dated", "", datedRule⟩, ⟨some "far", "", farRule⟩]
        [remote, { subject := some "near" }] = .error (.command .unwritableDate) := by
      decide +kernel
    exact (labelled_fst hanswer hrules (by simp) hmessages').trans hlabelled

end Session

end MailFilter.Program
