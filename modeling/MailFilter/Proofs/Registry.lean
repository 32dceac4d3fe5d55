import MailFilter.Proofs.Calls

/-!
# One List of Rules

Every call to a file of rules reads the file, and a call that changes the rules writes it again. To
its callers the file is one list of rules with distinct names all the same (`Registry`): the answers
of all calls are those that the list gives, and after every call the list is what is read.

A registry says for itself what calls do: a rule is appended, all rules of a name are changed in
their places, or the rules that do not have a name are kept. The names are part of the type, so
there is never more than one rule of a name. A use of a rule whose count is the largest that there
is cannot be counted in either of them.

## Main results

* `RuleStore.eraseP_eq_filter`: the first rule of a name is the only one.
* `Registry.Change.step_eq`: a change of the store is one of the registry.
* `Registry.Call.perform_eq`: a call to the file is one to the registry.
* `Registry.trace_eq`: so are all calls, from a file that is missing on.
-/

namespace MailFilter

open Calendar (Instant)
open RuleFile (Answer Request)

/-! ### Rules with distinct names -/

namespace RuleStore

variable {s : RuleStore} {name : String}

/-- Where names are distinct, all rules of a name are taken out. -/
theorem eraseP_eq_filter (h : s.names.Nodup) :
    s.eraseP (·.name == name) = s.filter fun r => r.name ≠ name := by
  induction s with
  | nil => rfl
  | cons r s ih =>
    obtain ⟨hr, hs⟩ := List.nodup_cons.1 h
    by_cases hn : r.name = name
    · have hrest : ∀ r' ∈ s, decide (r'.name ≠ name) = true := fun r' hr' =>
        decide_eq_true fun hn' => hr (List.mem_map.2 ⟨r', hr', hn'.trans hn.symm⟩)
      rw [List.eraseP_cons_of_pos (by simpa using hn), List.filter_cons_of_neg (by simpa using hn),
        List.filter_eq_self.2 hrest]
    · rw [List.eraseP_cons_of_neg (by simpa using hn), List.filter_cons_of_pos (by simpa using hn),
        ih hs]

end RuleStore

/-! ### Registries -/

/-- An ordered list of rules with distinct names. -/
structure Registry where
  rules : List StoredRule
  nodup : (rules.map (·.name)).Nodup

namespace Registry

/-- No rules. -/
def empty : Registry := ⟨[], List.nodup_nil⟩

/-- The names of the rules. -/
def names (g : Registry) : List String := g.rules.map (·.name)

/-- The rule of a name. -/
def find? (g : Registry) (name : String) : Option StoredRule := g.rules.find? (·.name = name)

/-- Adds a rule with a new name at the end. -/
def append (g : Registry) (r : StoredRule) (h : r.name ∉ g.names) : Registry where
  rules := g.rules ++ [r]
  nodup := RuleStore.nodup_append g.nodup h

/-- Changes the rule of a name in its place. It keeps the name or gets a new one. -/
def modify (g : Registry) (name : String) (change : StoredRule → StoredRule)
    (h : ∀ r ∈ g.rules, r.name = name → (change r).name = name ∨ (change r).name ∉ g.names) :
    Registry where
  rules := g.rules.map fun r => if r.name = name then change r else r
  nodup := by
    rw [← RuleStore.onRule_eq_map g.nodup]
    exact RuleStore.nodup_onRule g.nodup h

/-- Takes the rule of a name out. -/
def erase (g : Registry) (name : String) : Registry where
  rules := g.rules.filter fun r => r.name ≠ name
  nodup := g.nodup.sublist (List.filter_sublist.map _)

/-- A rule after one more use. -/
def counted (now : Instant) (r : StoredRule) : StoredRule :=
  { r with useCount := r.useCount + 1, lastUsed := now }

/-! ### Calls -/

/-- What may change a registry. -/
inductive Change where
  | create (now : Instant) (name description text : String)
  | update (r : StoredRule)
  | delete (name : String)
  | rename (old new : String)
  | recordUse (now : Instant) (name : String)

/-- What a change answers, and the registry after it. -/
def Change.run (g : Registry) : Change → Except StoreFault (Answer × Registry)
  | create now name description text =>
    match checkName name with
    | .error e => .error (.invalidName name e)
    | .ok () =>
      match Rule.parse text with
      | .error e => .error (.invalidRule e)
      | .ok rule =>
        if h : name ∈ g.names then .error (.alreadyExists name)
        else
          let r : StoredRule := ⟨name, description, now, now, 0, rule.text⟩
          .ok (.rule r, g.append r h)
  | update r =>
    match checkName r.name with
    | .error e => .error (.invalidName r.name e)
    | .ok () =>
      match Rule.parse r.rule with
      | .error e => .error (.invalidRule e)
      | .ok _ =>
        if r.name ∈ g.names then
          .ok (.done, g.modify r.name (fun _ => r) fun _ _ _ => .inl rfl)
        else .error (.notFound r.name)
  | delete name =>
    match g.find? name with
    | none => .error (.notFound name)
    | some r => .ok (.rule r, g.erase name)
  | rename old new =>
    match checkName new with
    | .error e => .error (.invalidName new e)
    | .ok () =>
      if h : new ∈ g.names then .error (.alreadyExists new)
      else if old ∈ g.names then
        .ok (.done, g.modify old (fun r => { r with name := new }) fun _ _ _ => .inr h)
      else .error (.notFound old)
  | recordUse now name =>
    match g.find? name with
    | none => .error (.notFound name)
    | some r =>
      if r.useCount.toNat < 2 ^ 32 - 1 then
        .ok (.done, g.modify name (counted now) fun _ _ hr => .inl hr)
      else .error (.countFull name)

/-- A call to a registry. -/
inductive Call where
  | change (c : Change)
  | get (name : String)
  | list
  | ruleSet (names : List String)

/-- The rule of a name, which must be there. -/
def get (g : Registry) (name : String) : Except StoreFault StoredRule :=
  match g.find? name with
  | some r => .ok r
  | none => .error (.notFound name)

/-- The rules of several names in the order of the names, or all rules. -/
def chosen (g : Registry) (names : List String) : Except StoreFault (List StoredRule) :=
  if names = [] then .ok g.rules else names.mapM g.get

/-- The rules of several names, or all rules, as a rule set. -/
def ruleSet (g : Registry) (names : List String) : Except StoreFault RuleSet :=
  match g.chosen names with
  | .error e => .error e
  | .ok rules => rules.mapM fun r => r.parsed.map fun rule => ⟨some r.name, r.description, rule⟩

/-- What a call answers, and the registry after it. A change that is refused changes nothing. -/
def Call.run (g : Registry) : Call → Except StoreFault Answer × Registry
  | change c =>
    match c.run g with
    | .ok (a, g) => (.ok a, g)
    | .error e => (.error e, g)
  | get name => ((g.get name).map .rule, g)
  | list => (.ok (.rules g.rules), g)
  | ruleSet names => ((g.ruleSet names).map .set, g)

/-- What calls answer one after the other, each with the rules after it. -/
def trace (g : Registry) : List Call → List (Except StoreFault Answer × List StoredRule)
  | [] => []
  | c :: cs => ((c.run g).1, (c.run g).2.rules) :: trace (c.run g).2 cs

/-! ### Calls to a file -/

/-- The request to a file of rules that makes a change. -/
def Change.request : Change → Request
  | create now name description text => .create now name description text
  | update r => .update r
  | delete name => .delete name
  | rename old new => .rename old new
  | recordUse now name => .recordUse now name

/-- The call to a file of rules. -/
def Call.toFile : Call → RuleFile.Call
  | change c => .request c.request
  | get name => .get name
  | list => .list
  | ruleSet names => .ruleSet names

/-- Whether the instants of a call are regular. -/
def Call.IsDated : Call → Prop
  | change c => c.request.IsDated
  | _ => True

end Registry

/-- What calls to a file answer one after the other, each with what is read after it. -/
def RuleFile.trace (f : RuleFile) (t : FileTree) :
    List RuleFile.Call → List (Except StoreFault Answer × Except StoreFault RuleStore)
  | [] => []
  | c :: cs => ((c.perform f t).1, f.load (c.perform f t).2) :: trace f (c.perform f t).2 cs

namespace Registry

variable {g : Registry}

/-- A name is taken in the store exactly if it is in the registry. -/
theorem contains_iff {name : String} : RuleStore.contains g.rules name = true ↔ name ∈ g.names :=
  RuleStore.contains_iff

/-- The store and the registry find the same rules. -/
theorem get?_rules (name : String) : RuleStore.get? g.rules name = g.find? name := by
  rw [RuleStore.get?, find?]
  exact congrArg (g.rules.find? ·) (funext fun r => (Bool.beq_eq_decide_eq r.name name))

/-- The store and the registry find the same rules. -/
theorem get_rules (name : String) : RuleStore.get g.rules name = g.get name := by
  cases hfind : g.find? name with
  | none => simp only [RuleStore.get, get, get?_rules, hfind]
  | some r => simp only [RuleStore.get, get, get?_rules, hfind]

/-- A change of the store is one of the registry. -/
theorem Change.step_eq (t : FileTree) (g : Registry) (c : Change) :
    c.request.step t g.rules = (c.run g).map fun x => (x.1, x.2.rules) := by
  cases c with
  | create now name description text =>
    simp only [request, Request.step, RuleStore.create, run, StoredRule.checkRuleName]
    cases hname : checkName name with
    | error e => rfl
    | ok _ =>
      cases hparse : Rule.parse text with
      | error e => rfl
      | ok rule =>
        have hvalid : (StoredRule.make now name description rule.text).validate = .ok () :=
          StoredRule.validate_ok_iff.2
            ⟨hname, rule, Rule.parse_text_of_isWritable (Rule.isWritable_of_parse hparse)⟩
        by_cases htaken : name ∈ g.names
        · simp [RuleStore.add, StoredRule.make, contains_iff.2 htaken, htaken, Except.map]
        · have hadd : RuleStore.add g.rules (.make now name description rule.text) = .ok _ :=
            RuleStore.add_ok_iff.2 ⟨htaken, hvalid, rfl⟩
          simp only [hadd, dif_neg htaken, Except.map]
          rfl
  | update r =>
    simp only [request, Request.step, RuleStore.update, run, StoredRule.validate,
      StoredRule.checkRuleName, StoredRule.parsed]
    cases checkName r.name with
    | error e => rfl
    | ok _ =>
      cases Rule.parse r.rule with
      | error e => rfl
      | ok rule =>
        by_cases hname : r.name ∈ g.names
        · simp [contains_iff.2 hname, hname, Except.map, modify, RuleStore.onRule_eq_map g.nodup]
        · simp [mt contains_iff.1 hname, hname, Except.map]
  | delete name =>
    simp only [request, Request.step, RuleStore.remove, RuleStore.remove?, get?_rules, run]
    cases g.find? name with
    | none => rfl
    | some r => simp [Except.map, erase, RuleStore.eraseP_eq_filter g.nodup]
  | rename old new =>
    simp only [request, Request.step, RuleStore.rename, run, StoredRule.checkRuleName]
    cases checkName new with
    | error e => rfl
    | ok _ =>
      by_cases hnew : new ∈ g.names
      · simp [contains_iff.2 hnew, hnew, Except.map]
      · by_cases hold : old ∈ g.names
        · simp [mt contains_iff.1 hnew, contains_iff.2 hold, hnew, hold, Except.map, modify,
            RuleStore.onRule_eq_map g.nodup]
        · simp [mt contains_iff.1 hnew, mt contains_iff.1 hold, hnew, hold, Except.map]
  | recordUse now name =>
    simp only [request, Request.step, RuleStore.recordUse, get?_rules, run]
    cases g.find? name with
    | none => rfl
    | some r =>
      by_cases hcount : r.CanCount
      · have hfits : r.useCount.toNat < 2 ^ 32 - 1 := Nat.lt_sub_of_add_lt hcount
        simp only [if_pos hcount, if_pos hfits, Except.map, modify,
          RuleStore.onRule_eq_map g.nodup]
        rfl
      · have hfull : ¬ r.useCount.toNat < 2 ^ 32 - 1 := fun h => hcount (Nat.add_lt_of_lt_sub h)
        simp only [if_neg hcount, if_neg hfull, Except.map]

/-- The store and the registry list the same rules. -/
theorem ruleSet_rules (names : List String) :
    RuleStore.ruleSet g.rules names = g.ruleSet names := by
  have hget : RuleStore.get g.rules = g.get := funext get_rules
  rw [RuleStore.ruleSet, RuleStore.select, ruleSet, chosen, hget]
  simp only [List.isEmpty_iff]
  rfl

variable {f : RuleFile} {t : FileTree}

/-- A call to a file that holds the rules of a registry is a call to the registry. -/
theorem Call.perform_eq (hf : f.format = .toml) (hw : f.IsWritable t)
    (hload : f.load t = .ok g.rules) {c : Call} (hc : c.IsDated) :
    (c.toFile.perform f t).1 = (c.run g).1 ∧
      f.load (c.toFile.perform f t).2 = .ok (c.run g).2.rules ∧
      f.IsWritable (c.toFile.perform f t).2 := by
  cases c with
  | get name =>
    have hget : f.get name t = g.get name := by
      rw [RuleFile.get, hload]
      exact get_rules name
    exact ⟨congrArg (Except.map Answer.rule) hget, hload, hw⟩
  | list => exact ⟨congrArg (Except.map Answer.rules) hload, hload, hw⟩
  | ruleSet names =>
    have hset : f.ruleSet names t = g.ruleSet names := by
      rw [RuleFile.ruleSet, hload]
      exact ruleSet_rules names
    exact ⟨congrArg (Except.map Answer.set) hset, hload, hw⟩
  | change c =>
    have hstep := Change.step_eq t g c
    rw [toFile, RuleFile.Call.perform, Request.perform_eq, run]
    cases hrun : c.run g with
    | error e =>
      rw [hrun] at hstep
      rw [RuleFile.change_of_refused hload hstep]
      exact ⟨rfl, hload, hw⟩
    | ok x =>
      rw [hrun] at hstep
      obtain ⟨t', hsave, hfile, hw', -⟩ := hw.save_ok x.2.rules
      have happly : c.request.apply t g.rules = .ok x.2.rules := by
        rw [Request.apply_eq_step, hstep]
        rfl
      have hdated : ∀ r ∈ x.2.rules, r.IsDated :=
        Request.forall_mem_apply happly (RuleFile.isDated_of_load hf hload)
          (Request.IsDated.keeps hc)
      rw [RuleFile.change_ok_iff.2 ⟨g.rules, x.2.rules, hload, hstep, hsave⟩]
      refine ⟨rfl, RuleFile.load_saved hw' hfile ?_, hw'⟩
      rw [hf, StoreFormat.read?_render hdated]

/-- Calls to a file that holds the rules of a registry are calls to the registry. -/
theorem trace_eq (hf : f.format = .toml) (hw : f.IsWritable t) (hload : f.load t = .ok g.rules)
    {cs : List Call} (hcs : ∀ c ∈ cs, c.IsDated) :
    f.trace t (cs.map Call.toFile) = (g.trace cs).map fun x => (x.1, .ok x.2) := by
  induction cs generalizing g t with
  | nil => rfl
  | cons c cs ih =>
    obtain ⟨hc, hcs⟩ := List.forall_mem_cons.1 hcs
    obtain ⟨hanswer, hload', hw'⟩ := Call.perform_eq hf hw hload hc
    rw [List.map_cons, RuleFile.trace, trace, List.map_cons, ih hw' hload' hcs, hanswer, hload']

/-- A use counts one, as long as the number fits into the word for it, and changes nothing but the
count and the instant of the last use. -/
theorem counted_eq {now : Instant} {r : StoredRule} (h : r.useCount.toNat < 2 ^ 32 - 1) :
    ∃ n : UInt32, n.toNat = r.useCount.toNat + 1 ∧
      counted now r = { r with useCount := n, lastUsed := now } := by
  refine ⟨r.useCount + 1, ?_, rfl⟩
  rw [UInt32.toNat_add]
  have hone : (1 : UInt32).toNat = 1 := rfl
  omega

/-- Whatever calls are made of a file that was missing and can be written, the answers and what is
stored after each call are those of one list of rules with distinct names. In that list a use counts
one, as long as the number fits. -/
theorem trace_eq_of_missing (hf : f.format = .toml) (hw : f.IsWritable t)
    (hmissing : t.contains f.path = false) {cs : List Call} (hcs : ∀ c ∈ cs, c.IsDated) :
    f.trace t (cs.map Call.toFile) = (empty.trace cs).map (fun x => (x.1, .ok x.2)) ∧
      ∀ now r, r.useCount.toNat < 2 ^ 32 - 1 →
        ∃ n : UInt32, n.toNat = r.useCount.toNat + 1 ∧
          counted now r = { r with useCount := n, lastUsed := now } :=
  ⟨trace_eq hf hw (RuleFile.load_of_missing hmissing) hcs, fun _ _ => counted_eq⟩

/-- Two rules are added, one of them twice; one is used, gets another name and is used again; the
other one is taken out. -/
theorem trace_eq_of_missing_used :
    let f : RuleFile := ⟨⟨"rules.toml"⟩, true, .toml⟩
    let rule (name : String) (lastUsed : Instant) (count : UInt32) : StoredRule :=
      ⟨name, "", ⟨0, 0, 0⟩, lastUsed, count, "U"⟩
    let calls : List Call := [.change (.create ⟨0, 0, 0⟩ "a" "" "U"),
      .change (.create ⟨0, 0, 0⟩ "b" "" "U"), .change (.create ⟨0, 0, 0⟩ "a" "" "N"),
      .change (.recordUse ⟨1, 0, 0⟩ "a"), .change (.rename "a" "c"), .get "a",
      .change (.recordUse ⟨2, 0, 0⟩ "c"), .change (.delete "b")]
    f.trace .empty (calls.map Call.toFile) =
      [(.ok (.rule (rule "a" ⟨0, 0, 0⟩ 0)), .ok [rule "a" ⟨0, 0, 0⟩ 0]),
        (.ok (.rule (rule "b" ⟨0, 0, 0⟩ 0)), .ok [rule "a" ⟨0, 0, 0⟩ 0, rule "b" ⟨0, 0, 0⟩ 0]),
        (.error (.alreadyExists "a"), .ok [rule "a" ⟨0, 0, 0⟩ 0, rule "b" ⟨0, 0, 0⟩ 0]),
        (.ok .done, .ok [rule "a" ⟨1, 0, 0⟩ 1, rule "b" ⟨0, 0, 0⟩ 0]),
        (.ok .done, .ok [rule "c" ⟨1, 0, 0⟩ 1, rule "b" ⟨0, 0, 0⟩ 0]),
        (.error (.notFound "a"), .ok [rule "c" ⟨1, 0, 0⟩ 1, rule "b" ⟨0, 0, 0⟩ 0]),
        (.ok .done, .ok [rule "c" ⟨2, 0, 0⟩ 2, rule "b" ⟨0, 0, 0⟩ 0]),
        (.ok (.rule (rule "b" ⟨0, 0, 0⟩ 0)), .ok [rule "c" ⟨2, 0, 0⟩ 2])] := by
  intro f rule calls
  have hw : f.IsWritable .empty :=
    RuleFile.isWritable_empty (by decide +kernel) (by decide +kernel)
  have hregular : ∀ day : Int, Calendar.isDayInRange day = true →
      (⟨day, 0, 0⟩ : Instant).IsRegular := fun _ hday =>
    ⟨hday, fun hnano => absurd (show Calendar.nanosPerSecond ≤ 0 from hnano) (by decide)⟩
  have hcalls : ∀ c ∈ calls, c.IsDated := by
    simp only [calls, List.forall_mem_cons]
    exact ⟨hregular 0 (by decide +kernel), hregular 0 (by decide +kernel),
      hregular 0 (by decide +kernel), hregular 1 (by decide +kernel), trivial, trivial,
      hregular 2 (by decide +kernel), trivial, by simp⟩
  rw [(trace_eq_of_missing rfl hw (by decide +kernel) hcalls).1]
  decide +kernel

end Registry

end MailFilter
