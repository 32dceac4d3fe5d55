import MailFilter.Store.RuleStore

/-!
# What Every Rule Store Keeps

The requests to a rule store are steps from one store to the next (`RuleStore.Step`), and the stores
that requests make out of an empty one are the ones that are `Built`. In every such store a name
stands for one rule only, and every rule has a valid name and a text that is a rule
(`RuleStore.IsSound`). A file that was written by hand need not be like that.

Each request adds a rule at the end, takes one out, or changes one in its place. So there is one
lemma for each of these three, and the requests only have to say what they add or change. An import
adds and replaces rules one after the other, and what it does with one of them is settled by the
name that the rule gets at its turn (`Import.nameFor`).

## Main results

* `IsSound.append`, `IsSound.onRule`, `IsSound.sublist`: what adding, changing and taking out keep.
* `Import.step_ok_iff`: exactly what taking over one rule does.
* `IsSound.step`: every request keeps it.
* `Built.isSound`: every store that was built is sound.
-/

namespace MailFilter.RuleStore

open Calendar (Instant)

/-- Names that stand for one rule each, and rules that are accepted. -/
structure IsSound (s : RuleStore) : Prop where
  nodup : s.names.Nodup
  valid : ∀ r ∈ s, r.validate = .ok ()

/-- A store without rules. -/
theorem isSound_nil : IsSound [] := ⟨List.nodup_nil, by simp⟩

variable {s s' : RuleStore} {r : StoredRule} {name : String}

/-! ### Adding, changing and taking out -/

/-- Adding a rule appends it, under a name that is free. -/
theorem add_ok_iff : s.add r = .ok s' ↔
    r.name ∉ s.names ∧ r.validate = .ok () ∧ s' = s ++ [r] := by
  rw [add]
  split
  · next hc => simp [contains_iff.1 hc]
  · next hc =>
    rw [contains_iff] at hc
    split
    · next e he => simp [he]
    · next he => simp [he, hc, eq_comm]

/-- Adding a rule under a free name keeps names distinct. -/
theorem nodup_append (h : s.names.Nodup) (hr : r.name ∉ s.names) : (names (s ++ [r])).Nodup := by
  rw [names, List.map_append, List.nodup_append]
  refine ⟨h, by simp, ?_⟩
  rintro name hname _ hlast rfl
  obtain rfl : name = r.name := List.mem_singleton.1 hlast
  exact hr hname

/-- A rule at the end keeps a store sound, if it is accepted and its name is free. -/
theorem IsSound.append (h : s.IsSound) (hnew : r.name ∉ s.names) (hvalid : r.validate = .ok ()) :
    IsSound (s ++ [r]) :=
  ⟨nodup_append h.nodup hnew,
    List.forall_mem_append.2 ⟨h.valid, List.forall_mem_singleton.2 hvalid⟩⟩

/-- Adding a rule keeps a store sound. -/
theorem IsSound.add (h : s.IsSound) (ha : s.add r = .ok s') : s'.IsSound := by
  obtain ⟨hnew, hvalid, rfl⟩ := add_ok_iff.1 ha
  exact h.append hnew hvalid

/-- Taking rules out keeps a store sound. -/
theorem IsSound.sublist (h : s.IsSound) (hs : s'.Sublist s) : s'.IsSound :=
  ⟨h.nodup.sublist (hs.map _), fun r hr => h.valid r (hs.subset hr)⟩

/-- The rules after a change to one of them. -/
theorem mem_onRule {f : StoredRule → StoredRule} (h : r ∈ s.onRule name f) :
    r ∈ s ∨ ∃ r₀ ∈ s, r₀.name = name ∧ r = f r₀ := by
  induction s with
  | nil => cases h
  | cons r₀ s ih =>
    rw [onRule] at h
    split at h
    · next hn =>
      rcases List.mem_cons.1 h with rfl | hr
      · exact .inr ⟨r₀, List.mem_cons_self, hn, rfl⟩
      · exact .inl (List.mem_cons_of_mem r₀ hr)
    · rcases List.mem_cons.1 h with rfl | hr
      · exact .inl List.mem_cons_self
      · rcases ih hr with hr | ⟨r₁, hr₁, hn, rfl⟩
        · exact .inl (List.mem_cons_of_mem r₀ hr)
        · exact .inr ⟨r₁, List.mem_cons_of_mem r₀ hr₁, hn, rfl⟩

/-- Where names are distinct, all rules of a name are changed. -/
theorem onRule_eq_map {f : StoredRule → StoredRule} (h : s.names.Nodup) :
    s.onRule name f = s.map fun r => if r.name = name then f r else r := by
  induction s with
  | nil => rfl
  | cons r s ih =>
    obtain ⟨hr, hs⟩ := List.nodup_cons.1 h
    rw [onRule, List.map_cons]
    split
    · next hn =>
      have hrest : ∀ r' ∈ s, (if r'.name = name then f r' else r') = r' := fun r' hr' =>
        if_neg fun hn' => hr (List.mem_map.2 ⟨r', hr', hn'.trans hn.symm⟩)
      rw [List.map_congr_left hrest, List.map_id']
    · rw [ih hs]

/-- Where names are distinct, the rules after a change to one of them are that one and the rules of
other names. -/
theorem mem_onRule_of_nodup {f : StoredRule → StoredRule} (h : s.names.Nodup)
    (hr : r ∈ s.onRule name f) :
    r ∈ s ∧ r.name ≠ name ∨ ∃ r₀ ∈ s, r₀.name = name ∧ r = f r₀ := by
  rw [onRule_eq_map h] at hr
  obtain ⟨r₀, hr₀, rfl⟩ := List.mem_map.1 hr
  split
  · next hn => exact .inr ⟨r₀, hr₀, hn, rfl⟩
  · next hn => exact .inl ⟨hr₀, hn⟩

/-- Changing a rule keeps names distinct, if its name is the old one or a free one afterwards. -/
theorem nodup_onRule {f : StoredRule → StoredRule} (hnodup : s.names.Nodup)
    (hname : ∀ r ∈ s, r.name = name → (f r).name = name ∨ (f r).name ∉ s.names) :
    (s.onRule name f).names.Nodup := by
  induction s with
  | nil => exact hnodup
  | cons r₀ s ih =>
    rw [names, List.map_cons, List.nodup_cons] at hnodup
    obtain ⟨hr₀, hs⟩ := hnodup
    rw [RuleStore.onRule]
    split
    · next hn =>
      have hnew : (f r₀).name ∉ names s := by
        rcases hname r₀ List.mem_cons_self hn with hf | hf
        · rwa [hf, ← hn]
        · exact fun hmem => hf (List.mem_cons_of_mem _ hmem)
      exact List.nodup_cons.2 ⟨hnew, hs⟩
    · next hn =>
      have hname' : ∀ r ∈ s, r.name = name → (f r).name = name ∨ (f r).name ∉ names s :=
        fun r hr hrn => (hname r (List.mem_cons_of_mem r₀ hr) hrn).imp_right fun hf hmem =>
          hf (List.mem_cons_of_mem _ hmem)
      refine List.nodup_cons.2 ⟨fun hmem => ?_, ih hs hname'⟩
      obtain ⟨r, hr, hrn⟩ := List.mem_map.1 hmem
      rcases mem_onRule hr with hr | ⟨r₁, hr₁, hn₁, rfl⟩
      · exact hr₀ (List.mem_map.2 ⟨r, hr, hrn⟩)
      · -- the changed rule cannot have the name of the rule in front of it
        rcases hname r₁ (List.mem_cons_of_mem r₀ hr₁) hn₁ with hf | hf
        · exact hn (hrn.symm.trans hf)
        · exact hf (List.mem_map.2 ⟨r₀, List.mem_cons_self, hrn.symm⟩)

/-- Changing a rule keeps a store sound, if the changed rule is accepted and its name is the old one
or a free one. -/
theorem IsSound.onRule {f : StoredRule → StoredRule} (h : s.IsSound)
    (hname : ∀ r ∈ s, r.name = name → (f r).name = name ∨ (f r).name ∉ s.names)
    (hvalid : ∀ r ∈ s, r.name = name → (f r).validate = .ok ()) : (s.onRule name f).IsSound := by
  refine ⟨nodup_onRule h.nodup hname, ?_⟩
  intro r hr
  rcases mem_onRule hr with hr | ⟨r₀, hr₀, hn, rfl⟩
  · exact h.valid r hr
  · exact hvalid r₀ hr₀ hn

/-! ### Requests -/

/-- A name is accepted for a rule exactly if it is valid. -/
theorem checkRuleName_ok_iff :
    StoredRule.checkRuleName name = .ok () ↔ checkName name = .ok () := by
  rw [StoredRule.checkRuleName]
  cases checkName name <;> simp

/-- A rule is made from a name that is valid and a text that is a rule, in canonical form. -/
theorem create_ok_iff {now : Instant} {description text : String} :
    s.create now name description text = .ok (r, s') ↔
      checkName name = .ok () ∧ ∃ rule, Rule.parse text = .ok rule ∧
        r = .make now name description rule.text ∧ s.add r = .ok s' := by
  constructor
  · intro h
    rw [create] at h
    split at h
    · cases h
    · next hn =>
      split at h
      · cases h
      · next rule hp =>
        obtain ⟨s₁, ha, hpair⟩ := map_ok_iff.1 h
        cases hpair
        exact ⟨checkRuleName_ok_iff.1 hn, rule, hp, rfl, ha⟩
  · rintro ⟨hn, rule, hp, rfl, ha⟩
    simp only [create, checkRuleName_ok_iff.2 hn, hp, ha, Except.map]

/-- A rule is replaced if it is accepted and its name is there. -/
theorem update_ok_iff : s.update r = .ok s' ↔
    r.validate = .ok () ∧ r.name ∈ s.names ∧ s' = s.onRule r.name fun _ => r := by
  rw [update]
  split
  · next e he => simp [he]
  · next he =>
    split
    · next hc => simp [he, contains_iff.1 hc, eq_comm]
    · next hc => simp [he, mt contains_iff.2 hc]

/-- A rule that is there gets another name if that is valid and free. -/
theorem rename_ok_iff {new : String} : s.rename name new = .ok s' ↔
    checkName new = .ok () ∧ new ∉ s.names ∧ name ∈ s.names ∧
      s' = s.onRule name fun r => { r with name := new } := by
  rw [← checkRuleName_ok_iff, rename]
  split
  · next e he => simp [he]
  · next he =>
    split
    · next hnew => simp [contains_iff.1 hnew]
    · next hnew =>
      split
      · next hold => simp [he, mt contains_iff.2 hnew, contains_iff.1 hold, eq_comm]
      · next hold => simp [mt contains_iff.2 hold]

/-- A use is counted of a rule that is there and has room for it in its count. -/
theorem recordUse_ok_iff {now : Instant} : s.recordUse now name = .ok s' ↔
    ∃ r, s.get? name = some r ∧ r.CanCount ∧ s' = s.onRule name (·.used now) := by
  rw [recordUse]
  cases s.get? name with
  | none => simp
  | some r =>
    by_cases hcount : r.CanCount
    · simp [hcount, eq_comm]
    · simp [hcount]

/-! ### Taking over one rule -/

namespace Import

variable {now : Instant} {collision : Collision} {i i' : Import} {listed : ListedRule}

/-- The name that the next rule of a document gets. -/
def nameFor (i : Import) (listed : ListedRule) : String :=
  listed.name.getD (generatedName (i.store.freeNumber i.lastNumber))

/-- The last number of a generated name, after the next rule of a document has got its name. -/
def lastFor (i : Import) (listed : ListedRule) : Nat :=
  if listed.name = none then i.store.freeNumber i.lastNumber else i.lastNumber

/-- The rule that is made of the next rule of a document. -/
def copyOf (i : Import) (now : Instant) (listed : ListedRule) : StoredRule :=
  .make now (i.nameFor listed) listed.description listed.rule.text

@[simp]
theorem name_copyOf (i : Import) (now : Instant) (listed : ListedRule) :
    (i.copyOf now listed).name = i.nameFor listed := rfl

/-- Exactly what taking over one rule does. -/
theorem step_ok_iff : i.step now collision listed = .ok i' ↔
    i.nameFor listed ∈ i.store.names ∧
        (collision = .skip ∧
            i' = ⟨i.store, i.imported, i.skipped + 1, i.lastFor listed⟩ ∨
          collision = .overwrite ∧ (i.copyOf now listed).validate = .ok () ∧
            i' = ⟨i.store.onRule (i.nameFor listed) fun _ => i.copyOf now listed, i.imported + 1,
              i.skipped, i.lastFor listed⟩) ∨
      i.nameFor listed ∉ i.store.names ∧ (i.copyOf now listed).validate = .ok () ∧
        i' = ⟨i.store ++ [i.copyOf now listed], i.imported + 1, i.skipped, i.lastFor listed⟩ := by
  have hstep : i.step now collision listed =
      if i.store.contains (i.nameFor listed) then
        if collision = .skip then .ok ⟨i.store, i.imported, i.skipped + 1, i.lastFor listed⟩
        else if collision = .overwrite then
          (i.store.update (i.copyOf now listed)).map fun s =>
            ⟨s, i.imported + 1, i.skipped, i.lastFor listed⟩
        else .error (.alreadyExists (i.nameFor listed))
      else (i.store.add (i.copyOf now listed)).map fun s =>
        ⟨s, i.imported + 1, i.skipped, i.lastFor listed⟩ := by
    rw [step, copyOf, nameFor, lastFor]
    cases listed.name <;> cases collision <;> rfl
  rw [hstep]
  by_cases htaken : i.nameFor listed ∈ i.store.names
  · rw [if_pos (contains_iff.2 htaken)]
    cases collision with
    | refuse => simp [htaken]
    | skip => simp [htaken, eq_comm]
    | overwrite =>
      simp only [map_ok_iff, update_ok_iff, reduceCtorEq, if_true, if_false]
      simp only [name_copyOf, htaken, and_assoc, exists_and_left, exists_eq_left, true_and,
        false_and, false_or, not_true_eq_false, or_false, eq_comm]
  · rw [if_neg (mt contains_iff.1 htaken)]
    simp only [map_ok_iff, add_ok_iff]
    simp only [name_copyOf, htaken, and_assoc, exists_and_left, exists_eq_left, true_and, false_and,
      false_or, not_false_eq_true, eq_comm]

end Import

/-! ### Requests to sound stores -/

/-- Taking a rule out leaves some of the others. -/
theorem sublist_of_remove (h : s.remove name = .ok (r, s')) : s'.Sublist s := by
  rw [remove, remove?] at h
  cases hg : s.get? name with
  | none =>
    rw [hg] at h
    cases h
  | some r₀ =>
    rw [hg] at h
    cases h
    exact List.eraseP_sublist

/-- Replacing a rule keeps a store sound. -/
theorem IsSound.update (h : s.IsSound) (hu : s.update r = .ok s') : s'.IsSound := by
  obtain ⟨hvalid, -, rfl⟩ := update_ok_iff.1 hu
  exact h.onRule (fun _ _ _ => .inl rfl) fun _ _ _ => hvalid

/-- Another name keeps a store sound. -/
theorem IsSound.rename {new : String} (h : s.IsSound) (hr : s.rename name new = .ok s') :
    s'.IsSound := by
  obtain ⟨hname, hfree, -, rfl⟩ := rename_ok_iff.1 hr
  refine h.onRule (fun _ _ _ => .inr hfree) fun r hr _ => ?_
  have hparsed := (StoredRule.validate_ok_iff.1 (h.valid r hr)).2
  exact StoredRule.validate_ok_iff.2 ⟨hname, hparsed⟩

/-- A use keeps a store sound. -/
theorem IsSound.recordUse {now : Instant} (h : s.IsSound) (hr : s.recordUse now name = .ok s') :
    s'.IsSound := by
  obtain ⟨-, -, -, rfl⟩ := recordUse_ok_iff.1 hr
  exact h.onRule (fun _ _ hn => .inl hn) fun r hr _ => h.valid r hr

/-- Taking over one rule keeps a store sound. -/
theorem IsSound.importStep {now : Instant} {collision : Collision} {i i' : Import}
    {listed : ListedRule} (h : i.store.IsSound) (hi : i.step now collision listed = .ok i') :
    i'.store.IsSound := by
  rcases Import.step_ok_iff.1 hi with ⟨-, ⟨-, rfl⟩ | ⟨-, hvalid, rfl⟩⟩ | ⟨hfree, hvalid, rfl⟩
  · exact h
  · exact h.onRule (fun _ _ _ => .inl rfl) fun _ _ _ => hvalid
  · exact h.append hfree hvalid

/-- Taking over rules keeps a store sound. -/
theorem IsSound.importRun {collision : Collision} {clock : Nat → Instant} {i i' : Import}
    {rules : RuleSet} (h : i.store.IsSound) (hi : Import.run collision clock i rules = .ok i') :
    i'.store.IsSound := by
  induction rules generalizing clock i with
  | nil =>
    cases hi
    exact h
  | cons listed rules ih =>
    rw [Import.run] at hi
    split at hi
    · cases hi
    · next i₁ hstep => exact ih (h.importStep hstep) hi

/-! ### Stores that were built -/

/-- One request that was granted, from a store to the next. -/
inductive Step (s : RuleStore) : RuleStore → Prop
  | create {now : Instant} {name description text : String} {r : StoredRule} {s' : RuleStore} :
      s.create now name description text = .ok (r, s') → Step s s'
  | update {r : StoredRule} {s' : RuleStore} : s.update r = .ok s' → Step s s'
  | remove {name : String} {r : StoredRule} {s' : RuleStore} :
      s.remove name = .ok (r, s') → Step s s'
  | rename {old new : String} {s' : RuleStore} : s.rename old new = .ok s' → Step s s'
  | recordUse {now : Instant} {name : String} {s' : RuleStore} :
      s.recordUse now name = .ok s' → Step s s'
  | importRules {clock : Nat → Instant} {collision : Collision} {rules : RuleSet} {i : Import} :
      s.importRules clock collision rules = .ok i → Step s i.store

/-- The stores that requests make out of an empty one. -/
inductive Built : RuleStore → Prop
  | empty : Built []
  | step {s s' : RuleStore} : Built s → Step s s' → Built s'

/-- Every request keeps a store sound. -/
theorem IsSound.step (h : s.IsSound) (hs : Step s s') : s'.IsSound := by
  cases hs with
  | create hc =>
    obtain ⟨-, rule, -, -, ha⟩ := create_ok_iff.1 hc
    exact h.add ha
  | update hu => exact h.update hu
  | remove hr => exact h.sublist (sublist_of_remove hr)
  | rename hr => exact h.rename hr
  | recordUse hr => exact h.recordUse hr
  | importRules hi => exact IsSound.importRun (i := ⟨s, 0, 0, 0⟩) h hi

/-- Every store that was built is sound. -/
theorem Built.isSound (h : Built s) : s.IsSound := by
  induction h with
  | empty => exact isSound_nil
  | step _ hs ih => exact ih.step hs

end MailFilter.RuleStore
