import MailFilter.Proofs.Imports
import MailFilter.Proofs.Transfer
import Mathlib.Data.List.Forall2

/-!
# What an Import Leaves Alone

An import goes through a document rule by rule, over a store that grows under it. Where there is a
rule of the name that the next one gets, that is left out or takes its place, and else it is added
at the end. So the store is at every turn what was there before, some of it replaced in its place,
and behind it the rules that were added, in the order of the document (`Import.Accounts`).

A rule that the import has added may be replaced by a later rule of the document that asks for its
name. So what is said of the added rules is where their names come from, and that their contents
come from the same rule or from one that asks for that name.

## Main results

* `Import.Accounts.step`, `Import.Accounts.run`: what is kept, added and counted by one rule, and by
  all of them.
* `RuleFile.importRules_accounts`: the same for a file of rules.
-/

namespace MailFilter

open Calendar (Instant)

namespace RuleStore

/-! ### What is kept and what is added -/

/-- A stored rule that has just been made of a rule of a document. -/
def IsMadeOf (listed : ListedRule) (r : StoredRule) : Prop :=
  ∃ now, r = .make now r.name listed.description listed.rule.text

/-- A stored rule that has taken the place of another one, for a rule of the document that asks for
its name. Only an import that overwrites puts one there. -/
def IsReplacement (collision : Collision) (rules : RuleSet) (r : StoredRule) : Prop :=
  collision = .overwrite ∧ ∃ listed ∈ rules, listed.name = some r.name ∧ IsMadeOf listed r

/-- What is left of a rule that was there: itself, or a replacement under the same name. -/
def IsKept (collision : Collision) (rules : RuleSet) (r r' : StoredRule) : Prop :=
  r' = r ∨ r'.name = r.name ∧ IsReplacement collision rules r'

/-- What a rule of a document is added as: under the name it asks for or a generated one, and made
of it or of a replacement. -/
def IsAdded (collision : Collision) (rules : RuleSet) (listed : ListedRule) (r : StoredRule) :
    Prop :=
  (listed.name = some r.name ∨ listed.name = none ∧ ∃ number, r.name = generatedName number) ∧
    (IsMadeOf listed r ∨ IsReplacement collision rules r)

variable {s kept added : RuleStore} {collision : Collision} {done rules : RuleSet}
  {listed : ListedRule} {r r' : StoredRule} {now : Instant} {i i' : Import}

/-- A rule that is left of another one has its name. -/
theorem IsKept.name_eq (h : IsKept collision done r r') : r'.name = r.name := by
  rcases h with rfl | ⟨hname, -⟩
  · rfl
  · exact hname

/-- A replacement stays one while the import goes on. -/
theorem IsReplacement.concat (h : IsReplacement collision done r) (listed : ListedRule) :
    IsReplacement collision (done ++ [listed]) r := by
  obtain ⟨hoverwrite, source, hmem, hsource⟩ := h
  exact ⟨hoverwrite, source, List.mem_append_left _ hmem, hsource⟩

/-- What is left of a rule stays so. -/
theorem IsKept.concat (h : IsKept collision done r r') (listed : ListedRule) :
    IsKept collision (done ++ [listed]) r r' :=
  h.imp_right fun hreplaced => ⟨hreplaced.1, hreplaced.2.concat listed⟩

/-- What a rule has been added as stays so. -/
theorem IsAdded.concat {source : ListedRule} (h : IsAdded collision done source r)
    (listed : ListedRule) : IsAdded collision (done ++ [listed]) source r :=
  ⟨h.1, h.2.imp_right fun hreplaced => hreplaced.concat listed⟩

/-- A stored rule, or another one in its place if that has the same name. -/
def replacedBy (new r : StoredRule) : StoredRule := if r.name = new.name then new else r

/-- What is left of a rule may be replaced. -/
theorem IsKept.replaced {new : StoredRule} (h : IsKept collision done r r')
    (hnew : IsReplacement collision done new) : IsKept collision done r (replacedBy new r') := by
  rw [replacedBy]
  split
  · next hname => exact .inr ⟨hname.symm.trans h.name_eq, hnew⟩
  · exact h

/-- What a rule has been added as may be replaced. -/
theorem IsAdded.replaced {new : StoredRule} (h : IsAdded collision done listed r)
    (hnew : IsReplacement collision done new) :
    IsAdded collision done listed (replacedBy new r) := by
  rw [replacedBy]
  split
  · next hname => exact ⟨hname ▸ h.1, .inr hnew⟩
  · exact h

/-- The rule that is made of the next rule of a document. -/
theorem isMadeOf_copyOf (i : Import) (now : Instant) (listed : ListedRule) :
    IsMadeOf listed (i.copyOf now listed) := ⟨now, rfl⟩

/-- Where a name is taken and the import overwrites, the rule that is made is a replacement. -/
theorem isReplacement_copyOf (h : i.nameFor listed ∈ i.store.names) :
    IsReplacement .overwrite (done ++ [listed]) (i.copyOf now listed) :=
  ⟨rfl, listed, by simp, Import.name_eq_of_taken h, isMadeOf_copyOf i now listed⟩

/-- How far an import has come: what the store was, some of it replaced in its place, then the rules
that were added, in the order of the document, and the counts. -/
structure Import.Accounts (s : RuleStore) (collision : Collision) (done : RuleSet) (i : Import)
    (kept added : RuleStore) : Prop where
  store : i.store = kept ++ added
  nodup : i.store.names.Nodup
  kept : List.Forall₂ (IsKept collision done) s kept
  added : ∃ sources, sources.Sublist done ∧
    List.Forall₂ (IsAdded collision done) sources added
  total : i.imported + i.skipped = done.length
  skipped : collision ≠ .skip → i.skipped = 0

/-- Nothing has been taken over yet. -/
theorem Import.accounts_start (h : s.names.Nodup) :
    Import.Accounts s collision [] ⟨s, 0, 0, 0⟩ s [] where
  store := by simp
  nodup := h
  kept := List.forall₂_same.2 fun _ _ => .inl rfl
  added := ⟨[], List.Sublist.refl _, .nil⟩
  total := rfl
  skipped := fun _ => rfl

/-- Taking over one more rule. -/
theorem Import.Accounts.step (h : Import.Accounts s collision done i kept added)
    (hi : i.step now collision listed = .ok i') :
    ∃ kept' added', Import.Accounts s collision (done ++ [listed]) i' kept' added' := by
  have hkept := h.kept.imp fun _ _ hr => hr.concat listed
  obtain ⟨sources, hsources, hadded⟩ := h.added
  have hadded := hadded.imp fun _ _ hr => hr.concat listed
  have hsources' : sources.Sublist (done ++ [listed]) :=
    hsources.trans (List.sublist_append_left done [listed])
  have htotal := h.total
  rcases Import.step_ok_iff.1 hi with ⟨htaken, ⟨hskip, rfl⟩ | ⟨rfl, -, rfl⟩⟩ | ⟨hfree, -, rfl⟩
  · exact ⟨kept, added, {
      store := h.store
      nodup := h.nodup
      kept := hkept
      added := ⟨sources, hsources', hadded⟩
      total := by simp only [List.length_append, List.length_singleton]; omega
      skipped := fun hne => absurd hskip hne }⟩
  · -- the rule of the name is among the kept or the added ones, and is replaced there
    have hnew : IsReplacement .overwrite (done ++ [listed]) (i.copyOf now listed) :=
      isReplacement_copyOf htaken
    have hstore : i.store.onRule (i.nameFor listed) (fun _ => i.copyOf now listed) =
        kept.map (replacedBy (i.copyOf now listed)) ++
          added.map (replacedBy (i.copyOf now listed)) := by
      rw [onRule_eq_map h.nodup, ← List.map_append, ← h.store]
      rfl
    exact ⟨kept.map (replacedBy (i.copyOf now listed)),
      added.map (replacedBy (i.copyOf now listed)), {
        store := hstore
        nodup := by simpa only [i.names_replaced now listed] using h.nodup
        kept := List.forall₂_map_right_iff.2 (hkept.imp fun _ _ hr => hr.replaced hnew)
        added := ⟨sources, hsources',
          List.forall₂_map_right_iff.2 (hadded.imp fun _ _ hr => hr.replaced hnew)⟩
        total := by simp only [List.length_append, List.length_singleton]; omega
        skipped := h.skipped }⟩
  · have hname : listed.name = some (i.copyOf now listed).name ∨
        listed.name = none ∧ ∃ number, (i.copyOf now listed).name = generatedName number :=
      (i.nameFor_cases listed).imp_right fun hgenerated => ⟨hgenerated.1, _, hgenerated.2.1⟩
    have hlast : IsAdded collision (done ++ [listed]) listed (i.copyOf now listed) :=
      ⟨hname, .inl (isMadeOf_copyOf i now listed)⟩
    exact ⟨kept, added ++ [i.copyOf now listed], {
      store := by rw [h.store, List.append_assoc]
      nodup := nodup_append h.nodup hfree
      kept := hkept
      added := ⟨sources ++ [listed], hsources.append (List.Sublist.refl _),
        List.rel_append hadded (.cons hlast .nil)⟩
      total := by simp only [List.length_append, List.length_singleton]; omega
      skipped := h.skipped }⟩

/-- Taking over the rules that are left. -/
theorem Import.Accounts.run {clock : Nat → Instant}
    (h : Import.Accounts s collision done i kept added)
    (hi : Import.run collision clock i rules = .ok i') :
    ∃ kept' added', Import.Accounts s collision (done ++ rules) i' kept' added' := by
  induction rules generalizing clock i done kept added with
  | nil =>
    cases hi
    exact ⟨kept, added, by rwa [List.append_nil]⟩
  | cons listed rules ih =>
    rw [Import.run] at hi
    split at hi
    · cases hi
    · next i₁ hstep =>
      obtain ⟨kept₁, added₁, h₁⟩ := h.step hstep
      rw [List.append_cons]
      exact ih h₁ hi

/-- A rule for whose name the document does not ask is left as it was, and without overwriting so is
every rule. -/
theorem IsKept.eq (h : IsKept collision rules r r')
    (hr : collision ≠ .overwrite ∨ ∀ listed ∈ rules, listed.name ≠ some r.name) : r' = r := by
  refine h.resolve_right ?_
  rintro ⟨hname, hoverwrite, listed, hmem, hlisted, -⟩
  rcases hr with hr | hr
  · exact hr hoverwrite
  · exact hr listed hmem (hname ▸ hlisted)

/-- The names of the rules that were there stay in order. -/
theorem Import.Accounts.names_kept (h : Import.Accounts s collision done i kept added) :
    names kept = s.names := by
  have hpairs : List.Forall₂ (· = ·) s.names (names kept) :=
    List.forall₂_map_left_iff.2 (List.forall₂_map_right_iff.2
      (h.kept.imp fun _ _ hr => hr.name_eq.symm))
  rw [List.forall₂_eq_eq_eq] at hpairs
  exact hpairs.symm

/-- Without overwriting, the rules that were there stay as they were. -/
theorem Import.Accounts.kept_eq (h : Import.Accounts s collision done i kept added)
    (hne : collision ≠ .overwrite) : kept = s := by
  have hpairs : List.Forall₂ (· = ·) s kept :=
    h.kept.imp fun _ _ hr => (hr.eq (.inl hne)).symm
  rw [List.forall₂_eq_eq_eq] at hpairs
  exact hpairs.symm

end RuleStore

/-! ### In a file -/

namespace RuleFile

open FileTree (resolve)
open RuleStore (Collision IsAdded generatedName)

variable {f : RuleFile} {t t' : FileTree} {clock : Nat → Instant} {source : Path}
  {collision : Collision}

/-- An import succeeds where the rules and the document are read, the rules of the document are
taken over, and the store that comes of it is written. -/
theorem importRules_ok_iff {imported skipped : Nat} :
    f.importRules clock source collision t = (.ok (imported, skipped), t') ↔
      ∃ s text rules i, f.load t = .ok s ∧ t.read source = .ok text ∧
        RuleSet.ofDocument text = .ok rules ∧ s.importRules clock collision rules = .ok i ∧
        i.imported = imported ∧ i.skipped = skipped ∧ f.save i.store t = (.ok (), t') := by
  unfold importRules
  constructor
  · intro h
    split at h
    · cases h
    next s hload =>
    split at h
    · cases h
    next text hread =>
    split at h
    · cases h
    next rules hdocument =>
    split at h
    · cases h
    next i himport =>
    unfold saving at h
    split at h
    · next hsave =>
      cases h
      exact ⟨s, text, rules, i, hload, hread, hdocument, himport, rfl, rfl, hsave⟩
    · cases h
  · rintro ⟨s, text, rules, i, hload, hread, hdocument, himport, rfl, rfl, hsave⟩
    simp only [hload, hread, hdocument, himport, saving, hsave]

/-- The search for a generated name ends, after one more than there are rules at most. An import
that succeeds counts every rule of the document. The rules that were there come first, under the
same names in the same order; the document changes those only for whose names it asks, and without
overwriting none. The rules that were added follow in the order of the document. -/
theorem importRules_accounts (f : RuleFile) (clock : Nat → Instant) (collision : Collision) :
    (∀ (s : RuleStore) (last : Nat), ∃ passed ≤ s.length,
      s.freeNumber last = last + 1 + passed ∧ generatedName (s.freeNumber last) ∉ s.names ∧
        ∀ i < passed, generatedName (last + 1 + i) ∈ s.names) ∧
    ∀ {t t' : FileTree} {s : RuleStore} {source : Path} {text : String} {rules : RuleSet}
      {imported skipped : Nat}, f.load t = .ok s → s.names.Nodup → t.read source = .ok text →
      RuleSet.ofDocument text = .ok rules →
      f.importRules clock source collision t = (.ok (imported, skipped), t') →
      imported + skipped = rules.length ∧ (collision ≠ .skip → skipped = 0) ∧
      ∃ kept sources added : List _, f.save (kept ++ added) t = (.ok (), t') ∧
        (RuleStore.names (kept ++ added)).Nodup ∧ RuleStore.names kept = s.names ∧
        (collision ≠ .overwrite → kept = s) ∧
        List.Forall₂ (fun r r' => (∀ listed ∈ rules, listed.name ≠ some r.name) → r' = r) s kept ∧
        sources.Sublist rules ∧ List.Forall₂ (IsAdded collision rules) sources added := by
  refine ⟨RuleStore.exists_passed, ?_⟩
  intro t t' s source text rules imported skipped hload hnodup hread hdocument himport
  obtain ⟨s₁, text₁, rules₁, i, hload₁, hread₁, hdocument₁, hi, rfl, rfl, hsave⟩ :=
    importRules_ok_iff.1 himport
  obtain rfl : s = s₁ := Except.ok.inj (hload.symm.trans hload₁)
  obtain rfl : text = text₁ := Except.ok.inj (hread.symm.trans hread₁)
  obtain rfl : rules = rules₁ := Except.ok.inj (hdocument.symm.trans hdocument₁)
  obtain ⟨kept, added, h⟩ := (RuleStore.Import.accounts_start hnodup).run hi
  rw [List.nil_append] at h
  obtain ⟨sources, hsources, hadded⟩ := h.added
  exact ⟨h.total, h.skipped, kept, sources, added, h.store ▸ hsave, h.store ▸ h.nodup,
    h.names_kept, h.kept_eq, h.kept.imp fun _ _ hr hasked => hr.eq (.inr hasked), hsources, hadded⟩

/-- A file of rules and a document beside it. -/
def filesOf (s : RuleStore) (text : String) : FileTree :=
  ⟨[(["rules.toml"], .file (FileTree.ofText (StoreFormat.toml.render s))),
    (["in.txt"], .file (FileTree.ofText text))]⟩

/-- Both can be read, and the rules can be written. -/
theorem read_filesOf {s : RuleStore} (text : String) (h : ∀ r ∈ s, r.IsDated) :
    (rootFile "rules.toml").load (filesOf s text) = .ok s ∧
      (filesOf s text).read ⟨"in.txt"⟩ = .ok text ∧
      (rootFile "rules.toml").IsWritable (filesOf s text) := by
  have hplaces : (rootFile "rules.toml").place = ["rules.toml"] ∧
      (rootFile "rules.toml").backupPlace = ["rules.toml.backup"] ∧
      resolve (Path.mk "in.txt").components = ["in.txt"] := by decide +kernel
  obtain ⟨hfile, hbackup, hsource⟩ := hplaces
  have hwritable : (rootFile "rules.toml").IsWritable (filesOf s text) :=
    ⟨by decide +kernel, by decide +kernel, isOpen_of_eq_nil (by decide +kernel),
      by simp [hfile, filesOf, FileTree.find?],
      by simp [hbackup, filesOf, FileTree.find?, List.lookup_cons]⟩
  refine ⟨load_saved hwritable ?_ (StoreFormat.read?_render h), ?_, hwritable⟩
  · rw [hfile]
    simp [filesOf, rootFile, FileTree.find?]
  · refine FileTree.read_of_file (by decide +kernel) (by decide +kernel) ?_
    simp [hsource, filesOf, FileTree.find?, List.lookup_cons]

/-- An import of the document into the rules comes to what it comes to in the store. -/
theorem importRules_filesOf {s s' : RuleStore} {text : String} {rules : RuleSet}
    {imported skipped : Nat} (h : ∀ r ∈ s, r.IsDated)
    (hdocument : RuleSet.ofDocument text = .ok rules)
    (himport : (s.importRules clock collision rules).map
      (fun i => (i.store, i.imported, i.skipped)) = .ok (s', imported, skipped)) :
    ∃ t', (rootFile "rules.toml").importRules clock ⟨"in.txt"⟩ collision (filesOf s text) =
        (.ok (imported, skipped), t') ∧
      (rootFile "rules.toml").save s' (filesOf s text) = (.ok (), t') := by
  obtain ⟨hload, hread, hwritable⟩ := read_filesOf text h
  obtain ⟨i, hi, hcounts⟩ := map_ok_iff.1 himport
  simp only [Prod.mk.injEq] at hcounts
  obtain ⟨rfl, himported, hskipped⟩ := hcounts
  obtain ⟨t', hsave, -⟩ := hwritable.save_ok i.store
  exact ⟨t', importRules_ok_iff.2 ⟨s, text, rules, i, hload, hread, hdocument, hi, himported,
    hskipped, hsave⟩, hsave⟩

/-- An import that replaces one of two rules and adds one with a generated name. -/
theorem importRules_accounts_overwriting :
    let stored : RuleStore := [⟨"a", "", ⟨0, 0, 0⟩, ⟨0, 0, 0⟩, 3, "N"⟩,
      ⟨"rule-1", "", ⟨0, 0, 0⟩, ⟨0, 0, 0⟩, 0, "U"⟩]
    let text := "# new\nU\nrule-1: N\n"
    let f := rootFile "rules.toml"
    let t := filesOf stored text
    ∃ t' rules kept sources added, f.load t = .ok stored ∧ t.read ⟨"in.txt"⟩ = .ok text ∧
      RuleSet.ofDocument text = .ok rules ∧
      f.importRules (fun _ => ⟨7, 0, 0⟩) ⟨"in.txt"⟩ .overwrite t = (.ok (2, 0), t') ∧
      f.save (kept ++ added) t = (.ok (), t') ∧ RuleStore.names kept = ["a", "rule-1"] ∧
      kept.head? = stored.head? ∧ sources.Sublist rules ∧
      List.Forall₂ (IsAdded .overwrite rules) sources added := by
  intro stored text f t
  have hdated : ∀ r ∈ stored, r.IsDated := List.forall_mem_cons.2
    ⟨⟨isRegular_zero, isRegular_zero⟩, List.forall_mem_singleton.2 ⟨isRegular_zero, isRegular_zero⟩⟩
  obtain ⟨hload, hread, -⟩ := read_filesOf text hdated
  let rules : RuleSet := [⟨none, "new", ⟨[⟨false, .status .unread⟩], .all, by simp⟩⟩,
    ⟨some "rule-1", "", ⟨[⟨false, .status .new⟩], .all, by simp⟩⟩]
  have hdocument : RuleSet.ofDocument text = .ok rules := by decide +kernel
  obtain ⟨t', himport, -⟩ : ∃ t', f.importRules (fun _ => ⟨7, 0, 0⟩) ⟨"in.txt"⟩ .overwrite t =
      (.ok (2, 0), t') ∧ f.save [⟨"a", "", ⟨0, 0, 0⟩, ⟨0, 0, 0⟩, 3, "N"⟩,
        .make ⟨7, 0, 0⟩ "rule-1" "" "N", .make ⟨7, 0, 0⟩ "rule-2" "new" "U"] t = (.ok (), t') :=
    importRules_filesOf hdated hdocument (by decide +kernel)
  obtain ⟨-, -, kept, sources, added, hsave, -, hnames, -, hkept, hsources, hadded⟩ :=
    (importRules_accounts f (fun _ => ⟨7, 0, 0⟩) .overwrite).2 hload (by decide +kernel) hread
      hdocument himport
  refine ⟨t', rules, kept, sources, added, hload, hread, hdocument, himport, hsave, hnames, ?_,
    hsources, hadded⟩
  obtain ⟨r, rest, hr, -, rfl⟩ := List.forall₂_cons_left_iff.1 hkept
  rw [List.head?_cons, hr (by decide +kernel)]
  rfl

end RuleFile

end MailFilter
