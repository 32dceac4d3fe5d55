import MailFilter.Proofs.Requests
import MailFilter.Proofs.Verdict

/-!
# Taking Rules from One File to Another

All rules of a file are exported as a document, and the document is imported into a file that is
missing. Each rule comes with its name, its description and its text, in the order of the rules; its
statistics start anew. Canonical texts are what makes that work: the text that is stored is the one
that is written in the document.

A document is made of lines. So a text with a line feed in it cannot be imported again
(`RuleFile.imported_lost`), the blanks at the ends of the lines of a description are lost, and so is
the empty line at the end of a description.

## Main results

* `RuleStore.exists_ruleSet`: what is exported of a store.
* `RuleStore.importRun_of_free`: rules with free names are taken over as they are.
* `RuleFile.importRules_of_missing`: what an import makes of them where there was no file.
* `RuleFile.importRules_of_exportRules`: what is imported of the rules that were exported.
-/

namespace MailFilter

open Calendar (Instant)
open FileTree (resolve)

/-! ### Rules in stores and in documents -/

/-- A rule of a set stands for a stored one. -/
structure StoredRule.IsListedAs (r : StoredRule) (l : ListedRule) : Prop where
  name : l.name = some r.name
  description : l.description = r.description
  text : l.rule.text = r.rule
  parse : Rule.parse r.rule = .ok l.rule

/-- What is left of a rule that has been taken to another file, apart from its statistics. Nothing
is said of a description that ends with a line feed. -/
structure StoredRule.IsTakenAs (r r' : StoredRule) : Prop where
  name : r'.name = r.name
  text : r'.rule = r.rule
  description : r.description.toList.getLast? ≠ some '\n' →
    r'.description = withoutLineEnds r.description ∧
      (r'.description = r.description ↔ ∀ piece ∈ r.description.toList.splitOn '\n',
        ∀ c ∈ piece.getLast?, Text.isBlank c = false)

namespace RuleStore

variable {s made : RuleStore} {rules : RuleSet}

/-- The rules of a store with canonical texts are exported one by one. -/
theorem exists_ruleSet (h : ∀ r ∈ s, Rule.IsCanonical r.rule) :
    ∃ rules, s.ruleSet [] = .ok rules ∧ List.Forall₂ StoredRule.IsListedAs s rules := by
  have hset : s.ruleSet [] = s.mapM fun r =>
      r.parsed.map fun rule => (⟨some r.name, r.description, rule⟩ : ListedRule) := rfl
  simp only [hset, mapM_ok_iff]
  clear hset
  induction s with
  | nil => exact ⟨[], .nil, .nil⟩
  | cons r s ih =>
    obtain ⟨⟨rule, hparse, htext⟩, hs⟩ := List.forall_mem_cons.1 h
    obtain ⟨rules, hmap, hlisted⟩ := ih hs
    refine ⟨⟨some r.name, r.description, rule⟩ :: rules, .cons ?_ hmap,
      .cons ⟨rfl, rfl, htext, hparse⟩ hlisted⟩
    rw [StoredRule.parsed, hparse]
    rfl

/-- The names of the rules of a set that stands for a store are those of the store. -/
theorem names_of_listed (h : List.Forall₂ StoredRule.IsListedAs s rules) :
    rules.map (·.name) = s.names.map some := by
  induction h with
  | nil => rfl
  | @cons r l s rules hl _ ih => simp [names, hl.name, ih]

/-- The rules that stand for rules with valid names and texts without line feeds stand on lines of
their own. -/
theorem fitsLine_of_listed (h : List.Forall₂ StoredRule.IsListedAs s rules)
    (hnames : ∀ r ∈ s, checkName r.name = .ok ()) (hlines : ∀ r ∈ s, '\n' ∉ r.rule.toList) :
    ∀ l ∈ rules, l.FitsLine := by
  induction h with
  | nil => simp
  | @cons r l s rules hl _ ih =>
    obtain ⟨hname, hnames⟩ := List.forall_mem_cons.1 hnames
    obtain ⟨hline, hlines⟩ := List.forall_mem_cons.1 hlines
    refine List.forall_mem_cons.2 ⟨⟨?_, ?_, ?_⟩, ih hnames hlines⟩
    · rw [hl.name]
      rintro _ ⟨⟩
      exact hname
    · rw [hl.text, hl.parse]
    · rwa [hl.text]

/-- Rules that are listed, settled and tidied stand for what is left of the rules. -/
theorem takenAs_of_listed (h : List.Forall₂ StoredRule.IsListedAs s rules)
    (hmade : List.Forall₂ StoredRule.IsListedAs made (rules.map fun l => l.settled.tidied)) :
    List.Forall₂ StoredRule.IsTakenAs s made := by
  induction h generalizing made with
  | nil =>
    obtain rfl := List.forall₂_nil_right_iff.1 hmade
    exact .nil
  | @cons r l s rules hl _ ih =>
    obtain ⟨m, made', hm, hmade', rfl⟩ := List.forall₂_cons_right_iff.1 hmade
    simp only [ListedRule.tidied_settled] at hm
    refine .cons ⟨Option.some.inj (hm.name.symm.trans hl.name), hm.text.symm.trans hl.text,
      fun hend => ?_⟩ (ih hmade')
    have hdescription : m.description = withoutLineEnds r.description := by
      rw [← hm.description, hl.description, withoutLastNewline_eq_iff.2 hend]
    exact ⟨hdescription, hdescription ▸ withoutLineEnds_eq_iff⟩

/-! ### Importing under free names -/

/-- A rule whose name is free is taken over as it is. -/
theorem importStep_of_free {now : Instant} {collision : Collision} {i : Import} {l : ListedRule}
    {name : String} (hname : l.name = some name) (hfree : name ∉ i.store.names) (hl : l.FitsLine) :
    i.step now collision l =
      .ok ⟨i.store ++ [.make now name l.description l.rule.text], i.imported + 1, i.skipped,
        i.lastNumber⟩ := by
  have hvalid : (StoredRule.make now name l.description l.rule.text).validate = .ok () :=
    StoredRule.validate_ok_iff.2 ⟨hl.name name hname, l.rule, hl.writable⟩
  rw [Import.step, hname]
  simp only [mt contains_iff.1 hfree, add_ok_iff.2 ⟨hfree, hvalid, rfl⟩]
  rfl

/-- Rules with names that are free and distinct are taken over as they are, behind the rules that
are there. -/
theorem importRun_of_free (collision : Collision) (clock : Nat → Instant) {i : Import}
    {names : List String} (hrules : ∀ l ∈ rules, l.FitsLine)
    (hnames : rules.map (·.name) = names.map some) (hfree : (i.store.names ++ names).Nodup) :
    ∃ made, Import.run collision clock i rules =
        .ok ⟨i.store ++ made, i.imported + rules.length, i.skipped, i.lastNumber⟩ ∧
      List.Forall₂ StoredRule.IsListedAs made rules := by
  induction rules generalizing clock i names with
  | nil => exact ⟨[], by rw [Import.run, List.append_nil]; rfl, .nil⟩
  | cons l rules ih =>
    obtain ⟨hl, hrules⟩ := List.forall_mem_cons.1 hrules
    cases names with
    | nil => cases hnames
    | cons name names =>
      obtain ⟨hname, hnames⟩ := List.cons.inj hnames
      have hnew : name ∉ i.store.names := fun hmem =>
        (List.nodup_append.1 hfree).2.2 name hmem name List.mem_cons_self rfl
      let r := StoredRule.make (clock 0) name l.description l.rule.text
      let i₁ : Import := ⟨i.store ++ [r], i.imported + 1, i.skipped, i.lastNumber⟩
      have hfree₁ : (i₁.store.names ++ names).Nodup := by
        rwa [RuleStore.names, List.map_append, List.map_singleton, List.append_assoc]
      obtain ⟨made, hrun, hmade⟩ := ih (fun n => clock (n + 1)) hrules hnames hfree₁
      refine ⟨r :: made, ?_, .cons ⟨hname, rfl, rfl, hl.writable⟩ hmade⟩
      have hcount : i.imported + 1 + rules.length = i.imported + (l :: rules).length := by
        rw [List.length_cons]
        omega
      rw [Import.run, importStep_of_free hname hnew hl]
      refine hrun.trans ?_
      rw [List.append_assoc, List.singleton_append, hcount]

end RuleStore

/-! ### Exporting -/

/-- Whether a text can be written to a path: it names a file, no file stands where directories must
be, and no directory in the place of the file. -/
structure FileTree.Accepts (t : FileTree) (p : Path) : Prop where
  named : p.fileName?.isSome
  notDirectory : p.asksDirectory = false
  isOpen : t.IsOpen (resolve p.parentComponents)
  place : t.find? (resolve p.components) ≠ some .directory

namespace RuleFile

variable {f g : RuleFile} {t t' : FileTree} {qs : List Request} {s : RuleStore} {rules : RuleSet}
  {target : Path}

/-- An export writes the document of the rules, and leaves everything alone that is not on the way
to it. -/
theorem exportRules_ok {names : List String} (hset : f.ruleSet names t = .ok rules)
    (h : t.Accepts target) :
    ∃ t', f.exportRules target names t = (.ok rules.length, t') ∧
      t'.read target = .ok rules.document ∧
      ∀ p, ¬ p <+: resolve target.components → t'.find? p = t.find? p := by
  obtain ⟨name, hname⟩ := Option.isSome_iff_exists.1 h.named
  obtain ⟨hcomponents, hup, htext⟩ := components_of_fileName? hname
  have hplace : resolve target.components = resolve target.parentComponents ++ [name] := by
    rw [hcomponents, FileTree.resolve_append hup]
  obtain ⟨t₁, hmake, hdirectory, hopen, -, hsame⟩ := FileTree.makeDirectories_of_isOpen h.isOpen
  have hfree : t₁.find? (resolve target.components) ≠ some .directory := by
    rw [hsame _ (hplace ▸ FileTree.append_notPrefix _ name)]
    exact h.place
  obtain ⟨hne, hwrite⟩ := write_ok h.named h.notDirectory hopen hdirectory hfree rules.document
  have hfind : ∀ p, (t₁.put (resolve target.components)
      (.file (FileTree.ofText rules.document))).find? p =
      if p = resolve target.components then some (.file (FileTree.ofText rules.document))
      else t₁.find? p := fun p => FileTree.find?_put t₁ _ hne
  have hmake : t.makeParents target = .ok t₁ := hmake
  refine ⟨_, ?_, FileTree.read_of_file htext h.notDirectory ((hfind _).trans (if_pos rfl)),
    fun p hp => ?_⟩
  · rw [exportRules, hset]
    simp only [hmake, hwrite]
  · have hother : p ≠ resolve target.components := fun heq => hp (heq ▸ List.prefix_refl p)
    have habove : ¬ p <+: resolve target.parentComponents := fun hp' =>
      hp (hp'.trans (hplace ▸ List.prefix_append _ _))
    rw [hfind, if_neg hother, hsame p habove]

/-! ### Importing what was exported -/

/-- A document that cannot be read is not imported. -/
theorem importRules_of_unread {clock : Nat → Instant} {source : Path} {text : String}
    {collision : RuleStore.Collision} {e : RuleSet.LineFault} (hload : g.load t = .ok s)
    (hread : t.read source = .ok text) (htext : RuleSet.ofDocument text = .error e) :
    g.importRules clock source collision t = (.error (.invalidLine e), t) := by
  rw [importRules, hload]
  simp only [hread, htext]

/-- Rules with distinct names are taken over as they are by a file that is missing. -/
theorem importRules_of_missing {clock : Nat → Instant} {source : Path} {text : String}
    (collision : RuleStore.Collision) {names : List String} (hg : g.format = .toml)
    (hmissing : t.contains g.path = false) (hw : g.IsWritable t)
    (hclock : ∀ n, (clock n).IsRegular) (hread : t.read source = .ok text)
    (htext : RuleSet.ofDocument text = .ok rules) (hrules : ∀ l ∈ rules, l.FitsLine)
    (hnames : rules.map (·.name) = names.map some) (hnodup : names.Nodup) :
    ∃ t' s, g.importRules clock source collision t = (.ok (rules.length, 0), t') ∧
      g.load t' = .ok s ∧ List.Forall₂ StoredRule.IsListedAs s rules := by
  obtain ⟨s, hrun, hlisted⟩ := RuleStore.importRun_of_free collision clock (i := ⟨[], 0, 0, 0⟩)
    hrules hnames hnodup
  have himport : RuleStore.importRules [] clock collision rules = .ok ⟨s, rules.length, 0, 0⟩ := by
    rw [RuleStore.importRules, hrun]
    simp
  have hdated : ∀ r ∈ s, r.IsDated := by
    refine RuleStore.forall_mem_importRun (P := StoredRule.IsDated)
      (fun n name description rule _ => StoredRule.isDated_make (hclock n) _ _ _)
      (fun l hl => Rule.isWritable_of_parse (hrules l hl).writable) (by simp) himport
  obtain ⟨t', hsave, hfile, hw', -⟩ := hw.save_ok s
  refine ⟨t', s, ?_, ?_, hlisted⟩
  · rw [importRules, load_of_missing hmissing]
    simp only [hread, htext, himport, saving, hsave]
  · refine load_saved hw' hfile ?_
    rw [hg, StoreFormat.read?_render hdated]

/-- Whatever requests are made of a file that was missing, if no text holds a line feed, all rules
can be exported, and the document can be imported into another file that is missing. The same names
and texts are there in the same order, and of a description that does not end with a line feed just
the blanks at the ends of its lines are lost. -/
theorem importRules_of_exportRules (hf : f.format = .toml) (hg : g.format = .toml)
    (hmissing : t.contains f.path = false) (hrun : Run f t qs t')
    (hupdates : ∀ r, .update r ∈ qs → Rule.IsCanonical r.rule) (hload : f.load t' = .ok s)
    (hlines : ∀ r ∈ s, '\n' ∉ r.rule.toList) (htarget : t'.Accepts target) :
    ∃ t₁ text, f.exportRules target [] t' = (.ok s.length, t₁) ∧ t₁.read target = .ok text ∧
      ∀ t₂ source clock collision, t₂.read source = .ok text → (∀ n, (clock n).IsRegular) →
        t₂.contains g.path = false → g.IsWritable t₂ →
        ∃ t₃ s', g.importRules clock source collision t₂ = (.ok (s.length, 0), t₃) ∧
          g.load t₃ = .ok s' ∧ List.Forall₂ StoredRule.IsTakenAs s s' := by
  have hempty := load_of_missing hmissing
  have hsound : s.IsSound :=
    hrun.isSound hf (fun s hs => Except.ok.inj (hempty.symm.trans hs) ▸ RuleStore.isSound_nil) s
      hload
  have hcanonical : ∀ r ∈ s, Rule.IsCanonical r.rule :=
    hrun.isCanonical hf hupdates (fun s hs => Except.ok.inj (hempty.symm.trans hs) ▸ by simp) s
      hload
  obtain ⟨rules, hset, hlisted⟩ := RuleStore.exists_ruleSet hcanonical
  have hset : f.ruleSet [] t' = .ok rules := by rw [ruleSet, hload]; exact hset
  have hlength : rules.length = s.length := hlisted.length_eq.symm
  obtain ⟨t₁, hexport, hread, -⟩ := exportRules_ok hset htarget
  have hnames : ∀ r ∈ s, checkName r.name = .ok () := fun r hr =>
    (StoredRule.validate_ok_iff.1 (hsound.valid r hr)).1
  refine ⟨t₁, _, hlength ▸ hexport, hread, fun t₂ source clock collision hsource hclock hmissing₂
    hw => ?_⟩
  have hfits := RuleStore.fitsLine_of_listed hlisted hnames hlines
  let rules' : RuleSet := rules.map fun l => l.settled.tidied
  have hfits' : ∀ l ∈ rules', l.FitsLine := by
    intro l' hl'
    obtain ⟨l, hl, rfl⟩ := List.mem_map.1 hl'
    rw [ListedRule.tidied_settled]
    exact (hfits l hl).redescribed _
  have hnames' : rules'.map (·.name) = s.names.map some := by
    rw [← RuleStore.names_of_listed hlisted, List.map_map]
    exact List.map_congr_left fun l _ => by rw [Function.comp, ListedRule.tidied_settled]
  obtain ⟨t₃, s', himport, hload', hlisted'⟩ := importRules_of_missing collision hg
    hmissing₂ hw hclock hsource (RuleSet.ofDocument_document_of_fitsLine hfits) hfits' hnames'
    hsound.nodup
  have hlength' : rules'.length = s.length := by rw [List.length_map, hlength]
  exact ⟨t₃, s', hlength' ▸ himport, hload', RuleStore.takenAs_of_listed hlisted hlisted'⟩

/-- A rule whose description has two lines, the first of which ends with a blank, gets another name
and is taken to another tree. -/
theorem importRules_of_exportRules_renamed :
    let f : RuleFile := ⟨⟨"rules.toml"⟩, true, .toml⟩
    let g : RuleFile := ⟨⟨"other.toml"⟩, true, .toml⟩
    let create : Request := .create ⟨0, 0, 0⟩ "a" "first \n second" "s x&!N"
    let rename : Request := .rename "a" "b"
    let t' := rename.run f (create.run f .empty)
    Run f .empty [create, rename] t' ∧
      f.load t' = .ok [⟨"b", "first \n second", ⟨0, 0, 0⟩, ⟨0, 0, 0⟩, 0, "s \"x\" & ~N"⟩] ∧
      ∃ t₁ text, f.exportRules ⟨"out.txt"⟩ [] t' = (.ok 1, t₁) ∧ t₁.read ⟨"out.txt"⟩ = .ok text ∧
        ∃ t₂ t₃ s', t₂.read ⟨"in.txt"⟩ = .ok text ∧
          g.importRules (fun _ => ⟨0, 0, 0⟩) ⟨"in.txt"⟩ .refuse t₂ = (.ok (1, 0), t₃) ∧
          g.load t₃ = .ok s' ∧
          s'.map (fun r => (r.name, r.description, r.rule)) =
            [("b", "first\n second", "s \"x\" & ~N")] := by
  intro f g create rename t'
  have hregular : (⟨0, 0, 0⟩ : Instant).IsRegular := ⟨by decide +kernel, by decide +kernel⟩
  have hw : f.IsWritable .empty := isWritable_empty (by decide +kernel) (by decide +kernel)
  have hmissing : FileTree.empty.contains f.path = false := by decide +kernel
  have hcreate : create.apply .empty [] =
      .ok [⟨"a", "first \n second", ⟨0, 0, 0⟩, ⟨0, 0, 0⟩, 0, "s \"x\" & ~N"⟩] := by decide +kernel
  obtain ⟨hload₁, hw₁⟩ :=
    load_run_of_isWritable rfl hw (load_of_missing hmissing) hcreate hregular
  have hrename : rename.apply (create.run f .empty)
      [⟨"a", "first \n second", ⟨0, 0, 0⟩, ⟨0, 0, 0⟩, 0, "s \"x\" & ~N"⟩] =
        .ok [⟨"b", "first \n second", ⟨0, 0, 0⟩, ⟨0, 0, 0⟩, 0, "s \"x\" & ~N"⟩] := by
    decide +kernel
  obtain ⟨hload₂, -⟩ := load_run_of_isWritable rfl hw₁ hload₁ hrename trivial
  have hrun : Run f .empty [create, rename] t' := .request rename (.request create .start)
  have htarget : t'.Accepts ⟨"out.txt"⟩ := by
    have hplace : resolve (Path.mk "out.txt").components = ["out.txt"] := by decide +kernel
    refine ⟨by decide +kernel, by decide +kernel, isOpen_of_eq_nil (by decide +kernel), ?_⟩
    rw [hplace, Request.find?_of_run (by decide +kernel) (by decide +kernel) (by decide +kernel),
      Request.find?_of_run (by decide +kernel) (by decide +kernel) (by decide +kernel)]
    simp [FileTree.find?, FileTree.empty]
  obtain ⟨t₁, text, hexport, hread, himport⟩ :=
    importRules_of_exportRules (g := g) rfl rfl hmissing hrun (by simp [create, rename]) hload₂
      (by decide +kernel) htarget
  let t₂ : FileTree := ⟨[(["in.txt"], .file (FileTree.ofText text))]⟩
  have hsource : t₂.read ⟨"in.txt"⟩ = .ok text := by
    have hplace : resolve (Path.mk "in.txt").components = ["in.txt"] := by decide +kernel
    refine FileTree.read_of_file (by decide +kernel) (by decide +kernel) ?_
    rw [hplace]
    simp [t₂, FileTree.find?]
  have hplace : g.place = ["other.toml"] := by decide +kernel
  have hmissing₂ : t₂.contains g.path = false := by
    rw [FileTree.contains, show resolve g.path.components = _ from hplace]
    simp [t₂, FileTree.find?, List.lookup_cons]
  have hwritable : g.IsWritable t₂ := by
    have hbackup : g.backupPlace = ["other.toml.backup"] := by decide +kernel
    refine ⟨by decide +kernel, by decide +kernel, isOpen_of_eq_nil (by decide +kernel), ?_, ?_⟩
    · rw [hplace]
      simp [t₂, FileTree.find?, List.lookup_cons]
    · rw [hbackup]
      simp [t₂, FileTree.find?, List.lookup_cons]
  obtain ⟨t₃, s', himport, hload', htaken⟩ := himport t₂ ⟨"in.txt"⟩ (fun _ => ⟨0, 0, 0⟩)
    .refuse hsource (fun _ => hregular) hmissing₂ hwritable
  refine ⟨hrun, hload₂, t₁, text, hexport, hread, t₂, t₃, s', hsource, himport, hload', ?_⟩
  obtain ⟨r, rest, hr, hrest, rfl⟩ := List.forall₂_cons_left_iff.1 htaken
  obtain rfl := List.forall₂_nil_left_iff.1 hrest
  have hdescription : withoutLineEnds "first \n second" = "first\n second" := by decide +kernel
  simp [hr.name, hr.text, (hr.description (by decide +kernel)).1, hdescription]

/-! ### What documents lose -/

/-- A file of rules in the root. -/
def rootFile (name : String) : RuleFile := ⟨⟨name⟩, true, .toml⟩

/-- The files after a rule has been added where there were none. -/
def withRule (description text : String) : FileTree :=
  (Request.create ⟨0, 0, 0⟩ "a" description text).run (rootFile "rules.toml") .empty

/-- The files after all rules have been exported as well. -/
def withDocument (description text : String) : FileTree :=
  ((rootFile "rules.toml").exportRules ⟨"out.txt"⟩ [] (withRule description text)).2

/-- What becomes of the document where there is no other file yet. -/
def imported (description text : String) : Except StoreFault (Nat × Nat) × FileTree :=
  (rootFile "other.toml").importRules (fun _ => ⟨0, 0, 0⟩) ⟨"out.txt"⟩ .refuse
    (withDocument description text)

variable {description text : String} {rule : Rule}

/-- The instant that is used here. -/
theorem isRegular_zero : (⟨0, 0, 0⟩ : Instant).IsRegular := ⟨by decide +kernel, by decide +kernel⟩

/-- The rule is there after it has been added. -/
theorem load_withRule (hparse : Rule.parse text = .ok rule) (htext : rule.text = text) :
    (rootFile "rules.toml").load (withRule description text) =
      .ok [.make ⟨0, 0, 0⟩ "a" description text] := by
  have hname : checkName "a" = .ok () := by decide +kernel
  have hadd : RuleStore.add [] (.make ⟨0, 0, 0⟩ "a" description text) =
      .ok [.make ⟨0, 0, 0⟩ "a" description text] :=
    RuleStore.add_ok_iff.2 ⟨by simp [RuleStore.names],
      StoredRule.validate_ok_iff.2 ⟨hname, rule, hparse⟩, rfl⟩
  have hcreate : (Request.create ⟨0, 0, 0⟩ "a" description text).apply .empty [] =
      .ok [.make ⟨0, 0, 0⟩ "a" description text] := by
    rw [Request.apply, RuleStore.create_ok_iff.2 ⟨hname, rule, hparse, htext ▸ rfl, hadd⟩]
    rfl
  exact (load_run_of_isWritable rfl (isWritable_empty (by decide +kernel) (by decide +kernel))
    (load_of_missing (by decide +kernel)) hcreate isRegular_zero).1

/-- The document is there after the rule has been exported, and another file is still missing. -/
theorem read_withDocument (hparse : Rule.parse text = .ok rule) (htext : rule.text = text) :
    (withDocument description text).read ⟨"out.txt"⟩ =
        .ok (RuleSet.document [⟨some "a", description, rule⟩]) ∧
      (rootFile "other.toml").load (withDocument description text) = .ok [] ∧
      (rootFile "other.toml").IsWritable (withDocument description text) := by
  have hplaces : (rootFile "rules.toml").place = ["rules.toml"] ∧
      (rootFile "rules.toml").backupPlace = ["rules.toml.backup"] ∧
      (rootFile "rules.toml").directory = [] ∧
      (rootFile "other.toml").place = ["other.toml"] ∧
      (rootFile "other.toml").backupPlace = ["other.toml.backup"] ∧
      resolve (Path.mk "out.txt").components = ["out.txt"] := by decide +kernel
  obtain ⟨hfile, hbackup, habove, hother, hotherBackup, htarget⟩ := hplaces
  have habsent : ∀ name, name ≠ "rules.toml" → name ≠ "rules.toml.backup" →
      (withRule description text).find? [name] = none := by
    intro name hname hname'
    rw [withRule, Request.find?_of_run (by simpa [hfile]) (by simpa [hbackup]) (by simp [habove])]
    simp [FileTree.find?, FileTree.empty]
  have haccepts : (withRule description text).Accepts ⟨"out.txt"⟩ := by
    refine ⟨by decide +kernel, by decide +kernel, isOpen_of_eq_nil (by decide +kernel), ?_⟩
    rw [htarget, habsent _ (by decide) (by decide)]
    simp
  have hset : (rootFile "rules.toml").ruleSet [] (withRule description text) =
      .ok [⟨some "a", description, rule⟩] := by
    have hlisted : RuleStore.ruleSet [.make ⟨0, 0, 0⟩ "a" description text] [] =
        .ok [⟨some "a", description, rule⟩] := by
      rw [RuleStore.ruleSet]
      simp [RuleStore.select, StoredRule.parsed, StoredRule.make, hparse]
      rfl
    rw [ruleSet, load_withRule hparse htext]
    exact hlisted
  obtain ⟨t', hexport, hread, hsame⟩ := exportRules_ok hset haccepts
  obtain rfl : withDocument description text = t' := congrArg Prod.snd hexport
  have hmissing : ∀ name, name ≠ "out.txt" → name ≠ "rules.toml" → name ≠ "rules.toml.backup" →
      (withDocument description text).find? [name] = none := by
    intro name hname hname' hname''
    rw [hsame _ (by simpa [htarget]), habsent name hname' hname'']
  have hplace : (withDocument description text).find? (rootFile "other.toml").place = none := by
    rw [hother]
    exact hmissing _ (by decide) (by decide) (by decide)
  have hbackup : (withDocument description text).find? (rootFile "other.toml").backupPlace =
      none := by
    rw [hotherBackup]
    exact hmissing _ (by decide) (by decide) (by decide)
  refine ⟨hread, load_of_missing ?_, by decide +kernel, by decide +kernel,
    isOpen_of_eq_nil (by decide +kernel), by simp [hplace], by simp [hbackup]⟩
  have hplace : (withDocument description text).find?
      (resolve (rootFile "other.toml").path.components) = none := hplace
  rw [FileTree.contains, hplace, Bool.and_false]

/-- What documents lose: the blanks at the ends of the lines of a description, and the line feed at
its end. A document of a text with a line feed is not imported. -/
theorem imported_lost :
    (rootFile "rules.toml").load (withRule "x " "U") = .ok [.make ⟨0, 0, 0⟩ "a" "x " "U"] ∧
      (rootFile "other.toml").load (imported "x " "U").2 = .ok [.make ⟨0, 0, 0⟩ "a" "x" "U"] ∧
      (rootFile "rules.toml").load (withRule "x\n" "U") = .ok [.make ⟨0, 0, 0⟩ "a" "x\n" "U"] ∧
      (rootFile "other.toml").load (imported "x\n" "U").2 = .ok [.make ⟨0, 0, 0⟩ "a" "x" "U"] ∧
      (rootFile "rules.toml").load (withRule "" "s \"x\ny\"") =
        .ok [.make ⟨0, 0, 0⟩ "a" "" "s \"x\ny\""] ∧
      (imported "" "s \"x\ny\"").1 = .error (.invalidLine ⟨1, .unterminated .quoted 3⟩) := by
  have hunread : Rule.parse "U" = .ok ⟨[⟨false, .status .unread⟩], .all, by simp⟩ := by
    decide +kernel
  have hsubject : Rule.parse "s \"x\ny\"" =
      .ok ⟨[⟨false, .text .subject .plain "x\ny"⟩], .all, by simp⟩ := by decide +kernel
  have himported : ∀ description,
      RuleSet.ofDocument (RuleSet.document
        [⟨some "a", description, ⟨[⟨false, .status .unread⟩], .all, by simp⟩⟩]) =
          .ok [⟨some "a", "x", ⟨[⟨false, .status .unread⟩], .all, by simp⟩⟩] →
      (rootFile "other.toml").load (imported description "U").2 =
        .ok [.make ⟨0, 0, 0⟩ "a" "x" "U"] := by
    intro description hdocument
    obtain ⟨hread, hload, hw⟩ : (withDocument description "U").read _ = _ ∧ _ ∧ _ :=
      read_withDocument hunread (by decide +kernel)
    have himport : (Request.importRules (fun _ => ⟨0, 0, 0⟩) ⟨"out.txt"⟩ .refuse).apply
        (withDocument description "U") [] = .ok [.make ⟨0, 0, 0⟩ "a" "x" "U"] := by
      simp only [Request.apply, hread, hdocument]
      decide +kernel
    exact (load_run_of_isWritable rfl hw hload himport fun _ => isRegular_zero).1
  refine ⟨load_withRule hunread (by decide +kernel), himported _ (by decide +kernel),
    load_withRule hunread (by decide +kernel), himported _ (by decide +kernel),
    load_withRule hsubject (by decide +kernel), ?_⟩
  obtain ⟨hread, hload, -⟩ : (withDocument "" "s \"x\ny\"").read _ = _ ∧ _ ∧ _ :=
    read_withDocument hsubject (by decide +kernel)
  have hdocument : RuleSet.ofDocument (RuleSet.document
      [⟨some "a", "", ⟨[⟨false, .text .subject .plain "x\ny"⟩], .all, by simp⟩⟩]) =
        .error ⟨1, .unterminated .quoted 3⟩ := by decide +kernel
  rw [imported, importRules_of_unread hload hread hdocument]

end RuleFile

end MailFilter
