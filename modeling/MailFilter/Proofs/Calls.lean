import MailFilter.Proofs.Requests

/-!
# What Calls Leave Behind

A call to a file of rules answers, and leaves files behind. Whatever changes the rules is one change
of the store between a load and a save (`RuleFile.Request.perform_eq`); a call that is refused ends
before the save, and a save puts the bytes that it finds into the backup before it writes.

An import takes the rules of its document over one after the other in memory. So it also ends before
the save if one of them collides with a rule that it has just taken over itself.

## Main results

* `RuleFile.place_ne_backupPlace`: the backup is another file.
* `RuleFile.backup_of_save`: what a save leaves in the backup.
* `RuleStore.importRules_of_collides`: an import ends at the first collision.
* `RuleFile.Call.perform_leaves`: what every call leaves behind.
-/

namespace MailFilter

open Calendar (Instant)

/-- What fails in a step that cannot fail behind one that can. -/
theorem map_error_iff {α β ε : Type} {g : α → β} {a : Except ε α} {e : ε} :
    a.map g = .error e ↔ a = .error e := by
  cases a <;> simp [Except.map]

/-! ### Places of files -/

namespace Path

/-- The parts between slashes hold no slash. -/
theorem slash_notMem_of_mem_splitSlashes {s part : List Char} (h : part ∈ splitSlashes s) :
    '/' ∉ part := by
  induction s generalizing part with
  | nil => simp_all [splitSlashes]
  | cons c s ih =>
    rw [splitSlashes] at h
    split at h
    · rcases List.mem_cons.1 h with rfl | h
      · exact List.not_mem_nil
      · exact ih h
    · next hc =>
      have hne : '/' ≠ c := fun hne => hc hne.symm
      split at h
      · obtain rfl := List.mem_singleton.1 h
        simpa using hne
      · next p ps hps =>
        rw [hps] at ih
        rcases List.mem_cons.1 h with rfl | h
        · exact List.not_mem_cons_of_ne_of_not_mem hne (ih List.mem_cons_self)
        · exact ih (List.mem_cons_of_mem p h)

/-- A path that ends at the root is the root. -/
theorem components_of_getLast?_slash {p : Path} (h : p.components.getLast? = some "/") :
    p.components = ["/"] := by
  let names := ((splitSlashes p.text.toList).filter fun part => part != [] && part != ['.']).map
    String.ofList
  have hnames : "/" ∉ names := by
    intro hmem
    obtain ⟨part, hpart, heq⟩ := List.mem_map.1 hmem
    have hslash := slash_notMem_of_mem_splitSlashes (List.mem_of_mem_filter hpart)
    have hpart : part = ['/'] := by simpa using congrArg String.toList heq
    simp [hpart] at hslash
  have hcomponents : p.components =
      if p.text.toList.head? = some '/' then "/" :: names else names := rfl
  rw [hcomponents] at h ⊢
  split at h
  · next hroot =>
    rw [if_pos hroot]
    cases hn : names with
    | nil => rfl
    | cons name rest =>
      rw [hn, List.getLast?_cons_cons, ← hn] at h
      exact absurd (List.mem_of_getLast? h) hnames
  · exact absurd (List.mem_of_getLast? h) hnames

/-- No name is its own stem with `toml.backup` for an extension. -/
theorem stem_append_ne (name : List Char) :
    (splitName name).1 ++ ".toml.backup".toList ≠ name := by
  intro h
  -- the last dot stands in front of `backup`, so the stem ends with `.toml`
  have hreverse : name.reverse =
      "pukcab".toList ++ '.' :: ("lmot.".toList ++ (splitName name).1.reverse) := by
    conv_lhs => rw [← h]
    simp
  have hstem : splitName name = ((splitName name).1 ++ ".toml".toList, some "backup".toList) := by
    conv_lhs => rw [splitName, hreverse]
    simp
  have hlength := congrArg (fun r => r.1.length) hstem
  simp at hlength

end Path

namespace FileTree

/-- Whether no file stands where paths from the root start. -/
def IsRooted (t : FileTree) : Prop := ∀ bytes, t.find? ["/"] ≠ some (.file bytes)

variable {t t' : FileTree}

/-- Making directories keeps what is there. -/
theorem find?_of_makeDirectories {place q : Place} {node : Node}
    (h : t.makeDirectories place = .ok t') (hq : t.find? q = some node) :
    t'.find? q = some node := by
  rw [makeDirectories] at h
  split at h
  · cases h
  · split at h
    · cases h
    · cases h
      exact hq
    · cases h
      have hmade := find?_makeMissing t (downTo place) q
      rw [hq] at hmade
      exact hmade

end FileTree

namespace RuleFile

open FileTree (resolve)

variable {f : RuleFile} {t t' : FileTree} {s : RuleStore} {bytes : FileBytes}

/-- The backup is another file than the one that is backed up. -/
theorem place_ne_backupPlace (h : f.path.fileName?.isSome) : f.place ≠ f.backupPlace := by
  obtain ⟨name, hname⟩ := Option.isSome_iff_exists.1 h
  rw [place_eq hname, backupPlace_eq hname]
  intro heq
  have hbackup := List.singleton_inj.1 (List.append_cancel_left heq)
  refine Path.stem_append_ne name.toList ?_
  simpa using (congrArg String.toList hbackup).symm

/-- A file whose directories can be made has a name at the end of its path. -/
theorem named_of_makeParents (hroot : t.IsRooted) (hfile : t.find? f.place = some (.file bytes))
    (h : t.makeParents f.path = .ok t') : f.path.fileName?.isSome := by
  rw [Path.fileName?]
  cases hlast : f.path.components.getLast? with
  | none =>
    have hplace : f.place = [] := by
      rw [place, List.getLast?_eq_none_iff.1 hlast]
      rfl
    rw [hplace] at hfile
    cases hfile
  | some last =>
    simp only
    split
    · next hspecial =>
      exfalso
      rcases hspecial with rfl | rfl
      · -- what the path leads up from is below the file
        obtain ⟨front, hfront⟩ := List.getLast?_eq_some_iff.1 hlast
        have hplace : f.place = (resolve front).dropLast := by
          rw [place, hfront, resolve, List.foldl_append]
          rfl
        rcases List.eq_nil_or_concat' (resolve front) with hnil | ⟨above, name, habove⟩
        · rw [hplace, hnil] at hfile
          cases hfile
        · rw [hplace, habove, List.dropLast_concat] at hfile
          have hblocked : t.isBlocked (above ++ [name]) = true := by
            rw [FileTree.isBlocked, FileTree.above, FileTree.downTo_append, List.dropLast_concat,
              List.any_eq_true]
            exact ⟨above, FileTree.mem_downTo.2 (List.prefix_refl above), by rw [hfile]⟩
          rw [FileTree.makeParents, Path.parentComponents, hfront, List.dropLast_concat, habove,
            FileTree.makeDirectories, if_pos hblocked] at h
          cases h
      · have hplace : f.place = ["/"] := by
          rw [place, Path.components_of_getLast?_slash hlast]
          rfl
        exact hroot bytes (hplace ▸ hfile)
    · rfl

/-- What stands at the place of a path with a file stands there as a file. -/
theorem contains_of_find? (htext : f.path.text ≠ "") (hdirectory : f.path.asksDirectory = false)
    (hfile : t.find? f.place = some (.file bytes)) : t.contains f.path = true := by
  have hfile : t.find? (resolve f.path.components) = some (.file bytes) := hfile
  simp [FileTree.contains, htext, hdirectory, hfile]

/-- The backup of a save that succeeds holds the bytes that the file had. -/
theorem backup_of_save (hroot : t.IsRooted) (hkeeps : f.keepsBackup = true)
    (hfile : t.find? f.place = some (.file bytes)) (h : f.save s t = (.ok (), t')) :
    t'.find? f.backupPlace = some (.file bytes) := by
  obtain ⟨t₁, t₂, hmake, hback, hwrite⟩ := save_ok_iff.1 h
  have hnamed := named_of_makeParents hroot hfile hmake
  obtain ⟨htext, hdirectory, hne, rfl⟩ := put_of_write hwrite
  have hfile₁ : t₁.find? f.place = some (.file bytes) :=
    FileTree.find?_of_makeDirectories hmake hfile
  have hcontains := contains_of_find? htext hdirectory hfile₁
  have hbytes : t₁.bytesAt (resolve f.path.components) = .ok bytes := by
    rw [FileTree.bytesAt, show t₁.find? (resolve f.path.components) = _ from hfile₁]
  rw [backUp, hkeeps, hcontains, Bool.and_self, if_pos rfl, hbytes] at hback
  obtain ⟨hneBackup, rfl⟩ := put_of_writeAt hback
  have hother : f.backupPlace ≠ resolve f.path.components := (place_ne_backupPlace hnamed).symm
  rw [FileTree.find?_put _ _ hne, if_neg hother, FileTree.find?_put _ _ hneBackup, if_pos rfl]

/-! ### Changes -/

section

variable {α : Type} {step : RuleStore → Except StoreFault (α × RuleStore)}

/-- A change that fails has left all files alone, or has failed while it wrote. -/
theorem change_error_cases {e : StoreFault} (h : f.change step t = (.error e, t')) :
    t' = t ∨ ∃ s' fault, f.save s' t = (.error fault, t') ∧ e = .file fault := by
  rw [change] at h
  split at h
  · cases h
    exact .inl rfl
  · split at h
    · cases h
      exact .inl rfl
    · next _ s' _ =>
      rw [saving] at h
      split at h
      · cases h
      · next fault _ hsave =>
        cases h
        exact .inr ⟨s', fault, hsave, rfl⟩

/-- A change that is refused, and does not fail while it writes, leaves all files alone. -/
theorem change_refused {e : StoreFault} (h : f.change step t = (.error e, t'))
    (he : ∀ fault, e ≠ .file fault) : t' = t :=
  (change_error_cases h).resolve_right fun ⟨_, fault, _, heq⟩ => he fault heq

/-- What is loaded after a change that failed was loaded before it. -/
theorem load_of_change_error {e : StoreFault} {s' : RuleStore}
    (h : f.change step t = (.error e, t')) (hl : f.load t' = .ok s') : f.load t = .ok s' := by
  rcases change_error_cases h with rfl | ⟨_, _, hsave, -⟩
  · exact hl
  · exact load_of_save_error hsave hl

/-- An export that is refused, and does not fail while it writes, leaves all files alone. -/
theorem exportRules_refused {target : Path} {names : List String} {e : StoreFault}
    (h : f.exportRules target names t = (.error e, t')) (he : ∀ fault, e ≠ .file fault) :
    t' = t := by
  rw [exportRules] at h
  split at h
  · cases h
    rfl
  · split at h
    · cases h
      exact absurd rfl (he _)
    · split at h
      · cases h
        exact absurd rfl (he _)
      · cases h

/-- What is loaded is what is in the file, where there is one. -/
theorem exists_file_of_load (hcontains : t.contains f.path = true) (h : f.load t = .ok s) :
    ∃ bytes, t.find? f.place = some (.file bytes) := by
  rw [load, if_pos hcontains] at h
  split at h
  · cases h
  · next text hread => exact FileTree.exists_file_of_read hread

/-- The backup of a change that is granted holds the bytes that the file had. -/
theorem backup_of_change {a : α} (hroot : t.IsRooted) (hkeeps : f.keepsBackup = true)
    (hcontains : t.contains f.path = true) (h : f.change step t = (.ok a, t')) :
    ∃ bytes, t.find? f.place = some (.file bytes) ∧
      t'.find? f.backupPlace = some (.file bytes) := by
  obtain ⟨s, s', hload, -, hsave⟩ := change_ok_iff.1 h
  obtain ⟨bytes, hfile⟩ := exists_file_of_load hcontains hload
  exact ⟨bytes, hfile, backup_of_save hroot hkeeps hfile hsave⟩

/-! ### Requests and calls -/

/-- What a call answers. -/
inductive Answer where
  | done
  | rule (r : StoredRule)
  | rules (s : RuleStore)
  | set (rules : RuleSet)
  | number (n : Nat)
  | counts (imported skipped : Nat)
deriving DecidableEq

/-- An answer of another kind. -/
def answered {β : Type} (kind : α → β) (x : Except StoreFault α × FileTree) :
    Except StoreFault β × FileTree := (x.1.map kind, x.2)

/-- A save whose answer is of another kind. -/
theorem answered_saving {β : Type} (kind : α → β) (s : RuleStore) (a : α) (t : FileTree) :
    answered kind (f.saving s a t) = f.saving s (kind a) t := by
  rw [saving, saving]
  rcases f.save s t with ⟨_ | _, _⟩ <;> rfl

/-- A change whose answer is of another kind. -/
theorem answered_change {β : Type} (kind : α → β) (t : FileTree) :
    answered kind (f.change step t) =
      f.change (fun s => (step s).map fun x => (kind x.1, x.2)) t := by
  rw [change, change]
  cases f.load t with
  | error e => rfl
  | ok s =>
    simp only
    cases step s with
    | error e => rfl
    | ok x => exact answered_saving kind x.2 x.1 t

end

namespace Request

/-- What a request answers, and the files after it. -/
def perform (f : RuleFile) (t : FileTree) : Request → Except StoreFault Answer × FileTree
  | create now name description text => answered .rule (f.create now name description text t)
  | update r => answered (fun _ => .done) (f.update r t)
  | delete name => answered .rule (f.delete name t)
  | rename old new => answered (fun _ => .done) (f.rename old new t)
  | recordUse now name => answered (fun _ => .done) (f.recordUse now name t)
  | importRules clock source collision =>
    answered (fun x => .counts x.1 x.2) (f.importRules clock source collision t)

/-- The files after a request are the same whatever is done with the answer. -/
theorem perform_snd (f : RuleFile) (t : FileTree) (q : Request) :
    (q.perform f t).2 = q.run f t := by
  cases q <;> rfl

/-- What a request makes of a store, with its answer. An import reads its source. -/
def step (t : FileTree) (s : RuleStore) : Request → Except StoreFault (Answer × RuleStore)
  | create now name description text =>
    (s.create now name description text).map fun x => (.rule x.1, x.2)
  | update r => (s.update r).map (.done, ·)
  | delete name => (s.remove name).map fun x => (.rule x.1, x.2)
  | rename old new => (s.rename old new).map (.done, ·)
  | recordUse now name => (s.recordUse now name).map (.done, ·)
  | importRules clock source collision =>
    match t.read source with
    | .error e => .error (.file e)
    | .ok text =>
      match RuleSet.ofDocument text with
      | .error e => .error (.invalidLine e)
      | .ok rules =>
        (s.importRules clock collision rules).map fun i => (.counts i.imported i.skipped, i.store)

/-- The store that a request asks for is the one of its step. -/
theorem apply_eq_step (q : Request) (t : FileTree) (s : RuleStore) :
    q.apply t s = (q.step t s).map (·.2) := by
  have hdone : ∀ x : Except StoreFault RuleStore, x = (x.map ((.done : Answer), ·)).map (·.2) := by
    rintro (_ | _) <;> rfl
  have hrule : ∀ x : Except StoreFault (StoredRule × RuleStore),
      x.map (·.2) = (x.map fun x => (Answer.rule x.1, x.2)).map (·.2) := by
    rintro (_ | _) <;> rfl
  cases q with
  | create now name description text => exact hrule _
  | delete name => exact hrule _
  | update r => exact hdone _
  | rename old new => exact hdone _
  | recordUse now name => exact hdone _
  | importRules clock source collision =>
    rw [apply, step]
    cases t.read source with
    | error e => rfl
    | ok text =>
      simp only
      cases RuleSet.ofDocument text with
      | error e => rfl
      | ok rules =>
        simp only
        cases s.importRules clock collision rules <;> rfl

/-- Every request is one change of the store. -/
theorem perform_eq (f : RuleFile) (t : FileTree) (q : Request) :
    q.perform f t = f.change (fun s => q.step t s) t := by
  have hdone : ∀ x : Except StoreFault RuleStore,
      (x.map ((), ·)).map (fun x => ((.done : Answer), x.2)) = x.map (.done, ·) := by
    rintro (_ | _) <;> rfl
  cases q with
  | create now name description text => exact answered_change _ t
  | delete name => exact answered_change _ t
  | update r =>
    rw [perform, RuleFile.update, answered_change]
    simp only [hdone, step]
  | rename old new =>
    rw [perform, RuleFile.rename, answered_change]
    simp only [hdone, step]
  | recordUse now name =>
    rw [perform, RuleFile.recordUse, answered_change]
    simp only [hdone, step]
  | importRules clock source collision =>
    rw [perform, RuleFile.importRules, change]
    cases f.load t with
    | error e => rfl
    | ok s =>
      simp only [step]
      cases t.read source with
      | error e => rfl
      | ok text =>
        simp only
        cases RuleSet.ofDocument text with
        | error e => rfl
        | ok rules =>
          simp only
          cases s.importRules clock collision rules with
          | error e => rfl
          | ok i => exact answered_saving _ i.store (i.imported, i.skipped) t

end Request

/-- A call to the rules in a file. -/
inductive Call where
  | request (q : Request)
  | get (name : String)
  | list
  | ruleSet (names : List String)
  | exportRules (target : Path) (names : List String)

/-- What a call answers, and the files after it. -/
def Call.perform (f : RuleFile) (t : FileTree) : Call → Except StoreFault Answer × FileTree
  | request q => q.perform f t
  | get name => ((f.get name t).map .rule, t)
  | list => ((f.load t).map .rules, t)
  | ruleSet names => ((f.ruleSet names t).map .set, t)
  | exportRules target names => answered .number (f.exportRules target names t)

end RuleFile

/-! ### Imports that end early -/

namespace RuleStore

/-- Taking over rules is taking over the first ones and then the others. -/
theorem importRun_append {collision : Collision} {clock : Nat → Instant} {i : Import}
    {front rest : RuleSet} :
    Import.run collision clock i (front ++ rest) =
      match Import.run collision clock i front with
      | .error e => .error e
      | .ok i => Import.run collision (fun n => clock (n + front.length)) i rest := by
  induction front generalizing clock i with
  | nil => rfl
  | cons r front ih =>
    rw [List.cons_append, Import.run, Import.run]
    cases i.step (clock 0) collision r with
    | error e => rfl
    | ok i₁ =>
      simp only [ih, List.length_cons]
      congr 1

/-- Whether an import that takes no rule over another one meets a name that is taken, by a rule of
the store or by one that it has just taken over. -/
def Collides (s : RuleStore) (clock : Nat → Instant) (collision : Collision) (rules : RuleSet) :
    Prop :=
  collision = .refuse ∧ ∃ front r rest i name, rules = front ++ r :: rest ∧
    Import.run .refuse clock ⟨s, 0, 0, 0⟩ front = .ok i ∧ r.name = some name ∧ name ∈ i.store.names

/-- An import that meets a name that is taken ends there. -/
theorem importRules_of_collides {s : RuleStore} {clock : Nat → Instant} {collision : Collision}
    {rules : RuleSet} (h : s.Collides clock collision rules) :
    ∃ name, s.importRules clock collision rules = .error (.alreadyExists name) := by
  obtain ⟨rfl, front, r, rest, i, name, rfl, hfront, hname, htaken⟩ := h
  have hstep : i.step (clock front.length) .refuse r = .error (.alreadyExists name) := by
    rw [Import.step, hname]
    simp only [if_pos (contains_iff.2 htaken)]
  refine ⟨name, ?_⟩
  rw [importRules, importRun_append, hfront]
  simp only [Import.run, Nat.zero_add, hstep]

end RuleStore

/-! ### What is left behind -/

namespace RuleFile

/-- A call that is refused, and does not fail at a file, leaves all files as they are. A request
that is granted by a file that keeps a backup leaves in it the bytes that the file had. An import
changes a file only if every line of its document is read and no name is taken that must be free. -/
theorem Call.perform_leaves (f : RuleFile) {t : FileTree} (hroot : t.IsRooted) (c : Call) :
    (∀ e, (c.perform f t).1 = .error e → (∀ fault, e ≠ .file fault) → (c.perform f t).2 = t) ∧
    (∀ q a, c = .request q → f.keepsBackup = true → t.contains f.path = true →
      (c.perform f t).1 = .ok a →
      ∃ bytes, t.find? f.place = some (.file bytes) ∧
        (c.perform f t).2.find? f.backupPlace = some (.file bytes)) ∧
    ∀ clock source collision, c = .request (.importRules clock source collision) →
      (c.perform f t).2 ≠ t →
      ∃ s text rules, f.load t = .ok s ∧ t.read source = .ok text ∧
        RuleSet.ofDocument text = .ok rules ∧ ¬ s.Collides clock collision rules := by
  refine ⟨fun e herror he => ?_, ?_, ?_⟩
  · cases c with
    | request q =>
      rw [perform, Request.perform_eq] at herror ⊢
      exact change_refused (Prod.ext herror rfl) he
    | get name => rfl
    | list => rfl
    | ruleSet names => rfl
    | exportRules target names =>
      rw [perform, answered] at herror ⊢
      exact exportRules_refused (Prod.ext (map_error_iff.1 herror) rfl) he
  · rintro q a rfl hkeeps hcontains hok
    rw [perform, Request.perform_eq] at hok ⊢
    exact backup_of_change hroot hkeeps hcontains (Prod.ext hok rfl)
  · rintro clock source collision rfl hchanged
    rw [perform, Request.perform_snd] at hchanged
    obtain ⟨s, s', hload, happly⟩ := Request.exists_apply_of_run_ne hchanged
    obtain ⟨text, rules, i, hread, hrules, hi, -⟩ := Request.importRules_of_apply happly
    refine ⟨s, text, rules, hload, hread, hrules, fun hcollides => ?_⟩
    obtain ⟨name, hrefused⟩ := RuleStore.importRules_of_collides hcollides
    rw [hi] at hrefused
    cases hrefused

/-- An import is refused at its second line, after it has taken over the first one; another one that
overwrites is granted, and the backup holds what the file held. -/
theorem Call.perform_leaves_collision :
    let f : RuleFile := ⟨⟨"rules.toml"⟩, true, .toml⟩
    let r : StoredRule := .make ⟨0, 0, 0⟩ "a" "" "U"
    let bytes := FileTree.ofText (StoreFormat.toml.render [r])
    let t : FileTree := ⟨[(["rules.toml"], .file bytes),
      (["in.txt"], .file (FileTree.ofText "b: U\na: N\n"))]⟩
    let call (collision : RuleStore.Collision) : Call :=
      .request (.importRules (fun _ => ⟨0, 0, 0⟩) ⟨"in.txt"⟩ collision)
    t.IsRooted ∧
      ((call .refuse).perform f t).1 = .error (.alreadyExists "a") ∧
      ((call .refuse).perform f t).2 = t ∧
      ((call .overwrite).perform f t).1 = .ok (.counts 2 0) ∧
      t.find? ["rules.toml"] = some (.file bytes) ∧
      ((call .overwrite).perform f t).2.find? ["rules.toml.backup"] = some (.file bytes) ∧
      ∃ s text rules, f.load t = .ok s ∧ t.read ⟨"in.txt"⟩ = .ok text ∧
        RuleSet.ofDocument text = .ok rules ∧
        ¬ s.Collides (fun _ => ⟨0, 0, 0⟩) .overwrite rules := by
  intro f r bytes t call
  have hplace : f.place = ["rules.toml"] := by decide +kernel
  have hbackup : f.backupPlace = ["rules.toml.backup"] := by decide +kernel
  have hroot : t.IsRooted := fun bytes h => by
    simp [t, FileTree.find?, List.lookup_cons] at h
  have hfile : t.find? ["rules.toml"] = some (.file bytes) := by
    simp [t, FileTree.find?]
  have hload : f.load t = .ok [r] := by
    have hdated : ∀ r' ∈ [r], r'.IsDated := by
      rw [List.forall_mem_singleton]
      exact StoredRule.isDated_make ⟨by decide +kernel, by decide +kernel⟩ _ _ _
    rw [load_of_file (by decide +kernel) (by decide +kernel) (hplace ▸ hfile)]
    simp only [show f.format = .toml from rfl, StoreFormat.read?_render hdated]
  have hread : t.read ⟨"in.txt"⟩ = .ok "b: U\na: N\n" := by
    have hsource : FileTree.resolve (Path.mk "in.txt").components = ["in.txt"] := by decide +kernel
    refine FileTree.read_of_file (by decide +kernel) (by decide +kernel) ?_
    rw [hsource]
    simp [t, FileTree.find?, List.lookup_cons]
  have hwritable : f.IsWritable t := by
    refine ⟨by decide +kernel, by decide +kernel, isOpen_of_eq_nil (by decide +kernel), ?_, ?_⟩
    · rw [hplace, hfile]
      simp
    · rw [hbackup]
      simp [t, FileTree.find?, List.lookup_cons]
  have hrefused : ((call .refuse).perform f t).1 = .error (.alreadyExists "a") := by
    have hstep : (Request.importRules (fun _ => ⟨0, 0, 0⟩) ⟨"in.txt"⟩ .refuse).step t [r] =
        .error (.alreadyExists "a") := by
      simp only [Request.step, hread]
      decide +kernel
    rw [perform, Request.perform_eq, change_of_refused hload hstep]
  have hgranted : ((call .overwrite).perform f t).1 = .ok (.counts 2 0) := by
    let s : RuleStore := [.make ⟨0, 0, 0⟩ "a" "" "N", .make ⟨0, 0, 0⟩ "b" "" "U"]
    have hstep : (Request.importRules (fun _ => ⟨0, 0, 0⟩) ⟨"in.txt"⟩ .overwrite).step t [r] =
        .ok (.counts 2 0, s) := by
      simp only [Request.step, hread]
      decide +kernel
    obtain ⟨t', hsave, -⟩ := hwritable.save_ok s
    rw [perform, Request.perform_eq, change_ok_iff.2 ⟨[r], s, hload, hstep, hsave⟩]
  have hcontains : t.contains f.path = true :=
    contains_of_find? (by decide +kernel) (by decide +kernel) (hplace ▸ hfile)
  obtain ⟨hleft, -⟩ := perform_leaves f hroot (call .refuse)
  obtain ⟨-, hkept, hchecked⟩ := perform_leaves f hroot (call .overwrite)
  obtain ⟨bytes', hfile', hbytes⟩ := hkept _ _ rfl rfl hcontains hgranted
  obtain rfl : bytes' = bytes := by
    rw [hplace, hfile] at hfile'
    simpa using hfile'.symm
  rw [hbackup] at hbytes
  refine ⟨hroot, hrefused, hleft _ hrefused (by simp), hgranted, hfile, hbytes,
    hchecked _ _ _ rfl fun hsame => ?_⟩
  rw [hsame] at hbytes
  simp [t, FileTree.find?, List.lookup_cons] at hbytes

end RuleFile

end MailFilter
