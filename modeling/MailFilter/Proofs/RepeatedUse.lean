import MailFilter.Proofs.CommandFiles
import MailFilter.Proofs.EntryPoints
import MailFilter.Proofs.ImportFrame

/-!
# Using a Rule Again and Again

A stored rule is used by a request to its file or by a filter that goes by it. Where the file can be
written, each use is granted while there is room for it in the count, and the file can be written
again. So uses succeed one after the other, and of all that is stored they change the count and the
last use of that rule alone (`RuleFile.Use.step`).

A file can hold every count that a word of 32 bits can tell, and from the largest one there is no
next. There the program stops before anything is written, so the file stays as it is from then on
(`RuleFile.Use.step_full`).

## Main results

* `Program.Session.fault_of_filter`: once a filter has its rule, it fails at messages only.
* `RuleFile.Use.load_runAll`: the count after any uses.
* `RuleFile.counts_use`: what one use does after any others.
* `RuleFile.counts_use_largest`: the largest count cannot be counted further.
-/

namespace MailFilter

open Calendar (Instant)

/-! ### Filters that have their rule -/

namespace Program

/-- A fault of messages, or of a command that cannot be made for one. -/
def Fault.IsOfMessages : Fault → Prop
  | .messages _ => True
  | .command _ => True
  | _ => False

namespace Session

open Procedure

variable {s : Session} {choice : RuleChoice} {count : Bool} {source : MessageSource}
  {rule : Rule} {w w' : World} {fault : Fault}

/-- Once a filter has its rule, it fails at messages only, if it fails. -/
theorem fault_of_filter (hchosen : s.chosenRule choice w = (.ok rule, w'))
    (h : (s.filter choice count source w).1 = .error fault) : fault.IsOfMessages := by
  have hprint : ∀ selection : Selection, (if count
      then printLine (Text.natural selection.taken.length)
      else do
        printLines (selection.taken.map s.messageLine)
        s.summarize selection.taken.length selection.messages.length "matched").Answers :=
    fun selection => .ite (answers_printLine _) ((answers_printLines _).bind fun _ =>
      .ite (answers_pure ()) ((answers_printLine _).bind fun _ => answers_printLine _))
  -- what is left to fail are the messages and the commands for them
  rcases error_of_bind h with h | ⟨selection, w₁, -, h⟩
  · rw [filtered, bind_of_ok hchosen] at h
    rcases error_of_bind h with h | ⟨messages, w₁, -, h⟩
    · obtain ⟨e, rfl⟩ := error_of_result h
      trivial
    · rw [bind_of_ok (reading_eq _ w₁)] at h
      rcases error_of_bind h with h | ⟨x, w₂, -, h⟩
      · obtain ⟨e, rfl⟩ := error_of_result h
        trivial
      · exact absurd h (Answers.not_error
          (.ite ((answers_note _).bind fun _ => answers_pure _) (answers_pure _)))
  · exact absurd h (hprint selection).not_error

/-- The same for the command. -/
theorem fault_of_perform_filter (hchosen : s.chosenRule choice w = (.ok rule, w'))
    (h : (s.perform (.filter choice count source) w).1 = .error fault) : fault.IsOfMessages := by
  rcases error_of_bind h with h | ⟨_, w₁, -, h⟩
  · exact fault_of_filter hchosen h
  · exact absurd h (answers_pure true).not_error

/-- A filter fails where the use of its rule cannot be counted. -/
theorem perform_filter_of_refused {name : String} {stored : StoredRule} {t t' : FileTree}
    {e : StoreFault} (hget : s.ruleFile.get name t = .ok stored) (hrule : stored.parsed = .ok rule)
    (hrefused : s.ruleFile.recordUse (s.surroundings.clock 0) name t = (.error e, t')) :
    s.perform (.filter (.stored name) count source) { files := t } =
      (.error (.store e), { files := t' }) := by
  have hchosen : s.chosenRule (.stored name) { files := t } =
      (.error (.store e), { files := t' }) := by
    unfold chosenRule
    simp only
    rw [bind_of_ok (query_of_ok hget), hrule]
    show (change _ _ >>= fun _ => _) _ = _
    exact bind_of_error (change_of_error hrefused)
  have hfiltered : s.filtered (.stored name) source { files := t } =
      (.error (.store e), { files := t' }) := bind_of_error hchosen
  exact bind_of_error (bind_of_error hfiltered)

end Session

end Program

/-! ### The first rule of a name -/

/-- A rule after some uses, which count as long as there is room: nothing is different but the count
and the last use. -/
structure StoredRule.IsUsed (r : StoredRule) (uses : Nat) (after : StoredRule) : Prop where
  count : after.useCount.toNat = min (r.useCount.toNat + uses) (UInt32.size - 1)
  same : after = { r with useCount := after.useCount, lastUsed := after.lastUsed }

namespace StoredRule

variable {r after : StoredRule} {uses : Nat}

/-- Uses change no name. -/
theorem IsUsed.name_eq (h : r.IsUsed uses after) : after.name = r.name := by rw [h.same]

/-- Uses change no text. -/
theorem IsUsed.rule_eq (h : r.IsUsed uses after) : after.rule = r.rule := by rw [h.same]

/-- A rule that is not used. -/
theorem IsUsed.refl (r : StoredRule) : r.IsUsed 0 r :=
  ⟨(Nat.min_eq_left (Nat.le_pred_of_lt r.useCount.toNat_lt_size)).symm, rfl⟩

/-- There is room for one more use exactly if all uses fit into the count. -/
theorem IsUsed.canCount_iff (h : r.IsUsed uses after) :
    after.CanCount ↔ r.useCount.toNat + uses + 1 < UInt32.size := by
  have hcount := h.count
  rw [CanCount]
  omega

/-- One more use. -/
theorem IsUsed.used (h : r.IsUsed uses after) (hroom : after.CanCount) (now : Instant) :
    r.IsUsed (uses + 1) (after.used now) := by
  refine ⟨?_, ?_⟩
  · have hcount := h.count
    have hfits := h.canCount_iff.1 hroom
    rw [useCount_used now hroom]
    omega
  · rw [StoredRule.used, h.same]

/-- One more use for which there is no room. -/
theorem IsUsed.full (h : r.IsUsed uses after) (hfull : ¬ after.CanCount) :
    r.IsUsed (uses + 1) after := by
  have hcount := h.count
  have hfits := mt h.canCount_iff.2 hfull
  exact ⟨by omega, h.same⟩

end StoredRule

namespace RuleStore

variable {s front back : RuleStore} {r : StoredRule} {name : String}

/-- The rule of a name is the first one that has it. -/
theorem get?_eq_some_iff : s.get? name = some r ↔
    r.name = name ∧ ∃ front back, s = front ++ r :: back ∧ name ∉ names front := by
  rw [get?, List.find?_eq_some_iff_append]
  simp [names]

/-- The first rule of a name is changed. -/
theorem onRule_append (hname : r.name = name) (hfirst : name ∉ names front)
    (g : StoredRule → StoredRule) : onRule name g (front ++ r :: back) = front ++ g r :: back := by
  induction front with
  | nil => rw [List.nil_append, onRule, if_pos hname, List.nil_append]
  | cons r' front ih =>
    obtain ⟨hne, hrest⟩ : name ≠ r'.name ∧ name ∉ names front := by simpa [names] using hfirst
    rw [List.cons_append, onRule, if_neg (Ne.symm hne), ih hrest, List.cons_append]

end RuleStore

/-! ### Uses -/

namespace RuleFile

/-- A use of a stored rule: a request to the file, or a filter that goes by the rule. -/
inductive Use where
  | recorded (now : Instant)
  | filtered (s : Program.Session) (count : Bool) (source : Program.MessageSource)

namespace Use

/-- The instant of a use. -/
def now : Use → Instant
  | recorded now => now
  | filtered s _ _ => s.surroundings.clock 0

/-- Whether a use goes to a file, at an instant that a clock gives. -/
def IsOf (f : RuleFile) (u : Use) : Prop :=
  u.now.IsRegular ∧ ∀ s count source, u = filtered s count source → s.ruleFile = f

/-- The files after a use of the rule of a name. -/
def run (f : RuleFile) (name : String) (t : FileTree) : Use → FileTree
  | recorded now => (f.recordUse now name t).2
  | filtered s count source =>
    (s.perform (.filter (.stored name) count source) { files := t }).2.files

/-- Whether a use succeeds: a request is granted, and a filter gets its rule and then fails at
messages only, if it fails. -/
def Succeeds (f : RuleFile) (name : String) (rule : Rule) (t : FileTree) : Use → Prop
  | recorded now => (f.recordUse now name t).1 = .ok ()
  | filtered s count source =>
    (s.chosenRule (.stored name) { files := t }).1 = .ok rule ∧
      ∀ fault, (s.perform (.filter (.stored name) count source) { files := t }).1 = .error fault →
        fault.IsOfMessages

/-- Whether a use stops because there is no room for it in the count. -/
def Stops (f : RuleFile) (name : String) (t : FileTree) : Use → Prop
  | recorded now => (f.recordUse now name t).1 = .error (.countFull name)
  | filtered s count source =>
    (s.perform (.filter (.stored name) count source) { files := t }).1 =
      .error (.store (.countFull name))

/-- The files after uses, one after the other. -/
def runAll (f : RuleFile) (name : String) (us : List Use) (t : FileTree) : FileTree :=
  us.foldl (fun t u => u.run f name t) t

variable {f : RuleFile} {t : FileTree} {name : String} {r : StoredRule} {rule : Rule}
  {front back : RuleStore} {u : Use}

/-- The files after one more use. -/
theorem runAll_concat (us : List Use) (u : Use) :
    runAll f name (us ++ [u]) t = u.run f name (runAll f name us t) :=
  List.foldl_concat _ t u us

/-- A use changes the files as its request does. -/
theorem run_eq_request (hu : u.IsOf f) (hget : f.get name t = .ok r)
    (hrule : r.parsed = .ok rule) :
    u.run f name t = (Request.recordUse u.now name).run f t := by
  cases u with
  | recorded now => rfl
  | filtered s count source =>
    obtain rfl := hu.2 s count source rfl
    exact Program.Session.files_perform_of_some
      (Program.Session.useRequest?_of_get hget hrule)

/-- The rule of a name in a file. -/
theorem get_of_load (hload : f.load t = .ok (front ++ r :: back)) (hname : r.name = name)
    (hfirst : name ∉ RuleStore.names front) :
    (front ++ r :: back).get? name = some r ∧ f.get name t = .ok r := by
  have hget : (front ++ r :: back).get? name = some r :=
    RuleStore.get?_eq_some_iff.2 ⟨hname, front, back, rfl, hfirst⟩
  exact ⟨hget, by simp only [RuleFile.get, hload, RuleStore.get, hget]⟩

/-- One use succeeds and counts if there is room in the count, whatever the other rules are, and the
next one can follow. -/
theorem step (hf : f.format = .toml) (hw : f.IsWritable t)
    (hload : f.load t = .ok (front ++ r :: back)) (hname : r.name = name)
    (hfirst : name ∉ RuleStore.names front) (hcount : r.CanCount)
    (hrule : Rule.parse r.rule = .ok rule) (hu : u.IsOf f) :
    u.Succeeds f name rule t ∧ f.load (u.run f name t) = .ok (front ++ r.used u.now :: back) ∧
      f.IsWritable (u.run f name t) := by
  obtain ⟨hget, hgetFile⟩ := get_of_load hload hname hfirst
  have hparsed : r.parsed = .ok rule := by simp only [StoredRule.parsed, hrule]
  have hrecord : ∀ now, (front ++ r :: back).recordUse now name =
      .ok (front ++ r.used now :: back) := fun now =>
    RuleStore.recordUse_ok_iff.2
      ⟨r, hget, hcount, (RuleStore.onRule_append hname hfirst _).symm⟩
  obtain ⟨hloaded, hwritable⟩ :=
    load_run_of_isWritable (q := .recordUse u.now name) hf hw hload (hrecord u.now) hu.1
  rw [run_eq_request hu hgetFile hparsed]
  refine ⟨?_, hloaded, hwritable⟩
  cases u with
  | recorded now =>
    obtain ⟨t', hsave, -⟩ := hw.save_ok (front ++ r.used now :: back)
    have hchange : f.recordUse now name t = (.ok (), t') :=
      change_ok_iff.2 ⟨_, _, hload, by rw [hrecord]; rfl, hsave⟩
    exact congrArg Prod.fst hchange
  | filtered s count source =>
    obtain rfl := hu.2 s count source rfl
    obtain ⟨w', hchosen, -⟩ :=
      Program.Session.chosenRule_stored (w := { files := t }) hload hw hget hcount hrule
    exact ⟨congrArg Prod.fst hchosen, fun fault h =>
      Program.Session.fault_of_perform_filter hchosen h⟩

/-- One use stops if there is no room in the count, and nothing is written. -/
theorem step_full (hload : f.load t = .ok (front ++ r :: back)) (hname : r.name = name)
    (hfirst : name ∉ RuleStore.names front) (hfull : ¬ r.CanCount)
    (hrule : Rule.parse r.rule = .ok rule) (hu : u.IsOf f) :
    u.Stops f name t ∧ u.run f name t = t := by
  obtain ⟨hget, hgetFile⟩ := get_of_load hload hname hfirst
  have hparsed : r.parsed = .ok rule := by simp only [StoredRule.parsed, hrule]
  have hrecord : ∀ now, f.recordUse now name t = (.error (.countFull name), t) := fun now =>
    change_of_refused hload (by simp only [RuleStore.recordUse, hget, if_neg hfull, Except.map])
  refine ⟨?_, (run_eq_request hu hgetFile hparsed).trans (congrArg Prod.snd (hrecord u.now))⟩
  cases u with
  | recorded now => exact congrArg Prod.fst (hrecord now)
  | filtered s count source =>
    obtain rfl := hu.2 s count source rfl
    exact congrArg Prod.fst
      (Program.Session.perform_filter_of_refused hgetFile hparsed (hrecord _))

/-- After any uses the rule has been used that often, as long as there was room in its count, and
nothing else is different. -/
theorem load_runAll {us : List Use} (hf : f.format = .toml) (hw : f.IsWritable t)
    (hload : f.load t = .ok (front ++ r :: back)) (hname : r.name = name)
    (hfirst : name ∉ RuleStore.names front) (hrule : Rule.parse r.rule = .ok rule)
    (hus : ∀ u ∈ us, u.IsOf f) :
    ∃ after, r.IsUsed us.length after ∧
      f.load (runAll f name us t) = .ok (front ++ after :: back) ∧
      f.IsWritable (runAll f name us t) := by
  induction us using List.reverseRecOn with
  | nil => exact ⟨r, .refl r, hload, hw⟩
  | append_singleton us u ih =>
    obtain ⟨hus, hu⟩ := List.forall_mem_append.1 hus
    obtain ⟨after, hused, hloaded, hwritable⟩ := ih hus
    have hname' : after.name = name := hused.name_eq.trans hname
    have hrule' : Rule.parse after.rule = .ok rule := by rw [hused.rule_eq, hrule]
    have hu' : u.IsOf f := hu u (List.mem_singleton_self u)
    rw [runAll_concat, List.length_append]
    by_cases hroom : after.CanCount
    · obtain ⟨-, hloaded', hwritable'⟩ := step hf hwritable hloaded hname' hfirst hroom hrule' hu'
      exact ⟨after.used u.now, hused.used hroom u.now, hloaded', hwritable'⟩
    · obtain ⟨-, hsame⟩ := step_full hloaded hname' hfirst hroom hrule' hu'
      rw [hsame]
      exact ⟨after, hused.full hroom, hloaded, hwritable⟩

end Use

variable {f : RuleFile} {t : FileTree} {s : RuleStore} {name : String} {r : StoredRule}
  {rule : Rule}

/-- Whatever uses came before, one more use of a stored rule succeeds exactly if the count can tell
all of them. Then it makes the count one higher, and of all that is stored it changes nothing else
but the last use of that rule. If the count cannot tell them, the program stops and leaves the files
as they are. -/
theorem counts_use (hf : f.format = .toml) (hw : f.IsWritable t) (hload : f.load t = .ok s)
    (hget : s.get? name = some r) (hrule : Rule.parse r.rule = .ok rule) (us : List Use) (u : Use)
    (hus : ∀ v ∈ us, v.IsOf f) (hu : u.IsOf f) :
    ∃ front back before, s = front ++ r :: back ∧ name ∉ RuleStore.names front ∧
      f.load (Use.runAll f name us t) = .ok (front ++ before :: back) ∧
      r.IsUsed us.length before ∧
      (r.useCount.toNat + us.length + 1 < 2 ^ 32 →
        u.Succeeds f name rule (Use.runAll f name us t) ∧
          before.useCount.toNat = r.useCount.toNat + us.length ∧
          ∃ after, f.load (u.run f name (Use.runAll f name us t)) = .ok (front ++ after :: back) ∧
            after.useCount.toNat = before.useCount.toNat + 1 ∧
            after = { before with useCount := after.useCount, lastUsed := u.now }) ∧
      (2 ^ 32 ≤ r.useCount.toNat + us.length + 1 →
        u.Stops f name (Use.runAll f name us t) ∧
          u.run f name (Use.runAll f name us t) = Use.runAll f name us t) := by
  obtain ⟨hname, front, back, rfl, hfirst⟩ := RuleStore.get?_eq_some_iff.1 hget
  obtain ⟨before, hused, hloaded, hwritable⟩ :=
    Use.load_runAll hf hw hload hname hfirst hrule hus
  have hname' : before.name = name := hused.name_eq.trans hname
  have hrule' : Rule.parse before.rule = .ok rule := by rw [hused.rule_eq, hrule]
  refine ⟨front, back, before, rfl, hfirst, hloaded, hused, fun hfits => ?_, fun hfull => ?_⟩
  · have hroom : before.CanCount := hused.canCount_iff.2 hfits
    obtain ⟨hsucceeds, hloaded', -⟩ := Use.step hf hwritable hloaded hname' hfirst hroom hrule' hu
    have hcount : before.useCount.toNat = r.useCount.toNat + us.length :=
      hused.count.trans (Nat.min_eq_left (Nat.le_pred_of_lt (Nat.lt_of_succ_lt hfits)))
    exact ⟨hsucceeds, hcount, before.used u.now, hloaded', StoredRule.useCount_used _ hroom, rfl⟩
  · exact Use.step_full hloaded hname' hfirst
      (fun hroom => Nat.not_lt.2 hfull (hused.canCount_iff.1 hroom)) hrule' hu

/-- A request and then a filter, which takes the count to the largest one. -/
theorem counts_use_up_to_largest :
    let r : StoredRule := ⟨"a", "", ⟨0, 0, 0⟩, ⟨0, 0, 0⟩, 4294967293, "U"⟩
    let f := rootFile "rules.toml"
    let t := filesOf [r] ""
    let σ : Program.Surroundings :=
      ⟨[], ⟨"cfg"⟩, "", fun _ => ⟨2, 0, 0⟩, false, fun _ _ _ => .failed⟩
    let filter : Use := .filtered ⟨σ, { rulesPath := some ⟨"rules.toml"⟩ }, false⟩ false
      ⟨⟨"in.txt"⟩, none, false⟩
    let t₁ := Use.runAll f "a" [.recorded ⟨1, 0, 0⟩] t
    f.format = .toml ∧ f.IsWritable t ∧ f.load t = .ok [r] ∧ RuleStore.get? [r] "a" = some r ∧
      (Use.recorded ⟨1, 0, 0⟩).IsOf f ∧ filter.IsOf f ∧
      ∃ rule, Rule.parse r.rule = .ok rule ∧ filter.Succeeds f "a" rule t₁ ∧
        ∃ after, f.load (filter.run f "a" t₁) = .ok [after] ∧ after.useCount = 4294967295 := by
  intro r f t σ filter t₁
  have hdated : ∀ r' ∈ [r], r'.IsDated :=
    List.forall_mem_singleton.2 ⟨isRegular_zero, isRegular_zero⟩
  obtain ⟨hload, -, hw⟩ := read_filesOf "" hdated
  have hget : RuleStore.get? [r] "a" = some r := by decide +kernel
  have hrecorded : (Use.recorded ⟨1, 0, 0⟩).IsOf f :=
    ⟨⟨by decide +kernel, by decide +kernel⟩, fun _ _ _ h => by cases h⟩
  have hfilter : filter.IsOf f :=
    ⟨⟨by decide +kernel, by decide +kernel⟩, fun _ _ _ h => (Use.filtered.inj h).1 ▸ rfl⟩
  let rule : Rule := ⟨[⟨false, .status .unread⟩], .all, by simp⟩
  have hrule : Rule.parse r.rule = .ok rule := by decide +kernel
  obtain ⟨front, back, before, hsplit, -, -, -, hfits, -⟩ :=
    counts_use rfl hw hload hget hrule [.recorded ⟨1, 0, 0⟩] filter
      (List.forall_mem_singleton.2 hrecorded) hfilter
  obtain ⟨rfl, rfl⟩ : front = [] ∧ back = [] := by
    simpa [List.append_eq_singleton_iff] using hsplit.symm
  obtain ⟨hsucceeds, hbefore, after, hafter, hhigher, -⟩ := hfits (by decide)
  refine ⟨rfl, hw, hload, hget, hrecorded, hfilter, rule, hrule, hsucceeds, after, hafter, ?_⟩
  rw [← UInt32.toNat_inj, hhigher, hbefore]
  rfl

/-- The largest count cannot be counted further. -/
theorem counts_use_largest :
    let r : StoredRule := ⟨"a", "", ⟨0, 0, 0⟩, ⟨0, 0, 0⟩, 4294967295, "U"⟩
    let f := rootFile "rules.toml"
    let t := filesOf [r] ""
    f.load t = .ok [r] ∧ RuleStore.get? [r] "a" = some r ∧
      (∃ rule, Rule.parse r.rule = .ok rule) ∧
      f.recordUse ⟨1, 0, 0⟩ "a" t = (.error (.countFull "a"), t) := by
  intro r f t
  have hdated : ∀ r' ∈ [r], r'.IsDated :=
    List.forall_mem_singleton.2 ⟨isRegular_zero, isRegular_zero⟩
  obtain ⟨hload, -⟩ := read_filesOf "" hdated
  have hrule : Rule.parse r.rule = .ok ⟨[⟨false, .status .unread⟩], .all, by simp⟩ := by
    decide +kernel
  have hrecord : RuleStore.recordUse [r] ⟨1, 0, 0⟩ "a" = .error (.countFull "a") := by
    decide +kernel
  exact ⟨hload, by decide +kernel, ⟨_, hrule⟩,
    change_of_refused hload (congrArg (Except.map ((), ·)) hrecord)⟩

end RuleFile

end MailFilter
