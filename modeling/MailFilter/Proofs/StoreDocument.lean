import MailFilter.Proofs.Timestamps
import MailFilter.Proofs.TomlDocument
import MailFilter.Store.RuleFile

/-!
# The Rules of a File Are Read Back

Rules are kept in a file with one table for each of them, and every text can stand in it. Of an
instant only its timestamp is kept. So what is written is read back exactly if the instants of the
rules are regular (`StoredRule.IsDated`), as those of a clock are, and those of every file that can
be read.

## Main results

* `StoreFormat.readRule?_row`: the table of a rule is read back.
* `StoreFormat.read?_render`: every store with regular instants is read back.
* `StoreFormat.redated_of_read?_render`: what is read of any other store differs in instants only.
* `RuleFile.isDated_of_load`: every store that is read has regular instants.
-/

namespace MailFilter

open Calendar (Instant)

namespace StoredRule

/-- Both instants are kept by their timestamps. -/
structure IsDated (r : StoredRule) : Prop where
  created : r.created.IsRegular
  lastUsed : r.lastUsed.IsRegular

/-- A rule that is made at a regular instant. -/
theorem isDated_make {now : Instant} (h : now.IsRegular) (name description rule : String) :
    (make now name description rule).IsDated := ⟨h, h⟩

end StoredRule

namespace StoreFormat

open Toml (IsBare IsReadable IsRow Value isReadable_integer isReadable_text lookup_rowEntries
  read?_writeRows rowEntries)

/-! ### Values -/

/-- A count of uses is read back. -/
theorem count?_ofNat (n : UInt32) : count? (.scalar (.integer (Int64.ofNat n.toNat))) = some n := by
  have hn : n.toNat < UInt32.size := n.toNat_lt_size
  have hvalue : (Int64.ofNat n.toNat).toInt = n.toNat :=
    Int64.toInt_ofNat_of_lt (Nat.lt_trans hn (by decide))
  have hrange : (0 : Int) ≤ n.toNat ∧ (n.toNat : Int) < UInt32.size :=
    ⟨Int.natCast_nonneg _, Int.ofNat_lt.2 hn⟩
  rw [count?, hvalue, if_pos hrange, Int.toNat_natCast, UInt32.ofNat_toNat]

/-- A regular instant is read back. -/
theorem instant?_timestamp {t : Instant} (h : t.IsRegular) :
    instant? (.scalar (.text t.timestamp)) = some t := by
  rw [instant?, text?, Option.bind_some, Instant.ofLenientTimestamp?_timestamp h]

/-- An instant that is read is regular. -/
theorem isRegular_of_instant? {v : Value} {t : Instant} (h : instant? v = some t) :
    t.IsRegular := by
  obtain ⟨text, -, htext⟩ := Option.bind_eq_some_iff.1 h
  exact Instant.isRegular_of_ofLenientTimestamp? htext

/-! ### Rules -/

/-- The table of a rule can be read. -/
theorem isRow_row (r : StoredRule) : IsRow (row r) where
  nodup := by
    show (["name", "description", "created", "last_used", "use_count", "rule"] : List String).Nodup
    decide +kernel
  bare := by
    have hkeys : ∀ key ∈ (row r).map (·.1), IsBare key := by
      show ∀ key ∈ ["name", "description", "created", "last_used", "use_count", "rule"], IsBare key
      decide +kernel
    exact fun e he => hkeys e.1 (List.mem_map_of_mem he)
  readable := by
    simp only [row, List.forall_mem_cons]
    exact ⟨isReadable_text _, isReadable_text _, isReadable_text _, isReadable_text _,
      isReadable_integer _, isReadable_text _, by simp⟩

/-- The table of a rule is read back, up to its instants. -/
theorem readRule?_row_eq (r : StoredRule) :
    readRule? (.table .header (rowEntries (row r))) =
      (instant? (.scalar (.text r.created.timestamp))).bind fun created =>
        (instant? (.scalar (.text r.lastUsed.timestamp))).map fun lastUsed =>
          { r with created := created, lastUsed := lastUsed } := by
  have hfield : ∀ key v, (key, v) ∈ row r →
      (rowEntries (row r)).lookup key = some (.scalar v) := fun key v hv =>
    lookup_rowEntries (isRow_row r).nodup hv
  have hname := hfield "name" (.text r.name) (by simp [row])
  have hdescription := hfield "description" (.text r.description) (by simp [row])
  have hcreated := hfield "created" (.text r.created.timestamp) (by simp [row])
  have hlastUsed := hfield "last_used" (.text r.lastUsed.timestamp) (by simp [row])
  have hcount := hfield "use_count" (.integer (Int64.ofNat r.useCount.toNat)) (by simp [row])
  have hrule := hfield "rule" (.text r.rule) (by simp [row])
  rw [readRule?, rule?, hname, hdescription, hcreated, hlastUsed, hcount, hrule]
  simp only [Option.bind_some, orMissing, count?_ofNat]
  generalize instant? (.scalar (.text r.created.timestamp)) = created
  generalize instant? (.scalar (.text r.lastUsed.timestamp)) = lastUsed
  cases created <;> cases lastUsed <;> rfl

/-- The table of a rule with regular instants is read back. -/
theorem readRule?_row {r : StoredRule} (h : r.IsDated) :
    readRule? (.table .header (rowEntries (row r))) = some r := by
  rw [readRule?_row_eq, instant?_timestamp h.created, instant?_timestamp h.lastUsed]
  rfl

/-- What is read of the table of a rule is the rule, with instants that may differ. -/
theorem redated_of_readRule? {r r' : StoredRule}
    (h : readRule? (.table .header (rowEntries (row r))) = some r') :
    ∃ created lastUsed : Instant, r' = { r with created := created, lastUsed := lastUsed } := by
  rw [readRule?_row_eq] at h
  obtain ⟨created, -, h⟩ := Option.bind_eq_some_iff.1 h
  obtain ⟨lastUsed, -, rfl⟩ := Option.map_eq_some_iff.1 h
  exact ⟨created, lastUsed, rfl⟩

/-- A rule that is read has regular instants. -/
theorem isDated_of_rule? {field : Nat → String → Option Value} {r : StoredRule}
    (h : rule? field = some r) : r.IsDated := by
  simp only [rule?, bind, Option.bind_eq_some_iff, pure] at h
  obtain ⟨_, -, _, -, created, hcreated, lastUsed, hlastUsed, _, -, _, -, heq⟩ := h
  cases heq
  obtain ⟨v, -, hv⟩ := hcreated
  obtain ⟨v', -, hv'⟩ := hlastUsed
  exact ⟨isRegular_of_instant? hv, isRegular_of_instant? hv'⟩

/-- A rule that is read has regular instants, whatever its form. -/
theorem isDated_of_readRule? {v : Value} {r : StoredRule} (h : readRule? v = some r) :
    r.IsDated := by
  unfold readRule? at h
  split at h
  · exact isDated_of_rule? h
  · exact isDated_of_rule? h
  · cases h

/-! ### Documents -/

/-- Reading leads back, if it does for every part. -/
theorem mapM_eq_some {α : Type} {read? : α → Option α} {l : List α}
    (h : ∀ a ∈ l, read? a = some a) : l.mapM read? = some l := by
  induction l with
  | nil => rfl
  | cons a l ih =>
    obtain ⟨ha, hl⟩ := List.forall_mem_cons.1 h
    rw [List.mapM_cons, ha, ih hl]
    rfl

/-- What is read has in each part what it was read from has. -/
theorem map_eq_of_mapM_some {α β γ : Type} {read? : β → Option α} {get : α → γ} {get' : β → γ}
    (hread : ∀ b a, read? b = some a → get a = get' b) {l : List β} {as : List α}
    (h : l.mapM read? = some as) : as.map get = l.map get' := by
  induction l generalizing as with
  | nil =>
    cases h
    rfl
  | cons b l ih =>
    simp only [List.mapM_cons, bind, Option.bind_eq_some_iff, pure] at h
    obtain ⟨a, ha, as', hl, heq⟩ := h
    cases heq
    rw [List.map_cons, List.map_cons, hread b a ha, ih hl]

/-- What is read comes from a part that is read. -/
theorem exists_of_mem_mapM_some {α β : Type} {read? : β → Option α} {l : List β} {as : List α}
    (h : l.mapM read? = some as) {a : α} (ha : a ∈ as) : ∃ b ∈ l, read? b = some a := by
  induction l generalizing as with
  | nil =>
    cases h
    cases ha
  | cons b l ih =>
    simp only [List.mapM_cons, bind, Option.bind_eq_some_iff, pure] at h
    obtain ⟨a', ha', as', hl, heq⟩ := h
    cases heq
    rcases List.mem_cons.1 ha with rfl | ha
    · exact ⟨b, List.mem_cons_self, ha'⟩
    · obtain ⟨b', hb', hread⟩ := ih hl ha
      exact ⟨b', List.mem_cons_of_mem b hb', hread⟩

/-- What is written is read table by table. -/
theorem read?_render_eq (s : RuleStore) :
    toml.read? (toml.render s) =
      s.mapM fun r => readRule? (.table .header (rowEntries (row r))) := by
  show ((Toml.read? (renderToml s)).bind fun entries => readRows? (entries.lookup "rule")) = _
  by_cases hs : s = []
  · subst hs
    decide +kernel
  · have hrows : ∀ row' ∈ s.map row, IsRow row' := by
      intro row' hrow'
      obtain ⟨r, -, rfl⟩ := List.mem_map.1 hrow'
      exact isRow_row r
    have hread : Toml.read? (renderToml s) =
        some [("rule", .tables ((s.map row).map rowEntries))] :=
      read?_writeRows (by decide +kernel) hrows (by simpa using hs)
    have hlookup : List.lookup "rule" [("rule", Value.tables ((s.map row).map rowEntries))] =
        some (.tables ((s.map row).map rowEntries)) := List.lookup_cons_self
    rw [hread, Option.bind_some, hlookup]
    show ((s.map row).map rowEntries).mapM (fun entries => readRule? (.table .header entries)) = _
    rw [List.map_map, List.mapM_map]
    rfl

/-- Every store with regular instants is read back. -/
theorem read?_render {s : RuleStore} (h : ∀ r ∈ s, r.IsDated) :
    toml.read? (toml.render s) = some s := by
  rw [read?_render_eq]
  exact mapM_eq_some fun r hr => readRule?_row (h r hr)

/-- What is read of a store that was written has the names of the store, in their order. -/
theorem names_of_read?_render {s s' : RuleStore} (h : toml.read? (toml.render s) = some s') :
    s'.names = s.names := by
  rw [read?_render_eq] at h
  refine map_eq_of_mapM_some (fun r r' hr => ?_) h
  obtain ⟨created, lastUsed, rfl⟩ := redated_of_readRule? hr
  rfl

/-- What is read of a store that was written are rules of the store, with instants that may
differ. -/
theorem redated_of_read?_render {s s' : RuleStore} (h : toml.read? (toml.render s) = some s') :
    ∀ r' ∈ s', ∃ r ∈ s, ∃ created lastUsed : Instant,
      r' = { r with created := created, lastUsed := lastUsed } := by
  rw [read?_render_eq] at h
  intro r' hr'
  obtain ⟨r, hr, hread⟩ := exists_of_mem_mapM_some h hr'
  exact ⟨r, hr, redated_of_readRule? hread⟩

/-- Every store that is read has regular instants. -/
theorem isDated_of_read? {text : String} {s : RuleStore} (h : toml.read? text = some s) :
    ∀ r ∈ s, r.IsDated := by
  intro r hr
  have h : (Toml.read? text).bind (fun entries => readRows? (entries.lookup "rule")) = some s := h
  obtain ⟨entries, -, hrows⟩ := Option.bind_eq_some_iff.1 h
  unfold readRows? at hrows
  split at hrows
  · cases hrows
    cases hr
  · obtain ⟨row, -, hread⟩ := exists_of_mem_mapM_some hrows hr
    exact isDated_of_readRule? hread
  · obtain ⟨item, -, hread⟩ := exists_of_mem_mapM_some hrows hr
    exact isDated_of_readRule? hread
  · cases hrows

end StoreFormat

namespace RuleFile

variable {f : RuleFile} {t : FileTree} {s : RuleStore}

/-- Every store that a file is loaded as has regular instants. -/
theorem isDated_of_load (hf : f.format = .toml) (h : f.load t = .ok s) : ∀ r ∈ s, r.IsDated := by
  rw [load] at h
  split at h
  · split at h
    · cases h
    · split at h
      · next hread =>
        cases h
        exact StoreFormat.isDated_of_read? (hf ▸ hread)
      · cases h
  · cases h
    simp

end RuleFile

end MailFilter
