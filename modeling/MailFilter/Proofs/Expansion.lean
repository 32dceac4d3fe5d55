import MailFilter.Proofs.Grammar
import MailFilter.QuickSearch.Search

/-!
# Rules as Queries

A rule is a query that stands for itself. Expanding the aliases of a query walks along its tokens
and knows after each of them what is expected next; along the tokens of a rule it meets codes in
keyword position and nothing that does not fit (`Expected.Path`), so it copies the text.

## Main results

* `expandFrom_of_path`: a text whose tokens fit is copied.
* `Expected.path_of_denotes`: the tokens of a rule fit.
* `expand_of_parse`: expanding a text that is a rule changes nothing.
* `Search.prepare_of_parse`: an extended search for a rule asks for that rule.
-/

namespace MailFilter.QuickSearch

open Text (trim trimStart leadingBlanks)

/-! ### Tokens that fit -/

namespace Expected

/-- A way along tokens, from what is expected in front of them to what is expected behind, by steps
of one kind. -/
inductive Along (step : Expected → Spelled → Expected → Prop) :
    Expected → List Spelled → Expected → Prop
  | nil (e : Expected) : Along step e [] e
  | cons {x : Spelled} {ls : List Spelled} {e e' e'' : Expected} :
      step e x e' → Along step e' ls e'' → Along step e (x :: ls) e''

/-- A step along a token that fits. A word in keyword position has to be a code. -/
inductive Passes : Expected → Spelled → Expected → Prop
  | code {x : Spelled} {word : String} {k : Criterion} :
      x.token = .word word → Criterion.ofCode? word = some k → Passes keyword x (afterCode word)
  | next {x : Spelled} {e e' : Expected} : e.next? x.token = some e' → Passes e x e'

/-- A step along a token that fits and does not stand in keyword position. -/
def Keeps (e : Expected) (x : Spelled) (e' : Expected) : Prop :=
  e ≠ keyword ∧ e.next? x.token = some e'

/-- A way along tokens that fit. -/
abbrev Path := Along Passes

/-- A way along tokens none of which stands in keyword position. -/
abbrev Walk := Along Keeps

section
variable {step step' : Expected → Spelled → Expected → Prop} {e e' e'' : Expected}
  {ls ls' : List Spelled}

/-- Two ways make up one. -/
theorem Along.append (h : Along step e ls e') (h' : Along step e' ls' e'') :
    Along step e (ls ++ ls') e'' := by
  induction h with
  | nil => exact h'
  | cons hx _ ih => exact .cons hx (ih h')

/-- A way along tokens none of which changes what is expected. -/
theorem Along.stay (h : ∀ x ∈ ls, step e x e) : Along step e ls e := by
  induction ls with
  | nil => exact .nil e
  | cons x ls ih =>
    rw [List.forall_mem_cons] at h
    exact .cons h.1 (ih h.2)

/-- A way along one token. -/
theorem Along.single {x : Spelled} (h : step e x e') : Along step e [x] e' := .cons h (.nil e')

/-- A way by steps of one kind is one by steps of every kind that has them. -/
theorem Along.mono (hstep : ∀ e x e', step e x e' → step' e x e') (h : Along step e ls e') :
    Along step' e ls e' := by
  induction h with
  | nil e => exact .nil e
  | cons hx _ ih => exact .cons (hstep _ _ _ hx) ih

/-- A way outside keyword position is one along tokens that fit. -/
theorem Along.path (h : Walk e ls e') : Path e ls e' := h.mono fun _ _ _ hx => .next hx.2

end

/-- What is expected behind the code of a criterion. -/
def behind : Criterion → Expected
  | .text (.header _) => headerName
  | .status _ => operator
  | _ => operand

/-- What is expected behind a code is what its criterion asks for. -/
theorem afterCode_of_code {word : String} {k : Criterion} (h : Criterion.ofCode? word = some k) :
    afterCode word = behind k := by
  obtain rfl := Criterion.code_of_ofCode? h
  have htilde : String.ofList (k.code.toList.dropWhile (· == '~')) = k.code := by
    rcases k with s | m | f | _
    · cases s <;> rfl
    · rcases m with _ | _ | o | o <;> try rfl
      all_goals cases o <;> rfl
    · cases f
      case header name =>
        exact (by decide : String.ofList ("H".toList.dropWhile (· == '~')) = "H")
      all_goals rfl
    · rfl
  rw [afterCode, htilde, h]
  rcases k with s | m | f | _
  · rfl
  · rfl
  · cases f <;> rfl
  · rfl

end Expected

/-! ### Copying -/

section
variable {s spelling rest : List Char} {token : Token}

/-- Blanks are copied. -/
theorem expandFrom_of_finished (h : Scan.ofText (trimStart s) = .finished) (e : Expected)
    (p : Nat) : expandFrom e p s = .ok s := by
  rw [expandFrom]
  split <;> simp_all

/-- Nothing is made of a text whose first delimiter is not closed. -/
theorem expandFrom_of_broken {kind : Delimited} (h : Scan.ofText (trimStart s) = .broken kind)
    (e : Expected) (p : Nat) : ∃ fault, expandFrom e p s = .error fault := by
  refine ⟨.unterminated kind (p + Text.byteLength (leadingBlanks s)), ?_⟩
  rw [expandFrom]
  split <;> simp_all

/-- A token that fits is copied. -/
theorem expandFrom_of_next (h : Scan.ofText (trimStart s) = .lexeme token spelling rest)
    {e e' : Expected} (hn : e.next? token = some e') (p : Nat) :
    ∃ q, expandFrom e p s =
      (expandFrom e' q rest).map fun out => leadingBlanks s ++ spelling ++ out := by
  refine ⟨p + Text.byteLength (leadingBlanks s) + Text.byteLength spelling, ?_⟩
  rw [expandFrom]
  split
  · next hs =>
    rw [h] at hs
    cases hs
  · next hs =>
    rw [h] at hs
    cases hs
  · next hs =>
    rw [h] at hs
    cases hs
    split
    · cases hn
    · rw [hn]

/-- A text is copied from where a token does not fit. -/
theorem expandFrom_of_stop (h : Scan.ofText (trimStart s) = .lexeme token spelling rest)
    {e : Expected} (hn : e.next? token = none)
    (hword : ∀ word, ¬ (e = .keyword ∧ token = .word word)) (p : Nat) :
    expandFrom e p s = .ok s := by
  rw [expandFrom]
  split
  · rfl
  · next hs =>
    rw [h] at hs
    cases hs
  · next hs =>
    rw [h] at hs
    cases hs
    split
    · exact absurd ⟨rfl, rfl⟩ (hword _)
    · rw [hn]

/-- A word in keyword position is replaced by what it stands for. -/
theorem expandFrom_of_word {word : String}
    (h : Scan.ofText (trimStart s) = .lexeme (.word word) spelling rest) (p : Nat) :
    ∃ q fault, expandFrom .keyword p s =
      match resolve? word with
      | none => .error fault
      | some code =>
        (expandFrom (.afterCode code) q rest).map fun out =>
          leadingBlanks s ++ code.toList ++ out := by
  refine ⟨p + Text.byteLength (leadingBlanks s) + Text.byteLength spelling,
    .unknownKeyword word (p + Text.byteLength (leadingBlanks s)), ?_⟩
  rw [expandFrom]
  split
  · next hs =>
    rw [h] at hs
    cases hs
  · next hs =>
    rw [h] at hs
    cases hs
  · next hs =>
    rw [h] at hs
    cases hs
    rfl

/-- A code in keyword position is copied. -/
theorem expandFrom_of_code {word : String} {k : Criterion}
    (h : Scan.ofText (trimStart s) = .lexeme (.word word) spelling rest)
    (hk : Criterion.ofCode? word = some k) (p : Nat) :
    ∃ q, expandFrom .keyword p s =
      (expandFrom (.afterCode word) q rest).map fun out =>
        leadingBlanks s ++ word.toList ++ out := by
  obtain ⟨q, fault, hq⟩ := expandFrom_of_word h p
  rw [resolve?_of_code hk] at hq
  exact ⟨q, hq⟩

end

/-- A text is copied if its tokens fit. -/
theorem expandFrom_of_path {s : List Char} {ls : List Spelled} {e e' : Expected}
    (hs : spelled? s = some ls) (h : Expected.Path e ls e') (p : Nat) :
    expandFrom e p s = .ok s := by
  induction s using Scan.induction generalizing ls e p with
  | finished s hscan => exact expandFrom_of_finished hscan e p
  | broken s kind hscan =>
    rw [spelled?_of_broken hscan] at hs
    cases hs
  | lexeme s token spelling rest hscan ih =>
    rw [spelled?_of_lexeme hscan] at hs
    obtain ⟨ts, hrest, rfl⟩ := Option.map_eq_some_iff.1 hs
    have hsplit : leadingBlanks s ++ spelling ++ rest = s := by
      rw [List.append_assoc, ← (Scan.ofText_lexeme hscan).1, Text.leadingBlanks_append_trimStart]
    cases h with
    | cons hx hpath =>
      cases hx with
      | code hw hk =>
        obtain rfl : token = _ := hw
        obtain ⟨q, hq⟩ := expandFrom_of_code hscan hk p
        rw [hq, ih hrest hpath, Except.map, ← (word_of_scan hscan).1, hsplit]
      | next hn =>
        obtain ⟨q, hq⟩ := expandFrom_of_next hscan hn p
        rw [hq, ih hrest hpath, Except.map, hsplit]

/-! ### The tokens of a rule fit -/

namespace Expected

/-- Behind an operand an operator is expected. -/
theorem next?_of_operand {x : Spelled} {o : Bool × String} (h : x.operand? = some o) :
    operand.next? x.token = some operator := by
  rw [Spelled.operand?] at h
  split at h <;> simp_all [next?]

/-- The operand of a criterion is expected behind its code, where one is. -/
theorem walk_of_asked {exact : Bool} {k : Criterion} {os : List Spelled} {t : Test}
    (h : Test.Asked exact k os t) :
    Walk (match k with | .status _ => operator | _ => operand) os operator := by
  have hk : operand ≠ keyword := by decide
  cases h with
  | status => exact .nil operator
  | measure _ hx => exact .single ⟨hk, by rw [hx]; rfl⟩
  | text hps hx =>
    have hmarkers : Walk operand _ operand := .stay fun p hp => ⟨hk, by rw [hps p hp]; rfl⟩
    exact hmarkers.append (.single ⟨hk, next?_of_operand hx⟩)
  | command _ hx => exact .single ⟨hk, next?_of_operand hx⟩

/-- The name and the operand of a criterion are expected behind its code. -/
theorem walk_of_named {exact : Bool} {base k : Criterion} {hs os : List Spelled} {t : Test}
    (name : base.Named hs k) (asked : Test.Asked exact k os t) :
    Walk (behind base) (hs ++ os) operator := by
  have hasked := walk_of_asked asked
  cases name with
  | header hx => exact .cons (e := headerName) ⟨by decide, rfl⟩ hasked
  | other hne =>
    rcases base with s | m | f | _
    · exact hasked
    · exact hasked
    · cases f
      case header name => exact absurd rfl (hne name)
      all_goals exact hasked
    · exact hasked

/-- A marker may stand in front of a keyword. -/
theorem next?_of_marker {x : Spelled} (h : x.token.isMarker = true) :
    keyword.next? x.token = some keyword := by
  unfold Token.isMarker at h
  split at h <;> simp_all [next?]

/-- The tokens of a condition fit. -/
theorem path_of_denotes_condition {ls : List Spelled} {c : Condition}
    (h : Condition.Denotes .codes ls c) : Path keyword ls operator := by
  cases h with
  | @intro ms hs os w word n base k test markers hword meaning name asked =>
    obtain ⟨base, hbase, hb⟩ := Option.map_eq_some_iff.1 meaning
    cases hb
    have hmarkers : Path keyword ms keyword :=
      .stay fun m hm => .next (next?_of_marker (markers m hm))
    refine hmarkers.append (.cons (.code hword hbase) ?_)
    rw [afterCode_of_code hbase]
    exact (walk_of_named name asked).path

/-- The tokens of the conditions behind the first one fit. -/
theorem path_of_denotesMore {o : Combinator} {ls : List Spelled} {cs : List Condition}
    (h : Condition.DenotesMore .codes o ls cs) : Path operator ls operator := by
  induction h with
  | nil => exact .nil operator
  | cons hx hc _ ih =>
    exact .cons (.next (by rw [hx]; rfl)) ((path_of_denotes_condition hc).append ih)

/-- The tokens of a rule fit. -/
theorem path_of_denotes {ls : List Spelled} {r : Rule} (h : Rule.Denotes .codes ls r) :
    Path keyword ls operator := by
  cases h with
  | intro hc hcs => exact (path_of_denotes_condition hc).append (path_of_denotesMore hcs)

end Expected

/-- Expanding the aliases of a text that is a rule changes nothing. -/
theorem expand_of_parse {text : String} {r : Rule} (h : Rule.parse text = .ok r) :
    expand text = .ok text := by
  obtain ⟨ls, hs, hden⟩ := Rule.ofTokens_ok_iff.1 h
  rw [expand, expandFrom_of_path hs (Expected.path_of_denotes hden), Except.map,
    String.ofList_toList]

/-! ### Searching for a rule -/

/-- Blanks around a text do not change the rule that it is. -/
theorem parse_trimmed {text : String} {r : Rule} (h : Rule.parse text = .ok r) :
    Rule.parse (Text.trimmed text) = .ok r := by
  obtain ⟨ls, hs, hden⟩ := Rule.ofTokens_ok_iff.1 h
  refine Rule.ofTokens_ok_iff.2 ⟨ls, ?_, hden⟩
  rw [Text.trimmed, String.toList_ofList]
  exact spelled?_trim hs

/-- An extended search for a rule asks for that rule. -/
theorem Search.prepare_of_parse {text : String} {r : Rule} (h : Rule.parse text = .ok r) :
    Search.prepare text .extended = ⟨text, .extended, some (.rule (.ofRule r))⟩ := by
  have ht := parse_trimmed h
  have hne : Text.trimmed text ≠ "" := by
    intro hempty
    have hnone : Rule.parse "" = .error .empty := by decide +kernel
    rw [hempty, hnone] at ht
    cases ht
  have hrule : Search.rule (Text.trimmed text) = .ok r := by
    rw [Search.rule, expand_of_parse ht]
    exact ht
  simp only [Search.prepare, if_neg hne, hrule]

end MailFilter.QuickSearch
