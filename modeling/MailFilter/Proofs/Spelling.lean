import MailFilter.Rule.Quoting
import MailFilter.Rule.TokenStream
import MailFilter.RuleSet.Name
import Mathlib.Data.List.DropRight
import Mathlib.Data.List.TakeWhile

/-!
# Tokens and Their Spellings

What the reader of a rule sees of a text is its list of tokens. `spelled?` is that list, each token
with the characters it was read from and without its place, so that a text and a piece of it that
stands elsewhere can be compared. A text that ends in a delimiter which is not closed has no such
list.

What is needed to write a rule down is lexing in context: a piece of text in front of another one
is read as the token it stands for, whatever follows. Quoted texts and patterns close themselves; a
word does so only in front of something that ends a word (`EndsWord`).

## Main results

* `Scan.ofText_append`: a first token is read alike in front of every text that ends a word where
  the text behind the token does.
* `spelled?_plain`, `spelled?_quote`, `spelled?_delimit`: lexing in context for words, quoted texts
  and patterns.
* `forall_mem_of_spelled?`: what is true of every first token is true of all tokens, such as that
  patterns can be written between slashes (`isDelimitable_of_scan`).
* `spelled?_trim`: blanks around a text make no token.
-/

namespace MailFilter

open Text (isBlank isDigit isLetter isAlphanumeric trim trimStart trimEnd)

/-! ### Streams as lists -/

/-- A token with the characters it was read from. -/
structure Spelled where
  token : Token
  spelling : List Char
deriving DecidableEq

/-- A token without its place. -/
def Lexeme.spelled (x : Lexeme) : Spelled := ⟨x.token, x.spelling⟩

namespace TokenStream

/-- Puts tokens in front of a stream. -/
def prepend (xs : List Lexeme) (tail : TokenStream) : TokenStream := xs.foldr lexeme tail

@[simp]
theorem prepend_nil (tail : TokenStream) : prepend [] tail = tail := rfl

@[simp]
theorem prepend_cons (x : Lexeme) (xs : List Lexeme) (tail : TokenStream) :
    prepend (x :: xs) tail = lexeme x (prepend xs tail) := rfl

theorem prepend_append (xs ys : List Lexeme) (tail : TokenStream) :
    prepend (xs ++ ys) tail = prepend xs (prepend ys tail) := by
  simp [prepend]

/-- The tokens of a stream that reaches the end of its text. -/
def spelled? : TokenStream → Option (List Spelled)
  | finished _ => some []
  | broken _ _ => none
  | lexeme x tail => tail.spelled?.map (x.spelled :: ·)

/-- A stream that reaches the end of its text is the list of its tokens and that end. -/
theorem spelled?_eq_some_iff {s : TokenStream} {ls : List Spelled} :
    s.spelled? = some ls ↔ ∃ xs p, s = prepend xs (finished p) ∧ xs.map Lexeme.spelled = ls := by
  induction s generalizing ls with
  | finished p =>
    constructor
    · intro h
      cases h
      exact ⟨[], p, rfl, rfl⟩
    · rintro ⟨xs, q, h, rfl⟩
      cases xs with
      | nil => rfl
      | cons x xs => cases h
  | broken kind p =>
    constructor
    · intro h
      cases h
    · rintro ⟨xs, q, h, -⟩
      cases xs <;> cases h
  | lexeme x tail ih =>
    simp only [spelled?, Option.map_eq_some_iff]
    constructor
    · rintro ⟨ts, ht, rfl⟩
      obtain ⟨xs, p, rfl, rfl⟩ := ih.1 ht
      exact ⟨x :: xs, p, rfl, rfl⟩
    · rintro ⟨xs, p, h, rfl⟩
      cases xs with
      | nil => cases h
      | cons y ys =>
        simp only [prepend_cons, lexeme.injEq] at h
        obtain ⟨rfl, rfl⟩ := h
        exact ⟨_, ih.2 ⟨ys, p, rfl, rfl⟩, rfl⟩

variable {s spelling rest : List Char} {token : Token}

/-- The stream of a text with a first token. -/
theorem ofText_of_lexeme (h : Scan.ofText (trimStart s) = .lexeme token spelling rest) (p : Nat) :
    ofText p s =
      lexeme ⟨token, p + Text.byteLength (Text.leadingBlanks s), spelling⟩
        (ofText (p + Text.byteLength (Text.leadingBlanks s) + Text.byteLength spelling) rest) := by
  rw [ofText]
  split <;> simp_all

/-- The stream of a text of blanks. -/
theorem ofText_of_finished (h : Scan.ofText (trimStart s) = .finished) (p : Nat) :
    ofText p s = finished (p + Text.byteLength (Text.leadingBlanks s)) := by
  rw [ofText]
  split <;> simp_all

/-- The stream of a text whose first delimiter is not closed. -/
theorem ofText_of_broken {kind : Delimited} (h : Scan.ofText (trimStart s) = .broken kind)
    (p : Nat) : ofText p s = broken kind (p + Text.byteLength (Text.leadingBlanks s)) := by
  rw [ofText]
  split <;> simp_all

end TokenStream

/-- The tokens of a text, if every delimiter in it is closed. -/
def spelled? (s : List Char) : Option (List Spelled) := (TokenStream.ofText 0 s).spelled?

/-- Induction on the tokens of a text. -/
theorem Scan.induction {motive : List Char → Prop}
    (finished : ∀ s, Scan.ofText (trimStart s) = .finished → motive s)
    (broken : ∀ s kind, Scan.ofText (trimStart s) = .broken kind → motive s)
    (lexeme : ∀ s token spelling rest, Scan.ofText (trimStart s) = .lexeme token spelling rest →
      motive rest → motive s) (s : List Char) : motive s := by
  suffices h : ∀ n (s : List Char), s.length ≤ n → motive s from h s.length s (Nat.le_refl _)
  intro n
  induction n with
  | zero =>
    intro s hs
    obtain rfl : s = [] := List.length_eq_zero_iff.1 (by omega)
    exact finished [] rfl
  | succ n ih =>
    intro s hs
    cases h : Scan.ofText (trimStart s) with
    | finished => exact finished s h
    | broken kind => exact broken s kind h
    | lexeme token spelling rest =>
      have hlt := Scan.length_rest_lt h
      have hle := Text.length_trimStart_le s
      exact lexeme s token spelling rest h (ih rest (by omega))

/-- The tokens of a text do not depend on where it stands. -/
theorem spelled?_ofText (p : Nat) (s : List Char) :
    (TokenStream.ofText p s).spelled? = spelled? s := by
  suffices h : ∀ p q, (TokenStream.ofText p s).spelled? = (TokenStream.ofText q s).spelled? from
    h p 0
  induction s using Scan.induction with
  | finished s h =>
    intro p q
    rw [TokenStream.ofText_of_finished h, TokenStream.ofText_of_finished h]
    rfl
  | broken s kind h =>
    intro p q
    rw [TokenStream.ofText_of_broken h, TokenStream.ofText_of_broken h]
    rfl
  | lexeme s token spelling rest h ih =>
    intro p q
    rw [TokenStream.ofText_of_lexeme h, TokenStream.ofText_of_lexeme h]
    simp only [TokenStream.spelled?]
    rw [ih _ (q + Text.byteLength (Text.leadingBlanks s) + Text.byteLength spelling)]
    rfl

section
variable {s spelling rest : List Char} {token : Token}

/-- The tokens of a text with a first token. -/
theorem spelled?_of_lexeme (h : Scan.ofText (trimStart s) = .lexeme token spelling rest) :
    spelled? s = (spelled? rest).map (⟨token, spelling⟩ :: ·) := by
  rw [spelled?, TokenStream.ofText_of_lexeme h, TokenStream.spelled?, spelled?_ofText]
  rfl

/-- A text of blanks has no tokens. -/
theorem spelled?_of_finished (h : Scan.ofText (trimStart s) = .finished) :
    spelled? s = some [] := by
  rw [spelled?, TokenStream.ofText_of_finished h, TokenStream.spelled?]

/-- A text whose first delimiter is not closed has no list of tokens. -/
theorem spelled?_of_broken {kind : Delimited} (h : Scan.ofText (trimStart s) = .broken kind) :
    spelled? s = none := by
  rw [spelled?, TokenStream.ofText_of_broken h, TokenStream.spelled?]

end

@[simp]
theorem spelled?_nil : spelled? [] = some [] := spelled?_of_finished rfl

/-- A blank in front of a text makes no token. -/
theorem spelled?_blank {c : Char} (h : isBlank c = true) (s : List Char) :
    spelled? (c :: s) = spelled? s := by
  have ht : trimStart (c :: s) = trimStart s := by simp [trimStart, h]
  cases hs : Scan.ofText (trimStart s) with
  | finished => rw [spelled?_of_finished hs, spelled?_of_finished (ht ▸ hs)]
  | broken kind => rw [spelled?_of_broken hs, spelled?_of_broken (ht ▸ hs)]
  | lexeme token spelling rest => rw [spelled?_of_lexeme hs, spelled?_of_lexeme (ht ▸ hs)]

/-! ### Lexing in context -/

/-- A text in front of which a word ends: the empty one, and one that starts with a blank or an
operator. -/
def EndsWord (s : List Char) : Prop := ∀ c ∈ s.head?, Token.isWordChar c = false

theorem endsWord_nil : EndsWord [] := by simp [EndsWord]

theorem endsWord_cons {c : Char} (h : Token.isWordChar c = false) (s : List Char) :
    EndsWord (c :: s) := by
  simpa [EndsWord] using h

/-- Texts that start alike end a word alike. -/
theorem EndsWord.of_append {w s s' : List Char} (hw : w ≠ []) (h : EndsWord (w ++ s)) :
    EndsWord (w ++ s') := by
  obtain ⟨c, w, rfl⟩ := List.exists_cons_of_ne_nil hw
  exact fun d hd => h d hd

/-- A word ends in front of what follows it. -/
theorem endsWord_dropWhile (s : List Char) : EndsWord (s.dropWhile Token.isWordChar) := by
  intro c hc
  have h := List.head?_dropWhile_not Token.isWordChar s
  rw [Option.mem_def.1 hc] at h
  exact h

/-- What is enclosed is read alike in front of every text. -/
theorem Token.close_append {kind : Delimited} {s : List Char} {e : Token.Enclosed}
    (h : Token.close kind s = some e) (rest : List Char) :
    Token.close kind (e.spelling ++ rest) = some ⟨e.content, e.spelling, rest⟩ := by
  fun_induction Token.close kind s generalizing e with
  | case1 => cases h
  | case2 d s ih =>
    obtain ⟨e, he, rfl⟩ := Option.map_eq_some_iff.1 h
    simp [Enclosed.cons, close, ih he]
  | case3 s hpair =>
    cases h
    have hm : kind.mark ≠ '\\' := by cases kind <;> decide
    simp [close, hm]
  | case4 c s hpair hm ih =>
    obtain ⟨e, he, rfl⟩ := Option.map_eq_some_iff.1 h
    have hb : c ≠ '\\' := by
      rintro rfl
      cases s with
      | nil => cases he
      | cons d s => exact hpair d s rfl rfl
    simp [Enclosed.cons, close, ih he, hb, hm]

/-- A word ends in front of a text that ends it. -/
theorem takeWhile_isWordChar_append (s : List Char) {rest : List Char} (h : EndsWord rest) :
    (s.takeWhile Token.isWordChar ++ rest).takeWhile Token.isWordChar =
        s.takeWhile Token.isWordChar ∧
      (s.takeWhile Token.isWordChar ++ rest).dropWhile Token.isWordChar = rest := by
  have hin : ∀ c ∈ s.takeWhile Token.isWordChar, Token.isWordChar c = true :=
    List.all_eq_true.1 List.all_takeWhile
  rw [List.takeWhile_append_of_pos hin, List.dropWhile_append_of_pos hin]
  cases rest with
  | nil => simp
  | cons c rest => simp [h c rfl]

/-- A first token is read alike in front of every other text, if that ends a word where the text
behind the token does. -/
theorem Scan.ofText_append {s spelling rest : List Char} {token : Token}
    (h : Scan.ofText s = .lexeme token spelling rest) {rest' : List Char}
    (hr : EndsWord rest → EndsWord rest') :
    Scan.ofText (spelling ++ rest') = .lexeme token spelling rest' := by
  unfold Scan.ofText at h
  split at h
  · cases h
  · next c s =>
    split at h
    case h_6 | h_7 =>
      split at h
      · next e he =>
        cases h
        simp [Scan.ofText, Token.close_append he]
      · cases h
    case h_8 =>
      cases h
      have hw := takeWhile_isWordChar_append s (hr (endsWord_dropWhile s))
      simp [Scan.ofText, hw]
    all_goals
      cases h
      rfl

/-- A text whose first token stands at its very front. -/
theorem spelled?_cons {c : Char} {s spelling rest : List Char} {token : Token}
    (hc : isBlank c = false) (h : Scan.ofText (c :: s) = .lexeme token spelling rest) :
    spelled? (c :: s) = (spelled? rest).map (⟨token, spelling⟩ :: ·) := by
  refine spelled?_of_lexeme ?_
  have ht : trimStart (c :: s) = c :: s := by simp [trimStart, hc]
  rw [ht, h]

/-- A text between quotes in front of a text. -/
theorem spelled?_quote (s rest : List Char) :
    spelled? (Quoting.quote s ++ rest) =
      (spelled? rest).map (⟨.quoted (String.ofList s), Quoting.quote s⟩ :: ·) :=
  spelled?_cons (by decide) (Quoting.ofText_quote s rest)

/-- A pattern between slashes in front of a text. -/
theorem spelled?_delimit {s : List Char} (h : Quoting.isDelimitable s = true) (rest : List Char) :
    spelled? (Quoting.delimit s ++ rest) =
      (spelled? rest).map (⟨.pattern (String.ofList s), Quoting.delimit s⟩ :: ·) :=
  spelled?_cons (by decide) (Quoting.ofText_delimit h rest)

/-- The characters of names are ASCII. -/
theorem toNat_lt_of_isNameChar {c : Char} (h : isNameChar c = true) : c.toNat < 128 := by
  simp only [isNameChar, isAlphanumeric, isLetter, isDigit, Bool.or_eq_true, Bool.and_eq_true,
    decide_eq_true_eq, beq_iff_eq, Char.le_def, UInt32.le_iff_toNat_le] at h
  have hc : c.toNat = c.val.toNat := rfl
  rcases h with (((h | h) | h) | rfl) | rfl
  · have : c.val.toNat ≤ 122 := h.2
    omega
  · have : c.val.toNat ≤ 90 := h.2
    omega
  · have : c.val.toNat ≤ 57 := h.2
    omega
  · decide
  · decide

/-- The characters of names make words. -/
theorem plain_of_isNameChar {c : Char} (h : isNameChar c = true) :
    isBlank c = false ∧ Token.isWordChar c = true ∧ c ∉ ['&', '|', '!', '~', '%', '"', '/'] := by
  have hall : ∀ n : Fin 128, isNameChar (Char.ofNat n) = true →
      isBlank (Char.ofNat n) = false ∧ Token.isWordChar (Char.ofNat n) = true ∧
        Char.ofNat n ∉ ['&', '|', '!', '~', '%', '"', '/'] := by decide
  have hc := hall ⟨c.toNat, toNat_lt_of_isNameChar h⟩
  rw [Char.ofNat_toNat] at hc
  exact hc h

/-- A word of letters, digits, hyphens and underscores is the first token in front of a text that
ends a word. -/
theorem Scan.ofText_plain {w rest : List Char} (hw : w ≠ []) (hc : ∀ c ∈ w, isNameChar c = true)
    (hr : EndsWord rest) : Scan.ofText (w ++ rest) = .lexeme (Token.ofWord w) w rest := by
  obtain ⟨c, s, rfl⟩ := List.exists_cons_of_ne_nil hw
  obtain ⟨-, -, hm⟩ := plain_of_isNameChar (hc c List.mem_cons_self)
  have hs : s.takeWhile Token.isWordChar = s := by
    rw [List.takeWhile_eq_self_iff]
    exact fun d hd => (plain_of_isNameChar (hc d (List.mem_cons_of_mem c hd))).2.1
  have hsplit := takeWhile_isWordChar_append s hr
  rw [hs] at hsplit
  simp only [List.mem_cons, not_or] at hm
  simp [Scan.ofText, hm, hsplit]

/-- The tokens of a text behind such a word. -/
theorem spelled?_plain {w rest : List Char} (hw : w ≠ []) (hc : ∀ c ∈ w, isNameChar c = true)
    (hr : EndsWord rest) :
    spelled? (w ++ rest) = (spelled? rest).map (⟨Token.ofWord w, w⟩ :: ·) := by
  have hscan := Scan.ofText_plain hw hc hr
  obtain ⟨c, s, rfl⟩ := List.exists_cons_of_ne_nil hw
  exact spelled?_cons (plain_of_isNameChar (hc c List.mem_cons_self)).1 hscan

/-- A marker in front of a text. -/
theorem spelled?_negation (s : List Char) :
    spelled? ('~' :: s) = (spelled? s).map (⟨.negation, ['~']⟩ :: ·) :=
  spelled?_cons (by decide) rfl

/-- A marker for case in front of a text. -/
theorem spelled?_exactCase (s : List Char) :
    spelled? ('%' :: s) = (spelled? s).map (⟨.exactCase, ['%']⟩ :: ·) :=
  spelled?_cons (by decide) rfl

/-! ### What tokens hold -/

/-- Scanning a word gives no other token than a word or a number. -/
theorem ofWord_cases (w : List Char) :
    (∃ n, Token.ofWord w = .number n) ∨ Token.ofWord w = .word (String.ofList w) := by
  rw [Token.ofWord]
  split
  · exact .inl ⟨_, rfl⟩
  · exact .inr rfl

/-- A word is spelled as it is, and what follows it ends a word. -/
theorem word_of_scan {s spelling rest : List Char} {word : String}
    (h : Scan.ofText s = .lexeme (.word word) spelling rest) :
    spelling = word.toList ∧ EndsWord rest := by
  unfold Scan.ofText at h
  split at h
  · cases h
  · next c s =>
    split at h
    case h_6 | h_7 => split at h <;> cases h
    case h_8 =>
      simp only [Scan.lexeme.injEq] at h
      obtain ⟨hw, rfl, rfl⟩ := h
      refine ⟨?_, endsWord_dropWhile s⟩
      rcases ofWord_cases (c :: s.takeWhile Token.isWordChar) with ⟨n, hn⟩ | hn
      · rw [hn] at hw
        cases hw
      · rw [hn, Token.word.injEq] at hw
        rw [← hw, String.toList_ofList]
    all_goals cases h

/-- A pattern that is scanned can be written between slashes. -/
theorem isDelimitable_of_scan {s spelling rest : List Char} {pattern : String}
    (h : Scan.ofText s = .lexeme (.pattern pattern) spelling rest) :
    Quoting.isDelimitable pattern.toList = true := by
  unfold Scan.ofText at h
  split at h
  · cases h
  · next c s =>
    split at h
    case h_6 => split at h <;> cases h
    case h_7 =>
      split at h
      · next e he =>
        cases h
        rw [String.toList_ofList]
        exact Quoting.isDelimitable_of_close he
      · cases h
    case h_8 =>
      simp only [Scan.lexeme.injEq] at h
      obtain ⟨hw, -, -⟩ := h
      rcases ofWord_cases (c :: s.takeWhile Token.isWordChar) with ⟨n, hn⟩ | hn <;>
        rw [hn] at hw <;> cases hw
    all_goals cases h

/-- What is true of every first token of a text is true of all its tokens. -/
theorem forall_mem_of_spelled? {P : Spelled → Prop}
    (hP : ∀ s token spelling rest, Scan.ofText s = .lexeme token spelling rest →
      P ⟨token, spelling⟩)
    {s : List Char} {ls : List Spelled} (h : spelled? s = some ls) : ∀ x ∈ ls, P x := by
  induction s using Scan.induction generalizing ls with
  | finished s hs =>
    rw [spelled?_of_finished hs] at h
    cases h
    simp
  | broken s kind hs =>
    rw [spelled?_of_broken hs] at h
    cases h
  | lexeme s token spelling rest hs ih =>
    rw [spelled?_of_lexeme hs] at h
    obtain ⟨ts, ht, rfl⟩ := Option.map_eq_some_iff.1 h
    exact List.forall_mem_cons.2 ⟨hP _ _ _ _ hs, ih ht⟩

/-! ### Blanks around a text -/

/-- Blanks at the front of a text make no token. -/
theorem spelled?_trimStart (s : List Char) : spelled? (trimStart s) = spelled? s := by
  induction s with
  | nil => rfl
  | cons c s ih =>
    by_cases hc : isBlank c = true
    · have ht : trimStart (c :: s) = trimStart s := by simp [trimStart, hc]
      rw [ht, ih, spelled?_blank hc]
    · have ht : trimStart (c :: s) = c :: s := by simp [trimStart, hc]
      rw [ht]

/-- Blanks in front of a text make no token. -/
theorem spelled?_blanks {blanks : List Char} (h : ∀ c ∈ blanks, isBlank c = true)
    (s : List Char) : spelled? (blanks ++ s) = spelled? s := by
  induction blanks with
  | nil => rfl
  | cons c blanks ih =>
    obtain ⟨hc, hb⟩ := List.forall_mem_cons.1 h
    rw [List.cons_append, spelled?_blank hc, ih hb]

/-- Blanks in front of a character that is none are the blanks at the front. -/
theorem leadingBlanks_append_cons {blanks : List Char} {c : Char}
    (hblanks : ∀ b ∈ blanks, isBlank b = true) (hc : isBlank c = false) (s : List Char) :
    Text.leadingBlanks (blanks ++ c :: s) = blanks ∧ trimStart (blanks ++ c :: s) = c :: s := by
  rw [Text.leadingBlanks, trimStart, List.takeWhile_append_of_pos hblanks,
    List.dropWhile_append_of_pos hblanks]
  simp [hc]

/-- A first token with the blanks in front of it is read alike in front of every other text, if that
ends a word where the text behind the token does. -/
theorem Scan.ofText_trimStart_append {s spelling rest : List Char} {token : Token}
    (h : Scan.ofText (trimStart s) = .lexeme token spelling rest) {rest' : List Char}
    (hr : EndsWord rest → EndsWord rest') :
    Text.leadingBlanks (Text.leadingBlanks s ++ spelling ++ rest') = Text.leadingBlanks s ∧
      Scan.ofText (trimStart (Text.leadingBlanks s ++ spelling ++ rest')) =
        .lexeme token spelling rest' := by
  have hscan := Scan.ofText_append h hr
  obtain ⟨hsplit, hne⟩ := Scan.ofText_lexeme h
  obtain ⟨c, u, rfl⟩ := List.exists_cons_of_ne_nil hne
  have hc : isBlank c = false := Text.head_trimStart_not_blank hsplit
  have hblanks : ∀ b ∈ Text.leadingBlanks s, isBlank b = true :=
    fun _ hb => List.mem_takeWhile_imp hb
  obtain ⟨hgap, htrim⟩ := leadingBlanks_append_cons hblanks hc (u ++ rest')
  rw [List.append_assoc, List.cons_append, hgap, htrim]
  exact ⟨rfl, hscan⟩

/-- The tokens of a text whose first token is taken from another one. -/
theorem spelled?_append {s spelling rest : List Char} {token : Token}
    (h : Scan.ofText (trimStart s) = .lexeme token spelling rest) {rest' : List Char}
    (hr : EndsWord rest → EndsWord rest') :
    spelled? (Text.leadingBlanks s ++ spelling ++ rest') =
      (spelled? rest').map (⟨token, spelling⟩ :: ·) :=
  spelled?_of_lexeme (Scan.ofText_trimStart_append h hr).2

/-- Trimming leaves what stands in front of a character that is no blank. -/
theorem trimEnd_append {s : List Char} {c : Char} (hc : isBlank c = false) (rest : List Char) :
    trimEnd (s ++ [c] ++ rest) = s ++ [c] ++ trimEnd rest := by
  have h : (rest.reverse ++ c :: s.reverse).dropWhile isBlank =
      rest.reverse.dropWhile isBlank ++ c :: s.reverse := by
    rw [List.dropWhile_append]
    split
    · next he => simp [List.isEmpty_iff.1 he, hc]
    · rfl
  simp [trimEnd, h]

/-- A trimmed text is a part of the text from its front on. -/
theorem trimEnd_prefix (s : List Char) : trimEnd s <+: s :=
  List.rdropWhile_prefix isBlank s

/-- Trimming does not lengthen a word in front of the text. -/
theorem EndsWord.trimEnd {s : List Char} (h : EndsWord s) : EndsWord (trimEnd s) := by
  intro c hc
  obtain ⟨t, ht⟩ := trimEnd_prefix s
  refine h c ?_
  rw [← ht]
  cases hs : Text.trimEnd s with
  | nil => simp [hs] at hc
  | cons d u => simpa [hs] using hc

/-- What is enclosed ends with its delimiter. -/
theorem Token.close_last {kind : Delimited} {s : List Char} {e : Token.Enclosed}
    (h : Token.close kind s = some e) : ∃ front, e.spelling = front ++ [kind.mark] := by
  fun_induction Token.close kind s generalizing e with
  | case1 => cases h
  | case2 d s ih =>
    obtain ⟨e, he, rfl⟩ := Option.map_eq_some_iff.1 h
    obtain ⟨front, hf⟩ := ih he
    exact ⟨'\\' :: d :: front, by simp [Enclosed.cons, hf]⟩
  | case3 s hpair =>
    cases h
    exact ⟨[], rfl⟩
  | case4 c s _ _ ih =>
    obtain ⟨e, he, rfl⟩ := Option.map_eq_some_iff.1 h
    obtain ⟨front, hf⟩ := ih he
    exact ⟨c :: front, by simp [Enclosed.cons, hf]⟩

/-- The last character of a token is no blank. -/
theorem Scan.ofText_last {c : Char} {s spelling rest : List Char} {token : Token}
    (h : Scan.ofText (c :: s) = .lexeme token spelling rest) (hc : isBlank c = false) :
    ∃ front d, spelling = front ++ [d] ∧ isBlank d = false := by
  simp only [Scan.ofText] at h
  split at h
  case h_6 | h_7 =>
    split at h
    · next e he =>
      cases h
      obtain ⟨front, hf⟩ := Token.close_last he
      rw [hf]
      exact ⟨_ :: front, _, rfl, by decide⟩
    · cases h
  case h_8 =>
    cases h
    have hall : ∀ d ∈ c :: s.takeWhile Token.isWordChar, isBlank d = false := by
      refine List.forall_mem_cons.2 ⟨hc, fun d hd => ?_⟩
      have hd := List.mem_takeWhile_imp hd
      simp only [Token.isWordChar, Bool.and_eq_true, Bool.not_eq_true'] at hd
      exact hd.1.1
    have hne : c :: s.takeWhile Token.isWordChar ≠ [] := List.cons_ne_nil _ _
    exact ⟨_, _, (List.dropLast_append_getLast hne).symm, hall _ (List.getLast_mem hne)⟩
  all_goals
    cases h
    exact ⟨[], _, rfl, by decide⟩

/-- Only an empty text has nothing at its front. -/
theorem Scan.eq_nil_of_finished {s : List Char} (h : Scan.ofText s = .finished) : s = [] := by
  unfold Scan.ofText at h
  split at h
  · rfl
  · split at h <;> first | cases h | (split at h <;> cases h)

/-- Blanks at the end of a text make no token. -/
theorem spelled?_trimEnd {s : List Char} {ls : List Spelled} (h : spelled? s = some ls) :
    spelled? (trimEnd s) = some ls := by
  induction s using Scan.induction generalizing ls with
  | finished s hs =>
    have hall : ∀ c ∈ s, isBlank c = true :=
      List.dropWhile_eq_nil_iff.1 (Scan.eq_nil_of_finished hs)
    have ht : s.reverse.dropWhile isBlank = [] :=
      List.dropWhile_eq_nil_iff.2 fun c hc => hall c (List.mem_reverse.1 hc)
    rw [spelled?_of_finished hs] at h
    rw [trimEnd, ht, ← h, List.reverse_nil, spelled?_nil]
  | broken s kind hs =>
    rw [spelled?_of_broken hs] at h
    cases h
  | lexeme s token spelling rest hs ih =>
    rw [spelled?_of_lexeme hs] at h
    obtain ⟨ts, ht, rfl⟩ := Option.map_eq_some_iff.1 h
    obtain ⟨hsplit, hne⟩ := Scan.ofText_lexeme hs
    obtain ⟨c, u, rfl⟩ := List.exists_cons_of_ne_nil hne
    have hc : isBlank c = false := Text.head_trimStart_not_blank hsplit
    obtain ⟨front, d, hfront, hd⟩ := Scan.ofText_last (hsplit ▸ hs) hc
    -- the blanks at the end stand behind the first token
    have htrim : trimEnd s = Text.leadingBlanks s ++ (c :: u) ++ trimEnd rest := by
      calc trimEnd s = trimEnd (Text.leadingBlanks s ++ front ++ [d] ++ rest) := by
            rw [List.append_assoc _ front, ← hfront, List.append_assoc, ← hsplit,
              Text.leadingBlanks_append_trimStart]
        _ = Text.leadingBlanks s ++ (c :: u) ++ trimEnd rest := by
            rw [trimEnd_append hd, List.append_assoc _ front, ← hfront]
    rw [htrim, spelled?_append hs EndsWord.trimEnd, ih ht]
    rfl

/-- Blanks around a text make no token. -/
theorem spelled?_trim {s : List Char} {ls : List Spelled} (h : spelled? s = some ls) :
    spelled? (trim s) = some ls :=
  spelled?_trimEnd ((spelled?_trimStart s).trans h)

end MailFilter
