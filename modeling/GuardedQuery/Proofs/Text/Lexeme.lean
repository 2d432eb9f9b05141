import GuardedQuery.Text.Blank

/-!
# Words and marks of a text

`lex cs` cuts a text into words and marks: blanks separate and are dropped, parentheses and commas
separate and are kept, and everything between is a word. SQL texts are read word by word.

* `lex_append`, `lex_append_of_ends`: a text may be cut in front of a separator (`Apart`) and behind
  one (`Ends`).
* `lex_word`: a text without separators is one word.
* `exists_word_of_infix`: characters that stand together and do not separate are in one word.
-/

namespace GuardedQuery.Text

/-- A word of a text, or a mark between words. -/
inductive Lexeme where
  | word (cs : List Char)
  | mark (c : Char)
  deriving DecidableEq, Repr

/-- Separates words and is kept. -/
def isMark (c : Char) : Bool := c == '(' || c == ')' || c == ','

/-- Separates words. -/
def isBreak (c : Char) : Bool := isBlank c || isMark c

/-- The word that has been read, unless it is empty. -/
def flush (w : List Char) : List Lexeme := if w.isEmpty then [] else [.word w]

/-- The lexemes of a text that follows the beginning `w` of a word. -/
def lexFrom (w : List Char) : List Char → List Lexeme
  | [] => flush w
  | c :: cs =>
    if isBlank c then flush w ++ lexFrom [] cs
    else if isMark c then flush w ++ .mark c :: lexFrom [] cs
    else lexFrom (w ++ [c]) cs

/-- The lexemes of a text. -/
def lex (cs : List Char) : List Lexeme := lexFrom [] cs

def Lexeme.word? : Lexeme → Option (List Char)
  | .word cs => some cs
  | .mark _ => none

/-- The words of a text. -/
def words (cs : List Char) : List (List Char) := (lex cs).filterMap Lexeme.word?

/-! ## Cutting -/

/-- The text is empty or starts with a separator. -/
def Apart (cs : List Char) : Prop := ∀ c ∈ cs.head?, isBreak c = true

@[simp] theorem apart_nil : Apart [] := by simp [Apart]

@[simp] theorem apart_cons {c : Char} {cs : List Char} : Apart (c :: cs) ↔ isBreak c = true := by
  simp [Apart]

theorem Apart.append {xs ys : List Char} (hx : Apart xs) (hy : Apart ys) : Apart (xs ++ ys) := by
  cases xs with
  | nil => exact hy
  | cons c xs => simpa using hx

@[simp] theorem lex_nil : lex [] = [] := rfl

@[simp] theorem words_nil : words [] = [] := rfl

@[simp] theorem flush_nil : flush [] = [] := rfl

theorem lex_blank {c : Char} (h : isBlank c = true) (cs : List Char) : lex (c :: cs) = lex cs := by
  simp [lex, lexFrom, h]

/-- Reading on from the beginning of a word is reading the word first, in front of a separator. -/
theorem lexFrom_of_apart {w ys : List Char} (h : Apart ys) : lexFrom w ys = flush w ++ lex ys := by
  cases ys with
  | nil => simp [lexFrom]
  | cons c ys =>
    have hc : isBreak c = true := by simpa using h
    by_cases hb : isBlank c = true
    · simp [lex, lexFrom, hb]
    · have hm : isMark c = true := by simpa [isBreak, hb] using hc
      simp [lex, lexFrom, hb, hm]

theorem lexFrom_append {w xs ys : List Char} (h : Apart ys) :
    lexFrom w (xs ++ ys) = lexFrom w xs ++ lex ys := by
  induction xs generalizing w with
  | nil => exact lexFrom_of_apart h
  | cons c xs ih =>
    rw [List.cons_append, lexFrom, lexFrom]
    split
    · rw [ih, List.append_assoc]
    · split
      · rw [ih, List.append_assoc, List.cons_append]
      · exact ih

/-- **A text may be cut in front of a separator.** -/
theorem lex_append {xs ys : List Char} (h : Apart ys) : lex (xs ++ ys) = lex xs ++ lex ys :=
  lexFrom_append h

theorem words_append {xs ys : List Char} (h : Apart ys) : words (xs ++ ys) = words xs ++ words ys := by
  rw [words, lex_append h, List.filterMap_append]
  rfl

theorem lex_mark {c : Char} (h : isMark c = true) (hb : isBlank c = false) (cs : List Char) :
    lex (c :: cs) = .mark c :: lex cs := by
  simp [lex, lexFrom, h, hb]

/-- The text is empty or ends with a separator. -/
def Ends (cs : List Char) : Prop := ∀ c ∈ cs.getLast?, isBreak c = true

instance : (cs : List Char) → Decidable (Apart cs)
  | [] => isTrue apart_nil
  | _ :: _ => decidable_of_iff _ apart_cons.symm

instance (cs : List Char) : Decidable (Ends cs) :=
  decidable_of_iff (Apart cs.reverse) (by rw [Apart, Ends, List.head?_reverse])

/-- A text may also be cut behind a blank. -/
theorem lex_append_blank {xs ys : List Char} {c : Char} (h : isBlank c = true) :
    lex (xs ++ c :: ys) = lex xs ++ lex ys := by
  rw [lex_append (by simp [isBreak, h]), lex_blank h]

/-- A text may also be cut behind a mark. -/
theorem lex_append_mark {xs ys : List Char} {c : Char} (h : isMark c = true)
    (hb : isBlank c = false) : lex (xs ++ c :: ys) = lex xs ++ .mark c :: lex ys := by
  rw [lex_append (by simp [isBreak, h]), lex_mark h hb]

/-- **A text may be cut behind a separator**, too. -/
theorem lex_append_of_ends {xs ys : List Char} (h : Ends xs) : lex (xs ++ ys) = lex xs ++ lex ys := by
  rcases List.eq_nil_or_concat xs with rfl | ⟨xs, c, rfl⟩
  · rfl
  · have hc : isBreak c = true := by simpa [Ends] using h
    rw [List.concat_eq_append, List.append_assoc, List.singleton_append]
    by_cases hb : isBlank c = true
    · rw [lex_append_blank hb, lex_append_blank hb, lex_nil, List.append_nil]
    · have hm : isMark c = true := by simpa [isBreak, hb] using hc
      have hb : isBlank c = false := by simpa using hb
      rw [lex_append_mark hm hb, lex_append_mark hm hb, lex_nil, List.append_assoc,
        List.singleton_append]

theorem words_append_of_ends {xs ys : List Char} (h : Ends xs) :
    words (xs ++ ys) = words xs ++ words ys := by
  rw [words, lex_append_of_ends h, List.filterMap_append]
  rfl

/-! ## Words -/

/-- The text is one word. -/
def IsWord (w : List Char) : Prop := w ≠ [] ∧ ∀ c ∈ w, isBreak c = false

instance (w : List Char) : Decidable (IsWord w) :=
  decidable_of_iff (w ≠ [] ∧ w.any isBreak = false) (by simp [IsWord])

theorem not_blank_of_not_break {c : Char} (h : isBreak c = false) :
    isBlank c = false ∧ isMark c = false := by
  simpa [isBreak] using h

/-- Characters that do not separate lengthen the word that is being read. -/
theorem lexFrom_word_append {v w : List Char} (h : ∀ c ∈ w, isBreak c = false) (rest : List Char) :
    lexFrom v (w ++ rest) = lexFrom (v ++ w) rest := by
  induction w generalizing v with
  | nil => simp
  | cons c w ih =>
    obtain ⟨hb, hm⟩ := not_blank_of_not_break (h c List.mem_cons_self)
    rw [List.cons_append, lexFrom, hb, hm]
    simp [ih fun d hd => h d (List.mem_cons_of_mem c hd)]

/-- The word that is being read goes on to some end. -/
theorem exists_word_of_started {v : List Char} (hv : v ≠ []) (cs : List Char) :
    ∃ t, .word (v ++ t) ∈ lexFrom v cs := by
  induction cs generalizing v with
  | nil => exact ⟨[], by simp [lexFrom, flush, hv]⟩
  | cons c cs ih =>
    rw [lexFrom]
    split
    · exact ⟨[], by simp [flush, hv]⟩
    · split
      · exact ⟨[], by simp [flush, hv]⟩
      · obtain ⟨t, ht⟩ := ih (v := v ++ [c]) (by simp)
        exact ⟨c :: t, by simpa using ht⟩

theorem lex_word {w : List Char} (h : IsWord w) : lex w = [.word w] := by
  have := lexFrom_word_append (v := []) h.2 []
  rw [lex, ← List.append_nil w, this]
  simp [lexFrom, flush, h.1]

theorem lex_word_append {w rest : List Char} (h : IsWord w) (hr : Apart rest) :
    lex (w ++ rest) = .word w :: lex rest := by
  rw [lex_append hr, lex_word h, List.singleton_append]

theorem words_word {w : List Char} (h : IsWord w) : words w = [w] := by
  rw [words, lex_word h]
  rfl

theorem mem_of_word_lexFrom {v cs w : List Char} (h : .word w ∈ lexFrom v cs) :
    ∀ c ∈ w, c ∈ v ++ cs := by
  have hflush : ∀ {v}, Lexeme.word w ∈ flush v → v = w := fun {v} h => by
    unfold flush at h
    split at h
    · cases h
    · cases List.mem_singleton.1 h
      rfl
  induction cs generalizing v with
  | nil =>
    rw [hflush h, List.append_nil]
    exact fun _ => id
  | cons d cs ih =>
    intro c hc
    rw [lexFrom] at h
    split at h
    · rcases List.mem_append.1 h with h | h
      · exact List.mem_append_left _ (hflush h ▸ hc)
      · exact List.mem_append_right _ (List.mem_cons_of_mem d (by simpa using ih h c hc))
    · split at h
      · rcases List.mem_append.1 h with h | h
        · exact List.mem_append_left _ (hflush h ▸ hc)
        · have h := (List.mem_cons.1 h).resolve_left (by simp)
          exact List.mem_append_right _ (List.mem_cons_of_mem d (by simpa using ih h c hc))
      · simpa using ih h c hc

/-- A word consists of characters of its text. -/
theorem mem_of_mem_words {cs w : List Char} (h : w ∈ words cs) : ∀ c ∈ w, c ∈ cs := by
  obtain ⟨l, hl, hw⟩ := List.mem_filterMap.1 h
  cases l with
  | word v =>
    cases hw
    simpa using mem_of_word_lexFrom hl
  | mark c => cases hw

theorem exists_word_lexFrom {v xs ys zs : List Char} (h : IsWord ys) :
    ∃ w, .word w ∈ lexFrom v (xs ++ (ys ++ zs)) ∧ ys <:+: w := by
  induction xs generalizing v with
  | nil =>
    rw [List.nil_append, lexFrom_word_append h.2]
    obtain ⟨t, ht⟩ := exists_word_of_started (v := v ++ ys) (by simp [h.1]) zs
    exact ⟨_, ht, v, t, rfl⟩
  | cons c xs ih =>
    rw [List.cons_append, lexFrom]
    split
    · obtain ⟨w, hw, hi⟩ := ih (v := [])
      exact ⟨w, List.mem_append_right _ hw, hi⟩
    · split
      · obtain ⟨w, hw, hi⟩ := ih (v := [])
        exact ⟨w, List.mem_append_right _ (List.mem_cons_of_mem _ hw), hi⟩
      · exact ih

/-- **Characters that stand together and do not separate are in one word.** -/
theorem exists_word_of_infix {ys cs : List Char} (hi : ys <:+: cs) (h : IsWord ys) :
    ∃ w ∈ words cs, ys <:+: w := by
  obtain ⟨xs, zs, rfl⟩ := hi
  obtain ⟨w, hw, hy⟩ := exists_word_lexFrom (v := []) h
  rw [← List.append_assoc] at hw
  exact ⟨w, List.mem_filterMap.2 ⟨_, hw, rfl⟩, hy⟩

/-- A character that does not separate is in some word. -/
theorem exists_word_of_mem {c : Char} {cs : List Char} (hc : c ∈ cs) (h : isBreak c = false) :
    ∃ w ∈ words cs, c ∈ w := by
  obtain ⟨xs, zs, rfl⟩ := List.append_of_mem hc
  have hinfix : [c] <:+: xs ++ c :: zs := ⟨xs, zs, by simp⟩
  obtain ⟨w, hw, hi⟩ := exists_word_of_infix hinfix ⟨by simp, by simpa using h⟩
  exact ⟨w, hw, hi.subset (by simp)⟩

end GuardedQuery.Text
