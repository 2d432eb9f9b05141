import Mathlib.Data.List.TakeWhile
import GuardedQuery.Allowlist.Column
import GuardedQuery.Allowlist.Join
import GuardedQuery.Proofs.Text.Lexeme

/-!
# What names and ON texts are made of

A name of tables, columns and aliases consists of ASCII letters, digits, underscores and dots
(`IsName`), so it is a single word of a text (`IsName.isWord`). An ON text has blanks and equality
signs besides (`joinChar_of_isConjunction`). Both follow from what the readers of identifiers and
equalities consume (`Consumes`).
-/

namespace GuardedQuery.Text

/-- May stand in a qualified name. -/
def isNameChar (c : Char) : Bool := isIdentifierRest c || c == '.'

/-- May stand in an ON text. -/
def isJoinChar (c : Char) : Bool := isNameChar c || c == '=' || isBlank c

/-- The text is not empty and consists of what names consist of. -/
def IsName (s : String) : Prop := s.toList ≠ [] ∧ ∀ c ∈ s.toList, isNameChar c = true

/-! ## Characters -/

theorem isIdentifierRest_of_start {c : Char} (h : isIdentifierStart c = true) :
    isIdentifierRest c = true := by
  simp only [isIdentifierStart, isIdentifierRest, Char.isAlphanum, Bool.or_eq_true] at h ⊢
  rcases h with h | h
  · exact .inl (.inl h)
  · exact .inr h

theorem isNameChar_of_rest {c : Char} (h : isIdentifierRest c = true) : isNameChar c = true := by
  simp [isNameChar, h]

theorem isJoinChar_of_name {c : Char} (h : isNameChar c = true) : isJoinChar c = true := by
  simp [isJoinChar, h]

theorem isJoinChar_of_blank {c : Char} (h : isBlank c = true) : isJoinChar c = true := by
  simp [isJoinChar, h]

/-- The characters of names lie between the dot and the lower case letters. -/
theorem toNat_of_isNameChar {c : Char} (h : isNameChar c = true) :
    46 ≤ c.toNat ∧ c.toNat ≤ 122 := by
  have range : ∀ {lo hi : UInt32}, c.val ≥ lo ∧ c.val ≤ hi → lo.toNat ≤ c.toNat ∧ c.toNat ≤ hi.toNat :=
    fun h => ⟨UInt32.le_iff_toNat_le.1 h.1, UInt32.le_iff_toNat_le.1 h.2⟩
  simp only [isNameChar, isIdentifierRest, Char.isAlphanum, Bool.or_eq_true, beq_iff_eq] at h
  rcases h with ((h | h) | rfl) | rfl
  · rcases Bool.or_eq_true_iff.1 h with hupper | hlower
    · have hbounds := range (of_decide_eq_true hupper)
      exact ⟨Nat.le_trans (by decide) hbounds.1, Nat.le_trans hbounds.2 (by decide)⟩
    · obtain ⟨hlo, hhi⟩ := Bool.and_eq_true_iff.1 hlower
      have hbounds := range ⟨of_decide_eq_true hlo, of_decide_eq_true hhi⟩
      exact ⟨Nat.le_trans (by decide) hbounds.1, Nat.le_trans hbounds.2 (by decide)⟩
  · have hbounds := Char.isDigit_iff_toNat.1 h
    exact ⟨Nat.le_trans (by decide) hbounds.1, Nat.le_trans hbounds.2 (by decide)⟩
  · decide
  · decide

/-- No blank lies between the space and the delete character. -/
theorem toNat_of_isBlank {c : Char} (h : isBlank c = true) : c.toNat ≤ 32 ∨ 133 ≤ c.toNat := by
  simp only [isBlank, blankRanges, List.any_cons, List.any_nil, Bool.or_eq_true, Bool.and_eq_true,
    decide_eq_true_eq, Bool.or_false] at h
  omega

theorem toNat_of_isMark {c : Char} (h : isMark c = true) : 40 ≤ c.toNat ∧ c.toNat ≤ 44 := by
  simp only [isMark, Bool.or_eq_true, beq_iff_eq] at h
  rcases h with (rfl | rfl) | rfl <;> decide

theorem isBreak_of_isNameChar {c : Char} (h : isNameChar c = true) : isBreak c = false := by
  have hc := toNat_of_isNameChar h
  rw [isBreak, Bool.or_eq_false_iff, Bool.eq_false_iff, Bool.eq_false_iff]
  refine ⟨fun hb => ?_, fun hm => ?_⟩
  · have := toNat_of_isBlank hb
    omega
  · have := toNat_of_isMark hm
    omega

theorem IsName.isWord {s : String} (h : IsName s) : IsWord s.toList :=
  ⟨h.1, fun c hc => isBreak_of_isNameChar (h.2 c hc)⟩

/-! ## What readers consume -/

/-- The rest of a text after characters that satisfy `P`. -/
def Consumes (P : Char → Bool) (cs rest : List Char) : Prop :=
  ∃ w, cs = w ++ rest ∧ ∀ c ∈ w, P c = true

namespace Consumes

variable {P Q : Char → Bool} {cs ds rest : List Char}

theorem refl (cs : List Char) : Consumes P cs cs := ⟨[], rfl, by simp⟩

theorem cons {c : Char} (hc : P c = true) (h : Consumes P cs rest) : Consumes P (c :: cs) rest := by
  obtain ⟨w, rfl, hw⟩ := h
  exact ⟨c :: w, rfl, List.forall_mem_cons.2 ⟨hc, hw⟩⟩

theorem trans (h : Consumes P cs ds) (h' : Consumes P ds rest) : Consumes P cs rest := by
  obtain ⟨v, rfl, hv⟩ := h
  obtain ⟨w, rfl, hw⟩ := h'
  exact ⟨v ++ w, by simp, List.forall_mem_append.2 ⟨hv, hw⟩⟩

theorem mono (h : Consumes P cs rest) (hPQ : ∀ c, P c = true → Q c = true) :
    Consumes Q cs rest := by
  obtain ⟨w, rfl, hw⟩ := h
  exact ⟨w, rfl, fun c hc => hPQ c (hw c hc)⟩

theorem all (h : Consumes P cs rest) (hr : ∀ c ∈ rest, P c = true) : ∀ c ∈ cs, P c = true := by
  obtain ⟨w, rfl, hw⟩ := h
  exact List.forall_mem_append.2 ⟨hw, hr⟩

end Consumes

theorem consumes_skipBlanks (cs : List Char) : Consumes isBlank cs (skipBlanks cs) :=
  ⟨cs.takeWhile isBlank, List.takeWhile_append_dropWhile.symm, fun _ => List.mem_takeWhile_imp⟩

theorem consumes_blanks {cs rest : List Char} (h : blanks? cs = some rest) :
    Consumes isBlank cs rest := by
  cases cs with
  | nil => cases h
  | cons c cs =>
    rw [blanks?, Option.ite_none_right_eq_some] at h
    obtain ⟨hc, h⟩ := h
    rw [← Option.some.inj h]
    exact (consumes_skipBlanks cs).cons hc

theorem identifier?_ok {cs w rest : List Char} (h : identifier? cs = some (w, rest)) :
    w ≠ [] ∧ (∀ c ∈ w, isIdentifierRest c = true) ∧ cs = w ++ rest := by
  cases cs with
  | nil => cases h
  | cons c cs =>
    rw [identifier?, Option.ite_none_right_eq_some, Option.some.injEq, Prod.mk.injEq] at h
    obtain ⟨hc, rfl, rfl⟩ := h
    refine ⟨List.cons_ne_nil _ _, List.forall_mem_cons.2 ⟨isIdentifierRest_of_start hc, ?_⟩, ?_⟩
    · exact fun _ => List.mem_takeWhile_imp
    · rw [List.cons_append, List.takeWhile_append_dropWhile]

theorem qualifiedName?_ok {cs w rest : List Char} (h : qualifiedName? cs = some (w, rest)) :
    w ≠ [] ∧ (∀ c ∈ w, isNameChar c = true) ∧ cs = w ++ rest := by
  unfold qualifiedName? at h
  split at h
  · cases h
  · rename_i first tail hfirst
    obtain ⟨⟨second, tail'⟩, hsecond, h⟩ := Option.map_eq_some_iff.1 h
    rw [Prod.mk.injEq] at h
    obtain ⟨rfl, rfl⟩ := h
    obtain ⟨_, hf, rfl⟩ := identifier?_ok hfirst
    obtain ⟨_, hs, rfl⟩ := identifier?_ok hsecond
    refine ⟨by simp, fun c hc => ?_, by simp⟩
    rcases List.mem_append.1 hc with hc | hc
    · exact isNameChar_of_rest (hf c hc)
    · rcases List.mem_cons.1 hc with rfl | hc
      · rfl
      · exact isNameChar_of_rest (hs c hc)
  · rename_i first tail _ hfirst
    rw [Option.some.injEq, Prod.mk.injEq] at h
    obtain ⟨rfl, rfl⟩ := h
    obtain ⟨hne, hf, heq⟩ := identifier?_ok hfirst
    exact ⟨hne, fun c hc => isNameChar_of_rest (hf c hc), heq⟩

theorem consumes_qualifiedName {cs w rest : List Char} (h : qualifiedName? cs = some (w, rest)) :
    Consumes isNameChar cs rest :=
  let ⟨_, hw, heq⟩ := qualifiedName?_ok h
  ⟨w, heq, hw⟩

theorem isName_of_isIdentifier {s : String} (h : isIdentifier s = true) : IsName s := by
  unfold isIdentifier at h
  split at h
  · rename_i w hw
    obtain ⟨hne, hc, heq⟩ := identifier?_ok hw
    rw [List.append_nil] at heq
    exact ⟨heq ▸ hne, fun c hs => isNameChar_of_rest (hc c (heq ▸ hs))⟩
  · cases h

theorem isName_of_isQualifiedName {s : String} (h : isQualifiedName s = true) : IsName s := by
  unfold isQualifiedName at h
  split at h
  · rename_i w hw
    obtain ⟨hne, hc, heq⟩ := qualifiedName?_ok hw
    rw [List.append_nil] at heq
    exact ⟨heq ▸ hne, fun c hs => hc c (heq ▸ hs)⟩
  · cases h

/-! ## ON texts -/

theorem consumes_equality {cs rest : List Char} (h : Join.equality? cs = some rest) :
    Consumes isJoinChar cs rest := by
  unfold Join.equality? at h
  simp only [bind, Option.bind_eq_some_iff] at h
  obtain ⟨⟨_, cs₁⟩, h₁, h⟩ := h
  have hbefore : Consumes isJoinChar cs (skipBlanks cs₁) :=
    ((consumes_qualifiedName h₁).mono fun _ => isJoinChar_of_name).trans
      ((consumes_skipBlanks cs₁).mono fun _ => isJoinChar_of_blank)
  split at h
  · rename_i cs₂ heq
    rw [Option.bind_some, Option.bind_eq_some_iff] at h
    obtain ⟨⟨_, cs₃⟩, h₃, h⟩ := h
    have hafter : Consumes isJoinChar cs₂ cs₃ :=
      ((consumes_skipBlanks cs₂).mono fun _ => isJoinChar_of_blank).trans
        ((consumes_qualifiedName h₃).mono fun _ => isJoinChar_of_name)
    rw [heq] at hbefore
    rw [← Option.some.inj h]
    exact hbefore.trans (hafter.cons rfl)
  · cases h

theorem consumes_and {cs rest : List Char} (h : keyword? ['a', 'n', 'd'] cs = some rest) :
    Consumes isJoinChar cs rest := by
  have step : ∀ {k : Char} {ks cs : List Char}, (caseForms k).all isJoinChar = true →
      keyword? (k :: ks) cs = some rest →
      ∃ ds, keyword? ks ds = some rest ∧ (Consumes isJoinChar ds rest → Consumes isJoinChar cs rest) := by
    intro k ks cs hk h
    cases cs with
    | nil => cases h
    | cons c cs =>
      rw [keyword?, Option.ite_none_right_eq_some, List.contains_iff_mem] at h
      exact ⟨cs, h.2, fun hc => hc.cons (List.all_eq_true.1 hk c h.1)⟩
  obtain ⟨cs₁, h, hc₁⟩ := step (by decide) h
  obtain ⟨cs₂, h, hc₂⟩ := step (by decide) h
  obtain ⟨cs₃, h, hc₃⟩ := step (by decide) h
  rw [keyword?, Option.some.injEq] at h
  exact hc₁ (hc₂ (hc₃ (h ▸ .refl _)))

theorem joinChar_of_isConjunctionTail {fuel : Nat} {cs : List Char}
    (h : Join.isConjunctionTail fuel cs = true) : ∀ c ∈ cs, isJoinChar c = true := by
  induction fuel generalizing cs with
  | zero => cases h
  | succ fuel ih =>
    have hblank : ∀ {ds rest}, Consumes isBlank ds rest → Consumes isJoinChar ds rest :=
      fun h => h.mono fun _ => isJoinChar_of_blank
    rw [Join.isConjunctionTail, Bool.or_eq_true] at h
    rcases h with h | h
    · have := hblank (consumes_skipBlanks cs)
      rw [List.isEmpty_iff.1 h] at this
      exact this.all (by simp)
    · split at h
      · rename_i rest hrest
        simp only [Option.bind_eq_bind, Option.bind_eq_some_iff] at hrest
        obtain ⟨cs₁, h₁, cs₂, h₂, cs₃, h₃, h₄⟩ := hrest
        exact ((hblank (consumes_blanks h₁)).trans ((consumes_and h₂).trans
          ((hblank (consumes_blanks h₃)).trans (consumes_equality h₄)))).all (ih h)
      · cases h

/-- **An ON text consists of names, equality signs and blanks.** -/
theorem joinChar_of_isConjunction {on : String} (h : Join.isConjunction on = true) :
    ∀ c ∈ on.toList, isJoinChar c = true := by
  unfold Join.isConjunction at h
  split at h
  · rename_i rest hrest
    have hstart : Consumes isJoinChar on.toList (skipBlanks on.toList) :=
      (consumes_skipBlanks _).mono fun _ => isJoinChar_of_blank
    exact (hstart.trans (consumes_equality hrest)).all (joinChar_of_isConjunctionTail h)
  · cases h

end GuardedQuery.Text
