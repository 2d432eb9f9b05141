import Mathlib.Data.List.Forall2
import GuardedQuery.Proofs.Allowlist.Entry

/-!
# The grammar of entries and ON texts

The texts that the readers of allowlists accept, said without the readers: names
(`Text.Identifier`, `Text.QualifiedName`), entries (`Column.Spelled`) and ON texts (`Join.OnText`).
Blanks may stand around the parts of a text, and a keyword may have any casing (`Text.Casing`).

A name is read as far as it goes, and it can only be followed by a blank, an equality sign or the end;
the keywords, which may also be names, stand between blanks. So the readers accept just these texts
(`Column.ofEntry?_eq_some_iff`, `Join.isConjunction_iff`), and there is one way to take each apart
(`Column.Spelled.unique`).
-/

namespace GuardedQuery

namespace Text

variable {b cs g w rest t : List Char}

/-! ## Names -/

/-- An ASCII letter or an underscore, and then ASCII letters, digits and underscores. -/
inductive Identifier : List Char → Prop
  | intro {c : Char} {cs : List Char} : isIdentifierStart c = true →
      (∀ d ∈ cs, isIdentifierRest d = true) → Identifier (c :: cs)

/-- An identifier, or two with a dot between. -/
inductive QualifiedName : List Char → Prop
  | plain {w : List Char} : Identifier w → QualifiedName w
  | dotted {v w : List Char} : Identifier v → Identifier w → QualifiedName (v ++ '.' :: w)

/-- A reader takes an identifier as a whole if it cannot go on. -/
theorem Identifier.read (h : Identifier w) (ht : ∀ c ∈ t.head?, isIdentifierRest c = false) :
    identifier? (w ++ t) = some (w, t) := by
  obtain ⟨hc, hcs⟩ := h
  rename_i c cs
  have hself : identifier? (c :: cs) = some (c :: cs, []) := by
    rw [identifier?, if_pos hc, List.takeWhile_eq_self_iff.2 hcs, List.dropWhile_eq_nil_iff.2 hcs]
  exact identifier?_append hself ht

theorem identifier_of_read (h : identifier? cs = some (w, rest)) : Identifier w ∧ cs = w ++ rest := by
  obtain ⟨hne, hw, heq⟩ := identifier?_ok h
  have hhead := head?_identifier? h
  cases w with
  | nil => exact absurd rfl hne
  | cons c w => exact ⟨.intro (hhead c rfl) fun d hd => hw d (List.mem_cons_of_mem c hd), heq⟩

theorem QualifiedName.read (h : QualifiedName w) (ht : ∀ c ∈ t.head?, isNameChar c = false) :
    qualifiedName? (w ++ t) = some (w, t) := by
  cases h with
  | plain h =>
    have hself := h.read (t := []) (by simp)
    have hread : qualifiedName? (w ++ []) = some (w, []) := by
      unfold qualifiedName?
      rw [hself]
    exact qualifiedName?_append hread ht
  | dotted hv hw =>
    rename_i v w
    have hfirst : identifier? (v ++ '.' :: w) = some (v, '.' :: w) := hv.read (by simp [isIdentifierRest])
    have hsecond : identifier? w = some (w, []) := by simpa using hw.read (t := []) (by simp)
    have hread : qualifiedName? (v ++ '.' :: w) = some (v ++ '.' :: w, []) := by
      simp [qualifiedName?, hfirst, hsecond]
    exact qualifiedName?_append hread ht

theorem qualifiedName_of_read (h : qualifiedName? cs = some (w, rest)) :
    QualifiedName w ∧ cs = w ++ rest := by
  obtain ⟨-, -, heq⟩ := qualifiedName?_ok h
  refine ⟨?_, heq⟩
  unfold qualifiedName? at h
  split at h
  case h_1 => cases h
  case h_2 first tail hfirst =>
    obtain ⟨⟨second, tail'⟩, hsecond, h⟩ := Option.map_eq_some_iff.1 h
    cases h
    exact .dotted (identifier_of_read hfirst).1 (identifier_of_read hsecond).1
  case h_3 first tail _ hfirst =>
    cases h
    exact .plain (identifier_of_read hfirst).1

theorem isIdentifier_iff {s : String} : isIdentifier s = true ↔ Identifier s.toList := by
  unfold isIdentifier
  constructor
  · intro h
    split at h
    · rename_i w hw
      obtain ⟨hident, heq⟩ := identifier_of_read hw
      rwa [heq, List.append_nil]
    · cases h
  · intro h
    have hread := h.read (t := []) (by simp)
    rw [List.append_nil] at hread
    rw [hread]

theorem isQualifiedName_iff {s : String} : isQualifiedName s = true ↔ QualifiedName s.toList := by
  unfold isQualifiedName
  constructor
  · intro h
    split at h
    · rename_i w hw
      obtain ⟨hname, heq⟩ := qualifiedName_of_read hw
      rwa [heq, List.append_nil]
    · cases h
  · intro h
    have hread := h.read (t := []) (by simp)
    rw [List.append_nil] at hread
    rw [hread]

/-! ## Blanks and keywords -/

def Blanks (cs : List Char) : Prop := ∀ c ∈ cs, isBlank c = true

/-- Blanks, at least one. -/
def Gap (cs : List Char) : Prop := cs ≠ [] ∧ Blanks cs

/-- The keyword, given in lower case, in some casing. -/
def Casing (keyword cs : List Char) : Prop := List.Forall₂ (fun k c => c ∈ caseForms k) keyword cs

theorem not_isBlank_of_isNameChar {c : Char} (h : isNameChar c = true) : isBlank c = false :=
  (not_blank_of_not_break (isBreak_of_isNameChar h)).1

theorem not_isNameChar_of_isBlank {c : Char} (h : isBlank c = true) : isNameChar c = false := by
  by_contra hname
  rw [not_isBlank_of_isNameChar (by simpa using hname)] at h
  cases h

theorem skipBlanks_append (hb : Blanks b) (ht : ∀ c ∈ t.head?, isBlank c = false) :
    skipBlanks (b ++ t) = t := by
  rw [skipBlanks, List.dropWhile_append_of_pos hb]
  cases t with
  | nil => rfl
  | cons c t => simp [ht c rfl]

theorem blanks?_append (hg : Gap g) (ht : ∀ c ∈ t.head?, isBlank c = false) :
    blanks? (g ++ t) = some t := by
  obtain ⟨hne, hg⟩ := hg
  cases g with
  | nil => exact absurd rfl hne
  | cons c g =>
    rw [List.cons_append, blanks?, if_pos (hg c List.mem_cons_self),
      skipBlanks_append (fun d hd => hg d (List.mem_cons_of_mem c hd)) ht]

theorem blanks_skipped (cs : List Char) : ∃ b, Blanks b ∧ cs = b ++ skipBlanks cs := by
  obtain ⟨b, heq, hb⟩ := consumes_skipBlanks cs
  exact ⟨b, hb, heq⟩

theorem gap_of_read (h : blanks? cs = some rest) : ∃ g, Gap g ∧ cs = g ++ rest := by
  cases cs with
  | nil => cases h
  | cons c cs =>
    rw [blanks?, Option.ite_none_right_eq_some, Option.some.injEq] at h
    obtain ⟨hc, rfl⟩ := h
    obtain ⟨b, hb, heq⟩ := blanks_skipped cs
    refine ⟨c :: b, ⟨List.cons_ne_nil c b, List.forall_mem_cons.2 ⟨hc, hb⟩⟩, ?_⟩
    rw [List.cons_append, ← heq]

theorem keyword?_eq_some_iff {ks : List Char} :
    keyword? ks cs = some rest ↔ ∃ k, Casing ks k ∧ cs = k ++ rest := by
  induction ks generalizing cs with
  | nil =>
    constructor
    · intro h
      cases h
      exact ⟨[], .nil, rfl⟩
    · rintro ⟨k, hk, rfl⟩
      cases hk
      rfl
  | cons l ks ih =>
    constructor
    · intro h
      cases cs with
      | nil => cases h
      | cons c cs =>
        rw [keyword?, Option.ite_none_right_eq_some, List.contains_iff_mem, ih] at h
        obtain ⟨hc, k, hk, rfl⟩ := h
        exact ⟨c :: k, .cons hc hk, rfl⟩
    · rintro ⟨k, hk, rfl⟩
      cases hk with
      | cons hc hk =>
        rename_i c k
        rw [List.cons_append, keyword?, if_pos (List.contains_iff_mem.2 hc)]
        exact ih.2 ⟨k, hk, rfl⟩

/-! ## What may stand at the front -/

theorem Identifier.head (h : Identifier w) : ∀ c ∈ (w ++ t).head?, isBlank c = false := by
  obtain ⟨hc, -⟩ := h
  rintro _ ⟨⟩
  exact not_isBlank_of_isNameChar (isNameChar_of_rest (isIdentifierRest_of_start hc))

theorem QualifiedName.head (h : QualifiedName w) : ∀ c ∈ (w ++ t).head?, isBlank c = false := by
  cases h with
  | plain h => exact h.head
  | dotted hv _ =>
    rw [List.append_assoc]
    exact hv.head

theorem Casing.head {k ks : List Char} (h : Casing ('a' :: ks) k) :
    ∀ c ∈ (k ++ t).head?, isBlank c = false := by
  have hforms : (caseForms 'a').any isBlank = false := by decide
  cases h with
  | cons hc _ =>
    rintro _ ⟨⟩
    exact Bool.eq_false_iff.2 (List.any_eq_false.1 hforms _ hc)

/-- No name goes on with blanks. -/
theorem Blanks.head (h : Blanks b) (ht : ∀ c ∈ t.head?, isNameChar c = false) :
    ∀ c ∈ (b ++ t).head?, isNameChar c = false := by
  cases b with
  | nil => exact ht
  | cons d b =>
    rintro _ ⟨⟩
    exact not_isNameChar_of_isBlank (h d List.mem_cons_self)

theorem Gap.head (h : Gap g) : ∀ c ∈ (g ++ t).head?, isNameChar c = false := by
  obtain ⟨hne, hg⟩ := h
  cases g with
  | nil => exact absurd rfl hne
  | cons d g =>
    rintro _ ⟨⟩
    exact not_isNameChar_of_isBlank (hg d List.mem_cons_self)

end Text

open Text

/-! ## Entries -/

namespace Column

variable {c d : Column} {cs : List Char} {name : Option (List Char)}

/-- What follows the column reference of an entry. -/
inductive Suffix : Option (List Char) → List Char → Prop
  | none {b : List Char} : Blanks b → Suffix none b
  | some {g k g' n b : List Char} : Gap g → Casing ['a', 's'] k → Gap g' → Identifier n → Blanks b →
      Suffix (some n) (g ++ (k ++ (g' ++ (n ++ b))))

/-- **The texts that spell a column**: its reference, and ` AS ` with its name in result rows if it has
one; blanks may stand at both ends. -/
inductive Spelled : Column → List Char → Prop
  | intro {b e suffix : List Char} {name : Option (List Char)} : Blanks b → QualifiedName e →
      Suffix name suffix → Spelled ⟨String.ofList e, name.map String.ofList⟩ (b ++ (e ++ suffix))

theorem Suffix.head (h : Suffix name cs) : ∀ c ∈ cs.head?, isNameChar c = false := by
  cases h with
  | none hb => simpa using hb.head (t := []) (by simp)
  | some hg => exact hg.head

theorem aliasOfChars?_eq_some_iff : aliasOfChars? cs = some name ↔ Suffix name cs := by
  constructor
  · intro h
    unfold aliasOfChars? at h
    split at h
    · rename_i hskip
      cases h
      obtain ⟨b, hb, heq⟩ := blanks_skipped cs
      rw [hskip, List.append_nil] at heq
      exact .none (heq ▸ hb)
    · simp only [bind, Option.bind_eq_some_iff, Option.ite_none_right_eq_some, Option.some.injEq] at h
      obtain ⟨cs₁, h₁, cs₂, h₂, cs₃, h₃, ⟨n, cs₄⟩, h₄, hskip, rfl⟩ := h
      obtain ⟨g, hg, rfl⟩ := gap_of_read h₁
      obtain ⟨k, hk, rfl⟩ := keyword?_eq_some_iff.1 h₂
      obtain ⟨g', hg', rfl⟩ := gap_of_read h₃
      obtain ⟨hn, rfl⟩ := identifier_of_read h₄
      obtain ⟨b, hb, heq⟩ := blanks_skipped cs₄
      rw [hskip, List.append_nil] at heq
      exact .some hg hk hg' hn (heq ▸ hb)
  · intro h
    cases h with
    | none hb =>
      have hskip : skipBlanks cs = [] := by simpa using skipBlanks_append hb (t := []) (by simp)
      rw [aliasOfChars?, hskip]
    | some hg hk hg' hn hb =>
      rename_i g k g' n b
      have hskip : skipBlanks b = [] := by simpa using skipBlanks_append hb (t := []) (by simp)
      have hrest : ∀ c ∈ b.head?, isIdentifierRest c = false := by
        intro c hc
        have hname := hb.head (t := []) (by simp) c (by simpa using hc)
        by_contra hc'
        rw [isNameChar_of_rest (by simpa using hc')] at hname
        cases hname
      have hkeyword : keyword? ['a', 's'] (k ++ (g' ++ (n ++ b))) = some (g' ++ (n ++ b)) :=
        keyword?_eq_some_iff.2 ⟨k, hk, rfl⟩
      unfold aliasOfChars?
      rw [skipBlanks_append hg.2 hk.head]
      split
      · rename_i hnil
        cases hk
        cases hnil
      · simp [blanks?_append hg hk.head, hkeyword, blanks?_append hg' hn.head, hn.read hrest, hskip]

/-- **A text is read as a column just when it spells that column.** -/
theorem ofEntry?_eq_some_iff {text : String} :
    ofEntry? text = some c ↔ c.Spelled text.toList := by
  constructor
  · intro h
    obtain ⟨e, suffix, name, he, hname, rfl⟩ := ofEntry?_read_iff.1 h
    obtain ⟨b, hb, heq⟩ := blanks_skipped text.toList
    obtain ⟨he, hskip⟩ := qualifiedName_of_read he
    rw [heq, hskip]
    exact .intro hb he (aliasOfChars?_eq_some_iff.1 hname)
  · generalize htext : text.toList = cs
    intro h
    cases h with
    | intro hb he hsuffix =>
      refine ofEntry?_read_iff.2 ⟨_, _, _, ?_, aliasOfChars?_eq_some_iff.2 hsuffix, rfl⟩
      rw [htext, skipBlanks_append hb he.head]
      exact he.read hsuffix.head

/-- A text spells one column at most: its reference and its name are determined. -/
theorem Spelled.unique (hc : c.Spelled cs) (hd : d.Spelled cs) : c = d := by
  rw [← String.toList_ofList (l := cs), ← ofEntry?_eq_some_iff] at hc hd
  exact Option.some.inj (hc.symm.trans hd)

end Column

/-! ## ON texts -/

namespace Join

variable {cs e more rest t : List Char}

/-- Two columns and an equality sign between them. -/
inductive Equality : List Char → Prop
  | intro {l b b' r : List Char} : QualifiedName l → Blanks b → Blanks b' → QualifiedName r →
      Equality (l ++ (b ++ '=' :: (b' ++ r)))

/-- Further equalities, each after `AND` with blanks on both sides. -/
inductive Conjuncts : List Char → Prop
  | nil : Conjuncts []
  | and {g k g' e more : List Char} : Gap g → Casing ['a', 'n', 'd'] k → Gap g' → Equality e →
      Conjuncts more → Conjuncts (g ++ (k ++ (g' ++ (e ++ more))))

/-- **The ON texts**: a conjunction of equalities, with blanks at both ends. -/
inductive OnText : List Char → Prop
  | intro {b e more b' : List Char} : Blanks b → Equality e → Conjuncts more → Blanks b' →
      OnText (b ++ (e ++ (more ++ b')))

theorem Equality.head (h : Equality e) : ∀ c ∈ (e ++ t).head?, isBlank c = false := by
  obtain ⟨hl, -, -, -⟩ := h
  rw [List.append_assoc]
  exact hl.head

theorem Equality.read (h : Equality e) (ht : ∀ c ∈ t.head?, isNameChar c = false) :
    equality? (e ++ t) = some t := by
  obtain ⟨hl, hb, hb', hr⟩ := h
  rename_i l b b' r
  have hleft := hl.read (hb.head (t := '=' :: (b' ++ (r ++ t))) (by rintro _ ⟨⟩; decide))
  have hskip : skipBlanks (b ++ '=' :: (b' ++ (r ++ t))) = '=' :: (b' ++ (r ++ t)) :=
    skipBlanks_append hb (by rintro _ ⟨⟩; decide)
  simp [equality?, hleft, hskip, skipBlanks_append hb' hr.head, hr.read ht]

theorem equality_of_read (h : equality? cs = some rest) : ∃ e, Equality e ∧ cs = e ++ rest := by
  unfold equality? at h
  simp only [bind, Option.bind_eq_some_iff] at h
  obtain ⟨⟨l, cs₁⟩, h₁, h⟩ := h
  obtain ⟨hl, rfl⟩ := qualifiedName_of_read h₁
  obtain ⟨b, hb, heq⟩ := blanks_skipped cs₁
  split at h
  · rename_i cs₂ hequals
    rw [Option.bind_some, Option.bind_eq_some_iff] at h
    obtain ⟨⟨r, cs₃⟩, h₃, h⟩ := h
    obtain ⟨hr, hskip⟩ := qualifiedName_of_read h₃
    obtain ⟨b', hb', heq'⟩ := blanks_skipped cs₂
    cases h
    refine ⟨_, .intro hl hb hb' hr, ?_⟩
    rw [heq, hequals, heq', hskip]
    simp
  · cases h

theorem Conjuncts.head (h : Conjuncts more) {b : List Char} (hb : Blanks b) :
    ∀ c ∈ (more ++ b).head?, isNameChar c = false := by
  cases h with
  | nil => simpa using hb.head (t := []) (by simp)
  | and hg =>
    rw [List.append_assoc]
    exact hg.head

/-- The fuel covers what is left of the text; each conjunct takes up some of it. -/
theorem Conjuncts.read (h : Conjuncts more) {b : List Char} (hb : Blanks b) {fuel : Nat}
    (hfuel : (more ++ b).length < fuel) : isConjunctionTail fuel (more ++ b) = true := by
  induction h generalizing fuel with
  | nil =>
    have hskip : skipBlanks b = [] := by simpa using skipBlanks_append hb (t := []) (by simp)
    obtain ⟨fuel, rfl⟩ : ∃ n, fuel = n + 1 := ⟨fuel - 1, by omega⟩
    rw [List.nil_append, isConjunctionTail, hskip]
    rfl
  | @and g k g' e more hg hk hg' he hmore ih =>
    obtain ⟨fuel, rfl⟩ : ∃ n, fuel = n + 1 := ⟨fuel - 1, by omega⟩
    have hlength : (more ++ b).length < fuel := by
      have hpos := List.length_pos_iff.2 hg.1
      simp only [List.length_append] at hfuel ⊢
      omega
    have hkeyword : keyword? ['a', 'n', 'd'] (k ++ (g' ++ (e ++ (more ++ b)))) =
        some (g' ++ (e ++ (more ++ b))) := keyword?_eq_some_iff.2 ⟨k, hk, rfl⟩
    simp [isConjunctionTail, blanks?_append hg hk.head, hkeyword, blanks?_append hg' he.head,
      he.read (hmore.head hb), ih hlength]

theorem conjuncts_of_read {fuel : Nat} (h : isConjunctionTail fuel cs = true) :
    ∃ more b, Conjuncts more ∧ Blanks b ∧ cs = more ++ b := by
  induction fuel generalizing cs with
  | zero => cases h
  | succ fuel ih =>
    rw [isConjunctionTail, Bool.or_eq_true] at h
    rcases h with h | h
    · obtain ⟨b, hb, heq⟩ := blanks_skipped cs
      rw [List.isEmpty_iff.1 h, List.append_nil] at heq
      exact ⟨[], b, .nil, hb, heq⟩
    · split at h
      · rename_i rest hrest
        simp only [Option.bind_eq_bind, Option.bind_eq_some_iff] at hrest
        obtain ⟨cs₁, h₁, cs₂, h₂, cs₃, h₃, h₄⟩ := hrest
        obtain ⟨more, b, hmore, hb, rfl⟩ := ih h
        obtain ⟨e, he, rfl⟩ := equality_of_read h₄
        obtain ⟨g', hg', rfl⟩ := gap_of_read h₃
        obtain ⟨k, hk, rfl⟩ := keyword?_eq_some_iff.1 h₂
        obtain ⟨g, hg, rfl⟩ := gap_of_read h₁
        exact ⟨_, b, .and hg hk hg' he hmore, hb, by simp⟩
      · cases h

/-- **An ON text is accepted just when it is a conjunction of equalities.** -/
theorem isConjunction_iff {on : String} : isConjunction on = true ↔ OnText on.toList := by
  constructor
  · intro h
    unfold isConjunction at h
    split at h
    · rename_i rest hrest
      obtain ⟨b, hb, heq⟩ := blanks_skipped on.toList
      obtain ⟨e, he, hskip⟩ := equality_of_read hrest
      obtain ⟨more, b', hmore, hb', rfl⟩ := conjuncts_of_read h
      rw [heq, hskip]
      exact .intro hb he hmore hb'
    · cases h
  · generalize hon : on.toList = cs
    intro h
    cases h with
    | intro hb he hmore hb' =>
      have hread := he.read (hmore.head hb')
      rw [isConjunction, hon, skipBlanks_append hb he.head, hread]
      exact hmore.read hb' (Nat.lt_succ_self _)

end Join

end GuardedQuery
