import GuardedQuery.Proofs.Text.Name

/-!
# Entries in normal form

A reader of names stops where a name cannot go on, so what it read is read again in front of any text
that does not go on with it (`Text.qualifiedName?_append`). The normal form of an entry is therefore
read as the column that it was made of (`Column.ofEntry?_entry`), whatever the names in it are.
-/

namespace GuardedQuery

namespace Text

variable {cs w rest t : List Char}

/-- An identifier is read again in front of other text. -/
theorem identifier?_append (h : identifier? cs = some (w, rest))
    (ht : ∀ c ∈ t.head?, isIdentifierRest c = false) : identifier? (w ++ t) = some (w, t) := by
  cases cs with
  | nil => cases h
  | cons c cs =>
    rw [identifier?, Option.ite_none_right_eq_some, Option.some.injEq, Prod.mk.injEq] at h
    obtain ⟨hstart, rfl, -⟩ := h
    have hword : ∀ d ∈ cs.takeWhile isIdentifierRest, isIdentifierRest d = true := fun _ =>
      List.mem_takeWhile_imp
    have htake : t.takeWhile isIdentifierRest = [] := by
      cases t with
      | nil => rfl
      | cons d t => simp [ht d rfl]
    have hdrop : t.dropWhile isIdentifierRest = t := by
      cases t with
      | nil => rfl
      | cons d t => simp [ht d rfl]
    rw [List.cons_append, identifier?, if_pos hstart, List.takeWhile_append_of_pos hword, htake,
      List.dropWhile_append_of_pos hword, hdrop, List.append_nil]

/-- A qualified name is read again in front of text that does not go on with it. -/
theorem qualifiedName?_append (h : qualifiedName? cs = some (w, rest))
    (ht : ∀ c ∈ t.head?, isNameChar c = false) : qualifiedName? (w ++ t) = some (w, t) := by
  have hrest : ∀ c ∈ t.head?, isIdentifierRest c = false := fun c hc =>
    Bool.eq_false_iff.2 fun hc' => Bool.eq_false_iff.1 (ht c hc) (isNameChar_of_rest hc')
  unfold qualifiedName? at h
  split at h
  case h_1 => cases h
  case h_2 first tail hfirst =>
    obtain ⟨⟨second, tail'⟩, hsecond, h⟩ := Option.map_eq_some_iff.1 h
    rw [Prod.mk.injEq] at h
    obtain ⟨rfl, -⟩ := h
    have hread : identifier? (first ++ '.' :: (second ++ t)) = some (first, '.' :: (second ++ t)) :=
      identifier?_append hfirst (by simp [isIdentifierRest])
    have hread' := identifier?_append hsecond hrest
    rw [List.append_assoc, List.cons_append]
    simp [qualifiedName?, hread, hread']
  case h_3 first tail _ hfirst =>
    rw [Option.some.injEq, Prod.mk.injEq] at h
    obtain ⟨rfl, -⟩ := h
    have hread := identifier?_append hfirst hrest
    unfold qualifiedName?
    rw [hread]
    split
    case h_1 heq => cases heq
    case h_2 heq =>
      cases heq
      exact absurd (ht '.' rfl) (by decide)
    case h_3 heq =>
      cases heq
      rfl

theorem head?_identifier? (h : identifier? cs = some (w, rest)) :
    ∀ c ∈ w.head?, isIdentifierStart c = true := by
  cases cs with
  | nil => cases h
  | cons c cs =>
    rw [identifier?, Option.ite_none_right_eq_some, Option.some.injEq, Prod.mk.injEq] at h
    obtain ⟨hstart, rfl, -⟩ := h
    simpa using hstart

theorem head?_qualifiedName? (h : qualifiedName? cs = some (w, rest)) :
    ∀ c ∈ w.head?, isIdentifierStart c = true := by
  unfold qualifiedName? at h
  split at h
  case h_1 => cases h
  case h_2 first tail hfirst =>
    obtain ⟨⟨second, tail'⟩, -, h⟩ := Option.map_eq_some_iff.1 h
    rw [Prod.mk.injEq] at h
    obtain ⟨rfl, -⟩ := h
    obtain ⟨hne, -, -⟩ := identifier?_ok hfirst
    intro c hc
    refine head?_identifier? hfirst c ?_
    cases first with
    | nil => exact absurd rfl hne
    | cons d first => exact hc
  case h_3 first tail _ hfirst =>
    rw [Option.some.injEq, Prod.mk.injEq] at h
    obtain ⟨rfl, -⟩ := h
    exact head?_identifier? hfirst

/-- No blanks stand in front of a name. -/
theorem skipBlanks_of_start (h : ∀ c ∈ cs.head?, isIdentifierStart c = true) :
    skipBlanks cs = cs := by
  cases cs with
  | nil => rfl
  | cons c cs =>
    have hname : isNameChar c = true :=
      isNameChar_of_rest (isIdentifierRest_of_start (h c rfl))
    have hblank : isBlank c = false := by
      have := isBreak_of_isNameChar hname
      rw [isBreak, Bool.or_eq_false_iff] at this
      exact this.1
    simp [skipBlanks, hblank]

end Text

namespace Column

/-- An entry is read as a column reference, and what follows it as a name if there is one. -/
theorem ofEntry?_read_iff {entry : String} {c : Column} : ofEntry? entry = some c ↔
    ∃ w rest name, Text.qualifiedName? (Text.skipBlanks entry.toList) = some (w, rest) ∧
      aliasOfChars? rest = some name ∧ ⟨String.ofList w, name.map String.ofList⟩ = c := by
  simp only [bind, pure, ofEntry?, Option.bind_eq_some_iff, Option.some.injEq, Prod.exists]
  simp only [exists_and_left]

/-- What an entry is made of: a column reference, and a name if there is one. -/
theorem ofEntry?_ok {entry : String} {c : Column} (h : ofEntry? entry = some c) :
    (∃ cs rest, Text.qualifiedName? cs = some (c.expression.toList, rest)) ∧
      ∀ n ∈ c.aliasName, ∃ cs rest, Text.identifier? cs = some (n.toList, rest) := by
  obtain ⟨w, cs, name, hw, hname, rfl⟩ := ofEntry?_read_iff.1 h
  refine ⟨⟨_, cs, by rw [hw, String.toList_ofList]⟩, fun n hn => ?_⟩
  obtain ⟨v, rfl, rfl⟩ := Option.map_eq_some_iff.1 hn
  unfold aliasOfChars? at hname
  split at hname
  · cases hname
  · simp only [bind, Option.bind_eq_some_iff, Option.ite_none_right_eq_some,
      Option.some.injEq] at hname
    obtain ⟨_, -, _, -, cs', -, ⟨v', rest⟩, hv, -, rfl⟩ := hname
    exact ⟨cs', rest, by rw [hv, String.toList_ofList]⟩

theorem ofEntry?_of {entry : String} {w rest : List Char} {name : Option (List Char)}
    (hskip : Text.skipBlanks entry.toList = entry.toList)
    (hw : Text.qualifiedName? entry.toList = some (w, rest)) (hname : aliasOfChars? rest = some name) :
    ofEntry? entry = some ⟨String.ofList w, name.map String.ofList⟩ :=
  ofEntry?_read_iff.2 ⟨w, rest, name, by rw [hskip, hw], hname, rfl⟩

/-- The name after `AS` in normal form is read back. -/
theorem aliasOfChars?_as {cs v rest : List Char} (h : Text.identifier? cs = some (v, rest)) :
    aliasOfChars? (' ' :: 'A' :: 'S' :: ' ' :: v) = some (some v) := by
  have hskip : Text.skipBlanks (' ' :: 'A' :: 'S' :: ' ' :: v) = 'A' :: 'S' :: ' ' :: v := rfl
  have hblanks : Text.blanks? (' ' :: 'A' :: 'S' :: ' ' :: v) = some ('A' :: 'S' :: ' ' :: v) := rfl
  have hkeyword : Text.keyword? ['a', 's'] ('A' :: 'S' :: ' ' :: v) = some (' ' :: v) := rfl
  have hname : Text.blanks? (' ' :: v) = some v := by
    rw [Text.blanks?, if_pos (by decide), Text.skipBlanks_of_start (Text.head?_identifier? h)]
  have hread : Text.identifier? v = some (v, []) := by
    simpa using Text.identifier?_append h (t := []) (by simp)
  have hend : Text.skipBlanks [] = [] := rfl
  unfold aliasOfChars?
  rw [hskip]
  simp [hblanks, hkeyword, hname, hread, hend]

theorem toList_entry (c : Column) : c.entry.toList =
    c.expression.toList ++ (c.aliasName.map fun n => " AS ".toList ++ n.toList).getD [] := by
  cases hn : c.aliasName <;> simp [entry, hn]

/-- **The normal form of an entry is read as the same column.** -/
theorem ofEntry?_entry {text : String} {c : Column} (h : ofEntry? text = some c) :
    ofEntry? c.entry = some c := by
  obtain ⟨⟨cs, rest, hexpression⟩, hname⟩ := ofEntry?_ok h
  obtain ⟨expression, aliasName⟩ := c
  dsimp only at hexpression hname
  have hstart := Text.head?_qualifiedName? hexpression
  cases aliasName with
  | none =>
    have hread : Text.qualifiedName? expression.toList = some (expression.toList, []) := by
      simpa using Text.qualifiedName?_append hexpression (t := []) (by simp)
    have hentry := ofEntry?_of (Text.skipBlanks_of_start hstart) hread rfl
    rwa [String.ofList_toList] at hentry
  | some n =>
    obtain ⟨cs', rest', hn⟩ := hname n rfl
    have hchars : (entry ⟨expression, some n⟩).toList =
        expression.toList ++ ' ' :: 'A' :: 'S' :: ' ' :: n.toList := by
      rw [toList_entry]
      rfl
    have hread : Text.qualifiedName? (entry ⟨expression, some n⟩).toList =
        some (expression.toList, ' ' :: 'A' :: 'S' :: ' ' :: n.toList) := by
      rw [hchars]
      exact Text.qualifiedName?_append hexpression (by rintro _ ⟨⟩; decide)
    have hskip : Text.skipBlanks (entry ⟨expression, some n⟩).toList =
        (entry ⟨expression, some n⟩).toList := by
      refine Text.skipBlanks_of_start fun c hc => hstart c ?_
      rw [hchars] at hc
      cases hword : expression.toList with
      | nil =>
        obtain ⟨hne, -, -⟩ := Text.qualifiedName?_ok hexpression
        exact absurd hword hne
      | cons d tail =>
        rw [hword] at hc
        exact hc
    have hentry := ofEntry?_of hskip hread (aliasOfChars?_as hn)
    rwa [Option.map_some, String.ofList_toList, String.ofList_toList] at hentry

end Column

end GuardedQuery
