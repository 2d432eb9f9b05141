import GuardedQuery.Proofs.Allowlist.Entry
import GuardedQuery.Proofs.Allowlist.Sound

/-!
# What a key stands for

The columns of an allowlist are asked in order, and a key stands for the first that answers to it: by
its entry, by its column reference or by its alias. A name may be the alias of one column and the
reference of another. It stands for a column of that reference unless it is taken by an alias that is
met before (`Column.Taken`, `Column.resolve?_expression`).

Entries with an alias hold blanks, so no name is one, and two columns with one entry are the same
column (`Column.entry_inj`). The entry of a listed column therefore stands for that column, except
where it is a plain name that is taken (`Column.resolve?_entry`, `Column.isPlain_of_taken`).
-/

namespace GuardedQuery

open Text

namespace Column

variable {columns : List Column} {key : String} {c d : Column}

/-! ## Keys -/

/-- Some column goes by the key: it is its entry, its column reference or its alias, or another
spelling of its entry. -/
def Named (columns : List Column) (key : String) : Prop :=
  (∃ c ∈ columns, key = c.entry ∨ key = c.expression ∨ c.aliasName = some key) ∨
    ∃ normal, ofEntry? key = some normal ∧ ∃ c ∈ columns, c.entry = normal.entry

theorem answersTo_iff :
    c.answersTo key = true ↔ key = c.entry ∨ key = c.expression ∨ c.aliasName = some key := by
  simp [answersTo, or_assoc]

theorem isSome_resolve? : (resolve? columns key).isSome = true ↔ Named columns key := by
  unfold resolve? Named
  cases hfind : columns.find? (·.answersTo key) with
  | some c =>
    have hc := List.find?_some hfind
    simp only [Option.isSome_some, true_iff]
    exact .inl ⟨c, List.mem_of_find?_eq_some hfind, answersTo_iff.1 hc⟩
  | none =>
    have hnone : ¬∃ c ∈ columns, key = c.entry ∨ key = c.expression ∨ c.aliasName = some key := by
      rintro ⟨c, hc, h⟩
      exact List.find?_eq_none.1 hfind c hc (answersTo_iff.2 h)
    simp only [hnone, false_or]
    cases hentry : ofEntry? key with
    | none => simp
    | some normal => simp [List.find?_isSome]

theorem resolve?_eq_none_iff : resolve? columns key = none ↔ ¬Named columns key := by
  rw [← isSome_resolve?, Option.not_isSome_iff_eq_none]

theorem named_of_resolve? (h : resolve? columns key = some c) : Named columns key :=
  isSome_resolve?.1 (h ▸ rfl)

/-- A key that resolves names one of the columns. -/
theorem resolve?_mem (h : resolve? columns key = some c) : c ∈ columns := by
  unfold resolve? at h
  split at h
  · rename_i hfind
    cases h
    exact List.mem_of_find?_eq_some hfind
  · obtain ⟨normal, -, h⟩ := Option.bind_eq_some_iff.1 h
    exact List.mem_of_find?_eq_some h

/-- The first column that answers to the key is the one it stands for. -/
theorem resolve?_of_answersTo (hc : c ∈ columns) (hanswers : c.answersTo key = true) :
    ∃ d, resolve? columns key = some d ∧ columns.find? (·.answersTo key) = some d := by
  cases hfind : columns.find? (·.answersTo key) with
  | none => exact absurd hanswers (List.find?_eq_none.1 hfind c hc)
  | some d =>
    refine ⟨d, ?_, rfl⟩
    rw [resolve?, hfind]

/-! ## Entries -/

/-- The column reference is the entry up to its first blank. -/
theorem takeWhile_entry (hc : c.Sound) :
    c.entry.toList.takeWhile (· != ' ') = c.expression.toList := by
  have hword : ∀ ch ∈ c.expression.toList, (ch != ' ') = true := by
    intro ch hch
    have hbounds := toNat_of_isNameChar (hc.expression.2 ch hch)
    rw [bne_iff_ne]
    rintro rfl
    exact absurd hbounds.1 (by decide)
  have hstop : ((c.aliasName.map fun n => " AS ".toList ++ n.toList).getD []).takeWhile
      (· != ' ') = [] := by
    cases c.aliasName <;> rfl
  rw [toList_entry, List.takeWhile_append_of_pos hword, hstop, List.append_nil]

theorem entry_inj (hc : c.Sound) (hd : d.Sound) (h : c.entry = d.entry) : c = d := by
  have hexpression : c.expression = d.expression := by
    rw [← String.toList_inj, ← takeWhile_entry hc, ← takeWhile_entry hd, h]
  have halias : c.aliasName = d.aliasName := by
    have hrest := congrArg String.toList h
    rw [toList_entry, toList_entry, hexpression, List.append_cancel_left_eq] at hrest
    cases hm : c.aliasName <;> cases hn : d.aliasName <;> simp_all [String.toList_inj]
  obtain ⟨expression, aliasName⟩ := c
  cases hexpression
  cases halias
  rfl

theorem entry_of_plain (h : c.aliasName = none) : c.entry = c.expression := by
  rw [entry, h]

/-- An entry with an alias is no name. -/
theorem not_isName_entry {n : String} (h : c.aliasName = some n) : ¬IsName c.entry := by
  intro hname
  have hblank : ' ' ∈ c.entry.toList := by
    rw [toList_entry, h]
    simp
  have hbounds := toNat_of_isNameChar (hname.2 ' ' hblank)
  exact absurd hbounds.1 (by decide)

/-- A name is the entry of a column only as its reference. -/
theorem answersTo_name (hkey : IsName key) :
    c.answersTo key = true ↔ c.expression = key ∨ c.aliasName = some key := by
  rw [answersTo_iff]
  constructor
  · rintro (rfl | rfl | h)
    · cases halias : c.aliasName with
      | none => exact .inl (entry_of_plain halias).symm
      | some n => exact absurd hkey (not_isName_entry halias)
    · exact .inl rfl
    · exact .inr h
  · rintro (rfl | h)
    · exact .inr (.inl rfl)
    · exact .inr (.inr h)

/-- What answers to an entry with an alias is the column of that entry. -/
theorem answersTo_aliased (hc : c.Sound) (hd : d.Sound) {n : String} (halias : c.aliasName = some n)
    (h : d.answersTo c.entry = true) : d = c := by
  have hblank := not_isName_entry halias
  rcases answersTo_iff.1 h with h | h | h
  · exact entry_inj hd hc h.symm
  · rw [h] at hblank
    exact absurd hd.expression hblank
  · exact absurd (hd.aliasName _ h) hblank

/-! ## Names that are taken -/

/-- The key is the alias of a column that stands before every column of that reference. -/
def Taken (columns : List Column) (key : String) : Prop :=
  ∃ c ∈ columns.takeWhile fun c => c.expression != key, c.aliasName = some key

instance (columns : List Column) (key : String) : Decidable (Taken columns key) :=
  inferInstanceAs (Decidable (∃ _ ∈ _, _))

theorem taken_cons : Taken (c :: columns) key ↔
    c.expression ≠ key ∧ (c.aliasName = some key ∨ Taken columns key) := by
  unfold Taken
  by_cases h : c.expression = key
  · simp [h]
  · simp [h]

/-- The columns are asked one after the other, until one has the name as its reference or as its
alias. -/
theorem find?_answersTo (hkey : IsName key) (h : columns.find? (·.answersTo key) = some d) :
    (d.expression = key ∧ ¬Taken columns key) ∨
      (d.expression ≠ key ∧ d.aliasName = some key ∧ Taken columns key) := by
  induction columns with
  | nil => cases h
  | cons c rest ih =>
    rw [taken_cons]
    rw [List.find?_cons] at h
    cases hanswers : c.answersTo key with
    | true =>
      rw [hanswers] at h
      cases h
      by_cases hexpression : d.expression = key
      · exact .inl ⟨hexpression, fun htaken => htaken.1 hexpression⟩
      · have halias := ((answersTo_name hkey).1 hanswers).resolve_left hexpression
        exact .inr ⟨hexpression, halias, hexpression, .inl halias⟩
    | false =>
      rw [hanswers] at h
      rw [Bool.eq_false_iff, ne_eq, answersTo_name hkey, not_or] at hanswers
      obtain ⟨hexpression, halias⟩ := hanswers
      rcases ih h with ⟨hd, hfree⟩ | ⟨hd, hdalias, htaken⟩
      · exact .inl ⟨hd, fun htaken => htaken.2.elim halias hfree⟩
      · exact .inr ⟨hd, hdalias, hexpression, .inr htaken⟩

/-- The reference of a listed column stands for a column of that reference, unless it is taken. -/
theorem resolve?_expression (hsound : ∀ d ∈ columns, d.Sound) (hc : c ∈ columns) :
    ∃ d, resolve? columns c.expression = some d ∧
      (d.expression = c.expression ↔ ¬Taken columns c.expression) ∧
      (Taken columns c.expression → d.aliasName = some c.expression) := by
  have hname := (hsound c hc).expression
  obtain ⟨d, hresolve, hfind⟩ := resolve?_of_answersTo hc ((answersTo_name hname).2 (.inl rfl))
  refine ⟨d, hresolve, ?_⟩
  rcases find?_answersTo hname hfind with ⟨hd, hfree⟩ | ⟨hd, halias, htaken⟩
  · exact ⟨iff_of_true hd hfree, fun htaken => absurd htaken hfree⟩
  · exact ⟨iff_of_false hd (not_not_intro htaken), fun _ => halias⟩

/-- An alias is a name, and an entry with an alias is none. -/
theorem aliasName_of_taken (hsound : ∀ d ∈ columns, d.Sound) (h : Taken columns c.entry) :
    c.aliasName = none := by
  obtain ⟨d, hd, halias⟩ := h
  have hname : IsName c.entry := (hsound d (List.takeWhile_subset _ hd)).aliasName _ halias
  cases hc : c.aliasName with
  | none => rfl
  | some n => exact absurd hname (not_isName_entry hc)

/-- **The entry of a listed column stands for a column of its reference**, unless it is taken. -/
theorem resolve?_entry (hsound : ∀ d ∈ columns, d.Sound) (hc : c ∈ columns) :
    ∃ d, resolve? columns c.entry = some d ∧
      (d.expression = c.expression ↔ ¬Taken columns c.entry) ∧
      (Taken columns c.entry → d.aliasName = some c.entry) := by
  cases halias : c.aliasName with
  | none =>
    rw [entry_of_plain halias]
    exact resolve?_expression hsound hc
  | some n =>
    have hfree : ¬Taken columns c.entry := by
      intro htaken
      rw [aliasName_of_taken hsound htaken] at halias
      cases halias
    have hanswers : c.answersTo c.entry = true := answersTo_iff.2 (.inl rfl)
    obtain ⟨d, hresolve, hfind⟩ := resolve?_of_answersTo hc hanswers
    have hd : d ∈ columns := List.mem_of_find?_eq_some hfind
    have hagain : d.answersTo c.entry = true := by
      have := List.find?_some hfind
      exact this
    have hdc : d = c := answersTo_aliased (hsound c hc) (hsound d hd) halias hagain
    subst hdc
    exact ⟨d, hresolve, iff_of_true rfl hfree, fun htaken => absurd htaken hfree⟩

/-- What is taken is a plain name: an alias has no dot. -/
theorem isPlain_of_taken (hread : ∀ d ∈ columns, ∃ text, ofEntry? text = some d)
    (h : Taken columns c.entry) : c.isPlain = true := by
  have hsound : ∀ d ∈ columns, d.Sound := fun d hd =>
    let ⟨_, htext⟩ := hread d hd
    ofEntry?_sound htext
  have hnone := aliasName_of_taken hsound h
  obtain ⟨d, hd, halias⟩ := h
  obtain ⟨text, htext⟩ := hread d (List.takeWhile_subset _ hd)
  obtain ⟨cs, rest, hidentifier⟩ := (ofEntry?_ok htext).2 _ halias
  obtain ⟨-, hchars, -⟩ := identifier?_ok hidentifier
  rw [entry_of_plain hnone] at hchars
  have hdot : '.' ∉ c.expression.toList := fun hmem => absurd (hchars '.' hmem) (by decide)
  rw [isPlain, hnone]
  simpa using hdot

end Column

/-! ## A draft with a name that is taken -/

/-- The net amount goes by the name of another column, which the gross amount refers to. -/
def Draft.renamed : Draft where
  tables := .ofList [("orders", ["id", "net AS total", "total", "total as gross"])]
  views := .empty
  maxDepth := 4

/-- What the check of that draft gives. -/
def Allowlist.renamed : Allowlist where
  tables := .ofList [("orders",
    [⟨"id", none⟩, ⟨"net", some "total"⟩, ⟨"total", none⟩, ⟨"total", some "gross"⟩])]
  views := .empty
  maxDepth := 4

theorem Draft.check_renamed : Draft.renamed.check = .ok .renamed := rfl

end GuardedQuery
