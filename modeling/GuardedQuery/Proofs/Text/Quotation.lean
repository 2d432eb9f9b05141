import GuardedQuery.Proofs.Text.Name

/-!
# Quotations

`quotations? cs` lists the texts that stand between single quotes, if every quotation is closed and
nothing is quoted or escaped by other means. A text that quotes `ws` and closes what it opens can be
followed by any other (`Quotes`), so the quotations of a text are those of its parts (`Quotes.append`).
-/

namespace GuardedQuery.Text

/-- Starts or ends a quotation in some dialect, or escapes a character in one. -/
def isQuoting (c : Char) : Bool := c == '\'' || c == '"' || c == '`' || c == '\\'

/-- The texts between single quotes; of the quotation that is open, if one is, `w` has been read. -/
def quotationsFrom? : Option (List Char) → List Char → Option (List (List Char))
  | none, [] => some []
  | some _, [] => none
  | none, c :: cs =>
    if c = '\'' then quotationsFrom? (some []) cs
    else if isQuoting c then none
    else quotationsFrom? none cs
  | some w, c :: cs =>
    if c = '\'' then (quotationsFrom? none cs).map (w :: ·)
    else if isQuoting c then none
    else quotationsFrom? (some (w ++ [c])) cs

/-- The texts between single quotes, from left to right. -/
def quotations? (cs : List Char) : Option (List (List Char)) := quotationsFrom? none cs

/-- Nothing in the text quotes. -/
def Unquoted (cs : List Char) : Prop := ∀ c ∈ cs, isQuoting c = false

instance (cs : List Char) : Decidable (Unquoted cs) :=
  decidable_of_iff (cs.any isQuoting = false) (by simp [Unquoted])

theorem isQuoting_of_isNameChar {c : Char} (h : isNameChar c = true) : isQuoting c = false := by
  rw [Bool.eq_false_iff]
  intro hq
  simp only [isQuoting, Bool.or_eq_true, beq_iff_eq] at hq
  rcases hq with ((rfl | rfl) | rfl) | rfl <;> exact absurd h (by decide)

theorem IsName.unquoted {s : String} (h : IsName s) : Unquoted s.toList := fun c hc =>
  isQuoting_of_isNameChar (h.2 c hc)

theorem unquoted_append {xs ys : List Char} : Unquoted (xs ++ ys) ↔ Unquoted xs ∧ Unquoted ys :=
  List.forall_mem_append

theorem unquoted_intercalate {separator : String} (hs : Unquoted separator.toList) {ss : List String}
    (h : ∀ s ∈ ss, Unquoted s.toList) : Unquoted (String.intercalate separator ss).toList := by
  induction ss with
  | nil => simp [Unquoted]
  | cons s rest ih =>
    obtain ⟨hfirst, hrest⟩ := List.forall_mem_cons.1 h
    cases rest with
    | nil => simpa using hfirst
    | cons s' rest =>
      rw [String.intercalate_cons_cons, String.toList_append, String.toList_append, unquoted_append,
        unquoted_append]
      exact ⟨⟨hfirst, hs⟩, ih hrest⟩

/-- The text quotes `ws`, and no quotation is open at its end. -/
def Quotes (cs : List Char) (ws : List (List Char)) : Prop :=
  ∀ rest, quotations? (cs ++ rest) = (quotations? rest).map (ws ++ ·)

theorem ne_quote_of_not_quoting {c : Char} (h : isQuoting c = false) : c ≠ '\'' := by
  rintro rfl
  cases h

namespace Quotes

variable {xs ys w : List Char} {vs ws : List (List Char)}

theorem quotations? (h : Quotes xs ws) : quotations? xs = some ws := by
  have hall := h []
  rw [List.append_nil] at hall
  simpa [Text.quotations?, quotationsFrom?] using hall

theorem nil : Quotes [] [] := by
  intro rest
  cases hrest : Text.quotations? rest <;> simp [hrest]

/-- A text in two parts quotes what the parts quote. -/
theorem append (hx : Quotes xs vs) (hy : Quotes ys ws) : Quotes (xs ++ ys) (vs ++ ws) := by
  intro rest
  rw [List.append_assoc, hx, hy, Option.map_map]
  congr 1
  funext us
  exact (List.append_assoc vs ws us).symm

theorem of_unquoted (h : Unquoted xs) : Quotes xs [] := by
  induction xs with
  | nil => exact nil
  | cons c xs ih =>
    obtain ⟨hc, hxs⟩ := List.forall_mem_cons.1 h
    intro rest
    rw [List.cons_append, Text.quotations?, quotationsFrom?, if_neg (ne_quote_of_not_quoting hc), hc]
    exact ih hxs rest

/-- A quotation goes on to the next quote. -/
theorem quotationsFrom?_some (h : Unquoted w) (rest : List Char) (v : List Char) :
    quotationsFrom? (some v) (w ++ '\'' :: rest) = (Text.quotations? rest).map ((v ++ w) :: ·) := by
  induction w generalizing v with
  | nil => simp [quotationsFrom?, Text.quotations?]
  | cons c w ih =>
    obtain ⟨hc, hw⟩ := List.forall_mem_cons.1 h
    rw [List.cons_append, quotationsFrom?, if_neg (ne_quote_of_not_quoting hc), hc,
      if_neg (by decide), ih hw, List.append_assoc, List.singleton_append]

/-- A text between two quotes is quoted. -/
theorem of_quoted (h : Unquoted w) : Quotes ('\'' :: (w ++ ['\''])) [w] := by
  intro rest
  have hrest : w ++ ['\''] ++ rest = w ++ '\'' :: rest := by simp
  rw [List.cons_append, Text.quotations?, quotationsFrom?, if_pos rfl, hrest,
    quotationsFrom?_some h, List.nil_append]
  rfl

/-- A list of texts quotes what they quote, in order. -/
theorem intercalate {α : Type} {separator : String} (hs : Unquoted separator.toList)
    {text : α → String} {quoted : α → List (List Char)} {items : List α}
    (h : ∀ a ∈ items, Quotes (text a).toList (quoted a)) :
    Quotes (String.intercalate separator (items.map text)).toList (items.flatMap quoted) := by
  induction items with
  | nil => exact nil
  | cons a rest ih =>
    obtain ⟨ha, hrest⟩ := List.forall_mem_cons.1 h
    cases rest with
    | nil => simpa using ha
    | cons b rest =>
      have hall := ha.append ((of_unquoted hs).append (ih hrest))
      rw [List.map_cons, List.map_cons, String.intercalate_cons_cons, String.toList_append,
        String.toList_append, List.append_assoc]
      exact hall

end Quotes

end GuardedQuery.Text
