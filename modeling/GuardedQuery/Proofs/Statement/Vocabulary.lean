import GuardedQuery.Proofs.Statement.Words

/-!
# The vocabulary of statements

Every word of a select is a keyword, a number of its window, a placeholder, or a word of the
allowlist on the one table that is addressed (`Vocabulary.spoken_select`); none of them can open a
quotation, end the statement or start a comment (`Vocabulary.inert`). What the client sends decides
which of these words are written and adds none: `compile_confined`.
-/

namespace GuardedQuery

open Text

/-- Where a word of a statement on a table with a window and some parameters comes from. -/
inductive Vocabulary (a : Allowlist) (d : Dialect) (table : String) (window : Window) (bound : Nat) :
    List Char → Prop where
  | keyword {w : List Char} (h : w ∈ keywords.map String.toList) : Vocabulary a d table window bound w
  | numeral {s : String} (h : s ∈ window.numerals) : Vocabulary a d table window bound s.toList
  | listed {s : String} (h : s ∈ a.texts table) {w : List Char} (hw : w ∈ words s.toList) :
    Vocabulary a d table window bound w
  | placeholder {i : Nat} (h : i < bound) : Vocabulary a d table window bound (d.placeholder (i + 1))

namespace Vocabulary

variable {a : Allowlist} {d : Dialect} {table : String} {window : Window} {bound : Nat}

theorem admits : Admits (Spoken (Vocabulary a d table window bound)) d bound :=
  ⟨Spoken.composes fun _ => .keyword, fun _ h => .word (d.isWord_placeholder _) (.placeholder h)⟩

theorem spoken_listed {s : String} (h : s ∈ a.texts table) :
    Spoken (Vocabulary a d table window bound) s.toList :=
  fun _ => .listed h

theorem spoken_entry {c : Column} (h : c ∈ a.permitted table) :
    Spoken (Vocabulary a d table window bound) c.entry.toList :=
  spoken_listed (List.mem_append_left _ (List.mem_map_of_mem h))

/-- The column reference is the first word of the entry. -/
theorem spoken_expression {c : Column} (h : c ∈ a.permitted table) :
    Spoken (Vocabulary a d table window bound) c.expression.toList := by
  intro w hw
  refine spoken_entry h w ?_
  cases hn : c.aliasName with
  | none => simpa [Column.entry, hn] using hw
  | some n =>
    have happ : words (c.expression.toList ++ (" AS ".toList ++ n.toList)) =
        words c.expression.toList ++ words (" AS ".toList ++ n.toList) :=
      words_append (Separates.apart_append (by decide))
    simp only [Column.entry, hn, String.toList_append, List.append_assoc, happ]
    exact List.mem_append_left _ hw

theorem spoken_numeral {s : String} (h : s ∈ window.numerals) :
    Spoken (Vocabulary a d table window bound) s.toList := by
  refine .word ?_ (.numeral h)
  rcases Window.mem_numerals h with rfl | ⟨n, rfl⟩
  · decide
  · exact isWord_toString n

theorem spoken_viewTexts {s : String} (h : s ∈ (a.viewOf table).texts) :
    Spoken (Vocabulary a d table window bound) s.toList :=
  spoken_listed (List.mem_append_right _ h)

theorem spoken_headText {o : Override} (ho : o.joins = []) {s : Select}
    (hs : s.Permitted a o table) :
    Spoken (Vocabulary a d table window bound) s.headText.toList := by
  have htexts : ∀ t ∈ s.source.table :: s.source.aliasName.toList,
      Spoken (Vocabulary a d table window bound) t.toList := fun t ht =>
    spoken_viewTexts (List.mem_append_left _ (hs.source ▸ ht))
  refine admits.headText (fun c hc => spoken_entry (hs.columns c hc))
    (admits.tableText (htexts _ (by simp)) fun n hn => htexts n (by simp_all)) fun j hj => ?_
  rw [hs.joins, ho, List.isEmpty_nil, if_pos rfl] at hj
  have hmem : ∀ {t}, t ∈ j.table :: j.aliasName.toList ++ [j.on] →
      Spoken (Vocabulary a d table window bound) t.toList := fun ht =>
    spoken_viewTexts (List.mem_append_right _ (List.mem_flatMap.2 ⟨j, hj, ht⟩))
  exact admits.joinText (hmem (by simp)) (fun n hn => hmem (by simp_all)) (hmem (by simp))

/-- **A permitted select** has its words from the vocabulary of its table. -/
theorem spoken_select {o : Override} (ho : o.joins = []) {s : Select} (hs : s.Permitted a o table)
    (hbound : (Restriction.testLiterals (Restriction.testsAll s.restrictions)).length ≤ bound) :
    Spoken (Vocabulary a d table s.window bound)
      (s.headText ++ s.whereText d ++ s.tailText d).toList := by
  have hcolumn : ∀ {e : String}, (∃ c ∈ a.permitted table, c.expression = e) →
      Spoken (Vocabulary a d table s.window bound) e.toList := by
    rintro e ⟨c, hc, rfl⟩
    exact spoken_expression hc
  obtain ⟨hwhere, hopens⟩ := admits.whereText (fun t ht => hcolumn (hs.tests t ht)) hbound
  have htail : Spoken (Vocabulary a d table s.window bound) (s.tailText d).toList ∧
      Apart (s.tailText d).toList := by
    have horder := Spoken.orderText (fun _ => .keyword) fun t ht => hcolumn (hs.order t ht)
    have hwindow : Spoken (Vocabulary a d table s.window bound)
        (s.window.clause d !s.order.isEmpty).toList :=
      Spoken.window (fun _ => .keyword) fun _ => spoken_numeral
    have hapart := s.window.apart_clause d !s.order.isEmpty
    rw [Select.tailText, String.toList_append]
    exact ⟨horder.append hwindow hapart, (apart_orderText _).append hapart⟩
  rw [String.append_assoc, String.toList_append, String.toList_append]
  exact (spoken_headText ho hs).append (hwhere.append htail.1 htail.2) (hopens.apart.append htail.2)

end Vocabulary

/-! ## No quotation, no comment, no second statement -/

/-- The characters that quote, escape or end a statement. -/
def quoting : List Char := "'\"`;\\".toList

/-- No quotation, comment or further statement begins in the text. -/
structure Inert (cs : List Char) : Prop where
  chars : ∀ c ∈ cs, c ∉ quoting
  lineComment : ¬ "--".toList <:+: cs
  blockComment : ¬ "/*".toList <:+: cs

theorem Inert.of_chars {Q : Char → Bool} (hQ : ('-' :: '/' :: quoting).any Q = false)
    {cs : List Char} (h : ∀ c ∈ cs, Q c = true) : Inert cs := by
  have absent : ∀ c ∈ '-' :: '/' :: quoting, c ∉ cs := fun c hc hmem =>
    List.any_eq_false.1 hQ c hc (h c hmem)
  refine ⟨fun c hc hq => absent c (by simp [hq]) hc, fun hi => ?_, fun hi => ?_⟩
  · exact absent '-' (by decide) (hi.subset (by decide))
  · exact absent '/' (by decide) (hi.subset (by decide))

/-- A text is inert if all of its words are. -/
theorem Inert.of_words {cs : List Char} (h : Spoken Inert cs) : Inert cs := by
  refine ⟨fun c hc hq => ?_, fun hi => ?_, fun hi => ?_⟩
  · have hbreak : isBreak c = false := by
      simpa using List.any_eq_false.1 (by decide : quoting.any isBreak = false) c hq
    obtain ⟨w, hw, hcw⟩ := exists_word_of_mem hc hbreak
    exact (h w hw).chars c hcw hq
  · obtain ⟨w, hw, hi⟩ := exists_word_of_infix hi (by decide)
    exact (h w hw).lineComment hi
  · obtain ⟨w, hw, hi⟩ := exists_word_of_infix hi (by decide)
    exact (h w hw).blockComment hi

/-- **The vocabulary is inert** on a table of a sound allowlist. -/
theorem Vocabulary.inert {a : Allowlist} (ha : a.Sound) {d : Dialect} {table : String}
    {columns : List Column} (hcolumns : a.columns? table = some columns) {window : Window}
    {bound : Nat} {w : List Char} (h : Vocabulary a d table window bound w) : Inert w := by
  cases h with
  | keyword h =>
    have hchars : ∀ w ∈ keywords.map String.toList,
        (w.all fun c => c.isUpper || ['=', '<', '>'].contains c) = true := by decide
    exact .of_chars (by decide) (List.all_eq_true.1 (hchars w h))
  | numeral h =>
    rcases Window.mem_numerals h with rfl | ⟨n, rfl⟩
    · have hchars : "-1".toList.any quoting.contains = false := by decide
      exact ⟨by simpa using hchars, by decide, by decide⟩
    · rw [Nat.toString_eq_repr, Nat.toList_repr]
      exact .of_chars (Q := isNameChar) (by decide) fun c => isNameChar_of_mem_toDigits
  | listed h hw =>
    exact .of_chars (Q := isJoinChar) (by decide) fun c hc =>
      ha.texts hcolumns _ h c (mem_of_mem_words hw c hc)
  | @placeholder i h =>
    obtain ⟨m, w, heq, hm, hw⟩ := d.placeholder_eq (i + 1)
    rw [heq]
    refine .of_chars (Q := fun c => isMarker c || isIdentifierRest c) (by decide) ?_
    exact List.forall_mem_cons.2 ⟨by simp [hm], fun c hc => by simp [hw c hc]⟩

/-- The words of a statement come from the vocabulary of its table, and its text is inert. -/
structure Statement.Confined (a : Allowlist) (window : Window) (s : Statement) : Prop where
  words : Spoken (Vocabulary a s.dialect s.outline.table window s.parameterCount) s.sql.toList
  inert : Inert s.sql.toList

theorem Payload.Checked.confined {a : Allowlist} (ha : a.Sound) {d : Dialect} {o : Override}
    (ho : o.joins = []) {c : Checked} (hc : c.select.Permitted a o c.table) :
    (c.statement d).Confined a c.select.window := by
  have hcount : (c.statement d).parameterCount =
      (Restriction.testLiterals (Restriction.testsAll c.select.restrictions)).length := by
    rw [← c.values_statement d, Statement.parameterCount, Statement.values, List.length_map]
  have hwords := Vocabulary.spoken_select (d := d) ho hc (Nat.le_of_eq hcount.symm)
  rw [← c.sql_statement d] at hwords
  obtain ⟨columns, hcolumns⟩ := hc.known
  exact ⟨hwords, .of_words (hwords.mono fun _ => Vocabulary.inert ha hcolumns)⟩

/-- **No word of a client is written.** The words of a select are keywords, numbers, placeholders and
words of the allowlist on the one table that is named, whatever the client sends. -/
theorem compile_confined {draft : Draft} {a : Allowlist} (ha : draft.check = .ok a) (d : Dialect)
    {o : Override} (ho : o.joins = []) :
    (∀ (p : Payload String) (s : Statement), p.compile a d o = .ok s →
      (o.table <|> p.source) = some s.outline.table ∧ s.dialect = d ∧
        s.Confined a ⟨p.limit.map UInt64.toNat, p.offset.map UInt64.toNat⟩) ∧
    ∀ (l : KeyLookup) (s : Statement), l.compile a d o = .ok s →
      (o.table <|> some l.table) = some s.outline.table ∧ s.dialect = d ∧
        s.Confined a ⟨none, none⟩ := by
  have hsound := Draft.check_sound ha
  constructor
  · intro p s hs
    obtain ⟨c, hc, rfl⟩ := Payload.compile_ok hs
    obtain ⟨hpermitted, htable⟩ := Payload.check_permitted hc
    obtain ⟨_, _, -, -, -, -, hwindow, -⟩ := Payload.check_ok hc
    have hnamed : (o.table <|> p.source) = some c.table := by simpa using htable
    rw [← Payload.window, ← Payload.checkWindow_ok hwindow]
    exact ⟨hnamed, rfl, Payload.Checked.confined hsound ho hpermitted⟩
  · intro l s hs
    obtain ⟨c, hc, rfl⟩ := KeyLookup.compile_ok hs
    obtain ⟨hpermitted, htable⟩ := KeyLookup.check_permitted hc
    obtain ⟨_, _, _, -, -, -, -, -, -, hwindow, -⟩ := KeyLookup.check_ok hc
    rw [← hwindow]
    exact ⟨htable, rfl, Payload.Checked.confined hsound ho hpermitted⟩

/-- A request whose values are written to break out of a quotation. -/
def hostileRequest : Payload String :=
  ⟨["category_name"], some "item_with_category", [],
    some ⟨.and, [.condition "i.id" (.like "'; DROP TABLE items; --")]⟩, [⟨"i.id", .desc⟩], none,
    some 3⟩

/-- A lookup with such a key. -/
def hostileLookup : KeyLookup := ⟨"items", "tenant_id", ["name"], [.text "7) OR (1=1", .int 7]⟩

theorem compile_confined_hostile :
    Draft.sample.check = .ok .sample ∧ Override.none.joins = [] ∧
      (∃ s, hostileRequest.compile .sample .sqlite .none = .ok s ∧
        (Override.none.table <|> hostileRequest.source) = some s.outline.table ∧
          s.dialect = .sqlite ∧ s.Confined .sample ⟨none, some 3⟩) ∧
      ∃ s, hostileLookup.compile .sample .sqlite .none = .ok s ∧
        (Override.none.table <|> some hostileLookup.table) = some s.outline.table ∧
          s.dialect = .sqlite ∧ s.Confined .sample ⟨none, none⟩ :=
  ⟨Draft.check_sample, rfl, ⟨_, rfl, (compile_confined Draft.check_sample .sqlite rfl).1 _ _ rfl⟩,
    ⟨_, rfl, (compile_confined Draft.check_sample .sqlite rfl).2 _ _ rfl⟩⟩

end GuardedQuery
