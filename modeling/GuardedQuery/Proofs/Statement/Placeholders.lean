import GuardedQuery.Proofs.Statement.Words

/-!
# Placeholders and parameters

`scan cs` lists the markers of a text from left to right, each with the name characters behind it. In
the text of a template whose own texts hold no marker, and in which no name character follows a place
(`Template.Spaced`), these are the numbered placeholders (`Template.scan_renderFrom`). All statements
are written by such templates: `compile_numbered`.
-/

namespace GuardedQuery

open Text Template

/-! ## Scanning -/

/-- The markers of a text, each with the identifier characters that follow it. -/
def scan : List Char → List (List Char)
  | [] => []
  | c :: cs => if isMarker c then (c :: cs.takeWhile isIdentifierRest) :: scan cs else scan cs

/-- The text holds no marker. -/
def Unmarked (cs : List Char) : Prop := ∀ c ∈ cs, isMarker c = false

/-- The text does not lengthen an identifier in front of it. -/
def Stops (cs : List Char) : Prop := ∀ c ∈ cs.head?, isIdentifierRest c = false

instance (cs : List Char) : Decidable (Unmarked cs) :=
  decidable_of_iff (cs.any isMarker = false) (by simp [Unmarked])

instance : (cs : List Char) → Decidable (Stops cs)
  | [] => isTrue (by simp [Stops])
  | c :: _ => decidable_of_iff (isIdentifierRest c = false) (by simp [Stops])

@[simp] theorem unmarked_nil : Unmarked [] := by simp [Unmarked]

@[simp] theorem unmarked_append {xs ys : List Char} :
    Unmarked (xs ++ ys) ↔ Unmarked xs ∧ Unmarked ys :=
  List.forall_mem_append

theorem Stops.append {xs ys : List Char} (hx : Stops xs) (hy : Stops ys) : Stops (xs ++ ys) := by
  cases xs with
  | nil => exact hy
  | cons c xs => simpa [Stops] using hx

theorem isMarker_of_rest {c : Char} (h : isIdentifierRest c = true) : isMarker c = false := by
  have hc := toNat_of_isNameChar (isNameChar_of_rest h)
  rw [Bool.eq_false_iff]
  intro hm
  simp only [isMarker, Bool.or_eq_true, beq_iff_eq] at hm
  rcases hm with (rfl | rfl) | rfl <;> revert h <;> decide

theorem stops_of_apart {cs : List Char} (h : Apart cs) : Stops cs := fun c hc => by
  rw [Bool.eq_false_iff]
  intro hrest
  have hbreak := h c hc
  rw [isBreak_of_isNameChar (isNameChar_of_rest hrest)] at hbreak
  cases hbreak

/-- The markers of a text are listed one by one. -/
theorem length_scan (cs : List Char) : (scan cs).length = cs.countP isMarker := by
  induction cs with
  | nil => rfl
  | cons c cs ih =>
    rw [scan, List.countP_cons]
    split <;> simp [ih]

theorem scan_unmarked {xs : List Char} (h : Unmarked xs) (ys : List Char) :
    scan (xs ++ ys) = scan ys := by
  induction xs with
  | nil => rfl
  | cons c xs ih =>
    obtain ⟨hc, hxs⟩ := List.forall_mem_cons.1 h
    rw [List.cons_append, scan, hc, ih hxs]
    rfl

/-- A placeholder is found whole. -/
theorem scan_placeholder (d : Dialect) (i : Nat) {ys : List Char} (h : Stops ys) :
    scan (d.placeholder i ++ ys) = d.placeholder i :: scan ys := by
  obtain ⟨m, w, heq, hm, hw⟩ := d.placeholder_eq i
  have hstop : ys.takeWhile isIdentifierRest = [] := by
    cases ys with
    | nil => rfl
    | cons c ys => simp [show isIdentifierRest c = false by simpa [Stops] using h]
  have hrest : (w ++ ys).takeWhile isIdentifierRest = w := by
    rw [List.takeWhile_append_of_pos hw, hstop, List.append_nil]
  rw [heq, List.cons_append, scan, hm, hrest, scan_unmarked fun c hc => isMarker_of_rest (hw c hc)]
  rfl

/-! ## Templates -/

namespace Template

/-- However it is rendered, the template does not lengthen an identifier in front of it. -/
def Stops (t : Template) : Prop := ∀ (d : Dialect) (n : Nat), GuardedQuery.Stops (renderFrom d n t)

/-- No text holds a marker, and no place is followed by an identifier character. -/
def Spaced : Template → Prop
  | [] => True
  | .text s :: t => Unmarked s.toList ∧ Spaced t
  | .bind _ :: t => Stops t ∧ Spaced t

theorem stops_text {s : String} {t : Template} (hs : GuardedQuery.Stops s.toList) (ht : t.Stops) :
    Stops (.text s :: t) :=
  fun d n => hs.append (ht d n)

theorem stops_text_of_ne {s : String} {t : Template} (hne : s.toList ≠ [])
    (hs : GuardedQuery.Stops s.toList) : Stops (.text s :: t) := fun d n => by
  rw [renderFrom_text]
  cases hcs : s.toList with
  | nil => exact absurd hcs hne
  | cons c cs => simpa [GuardedQuery.Stops, hcs] using hs

theorem stops_nil : Stops [] := fun _ _ => by simp [GuardedQuery.Stops]

theorem stops_append {t u : Template} (ht : t.Stops) (hu : u.Stops) : (t ++ u).Stops := fun d n => by
  rw [renderFrom_append]
  exact (ht d n).append (hu d _)

/-- Two templates stand next to each other if the second does not lengthen the first. -/
theorem Spaced.append {t u : Template} (ht : t.Spaced) (hu : u.Spaced) (hstops : u.Stops) :
    (t ++ u).Spaced := by
  induction t with
  | nil => exact hu
  | cons piece t ih =>
    cases piece with
    | text s => exact ⟨ht.1, ih ht.2⟩
    | bind l => exact ⟨stops_append ht.1 hstops, ih ht.2⟩

/-- **The markers of a spaced template are its placeholders**, numbered from left to right. -/
theorem scan_renderFrom (d : Dialect) {t : Template} (ht : t.Spaced) (n : Nat) :
    scan (renderFrom d n t) =
      (List.range t.literals.length).map fun i => d.placeholder (n + i + 1) := by
  induction t generalizing n with
  | nil => rfl
  | cons piece t ih =>
    cases piece with
    | text s => rw [renderFrom_text, scan_unmarked ht.1, ih ht.2, literals_text]
    | bind l =>
      rw [renderFrom_bind, scan_placeholder d _ (ht.1 d _), ih ht.2, literals_bind, List.length_cons,
        List.range_succ_eq_map, List.map_cons, List.map_map]
      simp [Function.comp_def, Nat.add_assoc, Nat.add_comm 1]

theorem spaced_texts {ss : List String} (h : ∀ s ∈ ss, Unmarked s.toList) :
    Spaced (ss.map Piece.text) := by
  induction ss with
  | nil => trivial
  | cons s rest ih =>
    obtain ⟨hs, hrest⟩ := List.forall_mem_cons.1 h
    exact ⟨hs, ih hrest⟩

theorem spaced_listed {separator : String} {ss : List String} (hsep : Unmarked separator.toList)
    (h : ∀ s ∈ ss, Unmarked s.toList) : (listed separator ss).Spaced := by
  induction ss with
  | nil => trivial
  | cons s rest ih =>
    obtain ⟨hs, hrest⟩ := List.forall_mem_cons.1 h
    cases rest with
    | nil => exact ⟨hs, trivial⟩
    | cons s' rest => exact ⟨hs, hsep, ih hrest⟩

theorem spaced_bindAll (ls : List Literal) : (bindAll ls).Spaced := by
  have hlist : (separated ", " (ls.map fun l => [.bind l])).Spaced := by
    induction ls with
    | nil => trivial
    | cons l rest ih =>
      cases rest with
      | nil => exact ⟨stops_nil, trivial⟩
      | cons l' rest =>
        exact ⟨stops_text_of_ne (by decide) (by decide), by decide, ih⟩
  refine ⟨by decide, hlist.append ⟨by decide, trivial⟩ (stops_text_of_ne (by decide) (by decide))⟩

end Template

/-! ## Texts without markers -/

theorem unmarked_of_join {cs : List Char} (h : ∀ c ∈ cs, isJoinChar c = true) : Unmarked cs := by
  intro c hc
  rw [Bool.eq_false_iff]
  intro hm
  have hjoin := h c hc
  simp only [isMarker, Bool.or_eq_true, beq_iff_eq] at hm
  rcases hm with (rfl | rfl) | rfl <;> revert hjoin <;> decide

/-- A text holds no marker exactly if none of its words does, for separators are no markers. -/
theorem spoken_unmarked_iff {cs : List Char} : Spoken Unmarked cs ↔ Unmarked cs := by
  constructor
  · intro h c hc
    rw [Bool.eq_false_iff]
    intro hm
    have hbreak : isBreak c = false := by
      simp only [isMarker, Bool.or_eq_true, beq_iff_eq] at hm
      rcases hm with (rfl | rfl) | rfl <;> decide
    obtain ⟨w, hw, hcw⟩ := exists_word_of_mem hc hbreak
    rw [h w hw c hcw] at hm
    cases hm
  · exact fun h w hw c hc => h c (mem_of_mem_words hw c hc)

theorem unmarked_keywords : ∀ w ∈ keywords.map String.toList, Unmarked w := by decide

theorem composes_unmarked : Composes Unmarked where
  links h := spoken_unmarked_iff.1 ((Spoken.composes unmarked_keywords).links h)
  append hx hy _ := unmarked_append.2 ⟨hx, hy⟩
  append_of_closes hx hy _ := unmarked_append.2 ⟨hx, hy⟩

theorem unmarked_name {s : String} (h : IsName s) : Unmarked s.toList :=
  unmarked_of_join fun c hc => isJoinChar_of_name (h.2 c hc)

theorem unmarked_numeral {w : Window} {s : String} (h : s ∈ w.numerals) : Unmarked s.toList := by
  rcases Window.mem_numerals h with rfl | ⟨n, rfl⟩
  · decide
  · rw [Nat.toString_eq_repr, Nat.toList_repr]
    exact unmarked_of_join fun c hc => isJoinChar_of_name (isNameChar_of_mem_toDigits hc)

theorem unmarked_intercalate {ss : List String} (h : ∀ s ∈ ss, Unmarked s.toList) :
    Unmarked (String.intercalate ", " ss).toList :=
  composes_unmarked.intercalate (by decide) h

theorem unmarked_orderText {terms : List (String × Direction)}
    (h : ∀ t ∈ terms, Unmarked t.1.toList) : Unmarked (Select.orderText terms).toList :=
  spoken_unmarked_iff.1 <| Spoken.orderText unmarked_keywords fun t ht =>
    spoken_unmarked_iff.2 (h t ht)

theorem unmarked_window (d : Dialect) (ordered : Bool) (w : Window) :
    Unmarked (w.clause d ordered).toList :=
  spoken_unmarked_iff.1 <| Spoken.window unmarked_keywords fun _ hn =>
    spoken_unmarked_iff.2 (unmarked_numeral hn)

/-! ## Conditions -/

namespace Restriction

theorem spaced_testTemplate {column : String} (h : Unmarked column.toList) (p : Predicate) :
    (testTemplate column p).Spaced := by
  have hop : Unmarked (column ++ " " ++ p.operator.sql).toList := by
    have hseam := composes_unmarked.links (seam_operator p.operator).links
    simp only [String.toList_append, unmarked_append] at hseam ⊢
    exact ⟨⟨h, hseam.1.1⟩, hseam.1.2⟩
  cases p with
  | compare c v => exact ⟨hop, by decide, stops_nil, trivial⟩
  | member negated vs => exact ⟨hop, by decide, spaced_bindAll vs⟩
  | like pattern => exact ⟨hop, by decide, stops_nil, trivial⟩
  | null negated => exact ⟨hop, trivial⟩

mutual

theorem spaced_template : ∀ r : Restriction, (∀ t ∈ r.tests, Unmarked t.1.toList) →
    r.template.Spaced
  | .test column p, h => spaced_testTemplate (h (column, p) (by simp [tests])) p
  | .group c parts, h => by
    rw [tests] at h
    rw [template]
    refine ⟨?_, (spaced_templates c parts h).append ⟨by decide, trivial⟩
      (stops_text_of_ne (by decide) (by decide))⟩
    cases c <;> decide

/-- The text of restrictions is spaced if their columns hold no marker. -/
theorem spaced_templates (c : Connective) : ∀ rs : List Restriction,
    (∀ t ∈ testsAll rs, Unmarked t.1.toList) → (templates (separator c) rs).Spaced
  | [], _ => trivial
  | [r], h => spaced_template r (by rwa [testsAll_singleton] at h)
  | r :: r' :: rest, h => by
    rw [testsAll] at h
    obtain ⟨hfirst, hothers⟩ := List.forall_mem_append.1 h
    have hsep : Unmarked (separator c).toList := by cases c <;> decide
    rw [templates_cons_cons]
    refine (spaced_template r hfirst).append ⟨hsep, spaced_templates c (r' :: rest) hothers⟩ ?_
    cases c <;> exact stops_text_of_ne (by decide) (by decide)

end

theorem spaced_clause {rs : List Restriction} (h : ∀ t ∈ testsAll rs, Unmarked t.1.toList) :
    (clause rs).Spaced := by
  unfold clause
  split
  · trivial
  · exact ⟨by decide, spaced_templates .and rs h⟩

theorem stops_clause (rs : List Restriction) : (clause rs).Stops := by
  unfold clause
  split
  · exact stops_nil
  · exact stops_text_of_ne (by decide) (by decide)

end Restriction

/-! ## Statements -/

/-- The template of a permitted select is spaced. -/
theorem Select.spaced_template {a : Allowlist} (ha : a.Sound) {o : Override} (ho : o.joins = [])
    {table : String} {s : Select} (hs : s.Permitted a o table) (d : Dialect) :
    (s.template d).Spaced := by
  obtain ⟨columns, hcolumns⟩ := hs.known
  have hview := ha.viewOf hcolumns
  have hentries : ∀ t ∈ s.columns.map Column.entry, Unmarked t.toList := by
    intro t ht
    obtain ⟨c, hc, rfl⟩ := List.mem_map.1 ht
    exact unmarked_of_join (ha.texts hcolumns _
      (List.mem_append_left _ (List.mem_map_of_mem (hs.columns c hc))))
  have hexpression : ∀ {e}, (∃ c ∈ a.permitted table, c.expression = e) → Unmarked e.toList := by
    rintro e ⟨c, hc, rfl⟩
    exact unmarked_name (ha.permitted hc).expression
  have hjoins : ∀ t ∈ s.joins.map joinText, Unmarked t.toList := by
    intro t ht
    obtain ⟨j, hj, rfl⟩ := List.mem_map.1 ht
    rw [hs.joins, ho, List.isEmpty_nil, if_pos rfl] at hj
    have hjoin := hview.joins j hj
    exact (composes_unmarked.joinText (unmarked_name hjoin.table.table)
      (fun n hn => unmarked_name (hjoin.table.aliasName n hn)) (unmarked_of_join hjoin.on)).1
  have hsource : Unmarked (tableText s.source.table s.source.aliasName).toList := by
    rw [hs.source]
    exact composes_unmarked.tableText (unmarked_name hview.source.table)
      fun n hn => unmarked_name (hview.source.aliasName n hn)
  have hlist : (Template.listed ", " (s.columns.map Column.entry)).Spaced :=
    spaced_listed (by decide) hentries
  have htables : Spaced (.text " FROM " :: .text (tableText s.source.table s.source.aliasName) ::
      s.joins.map fun j => Piece.text (joinText j)) := by
    have htexts := spaced_texts hjoins
    rw [List.map_map] at htexts
    exact ⟨by decide, hsource, htexts⟩
  have hwhere := Restriction.spaced_clause fun t ht => hexpression (hs.tests t ht)
  have horder : Spaced [.text (orderText s.order)] :=
    ⟨unmarked_orderText fun t ht => hexpression (hs.order t ht), trivial⟩
  have hwindow : Spaced [.text (s.window.clause d !s.order.isEmpty)] :=
    ⟨unmarked_window d _ _, trivial⟩
  refine Spaced.append ⟨by decide, ?_⟩ hwindow
    (stops_text (stops_of_apart (s.window.apart_clause d _)) stops_nil)
  refine Spaced.append ?_ horder (stops_text (stops_of_apart (apart_orderText _)) stops_nil)
  exact (hlist.append htables (stops_text_of_ne (by decide) (by decide))).append hwhere
    (Restriction.stops_clause _)

namespace Aggregate

theorem unmarked_derived {column : String} (h : Unmarked column.toList) :
    Unmarked (derived column).toList := by
  rw [derived, String.toList_append, String.toList_append, unmarked_append, unmarked_append]
  exact ⟨⟨by decide, by decide⟩, h⟩

theorem unmarked_foldText {g : Aggregate} (hmembers : ∀ n ∈ g.members, Unmarked n.toList)
    (horder : ∀ t ∈ g.order, Unmarked t.1.toList) {d : Dialect} {f : Folding}
    (hf : d.folding? = some f) : Unmarked (g.foldText f).toList := by
  have hfolding : Unmarked f.array.toList ∧ Unmarked f.object.toList ∧ Unmarked f.close.toList := by
    cases d <;> cases hf <;> decide
  have hobject : Unmarked g.objectText.toList := by
    refine unmarked_intercalate fun t ht => ?_
    obtain ⟨c, hc, rfl⟩ := List.mem_map.1 ht
    simp only [String.toList_append, unmarked_append]
    exact ⟨⟨⟨by decide, hmembers c hc⟩, by decide⟩, unmarked_derived (hmembers c hc)⟩
  simp only [foldText, String.toList_append, unmarked_append, and_assoc]
  refine ⟨hfolding.1, hfolding.2.1, hobject, by decide, ?_, hfolding.2.2⟩
  split
  · refine unmarked_orderText fun t ht => ?_
    obtain ⟨u, hu, rfl⟩ := List.mem_map.1 ht
    exact unmarked_derived (horder u hu)
  · exact unmarked_nil

/-- The template of a permitted aggregate is spaced. -/
theorem spaced_template {a : Allowlist} (ha : a.Sound) {g : Aggregate} (hg : g.Permitted a)
    {d : Dialect} {f : Folding} (hf : d.folding? = some f) : (g.template f).Spaced := by
  have name : ∀ {n}, a.Plain g.table n → Unmarked n.toList := fun h => unmarked_name (ha.plain h)
  obtain ⟨columns, hcolumns⟩ := hg.known
  have htable := unmarked_name (ha.table _ _ hcolumns)
  have hkey := name hg.foreignKey
  have horder : ∀ t ∈ g.order, Unmarked t.1.toList := fun t ht => name (hg.order t ht)
  have hmembers : ∀ n ∈ g.members, Unmarked n.toList := fun n hn => name (hg.members n hn)
  have hderived : Unmarked (String.intercalate ", " g.derivedColumns).toList := by
    refine unmarked_intercalate fun n hn => ?_
    rcases mem_foldl_appendNew.1 hn with hn | hn
    · rw [List.mem_singleton.1 hn]
      exact hkey
    · rcases List.mem_append.1 hn with hn | hn
      · exact hmembers n hn
      · obtain ⟨t, ht, rfl⟩ := List.mem_map.1 hn
        exact horder t ht
  have htail : Unmarked ((if f.ordersInside then "" else Select.orderText g.order) ++ ") AS " ++
      derivedName ++ " GROUP BY " ++ derived g.foreignKey).toList := by
    simp only [String.toList_append, unmarked_append, and_assoc]
    refine ⟨?_, by decide, by decide, by decide, unmarked_derived hkey⟩
    split
    · exact unmarked_nil
    · exact unmarked_orderText horder
  refine ⟨?_, (spaced_bindAll g.keys).append ⟨htail, trivial⟩ ?_⟩
  · simp only [String.toList_append, unmarked_append, and_assoc]
    exact ⟨by decide, unmarked_derived hkey, by decide, by decide, by decide,
      unmarked_foldText hmembers horder hf, by decide, by decide, by decide, hderived, by decide,
      htable, by decide, hkey, by decide⟩
  · refine stops_text ?_ stops_nil
    simp only [String.toList_append, List.append_assoc]
    have hclose : Stops (") AS ".toList ++ (derivedName.toList ++ (" GROUP BY ".toList ++
        (derived g.foreignKey).toList))) := by simp [GuardedQuery.Stops]; decide
    split
    · exact hclose
    · exact (stops_of_apart (apart_orderText _)).append hclose

end Aggregate

/-- The template of an insert over names is spaced. -/
theorem Insert.spaced_template {table : String} {columns : List String} (ht : IsName table)
    (hc : ∀ c ∈ columns, IsName c) (values : List Literal) :
    (template table columns values).Spaced := by
  refine ⟨?_, spaced_bindAll values⟩
  simp only [String.toList_append, unmarked_append, and_assoc]
  exact ⟨by decide, unmarked_name ht, by decide,
    unmarked_intercalate fun c h => unmarked_name (hc c h), by decide⟩

/-- The markers in the text are the placeholders of the parameters, each once and in order, and the
parameters are named by their numbers. -/
structure Statement.Numbered (d : Dialect) (s : Statement) : Prop where
  dialect : s.dialect = d
  scanned : scan s.sql.toList =
    (List.range s.parameterCount).map fun i => d.placeholder (i + 1)
  /-- No marker is left over. -/
  markers : s.sql.toList.countP isMarker = s.parameterCount
  names : s.parameters.map Parameter.name =
    (List.range s.parameterCount).map fun i => "p" ++ toString (i + 1)

theorem Statement.numbered_ofTemplate (d : Dialect) {t : Template} (ht : t.Spaced)
    (outline : Outline) : (ofTemplate d t outline).Numbered d := by
  have hscan : scan (ofTemplate d t outline).sql.toList =
      (List.range t.literals.length).map fun i => d.placeholder (i + 1) := by
    rw [sql_ofTemplate, Template.render, String.toList_ofList, scan_renderFrom d ht]
    simp
  refine ⟨rfl, by rw [hscan, parameterCount_ofTemplate], ?_, ?_⟩
  · rw [← length_scan, hscan, parameterCount_ofTemplate, List.length_map, List.length_range]
  · rw [parameterCount_ofTemplate]
    refine List.ext_getElem (by simp [ofTemplate, Parameter.number]) fun i h h' => ?_
    simp [ofTemplate, Parameter.number]

/-- **Placeholders and parameters agree** in all statements that are compiled. -/
theorem compile_numbered {draft : Draft} {a : Allowlist} (ha : draft.check = .ok a) (d : Dialect)
    {o : Override} (ho : o.joins = []) :
    (∀ (p : Payload String) (s : Statement), p.compile a d o = .ok s → s.Numbered d) ∧
      (∀ (l : KeyLookup) (s : Statement), l.compile a d o = .ok s → s.Numbered d) ∧
      (∀ (r : Relation) (keys : List Literal) (s : Statement),
        r.compile a d keys = .ok s → s.Numbered d) ∧
      ∀ (i : Insert) (s : Statement), i.compile a d o = .ok s → s.Numbered d := by
  have hsound := Draft.check_sound ha
  refine ⟨fun p s hs => ?_, fun l s hs => ?_, fun r keys s hs => ?_, fun i s hs => ?_⟩
  · obtain ⟨c, hc, rfl⟩ := Payload.compile_ok hs
    exact Statement.numbered_ofTemplate d
      (Select.spaced_template hsound ho (Payload.check_permitted hc).1 d) _
  · obtain ⟨c, hc, rfl⟩ := KeyLookup.compile_ok hs
    exact Statement.numbered_ofTemplate d
      (Select.spaced_template hsound ho (KeyLookup.check_permitted hc).1 d) _
  · obtain ⟨g, f, outline, hg, hf, rfl⟩ := Relation.compile_ok hs
    exact Statement.numbered_ofTemplate d
      (Aggregate.spaced_template hsound (Aggregate.check_permitted hg) hf) outline
  · obtain ⟨permitted, names, outline, hpermitted, hnames, rfl⟩ := Insert.compile_ok hs
    have hplain : ∀ n ∈ names, IsName n := fun n hn => by
      obtain ⟨c, hc, -, rfl⟩ := Insert.columns_ok hnames (by simp) n hn
      exact (hsound.columns _ _ hpermitted c hc).expression
    exact Statement.numbered_ofTemplate d
      (Insert.spaced_template (hsound.table _ _ hpermitted) hplain _) outline

/-- A request with markers in its values. -/
def markedRequest : Payload String :=
  ⟨["name"], some "items", [], some ⟨.or, [.condition "name" (.member false [.text "$1", .text "?"]),
    .condition "tenant_id" (.compare .equals (.text "@p9"))]⟩, [], none, some 2⟩

def markedLookup : KeyLookup := ⟨"item_with_category", "i.id", ["category_name"], [.text "?", .int 2]⟩

/-- The items of the tenants. -/
def tenantItems : Relation := ⟨"items", "tenant_id", ["name"], [⟨"id", .asc⟩]⟩

def markedInsert : Insert := ⟨"items", [("id", .int 1), ("name", .text "?")]⟩

theorem compile_numbered_marked :
    Draft.sample.check = .ok .sample ∧ Override.none.joins = [] ∧
      (∃ s, markedRequest.compile .sample .mysql .none = .ok s ∧ s.Numbered .mysql) ∧
      (∃ s, markedLookup.compile .sample .mysql .none = .ok s ∧ s.Numbered .mysql) ∧
      (∃ s, tenantItems.compile .sample .mysql [.int 1, .text "?"] = .ok s ∧ s.Numbered .mysql) ∧
      ∃ s, markedInsert.compile .sample .mysql .none = .ok s ∧ s.Numbered .mysql := by
  obtain ⟨hpayload, hlookup, hrelation, hinsert⟩ :=
    compile_numbered Draft.check_sample .mysql (o := .none) rfl
  exact ⟨Draft.check_sample, rfl, ⟨_, rfl, hpayload markedRequest _ rfl⟩,
    ⟨_, rfl, hlookup markedLookup _ rfl⟩,
    ⟨_, rfl, hrelation tenantItems [.int 1, .text "?"] _ rfl⟩, ⟨_, rfl, hinsert markedInsert _ rfl⟩⟩

end GuardedQuery
