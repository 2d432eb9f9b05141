import GuardedQuery.Proofs.Statement.Acceptance
import GuardedQuery.Proofs.Statement.Vocabulary

/-!
# What is checked of the server's constraints

A statement addresses the table that the server names, which is listed, and every key of the server's
scope stands for a permitted column of it (`Override.Honoured`). The joins of the server take the place
of those of the view as they are. Only where each of them would be accepted in a draft (`Join.Valid`)
is the statement one on a sound allowlist (`Allowlist.rejoined`), and so confined to its words. An
insert has neither joins nor a scope: of the server's constraints it looks at the table alone.
-/

namespace GuardedQuery

open Text Template

/-! ## Joins of the server -/

/-- The join would be accepted in a draft. -/
def Join.Valid (j : Join) : Prop :=
  Draft.checkTableRef j.table j.aliasName = .ok () ∧ isConjunction j.on = true

instance (j : Join) : Decidable j.Valid := inferInstanceAs (Decidable (_ ∧ _))

theorem Join.Valid.sound {j : Join} (h : j.Valid) : j.Sound :=
  ⟨Draft.checkTableRef_sound h.1, joinChar_of_isConjunction h.2⟩

namespace Allowlist

/-- The allowlist with other joins for the view of a table, unless there are none. -/
def rejoined (a : Allowlist) (table : String) (joins : List Join) : Allowlist :=
  if joins.isEmpty then a
  else { a with views := a.views.insert table ⟨(a.viewOf table).source, joins⟩ }

variable {a : Allowlist} {table : String} {joins : List Join}

theorem columns?_rejoined (name : String) :
    (a.rejoined table joins).columns? name = a.columns? name := by
  unfold rejoined
  split <;> rfl

theorem permitted_rejoined (name : String) :
    (a.rejoined table joins).permitted name = a.permitted name := by
  rw [permitted, permitted, columns?_rejoined]

theorem viewOf_rejoined : (a.rejoined table joins).viewOf table =
    ⟨(a.viewOf table).source, if joins.isEmpty then (a.viewOf table).joins else joins⟩ := by
  unfold rejoined
  split
  · rfl
  · simp only [viewOf, view?, Keyed.find?_insert, if_pos, Option.getD_some]

/-- Valid joins keep an allowlist sound. -/
theorem Sound.rejoined (ha : a.Sound) {columns : List Column}
    (hcolumns : a.columns? table = some columns) (hjoins : ∀ j ∈ joins, j.Valid) :
    (a.rejoined table joins).Sound := by
  constructor
  case table =>
    intro name cs h
    rw [columns?_rejoined] at h
    exact ha.table name cs h
  case columns =>
    intro name cs h
    rw [columns?_rejoined] at h
    exact ha.columns name cs h
  case view =>
    intro name v h
    unfold Allowlist.rejoined at h
    split at h
    · exact ha.view name v h
    · rw [view?, Keyed.find?_insert] at h
      split at h
      · cases h
        exact ⟨(ha.viewOf hcolumns).source, fun j hj => (hjoins j hj).sound⟩
      · exact ha.view name v h

end Allowlist

/-- With its joins in the allowlist, the server's constraints permit the same selects. -/
theorem Select.Permitted.rejoined {a : Allowlist} {o : Override} {table : String} {s : Select}
    (h : s.Permitted a o table) :
    s.Permitted (a.rejoined table o.joins) { o with joins := [] } table := by
  have hview := @Allowlist.viewOf_rejoined a table o.joins
  constructor
  case known =>
    obtain ⟨columns, hcolumns⟩ := h.known
    exact ⟨columns, by rw [Allowlist.columns?_rejoined, hcolumns]⟩
  case columns =>
    rw [Allowlist.permitted_rejoined]
    exact h.columns
  case tests =>
    rw [Allowlist.permitted_rejoined]
    exact h.tests
  case order =>
    rw [Allowlist.permitted_rejoined]
    exact h.order
  case source => rw [hview, h.source]
  case joins => rw [hview, h.joins, List.isEmpty_nil, if_pos rfl]

/-! ## Table and scope -/

/-- The table is the one that the server names, if it names one, and is listed, and each key of the
server's scope stands for a column that is permitted on it. -/
structure Override.Honoured (o : Override) (a : Allowlist) (table : String) : Prop where
  named : ∀ name ∈ o.table, name = table
  listed : ∃ columns, a.columns? table = some columns
  scope : ∀ g ∈ o.scope, ∀ x ∈ g.conditions, ∃ c, Column.resolve? (a.permitted table) x.1 = some c

theorem Override.honoured {a : Allowlist} {o : Override} {requested : Option String}
    {clientJoins : List Join} {target : Target}
    (htarget : Target.find a (o.table <|> requested) clientJoins o = .ok target) {max : Nat}
    {filter : Option (Group String)} {parts : List Restriction}
    (hparts : Restriction.ofFilters target.columns max o.scope filter = .ok parts) :
    o.Honoured a target.name := by
  obtain ⟨hname, hcolumns, -, -⟩ := Target.find_ok htarget
  rw [Target.columns_eq htarget] at hparts
  constructor
  case named =>
    intro name h
    rw [Option.mem_def] at h
    rw [h] at hname
    exact Option.some.inj hname
  case listed => exact ⟨_, hcolumns⟩
  case scope =>
    intro g hg x hx
    have hfits := Restriction.ofFilters_fits hparts g (List.mem_append_left _ (by simpa using hg))
    exact Option.isSome_iff_exists.1 (Column.isSome_resolve?.2 (hfits.keys x hx))

/-! ## Selects -/

/-- What holds of a statement under the server's constraints: they are honoured, and with valid joins
the statement is confined to the allowlist with these joins. -/
structure Statement.Bounded (a : Allowlist) (o : Override) (window : Window) (s : Statement) : Prop where
  honoured : o.Honoured a s.outline.table
  confined : (∀ j ∈ o.joins, j.Valid) → s.Confined (a.rejoined s.outline.table o.joins) window

theorem Payload.Checked.bounded {a : Allowlist} (ha : a.Sound) (d : Dialect) {o : Override}
    {c : Checked} (ho : o.Honoured a c.table) (hc : c.select.Permitted a o c.table) :
    (c.statement d).Bounded a o c.select.window := by
  refine ⟨ho, fun hjoins => ?_⟩
  obtain ⟨columns, hcolumns⟩ := hc.known
  exact confined (ha.rejoined hcolumns hjoins) (o := { o with joins := [] }) rfl hc.rejoined

/-! ## Inserts -/

namespace Insert

/-- The words of an insert that no other statement has. -/
def keywords : List String := ["INSERT", "INTO", "VALUES"]

/-- The words of an insert: its own, and the vocabulary of its table. -/
def Word (a : Allowlist) (d : Dialect) (table : String) (bound : Nat) (w : List Char) : Prop :=
  w ∈ keywords.map String.toList ∨ Vocabulary a d table ⟨none, none⟩ bound w

/-- The words of an insert come from the vocabulary of its table, but for those that say that it is one,
and its text is inert. -/
structure Confined (a : Allowlist) (s : Statement) : Prop where
  words : Spoken (Word a s.dialect s.outline.table s.parameterCount) s.sql.toList
  inert : Inert s.sql.toList

variable {a : Allowlist} {d : Dialect} {o : Override} {i : Insert} {s : Statement}

theorem compile_target (h : i.compile a d o = .ok s) :
    a.view? (o.table.getD i.table) = none ∧ s.outline.table = o.table.getD i.table := by
  obtain ⟨permitted, names, htarget, -, -, rfl⟩ := compile_eq_ok.1 h
  exact ⟨(target_eq_ok.1 htarget).2, rfl⟩

theorem spoken_template {table : String} {columns : List String} {values : List Literal}
    (htable : Spoken (Word a d table values.length) table.toList)
    (hcolumns : ∀ c ∈ columns, Spoken (Word a d table values.length) c.toList) :
    Spoken (Word a d table values.length) ((template table columns values).render d).toList := by
  have hadmits : Admits (Spoken (Word a d table values.length)) d values.length :=
    ⟨Spoken.composes fun _ h => .inr (.keyword h),
      fun _ h => .word (d.isWord_placeholder _) (.inr (.placeholder h))⟩
  have hown : ∀ {s : String}, (∀ w ∈ words s.toList, w ∈ keywords.map String.toList) →
      Spoken (Word a d table values.length) s.toList := fun h w hw => .inl (h w hw)
  have hlist : Spoken (Word a d table values.length) (String.intercalate ", " columns).toList :=
    hadmits.intercalate (by decide) hcolumns
  have hvalues : Spoken (Word a d table values.length) (renderFrom d 0 (Template.bindAll values)) :=
    hadmits.bindAll (by omega)
  have hopen : Spoken (Word a d table values.length) " (".toList := hown (by decide)
  have hclose : Spoken (Word a d table values.length) ") VALUES ".toList := hown (by decide)
  have hhead : Spoken (Word a d table values.length) "INSERT INTO ".toList := hown (by decide)
  rw [Template.render, String.toList_ofList, template, renderFrom_text]
  simp only [String.toList_append, List.append_assoc]
  refine hhead.append_of_ends (htable.append ?_ ?_) (by decide)
  · exact hopen.append_of_ends
      (hlist.append (hclose.append_of_ends hvalues (by decide)) (Separates.apart_append (by decide)))
      (by decide)
  · exact Separates.apart_append (by decide)

theorem confined (ha : a.Sound) (h : i.compile a d o = .ok s) : Confined a s := by
  obtain ⟨hview, htable⟩ := compile_target h
  obtain ⟨permitted, names, outline, hpermitted, hnames, rfl⟩ := compile_ok h
  rw [Statement.outline_ofTemplate] at htable
  rw [← htable] at hview hpermitted ⊢
  have hcount : (Statement.ofTemplate d (template outline.table names (i.values.map Prod.snd))
      outline).parameterCount = (i.values.map Prod.snd).length := by
    rw [Statement.parameterCount_ofTemplate, template, literals_text, literals_bindAll]
  have hname : outline.table ∈ (a.viewOf outline.table).texts := by
    simp [Allowlist.viewOf, hview, View.texts]
  have hcolumns : ∀ n ∈ names, ∃ c ∈ a.permitted outline.table, c.expression = n := by
    intro n hn
    obtain ⟨c, hc, -, hexpression⟩ := columns_ok hnames (by simp) n hn
    refine ⟨c, ?_, hexpression⟩
    rw [Allowlist.permitted, hpermitted]
    exact hc
  have hwords : Spoken (Word a d outline.table (i.values.map Prod.snd).length)
      ((template outline.table names (i.values.map Prod.snd)).render d).toList := by
    refine spoken_template ((Vocabulary.spoken_viewTexts hname).mono fun _ => .inr) fun n hn => ?_
    obtain ⟨c, hc, rfl⟩ := hcolumns n hn
    exact (Vocabulary.spoken_expression hc).mono fun _ => .inr
  constructor
  case words =>
    rw [hcount]
    exact hwords
  case inert =>
    refine .of_words (hwords.mono fun w hw => ?_)
    rcases hw with hw | hw
    · have hchars : ∀ w ∈ keywords.map String.toList, w.all Char.isUpper = true := by decide
      exact .of_chars (by decide) (List.all_eq_true.1 (hchars w hw))
    · exact Vocabulary.inert ha hpermitted hw

end Insert

/-! ## Statements -/

/-- **The server's constraints are honoured, except its joins.** A select stands on the table that the
server names, with every key of its scope resolved there, and is confined if the joins of the server are
valid. An insert stands on that table too, is confined in any case, and looks at nothing else. -/
theorem compile_bounded {draft : Draft} {a : Allowlist} (ha : draft.check = .ok a) (d : Dialect)
    (o : Override) :
    (∀ (p : Payload String) (s : Statement), p.compile a d o = .ok s →
      s.Bounded a o ⟨p.limit.map UInt64.toNat, p.offset.map UInt64.toNat⟩) ∧
    (∀ (l : KeyLookup) (s : Statement), l.compile a d o = .ok s → s.Bounded a o ⟨none, none⟩) ∧
    ∀ (i : Insert) (s : Statement), i.compile a d o = .ok s →
      (∀ name ∈ o.table, name = s.outline.table) ∧
      (∃ columns, a.columns? s.outline.table = some columns) ∧ Insert.Confined a s ∧
      ∀ joins scope, i.compile a d ⟨o.table, joins, scope⟩ = .ok s := by
  have hsound := Draft.check_sound ha
  refine ⟨?_, ?_, ?_⟩
  · intro p s hs
    obtain ⟨c, hc, rfl⟩ := Payload.compile_ok hs
    obtain ⟨hpermitted, -⟩ := Payload.check_permitted hc
    obtain ⟨target, -, htarget, -, hrestrictions, -, hwindow, -, -, -, -, htable⟩ :=
      Payload.check_ok hc
    rw [← Payload.window, ← Payload.checkWindow_ok hwindow]
    refine Payload.Checked.bounded hsound d ?_ hpermitted
    rw [htable]
    exact Override.honoured htarget hrestrictions
  · intro l s hs
    obtain ⟨c, hc, rfl⟩ := KeyLookup.compile_ok hs
    obtain ⟨hpermitted, -⟩ := KeyLookup.check_permitted hc
    obtain ⟨target, key, -, htarget, -, -, hrestrictions, -, -, hwindow, -, -, -, htable⟩ :=
      KeyLookup.check_ok hc
    rw [← hwindow]
    refine Payload.Checked.bounded hsound d ?_ hpermitted
    rw [htable]
    exact Override.honoured htarget hrestrictions
  · intro i s hs
    obtain ⟨-, htable⟩ := Insert.compile_target hs
    obtain ⟨permitted, -, -, hpermitted, -, -⟩ := Insert.compile_ok hs
    rw [← htable] at hpermitted
    refine ⟨fun name hname => ?_, ⟨permitted, hpermitted⟩, Insert.confined hsound hs, fun _ _ => hs⟩
    rw [Option.mem_def] at hname
    rw [htable, hname, Option.getD_some]

/-- The items of a tenant with their owners. -/
def ownedItems : Override where
  table := some "items"
  joins := [⟨.inner, "owners", some "u", "u.item_id = items.id AND u.tenant = tenant_id"⟩]
  scope := some ⟨.and, [.condition "tenant_id" (.compare .equals (.int 7))]⟩

/-- The names of some items. -/
def itemNames : Payload String := ⟨["name"], none, [], none, [], none, none⟩

theorem compile_bounded_owned : Draft.sample.check = .ok .sample ∧
    (∃ s, itemNames.compile .sample .mssql ownedItems = .ok s ∧
      ownedItems.Honoured .sample "items" ∧
      s.Confined (Allowlist.sample.rejoined "items" ownedItems.joins) ⟨none, none⟩) ∧
    ∃ s, Insert.compile .sample .mssql ownedItems ⟨"categories", [("name", .text "';")]⟩ = .ok s ∧
      Insert.Confined .sample s := by
  obtain ⟨hpayload, -, hinsert⟩ := compile_bounded Draft.check_sample .mssql ownedItems
  have hbounded := hpayload itemNames _ rfl
  refine ⟨Draft.check_sample, ⟨_, rfl, hbounded.honoured, hbounded.confined (by decide)⟩, _, rfl, ?_⟩
  exact (hinsert ⟨"categories", [("name", .text "';")]⟩ _ rfl).2.2.1

/-- A join that ends the statement. -/
def hostileJoin : Join := ⟨.inner, "secrets", none, "1 = 1; DROP TABLE items; --"⟩

/-- A join of the server is written as it is, and a scope over an unknown column passes on an insert. -/
theorem compile_unbounded : Draft.sample.check = .ok .sample ∧
    (∃ s, itemNames.compile .sample .postgres ⟨some "items", [hostileJoin], none⟩ = .ok s ∧
      s.sql = "SELECT name FROM items INNER JOIN secrets ON 1 = 1; DROP TABLE items; --" ∧
      ¬Inert s.sql.toList ∧ ¬hostileJoin.Valid) ∧
    ∃ s, Insert.compile .sample .postgres
        ⟨none, [hostileJoin], some ⟨.and, [.condition "secret" (.null false)]⟩⟩
        ⟨"items", [("name", .text "x")]⟩ = .ok s ∧
      s.sql = "INSERT INTO items (name) VALUES ($1)" ∧
      Column.resolve? (Allowlist.sample.permitted "items") "secret" = none := by
  refine ⟨Draft.check_sample, ⟨_, rfl, rfl, ?_, by decide⟩, _, rfl, rfl, rfl⟩
  intro hinert
  exact hinert.chars ';' (by decide) (by decide)

end GuardedQuery
