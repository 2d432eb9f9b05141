import GuardedQuery.Proofs.Statement.Order
import GuardedQuery.Proofs.Statement.Pagination
import GuardedQuery.Proofs.Statement.Placeholders

/-!
# The dialects agree

A request has the same outcome in any two dialects: the same error, or statements that bind the same
parameters, describe the same result and differ in the form of their placeholders and in the clause
of the window only, where the two clauses take the same rows (`compile_agrees`). For SQL Server a
window follows the only order of its statement.
-/

namespace GuardedQuery

open Text Template

/-! ## One form for all placeholders -/

/-- The text with the marker number `i`, and the name characters behind it, replaced by `$i`. Some
markers stand in front of the text, and it may begin inside a placeholder. -/
def neutralFrom (markers : Nat) (inside : Bool) : List Char → List Char
  | [] => []
  | c :: cs =>
    if isMarker c then
      Dialect.placeholder .postgres (markers + 1) ++ neutralFrom (markers + 1) true cs
    else if inside && isIdentifierRest c then neutralFrom markers true cs
    else c :: neutralFrom markers false cs

/-- The text with its placeholder number `i` replaced by `$i`. -/
def neutral (cs : List Char) : List Char := neutralFrom 0 false cs

theorem neutralFrom_unmarked {n : Nat} {xs : List Char} (h : Unmarked xs) (ys : List Char) :
    neutralFrom n false (xs ++ ys) = xs ++ neutralFrom n false ys := by
  induction xs with
  | nil => rfl
  | cons c xs ih =>
    obtain ⟨hc, hxs⟩ := List.forall_mem_cons.1 h
    rw [List.cons_append, neutralFrom, hc, ih hxs]
    rfl

/-- What is left of a placeholder is skipped. -/
theorem neutralFrom_inside {n : Nat} {w ys : List Char} (hw : ∀ c ∈ w, isIdentifierRest c = true)
    (hstops : Stops ys) : neutralFrom n true (w ++ ys) = neutralFrom n false ys := by
  induction w with
  | nil =>
    cases ys with
    | nil => rfl
    | cons c ys =>
      have hc : isIdentifierRest c = false := hstops c rfl
      simp [neutralFrom, hc]
  | cons c w ih =>
    obtain ⟨hc, hrest⟩ := List.forall_mem_cons.1 hw
    rw [List.cons_append, neutralFrom, isMarker_of_rest hc, hc, ih hrest]
    rfl

namespace Template

/-- **A spaced template reads the same in every dialect**, placeholders aside. -/
theorem neutralFrom_renderFrom (d : Dialect) {t : Template} (ht : t.Spaced) (n : Nat) :
    neutralFrom n false (renderFrom d n t) = renderFrom .postgres n t := by
  induction t generalizing n with
  | nil => rfl
  | cons piece t ih =>
    cases piece with
    | text s => rw [renderFrom_text, renderFrom_text, neutralFrom_unmarked ht.1, ih ht.2]
    | bind l =>
      obtain ⟨m, w, heq, hm, hw⟩ := d.placeholder_eq (n + 1)
      rw [renderFrom_bind, renderFrom_bind, heq, List.cons_append, neutralFrom, if_pos hm,
        neutralFrom_inside hw (ht.1 d _), ih ht.2]

theorem Stops.left {t u : Template} (h : (t ++ u).Stops) : t.Stops := fun d n c hc => by
  refine h d n c ?_
  rw [renderFrom_append, List.head?_append, Option.mem_def.1 hc]
  rfl

theorem Spaced.left {t u : Template} (h : (t ++ u).Spaced) : t.Spaced := by
  induction t with
  | nil => trivial
  | cons piece t ih =>
    cases piece with
    | text s => exact ⟨h.1, ih h.2⟩
    | bind l => exact ⟨h.1.left, ih h.2⟩

end Template

/-! ## Statements that agree -/

/-- The statement is `text` with the placeholders of the dialect, and then the clause of a window. The
clause takes the rows of the window; there is none if all rows are returned. -/
structure Statement.Writes (d : Dialect) (ordered : Bool) (text : List Char) (w : Window)
    (s : Statement) : Prop where
  dialect : s.dialect = d
  sql : ∃ body clause : String, s.sql = body ++ clause ∧ neutral body.toList = text ∧
    (clause = "" ↔ w.isWhole = true) ∧
      ∃ v, d.window? ordered (lex clause.toList) = some v ∧ v.Agrees w

theorem Statement.writes {s : Statement} {d : Dialect} (hdialect : s.dialect = d) {t : Template}
    (ht : t.Spaced) {w : Window} (hlimit : w.limit ≠ some 0)
    (hbounds : ∀ n ∈ w.limit.toList ++ w.offset.toList, n < 2 ^ 63) {ordered : Bool}
    (hsql : s.sql = t.render d ++ w.clause d ordered) :
    s.Writes d ordered (renderFrom .postgres 0 t) w := by
  refine ⟨hdialect, t.render d, w.clause d ordered, hsql, ?_, Window.clause_eq_empty_iff d ordered,
    Window.clause_read hlimit hbounds d ordered⟩
  rw [Template.render, String.toList_ofList]
  exact neutralFrom_renderFrom d ht 0

/-- Two dialects give the same error, or statements with the same parameters, the same description
and, placeholders aside, the same text and window. -/
def DialectsAgree (d₁ d₂ : Dialect) (ordered : Bool) (w : Window) :
    Except CompileError Statement → Except CompileError Statement → Prop
  | .ok s₁, .ok s₂ => s₁.parameters = s₂.parameters ∧ s₁.outline = s₂.outline ∧
      ∃ text, s₁.Writes d₁ ordered text w ∧ s₂.Writes d₂ ordered text w
  | .error e₁, .error e₂ => e₁ = e₂
  | _, _ => False

/-- `ORDER BY` is written once, and there the window begins: behind the order of the request, or
behind one that orders nothing. -/
def Statement.OrderedOnce (a : Allowlist) (order : List (SortTerm String)) (s : Statement) : Prop :=
  orders (lex s.sql.toList) = 1 ∧ ∃ terms front rest,
    Payload.orderTerms (a.permitted s.outline.table) order = .ok terms ∧
      s.sql = front ++
        ((if order.isEmpty then " ORDER BY (SELECT NULL)" else Select.orderText terms) ++
          (" OFFSET " ++ rest))

namespace Payload

namespace Checked

variable {c : Checked}

theorem agrees (hspaced : c.select.body.Spaced) (hlimit : c.select.window.limit ≠ some 0)
    (hbounds : ∀ n ∈ c.select.window.limit.toList ++ c.select.window.offset.toList, n < 2 ^ 63)
    (d₁ d₂ : Dialect) : DialectsAgree d₁ d₂ (!c.select.order.isEmpty) c.select.window
      (.ok (c.statement d₁)) (.ok (c.statement d₂)) := by
  have hwrites : ∀ d, (c.statement d).Writes d (!c.select.order.isEmpty)
      (renderFrom .postgres 0 c.select.body) c.select.window := by
    intro d
    refine Statement.writes ?_ hspaced hlimit hbounds ?_
    · rfl
    · rw [← String.toList_inj]
      simp [statement, Statement.ofTemplate, Select.template, Template.render, renderFrom_append]
  refine ⟨?_, rfl, _, hwrites d₁, hwrites d₂⟩
  simp only [statement, Statement.ofTemplate, Select.literals_template]

end Checked

section Validated

variable {draft : Draft} {a : Allowlist} (ha : draft.check = .ok a) {o : Override} (ho : o.joins = [])
  {fallback : Option String} {p : Payload String}

include ha ho

theorem check_agrees (d₁ d₂ : Dialect) : DialectsAgree d₁ d₂ (!p.order.isEmpty) p.window
    ((check a o fallback p).map (Checked.statement d₁))
    ((check a o fallback p).map (Checked.statement d₂)) := by
  cases hc : check a o fallback p with
  | error e => exact rfl
  | ok c =>
    obtain ⟨_, _, -, -, -, horder, hwindow, -⟩ := check_ok hc
    have hspaced := Select.spaced_template (Draft.check_sound ha) ho (check_permitted hc).1 d₁
    obtain ⟨hlimit, hbounds⟩ := checkWindow_bounds hwindow
    have hagrees := Checked.agrees hspaced.left hlimit hbounds d₁ d₂
    rwa [orderTerms_isEmpty horder, checkWindow_ok hwindow] at hagrees

theorem check_orderedOnce {c : Checked} (hc : check a o fallback p = .ok c)
    (hw : p.window.isWhole = false) : (c.statement .mssql).OrderedOnce a p.order := by
  obtain ⟨target, _, htarget, -, -, horder, hwindow, -, -, -, -, htable⟩ := check_ok hc
  obtain ⟨hpermitted, -⟩ := check_permitted hc
  have hwhole : c.select.window.isWhole = false := by
    rw [checkWindow_ok hwindow]
    exact hw
  have hsql : (c.statement .mssql).sql = c.select.headText ++ c.select.whereText .mssql ++
      (c.select.serverOrder ++ c.select.window.fetchText) :=
    Select.render_mssql hwhole
  obtain ⟨rest, hrest⟩ : ∃ rest, c.select.window.fetchText = " OFFSET " ++ rest :=
    ⟨_, by rw [Window.fetchText, String.append_assoc, String.append_assoc]⟩
  refine ⟨?_, c.select.order, c.select.headText ++ c.select.whereText .mssql, rest, ?_, ?_⟩
  · rw [hsql]
    exact Select.orders_mssql ha ho hpermitted
  · rw [Target.columns_eq htarget, ← htable] at horder
    exact horder
  · rw [hsql, hrest, Select.serverOrder, orderTerms_isEmpty horder]

end Validated

end Payload

theorem KeyLookup.agrees {draft : Draft} {a : Allowlist} (ha : draft.check = .ok a)
    {o : Override} (ho : o.joins = []) {l : KeyLookup} (d₁ d₂ : Dialect) :
    DialectsAgree d₁ d₂ false ⟨none, none⟩ (l.compile a d₁ o) (l.compile a d₂ o) := by
  unfold compile
  cases hc : check a o l with
  | error e => exact rfl
  | ok c =>
    obtain ⟨_, _, _, -, -, -, -, -, horder, hwindow, -⟩ := check_ok hc
    have hspaced := Select.spaced_template (Draft.check_sound ha) ho (check_permitted hc).1 d₁
    have hagrees := Payload.Checked.agrees hspaced.left (by simp [hwindow]) (by simp [hwindow]) d₁ d₂
    rwa [horder, hwindow] at hagrees

/-! ## Inserts -/

theorem Insert.agrees {draft : Draft} {a : Allowlist} (ha : draft.check = .ok a)
    {o : Override} {i : Insert} (d₁ d₂ : Dialect) :
    DialectsAgree d₁ d₂ false ⟨none, none⟩ (i.compile a d₁ o) (i.compile a d₂ o) := by
  have hsound := Draft.check_sound ha
  obtain ⟨e, he⟩ | ⟨permitted, names, outline, hpermitted, hnames, hok⟩ := compile_cases a o i
  · rw [he, he]
    exact rfl
  · have hplain : ∀ n ∈ names, IsName n := fun n hn => by
      obtain ⟨c, hc, -, rfl⟩ := columns_ok hnames (by simp) n hn
      exact (hsound.columns _ _ hpermitted c hc).expression
    have hspaced := spaced_template (hsound.table _ _ hpermitted) hplain (i.values.map Prod.snd)
    have hwrites : ∀ d, Statement.Writes d false
        (renderFrom .postgres 0 (template (o.table.getD i.table) names (i.values.map Prod.snd)))
        ⟨none, none⟩
        (.ofTemplate d (template (o.table.getD i.table) names (i.values.map Prod.snd)) outline) := by
      intro d
      refine Statement.writes ?_ hspaced ?_ ?_ ?_
      · rfl
      · simp
      · simp
      · rw [Statement.sql_ofTemplate, Window.clause_of_isWhole rfl, String.append_empty]
    rw [hok, hok]
    exact ⟨rfl, rfl, _, hwrites d₁, hwrites d₂⟩

/-! ## All statements -/

/-- **The dialects agree.** Payloads, free or strict, key lookups and inserts have the same outcome in
any two dialects, placeholders and the clause of the window aside, and both clauses take the rows of
the window that is asked for. For SQL Server the window follows the only order of its statement. -/
theorem compile_agrees {draft : Draft} {a : Allowlist} (ha : draft.check = .ok a) {o : Override}
    (ho : o.joins = []) (d₁ d₂ : Dialect) :
    (∀ p : Payload String, DialectsAgree d₁ d₂ (!p.order.isEmpty) p.window (p.compile a d₁ o)
      (p.compile a d₂ o)) ∧
    (∀ (e : Entity) (p : Payload e.Field), DialectsAgree d₁ d₂ (!p.order.isEmpty) p.window
      (p.compileStrict a d₁ o) (p.compileStrict a d₂ o)) ∧
    (∀ l : KeyLookup,
      DialectsAgree d₁ d₂ false ⟨none, none⟩ (l.compile a d₁ o) (l.compile a d₂ o)) ∧
    (∀ i : Insert,
      DialectsAgree d₁ d₂ false ⟨none, none⟩ (i.compile a d₁ o) (i.compile a d₂ o)) ∧
    (∀ (p : Payload String) (s : Statement), p.compile a .mssql o = .ok s →
      p.window.isWhole = false → s.OrderedOnce a p.order) ∧
    ∀ (e : Entity) (p : Payload e.Field) (s : Statement), p.compileStrict a .mssql o = .ok s →
      p.window.isWhole = false → s.OrderedOnce a p.toFree.order := by
  have hfree : ∀ {e : Entity} (p : Payload e.Field), p.toFree.order.isEmpty = p.order.isEmpty :=
    fun p => List.isEmpty_map
  refine ⟨fun p => Payload.check_agrees ha ho d₁ d₂, fun e p => ?_,
    fun l => KeyLookup.agrees ha ho d₁ d₂, fun i => Insert.agrees ha d₁ d₂,
    fun p s hs hw => ?_, fun e p s hs hw => ?_⟩
  · rw [← hfree p]
    exact Payload.check_agrees ha ho d₁ d₂
  · obtain ⟨c, hc, rfl⟩ := Payload.compile_ok hs
    exact Payload.check_orderedOnce ha ho hc hw
  · obtain ⟨c, hc, rfl⟩ := map_eq_ok.1 hs
    exact Payload.check_orderedOnce ha ho hc hw

/-- The items as an entity with two fields. -/
def Entity.items : Entity := ⟨"ItemField", "items", ["id", "name"]⟩

/-- The last items by number. -/
def lastItems : Payload Entity.items.Field :=
  ⟨[⟨"name", by decide⟩], none, [], none, [⟨⟨"id", by decide⟩, .desc⟩], some 5, none⟩

theorem compile_agrees_marked :
    Draft.sample.check = .ok .sample ∧ Override.none.joins = [] ∧
      DialectsAgree .sqlite .mssql false ⟨none, some 2⟩ (markedRequest.compile .sample .sqlite .none)
        (markedRequest.compile .sample .mssql .none) ∧
      DialectsAgree .sqlite .mssql true ⟨some 5, none⟩ (lastItems.compileStrict .sample .sqlite .none)
        (lastItems.compileStrict .sample .mssql .none) ∧
      DialectsAgree .sqlite .mssql false ⟨none, none⟩ (markedLookup.compile .sample .sqlite .none)
        (markedLookup.compile .sample .mssql .none) ∧
      DialectsAgree .sqlite .mssql false ⟨none, none⟩ (markedInsert.compile .sample .sqlite .none)
        (markedInsert.compile .sample .mssql .none) ∧
      (∃ s, markedRequest.compile .sample .mssql .none = .ok s ∧
        markedRequest.window.isWhole = false ∧ s.OrderedOnce .sample []) ∧
      ∃ s, lastItems.compileStrict .sample .mssql .none = .ok s ∧
        lastItems.window.isWhole = false ∧ s.OrderedOnce .sample [⟨"id", .desc⟩] := by
  obtain ⟨hpayload, hstrict, hlookup, hinsert, hordered, hstrictOrdered⟩ :=
    compile_agrees Draft.check_sample (o := .none) rfl .sqlite .mssql
  exact ⟨Draft.check_sample, rfl, hpayload markedRequest, hstrict .items lastItems,
    hlookup markedLookup, hinsert markedInsert, ⟨_, rfl, rfl, hordered markedRequest _ rfl rfl⟩,
    ⟨_, rfl, rfl, hstrictOrdered .items lastItems _ rfl rfl⟩⟩

end GuardedQuery
