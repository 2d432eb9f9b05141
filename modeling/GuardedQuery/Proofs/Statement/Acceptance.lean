import GuardedQuery.Proofs.Condition.Tree
import GuardedQuery.Proofs.Statement.Permitted

/-!
# Which payloads are compiled

`Payload.Acceptable a o p` lists what is asked of a payload: its window, its table and, on the columns
of that table, every name and every filter. `Payload.Breaks a o p e` says which of these the error
`e` finds broken. `Payload.compile_accepts`: the acceptable payloads are compiled, and the error of any
other names something that is broken.

Filters are checked by a recursion that counts how deep it stands and stops at the first fault.
`ofNodes_error` and `ofNodes_fits` relate it to the conditions and the depth of the whole tree.
-/

namespace GuardedQuery

/-! ## Keys -/

theorem Target.column_error {columns : List Column} {position : Position} {key : String}
    {e : CompileError} (h : column columns position key = .error e) :
    e = .denied position key ∧ ¬Column.Named columns key := by
  unfold column at h
  split at h
  · cases h
  · rename_i hnone
    cases h
    exact ⟨rfl, Column.resolve?_eq_none_iff.1 hnone⟩

/-! ## Filters -/

namespace Restriction

/-- What a fault of a filter says about its conditions and the level that its groups reach. -/
def Blames (columns : List Column) (max : Nat) (conditions : List (String × Predicate))
    (level : Nat) : CompileError → Prop
  | .denied .filter key => ∃ x ∈ conditions, x.1 = key ∧ ¬Column.Named columns key
  | .malformed (.emptyList op) =>
    ∃ x ∈ conditions, ∃ negated, x.2 = .member negated [] ∧ op = .member negated
  | .malformed (.tooDeep bound) => bound = max ∧ max < level
  | _ => False

theorem Blames.mono {columns : List Column} {max level level' : Nat}
    {conditions conditions' : List (String × Predicate)} {e : CompileError}
    (h : Blames columns max conditions level e) (hsub : conditions ⊆ conditions')
    (hle : level ≤ level') : Blames columns max conditions' level' e := by
  cases e with
  | malformed m =>
    cases m with
    | emptyList op =>
      obtain ⟨x, hx, rest⟩ := h
      exact ⟨x, hsub hx, rest⟩
    | tooDeep bound => exact ⟨h.1, Nat.lt_of_lt_of_le h.2 hle⟩
    | _ => exact h.elim
  | denied position key =>
    cases position with
    | filter =>
      obtain ⟨x, hx, rest⟩ := h
      exact ⟨x, hsub hx, rest⟩
    | _ => exact h.elim
  | noAggregation d => exact h.elim

theorem ofCondition_error {columns : List Column} {max level : Nat} {key : String} {p : Predicate}
    {e : CompileError} (h : ofCondition columns key p = .error e) :
    Blames columns max [(key, p)] level e := by
  unfold ofCondition at h
  split at h
  · rename_i hkey
    cases h
    obtain ⟨rfl, hnamed⟩ := Target.column_error hkey
    exact ⟨_, List.mem_singleton_self _, rfl, hnamed⟩
  · cases h
    exact ⟨_, List.mem_singleton_self _, _, rfl, rfl⟩
  · cases h

variable {columns : List Column} {max : Nat}

mutual

theorem ofNode_error {depth : Nat} : ∀ (n : Node String) {e : CompileError},
    ofNode columns max (depth + 1) n = .error e →
      Blames columns max n.conditions (depth + n.depth) e
  | .condition key p, e, h => by
    rw [ofNode, map_eq_error] at h
    exact ofCondition_error h
  | .group c nodes, e, h => by
    rw [ofNode] at h
    split at h
    · rename_i hdeep
      cases h
      have hlevel : depth + 1 ≤ depth + (Node.group c nodes).depth := by
        rw [Node.depth]
        omega
      exact ⟨rfl, Nat.lt_of_lt_of_le hdeep hlevel⟩
    · split at h
      · rename_i hnodes
        cases h
        have hblame := ofNodes_error nodes hnodes
        rw [Node.conditions, Node.depth]
        exact hblame.mono (List.Subset.refl _) (by omega)
      · cases h
      · cases h

/-- **A refused filter has a fault**, and the error tells which: checking at level `depth + 1` meets
groups down to level `depth + depthAll nodes`. -/
theorem ofNodes_error {depth : Nat} : ∀ (nodes : List (Node String)) {e : CompileError},
    ofNodes columns max (depth + 1) nodes = .error e →
      Blames columns max (Node.conditionsAll nodes) (depth + Node.depthAll nodes) e
  | [], e, h => by
    rw [ofNodes] at h
    cases h
  | n :: rest, e, h => by
    rw [ofNodes] at h
    rw [Node.conditionsAll, Node.depthAll]
    split at h
    · rename_i hnode
      cases h
      exact (ofNode_error n hnode).mono (List.subset_append_left _ _) (by omega)
    · rw [map_eq_error] at h
      exact (ofNodes_error rest h).mono (List.subset_append_right _ _) (by omega)

end

mutual

theorem ofNode_depth {depth : Nat} : ∀ (n : Node String) {part : Option Restriction},
    ofNode columns max (depth + 1) n = .ok part → n.depth = 0 ∨ depth + n.depth ≤ max
  | .condition key p, part, _ => .inl rfl
  | .group c nodes, part, h => by
    have hdepth : depth + 1 ≤ max := by
      rw [ofNode] at h
      split at h
      · cases h
      · omega
    obtain ⟨parts, hparts, -⟩ := ofNode_group h
    have ih := ofNodes_depth nodes hparts
    rw [Node.depth]
    omega

/-- An accepted filter is nested no deeper than permitted. -/
theorem ofNodes_depth {depth : Nat} : ∀ (nodes : List (Node String)) {parts : List Restriction},
    ofNodes columns max (depth + 1) nodes = .ok parts →
      Node.depthAll nodes = 0 ∨ depth + Node.depthAll nodes ≤ max
  | [], parts, _ => .inl rfl
  | n :: rest, parts, h => by
    obtain ⟨part, parts', hpart, hparts', -⟩ := ofNodes_cons h
    have hnode := ofNode_depth n hpart
    have hrest := ofNodes_depth rest hparts'
    rw [Node.depthAll]
    omega

end

/-- Every condition of an accepted filter is sound. -/
theorem ofNodes_conditions {depth : Nat} {nodes : List (Node String)} {parts : List Restriction}
    (h : ofNodes columns max depth nodes = .ok parts) :
    ∀ x ∈ Node.conditionsAll nodes, Column.Named columns x.1 ∧ HasList x.2 := by
  intro x hx
  obtain ⟨htests, hlists⟩ := ofNodes_tests nodes h
  have hmem : testOf? columns x ∈ (testsAll parts).map some := by
    rw [htests]
    exact List.mem_map_of_mem hx
  obtain ⟨t, ht, heq⟩ := List.mem_map.1 hmem
  obtain ⟨c, hc, rfl⟩ := Option.map_eq_some_iff.1 heq.symm
  have hlist : HasList x.2 := hlists (c.expression, x.2) ht
  exact ⟨Column.named_of_resolve? hc, hlist⟩

end Restriction

/-- The filter is nested no deeper than permitted, its keys go by columns, and no list in it is
empty. -/
structure Group.Fits (columns : List Column) (max : Nat) (g : Group String) : Prop where
  depth : g.depth ≤ max
  keys : ∀ x ∈ g.conditions, Column.Named columns x.1
  lists : ∀ x ∈ g.conditions, Restriction.HasList x.2

namespace Restriction

variable {columns : List Column} {max : Nat} {scope filter : Option (Group String)}

theorem ofFilters_fits {parts : List Restriction}
    (h : ofFilters columns max scope filter = .ok parts) :
    ∀ g ∈ scope.toList ++ filter.toList, g.Fits columns max := by
  intro g hg
  have hnode : g.toNode ∈ (scope.toList ++ filter.toList).map Group.toNode :=
    List.mem_map_of_mem hg
  have hsound : ∀ x ∈ g.conditions, Column.Named columns x.1 ∧ HasList x.2 := fun x hx =>
    ofNodes_conditions h x (Node.mem_conditionsAll.2 ⟨g.toNode, hnode, hx⟩)
  refine ⟨?_, fun x hx => (hsound x hx).1, fun x hx => (hsound x hx).2⟩
  have hdepth : Node.depthAll ((scope.toList ++ filter.toList).map Group.toNode) ≤ max := by
    have := @ofNodes_depth _ _ 0 _ _ h
    omega
  exact Node.depthAll_le_iff.1 hdepth _ hnode

theorem ofFilters_error {e : CompileError} (h : ofFilters columns max scope filter = .error e) :
    Blames columns max (Node.conditionsAll ((scope.toList ++ filter.toList).map Group.toNode))
      (Node.depthAll ((scope.toList ++ filter.toList).map Group.toNode)) e := by
  have hblame := @ofNodes_error _ _ 0 _ _ h
  rwa [Nat.zero_add] at hblame

end Restriction

/-! ## Columns and order -/

theorem Selection.ofKeys_named {permitted : List Column} {keys : List String} {s : Selection}
    (h : ofKeys permitted keys = .ok s) : ∀ key ∈ keys, Column.Named permitted key := by
  have step : ∀ (keys : List String) (s s' : Selection),
      (∀ key ∈ s.keys, Column.Named permitted key) → keys.foldlM (add permitted) s = .ok s' →
        ∀ key ∈ keys, Column.Named permitted key := by
    intro keys
    induction keys with
    | nil => simp
    | cons key rest ih =>
      intro s s' hs h
      rw [List.foldlM_cons] at h
      obtain ⟨t, ht, h⟩ := bind_eq_ok.1 h
      unfold add at ht
      split at ht
      · rename_i hseen
        cases ht
        have hkey : Column.Named permitted key := hs key (by simpa using hseen)
        exact List.forall_mem_cons.2 ⟨hkey, ih s s' hs h⟩
      · obtain ⟨c, hc, rfl⟩ := map_eq_ok.1 ht
        have hkey : Column.Named permitted key := Column.named_of_resolve? (Target.column_ok.1 hc)
        refine List.forall_mem_cons.2 ⟨hkey, ih _ s' (fun k hk => ?_) h⟩
        rcases List.mem_append.1 hk with hk | hk
        · exact hs k hk
        · rwa [List.mem_singleton.1 hk]
  exact step keys ⟨[], []⟩ s (by simp) h

theorem Selection.ofKeys_error {permitted : List Column} {keys : List String} {e : CompileError}
    (h : ofKeys permitted keys = .error e) :
    ∃ key ∈ keys, e = .denied .select key ∧ ¬Column.Named permitted key := by
  have step : ∀ (keys : List String) (s : Selection), keys.foldlM (add permitted) s = .error e →
      ∃ key ∈ keys, e = .denied .select key ∧ ¬Column.Named permitted key := by
    intro keys
    induction keys with
    | nil =>
      intro s h
      cases h
    | cons key rest ih =>
      intro s h
      rw [List.foldlM_cons] at h
      rcases bind_eq_error.1 h with h | ⟨t, -, h⟩
      · unfold add at h
        split at h
        · cases h
        · exact ⟨key, List.mem_cons_self, Target.column_error (map_eq_error.1 h)⟩
      · obtain ⟨k, hk, hfault⟩ := ih t h
        exact ⟨k, List.mem_cons_of_mem _ hk, hfault⟩
  exact step keys ⟨[], []⟩ h

theorem Selection.exists_ofKeys {permitted : List Column} {keys : List String}
    (h : ∀ key ∈ keys, Column.Named permitted key) : ∃ s, ofKeys permitted keys = .ok s := by
  cases hs : ofKeys permitted keys with
  | ok s => exact ⟨s, rfl⟩
  | error e =>
    obtain ⟨key, hkey, -, hnamed⟩ := ofKeys_error hs
    exact absurd (h key hkey) hnamed

theorem Payload.orderTerms_named {columns : List Column} {terms : List (SortTerm String)}
    {order : List (String × Direction)} (h : orderTerms columns terms = .ok order) :
    ∀ t ∈ terms, Column.Named columns t.key := by
  intro t ht
  obtain ⟨x, c, hc, -⟩ := exists_forall₂_iff.1 ⟨order, orderTerms_eq_ok.1 h⟩ t ht
  exact Column.named_of_resolve? hc

theorem Payload.orderTerms_error {columns : List Column} {terms : List (SortTerm String)}
    {e : CompileError} (h : orderTerms columns terms = .error e) :
    ∃ t ∈ terms, e = .denied .sort t.key ∧ ¬Column.Named columns t.key := by
  rw [orderTerms_eq_mapM] at h
  obtain ⟨t, ht, hkey⟩ := exists_of_mapM_eq_error h
  exact ⟨t, ht, Target.column_error (map_eq_error.1 hkey)⟩

/-! ## Targets and windows -/

theorem Target.find_joins {a : Allowlist} {requested : Option String} {clientJoins : List Join}
    {o : Override} {t : Target} (h : find a requested clientJoins o = .ok t) :
    ∀ j ∈ clientJoins, j ∈ (a.viewOf t.name).joins ∨ j ∈ o.joins := by
  unfold find at h
  split at h
  · cases h
  · split at h
    · cases h
    · dsimp only at h
      split at h
      · cases h
      · rename_i hnone
        cases h
        intro j hj
        have hfind := List.find?_eq_none.1 hnone j hj
        simp only [Bool.and_eq_true, Bool.not_eq_true', List.contains_eq_mem, decide_eq_false_iff_not,
          not_and_or, Decidable.not_not] at hfind
        exact hfind

theorem Target.find_error {a : Allowlist} {requested : Option String} {clientJoins : List Join}
    {o : Override} {e : CompileError} (h : find a requested clientJoins o = .error e) :
    (requested = none ∧ e = .malformed .noTable) ∨
      (∃ name, requested = some name ∧ a.columns? name = none ∧ e = .denied .table name) ∨
      ∃ name, requested = some name ∧ ∃ j ∈ clientJoins, j ∉ (a.viewOf name).joins ∧ j ∉ o.joins ∧
        e = .denied .join j.table := by
  unfold find at h
  split at h
  · cases h
    exact .inl ⟨rfl, rfl⟩
  · rename_i name
    split at h
    · rename_i hcolumns
      cases h
      exact .inr (.inl ⟨name, rfl, hcolumns, rfl⟩)
    · dsimp only at h
      split at h
      · rename_i j hj
        cases h
        have hfault := List.find?_some hj
        simp only [Bool.and_eq_true, Bool.not_eq_true', List.contains_eq_mem,
          decide_eq_false_iff_not] at hfault
        exact .inr (.inr ⟨name, rfl, j, List.mem_of_find?_eq_some hj, hfault.1, hfault.2, rfl⟩)
      · cases h

namespace Payload

/-- The table or view that is asked for: the server's choice, or else the client's. -/
def tableName (o : Override) (p : Payload String) : Option String := o.table <|> p.source

/-- The server's scope and the client's filter. -/
def filters (o : Override) (p : Payload String) : List (Group String) :=
  o.scope.toList ++ p.filter.toList

/-- The bounds of the window. -/
def bounds (p : Payload String) : List UInt64 := p.limit.toList ++ p.offset.toList

theorem maxWindowBound_eq : maxWindowBound = 9223372036854775807 := rfl

theorem checkWindow_eq (p : Payload String) : p.checkWindow =
    if p.limit = some 0 then .error (.malformed .zeroLimit)
    else if ∃ n ∈ p.bounds, 9223372036854775807 < n.toNat then .error (.malformed .windowTooLarge)
    else .ok ⟨p.limit.map UInt64.toNat, p.offset.map UInt64.toNat⟩ := by
  have hzero : p.limit.map UInt64.toNat = some 0 ↔ p.limit = some 0 := by
    cases p.limit with
    | none => simp
    | some n => simp [← UInt64.toNat_inj]
  have hlarge : ((p.limit.map UInt64.toNat).toList ++ (p.offset.map UInt64.toNat).toList).any
      (fun n => decide (maxWindowBound < n)) = true ↔
        ∃ n ∈ p.bounds, 9223372036854775807 < n.toNat := by
    rw [maxWindowBound_eq]
    cases hl : p.limit <;> cases ho : p.offset <;> simp [bounds, hl, ho]
  unfold checkWindow
  simp only [hzero, hlarge]

/-! ## Payloads -/

/-- Everything that the payload names is permitted on a table with some columns. -/
structure Fits (a : Allowlist) (o : Override) (p : Payload String) (table : String)
    (columns : List Column) : Prop where
  joins : ∀ j ∈ p.joins, j ∈ (a.viewOf table).joins ∨ j ∈ o.joins
  select : ∀ key ∈ p.select, Column.Named columns key
  order : ∀ t ∈ p.order, Column.Named columns t.key
  filters : ∀ g ∈ p.filters o, g.Fits columns a.maxDepth.toNat

/-- What is asked of a payload. -/
structure Acceptable (a : Allowlist) (o : Override) (p : Payload String) : Prop where
  select : p.select ≠ []
  limit : p.limit ≠ some 0
  bounds : ∀ n ∈ p.bounds, n.toNat ≤ 9223372036854775807
  table : ∃ table columns, p.tableName o = some table ∧ a.columns? table = some columns ∧
    p.Fits a o table columns

/-- The key goes by no column of the table. -/
def Unnamed (a : Allowlist) (o : Override) (p : Payload String) (key : String) : Prop :=
  ∃ table columns, p.tableName o = some table ∧ a.columns? table = some columns ∧
    ¬Column.Named columns key

/-- What the error finds broken. -/
def Breaks (a : Allowlist) (o : Override) (p : Payload String) : CompileError → Prop
  | .malformed .emptySelect => p.select = []
  | .malformed .zeroLimit => p.limit = some 0
  | .malformed .windowTooLarge => ∃ n ∈ p.bounds, 9223372036854775807 < n.toNat
  | .malformed .noTable => p.tableName o = none
  | .malformed (.emptyList op) =>
    ∃ g ∈ p.filters o, ∃ x ∈ g.conditions, ∃ negated, x.2 = .member negated [] ∧ op = .member negated
  | .malformed (.tooDeep bound) => bound = a.maxDepth.toNat ∧ ∃ g ∈ p.filters o, bound < g.depth
  | .denied .table name => p.tableName o = some name ∧ a.columns? name = none
  | .denied .join table => ∃ view, p.tableName o = some view ∧
    ∃ j ∈ p.joins, j.table = table ∧ j ∉ (a.viewOf view).joins ∧ j ∉ o.joins
  | .denied .select key => key ∈ p.select ∧ p.Unnamed a o key
  | .denied .filter key => (∃ g ∈ p.filters o, ∃ x ∈ g.conditions, x.1 = key) ∧ p.Unnamed a o key
  | .denied .sort key => (∃ t ∈ p.order, t.key = key) ∧ p.Unnamed a o key
  | _ => False

variable {a : Allowlist} {o : Override} {p : Payload String}

theorem Acceptable.not_breaks (h : p.Acceptable a o) (e : CompileError) : ¬p.Breaks a o e := by
  obtain ⟨hselect, hlimit, hbounds, table, columns, htable, hcolumns, hfits⟩ := h
  have hnamed : ∀ {key}, p.Unnamed a o key → ¬Column.Named columns key := by
    rintro key ⟨table', columns', htable', hcolumns', hkey⟩
    rw [htable, Option.some.injEq] at htable'
    subst htable'
    rw [hcolumns, Option.some.injEq] at hcolumns'
    subst hcolumns'
    exact hkey
  intro hbreaks
  cases e with
  | noAggregation d => exact hbreaks
  | malformed m =>
    cases m with
    | emptySelect => exact hselect hbreaks
    | zeroLimit => exact hlimit hbreaks
    | windowTooLarge =>
      obtain ⟨n, hn, hlarge⟩ := hbreaks
      exact Nat.not_lt.2 (hbounds n hn) hlarge
    | noTable =>
      have hnone : p.tableName o = none := hbreaks
      rw [htable] at hnone
      cases hnone
    | tooDeep bound =>
      obtain ⟨rfl, g, hg, hdeep⟩ := hbreaks
      exact Nat.not_lt.2 (hfits.filters g hg).depth hdeep
    | emptyList op =>
      obtain ⟨g, hg, x, hx, negated, hlist, -⟩ := hbreaks
      exact (hfits.filters g hg).lists x hx negated hlist
    | _ => exact hbreaks
  | denied position key =>
    cases position with
    | table =>
      obtain ⟨htable', hnone⟩ := hbreaks
      rw [htable, Option.some.injEq] at htable'
      subst htable'
      rw [hcolumns] at hnone
      cases hnone
    | select => exact hnamed hbreaks.2 (hfits.select key hbreaks.1)
    | filter =>
      obtain ⟨⟨g, hg, x, hx, rfl⟩, hkey⟩ := hbreaks
      exact hnamed hkey ((hfits.filters g hg).keys x hx)
    | sort =>
      obtain ⟨⟨t, ht, rfl⟩, hkey⟩ := hbreaks
      exact hnamed hkey (hfits.order t ht)
    | join =>
      obtain ⟨view, hview, j, hj, -, hconfigured, hserver⟩ := hbreaks
      rw [htable, Option.some.injEq] at hview
      subst hview
      exact (hfits.joins j hj).elim hconfigured hserver
    | column => exact hbreaks

/-- A fault of a filter is a fault of the payload. -/
theorem breaks_of_blames {table : String} {columns : List Column} {e : CompileError}
    (htable : p.tableName o = some table) (hcolumns : a.columns? table = some columns)
    (h : Restriction.Blames columns a.maxDepth.toNat
      (Node.conditionsAll ((p.filters o).map Group.toNode))
      (Node.depthAll ((p.filters o).map Group.toNode)) e) : p.Breaks a o e := by
  have hcondition : ∀ {x}, x ∈ Node.conditionsAll ((p.filters o).map Group.toNode) →
      ∃ g ∈ p.filters o, x ∈ g.conditions := by
    intro x hx
    obtain ⟨n, hn, hx⟩ := Node.mem_conditionsAll.1 hx
    obtain ⟨g, hg, rfl⟩ := List.mem_map.1 hn
    exact ⟨g, hg, hx⟩
  cases e with
  | noAggregation d => exact h.elim
  | malformed m =>
    cases m with
    | emptyList op =>
      obtain ⟨x, hx, negated, hlist⟩ := h
      obtain ⟨g, hg, hx⟩ := hcondition hx
      exact ⟨g, hg, x, hx, negated, hlist⟩
    | tooDeep bound =>
      obtain ⟨rfl, hdeep⟩ := h
      have hdeep := Nat.not_le.2 hdeep
      rw [Node.depthAll_le_iff] at hdeep
      simp only [List.forall_mem_map, not_forall, Nat.not_le] at hdeep
      obtain ⟨g, hg, hdeep⟩ := hdeep
      exact ⟨rfl, g, hg, hdeep⟩
    | _ => exact h.elim
  | denied position key =>
    cases position with
    | filter =>
      obtain ⟨x, hx, rfl, hkey⟩ := h
      obtain ⟨g, hg, hx⟩ := hcondition hx
      exact ⟨⟨g, hg, x, hx, rfl⟩, table, columns, htable, hcolumns, hkey⟩
    | _ => exact h.elim

theorem tableName_eq : (o.table <|> p.source <|> none) = p.tableName o := by
  unfold tableName
  cases p.source <;> rfl

theorem check_acceptable {c : Checked} (h : p.check a o none = .ok c) : p.Acceptable a o := by
  have hselect : p.select ≠ [] := by
    intro hnil
    unfold check at h
    rw [hnil] at h
    cases h
  obtain ⟨target, selection, htarget, hselection, hrestrictions, horder, hwindow, -⟩ := check_ok h
  obtain ⟨htable, hcolumns, -, -⟩ := Target.find_ok htarget
  rw [tableName_eq] at htable
  rw [checkWindow_eq] at hwindow
  split at hwindow
  · cases hwindow
  · rename_i hlimit
    split at hwindow
    · cases hwindow
    · rename_i hbounds
      refine ⟨hselect, hlimit, fun n hn => ?_, target.name, target.columns, htable, hcolumns, ?_⟩
      · exact Nat.not_lt.1 fun hlarge => hbounds ⟨n, hn, hlarge⟩
      · exact ⟨Target.find_joins htarget, Selection.ofKeys_named hselection,
          orderTerms_named horder, Restriction.ofFilters_fits hrestrictions⟩

theorem check_breaks {e : CompileError} (h : p.check a o none = .error e) : p.Breaks a o e := by
  unfold check at h
  dsimp only at h
  split at h
  · rename_i hselect
    cases h
    exact List.isEmpty_iff.1 hselect
  rcases bind_eq_error.1 h with hwindow | ⟨window, -, h⟩
  · rw [checkWindow_eq] at hwindow
    split at hwindow
    · rename_i hlimit
      cases hwindow
      exact hlimit
    · split at hwindow
      · rename_i hlarge
        cases hwindow
        exact hlarge
      · cases hwindow
  rw [tableName_eq] at h
  rcases bind_eq_error.1 h with htarget | ⟨target, htarget, h⟩
  · rcases Target.find_error htarget with ⟨hnone, rfl⟩ | ⟨name, hname, hcolumns, rfl⟩ |
      ⟨name, hname, j, hj, hconfigured, hserver, rfl⟩
    · exact hnone
    · exact ⟨hname, hcolumns⟩
    · exact ⟨name, hname, j, hj, rfl, hconfigured, hserver⟩
  obtain ⟨htable, hcolumns, -, -⟩ := Target.find_ok htarget
  rcases bind_eq_error.1 h with hselection | ⟨selection, -, h⟩
  · obtain ⟨key, hkey, rfl, hnamed⟩ := Selection.ofKeys_error hselection
    exact ⟨hkey, _, _, htable, hcolumns, hnamed⟩
  rcases bind_eq_error.1 h with hrestrictions | ⟨restrictions, -, h⟩
  · exact breaks_of_blames htable hcolumns (Restriction.ofFilters_error hrestrictions)
  rcases bind_eq_error.1 h with horder | ⟨order, -, h⟩
  · obtain ⟨t, ht, rfl, hnamed⟩ := orderTerms_error horder
    exact ⟨⟨t, ht, rfl⟩, _, _, htable, hcolumns, hnamed⟩
  · cases h

theorem Acceptable.exists_check (h : p.Acceptable a o) : ∃ c, p.check a o none = .ok c := by
  cases hc : p.check a o none with
  | ok c => exact ⟨c, rfl⟩
  | error e => exact absurd (check_breaks hc) (h.not_breaks e)

/-- **Exactly the acceptable payloads are compiled.** Any other is refused as malformed or denied, and
what its error names is broken. -/
theorem compile_accepts (a : Allowlist) (d : Dialect) (o : Override) (p : Payload String) :
    ((∃ s, p.compile a d o = .ok s) ↔ p.Acceptable a o) ∧
      ∀ e, p.compile a d o = .error e →
        p.Breaks a o e ∧ ((∃ m, e = .malformed m) ∨ ∃ position key, e = .denied position key) := by
  have herror : ∀ e, p.compile a d o = .error e → p.Breaks a o e := fun e he =>
    check_breaks (map_eq_error.1 he)
  refine ⟨⟨?_, fun hp => ?_⟩, fun e he => ⟨herror e he, ?_⟩⟩
  · rintro ⟨s, hs⟩
    obtain ⟨c, hc, -⟩ := map_eq_ok.1 hs
    exact check_acceptable hc
  · obtain ⟨c, hc⟩ := hp.exists_check
    exact ⟨_, map_eq_ok.2 ⟨c, hc, rfl⟩⟩
  · cases e with
    | malformed m => exact .inl ⟨m, rfl⟩
    | denied position key => exact .inr ⟨position, key, rfl⟩
    | noAggregation d' => exact (herror _ he).elim

end Payload

end GuardedQuery
