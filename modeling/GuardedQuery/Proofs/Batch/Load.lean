import GuardedQuery.Proofs.Batch.Plan
import GuardedQuery.Proofs.Database.Work

/-!
# Runs of a load

`Loader.Goes` lists the ways a load can go: what it asks of its executor, its result and the state
after it. `Loader.load_goes`: every run of a plan goes one of them. What a run of a plan can give
(`Loader.load_merges`) and what it cannot fail with (`Loader.plan_suffices`) is read off from there.
-/

namespace GuardedQuery

open Merge

namespace Loader

variable {σ : Type}

/-! ## Ways to go -/

/-- The keys are read; the later statements are made for those of them that are first seen. -/
structure Opens (l : Loader) (p : Plan) (x : Executor σ) (s : σ) (K keys : List Literal)
    (parents children : Statement) (s₁ : σ) : Prop where
  fetched : x.fetchKeys p.keysQuery s = (.ok K, s₁)
  ne_nil : K ≠ []
  firstSeen : FirstSeen Literal.token K keys
  asks : l.Asks p keys parents children

/-- The parents are read as well, and each has a key. -/
structure Continues (l : Loader) (p : Plan) (keyColumn : String) (x : Executor σ) (s : σ)
    (K keys : List Literal) (parents children : Statement) (D : List Row) (s₂ : σ) : Prop where
  opens : ∃ s₁, l.Opens p x s K keys parents children s₁ ∧ x.fetchAll parents s₁ = (.ok D, s₂)
  keyed : ∀ row ∈ D, HasKey keyColumn row

/-- How a load goes: its requests, its result and the state after it. -/
inductive Goes (l : Loader) (p : Plan) (keyColumn : String) (x : Executor σ) (s : σ) :
    List Work.Request → Except ExecutionError (List Row) → σ → Prop
  | keysFailed {e : ExecutionError} {s₁ : σ} : x.fetchKeys p.keysQuery s = (.error e, s₁) →
      Goes l p keyColumn x s [.keys p.keysQuery] (.error e) s₁
  | noKeys {s₁ : σ} : x.fetchKeys p.keysQuery s = (.ok [], s₁) →
      Goes l p keyColumn x s [.keys p.keysQuery] (.ok []) s₁
  | parentsFailed {K keys : List Literal} {parents children : Statement} {e : ExecutionError}
      {s₁ s₂ : σ} :
      l.Opens p x s K keys parents children s₁ → x.fetchAll parents s₁ = (.error e, s₂) →
      Goes l p keyColumn x s [.keys p.keysQuery, .rows parents] (.error e) s₂
  | parentWithoutKey {K keys : List Literal} {parents children : Statement} {D : List Row}
      {row : Row} {s₁ s₂ : σ} :
      l.Opens p x s K keys parents children s₁ → x.fetchAll parents s₁ = (.ok D, s₂) →
      row ∈ D → ¬HasKey keyColumn row →
      Goes l p keyColumn x s [.keys p.keysQuery, .rows parents] (.error (.rowShape keyColumn)) s₂
  | childrenFailed {K keys : List Literal} {parents children : Statement} {D : List Row}
      {e : ExecutionError} {s₂ s₃ : σ} :
      l.Continues p keyColumn x s K keys parents children D s₂ →
      x.fetchAll children s₂ = (.error e, s₃) →
      Goes l p keyColumn x s [.keys p.keysQuery, .rows parents, .rows children] (.error e) s₃
  | noFamily {K keys : List Literal} {parents children : Statement} {D C : List Row} {row : Row}
      {e : ExecutionError} {s₂ s₃ : σ} :
      l.Continues p keyColumn x s K keys parents children D s₂ →
      x.fetchAll children s₂ = (.ok C, s₃) → row ∈ C → ¬Family row →
      (e = .rowShape parentKeyColumn ∨ ∃ fault, e = .malformedRow fault) →
      Goes l p keyColumn x s [.keys p.keysQuery, .rows parents, .rows children] (.error e) s₃
  | merged {K keys : List Literal} {parents children : Statement} {D C rows : List Row}
      {s₂ s₃ : σ} :
      l.Continues p keyColumn x s K keys parents children D s₂ →
      x.fetchAll children s₂ = (.ok C, s₃) → (∀ row ∈ C, Family row) →
      Merged keyColumn p.recipe.childrenField D C keys rows →
      Goes l p keyColumn x s [.keys p.keysQuery, .rows parents, .rows children] (.ok rows) s₃

/-! ## A load of items -/

end Loader

namespace Executor

/-- Answers a read with the next of some replies. -/
def nextReply (_ : Statement) : List (List Row) → Except ExecutionError (List Row) × List (List Row)
  | [] => (.ok [], [])
  | reply :: rest => (.ok reply, rest)

/-- Reads keys as rows. -/
def replaying : Executor (List (List Row)) :=
  ⟨nextReply, keysOfRows nextReply, fun _ replies => (.ok 0, replies)⟩

end Executor

/-- Items, each with those of the same name. -/
def Recipe.sample : Recipe := ⟨"item_with_category", "i.id", ⟨"items", "name", ["name"], []⟩, "items"⟩

namespace Loader

def sample : Loader := ⟨.sample, .sqlite, .standard⟩

def samplePayload : Payload String :=
  ⟨["category_name"], none, [], none, [⟨"i.id", .asc⟩], none, none⟩

def sampleScope : Override :=
  ⟨none, [], some ⟨.and, [.condition "i.tenant_id" (.compare .equals (.int 7))]⟩⟩

def samplePlan : Plan where
  recipe := .sample
  select := ["category_name"]
  override := { sampleScope with table := some "item_with_category" }
  keysQuery := ⟨.sqlite, "SELECT i.id FROM items AS i LEFT JOIN categories AS c ON c.id = i.category_id" ++
    " WHERE (i.tenant_id = ?1) ORDER BY i.id ASC LIMIT 25 OFFSET 0",
    Parameter.number [.int 7], ⟨["i.id"], ["id"], true, true, "item_with_category"⟩⟩

set_option maxRecDepth 4000 in
theorem plan_sample : sample.plan .sample samplePayload sampleScope = .ok samplePlan := rfl

/-- Two keys, one of them twice; two parents with one key; the children of one parent. -/
def sampleReplies : List (List Row) :=
  [[.ofList [("id", .string "b")], .ofList [("id", .string "a")], .ofList [("id", .string "b")]],
    [.ofList [("id", .string "a"), ("category_name", .null)],
      .ofList [("id", .string "b"), ("category_name", .string "old")],
      .ofList [("id", .string "b"), ("category_name", .string "new")]],
    [.ofList [("parent_key", .string "a"), ("children", .string "[1]")]]]

/-! ## Every run -/

variable {l : Loader} {p : Plan} {x : Executor σ} {s s₁ : σ} {keyColumn : String}
  {K keys : List Literal} {parents children : Statement}

theorem loadKeys_goes (h : l.Opens p x s K keys parents children s₁) :
    l.Goes p keyColumn x s (.keys p.keysQuery :: (l.loadKeys p keyColumn keys).requests x s₁)
      ((l.loadKeys p keyColumn keys).run x s₁).1 ((l.loadKeys p keyColumn keys).run x s₁).2 := by
  unfold loadKeys
  rw [h.asks.compiledParents, h.asks.compiledChildren]
  simp only [bind, Work.bind, Work.run_fetchAll, Work.requests_fetchAll]
  rcases hparents : x.fetchAll parents s₁ with ⟨e | D, s₂⟩
  · exact .parentsFailed h hparents
  · simp only [Except.bind]
    by_cases hkeyed : ∀ row ∈ D, HasKey keyColumn row
    · have hcontinues : l.Continues p keyColumn x s K keys parents children D s₂ :=
        ⟨⟨s₁, h, hparents⟩, hkeyed⟩
      obtain ⟨ps, hps, hfind⟩ := parents_ok hkeyed
      rw [hps]
      simp only [Work.bind, Work.run_fetchAll, Work.requests_fetchAll]
      rcases hchildren : x.fetchAll children s₂ with ⟨e | C, s₃⟩
      · exact .childrenFailed hcontinues hchildren
      · simp only
        by_cases hfamily : ∀ row ∈ C, Family row
        · obtain ⟨cs, hcs, hfind'⟩ := children_ok hfamily
          rw [hcs]
          exact .merged hcontinues hchildren hfamily (rows_merged hfind hfamily hfind' keys)
        · simp only [not_forall] at hfamily
          obtain ⟨row, hrow, hbad⟩ := hfamily
          obtain ⟨e, he⟩ := children_fail hrow hbad
          rw [he]
          exact .noFamily hcontinues hchildren hrow hbad (children_error he)
    · simp only [not_forall] at hkeyed
      obtain ⟨row, hrow, hbad⟩ := hkeyed
      obtain ⟨e, he⟩ := parents_fail hrow hbad
      rw [he, parents_error he]
      exact .parentWithoutKey h hparents hrow hbad

/-- **Every run of a plan goes one of the ways.** -/
theorem load_goes {r : Recipe} {payload : Payload String} {o : Override}
    (h : l.plan r payload o = .ok p) (hcolumn : p.keysQuery.outline.columns = [keyColumn])
    (x : Executor σ) (s : σ) :
    l.Goes p keyColumn x s ((l.load p).requests x s) ((l.load p).run x s).1
      ((l.load p).run x s).2 := by
  have hkeyColumn : p.keysQuery.keyColumn = .ok keyColumn := by
    rw [Statement.keyColumn, hcolumn]
  unfold load
  rw [hkeyColumn]
  simp only [bind, Work.keys, Work.bind, Work.run_fetchKeys, Work.requests_fetchKeys]
  rcases hfetch : x.fetchKeys p.keysQuery s with ⟨e | K, s₁⟩
  · exact .keysFailed hfetch
  · simp only
    have hfirst := firstSeen_distinct K
    by_cases hK : K = []
    · rw [hK] at hfetch ⊢
      exact .noKeys hfetch
    · have hkeys : distinct K ≠ [] := hfirst.ne_nil hK
      obtain ⟨parents, children, hasks⟩ := plan_asks h hkeys
      have hopens : l.Opens p x s K (distinct K) parents children s₁ := ⟨hfetch, hK, hfirst, hasks⟩
      obtain ⟨key, rest, hcons⟩ := List.exists_cons_of_ne_nil hkeys
      simp only [Work.bind, hcons] at hopens ⊢
      exact loadKeys_goes hopens

/-! ## Runs to the end -/

theorem Opens.unique {K' keys' : List Literal} {parents' children' : Statement} {s₁' : σ}
    (h : l.Opens p x s K keys parents children s₁)
    (h' : l.Opens p x s K' keys' parents' children' s₁') :
    keys = keys' ∧ parents = parents' ∧ children = children' ∧ s₁ = s₁' := by
  have hfetched := h.fetched.symm.trans h'.fetched
  simp only [Prod.mk.injEq, Except.ok.injEq] at hfetched
  obtain ⟨rfl, rfl⟩ := hfetched
  obtain rfl := h.firstSeen.unique h'.firstSeen
  have hparents := h.asks.compiledParents.symm.trans h'.asks.compiledParents
  have hchildren := h.asks.compiledChildren.symm.trans h'.asks.compiledChildren
  exact ⟨rfl, Except.ok.inj hparents, Except.ok.inj hchildren, rfl⟩

theorem Continues.unique {K' keys' : List Literal} {parents' children' : Statement}
    {D D' : List Row} {s₂ s₂' : σ}
    (h : l.Continues p keyColumn x s K keys parents children D s₂)
    (h' : l.Continues p keyColumn x s K' keys' parents' children' D' s₂') :
    keys = keys' ∧ children = children' ∧ D = D' ∧ s₂ = s₂' := by
  obtain ⟨s₁, hopens, hD⟩ := h.opens
  obtain ⟨s₁', hopens', hD'⟩ := h'.opens
  obtain ⟨rfl, rfl, rfl, rfl⟩ := hopens.unique hopens'
  have heq := hD.symm.trans hD'
  simp only [Prod.mk.injEq, Except.ok.injEq] at heq
  exact ⟨rfl, rfl, heq⟩

/-- A load whose reads all succeed merges the rows, or fails at a row of children. -/
theorem Goes.ends {requests : List Work.Request} {result : Except ExecutionError (List Row)}
    {D C : List Row} {s' s₂ s₃ : σ} (h : l.Goes p keyColumn x s requests result s')
    (hcontinues : l.Continues p keyColumn x s K keys parents children D s₂)
    (hchildren : x.fetchAll children s₂ = (.ok C, s₃)) :
    s' = s₃ ∧
      ((∃ rows, result = .ok rows ∧ Merged keyColumn p.recipe.childrenField D C keys rows) ∨
        ∃ row ∈ C, ¬Family row ∧ ∃ e, result = .error e) := by
  obtain ⟨s₁, hopens, hD⟩ := hcontinues.opens
  cases h with
  | keysFailed hfetch => cases hopens.fetched.symm.trans hfetch
  | noKeys hfetch =>
    cases hopens.fetched.symm.trans hfetch
    exact absurd rfl hopens.ne_nil
  | parentsFailed hopens' hfailed =>
    obtain ⟨-, rfl, -, rfl⟩ := hopens.unique hopens'
    cases hD.symm.trans hfailed
  | parentWithoutKey hopens' hD' hrow hbad =>
    obtain ⟨-, rfl, -, rfl⟩ := hopens.unique hopens'
    cases hD.symm.trans hD'
    exact absurd (hcontinues.keyed _ hrow) hbad
  | childrenFailed hcontinues' hfailed =>
    obtain ⟨-, rfl, -, rfl⟩ := hcontinues.unique hcontinues'
    cases hchildren.symm.trans hfailed
  | noFamily hcontinues' hchildren' hrow hbad =>
    obtain ⟨-, rfl, -, rfl⟩ := hcontinues.unique hcontinues'
    cases hchildren.symm.trans hchildren'
    exact ⟨rfl, .inr ⟨_, hrow, hbad, _, rfl⟩⟩
  | merged hcontinues' hchildren' _ hmerged =>
    obtain ⟨rfl, rfl, rfl, rfl⟩ := hcontinues.unique hcontinues'
    cases hchildren.symm.trans hchildren'
    exact ⟨rfl, .inl ⟨_, rfl, hmerged⟩⟩

/-- Without keys nothing more is read. -/
theorem Goes.eq_nil {requests : List Work.Request} {result : Except ExecutionError (List Row)}
    {s' : σ} (h : l.Goes p keyColumn x s requests result s')
    (hfetch : x.fetchKeys p.keysQuery s = (.ok [], s₁)) : result = .ok [] ∧ s' = s₁ := by
  have hclosed : ∀ {K keys : List Literal} {parents children : Statement} {s₁' : σ},
      ¬l.Opens p x s K keys parents children s₁' := by
    intro K keys parents children s₁' hopens
    cases hfetch.symm.trans hopens.fetched
    exact hopens.ne_nil rfl
  cases h with
  | keysFailed hfailed => cases hfetch.symm.trans hfailed
  | noKeys hfetch' =>
    cases hfetch.symm.trans hfetch'
    exact ⟨rfl, rfl⟩
  | parentsFailed hopens => exact absurd hopens hclosed
  | parentWithoutKey hopens => exact absurd hopens hclosed
  | childrenFailed hcontinues =>
    obtain ⟨_, hopens, -⟩ := hcontinues.opens
    exact absurd hopens hclosed
  | noFamily hcontinues =>
    obtain ⟨_, hopens, -⟩ := hcontinues.opens
    exact absurd hopens hclosed
  | merged hcontinues =>
    obtain ⟨_, hopens, -⟩ := hcontinues.opens
    exact absurd hopens hclosed

/-! ## What a load gives -/

/-- The rows of a load serve different keys of the page. -/
theorem Goes.served {requests : List Work.Request} {rows : List Row} {s' : σ}
    (h : l.Goes p keyColumn x s requests (.ok rows) s') :
    ∃ K served, (x.fetchKeys p.keysQuery s).1 = .ok K ∧ served ⊆ K ∧
      (served.map Literal.token).Nodup ∧
        List.Forall₂ (Serves keyColumn p.recipe.childrenField) served rows := by
  cases h with
  | noKeys hfetch => exact ⟨[], [], by rw [hfetch], List.Subset.refl _, List.nodup_nil, .nil⟩
  | merged hcontinues _ _ hmerged =>
    obtain ⟨s₁, hopens, -⟩ := hcontinues.opens
    obtain ⟨served, hsubset, hnodup, hserves⟩ := hmerged.serves hopens.firstSeen
    exact ⟨_, served, by rw [hopens.fetched], hsubset, hnodup, hserves⟩

/-- **A load merges its replies**, in one of the ways of `Goes`. When it gives rows, they serve
different keys of the page, each with an array of children. -/
theorem load_merges {r : Recipe} {payload : Payload String} {o : Override}
    (h : l.plan r payload o = .ok p) (x : Executor σ) (s : σ) :
    ∃ keyColumn, p.keysQuery.outline.columns = [keyColumn] ∧
      l.Goes p keyColumn x s ((l.load p).requests x s) ((l.load p).run x s).1
        ((l.load p).run x s).2 ∧
      ∀ rows, ((l.load p).run x s).1 = .ok rows → ∃ K served,
        (x.fetchKeys p.keysQuery s).1 = .ok K ∧ served ⊆ K ∧ (served.map Literal.token).Nodup ∧
          List.Forall₂ (Serves keyColumn p.recipe.childrenField) served rows := by
  obtain ⟨key, -, hcolumn⟩ := plan_keyColumn h
  have hgoes := load_goes h hcolumn x s
  refine ⟨key.outputName, hcolumn, hgoes, fun rows hrows => ?_⟩
  rw [hrows] at hgoes
  exact hgoes.served

theorem load_merges_sample :
    sample.plan .sample samplePayload sampleScope = .ok samplePlan ∧
      ∃ keyColumn, samplePlan.keysQuery.outline.columns = [keyColumn] ∧
        sample.Goes samplePlan keyColumn .replaying sampleReplies
          ((sample.load samplePlan).requests .replaying sampleReplies)
          ((sample.load samplePlan).run .replaying sampleReplies).1
          ((sample.load samplePlan).run .replaying sampleReplies).2 ∧
        ∀ rows, ((sample.load samplePlan).run .replaying sampleReplies).1 = .ok rows → ∃ K served,
          (Executor.replaying.fetchKeys samplePlan.keysQuery sampleReplies).1 = .ok K ∧ served ⊆ K ∧
            (served.map Literal.token).Nodup ∧
              List.Forall₂ (Serves keyColumn samplePlan.recipe.childrenField) served rows :=
  ⟨plan_sample, load_merges plan_sample .replaying sampleReplies⟩

example : ((sample.load samplePlan).run .replaying sampleReplies).1.toOption.map
    (List.map fun row => (Json.ofKeyed row).text) =
      some ["\x7b\"category_name\":\"new\",\"id\":\"b\",\"items\":[]\x7d",
        "\x7b\"category_name\":null,\"id\":\"a\",\"items\":[1]\x7d"] := by
  decide +kernel

/-! ## What a load cannot fail with -/

/-- The executor answers the request with that error in some state. -/
def Refuses (x : Executor σ) (e : ExecutionError) : Work.Request → Prop
  | .rows st => ∃ s, (x.fetchAll st s).1 = .error e
  | .keys st => ∃ s, (x.fetchKeys st s).1 = .error e
  | .write st => ∃ s, (x.execute st s).1 = .error e

/-- A load that fails does so because its executor does, because a parent has no key or because a row
of children has not the shape of one. -/
theorem Goes.failure {requests : List Work.Request} {e : ExecutionError} {s' : σ}
    (h : l.Goes p keyColumn x s requests (.error e) s') :
    (∃ q ∈ requests, Refuses x e q) ∨
      (e = .rowShape keyColumn ∧ ∃ K keys parents children s₁ D,
        l.Opens p x s K keys parents children s₁ ∧ (x.fetchAll parents s₁).1 = .ok D ∧
        ∃ row ∈ D, ¬HasKey keyColumn row) ∨
      ((e = .rowShape parentKeyColumn ∨ ∃ fault, e = .malformedRow fault) ∧
        ∃ children s₂ C, (x.fetchAll children s₂).1 = .ok C ∧ ∃ row ∈ C, ¬Family row) := by
  cases h with
  | keysFailed hfetch => exact .inl ⟨.keys p.keysQuery, by simp, s, by rw [hfetch]⟩
  | @parentsFailed _ _ parents _ _ s₁ _ _ hparents =>
    exact .inl ⟨.rows parents, by simp, s₁, by rw [hparents]⟩
  | @childrenFailed _ _ _ children _ _ s₂ _ _ hchildren =>
    exact .inl ⟨.rows children, by simp, s₂, by rw [hchildren]⟩
  | parentWithoutKey hopens hparents hrow hbad =>
    exact .inr (.inl ⟨rfl, _, _, _, _, _, _, hopens, by rw [hparents], _, hrow, hbad⟩)
  | noFamily _ hchildren hrow hbad hshape =>
    exact .inr (.inr ⟨hshape, _, _, _, by rw [hchildren], _, hrow, hbad⟩)

/-- The row has all the columns, and its key is not null. -/
structure Complete (columns : List String) (keyColumn : String) (row : Row) : Prop where
  carries : ∀ c ∈ columns, ∃ j, row.find? c = some j
  key : row.find? keyColumn ≠ some .null

theorem Details.hasKey {st : Statement} (h : l.Details p keyColumn keys st) {row : Row}
    (hrow : Complete st.outline.columns keyColumn row) : HasKey keyColumn row := by
  obtain ⟨j, hj⟩ := hrow.carries keyColumn h.keyColumn
  refine ⟨j, hj, ?_⟩
  rintro rfl
  exact hrow.key hj

/-- **A plan is enough.** The later statements are compiled for any keys, and the one for parents is
made as `Details` says. A run fails with a compilation error only if the executor answered with it,
and with a row of the wrong shape only if the executor did, if a parent is incomplete or if a row of
children has not the shape of one. -/
theorem plan_suffices {draft : Draft} (ha : draft.check = .ok l.allowlist) {r : Recipe}
    {payload : Payload String} {o : Override} (h : l.plan r payload o = .ok p) :
    ∃ keyColumn, p.keysQuery.outline.columns = [keyColumn] ∧
      (∀ keys, keys ≠ [] → ∃ parents children,
        l.Asks p keys parents children ∧ l.Details p keyColumn keys parents) ∧
      ∀ {σ : Type} (x : Executor σ) (s : σ),
        (∀ e, ((l.load p).run x s).1 = .error (.compile e) →
          ∃ q ∈ (l.load p).requests x s, Refuses x (.compile e) q) ∧
        ∀ column, ((l.load p).run x s).1 = .error (.rowShape column) →
          (∃ q ∈ (l.load p).requests x s, Refuses x (.rowShape column) q) ∨
          (column = keyColumn ∧ ∃ keys parents s₁ D, l.Details p keyColumn keys parents ∧
            (x.fetchAll parents s₁).1 = .ok D ∧
            ∃ row ∈ D, ¬Complete parents.outline.columns keyColumn row) ∨
          (column = parentKeyColumn ∧ ∃ children s₂ C, (x.fetchAll children s₂).1 = .ok C ∧
            ∃ row ∈ C, ¬Family row) := by
  obtain ⟨key, -, hcolumn⟩ := plan_keyColumn h
  have hdetails : ∀ {keys parents children}, l.Asks p keys parents children → keys ≠ [] →
      l.Details p key.outputName keys parents := by
    intro keys parents children hasks hkeys
    obtain ⟨st, hst, -, hdetails⟩ := plan_parents h hkeys
    rw [hasks.compiledParents, Except.ok.injEq] at hst
    rw [hst]
    exact hdetails ha hcolumn
  refine ⟨key.outputName, hcolumn, fun keys hkeys => ?_,
    fun x s => ⟨fun e he => ?_, fun column he => ?_⟩⟩
  · obtain ⟨parents, children, hasks⟩ := plan_asks h hkeys
    exact ⟨parents, children, hasks, hdetails hasks hkeys⟩
  · have hgoes := load_goes h hcolumn x s
    rw [he] at hgoes
    rcases hgoes.failure with hrefuses | ⟨hshape, -⟩ | ⟨hshape | ⟨fault, hshape⟩, -⟩
    · exact hrefuses
    · cases hshape
    · cases hshape
    · cases hshape
  · have hgoes := load_goes h hcolumn x s
    rw [he] at hgoes
    rcases hgoes.failure with hrefuses | ⟨hshape, K, keys, parents, children, s₁, D, hopens, hD, row,
      hrow, hbad⟩ | ⟨hshape | ⟨fault, hshape⟩, children, s₂, C, hC, row, hrow, hbad⟩
    · exact .inl hrefuses
    · cases hshape
      have hparents := hdetails hopens.asks (hopens.firstSeen.ne_nil hopens.ne_nil)
      exact .inr (.inl ⟨rfl, keys, parents, s₁, D, hparents, hD, row, hrow,
        fun hcomplete => hbad (hparents.hasKey hcomplete)⟩)
    · cases hshape
      exact .inr (.inr ⟨rfl, children, s₂, C, hC, row, hrow, hbad⟩)
    · cases hshape

theorem plan_suffices_sample :
    Draft.sample.check = .ok sample.allowlist ∧
      sample.plan .sample samplePayload sampleScope = .ok samplePlan ∧
      ∃ keyColumn, samplePlan.keysQuery.outline.columns = [keyColumn] ∧
        (∀ keys, keys ≠ [] → ∃ parents children,
          sample.Asks samplePlan keys parents children ∧
            sample.Details samplePlan keyColumn keys parents) ∧
        ∀ {σ : Type} (x : Executor σ) (s : σ),
          (∀ e, ((sample.load samplePlan).run x s).1 = .error (.compile e) →
            ∃ q ∈ (sample.load samplePlan).requests x s, Refuses x (.compile e) q) ∧
          ∀ column, ((sample.load samplePlan).run x s).1 = .error (.rowShape column) →
            (∃ q ∈ (sample.load samplePlan).requests x s, Refuses x (.rowShape column) q) ∨
            (column = keyColumn ∧ ∃ keys parents s₁ D,
              sample.Details samplePlan keyColumn keys parents ∧
              (x.fetchAll parents s₁).1 = .ok D ∧
              ∃ row ∈ D, ¬Complete parents.outline.columns keyColumn row) ∨
            (column = parentKeyColumn ∧ ∃ children s₂ C, (x.fetchAll children s₂).1 = .ok C ∧
              ∃ row ∈ C, ¬Family row) :=
  ⟨Draft.check_sample, plan_sample, plan_suffices (l := sample) Draft.check_sample plan_sample⟩

end Loader

end GuardedQuery
