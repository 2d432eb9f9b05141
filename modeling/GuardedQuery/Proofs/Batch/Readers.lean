import GuardedQuery.Proofs.Batch.Load
import GuardedQuery.Proofs.Database.Keys
import GuardedQuery.Proofs.Database.Replay

/-!
# Loads through either reader of keys

Whether the keys of a page come with typed UUIDs or with their texts, a load makes the same of them.
Keys with the same texts are matched alike (`Merge.distinct_untyped`, `Merge.rows_untyped`), and the
statements for them differ in nothing but the parameters that are UUIDs (`Statement.Alike`). So the two
loads go on alike after the keys, whatever is answered (`Work.Alike`, `Loader.load_alike`). On a
database to which a UUID and its text are the same (`Driver.Untyping`) they come to the same end
(`Loader.load_agrees`).
-/

namespace GuardedQuery

open Template

theorem Literal.untyped_untyped (l : Literal) : l.untyped.untyped = l.untyped := by
  cases l <;> rfl

/-! ## Keys -/

namespace Merge

theorem distinct_untyped (K : List Literal) :
    distinct (K.map Literal.untyped) = (distinct K).map Literal.untyped := by
  induction K with
  | nil => rfl
  | cons key rest ih =>
    have htoken : (fun k => k.token != key.untyped.token) ∘ Literal.untyped =
        fun k => k.token != key.token := by
      funext k
      simp [Literal.token_untyped]
    rw [List.map_cons, distinct, distinct, List.map_cons, ih, List.filter_map, htoken]

theorem rows_untyped (field : String) (parents : Keyed Row) (children : Keyed (List Json))
    (K : List Literal) : rows field parents children (K.map Literal.untyped) =
      rows field parents children K := by
  have hrow : row? field parents children ∘ Literal.untyped = row? field parents children := by
    funext key
    simp [row?, Literal.token_untyped]
  rw [rows, rows, List.filterMap_map, hrow]

end Merge

/-! ## Statements -/

/-- The statements are the same, except that one binds UUIDs where the other binds their texts. -/
structure Statement.Alike (st st' : Statement) : Prop where
  dialect : st.dialect = st'.dialect
  sql : st.sql = st'.sql
  outline : st.outline = st'.outline
  values : st.values.map Literal.untyped = st'.values.map Literal.untyped

/-- Lookups of the same keys are compiled alike. -/
theorem KeyLookup.compile_untyped {a : Allowlist} {d : Dialect} {o : Override}
    {table keyColumn : String} {select : List String} {keys keys' : List Literal} {st : Statement}
    (h : compile a d o ⟨table, keyColumn, select, keys⟩ = .ok st)
    (hkeys : keys.map Literal.untyped = keys'.map Literal.untyped) :
    ∃ st', compile a d o ⟨table, keyColumn, select, keys'⟩ = .ok st' ∧ st.Alike st' := by
  obtain ⟨c, hc, rfl⟩ := compile_ok h
  have hlength : keys.length = keys'.length := by simpa using congrArg List.length hkeys
  obtain ⟨hne, hselect, -⟩ := check_eq_ok.1 hc
  have hne : keys ≠ [] := by simpa using hne
  have hne' : keys' ≠ [] := by
    rintro rfl
    exact hne (List.length_eq_zero_iff.1 hlength)
  have hselect : select ≠ [] := by simpa using hselect
  obtain ⟨x, tested, hx, htested, rfl⟩ := (check_iff hselect hne).1 hc
  have hx' : Finds a o ⟨table, keyColumn, select, keys'⟩ x :=
    ⟨hx.target, hx.key, hx.selection, hx.scope, hx.depth⟩
  have hc' := (check_iff hselect hne').2 ⟨x, tested, hx', htested, rfl⟩
  refine ⟨_, map_eq_ok.2 ⟨_, hc', rfl⟩, ?_⟩
  -- Blanked, the two selects are one, so they are written alike.
  have hblank : Payload.Checked.blank ⟨x.select tested keys, x.selection.keys, x.target.name⟩ =
      Payload.Checked.blank ⟨x.select tested keys', x.selection.keys, x.target.name⟩ := by
    simp only [Payload.Checked.blank, Parts.select, Restriction.blankAll_append, Restriction.among,
      Restriction.blankAll, Restriction.blank, Predicate.blank, Literal.map_blank_eq_iff.2 hlength]
  have hshown := Payload.shown_blank d ⟨x.select tested keys, x.selection.keys, x.target.name⟩
  rw [hblank, Payload.shown_blank] at hshown
  simp only [Payload.shown, Prod.mk.injEq] at hshown
  obtain ⟨hdialect, hsql, houtline, -⟩ := hshown
  refine ⟨hdialect.symm, hsql.symm, houtline.symm, ?_⟩
  rw [Payload.Checked.values_statement, Payload.Checked.values_statement, Parts.select, Parts.select,
    Restriction.literals_among, Restriction.literals_among, List.map_append, List.map_append, hkeys]

/-- The children of the same parents are asked for alike. -/
theorem Relation.compile_untyped {a : Allowlist} {d : Dialect} {r : Relation}
    {keys keys' : List Literal} {st : Statement} (h : compile a d r keys = .ok st)
    (hkeys : keys.map Literal.untyped = keys'.map Literal.untyped) :
    ∃ st', compile a d r keys' = .ok st' ∧ st.Alike st' := by
  obtain ⟨g, f, -, hg, hf, -⟩ := compile_ok h
  have hlength : keys.length = keys'.length := by simpa using congrArg List.length hkeys
  have hne : keys' ≠ [] := by
    rintro rfl
    obtain rfl := List.length_eq_zero_iff.1 hlength
    cases hg
  have hg' := Aggregate.check_keys hg hne
  obtain ⟨-, -, -, -, -, -, -, rfl⟩ := Aggregate.check_ok hg
  unfold compile at h ⊢
  rw [hg, hf] at h
  rw [hg', hf]
  cases h
  -- As above, but an aggregate is blanked as a template.
  have hblank : (g.template f).blank = (Aggregate.template f { g with keys := keys' }).blank := by
    simp only [Aggregate.template, blank_text, blank_append, blank_bindAll,
      Literal.map_blank_eq_iff.2 hlength]
    rfl
  refine ⟨_, rfl, rfl, ?_, rfl, ?_⟩
  · rw [Statement.sql_ofTemplate, Statement.sql_ofTemplate, render, render, ← renderFrom_blank, hblank,
      renderFrom_blank]
  · rw [Statement.values_ofTemplate, Statement.values_ofTemplate, Aggregate.literals_template,
      Aggregate.literals_template, hkeys]

/-! ## Work -/

/-- The works read with alike statements, and for each answer they go on alike or have the same end. -/
inductive Work.Alike {ε α : Type} : Work ε α → Work ε α → Prop
  | done (result : Except ε α) : Alike (.done result) (.done result)
  | fetchAll {st st' : Statement} {next next' : Except ExecutionError (List Row) → Work ε α} :
      st.Alike st' → (∀ answer, Alike (next answer) (next' answer)) →
      Alike (.fetchAll st next) (.fetchAll st' next')

theorem Work.Alike.bind {ε α β : Type} {w w' : Work ε α} {f f' : α → Work ε β} (h : w.Alike w')
    (hf : ∀ a, (f a).Alike (f' a)) : (w.bind f).Alike (w'.bind f') := by
  induction h with
  | done result =>
    cases result with
    | error e => exact .done _
    | ok a => exact hf a
  | fetchAll hst _ ih => exact .fetchAll hst ih

namespace Loader

variable {l : Loader} {r : Recipe} {payload : Payload String} {o : Override} {p : Plan}
  {keyColumn : String}

theorem loadKeys_alike (h : l.plan r payload o = .ok p) {keys keys' : List Literal}
    (hne : keys ≠ []) (hkeys : keys.map Literal.untyped = keys'.map Literal.untyped) :
    (l.loadKeys p keyColumn keys).Alike (l.loadKeys p keyColumn keys') := by
  obtain ⟨parents, children, hasks⟩ := plan_asks h hne
  obtain ⟨parents', hparents', hparents⟩ := KeyLookup.compile_untyped hasks.compiledParents hkeys
  obtain ⟨children', hchildren', hchildren⟩ := Relation.compile_untyped hasks.compiledChildren hkeys
  have hmerge : ∀ ps cs, Merge.rows p.recipe.childrenField ps cs keys =
      Merge.rows p.recipe.childrenField ps cs keys' := by
    intro ps cs
    rw [← Merge.rows_untyped, hkeys, Merge.rows_untyped]
  unfold loadKeys
  rw [hasks.compiledParents, hasks.compiledChildren, detailQuery, childrenQuery, hparents', hchildren']
  dsimp only
  refine Work.Alike.bind (.fetchAll hparents fun answer => .done _) fun ps => ?_
  refine Work.Alike.bind (.fetchAll hchildren fun answer => .done _) fun cs => ?_
  rw [hmerge]
  exact .done _

/-- **After its keys a load goes on alike with either form of them.** Keys that cannot be read end it. -/
theorem load_alike (h : l.plan r payload o = .ok p) :
    ∃ next, l.load p = .fetchKeys p.keysQuery next ∧ (∀ e, next (.error e) = .done (.error e)) ∧
      ∀ K K', KeysAgree (.ok K) (.ok K') → (next (.ok K)).Alike (next (.ok K')) := by
  obtain ⟨key, -, hcolumn⟩ := plan_keyColumn h
  have hkeyColumn : p.keysQuery.keyColumn = .ok key.outputName := by
    rw [Statement.keyColumn, hcolumn]
  unfold load
  rw [hkeyColumn]
  refine ⟨_, rfl, fun e => rfl, ?_⟩
  rintro K _ ⟨⟩
  dsimp only [Work.keys, bind, Work.bind]
  rw [Merge.distinct_untyped]
  cases hkeys : Merge.distinct K with
  | nil => exact .done _
  | cons key rest =>
    have huntyped : (key :: rest).map Literal.untyped =
        ((key :: rest).map Literal.untyped).map Literal.untyped := by
      rw [List.map_map]
      exact List.map_congr_left fun key _ => key.untyped_untyped.symm
    exact loadKeys_alike h (List.cons_ne_nil _ _) huntyped

end Loader

/-! ## Runs -/

/-- Reading rows, the executors answer alike statements alike in states that are alike. -/
def Executor.Alike {σ : Type} (x x' : Executor σ) (R : σ → σ → Prop) : Prop :=
  ∀ {st st' : Statement} {s s' : σ}, st.Alike st' → R s s' →
    (x.fetchAll st s).1 = (x'.fetchAll st' s').1 ∧ R (x.fetchAll st s).2 (x'.fetchAll st' s').2

/-- What reads alike statements comes to one result on executors that answer these alike. -/
theorem Work.Alike.run {ε α σ : Type} {w w' : Work ε α} {x x' : Executor σ} {R : σ → σ → Prop}
    (h : w.Alike w') (hx : x.Alike x' R) {s s' : σ} (hs : R s s') :
    (w.run x s).1 = (w'.run x' s').1 ∧ R (w.run x s).2 (w'.run x' s').2 := by
  induction h generalizing s s' with
  | done result => exact ⟨rfl, hs⟩
  | @fetchAll st st' next next' hst _ ih =>
    obtain ⟨hanswer, hafter⟩ := hx hst hs
    rw [Work.run_fetchAll, Work.run_fetchAll, ← hanswer]
    exact ih _ hafter

/-- To the database a UUID and its text are the same: in states that are alike it gives the same answers
to commands that differ in nothing else. -/
structure Driver.Untyping {σ : Type} (driver : Driver σ) (R : σ → σ → Prop) : Prop where
  refl : ∀ s, R s s
  query : ∀ (sql : String) {values values' : List Literal} {s s' : σ},
    values.map Literal.untyped = values'.map Literal.untyped → R s s' →
    (driver.query ⟨sql, values⟩ s).1 = (driver.query ⟨sql, values'⟩ s').1 ∧
      R (driver.query ⟨sql, values⟩ s).2 (driver.query ⟨sql, values'⟩ s').2

namespace Transaction

variable {σ : Type} {driver : Driver σ} {t : Transaction} {R : σ → σ → Prop}

theorem command_alike {st st' : Statement} (h : st.Alike st') :
    (∃ e, t.command st = .error e ∧ t.command st' = .error e) ∨
      t.command st = .ok ⟨st.sql, st.values⟩ ∧ t.command st' = .ok ⟨st.sql, st'.values⟩ := by
  unfold command Statement.command
  rw [← h.dialect, ← h.sql]
  split_ifs
  · exact .inl ⟨_, rfl, rfl⟩
  · exact .inl ⟨_, rfl, rfl⟩
  · exact .inr ⟨rfl, rfl⟩
  · exact .inl ⟨_, rfl, rfl⟩

theorem executors_alike (hdriver : driver.Untyping R) :
    (t.executor driver).Alike (t.rowExecutor driver) R := by
  intro st st' s s' h hs
  show (t.fetchAll driver st s).1 = (t.fetchAll driver st' s').1 ∧
    R (t.fetchAll driver st s).2 (t.fetchAll driver st' s').2
  unfold fetchAll
  rcases command_alike (t := t) h with ⟨e, hst, hst'⟩ | ⟨hst, hst'⟩
  · rw [hst, hst']
    exact ⟨rfl, hs⟩
  · obtain ⟨hanswer, hafter⟩ := hdriver.query st.sql h.values hs
    rw [hst, hst']
    dsimp only [records]
    rcases hfirst : driver.query ⟨st.sql, st.values⟩ s with ⟨answer, s₁⟩
    rcases hsecond : driver.query ⟨st.sql, st'.values⟩ s' with ⟨answer', s₁'⟩
    rw [hfirst, hsecond] at hanswer hafter
    obtain rfl : answer = answer' := hanswer
    cases answer with
    | error f => exact ⟨rfl, hafter⟩
    | ok rs => exact ⟨by rw [h.outline], hafter⟩

end Transaction

namespace Loader

variable {l : Loader} {r : Recipe} {payload : Payload String} {o : Override} {p : Plan}

/-- **A load tells the client the same with either reader of keys**, if a UUID and its text are the same
to the database. -/
theorem load_agrees {σ : Type} {driver : Driver σ} {R : σ → σ → Prop} (hdriver : driver.Untyping R)
    (t : Transaction) (h : l.plan r payload o = .ok p) (s : σ) :
    ((l.load p).run (t.executor driver) s).1.mapError ExecutionError.toPublic =
        ((l.load p).run (t.rowExecutor driver) s).1.mapError ExecutionError.toPublic ∧
      R ((l.load p).run (t.executor driver) s).2 ((l.load p).run (t.rowExecutor driver) s).2 := by
  obtain ⟨key, -, hcolumn⟩ := plan_keyColumn h
  obtain ⟨next, hload, herror, hnext⟩ := load_alike h
  obtain ⟨hstate, hagree⟩ := t.readers_agree driver hcolumn s
  rw [hload, Work.run_fetchKeys, Work.run_fetchKeys, ← hstate]
  generalize ((t.executor driver).fetchKeys p.keysQuery s).1 = typed at hagree ⊢
  generalize ((t.rowExecutor driver).fetchKeys p.keysQuery s).1 = untyped at hagree ⊢
  cases hagree with
  | keys K =>
    have halike := hnext K _ (.keys K)
    obtain ⟨hresult, hafter⟩ := halike.run (t.executors_alike hdriver) (hdriver.refl _)
    exact ⟨congrArg _ hresult, hafter⟩
  | errors htold =>
    rw [herror, herror]
    exact ⟨congrArg Except.error htold, hdriver.refl _⟩

end Loader

/-! ## Both readers -/

/-- To a replayed database all values are the same: its answers come from the script. -/
theorem Replay.untyping (setup : Setup) :
    (driver setup).Untyping fun r r' => r.script = r'.script ∧ r.severed = r'.severed where
  refl _ := ⟨rfl, rfl⟩
  query := by
    intro sql values values' r r' _ hr
    obtain ⟨hscript, hsevered⟩ := hr
    show (answer setup _ _ r).1 = (answer setup _ _ r').1 ∧
      (answer setup _ _ r).2.script = (answer setup _ _ r').2.script ∧
        (answer setup _ _ r).2.severed = (answer setup _ _ r').2.severed
    cases hr : r.severed with
    | true =>
      rw [answer_severed hr, answer_severed (hsevered ▸ hr)]
      exact ⟨rfl, hscript, hsevered⟩
    | false =>
      have hreply : r.reply 0 = r'.reply 0 := by rw [reply, reply, hscript]
      rw [answer_reached hr, answer_reached (hsevered ▸ hr), hreply]
      exact ⟨rfl, congrArg List.tail hscript, congrArg (Reply.severs setup) hreply⟩

/-- **The readers of keys agree.** Of every answer to a statement with one column they read the same
keys, except that one of them knows UUIDs, or both fail and tell the client the same. Such keys are as
many and have the same tokens, so they merge the same rows; and a load goes on alike with either. -/
theorem Transaction.key_readers_agree {σ : Type} (t : Transaction) (driver : Driver σ) :
    (∀ (st : Statement) (column : String) (s : σ), st.outline.columns = [column] →
      ((t.executor driver).fetchKeys st s).2 = ((t.rowExecutor driver).fetchKeys st s).2 ∧
        KeysAgree ((t.executor driver).fetchKeys st s).1
          ((t.rowExecutor driver).fetchKeys st s).1) ∧
    (∀ K K', KeysAgree (.ok K) (.ok K') → K.length = K'.length ∧
      K.map Literal.token = K'.map Literal.token ∧
      ∀ field parents children, Merge.rows field parents children (Merge.distinct K) =
        Merge.rows field parents children (Merge.distinct K')) ∧
    ∀ (l : Loader) (r : Recipe) (payload : Payload String) (o : Override) (p : Plan),
      l.plan r payload o = .ok p →
      (∃ column next, p.keysQuery.outline.columns = [column] ∧
        l.load p = .fetchKeys p.keysQuery next ∧ (∀ e, next (.error e) = .done (.error e)) ∧
        ∀ K K', KeysAgree (.ok K) (.ok K') → (next (.ok K)).Alike (next (.ok K'))) ∧
      ∀ R : σ → σ → Prop, driver.Untyping R → ∀ s,
        ((l.load p).run (t.executor driver) s).1.mapError ExecutionError.toPublic =
            ((l.load p).run (t.rowExecutor driver) s).1.mapError ExecutionError.toPublic ∧
          R ((l.load p).run (t.executor driver) s).2 ((l.load p).run (t.rowExecutor driver) s).2 := by
  refine ⟨fun st column s h => t.readers_agree driver h s, ?_, fun l r payload o p h => ⟨?_, ?_⟩⟩
  · rintro K _ ⟨⟩
    have htokens : Literal.token ∘ Literal.untyped = Literal.token := funext Literal.token_untyped
    refine ⟨by rw [List.length_map], by rw [List.map_map, htokens], fun field parents children => ?_⟩
    rw [Merge.distinct_untyped, Merge.rows_untyped]
  · obtain ⟨key, -, hcolumn⟩ := Loader.plan_keyColumn h
    obtain ⟨next, hnext⟩ := Loader.load_alike h
    exact ⟨key.outputName, next, hcolumn, hnext⟩
  · intro R hdriver s
    exact Loader.load_agrees hdriver t h s

/-- The sample on PostgreSQL. -/
def Loader.typedSample : Loader := { sample with dialect := .postgres }

def Loader.typedPlan : Plan := { samplePlan with
  keysQuery := { samplePlan.keysQuery with
    dialect := .postgres
    sql := "SELECT i.id FROM items AS i LEFT JOIN categories AS c ON c.id = i.category_id" ++
      " WHERE (i.tenant_id = $1) ORDER BY i.id ASC OFFSET 0 ROWS FETCH NEXT 25 ROWS ONLY" } }

set_option maxRecDepth 4000 in
theorem Loader.plan_typedSample :
    typedSample.plan .sample samplePayload sampleScope = .ok typedPlan := rfl

namespace Replay

def typedSetup : Setup := ⟨.postgres, none, none, none, false⟩

/-- Two keys, one of them twice; the parents, with their keys in the other order; children of one. -/
def typedScript : Replay := .start
  [.result [.ofList [("id", .uuid ⟨1⟩)], .ofList [("id", .uuid ⟨2⟩)], .ofList [("id", .uuid ⟨1⟩)]],
    .result [.ofList [("id", .uuid ⟨2⟩), ("category_name", .null)],
      .ofList [("id", .uuid ⟨1⟩), ("category_name", .text "new")]],
    .result [.ofList [("parent_key", .uuid ⟨1⟩), ("children", .json "[1]")]]]

def typedTransaction : Transaction := ⟨.postgres, .active, true⟩

def typed : Executor Replay := typedTransaction.executor (driver typedSetup)

def untyped : Executor Replay := typedTransaction.rowExecutor (driver typedSetup)

end Replay

open Replay Loader in
/-- The readers give different keys, and the loads serve both parents. -/
theorem Transaction.key_readers_agree_uuid :
    (typed.fetchKeys typedPlan.keysQuery typedScript).1 = .ok [.uuid ⟨1⟩, .uuid ⟨2⟩, .uuid ⟨1⟩] ∧
      (untyped.fetchKeys typedPlan.keysQuery typedScript).1 =
        .ok [.text (Uuid.text ⟨1⟩), .text (Uuid.text ⟨2⟩), .text (Uuid.text ⟨1⟩)] ∧
      KeysAgree (typed.fetchKeys typedPlan.keysQuery typedScript).1
        (untyped.fetchKeys typedPlan.keysQuery typedScript).1 ∧
      ((typedSample.load typedPlan).run typed typedScript).1.mapError ExecutionError.toPublic =
        ((typedSample.load typedPlan).run untyped typedScript).1.mapError ExecutionError.toPublic ∧
      ((typedSample.load typedPlan).run typed typedScript).1.toOption.map List.length = some 2 := by
  obtain ⟨hkeys, -, hloads⟩ := key_readers_agree typedTransaction (driver typedSetup)
  obtain ⟨-, hruns⟩ := hloads _ _ _ _ _ plan_typedSample
  obtain ⟨hrun, -⟩ := hruns _ (untyping typedSetup) typedScript
  exact ⟨rfl, rfl, (hkeys typedPlan.keysQuery "id" typedScript rfl).2, hrun, by decide +kernel⟩

end GuardedQuery
