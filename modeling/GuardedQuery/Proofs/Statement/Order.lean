import GuardedQuery.Proofs.Statement.Words

/-!
# Where rows are ordered

`orders ls` counts how often `ORDER BY` is written, in any casing. Names may be `order` or `by`, but
what stands between two names of a statement is a link, so the clauses of a select write it nowhere
(`composes_orderless`), an ON text does not either (`orderless_of_isConjunction`), and a select for
SQL Server with a window writes it once, in front of the window (`Select.orders_mssql`).
-/

namespace GuardedQuery

open Text

/-- The lexeme is the word `s`, in any casing. -/
def Text.Lexeme.spells (s : String) : Lexeme → Bool
  | .word w => w.map Char.toUpper == s.toList
  | .mark _ => false

/-- The number of times that `ORDER BY` is written. -/
def orders : List Lexeme → Nat
  | l :: m :: rest => (if l.spells "ORDER" && m.spells "BY" then 1 else 0) + orders (m :: rest)
  | _ => 0

/-- `ORDER BY` is not written in the text. -/
def Orderless (cs : List Char) : Prop := orders (lex cs) = 0

/-! ## Counting -/

theorem orders_cons {l : Lexeme} (h : l.spells "ORDER" = false) (ls : List Lexeme) :
    orders (l :: ls) = orders ls := by
  cases ls with
  | nil => rfl
  | cons m ls => simp [orders, h]

/-- Nothing is written across a cut in front of a lexeme other than `BY`. -/
theorem orders_append {xs ys : List Lexeme} (h : ∀ l ∈ ys.head?, l.spells "BY" = false) :
    orders (xs ++ ys) = orders xs + orders ys := by
  induction xs with
  | nil => simp [orders]
  | cons x xs ih =>
    cases xs with
    | nil =>
      cases ys with
      | nil => rfl
      | cons y ys =>
        have hy : y.spells "BY" = false := h y rfl
        simp [orders, hy]
    | cons x' xs =>
      rw [List.cons_append, List.cons_append, orders, ← List.cons_append, ih, orders]
      omega

/-- Nothing is written across a cut behind a lexeme other than `ORDER`. -/
theorem orders_append_of_last {xs ys : List Lexeme} (h : ∀ l ∈ xs.getLast?, l.spells "ORDER" = false) :
    orders (xs ++ ys) = orders xs + orders ys := by
  induction xs with
  | nil => simp [orders]
  | cons x xs ih =>
    cases xs with
    | nil =>
      have hx : x.spells "ORDER" = false := h x rfl
      rw [List.singleton_append, orders_cons hx]
      simp [orders]
    | cons x' xs =>
      rw [List.cons_append, List.cons_append, orders, ← List.cons_append,
        ih fun l hl => h l (by simpa using hl), orders]
      omega

theorem orders_eq_zero {ls : List Lexeme} (h : ∀ l ∈ ls, l.spells "ORDER" = false) :
    orders ls = 0 := by
  induction ls with
  | nil => rfl
  | cons l ls ih =>
    obtain ⟨hl, hls⟩ := List.forall_mem_cons.1 h
    rw [orders_cons hl, ih hls]

/-! ## Links and names -/

theorem spells_unique {l : Lexeme} {s t : String} (hs : l.spells s = true) (ht : l.spells t = true) :
    s = t := by
  cases l with
  | mark c => cases hs
  | word w =>
    rw [Lexeme.spells, beq_iff_eq] at hs ht
    exact String.toList_inj.1 (hs.symm.trans ht)

theorem spells_of_isLink {l : Lexeme} (h : l.isLink = true) :
    l.spells "ORDER" = false ∧ l.spells "BY" = false := by
  cases l with
  | mark c => exact ⟨rfl, rfl⟩
  | word w =>
    have hlinks : ∀ w ∈ links.map String.toList,
        Lexeme.spells "ORDER" (.word w) = false ∧ Lexeme.spells "BY" (.word w) = false := by decide
    exact hlinks w (List.contains_iff_mem.1 h)

theorem composes_orderless : Composes Orderless where
  links h := orders_eq_zero fun l hl => (spells_of_isLink (List.all_eq_true.1 h l hl)).1
  append := by
    intro xs ys hx hy hopens
    have hhead : ∀ l ∈ (lex ys).head?, l.spells "BY" = false := fun l hl => by
      have hlink := hopens.link
      rw [Option.mem_def.1 hl] at hlink
      exact (spells_of_isLink hlink).2
    rw [Orderless, lex_append hopens.apart, orders_append hhead, hx, hy]
  append_of_closes := by
    intro xs ys hx hy hcloses
    have hlast : ∀ l ∈ (lex xs).getLast?, l.spells "ORDER" = false := fun l hl => by
      have hlink := hcloses.link
      rw [Option.mem_def.1 hl] at hlink
      exact (spells_of_isLink hlink).1
    rw [Orderless, lex_append_of_ends hcloses.ends, orders_append_of_last hlast, hx, hy]

theorem orderless_word {w : List Char} (h : IsWord w) : Orderless w := by
  rw [Orderless, lex_word h]
  rfl

theorem orderless_numeral {w : Window} {s : String} (h : s ∈ w.numerals) : Orderless s.toList := by
  rcases Window.mem_numerals h with rfl | ⟨n, rfl⟩
  · exact orderless_word (by decide)
  · exact orderless_word (isWord_toString n)

theorem Column.Sound.orderless_entry {c : Column} (h : c.Sound) : Orderless c.entry.toList := by
  have hexpression := orderless_word h.expression.isWord
  cases hn : c.aliasName with
  | none => simpa [Column.entry, hn] using hexpression
  | some n =>
    have := composes_orderless.between (s := " AS ".toList) hexpression (by decide)
      (orderless_word (h.aliasName n hn).isWord)
    simpa [Column.entry, hn] using this

/-! ## ON texts -/

theorem lex_blanks {b : List Char} (h : ∀ c ∈ b, isBlank c = true) (cs : List Char) :
    lex (b ++ cs) = lex cs := by
  induction b with
  | nil => rfl
  | cons c b ih =>
    obtain ⟨hc, hb⟩ := List.forall_mem_cons.1 h
    rw [List.cons_append, lex_blank hc, ih hb]

theorem lex_of_consumes {cs rest : List Char} (h : Consumes isBlank cs rest) : lex cs = lex rest := by
  obtain ⟨b, rfl, hb⟩ := h
  exact lex_blanks hb rest

/-- The keyword of a conjunction is a word of its own. -/
theorem keyword?_and {cs rest : List Char} (h : keyword? ['a', 'n', 'd'] cs = some rest) :
    ∃ w, cs = w ++ rest ∧ IsWord w ∧ (Lexeme.word w).spells "AND" = true := by
  have step : ∀ {k : Char} {ks cs : List Char},
      ((caseForms k).all fun c => !isBreak c && c.toUpper == k.toUpper) = true →
        keyword? (k :: ks) cs = some rest →
          ∃ c ds, cs = c :: ds ∧ isBreak c = false ∧ c.toUpper = k.toUpper ∧
            keyword? ks ds = some rest := by
    intro k ks cs hk h
    cases cs with
    | nil => cases h
    | cons c ds =>
      rw [keyword?, Option.ite_none_right_eq_some, List.contains_iff_mem] at h
      obtain ⟨hbreak, hupper⟩ := Bool.and_eq_true_iff.1 (List.all_eq_true.1 hk c h.1)
      exact ⟨c, ds, rfl, by simpa using hbreak, by simpa using hupper, h.2⟩
  obtain ⟨c₁, cs₁, rfl, hbreak₁, hupper₁, h⟩ := step (by decide) h
  obtain ⟨c₂, cs₂, rfl, hbreak₂, hupper₂, h⟩ := step (by decide) h
  obtain ⟨c₃, cs₃, rfl, hbreak₃, hupper₃, h⟩ := step (by decide) h
  cases h
  refine ⟨[c₁, c₂, c₃], rfl, ⟨List.cons_ne_nil _ _, by simp [hbreak₁, hbreak₂, hbreak₃]⟩, ?_⟩
  rw [Lexeme.spells, List.map_cons, List.map_cons, List.map_cons, hupper₁, hupper₂, hupper₃]
  decide

/-- A word with an equality sign is neither `ORDER` nor `BY`. -/
theorem spells_of_mem_equals {w : List Char} (h : '=' ∈ w) {s : String} (hs : '=' ∉ s.toList) :
    (Lexeme.word w).spells s = false := by
  rw [Lexeme.spells, beq_eq_false_iff_ne]
  rintro heq
  refine hs (heq ▸ ?_)
  exact List.mem_map.2 ⟨'=', h, by decide⟩

theorem orders_short {ls : List Lexeme} (h : ls.length ≤ 1) : orders ls = 0 := by
  match ls, h with
  | [], _ => rfl
  | [_], _ => rfl

/-- The word that holds the equality sign may go on with the name behind it. -/
theorem lexFrom_equals {u n b rest : List Char} (hu : '=' ∈ u) (hb : ∀ c ∈ b, isBlank c = true)
    (hn : IsWord n) (hrest : Apart rest) :
    ∃ v ls, lexFrom u (b ++ (n ++ rest)) = .word v :: (ls ++ lex rest) ∧ '=' ∈ v ∧
      ls.length ≤ 1 := by
  have hne : u ≠ [] := List.ne_nil_of_mem hu
  cases b with
  | nil =>
    refine ⟨u ++ n, [], ?_, List.mem_append_left _ hu, Nat.zero_le 1⟩
    rw [List.nil_append, lexFrom_word_append hn.2, lexFrom_of_apart hrest]
    simp [flush, hne]
  | cons c b =>
    refine ⟨u, [.word n], ?_, hu, Nat.le_refl 1⟩
    have hcut : Apart (c :: b ++ (n ++ rest)) := by simp [isBreak, hb c List.mem_cons_self]
    rw [lexFrom_of_apart hcut, lex_blanks hb, lex_word_append hn hrest]
    simp [flush, hne]

/-- The name in front of an equality sign is a word, unless the sign follows at once. -/
theorem lex_equality {m b b' n rest : List Char} (hm : IsWord m) (hb : ∀ c ∈ b, isBlank c = true)
    (hb' : ∀ c ∈ b', isBlank c = true) (hn : IsWord n) (hrest : Apart rest) :
    ∃ ls v ls', lex (m ++ (b ++ '=' :: (b' ++ (n ++ rest)))) =
        ls ++ .word v :: (ls' ++ lex rest) ∧ '=' ∈ v ∧ ls.length ≤ 1 ∧ ls'.length ≤ 1 := by
  cases b with
  | nil =>
    obtain ⟨v, ls, hlex, hv, hls⟩ := lexFrom_equals (u := m ++ ['=']) (by simp) hb' hn hrest
    refine ⟨[], v, ls, ?_, hv, Nat.zero_le 1, hls⟩
    rw [List.nil_append, List.nil_append, ← hlex, lex, lexFrom_word_append hm.2]
    rfl
  | cons c b =>
    obtain ⟨v, ls, hlex, hv, hls⟩ := lexFrom_equals (u := ['=']) (by simp) hb' hn hrest
    refine ⟨[.word m], v, ls, ?_, hv, Nat.le_refl 1, hls⟩
    have hcut : Apart (c :: b ++ '=' :: (b' ++ (n ++ rest))) := by
      simp [isBreak, hb c List.mem_cons_self]
    rw [lex_word_append hm hcut, lex_blanks hb, List.singleton_append, ← hlex]
    rfl

theorem equality?_ok {cs rest : List Char} (h : Join.equality? cs = some rest) :
    ∃ m b b' n, cs = m ++ (b ++ '=' :: (b' ++ (n ++ rest))) ∧ IsWord m ∧
      (∀ c ∈ b, isBlank c = true) ∧ (∀ c ∈ b', isBlank c = true) ∧ IsWord n := by
  have name : ∀ {cs w rest : List Char}, qualifiedName? cs = some (w, rest) →
      IsWord w ∧ cs = w ++ rest := fun h => by
    obtain ⟨hne, hc, heq⟩ := qualifiedName?_ok h
    exact ⟨⟨hne, fun c hw => isBreak_of_isNameChar (hc c hw)⟩, heq⟩
  unfold Join.equality? at h
  simp only [bind, Option.bind_eq_some_iff] at h
  obtain ⟨⟨m, cs₁⟩, h₁, h⟩ := h
  obtain ⟨b, hb₁, hb⟩ := consumes_skipBlanks cs₁
  split at h
  · rename_i cs₂ hequals
    rw [Option.bind_some, Option.bind_eq_some_iff] at h
    obtain ⟨⟨n, cs₃⟩, h₃, h⟩ := h
    obtain ⟨b', hb₂, hb'⟩ := consumes_skipBlanks cs₂
    obtain ⟨hm, rfl⟩ := name h₁
    obtain ⟨hn, hskip⟩ := name h₃
    cases h
    refine ⟨m, b, b', n, ?_, hm, hb, hb', hn⟩
    rw [hequals] at hb₁
    rw [hb₁, ← hskip, ← hb₂]
  · cases h

/-- An equality writes no order if what follows it writes none. -/
theorem orders_equality {cs rest : List Char} (h : Join.equality? cs = some rest) (hrest : Apart rest)
    (hhead : ∀ l ∈ (lex rest).head?, l.spells "BY" = false) : orders (lex cs) = orders (lex rest) := by
  obtain ⟨m, b, b', n, rfl, hm, hb, hb', hn⟩ := equality?_ok h
  obtain ⟨ls, v, ls', hlex, hv, hls, hls'⟩ := lex_equality hm hb hb' hn hrest
  have hby : (Lexeme.word v).spells "BY" = false := spells_of_mem_equals hv (by decide)
  have horder : (Lexeme.word v).spells "ORDER" = false := spells_of_mem_equals hv (by decide)
  rw [hlex, orders_append (by simpa using hby), orders_cons horder, orders_append hhead,
    orders_short hls, orders_short hls', Nat.zero_add, Nat.zero_add]

/-- What follows the first equality of an ON text. -/
theorem orders_conjunctionTail {fuel : Nat} {cs : List Char}
    (h : Join.isConjunctionTail fuel cs = true) :
    Apart cs ∧ (∀ l ∈ (lex cs).head?, l.spells "BY" = false) ∧ orders (lex cs) = 0 := by
  induction fuel generalizing cs with
  | zero => cases h
  | succ fuel ih =>
    rw [Join.isConjunctionTail, Bool.or_eq_true] at h
    have apart : ∀ {cs rest : List Char}, blanks? cs = some rest → Apart cs := by
      rintro (_ | ⟨c, cs⟩) rest h
      · cases h
      · rw [blanks?, Option.ite_none_right_eq_some] at h
        simp [isBreak, h.1]
    rcases h with h | h
    · obtain ⟨b, hcs, hb⟩ := consumes_skipBlanks cs
      rw [List.isEmpty_iff.1 h, List.append_nil] at hcs
      subst hcs
      have hlex : lex cs = [] := by simpa using lex_blanks hb []
      refine ⟨?_, by simp [hlex], by simp [hlex, orders]⟩
      cases cs with
      | nil => exact apart_nil
      | cons c cs => simp [isBreak, hb c List.mem_cons_self]
    · split at h
      · rename_i rest hrest
        simp only [Option.bind_eq_bind, Option.bind_eq_some_iff] at hrest
        obtain ⟨cs₁, h₁, cs₂, h₂, cs₃, h₃, h₄⟩ := hrest
        obtain ⟨hcut, hhead, hzero⟩ := ih h
        obtain ⟨w, rfl, hw, hand⟩ := keyword?_and h₂
        have hlex : lex cs = .word w :: lex cs₃ := by
          rw [lex_of_consumes (consumes_blanks h₁), lex_word_append hw (apart h₃),
            lex_of_consumes (consumes_blanks h₃)]
        have hspells : ∀ s : String, s ≠ "AND" → (Lexeme.word w).spells s = false := fun s hs =>
          Bool.eq_false_iff.2 fun h => hs (spells_unique h hand)
        refine ⟨apart h₁, by simpa [hlex] using hspells "BY" (by decide), ?_⟩
        rw [hlex, orders_cons (hspells "ORDER" (by decide)), orders_equality h₄ hcut hhead, hzero]
      · cases h

/-- **An ON text writes no order**, even on columns of these names. -/
theorem orderless_of_isConjunction {on : String} (h : Join.isConjunction on = true) :
    Orderless on.toList := by
  unfold Join.isConjunction at h
  split at h
  · rename_i rest hrest
    obtain ⟨hcut, hhead, hzero⟩ := orders_conjunctionTail h
    rw [Orderless, lex_of_consumes (consumes_skipBlanks _), orders_equality hrest hcut hhead, hzero]
  · cases h

/-! ## Selects -/

namespace Select

variable {draft : Draft} {a : Allowlist} {o : Override} {table : String} {s : Select}

/-- No order is written in front of the one of the request. -/
theorem orderless_front (ha : draft.check = .ok a) (ho : o.joins = []) (hs : s.Permitted a o table)
    (d : Dialect) : Orderless (s.headText ++ s.whereText d).toList := by
  have hsound := Draft.check_sound ha
  obtain ⟨columns, hcolumns⟩ := hs.known
  have hview := hsound.viewOf hcolumns
  have hname : ∀ {n : String}, IsName n → Orderless n.toList := fun h => orderless_word h.isWord
  have hsource : Orderless (tableText s.source.table s.source.aliasName).toList := by
    rw [hs.source]
    exact composes_orderless.tableText (hname hview.source.table)
      fun n hn => hname (hview.source.aliasName n hn)
  have hjoins : ∀ j ∈ s.joins, Orderless (joinText j).toList ∧ Opens (joinText j).toList := by
    intro j hj
    rw [hs.joins, ho, List.isEmpty_nil, if_pos rfl] at hj
    have hjoin := hview.joins j hj
    have hon : Join.isConjunction j.on = true := by
      cases hv : a.view? table with
      | none => simp [Allowlist.viewOf, hv] at hj
      | some v => exact Draft.check_conjunctions ha hv j (by simpa [Allowlist.viewOf, hv] using hj)
    exact composes_orderless.joinText (hname hjoin.table.table)
      (fun n hn => hname (hjoin.table.aliasName n hn)) (orderless_of_isConjunction hon)
  have hhead := composes_orderless.headText
    (fun c hc => (hsound.permitted (hs.columns c hc)).orderless_entry) hsource hjoins
  have hadmits : Admits Orderless d
      (Restriction.testLiterals (Restriction.testsAll s.restrictions)).length :=
    ⟨composes_orderless, fun i _ => orderless_word (d.isWord_placeholder _)⟩
  have htests : ∀ t ∈ Restriction.testsAll s.restrictions, Orderless t.1.toList := by
    intro t ht
    obtain ⟨c, hc, heq⟩ := hs.tests t ht
    exact heq ▸ hname (hsound.permitted hc).expression
  obtain ⟨hwhere, hopens⟩ := hadmits.whereText htests (Nat.le_refl _)
  rw [String.toList_append]
  exact composes_orderless.append hhead hwhere hopens

/-- The order in front of a window for SQL Server. -/
def serverOrder (s : Select) : String :=
  if s.order.isEmpty then " ORDER BY (SELECT NULL)" else orderText s.order

theorem render_mssql (hwindow : s.window.isWhole = false) : (s.template .mssql).render .mssql =
    s.headText ++ s.whereText .mssql ++ (s.serverOrder ++ s.window.fetchText) := by
  have htail : s.tailText .mssql = s.serverOrder ++ s.window.fetchText := by
    rw [tailText, Window.clause_mssql hwindow, serverOrder]
    cases horder : s.order with
    | nil => rfl
    | cons t rest => simp
  rw [render_template, htail]

/-- **SQL Server's window follows the only order** of the statement. -/
theorem orders_mssql (ha : draft.check = .ok a) (ho : o.joins = []) (hs : s.Permitted a o table) :
    orders (lex (s.headText ++ s.whereText .mssql ++ (s.serverOrder ++ s.window.fetchText)).toList) =
      1 := by
  have hfront := orderless_front ha ho hs .mssql
  have hfetch : Orderless s.window.fetchText.toList ∧ Opens s.window.fetchText.toList := by
    refine ⟨composes_orderless.fetchText fun n => orderless_numeral, ?_⟩
    have hseam : Seam " OFFSET ".toList := by decide
    simp only [Window.fetchText, String.toList_append, List.append_assoc]
    exact hseam.opens _
  -- the terms of the order, behind the two words that introduce it
  obtain ⟨terms, horder, hterms⟩ : ∃ terms : String, s.serverOrder = " ORDER BY " ++ terms ∧
      Orderless terms.toList := by
    unfold serverOrder
    split
    · exact ⟨"(SELECT NULL)", rfl, composes_orderless.links (by decide)⟩
    · rename_i hne
      rw [orderText, if_neg hne]
      refine ⟨_, rfl, composes_orderless.terms fun t ht => ?_⟩
      obtain ⟨c, hc, heq⟩ := hs.order t ht
      exact heq ▸ orderless_word ((Draft.check_sound ha).permitted hc).expression.isWord
  have hrest : Orderless (terms.toList ++ s.window.fetchText.toList) :=
    composes_orderless.append hterms hfetch.1 hfetch.2
  have hlex : lex (s.serverOrder ++ s.window.fetchText).toList =
      .word "ORDER".toList :: .word "BY".toList ::
        lex (terms.toList ++ s.window.fetchText.toList) := by
    rw [horder, String.toList_append, String.toList_append, List.append_assoc,
      lex_append_of_ends (by decide)]
    rfl
  have hapart : Apart (s.serverOrder ++ s.window.fetchText).toList := by
    rw [horder, String.toList_append, String.toList_append, List.append_assoc]
    exact Separates.apart_append (by decide)
  have hby : ∀ ls, orders (.word "BY".toList :: ls) = orders ls := orders_cons (by decide)
  have horder : (Lexeme.word "ORDER".toList).spells "BY" = false := by decide
  rw [String.toList_append, lex_append hapart, hlex, orders_append (by simpa using horder), hfront]
  show 0 + (1 + orders (.word "BY".toList :: _)) = 1
  rw [hby, hrest]

end Select

end GuardedQuery
