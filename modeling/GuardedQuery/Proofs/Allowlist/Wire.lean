import GuardedQuery.Proofs.Allowlist.Entry
import GuardedQuery.Proofs.Allowlist.Join
import GuardedQuery.Proofs.Allowlist.Sound

/-!
# Allowlists as JSON

An allowlist is written with its entries in normal form. Its check accepts what a check made, and
changes nothing in it (`Draft.check_toDraft`); every draft is read back from its JSON form
(`Draft.ofJson_toJson`). So a checked allowlist is read back as it is (`Allowlist.reads_back`).
-/

namespace GuardedQuery

open Decode

/-! ## Checks -/

namespace Draft

theorem column_entry {text : String} {c : Column} (h : column text = .ok c) :
    column c.entry = .ok c := by
  unfold column at h ⊢
  split at h
  · rename_i hentry
    cases h
    rw [Column.ofEntry?_entry hentry]
  · cases h

theorem columns_entries {entries : List String} {cs : List Column} (h : columns entries = .ok cs) :
    columns (cs.map Column.entry) = .ok cs ∧ cs.length = entries.length := by
  induction entries generalizing cs with
  | nil =>
    cases h
    exact ⟨rfl, rfl⟩
  | cons text rest ih =>
    rw [columns] at h
    split at h
    · cases h
    · cases h
    · rename_i c cs' hc hcs
      cases h
      obtain ⟨hread, hlength⟩ := ih hcs
      rw [List.map_cons, columns, column_entry hc, hread]
      exact ⟨rfl, by rw [List.length_cons, List.length_cons, hlength]⟩

theorem checkTable_entries {name : String} {entries : List String} {cs : List Column}
    (h : checkTable name entries = .ok cs) :
    checkTable name (cs.map Column.entry) = .ok cs := by
  unfold checkTable at h ⊢
  split at h
  · cases h
  · rename_i hname
    split at h
    · cases h
    · rename_i hentries
      obtain ⟨hread, hlength⟩ := columns_entries h
      have hne : ¬(cs.map Column.entry).isEmpty = true := by
        rw [List.isEmpty_iff] at hentries ⊢
        intro hnil
        apply hentries
        apply List.length_eq_zero_iff.1
        rw [← hlength, List.map_eq_nil_iff.1 hnil, List.length_nil]
      rw [if_neg hname, if_neg hne, hread]

theorem checkView_self {tables : Keyed (List Column)} {name : String} {v w : View}
    (h : checkView tables name v = .ok w) : checkView tables name w = .ok w := by
  obtain ⟨rfl, -⟩ := checkView_ok h
  exact h

/-- **What a check made is accepted as it is.** -/
theorem check_toDraft {d : Draft} {a : Allowlist} (h : d.check = .ok a) :
    a.toDraft.check = .ok a := by
  obtain ⟨hdepth, htables, hviews, hmax⟩ := check_ok h
  have htables' : a.toDraft.tables.mapExcept checkTable = .ok a.tables :=
    Keyed.mapExcept_map (f := checkTable) (fun _ _ _ h => checkTable_entries h) htables
  have hviews' : a.views.mapExcept (checkView a.tables) = .ok a.views := by
    have hagain := Keyed.mapExcept_map (f := checkView a.tables) (g := id)
      (fun _ _ _ h => checkView_self h) hviews
    rwa [Keyed.map_id] at hagain
  rw [← hmax] at hdepth
  have hdepth' : ¬ a.toDraft.maxDepth = 0 := hdepth
  rw [check, if_neg hdepth', htables']
  show (a.views.mapExcept (checkView a.tables)).map _ = _
  rw [hviews']
  rfl

/-! ## JSON form -/

theorem member?_toJson (d : Draft) (key : String) :
    d.toJson.member? key =
      if key = "max_condition_depth" then some (.int (.ofUInt64 d.maxDepth))
      else if key = "join_configurations" then some (.ofKeyed (d.views.map fun _ v => v.toJson))
      else if key = "allowed_tables" then
        some (.ofKeyed (d.tables.map fun _ entries => .ofStrings entries))
      else none := by
  show (Keyed.ofList _).find? key = _
  simp only [Keyed.find?_ofList_cons, Keyed.find?_ofList_nil]
  split <;> split <;> split <;> simp_all

theorem ofJson_toJson (d : Draft) : ofJson decoder d.toJson = .ok d := by
  have hreads : shape.Reads d.toJson.member? (d.tables, d.views, d.maxDepth, ()) := by
    refine ⟨?_, ?_, ?_, trivial⟩
    · show Field.Reads _ (d.toJson.member? "allowed_tables") d.tables
      rw [member?_toJson]
      exact ofJson_keyed fun p _ => ofJson_list fun s _ => ofJson_string s
    · show Field.Reads _ (d.toJson.member? "join_configurations") d.views
      rw [member?_toJson]
      exact ofJson_keyed fun p _ => p.2.ofJson_toJson
    · show Field.Reads _ (d.toJson.member? "max_condition_depth") d.maxDepth
      rw [member?_toJson]
      exact ofJson_size d.maxDepth
  have hrecord : ofJson (record "RawQueryConfig" shape) d.toJson =
      .ok (d.tables, d.views, d.maxDepth, ()) := by
    refine ofJson_record "RawQueryConfig" rfl ?_ hreads
    simp [Shape.fieldNames, shape, field]
  exact ofJson_convert hrecord

end Draft

/-- **A checked allowlist is read back from its JSON form.** -/
theorem Allowlist.reads_back {d : Draft} {a : Allowlist} (h : d.check = .ok a) :
    ofJson decoder a.toJson = .ok a := by
  refine refine_eq_ok.2 ⟨a.toDraft, a.toDraft.ofJson_toJson, ?_⟩
  rw [Draft.check_toDraft h]

theorem Allowlist.reads_back_sample :
    Draft.sample.check = .ok sample ∧ ofJson decoder sample.toJson = .ok sample :=
  ⟨Draft.check_sample, reads_back Draft.check_sample⟩

end GuardedQuery
