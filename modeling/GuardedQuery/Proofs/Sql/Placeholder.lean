import GuardedQuery.Proofs.Text.Name
import GuardedQuery.Sql.Template

/-!
# Placeholders in a text

A placeholder is one word (`isWord_placeholder`), made of a marker, which no name holds, and digits.
A template is rendered part by part: `renderFrom_append` says with which number the second part goes
on.
-/

namespace GuardedQuery

open Text

/-- Starts a placeholder in some dialect. -/
def isMarker (c : Char) : Bool := c == '$' || c == '?' || c == '@'

theorem isNameChar_of_isDigit {c : Char} (h : c.isDigit = true) : isNameChar c = true := by
  simp [isNameChar, isIdentifierRest, Char.isAlphanum, h]

theorem isNameChar_of_mem_toDigits {n : Nat} {c : Char} (h : c ∈ Nat.toDigits 10 n) :
    isNameChar c = true :=
  isNameChar_of_isDigit (Nat.isDigit_of_mem_toDigits (by decide) (by decide) h)

theorem isWord_toString (n : Nat) : IsWord (toString n).toList := by
  rw [Nat.toString_eq_repr, Nat.toList_repr]
  exact ⟨Nat.toDigits_ne_nil, fun c hc => isBreak_of_isNameChar (isNameChar_of_mem_toDigits hc)⟩

namespace Dialect

/-- A placeholder is a marker and then digits, or `p` and digits. -/
theorem placeholder_eq (d : Dialect) (i : Nat) :
    ∃ m w, d.placeholder i = m :: w ∧ isMarker m = true ∧ ∀ c ∈ w, isIdentifierRest c = true := by
  have digits : ∀ c ∈ Nat.toDigits 10 i, isIdentifierRest c = true := fun c hc => by
    simp [isIdentifierRest, Char.isAlphanum, Nat.isDigit_of_mem_toDigits (by decide) (by decide) hc]
  cases d
  case postgres => exact ⟨'$', _, rfl, rfl, digits⟩
  case mysql => exact ⟨'?', [], rfl, rfl, by simp⟩
  case sqlite => exact ⟨'?', _, rfl, rfl, digits⟩
  case mssql => exact ⟨'@', _, rfl, rfl, List.forall_mem_cons.2 ⟨rfl, digits⟩⟩

theorem isWord_placeholder (d : Dialect) (i : Nat) : IsWord (d.placeholder i) := by
  obtain ⟨m, w, heq, hm, hw⟩ := d.placeholder_eq i
  rw [heq]
  refine ⟨List.cons_ne_nil m w, List.forall_mem_cons.2 ⟨?_, fun c hc => ?_⟩⟩
  · simp only [isMarker, Bool.or_eq_true, beq_iff_eq] at hm
    rcases hm with (rfl | rfl) | rfl <;> decide
  · exact isBreak_of_isNameChar (isNameChar_of_rest (hw c hc))

end Dialect

namespace Template

@[simp] theorem literals_append (t u : Template) :
    literals (t ++ u) = t.literals ++ u.literals := by
  induction t with
  | nil => rfl
  | cons piece t ih => cases piece <;> simp [literals, ih]

@[simp] theorem literals_text (s : String) (t : Template) : literals (.text s :: t) = t.literals := rfl

@[simp] theorem literals_bind (l : Literal) (t : Template) :
    literals (.bind l :: t) = l :: t.literals := rfl

@[simp] theorem literals_nil : literals [] = [] := rfl

@[simp] theorem renderFrom_nil (d : Dialect) (n : Nat) : renderFrom d n [] = [] := rfl

@[simp] theorem renderFrom_text (d : Dialect) (n : Nat) (s : String) (t : Template) :
    renderFrom d n (.text s :: t) = s.toList ++ renderFrom d n t := rfl

@[simp] theorem renderFrom_bind (d : Dialect) (n : Nat) (l : Literal) (t : Template) :
    renderFrom d n (.bind l :: t) = d.placeholder (n + 1) ++ renderFrom d (n + 1) t := rfl

/-- The second part of a template goes on behind the parameters of the first. -/
theorem renderFrom_append (d : Dialect) (n : Nat) (t u : Template) :
    renderFrom d n (t ++ u) = renderFrom d n t ++ renderFrom d (n + t.literals.length) u := by
  induction t generalizing n with
  | nil => rfl
  | cons piece t ih =>
    cases piece with
    | text s => simp [ih]
    | bind l => simp [ih, Nat.add_assoc, Nat.add_comm]

theorem literals_separated (separator : String) (ts : List Template) :
    (separated separator ts).literals = ts.flatMap literals := by
  induction ts with
  | nil => rfl
  | cons t rest ih =>
    cases rest with
    | nil => simp [separated]
    | cons u rest => simp [separated, ih]

theorem literals_bindAll (ls : List Literal) : (bindAll ls).literals = ls := by
  simp [bindAll, literals_separated, List.flatMap_map]

theorem literals_listed (separator : String) (ss : List String) :
    (listed separator ss).literals = [] := by
  simp [listed, literals_separated, List.flatMap_map]

theorem renderFrom_listed (d : Dialect) (n : Nat) (separator : String) (ss : List String) :
    renderFrom d n (listed separator ss) = (String.intercalate separator ss).toList := by
  induction ss with
  | nil => rfl
  | cons s rest ih =>
    cases rest with
    | nil => simp [listed, separated]
    | cons s' rest =>
      have hcons : listed separator (s :: s' :: rest) =
          .text s :: .text separator :: listed separator (s' :: rest) := rfl
      rw [hcons, renderFrom_text, renderFrom_text, ih, String.intercalate_cons_cons]
      simp

end Template

end GuardedQuery
