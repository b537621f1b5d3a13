import Mathlib.Data.List.Basic
import SqlDraft.Number.Digits

/-!
# Writing that can be cancelled

What two things are written as stands in front of two texts. If the wholes are equal, the things and the
texts behind them need not be: a word could go on in the text behind it. They are where that text cannot
continue them.

* `takeWhile_append_of_head`, `dropWhile_append_of_head`: where a run of characters ends.
* `Cancels`: writing that can be cancelled in front of some texts.
* `cancels_word`: a word can be, in front of a text that does not go on with it.
* `Cancels.flatMap`: so can things one behind the other, in front of a text that does not go on with
  another of them.
* `Cancels.clause`: so can the items of a part of a statement, with separators between them; something else
  stands in their place if there are none.
* `decimalDigits_injective`: a number can be told from its digits.
-/

namespace SqlDraft

variable {α : Type} {f : α → List Char} {D : α → Prop} {P Q : List Char → Prop}

/-- What `f` writes for things in `D` can be cancelled in front of texts in `Q`. -/
def Cancels (f : α → List Char) (D : α → Prop) (Q : List Char → Prop) : Prop :=
  ∀ ⦃a b : α⦄ ⦃r s : List Char⦄, D a → D b → Q r → Q s → f a ++ r = f b ++ s → a = b ∧ r = s

/-! ## Runs -/

/-- A run of characters ends where the text behind it does not go on with it. -/
theorem takeWhile_append_of_head {p : Char → Bool} {xs ys : List Char} (hxs : ∀ c ∈ xs, p c = true)
    (hys : ∀ c ∈ ys.head?, p c = false) : (xs ++ ys).takeWhile p = xs := by
  rw [List.takeWhile_append_of_pos hxs]
  cases ys with
  | nil => rw [List.takeWhile_nil, List.append_nil]
  | cons y ys =>
    have hy : ¬p y = true := by rw [hys y rfl]; exact Bool.false_ne_true
    rw [List.takeWhile_cons_of_neg hy, List.append_nil]

theorem dropWhile_append_of_head {p : Char → Bool} {xs ys : List Char} (hxs : ∀ c ∈ xs, p c = true)
    (hys : ∀ c ∈ ys.head?, p c = false) : (xs ++ ys).dropWhile p = ys := by
  rw [List.dropWhile_append_of_pos hxs]
  cases ys with
  | nil => rfl
  | cons y ys => exact List.dropWhile_cons_of_neg (by rw [hys y rfl]; exact Bool.false_ne_true)

/-! ## Words -/

/-- The characters of a name: ASCII letters, digits, underscores and points. -/
def isNameChar (c : Char) : Bool := c.isAlphanum || c == '_' || c == '.'

/-- A text of such characters. -/
def IsWord (s : String) : Prop := ∀ c ∈ s.toList, isNameChar c = true

instance (s : String) : Decidable (IsWord s) :=
  List.decidableBAll (fun c => isNameChar c = true) s.toList

/-- A text that does not go on with a name. -/
def EndsWord (r : List Char) : Prop := ∀ c ∈ r.head?, isNameChar c = false

theorem endsWord_cons {c : Char} (h : isNameChar c = false) (r : List Char) : EndsWord (c :: r) := by
  intro d hd
  rw [List.head?_cons, Option.mem_some_iff] at hd
  exact hd ▸ h

theorem endsWord_append {sep : List Char} (h : sep.head?.any isNameChar = false) (hne : sep ≠ [])
    (r : List Char) : EndsWord (sep ++ r) := by
  cases sep with
  | nil => exact absurd rfl hne
  | cons c cs => exact endsWord_cons h _

theorem takeWhile_append_of_endsWord {s : String} (hs : IsWord s) {r : List Char} (hr : EndsWord r) :
    (s.toList ++ r).takeWhile isNameChar = s.toList :=
  takeWhile_append_of_head hs hr

theorem cancels_word : Cancels String.toList IsWord EndsWord := by
  intro s t r u hs ht hr hu h
  have hst : s.toList = t.toList := by
    rw [← takeWhile_append_of_endsWord hs hr, h, takeWhile_append_of_endsWord ht hu]
  rw [hst] at h
  exact ⟨String.toList_injective hst, List.append_cancel_left h⟩

/-! ## Sequences -/

/-- What holds in front of another thing, and in front of the text behind them all. -/
theorem holds_flatMap_append (hnext : ∀ a r, D a → P (f a ++ r)) (hend : ∀ r, Q r → P r) {xs : List α}
    (hxs : ∀ x ∈ xs, D x) {r : List Char} (hr : Q r) : P (xs.flatMap f ++ r) := by
  cases xs with
  | nil => exact hend r hr
  | cons x xs =>
    rw [List.flatMap_cons, List.append_assoc]
    exact hnext x _ (hxs x List.mem_cons_self)

namespace Cancels

/-- Another thing may stand behind a thing, and the text behind the last thing is not taken for one. -/
theorem flatMap (hf : Cancels f D P) (hnext : ∀ a r, D a → P (f a ++ r)) (hend : ∀ r, Q r → P r)
    (hdone : ∀ a r t, D a → Q r → r ≠ f a ++ t) :
    Cancels (List.flatMap f) (fun xs => ∀ x ∈ xs, D x) Q := by
  intro xs ys r s hxs hys hr hs h
  induction xs generalizing ys with
  | nil =>
    cases ys with
    | nil => exact ⟨rfl, h⟩
    | cons y ys =>
      rw [List.flatMap_cons, List.append_assoc] at h
      exact absurd h (hdone y r _ (hys y List.mem_cons_self) hr)
  | cons x xs ih =>
    obtain ⟨hx, hrest⟩ := List.forall_mem_cons.mp hxs
    cases ys with
    | nil =>
      rw [List.flatMap_cons, List.append_assoc] at h
      exact absurd h.symm (hdone x s _ hx hs)
    | cons y ys =>
      obtain ⟨hy, hrest'⟩ := List.forall_mem_cons.mp hys
      rw [List.flatMap_cons, List.flatMap_cons, List.append_assoc, List.append_assoc] at h
      obtain ⟨hxy, h⟩ := hf hx hy (holds_flatMap_append hnext hend hrest hr)
        (holds_flatMap_append hnext hend hrest' hs) h
      obtain ⟨hsame, h⟩ := ih hrest hrest' h
      exact ⟨by rw [hxy, hsame], h⟩

end Cancels

theorem intercalate_map_cons (sep : List Char) (f : α → List Char) (x : α) (xs : List α) :
    sep.intercalate ((x :: xs).map f) = f x ++ xs.flatMap fun y => sep ++ f y := by
  induction xs generalizing x with
  | nil => simp
  | cons y ys ih =>
    rw [List.map_cons, List.map_cons, List.intercalate_cons_cons, ← List.map_cons, ih,
      List.flatMap_cons, List.append_assoc, List.append_assoc]

/-- The items of a part of a statement: something in front of them, and separators between them.
Something else stands in their place if there are none. -/
def clauseChars (blank head sep : List Char) (f : α → List Char) (xs : List α) : List Char :=
  if xs = [] then blank else head ++ sep.intercalate (xs.map f)

namespace Cancels

/-- Another item may stand behind a separator. The text behind the part is neither taken for a separator
with another item nor, if the part has no items, for a part that has some. -/
theorem clause {blank head sep : List Char} (hf : Cancels f D P)
    (hnext : ∀ a r, D a → P (sep ++ f a ++ r)) (hend : ∀ r, Q r → P r)
    (hdone : ∀ a r t, D a → Q r → r ≠ sep ++ f a ++ t)
    (hblank : ∀ a r t, D a → Q r → blank ++ r ≠ head ++ (f a ++ t)) :
    Cancels (clauseChars blank head sep f) (fun xs => ∀ x ∈ xs, D x) Q := by
  have hrest : Cancels (List.flatMap fun y => sep ++ f y) (fun xs => ∀ x ∈ xs, D x) Q := by
    refine flatMap (fun a b r s ha hb hr hs h => ?_) hnext hend hdone
    rw [List.append_assoc, List.append_assoc] at h
    exact hf ha hb hr hs (List.append_cancel_left h)
  have hcons (x : α) (xs : List α) (r : List Char) : clauseChars blank head sep f (x :: xs) ++ r =
      head ++ (f x ++ ((xs.flatMap fun y => sep ++ f y) ++ r)) := by
    rw [clauseChars, if_neg (List.cons_ne_nil x xs), intercalate_map_cons, List.append_assoc,
      List.append_assoc]
  intro xs ys r s hxs hys hr hs h
  cases xs with
  | nil =>
    cases ys with
    | nil => exact ⟨rfl, List.append_cancel_left h⟩
    | cons y ys =>
      rw [hcons] at h
      exact absurd h (hblank y r _ (hys y List.mem_cons_self) hr)
  | cons x xs =>
    obtain ⟨hx, hothers⟩ := List.forall_mem_cons.mp hxs
    cases ys with
    | nil =>
      rw [hcons] at h
      exact absurd h.symm (hblank x s _ hx hs)
    | cons y ys =>
      obtain ⟨hy, hothers'⟩ := List.forall_mem_cons.mp hys
      rw [hcons, hcons] at h
      obtain ⟨hxy, h⟩ := hf hx hy (holds_flatMap_append hnext hend hothers hr)
        (holds_flatMap_append hnext hend hothers' hs) (List.append_cancel_left h)
      obtain ⟨hsame, h⟩ := hrest hothers hothers' hr hs h
      exact ⟨by rw [hxy, hsame], h⟩

end Cancels

/-! ## Integers -/

theorem decimalDigits_injective {m n : Nat} (h : decimalDigits m = decimalDigits n) : m = n := by
  have hread := congrArg (Nat.ofDigitChars 10 · 0) h
  simpa [decimalDigits, Nat.ofDigitChars_toDigits] using hread

end SqlDraft
