import SqlDraft.Text.Quoted

/-!
# Cutting a text outside of quotes

A reader of a statement finds a part of it between two marks, and cuts the part at separators. A separator
inside of single quotes is none: an odd number of quotes stands before it.

* `behind`, `beforeLast`: the part behind a mark, and the part before the last of its characters.
* `cutOutside`: the pieces between the separators that stand behind an even number of quotes.
* `isSealed`: whether a text has no comma outside of quotes, and closes its quotes.
* `cutOutside_intercalate`: sealed texts with a separator between them are cut into these texts.
* `behind_of_not_mem`, `behind_append_cons`: where the first mark is.
-/

namespace SqlDraft

/-- Whether the character behind `c` is inside of quotes, if `c` is or is not. -/
def insideAfter (inside : Bool) (c : Char) : Bool := inside != (c == singleQuote)

/-- The pieces of a text between the separators that start outside of quotes. The first `skip` characters
belong to a separator that was found. -/
def cutOutside (sep : List Char) : Nat → Bool → List Char → List (List Char)
  | _, _, [] => [[]]
  | skip + 1, inside, c :: cs => cutOutside sep skip (insideAfter inside c) cs
  | 0, inside, c :: cs =>
    if !inside && sep.isPrefixOf (c :: cs) then
      [] :: cutOutside sep (sep.length - 1) (insideAfter inside c) cs
    else (cutOutside sep 0 (insideAfter inside c) cs).modifyHead (c :: ·)

/-- Whether a text has no comma outside of quotes, and closes its quotes. -/
def isSealed : Bool → List Char → Bool
  | inside, [] => !inside
  | inside, c :: cs => (inside || c != ',') && isSealed (insideAfter inside c) cs

/-- The text behind the first mark, empty without one. -/
def behind (mark : List Char) : List Char → List Char
  | [] => []
  | c :: cs => if mark.isPrefixOf (c :: cs) then (c :: cs).drop mark.length else behind mark cs

/-- The text before the last character of a kind. -/
def beforeLast (c : Char) (cs : List Char) : List Char := ((cs.reverse.dropWhile (· != c)).drop 1).reverse

/-! ## Sealed texts -/

theorem isSealed_append {inside : Bool} {cs ds : List Char} (hc : isSealed inside cs = true)
    (hd : isSealed false ds = true) : isSealed inside (cs ++ ds) = true := by
  induction cs generalizing inside with
  | nil =>
    rw [isSealed, Bool.not_eq_true'] at hc
    rwa [hc]
  | cons c cs ih =>
    rw [isSealed, Bool.and_eq_true] at hc
    rw [List.cons_append, isSealed, Bool.and_eq_true]
    exact ⟨hc.1, ih hc.2⟩

/-- Neither a comma nor a quote stands in a bare text. -/
def IsBare (cs : List Char) : Prop := ∀ c ∈ cs, c ≠ ',' ∧ c ≠ singleQuote

instance (cs : List Char) : Decidable (IsBare cs) := List.decidableBAll ..

theorem IsBare.isSealed {cs : List Char} (h : IsBare cs) : isSealed false cs = true := by
  induction cs with
  | nil => rfl
  | cons c cs ih =>
    obtain ⟨hcomma, hquote⟩ := h c List.mem_cons_self
    have hc : insideAfter false c = false := by simpa [insideAfter] using hquote
    rw [SqlDraft.isSealed, hc, ih fun d hd => h d (List.mem_cons_of_mem _ hd)]
    simpa using hcomma

/-! ## Cutting -/

section

variable {rest : List Char}

/-- A separator without quotes is skipped. -/
theorem cutOutside_skip (sep : List Char) {ds : List Char} (h : singleQuote ∉ ds) (inside : Bool)
    (cs : List Char) : cutOutside sep ds.length inside (ds ++ cs) = cutOutside sep 0 inside cs := by
  induction ds with
  | nil => rfl
  | cons d ds ih =>
    have hd := List.ne_of_not_mem_cons h
    have hds := List.not_mem_of_not_mem_cons h
    have hinside : insideAfter inside d = inside := by
      cases inside <;> simp [insideAfter, Ne.symm hd]
    rw [List.length_cons, List.cons_append, cutOutside, hinside, ih hds]

/-- A character of a sealed text is not where it is cut. -/
theorem cutOutside_cons {inside : Bool} {c : Char} {cs : List Char} (h : (inside || c != ',') = true) :
    cutOutside (',' :: rest) 0 inside (c :: cs) =
      (cutOutside (',' :: rest) 0 (insideAfter inside c) cs).modifyHead (c :: ·) := by
  rw [cutOutside, if_neg]
  cases inside with
  | true => simp
  | false =>
    have hc : c ≠ ',' := by simpa using h
    simp [List.isPrefixOf, Ne.symm hc]

theorem cutOutside_sealed {inside : Bool} {cs : List Char} (h : isSealed inside cs = true) :
    cutOutside (',' :: rest) 0 inside cs = [cs] := by
  induction cs generalizing inside with
  | nil => rfl
  | cons c cs ih =>
    rw [isSealed, Bool.and_eq_true] at h
    rw [cutOutside_cons h.1, ih h.2]
    rfl

/-- Behind a sealed text the separator is where it is cut. -/
theorem cutOutside_append (hrest : singleQuote ∉ rest) {inside : Bool} {cs : List Char}
    (h : isSealed inside cs = true) (ds : List Char) :
    cutOutside (',' :: rest) 0 inside (cs ++ (',' :: rest) ++ ds) =
      cs :: cutOutside (',' :: rest) 0 false ds := by
  induction cs generalizing inside with
  | nil =>
    rw [isSealed, Bool.not_eq_true'] at h
    subst h
    have hprefix : List.isPrefixOf (',' :: rest) (',' :: (rest ++ ds)) = true := by simp
    rw [List.nil_append, List.cons_append, cutOutside, hprefix, List.length_cons, Nat.add_sub_cancel]
    have hcomma : insideAfter false ',' = false := by decide
    rw [hcomma, cutOutside_skip _ hrest]
    rfl
  | cons c cs ih =>
    rw [isSealed, Bool.and_eq_true] at h
    rw [List.cons_append, List.cons_append, cutOutside_cons h.1, ih h.2]
    rfl

/-- Sealed texts with a separator between them are cut into these texts. -/
theorem cutOutside_intercalate (hrest : singleQuote ∉ rest) {xs : List (List Char)} (hne : xs ≠ [])
    (h : ∀ x ∈ xs, isSealed false x = true) :
    cutOutside (',' :: rest) 0 false ((',' :: rest).intercalate xs) = xs := by
  induction xs with
  | nil => exact absurd rfl hne
  | cons x xs ih =>
    have hx := h x List.mem_cons_self
    rcases xs with _ | ⟨y, ys⟩
    · rw [List.intercalate_singleton]
      exact cutOutside_sealed hx
    · rw [List.intercalate_cons_cons, cutOutside_append hrest hx,
        ih (List.cons_ne_nil y ys) fun z hz => h z (List.mem_cons_of_mem x hz)]

end

/-! ## Marks -/

@[simp] theorem beforeLast_append_singleton (c : Char) (cs : List Char) : beforeLast c (cs ++ [c]) = cs := by
  simp [beforeLast]

theorem behind_append_self (mark cs : List Char) : behind mark (mark ++ cs) = cs := by
  rcases hm : mark ++ cs with _ | ⟨c, ds⟩
  · rw [(List.append_eq_nil_iff.mp hm).2]
    rfl
  · have hprefix : mark.isPrefixOf (c :: ds) = true := by
      rw [← hm]
      simp
    rw [behind, if_pos hprefix, ← hm, List.drop_left]

/-- A mark does not start in a text without its first character. -/
theorem behind_of_not_mem {m : Char} {mark : List Char} {cs : List Char} (h : m ∉ cs) (ds : List Char) :
    behind (m :: mark) (cs ++ ds) = behind (m :: mark) ds := by
  induction cs with
  | nil => rfl
  | cons c cs ih =>
    have hc := List.ne_of_not_mem_cons h
    have hcs := List.not_mem_of_not_mem_cons h
    rw [List.cons_append, behind, if_neg, ih hcs]
    simp [List.isPrefixOf, hc]

/-- A text with `e` at its end, and nowhere else, is a beginning of another only if it reaches up to the
first `e` of that one. -/
theorem append_singleton_prefix_iff {e : Char} {mark cs : List Char} (hm : e ∉ mark) (hc : e ∉ cs)
    (ds : List Char) : mark ++ [e] <+: cs ++ e :: ds ↔ mark = cs := by
  induction mark generalizing cs with
  | nil =>
    rcases cs with _ | ⟨c, cs⟩
    · simp
    · simp only [List.nil_append, List.cons_append, List.cons_prefix_cons]
      exact ⟨fun h => absurd (h.1 ▸ List.mem_cons_self) hc, nofun⟩
  | cons m mark ih =>
    have hme := List.ne_of_not_mem_cons hm
    have hm := List.not_mem_of_not_mem_cons hm
    rcases cs with _ | ⟨c, cs⟩
    · simp [Ne.symm hme]
    · have hc := List.not_mem_of_not_mem_cons hc
      simp only [List.cons_append, List.cons_prefix_cons, ih hm hc, List.cons.injEq]

/-- A mark whose last character is `e` ends at an `e`: either there, or behind it. -/
theorem behind_append_cons {e : Char} {mark cs : List Char} (hm : e ∉ mark) (hc : e ∉ cs)
    (ds : List Char) :
    behind (mark ++ [e]) (cs ++ e :: ds) =
      if mark <:+ cs then ds else behind (mark ++ [e]) ds := by
  induction cs with
  | nil =>
    rw [List.nil_append, behind]
    simp only [List.isPrefixOf_iff_prefix]
    have hiff := append_singleton_prefix_iff hm hc ds
    rw [List.nil_append] at hiff
    simp only [hiff, List.suffix_nil]
    split
    · rename_i h
      rw [h]
      rfl
    · rfl
  | cons c cs ih =>
    have hiff := append_singleton_prefix_iff hm hc ds
    rw [List.cons_append] at hiff ⊢
    rw [behind]
    simp only [List.isPrefixOf_iff_prefix, hiff, List.suffix_cons_iff,
      ih (List.not_mem_of_not_mem_cons hc)]
    by_cases h : mark = c :: cs
    · simp [h]
    · simp [h]

end SqlDraft
