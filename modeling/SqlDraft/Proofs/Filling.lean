import SqlDraft.Proofs.Outcome
import SqlDraft.Template.Fill

/-!
# Filling templates from dictionaries

A directive of a template that is filled from a dictionary takes one value, the one its key finds. What it takes
for a width or a precision is missing then. The other characters of the text are those of the template.

* `Amount.number?`, `Amount.Written`: the numbers that a directive gives itself.
* `Key.Finds`, `Directive.frame`: the value that a directive takes, and the field it writes it into.
* `Directive.fill_dictionary_iff`: what a directive writes of a dictionary.
* `Directive.read_suffix`, `mem_of_char_mem_pieces`: the characters of a template.
-/

namespace SqlDraft

/-! ## Directives of a dictionary -/

namespace Amount

/-- The number of an amount that a directive gives. -/
def number? : Amount → Option Nat
  | given n => some n
  | absent | taken => none

/-- An amount that no value is taken for. -/
def Written (limit : Nat) : Amount → Prop
  | absent => True
  | given n => n ≤ limit
  | taken => False

end Amount

/-- The value that the key of a directive finds in a dictionary. -/
def Key.Finds (k : Key) (e : Value) (next : Option Value) (v : Value) : Prop :=
  k = .absent ∧ next = some v ∨ ∃ key, k = .named key ∧ e.entry key = .ok v

section Dictionary

variable {e v : Value} {next : Option Value} {s : Supply}

theorem Supply.take_dictionary_iff :
    (Supply.dictionary e next).take = .ok (v, s) ↔ next = some v ∧ s = .dictionary e none := by
  cases next with
  | none => exact ⟨nofun, nofun⟩
  | some w =>
    constructor
    · rintro ⟨⟩
      exact ⟨rfl, rfl⟩
    · rintro ⟨⟨⟩, rfl⟩
      rfl

theorem takeInteger_dictionary {i : Int} (h : takeInteger (.dictionary e next) = .ok (i, s)) :
    s = .dictionary e none := by
  obtain ⟨⟨v, s'⟩, htake, h⟩ := bind_eq_ok_iff.mp h
  obtain ⟨-, rfl⟩ := Supply.take_dictionary_iff.mp htake
  split at h <;> cases h
  · rename_i heq
    cases heq
    rfl
  · rename_i heq
    cases heq
    rfl

/-- A width that is taken leaves nothing of a dictionary. -/
theorem widthOf_dictionary {a : Amount} {width : Nat} {left : Bool}
    (h : widthOf a (.dictionary e next) = .ok (width, left, s)) :
    s = .dictionary e none ∧ a = .taken ∨
      a.Written widthLimit ∧ width = a.number?.getD 0 ∧ left = false ∧ s = .dictionary e next := by
  cases a with
  | absent =>
    cases h
    exact .inr ⟨trivial, rfl, rfl, rfl⟩
  | given n =>
    rw [widthOf] at h
    split at h
    · cases h
    · rename_i hn
      cases h
      exact .inr ⟨Nat.not_lt.mp hn, rfl, rfl, rfl⟩
  | taken =>
    obtain ⟨⟨i, s'⟩, htake, h⟩ := bind_eq_ok_iff.mp h
    dsimp only at h
    split at h <;> cases h
    exact .inl ⟨takeInteger_dictionary htake, rfl⟩

theorem precisionOf_dictionary {a : Amount} {precision : Option Nat}
    (h : precisionOf a (.dictionary e next) = .ok (precision, s)) :
    s = .dictionary e none ∧ a = .taken ∨
      a.Written precisionLimit ∧ precision = a.number? ∧ s = .dictionary e next := by
  cases a with
  | absent =>
    cases h
    exact .inr ⟨trivial, rfl, rfl⟩
  | given n =>
    rw [precisionOf] at h
    split at h
    · cases h
    · rename_i hn
      cases h
      exact .inr ⟨Nat.not_lt.mp hn, rfl, rfl⟩
  | taken =>
    obtain ⟨⟨i, s'⟩, htake, h⟩ := bind_eq_ok_iff.mp h
    dsimp only at h
    split at h <;> cases h
    exact .inl ⟨takeInteger_dictionary htake, rfl⟩

/-- Naming a key leaves the value to take, if the key finds one. -/
theorem Supply.name_dictionary {k : Key} (h : Supply.name (.dictionary e next) k = .ok s) :
    ∃ next', s = .dictionary e next' ∧ ∀ v, next' = some v → k.Finds e next v := by
  cases k with
  | absent =>
    cases h
    exact ⟨next, rfl, fun v hv => .inl ⟨rfl, hv⟩⟩
  | unclosed => cases h
  | named key =>
    obtain ⟨w, hw, rfl⟩ := map_eq_ok_iff.mp h
    exact ⟨some w, rfl, fun v hv => .inr ⟨key, rfl, Option.some.inj hv ▸ hw⟩⟩

theorem Key.Finds.name {k : Key} (h : k.Finds e next v) :
    Supply.name (.dictionary e next) k = .ok (.dictionary e (some v)) := by
  obtain ⟨rfl, rfl⟩ | ⟨key, rfl, hentry⟩ := h
  · rfl
  · rw [Supply.name, hentry]
    rfl

theorem Amount.Written.width {a : Amount} (h : a.Written widthLimit) (s : Supply) :
    widthOf a s = .ok (a.number?.getD 0, false, s) := by
  cases a with
  | absent => rfl
  | given n => exact if_neg (Nat.not_lt.mpr h)
  | taken => cases h

theorem Amount.Written.precision {a : Amount} (h : a.Written precisionLimit) (s : Supply) :
    precisionOf a s = .ok (a.number?, s) := by
  cases a with
  | absent => rfl
  | given n => exact if_neg (Nat.not_lt.mpr h)
  | taken => cases h

end Dictionary

/-- How a directive writes that takes no values but the one it writes. -/
def Directive.frame (d : Directive) : Frame := ⟨d.flags, d.width.number?.getD 0, d.precision.number?⟩

/-- What a directive writes of a dictionary: the value its key finds, in a field of its own width and precision. -/
theorem Directive.fill_dictionary_iff {d : Directive} {position : Nat} {e : Value} {next : Option Value}
    {cs : List Char} {s : Supply} :
    d.fill position (.dictionary e next) = .ok (cs, s) ↔
      ∃ v letter c, d.key.Finds e next v ∧ d.width.Written widthLimit ∧ d.precision.Written precisionLimit ∧
        d.conversion = some letter ∧ Conversion.ofChar? letter = some c ∧
          c.write letter d.frame v = .ok cs ∧ s = .dictionary e none := by
  constructor
  · intro h
    obtain ⟨s₁, hname, h₁⟩ := bind_eq_ok_iff.mp h
    obtain ⟨next₁, rfl, hfinds⟩ := Supply.name_dictionary hname
    obtain ⟨⟨width, left, s₂⟩, hwidth, h₂⟩ := bind_eq_ok_iff.mp h₁
    obtain ⟨⟨precision, s₃⟩, hprecision, h₃⟩ := bind_eq_ok_iff.mp h₂
    dsimp only at h₃
    split at h₃
    · cases h₃
    · rename_i letter hconversion
      obtain ⟨⟨v, s₄⟩, htake, h₄⟩ := bind_eq_ok_iff.mp h₃
      dsimp only at h₄ hprecision
      -- A value that was taken for the width or the precision is missing here.
      obtain ⟨rfl, -⟩ | ⟨hw, rfl, rfl, rfl⟩ := widthOf_dictionary hwidth
      · obtain ⟨rfl, -⟩ | ⟨-, -, rfl⟩ := precisionOf_dictionary hprecision <;> cases htake
      · obtain ⟨rfl, -⟩ | ⟨hp, rfl, rfl⟩ := precisionOf_dictionary hprecision
        · cases htake
        · obtain ⟨rfl, rfl⟩ := Supply.take_dictionary_iff.mp htake
          split at h₄
          · cases h₄
          · rename_i c hletter
            obtain ⟨cs', hwrite, h₅⟩ := bind_eq_ok_iff.mp h₄
            cases h₅
            rw [Bool.or_false] at hwrite
            exact ⟨v, letter, c, hfinds v rfl, hw, hp, hconversion, hletter, hwrite, rfl⟩
  · rintro ⟨v, letter, c, hfinds, hwidth, hprecision, hconversion, hletter, hwrite, rfl⟩
    unfold fill
    simp only [hfinds.name, hwidth.width, hprecision.precision, hconversion, hletter, ok_bind, Supply.take,
      Bool.or_false]
    rw [show (⟨{ d.flags with left := d.flags.left }, _, _⟩ : Frame) = d.frame from rfl, hwrite]
    rfl

/-! ## Characters of a template -/

theorem readKey_suffix {depth : Nat} {cs : List Char} {r : List Char × List Char}
    (h : readKey depth cs = some r) : r.2 <:+ cs := by
  fun_induction readKey depth cs generalizing r with
  | case1 => cases h
  | case2 cs =>
    cases h
    exact List.suffix_cons _ _
  | _ =>
    rename_i ih
    obtain ⟨r', hr', rfl⟩ := Option.map_eq_some_iff.mp h
    exact (ih hr').trans (List.suffix_cons _ _)

theorem takeKey_suffix (cs : List Char) : (takeKey cs).2 <:+ cs := by
  unfold takeKey
  split
  · split
    · rename_i h
      exact (readKey_suffix h).trans (List.suffix_cons _ _)
    · exact List.nil_suffix
  · exact List.suffix_rfl

theorem takeAmount_suffix (cs : List Char) : (takeAmount cs).2 <:+ cs := by
  unfold takeAmount
  split
  · exact List.suffix_cons _ _
  · split
    · exact List.suffix_rfl
    · exact List.dropWhile_suffix _

theorem takePrecision_suffix (cs : List Char) : (takePrecision cs).2 <:+ cs := by
  unfold takePrecision
  split
  · rename_i cs
    have hamount := takeAmount_suffix cs
    split
    · rename_i h
      rw [h] at hamount
      exact hamount.trans (List.suffix_cons _ _)
    · exact hamount.trans (List.suffix_cons _ _)
  · exact List.suffix_rfl

theorem dropSize_suffix (cs : List Char) : dropSize cs <:+ cs := by
  unfold dropSize
  split
  · split
    · exact List.suffix_cons _ _
    · exact List.suffix_rfl
  · exact List.suffix_rfl

/-- What follows a directive. -/
theorem Directive.read_suffix (cs : List Char) : (Directive.read cs).2 <:+ cs := by
  have hflags := (List.dropWhile_suffix isFlag).trans (takeKey_suffix cs)
  have hamounts := (takePrecision_suffix _).trans ((takeAmount_suffix _).trans hflags)
  exact (List.tail_suffix _).trans ((dropSize_suffix _).trans hamounts)

/-- The characters among the pieces of a text stand in the text. -/
theorem mem_of_char_mem_piecesOf {length : Nat} {c : Char} {cs : List Char}
    (h : .char c ∈ piecesOf length cs) : c ∈ cs := by
  fun_induction piecesOf length cs with
  | case1 => cases h
  | case2 cs ih =>
    obtain heq | h := List.mem_cons.mp h
    · cases heq
      exact List.mem_cons_self
    · exact List.mem_cons_of_mem _ (List.mem_cons_of_mem _ (ih h))
  | case3 cs _ r _ ih =>
    obtain heq | h := List.mem_cons.mp h
    · cases heq
    · exact List.mem_cons_of_mem _ ((Directive.read_suffix cs).subset (ih h))
  | case4 d cs _ _ ih =>
    obtain heq | h := List.mem_cons.mp h
    · cases heq
      exact List.mem_cons_self
    · exact List.mem_cons_of_mem _ (ih h)

theorem mem_of_char_mem_pieces {template : String} {c : Char} (h : .char c ∈ pieces template) :
    c ∈ template.toList := mem_of_char_mem_piecesOf h

end SqlDraft
