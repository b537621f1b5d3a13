import Mathlib.Data.List.Basic
import SqlDraft.Journal.Naming

/-!
# The nearest level

A logger without a level of its own takes that of the nearest logger above it that has one. This is so for
most names: it does not matter which other loggers were asked for, or when.

* `SteadyName`: the names for which it is so.
* `beforeLastPoint?_spec`, `enclosing_eq_of_beforeLastPoint`: what encloses a name, name by name.
* `Levels.nearest`: the nearest level.
* `Levels.Proper`: levels that are not those of the root logger.
* `Levels.effective_eq_nearest`: the level that counts for a steady name is the nearest one.
-/

namespace SqlDraft

/-! ## Steady names -/

/-- A name of which no two points stand side by side, and which no logger encloses that could be above it
at one time and not at another. -/
def SteadyName (name : String) : Prop :=
  ¬['.', '.'] <:+: name.toList ∧
    ∀ cs ∈ enclosing name.toList,
      startsRootName (String.ofList cs) = true → isRootName (String.ofList cs) = true

theorem beforeLastPoint?_spec {cs ds : List Char} (h : beforeLastPoint? cs = some ds) :
    ∃ rest, cs = ds ++ '.' :: rest := by
  unfold beforeLastPoint? at h
  have hsplit := List.takeWhile_append_dropWhile (p := (· != '.')) (l := cs.reverse)
  split at h
  · cases h
  · cases h
  · rename_i c rest _ hdrop
    cases h
    have hpoint : c = '.' := by
      have hne : cs.reverse.dropWhile (· != '.') ≠ [] := by
        rw [hdrop]
        exact List.cons_ne_nil c rest
      have hnot := List.head_dropWhile_not (· != '.') hne
      simpa [hdrop] using hnot
    refine ⟨(cs.reverse.takeWhile (· != '.')).reverse, ?_⟩
    rw [hdrop] at hsplit
    have hreverse := congrArg List.reverse hsplit
    simpa [hpoint] using hreverse.symm

/-- Only the last point of a name counts, so that the character behind it can be left out. -/
theorem beforeLastPoint?_append_singleton {cs : List Char} {c : Char} (h : c ≠ '.') :
    beforeLastPoint? (cs ++ [c]) = beforeLastPoint? cs := by
  unfold beforeLastPoint?
  have hdrop : (c :: cs.reverse).dropWhile (· != '.') = cs.reverse.dropWhile (· != '.') :=
    List.dropWhile_cons_of_pos (bne_iff_ne.mpr h)
  rw [List.reverse_append, List.reverse_singleton, List.singleton_append, hdrop]

theorem enclosing_of_none {cs : List Char} (h : beforeLastPoint? cs = none) : enclosing cs = [] := by
  rw [enclosing]
  split
  · rfl
  · rename_i hsome
    rw [h] at hsome
    cases hsome

theorem enclosing_eq_of_beforeLastPoint {cs ds : List Char} (hcs : ¬['.', '.'] <:+: cs)
    (h : beforeLastPoint? cs = some ds) : enclosing cs = ds :: enclosing ds := by
  have hcons : enclosing cs = ds :: enclosing ds.dropLast := by
    rw [enclosing]
    split
    · rename_i hnone
      rw [h] at hnone
      cases hnone
    · rename_i ds' hsome
      rw [h] at hsome
      cases hsome
      rfl
  rw [hcons]
  congr 1
  obtain ⟨rest, hrest⟩ := beforeLastPoint?_spec h
  rcases List.eq_nil_or_concat' ds with rfl | ⟨init, c, rfl⟩
  · rfl
  · have hc : c ≠ '.' := by
      rintro rfl
      refine hcs ⟨init, rest, ?_⟩
      simp [hrest]
    rw [List.dropLast_concat]
    unfold enclosing
    rw [beforeLastPoint?_append_singleton hc]

/-! ## Enclosing names -/

/-- What encloses a name is shorter, stands at its start, and is enclosed by names that enclose it. -/
theorem mem_enclosing {cs e : List Char} (hcs : ¬['.', '.'] <:+: cs) (he : e ∈ enclosing cs) :
    e.length < cs.length ∧ e <+: cs ∧ ∀ d ∈ enclosing e, d ∈ enclosing cs := by
  induction hn : cs.length using Nat.strongRecOn generalizing cs with
  | ind n ih =>
    cases h : beforeLastPoint? cs with
    | none =>
      rw [enclosing_of_none h] at he
      cases he
    | some ds =>
      obtain ⟨rest, hrest⟩ := beforeLastPoint?_spec h
      have hprefix : ds <+: cs := ⟨_, hrest.symm⟩
      have hlt : ds.length < n := hn ▸ length_beforeLastPoint h
      rw [enclosing_eq_of_beforeLastPoint hcs h] at he ⊢
      rcases List.mem_cons.mp he with rfl | he
      · exact ⟨hlt, hprefix, fun d hd => List.mem_cons_of_mem _ hd⟩
      · have hds : ¬['.', '.'] <:+: ds := fun hi => hcs (hi.trans hprefix.isInfix)
        obtain ⟨hlength, hpre, hmem⟩ := ih ds.length hlt hds he rfl
        refine ⟨Nat.lt_trans hlength hlt, hpre.trans hprefix, fun d hd => ?_⟩
        exact List.mem_cons_of_mem _ (hmem d hd)

theorem SteadyName.of_mem_enclosing {name : String} (h : SteadyName name) {e : List Char}
    (he : e ∈ enclosing name.toList) : SteadyName (String.ofList e) := by
  obtain ⟨-, hpre, hmem⟩ := mem_enclosing h.1 he
  rw [SteadyName, String.toList_ofList]
  exact ⟨fun hi => h.1 (hi.trans hpre.isInfix), fun d hd => h.2 d (hmem d hd)⟩

namespace Levels

variable {ls : Levels} {root : Level}

/-- The first level among those of some loggers, or that of the root logger. -/
def nearest (ls : Levels) (root : Level) : List String → Level
  | [] => root
  | name :: names => if ls.own name ≠ .unset then ls.own name else nearest ls root names

/-- The root logger is not among the other loggers. -/
def Proper (ls : Levels) : Prop := ∀ name, isRootName name = true → ls.lookup name = none

theorem own_of_lookup_eq_none {name : String} (h : ls.lookup name = none) : ls.own name = .unset := by
  rw [own, h]
  rfl

/-- Loggers that were not asked for have no level, so that they can be passed over. -/
theorem find_nearest {cs : List Char} (hcs : ¬['.', '.'] <:+: cs) {p : String → Bool}
    {level : String → Level}
    (hp : ∀ e ∈ enclosing cs, p (String.ofList e) = (ls.lookup (String.ofList e)).isSome)
    (hlevel : ∀ e ∈ enclosing cs,
      level (String.ofList e) = ls.nearest root (String.ofList e :: (enclosing e).map String.ofList)) :
    (match ((enclosing cs).map String.ofList).find? p with
      | some name => level name
      | none => root) = ls.nearest root ((enclosing cs).map String.ofList) := by
  induction hn : cs.length using Nat.strongRecOn generalizing cs with
  | ind n ih =>
    cases h : beforeLastPoint? cs with
    | none =>
      rw [enclosing_of_none h]
      rfl
    | some ds =>
      obtain ⟨rest, hrest⟩ := beforeLastPoint?_spec h
      have hprefix : ds <+: cs := ⟨_, hrest.symm⟩
      have hlt : ds.length < n := hn ▸ length_beforeLastPoint h
      rw [enclosing_eq_of_beforeLastPoint hcs h] at hp hlevel ⊢
      obtain ⟨hpds, hprest⟩ := List.forall_mem_cons.mp hp
      obtain ⟨hlevelds, hlevelrest⟩ := List.forall_mem_cons.mp hlevel
      rw [List.map_cons]
      cases hlookup : ls.lookup (String.ofList ds) with
      | some l =>
        rw [List.find?_cons_of_pos (by rw [hpds, hlookup]; rfl)]
        exact hlevelds
      | none =>
        rw [List.find?_cons_of_neg (by rw [hpds, hlookup]; exact Bool.false_ne_true), nearest,
          own_of_lookup_eq_none hlookup, if_neg (fun hne => hne rfl)]
        exact ih ds.length hlt (fun hi => hcs (hi.trans hprefix.isInfix)) hprest hlevelrest rfl

theorem isAbove_eq (hls : ls.Proper) {name above : String}
    (h : startsRootName above = true → isRootName above = true) :
    ls.isAbove name above = (ls.lookup above).isSome := by
  unfold isAbove
  by_cases hroot : startsRootName above = true
  · have hnone := hls above (h hroot)
    have hbefore : (ls.before name).lookup above = none := by
      rw [List.lookup_eq_none_iff] at hnone ⊢
      exact fun e he => hnone e ((List.takeWhile_prefix _).subset he)
    rw [if_pos hroot, hbefore, hnone]
  · rw [if_neg hroot]

/-- For steady names the nearest level counts. -/
theorem effective_eq_nearest (hls : ls.Proper) {name : String} (h : SteadyName name) :
    ls.effective root name = ls.nearest root (name :: (enclosing name.toList).map String.ofList) := by
  have hwithin (steps : Nat) (name : String) (hsteps : name.length < steps) (h : SteadyName name) :
      ls.effectiveWithin root steps name =
        ls.nearest root (name :: (enclosing name.toList).map String.ofList) := by
    induction steps generalizing name with
    | zero => omega
    | succ steps ih =>
      rw [effectiveWithin, nearest]
      split
      · rfl
      · refine find_nearest h.1 (fun e he => isAbove_eq hls (h.2 e he)) fun e he => ?_
        obtain ⟨hlt, -⟩ := mem_enclosing h.1 he
        have hlength : (String.ofList e).length < steps := by
          rw [String.length_ofList]
          rw [← String.length_toList] at hsteps
          omega
        have hrec := ih (String.ofList e) hlength (h.of_mem_enclosing he)
        rwa [String.toList_ofList] at hrec
  exact hwithin (name.length + 1) name (Nat.lt_succ_self _) h

theorem nearest_congr {ls' : Levels} (h : ∀ name, ls'.own name = ls.own name) (names : List String) :
    ls'.nearest root names = ls.nearest root names := by
  induction names with
  | nil => rfl
  | cons name names ih => rw [nearest, nearest, h, ih]

theorem own_note (ls : Levels) (name other : String) : (ls.note name).own other = ls.own other := by
  unfold note
  split
  · rfl
  · rename_i h
    rw [own_set]
    split
    · rename_i he
      rw [he, own_of_lookup_eq_none (Option.not_isSome_iff_eq_none.mp h)]
    · rfl

theorem Proper.set (h : ls.Proper) {name : String} (hname : isRootName name = false) (l : Level) :
    (ls.set name l).Proper := by
  intro other hother
  rw [lookup_set, if_neg, h other hother]
  rintro rfl
  rw [hother] at hname
  cases hname

theorem Proper.note (h : ls.Proper) {name : String} (hname : isRootName name = false) :
    (ls.note name).Proper := by
  unfold Levels.note
  split
  · exact h
  · exact h.set hname _

end Levels

end SqlDraft
