import Mathlib.Data.List.Basic
import Mathlib.Data.List.Induction
import SqlDraft.Value.Entry

/-!
# Writes under names

A dictionary is written entry by entry, and a name can be written again. What it holds in the end can be
read off the writes: every name stands where it was written first, with what was written last.

* `settled`: the reading.
* `settled_append_singleton`: one more write replaces what is under its name, or comes last.
* `settled_of_nodup`: names that are written once stay as they are.
* `mem_of_mem_settled`: nothing but what was written stands there.
* `head?_settled_cons`: what stands first.
* `settled_map`: what is written under the names does not decide where they stand.
* `Entries.foldl_put_settled`: setting the entries of a dictionary one by one gives the reading.
-/

namespace SqlDraft

variable {α : Type}

/-- The last of the writes under a name. -/
def lastUnder (ws : List (String × α)) (name : String) : Option (String × α) :=
  (ws.filter fun w => w.1 = name).getLast?

/-- What writes under names come to: every name in the place where it was written first, with what was
written under it last. -/
def settled (ws : List (String × α)) : List (String × α) :=
  (ws.map Prod.fst).eraseDups.filterMap (lastUnder ws)

/-! ## The last write -/

theorem lastUnder_append_singleton (ws : List (String × α)) (w : String × α) (name : String) :
    lastUnder (ws ++ [w]) name = if w.1 = name then some w else lastUnder ws name := by
  unfold lastUnder
  rw [List.filter_append]
  split
  · rename_i h
    rw [List.filter_cons_of_pos (by simpa using h), List.filter_nil, List.getLast?_concat]
  · rename_i h
    rw [List.filter_cons_of_neg (by simpa using h), List.filter_nil, List.append_nil]

theorem lastUnder_of_mem {ws : List (String × α)} {name : String} (h : name ∈ ws.map Prod.fst) :
    ∃ a, lastUnder ws name = some (name, a) := by
  obtain ⟨w, hw, rfl⟩ := List.mem_map.mp h
  have hne : (ws.filter fun v => v.1 = w.1) ≠ [] :=
    List.ne_nil_of_mem (List.mem_filter.mpr ⟨hw, by simp⟩)
  have hlast := List.getLast_mem hne
  obtain ⟨-, hn⟩ := List.mem_filter.mp hlast
  refine ⟨((ws.filter fun v => v.1 = w.1).getLast hne).2, ?_⟩
  rw [lastUnder, List.getLast?_eq_some_getLast hne]
  exact congrArg some (Prod.ext (by simpa using hn) rfl)

/-! ## The names -/

theorem eraseDups_append_singleton (ns : List String) (n : String) :
    (ns ++ [n]).eraseDups = ns.eraseDups ++ if n ∈ ns then [] else [n] := by
  rw [List.eraseDups_append, List.cons_removeAll]
  by_cases h : n ∈ ns <;> simp [h, List.eraseDups_cons]

theorem nodup_eraseDups (ns : List String) : ns.eraseDups.Nodup := by
  induction ns using List.reverseRecOn with
  | nil => exact .nil
  | append_singleton ns n ih =>
    rw [eraseDups_append_singleton]
    split
    · rwa [List.append_nil]
    · rename_i h
      refine List.nodup_append.mpr ⟨ih, by simp, fun a ha b hb => ?_⟩
      rintro rfl
      rw [List.mem_singleton.mp hb] at ha
      exact h (List.mem_eraseDups.mp ha)

/-! ## What the writes come to -/

/-- One more write changes nothing but what stands under its name. -/
theorem settled_append_singleton (ws : List (String × α)) (w : String × α) :
    settled (ws ++ [w]) =
      if w.1 ∈ ws.map Prod.fst then
        (settled ws).map fun v => if v.1 = w.1 then w else v
      else settled ws ++ [w] := by
  have hlast := lastUnder_append_singleton ws w
  have hold (n : String) (hn : n ∈ (ws.map Prod.fst).eraseDups) :
      lastUnder (ws ++ [w]) n =
        (lastUnder ws n).map fun v => if v.1 = w.1 then w else v := by
    obtain ⟨a, ha⟩ := lastUnder_of_mem (List.mem_eraseDups.mp hn)
    rw [hlast, ha, Option.map_some]
    by_cases h : w.1 = n
    · simp [h]
    · simp [h, Ne.symm h]
  unfold settled
  rw [List.map_append, List.map_singleton, eraseDups_append_singleton]
  split
  · rw [List.append_nil, List.map_filterMap]
    exact List.filterMap_congr hold
  · rename_i h
    rw [List.filterMap_append, List.filterMap_cons, hlast, if_pos rfl, List.filterMap_nil]
    refine congrArg (· ++ [w]) (List.filterMap_congr fun n hn => ?_)
    rw [hlast, if_neg]
    rintro rfl
    exact h (List.mem_eraseDups.mp hn)

theorem keys_settled (ws : List (String × α)) :
    (settled ws).map Prod.fst = (ws.map Prod.fst).eraseDups := by
  unfold settled
  rw [List.map_filterMap]
  conv => rhs; rw [← List.filterMap_some (l := (ws.map Prod.fst).eraseDups)]
  refine List.filterMap_congr fun n hn => ?_
  obtain ⟨a, ha⟩ := lastUnder_of_mem (List.mem_eraseDups.mp hn)
  rw [ha]; rfl

/-- Names that are written once stay as they are. -/
theorem settled_of_nodup {ws : List (String × α)} (h : (ws.map Prod.fst).Nodup) : settled ws = ws := by
  induction ws using List.reverseRecOn with
  | nil => rfl
  | append_singleton ws w ih =>
    rw [List.map_append, List.map_singleton] at h
    obtain ⟨hws, -, hw⟩ := List.nodup_append.mp h
    rw [settled_append_singleton, if_neg fun hm => hw w.1 hm w.1 (by simp) rfl, ih hws]

/-- What stands under a name was written there. -/
theorem mem_of_mem_settled {ws : List (String × α)} {w : String × α} (h : w ∈ settled ws) : w ∈ ws := by
  obtain ⟨name, -, hlast⟩ := List.mem_filterMap.mp h
  exact List.mem_of_mem_filter (List.mem_of_getLast? hlast)

/-- The name that was written first keeps the first place. -/
theorem head?_settled_cons (w : String × α) (ws : List (String × α)) :
    (settled (w :: ws)).head? = some ((ws.filter fun v => v.1 = w.1).getLastD w) := by
  have hlast : lastUnder (w :: ws) w.1 = some ((ws.filter fun v => v.1 = w.1).getLastD w) := by
    rw [lastUnder, List.filter_cons_of_pos (by simp), List.getLast?_cons, List.getLastD_eq_getLast?]
  rw [settled, List.map_cons, List.eraseDups_cons, List.filterMap_cons_some hlast, List.head?_cons]

/-- Names settle in the same way whatever is written under them. -/
theorem settled_map {β : Type} (f : α → β) (ws : List (String × α)) :
    settled (ws.map fun w => (w.1, f w.2)) = (settled ws).map fun w => (w.1, f w.2) := by
  have hlast (name : String) :
      lastUnder (ws.map fun w => (w.1, f w.2)) name = (lastUnder ws name).map fun w => (w.1, f w.2) := by
    rw [lastUnder, List.filter_map, List.getLast?_map]
    rfl
  rw [settled, settled, List.map_filterMap, List.map_map]
  exact List.filterMap_congr fun name _ => hlast name

/-! ## Dictionaries -/

namespace Entries

/-- Writes as the entries of a dictionary. -/
def ofWrites (f : α → Value) (ws : List (String × α)) : Entries :=
  ws.map fun w => (.text w.1, f w.2)

/-- Setting an entry of a dictionary whose keys are names. -/
theorem put_ofWrites (f : α → Value) (w : String × α) {ws : List (String × α)}
    (h : (ws.map Prod.fst).Nodup) :
    put (.text w.1) (f w.2) (ofWrites f ws) =
      ofWrites f (if w.1 ∈ ws.map Prod.fst then ws.map fun v => if v.1 = w.1 then w else v
        else ws ++ [w]) := by
  induction ws with
  | nil => rfl
  | cons v vs ih =>
    obtain ⟨hv, hvs⟩ := List.nodup_cons.mp h
    by_cases hw : v.1 = w.1
    · have hrest : vs.map (fun u => if u.1 = w.1 then w else u) = vs := by
        conv => rhs; rw [← List.map_id vs]
        refine List.map_congr_left fun u hu => if_neg fun he => hv ?_
        rw [hw, ← he]
        exact List.mem_map_of_mem hu
      rw [List.map_cons, if_pos (by simp [hw]), List.map_cons, if_pos hw, hrest]
      simp [ofWrites, put, hw]
    · have hput : put (.text w.1) (f w.2) (ofWrites f (v :: vs)) =
          (.text v.1, f v.2) :: put (.text w.1) (f w.2) (ofWrites f vs) := by
        simp [ofWrites, put, hw]
      rw [hput, ih hvs]
      by_cases hm : w.1 ∈ vs.map Prod.fst
      · rw [if_pos hm, if_pos (by rw [List.map_cons]; exact List.mem_cons_of_mem _ hm), List.map_cons,
          if_neg hw]
        rfl
      · rw [if_neg hm, if_neg (by rw [List.map_cons, List.mem_cons, not_or]; exact ⟨Ne.symm hw, hm⟩)]
        rfl

/-- Setting entries one by one gives what the writes come to. -/
theorem foldl_put_settled (f : α → Value) (ws vs : List (String × α)) :
    vs.foldl (fun es w => put (.text w.1) (f w.2) es) (ofWrites f (settled ws)) =
      ofWrites f (settled (ws ++ vs)) := by
  induction vs generalizing ws with
  | nil => rw [List.append_nil]; rfl
  | cons w vs ih =>
    have hnodup : ((settled ws).map Prod.fst).Nodup := by
      rw [keys_settled]
      exact nodup_eraseDups _
    have hmem : w.1 ∈ (settled ws).map Prod.fst ↔ w.1 ∈ ws.map Prod.fst := by
      rw [keys_settled]
      exact List.mem_eraseDups
    have hput : put (.text w.1) (f w.2) (ofWrites f (settled ws)) =
        ofWrites f (settled (ws ++ [w])) := by
      rw [put_ofWrites f w hnodup, settled_append_singleton]
      simp only [hmem]
    rw [List.foldl_cons, hput, ih, List.append_assoc, List.singleton_append]

end Entries

end SqlDraft
