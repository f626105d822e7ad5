import ComponentDirective.Proofs.QualifiedNames
import ComponentDirective.Session
import Mathlib.Data.List.Perm.Basic
import Mathlib.Data.Set.List

/-!
# Reading the lines of diagnostics back

In the line of a diagnostic a colon stands behind the code, and one behind the site. Neither the name of a declaration
nor its number has a colon in it (`TypeName.colon_not_mem`, `DeclId.colon_not_mem`), so the second colon of a line ends
the site, whatever the message is, and the line determines code, site and message (`Diagnostic.format_inj`). Then the
sorted lines of diagnostics determine the diagnostics, up to their order (`Diagnostic.sortLines_format_eq_iff`).
-/

namespace ComponentDirective

/-- Lists that are cut at their first mark are equal only if the parts before and behind it are. -/
theorem append_mark_inj {α : Type} {x : α} : ∀ {l l' r r' : List α}, x ∉ l → x ∉ l' →
    l ++ x :: r = l' ++ x :: r' → l = l' ∧ r = r'
  | [], [], _, _, _, _, h => ⟨rfl, (List.cons.inj h).2⟩
  | [], a :: l', _, _, _, hl', h => absurd ((List.cons.inj h).1 ▸ List.mem_cons_self) hl'
  | a :: l, [], _, _, hl, _, h => absurd ((List.cons.inj h).1 ▸ List.mem_cons_self) hl
  | a :: l, b :: l', _, _, hl, hl', h => by
    obtain ⟨rfl, hrest⟩ := List.cons.inj h
    obtain ⟨rfl, rfl⟩ := append_mark_inj (mt (List.mem_cons_of_mem _) hl) (mt (List.mem_cons_of_mem _) hl') hrest
    exact ⟨rfl, rfl⟩

/-! ## Sites -/

theorem TypeName.colon_not_mem (t : TypeName) : ':' ∉ t.text.toList := by
  intro hmem
  have hcolon : ¬IsPart ':' := by rw [← isIdentPart_iff]; decide
  rcases t.qualified_text.isPart_or_dot _ hmem with hpart | hdot
  · exact hcolon hpart
  · cases hdot

theorem DeclId.colon_not_mem (id : DeclId) : ':' ∉ id.text.toList := by
  rw [text, String.toList_append, Nat.toList_repr, List.mem_append]
  rintro (hmark | hdigit)
  · revert hmark
    decide
  · have := Nat.isDigit_of_mem_toDigits (by decide) (by decide) hdigit
    revert this
    decide

/-! ## Lines -/

theorem Code.heading_inj {a b : Code} (h : "error " ++ a.text = "error " ++ b.text) : a = b := by
  cases a <;> cases b <;> first | rfl | exact absurd h (by decide)

theorem Code.colon_not_mem_heading (c : Code) : ':' ∉ ("error " ++ c.text).toList := by
  cases c <;> decide

namespace Diagnostic

/-- A diagnostic is attributed, and to a text without a colon. -/
def IsPlaced (d : Diagnostic) : Prop := ∃ site, d.site = some site ∧ ':' ∉ site.toList

theorem toList_format {d : Diagnostic} {site : String} (h : d.site = some site) : d.format.toList =
    ("error " ++ d.code.text).toList ++ ':' :: ' ' :: (site.toList ++ ':' :: ' ' :: d.message.toList) := by
  simp [format, h]

/-- **A line determines its diagnostic.** -/
theorem format_inj {d d' : Diagnostic} (hd : d.IsPlaced) (hd' : d'.IsPlaced) (h : d.format = d'.format) : d = d' := by
  obtain ⟨code, message, _⟩ := d
  obtain ⟨code', message', _⟩ := d'
  obtain ⟨site, rfl, hcolon⟩ := hd
  obtain ⟨site', rfl, hcolon'⟩ := hd'
  have hline := congrArg String.toList h
  rw [toList_format rfl, toList_format rfl] at hline
  obtain ⟨hheading, hrest⟩ := append_mark_inj code.colon_not_mem_heading code'.colon_not_mem_heading hline
  obtain ⟨hsite, hmessage⟩ := append_mark_inj hcolon hcolon' (List.cons.inj hrest).2
  obtain rfl : code = code' := Code.heading_inj (String.toList_inj.1 hheading)
  obtain rfl : site = site' := String.toList_inj.1 hsite
  obtain rfl : message = message' := String.toList_inj.1 (List.cons.inj hmessage).2
  rfl

/-- Lines of diagnostics that are not attributed, or to a text with a colon, can be those of others. -/
example : format ⟨.multipleScopes, "b: c", some "a"⟩ = format ⟨.multipleScopes, "a: b: c", none⟩ ∧
    format ⟨.multipleScopes, "b: c", some "a"⟩ = format ⟨.multipleScopes, "c", some "a: b"⟩ := by decide

end Diagnostic

/-! ## Sorted lines -/

/-- Lines are sorted alike exactly when they are the same lines, each as often. -/
theorem sortLines_eq_iff {lines lines' : List String} : sortLines lines = sortLines lines' ↔ lines.Perm lines' := by
  have hle : ∀ a b : String, (!(b < a)) = true ↔ a ≤ b := fun a b => by
    rw [Bool.not_eq_true', decide_eq_false_iff_not, String.not_lt]
  have hperm : ∀ ls, (sortLines ls).Perm ls := fun ls => List.mergeSort_perm ls _
  have hsorted : ∀ ls, (sortLines ls).Pairwise fun a b => (!(b < a)) = true := by
    refine List.pairwise_mergeSort (fun a b c hab hbc => ?_) fun a b => ?_
    · rw [hle] at hab hbc ⊢
      exact String.le_trans hab hbc
    · rw [Bool.or_eq_true, hle, hle]
      exact String.le_total a b
  constructor
  · intro h
    exact (hperm lines).symm.trans (h ▸ hperm lines')
  · intro h
    refine ((hperm lines).trans (h.trans (hperm lines').symm)).eq_of_pairwise (fun a b _ _ hab hba => ?_)
      (hsorted lines) (hsorted lines')
    exact String.le_antisymm ((hle a b).1 hab) ((hle b a).1 hba)

/-- The sorted lines of diagnostics are the same exactly when the diagnostics are, each as often. -/
theorem Diagnostic.sortLines_format_eq_iff {ds ds' : List Diagnostic} (hds : ∀ d ∈ ds, d.IsPlaced)
    (hds' : ∀ d ∈ ds', d.IsPlaced) : sortLines (ds.map format) = sortLines (ds'.map format) ↔ ds.Perm ds' := by
  rw [sortLines_eq_iff]
  lift ds to List {d : Diagnostic // d.IsPlaced} using hds
  lift ds' to List {d : Diagnostic // d.IsPlaced} using hds'
  have hinj : Function.Injective fun d : {d : Diagnostic // d.IsPlaced} => d.val.format := fun d d' h =>
    Subtype.ext (format_inj d.property d'.property h)
  rw [List.map_map, List.map_map, List.map_perm_map_iff Subtype.val_injective]
  exact List.map_perm_map_iff hinj

end ComponentDirective
