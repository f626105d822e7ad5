import ComponentDirective.Report
import Mathlib.Data.List.Basic

/-!
# The grammar of type names

A qualified name is an identifier, or an identifier in front of a dot and a qualified name (`Qualified`). Cutting a text
at its dots recognises this grammar (`isQualified_iff`), and the last piece is the identifier at its end
(`Qualified.exists_last`). A text is read as the name that is left when the blanks at both ends are taken away
(`TypeName.parse_grammar`), so blanks around the names in options change nothing.
-/

namespace ComponentDirective

/-! ## The grammar -/

/-- The characters `A` to `Z`, `a` to `z`, `_` and `$`. -/
def IsStart (c : Char) : Prop := ('A' ≤ c ∧ c ≤ 'Z') ∨ ('a' ≤ c ∧ c ≤ 'z') ∨ c = '_' ∨ c = '$'

def IsPart (c : Char) : Prop := IsStart c ∨ ('0' ≤ c ∧ c ≤ '9')

inductive Identifier : List Char → Prop
  | intro {c : Char} {cs : List Char} : IsStart c → (∀ d ∈ cs, IsPart d) → Identifier (c :: cs)

/-- Identifiers with single dots between them. -/
inductive Qualified : List Char → Prop
  | simple {p : List Char} : Identifier p → Qualified p
  | dotted {p q : List Char} : Identifier p → Qualified q → Qualified (p ++ '.' :: q)

theorem isIdentStart_iff {c : Char} : isIdentStart c = true ↔ IsStart c := by
  have halpha : c.isAlpha = (decide ('A' ≤ c ∧ c ≤ 'Z') || decide ('a' ≤ c) && decide (c ≤ 'z')) := rfl
  simp only [isIdentStart, halpha, IsStart, Bool.or_eq_true, Bool.and_eq_true, decide_eq_true_eq, beq_iff_eq, or_assoc]

theorem isIdentPart_iff {c : Char} : isIdentPart c = true ↔ IsPart c := by
  have hdigit : c.isDigit = (decide ('0' ≤ c) && decide (c ≤ '9')) := rfl
  simp only [isIdentPart, hdigit, IsPart, Bool.or_eq_true, isIdentStart_iff, Bool.and_eq_true, decide_eq_true_eq]

theorem isIdentifier_iff {cs : List Char} : isIdentifier cs = true ↔ Identifier cs := by
  cases cs with
  | nil => constructor <;> intro h <;> cases h
  | cons c cs =>
    simp only [isIdentifier, Bool.and_eq_true, isIdentStart_iff, List.all_eq_true, isIdentPart_iff]
    constructor
    · rintro ⟨hc, hcs⟩
      exact .intro hc hcs
    · rintro ⟨hc, hcs⟩
      exact ⟨hc, hcs⟩

/-- Every character of an identifier is one that may stand inside of it. -/
theorem Identifier.isPart : ∀ {p : List Char}, Identifier p → ∀ c ∈ p, IsPart c
  | _, .intro hc hcs, d, hd => by
    rcases List.mem_cons.1 hd with rfl | hd
    · exact .inl hc
    · exact hcs d hd

theorem Identifier.dot_not_mem {p : List Char} (hp : Identifier p) : '.' ∉ p := fun hmem => by
  have hdot : ¬IsPart '.' := by rw [← isIdentPart_iff]; decide
  exact hdot (hp.isPart _ hmem)

theorem Identifier.segments_append {p : List Char} (hp : Identifier p) (q : List Char) :
    segments (p ++ '.' :: q) = p :: segments q := by
  have happend := segments_intercalate.segments_append_dot (r := q) hp.dot_not_mem
  rwa [List.append_assoc] at happend

/-- Identifiers joined with dots are a qualified name. -/
theorem qualified_intercalate : ∀ {ps : List (List Char)}, ps ≠ [] → (∀ p ∈ ps, Identifier p) →
    Qualified (['.'].intercalate ps)
  | [], h, _ => absurd rfl h
  | [p], _, hp => by
    rw [show ['.'].intercalate [p] = p by simp [List.intercalate]]
    exact .simple (hp p List.mem_cons_self)
  | p :: q :: ps, _, hp => by
    rw [List.intercalate_cons_of_ne_nil (by simp), List.append_assoc]
    exact .dotted (hp p List.mem_cons_self)
      (qualified_intercalate (by simp) fun r hr => hp r (List.mem_cons_of_mem _ hr))

/-- **The pieces between the dots are identifiers exactly in a qualified name.** -/
theorem isQualified_iff {cs : List Char} : isQualified cs = true ↔ Qualified cs := by
  rw [isQualified, List.all_eq_true]
  simp only [isIdentifier_iff]
  constructor
  · intro h
    rw [← intercalate_segments cs]
    exact qualified_intercalate (segments_ne_nil cs) h
  · intro h
    induction h with
    | simple hp =>
      rw [segments_intercalate.segments_of_not_mem hp.dot_not_mem]
      exact List.forall_mem_singleton.2 hp
    | @dotted p q hp _ ih =>
      rw [hp.segments_append]
      exact List.forall_mem_cons.2 ⟨hp, ih⟩

/-- A qualified name ends with its last piece, which is an identifier and stands alone or behind a qualified name. -/
theorem Qualified.exists_last {cs : List Char} (h : Qualified cs) : ∃ last, Identifier last ∧
    (segments cs).getLast? = some last ∧ (cs = last ∨ ∃ p, Qualified p ∧ cs = p ++ '.' :: last) := by
  induction h with
  | @simple p hp =>
    exact ⟨p, hp, by rw [segments_intercalate.segments_of_not_mem hp.dot_not_mem]; rfl, .inl rfl⟩
  | @dotted p q hp _ ih =>
    obtain ⟨last, hlast, hsegments, hq⟩ := ih
    refine ⟨last, hlast, ?_, .inr ?_⟩
    · rw [hp.segments_append, List.getLast?_cons, hsegments]
      rfl
    · rcases hq with rfl | ⟨r, hr, rfl⟩
      · exact ⟨p, .simple hp, rfl⟩
      · exact ⟨p ++ '.' :: r, .dotted hp hr, by simp⟩

/-! ## Blanks around a text -/

namespace Text

/-- A text is what is left of another one when the blanks at both ends are taken away. -/
structure Trims (cs core : List Char) : Prop where
  padded : ∃ u w, cs = u ++ core ++ w ∧ (∀ c ∈ u, isBlank c = true) ∧ ∀ c ∈ w, isBlank c = true
  front : ∀ c ∈ core.head?, isBlank c = false
  back : ∀ c ∈ core.getLast?, isBlank c = false

theorem head?_dropWhile_blank (cs : List Char) : ∀ c ∈ (cs.dropWhile isBlank).head?, isBlank c = false := by
  intro c hc
  have hnot := List.head?_dropWhile_not isBlank cs
  rw [Option.mem_def.1 hc] at hnot
  simpa using hnot

theorem exists_trimEnd_append (cs : List Char) : ∃ w, cs = trimEnd cs ++ w ∧ ∀ c ∈ w, isBlank c = true := by
  refine ⟨(cs.reverse.takeWhile isBlank).reverse, ?_, fun c hc => ?_⟩
  · rw [trimEnd, ← List.reverse_append, List.takeWhile_append_dropWhile, List.reverse_reverse]
  · exact List.all_eq_true.1 List.all_takeWhile c (List.mem_reverse.1 hc)

theorem trims_trimChars (cs : List Char) : Trims cs (trimChars cs) := by
  obtain ⟨w, hw, hblank⟩ := exists_trimEnd_append (cs.dropWhile isBlank)
  refine ⟨⟨cs.takeWhile isBlank, w, ?_, fun c hc => List.all_eq_true.1 List.all_takeWhile c hc, hblank⟩, ?_, ?_⟩
  · rw [trimChars, List.append_assoc, ← hw, List.takeWhile_append_dropWhile]
  · -- what is trimmed at the end has the same first character, if it has one
    intro c hc
    refine head?_dropWhile_blank cs c ?_
    rw [hw, List.head?_append]
    exact Option.mem_def.2 (by rw [← trimChars, Option.mem_def.1 hc]; rfl)
  · intro c hc
    rw [trimChars, trimEnd, List.getLast?_reverse] at hc
    exact head?_dropWhile_blank _ c hc

theorem Trims.trimChars_eq {cs core : List Char} (h : Trims cs core) : trimChars cs = core := by
  obtain ⟨⟨u, w, rfl, hu, hw⟩, hfront, hback⟩ := h
  have hdrop : ∀ {l : List Char}, (∀ c ∈ l.head?, isBlank c = false) → l.dropWhile isBlank = l := by
    intro l hl
    cases l with
    | nil => rfl
    | cons c l => exact List.dropWhile_cons_of_neg (by simp [hl c rfl])
  rw [trimChars_append_blank hw, trimChars_blank_append hu, trimChars, hdrop hfront, trimEnd,
    hdrop (by rwa [List.head?_reverse]), List.reverse_reverse]

theorem trims_iff {s core : String} : Trims s.toList core.toList ↔ core = trim s := by
  rw [← String.toList_inj, trim, String.toList_ofList]
  exact ⟨fun h => h.trimChars_eq.symm, fun h => h ▸ trims_trimChars _⟩

/-- A text of blanks. -/
def IsPadding (s : String) : Prop := ∀ c ∈ s.toList, isBlank c = true

instance (s : String) : Decidable (IsPadding s) := decidable_of_iff (s.toList.all isBlank = true) List.all_eq_true

/-- Texts that differ at most in the blanks around them. -/
def SamePadded (a b : String) : Prop :=
  ∃ core u w u' w', IsPadding u ∧ IsPadding w ∧ IsPadding u' ∧ IsPadding w' ∧ a = u ++ core ++ w ∧ b = u' ++ core ++ w'

theorem trim_padded {u w : String} (hu : IsPadding u) (hw : IsPadding w) (s : String) :
    trim (u ++ s ++ w) = trim s := by
  simp only [trim, String.toList_append]
  rw [trimChars_append_blank hw, trimChars_blank_append hu]

end Text

/-! ## Blanks around a name -/

/-- The characters of identifiers lie between the blanks of ASCII and the other ones. -/
theorem IsPart.not_blank {c : Char} (h : IsPart c) : Text.isBlank c = false := by
  have hrange : 0x20 < c.toNat ∧ c.toNat < 0x85 := by
    have hcode : c.toNat = c.val.toNat := rfl
    simp only [IsPart, IsStart, Char.le_def, UInt32.le_iff_toNat_le] at h
    rcases h with (h | h | rfl | rfl) | h
    · change 65 ≤ c.val.toNat ∧ c.val.toNat ≤ 90 at h
      omega
    · change 97 ≤ c.val.toNat ∧ c.val.toNat ≤ 122 at h
      omega
    · decide
    · decide
    · change 48 ≤ c.val.toNat ∧ c.val.toNat ≤ 57 at h
      omega
  simp [Text.isBlank]
  omega

theorem Qualified.isPart_or_dot {cs : List Char} (h : Qualified cs) : ∀ c ∈ cs, IsPart c ∨ c = '.' := by
  induction h with
  | simple hp => exact fun c hc => .inl (hp.isPart c hc)
  | dotted hp _ ih =>
    intro c hc
    rcases List.mem_append.1 hc with hc | hc
    · exact .inl (hp.isPart c hc)
    · rcases List.mem_cons.1 hc with rfl | hc
      · exact .inr rfl
      · exact ih c hc

theorem Qualified.not_blank {cs : List Char} (h : Qualified cs) : ∀ c ∈ cs, Text.isBlank c = false := by
  intro c hc
  rcases h.isPart_or_dot c hc with hpart | rfl
  · exact hpart.not_blank
  · decide

/-- There is nothing to trim from a qualified name. -/
theorem Qualified.trims {cs : List Char} (h : Qualified cs) : Text.Trims cs cs where
  padded := ⟨[], [], by simp, nofun, nofun⟩
  front c hc := h.not_blank c (List.mem_of_mem_head? hc)
  back c hc := h.not_blank c (List.mem_of_mem_getLast? hc)

namespace TypeName

theorem parse_eq_ok_iff {s : String} {t : TypeName} : parse s = .ok t ↔ Text.Trims s.toList t.text.toList := by
  rw [Text.trims_iff, parse]
  split
  · next hq =>
    obtain ⟨text, qualified⟩ := t
    simp [eq_comm]
  · next hq =>
    refine ⟨nofun, fun ht => absurd t.qualified ?_⟩
    rwa [ht]

theorem parse_eq_error_iff {s : String} {e : ModelError} : parse s = .error e ↔ ∃ text : String,
    Text.Trims s.toList text.toList ∧ ¬Qualified text.toList ∧ e = .malformedTypeName text := by
  simp only [Text.trims_iff, exists_eq_left, ← isQualified_iff, parse]
  split
  · next hq => simp [hq]
  · next hq => simp [hq, eq_comm]

/-- Blanks around a text do not change which name is read, or which text is no name. -/
theorem parse_padded {u w : String} (hu : Text.IsPadding u) (hw : Text.IsPadding w) (s : String) :
    parse (u ++ s ++ w) = parse s := by
  simp only [parse, Text.trim_padded hu hw]

theorem parse_samePadded {a b : String} (h : Text.SamePadded a b) : parse a = parse b := by
  obtain ⟨core, u, w, u', w', hu, hw, hu', hw', rfl, rfl⟩ := h
  rw [parse_padded hu hw, parse_padded hu' hw']

theorem qualified_text (t : TypeName) : Qualified t.text.toList := isQualified_iff.1 t.qualified

/-- A name is read as itself. -/
theorem parse_text (t : TypeName) : parse t.text = .ok t := parse_eq_ok_iff.2 t.qualified_text.trims

/-- The last identifier of a name stands alone, or behind another name and a dot. -/
theorem simple_cases (t : TypeName) : Identifier t.simple.toList ∧
    (t.text = t.simple ∨ ∃ p, parse p.text = .ok p ∧ t.text = p.text ++ "." ++ t.simple) := by
  obtain ⟨last, hlast, hsegments, hcases⟩ := t.qualified_text.exists_last
  have hsimple : t.simple.toList = last := by
    rw [List.getLast?_eq_some_getLast (segments_ne_nil _)] at hsegments
    rw [simple, String.toList_ofList, Option.some.inj hsegments]
  refine ⟨hsimple ▸ hlast, ?_⟩
  rcases hcases with hall | ⟨p, hp, hall⟩
  · exact .inl (String.toList_inj.1 (hall.trans hsimple.symm))
  · refine .inr ⟨⟨String.ofList p, by rw [String.toList_ofList]; exact isQualified_iff.2 hp⟩, parse_text _, ?_⟩
    rw [← String.toList_inj, hall]
    simp [hsimple]

/-- **Which texts are names, and as what they are read.** A text is a name exactly when identifiers with single dots
between them are left after trimming, and the name is what is left; otherwise what is left is reported. So blanks around
a text change nothing, a name is read as itself, and options whose names differ only in such blanks discover and extract
the same. The last identifier of a name has no dot in it; it is the name, or stands behind another name and a dot. -/
theorem parse_grammar :
    (∀ s text : String, (∃ t, parse s = .ok t ∧ t.text = text) ↔
      Text.Trims s.toList text.toList ∧ Qualified text.toList) ∧
    (∀ s e, parse s = .error e ↔ ∃ text : String,
      Text.Trims s.toList text.toList ∧ ¬Qualified text.toList ∧ e = .malformedTypeName text) ∧
    (∀ u s w, Text.IsPadding u → Text.IsPadding w → parse (u ++ s ++ w) = parse s) ∧
    (∀ t : TypeName, parse t.text = .ok t) ∧
    (∀ o o' : Options, Text.SamePadded o.directiveText o'.directiveText → Text.SamePadded o.scopeText o'.scopeText →
      o.warnUnscoped = o'.warnUnscoped → o.parallel = o'.parallel → ∀ h : Host, h.discover o = h.discover o' ∧
        Extractor.ofOptions h o = Extractor.ofOptions h o' ∧
        (∀ requests journal schedule,
          extractAll h o requests journal schedule = extractAll h o' requests journal schedule) ∧
        ∀ schedule, perform h o schedule = perform h o' schedule) ∧
    ∀ t : TypeName, Identifier t.simple.toList ∧ '.' ∉ t.simple.toList ∧
      (t.text = t.simple ∨ ∃ p, parse p.text = .ok p ∧ t.text = p.text ++ "." ++ t.simple) := by
  refine ⟨fun s text => ?_, fun s e => parse_eq_error_iff, fun u s w hu hw => parse_padded hu hw s, parse_text, ?_,
    fun t => ⟨t.simple_cases.1, t.simple_cases.1.dot_not_mem, t.simple_cases.2⟩⟩
  · constructor
    · rintro ⟨t, ht, rfl⟩
      exact ⟨parse_eq_ok_iff.1 ht, t.qualified_text⟩
    · rintro ⟨ht, hq⟩
      exact ⟨⟨text, isQualified_iff.2 hq⟩, parse_eq_ok_iff.2 ht, rfl⟩
  · intro o o' hd hs hw hp h
    have hdirective : o.directive = o'.directive := parse_samePadded hd
    have hscope : o.scopeKind = o'.scopeKind := parse_samePadded hs
    have hdisc : h.discover o = h.discover o' := by simp only [Host.discover, hdirective]
    have hof : Extractor.ofOptions h o = Extractor.ofOptions h o' := by
      simp only [Extractor.ofOptions, hdirective, hscope, hw]
    have hall : ∀ requests journal schedule,
        extractAll h o requests journal schedule = extractAll h o' requests journal schedule := by
      intro requests journal schedule
      simp only [extractAll, hof, hp]
    refine ⟨hdisc, hof, hall, fun schedule => ?_⟩
    simp only [perform, hdisc, hall]

/-- A name between an ideographic space and a line break, and a text that trimming does not make a name. -/
theorem parse_grammar_padded :
    let name : TypeName := ⟨"demo.Outer$1._", by decide⟩
    let padded : Options := { Options.default with scopeText := "\tjavax.inject.Scope\u2028" }
    Text.IsPadding "\u3000" ∧ Text.IsPadding " \n" ∧ parse "\u3000demo.Outer$1._ \n" = .ok name ∧
    parse "\u3000demo..App \n" = .error (.malformedTypeName "demo..App") ∧ name.simple.toList = ['_'] ∧
    (∃ p, parse p.text = .ok p ∧ name.text = p.text ++ "." ++ name.simple) ∧
    Text.SamePadded padded.scopeText Options.default.scopeText ∧
    ∀ h schedule, perform h padded schedule = perform h .default schedule := by
  intro name padded
  obtain ⟨-, -, hpadded, hself, hoptions, hsimple⟩ := parse_grammar
  have hu : Text.IsPadding "\u3000" := by decide
  have hw : Text.IsPadding " \n" := by decide
  have hsame : Text.SamePadded padded.scopeText Options.default.scopeText :=
    ⟨"javax.inject.Scope", "\t", "\u2028", "", "", by decide, by decide, by decide, by decide, rfl, rfl⟩
  have hnone : Text.SamePadded padded.directiveText Options.default.directiveText :=
    ⟨"autodagger.AutoComponent", "", "", "", "", by decide, by decide, by decide, by decide, rfl, rfl⟩
  refine ⟨hu, hw, (hpadded _ name.text _ hu hw).trans (hself name), ?_, by decide, ?_, hsame,
    fun h => (hoptions padded .default hnone hsame rfl rfl h).2.2.2⟩
  · exact (hpadded "\u3000" "demo..App" " \n" hu hw).trans (by decide)
  · obtain ⟨-, -, hall | hbehind⟩ := hsimple name
    · exact absurd hall (by decide)
    · exact hbehind

end TypeName

end ComponentDirective
