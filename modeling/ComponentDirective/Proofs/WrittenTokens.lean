import ComponentDirective.Json.Basic
import ComponentDirective.Proofs.TokenLayouts

/-!
# Texts that write a value

`Json.written` are the tokens of a value, and a text writes the value when it lays these tokens out (`Json.Writes`). The
compact text is one of the texts that do (`Json.writes_render`), and each of them is cut into the tokens of the value
(`Json.tokens_of_writes`). Tokens can be put together in one way only: a value and what stands behind it are known from
the tokens of both (`Json.written_inj`). So different values have different compact texts (`Json.render_inj`).
-/

namespace ComponentDirective.Json

/-! ## The tokens of a value -/

mutual

/-- The tokens of a value. -/
def written : Json → List Token
  | .null => [.null]
  | .bool b => [.flag b]
  | .number n => [.number n]
  | .text s => [.text (.ok s)]
  | .array items => .openArray :: itemsWritten items
  | .object members => .openObject :: membersWritten members

/-- The tokens of the items of an array, with the bracket that closes it. -/
def itemsWritten : List Json → List Token
  | [] => [.closeArray]
  | [v] => written v ++ [.closeArray]
  | v :: w :: rest => written v ++ .comma :: itemsWritten (w :: rest)

/-- The tokens of the members of an object, with the brace that closes it. -/
def membersWritten : List (String × Json) → List Token
  | [] => [.closeObject]
  | [(k, v)] => .text (.ok k) :: .colon :: (written v ++ [.closeObject])
  | (k, v) :: w :: rest => .text (.ok k) :: .colon :: (written v ++ .comma :: membersWritten (w :: rest))

end

/-- The tokens behind an item of an array, from the items that follow. -/
def behindItem : List Json → List Token
  | [] => [.closeArray]
  | v :: vs => .comma :: itemsWritten (v :: vs)

/-- The tokens behind a member of an object, from the members that follow. -/
def behindMember : List (String × Json) → List Token
  | [] => [.closeObject]
  | m :: ms => .comma :: membersWritten (m :: ms)

theorem itemsWritten_cons (v : Json) (vs : List Json) : itemsWritten (v :: vs) = v.written ++ behindItem vs := by
  cases vs <;> rw [itemsWritten, behindItem]

theorem membersWritten_cons (k : String) (v : Json) (ms : List (String × Json)) :
    membersWritten ((k, v) :: ms) = .text (.ok k) :: .colon :: (v.written ++ behindMember ms) := by
  cases ms <;> rw [membersWritten, behindMember]

/-! ## Layouts of a value -/

mutual

/-- **The compact text of a value lays out its tokens.** -/
theorem lays_chars (v : Json) : Lays v.written v.chars := by
  cases v with
  | null => exact lays_single .null
  | bool b =>
    cases b with
    | false => exact lays_single .false
    | true => exact lays_single .true
  | number n => exact lays_single (.number n.spells_chars)
  | text s => exact lays_single (.text (spellsText_escape s.toList))
  | array items => exact (lays_single .openArray).append (lays_itemsChars items)
  | object members => exact (lays_single .openObject).append (lays_membersChars members)

theorem lays_itemsChars (items : List Json) : Lays (itemsWritten items) (itemsChars items ++ [']']) := by
  match items with
  | [] => exact lays_single .closeArray
  | [v] => exact (lays_chars v).append (lays_single .closeArray)
  | v :: w :: items =>
    rw [itemsChars, itemsWritten, List.append_assoc]
    exact (lays_chars v).append ((lays_single .comma).append (lays_itemsChars (w :: items)))

theorem lays_membersChars (members : List (String × Json)) :
    Lays (membersWritten members) (membersChars members ++ ['\x7d']) := by
  have hkey : ∀ k : String, Lays [.text (.ok k), .colon] (quote k.toList ++ [':']) := fun k =>
    (lays_single (.text (spellsText_escape k.toList))).append (lays_single .colon)
  match members with
  | [] => exact lays_single .closeObject
  | [(k, v)] =>
    have h := (hkey k).append ((lays_chars v).append (lays_single .closeObject))
    simpa only [membersChars, membersWritten, List.append_assoc, List.cons_append, List.nil_append] using h
  | (k, v) :: w :: members =>
    have h := (hkey k).append ((lays_chars v).append ((lays_single .comma).append (lays_membersChars (w :: members))))
    simpa only [membersChars, membersWritten, List.append_assoc, List.cons_append, List.nil_append] using h

end

mutual

/-- Each numeral of a value has something behind it that ends it, if the value has. -/
theorem separated_written (v : Json) {ts : List Token} (h : Separated ts) (hends : ∀ t ∈ ts.head?, t.Ends) :
    Separated (v.written ++ ts) := by
  cases v with
  | null | bool b | text s => exact separated_cons nofun h
  | number n => exact separated_cons (fun _ => hends) h
  | array items => exact separated_cons nofun (separated_itemsWritten items h)
  | object members => exact separated_cons nofun (separated_membersWritten members h)

theorem separated_itemsWritten (items : List Json) {ts : List Token} (h : Separated ts) :
    Separated (itemsWritten items ++ ts) := by
  match items with
  | [] => exact separated_cons nofun h
  | [v] =>
    rw [itemsWritten, List.append_assoc]
    exact separated_written v (separated_cons nofun h) fun _ ht => Option.some.inj ht ▸ .closeArray
  | v :: w :: items =>
    rw [itemsWritten, List.append_assoc]
    exact separated_written v (separated_cons nofun (separated_itemsWritten (w :: items) h))
      fun _ ht => Option.some.inj ht ▸ .comma

theorem separated_membersWritten (members : List (String × Json)) {ts : List Token} (h : Separated ts) :
    Separated (membersWritten members ++ ts) := by
  match members with
  | [] => exact separated_cons nofun h
  | [(k, v)] =>
    rw [membersWritten, List.cons_append, List.cons_append, List.append_assoc]
    exact separated_cons nofun (separated_cons nofun (separated_written v (separated_cons nofun h)
      fun _ ht => Option.some.inj ht ▸ .closeObject))
  | (k, v) :: w :: members =>
    rw [membersWritten, List.cons_append, List.cons_append, List.append_assoc]
    exact separated_cons nofun (separated_cons nofun (separated_written v
      (separated_cons nofun (separated_membersWritten (w :: members) h)) fun _ ht => Option.some.inj ht ▸ .comma))

end

/-- A text of JSON for a value, with any white space and any spelling of its tokens. -/
def Writes (v : Json) (s : String) : Prop := Lays v.written s.toList

/-- **A text that writes a value is cut into the tokens of the value.** -/
theorem tokens_of_writes {v : Json} {s : String} (h : v.Writes s) : tokens s.toList = v.written := by
  refine tokens_of_lays h ?_
  rw [← List.append_nil v.written]
  exact separated_written v .nil nofun

/-- The compact text writes its value. -/
theorem writes_render (v : Json) : v.Writes v.render := by
  rw [Writes, render, String.toList_ofList]
  exact lays_chars v

/-! ## Unique readability -/

/-- No value starts with the end of an array. -/
theorem written_append_ne_closeArray (v : Json) (r s : List Token) : v.written ++ r ≠ .closeArray :: s := by
  intro h
  cases v <;> cases (List.cons.inj h).1

mutual

/-- **Tokens can be put together in one way only.** A value and what stands behind it are known from their tokens. -/
theorem written_inj (v w : Json) {r s : List Token} (h : v.written ++ r = w.written ++ s) : v = w ∧ r = s := by
  -- the first tokens tell the kinds of values apart
  cases v <;> cases w <;>
    simp only [written, List.cons_append, List.nil_append, List.cons.injEq, reduceCtorEq, false_and, true_and] at h
  case null.null => exact ⟨rfl, h⟩
  case bool.bool b c => exact ⟨congrArg Json.bool (Token.flag.inj h.1), h.2⟩
  case number.number m n => exact ⟨congrArg Json.number (Token.number.inj h.1), h.2⟩
  case text.text a b => exact ⟨congrArg Json.text (Except.ok.inj (Token.text.inj h.1)), h.2⟩
  case array.array vs ws =>
    obtain ⟨rfl, hrest⟩ := itemsWritten_inj vs ws h
    exact ⟨rfl, hrest⟩
  case object.object ms ns =>
    obtain ⟨rfl, hrest⟩ := membersWritten_inj ms ns h
    exact ⟨rfl, hrest⟩

theorem itemsWritten_inj (vs ws : List Json) {r s : List Token} (h : itemsWritten vs ++ r = itemsWritten ws ++ s) :
    vs = ws ∧ r = s := by
  match vs, ws with
  | [], [] => exact ⟨rfl, (List.cons.inj h).2⟩
  | [], w :: ws =>
    rw [itemsWritten_cons, List.append_assoc] at h
    exact (written_append_ne_closeArray _ _ _ h.symm).elim
  | v :: vs, [] =>
    rw [itemsWritten_cons, List.append_assoc] at h
    exact (written_append_ne_closeArray _ _ _ h).elim
  | v :: vs, w :: ws =>
    rw [itemsWritten_cons, itemsWritten_cons, List.append_assoc, List.append_assoc] at h
    obtain ⟨rfl, hrest⟩ := written_inj v w h
    match vs, ws with
    | [], [] => exact ⟨rfl, (List.cons.inj hrest).2⟩
    | [], _ :: _ => cases (List.cons.inj hrest).1
    | _ :: _, [] => cases (List.cons.inj hrest).1
    | v' :: vs, w' :: ws =>
      obtain ⟨heq, hrest⟩ := itemsWritten_inj (v' :: vs) (w' :: ws) (List.cons.inj hrest).2
      exact ⟨congrArg (v :: ·) heq, hrest⟩

theorem membersWritten_inj (ms ns : List (String × Json)) {r s : List Token}
    (h : membersWritten ms ++ r = membersWritten ns ++ s) : ms = ns ∧ r = s := by
  match ms, ns with
  | [], [] => exact ⟨rfl, (List.cons.inj h).2⟩
  | [], (l, w) :: ns =>
    rw [membersWritten_cons] at h
    cases (List.cons.inj h).1
  | (k, v) :: ms, [] =>
    rw [membersWritten_cons] at h
    cases (List.cons.inj h).1
  | (k, v) :: ms, (l, w) :: ns =>
    simp only [membersWritten_cons, List.cons_append, List.append_assoc, List.cons.injEq, Token.text.injEq,
      Except.ok.injEq, true_and] at h
    obtain ⟨rfl, hvalue⟩ := h
    obtain ⟨rfl, hrest⟩ := written_inj v w hvalue
    match ms, ns with
    | [], [] => exact ⟨rfl, (List.cons.inj hrest).2⟩
    | [], _ :: _ => cases (List.cons.inj hrest).1
    | _ :: _, [] => cases (List.cons.inj hrest).1
    | m :: ms, n :: ns =>
      obtain ⟨heq, hrest⟩ := membersWritten_inj (m :: ms) (n :: ns) (List.cons.inj hrest).2
      exact ⟨congrArg ((k, v) :: ·) heq, hrest⟩

end

/-- **A text writes one value only.** -/
theorem Writes.unique {v w : Json} {s : String} (hv : v.Writes s) (hw : w.Writes s) : v = w := by
  have hwritten : v.written ++ [] = w.written ++ [] := by rw [← tokens_of_writes hv, ← tokens_of_writes hw]
  exact (written_inj v w hwritten).1

/-- **Different values have different compact texts.** -/
theorem render_inj {v w : Json} (h : v.render = w.render) : v = w :=
  (writes_render v).unique (h ▸ writes_render w)

end ComponentDirective.Json
