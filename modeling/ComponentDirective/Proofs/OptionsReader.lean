import ComponentDirective.Options.Reading
import ComponentDirective.Proofs.WrittenTokens

/-!
# The reader of options on whole documents

The reader takes a text token by token; here it is run on the tokens of a whole value. A value under an unknown key is
passed over, however deeply it is nested (`Reader.run_unknown`). So the members of an object enter the draft one after
another (`Draft.enter`), and options written as an object are what the members leave (`Options.parse_object`). An array
of up to four values is read as the object that gives these values to the options in their order
(`Options.parse_array`).
-/

namespace ComponentDirective

open Json (Token Skip itemsWritten membersWritten behindItem behindMember itemsWritten_cons membersWritten_cons)

/-! ## The first token of a value -/

namespace Json

/-- The first token of a value. -/
def lead : Json → Token
  | .null => .null
  | .bool b => .flag b
  | .number n => .number n
  | .text s => .text (.ok s)
  | .array _ => .openArray
  | .object _ => .openObject

/-- The tokens of a value behind the first one. -/
def behindLead : Json → List Token
  | .array items => itemsWritten items
  | .object members => membersWritten members
  | _ => []

theorem written_eq (v : Json) : v.written = v.lead :: v.behindLead := by
  cases v <;> rw [written] <;> rfl

end Json

namespace Reader

theorem run_cons {r r' : Reader} {t : Token} (h : r.step t = .ok r') (ts : List Token) :
    r.run (t :: ts) = r'.run ts := by
  rw [run, h]

/-! ## Passing over values -/

/-- Where the reader is when a step of passing over a value has this outcome. -/
def passed (d : Draft) : Option Skip → Reader
  | none => ⟨.afterMember, d⟩
  | some rest => ⟨.unknown rest, d⟩

theorem run_unknown_cons {rest : Skip} {next : Option Skip} {t : Token} (h : rest.step t = .ok next) (d : Draft)
    (ts : List Token) : run ⟨.unknown rest, d⟩ (t :: ts) = (passed d next).run ts := by
  refine run_cons ?_ ts
  simp only [step, stepUnknown, h]
  cases next <;> rfl

theorem run_unknown_some {rest next : Skip} {t : Token} (h : rest.step t = .ok (some next)) (d : Draft)
    (ts : List Token) : run ⟨.unknown rest, d⟩ (t :: ts) = run ⟨.unknown next, d⟩ ts := run_unknown_cons h d ts

mutual

/-- **A value is passed over**, and then what encloses it goes on. -/
theorem run_unknown (v : Json) (enclosing : List Json.Enclosure) (d : Draft) (ts : List Token) :
    run ⟨.unknown (.value enclosing), d⟩ (v.written ++ ts) = (passed d (Skip.ended enclosing)).run ts := by
  cases v with
  | null | bool b | number n | text s => exact run_unknown_cons rfl d ts
  | array items =>
    rw [Json.written, List.cons_append, run_unknown_some rfl]
    match items with
    | [] => exact run_unknown_cons rfl d ts
    | v :: vs =>
      -- behind the bracket a value is read as behind a comma
      have hopened : ∀ us, run ⟨.unknown (.opened .array enclosing), d⟩ (v.written ++ us) =
          run ⟨.unknown (.value (.array :: enclosing)), d⟩ (v.written ++ us) := by
        intro us
        cases v <;> rfl
      rw [itemsWritten_cons, List.append_assoc, hopened, run_unknown v]
      exact run_unknown_behindItem vs enclosing d ts
  | object members =>
    rw [Json.written, List.cons_append, run_unknown_some rfl]
    match members with
    | [] => exact run_unknown_cons rfl d ts
    | (k, v) :: ms =>
      rw [membersWritten_cons, List.cons_append, List.cons_append, List.append_assoc, run_unknown_some rfl,
        run_unknown_some rfl, run_unknown v]
      exact run_unknown_behindMember ms enclosing d ts

theorem run_unknown_behindItem (vs : List Json) (enclosing : List Json.Enclosure) (d : Draft) (ts : List Token) :
    run ⟨.unknown (.between .array enclosing), d⟩ (behindItem vs ++ ts) = (passed d (Skip.ended enclosing)).run ts := by
  match vs with
  | [] => exact run_unknown_cons rfl d ts
  | v :: vs =>
    rw [behindItem, itemsWritten_cons, List.cons_append, List.append_assoc, run_unknown_some rfl, run_unknown v]
    exact run_unknown_behindItem vs enclosing d ts

theorem run_unknown_behindMember (ms : List (String × Json)) (enclosing : List Json.Enclosure) (d : Draft)
    (ts : List Token) : run ⟨.unknown (.between .object enclosing), d⟩ (behindMember ms ++ ts) =
      (passed d (Skip.ended enclosing)).run ts := by
  match ms with
  | [] => exact run_unknown_cons rfl d ts
  | (k, v) :: ms =>
    rw [behindMember, membersWritten_cons, List.cons_append, List.cons_append, List.cons_append, List.append_assoc,
      run_unknown_some rfl, run_unknown_some rfl, run_unknown_some rfl, run_unknown v]
    exact run_unknown_behindMember ms enclosing d ts

end

end Reader

/-! ## Members of an object -/

namespace Draft

/-- The value that has been given to an option. -/
def value (d : Draft) : Slot → Option Json
  | .directive => d.directive.map .text
  | .scope => d.scope.map .text
  | .warnUnscoped => d.warnUnscoped.map .bool
  | .parallel => d.parallel.map .bool

theorem has_eq (d : Draft) (slot : Slot) : d.has slot = (d.value slot).isSome := by
  cases slot <;> exact Option.isSome_map.symm

/-- A value that can be put into a draft is a single token, and it is what the option has then. -/
theorem value_of_fill {d d' : Draft} {v : Json} {slot : Slot} (h : d.fill v.lead slot = .ok d') :
    v.behindLead = [] ∧ d'.value slot = some v ∧ ∀ other ≠ slot, d'.value other = d.value other := by
  cases v <;> cases slot <;> cases h <;>
    exact ⟨rfl, rfl, fun other hne => by cases other <;> first | rfl | exact absurd rfl hne⟩

/-- Puts the value of a member into a draft; a value under an unknown key changes nothing. -/
def enter (d : Draft) (m : String × Json) : Except OptionsError Draft :=
  match Slot.ofKey? m.1 with
  | none => .ok d
  | some slot => if d.has slot then .error (.duplicate slot) else d.fill m.2.lead slot

end Draft

namespace Reader

/-- A key and its value enter the draft. -/
theorem run_key (d : Draft) (k : String) (v : Json) (ts : List Token) :
    run ⟨.key, d⟩ (.text (.ok k) :: .colon :: (v.written ++ ts)) =
      (d.enter (k, v)).bind fun d => run ⟨.afterMember, d⟩ ts := by
  cases hslot : Slot.ofKey? k with
  | none =>
    have hkey : step ⟨.key, d⟩ (.text (.ok k)) = .ok ⟨.colon none, d⟩ := by simp only [step, stepKey, hslot]
    have henter : d.enter (k, v) = .ok d := by simp only [Draft.enter, hslot]
    rw [run_cons hkey, run_cons rfl, run_unknown, henter]
    rfl
  | some slot =>
    cases hhas : d.has slot with
    | true =>
      have hkey : step ⟨.key, d⟩ (.text (.ok k)) = .error (.duplicate slot) := by
        simp only [step, stepKey, hslot, hhas, if_true]
      have henter : d.enter (k, v) = .error (.duplicate slot) := by simp only [Draft.enter, hslot, hhas, if_true]
      rw [run, hkey, henter]
      rfl
    | false =>
      have hkey : step ⟨.key, d⟩ (.text (.ok k)) = .ok ⟨.colon (some slot), d⟩ := by
        simp only [step, stepKey, hslot, hhas, Bool.false_eq_true, if_false]
      have henter : d.enter (k, v) = d.fill v.lead slot := by
        simp only [Draft.enter, hslot, hhas, Bool.false_eq_true, if_false]
      rw [run_cons hkey, run_cons rfl, henter, Json.written_eq, List.cons_append, run]
      simp only [step]
      cases hfill : d.fill v.lead slot with
      | error e => rfl
      | ok d' =>
        rw [(Draft.value_of_fill hfill).1]
        rfl

theorem run_members (ms : List (String × Json)) (d : Draft) :
    run ⟨.afterMember, d⟩ (behindMember ms) = (ms.foldlM Draft.enter d).map fun d => ⟨.nothing, d⟩ := by
  induction ms generalizing d with
  | nil => rfl
  | cons m ms ih =>
    obtain ⟨k, v⟩ := m
    rw [behindMember, membersWritten_cons, run_cons rfl, run_key, List.foldlM_cons]
    cases d.enter (k, v) with
    | error e => rfl
    | ok d' => exact ih d'

/-- **The members of an object enter the draft one after another.** -/
theorem run_object (ms : List (String × Json)) :
    start.run (Json.object ms).written = (ms.foldlM Draft.enter .empty).map fun d => ⟨.nothing, d⟩ := by
  rw [← run_members, Json.written]
  cases ms with
  | nil => rfl
  | cons m ms =>
    rw [behindMember, run_cons rfl, run_cons rfl, membersWritten_cons]
    rfl

/-! ## Elements of an array -/

/-- An element enters the draft as the member of its option. -/
theorem run_elements (others : List Slot) (vs : List Json) (d : Draft) (hnodup : others.Nodup)
    (hhas : ∀ slot ∈ others, d.has slot = false) (hlen : vs.length ≤ others.length) :
    run ⟨.afterElement others, d⟩ (behindItem vs) =
      (((others.map Slot.key).zip vs).foldlM Draft.enter d).map fun d => ⟨.nothing, d⟩ := by
  induction others generalizing vs d with
  | nil =>
    obtain rfl := List.eq_nil_of_length_eq_zero (Nat.le_zero.1 hlen)
    rfl
  | cons slot others ih =>
    cases vs with
    | nil => rfl
    | cons v vs =>
      obtain ⟨hnot, hnodup⟩ := List.nodup_cons.1 hnodup
      have henter : d.enter (slot.key, v) = d.fill v.lead slot := by
        simp only [Draft.enter, Slot.ofKey?_key, hhas slot List.mem_cons_self, Bool.false_eq_true, if_false]
      rw [behindItem, run_cons rfl, itemsWritten_cons, Json.written_eq, List.cons_append, run, List.map_cons,
        List.zip_cons_cons, List.foldlM_cons, henter]
      simp only [step, stepElement]
      cases hfill : d.fill v.lead slot with
      | error e => rfl
      | ok d' =>
        obtain ⟨hsingle, -, hothers⟩ := Draft.value_of_fill hfill
        rw [hsingle]
        refine ih vs d' hnodup (fun other hmem => ?_) (Nat.le_of_succ_le_succ hlen)
        rw [Draft.has_eq, hothers other fun heq => hnot (heq ▸ hmem), ← Draft.has_eq]
        exact hhas other (List.mem_cons_of_mem _ hmem)

/-- **The elements of an array enter the draft as the members of an object would** that has the options in their
order. -/
theorem run_array (vs : List Json) (hlen : vs.length ≤ Slot.all.length) :
    start.run (Json.array vs).written =
      (((Slot.all.map Slot.key).zip vs).foldlM Draft.enter .empty).map fun d => ⟨.nothing, d⟩ := by
  rw [← run_elements Slot.all vs .empty (by decide) (by decide) hlen, Json.written]
  cases vs with
  | nil => rfl
  | cons v vs =>
    -- no value starts with the bracket that ends the array
    have hstep : step ⟨.firstElement, .empty⟩ v.lead = stepElement .empty v.lead .directive
        [.scope, .warnUnscoped, .parallel] := by
      cases v <;> rfl
    rw [behindItem, itemsWritten_cons, Json.written_eq, List.cons_append]
    change run ⟨.firstElement, .empty⟩ (v.lead :: _) =
      run ⟨.element .directive [.scope, .warnUnscoped, .parallel], .empty⟩ (v.lead :: _)
    rw [run, hstep, run]
    rfl

end Reader

namespace Options

/-- What a reader makes of a text that leaves a draft or an error behind. -/
theorem parse_of_run {s : String} {v : Json} (h : v.Writes s) {outcome : Except OptionsError Draft}
    (hrun : Reader.start.run v.written = outcome.map fun d => ⟨.nothing, d⟩) :
    parse s = outcome.bind fun d => d.options.checkNames := by
  rw [parse, Json.tokens_of_writes h, hrun]
  cases outcome with
  | error e => rfl
  | ok d => simp only [Except.map, Except.bind, Reader.finish, if_true]

theorem parse_object {ms : List (String × Json)} {s : String} (h : (Json.object ms).Writes s) :
    parse s = (ms.foldlM Draft.enter .empty).bind fun d => d.options.checkNames := parse_of_run h (Reader.run_object ms)

theorem parse_array {vs : List Json} {s : String} (h : (Json.array vs).Writes s) (hlen : vs.length ≤ Slot.all.length) :
    parse s = (((Slot.all.map Slot.key).zip vs).foldlM Draft.enter .empty).bind fun d => d.options.checkNames :=
  parse_of_run h (Reader.run_array vs hlen)

end Options

end ComponentDirective
