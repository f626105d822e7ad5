import ComponentDirective.Json.Token

/-!
# Passing over a value

A value that is not needed is passed over token by token. `Skip` says what must come next, and in which arrays and
objects that is; `Skip.step` takes one token. There is no limit to the nesting.
-/

namespace ComponentDirective.Json

inductive Enclosure
  | array
  | object
deriving DecidableEq

/-- What must come next while a value is passed over, and the enclosures that are open, the innermost first. -/
inductive Skip
  | value (enclosing : List Enclosure)
  /-- An enclosure has just been opened. -/
  | opened (innermost : Enclosure) (enclosing : List Enclosure)
  /-- A value inside an enclosure has ended. -/
  | between (innermost : Enclosure) (enclosing : List Enclosure)
  /-- The key of a member. -/
  | key (enclosing : List Enclosure)
  /-- The colon behind a key. -/
  | colon (enclosing : List Enclosure)
deriving DecidableEq

namespace Skip

/-- The end of a value: `none` when it was the whole value. -/
def ended : List Enclosure → Option Skip
  | [] => none
  | e :: enclosing => some (.between e enclosing)

/-- A token where a value is expected. -/
def stepValue (enclosing : List Enclosure) : Token → Except Fault (Option Skip)
  | .openArray => .ok (some (.opened .array enclosing))
  | .openObject => .ok (some (.opened .object enclosing))
  | .null | .flag _ | .number _ | .text _ => .ok (ended enclosing)
  | .broken _ f | .brokenText _ f => .error f
  | .closeArray | .closeObject | .comma | .colon => .error .malformed

/-- A token where a key is expected; `enclosing` is around the object. -/
def stepKey (enclosing : List Enclosure) : Token → Except Fault (Option Skip)
  | .text _ => .ok (some (.colon enclosing))
  | .brokenText _ f => .error f
  | _ => .error .malformed

/-- Takes one token. The answer is what must come next, or `none` when the token ends the value. -/
def step : Skip → Token → Except Fault (Option Skip)
  | .value enclosing, t => stepValue enclosing t
  | .opened .array enclosing, .closeArray => .ok (ended enclosing)
  | .opened .array enclosing, t => stepValue (.array :: enclosing) t
  | .opened .object enclosing, .closeObject => .ok (ended enclosing)
  | .opened .object enclosing, t => stepKey enclosing t
  | .between .array enclosing, .comma => .ok (some (.value (.array :: enclosing)))
  | .between .array enclosing, .closeArray => .ok (ended enclosing)
  | .between .object enclosing, .comma => .ok (some (.key enclosing))
  | .between .object enclosing, .closeObject => .ok (ended enclosing)
  | .between .., _ => .error .malformed
  | .key enclosing, t => stepKey enclosing t
  | .colon enclosing, .colon => .ok (some (.value (.object :: enclosing)))
  | .colon _, _ => .error .malformed

end Skip

end ComponentDirective.Json
