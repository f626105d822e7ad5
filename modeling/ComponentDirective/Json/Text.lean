import ComponentDirective.Json.Numeral

/-!
# Texts of JSON

`quote` writes a text between quotes and escapes what must be escaped: the quote, the backslash and the control
characters. A text is taken in two ways. `readText` decodes it, and insists that surrogates come in pairs; `skipText`
passes over it, and only asks that it has an end and that its escapes are escapes.

* `skipText_of_readText`: what can be read can be passed over, and ends at the same place.
-/

namespace ComponentDirective.Json

/-! ## Writing -/

def hexChar (n : Nat) : Char := (Nat.digitChar n)

/-- The written form of a character inside a text. -/
def escape (c : Char) : List Char :=
  if c = '"' then ['\\', '"']
  else if c = '\\' then ['\\', '\\']
  else if c.toNat = 0x08 then ['\\', 'b']
  else if c.toNat = 0x09 then ['\\', 't']
  else if c.toNat = 0x0A then ['\\', 'n']
  else if c.toNat = 0x0C then ['\\', 'f']
  else if c.toNat = 0x0D then ['\\', 'r']
  else if c.toNat < 0x20 then ['\\', 'u', '0', '0', hexChar (c.toNat / 16), hexChar (c.toNat % 16)]
  else [c]

/-- The text with its escapes, between quotes. -/
def quote (cs : List Char) : List Char := '"' :: cs.flatMap escape ++ ['"']

/-! ## Escapes -/

def hexDigit? (c : Char) : Option Nat :=
  let n := c.toNat
  if '0'.toNat ≤ n ∧ n ≤ '9'.toNat then some (n - '0'.toNat)
  else if 'a'.toNat ≤ n ∧ n ≤ 'f'.toNat then some (n - 'a'.toNat + 10)
  else if 'A'.toNat ≤ n ∧ n ≤ 'F'.toNat then some (n - 'A'.toNat + 10)
  else none

/-- A unit of four hexadecimal digits. The digits are counted in the bytes of UTF-8: with fewer than four bytes left the
text is truncated, with four that are not all digits it is malformed. -/
def readUnit : List Char → Except Fault (Nat × List Char)
  | a :: b :: c :: d :: rest =>
    match hexDigit? a, hexDigit? b, hexDigit? c, hexDigit? d with
    | some a, some b, some c, some d => .ok (((a * 16 + b) * 16 + c) * 16 + d, rest)
    | _, _, _, _ => .error .malformed
  | short => .error (if 4 ≤ (String.ofList short).utf8ByteSize then .malformed else .truncated)

def isHighSurrogate (n : Nat) : Bool := 0xD800 ≤ n && n ≤ 0xDBFF

def isLowSurrogate (n : Nat) : Bool := 0xDC00 ≤ n && n ≤ 0xDFFF

/-- The character of a pair of surrogates. -/
def ofSurrogates (high low : Nat) : Char := Char.ofNat (0x10000 + (high - 0xD800) * 0x400 + (low - 0xDC00))

/-- The escape for the second half of a pair, whose first half is `high`. -/
def readLowSurrogate (high : Nat) : List Char → Except Fault (Char × List Char)
  | [] => .error .truncated
  | [c] => .error (if c = '\\' then .truncated else .malformed)
  | c :: d :: cs =>
    if c = '\\' ∧ d = 'u' then
      match readUnit cs with
      | .error f => .error f
      | .ok (low, rest) =>
        if isLowSurrogate low then .ok (ofSurrogates high low, rest)
        else .error .malformed
    else .error .malformed

/-- The character that `\u` and what follows it write. -/
def readUnicode (cs : List Char) : Except Fault (Char × List Char) :=
  match readUnit cs with
  | .error f => .error f
  | .ok (n, rest) =>
    if isLowSurrogate n then .error .malformed
    else if isHighSurrogate n then readLowSurrogate n rest
    else .ok (Char.ofNat n, rest)

/-- What a backslash and one more character write. -/
def shortEscapes : List (Char × Char) :=
  [('"', '"'), ('\\', '\\'), ('/', '/'), ('b', '\x08'), ('f', '\x0C'), ('n', '\n'), ('r', '\r'), ('t', '\t')]

/-- The character that the escape behind a backslash writes. -/
def readEscape : List Char → Except Fault (Char × List Char)
  | [] => .error .truncated
  | c :: cs =>
    if c = 'u' then readUnicode cs
    else match shortEscapes.lookup c with
      | some d => .ok (d, cs)
      | none => .error .malformed

/-- What follows the escape behind a backslash; surrogates may stand alone here. -/
def skipEscape : List Char → Except Fault (List Char)
  | [] => .error .truncated
  | c :: cs =>
    if c = 'u' then
      match readUnit cs with
      | .error f => .error f
      | .ok (_, rest) => .ok rest
    else if (shortEscapes.lookup c).isSome then .ok cs
    else .error .malformed

theorem readUnit_length {cs rest : List Char} {n : Nat} (h : readUnit cs = .ok (n, rest)) :
    rest.length < cs.length := by
  unfold readUnit at h
  split at h
  · split at h
    · cases h
      simp only [List.length_cons]
      omega
    · cases h
  · cases h

theorem readLowSurrogate_length {high : Nat} {cs rest : List Char} {c : Char}
    (h : readLowSurrogate high cs = .ok (c, rest)) : rest.length < cs.length := by
  unfold readLowSurrogate at h
  split at h
  · cases h
  · cases h
  · split at h
    · split at h
      · cases h
      · next heq =>
        split at h
        · have := readUnit_length heq
          rw [← (Prod.mk.inj (Except.ok.inj h)).2]
          simp only [List.length_cons]
          omega
        · cases h
    · cases h

theorem readEscape_length {cs rest : List Char} {c : Char} (h : readEscape cs = .ok (c, rest)) :
    rest.length < cs.length := by
  unfold readEscape at h
  split at h
  · cases h
  · split at h
    · unfold readUnicode at h
      split at h
      · cases h
      · next heq =>
        have := readUnit_length heq
        split at h
        · cases h
        · split at h
          · have := readLowSurrogate_length h
            simp only [List.length_cons]
            omega
          · cases h
            simp only [List.length_cons]
            omega
    · split at h <;> cases h
      exact Nat.lt_succ_self _

theorem skipEscape_length {cs rest : List Char} (h : skipEscape cs = .ok rest) : rest.length < cs.length := by
  unfold skipEscape at h
  split at h
  · cases h
  · split at h
    · split at h
      · cases h
      · next heq =>
        cases h
        exact Nat.lt_succ_of_lt (readUnit_length heq)
    · split at h <;> cases h
      exact Nat.lt_succ_self _

/-! ## Reading and passing over -/

/-- The text up to its closing quote, and what follows the quote. -/
def readText (cs : List Char) : Except Fault (List Char × List Char) :=
  match cs with
  | [] => .error .truncated
  | c :: cs =>
    if c = '"' then .ok ([], cs)
    else if c = '\\' then
      match _h : readEscape cs with
      | .error f => .error f
      | .ok (d, rest) =>
        match readText rest with
        | .error f => .error f
        | .ok (ds, rest) => .ok (d :: ds, rest)
    else if c.toNat < 0x20 then .error .malformed
    else
      match readText cs with
      | .error f => .error f
      | .ok (ds, rest) => .ok (c :: ds, rest)
termination_by cs.length
decreasing_by
  · have := readEscape_length _h
    simp only [List.length_cons]
    omega
  · simp

/-- What follows the closing quote. -/
def skipText (cs : List Char) : Except Fault (List Char) :=
  match cs with
  | [] => .error .truncated
  | c :: cs =>
    if c = '"' then .ok cs
    else if c = '\\' then
      match _h : skipEscape cs with
      | .error f => .error f
      | .ok rest => skipText rest
    else if c.toNat < 0x20 then .error .malformed
    else skipText cs
termination_by cs.length
decreasing_by
  · have := skipEscape_length _h
    simp only [List.length_cons]
    omega
  · simp

theorem skipText_length (cs : List Char) {rest : List Char} (h : skipText cs = .ok rest) :
    rest.length < cs.length := by
  fun_induction skipText cs with
  | case1 => cases h
  | case2 => cases h; exact Nat.lt_succ_self _
  | case3 => cases h
  | case4 cs rest' heq _ ih =>
    have := ih h
    have := skipEscape_length heq
    simp only [List.length_cons]
    omega
  | case5 => cases h
  | case6 c cs _ _ _ ih => exact Nat.lt_succ_of_lt (ih h)

/-! ## What reads can be passed over -/

theorem skipText_escape {cs rest : List Char} (h : skipEscape cs = .ok rest) :
    skipText ('\\' :: cs) = skipText rest := by
  rw [skipText]
  simp only [Char.reduceEq, ↓reduceIte]
  split
  · next heq => rw [h] at heq; cases heq
  · next heq => rw [Except.ok.inj (h.symm.trans heq)]

theorem skipText_unit {cs rest : List Char} {n : Nat} (h : readUnit cs = .ok (n, rest)) :
    skipText ('\\' :: 'u' :: cs) = skipText rest :=
  skipText_escape (by rw [skipEscape, if_pos rfl, h])

theorem skipText_readLowSurrogate {high : Nat} {cs rest : List Char} {c : Char}
    (h : readLowSurrogate high cs = .ok (c, rest)) : skipText cs = skipText rest := by
  unfold readLowSurrogate at h
  split at h
  · cases h
  · cases h
  · split at h
    · next hc =>
      obtain ⟨rfl, rfl⟩ := hc
      split at h
      · cases h
      · next hu =>
        split at h
        · rw [← (Prod.mk.inj (Except.ok.inj h)).2]
          exact skipText_unit hu
        · cases h
    · cases h

theorem skipText_readEscape {cs rest : List Char} {c : Char} (h : readEscape cs = .ok (c, rest)) :
    skipText ('\\' :: cs) = skipText rest := by
  unfold readEscape at h
  split at h
  · cases h
  · next d cs =>
    split at h
    · next hd =>
      subst hd
      unfold readUnicode at h
      split at h
      · cases h
      · next hu =>
        rw [skipText_unit hu]
        split at h
        · cases h
        · split at h
          · exact skipText_readLowSurrogate h
          · cases h; rfl
    · next hd =>
      split at h
      · next hs =>
        cases h
        exact skipText_escape (by rw [skipEscape, if_neg hd, hs]; rfl)
      · cases h

/-- A text that reads can be passed over, and ends at the same place. -/
theorem skipText_of_readText (cs : List Char) : ∀ {ds rest : List Char}, readText cs = .ok (ds, rest) →
    skipText cs = .ok rest := by
  fun_induction readText cs with
  | case1 => intro _ _ h; cases h
  | case2 cs => intro _ _ h; cases h; rw [skipText, if_pos rfl]
  | case3 => intro _ _ h; cases h
  | case4 => intro _ _ h; cases h
  | case5 cs d rest' heq ds' rest'' hr _ ih =>
    intro _ _ h
    cases h
    rw [skipText_readEscape heq]
    exact ih hr
  | case6 => intro _ _ h; cases h
  | case7 => intro _ _ h; cases h
  | case8 c cs hq hb hc ds' rest' hr ih =>
    intro _ _ h
    cases h
    rw [skipText, if_neg hq, if_neg hb, if_neg hc]
    exact ih hr

end ComponentDirective.Json
