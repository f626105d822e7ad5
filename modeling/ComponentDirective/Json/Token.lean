import ComponentDirective.Json.Text

/-!
# Tokens of JSON

`tokens` cuts a text into the tokens of JSON and drops the blanks between them. A fault of the text is a token too, the
last one: whether and how it matters is known only where the token is used, because a value that is read is checked more
strictly than one that is passed over. A text token carries the fault of its content for the same reason.

* `first_length`: a token takes at least one character, so every text has its tokens.
-/

namespace ComponentDirective.Json

inductive Token
  | openObject
  | closeObject
  | openArray
  | closeArray
  | comma
  | colon
  | null
  | flag (value : Bool)
  | number (numeral : Numeral)
  /-- A text with its end; its content may still be refused when it is read. -/
  | text (content : Except Fault String)
  /-- A text that does not end as it should. -/
  | brokenText (whenRead whenSkipped : Fault)
  /-- Characters that are no token. -/
  | broken (whenRead whenSkipped : Fault)

namespace Token

/-- The white space of JSON. -/
def isSpace (c : Char) : Bool := c == ' ' || c == '\t' || c == '\n' || c == '\r'

/-- The rest of a word of which the first character has been seen. What follows the word does not matter. -/
def scanWord (t : Token) : (word cs : List Char) → Token × List Char
  | [], cs => (t, cs)
  | _ :: _, [] => (.broken .truncated .truncated, [])
  | w :: ws, c :: cs => if c = w then scanWord t ws cs else (.broken .malformed .malformed, [])

/-- A text of which the opening quote has been seen. -/
def scanText (cs : List Char) : Token × List Char :=
  match skipText cs with
  | .ok rest => (.text ((readText cs).map fun p => String.ofList p.1), rest)
  | .error skipped =>
    match readText cs with
    | .error read => (.brokenText read skipped, [])
    | .ok _ => (.brokenText skipped skipped, [])

def scanNumber (cs : List Char) : Token × List Char :=
  match Numeral.scan cs with
  | .ok (n, rest) => (.number n, rest)
  | .error read => (.broken read .malformed, [])

/-- The tokens of one character. -/
def punctuation : List (Char × Token) :=
  [('\x7b', .openObject), ('\x7d', .closeObject), ('[', .openArray), (']', .closeArray), (',', .comma), (':', .colon)]

/-- The words, by their first character. -/
def words : List (Char × List Char × Token) :=
  [('n', ['u', 'l', 'l'], .null), ('t', ['r', 'u', 'e'], .flag true), ('f', ['a', 'l', 's', 'e'], .flag false)]

/-- The token that starts with `c`, and the text behind it. -/
def first (c : Char) (cs : List Char) : Token × List Char :=
  match punctuation.lookup c, words.lookup c with
  | some t, _ => (t, cs)
  | none, some (word, t) => scanWord t word cs
  | none, none =>
    if c = '"' then scanText cs
    else if c = '-' || c.isDigit then scanNumber (c :: cs)
    else (.broken .malformed .malformed, [])

theorem scanWord_length (t : Token) : ∀ word cs : List Char, (scanWord t word cs).2.length ≤ cs.length
  | [], _ => Nat.le_refl _
  | _ :: _, [] => Nat.le_refl _
  | w :: ws, c :: cs => by
    rw [scanWord]
    split
    · exact Nat.le_succ_of_le (scanWord_length t ws cs)
    · exact Nat.zero_le _

theorem scanText_length (cs : List Char) : (scanText cs).2.length ≤ cs.length := by
  unfold scanText
  split
  · next h => exact Nat.le_of_lt (skipText_length cs h)
  · split <;> exact Nat.zero_le _

theorem scanNumber_length (c : Char) (cs : List Char) : (scanNumber (c :: cs)).2.length ≤ cs.length := by
  unfold scanNumber
  split
  · next h => exact Nat.le_of_lt_succ (Numeral.scan_length h)
  · exact Nat.zero_le _

theorem first_length (c : Char) (cs : List Char) : (first c cs).2.length ≤ cs.length := by
  unfold first
  split
  · exact Nat.le_refl _
  · exact scanWord_length ..
  · split
    · exact scanText_length cs
    · split
      · exact scanNumber_length c cs
      · exact Nat.zero_le _

end Token

/-- The tokens of a text; a fault ends them. -/
def tokens (cs : List Char) : List Token :=
  match cs with
  | [] => []
  | c :: rest => if Token.isSpace c then tokens rest else (Token.first c rest).1 :: tokens (Token.first c rest).2
termination_by cs.length
decreasing_by
  · exact Nat.lt_succ_self _
  · exact Nat.lt_succ_of_le (Token.first_length c rest)

end ComponentDirective.Json
