import ComponentDirective.Json.Token
import ComponentDirective.Proofs.SpelledNumerals
import Mathlib.Data.List.Chain

/-!
# Texts that lay out tokens

A token has many spellings: a character of a text stands for itself or is escaped in one of several ways, and the
exponent of a numeral may be written differently. `Lays ts cs` says that the text `cs` spells the tokens `ts` one after
another, with any white space before, between and behind them. Only a numeral needs something behind it that ends it,
and in a text of JSON it has that (`Separated`). A text that lays out such tokens is cut into them (`tokens_of_lays`).
-/

namespace ComponentDirective.Json

/-! ## Spelled texts -/

/-- Four hexadecimal digits, large or small ones, and their number. -/
inductive SpellsUnit : Nat → List Char → Prop
  | intro {a b c d : Char} {w x y z : Nat} : hexDigit? a = some w → hexDigit? b = some x → hexDigit? c = some y →
      hexDigit? d = some z → SpellsUnit (((w * 16 + x) * 16 + y) * 16 + z) [a, b, c, d]

/-- A character inside a text stands for itself, or is written by a short escape, by the escape of its number, or by
the escapes of two surrogates. -/
inductive SpellsChar : Char → List Char → Prop
  | plain {c : Char} : c ≠ '"' → c ≠ '\\' → 0x20 ≤ c.toNat → SpellsChar c [c]
  | short {mark c : Char} : shortEscapes.lookup mark = some c → SpellsChar c ['\\', mark]
  | unit {c : Char} {cs : List Char} : SpellsUnit c.toNat cs → SpellsChar c ('\\' :: 'u' :: cs)
  | pair {high low : Nat} {cs ds : List Char} : isHighSurrogate high = true → isLowSurrogate low = true →
      SpellsUnit high cs → SpellsUnit low ds →
      SpellsChar (ofSurrogates high low) ('\\' :: 'u' :: cs ++ '\\' :: 'u' :: ds)

/-- The characters of a text, without its quotes. -/
inductive SpellsText : List Char → List Char → Prop
  | nil : SpellsText [] []
  | cons {c : Char} {spelling cs ds : List Char} : SpellsChar c spelling → SpellsText cs ds →
      SpellsText (c :: cs) (spelling ++ ds)

theorem hexDigit?_hexChar : ∀ n < 16, hexDigit? (hexChar n) = some n := by decide

/-- The written form of a character is a spelling. -/
theorem spellsChar_escape (c : Char) : SpellsChar c (escape c) := by
  have named : ∀ {d : Char}, c.toNat = d.toNat → c = d := fun h => Char.toNat_inj.1 h
  unfold escape
  split
  · next h => rw [h]; exact .short rfl
  split
  · next h => rw [h]; exact .short rfl
  split
  · next h => rw [named (d := '\x08') h]; exact .short rfl
  split
  · next h => rw [named (d := '\t') h]; exact .short rfl
  split
  · next h => rw [named (d := '\n') h]; exact .short rfl
  split
  · next h => rw [named (d := '\x0C') h]; exact .short rfl
  split
  · next h => rw [named (d := '\r') h]; exact .short rfl
  split
  · next h =>
    have hunit : SpellsUnit (((0 * 16 + 0) * 16 + c.toNat / 16) * 16 + c.toNat % 16)
        ['0', '0', hexChar (c.toNat / 16), hexChar (c.toNat % 16)] :=
      .intro (by decide) (by decide) (hexDigit?_hexChar _ (by omega)) (hexDigit?_hexChar _ (by omega))
    rw [show ((0 * 16 + 0) * 16 + c.toNat / 16) * 16 + c.toNat % 16 = c.toNat by omega] at hunit
    exact .unit hunit
  · next hquote hback _ _ _ _ _ hcontrol => exact .plain hquote hback (Nat.le_of_not_lt hcontrol)

theorem spellsText_escape : ∀ cs : List Char, SpellsText cs (cs.flatMap escape)
  | [] => .nil
  | c :: cs => .cons (spellsChar_escape c) (spellsText_escape cs)

theorem readUnit_spells {n : Nat} {cs : List Char} (h : SpellsUnit n cs) (rest : List Char) :
    readUnit (cs ++ rest) = .ok (n, rest) := by
  cases h with
  | intro ha hb hc hd => simp only [List.cons_append, List.nil_append, readUnit, ha, hb, hc, hd]

/-- A character is no surrogate. -/
theorem not_surrogate (c : Char) : isLowSurrogate c.toNat = false ∧ isHighSurrogate c.toNat = false := by
  have hvalid : c.toNat < 0xD800 ∨ 0xDFFF < c.toNat := by
    rcases c.valid with h | h
    · exact .inl h
    · exact .inr h.1
  simp only [isLowSurrogate, isHighSurrogate, Bool.and_eq_false_iff, decide_eq_false_iff_not]
  omega

/-- An escape writes the character that it spells. -/
theorem readText_of_readEscape {c : Char} {cs rest : List Char} (h : readEscape cs = .ok (c, rest)) :
    readText ('\\' :: cs) = (readText rest).map fun p => (c :: p.1, p.2) := by
  rw [readText]
  simp only [Char.reduceEq, ↓reduceIte]
  split
  · next heq => rw [h] at heq; cases heq
  · next heq =>
    obtain ⟨rfl, rfl⟩ := Prod.mk.inj (Except.ok.inj (h.symm.trans heq))
    cases readText rest <;> rfl

theorem readText_spellsChar {c : Char} {cs : List Char} (h : SpellsChar c cs) (rest : List Char) :
    readText (cs ++ rest) = (readText rest).map fun p => (c :: p.1, p.2) := by
  cases h with
  | plain hquote hback hcontrol =>
    rw [List.singleton_append, readText, if_neg hquote, if_neg hback, if_neg (Nat.not_lt.2 hcontrol)]
    cases readText rest <;> rfl
  | @short mark _ hmark =>
    have hu : mark ≠ 'u' := by
      rintro rfl
      cases hmark
    rw [List.cons_append, List.singleton_append]
    exact readText_of_readEscape (by rw [readEscape, if_neg hu, hmark])
  | unit hunit =>
    obtain ⟨hlow, hhigh⟩ := not_surrogate c
    rw [List.cons_append, List.cons_append]
    refine readText_of_readEscape ?_
    rw [readEscape, if_pos rfl, readUnicode, readUnit_spells hunit]
    simp only [hlow, hhigh, Bool.false_eq_true, if_false, Char.ofNat_toNat]
  | @pair high low cs ds hhigh hlow hcs hds =>
    -- the first half is read as such, since it is no second half
    have hnot : isLowSurrogate high = false := by
      simp only [isHighSurrogate, isLowSurrogate, Bool.and_eq_true, decide_eq_true_eq, Bool.and_eq_false_iff,
        decide_eq_false_iff_not] at hhigh ⊢
      omega
    rw [List.append_assoc, List.cons_append, List.cons_append]
    refine readText_of_readEscape ?_
    rw [readEscape, if_pos rfl, readUnicode, readUnit_spells hcs]
    simp only [hnot, hhigh, Bool.false_eq_true, if_false, if_true, List.cons_append, readLowSurrogate, and_self,
      readUnit_spells hds, hlow]

theorem readText_spellsText {cs ds : List Char} (h : SpellsText cs ds) (rest : List Char) :
    readText (ds ++ '"' :: rest) = .ok (cs, rest) := by
  induction h with
  | nil => rw [List.nil_append, readText, if_pos rfl]
  | cons hc _ ih =>
    rw [List.append_assoc, readText_spellsChar hc, ih]
    rfl

/-! ## Spelled tokens -/

namespace Token

/-- The spellings of a token. -/
inductive Spells : Token → List Char → Prop
  | openObject : Spells .openObject ['\x7b']
  | closeObject : Spells .closeObject ['\x7d']
  | openArray : Spells .openArray ['[']
  | closeArray : Spells .closeArray [']']
  | comma : Spells .comma [',']
  | colon : Spells .colon [':']
  | null : Spells .null ['n', 'u', 'l', 'l']
  | true : Spells (.flag true) ['t', 'r', 'u', 'e']
  | false : Spells (.flag false) ['f', 'a', 'l', 's', 'e']
  | number {n : Numeral} {cs : List Char} : n.Spells cs → Spells (.number n) cs
  | text {s : String} {cs : List Char} : SpellsText s.toList cs → Spells (.text (.ok s)) ('"' :: cs ++ ['"'])

/-- A comma or the end of an array or of an object. -/
inductive Ends : Token → Prop
  | comma : Ends .comma
  | closeArray : Ends .closeArray
  | closeObject : Ends .closeObject

def IsNumber (t : Token) : Prop := ∃ n, t = .number n

end Token

theorem tokens_cons {c : Char} (hc : Token.isSpace c = false) (cs : List Char) :
    tokens (c :: cs) = (Token.first c cs).1 :: tokens (Token.first c cs).2 := by
  rw [tokens, hc]
  rfl

theorem tokens_punctuation {c : Char} {t : Token} (hc : Token.isSpace c = false)
    (ht : Token.punctuation.lookup c = some t) (cs : List Char) : tokens (c :: cs) = t :: tokens cs := by
  have hfirst : Token.first c cs = (t, cs) := by simp only [Token.first, ht]
  rw [tokens_cons hc, hfirst]

theorem scanWord_append (t : Token) (word rest : List Char) : Token.scanWord t word (word ++ rest) = (t, rest) := by
  induction word with
  | nil => cases rest <;> rfl
  | cons c word ih => rw [List.cons_append, Token.scanWord, if_pos rfl, ih]

theorem tokens_word {c : Char} (word : List Char) {t : Token} (hc : Token.isSpace c = false)
    (hp : (Token.punctuation.lookup c).isNone) (ht : Token.words.lookup c = some (word, t)) (rest : List Char) :
    tokens (c :: (word ++ rest)) = t :: tokens rest := by
  have hfirst : Token.first c (word ++ rest) = (t, rest) := by
    simp only [Token.first, Option.isNone_iff_eq_none.1 hp, ht, scanWord_append]
  rw [tokens_cons hc, hfirst]

theorem tokens_text {s : String} {cs : List Char} (h : SpellsText s.toList cs) (rest : List Char) :
    tokens ('"' :: (cs ++ '"' :: rest)) = .text (.ok s) :: tokens rest := by
  have hread := readText_spellsText h rest
  have hskip := skipText_of_readText _ hread
  have hfirst : Token.first '"' (cs ++ '"' :: rest) = (.text (.ok s), rest) := by
    have hscan : Token.scanText (cs ++ '"' :: rest) = (.text (.ok s), rest) := by
      rw [Token.scanText]
      simp only [hskip, hread, Except.map, String.ofList_toList]
    exact hscan
  rw [tokens_cons (by decide), hfirst]

theorem tokens_number {n : Numeral} {cs rest : List Char} (hn : n.Spells cs) (h : Delimited rest) :
    tokens (cs ++ rest) = .number n :: tokens rest := by
  obtain ⟨c, ds, rfl, hc⟩ := hn.exists_eq_cons
  have hscan := Numeral.scan_spells hn h
  rw [List.cons_append] at hscan ⊢
  have hstart : Token.isSpace c = false ∧ (Token.punctuation.lookup c).isNone ∧ (Token.words.lookup c).isNone ∧
      c ≠ '"' ∧ (c = '-' || c.isDigit) = true := by
    have hdigits : ∀ d, Token.isSpace (digitChar d) = false ∧ (Token.punctuation.lookup (digitChar d)).isNone ∧
      (Token.words.lookup (digitChar d)).isNone ∧ digitChar d ≠ '"' ∧
        (digitChar d = '-' || (digitChar d).isDigit) = true := by decide
    rcases hc with rfl | ⟨d, rfl⟩
    · decide
    · exact hdigits d
  obtain ⟨hspace, hpunct, hword, hquote, hnumeral⟩ := hstart
  have hfirst : Token.first c (ds ++ rest) = (.number n, rest) := by
    simp only [Token.first, Option.isNone_iff_eq_none.1 hpunct, Option.isNone_iff_eq_none.1 hword, if_neg hquote,
      if_pos hnumeral, Token.scanNumber, hscan]
  rw [tokens_cons hspace, hfirst]

/-- A spelling is cut off as its token; only behind a numeral does it matter what follows. -/
theorem tokens_spells {t : Token} {cs rest : List Char} (ht : t.Spells cs) (h : t.IsNumber → Delimited rest) :
    tokens (cs ++ rest) = t :: tokens rest := by
  cases ht with
  | openObject | closeObject | openArray | closeArray | comma | colon =>
    exact tokens_punctuation (by decide) rfl rest
  | null => exact tokens_word ['u', 'l', 'l'] (by decide) (by decide) rfl rest
  | true => exact tokens_word ['r', 'u', 'e'] (by decide) (by decide) rfl rest
  | false => exact tokens_word ['a', 'l', 's', 'e'] (by decide) (by decide) rfl rest
  | number hn => exact tokens_number hn (h ⟨_, rfl⟩)
  | text hs =>
    rw [List.append_assoc]
    exact tokens_text hs rest

/-! ## Layouts -/

/-- A text of white space. -/
def IsSpacing (cs : List Char) : Prop := ∀ c ∈ cs, Token.isSpace c = true

instance (cs : List Char) : Decidable (IsSpacing cs) := decidable_of_iff (cs.all Token.isSpace = true) List.all_eq_true

/-- A text that spells tokens one after another, with any white space before, between and behind them. -/
inductive Lays : List Token → List Char → Prop
  | nil {spaces : List Char} : IsSpacing spaces → Lays [] spaces
  | cons {t : Token} {ts : List Token} {spaces cs ds : List Char} : IsSpacing spaces → t.Spells cs → Lays ts ds →
      Lays (t :: ts) (spaces ++ (cs ++ ds))

/-- There need not be white space in front. -/
theorem Lays.tight {t : Token} {ts : List Token} {cs ds : List Char} (ht : t.Spells cs) (h : Lays ts ds) :
    Lays (t :: ts) (cs ++ ds) := .cons (show IsSpacing [] from nofun) ht h

theorem lays_single {t : Token} {cs : List Char} (ht : t.Spells cs) : Lays [t] cs := by
  rw [← List.append_nil cs]
  exact .tight ht (.nil nofun)

/-- White space may be put in front. -/
theorem Lays.spaced {ts : List Token} {spaces cs : List Char} (hs : IsSpacing spaces) (h : Lays ts cs) :
    Lays ts (spaces ++ cs) := by
  cases h with
  | nil hs' => exact .nil fun c hc => (List.mem_append.1 hc).elim (hs c) (hs' c)
  | cons hs' ht h =>
    rw [← List.append_assoc]
    exact .cons (fun c hc => (List.mem_append.1 hc).elim (hs c) (hs' c)) ht h

theorem Lays.append {ts us : List Token} {cs ds : List Char} (h : Lays ts cs) (h' : Lays us ds) :
    Lays (ts ++ us) (cs ++ ds) := by
  induction h with
  | nil hs => exact h'.spaced hs
  | cons hs ht _ ih =>
    rw [List.cons_append, List.append_assoc, List.append_assoc]
    exact .cons hs ht ih

/-- Behind each numeral the tokens go on with one that ends it, or not at all. -/
def Separated (ts : List Token) : Prop := ts.IsChain fun t u => t.IsNumber → u.Ends

theorem separated_cons {t : Token} {ts : List Token} (ht : t.IsNumber → ∀ u ∈ ts.head?, u.Ends) (h : Separated ts) :
    Separated (t :: ts) := List.isChain_cons.2 ⟨fun u hu hn => ht hn u hu, h⟩

/-- The text behind a numeral cannot carry it on. -/
theorem Lays.delimited {ts : List Token} {cs : List Char} (h : Lays ts cs) (hends : ∀ t ∈ ts.head?, t.Ends) :
    Delimited cs := by
  have hspace : ∀ {c : Char}, Token.isSpace c = true → digit? c = none ∧ c ≠ '.' ∧ c ≠ 'e' ∧ c ≠ 'E' := by
    intro c hc
    simp only [Token.isSpace, Bool.or_eq_true, beq_iff_eq] at hc
    rcases hc with ((rfl | rfl) | rfl) | rfl <;> decide
  cases h with
  | nil hs =>
    cases cs with
    | nil => exact delimited_nil
    | cons c cs => exact delimited_cons (hspace (hs c List.mem_cons_self)) cs
  | @cons t _ spaces _ _ hs ht _ =>
    cases spaces with
    | nil =>
      -- the token that ends the numeral is one of three characters
      cases hends t rfl <;> cases ht <;> exact delimited_cons (by decide) _
    | cons c spaces => exact delimited_cons (hspace (hs c List.mem_cons_self)) _

theorem tokens_spaced {spaces : List Char} (hs : IsSpacing spaces) (cs : List Char) :
    tokens (spaces ++ cs) = tokens cs := by
  induction spaces with
  | nil => rfl
  | cons c spaces ih =>
    rw [List.cons_append, tokens, if_pos (hs c List.mem_cons_self)]
    exact ih fun d hd => hs d (List.mem_cons_of_mem _ hd)

/-- **A text is cut into the tokens that it lays out.** -/
theorem tokens_of_lays {ts : List Token} {cs : List Char} (h : Lays ts cs) (hsep : Separated ts) : tokens cs = ts := by
  induction h with
  | nil hs =>
    have hnil := tokens_spaced hs []
    rwa [List.append_nil, show tokens [] = [] by rw [tokens]] at hnil
  | cons hs ht hrest ih =>
    obtain ⟨hnext, hsep⟩ := List.isChain_cons.1 hsep
    rw [tokens_spaced hs, tokens_spells ht fun hn => hrest.delimited fun u hu => hnext u hu hn, ih hsep]

end ComponentDirective.Json
