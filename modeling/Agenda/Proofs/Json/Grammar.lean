import Agenda.Json.Token
import Agenda.Proofs.Text.Decimal
/-!
# The grammar of JSON

Which texts stand for which values, said without a reader.

* `Json.Inside` — the insides of strings: characters as they are, by a letter after a backslash, or by
  16-bit units, of which two may make up one character.
* `Json.Numeral.Written` — numerals: a whole part without leading zeros, perhaps a sign before it and
  a fraction and an exponent after it.
* `Json.Token.Written`, `Json.Token.Spells` — the texts of a token and of a sequence of tokens: one
  after the other, with blanks wherever they please.
* `Json.tokens`, `Json.Text` — the tokens of a value, and its texts.
-/

set_option autoImplicit false

namespace Agenda.Json

/-! ## Strings -/

/-- A 16-bit unit that is half of a pair. -/
def IsSurrogate (unit : Nat) : Prop := 0xD800 ≤ unit ∧ unit < 0xE000

/-- Two 16-bit units that make up one character. -/
def IsPair (high low : Nat) : Prop := 0xD800 ≤ high ∧ high < 0xDC00 ∧ 0xDC00 ≤ low ∧ low < 0xE000

/-- The character that a pair of units makes up. -/
def ofPair (high low : Nat) : Char :=
  Char.ofNat (0x10000 + (high - 0xD800) * 0x400 + (low - 0xDC00))

/-- A 16-bit unit by four hexadecimal digits in either case. -/
def WrittenUnit (unit : Nat) (s : List Char) : Prop :=
  ∃ a b c d, s = ['\\', 'u', a, b, c, d] ∧ Hex.quad? a b c d = some unit

/-- What may stand between the quotes of a string. -/
inductive Inside : List Point → List Char → Prop where
  | nil : Inside [] []
  /-- A character as it is; quotes, backslashes and control characters may not stand for
  themselves. -/
  | plain {c : Char} {points : List Point} {s : List Char} :
    c ≠ '"' → c ≠ '\\' → 0x20 ≤ c.toNat → Inside points s →
      Inside (.scalar c :: points) (c :: s)
  /-- A character by its letter. -/
  | letter {c letter : Char} {points : List Point} {s : List Char} :
    Token.unescape? letter = some c → Inside points s →
      Inside (.scalar c :: points) ('\\' :: letter :: s)
  /-- A character by its unit. -/
  | unit {unit : Nat} {points : List Point} {t s : List Char} :
    WrittenUnit unit t → ¬ IsSurrogate unit → Inside points s →
      Inside (.scalar (Char.ofNat unit) :: points) (t ++ s)
  /-- A character by a pair of units. -/
  | pair {high low : Nat} {points : List Point} {t u s : List Char} :
    WrittenUnit high t → WrittenUnit low u → IsPair high low → Inside points s →
      Inside (.scalar (ofPair high low) :: points) (t ++ (u ++ s))
  /-- Half of a pair whose other half does not follow. -/
  | half {unit : Nat} {points : List Point} {t s : List Char} :
    WrittenUnit unit t → IsSurrogate unit →
      (∀ low rest, points = .surrogate low :: rest → ¬ IsPair unit low) → Inside points s →
      Inside (.surrogate unit :: points) (t ++ s)

/-! ## Numerals -/

/-- The whole part of a numeral: a zero alone, or digits that start with no zero. -/
def IsWhole (s : List Char) : Prop := s = ['0'] ∨ Decimal.Digits s ∧ s.head? ≠ some '0'

/-- A point and digits, or nothing. -/
def IsFraction (s : List Char) : Prop := s = [] ∨ ∃ ds, Decimal.Digits ds ∧ s = '.' :: ds

/-- Digits after an optional sign. -/
def IsScale (s : List Char) : Prop :=
  ∃ ds, Decimal.Digits ds ∧ (s = ds ∨ s = '+' :: ds ∨ s = '-' :: ds)

/-- The letter of the exponent in either case and its scale, or nothing. -/
def IsExponent (s : List Char) : Prop :=
  s = [] ∨ ∃ ds, IsScale ds ∧ (s = 'e' :: ds ∨ s = 'E' :: ds)

/-- A fraction and an exponent, either of which may be missing. -/
def IsTail (s : List Char) : Prop :=
  ∃ fraction exponent, IsFraction fraction ∧ IsExponent exponent ∧ s = fraction ++ exponent

/-- The texts of a number.  An integer has no fraction and no exponent, and a zero that is an integer
has no sign. -/
inductive Numeral.Written : Numeral → List Char → Prop where
  | natural {whole : List Char} :
    IsWhole whole → Written (.integer (Decimal.placeValue whole)) whole
  | negative {whole : List Char} :
    IsWhole whole → Decimal.placeValue whole ≠ 0 →
      Written (.integer (-Decimal.placeValue whole)) ('-' :: whole)
  | negativeZero {whole : List Char} :
    IsWhole whole → Decimal.placeValue whole = 0 → Written (.real ('-' :: whole)) ('-' :: whole)
  | unsignedReal {whole tail : List Char} :
    IsWhole whole → IsTail tail → tail ≠ [] → Written (.real (whole ++ tail)) (whole ++ tail)
  | negativeReal {whole tail : List Char} :
    IsWhole whole → IsTail tail → tail ≠ [] →
      Written (.real ('-' :: whole ++ tail)) ('-' :: whole ++ tail)

/-! ## Tokens -/

namespace Token

/-- The texts of a token. -/
inductive Written : Token → List Char → Prop where
  | openBracket : Written .openBracket ['[']
  | closeBracket : Written .closeBracket [']']
  | openBrace : Written .openBrace ['\x7b']
  | closeBrace : Written .closeBrace ['\x7d']
  | comma : Written .comma [',']
  | colon : Written .colon [':']
  | null : Written .null ['n', 'u', 'l', 'l']
  | true : Written (.bool true) ['t', 'r', 'u', 'e']
  | false : Written (.bool false) ['f', 'a', 'l', 's', 'e']
  | number {n : Numeral} {s : List Char} : n.Written s → Written (.number n) s
  | string {points : List Point} {s : List Char} :
    Inside points s → Written (.string points) ('"' :: s ++ ['"'])

/-- The texts of a sequence of tokens, given the texts of each.  Blanks may stand anywhere but inside
a token. -/
inductive Spells (writes : Token → List Char → Prop) : List Token → List Char → Prop where
  | nil : Spells writes [] []
  | blank {ts : List Token} {c : Char} {s : List Char} :
    isSpace c = true → Spells writes ts s → Spells writes ts (c :: s)
  | token {t : Token} {ts : List Token} {text s : List Char} :
    writes t text → Spells writes ts s → Spells writes (t :: ts) (text ++ s)

namespace Spells

variable {writes writes' : Token → List Char → Prop} {ts ts' : List Token} {s s' : List Char}

theorem blanks (h : ∀ c ∈ s, isSpace c = true) : Spells writes [] s := by
  induction s with
  | nil => exact .nil
  | cons c cs ih =>
    obtain ⟨hc, hcs⟩ := List.forall_mem_cons.1 h
    exact .blank hc (ih hcs)

theorem singleton {t : Token} (h : writes t s) : Spells writes [t] s := by
  have hall := Spells.token h .nil
  rwa [List.append_nil] at hall

/-- Texts one after the other spell their tokens one after the other. -/
theorem append (h : Spells writes ts s) (h' : Spells writes ts' s') :
    Spells writes (ts ++ ts') (s ++ s') := by
  induction h with
  | nil => exact h'
  | blank hc _ ih => exact .blank hc ih
  | token ht _ ih =>
    rw [List.append_assoc]
    exact .token ht ih

theorem imp (h : Spells writes ts s) (himp : ∀ t ∈ ts, ∀ text, writes t text → writes' t text) :
    Spells writes' ts s := by
  induction h with
  | nil => exact .nil
  | blank hc _ ih => exact .blank hc (ih himp)
  | token ht _ ih =>
    obtain ⟨hfirst, hrest⟩ := List.forall_mem_cons.1 himp
    exact .token (hfirst _ ht) (ih hrest)

end Spells

end Token

/-! ## Values -/

mutual

/-- The tokens of a value. -/
def tokens : Json → List Token
  | null => [.null]
  | bool b => [.bool b]
  | number n => [.number n]
  | string s => [.string s]
  | array [] => [.openBracket, .closeBracket]
  | array (v :: vs) => .openBracket :: tokens v ++ elementTokens vs ++ [.closeBracket]
  | object [] => [.openBrace, .closeBrace]
  | object ((name, v) :: ms) =>
    .openBrace :: .string name :: .colon :: tokens v ++ memberTokens ms ++ [.closeBrace]

/-- The tokens of further elements. -/
def elementTokens : List Json → List Token
  | [] => []
  | v :: vs => .comma :: tokens v ++ elementTokens vs

/-- The tokens of further members. -/
def memberTokens : List (List Point × Json) → List Token
  | [] => []
  | (name, v) :: ms => .comma :: .string name :: .colon :: tokens v ++ memberTokens ms

end

/-- A text stands for a value: it spells the tokens of the value and nothing else. -/
def Text (v : Json) (s : List Char) : Prop := Token.Spells Token.Written (tokens v) s

end Agenda.Json
