import Agenda.Json.Basic
import Agenda.Text.Hex
/-!
# JSON tokens

* `Json.Token` — brackets, separators, words, numerals and strings.
* `Json.Token.ofChars?` — the tokens of a text, without the blanks between them.  A text that does
  not fall into tokens has none.
* `string?`, `numeral?` — the two kinds of tokens that have an inside.

Each reader takes the text from where it stands and gives back what is left (`next?_length`: always
less), so reading ends with the text.
-/

set_option autoImplicit false

namespace Agenda.Json

/-- A piece of JSON text that has a meaning. -/
inductive Token where
  | openBracket
  | closeBracket
  | openBrace
  | closeBrace
  | comma
  | colon
  | null
  | bool (b : Bool)
  | number (n : Numeral)
  | string (s : List Point)
  deriving DecidableEq

namespace Token

/-- The blanks that may stand between tokens. -/
def isSpace (c : Char) : Bool := c == ' ' || c == '\t' || c == '\n' || c == '\r'

/-! ## Strings -/

/-- The character that a letter after a backslash stands for. -/
def unescape? : Char → Option Char
  | '"' => some '"'
  | '\\' => some '\\'
  | '/' => some '/'
  | 'b' => some '\x08'
  | 'f' => some '\x0c'
  | 'n' => some '\n'
  | 'r' => some '\r'
  | 't' => some '\t'
  | _ => none

/-- Puts a 16-bit unit before a string: a high surrogate joins a low one that follows it. -/
def consUnit (unit : Nat) (s : List Point) : List Point :=
  if 0xD800 ≤ unit ∧ unit < 0xE000 then
    match s with
    | .surrogate low :: rest =>
      if unit < 0xDC00 ∧ 0xDC00 ≤ low then
        .scalar (Char.ofNat (0x10000 + (unit - 0xD800) * 0x400 + (low - 0xDC00))) :: rest
      else .surrogate unit :: s
    | _ => .surrogate unit :: s
  else .scalar (Char.ofNat unit) :: s

/-- Reads the inside of a string up to the quote that ends it.  Control characters have to be
escaped. -/
def string? : List Char → Option (List Point × List Char)
  | [] => none
  | '"' :: rest => some ([], rest)
  | '\\' :: 'u' :: a :: b :: c :: d :: rest => do
    let unit ← Hex.quad? a b c d
    let (s, rest') ← string? rest
    return (consUnit unit s, rest')
  | '\\' :: letter :: rest => do
    let c ← unescape? letter
    let (s, rest') ← string? rest
    return (.scalar c :: s, rest')
  | c :: rest =>
    if c == '\\' || c.toNat < 0x20 then none
    else do
      let (s, rest') ← string? rest
      return (.scalar c :: s, rest')

/-! ## Numerals -/

/-- Reads one or more digits, as many as there are. -/
def digits? (s : List Char) : Option (List Char × List Char) :=
  match s.takeWhile Char.isDigit with
  | [] => none
  | digits => some (digits, s.dropWhile Char.isDigit)

/-- Reads the whole part of a numeral: a zero alone, or digits that start with no zero. -/
def whole? : List Char → Option (List Char × List Char)
  | '0' :: rest => some (['0'], rest)
  | s => digits? s

/-- Reads the fraction of a numeral, if a point announces one. -/
def fraction? : List Char → Option (List Char × List Char)
  | '.' :: rest => do
    let (digits, rest') ← digits? rest
    return ('.' :: digits, rest')
  | s => some ([], s)

/-- Reads the digits of an exponent after an optional sign. -/
def scale? : List Char → Option (List Char × List Char)
  | '+' :: rest => do
    let (digits, rest') ← digits? rest
    return ('+' :: digits, rest')
  | '-' :: rest => do
    let (digits, rest') ← digits? rest
    return ('-' :: digits, rest')
  | s => digits? s

/-- Reads the exponent of a numeral, if a letter announces one. -/
def exponent? : List Char → Option (List Char × List Char)
  | 'e' :: rest => do
    let (digits, rest') ← scale? rest
    return ('e' :: digits, rest')
  | 'E' :: rest => do
    let (digits, rest') ← scale? rest
    return ('E' :: digits, rest')
  | s => some ([], s)

/-- Reads a numeral that has no sign. -/
def magnitude? (s : List Char) : Option ((List Char × List Char) × List Char) := do
  let (whole, s₁) ← whole? s
  let (fraction, s₂) ← fraction? s₁
  let (exponent, s₃) ← exponent? s₂
  return ((whole, fraction ++ exponent), s₃)

/-- Reads a numeral. -/
def numeral? : List Char → Option (Numeral × List Char)
  | '-' :: s => do
    let ((whole, tail), rest) ← magnitude? s
    let n := Nat.ofDigitChars 10 whole 0
    if tail == [] && n != 0 then return (.integer (-n), rest)
    else return (.real ('-' :: whole ++ tail), rest)
  | s => do
    let ((whole, tail), rest) ← magnitude? s
    if tail == [] then return (.integer (Nat.ofDigitChars 10 whole 0), rest)
    else return (.real (whole ++ tail), rest)

/-! ## Texts -/

/-- Reads the token that a text starts with. -/
def next? : List Char → Option (Token × List Char)
  | '[' :: rest => some (.openBracket, rest)
  | ']' :: rest => some (.closeBracket, rest)
  | '\x7b' :: rest => some (.openBrace, rest)
  | '\x7d' :: rest => some (.closeBrace, rest)
  | ',' :: rest => some (.comma, rest)
  | ':' :: rest => some (.colon, rest)
  | 'n' :: 'u' :: 'l' :: 'l' :: rest => some (.null, rest)
  | 't' :: 'r' :: 'u' :: 'e' :: rest => some (.bool true, rest)
  | 'f' :: 'a' :: 'l' :: 's' :: 'e' :: rest => some (.bool false, rest)
  | '"' :: rest => do
    let (s, rest') ← string? rest
    return (.string s, rest')
  | s => do
    let (n, rest) ← numeral? s
    return (.number n, rest)

/-! ## What reading leaves -/

theorem string?_length {s rest : List Char} {points : List Point}
    (h : string? s = some (points, rest)) : rest.length < s.length := by
  fun_induction string? s generalizing points with
  | case1 => simp at h
  | case2 => simp_all
  | case3 a b c d tail ih =>
    simp only [Option.bind_eq_bind, Option.bind_eq_some_iff] at h
    obtain ⟨unit, _, ⟨points', rest'⟩, hs, h⟩ := h
    cases h
    have : rest'.length < tail.length := ih hs
    simp only [List.length_cons]
    omega
  | case4 letter tail _ ih =>
    simp only [Option.bind_eq_bind, Option.bind_eq_some_iff] at h
    obtain ⟨c, _, ⟨points', rest'⟩, hs, h⟩ := h
    cases h
    have : rest'.length < tail.length := ih hs
    simp only [List.length_cons]
    omega
  | case5 => simp at h
  | case6 c tail _ _ _ _ ih =>
    simp only [Option.bind_eq_bind, Option.bind_eq_some_iff] at h
    obtain ⟨⟨points', rest'⟩, hs, h⟩ := h
    cases h
    have : rest'.length < tail.length := ih hs
    simp only [List.length_cons]
    omega

theorem digits?_length {s digits rest : List Char} (h : digits? s = some (digits, rest)) :
    rest.length < s.length := by
  unfold digits? at h
  split at h
  · cases h
  · next hne =>
    cases h
    have whole : (s.takeWhile Char.isDigit ++ s.dropWhile Char.isDigit).length = s.length :=
      congrArg List.length List.takeWhile_append_dropWhile
    have := List.length_pos_iff.mpr hne
    rw [List.length_append] at whole
    omega

theorem whole?_length {s digits rest : List Char} (h : whole? s = some (digits, rest)) :
    rest.length < s.length := by
  unfold whole? at h
  split at h
  · cases h; simp
  · exact digits?_length h

theorem fraction?_length {s digits rest : List Char} (h : fraction? s = some (digits, rest)) :
    rest.length ≤ s.length := by
  unfold fraction? at h
  split at h
  · simp only [Option.bind_eq_bind, Option.bind_eq_some_iff] at h
    obtain ⟨⟨digits', rest'⟩, hd, h⟩ := h
    cases h
    have := digits?_length hd
    simp only [List.length_cons]
    omega
  · cases h; exact Nat.le_refl _

theorem scale?_length {s digits rest : List Char} (h : scale? s = some (digits, rest)) :
    rest.length < s.length := by
  unfold scale? at h
  split at h
  · simp only [Option.bind_eq_bind, Option.bind_eq_some_iff] at h
    obtain ⟨⟨digits', rest'⟩, hd, h⟩ := h
    cases h
    have := digits?_length hd
    simp only [List.length_cons]
    omega
  · simp only [Option.bind_eq_bind, Option.bind_eq_some_iff] at h
    obtain ⟨⟨digits', rest'⟩, hd, h⟩ := h
    cases h
    have := digits?_length hd
    simp only [List.length_cons]
    omega
  · exact digits?_length h

theorem exponent?_length {s digits rest : List Char} (h : exponent? s = some (digits, rest)) :
    rest.length ≤ s.length := by
  unfold exponent? at h
  split at h
  · simp only [Option.bind_eq_bind, Option.bind_eq_some_iff] at h
    obtain ⟨⟨digits', rest'⟩, hd, h⟩ := h
    cases h
    have := scale?_length hd
    simp only [List.length_cons]
    omega
  · simp only [Option.bind_eq_bind, Option.bind_eq_some_iff] at h
    obtain ⟨⟨digits', rest'⟩, hd, h⟩ := h
    cases h
    have := scale?_length hd
    simp only [List.length_cons]
    omega
  · cases h; exact Nat.le_refl _

theorem magnitude?_length {s rest : List Char} {parts : List Char × List Char}
    (h : magnitude? s = some (parts, rest)) : rest.length < s.length := by
  simp only [magnitude?, Option.bind_eq_bind, Option.bind_eq_some_iff] at h
  obtain ⟨⟨whole, s₁⟩, h₁, ⟨fraction, s₂⟩, h₂, ⟨exponent, s₃⟩, h₃, h⟩ := h
  cases h
  have : s₁.length < s.length := whole?_length h₁
  have : s₂.length ≤ s₁.length := fraction?_length h₂
  have : s₃.length ≤ s₂.length := exponent?_length h₃
  show s₃.length < s.length
  omega

theorem numeral?_length {s rest : List Char} {n : Numeral} (h : numeral? s = some (n, rest)) :
    rest.length < s.length := by
  unfold numeral? at h
  split at h
  · simp only [Option.bind_eq_bind, Option.bind_eq_some_iff] at h
    obtain ⟨⟨⟨whole, tail⟩, rest'⟩, hm, h⟩ := h
    have := magnitude?_length hm
    dsimp only at h
    rw [List.length_cons]
    split at h <;> cases h <;> omega
  · simp only [Option.bind_eq_bind, Option.bind_eq_some_iff] at h
    obtain ⟨⟨⟨whole, tail⟩, rest'⟩, hm, h⟩ := h
    have := magnitude?_length hm
    dsimp only at h
    split at h <;> cases h <;> exact this

theorem next?_length {s rest : List Char} {t : Token} (h : next? s = some (t, rest)) :
    rest.length < s.length := by
  unfold next? at h
  split at h
  case h_10 =>
    simp only [Option.bind_eq_bind, Option.bind_eq_some_iff] at h
    obtain ⟨⟨points, rest'⟩, hs, h⟩ := h
    cases h
    have := string?_length hs
    simp only [List.length_cons]
    omega
  case h_11 =>
    simp only [Option.bind_eq_bind, Option.bind_eq_some_iff] at h
    obtain ⟨⟨n, rest'⟩, hn, h⟩ := h
    cases h
    exact numeral?_length hn
  all_goals
    cases h
    simp only [List.length_cons]
    omega

/-- The tokens of a text. -/
def ofChars? (s : List Char) : Option (List Token) :=
  match s with
  | [] => some []
  | c :: cs =>
    if isSpace c then ofChars? cs
    else
      match _h : next? (c :: cs) with
      | none => none
      | some (t, rest) => (ofChars? rest).map (t :: ·)
termination_by s.length
decreasing_by
  · simp
  · exact next?_length _h

end Token

end Agenda.Json
