import Agenda.Json.Printer
import Agenda.Proofs.Json.Reader
/-!
# JSON values, written

What is written belongs to the grammar, whatever its layout.

* `Token.chars` — the text that a token is written as; with or without blanks, a value is written as
  its tokens one after the other (`compact_spells`, `prettyAt_spells`).
* `Json.Plain` — values of texts and integers only.  The grammar gives their tokens what they are
  written as (`written_chars`), so that both forms are texts of the value (`text_compact`,
  `text_pretty`).
-/

set_option autoImplicit false

namespace Agenda.Json

/-! ## Tokens -/

namespace Token

/-- The text that a token is written as. -/
def chars : Token → List Char
  | .openBracket => ['[']
  | .closeBracket => [']']
  | .openBrace => ['\x7b']
  | .closeBrace => ['\x7d']
  | .comma => [',']
  | .colon => [':']
  | .null => ['n', 'u', 'l', 'l']
  | .bool true => ['t', 'r', 'u', 'e']
  | .bool false => ['f', 'a', 'l', 's', 'e']
  | .number n => n.chars
  | .string s => quoted s

/-- Numbers that are integers, and strings that are texts. -/
def Plain : Token → Prop
  | .number n => ∃ z, n = .integer z
  | .string s => ∃ text, s = pointsOf text
  | _ => True

theorem unescape?_of_escapeLetter? {c letter : Char} (h : escapeLetter? c = some letter) :
    unescape? letter = some c := by
  simp only [escapeLetter?, beq_iff_eq] at h
  split_ifs at h <;> cases h <;> subst_vars <;> rfl

/-- The unit of a control character is written by its four digits. -/
theorem writtenUnit_escapeUnit : ∀ unit < 0x20, WrittenUnit unit (escapeUnit unit) := by
  have hdigits : ∀ unit < 0x20,
      Hex.padded 4 unit = ['0', '0', (unit / 16).digitChar, (unit % 16).digitChar] ∧
      Hex.quad? '0' '0' (unit / 16).digitChar (unit % 16).digitChar = some unit := by decide
  intro unit hunit
  obtain ⟨hpadded, hquad⟩ := hdigits unit hunit
  exact ⟨'0', '0', _, _, congrArg ('\\' :: 'u' :: ·) hpadded, hquad⟩

/-- A character is written by a letter, by its unit, or as it is. -/
theorem inside_escape {points : List Point} {s : List Char} (c : Char) (h : Inside points s) :
    Inside (.scalar c :: points) (escape (.scalar c) ++ s) := by
  rw [escape]
  cases hletter : escapeLetter? c with
  | some letter => exact .letter (unescape?_of_escapeLetter? hletter) h
  | none =>
    by_cases hcontrol : c.toNat < 0x20
    · have hsurrogate : ¬ IsSurrogate c.toNat := fun h => by
        have hlow := h.1
        omega
      have hunit := Inside.unit (writtenUnit_escapeUnit c.toNat hcontrol) hsurrogate h
      rw [Char.ofNat_toNat] at hunit
      simpa only [if_pos hcontrol] using hunit
    · have hquote : c ≠ '"' := by rintro rfl; cases hletter
      have hbackslash : c ≠ '\\' := by rintro rfl; cases hletter
      simp only [if_neg hcontrol]
      exact .plain hquote hbackslash (Nat.not_lt.1 hcontrol) h

theorem inside_pointsOf (text : String) :
    Inside (pointsOf text) ((pointsOf text).flatMap escape) := by
  unfold pointsOf
  induction text.toList with
  | nil => exact .nil
  | cons c cs ih => exact inside_escape c ih

/-- Nothing but zero is written with a zero in front. -/
theorem isWhole_ofNat (n : Nat) : IsWhole (Decimal.ofNat n) := by
  by_cases hn : n = 0
  · subst hn
    exact .inl rfl
  · refine .inr ⟨Decimal.digits_ofNat n, ?_⟩
    obtain ⟨d, ds, hdigits, -⟩ := (Decimal.digits_ofNat n).exists_cons
    rw [hdigits]
    intro hzero
    obtain rfl : d = '0' := Option.some.inj hzero
    exact Decimal.ofNat_ne_zero_cons hn ds hdigits

theorem written_ofInt (z : Int) : Numeral.Written (.integer z) (Decimal.ofInt z) := by
  cases z with
  | ofNat n =>
    have hwritten := Numeral.Written.natural (isWhole_ofNat n)
    rwa [Decimal.placeValue_ofNat] at hwritten
  | negSucc n =>
    have hvalue := Decimal.placeValue_ofNat (n + 1)
    have hne : Decimal.placeValue (Decimal.ofNat (n + 1)) ≠ 0 := by omega
    have hwritten := Numeral.Written.negative (isWhole_ofNat (n + 1)) hne
    rwa [hvalue] at hwritten

/-- **A plain token is written as the grammar has it.** -/
theorem written_chars {t : Token} (h : t.Plain) : t.Written t.chars := by
  cases t with
  | openBracket | closeBracket | openBrace | closeBrace | comma | colon | null => constructor
  | bool b => cases b <;> constructor
  | number n =>
    obtain ⟨z, rfl⟩ := h
    exact .number (written_ofInt z)
  | string points =>
    obtain ⟨text, rfl⟩ := h
    exact .string (inside_pointsOf text)

end Token

/-! ## Layouts -/

section Layout

open Token

/-- Tokens written one after the other, with blanks wherever they please. -/
abbrev SpellsChars (ts : List Token) (s : List Char) : Prop :=
  Spells (fun t text => text = t.chars) ts s

variable {ts : List Token} {s : List Char}

theorem spellsChars_cons (t : Token) (h : SpellsChars ts s) : SpellsChars (t :: ts) (t.chars ++ s) :=
  .token rfl h

theorem spellsChars_newline (depth : Nat) (h : SpellsChars ts s) :
    SpellsChars ts (newline depth ++ s) := by
  refine Spells.append (Spells.blanks fun c hc => ?_) h
  rcases List.mem_cons.1 hc with rfl | hc
  · rfl
  · rw [List.eq_of_mem_replicate hc]
    rfl

/-- A name before a value, with a blank in between. -/
theorem spellsChars_member (name : List Point) (h : SpellsChars ts s) :
    SpellsChars (.string name :: .colon :: ts) (quoted name ++ ':' :: ' ' :: s) :=
  spellsChars_cons (.string name) (spellsChars_cons .colon (.blank rfl h))

mutual

/-- **A value without blanks is a text of its tokens.** -/
theorem compact_spells (v : Json) : SpellsChars (tokens v) (compact v) := by
  match v with
  | .null => exact spellsChars_cons .null .nil
  | .bool true => exact spellsChars_cons (.bool true) .nil
  | .bool false => exact spellsChars_cons (.bool false) .nil
  | .number n => exact .singleton rfl
  | .string points => exact .singleton rfl
  | .array [] => exact spellsChars_cons .openBracket (spellsChars_cons .closeBracket .nil)
  | .array (v :: vs) =>
    have hentries := (compact_spells v).append (compactElements_spells vs)
    have hend := spellsChars_cons .closeBracket .nil
    exact spellsChars_cons .openBracket (hentries.append hend)
  | .object [] => exact spellsChars_cons .openBrace (spellsChars_cons .closeBrace .nil)
  | .object ((name, v) :: ms) =>
    have hentries := (compact_spells v).append (compactMembers_spells ms)
    have hend := spellsChars_cons .closeBrace .nil
    have hmember := spellsChars_cons (.string name) (spellsChars_cons .colon (hentries.append hend))
    have hall := spellsChars_cons .openBrace hmember
    simpa [tokens, compact, chars] using hall

theorem compactElements_spells (vs : List Json) :
    SpellsChars (elementTokens vs) (compactElements vs) := by
  match vs with
  | [] => exact .nil
  | v :: vs =>
    exact spellsChars_cons .comma ((compact_spells v).append (compactElements_spells vs))

theorem compactMembers_spells (ms : List (List Point × Json)) :
    SpellsChars (memberTokens ms) (compactMembers ms) := by
  match ms with
  | [] => exact .nil
  | (name, v) :: ms =>
    have hentries := (compact_spells v).append (compactMembers_spells ms)
    have hmember := spellsChars_cons (.string name) (spellsChars_cons .colon hentries)
    have hall := spellsChars_cons .comma hmember
    simpa [memberTokens, compactMembers, chars] using hall

end

mutual

/-- **A value over several lines is a text of its tokens.** -/
theorem prettyAt_spells (depth : Nat) (v : Json) : SpellsChars (tokens v) (prettyAt depth v) := by
  match v with
  | .null => exact spellsChars_cons .null .nil
  | .bool true => exact spellsChars_cons (.bool true) .nil
  | .bool false => exact spellsChars_cons (.bool false) .nil
  | .number n => exact .singleton rfl
  | .string points => exact .singleton rfl
  | .array [] => exact spellsChars_cons .openBracket (spellsChars_cons .closeBracket .nil)
  | .array (v :: vs) =>
    have hentries := (prettyAt_spells (depth + 1) v).append (prettyElements_spells (depth + 1) vs)
    have hend := spellsChars_newline depth (spellsChars_cons .closeBracket .nil)
    have hlines := spellsChars_newline (depth + 1) (hentries.append hend)
    have hall := spellsChars_cons .openBracket hlines
    simpa [tokens, prettyAt, chars] using hall
  | .object [] => exact spellsChars_cons .openBrace (spellsChars_cons .closeBrace .nil)
  | .object ((name, v) :: ms) =>
    have hentries := (prettyAt_spells (depth + 1) v).append (prettyMembers_spells (depth + 1) ms)
    have hend := spellsChars_newline depth (spellsChars_cons .closeBrace .nil)
    have hlines := spellsChars_newline (depth + 1) (spellsChars_member name (hentries.append hend))
    have hall := spellsChars_cons .openBrace hlines
    simpa [tokens, prettyAt, chars] using hall

theorem prettyElements_spells (depth : Nat) (vs : List Json) :
    SpellsChars (elementTokens vs) (prettyElements depth vs) := by
  match vs with
  | [] => exact .nil
  | v :: vs =>
    have hentries := (prettyAt_spells depth v).append (prettyElements_spells depth vs)
    have hall := spellsChars_cons .comma (spellsChars_newline depth hentries)
    simpa [elementTokens, prettyElements, chars] using hall

theorem prettyMembers_spells (depth : Nat) (ms : List (List Point × Json)) :
    SpellsChars (memberTokens ms) (prettyMembers depth ms) := by
  match ms with
  | [] => exact .nil
  | (name, v) :: ms =>
    have hentries := (prettyAt_spells depth v).append (prettyMembers_spells depth ms)
    have hlines := spellsChars_newline depth (spellsChars_member name hentries)
    have hall := spellsChars_cons .comma hlines
    simpa [memberTokens, prettyMembers, chars] using hall

end

end Layout

/-! ## Values -/

/-- A value of texts and integers only. -/
def Plain (v : Json) : Prop := ∀ t ∈ tokens v, t.Plain

theorem elementTokens_plain {vs : List Json} (h : ∀ v ∈ vs, v.Plain) :
    ∀ t ∈ elementTokens vs, t.Plain := by
  induction vs with
  | nil =>
    intro t ht
    cases ht
  | cons v vs ih =>
    obtain ⟨hv, hvs⟩ := List.forall_mem_cons.1 h
    rw [elementTokens, List.cons_append, List.forall_mem_cons]
    exact ⟨trivial, List.forall_mem_append.2 ⟨hv, ih hvs⟩⟩

theorem plain_array {vs : List Json} (h : ∀ v ∈ vs, v.Plain) : (array vs).Plain := by
  cases vs with
  | nil => simp [Plain, tokens, Token.Plain]
  | cons v vs =>
    obtain ⟨hv, hvs⟩ := List.forall_mem_cons.1 h
    rw [Plain, tokens, List.append_assoc, List.cons_append, List.forall_mem_cons]
    refine ⟨trivial, List.forall_mem_append.2 ⟨hv, List.forall_mem_append.2 ⟨?_, ?_⟩⟩⟩
    · exact elementTokens_plain hvs
    · exact List.forall_mem_singleton.2 trivial

/-- **A plain value without blanks is a text of this value.** -/
theorem text_compact {v : Json} (h : v.Plain) : Text v (compact v) := by
  refine (compact_spells v).imp fun t ht text htext => ?_
  rw [htext]
  exact Token.written_chars (h t ht)

/-- **A plain value over several lines is a text of this value**, blanks behind it or not. -/
theorem text_pretty {v : Json} {blanks : List Char} (h : v.Plain)
    (hblanks : ∀ c ∈ blanks, Token.isSpace c = true) : Text v (pretty v ++ blanks) := by
  have hpretty : Text v (pretty v) := by
    refine (prettyAt_spells 0 v).imp fun t ht text htext => ?_
    rw [htext]
    exact Token.written_chars (h t ht)
  have hall := hpretty.append (Token.Spells.blanks hblanks)
  rwa [List.append_nil] at hall

end Agenda.Json
