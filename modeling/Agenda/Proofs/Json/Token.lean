import Agenda.Proofs.Json.Grammar
/-!
# JSON tokens, read

The readers of tokens keep to the grammar: they take what it allows, as far as it goes, and nothing
else.

* `string?_of_inside`, `inside_of_string?` — the inside of a string, up to the quote that ends it.
* `numeral?_of_written`, `written_of_numeral?` — numerals, up to where they end.
* `next?_of_written`, `written_of_next?` — tokens.
* `ofChars?_of_spells`, `spells_of_ofChars?` — **texts fall into the tokens that they spell**, as long
  as no two numbers stand side by side.
-/

set_option autoImplicit false

namespace Agenda.Json

namespace Token

variable {s rest : List Char} {points : List Point}

/-! ## Strings -/

theorem surrogate_of_inside {unit : Nat} (h : Inside (.surrogate unit :: points) s) :
    IsSurrogate unit := by
  cases h with
  | half _ hsurrogate _ _ => exact hsurrogate

theorem consUnit_of_not_surrogate {unit : Nat} (h : ¬ IsSurrogate unit) (points : List Point) :
    consUnit unit points = .scalar (Char.ofNat unit) :: points :=
  if_neg h

theorem consUnit_pair {high low : Nat} (h : IsPair high low) (points : List Point) :
    consUnit high (consUnit low points) = .scalar (ofPair high low) :: points := by
  obtain ⟨hhigh, hhigh', hlow, hlow'⟩ := h
  have hpair : high < 0xDC00 ∧ 0xDC00 ≤ low := ⟨hhigh', hlow⟩
  have hlate : ¬ low < 0xDC00 := Nat.not_lt.2 hlow
  have hsurrogate : 0xD800 ≤ low ∧ low < 0xE000 := by omega
  have hsurrogate' : 0xD800 ≤ high ∧ high < 0xE000 := by omega
  have hsecond : consUnit low points = .surrogate low :: points := by
    unfold consUnit
    rw [if_pos hsurrogate]
    split
    · rw [if_neg fun h => hlate h.1]
    · rfl
  rw [hsecond]
  unfold consUnit
  rw [if_pos hsurrogate']
  exact if_pos hpair

theorem consUnit_half {unit : Nat} (h : IsSurrogate unit) (hpoints : Inside points s)
    (hhalf : ∀ low rest, points = .surrogate low :: rest → ¬ IsPair unit low) :
    consUnit unit points = .surrogate unit :: points := by
  unfold consUnit
  rw [if_pos (show 0xD800 ≤ unit ∧ unit < 0xE000 from h)]
  split
  · rename_i low rest
    rw [if_neg]
    rintro ⟨hhigh, hlow⟩
    exact hhalf low rest rfl ⟨h.1, hhigh, hlow, (surrogate_of_inside hpoints).2⟩
  · rfl

theorem string?_unit {unit : Nat} {t : List Char} (h : WrittenUnit unit t) (s : List Char) :
    string? (t ++ s) = (string? s).map fun (points, rest) => (consUnit unit points, rest) := by
  obtain ⟨a, b, c, d, rfl, hunit⟩ := h
  show string? ('\\' :: 'u' :: a :: b :: c :: d :: s) = _
  rw [string?, hunit]
  cases string? s <;> rfl

/-- **What may stand between quotes is read up to the quote that ends it.** -/
theorem string?_of_inside (h : Inside points s) (rest : List Char) :
    string? (s ++ '"' :: rest) = some (points, rest) := by
  induction h with
  | nil => rfl
  | @plain c points s hquote hbackslash hcontrol _ ih =>
    have hordinary : ¬ (c == '\\' || decide (c.toNat < 0x20)) = true := by
      simp [hbackslash, hcontrol]
    rw [List.cons_append, string?.eq_5 c _ hquote (fun _ _ _ _ _ h _ => hbackslash h)
      (fun _ _ h _ => hbackslash h), if_neg hordinary, ih]
    rfl
  | @letter c letter points s hletter _ ih =>
    have hu : letter ≠ 'u' := by rintro rfl; cases hletter
    rw [List.cons_append, List.cons_append,
      string?.eq_4 _ _ (fun _ _ _ _ _ h => absurd h hu), hletter, ih]
    rfl
  | unit hunit hsurrogate _ ih =>
    rw [List.append_assoc, string?_unit hunit, ih]
    exact congrArg (fun points => some (points, rest)) (consUnit_of_not_surrogate hsurrogate _)
  | pair hhigh hlow hpair _ ih =>
    rw [List.append_assoc, List.append_assoc, string?_unit hhigh, string?_unit hlow, ih]
    exact congrArg (fun points => some (points, rest)) (consUnit_pair hpair _)
  | half hunit hsurrogate hhalf hinside ih =>
    rw [List.append_assoc, string?_unit hunit, ih]
    exact congrArg (fun points => some (points, rest)) (consUnit_half hsurrogate hinside hhalf)

/-- A unit in front of the inside of a string stands there for itself, or makes up a character with
the one that follows it. -/
theorem inside_consUnit {unit : Nat} {t : List Char} (h : WrittenUnit unit t)
    (hinside : Inside points s) : Inside (consUnit unit points) (t ++ s) := by
  by_cases hsurrogate : IsSurrogate unit
  · by_cases hpair : ∃ low rest, points = .surrogate low :: rest ∧ IsPair unit low
    · obtain ⟨low, rest, rfl, hpair⟩ := hpair
      cases hinside with
      | half hlow hlowSurrogate hhalf hinside =>
        rw [← consUnit_half hlowSurrogate hinside hhalf, consUnit_pair hpair]
        exact .pair h hlow hpair hinside
    · have hhalf : ∀ low rest, points = .surrogate low :: rest → ¬ IsPair unit low :=
        fun low rest hpoints hlow => hpair ⟨low, rest, hpoints, hlow⟩
      rw [consUnit_half hsurrogate hinside hhalf]
      exact .half h hsurrogate hhalf hinside
  · rw [consUnit_of_not_surrogate hsurrogate]
    exact .unit h hsurrogate hinside

/-- Nothing else is read as the inside of a string. -/
theorem inside_of_string? (h : string? s = some (points, rest)) :
    ∃ inside, s = inside ++ '"' :: rest ∧ Inside points inside := by
  fun_induction string? s generalizing points with
  | case1 => cases h
  | case2 =>
    cases h
    exact ⟨[], rfl, .nil⟩
  | case3 a b c d tail ih =>
    simp only [Option.bind_eq_bind, Option.bind_eq_some_iff] at h
    obtain ⟨unit, hunit, ⟨points', rest'⟩, hs, h⟩ := h
    cases h
    obtain ⟨inside, rfl, hinside⟩ := ih hs
    exact ⟨['\\', 'u', a, b, c, d] ++ inside, rfl,
      inside_consUnit ⟨a, b, c, d, rfl, hunit⟩ hinside⟩
  | case4 letter tail _ ih =>
    simp only [Option.bind_eq_bind, Option.bind_eq_some_iff] at h
    obtain ⟨c, hc, ⟨points', rest'⟩, hs, h⟩ := h
    cases h
    obtain ⟨inside, rfl, hinside⟩ := ih hs
    exact ⟨'\\' :: letter :: inside, rfl, .letter hc hinside⟩
  | case5 => cases h
  | case6 c tail hquote _ _ hordinary ih =>
    simp only [Option.bind_eq_bind, Option.bind_eq_some_iff] at h
    obtain ⟨⟨points', rest'⟩, hs, h⟩ := h
    cases h
    obtain ⟨inside, rfl, hinside⟩ := ih hs
    simp only [Bool.or_eq_true, beq_iff_eq, decide_eq_true_eq, not_or, Nat.not_lt] at hordinary
    exact ⟨c :: inside, rfl, .plain hquote hordinary.1 hordinary.2 hinside⟩

/-! ## Parts of numerals -/

/-- The first character, if there is one, is not of a kind. -/
def HeadNot (kind : Char → Bool) (s : List Char) : Prop := ∀ c ∈ s.head?, kind c = false

theorem headNot_cons {kind : Char → Bool} {c : Char} (hc : kind c = false) (s : List Char) :
    HeadNot kind (c :: s) := by
  intro c' hc'
  obtain rfl : c = c' := Option.some.inj hc'
  exact hc

theorem HeadNot.ne_cons {kind : Char → Bool} (h : HeadNot kind s) {c : Char} (hc : kind c = true)
    (tail : List Char) : s ≠ c :: tail := by
  rintro rfl
  exact Bool.false_ne_true ((h c rfl).symm.trans hc)

theorem digits?_of_digits {ds : List Char} (h : Decimal.Digits ds)
    (hrest : HeadNot Char.isDigit rest) : digits? (ds ++ rest) = some (ds, rest) := by
  have hhead : rest.takeWhile Char.isDigit = [] ∧ rest.dropWhile Char.isDigit = rest := by
    cases rest with
    | nil => exact ⟨rfl, rfl⟩
    | cons c cs =>
      have hc : c.isDigit = false := hrest c rfl
      simp [hc]
  rw [digits?, List.takeWhile_append_of_pos h.all, List.dropWhile_append_of_pos h.all, hhead.1,
    hhead.2, List.append_nil]
  obtain ⟨d, ds, rfl, -⟩ := h.exists_cons
  rfl

theorem digits_of_digits? {ds : List Char} (h : digits? s = some (ds, rest)) :
    Decimal.Digits ds ∧ s = ds ++ rest := by
  unfold digits? at h
  split at h
  · cases h
  · next hne =>
    cases h
    exact ⟨⟨hne, fun c hc => List.all_eq_true.1 List.all_takeWhile c hc⟩,
      List.takeWhile_append_dropWhile.symm⟩

theorem whole?_of_isWhole {whole : List Char} (h : IsWhole whole)
    (hrest : HeadNot Char.isDigit rest) : whole? (whole ++ rest) = some (whole, rest) := by
  rcases h with rfl | ⟨hdigits, hzero⟩
  · rfl
  · rw [whole?.eq_2, digits?_of_digits hdigits hrest]
    intro tail htail
    obtain ⟨d, ds, rfl, -⟩ := hdigits.exists_cons
    obtain rfl : d = '0' := (List.cons.inj htail).1
    exact hzero rfl

theorem isWhole_of_whole? {whole : List Char} (h : whole? s = some (whole, rest)) :
    IsWhole whole ∧ s = whole ++ rest := by
  unfold whole? at h
  split at h
  · cases h
    exact ⟨.inl rfl, rfl⟩
  · next hzero =>
    obtain ⟨hdigits, rfl⟩ := digits_of_digits? h
    refine ⟨.inr ⟨hdigits, ?_⟩, rfl⟩
    obtain ⟨d, ds, rfl, -⟩ := hdigits.exists_cons
    intro hd
    obtain rfl : d = '0' := Option.some.inj hd
    exact hzero _ rfl

theorem fraction?_of_isFraction {fraction : List Char} (h : IsFraction fraction)
    (hrest : HeadNot Char.isDigit rest) (hpoint : HeadNot (· == '.') rest) :
    fraction? (fraction ++ rest) = some (fraction, rest) := by
  rcases h with rfl | ⟨ds, hdigits, rfl⟩
  · exact fraction?.eq_2 rest fun tail => hpoint.ne_cons rfl tail
  · rw [List.cons_append, fraction?, digits?_of_digits hdigits hrest]
    rfl

theorem isFraction_of_fraction? {fraction : List Char} (h : fraction? s = some (fraction, rest)) :
    IsFraction fraction ∧ s = fraction ++ rest := by
  unfold fraction? at h
  split at h
  · simp only [Option.bind_eq_bind, Option.bind_eq_some_iff] at h
    obtain ⟨⟨ds, rest'⟩, hd, h⟩ := h
    cases h
    obtain ⟨hdigits, rfl⟩ := digits_of_digits? hd
    exact ⟨.inr ⟨ds, hdigits, rfl⟩, rfl⟩
  · cases h
    exact ⟨.inl rfl, rfl⟩

theorem scale?_of_isScale {scale : List Char} (h : IsScale scale)
    (hrest : HeadNot Char.isDigit rest) : scale? (scale ++ rest) = some (scale, rest) := by
  obtain ⟨ds, hdigits, rfl | rfl | rfl⟩ := h
  · obtain ⟨d, ds', rfl, -⟩ := hdigits.exists_cons
    have hsign := hdigits.ne_sign
    rw [scale?.eq_3, digits?_of_digits hdigits hrest]
    · exact fun _ h => hsign.2 (List.cons.inj h).1
    · exact fun _ h => hsign.1 (List.cons.inj h).1
  · rw [List.cons_append, scale?, digits?_of_digits hdigits hrest]
    rfl
  · rw [List.cons_append, scale?, digits?_of_digits hdigits hrest]
    rfl

theorem isScale_of_scale? {scale : List Char} (h : scale? s = some (scale, rest)) :
    IsScale scale ∧ s = scale ++ rest := by
  unfold scale? at h
  split at h
  · simp only [Option.bind_eq_bind, Option.bind_eq_some_iff] at h
    obtain ⟨⟨ds, rest'⟩, hd, h⟩ := h
    cases h
    obtain ⟨hdigits, rfl⟩ := digits_of_digits? hd
    exact ⟨⟨ds, hdigits, .inr (.inl rfl)⟩, rfl⟩
  · simp only [Option.bind_eq_bind, Option.bind_eq_some_iff] at h
    obtain ⟨⟨ds, rest'⟩, hd, h⟩ := h
    cases h
    obtain ⟨hdigits, rfl⟩ := digits_of_digits? hd
    exact ⟨⟨ds, hdigits, .inr (.inr rfl)⟩, rfl⟩
  · obtain ⟨hdigits, rfl⟩ := digits_of_digits? h
    exact ⟨⟨scale, hdigits, .inl rfl⟩, rfl⟩

/-- Whether a character announces an exponent. -/
def isMark (c : Char) : Bool := c == 'e' || c == 'E'

theorem exponent?_of_isExponent {exponent : List Char} (h : IsExponent exponent)
    (hrest : HeadNot Char.isDigit rest) (hmark : HeadNot isMark rest) :
    exponent? (exponent ++ rest) = some (exponent, rest) := by
  rcases h with rfl | ⟨scale, hscale, rfl | rfl⟩
  · exact exponent?.eq_3 rest (fun tail => hmark.ne_cons rfl tail) fun tail =>
      hmark.ne_cons rfl tail
  · rw [List.cons_append, exponent?, scale?_of_isScale hscale hrest]
    rfl
  · rw [List.cons_append, exponent?, scale?_of_isScale hscale hrest]
    rfl

theorem isExponent_of_exponent? {exponent : List Char} (h : exponent? s = some (exponent, rest)) :
    IsExponent exponent ∧ s = exponent ++ rest := by
  unfold exponent? at h
  split at h
  · simp only [Option.bind_eq_bind, Option.bind_eq_some_iff] at h
    obtain ⟨⟨scale, rest'⟩, hd, h⟩ := h
    cases h
    obtain ⟨hscale, rfl⟩ := isScale_of_scale? hd
    exact ⟨.inr ⟨scale, hscale, .inl rfl⟩, rfl⟩
  · simp only [Option.bind_eq_bind, Option.bind_eq_some_iff] at h
    obtain ⟨⟨scale, rest'⟩, hd, h⟩ := h
    cases h
    obtain ⟨hscale, rfl⟩ := isScale_of_scale? hd
    exact ⟨.inr ⟨scale, hscale, .inr rfl⟩, rfl⟩
  · cases h
    exact ⟨.inl rfl, rfl⟩

/-! ## Numerals -/

/-- Whether a character may go on a numeral. -/
def goesOn (c : Char) : Bool := c.isDigit || c == '.' || isMark c

/-- A numeral may end before this text. -/
abbrev Stops (s : List Char) : Prop := HeadNot goesOn s

/-- The parts of a numeral are told apart by their first characters. -/
theorem magnitude?_of_isTail {whole tail : List Char} (hwhole : IsWhole whole) (htail : IsTail tail)
    (h : Stops rest) : magnitude? (whole ++ tail ++ rest) = some ((whole, tail), rest) := by
  obtain ⟨fraction, exponent, hfraction, hexponent, rfl⟩ := htail
  have hstops : HeadNot Char.isDigit rest ∧ HeadNot (· == '.') rest ∧ HeadNot isMark rest := by
    have hparts : ∀ c ∈ rest.head?, c.isDigit = false ∧ (c == '.') = false ∧ isMark c = false := by
      intro c hc
      have hall : goesOn c = false := h c hc
      simpa only [goesOn, Bool.or_eq_false_iff, and_assoc] using hall
    exact ⟨fun c hc => (hparts c hc).1, fun c hc => (hparts c hc).2.1, fun c hc =>
      (hparts c hc).2.2⟩
  obtain ⟨hdigit, hpoint, hmark⟩ := hstops
  have hafterFraction : HeadNot Char.isDigit (exponent ++ rest) ∧
      HeadNot (· == '.') (exponent ++ rest) := by
    rcases hexponent with rfl | ⟨scale, -, rfl | rfl⟩
    · exact ⟨hdigit, hpoint⟩
    · exact ⟨headNot_cons rfl _, headNot_cons rfl _⟩
    · exact ⟨headNot_cons rfl _, headNot_cons rfl _⟩
  have hafterWhole : HeadNot Char.isDigit (fraction ++ (exponent ++ rest)) := by
    rcases hfraction with rfl | ⟨ds, -, rfl⟩
    · exact hafterFraction.1
    · exact headNot_cons rfl _
  rw [List.append_assoc, List.append_assoc, magnitude?, whole?_of_isWhole hwhole hafterWhole]
  simp [fraction?_of_isFraction hfraction hafterFraction.1 hafterFraction.2,
    exponent?_of_isExponent hexponent hdigit hmark]

theorem isTail_of_magnitude? {whole tail : List Char}
    (h : magnitude? s = some ((whole, tail), rest)) :
    IsWhole whole ∧ IsTail tail ∧ s = whole ++ tail ++ rest := by
  simp only [magnitude?, Option.bind_eq_bind, Option.bind_eq_some_iff] at h
  obtain ⟨⟨whole', s₁⟩, h₁, ⟨fraction, s₂⟩, h₂, ⟨exponent, s₃⟩, h₃, h⟩ := h
  cases h
  obtain ⟨hwhole, rfl⟩ := isWhole_of_whole? h₁
  obtain ⟨hfraction, rfl⟩ := isFraction_of_fraction? h₂
  obtain ⟨hexponent, rfl⟩ := isExponent_of_exponent? h₃
  refine ⟨hwhole, ⟨fraction, exponent, hfraction, hexponent, rfl⟩, ?_⟩
  rw [List.append_assoc, List.append_assoc]

theorem isTail_nil : IsTail [] := ⟨[], [], .inl rfl, .inl rfl, rfl⟩

theorem exists_cons_of_isWhole {whole : List Char} (h : IsWhole whole) :
    ∃ d ds, whole = d :: ds ∧ d.isDigit = true := by
  rcases h with rfl | ⟨hdigits, -⟩
  · exact ⟨'0', [], rfl, rfl⟩
  · exact hdigits.exists_cons

/-- A numeral without a sign is read by its parts. -/
theorem numeral?_of_isWhole {whole : List Char} (hwhole : IsWhole whole) (s : List Char) :
    numeral? (whole ++ s) = (do
      let ((whole, tail), rest) ← magnitude? (whole ++ s)
      if tail == [] then return (.integer (Nat.ofDigitChars 10 whole 0), rest)
      else return (.real (whole ++ tail), rest)) := by
  rw [numeral?.eq_2]
  intro tail htail
  obtain ⟨d, ds, rfl, hd⟩ := exists_cons_of_isWhole hwhole
  obtain rfl : d = '-' := (List.cons.inj htail).1
  cases hd

/-- **A numeral is read up to where it ends.** -/
theorem numeral?_of_written {n : Numeral} {text : List Char} (h : n.Written text)
    (hrest : Stops rest) : numeral? (text ++ rest) = some (n, rest) := by
  cases h with
  | natural hwhole =>
    have hread := magnitude?_of_isTail hwhole isTail_nil hrest
    rw [List.append_nil] at hread
    rw [numeral?_of_isWhole hwhole, hread]
    simp [Decimal.ofDigitChars_eq_placeValue]
  | negative hwhole hvalue =>
    have hread := magnitude?_of_isTail hwhole isTail_nil hrest
    rw [List.append_nil] at hread
    rw [List.cons_append, numeral?, hread]
    simp [Decimal.ofDigitChars_eq_placeValue, hvalue]
  | negativeZero hwhole hvalue =>
    have hread := magnitude?_of_isTail hwhole isTail_nil hrest
    rw [List.append_nil] at hread
    rw [List.cons_append, numeral?, hread]
    simp [Decimal.ofDigitChars_eq_placeValue, hvalue]
  | unsignedReal hwhole htail hne =>
    have hread := magnitude?_of_isTail hwhole htail hrest
    rw [List.append_assoc] at hread ⊢
    rw [numeral?_of_isWhole hwhole, hread]
    simp [hne]
  | negativeReal hwhole htail hne =>
    have hread := magnitude?_of_isTail hwhole htail hrest
    rw [List.cons_append, List.cons_append, numeral?, hread]
    simp [hne]

/-- Nothing else is read as a numeral. -/
theorem written_of_numeral? {n : Numeral} (h : numeral? s = some (n, rest)) :
    ∃ text, s = text ++ rest ∧ n.Written text := by
  unfold numeral? at h
  split at h
  · simp only [Option.bind_eq_bind, Option.bind_eq_some_iff] at h
    obtain ⟨⟨⟨whole, tail⟩, rest'⟩, hm, h⟩ := h
    obtain ⟨hwhole, htail, rfl⟩ := isTail_of_magnitude? hm
    rw [Decimal.ofDigitChars_eq_placeValue] at h
    dsimp only at h
    split at h
    · next hinteger =>
      cases h
      simp only [Bool.and_eq_true, beq_iff_eq, bne_iff_ne, ne_eq] at hinteger
      obtain ⟨rfl, hvalue⟩ := hinteger
      exact ⟨'-' :: whole, by simp, .negative hwhole hvalue⟩
    · next hreal =>
      cases h
      by_cases hne : tail = []
      · subst hne
        have hvalue : Decimal.placeValue whole = 0 := by simpa using hreal
        rw [List.append_nil, List.append_nil]
        exact ⟨'-' :: whole, rfl, .negativeZero hwhole hvalue⟩
      · exact ⟨'-' :: whole ++ tail, rfl, .negativeReal hwhole htail hne⟩
  · simp only [Option.bind_eq_bind, Option.bind_eq_some_iff] at h
    obtain ⟨⟨⟨whole, tail⟩, rest'⟩, hm, h⟩ := h
    obtain ⟨hwhole, htail, rfl⟩ := isTail_of_magnitude? hm
    rw [Decimal.ofDigitChars_eq_placeValue] at h
    dsimp only at h
    split at h
    · next hinteger =>
      cases h
      obtain rfl : tail = [] := beq_iff_eq.1 hinteger
      exact ⟨whole, by simp, .natural hwhole⟩
    · next hreal =>
      cases h
      have hne : tail ≠ [] := fun heq => hreal (beq_iff_eq.2 heq)
      exact ⟨whole ++ tail, rfl, .unsignedReal hwhole htail hne⟩

/-! ## Tokens -/

/-- Whether a token is a number. -/
def IsNumber : Token → Prop
  | .number _ => True
  | _ => False

/-- A text that starts with a minus or a digit starts with a numeral, if with any token. -/
theorem next?_of_numeral {c : Char} (hc : c = '-' ∨ c.isDigit = true) (s : List Char) :
    next? (c :: s) = (numeral? (c :: s)).map fun (n, rest) => (.number n, rest) := by
  unfold next?
  split
  case h_11 => cases numeral? (c :: s) <;> rfl
  -- no other token starts with a minus or a digit
  all_goals
    next heq =>
      obtain ⟨rfl, -⟩ := List.cons.inj heq
      exact absurd hc (by decide)

theorem exists_cons_of_written {n : Numeral} {text : List Char} (h : n.Written text) :
    ∃ c cs, text = c :: cs ∧ (c = '-' ∨ c.isDigit = true) := by
  cases h with
  | natural hwhole =>
    obtain ⟨d, ds, rfl, hd⟩ := exists_cons_of_isWhole hwhole
    exact ⟨d, ds, rfl, .inr hd⟩
  | unsignedReal hwhole =>
    obtain ⟨d, ds, rfl, hd⟩ := exists_cons_of_isWhole hwhole
    exact ⟨d, _, rfl, .inr hd⟩
  | negative | negativeZero | negativeReal => exact ⟨'-', _, rfl, .inl rfl⟩

/-- **A token is read up to where it ends.** -/
theorem next?_of_written {t : Token} {text : List Char} (h : t.Written text)
    (hrest : t.IsNumber → Stops rest) : next? (text ++ rest) = some (t, rest) := by
  cases h with
  | openBracket | closeBracket | openBrace | closeBrace | comma | colon | null | true | false => rfl
  | number hwritten =>
    obtain ⟨c, cs, rfl, hc⟩ := exists_cons_of_written hwritten
    rw [List.cons_append, next?_of_numeral hc, ← List.cons_append,
      numeral?_of_written hwritten (hrest trivial)]
    rfl
  | @string points s hinside =>
    show next? ('"' :: (s ++ ['"'] ++ rest)) = _
    rw [List.append_assoc, next?, List.singleton_append, string?_of_inside hinside]
    rfl

/-- Nothing else is read as a token. -/
theorem written_of_next? {t : Token} (h : next? s = some (t, rest)) :
    ∃ text, s = text ++ rest ∧ t.Written text := by
  unfold next? at h
  split at h
  case h_10 =>
    simp only [Option.bind_eq_bind, Option.bind_eq_some_iff] at h
    obtain ⟨⟨points, rest'⟩, hs, h⟩ := h
    cases h
    obtain ⟨inside, rfl, hinside⟩ := inside_of_string? hs
    exact ⟨'"' :: inside ++ ['"'], by simp, .string hinside⟩
  case h_11 =>
    simp only [Option.bind_eq_bind, Option.bind_eq_some_iff] at h
    obtain ⟨⟨n, rest'⟩, hn, h⟩ := h
    cases h
    obtain ⟨text, rfl, hwritten⟩ := written_of_numeral? hn
    exact ⟨text, rfl, .number hwritten⟩
  all_goals
    cases h
    exact ⟨_, rfl, by constructor⟩

/-! ## Texts -/

/-- No two numbers stand side by side: without a blank, one would go on the other. -/
def Apart (ts : List Token) : Prop := ts.IsChain fun t u => t.IsNumber → ¬ u.IsNumber

theorem ofChars?_space {c : Char} (hc : isSpace c = true) (s : List Char) :
    ofChars? (c :: s) = ofChars? s := by
  rw [ofChars?, if_pos hc]

theorem next?_space {c : Char} (hc : isSpace c = true) (s : List Char) : next? (c :: s) = none := by
  simp only [isSpace, Bool.or_eq_true, beq_iff_eq] at hc
  obtain ((rfl | rfl) | rfl) | rfl := hc <;> rfl

theorem ofChars?_of_next? {t : Token} (h : next? s = some (t, rest)) :
    ofChars? s = (ofChars? rest).map (t :: ·) := by
  cases s with
  | nil => cases h
  | cons c cs =>
    have hc : ¬ isSpace c = true := by
      intro hc
      rw [next?_space hc] at h
      cases h
    rw [ofChars?, if_neg hc]
    split <;> simp_all

/-- A numeral ends before blanks and before any other token. -/
theorem stops_of_spells {ts : List Token} (h : Spells Written ts s)
    (hfirst : ∀ t ∈ ts.head?, ¬ t.IsNumber) : Stops s := by
  cases h with
  | nil =>
    intro c hc
    cases hc
  | blank hc _ =>
    simp only [isSpace, Bool.or_eq_true, beq_iff_eq] at hc
    obtain ((rfl | rfl) | rfl) | rfl := hc <;> exact headNot_cons rfl _
  | @token t ts text s ht _ =>
    have hnumber : ¬ t.IsNumber := hfirst t rfl
    cases ht with
    | number => exact absurd trivial hnumber
    | openBracket | closeBracket | openBrace | closeBrace | comma | colon | null | true | false
    | string => exact headNot_cons rfl _

/-- **A text falls into the tokens that it spells.** -/
theorem ofChars?_of_spells {ts : List Token} (h : Spells Written ts s) (hapart : Apart ts) :
    ofChars? s = some ts := by
  induction h with
  | nil => rw [ofChars?]
  | blank hc _ ih => rw [ofChars?_space hc, ih hapart]
  | @token t ts text s ht hs ih =>
    obtain ⟨hnext, hrest⟩ := List.isChain_cons.1 hapart
    have hstops : t.IsNumber → Stops s := fun hnumber =>
      stops_of_spells hs fun u hu => hnext u hu hnumber
    rw [ofChars?_of_next? (next?_of_written ht hstops), ih hrest, Option.map_some]

/-- A text spells the tokens that it falls into. -/
theorem spells_of_ofChars? {ts : List Token} (h : ofChars? s = some ts) : Spells Written ts s := by
  fun_induction ofChars? s generalizing ts with
  | case1 =>
    cases h
    exact .nil
  | case2 c cs hc ih => exact .blank hc (ih h)
  | case3 => cases h
  | case4 c cs hc t rest hnext ih =>
    obtain ⟨us, hus, rfl⟩ := Option.map_eq_some_iff.1 h
    obtain ⟨text, heq, hwritten⟩ := written_of_next? hnext
    rw [heq]
    exact .token hwritten (ih hus)

end Token

end Agenda.Json
