import Agenda.Json.Reader
import Agenda.Proofs.Json.Token
/-!
# JSON values, read

* `ofTokens?_tokens` — the tokens of a value are put together to this value, at any depth.
* `Reading.Read` — the tokens after which reading has come so far; one more token is one more
  (`Reading.step_read`), so that nothing but the tokens of a value is read as this value
  (`eq_tokens_of_ofTokens?`).
* `parse?_eq_some_iff` — **a text is read as the value that it stands for**: the reader takes the
  texts of the grammar and no others, and no text stands for two values (`Text.unique`).
-/

set_option autoImplicit false

namespace Agenda.Json

/-! ## Putting tokens together -/

namespace Reading

theorem foldlM_cons_of_step {r r' : Reading} {t : Token} (h : step r t = some r')
    (ts : List Token) : (t :: ts).foldlM step r = ts.foldlM step r' := by
  rw [List.foldlM_cons, h]
  rfl

theorem foldlM_append_of_foldlM {r r' : Reading} {ts : List Token} (h : ts.foldlM step r = some r')
    (ts' : List Token) : (ts ++ ts').foldlM step r = ts'.foldlM step r' := by
  rw [List.foldlM_append, h]
  rfl

/-- A first element is read like any other value. -/
theorem foldlM_tokens_firstElement (v : Json) (frames : List Frame) :
    (tokens v).foldlM step ⟨frames, .firstElement⟩ = (tokens v).foldlM step ⟨frames, .value⟩ := by
  cases v with
  | null | bool | number | string => rfl
  | array vs => cases vs <;> simp only [tokens] <;> rfl
  | object ms => cases ms <;> simp only [tokens] <;> rfl

mutual

/-- **The tokens of a value are put together to this value**, whatever is open around it. -/
theorem foldlM_tokens (v : Json) (frames : List Frame) :
    (tokens v).foldlM step ⟨frames, .value⟩ = deliver v frames := by
  match v with
  | .null | .bool _ | .number _ | .string _ =>
    simp only [tokens, List.foldlM_cons, step, openValue, List.foldlM_nil, bind_pure]
  | .array [] =>
    rw [tokens, foldlM_cons_of_step rfl]
    exact bind_pure _
  | .array (v :: vs) =>
    have hfirst := (foldlM_tokens_firstElement v (.array [] :: frames)).trans
      (foldlM_tokens v (.array [] :: frames))
    have hothers := foldlM_elementTokens vs [v] frames
    rw [tokens, List.append_assoc, List.cons_append, foldlM_cons_of_step rfl,
      foldlM_append_of_foldlM hfirst, foldlM_append_of_foldlM hothers]
    simp [step, close]
  | .object [] =>
    rw [tokens, foldlM_cons_of_step rfl]
    exact bind_pure _
  | .object ((name, v) :: ms) =>
    have hfirst := foldlM_tokens v (.member [] name :: frames)
    have hothers := foldlM_memberTokens ms [(name, v)] frames
    rw [tokens, List.append_assoc, List.cons_append, List.cons_append, List.cons_append,
      foldlM_cons_of_step rfl, foldlM_cons_of_step rfl, foldlM_cons_of_step rfl,
      foldlM_append_of_foldlM hfirst, foldlM_append_of_foldlM hothers]
    simp [step, close]

theorem foldlM_elementTokens (vs before : List Json) (frames : List Frame) :
    (elementTokens vs).foldlM step ⟨.array before :: frames, .separator⟩ =
      some ⟨.array (vs.reverse ++ before) :: frames, .separator⟩ := by
  match vs with
  | [] => rfl
  | v :: vs =>
    have hfirst := foldlM_tokens v (.array before :: frames)
    have hothers := foldlM_elementTokens vs (v :: before) frames
    rw [elementTokens, List.cons_append, foldlM_cons_of_step rfl, foldlM_append_of_foldlM hfirst,
      hothers]
    simp

theorem foldlM_memberTokens (ms before : List (List Point × Json)) (frames : List Frame) :
    (memberTokens ms).foldlM step ⟨.object before :: frames, .separator⟩ =
      some ⟨.object (ms.reverse ++ before) :: frames, .separator⟩ := by
  match ms with
  | [] => rfl
  | (name, v) :: ms =>
    have hfirst := foldlM_tokens v (.member before name :: frames)
    have hothers := foldlM_memberTokens ms ((name, v) :: before) frames
    rw [memberTokens, List.cons_append, List.cons_append, List.cons_append,
      foldlM_cons_of_step rfl, foldlM_cons_of_step rfl, foldlM_cons_of_step rfl,
      foldlM_append_of_foldlM hfirst, hothers]
    simp

end

/-! ## Nothing else is put together -/

/-- The elements read so far, the latest first, each with a comma behind it. -/
def elementsRead (before : List Json) : List Token :=
  before.reverse.flatMap fun v => tokens v ++ [.comma]

/-- The members read so far, the latest first, each with a comma behind it. -/
def membersRead (before : List (List Point × Json)) : List Token :=
  before.reverse.flatMap fun m => .string m.1 :: .colon :: tokens m.2 ++ [.comma]

/-- The tokens that open a container and lead up to what comes next in it. -/
def frameTokens : Frame → List Token
  | .array before => .openBracket :: elementsRead before
  | .object before => .openBrace :: membersRead before
  | .member before name => .openBrace :: membersRead before ++ [.string name, .colon]

/-- The tokens that open all containers, the innermost of them first. -/
def framesTokens : List Frame → List Token
  | [] => []
  | frame :: frames => framesTokens frames ++ frameTokens frame

/-- The tokens after which reading has come so far. -/
def Read (r : Reading) (ts : List Token) : Prop :=
  match r.awaited with
  | .value => ts = framesTokens r.frames
  | .firstElement => (∃ frames, r.frames = .array [] :: frames) ∧ ts = framesTokens r.frames
  | .firstName => (∃ frames, r.frames = .object [] :: frames) ∧ ts = framesTokens r.frames
  | .name => ts = framesTokens r.frames
  -- the colon and the comma that come next are part of what the frames stand for
  | .colon => ts ++ [.colon] = framesTokens r.frames
  | .separator => ts ++ [.comma] = framesTokens r.frames
  | .nothing v => r.frames = [] ∧ ts = tokens v

theorem elementsRead_cons (v : Json) (before : List Json) :
    elementsRead (v :: before) = elementsRead before ++ (tokens v ++ [.comma]) := by
  simp [elementsRead]

theorem membersRead_cons (name : List Point) (v : Json) (before : List (List Point × Json)) :
    membersRead ((name, v) :: before) =
      membersRead before ++ (.string name :: .colon :: tokens v ++ [.comma]) := by
  simp [membersRead]

/-- A list of elements that each have a comma behind them is an array but for its last comma. -/
theorem flatMap_elements (v : Json) (vs : List Json) :
    ((v :: vs).flatMap fun v => tokens v ++ [.comma]) =
      tokens v ++ elementTokens vs ++ [.comma] := by
  induction vs generalizing v with
  | nil => simp [elementTokens]
  | cons w vs ih =>
    rw [List.flatMap_cons, ih, elementTokens]
    simp

theorem flatMap_members (name : List Point) (v : Json) (ms : List (List Point × Json)) :
    (((name, v) :: ms).flatMap fun m => .string m.1 :: .colon :: tokens m.2 ++ [.comma]) =
      .string name :: .colon :: tokens v ++ memberTokens ms ++ [.comma] := by
  induction ms generalizing name v with
  | nil => simp [memberTokens]
  | cons m ms ih =>
    obtain ⟨name', w⟩ := m
    rw [List.flatMap_cons, ih, memberTokens]
    simp

/-- A value is read in the place where its containers lead up to. -/
theorem deliver_read {v : Json} {frames : List Frame} {r : Reading}
    (h : deliver v frames = some r) : r.Read (framesTokens frames ++ tokens v) := by
  match frames with
  | [] =>
    cases h
    exact ⟨rfl, rfl⟩
  | .array before :: frames =>
    cases h
    simp [Read, framesTokens, frameTokens, elementsRead_cons]
  | .member before name :: frames =>
    cases h
    simp [Read, framesTokens, frameTokens, membersRead_cons]
  | .object before :: frames => cases h

theorem openValue_read {frames : List Frame} {t : Token} {r : Reading}
    (h : openValue frames t = some r) : r.Read (framesTokens frames ++ [t]) := by
  cases t with
  | null | bool | number | string =>
    have hread := deliver_read h
    rwa [tokens] at hread
  | openBracket =>
    cases h
    exact ⟨⟨frames, rfl⟩, rfl⟩
  | openBrace =>
    cases h
    exact ⟨⟨frames, rfl⟩, rfl⟩
  | closeBracket | closeBrace | comma | colon => cases h

theorem openMember_read {frames : List Frame} {t : Token} {r : Reading}
    (h : openMember frames t = some r) : r.Read (framesTokens frames ++ [t]) := by
  unfold openMember at h
  split at h
  · cases h
    simp [Read, framesTokens, frameTokens]
  · cases h

/-- A container that is closed where it is still empty. -/
theorem close_empty_read {frames : List Frame} {t : Token} {r : Reading}
    (hempty : frames.head? = some (.array []) ∨ frames.head? = some (.object []))
    (h : close frames t = some r) : r.Read (framesTokens frames ++ [t]) := by
  unfold close at h
  split at h
  · obtain rfl : _ = [] := by simpa using hempty
    have hread := deliver_read h
    simpa [framesTokens, frameTokens, elementsRead, tokens] using hread
  · obtain rfl : _ = [] := by simpa using hempty
    have hread := deliver_read h
    simpa [framesTokens, frameTokens, membersRead, tokens] using hread
  · cases h

/-- With a bracket in place of the last comma, the elements read so far are an array. -/
theorem append_closeBracket {before : List Json} {us ts : List Token}
    (h : ts ++ [.comma] = us ++ frameTokens (.array before)) :
    ts ++ [.closeBracket] = us ++ tokens (.array before.reverse) := by
  rw [frameTokens, elementsRead] at h
  cases hbefore : before.reverse with
  | nil =>
    rw [hbefore] at h
    have hlast := congrArg List.getLast? h
    simp at hlast
  | cons v vs =>
    rw [hbefore, flatMap_elements] at h
    have hcomma : ts ++ [.comma] =
        us ++ .openBracket :: (tokens v ++ elementTokens vs) ++ [.comma] := by
      rw [h]
      simp
    rw [List.append_cancel_right hcomma, tokens]
    simp

/-- With a brace in place of the last comma, the members read so far are an object. -/
theorem append_closeBrace {before : List (List Point × Json)} {us ts : List Token}
    (h : ts ++ [.comma] = us ++ frameTokens (.object before)) :
    ts ++ [.closeBrace] = us ++ tokens (.object before.reverse) := by
  rw [frameTokens, membersRead] at h
  cases hbefore : before.reverse with
  | nil =>
    rw [hbefore] at h
    have hlast := congrArg List.getLast? h
    simp at hlast
  | cons m ms =>
    obtain ⟨name, v⟩ := m
    rw [hbefore, flatMap_members] at h
    have hcomma : ts ++ [.comma] =
        us ++ .openBrace :: .string name :: .colon :: (tokens v ++ memberTokens ms) ++ [.comma] := by
      rw [h]
      simp
    rw [List.append_cancel_right hcomma, tokens]
    simp

/-- A container that is closed where a comma might stand. -/
theorem close_read {frames : List Frame} {t : Token} {r : Reading} {ts : List Token}
    (hts : ts ++ [.comma] = framesTokens frames) (h : close frames t = some r) :
    r.Read (ts ++ [t]) := by
  unfold close at h
  split at h
  · rw [append_closeBracket hts]
    exact deliver_read h
  · rw [append_closeBrace hts]
    exact deliver_read h
  · cases h

/-- **One token more is one token more that was read.** -/
theorem step_read {r r' : Reading} {t : Token} {ts : List Token} (hr : r.Read ts)
    (h : step r t = some r') : r'.Read (ts ++ [t]) := by
  obtain ⟨frames, awaited⟩ := r
  cases awaited with
  | value =>
    obtain rfl : ts = framesTokens frames := hr
    exact openValue_read h
  | firstElement =>
    obtain ⟨⟨frames, rfl⟩, rfl⟩ := hr
    cases t with
    | closeBracket => exact close_empty_read (.inl rfl) h
    | _ => exact openValue_read h
  | firstName =>
    obtain ⟨⟨frames, rfl⟩, rfl⟩ := hr
    cases t with
    | closeBrace => exact close_empty_read (.inr rfl) h
    | _ => exact openMember_read h
  | name =>
    obtain rfl : ts = framesTokens frames := hr
    exact openMember_read h
  | colon =>
    cases t with
    | colon =>
      cases h
      exact hr
    | _ => cases h
  | separator =>
    cases t with
    | comma =>
      simp only [step] at h
      split at h
      · cases h
        exact hr
      · cases h
        exact hr
      · cases h
    | _ => exact close_read hr h
  | nothing v => cases t <;> cases h

/-- The tokens that were read are those that the reading stands for. -/
theorem foldlM_read {r r' : Reading} {ts us : List Token} (hr : r.Read ts)
    (h : us.foldlM step r = some r') : r'.Read (ts ++ us) := by
  induction us generalizing r ts with
  | nil =>
    cases h
    rwa [List.append_nil]
  | cons u us ih =>
    rw [List.foldlM_cons, Option.bind_eq_bind, Option.bind_eq_some_iff] at h
    obtain ⟨next, hstep, hrest⟩ := h
    have hall := ih (step_read hr hstep) hrest
    rwa [List.append_assoc] at hall

end Reading

/-- **The tokens of a value are put together to this value.** -/
theorem ofTokens?_tokens (v : Json) : ofTokens? (tokens v) = some v := by
  simp [ofTokens?, Reading.start, Reading.foldlM_tokens, Reading.deliver, Reading.result?]

/-- **No other tokens are put together to it.** -/
theorem eq_tokens_of_ofTokens? {ts : List Token} {v : Json} (h : ofTokens? ts = some v) :
    ts = tokens v := by
  simp only [ofTokens?, Option.bind_eq_bind, Option.bind_eq_some_iff] at h
  obtain ⟨r, hfold, hresult⟩ := h
  have hread : r.Read ([] ++ ts) := Reading.foldlM_read (r := Reading.start) rfl hfold
  obtain ⟨frames, awaited⟩ := r
  cases awaited with
  | nothing w =>
    obtain rfl : w = v := Option.some.inj hresult
    exact hread.2
  | _ => cases hresult

/-! ## Texts -/

open Token

theorem apart_cons {t : Token} {ts : List Token} (ht : ¬ t.IsNumber) (hts : Apart ts) :
    Apart (t :: ts) :=
  List.isChain_cons.2 ⟨fun _ _ hnumber => absurd hnumber ht, hts⟩

theorem apart_append {ts us : List Token} (hts : Apart ts) (hus : Apart us)
    (hfirst : ∀ u ∈ us.head?, ¬ u.IsNumber) : Apart (ts ++ us) :=
  List.isChain_append.2 ⟨hts, hus, fun _ _ u hu _ => hfirst u hu⟩

theorem apart_concat {t : Token} {ts : List Token} (hts : Apart ts) (ht : ¬ t.IsNumber) :
    Apart (ts ++ [t]) := by
  refine apart_append hts (List.isChain_singleton t) fun u hu => ?_
  obtain rfl : t = u := Option.some.inj hu
  exact ht

theorem head_elementTokens (vs : List Json) : ∀ u ∈ (elementTokens vs).head?, ¬ u.IsNumber := by
  cases vs <;> simp [elementTokens, IsNumber]

theorem head_memberTokens (ms : List (List Point × Json)) :
    ∀ u ∈ (memberTokens ms).head?, ¬ u.IsNumber := by
  cases ms <;> simp [memberTokens, IsNumber]

mutual

/-- No two numbers of a value stand side by side: commas, colons and brackets come between them. -/
theorem apart_tokens (v : Json) : Apart (tokens v) := by
  match v with
  | .null | .bool _ | .number _ | .string _ => exact List.isChain_singleton _
  | .array [] | .object [] => simp [tokens, Apart, IsNumber]
  | .array (v :: vs) =>
    have hall := apart_append (apart_tokens v) (apart_elementTokens vs) (head_elementTokens vs)
    exact apart_concat (apart_cons id hall) id
  | .object ((name, v) :: ms) =>
    have hall := apart_append (apart_tokens v) (apart_memberTokens ms) (head_memberTokens ms)
    exact apart_concat (apart_cons id (apart_cons id (apart_cons id hall))) id

theorem apart_elementTokens (vs : List Json) : Apart (elementTokens vs) := by
  match vs with
  | [] => exact .nil
  | v :: vs =>
    have hall := apart_append (apart_tokens v) (apart_elementTokens vs) (head_elementTokens vs)
    exact apart_cons id hall

theorem apart_memberTokens (ms : List (List Point × Json)) : Apart (memberTokens ms) := by
  match ms with
  | [] => exact .nil
  | (name, v) :: ms =>
    have hall := apart_append (apart_tokens v) (apart_memberTokens ms) (head_memberTokens ms)
    exact apart_cons id (apart_cons id (apart_cons id hall))

end

/-- **A text is read as the value that it stands for**, and no other text is read as this value. -/
theorem parse?_eq_some_iff {s : List Char} {v : Json} : parse? s = some v ↔ Text v s := by
  simp only [parse?, Option.bind_eq_bind, Option.bind_eq_some_iff]
  constructor
  · rintro ⟨ts, hts, hv⟩
    obtain rfl := eq_tokens_of_ofTokens? hv
    exact spells_of_ofChars? hts
  · intro h
    exact ⟨tokens v, ofChars?_of_spells h (apart_tokens v), ofTokens?_tokens v⟩

/-- No text stands for two values. -/
theorem Text.unique {s : List Char} {v w : Json} (hv : Text v s) (hw : Text w s) : v = w :=
  Option.some.inj ((parse?_eq_some_iff.2 hv).symm.trans (parse?_eq_some_iff.2 hw))

end Agenda.Json
