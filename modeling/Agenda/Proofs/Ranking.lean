import Agenda.Item
import Agenda.Ranking
/-!
# Laws of rankings

A queue asks its ranking one question, and what the queue promises is stated against an order of
the priorities.  The two need not be the same.

* `StrictWeak.not_trans` — in a strict weak order "does not precede" is transitive, across ties
  too.
* `Lenient` — the answers are those of an order, except that ties may be answered either way.  Any
  answers at all are lenient towards the order in which everything is tied (`indifferent`).
* `Tied`, `Item.Leads` — neither priority precedes the other; one item may leave before another.
* `StrictWeak.ofCompare`, `QueueOrder.strictWeak` — a lawful comparison is a strict weak order, so
  both orders of a lawfully ordered type are; their ties are equalities (`QueueOrder.eq_of_tied`).
-/

set_option autoImplicit false

namespace Agenda

variable {V P : Type} {lt precedes : P → P → Bool}

/-- Neither of two priorities precedes the other. -/
def Tied (lt : P → P → Bool) (a b : P) : Prop := lt a b = false ∧ lt b a = false

/-! ## Strict weak orders -/

namespace StrictWeak

theorem asymm (h : StrictWeak lt) {a b : P} (hab : lt a b = true) : lt b a = false := by
  cases hba : lt b a with
  | false => rfl
  | true => rw [← h.irrefl a]; exact (h.trans a b a hab hba).symm

theorem not_trans (h : StrictWeak lt) {a b c : P} (hba : lt b a = false) (hcb : lt c b = false) :
    lt c a = false := by
  cases hca : lt c a with
  | false => rfl
  | true =>
    -- were one of the two steps no tie, it would contradict the other one
    have hab : lt a b = false := by
      cases hab : lt a b with
      | false => rfl
      | true => rw [← hcb]; exact (h.trans c a b hca hab).symm
    have hbc : lt b c = false := by
      cases hbc : lt b c with
      | false => rfl
      | true => rw [← hba]; exact (h.trans b c a hbc hca).symm
    rw [← hca]
    exact (h.tie_trans c b a hcb hbc hba hab).1

end StrictWeak

/-! ## Lawful comparisons -/

theorem compare_eq_of_tied (cmp : P → P → Ordering) [Std.OrientedCmp cmp] {a b : P}
    (h : Tied (fun a b => cmp a b == .lt) a b) : cmp a b = .eq := by
  obtain ⟨hab, hba⟩ := h
  simp only [beq_eq_false_iff_ne, ne_eq] at hab hba
  cases hcmp : cmp a b with
  | lt => exact absurd hcmp hab
  | eq => rfl
  | gt => exact absurd (Std.OrientedCmp.lt_of_gt hcmp) hba

/-- **A lawful comparison is a strict weak order**, read as "compares as less". -/
theorem StrictWeak.ofCompare (cmp : P → P → Ordering) [Std.TransCmp cmp] :
    StrictWeak fun a b => cmp a b == .lt := by
  refine ⟨fun a => ?_, fun a b c hab hbc => ?_, fun a b c hab hba hbc hcb => ?_⟩
  · simp [Std.ReflCmp.compare_self]
  · simp only [beq_iff_eq] at hab hbc ⊢
    exact Std.TransCmp.lt_trans hab hbc
  · have hac := Std.TransCmp.eq_trans (compare_eq_of_tied cmp ⟨hab, hba⟩)
      (compare_eq_of_tied cmp ⟨hbc, hcb⟩)
    have hca := Std.OrientedCmp.eq_symm hac
    simp [hac, hca]

namespace QueueOrder

variable [Ord P] [Std.TransOrd P]

theorem strictWeak (order : QueueOrder) : StrictWeak (order.ranking : Ranking P).precedes := by
  cases order with
  | min => exact StrictWeak.ofCompare fun a b : P => compare a b
  | max => exact StrictWeak.ofCompare fun a b : P => compare b a

theorem eq_of_tied [Std.LawfulEqOrd P] (order : QueueOrder) {a b : P}
    (h : Tied (order.ranking : Ranking P).precedes a b) : a = b := by
  cases order with
  | min => exact Std.LawfulEqOrd.eq_of_compare (compare_eq_of_tied (fun a b : P => compare a b) h)
  | max =>
    have hba := compare_eq_of_tied (fun a b : P => compare b a) h
    exact (Std.LawfulEqOrd.eq_of_compare hba).symm

end QueueOrder

/-! ## Lenient answers -/

/-- Answers that keep to an order but for its ties, which may be answered either way. -/
structure Lenient (lt precedes : P → P → Bool) : Prop where
  of_lt : ∀ a b, lt a b = true → precedes a b = true
  not_gt : ∀ a b, precedes a b = true → lt b a = false

/-- A strict weak order answers for itself. -/
theorem StrictWeak.lenient (h : StrictWeak lt) : Lenient lt lt :=
  ⟨fun _ _ hab => hab, fun _ _ hab => h.asymm hab⟩

/-- "At most" is lenient towards "less". -/
theorem isLE_lenient (cmp : P → P → Ordering) [Std.OrientedCmp cmp] :
    Lenient (fun a b => cmp a b == .lt) fun a b => (cmp a b).isLE := by
  refine ⟨fun a b hab => ?_, fun a b hab => ?_⟩
  · simp only [beq_iff_eq] at hab
    rw [hab]; rfl
  · simp only [beq_eq_false_iff_ne, ne_eq]
    exact Std.OrientedCmp.not_lt_of_isLE hab

/-- The order in which all priorities are tied. -/
def indifferent (_ _ : P) : Bool := false

theorem indifferent_strictWeak : StrictWeak (indifferent : P → P → Bool) :=
  ⟨fun _ => rfl, fun _ _ _ h _ => h, fun _ _ _ _ _ _ _ => ⟨rfl, rfl⟩⟩

/-- Where all is tied, any answer will do. -/
theorem indifferent_lenient (precedes : P → P → Bool) : Lenient indifferent precedes :=
  ⟨fun _ _ h => Bool.noConfusion h, fun _ _ _ => rfl⟩

/-! ## Items -/

namespace Item

variable {x y z : Item V P}

/-- One item may leave before another: the other does not precede it. -/
def Leads (lt : P → P → Bool) (x y : Item V P) : Prop := lt y.priority x.priority = false

theorem Leads.refl (h : StrictWeak lt) (x : Item V P) : Leads lt x x := h.irrefl x.priority

theorem Leads.trans (h : StrictWeak lt) (hxy : Leads lt x y) (hyz : Leads lt y z) :
    Leads lt x z :=
  h.not_trans hxy hyz

theorem leads_of_precedes (h : Lenient lt precedes)
    (hxy : precedes x.priority y.priority = true) : Leads lt x y :=
  h.not_gt _ _ hxy

theorem leads_of_not_precedes (h : Lenient lt precedes)
    (hyx : precedes y.priority x.priority = false) : Leads lt x y := by
  unfold Leads
  cases hlt : lt y.priority x.priority with
  | false => rfl
  | true => rw [← hyx]; exact (h.of_lt _ _ hlt).symm

theorem tied_of_leads (hxy : Leads lt x y) (hyx : Leads lt y x) :
    Tied lt x.priority y.priority :=
  ⟨hyx, hxy⟩

end Item

end Agenda
