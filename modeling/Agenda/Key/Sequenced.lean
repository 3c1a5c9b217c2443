/-!
# Keys that carry a sequence number

A queue gives items of equal priority back in no particular order.  A `Sequenced` key settles ties by
a number that its owner counts up: of two equal keys the one numbered earlier is less.
-/

set_option autoImplicit false

namespace Agenda

/-- A key and the sequence number that settles its ties: a word, unless another type is named. -/
structure Sequenced (K : Type) (S : Type := UInt64) where
  key : K
  sequence : S
  deriving DecidableEq

namespace Sequenced

/-- Keys first; equal keys by their sequence numbers. -/
instance {K S : Type} [Ord K] [Ord S] : Ord (Sequenced K S) where
  compare a b := (compare a.key b.key).then (compare a.sequence b.sequence)

end Sequenced

end Agenda
