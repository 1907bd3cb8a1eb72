import TypedSearch.Proofs.Search.Rank
import TypedSearch.Search.Order

/-!
The order of documents that sort keys ask for, beside the one in which they are compared. A key puts a
document before another one for its rank, in the direction of the key, or for a value that the other
one lacks, in either direction. Where the values of two documents can be compared, the two orders are
the same, so there the comparison is transitive.
-/

namespace TypedSearch

namespace SortKey

variable {key : SortKey} {keys : List SortKey} {left middle right : Json}

/-- What a key sorts a document by. -/
def rankIn? (key : SortKey) (document : Json) : Option Rank :=
  (document.atPath? key.target.path).bind key.target.rank?

/-- A key puts one document before another: for a value that the other lacks, or for values that are
in its direction. -/
inductive Precedes (key : SortKey) (left right : Json) : Prop where
  | present {value : Json} (held : left.atPath? key.target.path = some value)
      (lacking : right.atPath? key.target.path = none)
  | ascending {low high : Rank} (upwards : key.descending = false)
      (first : key.rankIn? left = some low) (second : key.rankIn? right = some high)
      (below : low.Below high)
  | descending {low high : Rank} (downwards : key.descending = true)
      (first : key.rankIn? left = some high) (second : key.rankIn? right = some low)
      (below : low.Below high)

/-- A key makes no difference between two documents: both lack the value, or both values are sorted by
the same. -/
inductive Ties (key : SortKey) (left right : Json) : Prop where
  | lacking (first : left.atPath? key.target.path = none)
      (second : right.atPath? key.target.path = none)
  | level {rank : Rank} (first : key.rankIn? left = some rank)
      (second : key.rankIn? right = some rank)

/-- The values that a key finds in two documents can be compared, if it finds any in both. -/
def Compares (key : SortKey) (left right : Json) : Prop :=
  ∀ value ∈ left.atPath? key.target.path, ∀ other ∈ right.atPath? key.target.path,
    (key.target.order? value other).isSome

instance (key : SortKey) (left right : Json) : Decidable (key.Compares left right) :=
  inferInstanceAs (Decidable (∀ value ∈ left.atPath? key.target.path,
    ∀ other ∈ right.atPath? key.target.path, (key.target.order? value other).isSome))

theorem Compares.symm (compared : key.Compares left right) : key.Compares right left := by
  intro value held other found
  rw [Target.order?_swap, Option.isSome_map]
  exact compared other found value held

/-- What is sorted by something is there. -/
theorem present_of_rank {document : Json} {rank : Rank} (ranked : key.rankIn? document = some rank) :
    ∃ value, document.atPath? key.target.path = some value ∧ key.target.rank? value = some rank :=
  Option.bind_eq_some_iff.mp ranked

theorem order_of_precedes (precedes : key.Precedes left right) : key.order left right = .lt := by
  cases precedes with
  | present held lacking => simp only [order, held, lacking]
  | ascending upwards first second below =>
    obtain ⟨value, held, low⟩ := present_of_rank first
    obtain ⟨other, found, high⟩ := present_of_rank second
    have less : key.target.order? value other = some .lt :=
      Target.order?_eq_some_iff.mpr ⟨_, _, low, high, Rank.order?_eq_lt_iff.mpr below⟩
    simp [order, held, found, less, upwards]
  | descending downwards first second below =>
    obtain ⟨value, held, high⟩ := present_of_rank first
    obtain ⟨other, found, low⟩ := present_of_rank second
    have greater : key.target.order? value other = some .gt :=
      Target.order?_eq_some_iff.mpr ⟨_, _, high, low, Rank.order?_eq_gt_iff.mpr below⟩
    simp [order, held, found, greater, downwards]

theorem order_of_ties (ties : key.Ties left right) : key.order left right = .eq := by
  cases ties with
  | lacking first second => simp only [order, first, second]
  | level first second =>
    obtain ⟨value, held, rank⟩ := present_of_rank first
    obtain ⟨other, found, same⟩ := present_of_rank second
    have level : key.target.order? value other = some .eq :=
      Target.order?_eq_some_iff.mpr ⟨_, _, rank, same, Rank.order?_eq_eq_iff.mpr rfl⟩
    simp [order, held, found, level]

/-- Comparing the other way round gives the reverse. -/
theorem order_swap (key : SortKey) (left right : Json) :
    key.order right left = (key.order left right).swap := by
  unfold order
  cases left.atPath? key.target.path with
  | none => cases right.atPath? key.target.path <;> rfl
  | some value =>
    cases right.atPath? key.target.path with
    | none => rfl
    | some other =>
      simp only [Target.order?_swap key.target value other]
      cases key.target.order? value other with
      | none => cases key.descending <;> rfl
      | some ordering => cases key.descending <;> simp

/-- Where values can be compared, only a key that puts one document before the other tells them
apart. -/
theorem precedes_or_ties (compared : key.Compares left right)
    (ordered : key.order left right ≠ .gt) : key.Precedes left right ∨ key.Ties left right := by
  cases held : left.atPath? key.target.path with
  | none =>
    cases found : right.atPath? key.target.path with
    | none => exact .inr (.lacking held found)
    | some other => simp [order, held, found] at ordered
  | some value =>
    cases found : right.atPath? key.target.path with
    | none => exact .inl (.present held found)
    | some other =>
      obtain ⟨ordering, decided⟩ := Option.isSome_iff_exists.mp (compared value held other found)
      obtain ⟨first, second, own, others, ranked⟩ := Target.order?_eq_some_iff.mp decided
      have leftRank : key.rankIn? left = some first := by simp [rankIn?, held, own]
      have rightRank : key.rankIn? right = some second := by simp [rankIn?, found, others]
      cases ordering with
      | eq =>
        cases Rank.order?_eq_eq_iff.mp ranked
        exact .inr (.level leftRank rightRank)
      | lt =>
        cases direction : key.descending with
        | false =>
          exact .inl (.ascending direction leftRank rightRank (Rank.order?_eq_lt_iff.mp ranked))
        | true => simp [order, held, found, decided, direction] at ordered
      | gt =>
        cases direction : key.descending with
        | false => simp [order, held, found, decided, direction] at ordered
        | true =>
          exact .inl (.descending direction leftRank rightRank (Rank.order?_eq_gt_iff.mp ranked))

/-- What is sorted by something does not lack it. -/
theorem rank_of_lacking {document : Json}
    (lacking : document.atPath? key.target.path = none) : key.rankIn? document = none := by
  rw [rankIn?, lacking, Option.bind_none]

theorem Ties.precedes (ties : key.Ties left middle) (precedes : key.Precedes middle right) :
    key.Precedes left right := by
  cases ties with
  | lacking first second =>
    have unranked := rank_of_lacking second
    cases precedes with
    | present held lacking => cases second.symm.trans held
    | ascending _ ranked => cases unranked.symm.trans ranked
    | descending _ ranked => cases unranked.symm.trans ranked
  | level first second =>
    cases precedes with
    | present held lacking =>
      obtain ⟨value, own, -⟩ := present_of_rank first
      exact .present own lacking
    | ascending upwards ranked last below =>
      cases second.symm.trans ranked
      exact .ascending upwards first last below
    | descending downwards ranked last below =>
      cases second.symm.trans ranked
      exact .descending downwards first last below

theorem Precedes.ties (precedes : key.Precedes left middle) (ties : key.Ties middle right) :
    key.Precedes left right := by
  cases ties with
  | lacking first second =>
    cases precedes with
    | present held lacking => exact .present held second
    | ascending _ _ ranked => cases (rank_of_lacking first).symm.trans ranked
    | descending _ _ ranked => cases (rank_of_lacking first).symm.trans ranked
  | level first second =>
    cases precedes with
    | present held lacking => cases (rank_of_lacking lacking).symm.trans first
    | ascending upwards start ranked below =>
      cases ranked.symm.trans first
      exact .ascending upwards start second below
    | descending downwards start ranked below =>
      cases ranked.symm.trans first
      exact .descending downwards start second below

theorem Precedes.trans (first : key.Precedes left middle) (second : key.Precedes middle right) :
    key.Precedes left right := by
  cases second with
  | present held lacking =>
    cases first with
    | present own nothing => cases nothing.symm.trans held
    | ascending _ ranked | descending _ ranked =>
      obtain ⟨value, own, -⟩ := present_of_rank ranked
      exact .present own lacking
  | ascending upwards ranked last below =>
    cases first with
    | present own nothing => cases (rank_of_lacking nothing).symm.trans ranked
    | ascending _ start same lower =>
      cases same.symm.trans ranked
      exact .ascending upwards start last (lower.trans below)
    | descending downwards => cases upwards.symm.trans downwards
  | descending downwards ranked last below =>
    cases first with
    | present own nothing => cases (rank_of_lacking nothing).symm.trans ranked
    | ascending upwards => cases upwards.symm.trans downwards
    | descending _ start same higher =>
      cases same.symm.trans ranked
      exact .descending downwards start last (below.trans higher)

theorem Ties.trans (first : key.Ties left middle) (second : key.Ties middle right) :
    key.Ties left right := by
  cases first with
  | lacking own nothing =>
    cases second with
    | lacking _ last => exact .lacking own last
    | level ranked _ => cases (rank_of_lacking nothing).symm.trans ranked
  | level own ranked =>
    cases second with
    | lacking nothing _ => cases (rank_of_lacking nothing).symm.trans ranked
    | level same last =>
      cases ranked.symm.trans same
      exact .level own last

/-- Two documents are in the order of keys: the first key that makes a difference puts the one before
the other. -/
def InOrder : List SortKey → Json → Json → Prop
  | [], _, _ => True
  | key :: rest, left, right =>
    key.Precedes left right ∨ key.Ties left right ∧ InOrder rest left right

/-- No key makes a difference between two documents. -/
def TiesBy (keys : List SortKey) (left right : Json) : Prop := ∀ key ∈ keys, key.Ties left right

/-- Whatever values keys find in two documents can be compared. -/
def ComparesBy (keys : List SortKey) (left right : Json) : Prop :=
  ∀ key ∈ keys, key.Compares left right

instance (keys : List SortKey) (left right : Json) : Decidable (ComparesBy keys left right) :=
  inferInstanceAs (Decidable (∀ key ∈ keys, key.Compares left right))

theorem ComparesBy.symm (compared : ComparesBy keys left right) : ComparesBy keys right left :=
  fun key listed => (compared key listed).symm

theorem inOrder_trans (first : InOrder keys left middle) (second : InOrder keys middle right) :
    InOrder keys left right := by
  induction keys with
  | nil => trivial
  | cons key rest ih =>
    rcases first with precedes | ⟨ties, later⟩
    · rcases second with follows | ⟨level, -⟩
      · exact .inl (precedes.trans follows)
      · exact .inl (precedes.ties level)
    · rcases second with follows | ⟨level, last⟩
      · exact .inl (ties.precedes follows)
      · exact .inr ⟨ties.trans level, ih later last⟩

theorem inOrder_of_ties (ties : TiesBy keys left right) : InOrder keys left right := by
  induction keys with
  | nil => trivial
  | cons key rest ih =>
    obtain ⟨own, others⟩ := List.forall_mem_cons.mp ties
    exact .inr ⟨own, ih others⟩

theorem orderAll_swap (keys : List SortKey) (left right : Json) :
    orderAll keys right left = (orderAll keys left right).swap := by
  induction keys with
  | nil => rfl
  | cons key rest ih => rw [orderAll, orderAll, order_swap key left right, ih, Ordering.swap_then]

theorem orderAll_self (keys : List SortKey) (document : Json) :
    orderAll keys document document = .eq := by
  have reversed := orderAll_swap keys document document
  cases ordering : orderAll keys document document with
  | eq => rfl
  | lt | gt =>
    rw [ordering] at reversed
    cases reversed

/-- Documents in the order of keys are never compared as being the wrong way round. -/
theorem orderAll_of_inOrder (ordered : InOrder keys left right) : orderAll keys left right ≠ .gt := by
  induction keys with
  | nil => simp [orderAll]
  | cons key rest ih =>
    rw [orderAll]
    rcases ordered with precedes | ⟨ties, later⟩
    · rw [order_of_precedes precedes]
      simp
    · rw [order_of_ties ties]
      exact ih later

/-- Where values can be compared, documents that are not the wrong way round are in order. -/
theorem inOrder_of_orderAll (compared : ComparesBy keys left right)
    (ordered : orderAll keys left right ≠ .gt) : InOrder keys left right := by
  induction keys with
  | nil => trivial
  | cons key rest ih =>
    obtain ⟨own, others⟩ := List.forall_mem_cons.mp compared
    rw [orderAll] at ordered
    have first : key.order left right ≠ .gt := by
      intro greater
      rw [greater] at ordered
      exact ordered rfl
    rcases precedes_or_ties own first with precedes | ties
    · exact .inl precedes
    · rw [order_of_ties ties] at ordered
      exact .inr ⟨ties, ih others ordered⟩

/-- The comparison is transitive along values that can be compared. -/
theorem orderAll_trans (firstCompared : ComparesBy keys left middle)
    (secondCompared : ComparesBy keys middle right) (first : orderAll keys left middle ≠ .gt)
    (second : orderAll keys middle right ≠ .gt) : orderAll keys left right ≠ .gt :=
  orderAll_of_inOrder (inOrder_trans (inOrder_of_orderAll firstCompared first)
    (inOrder_of_orderAll secondCompared second))

end SortKey

end TypedSearch
