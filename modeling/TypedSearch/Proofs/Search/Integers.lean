import Mathlib
import TypedSearch.Proofs.Number.Rounding
import TypedSearch.Proofs.Search.Answering

/-!
Comparisons of integers. Equality is asked of the decimal spellings of integers and so is exact, while
bounds are kept by the binary64 numbers that integers are rounded to. The two agree unless a value and
another one given are rounded to the same number.
-/

namespace TypedSearch

open Binary64 Matcher

section Aims

variable {α : Type} [LinearOrder α] {f : α → α} {value given : α}

/-- Comparisons that look at values exactly for equality and through a monotone function for order are
right if the function keeps the values apart. -/
theorem Comparison.aimed_of_apart (mono : Monotone f) (apart : value = given ∨ f value ≠ f given)
    (comparison : Comparison) :
    comparison.Holds (comparison.aim value (f value)) (comparison.aim given (f given)) ↔
      comparison.Holds value given := by
  rcases apart with rfl | apart
  · cases comparison <;> simp [Holds, aim]
  · rcases lt_or_gt_of_ne apart with below | above
    · have less : value < given := mono.reflect_lt below
      cases comparison with
      | equals => exact Iff.rfl
      | greaterThan => exact iff_of_false below.asymm less.asymm
      | greaterEqualTo => exact iff_of_false below.not_ge less.not_ge
      | lessThan => exact iff_of_true below less
      | lessEqualTo => exact iff_of_true below.le less.le
    · have greater : given < value := mono.reflect_lt above
      cases comparison with
      | equals => exact Iff.rfl
      | greaterThan => exact iff_of_true above greater
      | greaterEqualTo => exact iff_of_true above.le greater.le
      | lessThan => exact iff_of_false above.asymm greater.asymm
      | lessEqualTo => exact iff_of_false above.not_ge greater.not_ge

/-- If such comparisons find a value equal, greater or less then the function keeps the values apart. -/
theorem Comparison.apart_of_aimed {comparison : Comparison}
    (strict : comparison ∈ [equals, greaterThan, lessThan])
    (holds : comparison.Holds (comparison.aim value (f value)) (comparison.aim given (f given))) :
    value = given ∨ f value ≠ f given := by
  simp only [List.mem_cons, List.not_mem_nil, or_false] at strict
  rcases strict with rfl | rfl | rfl
  · exact .inl holds
  · exact .inr (ne_of_gt holds)
  · exact .inr (ne_of_lt holds)

end Aims

/-- Integers are equal in exact-value form if they are the same. -/
theorem Target.order?_keyword_ofInt (path : String) (value given : Int) :
    Target.order? (.keyword path) (.ofInt value) (.ofInt given) = some .eq ↔ value = given := by
  have spelled : Target.order? (.keyword path) (.ofInt value) (.ofInt given) =
      some (compare value.repr given.repr) := rfl
  rw [spelled, Option.some.injEq, compare_eq_iff_eq]
  exact Int.repr_inj

/-- Integers are ordered as what they are rounded to. -/
theorem Target.order?_plain_ofInt (path : String) (value given : Int) :
    Target.order? (.plain path) (.ofInt value) (.ofInt given) =
      some (compare (rounded value) (rounded given)) := by
  have order : (Binary64.ofInt value).order (.ofInt given) =
      compare (rounded value : ℚ) (rounded given : ℚ) := by
    rw [order_eq_compare, toRat_ofInt, toRat_ofInt]
  rw [Target.order?, Json.ofInt, Json.ofInt, Json.order?, Json.Number.toBinary64,
    Json.Number.toBinary64, order, ← cmp_eq_compare, ← cmp_eq_compare,
    (Int.cast_strictMono (R := ℚ)).cmp_map_eq]

namespace Dataset

variable {dataset : Dataset} {path : FieldPath} {value bound : Int} {document : Json}

/-- A filter that asks for one comparison of an integer answers whether the document passes its clause. -/
theorem judges_int_comparison (valid : dataset.validate = .ok ())
    (stored : dataset.Stores path (.primitive .int))
    (fits : Json.toInt64 (.ofInt bound) = .ok bound) (document : Json) (comparison : Comparison) :
    ∃ answer,
      dataset.Judges (.asking path (.single comparison.key (.ofInt bound))) document answer ∧
      (answer = true ↔ Hits (.ofFields dataset.schema.fields) document
        (comparison.clause path.keyword path.dotted (.ofInt bound))) := by
  have read : IntFilter.ofParams path (.single comparison.key (.ofInt bound)) =
      .ok (.ofAsked [(comparison, bound)]) := by
    have each : ∀ entry ∈ [(comparison, bound)], Json.toInt64 (.ofInt entry.2) = .ok entry.2 :=
      List.forall_mem_singleton.mpr fits
    exact IntFilter.ofParams_asked each
  have answered : Registry.standard.filter (.primitive .int) path
      (.single comparison.key (.ofInt bound)) =
        .ok (some (IntFilter.clauses (.ofAsked [(comparison, bound)]) path)) := by
    rw [Registry.filter, Registry.standard_resolve_primitive]
    exact Handler.termFilter_answers read
  obtain ⟨answer, judged, meaning⟩ :=
    judges_asking valid stored (by simp [Json.single]) answered document
  have distinct : ([(comparison, bound)].map (·.1)).Nodup := List.nodup_singleton comparison
  refine ⟨answer, judged, meaning.trans ?_⟩
  rw [IntFilter.clauses, RangeFilter.forall_clauses_asked distinct]
  exact List.forall_mem_singleton

/-- A document passes the clause of a comparison if the comparison holds of its integer itself for
equality, and of what it is rounded to for order. -/
theorem int_clause_hits_iff (valid : dataset.validate = .ok ())
    (stored : dataset.Stores path (.primitive .int))
    (held : document.along path.segments = some (.ofInt value)) (comparison : Comparison) :
    Hits (.ofFields dataset.schema.fields) document
        (comparison.clause path.keyword path.dotted (.ofInt bound)) ↔
      comparison.Holds (comparison.aim value (rounded value))
        (comparison.aim bound (rounded bound)) := by
  have mapped := stored.property?_eq valid
  have exactly := stored.taken valid (addresses_keyword mapped)
  have bounded := stored.taken valid (addresses_plain mapped rfl)
  have found := stored.atPath?_eq_some valid held rfl
  rw [comparison.clause_hits_iff exactly bounded (fun _ => nofun) rfl]
  cases comparison with
  | equals =>
    simp [Comparison.aim, Target.path, found, Comparison.orders, Comparison.Holds,
      Target.order?_keyword_ofInt]
  | greaterThan | greaterEqualTo | lessThan | lessEqualTo =>
    rw [← Comparison.mem_orders_compare]
    simp [Comparison.aim, Target.path, found, Target.order?_plain_ofInt]

end Dataset

/-- The bounds that a client can give are the 64-bit integers. -/
theorem Json.toInt64_written {value : Int} (fits : -2 ^ 63 ≤ value ∧ value < 2 ^ 63) :
    toInt64 (.ofInt value) = .ok value := by
  have power : (powerOfTwo 63 : Int) = 2 ^ 63 := rfl
  rw [toInt64, ofInt, toBounded, power]
  exact if_pos ⟨fits.1, by omega⟩

/-- Filters on an integer field that compare it with a bound are right for equality. For order they are
right unless the value and the bound are different but rounded to the same number, and then no filter
finds the value equal to the bound or greater or less. Up to two to the 53rd that does not happen. -/
theorem integer_comparisons_exact_iff {dataset : Dataset} {path : FieldPath} {value bound : Int}
    {document : Json} (valid : dataset.validate = .ok ())
    (stored : dataset.Stores path (.primitive .int)) (fits : -2 ^ 63 ≤ bound ∧ bound < 2 ^ 63)
    (held : document.along path.segments = some (.ofInt value)) :
    ∃ answers : Comparison → Bool,
      (∀ comparison, dataset.Judges (.asking path (.single comparison.key (.ofInt bound))) document
        (answers comparison)) ∧
      (answers .equals = true ↔ value = bound) ∧
      ((∀ comparison, answers comparison = true ↔ comparison.Holds value bound) ↔
        value = bound ∨ rounded value ≠ rounded bound) ∧
      ([.equals, .greaterThan, .lessThan].countP answers = 1 ↔
        value = bound ∨ rounded value ≠ rounded bound) ∧
      (value.natAbs ≤ 2 ^ 53 → bound.natAbs ≤ 2 ^ 53 →
        ∀ comparison, answers comparison = true ↔ comparison.Holds value bound) := by
  have each (comparison : Comparison) := Dataset.judges_int_comparison valid stored
    (Json.toInt64_written fits) document comparison
  choose answers judged hits using each
  have meaning (comparison : Comparison) : answers comparison = true ↔
      comparison.Holds (comparison.aim value (rounded value))
        (comparison.aim bound (rounded bound)) :=
    (hits comparison).trans (Dataset.int_clause_hits_iff valid stored held comparison)
  have right (apart : value = bound ∨ rounded value ≠ rounded bound) (comparison : Comparison) :
      answers comparison = true ↔ comparison.Holds value bound :=
    (meaning comparison).trans (comparison.aimed_of_apart (fun _ _ => rounded_mono) apart)
  refine ⟨answers, judged, meaning .equals, ⟨fun exact => ?_, right⟩, ⟨fun one => ?_, fun apart => ?_⟩,
    fun low high => ?_⟩
  · -- One of the three comparisons holds of the value and the bound, and so is answered.
    rcases lt_trichotomy value bound with below | same | above
    · exact Comparison.apart_of_aimed (by decide) ((meaning .lessThan).mp ((exact .lessThan).mpr below))
    · exact .inl same
    · exact Comparison.apart_of_aimed (by decide)
        ((meaning .greaterThan).mp ((exact .greaterThan).mpr above))
  · have some : 0 < [Comparison.equals, .greaterThan, .lessThan].countP answers := by omega
    obtain ⟨comparison, strict, found⟩ := List.countP_pos_iff.mp some
    exact Comparison.apart_of_aimed strict ((meaning comparison).mp found)
  · simp only [List.countP_cons, List.countP_nil, right apart, Comparison.Holds]
    split_ifs <;> omega
  · apply right
    rw [rounded_of_natAbs_le low, rounded_of_natAbs_le high]
    exact eq_or_ne value bound

theorem large_integers_compared :
    let path : FieldPath := ⟨["properties", "fields"]⟩
    let document : Json := .placed path.segments (.ofInt (-9007199254740994))
    let bound : Int := -9007199254740993
    glossaryDataset.validate = .ok () ∧ glossaryDataset.Stores path (.primitive .int) ∧
      (-2 ^ 63 ≤ bound ∧ bound < 2 ^ 63) ∧
      document.along path.segments = some (.ofInt (-9007199254740994)) ∧
      ∃ answers : Comparison → Bool,
        (∀ comparison, glossaryDataset.Judges (.asking path (.single comparison.key (.ofInt bound)))
          document (answers comparison)) ∧
        ∀ comparison, answers comparison = true ↔ comparison.Holds (-9007199254740994) bound := by
  intro path document bound
  have valid : glossaryDataset.validate = .ok () := rfl
  have stored : glossaryDataset.Stores path (.primitive .int) := glossary_stores_origin.2
  have fits : -2 ^ 63 ≤ bound ∧ bound < 2 ^ 63 := by decide
  have held : document.along path.segments = some (.ofInt (-9007199254740994)) :=
    Json.along_placed _ _
  obtain ⟨answers, judged, -, exactly, -⟩ := integer_comparisons_exact_iff valid stored fits held
  have apart : rounded (-9007199254740994) ≠ rounded bound := by decide
  exact ⟨valid, stored, fits, held, answers, judged, exactly.mpr (.inr apart)⟩

/-- An integer that is greater than a bound by one is found neither greater nor equal nor less if both
are rounded to the same number. -/
theorem adjacent_integers_confused :
    let path : FieldPath := ⟨["properties", "fields"]⟩
    let document : Json := .placed path.segments (.ofInt 9007199254740993)
    let bound : Int := 9007199254740992
    bound < 9007199254740993 ∧ ∀ comparison ∈ [Comparison.equals, .greaterThan, .lessThan],
      glossaryDataset.Judges (.asking path (.single comparison.key (.ofInt bound))) document false := by
  intro path document bound
  refine ⟨by decide, fun comparison strict => ?_⟩
  have valid : glossaryDataset.validate = .ok () := rfl
  have stored : glossaryDataset.Stores path (.primitive .int) := glossary_stores_origin.2
  have confused : rounded 9007199254740993 = rounded bound := by decide
  have fits : Json.toInt64 (.ofInt bound) = .ok bound := rfl
  obtain ⟨answer, judged, hits⟩ :=
    Dataset.judges_int_comparison valid stored fits document comparison
  have held : document.along path.segments = some (.ofInt 9007199254740993) :=
    Json.along_placed _ _
  rw [Dataset.int_clause_hits_iff valid stored held] at hits
  have missed : answer = false := by
    rw [Bool.eq_false_iff, ne_eq, hits]
    intro holds
    rcases Comparison.apart_of_aimed strict holds with same | apart
    · exact absurd same (by decide)
    · exact apart confused
  rw [missed] at judged
  exact judged

end TypedSearch
