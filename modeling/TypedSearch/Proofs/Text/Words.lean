import Mathlib.Data.List.Basic
import Mathlib.Data.List.TakeWhile
import TypedSearch.Proofs.Text.Name
import TypedSearch.Search.Field

/-!
The words of a text and their lower case. A word is a run of letters and digits with nothing of the kind
beside it. Lower case neither makes nor loses the characters that stand before the letters in the code,
and one of these that has no case ends a word as the end of the text does.
-/

namespace TypedSearch.Text

section Runs

variable {separates : Char → Bool} {before run after text : List Char} {c : Char}

/-- Between two parts of a text stands a run of characters that do not separate, which goes no further on
either side. -/
structure IsRun (separates : Char → Bool) (before run after : List Char) : Prop where
  nonempty : run ≠ []
  kept : ∀ c ∈ run, separates c = false
  starts : ∀ c ∈ before.getLast?, separates c = true
  ends : ∀ c ∈ after.head?, separates c = true

/-- A character that does not separate begins a run, and the other runs are those behind it. -/
theorem runs_kept_eq (keeps : separates c = false) (rest : List Char) :
    runs separates (c :: rest) = (c :: rest.takeWhile (!separates ·)) ::
      runs separates (rest.dropWhile (!separates ·)) := by
  induction rest generalizing c with
  | nil => simp [runs, keeps]
  | cons next rest ih =>
    rw [runs.eq_def]
    by_cases drops : separates next = true
    · simp [keeps, drops]
    · have keepsNext : separates next = false := by simpa using drops
      simp [keeps, keepsNext, ih keepsNext]

/-- A run at the start of a text is the first one. -/
theorem runs_of_start (isRun : IsRun separates [] run after) :
    runs separates (run ++ after) = run :: runs separates after := by
  obtain ⟨nonempty, kept, -, ends⟩ := isRun
  obtain ⟨c, rest, rfl⟩ := List.exists_cons_of_ne_nil nonempty
  obtain ⟨keeps, others⟩ := List.forall_mem_cons.mp kept
  have whole : ∀ other ∈ rest, (!separates other) = true := by simpa using others
  rw [List.cons_append, runs_kept_eq keeps, List.takeWhile_append_of_pos whole,
    List.dropWhile_append_of_pos whole]
  cases after with
  | nil => simp
  | cons next later =>
    have drops : separates next = true := ends next rfl
    simp [drops]

/-- What stands before a separator has its runs to itself. -/
theorem runs_append_separator (drops : separates c = true) (before after : List Char) :
    runs separates (before ++ c :: after) = runs separates before ++ runs separates after := by
  induction before with
  | nil => exact runs_of_separator drops after
  | cons first rest ih =>
    by_cases separator : separates first = true
    · rw [List.cons_append, runs_of_separator separator, runs_of_separator separator, ih]
    · have keeps : separates first = false := by simpa using separator
      rw [List.cons_append, runs.eq_def, runs.eq_def separates (first :: rest)]
      cases rest with
      | nil => simp [keeps, drops, runs_of_separator drops]
      | cons next others =>
        rw [List.cons_append] at ih ⊢
        by_cases stops : separates next = true
        · simp [keeps, stops, ih]
        · have goes : separates next = false := by simpa using stops
          obtain ⟨run, more, same⟩ := runs_of_kept goes others
          simp [keeps, goes, ih, same]

/-- A run remains one with something more before it, unless that goes on with the run. -/
theorem IsRun.behind (isRun : IsRun separates before run after) {front : List Char}
    (apart : before = [] → ∀ c ∈ front.getLast?, separates c = true) :
    IsRun separates (front ++ before) run after := by
  refine ⟨isRun.nonempty, isRun.kept, ?_, isRun.ends⟩
  cases before with
  | nil =>
    rw [List.append_nil]
    exact apart rfl
  | cons first rest =>
    rw [List.getLast?_append_of_ne_nil _ (List.cons_ne_nil first rest)]
    exact isRun.starts

/-- Every run of a text stands somewhere in it and goes as far as it can. -/
theorem isRun_of_mem_runs (listed : run ∈ runs separates text) :
    ∃ before after, text = before ++ run ++ after ∧ IsRun separates before run after := by
  -- By the length of the text, as the runs behind the first one are those of a shorter text.
  induction size : text.length using Nat.strong_induction_on generalizing text with
  | _ size ih =>
    subst size
    cases text with
    | nil => cases listed
    | cons c rest =>
      by_cases drops : separates c = true
      · rw [runs_of_separator drops] at listed
        obtain ⟨before, after, rfl, isRun⟩ := ih _ (Nat.lt_succ_self _) listed rfl
        refine ⟨[c] ++ before, after, rfl, isRun.behind fun _ => ?_⟩
        simpa using drops
      · have keeps : separates c = false := by simpa using drops
        have whole : c :: rest.takeWhile (!separates ·) ++ rest.dropWhile (!separates ·) =
            c :: rest := by
          rw [List.cons_append, List.takeWhile_append_dropWhile]
        have stops : ∀ next ∈ (rest.dropWhile (!separates ·)).head?, separates next = true := by
          intro next first
          have found := List.head?_dropWhile_not (!separates ·) rest
          rw [first] at found
          simpa using found
        rw [runs_kept_eq keeps] at listed
        rcases List.mem_cons.mp listed with rfl | later
        · refine ⟨[], _, whole.symm, List.cons_ne_nil _ _, ?_, nofun, stops⟩
          refine List.forall_mem_cons.mpr ⟨keeps, fun other inside => ?_⟩
          simpa using List.mem_takeWhile_imp inside
        · have shorter : (rest.dropWhile (!separates ·)).length < (c :: rest).length :=
            Nat.lt_succ_of_le (List.dropWhile_suffix _).length_le
          obtain ⟨before, after, split, isRun⟩ := ih _ shorter later rfl
          refine ⟨c :: rest.takeWhile (!separates ·) ++ before, after, ?_, isRun.behind ?_⟩
          · rw [← whole, split]
            simp
          · rintro rfl
            obtain ⟨first, others, rfl⟩ := List.exists_cons_of_ne_nil isRun.nonempty
            have kept : separates first = false := isRun.kept first List.mem_cons_self
            rw [stops first (by rw [split]; rfl)] at kept
            cases kept

/-- The runs of a text are what stands in it without separators and goes as far as it can. -/
theorem mem_runs_iff : run ∈ runs separates text ↔
    ∃ before after, text = before ++ run ++ after ∧ IsRun separates before run after := by
  refine ⟨isRun_of_mem_runs, ?_⟩
  rintro ⟨before, after, rfl, isRun⟩
  have start : IsRun separates [] run after := ⟨isRun.nonempty, isRun.kept, nofun, isRun.ends⟩
  rcases List.eq_nil_or_concat before with rfl | ⟨front, c, rfl⟩
  · rw [List.nil_append, runs_of_start start]
    exact List.mem_cons_self
  · have drops : separates c = true := isRun.starts c (by simp)
    rw [List.append_assoc, List.concat_eq_append, List.append_assoc, List.singleton_append,
      runs_append_separator drops, runs_of_start start]
    simp

end Runs

section Case

variable {mark c : Char} {before text : List Char}

/-- A mark stands before the letters in the code. -/
def IsMark (c : Char) : Prop := 0 < c.toNat ∧ c.toNat < 65

instance (c : Char) : Decidable (IsMark c) := inferInstanceAs (Decidable (_ ∧ _))

/-- No character above ASCII is made into a mark. -/
theorem lowercaseRanges_above :
    (lowercaseRanges.all fun entry => decide (65 ≤ (entry.1 : Int) + entry.2.2.2)) = true := by
  decide +kernel

/-- Among the ASCII characters only a mark itself is made into it. -/
theorem IsMark.toLower_eq_iff (isMark : IsMark mark) : c.toLower = mark ↔ c = mark := by
  unfold Char.toLower
  split
  next upper =>
    have low : 65 ≤ c.toNat := UInt32.le_iff_toNat_le.mp upper.1
    have high : c.toNat ≤ 90 := UInt32.le_iff_toNat_le.mp upper.2
    obtain ⟨-, early⟩ := isMark
    constructor
    · rintro rfl
      have moved : (c.val + ('a'.val - 'A'.val)).toNat = (c.toNat + 32) % 2 ^ 32 :=
        UInt32.toNat_add c.val 32
      have image : (c.val + ('a'.val - 'A'.val)).toNat < 65 := early
      omega
    · rintro rfl
      omega
  next => exact Iff.rfl

theorem IsMark.ofNat_ne {code : Nat} (isMark : IsMark mark) (late : 65 ≤ code) :
    Char.ofNat code ≠ mark := by
  obtain ⟨positive, early⟩ := isMark
  by_cases valid : code.isValidChar
  · rw [Char.ofNat, dif_pos valid]
    rintro rfl
    have same : (Char.ofNatAux code valid).toNat = code := rfl
    omega
  · rw [Char.ofNat, dif_neg valid]
    rintro rfl
    exact absurd positive (by decide)

/-- A mark is the lower-case form of itself alone. -/
theorem IsMark.mem_lowercaseChar_iff (isMark : IsMark mark) : mark ∈ lowercaseChar c ↔ c = mark := by
  unfold lowercaseChar
  by_cases ascii : c.toNat < 128
  · rw [if_pos ascii, List.mem_singleton, eq_comm]
    exact isMark.toLower_eq_iff
  · have differs : c ≠ mark := by
      rintro rfl
      have early := isMark.2
      omega
    rw [if_neg ascii]
    refine iff_of_false ?_ differs
    by_cases dotted : c.toNat = 304
    · have letter : mark ≠ 'i' := by
        rintro rfl
        exact absurd isMark (by decide)
      have combining := isMark.ofNat_ne (show 65 ≤ 775 by decide)
      rw [if_pos dotted, List.mem_cons, List.mem_singleton]
      exact not_or.mpr ⟨letter, combining.symm⟩
    · rw [if_neg dotted]
      dsimp only
      split
      next first last step distance found =>
        have above := List.all_eq_true.mp lowercaseRanges_above _ (List.mem_of_find?_eq_some found)
        have inside := List.find?_some found
        simp only [decide_eq_true_eq, Bool.and_eq_true] at above inside
        have late : 65 ≤ ((c.toNat : Int) + distance).toNat := by omega
        have image := isMark.ofNat_ne late
        simpa using image.symm
      next => simpa using differs.symm

theorem IsMark.lowercaseChar_eq (isMark : IsMark mark) : lowercaseChar mark = [mark] := by
  have ascii : mark.toNat < 128 := by
    have early := isMark.2
    omega
  rw [lowercaseChar, if_pos ascii, isMark.toLower_eq_iff.mpr rfl]

theorem IsMark.ne_sigma (isMark : IsMark mark) : mark ≠ 'Σ' := by
  rintro rfl
  exact absurd isMark (by decide)

/-- A mark is in the lower case of a text if it is in the text. -/
theorem IsMark.mem_lowercaseAfter_iff (isMark : IsMark mark) (before text : List Char) :
    mark ∈ lowercaseAfter before text ↔ mark ∈ text := by
  induction text generalizing before with
  | nil => exact Iff.rfl
  | cons c rest ih =>
    rw [lowercaseAfter, List.mem_append, ih, List.mem_cons]
    refine or_congr_left ?_
    by_cases sigma : c = 'Σ'
    · have small : mark ≠ 'σ' ∧ mark ≠ 'ς' := by
        constructor
        all_goals
          rintro rfl
          exact absurd isMark (by decide)
      rw [if_pos sigma, sigma]
      refine iff_of_false ?_ isMark.ne_sigma
      split
      · simpa using small.2
      · simpa using small.1
    · rw [if_neg sigma, isMark.mem_lowercaseChar_iff, eq_comm]

/-- A character ends the words beside it as the end of the text does. -/
def EndsWord (c : Char) : Prop := isCased c = false ∧ isCaseIgnorable c = false

theorem EndsWord.reachesCased_concat (ends : EndsWord c) (text : List Char) :
    reachesCased (text ++ [c]) = reachesCased text := by
  obtain ⟨uncased, stops⟩ := ends
  unfold reachesCased
  induction text with
  | nil => simp [stops, uncased]
  | cons first rest ih =>
    rw [List.cons_append, List.dropWhile_cons, List.dropWhile_cons]
    cases isCaseIgnorable first with
    | true => exact ih
    | false => rfl

/-- What stands before a text does not matter beyond the end of a word. -/
theorem EndsWord.lowercaseAfter_concat (ends : EndsWord c) (before text : List Char) :
    lowercaseAfter (before ++ [c]) text = lowercaseAfter before text := by
  induction text generalizing before with
  | nil => rfl
  | cons first rest ih =>
    rw [lowercaseAfter, lowercaseAfter, ends.reachesCased_concat, ← List.cons_append, ih]

/-- A mark that ends words is put before the lower case of a text. -/
theorem lowercase_cons (isMark : IsMark mark) (ends : EndsWord mark) (text : List Char) :
    lowercase (mark :: text) = mark :: lowercase text := by
  have behind := ends.lowercaseAfter_concat [] text
  rw [List.nil_append] at behind
  rw [lowercase, lowercaseAfter, behind, if_neg isMark.ne_sigma, isMark.lowercaseChar_eq]
  rfl

/-- A mark that ends words is put behind the lower case of a text. -/
theorem lowercase_concat (isMark : IsMark mark) (ends : EndsWord mark) (text : List Char) :
    lowercase (text ++ [mark]) = lowercase text ++ [mark] := by
  have behind (before : List Char) :
      lowercaseAfter before (text ++ [mark]) = lowercaseAfter before text ++ [mark] := by
    induction text generalizing before with
    | nil =>
      simp only [List.nil_append, lowercaseAfter, if_neg isMark.ne_sigma, isMark.lowercaseChar_eq,
        List.append_nil]
    | cons first rest ih =>
      rw [List.cons_append, lowercaseAfter, lowercaseAfter, ends.reachesCased_concat, ih]
      exact (List.append_assoc _ _ _).symm
  exact behind []

end Case

section Tokens

variable {value : String} {token : List Char}

/-- A token of a text is the lower case of a run of letters and digits that goes as far as it can. -/
def IsToken (value : String) (token : List Char) : Prop :=
  ∃ before run after, value.toList = before ++ run ++ after ∧
    IsRun (fun c => !isAlphanumeric c) before run after ∧ token = lowercase run

theorem mem_tokens_iff : token ∈ tokens value ↔ IsToken value token := by
  rw [tokens, List.mem_map]
  constructor
  · rintro ⟨run, listed, rfl⟩
    obtain ⟨before, after, split, isRun⟩ := mem_runs_iff.mp listed
    exact ⟨before, run, after, split, isRun, rfl⟩
  · rintro ⟨before, run, after, split, isRun, rfl⟩
    exact ⟨run, mem_runs_iff.mpr ⟨before, after, split, isRun⟩, rfl⟩

/-- A mark that is no letter or digit is in no token. -/
theorem IsMark.not_mem_token {mark : Char} (isMark : IsMark mark)
    (apart : isAlphanumeric mark = false) (isToken : IsToken value token) : mark ∉ token := by
  obtain ⟨before, run, after, -, isRun, rfl⟩ := isToken
  rw [lowercase, isMark.mem_lowercaseAfter_iff]
  intro inside
  have kept := isRun.kept mark inside
  simp [apart] at kept

end Tokens

end TypedSearch.Text
