import TypedSearch.Proofs.Search.Answering
import TypedSearch.Proofs.Search.Glob
import TypedSearch.Proofs.Text.Words

/-!
Starts and ends of words. What a client gives for one becomes a pattern with a star beside it, and a
search matches the pattern in lower case with the tokens of a text. A token without stars matches just if
the pattern denotes it. So the text that is given stands for itself if it has no stars and question marks
of its own.
-/

namespace TypedSearch

open Glob Matcher Outcome Text

/-- The ends of words that filters ask for. -/
inductive Affix where
  | start
  | finish
  deriving DecidableEq

theorem isMark_star : IsMark '*' := by decide

theorem isMark_question : IsMark '?' := by decide

namespace Affix

/-- The key that clients give an end of a word under. -/
def key : Affix → String
  | start => "startsWith"
  | finish => "endsWith"

/-- The pattern that is made of the text given for an end of a word. -/
def written : Affix → (asked : String) → String
  | start, asked => asked ++ "*"
  | finish, asked => "*" ++ asked

/-- The pattern with a star in place of the rest of a word. -/
def pattern : Affix → (text : List Char) → List Char
  | start, text => text ++ ['*']
  | finish, text => '*' :: text

/-- A text is at an end of a word. -/
def Fits : Affix → (text token : List Char) → Prop
  | start, text, token => text <+: token
  | finish, text, token => text <:+ token

variable {text token : List Char}

theorem lowercase_written (affix : Affix) (asked : String) :
    lowercase (affix.written asked).toList = affix.pattern (lowercase asked.toList) := by
  have ends : EndsWord '*' := ⟨rfl, rfl⟩
  cases affix with
  | start =>
    rw [written, String.toList_append]
    exact lowercase_concat isMark_star ends asked.toList
  | finish =>
    rw [written, String.toList_append]
    exact lowercase_cons isMark_star ends asked.toList

/-- The pattern of a literal text denotes the words that have it at their end. -/
theorem denotes_pattern_iff (affix : Affix) (literal : Literal text) :
    Denotes (affix.pattern text) token ↔ affix.Fits text token := by
  cases affix with
  | start =>
    rw [pattern, denotes_literal_iff literal]
    constructor
    · rintro ⟨rest, rfl, -⟩
      exact List.prefix_append text rest
    · rintro ⟨rest, rfl⟩
      exact ⟨rest, rfl, denotes_star rest⟩
  | finish =>
    rw [pattern, denotes_star_iff]
    simp only [denotes_iff_eq literal, exists_eq_right]
    exact Iff.rfl

/-- What is at an end of a word has only characters of the word. -/
theorem Fits.subset {affix : Affix} (fits : affix.Fits text token) : text ⊆ token := by
  cases affix with
  | start => exact List.IsPrefix.subset fits
  | finish => exact List.IsSuffix.subset fits

end Affix

theorem literal_lowercase_iff (text : List Char) : Literal (lowercase text) ↔ Literal text := by
  rw [Literal, lowercase, isMark_star.mem_lowercaseAfter_iff, isMark_question.mem_lowercaseAfter_iff]
  exact Iff.rfl

/-- Tokens are literal. -/
theorem literal_of_isToken {value : String} {token : List Char} (isToken : IsToken value token) :
    Literal token :=
  ⟨isMark_star.not_mem_token rfl isToken, isMark_question.not_mem_token rfl isToken⟩

/-- A text passes the clause of a pattern if it has a token that the pattern in lower case denotes. -/
theorem wildcard_hits_iff {view : MappingView} {document : Json} {name path pattern value : String}
    (taken : Target.ofField view name = .text path)
    (held : document.atPath? path = some (.string value)) :
    Hits view document (Clause.wildcard name pattern) ↔
      ∃ token, IsToken value token ∧ Denotes (lowercase pattern.toList) token := by
  have matched {token : List Char} (isToken : IsToken value token) :
      isMatch (lowercase pattern.toList) token = true ↔ Denotes (lowercase pattern.toList) token :=
    isMatch_iff_denotes (literal_of_isToken isToken).1
  simp only [Hits, test_wildcard, wildcard, single, Json.single, ok_bind, param,
    List.lookup_cons_self, Option.getD_some, taken, Target.path, held, Option.bind_some,
    Json.keywordForm?, pure_eq_ok, Except.ok.injEq, List.any_eq_true]
  constructor
  · rintro ⟨token, listed, found⟩
    have isToken := mem_tokens_iff.mp listed
    exact ⟨token, isToken, (matched isToken).mp found⟩
  · rintro ⟨token, isToken, denoted⟩
    exact ⟨token, mem_tokens_iff.mpr isToken, (matched isToken).mpr denoted⟩

/-- A filter on an end of words becomes the clause of its pattern. -/
theorem affix_filter (affix : Affix) (path : FieldPath) (asked : String) :
    Registry.standard.filter (.primitive .string) path (.single affix.key (.string asked)) =
      .ok (some [Clause.wildcard path.dotted (affix.written asked)]) := by
  rw [Registry.filter, Registry.standard_resolve_primitive]
  cases affix <;> rfl

/-- A filter on the start or the end of words answers whether some token of the text is denoted by its
pattern. That is asking for the given text itself, in lower case, if this has no stars and question marks.
If it has then no token can have it, so the answer is right only if it is no. -/
theorem affix_filters_literal_iff {dataset : Dataset} {path : FieldPath} {value : String}
    {document : Json} (affix : Affix) (asked : String) (valid : dataset.validate = .ok ())
    (stored : dataset.Stores path (.primitive .string))
    (held : document.along path.segments = some (.string value)) :
    ∃ answer,
      dataset.Judges (.asking path (.single affix.key (.string asked))) document answer ∧
      (answer = true ↔
        ∃ token, IsToken value token ∧ Denotes (affix.pattern (lowercase asked.toList)) token) ∧
      ((answer = true ↔ ∃ token, IsToken value token ∧ affix.Fits (lowercase asked.toList) token) ↔
        Literal asked.toList ∨ answer = false) := by
  obtain ⟨answer, judged, meaning⟩ := Dataset.judges_asking valid stored (by simp [Json.single])
    (affix_filter affix path asked) document
  have mapped := stored.property?_eq valid
  have analysed : (MappingView.ofFields dataset.schema.fields).isText path.dotted = true := by
    rw [MappingView.isText, mapped]
    rfl
  have taken := stored.taken valid (.text analysed)
  have found := stored.atPath?_eq_some valid held rfl
  rw [List.forall_mem_singleton, wildcard_hits_iff taken found, affix.lowercase_written] at meaning
  refine ⟨answer, judged, meaning, ?_⟩
  by_cases literal : Literal asked.toList
  · have lower : Literal (lowercase asked.toList) := (literal_lowercase_iff _).mpr literal
    simp only [affix.denotes_pattern_iff lower] at meaning
    exact iff_of_true meaning (.inl literal)
  · have missing : ¬ ∃ token, IsToken value token ∧ affix.Fits (lowercase asked.toList) token := by
      rintro ⟨token, isToken, fits⟩
      have plain := literal_of_isToken isToken
      apply literal
      rw [← literal_lowercase_iff]
      exact ⟨fun star => plain.1 (fits.subset star), fun mark => plain.2 (fits.subset mark)⟩
    rw [iff_false_right missing, Bool.not_eq_true, or_iff_right literal]

theorem origin_start_literal :
    let path : FieldPath := ⟨["properties", "keyword"]⟩
    let document : Json := .placed path.segments (.string "Nord-Östlich")
    let filter : FilterNode := .asking path (.single "startsWith" (.string "ÖST"))
    glossaryDataset.validate = .ok () ∧ glossaryDataset.Stores path (.primitive .string) ∧
      document.along path.segments = some (.string "Nord-Östlich") ∧
      (∃ answer, glossaryDataset.Judges filter document answer ∧
        ((answer = true ↔
          ∃ token, IsToken "Nord-Östlich" token ∧ Affix.start.Fits (lowercase "ÖST".toList) token) ↔
          Literal "ÖST".toList ∨ answer = false)) ∧
      glossaryDataset.Judges filter document true := by
  intro path document filter
  have valid : glossaryDataset.validate = .ok () := rfl
  have stored : glossaryDataset.Stores path (.primitive .string) := glossary_stores_origin.1
  have held : document.along path.segments = some (.string "Nord-Östlich") := Json.along_placed _ _
  obtain ⟨answer, judged, -, exactly⟩ :=
    affix_filters_literal_iff .start "ÖST" valid stored held
  have token : IsToken "Nord-Östlich" "östlich".toList := mem_tokens_iff.mp (by decide +kernel)
  have fits : Affix.start.Fits (lowercase "ÖST".toList) "östlich".toList :=
    ⟨"lich".toList, by decide +kernel⟩
  have literal : Literal "ÖST".toList := by decide
  have found : answer = true := (exactly.mpr (.inl literal)).mpr ⟨_, token, fits⟩
  refine ⟨valid, stored, held, ⟨answer, judged, exactly⟩, ?_⟩
  rw [found] at judged
  exact judged

/-- A question mark in what is asked for the start of words matches any letter. -/
theorem marked_start_found :
    let path : FieldPath := ⟨["properties", "keyword"]⟩
    glossaryDataset.Judges (.asking path (.single "startsWith" (.string "t?m")))
        (.placed path.segments (.string "tim")) true ∧
      ¬ ∃ token, IsToken "tim" token ∧ Affix.start.Fits (lowercase "t?m".toList) token := by
  intro path
  constructor
  · exact ⟨_, _, rfl, rfl, rfl⟩
  · rintro ⟨token, isToken, fits⟩
    have mark : '?' ∈ lowercase "t?m".toList := by decide
    exact (literal_of_isToken isToken).2 (fits.subset mark)

end TypedSearch
