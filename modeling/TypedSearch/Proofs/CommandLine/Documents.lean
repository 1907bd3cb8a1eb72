import TypedSearch.CommandLine.Documents
import TypedSearch.Json.Writer
import TypedSearch.Proofs.Json.Reading
import TypedSearch.Proofs.Text.Lines

/-!
The two formats of a document file. The format is told from the first character that is not white
space: an object begins with a brace, so a file of lines is never taken for an array, and an array
never for lines. The compact text of a document has no line end in it, whatever its strings are, so
cutting the file at its line ends gives the documents back, and lines of white space do not count.
-/

namespace TypedSearch.CommandLine

open Outcome Text

section Reading

variable {line rest : List Char} {text : String}

/-- A text that does not begin with a bracket is read line by line. -/
theorem readDocuments_of_lines (opens : (trimStart text.toList).head? ≠ some '[') :
    readDocuments text = documentsOfLines text.toList := by
  rw [readDocuments]
  split
  · next rest array =>
    rw [array] at opens
    exact (opens rfl).elim
  · rfl

/-- The compact text of an array begins with its bracket. -/
theorem readDocuments_compact {documents : List Json}
    (read : Json.parse (Json.array documents).compact = .ok (.array documents)) :
    readDocuments (Json.array documents).compact = .ok documents := by
  have bracketed : trimStart (Json.array documents).compact.toList =
      '[' :: ((joined "," (documents.map Json.compact)).toList ++ [']']) := by
    rw [Json.compact_array_toList]
    rfl
  rw [readDocuments, bracketed, read]
  rfl

/-- The first line is left out if it is blank, and read if it is not. -/
theorem documentsOfLines_append (unbroken : '\n' ∉ line) (rest : List Char) :
    documentsOfLines (line ++ '\n' :: rest) =
      if isBlankLine (withoutReturn line) then documentsOfLines rest
      else do
        let document ← Json.parse (String.ofList (withoutReturn line))
        let later ← documentsOfLines rest
        return document :: later := by
  rw [documentsOfLines, lines_append unbroken, List.filter_cons]
  cases isBlankLine (withoutReturn line) with
  | true => rfl
  | false => exact List.mapM_cons

end Reading

/-- A line of a document file: a document in its compact text, or white space. -/
inductive FileLine where
  | document (value : Json)
  | blank (space : List Char) (isBlank : ∀ c ∈ space, isSpace c = true ∧ c ≠ '\n')

namespace FileLine

def text : FileLine → List Char
  | document value => value.compact.toList
  | blank space _ => space

def document? : FileLine → Option Json
  | document value => some value
  | blank _ _ => none

/-- What a line holds is an object, and it is read back from its compact text. -/
def Readable (line : FileLine) : Prop :=
  ∀ value ∈ line.document?,
    (∃ entries, value = .object entries) ∧ Json.parse value.compact = .ok value

variable {line : FileLine} {rest : List Char} {later : List Json} {value : Json}

/-- No line end stands inside a line. -/
theorem unbroken (line : FileLine) : '\n' ∉ line.text := by
  cases line with
  | document value => exact Json.not_mem_compact (by decide)
  | blank space isBlank => exact fun inside => (isBlank '\n' inside).2 rfl

theorem unbroken_before (line : FileLine) (ending : LineEnd) :
    '\n' ∉ line.text ++ ending.before := by
  intro inside
  rcases List.mem_append.mp inside with own | before
  · exact line.unbroken own
  · exact absurd (LineEnd.eq_return_of_mem_before before) (by decide)

/-- A document begins with a brace, which is no white space. -/
theorem opensWithBrace (object : ∃ entries, value = .object entries) :
    ∃ inner, value.compact.toList = '\x7b' :: inner := by
  obtain ⟨entries, rfl⟩ := object
  exact ⟨_, Json.compact_object_toList entries⟩

theorem not_isBlankLine (object : ∃ entries, value = .object entries) :
    isBlankLine value.compact.toList = false := by
  obtain ⟨inner, braced⟩ := opensWithBrace object
  refine Bool.eq_false_iff.mpr fun blank => ?_
  have space : isSpace '\x7b' = true := isBlankLine_iff.mp blank _ (braced ▸ List.mem_cons_self)
  exact absurd space (by decide)

/-- The carriage return that may stand behind a document is the only one there. -/
theorem withoutReturn_document (value : Json) (ending : LineEnd) :
    withoutReturn (value.compact.toList ++ ending.before) = value.compact.toList := by
  refine withoutReturn_append_before (fun last => ?_) ending
  exact Json.not_mem_compact (by decide) (List.mem_of_getLast? last)

theorem isBlankLine_withoutReturn {space : List Char}
    (isBlank : ∀ c ∈ space, isSpace c = true ∧ c ≠ '\n') (ending : LineEnd) :
    isBlankLine (withoutReturn (space ++ ending.before)) = true := by
  refine isBlankLine_iff.mpr fun c inside => ?_
  rcases List.mem_append.mp (withoutReturn_subset _ inside) with own | before
  · exact (isBlank c own).1
  · exact LineEnd.isSpace_of_mem_written (List.mem_append_left _ before)

/-- A line does not make a file of lines an array. -/
theorem opens_append (readable : line.Readable) (opens : (trimStart rest).head? ≠ some '[') :
    (trimStart (line.text ++ rest)).head? ≠ some '[' := by
  cases line with
  | document value =>
    obtain ⟨inner, braced⟩ := opensWithBrace (readable value rfl).1
    rw [text, braced]
    exact (by decide : some '\x7b' ≠ some '[')
  | blank space isBlank =>
    rw [text, trimStart_append fun c inside => (isBlank c inside).1]
    exact opens

/-- A line with its end adds its document to those of the lines behind it. -/
theorem documentsOfLines_line (readable : line.Readable) (ending : LineEnd)
    (read : documentsOfLines rest = .ok later) :
    documentsOfLines (line.text ++ ending.written ++ rest) =
      .ok (line.document?.toList ++ later) := by
  have cut : line.text ++ ending.written ++ rest =
      (line.text ++ ending.before) ++ '\n' :: rest := by
    simp [LineEnd.written]
  rw [cut, documentsOfLines_append (line.unbroken_before ending)]
  cases line with
  | document value =>
    obtain ⟨object, back⟩ := readable value rfl
    rw [text, withoutReturn_document, not_isBlankLine object, String.ofList_toList, back, read]
    rfl
  | blank space isBlank =>
    rw [text, isBlankLine_withoutReturn isBlank]
    exact read

/-- The last line gives its document without an end. -/
theorem documentsOfLines_last (readable : line.Readable) :
    documentsOfLines line.text = .ok line.document?.toList := by
  rw [documentsOfLines, lines_of_not_mem line.unbroken]
  cases line with
  | document value =>
    obtain ⟨object, back⟩ := readable value rfl
    obtain ⟨inner, braced⟩ := opensWithBrace object
    have given : (FileLine.document value).text.isEmpty = false := by
      rw [text, braced]
      rfl
    rw [given, if_neg Bool.false_ne_true, text, List.filter_singleton, not_isBlankLine object]
    simp [back]
    rfl
  | blank space isBlank =>
    have blank : isBlankLine space = true :=
      isBlankLine_iff.mpr fun c inside => (isBlank c inside).1
    rw [text]
    split
    · rfl
    · simp [blank]
      rfl

end FileLine

/-- A file with a document on each line that is not blank. The lines have their ends, and the last one
has none: it is blank and empty if the file has a final line end. -/
structure LineFile where
  ended : List (FileLine × LineEnd)
  last : FileLine

namespace LineFile

def text (file : LineFile) : List Char :=
  file.ended.flatMap (fun line => line.1.text ++ line.2.written) ++ file.last.text

def lines (file : LineFile) : List FileLine := file.ended.map (·.1) ++ [file.last]

def documents (file : LineFile) : List Json := file.lines.filterMap FileLine.document?

variable {ended : List (FileLine × LineEnd)} {last : FileLine} {file : LineFile}

theorem text_cons (line : FileLine × LineEnd) :
    text ⟨line :: ended, last⟩ = line.1.text ++ line.2.written ++ text ⟨ended, last⟩ := by
  rw [text, text, List.flatMap_cons, List.append_assoc]

theorem documents_cons (line : FileLine × LineEnd) :
    documents ⟨line :: ended, last⟩ = line.1.document?.toList ++ documents ⟨ended, last⟩ := by
  rw [documents, documents, lines, lines, List.map_cons, List.cons_append, List.filterMap_cons]
  cases line.1.document? <;> rfl

/-- A file of lines does not begin like an array. -/
theorem opens (readable : ∀ line ∈ file.lines, line.Readable) :
    (trimStart file.text).head? ≠ some '[' := by
  obtain ⟨ended, last⟩ := file
  induction ended with
  | nil =>
    have given : last.Readable := readable last (List.mem_singleton_self last)
    have nothing : (trimStart []).head? ≠ some '[' := by decide
    have alone : text ⟨[], last⟩ = last.text ++ [] := (List.append_nil last.text).symm
    rw [alone]
    exact FileLine.opens_append given nothing
  | cons line ended ih =>
    obtain ⟨given, others⟩ := List.forall_mem_cons.mp readable
    rw [text_cons, List.append_assoc]
    refine FileLine.opens_append given ?_
    rw [trimStart_append fun c inside => LineEnd.isSpace_of_mem_written inside]
    exact ih others

/-- The lines of a file give its documents in order. -/
theorem documentsOfLines_text (readable : ∀ line ∈ file.lines, line.Readable) :
    documentsOfLines file.text = .ok file.documents := by
  obtain ⟨ended, last⟩ := file
  induction ended with
  | nil =>
    have given : last.Readable := readable last (List.mem_singleton_self last)
    have single : documents ⟨[], last⟩ = last.document?.toList := by
      cases last <;> rfl
    rw [single]
    exact FileLine.documentsOfLines_last given
  | cons line ended ih =>
    obtain ⟨given, others⟩ := List.forall_mem_cons.mp readable
    rw [text_cons, documents_cons]
    exact FileLine.documentsOfLines_line given line.2 (ih others)

/-- A file gives its documents if they are objects that are read back from their texts. -/
theorem readDocuments_text (objects : ∀ document ∈ file.documents, ∃ entries, document = .object entries)
    (readBack : ∀ document ∈ file.documents, Json.parse document.compact = .ok document) :
    readDocuments (String.ofList file.text) = .ok file.documents := by
  have readable : ∀ line ∈ file.lines, line.Readable := by
    intro line listed document held
    have mem : document ∈ file.documents := List.mem_filterMap.mpr ⟨line, listed, held⟩
    exact ⟨objects document mem, readBack document mem⟩
  have opens : (trimStart (String.ofList file.text).toList).head? ≠ some '[' := by
    rw [String.toList_ofList]
    exact file.opens readable
  rw [readDocuments_of_lines opens, String.toList_ofList]
  exact documentsOfLines_text readable

end LineFile

/-- A list of objects is read from both formats: from the compact text of their array, and from any
file that has their compact texts on its lines in order, however its lines end and whatever blank
lines it has. What is assumed is that the array and each object are read back from their texts. -/
theorem formats_agree {documents : List Json}
    (objects : ∀ document ∈ documents, ∃ entries, document = .object entries)
    (readBack : ∀ value ∈ Json.array documents :: documents,
      Json.parse value.compact = .ok value) :
    readDocuments (Json.array documents).compact = .ok documents ∧
      ∀ file : LineFile, file.documents = documents →
        readDocuments (String.ofList file.text) = .ok documents := by
  obtain ⟨array, each⟩ := List.forall_mem_cons.mp readBack
  refine ⟨readDocuments_compact array, fun file same => ?_⟩
  subst same
  exact file.readDocuments_text objects each

/-- Documents whose strings look like line ends and brackets, on lines with both ends, behind a blank
line and before white space without an end. -/
def awkwardFile : LineFile where
  ended := [(.blank [] (by simp), .feed),
    (.document (.object [("[", .string "\x7d\r\n[\x85\u2028")]), .returnFeed),
    (.blank [' ', '\t', '\r', '\x85'] (by simp; decide), .feed),
    (.document (.object []), .feed),
    (.document (.object [("lines\n", .array [.null, .bool true, Json.ofInt (-3),
      .string "\\\"\n"])]), .feed)]
  last := .blank ['\r'] (by simp; decide)

theorem awkward_formats_agree :
    readDocuments (Json.array awkwardFile.documents).compact = .ok awkwardFile.documents ∧
      readDocuments (String.ofList awkwardFile.text) = .ok awkwardFile.documents := by
  have objects : ∀ document ∈ awkwardFile.documents, ∃ entries, document = .object entries :=
    List.forall_mem_cons.mpr ⟨⟨_, rfl⟩, List.forall_mem_cons.mpr ⟨⟨_, rfl⟩,
      List.forall_mem_singleton.mpr ⟨_, rfl⟩⟩⟩
  have readBack : ∀ value ∈ Json.array awkwardFile.documents :: awkwardFile.documents,
      (Json.parse value.compact).toOption = some value := by decide +kernel
  obtain ⟨array, files⟩ := formats_agree objects fun value listed =>
    toOption_eq_some.mp (readBack value listed)
  exact ⟨array, files awkwardFile rfl⟩

/-- Legible objects need no assumption about the reader. -/
theorem legible_formats_agree {documents : List Json}
    (objects : ∀ document ∈ documents, ∃ entries, document = .object entries)
    (legible : ∀ document ∈ documents, Json.Legible (Json.depthLimit - 1) document) :
    readDocuments (Json.array documents).compact = .ok documents ∧
      ∀ file : LineFile, file.documents = documents →
        readDocuments (String.ofList file.text) = .ok documents := by
  obtain ⟨array, each⟩ := List.forall_mem_cons.mp (Json.parse_compact_array legible)
  refine ⟨readDocuments_compact array, fun file same => ?_⟩
  subst same
  exact file.readDocuments_text objects each

end TypedSearch.CommandLine
