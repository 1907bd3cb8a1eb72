import TypedSearch.Proofs.Handler.Nulls
import TypedSearch.Request.FilterNode

/-!
Null in the nodes of filters. A node is read from its entries one after the other, be it given as an
object or as a list of its parts, and null is read as an absent part.
-/

namespace TypedSearch.FilterNode

open Json Outcome

variable {entries rest : Entries} {key : String} {value other : Json}

/-- Reads one entry into a node. -/
def readPart (node : FilterNode) (entry : String × Json) : Decoded FilterNode := do
  if entry.1 = "cond" then return ⟨← entry.2.toOption toEntries, node.all, node.any⟩
  else if entry.1 = "and" then return ⟨node.cond, ← childrenOfJson? entry.2, node.any⟩
  else if entry.1 = "or" then return ⟨node.cond, node.all, ← childrenOfJson? entry.2⟩
  else throw (.unknownField entry.1 keys)

theorem ofEntries_eq (node : FilterNode) (entries : Entries) :
    ofEntries node entries = entries.foldlM readPart node := by
  induction entries generalizing node with
  | nil => rfl
  | cons entry rest ih =>
    obtain ⟨key, value⟩ := entry
    rw [ofEntries, List.foldlM_cons, readPart]
    split
    · cases value.toOption toEntries with
      | error problem => rfl
      | ok cond => exact ih _
    · split
      · cases childrenOfJson? value with
        | error problem => rfl
        | ok all => exact ih _
      · split
        · cases childrenOfJson? value with
          | error problem => rfl
          | ok any => exact ih _
        · rfl

/-- The entries of a node, as an object or as a list of the parts in the order of their keys. -/
def entriesOf? : Json → Option Entries
  | .object entries => some entries
  | .array items => if items.length ≤ keys.length then some (keys.zip items) else none
  | _ => none

/-- A node is read from its entries. -/
theorem ofJson?_eq_ok {node : FilterNode} :
    ofJson? value = .ok node ↔
      ∃ entries, entriesOf? value = some entries ∧ entries.foldlM readPart empty = .ok node := by
  cases value with
  | object entries => simp [ofJson?, entriesOf?, ofEntries_eq]
  | array items =>
    have listed {items : List Json} (short : items.length ≤ keys.length)
        (same : ofJson? (.array items) = (keys.zip items).foldlM readPart empty) :
        ofJson? (.array items) = .ok node ↔ ∃ entries, entriesOf? (.array items) = some entries ∧
          entries.foldlM readPart empty = .ok node := by
      simp [entriesOf?, short, same]
    rcases items with _ | ⟨first, _ | ⟨second, _ | ⟨third, _ | ⟨next, rest⟩⟩⟩⟩
    · exact listed (by simp) rfl
    · refine listed (by simp [keys]) ?_
      simp [ofJson?, keys, readPart, empty, all, any]
    · refine listed (by simp [keys]) ?_
      simp [ofJson?, keys, readPart, empty, cond, all, any]
    · refine listed (by simp [keys]) ?_
      simp [ofJson?, keys, readPart, empty, cond, all, any]
    · simp [entriesOf?, keys, ofJson?, bind_eq_ok]
  | null | bool | number | string => simp [ofJson?, entriesOf?, Json.unexpected]

/-- A node has a value under a key, in an object or at the place of the key in a list, and another
value is put there. -/
inductive Replaced (key : String) (value other : Json) : Json → Json → Prop where
  | entry (before after : Entries) :
      Replaced key value other (.object (before ++ (key, value) :: after))
        (.object (before ++ (key, other) :: after))
  | place {before : List Json} (after : List Json) (placed : keys[before.length]? = some key) :
      Replaced key value other (.array (before ++ value :: after))
        (.array (before ++ other :: after))

/-- What stands at the place of a key in a list of parts is the entry of that key. -/
theorem zip_placed {keys : List String} {before : List Json} (after : List Json)
    (placed : keys[before.length]? = some key) :
    ∃ front back, ∀ value, keys.zip (before ++ value :: after) = front ++ (key, value) :: back := by
  induction before generalizing keys with
  | nil =>
    cases keys with
    | nil => cases placed
    | cons first rest =>
      cases placed
      exact ⟨[], rest.zip after, fun value => rfl⟩
  | cons item before ih =>
    cases keys with
    | nil => cases placed
    | cons first rest =>
      have inner : rest[before.length]? = some key := placed
      obtain ⟨front, back, zipped⟩ := ih inner
      exact ⟨(first, item) :: front, back, fun value => by simp [zipped value]⟩

theorem Replaced.entriesOf? {node trimmed : Json} (replaced : Replaced key value other node trimmed)
    {entries : Entries} (found : entriesOf? node = some entries) :
    ∃ before after, entries = before ++ (key, value) :: after ∧
      FilterNode.entriesOf? trimmed = some (before ++ (key, other) :: after) := by
  cases replaced with
  | entry before after =>
    cases found
    exact ⟨before, after, rfl, rfl⟩
  | @place before after placed =>
    obtain ⟨front, back, zipped⟩ := zip_placed after placed
    simp only [FilterNode.entriesOf?, List.length_append, List.length_cons] at found ⊢
    split at found
    next short =>
      cases found
      exact ⟨front, back, zipped value, by rw [if_pos short, zipped other]⟩
    next => cases found

/-- A node lacks the part of a key. -/
structure Lacks (node : FilterNode) (key : String) : Prop where
  cond : key = "cond" → node.cond = none
  all : key = "and" → node.all = none
  any : key = "or" → node.any = none

theorem readPart_lacks {node next : FilterNode} {entry : String × Json} (lacks : node.Lacks key)
    (differ : key ≠ entry.1) (ran : node.readPart entry = .ok next) : next.Lacks key := by
  rw [readPart] at ran
  split at ran
  next same =>
    obtain ⟨cond, -, set⟩ := bind_eq_ok.mp ran
    cases set
    exact ⟨fun own => (differ (own.trans same.symm)).elim, lacks.all, lacks.any⟩
  next =>
    split at ran
    next same =>
      obtain ⟨all, -, set⟩ := bind_eq_ok.mp ran
      cases set
      exact ⟨lacks.cond, fun own => (differ (own.trans same.symm)).elim, lacks.any⟩
    next =>
      split at ran
      next same =>
        obtain ⟨any, -, set⟩ := bind_eq_ok.mp ran
        cases set
        exact ⟨lacks.cond, lacks.all, fun own => (differ (own.trans same.symm)).elim⟩
      next => cases ran

theorem run_lacks {node final : FilterNode} (lacks : node.Lacks key)
    (absent : key ∉ Entries.keys entries) (ran : entries.foldlM readPart node = .ok final) :
    final.Lacks key := by
  induction entries generalizing node with
  | nil =>
    cases ran
    exact lacks
  | cons entry rest ih =>
    obtain ⟨differ, absent⟩ := not_or.mp (mt List.mem_cons.mpr absent)
    obtain ⟨next, first, later⟩ := bind_eq_ok.mp ran
    exact ih (readPart_lacks lacks differ first) absent later

/-- Null is read as an absent part. -/
theorem readPart_null {node : FilterNode} (known : key ∈ keys) (lacks : node.Lacks key) :
    node.readPart (key, .null) = .ok node := by
  obtain ⟨cond, all, any⟩ := node
  simp only [keys, List.mem_cons, List.not_mem_nil, or_false] at known
  rcases known with rfl | rfl | rfl
  · obtain rfl : cond = none := lacks.cond rfl
    rfl
  · obtain rfl : all = none := lacks.all rfl
    rfl
  · obtain rfl : any = none := lacks.any rfl
    rfl

/-- A node is read in the same way with null under one of its keys and without it. -/
theorem run_dropped (known : key ∈ keys) (dropped : DropsNull key entries rest) :
    entries.foldlM readPart empty = rest.foldlM readPart empty := by
  obtain ⟨before, after, absent, -⟩ := dropped
  rw [List.foldlM_append, List.foldlM_append]
  cases ran : before.foldlM readPart empty with
  | error problem => rfl
  | ok middle =>
    have lacks : middle.Lacks key :=
      run_lacks ⟨fun _ => rfl, fun _ => rfl, fun _ => rfl⟩ absent ran
    rw [ok_bind, ok_bind, List.foldlM_cons, readPart_null known lacks, ok_bind]

end TypedSearch.FilterNode
