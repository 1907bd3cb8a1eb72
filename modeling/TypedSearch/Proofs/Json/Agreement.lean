import Mathlib.Data.List.Forall2
import TypedSearch.Proofs.Json.Rearrangement
import TypedSearch.Proofs.Json.Text

/-!
When values agree. Values made of strings in which no key comes twice agree just if they differ at
most in the order of entries, so for them agreement is an equivalence.
-/

namespace TypedSearch.Json

open Relation

variable {value other : Json} {entries others : Entries} {items : List Json} {key : String}

/-- A value made of strings in which no key comes twice. -/
structure Plain (value : Json) : Prop where
  /-- The value is made of strings. -/
  textual : value.Textual
  /-- No key comes twice. -/
  keyed : value.Keyed

theorem plain_string (text : String) : Plain (.string text) := ⟨.string text, .string text⟩

theorem plain_array : Plain (.array items) ↔ ∀ item ∈ items, Plain item := by
  constructor
  · intro plain item member
    cases plain.textual with
    | array textual => exact ⟨textual item member, keyed_array.mp plain.keyed item member⟩
  · intro each
    exact ⟨.array fun item member => (each item member).textual,
      .array fun item member => (each item member).keyed⟩

theorem plain_object :
    Plain (.object entries) ↔
      (Entries.keys entries).Nodup ∧ ∀ entry ∈ entries, Plain entry.2 := by
  constructor
  · intro plain
    obtain ⟨distinct, each⟩ := keyed_object.mp plain.keyed
    cases plain.textual with
    | object textual =>
      exact ⟨distinct, fun entry member => ⟨textual entry member, each entry member⟩⟩
  · rintro ⟨distinct, each⟩
    exact ⟨.object fun entry member => (each entry member).textual,
      .object distinct fun entry member => (each entry member).keyed⟩

theorem itemsAgree_iff {others : List Json} :
    itemsAgree items others = true ↔
      List.Forall₂ (fun item other => item.agrees other = true) items others := by
  induction items generalizing others with
  | nil => cases others <;> simp [itemsAgree]
  | cons item rest ih =>
    cases others with
    | nil => simp [itemsAgree]
    | cons other others => simp [itemsAgree, ih]

theorem objectsAgree_iff :
    (Json.object entries).agrees (.object others) = true ↔
      entries.length = others.length ∧ ∀ entry ∈ entries, ∃ other,
        others.lookup entry.1 = some other ∧ entry.2.agrees other = true := by
  rw [agrees, Bool.and_eq_true, beq_iff_eq, entriesAgree_iff]

namespace Reordered

theorem symm (same : Reordered value other) : Reordered other value := by
  induction same with
  | refl => exact .refl
  | tail _ step ih => exact ReflTransGen.head step.symm ih

theorem keyed (same : Reordered value other) (keyed : value.Keyed) : other.Keyed := by
  induction same with
  | refl => exact keyed
  | tail _ step ih => exact step.keyed ih

/-- What is reordered behind an item of a list is reordered in the list. -/
theorem array_behind {rest others : List Json} (item : Json)
    (later : Reordered (.array rest) (.array others)) :
    Reordered (.array (item :: rest)) (.array (item :: others)) := by
  generalize start : Json.array rest = first at later
  induction later using ReflTransGen.head_induction_on generalizing rest with
  | refl =>
    cases start
    exact .refl
  | head step _ ih =>
    subst start
    cases step with
    | item before after inside => exact .head (.item (item :: before) after inside) (ih rfl)

/-- What is reordered behind an entry of an object is reordered in the object. -/
theorem object_behind (entry : String × Json)
    (later : Reordered (.object entries) (.object others)) :
    Reordered (.object (entry :: entries)) (.object (entry :: others)) := by
  generalize start : Json.object entries = first at later
  induction later using ReflTransGen.head_induction_on generalizing entries with
  | refl =>
    cases start
    exact .refl
  | head step _ ih =>
    subst start
    cases step with
    | here order => exact .head (.here (order.cons entry)) (ih rfl)
    | entry before after key inside =>
      exact .head (.entry (entry :: before) after key inside) (ih rfl)

/-- Lists of values are reordered with their first items and with what follows. -/
theorem array_cons {rest others : List Json} (first : Reordered value other)
    (later : Reordered (.array rest) (.array others)) :
    Reordered (.array (value :: rest)) (.array (other :: others)) := by
  have inFirst : Reordered (.array (value :: rest)) (.array (other :: rest)) :=
    ReflTransGen.lift (fun head => Json.array ([] ++ head :: rest)) (fun _ _ => .item [] rest) _ _
      first
  exact inFirst.trans (array_behind other later)

/-- Objects are reordered with the values of their first entries and with what follows. -/
theorem object_cons (first : Reordered value other)
    (later : Reordered (.object entries) (.object others)) :
    Reordered (.object ((key, value) :: entries)) (.object ((key, other) :: others)) := by
  have inFirst : Reordered (.object ((key, value) :: entries))
      (.object ((key, other) :: entries)) :=
    ReflTransGen.lift (fun head => Json.object ([] ++ (key, head) :: entries))
      (fun _ _ => .entry [] entries key) _ _ first
  exact inFirst.trans (object_behind (key, other) later)

end Reordered

/-- Values made of strings agree with themselves if no key comes twice in them. -/
theorem agrees_self (plain : value.Plain) : value.agrees value = true := by
  induction value using value_induction with
  | null | bool | number => cases plain.textual
  | string text => simp [agrees]
  | array items ih =>
    rw [agrees, itemsAgree_iff, List.forall₂_same]
    exact fun item member => ih item member (plain_array.mp plain item member)
  | object entries ih =>
    obtain ⟨distinct, each⟩ := plain_object.mp plain
    refine objectsAgree_iff.mpr ⟨rfl, fun entry member => ⟨entry.2, ?_, ?_⟩⟩
    · exact (Table.lookup_eq_some_iff distinct).mpr member
    · exact ih entry member (each entry member)

theorem itemsAgree_replaced {before after : List Json}
    (change : ∀ item : Json, item.agrees value = true → item.agrees other = true)
    (agree : List.Forall₂ (fun item other => item.agrees other = true) items
      (before ++ value :: after)) :
    List.Forall₂ (fun item other => item.agrees other = true) items (before ++ other :: after) := by
  induction before generalizing items with
  | nil =>
    cases agree with
    | cons head tail => exact .cons (change _ head) tail
  | cons first before ih =>
    cases agree with
    | cons head tail => exact .cons head (ih tail)

/-- What agrees with a value agrees with the rearranged value. -/
theorem agrees_rearranged (step : Rearranged value other) (keyed : value.Keyed) {first : Json}
    (agree : first.agrees value = true) : first.agrees other = true := by
  induction step generalizing first with
  | @here entries others order =>
    cases first with
    | object own =>
      obtain ⟨distinct, -⟩ := keyed_object.mp keyed
      obtain ⟨long, each⟩ := objectsAgree_iff.mp agree
      refine objectsAgree_iff.mpr ⟨long.trans order.length_eq, fun entry member => ?_⟩
      rw [← Entries.lookup_perm order distinct]
      exact each entry member
    | null | bool | number | string | array => simp [agrees] at agree
  | @item before after value other inside ih =>
    cases first with
    | array own =>
      rw [agrees, itemsAgree_iff] at agree ⊢
      have inner : value.Keyed := keyed_array.mp keyed value (by simp)
      exact itemsAgree_replaced (fun _ => ih inner) agree
    | null | bool | number | string | object => simp [agrees] at agree
  | @entry before after name value other inside ih =>
    cases first with
    | object own =>
      have inner : value.Keyed := (keyed_object.mp keyed).2 (name, value) (by simp)
      obtain ⟨long, each⟩ := objectsAgree_iff.mp agree
      refine objectsAgree_iff.mpr ⟨by simpa using long, fun entry member => ?_⟩
      obtain ⟨found, held, alike⟩ := each entry member
      rcases Entries.lookup_replaced before after name value other entry.1 with
        same | ⟨-, one, two⟩
      · exact ⟨found, same ▸ held, alike⟩
      · cases one.symm.trans held
        exact ⟨other, two, ih inner alike⟩
    | null | bool | number | string | array => simp [agrees] at agree

/-- Entries that agree with others of the same number are these in another order, each reordered in
itself. -/
theorem reordered_of_entries (distinct : (Entries.keys entries).Nodup)
    (long : entries.length = others.length)
    (each : ∀ entry ∈ entries, ∃ other, others.lookup entry.1 = some other ∧
      Reordered entry.2 other) : Reordered (.object entries) (.object others) := by
  induction entries generalizing others with
  | nil =>
    obtain rfl := List.length_eq_zero_iff.mp long.symm
    exact .refl
  | cons entry rest ih =>
    obtain ⟨key, value⟩ := entry
    obtain ⟨fresh, distinct⟩ := List.nodup_cons.mp distinct
    obtain ⟨⟨other, found, first⟩, later⟩ := List.forall_mem_cons.mp each
    -- The entry found under the key is moved to the front; the other keys are looked up behind it.
    obtain ⟨before, after, rfl⟩ := List.append_of_mem (Table.mem_of_lookup found)
    have remaining : Reordered (.object rest) (.object (before ++ after)) := by
      have counted : rest.length = (before ++ after).length := by
        simp only [List.length_cons, List.length_append] at long ⊢
        omega
      refine ih distinct counted fun entry member => ?_
      obtain ⟨own, held, same⟩ := later entry member
      have differ : entry.1 ≠ key := by
        rintro rfl
        exact fresh (List.mem_map.mpr ⟨entry, member, rfl⟩)
      refine ⟨own, ?_, same⟩
      rw [List.lookup_append, Table.lookup_cons_ne differ, ← List.lookup_append] at held
      exact held
    exact (Reordered.object_cons first remaining).tail (.here List.perm_middle.symm)

/-- A value made of strings in which no key comes twice agrees with just the values that differ from
it at most in the order of entries. -/
theorem agrees_iff_reordered (plain : value.Plain) :
    value.agrees other = true ↔ Reordered value other := by
  constructor
  · intro agree
    induction value using value_induction generalizing other with
    | null | bool | number => cases plain.textual
    | string text =>
      cases other with
      | string other =>
        obtain rfl : text = other := by simpa [agrees] using agree
        exact .refl
      | null | bool | number | array | object => simp [agrees] at agree
    | array items ih =>
      cases other with
      | array others =>
        rw [agrees, itemsAgree_iff] at agree
        rw [plain_array] at plain
        induction agree with
        | nil => exact .refl
        | cons head tail next =>
          rw [List.forall_mem_cons] at ih plain
          exact .array_cons (ih.1 plain.1 head) (next ih.2 plain.2)
      | null | bool | number | string | object => simp [agrees] at agree
    | object entries ih =>
      cases other with
      | object others =>
        obtain ⟨distinct, inner⟩ := plain_object.mp plain
        obtain ⟨long, each⟩ := objectsAgree_iff.mp agree
        refine reordered_of_entries distinct long fun entry member => ?_
        obtain ⟨other, found, alike⟩ := each entry member
        exact ⟨other, found, ih entry member (inner entry member) alike⟩
      | null | bool | number | string | array => simp [agrees] at agree
  · intro same
    induction same with
    | refl => exact agrees_self plain
    | tail before step ih => exact agrees_rearranged step (Reordered.keyed before plain.keyed) ih

end TypedSearch.Json
