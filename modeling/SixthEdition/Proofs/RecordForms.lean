/-
This file says in which forms a record may be written, and proves what the
reader finds at the places of the record's fields.

An object has the fields in any order, and each field that holds its default may
be left out. An array has them in their order, and can leave out only fields at
the end. The reader does not see the difference: at the place of a field it
finds a value that stands for what the field holds, or nothing where the field
may be left out. Other edits spoil a record: a key that names no field, a key
that is there already, and an item behind the place of the last field.
-/

import Mathlib.Data.List.Nodup
import SixthEdition.Description.Schema

namespace SixthEdition.Description

/-! ### The forms of a record -/

/-- A field of some record. -/
structure Field where
  name : String
  /-- Which values stand for what the field holds. -/
  SpelledBy : Json → Prop
  /-- Whether the field may be left out, because it holds its default. -/
  Omissible : Prop

/-- The entries of an object with some fields in their order. -/
inductive Entries : List Field → List (String × Json) → Prop where
  | nil : Entries [] []
  | omitted {field : Field} {fields : List Field} {entries : List (String × Json)}
      (omissible : field.Omissible) (others : Entries fields entries) :
      Entries (field :: fields) entries
  | present {field : Field} {fields : List Field} {value : Json} {entries : List (String × Json)}
      (spelled : field.SpelledBy value) (others : Entries fields entries) :
      Entries (field :: fields) ((field.name, value) :: entries)

/-- The items of an array with some fields. -/
inductive Items : List Field → List Json → Prop where
  | omitted {fields : List Field} (omissible : ∀ field ∈ fields, field.Omissible) : Items fields []
  | present {field : Field} {fields : List Field} {value : Json} {items : List Json}
      (spelled : field.SpelledBy value) (others : Items fields items) :
      Items (field :: fields) (value :: items)

/-- The values that stand for a record with some fields. -/
inductive SpellsRecord (fields : List Field) : Json → Prop where
  | object {inOrder entries : List (String × Json)} (spelled : Entries fields inOrder)
      (order : entries.Perm inOrder) : SpellsRecord fields (.object entries)
  | array {items : List Json} (spelled : Items fields items) : SpellsRecord fields (.array items)

/-! ### The places of the fields -/

/-- What the reader may find at the place of a field. -/
inductive Field.FilledBy (field : Field) : Option Json → Prop where
  | omitted (omissible : field.Omissible) : FilledBy field none
  | present {value : Json} (spelled : field.SpelledBy value) : FilledBy field (some value)

namespace Entries

variable {fields : List Field} {entries : List (String × Json)}

theorem sublist (spelled : Entries fields entries) :
    (entries.map Prod.fst).Sublist (fields.map Field.name) := by
  induction spelled with
  | nil => exact List.Sublist.slnil
  | omitted _ _ inductionHypothesis => exact inductionHypothesis.cons _
  | present _ _ inductionHypothesis => exact inductionHypothesis.cons_cons _

theorem exists_field (spelled : Entries fields entries) {name : String} {value : Json}
    (member : (name, value) ∈ entries) :
    ∃ field ∈ fields, field.name = name ∧ field.SpelledBy value := by
  induction spelled with
  | nil => exact absurd member List.not_mem_nil
  | omitted _ _ inductionHypothesis =>
    obtain ⟨field, isField, found⟩ := inductionHypothesis member
    exact ⟨field, List.mem_cons_of_mem _ isField, found⟩
  | @present field _ _ _ first _ inductionHypothesis =>
    rcases List.mem_cons.mp member with isFirst | isOther
    · obtain ⟨rfl, rfl⟩ := Prod.mk.inj isFirst
      exact ⟨field, List.mem_cons_self, rfl, first⟩
    · obtain ⟨field, isField, found⟩ := inductionHypothesis isOther
      exact ⟨field, List.mem_cons_of_mem _ isField, found⟩

theorem exists_entry (spelled : Entries fields entries) {field : Field} (member : field ∈ fields) :
    field.Omissible ∨ ∃ value, (field.name, value) ∈ entries := by
  induction spelled with
  | nil => exact absurd member List.not_mem_nil
  | omitted omissible _ inductionHypothesis =>
    rcases List.mem_cons.mp member with rfl | isOther
    · exact .inl omissible
    · exact inductionHypothesis isOther
  | present _ _ inductionHypothesis =>
    rcases List.mem_cons.mp member with rfl | isOther
    · exact .inr ⟨_, List.mem_cons_self⟩
    · refine (inductionHypothesis isOther).imp_right fun found => ?_
      exact ⟨found.choose, List.mem_cons_of_mem _ found.choose_spec⟩

end Entries

theorem mem_of_lookup {entries : List (String × Json)} {name : String} {value : Json}
    (found : entries.lookup name = some value) : (name, value) ∈ entries := by
  obtain ⟨before, after, rfl, -⟩ := List.lookup_eq_some_iff.mp found
  exact List.mem_append_right before List.mem_cons_self

theorem lookup_of_mem {entries : List (String × Json)} (distinct : (entries.map Prod.fst).Nodup)
    {name : String} {value : Json} (member : (name, value) ∈ entries) :
    entries.lookup name = some value := by
  obtain ⟨before, after, rfl⟩ := List.append_of_mem member
  refine List.lookup_eq_some_iff.mpr ⟨before, after, rfl, fun other isOther => ?_⟩
  rw [List.map_append, List.map_cons] at distinct
  have apart := (List.nodup_append.mp distinct).2.2 other.1 (List.mem_map_of_mem isOther)
  exact bne_iff_ne.mpr (apart name List.mem_cons_self).symm

theorem slots?_object_eq_some_iff {names : List String} {entries : List (String × Json)}
    {slots : List (Option Json)} :
    slots? names (.object entries) = some slots ↔
      (∀ name ∈ entries.map Prod.fst, name ∈ names) ∧ (entries.map Prod.fst).Nodup ∧
        slots = names.map fun name => entries.lookup name := by
  unfold slots?
  dsimp only
  rw [Option.ite_none_right_eq_some, Option.some_inj, List.all_eq_true, and_assoc,
    eq_comm (a := slots)]
  simp only [List.contains_iff_mem]

theorem slots?_array_eq_some_iff {names : List String} {items : List Json}
    {slots : List (Option Json)} :
    slots? names (.array items) = some slots ↔
      items.length ≤ names.length ∧
        slots = items.map some ++ List.replicate (names.length - items.length) none := by
  unfold slots?
  dsimp only
  rw [Option.ite_none_right_eq_some, Option.some_inj, eq_comm (a := slots)]

theorem Items.length_le {fields : List Field} {items : List Json} (spelled : Items fields items) :
    items.length ≤ fields.length := by
  induction spelled with
  | omitted _ => exact Nat.zero_le _
  | present _ _ inductionHypothesis => exact Nat.succ_le_succ inductionHypothesis

theorem Items.forall₂ {fields : List Field} {items : List Json} (spelled : Items fields items) :
    List.Forall₂ Field.FilledBy fields
      (items.map some ++ List.replicate (fields.length - items.length) none) := by
  induction spelled with
  | @omitted fields omissible =>
    show List.Forall₂ Field.FilledBy fields (List.replicate fields.length none)
    rw [← List.map_const', List.forall₂_map_right_iff, List.forall₂_same]
    exact fun field isField => .omitted (omissible field isField)
  | present first _ inductionHypothesis =>
    rw [List.length_cons, List.length_cons, Nat.add_sub_add_right]
    exact .cons (.present first) inductionHypothesis

/-- In whatever form the record is written, the reader finds its fields at their places. -/
theorem slots?_of_spellsRecord {fields : List Field} {json : Json}
    (spelled : SpellsRecord fields json) (distinct : (fields.map Field.name).Nodup) :
    ∃ slots, slots? (fields.map Field.name) json = some slots ∧
      List.Forall₂ Field.FilledBy fields slots := by
  cases spelled with
  | @object inOrder entries spelled order =>
    have keys := order.map Prod.fst
    have known (name : String) (isKey : name ∈ entries.map Prod.fst) :
        name ∈ fields.map Field.name := spelled.sublist.subset (keys.mem_iff.mp isKey)
    have apart := keys.nodup_iff.mpr (spelled.sublist.nodup distinct)
    refine ⟨_, slots?_object_eq_some_iff.mpr ⟨known, apart, rfl⟩, ?_⟩
    rw [List.forall₂_map_right_iff, List.forall₂_map_right_iff, List.forall₂_same]
    intro field isField
    cases found : entries.lookup field.name with
    | none =>
      refine .omitted ((spelled.exists_entry isField).resolve_right ?_)
      rintro ⟨value, member⟩
      have := lookup_of_mem apart (order.mem_iff.mpr member)
      rw [found] at this
      cases this
    | some value =>
      obtain ⟨other, isOther, sameName, spelledBy⟩ :=
        spelled.exists_field (order.mem_iff.mp (mem_of_lookup found))
      obtain rfl := List.inj_on_of_nodup_map distinct isOther isField sameName
      exact .present spelledBy
  | array spelled =>
    refine ⟨_, slots?_array_eq_some_iff.mpr ⟨?_, rfl⟩, ?_⟩ <;> rw [List.length_map]
    · exact spelled.length_le
    · exact spelled.forall₂

/-! ### Spoiled records -/

/-- Edits of a record that leave no record with the fields of these names. -/
inductive SpoilsRecord (names : List String) : Json → Json → Prop where
  | unknownKey {before after : List (String × Json)} {key : String} {value : Json}
      (unknown : key ∉ names) :
      SpoilsRecord names (.object (before ++ after)) (.object (before ++ (key, value) :: after))
  | repeatedKey {before after : List (String × Json)} {key : String} {value : Json}
      (present : key ∈ (before ++ after).map Prod.fst) :
      SpoilsRecord names (.object (before ++ after)) (.object (before ++ (key, value) :: after))
  | excessItems {items extra : List Json} (tooMany : names.length < (items ++ extra).length) :
      SpoilsRecord names (.array items) (.array (items ++ extra))

theorem slots?_eq_none_of_spoils {names : List String} {record spoiled : Json}
    (spoils : SpoilsRecord names record spoiled) : slots? names spoiled = none := by
  refine Option.eq_none_iff_forall_ne_some.mpr fun slots found => ?_
  cases spoils with
  | @unknownKey before after key value unknown =>
    have known := (slots?_object_eq_some_iff.mp found).1
    rw [List.map_append, List.map_cons] at known
    exact unknown (known key (List.mem_append_right _ List.mem_cons_self))
  | @repeatedKey before after key value present =>
    have distinct := (slots?_object_eq_some_iff.mp found).2.1
    rw [List.map_append, List.map_cons, List.nodup_middle, List.nodup_cons,
      ← List.map_append] at distinct
    exact distinct.1 present
  | excessItems tooMany =>
    exact Nat.not_le.mpr tooMany (slots?_array_eq_some_iff.mp found).1

/-! ### Values inside of records -/

/-- The record has the value for its field of the name. -/
inductive HasField (names : List String) (name : String) (value : Json) : Json → Prop where
  | object {entries : List (String × Json)} (member : (name, value) ∈ entries) :
      HasField names name value (.object entries)
  | array {items : List Json} {place : Nat} (isName : names[place]? = some name)
      (isItem : items[place]? = some value) : HasField names name value (.array items)

theorem HasField.getElem?_slots {names : List String} {name : String} {value json : Json}
    (hasField : HasField names name value json) {slots : List (Option Json)}
    (found : slots? names json = some slots) :
    ∃ place : Nat, names[place]? = some name ∧ slots[place]? = some (some value) := by
  cases hasField with
  | object member =>
    obtain ⟨known, distinct, rfl⟩ := slots?_object_eq_some_iff.mp found
    obtain ⟨place, isName⟩ := List.mem_iff_getElem?.mp (known name (List.mem_map_of_mem member))
    refine ⟨place, isName, ?_⟩
    rw [List.getElem?_map, isName, Option.map_some, lookup_of_mem distinct member]
  | @array items place isName isItem =>
    obtain ⟨-, rfl⟩ := slots?_array_eq_some_iff.mp found
    obtain ⟨inside, -⟩ := List.getElem?_eq_some_iff.mp isItem
    refine ⟨place, isName, ?_⟩
    rw [List.getElem?_append_left (by rwa [List.length_map]), List.getElem?_map, isItem,
      Option.map_some]

theorem Items.getElem? {fields : List Field} {items : List Json} (spelled : Items fields items)
    {place : Nat} {field : Field} {value : Json} (isField : fields[place]? = some field)
    (isItem : items[place]? = some value) : field.SpelledBy value := by
  induction spelled generalizing place with
  | omitted _ => cases isItem
  | present first _ inductionHypothesis =>
    cases place with
    | zero =>
      obtain rfl := Option.some.inj isField
      obtain rfl := Option.some.inj isItem
      exact first
    | succ place => exact inductionHypothesis isField isItem

theorem SpellsRecord.exists_field {fields : List Field} {name : String} {value json : Json}
    (spelled : SpellsRecord fields json)
    (hasField : HasField (fields.map Field.name) name value json) :
    ∃ field ∈ fields, field.name = name ∧ field.SpelledBy value := by
  cases spelled with
  | object spelled order =>
    cases hasField with
    | object member => exact spelled.exists_field (order.mem_iff.mp member)
  | array spelled =>
    cases hasField with
    | array isName isItem =>
      rw [List.getElem?_map] at isName
      obtain ⟨field, isField, sameName⟩ := Option.map_eq_some_iff.mp isName
      exact ⟨field, List.mem_of_getElem? isField, sameName, spelled.getElem? isField isItem⟩

/-- One field of a record is edited. -/
inductive EditsField (names : List String) (name : String) (Edits : Json → Json → Prop) :
    Json → Json → Prop where
  | object (before after : List (String × Json)) {old new : Json} (edits : Edits old new) :
      EditsField names name Edits (.object (before ++ (name, old) :: after))
        (.object (before ++ (name, new) :: after))
  | array (before after : List Json) {old new : Json}
      (isName : names[before.length]? = some name) (edits : Edits old new) :
      EditsField names name Edits (.array (before ++ old :: after))
        (.array (before ++ new :: after))

theorem EditsField.exists_hasField {names : List String} {name : String}
    {Edits : Json → Json → Prop} {record edited : Json}
    (editsField : EditsField names name Edits record edited) :
    ∃ old new, Edits old new ∧ HasField names name old record ∧
      HasField names name new edited := by
  have middle {Item : Type} (before : List Item) (item : Item) (after : List Item) :
      (before ++ item :: after)[before.length]? = some item := by
    rw [List.getElem?_append_right (Nat.le_refl _), Nat.sub_self]
    rfl
  cases editsField with
  | @object before after old new edits =>
    exact ⟨old, new, edits, .object (List.mem_append_right before List.mem_cons_self),
      .object (List.mem_append_right before List.mem_cons_self)⟩
  | @array before after old new isName edits =>
    exact ⟨old, new, edits, .array isName (middle before old after),
      .array isName (middle before new after)⟩

/-- One item of a list is edited. -/
inductive EditsItem (Edits : Json → Json → Prop) : Json → Json → Prop where
  | array (before after : List Json) {old new : Json} (edits : Edits old new) :
      EditsItem Edits (.array (before ++ old :: after)) (.array (before ++ new :: after))

end SixthEdition.Description
