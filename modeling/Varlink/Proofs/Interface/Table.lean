import Mathlib.Algebra.GroupWithZero.Nat
import Mathlib.Data.List.Basic
import Varlink.Interface.Numbering

/-!
# The table of types, block by block

The table is put together from blocks: the built-in types, the declared types, and for each
declaration and signature the types in place inside it. A type knows how many entries it takes, so
where a block starts follows from the sizes of those before it, and what the table holds from there
on is exactly the block. Whatever is said of one type can then be read off the table at its number,
without looking at any other block.
-/

namespace Varlink

section Offsets

variable {α β : Type} {size : α → Nat} {items : List α} {item : α}

/-- How many numbers the items before an index take. -/
def offset (size : α → Nat) (items : List α) (index : Nat) : Nat :=
  ((items.take index).map size).sum

@[simp] theorem offset_zero (items : List α) : offset size items 0 = 0 := rfl

@[simp] theorem offset_cons_succ (item : α) (items : List α) (index : Nat) :
    offset size (item :: items) (index + 1) = size item + offset size items index := by
  simp [offset]

theorem offset_map {γ : Type} (f : γ → α) (items : List γ) (index : Nat) :
    offset size (items.map f) index = offset (fun item => size (f item)) items index := by
  rw [offset, ← List.map_take, List.map_map]
  rfl

/-- Counting on through all items. -/
theorem foldl_add_size (first : Nat) (items : List α) :
    items.foldl (fun number item => number + size item) first =
      first + (items.map size).sum := by
  induction items generalizing first with
  | nil => rfl
  | cons item items ih => rw [List.foldl_cons, ih, List.map_cons, List.sum_cons, Nat.add_assoc]

theorem getElem?_numberFrom (first : Nat) (items : List α) (index : Nat) :
    (numberFrom size first items)[index]? =
      items[index]?.map fun item => (first + offset size items index, item) := by
  induction items generalizing first index with
  | nil => rfl
  | cons head items ih =>
      cases index with
      | zero => rfl
      | succ index =>
          rw [numberFrom, List.getElem?_cons_succ, ih, List.getElem?_cons_succ, offset_cons_succ,
            Nat.add_assoc]

/-- What has got a number stands in the list, behind what takes the numbers before it. -/
theorem exists_of_mem_numberFrom {first start : Nat}
    (inside : (start, item) ∈ numberFrom size first items) :
    ∃ index, items[index]? = some item ∧ first + offset size items index = start := by
  obtain ⟨index, found⟩ := List.mem_iff_getElem?.mp inside
  rw [getElem?_numberFrom] at found
  obtain ⟨_, isItem, same⟩ := Option.map_eq_some_iff.mp found
  obtain ⟨isStart, rfl⟩ := Prod.mk.inj same
  exact ⟨index, isItem, isStart⟩

theorem length_numberFrom (first : Nat) (items : List α) :
    (numberFrom size first items).length = items.length := by
  induction items generalizing first with
  | nil => rfl
  | cons head items ih => rw [numberFrom, List.length_cons, ih, List.length_cons]

/-- What stands in two lists put together stands in the first, or behind it in the second. -/
theorem getElem?_append_cases {before after : List α} {index : Nat}
    (h : (before ++ after)[index]? = some item) :
    before[index]? = some item ∨
      ∃ position, index = before.length + position ∧ after[position]? = some item := by
  by_cases here : index < before.length
  · rw [List.getElem?_append_left here] at h
    exact .inl h
  · obtain ⟨position, rfl⟩ := Nat.exists_eq_add_of_le (Nat.le_of_not_lt here)
    rw [List.getElem?_append_right (Nat.le_add_right ..), Nat.add_sub_cancel_left] at h
    exact .inr ⟨position, rfl, h⟩

theorem getElem?_concat {last : α} {index : Nat} (h : (items ++ [last])[index]? = some item) :
    items[index]? = some item ∨ index = items.length ∧ item = last := by
  rcases getElem?_append_cases h with found | ⟨position, rfl, found⟩
  · exact .inl found
  · rw [List.getElem?_singleton] at found
    split_ifs at found with first
    obtain rfl := Option.some.inj found
    exact .inr ⟨by rw [first, Nat.add_zero], rfl⟩

section Blocks

variable (block : Nat → α → List β) (sized : ∀ first item, (block first item).length = size item)
include sized

theorem length_flatMap_numberFrom (first : Nat) (items : List α) :
    ((numberFrom size first items).flatMap fun (first, item) => block first item).length =
      (items.map size).sum := by
  induction items generalizing first with
  | nil => rfl
  | cons head items ih =>
      rw [numberFrom, List.flatMap_cons, List.length_append, sized, ih, List.map_cons,
        List.sum_cons]

/-- Blocks that follow each other start where their numbers say. -/
theorem getElem?_flatMap_numberFrom {first index : Nat} (inside : items[index]? = some item)
    {position : Nat} {entry : β}
    (h : (block (first + offset size items index) item)[position]? = some entry) :
    ((numberFrom size first items).flatMap fun (first, item) =>
      block first item)[offset size items index + position]? = some entry := by
  induction items generalizing first index with
  | nil => cases inside
  | cons head items ih =>
      rw [numberFrom, List.flatMap_cons]
      cases index with
      | zero =>
          obtain rfl := Option.some.inj inside
          rw [offset_zero, Nat.zero_add]
          rw [offset_zero, Nat.add_zero] at h
          rw [List.getElem?_append_left (List.getElem?_eq_some_iff.mp h).1]
          exact h
      | succ index =>
          rw [offset_cons_succ] at h ⊢
          rw [List.getElem?_append_right (by rw [sized]; omega), sized]
          rw [← Nat.add_assoc] at h
          rw [show size head + offset size items index + position - size head =
            offset size items index + position by omega]
          exact ih inside h

end Blocks

end Offsets

/-- An entry of a type in place: a group has a name and is written as it is, a modifier has none. -/
inductive TypeEntry.InPlace : TypeEntry → Prop
  | modified {modifier : Modifier} {inner : Nat} {written : LinkedType} :
      InPlace ⟨none, .anonymous, .modified modifier inner, written⟩
  | struct {path : String} {origin : Origin} {numbers : List (String × Nat)} {fields : Fields} :
      InPlace ⟨some path, origin, .struct numbers, .struct fields⟩
  | enum {path : String} {members : List String} :
      InPlace ⟨some path, .anonymous, .enum members, .enum members⟩

namespace TypeExpr

/-- How many numbers the type of a field takes. -/
def fieldCount {α : Type} (field : String × TypeExpr α) : Nat := field.2.numberCount

theorem fieldsNumberCount_eq {α : Type} (fields : List (String × TypeExpr α)) :
    fieldsNumberCount fields = (fields.map fieldCount).sum := by
  induction fields with
  | nil => rfl
  | cons field fields ih => rw [fieldsNumberCount, ih, List.map_cons, List.sum_cons, fieldCount]

theorem fieldNumbers_eq (first : Nat) (fields : Fields) :
    fieldNumbers first fields =
      (numberFrom fieldCount first fields).map fun (first, field) =>
        (field.1, field.2.number first) := by
  induction fields generalizing first with
  | nil => rfl
  | cons field fields ih => rw [fieldNumbers, ih, numberFrom, List.map_cons, fieldCount]

theorem fieldNumbers_names (first : Nat) (fields : Fields) :
    (fieldNumbers first fields).map (·.1) = fields.map (·.1) := by
  induction fields generalizing first with
  | nil => rfl
  | cons field fields ih => rw [fieldNumbers, List.map_cons, ih, List.map_cons]

theorem fieldEntries_eq (path : String) (first : Nat) (fields : Fields) :
    fieldEntries path first fields =
      (numberFrom fieldCount first fields).flatMap fun (first, field) =>
        field.2.entries (memberPath path field.1) first := by
  induction fields generalizing first with
  | nil => rfl
  | cons field fields ih => rw [fieldEntries, ih, numberFrom, List.flatMap_cons, fieldCount]

theorem length_fieldEntries_of_each {fields : Fields}
    (each : ∀ field ∈ fields, ∀ path first,
      (field.2.entries path first).length = field.2.numberCount) (path : String) (first : Nat) :
    (fieldEntries path first fields).length = fieldsNumberCount fields := by
  induction fields generalizing first with
  | nil => rfl
  | cons field fields ih =>
      obtain ⟨head, tail⟩ := List.forall_mem_cons.mp each
      rw [fieldEntries, List.length_append, head, ih tail, fieldsNumberCount]

/-- A type has as many entries as it takes numbers. -/
@[simp] theorem length_entries (path : String) (first : Nat) (type : LinkedType) :
    (type.entries path first).length = type.numberCount := by
  induction type using TypeExpr.induction generalizing path first with
  | reference => rfl
  | builtin => rfl
  | modified modifier inner ih => rw [entries, List.length_append, ih]; rfl
  | struct fields ih =>
      rw [entries, List.length_append, length_fieldEntries_of_each ih]
      rfl
  | enum => rfl

@[simp] theorem length_fieldEntries (path : String) (first : Nat) (fields : Fields) :
    (fieldEntries path first fields).length = fieldsNumberCount fields :=
  length_fieldEntries_of_each (fun _ _ _ _ => length_entries ..) path first

/-- An entry inside fields belongs to the block of one of them. -/
theorem exists_block_of_mem_fieldEntries {path : String} {first : Nat} {fields : Fields}
    {entry : TypeEntry} (h : entry ∈ fieldEntries path first fields) :
    ∃ (index : Nat) (field : String × LinkedType), fields[index]? = some field ∧
      entry ∈ field.2.entries (memberPath path field.1)
        (first + offset fieldCount fields index) := by
  rw [fieldEntries_eq] at h
  obtain ⟨⟨start, field⟩, numbered, inside⟩ := List.mem_flatMap.mp h
  obtain ⟨index, isField, rfl⟩ := exists_of_mem_numberFrom numbered
  exact ⟨index, field, isField, inside⟩

theorem exists_of_mem_fieldEntries {path : String} {first : Nat} {fields : Fields}
    {entry : TypeEntry} (h : entry ∈ fieldEntries path first fields) :
    ∃ field ∈ fields, ∃ first, entry ∈ field.2.entries (memberPath path field.1) first := by
  obtain ⟨index, field, found, inside⟩ := exists_block_of_mem_fieldEntries h
  exact ⟨field, List.mem_of_getElem? found, _, inside⟩

/-- Types in place are anonymous. -/
theorem anonymous_of_mem_entries {type : LinkedType} {path : String} {first : Nat}
    {entry : TypeEntry} (h : entry ∈ type.entries path first) :
    entry.origin = .anonymous ∧ entry.InPlace := by
  induction type using TypeExpr.induction generalizing path first with
  | reference => cases h
  | builtin => cases h
  | modified modifier inner ih =>
      rcases List.mem_append.mp h with inside | last
      · exact ih inside
      · obtain rfl := List.mem_singleton.mp last
        exact ⟨rfl, .modified⟩
  | struct fields ih =>
      rcases List.mem_append.mp h with inside | last
      · obtain ⟨field, isField, _, inside⟩ := exists_of_mem_fieldEntries inside
        exact ih field isField inside
      · obtain rfl := List.mem_singleton.mp last
        exact ⟨rfl, .struct⟩
  | enum members =>
      obtain rfl := List.mem_singleton.mp h
      exact ⟨rfl, .enum⟩

theorem anonymous_of_mem_fieldEntries {fields : Fields} {path : String} {first : Nat}
    {entry : TypeEntry} (h : entry ∈ fieldEntries path first fields) :
    entry.origin = .anonymous ∧ entry.InPlace := by
  obtain ⟨field, -, _, inside⟩ := exists_of_mem_fieldEntries h
  exact anonymous_of_mem_entries inside

end TypeExpr

theorem Signature.inPlace_of_mem_entries {signature : Signature} {path : String} {first : Nat}
    {entry : TypeEntry} (h : entry ∈ signature.entries path first) : entry.InPlace := by
  cases signature with
  | declared index => cases h
  | inline fields =>
      rcases List.mem_append.mp h with inside | last
      · exact (TypeExpr.anonymous_of_mem_fieldEntries inside).2
      · obtain rfl := List.mem_singleton.mp last
        exact .struct

@[simp] theorem Signature.length_entries (path : String) (first : Nat) (signature : Signature) :
    (signature.entries path first).length = signature.numberCount := by
  cases signature with
  | inline fields => simp [Signature.entries, Signature.numberCount]
  | declared index => rfl

namespace Interface

variable {interface : Interface} {first : Nat}

/-- The table holds these entries from a number on. -/
def Holds (interface : Interface) (first : Nat) (entries : List TypeEntry) : Prop :=
  ∀ position entry, entries[position]? = some entry →
    interface.type? (first + position) = some entry

theorem Holds.left {before after : List TypeEntry}
    (h : interface.Holds first (before ++ after)) : interface.Holds first before := by
  intro position entry found
  refine h position entry ?_
  rw [List.getElem?_append_left (List.getElem?_eq_some_iff.mp found).1, found]

theorem Holds.last {before : List TypeEntry} {entry : TypeEntry}
    (h : interface.Holds first (before ++ [entry])) :
    interface.type? (first + before.length) = some entry :=
  h _ _ List.getElem?_concat_length

/-- The entries of fields hold the entries of each of them. -/
theorem Holds.field {path : String} {fields : Fields} {index : Nat} {field : String × LinkedType}
    (h : interface.Holds first (TypeExpr.fieldEntries path first fields))
    (inside : fields[index]? = some field) :
    interface.Holds (first + offset TypeExpr.fieldCount fields index)
      (field.2.entries (memberPath path field.1)
        (first + offset TypeExpr.fieldCount fields index)) := by
  intro position entry found
  rw [Nat.add_assoc]
  refine h _ _ ?_
  rw [TypeExpr.fieldEntries_eq]
  exact getElem?_flatMap_numberFrom
    (fun first field => field.2.entries (memberPath path field.1) first)
    (fun _ _ => TypeExpr.length_entries ..) inside found

/-- Where the types inside a declaration start. -/
def typedefStart (interface : Interface) (index : Nat) : Nat :=
  interface.firstInner + offset (fun typedef => typedef.body.numberCount) interface.typedefs index

/-- Where a signature starts. -/
def signatureStart (interface : Interface) (index : Nat) : Nat :=
  interface.firstSignature + offset (fun signature => signature.2.numberCount)
    interface.signatures index

theorem getElem?_numberedTypedefs (interface : Interface) (index : Nat) :
    interface.numberedTypedefs[index]? =
      interface.typedefs[index]?.map fun typedef => (interface.typedefStart index, typedef) :=
  getElem?_numberFrom ..

theorem getElem?_signatureNumbers (interface : Interface) (index : Nat) :
    interface.signatureNumbers[index]? = interface.signatures[index]?.map fun signature =>
      signature.2.number (interface.signatureStart index) := by
  rw [signatureNumbers, List.getElem?_map, numberedSignatures, getElem?_numberFrom,
    Option.map_map]
  rfl

theorem firstSignature_eq (interface : Interface) : interface.firstSignature =
    interface.firstInner +
      (interface.typedefs.map fun typedef => typedef.body.numberCount).sum := by
  rw [firstSignature, foldl_add_size]

/-- The entries of the types inside declarations. -/
def typedefInner (interface : Interface) : List TypeEntry :=
  interface.numberedTypedefs.flatMap fun (first, typedef) =>
    TypeExpr.fieldEntries typedef.name first typedef.body.fields

/-- The entries of the types of signatures. -/
def signatureInner (interface : Interface) : List TypeEntry :=
  interface.numberedSignatures.flatMap fun (first, path, signature) =>
    signature.entries path first

/-- The entries of the types in place, in the order of their numbers. -/
def innerEntries (interface : Interface) : List TypeEntry :=
  interface.typedefInner ++ interface.signatureInner

theorem types_eq (interface : Interface) :
    interface.types = builtinEntries ++ (interface.typedefEntries ++ interface.innerEntries) := by
  rw [types, innerEntries, List.append_assoc, List.append_assoc]
  rfl

theorem length_typedefEntries (interface : Interface) :
    interface.typedefEntries.length = interface.typedefs.length := by
  rw [typedefEntries, List.length_mapIdx, numberedTypedefs, length_numberFrom]

theorem length_typedefInner (interface : Interface) : interface.typedefInner.length =
    (interface.typedefs.map fun typedef => typedef.body.numberCount).sum :=
  length_flatMap_numberFrom
    (fun first (typedef : Typedef) => TypeExpr.fieldEntries typedef.name first typedef.body.fields)
    (fun _ _ => TypeExpr.length_fieldEntries ..) ..

theorem length_signatureInner (interface : Interface) : interface.signatureInner.length =
    (interface.signatures.map fun signature => signature.2.numberCount).sum :=
  length_flatMap_numberFrom
    (fun first (signature : String × Signature) => signature.2.entries signature.1 first)
    (fun _ _ => Signature.length_entries ..) ..

theorem length_types (interface : Interface) : interface.types.length =
    Builtin.all.length + (interface.typedefs.length +
      ((interface.typedefs.map fun typedef => typedef.body.numberCount).sum +
        (interface.signatures.map fun signature => signature.2.numberCount).sum)) := by
  rw [types_eq, List.length_append, List.length_append, innerEntries, List.length_append,
    length_typedefEntries, length_typedefInner, length_signatureInner, builtinEntries,
    List.length_map]

theorem type?_builtin (interface : Interface) (leaf : Builtin) :
    interface.type? leaf.number = some ⟨none, .builtin, .builtin leaf, .builtin leaf⟩ := by
  cases leaf <;> simp [type?, types_eq, Builtin.number, builtinEntries, Builtin.all]

/-- Past the built-in types the table goes on with the declared ones. -/
theorem type?_eq_getElem? (interface : Interface) (position : Nat) :
    interface.type? (6 + position) =
      (interface.typedefEntries ++ interface.innerEntries)[position]? := by
  have builtins : builtinEntries.length = 5 := rfl
  rw [show 6 + position = builtinEntries.length + position + 1 by omega, type?, types_eq,
    List.getElem?_append_right (Nat.le_add_right ..), Nat.add_sub_cancel_left]

theorem type?_typedef {index : Nat} {typedef : Typedef}
    (inside : interface.typedefs[index]? = some typedef) :
    interface.type? (typedefNumber index) = some ⟨some typedef.name, .typedef,
      typedef.body.shape (interface.typedefStart index), .reference index⟩ := by
  have bound := (List.getElem?_eq_some_iff.mp inside).1
  rw [typedefNumber, type?_eq_getElem?,
    List.getElem?_append_left (by rwa [length_typedefEntries]), typedefEntries,
    List.getElem?_mapIdx, getElem?_numberedTypedefs, inside]
  rfl

theorem type?_inner (interface : Interface) (position : Nat) :
    interface.type? (interface.firstInner + position) = interface.innerEntries[position]? := by
  rw [firstInner, typedefNumber, Nat.add_assoc, type?_eq_getElem?, ← length_typedefEntries,
    List.getElem?_append_right (Nat.le_add_right ..), Nat.add_sub_cancel_left]

/-- Every entry is that of a built-in type, of a declaration or of a type in place. -/
theorem exists_of_type? {number : Nat} {entry : TypeEntry}
    (h : interface.type? number = some entry) :
    (∃ leaf : Builtin, number = leaf.number ∧
      entry = ⟨none, .builtin, .builtin leaf, .builtin leaf⟩) ∨
    (∃ index typedef, interface.typedefs[index]? = some typedef ∧ number = typedefNumber index ∧
      entry = ⟨some typedef.name, .typedef, typedef.body.shape (interface.typedefStart index),
        .reference index⟩) ∨
    ∃ position, number = interface.firstInner + position ∧
      interface.innerEntries[position]? = some entry := by
  by_cases builtin : number < 6
  · have numbers : ∀ number < 6, number = 0 ∨ ∃ leaf ∈ Builtin.all, number = leaf.number := by
      decide
    rcases numbers number builtin with rfl | ⟨leaf, -, rfl⟩
    · cases h
    · exact .inl ⟨leaf, rfl, Option.some.inj (h.symm.trans (interface.type?_builtin leaf))⟩
  · obtain ⟨index, rfl⟩ := Nat.exists_eq_add_of_le (Nat.le_of_not_lt builtin)
    have found := (interface.type?_eq_getElem? index).symm.trans h
    rcases getElem?_append_cases found with declared | ⟨position, rfl, inner⟩
    · have bound := (List.getElem?_eq_some_iff.mp declared).1
      rw [length_typedefEntries] at bound
      have isTypedef := List.getElem?_eq_getElem bound
      refine .inr (.inl ⟨index, _, isTypedef, rfl, ?_⟩)
      exact Option.some.inj (h.symm.trans (type?_typedef isTypedef))
    · refine .inr (.inr ⟨position, ?_, inner⟩)
      rw [firstInner, typedefNumber, length_typedefEntries]
      omega

/-- A type in place is inside a declared type or a signature. -/
theorem exists_of_mem_innerEntries {entry : TypeEntry} (h : entry ∈ interface.innerEntries) :
    (∃ index typedef, interface.typedefs[index]? = some typedef ∧
      entry ∈ TypeExpr.fieldEntries typedef.name (interface.typedefStart index)
        typedef.body.fields) ∨
    ∃ index path fields, interface.signatures[index]? = some (path, .inline fields) ∧
      entry ∈ (Signature.inline fields).entries path (interface.signatureStart index) := by
  rcases List.mem_append.mp h with inside | inside
  · obtain ⟨⟨first, typedef⟩, numbered, inside⟩ := List.mem_flatMap.mp inside
    obtain ⟨index, isTypedef, rfl⟩ := exists_of_mem_numberFrom numbered
    exact .inl ⟨index, typedef, isTypedef, inside⟩
  · obtain ⟨⟨first, path, signature⟩, numbered, inside⟩ := List.mem_flatMap.mp inside
    obtain ⟨index, isSignature, rfl⟩ := exists_of_mem_numberFrom numbered
    cases signature with
    | declared target => cases inside
    | inline fields => exact .inr ⟨index, path, fields, isSignature, inside⟩

theorem inPlace_of_mem_innerEntries {entry : TypeEntry} (h : entry ∈ interface.innerEntries) :
    entry.InPlace := by
  rcases exists_of_mem_innerEntries h with ⟨_, _, -, inside⟩ | ⟨_, _, _, -, inside⟩
  · exact (TypeExpr.anonymous_of_mem_fieldEntries inside).2
  · exact Signature.inPlace_of_mem_entries inside

/-- The types inside a declaration have a block of their own. -/
theorem holds_typedef {index : Nat} {typedef : Typedef}
    (inside : interface.typedefs[index]? = some typedef) :
    interface.Holds (interface.typedefStart index)
      (TypeExpr.fieldEntries typedef.name (interface.typedefStart index) typedef.body.fields) := by
  intro position entry found
  rw [typedefStart, Nat.add_assoc, type?_inner, innerEntries]
  have here : interface.typedefInner[_]? = some entry := getElem?_flatMap_numberFrom
    (fun first (typedef : Typedef) => TypeExpr.fieldEntries typedef.name first typedef.body.fields)
    (fun _ _ => TypeExpr.length_fieldEntries ..) inside found
  rw [← here]
  exact List.getElem?_append_left (List.getElem?_eq_some_iff.mp here).1

/-- So do the types of a signature. -/
theorem holds_signature {index : Nat} {path : String} {signature : Signature}
    (inside : interface.signatures[index]? = some (path, signature)) :
    interface.Holds (interface.signatureStart index)
      (signature.entries path (interface.signatureStart index)) := by
  intro position entry found
  have here : interface.signatureInner[_]? = some entry := getElem?_flatMap_numberFrom
    (fun first (signature : String × Signature) => signature.2.entries signature.1 first)
    (fun _ _ => Signature.length_entries ..) inside found
  rw [signatureStart, firstSignature_eq, ← length_typedefInner, Nat.add_assoc, Nat.add_assoc,
    type?_inner, innerEntries, List.getElem?_append_right (Nat.le_add_right ..),
    Nat.add_sub_cancel_left]
  exact here

end Interface

end Varlink
