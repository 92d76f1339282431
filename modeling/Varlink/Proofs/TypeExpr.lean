import Varlink.Interface.Linking
import Varlink.Proofs.Outcome

/-!
# Types with other references

What the references of a type are made of can be exchanged without touching anything else. Looking
the references up is undone in this way: with the names put back, a linked type is the type that was
written. So whatever depends only on how a type is written need not be followed through linking.
-/

namespace Varlink

namespace TypeExpr

variable {α β : Type}

mutual

/-- The type with every reference exchanged. -/
def rename (f : α → β) : TypeExpr α → TypeExpr β
  | .reference target => .reference (f target)
  | .builtin leaf => .builtin leaf
  | .modified modifier inner => .modified modifier (rename f inner)
  | .struct fields => .struct (renameFields f fields)
  | .enum members => .enum members

/-- The fields with every reference exchanged. -/
def renameFields (f : α → β) : List (String × TypeExpr α) → List (String × TypeExpr β)
  | [] => []
  | (name, type) :: rest => (name, rename f type) :: renameFields f rest

end

mutual

/-- The references of a type, in the order they are written. -/
def references : TypeExpr α → List α
  | .reference target => [target]
  | .builtin _ => []
  | .modified _ inner => references inner
  | .struct fields => fieldReferences fields
  | .enum _ => []

/-- The references of the types of fields. -/
def fieldReferences : List (String × TypeExpr α) → List α
  | [] => []
  | (_, type) :: rest => references type ++ fieldReferences rest

end

theorem mem_fieldReferences {fields : List (String × TypeExpr α)} {target : α} :
    target ∈ fieldReferences fields ↔ ∃ field ∈ fields, target ∈ field.2.references := by
  induction fields with
  | nil => simp [fieldReferences]
  | cons field fields ih => rw [fieldReferences, List.mem_append, ih, List.exists_mem_cons_iff]

/-- A name for each reference brings back the written form. -/
theorem print_rename (f : α → β) (name : β → String) (type : TypeExpr α) :
    (type.rename f).print name = type.print fun target => name (f target) := by
  induction type using TypeExpr.induction with
  | reference => rfl
  | builtin => rfl
  | modified modifier inner ih => rw [rename, print, ih, print]
  | enum => rfl
  | struct fields ih =>
      rw [rename, print, print]
      congr 3
      induction fields with
      | nil => rfl
      | cons field fields step =>
          obtain ⟨head, tail⟩ := List.forall_mem_cons.mp ih
          rw [renameFields, printFields, printFields, head, step tail]

/-- `linked` is `type` with its names looked up: putting the names back gives `type` again, and each
reference is what is found under its name. -/
structure Links (find : String → Option α) (nameOf : α → String) (type : TypeExpr String)
    (linked : TypeExpr α) : Prop where
  written : linked.rename nameOf = type
  found : ∀ target ∈ linked.references, find (nameOf target) = some target

/-- The same for fields. -/
structure LinksFields (find : String → Option α) (nameOf : α → String)
    (fields : List (String × TypeExpr String)) (linked : List (String × TypeExpr α)) : Prop where
  written : renameFields nameOf linked = fields
  found : ∀ target ∈ fieldReferences linked, find (nameOf target) = some target

/-- A type without references is its own linked form. -/
theorem Links.closed {find : String → Option α} {nameOf : α → String} {type : TypeExpr String}
    {linked : TypeExpr α} (written : linked.rename nameOf = type)
    (closed : linked.references = []) : Links find nameOf type linked := by
  refine ⟨written, ?_⟩
  intro target inside
  rw [closed] at inside
  cases inside

/-- A struct is linked field by field. -/
theorem LinksFields.struct {find : String → Option α} {nameOf : α → String}
    {fields : List (String × TypeExpr String)} {linked : List (String × TypeExpr α)}
    (inner : LinksFields find nameOf fields linked) :
    Links find nameOf (.struct fields) (.struct linked) :=
  ⟨by rw [rename, inner.written], inner.found⟩

section Linking

variable {find : String → Option α} {nameOf : α → String}

/-- Linking looks at a type only if there is a level left for it. -/
theorem levels_of_link {type : TypeExpr String} {levels : Nat} {linked : TypeExpr α}
    (h : link find type levels = .ok linked) : ∃ left, levels = left + 1 := by
  cases levels with
  | zero =>
      rw [link] at h
      cases h
  | succ left => exact ⟨left, rfl⟩

theorem LinksFields.of_each {fields : List (String × TypeExpr String)} {levels : Nat}
    {linked : List (String × TypeExpr α)}
    (each : ∀ field ∈ fields, ∀ linked, link find field.2 levels = .ok linked →
      Links find nameOf field.2 linked)
    (h : linkFields find fields levels = .ok linked) : LinksFields find nameOf fields linked := by
  induction fields generalizing linked with
  | nil =>
      rw [linkFields] at h
      obtain rfl : [] = linked := Except.ok.inj h
      refine ⟨rfl, ?_⟩
      intro target inside
      cases inside
  | cons field fields ih =>
      obtain ⟨name, type⟩ := field
      obtain ⟨head, tail⟩ := List.forall_mem_cons.mp each
      rw [linkFields] at h
      obtain ⟨first, firstLinked, h⟩ := bind_eq_ok.mp h
      obtain ⟨rest, restLinked, h⟩ := bind_eq_ok.mp h
      obtain rfl : (name, first) :: rest = linked := Except.ok.inj h
      have first := head _ firstLinked
      have rest := ih tail restLinked
      constructor
      · rw [renameFields, first.written, rest.written]
      · exact List.forall_mem_append.mpr ⟨first.found, rest.found⟩

theorem Links.of_link (names : ∀ name target, find name = some target → nameOf target = name)
    {type : TypeExpr String} {levels : Nat} {linked : TypeExpr α}
    (h : link find type levels = .ok linked) : Links find nameOf type linked := by
  induction type using TypeExpr.induction generalizing levels linked with
  | reference name =>
      obtain ⟨levels, rfl⟩ := levels_of_link h
      rw [link] at h
      split at h
      · rename_i target looked
        obtain rfl := Except.ok.inj h
        have named := names _ _ looked
        constructor
        · rw [rename, named]
        · intro other inside
          obtain rfl := List.mem_singleton.mp inside
          rw [named, looked]
      · cases h
  | builtin leaf =>
      obtain ⟨levels, rfl⟩ := levels_of_link h
      obtain rfl := Except.ok.inj h
      exact .closed rfl rfl
  | modified modifier inner ih =>
      obtain ⟨levels, rfl⟩ := levels_of_link h
      obtain ⟨found, innerLinked, h⟩ := bind_eq_ok.mp h
      obtain rfl := Except.ok.inj h
      have inner := ih innerLinked
      exact ⟨by rw [rename, inner.written], inner.found⟩
  | enum members =>
      obtain ⟨levels, rfl⟩ := levels_of_link h
      obtain rfl := Except.ok.inj h
      exact .closed rfl rfl
  | struct fields ih =>
      obtain ⟨levels, rfl⟩ := levels_of_link h
      obtain ⟨found, fieldsLinked, h⟩ := bind_eq_ok.mp h
      obtain rfl := Except.ok.inj h
      exact (LinksFields.of_each (fun field inside _ => ih field inside) fieldsLinked).struct

theorem LinksFields.of_linkFields
    (names : ∀ name target, find name = some target → nameOf target = name)
    {fields : List (String × TypeExpr String)} {levels : Nat}
    {linked : List (String × TypeExpr α)} (h : linkFields find fields levels = .ok linked) :
    LinksFields find nameOf fields linked :=
  .of_each (fun _ _ _ => .of_link names) h

end Linking

end TypeExpr

end Varlink
