import Mathlib.Data.List.Forall2
import Varlink.Client.RustModule

/-!
# What a module is made of

A module is made part by part, and it is there only if each of its names can be written. Every part
says in one place what it is made of: what is known of a field, a declaration or a function follows
from this, and no proof looks into the making itself.
-/

namespace Varlink

section Lists

variable {α β γ : Type} {f : α → Option β} {items : List α} {results : List β}

/-- The results of a list are those of its items, one by one. -/
theorem map_eq_of_mapM_eq_some (h : items.mapM f = some results) :
    items.map f = results.map some := by
  induction items generalizing results with
  | nil =>
      rw [List.mapM_nil] at h
      obtain rfl := Option.some.inj h
      rfl
  | cons item items ih =>
      rw [List.mapM_cons] at h
      obtain ⟨first, isFirst, h⟩ := Option.bind_eq_some_iff.mp h
      obtain ⟨rest, isRest, h⟩ := Option.bind_eq_some_iff.mp h
      obtain rfl := Option.some.inj h
      rw [List.map_cons, isFirst, ih isRest, List.map_cons]

theorem forall₂_of_mapM_eq_some (h : items.mapM f = some results) :
    List.Forall₂ (fun item result => f item = some result) items results := by
  have same := map_eq_of_mapM_eq_some h
  rwa [← List.forall₂_eq_eq_eq, List.forall₂_map_left_iff, List.forall₂_map_right_iff] at same

/-- What each result keeps of its item, the list of results keeps. -/
theorem map_eq_map_of_mapM {g : β → γ} {h : α → γ} (mapped : items.mapM f = some results)
    (each : ∀ item result, f item = some result → g result = h item) :
    results.map g = items.map h := by
  have related := forall₂_of_mapM_eq_some mapped
  rw [← List.forall₂_eq_eq_eq, List.forall₂_map_left_iff, List.forall₂_map_right_iff]
  exact related.flip.imp fun result item isResult => each item result isResult

end Lists

section Parts

variable {declarations : List (String × Members)} {owner : String}

/-- A field has the name and the type of its member, and a box where its struct can be reached. -/
theorem RustField.ofMember_eq_some {member : String × MemberType} {field : RustField} :
    RustField.ofMember declarations owner member = some field ↔
      ∃ name type, RustName.ofString? (Text.snakeCase member.1) = some name ∧
        RustType.ofMemberType member.2 = some type ∧
        ⟨name, name.rename? member.1, member.2.isOptional,
          if Members.hasPart declarations member.2 owner then type.box else type⟩ = field := by
  simp [RustField.ofMember, Option.bind_eq_some_iff]

/-- A variant has the name of its member. -/
theorem RustVariant.ofMember_eq_some {member : String} {variant : RustVariant} :
    RustVariant.ofMember member = some variant ↔
      ∃ name, RustName.ofString? (Text.pascalCase member) = some name ∧
        ⟨name, name.rename? member⟩ = variant := by
  simp [RustVariant.ofMember, Option.bind_eq_some_iff]

/-- The declaration for a struct has a field for each of its members. -/
theorem RustDeclaration.ofStruct_eq_some {members : List (String × MemberType)}
    {declaration : RustDeclaration} :
    RustDeclaration.ofMembers declarations owner (.struct members) = some declaration ↔
      ∃ name fields, RustName.ofString? owner = some name ∧
        members.mapM (RustField.ofMember declarations owner) = some fields ∧
        ⟨name, .struct fields⟩ = declaration := by
  simp [RustDeclaration.ofMembers, Option.bind_eq_some_iff]

/-- The one for an enum has a variant for each. -/
theorem RustDeclaration.ofEnum_eq_some {members : List String} {declaration : RustDeclaration} :
    RustDeclaration.ofMembers declarations owner (.enum members) = some declaration ↔
      ∃ name variants, RustName.ofString? owner = some name ∧
        members.mapM RustVariant.ofMember = some variants ∧
        ⟨name, .enum variants⟩ = declaration := by
  simp [RustDeclaration.ofMembers, Option.bind_eq_some_iff]

end Parts

section Whole

variable {outline : Outline}

/-- The case for an error has its name and that of its parameters. -/
theorem RustErrorCase.ofOutline_eq_some {error : ErrorOutline} {emitted : RustErrorCase} :
    RustErrorCase.ofOutline error = some emitted ↔
      ∃ name parameters, RustName.ofString? error.name = some name ∧
        RustName.ofOptional? error.parameters = some parameters ∧
        ⟨name, error.qualified, parameters⟩ = emitted := by
  simp [RustErrorCase.ofOutline, Option.bind_eq_some_iff]

/-- There is no enum of errors without errors, and else it has a case for each of them. -/
theorem RustErrors.ofOutline_eq_some {errors : Option RustErrors} :
    RustErrors.ofOutline outline = some errors ↔
      outline.errors = [] ∧ none = errors ∨
      outline.errors ≠ [] ∧ ∃ name cases, RustName.ofString? outline.errorTypeName = some name ∧
        outline.errors.mapM RustErrorCase.ofOutline = some cases ∧
        some ⟨name, cases⟩ = errors := by
  by_cases noErrors : outline.errors = []
  · simp [RustErrors.ofOutline, noErrors]
  · simp [RustErrors.ofOutline, noErrors, Option.bind_eq_some_iff]

/-- The function for a call has the names of its parameters and results. -/
theorem RustMethod.ofOutline_eq_some {call : CallOutline} {method : RustMethod} :
    RustMethod.ofOutline call = some method ↔
      ∃ name parameters results, RustMethod.functionName call.name = some name ∧
        RustName.ofOptional? call.parameters = some parameters ∧
        RustName.ofOptional? call.results = some results ∧
        ⟨name, call.qualified, parameters, results⟩ = method := by
  simp [RustMethod.ofOutline, Option.bind_eq_some_iff]

/-- A module has a declaration for each of the outline, and a function for each call. -/
theorem RustModule.ofOutline_eq_some {module : RustModule} :
    RustModule.ofOutline outline = some module ↔
      ∃ declarations errors client methods,
        outline.declarations.mapM (fun declaration =>
          RustDeclaration.ofMembers outline.declarations declaration.1 declaration.2) =
            some declarations ∧
        RustErrors.ofOutline outline = some errors ∧
        RustName.ofString? outline.clientName = some client ∧
        outline.calls.mapM RustMethod.ofOutline = some methods ∧
        ⟨outline.interfaceName, declarations, errors, client, methods⟩ = module := by
  simp [RustModule.ofOutline, Option.bind_eq_some_iff]

end Whole

end Varlink
