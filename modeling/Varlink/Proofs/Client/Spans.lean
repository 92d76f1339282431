import Mathlib.Data.List.Basic
import Mathlib.Tactic.SplitIfs
import Varlink.Client.TypeScript

/-!
# The parts of a TypeScript module

The text of a module is taken apart into texts that are the same for all interfaces, names that stand
by themselves and names between quotes. Of the names by themselves some are names of declarations: a
name is declared where the declaration stands, and mentioned where a type is expected. No text of the
first sort has a quote in it, so all literals are told, and no other part stands for a declaration.
-/

namespace Varlink

namespace TypeScript

/-- A part of a module. -/
inductive Span where
  /-- A text that comes from no interface. -/
  | fixed (text : String)
  /-- A name that is written by itself. -/
  | name (text : String)
  /-- The name of a declaration where it is declared. -/
  | declared (text : String)
  /-- The name of a declaration in place of a type. -/
  | mentioned (text : String)
  /-- A name between double quotes. -/
  | quoted (text : String)
  deriving DecidableEq, Repr

namespace Span

/-- The text of a part. -/
def print : Span → String
  | fixed text | name text | declared text | mentioned text => text
  | quoted text => literal text

/-- The name in a literal. -/
def quoted? : Span → Option String
  | quoted text => some text
  | _ => none

/-- The name that is declared. -/
def declared? : Span → Option String
  | declared text => some text
  | _ => none

/-- The name in place of a type. -/
def mentioned? : Span → Option String
  | mentioned text => some text
  | _ => none

/-- Whether the part is the name of a declaration. -/
def isOfDeclaration : Span → Bool
  | declared _ | mentioned _ => true
  | _ => false

end Span

/-- The text of parts, one after the other. -/
def text (spans : List Span) : String := String.join (spans.map Span.print)

/-- Parts make up a text, and the literals in it are those with these names. -/
structure Spells (spans : List Span) (printed : String) (names : List String) : Prop where
  text : text spans = printed
  names : spans.filterMap Span.quoted? = names
  /-- No other literal begins, unless within a name. -/
  fixed : ∀ piece, .fixed piece ∈ spans → '"' ∉ piece.toList

section Spells

variable {spans others : List Span} {printed more : String} {names further : List String}

theorem text_singleton (span : Span) : text [span] = span.print := by
  rw [text, List.map_singleton, String.join_cons]
  exact String.append_empty

theorem spells_nil : Spells [] "" [] := ⟨rfl, rfl, fun _ inside => nomatch inside⟩

theorem spells_fixed {piece : String} (noQuote : '"' ∉ piece.toList) :
    Spells [.fixed piece] piece [] := by
  refine ⟨text_singleton _, rfl, fun other inside => ?_⟩
  obtain rfl := Span.fixed.inj (List.mem_singleton.mp inside)
  exact noQuote

/-- A name in any of its places. -/
theorem spells_word {span : Span} (isWord : ∀ piece, .fixed piece ≠ span) :
    Spells [span] span.print span.quoted?.toList where
  text := text_singleton span
  names := by cases span <;> rfl
  fixed piece inside := absurd (List.mem_singleton.mp inside) (isWord piece)

theorem spells_name (name : String) : Spells [.name name] name [] := spells_word nofun

theorem spells_declared (name : String) : Spells [.declared name] name [] := spells_word nofun

theorem spells_mentioned (name : String) : Spells [.mentioned name] name [] := spells_word nofun

theorem spells_quoted (name : String) : Spells [.quoted name] (literal name) [name] :=
  spells_word nofun

theorem Spells.append (first : Spells spans printed names) (second : Spells others more further) :
    Spells (spans ++ others) (printed ++ more) (names ++ further) where
  text := by
    rw [TypeScript.text, List.map_append, String.join_append, ← first.text, ← second.text]
    rfl
  names := by rw [List.filterMap_append, first.names, second.names]
  fixed piece inside := (List.mem_append.mp inside).elim (first.fixed piece) (second.fixed piece)

variable {α : Type} {items : List α} {pieces : α → List Span} {write : α → String}
  {literals : α → List String}

theorem Spells.flatMap (each : ∀ item ∈ items, Spells (pieces item) (write item) (literals item)) :
    Spells (items.flatMap pieces) (String.join (items.map write)) (items.flatMap literals) := by
  induction items with
  | nil => exact spells_nil
  | cons item items ih =>
      obtain ⟨here, others⟩ := List.forall_mem_cons.mp each
      rw [List.flatMap_cons, List.map_cons, String.join_cons, List.flatMap_cons]
      exact here.append (ih others)

theorem Spells.intercalate (separator : String) (noQuote : '"' ∉ separator.toList)
    (each : ∀ item ∈ items, Spells (pieces item) (write item) (literals item)) :
    Spells ([.fixed separator].intercalate (items.map pieces))
      (separator.intercalate (items.map write)) (items.flatMap literals) := by
  induction items with
  | nil => exact spells_nil
  | cons item items ih =>
      obtain ⟨here, others⟩ := List.forall_mem_cons.mp each
      cases items with
      | nil => simpa using here
      | cons next items =>
          have both := (here.append (spells_fixed noQuote)).append (ih others)
          rw [List.append_nil] at both
          simpa [List.intercalate_cons_cons] using both

end Spells

/-- The parts of a type. -/
def typeSpans : MemberType → List Span
  | .named name => [.mentioned name]
  | .builtin leaf => [.fixed (builtinType leaf)]
  | .modified .maybe inner => typeSpans inner ++ [.fixed " | null"]
  | .modified .array inner =>
    if (memberType inner).contains '|' then [.fixed "("] ++ typeSpans inner ++ [.fixed ")[]"]
    else typeSpans inner ++ [.fixed "[]"]
  | .modified .dictionary inner => [.fixed "Record<string, "] ++ typeSpans inner ++ [.fixed ">"]

/-- The parts of a member of a struct. -/
def fieldSpans (member : String × MemberType) : List Span :=
  [Span.fixed "  "] ++ [Span.name member.1]
    ++ [Span.fixed (if member.2.isOptional then "?" else "")] ++ [Span.fixed ": "]
    ++ typeSpans member.2 ++ [Span.fixed ";\n"]

/-- The parts of a declaration. -/
def declarationSpans (name : String) : Members → List Span
  | .struct fields =>
    [Span.fixed "\nexport interface "] ++ [Span.declared name] ++ [Span.fixed " \x7b\n"]
      ++ fields.flatMap fieldSpans ++ [Span.fixed "\x7d\n"]
  | .enum members =>
    [Span.fixed "\nexport type "] ++ [Span.declared name] ++ [Span.fixed " = "]
      ++ [Span.fixed " | "].intercalate (members.map fun member => [Span.quoted member])
      ++ [Span.fixed ";\n"]

/-- The parts of a case of the union of errors. -/
def errorSpans (error : ErrorOutline) : List Span :=
  match error.parameters with
  | some parameters =>
    [Span.fixed "  | \x7b "] ++ ([Span.fixed "error: "] ++ [Span.quoted error.qualified])
      ++ [Span.fixed "; parameters: "] ++ [Span.mentioned parameters] ++ [Span.fixed " \x7d"]
  | none =>
    [Span.fixed "  | \x7b "] ++ ([Span.fixed "error: "] ++ [Span.quoted error.qualified])
      ++ [Span.fixed " \x7d"]

/-- The parts of the union of errors. -/
def unionSpans (name : String) (errors : List ErrorOutline) : List Span :=
  if errors.isEmpty then []
  else [Span.fixed "\nexport type "] ++ [Span.name name] ++ [Span.fixed " =\n"]
    ++ [Span.fixed "\n"].intercalate (errors.map errorSpans) ++ [Span.fixed ";\n"]

/-- The parts of a call that is sent with a value. -/
def sentSpans (call : CallOutline) (value : String) : List Span :=
  [Span.fixed "await this.transport.call("] ++ [Span.quoted call.qualified] ++ [Span.fixed ", "]
    ++ [Span.fixed value] ++ [Span.fixed ")"]

/-- The parts of a method up to what it results in. -/
def headSpans (call : CallOutline) (argument : List Span) : List Span :=
  [Span.fixed "\n  async "] ++ [Span.name (methodName call)] ++ [Span.fixed "("] ++ argument
    ++ [Span.fixed "): Promise<"]

/-- The parts of a method that sends a call and gives back what it results in. -/
def bodySpans (head sent : List Span) : Option String → List Span
  | some result =>
    head ++ [Span.mentioned result] ++ [Span.fixed "> \x7b\n    return ("] ++ sent
      ++ [Span.fixed ") as "] ++ [Span.mentioned result] ++ [Span.fixed ";\n  \x7d\n"]
  | none => head ++ [Span.fixed "void> \x7b\n    "] ++ sent ++ [Span.fixed ";\n  \x7d\n"]

/-- The parts of a method of the client. -/
def methodSpans (call : CallOutline) : List Span :=
  match call.parameters with
  | some name =>
    bodySpans (headSpans call ([Span.fixed "args: "] ++ [Span.mentioned name])) (sentSpans call "args")
      call.results
  | none => bodySpans (headSpans call []) (sentSpans call "\x7b\x7d") call.results

/-- The parts of the type that stands for how calls are made. -/
def transportSpans : List Span :=
  [Span.fixed "\n/** Sends one call and resolves with the `parameters` of its reply. */\n"]
    ++ [Span.fixed "export interface Transport \x7b\n"]
    ++ [Span.fixed "  call(method: string, parameters: object): Promise<unknown>;\n\x7d\n"]

/-- The parts of the client. -/
def clientSpans (outline : Outline) : List Span :=
  [Span.fixed "\n/** Client for the `"] ++ [Span.name outline.interfaceName]
    ++ [Span.fixed "` interface. */\n"] ++ [Span.fixed "export class "]
    ++ [Span.name outline.clientName] ++ [Span.fixed " \x7b\n"]
    ++ [Span.fixed "  constructor(private readonly transport: Transport) \x7b\x7d\n"]
    ++ outline.calls.flatMap methodSpans ++ [Span.fixed "\x7d\n"]

/-- The parts of a module. -/
def spans (outline : Outline) : List Span :=
  [Span.fixed "// Generated by "] ++ [Span.fixed generatorSignature] ++ [Span.fixed " from `"]
    ++ [Span.name outline.interfaceName] ++ [Span.fixed "`\n\n"]
    ++ [Span.fixed "export const INTERFACE_NAME = "] ++ [Span.quoted outline.interfaceName]
    ++ [Span.fixed ";\n"]
    ++ outline.declarations.flatMap (fun declared => declarationSpans declared.1 declared.2)
    ++ unionSpans outline.errorTypeName outline.errors ++ transportSpans ++ clientSpans outline

/-- The members of an enum. -/
def enumMembers : Members → List String
  | .struct _ => []
  | .enum members => members

theorem spells_memberType (type : MemberType) : Spells (typeSpans type) (memberType type) [] := by
  induction type with
  | named name => exact spells_mentioned name
  | builtin leaf => exact spells_fixed (by cases leaf <;> decide)
  | modified modifier inner ih =>
      cases modifier with
      | maybe =>
          exact ih.append (@spells_fixed " | null" (by decide))
      | array =>
          show Spells (typeSpans (.modified .array inner)) (listType (memberType inner)) []
          rw [typeSpans, listType]
          split_ifs
          · exact ((spells_fixed (by decide)).append ih).append (spells_fixed (by decide))
          · exact ih.append (spells_fixed (by decide))
      | dictionary =>
          exact ((@spells_fixed "Record<string, " (by decide)).append ih).append
            (@spells_fixed ">" (by decide))

theorem spells_field (member : String × MemberType) :
    Spells (fieldSpans member) (field member.1 member.2) [] := by
  have mark : '"' ∉ (if member.2.isOptional then "?" else "").toList := by
    split_ifs <;> decide
  refine (((((spells_fixed ?_).append (spells_name _)).append (spells_fixed mark)).append
    (spells_fixed ?_)).append (spells_memberType _)).append (spells_fixed ?_) <;> decide

theorem spells_declaration (name : String) (members : Members) :
    Spells (declarationSpans name members) (declaration name members) (enumMembers members) := by
  cases members with
  | struct fields =>
      have inside := Spells.flatMap fun member (_ : member ∈ fields) => spells_field member
      rw [List.flatMap_eq_nil_iff.mpr fun _ _ => rfl] at inside
      refine ((((spells_fixed ?_).append (spells_declared name)).append (spells_fixed ?_)).append
        inside).append (spells_fixed ?_) <;> decide
  | enum members =>
      have inside := Spells.intercalate " | " (by decide)
        fun member (_ : member ∈ members) => spells_quoted member
      have all : Spells (declarationSpans name (.enum members)) (declaration name (.enum members))
          (([] ++ [] ++ [] ++ members.flatMap fun member => [member]) ++ []) := by
        refine ((((spells_fixed ?_).append (spells_declared name)).append (spells_fixed ?_)).append
          inside).append (spells_fixed ?_) <;> decide
      simpa [enumMembers] using all

theorem spells_errorCase (error : ErrorOutline) :
    Spells (errorSpans error) (errorCase error) [error.qualified] := by
  obtain ⟨name, qualified, parameters⟩ := error
  cases parameters with
  | some parameters =>
      refine ((((spells_fixed ?_).append ((spells_fixed ?_).append (spells_quoted _))).append
        (spells_fixed ?_)).append (spells_mentioned _)).append (spells_fixed ?_) <;> decide
  | none =>
      refine ((spells_fixed ?_).append ((spells_fixed ?_).append (spells_quoted _))).append
        (spells_fixed ?_) <;> decide

theorem spells_errorUnion (name : String) (errors : List ErrorOutline) :
    Spells (unionSpans name errors) (errorUnion name errors) (errors.map (·.qualified)) := by
  rw [unionSpans, errorUnion]
  split_ifs with none
  · rw [List.isEmpty_iff.mp none]
    exact spells_nil
  · have inside := Spells.intercalate "\n" (by decide)
      fun error (_ : error ∈ errors) => spells_errorCase error
    rw [← List.map_eq_flatMap] at inside
    have all := ((((@spells_fixed "\nexport type " (by decide)).append
      (spells_name name)).append (@spells_fixed " =\n" (by decide))).append inside).append
      (@spells_fixed ";\n" (by decide))
    simpa using all

theorem spells_sent (call : CallOutline) {value : String} (noQuote : '"' ∉ value.toList) :
    Spells (sentSpans call value) ("await this.transport.call(" ++ literal call.qualified ++ ", "
      ++ value ++ ")") [call.qualified] := by
  refine ((((spells_fixed ?_).append (spells_quoted _)).append (spells_fixed ?_)).append
    (spells_fixed noQuote)).append (spells_fixed ?_) <;> decide

theorem spells_head (call : CallOutline) {argument : List Span} {printed : String}
    (inside : Spells argument printed []) :
    Spells (headSpans call argument)
      ("\n  async " ++ methodName call ++ "(" ++ printed ++ "): Promise<") [] := by
  refine ((((spells_fixed ?_).append (spells_name _)).append (spells_fixed ?_)).append
    inside).append (spells_fixed ?_) <;> decide

theorem spells_method (call : CallOutline) :
    Spells (methodSpans call) (method call) [call.qualified] := by
  have body : ∀ {head sent : List Span} {first second : String}, Spells head first [] →
      Spells sent second [call.qualified] → Spells (bodySpans head sent call.results)
        (match call.results with
          | some result => first ++ result ++ "> \x7b\n    return (" ++ second ++ ") as " ++ result
              ++ ";\n  \x7d\n"
          | none => first ++ "void> \x7b\n    " ++ second ++ ";\n  \x7d\n") [call.qualified] := by
    intro head sent first second before after
    cases call.results with
    | some result =>
        refine (((((before.append (spells_mentioned _)).append (spells_fixed ?_)).append after).append
          (spells_fixed ?_)).append (spells_mentioned _)).append (spells_fixed ?_) <;> decide
    | none =>
        refine ((before.append (spells_fixed ?_)).append after).append (spells_fixed ?_) <;> decide
  rw [methodSpans, method]
  cases call.parameters with
  | some name =>
      exact body (spells_head call ((spells_fixed (by decide)).append (spells_mentioned name)))
        (spells_sent call (by decide))
  | none => exact body (spells_head call spells_nil) (spells_sent call (by decide))

theorem spells_client (outline : Outline) :
    Spells (clientSpans outline) (client outline) (outline.calls.map (·.qualified)) := by
  have inside := Spells.flatMap fun call (_ : call ∈ outline.calls) => spells_method call
  rw [← List.map_eq_flatMap] at inside
  have all : Spells (clientSpans outline) (client outline)
      ([] ++ outline.calls.map (·.qualified) ++ []) := by
    refine ((((((((spells_fixed ?_).append (spells_name _)).append (spells_fixed ?_)).append
      (spells_fixed ?_)).append (spells_name _)).append (spells_fixed ?_)).append
      (spells_fixed ?_)).append inside).append (spells_fixed ?_) <;> decide
  simpa using all

theorem spells_transport : Spells transportSpans transport [] := by
  refine ((spells_fixed ?_).append (spells_fixed ?_)).append (spells_fixed ?_) <;> decide

/-- The literals of an outline, in the order of the module. -/
def literals (outline : Outline) : List String :=
  outline.interfaceName :: outline.declarations.flatMap (fun declared => enumMembers declared.2)
    ++ outline.errors.map (·.qualified) ++ outline.calls.map (·.qualified)

/-- The parts of a module make up its text. -/
theorem spells_module (outline : Outline) :
    Spells (spans outline) outline.toTypeScript (literals outline) := by
  have declarations := Spells.flatMap fun declared (_ : declared ∈ outline.declarations) =>
    spells_declaration declared.1 declared.2
  have errors := spells_errorUnion outline.errorTypeName outline.errors
  have constant : Spells ([Span.fixed "// Generated by "] ++ [Span.fixed generatorSignature]
        ++ [Span.fixed " from `"] ++ [Span.name outline.interfaceName] ++ [Span.fixed "`\n\n"]
        ++ [Span.fixed "export const INTERFACE_NAME = "] ++ [Span.quoted outline.interfaceName]
        ++ [Span.fixed ";\n"])
      ("// Generated by " ++ generatorSignature ++ " from `" ++ outline.interfaceName ++ "`\n\n"
        ++ "export const INTERFACE_NAME = " ++ literal outline.interfaceName ++ ";\n")
      [outline.interfaceName] := by
    refine (((((((spells_fixed ?_).append (spells_fixed ?_)).append (spells_fixed ?_)).append
      (spells_name _)).append (spells_fixed ?_)).append (spells_fixed ?_)).append
      (spells_quoted _)).append (spells_fixed ?_) <;> decide
  have all := (((constant.append declarations).append errors).append spells_transport).append
    (spells_client outline)
  rw [List.append_nil] at all
  exact all

end TypeScript

end Varlink
