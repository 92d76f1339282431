import Varlink.Client
import Varlink.Proofs.Client.Name
import Varlink.Proofs.Interface.Declarations
import Varlink.Proofs.Interface.RoundTrip

/-!
# Names in a TypeScript module

The text of a module is a list of pieces with a name in each: what it exports, and within the client
what the class has as members. Declarations keep their names and the client gives way to them, so only
the names that every module has are left to meet others: `INTERFACE_NAME` and `Transport` those of the
declarations, `Transport` that of the client, and `constructor` and `transport` those of the methods.
Methods may also meet each other, since they are written in camel case.
-/

namespace Varlink

namespace TypeScript

/-- A piece of a text that introduces a name. -/
structure Piece where
  before : String
  name : String
  after : String
  deriving DecidableEq, Repr

/-- The text of a piece. -/
def Piece.print (piece : Piece) : String := piece.before ++ piece.name ++ piece.after

/-- The method for a call, as a member of the client. -/
def methodPiece (call : CallOutline) : Piece where
  before := "\n  async "
  name := methodName call
  after :=
    let (argument, value) := match call.parameters with
      | some name => ("args: " ++ name, "args")
      | none => ("", "\x7b\x7d")
    let sent := "await this.transport.call(" ++ literal call.qualified ++ ", " ++ value ++ ")"
    match call.results with
    | some result =>
      "(" ++ argument ++ "): Promise<" ++ result ++ "> \x7b\n    return (" ++ sent ++ ") as "
        ++ result ++ ";\n  \x7d\n"
    | none => "(" ++ argument ++ "): Promise<void> \x7b\n    " ++ sent ++ ";\n  \x7d\n"

/-- The members of the client. The constructor declares a property as well. -/
def members (outline : Outline) : List Piece :=
  ⟨"  ", "constructor", ""⟩
    :: ⟨"(private readonly ", "transport", ": Transport) \x7b\x7d\n"⟩
    :: outline.calls.map methodPiece

/-- A declaration, as it is exported. -/
def declarationPiece (name : String) : Members → Piece
  | .struct fields => ⟨"\nexport interface ", name,
      " \x7b\n" ++ String.join (fields.map fun member => field member.1 member.2) ++ "\x7d\n"⟩
  | .enum members => ⟨"\nexport type ", name,
      " = " ++ " | ".intercalate (members.map literal) ++ ";\n"⟩

/-- The union of errors, as it is exported, unless there are none. -/
def errorPieces (outline : Outline) : List Piece :=
  if outline.errors.isEmpty then []
  else [⟨"\nexport type ", outline.errorTypeName,
    " =\n" ++ "\n".intercalate (outline.errors.map errorCase) ++ ";\n"⟩]

/-- The type that stands for how calls are made, as it is exported. -/
def transportPiece : Piece where
  before := "\n/** Sends one call and resolves with the `parameters` of its reply. */\nexport interface "
  name := "Transport"
  after := " \x7b\n  call(method: string, parameters: object): Promise<unknown>;\n\x7d\n"

/-- The client, as it is exported. -/
def clientPiece (outline : Outline) : Piece where
  before :=
    "\n/** Client for the `" ++ outline.interfaceName ++ "` interface. */\n" ++ "export class "
  name := outline.clientName
  after := " \x7b\n" ++ String.join ((members outline).map Piece.print) ++ "\x7d\n"

/-- The name of the interface, as it is exported. -/
def constantPiece (outline : Outline) : Piece where
  before := "export const "
  name := "INTERFACE_NAME"
  after := " = " ++ (literal outline.interfaceName ++ ";\n")

/-- What a module exports. -/
def exports (outline : Outline) : List Piece :=
  constantPiece outline
    :: outline.declarations.map (fun declared => declarationPiece declared.1 declared.2)
    ++ errorPieces outline ++ [transportPiece, clientPiece outline]

theorem print_methodPiece (call : CallOutline) : (methodPiece call).print = method call := by
  obtain ⟨name, qualified, parameters, results⟩ := call
  cases parameters <;> cases results <;>
    simp [methodPiece, Piece.print, method, String.append_assoc]

theorem print_declarationPiece (name : String) (members : Members) :
    (declarationPiece name members).print = declaration name members := by
  cases members with
  | struct fields =>
      calc (declarationPiece name (.struct fields)).print
        _ = "\nexport interface " ++ name ++ (" \x7b\n"
              ++ String.join (fields.map fun member => field member.1 member.2) ++ "\x7d\n") := rfl
        _ = "\nexport interface " ++ name ++ " \x7b\n"
              ++ String.join (fields.map fun member => field member.1 member.2) ++ "\x7d\n" := by
            rw [← String.append_assoc, ← String.append_assoc]
        _ = declaration name (.struct fields) := rfl
  | enum members =>
      calc (declarationPiece name (.enum members)).print
        _ = "\nexport type " ++ name
              ++ (" = " ++ " | ".intercalate (members.map literal) ++ ";\n") := rfl
        _ = "\nexport type " ++ name ++ " = "
              ++ " | ".intercalate (members.map literal) ++ ";\n" := by
            rw [← String.append_assoc, ← String.append_assoc]
        _ = declaration name (.enum members) := rfl

theorem join_errorPieces (outline : Outline) :
    String.join ((errorPieces outline).map Piece.print) =
      errorUnion outline.errorTypeName outline.errors := by
  rw [errorPieces, errorUnion]
  split_ifs
  · rfl
  · rw [List.map_singleton, String.join_cons, Piece.print, ← String.append_assoc,
      ← String.append_assoc]
    exact String.append_empty

theorem join_members (outline : Outline) : String.join ((members outline).map Piece.print) =
    "  constructor(private readonly transport: Transport) \x7b\x7d\n"
      ++ String.join (outline.calls.map method) := by
  have methods : outline.calls.map (Piece.print ∘ methodPiece) = outline.calls.map method :=
    List.map_congr_left fun call _ => print_methodPiece call
  have opening : Piece.print ⟨"  ", "constructor", ""⟩
      ++ Piece.print ⟨"(private readonly ", "transport", ": Transport) \x7b\x7d\n"⟩ =
        "  constructor(private readonly transport: Transport) \x7b\x7d\n" := by
    decide +kernel
  rw [members, List.map_cons, List.map_cons, List.map_map, methods, String.join_cons,
    String.join_cons, ← opening, String.append_assoc]

theorem print_clientPiece (outline : Outline) : (clientPiece outline).print = client outline := by
  calc (clientPiece outline).print
    _ = "\n/** Client for the `" ++ outline.interfaceName ++ "` interface. */\n" ++ "export class "
          ++ outline.clientName
          ++ (" \x7b\n" ++ String.join ((members outline).map Piece.print) ++ "\x7d\n") := rfl
    _ = "\n/** Client for the `" ++ outline.interfaceName ++ "` interface. */\n" ++ "export class "
          ++ outline.clientName ++ " \x7b\n"
          ++ "  constructor(private readonly transport: Transport) \x7b\x7d\n"
          ++ String.join (outline.calls.map method) ++ "\x7d\n" := by
        rw [join_members]
        simp only [String.append_assoc]
    _ = client outline := rfl

theorem print_transportPiece : transportPiece.print = transport := by
  decide +kernel

theorem print_constantPiece (outline : Outline) : (constantPiece outline).print =
    "export const INTERFACE_NAME = " ++ literal outline.interfaceName ++ ";\n" := by
  have named : "export const " ++ "INTERFACE_NAME" ++ " = " = "export const INTERFACE_NAME = " := by
    decide +kernel
  rw [constantPiece, Piece.print, ← String.append_assoc, named, String.append_assoc]

/-- The text of a module is a comment and what it exports. -/
theorem toTypeScript_eq (outline : Outline) : outline.toTypeScript =
    "// Generated by " ++ generatorSignature ++ " from `" ++ outline.interfaceName ++ "`\n\n"
      ++ String.join ((exports outline).map Piece.print) := by
  have declarations : outline.declarations.map
        (Piece.print ∘ fun declared => declarationPiece declared.1 declared.2) =
      outline.declarations.map fun declared => declaration declared.1 declared.2 :=
    List.map_congr_left fun declared _ => print_declarationPiece declared.1 declared.2
  have regroup : ∀ comment constant name terminator types errors transport client : String,
      comment ++ constant ++ name ++ terminator ++ types ++ errors ++ transport ++ client =
        comment ++ (constant ++ name ++ terminator ++ types ++ errors
          ++ (transport ++ (client ++ ""))) := by
    intro comment constant name terminator types errors transport client
    simp only [String.append_assoc, String.append_empty]
  rw [exports, List.map_append, List.map_append, List.map_cons, List.map_map, declarations,
    String.join_append, String.join_append, join_errorPieces, List.map_cons, List.map_singleton,
    String.join_cons, String.join_cons, String.join_cons, print_constantPiece,
    print_transportPiece, print_clientPiece]
  exact regroup _ _ _ _ _ _ _ _

/-- Every name stands for one thing in what a module exports and among the members of its client. -/
structure Unambiguous (outline : Outline) : Prop where
  exports : ((exports outline).map (·.name)).Nodup
  members : ((members outline).map (·.name)).Nodup

end TypeScript

namespace Interface

/-- What keeps the names of an interface apart from each other and from those that every module has. -/
structure NamedApart (interface : Interface) : Prop where
  /-- No declaration is called like the constant with the name of the interface. -/
  interfaceName : "INTERFACE_NAME" ∉ interface.declarations.map (·.name)
  /-- Neither the client nor a declaration is called like the type that calls are made with. -/
  transport : "Transport" ∉ interface.clientName :: interface.declarations.map (·.name)
  /-- No method is spelled like another member of the client. -/
  members : ∀ word ∈ ["constructor", "transport"],
    word ∉ interface.methods.map fun method => Text.camelCase method.name
  /-- The methods are spelled differently. -/
  methods : (interface.methods.map fun method => Text.camelCase method.name).Nodup

variable {interface : Interface}

theorem names_members (interface : Interface) : (TypeScript.members interface.outline).map (·.name) =
    ["constructor", "transport"] ++
      interface.methods.map fun method => Text.camelCase method.name := by
  rw [TypeScript.members, outline, List.map_cons, List.map_cons, List.map_map, List.map_map]
  rfl

theorem nodup_members : ((TypeScript.members interface.outline).map (·.name)).Nodup ↔
    (∀ word ∈ ["constructor", "transport"],
      word ∉ interface.methods.map fun method => Text.camelCase method.name) ∧
      (interface.methods.map fun method => Text.camelCase method.name).Nodup := by
  have distinct : ["constructor", "transport"].Nodup := by decide
  rw [names_members, List.nodup_append]
  simp only [List.forall_mem_ne]
  exact ⟨fun all => ⟨all.2.2, all.2.1⟩, fun both => ⟨distinct, both.2, both.1⟩⟩

theorem names_exports (interface : Interface) :
    (TypeScript.exports interface.outline).map (·.name) =
      "INTERFACE_NAME" :: (interface.declarations.map (·.name) ++ interface.outline.errorTypeNames
        ++ ["Transport", interface.clientName]) := by
  have declared : (interface.outline.declarations.map fun declared =>
      TypeScript.declarationPiece declared.1 declared.2).map (·.name) =
        interface.declarations.map (·.name) := by
    rw [outline, declaredMembers, List.map_map, List.map_map]
    refine List.map_congr_left fun declaration _ => ?_
    dsimp only [Function.comp_apply]
    cases interface.members declaration <;> rfl
  have errors : (TypeScript.errorPieces interface.outline).map (·.name) =
      interface.outline.errorTypeNames := by
    rw [TypeScript.errorPieces, Outline.errorTypeNames]
    split_ifs <;> rfl
  rw [TypeScript.exports, List.map_append, List.map_append, List.map_cons, declared, errors]
  rfl

theorem perm_names_exports : ((TypeScript.exports interface.outline).map (·.name)).Perm
    (["INTERFACE_NAME", "Transport"] ++ interface.itemNames) := by
  have gathered : (interface.declarations.map (·.name) ++ interface.outline.errorTypeNames
        ++ ["Transport", interface.clientName]).Perm
      ("Transport" :: interface.clientName
        :: (interface.declarations.map (·.name) ++ interface.outline.errorTypeNames)) :=
    List.perm_append_comm
  rw [names_exports, itemNames]
  exact (gathered.trans (List.perm_middle.symm.cons _)).cons _

theorem nodup_exports (distinct : (interface.declarations.map (·.name)).Nodup) :
    ((TypeScript.exports interface.outline).map (·.name)).Nodup ↔
      "INTERFACE_NAME" ∉ interface.declarations.map (·.name) ∧
        "Transport" ∉ interface.clientName :: interface.declarations.map (·.name) := by
  have fixedDistinct : ["INTERFACE_NAME", "Transport"].Nodup := by decide
  have constant : "INTERFACE_NAME" ∈ interface.itemNames ↔
      "INTERFACE_NAME" ∈ interface.declarations.map (·.name) := by
    have differ : "INTERFACE_NAME" ≠ interface.clientName := by
      intro same
      refine interface.lowLine_not_mem_clientName ?_
      rw [← same]
      decide
    rw [mem_itemNames_of_plain (by decide), List.mem_cons, or_iff_right differ]
  have transport : "Transport" ∈ interface.itemNames ↔
      "Transport" ∈ interface.clientName :: interface.declarations.map (·.name) :=
    mem_itemNames_of_plain (by decide)
  rw [perm_names_exports.nodup_iff, List.nodup_append, ← constant, ← transport]
  simp only [List.forall_mem_ne, List.forall_mem_cons, List.not_mem_nil, false_imp_iff,
    implies_true, and_true]
  exact ⟨fun all => all.2.2, fun both => ⟨fixedDistinct, nodup_itemNames distinct, both⟩⟩

end Interface

namespace TypeScript

/-- The module for an interface that was read consists of its exports, and the names of these and of
the members of the client are ambiguous in these ways and in no others. -/
theorem generate_unambiguous_iff {source : String} {interface : Interface}
    (parsed : (Interface.parse source).outcome = .ok interface) :
    Generator.generate .typescript interface =
        some ("// Generated by " ++ generatorSignature ++ " from `" ++ interface.name ++ "`\n\n"
          ++ String.join ((exports interface.outline).map Piece.print)) ∧
      (Unambiguous interface.outline ↔ interface.NamedApart) := by
  obtain ⟨document, -, resolved⟩ := Interface.outcome_parse_eq_ok.mp parsed
  have distinct := Document.nodup_names_of_resolve resolved
  refine ⟨congrArg some (toTypeScript_eq interface.outline), ?_, ?_⟩
  · intro unambiguous
    obtain ⟨interfaceName, transport⟩ := (Interface.nodup_exports distinct).mp unambiguous.exports
    obtain ⟨members, methods⟩ := Interface.nodup_members.mp unambiguous.members
    exact ⟨interfaceName, transport, members, methods⟩
  · intro apart
    exact {
      exports := (Interface.nodup_exports distinct).mpr ⟨apart.interfaceName, apart.transport⟩
      members := Interface.nodup_members.mpr ⟨apart.members, apart.methods⟩ }

/-- A type that is called like the client, and a method that is called like one of its members in other
letters. -/
theorem generate_unambiguous_of_close_names : ∃ interface,
    (Interface.parse "interface a.b\ntype B (x: int)\nmethod TransPort () -> ()").outcome =
      .ok interface ∧
    Unambiguous interface.outline ∧
    (exports interface.outline).map (·.name) =
      ["INTERFACE_NAME", "B", "Transport", "BClient"] ∧
    (members interface.outline).map (·.name) = ["constructor", "transport", "transPort"] := by
  have parsed : (Interface.parse
      "interface a.b\ntype B (x: int)\nmethod TransPort () -> ()").outcome = .ok ⟨"a.b",
        [⟨"B", .struct [("x", .builtin .int)]⟩], [⟨"TransPort", .inline [], .inline []⟩], []⟩ := by
    cbv
  have declared : (Interface.mk "a.b" [⟨"B", .struct [("x", .builtin .int)]⟩]
      [⟨"TransPort", .inline [], .inline []⟩] []).declarations =
        [⟨"B", 6, .struct [("x", .builtin .int)]⟩] := by
    cbv
  have client : (Interface.mk "a.b" [⟨"B", .struct [("x", .builtin .int)]⟩]
      [⟨"TransPort", .inline [], .inline []⟩] []).clientName = "BClient" := by
    cbv
  refine ⟨_, parsed, (generate_unambiguous_iff parsed).2.mpr ?_, ?_, ?_⟩
  · constructor
    all_goals
      simp only [client, declared]
      decide
  · rw [Interface.names_exports, declared, client]
    rfl
  · rw [Interface.names_members]
    decide

/-- A client is called like the type that its calls are made with. -/
theorem ambiguous_transport :
    (Interface.parse "interface a.transport").outcome = .ok ⟨"a.transport", [], [], []⟩ ∧
    (exports (Interface.outline ⟨"a.transport", [], [], []⟩)).map (·.name) =
      ["INTERFACE_NAME", "Transport", "Transport"] ∧
    ¬ Unambiguous (Interface.outline ⟨"a.transport", [], [], []⟩) := by
  have parsed : (Interface.parse "interface a.transport").outcome =
      .ok ⟨"a.transport", [], [], []⟩ := by
    cbv
  have names : (exports (Interface.outline ⟨"a.transport", [], [], []⟩)).map (·.name) =
      ["INTERFACE_NAME", "Transport", "Transport"] := by
    rw [Interface.names_exports]
    cbv
  refine ⟨parsed, names, fun unambiguous => ?_⟩
  have distinct := unambiguous.exports
  rw [names] at distinct
  revert distinct
  decide

end TypeScript

end Varlink
