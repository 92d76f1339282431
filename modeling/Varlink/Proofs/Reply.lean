import Varlink.Proofs.Json.Order
import Varlink.Proofs.Json.Skipping
import Varlink.Reply

/-!
# Replies read back

A reply is read member by member, and what has been read of it is kept along the way. From a written
object the reader takes the members of a reply wherever they stand, and skips all others. A member
that is null counts as absent, but not for the rule that no member comes twice.

Whatever the text of a reply is, the parameters read from it are in order.
-/

namespace Varlink

namespace Reply

open Json

section Order

/-- The parameters read so far, if there are any, are in order. -/
def Seen.InOrder (seen : Seen) : Prop :=
  ∀ parameters, seen.parameters = some (some parameters) → parameters.Ordered

theorem Seen.inOrder_nothing : Seen.nothing.InOrder := nofun

theorem yields_readOptional {α : Type} {P : α → Prop}
    {readInner : (input : List UInt8) → Reading α input} {input : List UInt8}
    (inner : Yields P (readInner input)) :
    Yields (fun value? => ∀ value, value? = some value → P value) (readOptional readInner input) := by
  refine yields_bind fun ⟨byte, rest, shorter⟩ => ?_
  dsimp only
  split_ifs
  · exact yields_bind fun _ => yields_ok nofun
  · refine inner.bind fun found holds => yields_ok ?_
    rintro _ ⟨⟩
    exact holds

theorem yields_readParameters (input : List UInt8) :
    Yields (fun value? => ∀ value, value? = some value → Ordered value) (readParameters input) :=
  yields_readOptional (yields_readValue _ input)

theorem yields_rejectKey {P : Seen → Prop} (name : String) (input : List UInt8) :
    Yields P (rejectKey name input : Reading Seen input) := by
  rw [rejectKey]
  split
  · exact yields_error _
  · exact yields_error _

theorem yields_readKeyed {seen : Seen} (before : seen.InOrder) (key : String)
    (input : List UInt8) : Yields Seen.InOrder (readKeyed seen key input) := by
  rw [readKeyed]
  split_ifs
  · exact yields_rejectKey key input
  · refine yields_bind fun ⟨_, afterColon, shorter⟩ => ?_
    refine (yields_readParameters afterColon).bind fun found ordered => yields_ok ?_
    rintro parameters isRead
    exact ordered parameters (Option.some.inj isRead)
  · exact yields_rejectKey key input
  · exact yields_bind fun _ => yields_bind fun _ => yields_ok before
  · exact yields_bind fun _ => yields_bind fun _ => yields_ok before

theorem yields_readObject {seen : Seen} (before : seen.InOrder) (first : Bool)
    (input : List UInt8) : Yields Seen.InOrder (readObject seen first input) := by
  induction isLength : input.length using Nat.strongRecOn generalizing seen first input with
  | ind length ih =>
      subst isLength
      rw [readObject]
      refine yields_bind fun ⟨more, rest, shorter⟩ => ?_
      dsimp only
      split_ifs
      · have member : Yields Seen.InOrder (readMember seen rest) := by
          refine yields_bind fun ⟨key, afterKey, _⟩ => ?_
          exact (yields_readKeyed before key afterKey).bind fun _ inOrder => yields_ok inOrder
        refine member.bind fun ⟨seen, afterMember, further⟩ inOrder => ?_
        refine (ih afterMember.length (further.trans shorter) inOrder false afterMember rfl).bind
          fun _ inOrder => yields_ok inOrder
      · exact yields_ok before

theorem yields_readElements (input : List UInt8) :
    Yields Seen.InOrder (readElements input) := by
  refine yields_bind fun ⟨byte, rest, shorter⟩ => ?_
  dsimp only
  split_ifs
  · exact yields_ok Seen.inOrder_nothing
  · refine (yields_readParameters input).bind fun ⟨parameters, afterFirst, first⟩ ordered => ?_
    have inOrder : ∀ error, (Seen.mk (some parameters) error).InOrder :=
      fun _ value isRead => ordered value (Option.some.inj isRead)
    refine yields_bind fun ⟨byte, rest, second⟩ => ?_
    dsimp only
    split_ifs
    · exact yields_ok (inOrder none)
    · split
      · exact yields_error _
      · split_ifs
        · exact yields_error _
        · exact yields_bind fun _ => yields_bind fun _ => yields_ok (inOrder _)
    · exact yields_error _

theorem yields_rejectValue {P : Seen → Prop} (expected : String) (input : List UInt8) :
    Yields P (rejectValue expected input : Reading Seen input) := by
  rw [rejectValue]
  split
  · exact yields_error _
  · split_ifs
    · exact yields_error _
    · exact yields_error _
    · split
      · exact yields_error _
      · exact yields_error _

theorem yields_read (input : List UInt8) : Yields Seen.InOrder (read input) := by
  refine yields_bind fun ⟨byte, rest, shorter⟩ => ?_
  dsimp only
  split_ifs
  · exact (yields_readElements rest).bind fun _ inOrder => yields_ok inOrder
  · exact (yields_readObject Seen.inOrder_nothing true rest).bind fun _ inOrder => yields_ok inOrder
  · exact yields_rejectValue _ input

/-- The parameters of every reply that is read are in order. -/
theorem ordered_of_parse {message : List UInt8} {reply : Reply} (parsed : parse message = .ok reply)
    {parameters : Json} (given : reply.parameters = some parameters) : parameters.Ordered := by
  obtain ⟨found, isRead, parsed⟩ := bind_eq_ok.mp (mapError_eq_ok.mp parsed)
  obtain ⟨_, -, isReply⟩ := bind_eq_ok.mp parsed
  obtain rfl := Except.ok.inj isReply
  exact yields_read message found isRead parameters (Option.join_eq_some_iff.mp given)

/-- So is the empty object, which stands for parameters that are absent. -/
theorem ordered_given_parameters {message : List UInt8} {reply : Reply}
    (parsed : parse message = .ok reply) : (reply.parameters.getD Json.empty).Ordered := by
  cases given : reply.parameters with
  | none => exact .object .nil nofun
  | some parameters => exact ordered_of_parse parsed given

end Order

/-- The value, unless it is null. -/
def present? : Json → Option Json
  | .null => none
  | value => some value

/-- The text of a string. -/
def text? : Json → Option String
  | .string text => some text
  | _ => none

/-- What has been read of a reply after some members, each of which occurs only once. -/
def Seen.after (seen : Seen) (members : List (String × Json)) : Seen :=
  ⟨((members.lookup "parameters").map fun value => (present? value).map normalize).or
      seen.parameters,
    ((members.lookup "error").map text?).or seen.error⟩

theorem lookup_singleton_of_ne {key other : String} (value : Json) (differ : key ≠ other) :
    [(key, value)].lookup other = none := by
  have differ : (other == key) = false := beq_false_of_ne differ.symm
  rw [List.lookup_cons, differ]
  rfl

/-- Members are read one by one. -/
theorem Seen.after_after {seen : Seen} {key : String} {value : Json}
    {members : List (String × Json)} (fresh : key ∉ members.map Prod.fst) :
    (seen.after [(key, value)]).after members = seen.after ((key, value) :: members) := by
  have each : ∀ {α : Type} (other : String) (f : Json → α) (before : Option α),
      ((members.lookup other).map f).or ((([(key, value)].lookup other).map f).or before) =
        ((((key, value) :: members).lookup other).map f).or before := by
    intro α other f before
    by_cases same : key = other
    · subst same
      have none : members.lookup key = none := by
        rw [List.lookup_eq_none_iff]
        exact fun member inside =>
          bne_iff_ne.mpr fun same => fresh (same ▸ List.mem_map_of_mem inside)
      rw [none, List.lookup_cons_self, List.lookup_cons_self]
      rfl
    · rw [lookup_singleton_of_ne value same, List.lookup_cons, beq_false_of_ne (Ne.symm same)]
      rfl
  rw [Seen.after, Seen.after, Seen.after, each, each]

/-- No member with the key has been read, if it is one that counts. -/
structure Seen.Lacks (seen : Seen) (key : String) : Prop where
  parameters : key = "parameters" → seen.parameters = none
  error : key = "error" → seen.error = none

theorem Seen.lacks_nothing (key : String) : Seen.nothing.Lacks key := ⟨fun _ => rfl, fun _ => rfl⟩

theorem Seen.Lacks.after {seen : Seen} {key other : String} (lacks : seen.Lacks other)
    (differ : key ≠ other) (value : Json) : (seen.after [(key, value)]).Lacks other where
  parameters := by
    rintro rfl
    rw [Seen.after, lookup_singleton_of_ne value differ]
    exact lacks.parameters rfl
  error := by
    rintro rfl
    rw [Seen.after, lookup_singleton_of_ne value differ]
    exact lacks.error rfl

/-- The reply that members make up, each of which occurs only once. -/
def ofMembers (members : List (String × Json)) : Reply :=
  (Seen.nothing.after members).toReply

theorem error_ofMembers {members : List (String × Json)} {error : String}
    (named : members.lookup "error" = some (.string error)) :
    (ofMembers members).error = some error := by
  simp [ofMembers, Seen.toReply, Seen.after, Seen.nothing, named, text?]

/-- The parameters that a reply gives are the ones among its members, or the empty object. -/
theorem parameters_ofMembers (members : List (String × Json)) :
    (ofMembers members).parameters.getD Json.empty =
      ((members.lookup "parameters").bind present?).elim Json.empty normalize := by
  rw [ofMembers, Seen.toReply, Seen.after, Seen.nothing]
  cases members.lookup "parameters" with
  | none => rfl
  | some value => cases value <;> rfl

/-- A member that a reply can have: the parameters are a value of limited depth, the error is a text,
and both may be null. -/
structure Fits (member : String × Json) : Prop where
  integral : member.2.Integral
  shallow : member.1 = "parameters" → member.2.depth < maxLevels
  named : member.1 = "error" → member.2 = .null ∨ ∃ text, member.2 = .string text

section Written

variable {rest : List UInt8}

section Optional

variable {α : Type} (readInner : (input : List UInt8) → Reading α input)

theorem gives_readOptional_null :
    Gives (readOptional readInner (Json.null.encode ++ rest)) none rest := by
  show Gives (readOptional readInner (lowerN :: (utf8Bytes "ull" ++ rest))) none rest
  refine (gives_readByte .endInValue (by decide) _).bind fun shorter => ?_
  dsimp only
  rw [if_pos rfl]
  exact (gives_readRest _ shorter).bind fun further => ⟨_, rfl⟩

theorem gives_readOptional {value : Json} (integral : value.Integral) (notNull : value ≠ .null)
    {result : α} (inner : Gives (readInner (value.encode ++ rest)) result rest) :
    Gives (readOptional readInner (value.encode ++ rest)) (some result) rest := by
  obtain ⟨byte, more, isValue, notSpace, -, isNull⟩ := exists_encode_eq_cons integral
  rw [isValue, List.cons_append] at inner ⊢
  refine (gives_readByte .endInValue notSpace _).bind fun shorter => ?_
  dsimp only
  rw [if_neg fun isN => notNull (isNull isN)]
  exact inner.bind fun further => ⟨_, rfl⟩

end Optional

theorem gives_readParameters {value : Json} (integral : value.Integral)
    (shallow : value.depth < maxLevels) (ends : Ends rest) :
    Gives (readParameters (value.encode ++ rest)) ((present? value).map normalize) rest := by
  by_cases isNull : value = .null
  · subst isNull
    exact gives_readOptional_null _
  · have isPresent : present? value = some value := by
      cases value with
      | null => exact absurd rfl isNull
      | _ => rfl
    rw [isPresent]
    exact gives_readOptional _ integral isNull (readsBack integral (Nat.le_pred_of_lt shallow) ends)

theorem gives_readText (text : String) :
    Gives (readText ((Json.string text).encode ++ rest)) text rest := by
  show Gives (readText (quote :: ((utf8Bytes text).flatMap escapeByte ++ [quote] ++ rest))) text rest
  rw [List.append_assoc, List.singleton_append]
  refine (gives_readByte .endInValue (by decide) _).bind fun shorter => ?_
  dsimp only
  rw [if_pos rfl]
  exact (gives_readString text rest).bind fun further => ⟨_, rfl⟩

theorem gives_readError {value : Json} (named : value = .null ∨ ∃ text, value = .string text) :
    Gives (readError (value.encode ++ rest)) (text? value) rest := by
  rcases named with rfl | ⟨text, rfl⟩
  · exact gives_readOptional_null _
  · exact gives_readOptional _ (.string text) nofun (gives_readText text)

/-- A member is read behind its key; it counts unless it is one of those to be skipped. -/
theorem gives_readKeyed {seen : Seen} {key : String} {value : Json} (fits : Fits (key, value))
    (lacks : seen.Lacks key) (ends : Ends rest) :
    Gives (readKeyed seen key (colon :: (value.encode ++ rest))) (seen.after [(key, value)]) rest := by
  rw [readKeyed]
  by_cases isParameters : key = "parameters"
  · subst isParameters
    rw [if_pos rfl, lacks.parameters rfl, if_neg (by simp)]
    refine (gives_readColon _).bind fun shorter => ?_
    exact (gives_readParameters fits.integral (fits.shallow rfl) ends).bind fun further => ⟨_, rfl⟩
  · rw [if_neg isParameters]
    by_cases isError : key = "error"
    · subst isError
      rw [if_pos rfl, lacks.error rfl, if_neg (by simp)]
      refine (gives_readColon _).bind fun shorter => ?_
      exact (gives_readError (fits.named rfl)).bind fun further => ⟨_, rfl⟩
    · have same : seen.after [(key, value)] = seen := by
        rw [Seen.after, lookup_singleton_of_ne value isParameters,
          lookup_singleton_of_ne value isError]
        rfl
      rw [if_neg isError, same]
      refine (gives_readColon _).bind fun shorter => ?_
      exact (skips fits.integral ends).bind fun further => ⟨_, rfl⟩

/-- The members of a reply are read one after the other. -/
theorem gives_readObject {members : List (String × Json)} {seen : Seen} (first : Bool)
    (fits : ∀ member ∈ members, Fits member) (once : (members.map Prod.fst).Nodup)
    (lacks : ∀ key ∈ members.map Prod.fst, seen.Lacks key) :
    Gives (readObject seen first (writtenMembers first members ++ closeBrace :: rest))
      (seen.after members) rest := by
  induction members generalizing seen first with
  | nil =>
      have isEmpty : writtenMembers first [] = [] := by cases first <;> rfl
      rw [isEmpty, List.nil_append, readObject]
      exact (gives_readNextKey_closeBrace first rest).bind fun shorter => ⟨_, rfl⟩
  | cons member members ih =>
      obtain ⟨key, value⟩ := member
      obtain ⟨fitsHere, fits⟩ := List.forall_mem_cons.mp fits
      obtain ⟨fresh, once⟩ := List.nodup_cons.mp once
      obtain ⟨lacksHere, lacks⟩ := List.forall_mem_cons.mp lacks
      have here := gives_readKeyed fitsHere lacksHere (ends_writtenMembers members rest)
      have lacksNow : ∀ other ∈ members.map Prod.fst, (seen.after [(key, value)]).Lacks other :=
        fun other inside =>
          (lacks other inside).after (ne_of_mem_of_not_mem inside fresh).symm value
      -- what the members make up together does not depend on when each of them is read
      have others := ih false fits once lacksNow
      rw [Seen.after_after fresh] at others
      rw [writtenMembers_cons, readObject, List.append_assoc, List.cons_append, List.append_assoc,
        List.cons_append, List.cons_append, List.append_assoc]
      refine (gives_readNextKey first _).bind fun shorter => ?_
      dsimp only
      rw [if_pos rfl]
      have member : Gives (readMember seen _) _ _ :=
        (gives_readString key _).bind fun further => here.bind fun last => ⟨_, rfl⟩
      refine member.bind fun further => ?_
      exact others.bind fun last => ⟨_, rfl⟩

end Written

/-- The text of an object is read as the reply that its members make up, in whatever order they are
and whatever else is among them. -/
theorem parse_encode {members : List (String × Json)} (fits : ∀ member ∈ members, Fits member)
    (once : (members.map Prod.fst).Nodup) :
    parse (Json.object members).encode = .ok (ofMembers members) := by
  have object : Gives (readObject .nothing true (writtenMembers true members ++ [closeBrace]))
      (Seen.nothing.after members) [] :=
    gives_readObject true fits once fun key _ => Seen.lacks_nothing key
  have reads : Gives (read (openBrace :: (writtenMembers true members ++ [closeBrace])))
      (Seen.nothing.after members) [] := by
    refine (gives_readByte .endInValue (by decide) _).bind fun shorter => ?_
    dsimp only
    rw [if_neg (by decide), if_pos rfl]
    exact object.bind fun further => ⟨_, rfl⟩
  obtain ⟨shorter, isRead⟩ := reads
  exact mapError_eq_ok.mpr (bind_eq_ok.mpr ⟨_, isRead, rfl⟩)

end Reply

end Varlink
