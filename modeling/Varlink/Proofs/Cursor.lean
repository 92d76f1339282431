import Varlink.Proofs.Token.Division

/-!
# What a cursor gives out

A cursor is asked for tokens in two ways that move the same place: reading, which gives the end of
the text as often as it is asked for, and iterating, which gives it once. Whatever the order of the
requests is, the tokens that are given out are those of the text, in order, and after them only its
end.

The place is told by the number of tokens given out so far. One lemma says what a request does
there, and each statement about a run is an induction over its requests with this step.
-/

namespace Varlink

namespace Cursor

open Token

/-- A way to ask for a token. -/
inductive Request where
  | read
  | next
  deriving DecidableEq, Repr

/-- The answer to a request, and the cursor after it. -/
def answer (cursor : Cursor) : Request → Option Token × Cursor
  | .read => (some cursor.read.1, cursor.read.2)
  | .next => cursor.next

/-- A request with its answer. -/
abbrev Exchange : Type := Request × Option Token

/-- Requests made one after the other, with their answers. -/
def exchanges (cursor : Cursor) : List Request → List Exchange
  | [] => []
  | request :: requests =>
    (request, (cursor.answer request).1) :: (cursor.answer request).2.exchanges requests

/-- The tokens that were given out. -/
def given (exchanges : List Exchange) : List Token := exchanges.filterMap (·.2)

@[simp] theorem given_cons_none (request : Request) (exchanges : List Exchange) :
    given ((request, none) :: exchanges) = given exchanges := rfl

@[simp] theorem given_cons_some (request : Request) (token : Token) (exchanges : List Exchange) :
    given ((request, some token) :: exchanges) = token :: given exchanges := rfl

/-- Whether the iteration gave out the end of the text. -/
def endsIteration (exchange : Exchange) : Bool :=
  exchange.1 = .next && exchange.2.any fun token => token.kind = .endOfInput

/-- What requests to one cursor at the start of a text are answered. -/
structure Orderly (source : String) (exchanges : List Exchange) : Prop where
  /-- No token is left out or given out again, and only the end comes after the last one. -/
  tokens : given exchanges <+:
    all source ++ List.replicate (given exchanges).length (atEnd source)
  /-- The iteration gives the end once. -/
  once : exchanges.countP endsIteration ≤ 1
  /-- Only an iteration that has ended is answered with nothing. -/
  silent : ∀ before request after, exchanges = before ++ (request, none) :: after →
    request = .next ∧ ∃ exchange ∈ before, endsIteration exchange = true

/-- The cursor stands behind the first tokens of a text, so many of them. -/
structure At (source : String) (count : Nat) (cursor : Cursor) : Prop where
  rest : cursor.rest = Lexeme.chars ((Lexeme.all source.toList).drop count)
  offset : cursor.offset = Lexeme.size ((Lexeme.all source.toList).take count)

/-- The token with a number, or the end behind the last one. -/
def tokenAt (source : String) (count : Nat) : Token := (all source)[count]?.getD (atEnd source)

variable {source : String} {count : Nat} {cursor : Cursor}

theorem read_of_split {kind : TokenKind} {text rest : List Char}
    (taken : Lexeme.split cursor.rest = (kind, text, rest)) :
    cursor.read = (⟨⟨kind, String.ofList text⟩, cursor.offset⟩,
      { cursor with rest, offset := cursor.offset + (String.ofList text).utf8ByteSize }) := by
  rw [read, taken]

theorem at_start (source : String) : At source 0 (start source) where
  rest := (Lexeme.chars_all _).symm
  offset := rfl

theorem utf8ByteSize_eq_size (source : String) :
    source.utf8ByteSize = Lexeme.size (Lexeme.all source.toList) := by
  rw [← Lexeme.utf8ByteSize_chars, Lexeme.chars_all, String.ofList_toList]

/-- Behind all tokens, only the end is left. -/
theorem At.read_of_none (here : At source count cursor)
    (behind : (Lexeme.all source.toList)[count]? = none) : cursor.read.1 = atEnd source ∧
      At source (count + 1) cursor.read.2 := by
  have bound := List.getElem?_eq_none_iff.mp behind
  have offset : cursor.offset = source.utf8ByteSize := by
    rw [here.offset, List.take_of_length_le bound, utf8ByteSize_eq_size]
  have taken : Lexeme.split cursor.rest = (.endOfInput, [], []) := by
    rw [here.rest, List.drop_eq_nil_of_le bound]
    rfl
  rw [read_of_split taken, offset]
  refine ⟨rfl, ?_, ?_⟩
  · rw [List.drop_eq_nil_of_le (Nat.le_succ_of_le bound)]
    rfl
  · rw [List.take_of_length_le (Nat.le_succ_of_le bound), ← utf8ByteSize_eq_size]
    rfl

/-- A token that is left is read, and the cursor moves behind it. -/
theorem At.read_of_some (here : At source count cursor) {lexeme : Lexeme}
    (left : (Lexeme.all source.toList)[count]? = some lexeme) :
    cursor.read.1 = ⟨lexeme, Lexeme.size ((Lexeme.all source.toList).take count)⟩ ∧
      At source (count + 1) cursor.read.2 := by
  obtain ⟨bound, rfl⟩ := List.getElem?_eq_some_iff.mp left
  have taken : Lexeme.split cursor.rest =
      ((Lexeme.all source.toList)[count].kind, (Lexeme.all source.toList)[count].text.toList,
        Lexeme.chars ((Lexeme.all source.toList).drop (count + 1))) := by
    have behind : Lexeme.all cursor.rest = (Lexeme.all source.toList)[count] ::
        (Lexeme.all source.toList).drop (count + 1) := by
      rw [here.rest, ← List.drop_eq_getElem_cons bound]
      exact Lexeme.all_chars_suffix (List.take_append_drop count _).symm
    obtain ⟨spelled, notEnd, rest, covered, others, ends⟩ := Lexeme.all_eq_cons behind
    rw [covered, Lexeme.split_of_ends spelled notEnd ends, ← others, Lexeme.chars_all]
  rw [read_of_split taken, String.ofList_toList, here.offset]
  refine ⟨rfl, rfl, ?_⟩
  rw [List.take_succ_eq_append_getElem bound, Lexeme.size_append, Lexeme.size_cons,
    Lexeme.size_nil]
  rfl

/-- Reading gives the next token, or the end if there is none. -/
theorem At.read (here : At source count cursor) :
    cursor.read.1 = tokenAt source count ∧ At source (count + 1) cursor.read.2 := by
  rw [tokenAt, getElem?_all]
  cases left : (Lexeme.all source.toList)[count]? with
  | none => exact here.read_of_none left
  | some lexeme => exact here.read_of_some left

/-- A request is answered with the next token, unless the iteration has ended. -/
theorem At.answer (here : At source count cursor) (request : Request) :
    (cursor.answer request = (none, cursor) ∧ request = .next ∧ cursor.finished = true) ∨
      ∃ after, cursor.answer request = (some (tokenAt source count), after) ∧
        At source (count + 1) after ∧
        (after.finished = true ↔ cursor.finished = true ∨
          endsIteration (request, some (tokenAt source count)) = true) ∧
        (endsIteration (request, some (tokenAt source count)) = true →
          cursor.finished = false) := by
  obtain ⟨token, moved⟩ := here.read
  cases request with
  | read => exact .inr ⟨cursor.read.2, by rw [Cursor.answer, token], moved,
      by simp [endsIteration, Cursor.read], by simp [endsIteration]⟩
  | next =>
      cases finished : cursor.finished with
      | true =>
          refine .inl ⟨?_, rfl, rfl⟩
          rw [Cursor.answer, next, finished]
          rfl
      | false =>
          refine .inr ⟨{ cursor.read.2 with
            finished := (tokenAt source count).kind = .endOfInput }, ?_, ?_, ?_, fun _ => rfl⟩
          · rw [Cursor.answer, next, finished, ← token]
            rfl
          · exact ⟨moved.rest, moved.offset⟩
          · simp [endsIteration]

theorem prefix_tokenAt_cons (source : String) (count length : Nat) :
    tokenAt source count ::
        ((all source).drop (count + 1) ++ List.replicate length (atEnd source)) <+:
      (all source).drop count ++ List.replicate (length + 1) (atEnd source) := by
  rw [tokenAt]
  cases left : (all source)[count]? with
  | none =>
      have bound := List.getElem?_eq_none_iff.mp left
      rw [List.drop_eq_nil_of_le bound, List.drop_eq_nil_of_le (Nat.le_succ_of_le bound)]
      exact List.prefix_rfl
  | some token =>
      obtain ⟨bound, rfl⟩ := List.getElem?_eq_some_iff.mp left
      rw [List.drop_eq_getElem_cons bound, Option.getD_some, List.cons_append,
        List.cons_prefix_cons]
      refine ⟨rfl, (List.prefix_append_right_inj _).mpr ?_⟩
      rw [List.replicate_succ']
      exact List.prefix_append _ _

/-- The tokens that are given out are the next ones of the text. -/
theorem At.prefix_given (here : At source count cursor) (requests : List Request) :
    given (cursor.exchanges requests) <+: (all source).drop count ++
      List.replicate (given (cursor.exchanges requests)).length (atEnd source) := by
  induction requests generalizing count cursor with
  | nil => exact List.nil_prefix
  | cons request requests ih =>
      rw [exchanges]
      rcases here.answer request with ⟨answered, -, -⟩ | ⟨after, answered, moved, -, -⟩
      · rw [answered, given_cons_none]
        exact ih here
      · rw [answered, given_cons_some, List.length_cons]
        refine List.IsPrefix.trans ?_ (prefix_tokenAt_cons source count _)
        exact List.cons_prefix_cons.mpr ⟨rfl, ih moved⟩

/-- The iteration ends once, and not again after it has ended. -/
theorem At.countP_endsIteration (here : At source count cursor) (requests : List Request) :
    (cursor.exchanges requests).countP endsIteration + cursor.finished.toNat ≤ 1 := by
  induction requests generalizing count cursor with
  | nil => exact Nat.add_le_add_left (Bool.toNat_le _) 0
  | cons request requests ih =>
      rw [exchanges, List.countP_cons]
      rcases here.answer request with ⟨answered, -, -⟩ | ⟨after, answered, moved, ended, first⟩
      · have others := ih here
        rw [answered]
        simpa [endsIteration] using others
      · have others := ih moved
        rw [answered]
        cases isLast : endsIteration (request, some (tokenAt source count)) with
        | false =>
            have same : after.finished = cursor.finished := by
              rw [Bool.eq_iff_iff, ended, isLast]
              simp
            rw [same] at others
            simpa using others
        | true =>
            rw [first isLast]
            rw [ended.mpr (.inr isLast)] at others
            simpa using others

/-- Nothing is answered only by an iteration that has ended. -/
theorem At.silent (here : At source count cursor) (requests : List Request)
    {before after : List Exchange} {request : Request}
    (whole : cursor.exchanges requests = before ++ (request, none) :: after) :
    request = .next ∧
      (cursor.finished = true ∨ ∃ exchange ∈ before, endsIteration exchange = true) := by
  induction requests generalizing count cursor before with
  | nil =>
      have nothing := whole.symm
      rw [exchanges, List.append_eq_nil_iff] at nothing
      cases nothing.2
  | cons asked requests ih =>
      rw [exchanges] at whole
      rcases here.answer asked with
        ⟨answered, isNext, finished⟩ | ⟨later, answered, moved, ended, -⟩
      · cases before with
        | nil =>
            obtain ⟨same, -⟩ := List.cons.inj whole
            obtain rfl := (Prod.mk.inj same).1
            exact ⟨isNext, .inl finished⟩
        | cons exchange before =>
            rw [answered] at whole
            exact ⟨(ih here (List.cons.inj whole).2).1, .inl finished⟩
      · rw [answered] at whole
        cases before with
        | nil =>
            obtain ⟨same, -⟩ := List.cons.inj whole
            cases (Prod.mk.inj same).2
        | cons exchange before =>
            obtain ⟨rfl, others⟩ := List.cons.inj whole
            obtain ⟨isNext, why⟩ := ih moved others
            refine ⟨isNext, ?_⟩
            rw [ended, or_assoc] at why
            simpa using why

theorem At.rest_eq_nil_iff (here : At source count cursor) :
    cursor.rest = [] ↔ (all source)[count]? = none := by
  rw [here.rest, getElem?_all, Option.map_eq_none_iff]
  constructor
  · intro empty
    have shorter := Lexeme.all_chars_suffix
      (List.take_append_drop count (Lexeme.all source.toList)).symm
    rw [empty, Lexeme.all_nil] at shorter
    exact List.getElem?_eq_none_iff.mpr (List.drop_eq_nil_iff.mp shorter.symm)
  · intro none
    rw [List.drop_eq_nil_of_le (List.getElem?_eq_none_iff.mp none)]
    rfl

/-- What is left of a text is given out up to its end. -/
theorem At.drain (here : At source count cursor) (unfinished : cursor.finished = false) :
    cursor.drain.1 = (all source).drop count ++ [atEnd source] := by
  fun_induction Cursor.drain cursor generalizing count with
  | case1 cursor finished =>
      rw [unfinished] at finished
      cases finished
  | case2 cursor _ empty =>
      have none := here.rest_eq_nil_iff.mp empty
      rw [here.read.1, tokenAt, none,
        List.drop_eq_nil_of_le (List.getElem?_eq_none_iff.mp none)]
      rfl
  | case3 cursor _ nonempty shorter tokens last drained ih =>
      have some := mt here.rest_eq_nil_iff.mpr nonempty
      obtain ⟨token, left⟩ := Option.ne_none_iff_exists'.mp some
      have others := ih here.read.2 unfinished
      obtain ⟨bound, rfl⟩ := List.getElem?_eq_some_iff.mp left
      rw [drained] at others
      rw [here.read.1, tokenAt, left, List.drop_eq_getElem_cons bound, List.cons_append, ← others]
      rfl

/-- A cursor at the start gives out the tokens of the text and its end. -/
theorem drain_start (source : String) : (start source).drain.1 = all source ++ [atEnd source] :=
  (at_start source).drain rfl

/-- What is given out comes after the bytes of the tokens before it, also the end. -/
theorem exists_append_of_drain {before after : List Token} {token : Token}
    (whole : (start source).drain.1 = before ++ token :: after) :
    ∃ others, all source = before ++ others ∧
      token.offset = (before.map (·.text.utf8ByteSize)).sum := by
  rw [drain_start] at whole
  cases after using List.reverseRecOn with
  | nil =>
      obtain ⟨same, isEnd⟩ := List.append_inj' whole rfl
      obtain rfl := List.singleton_inj.mp isEnd
      refine ⟨[], by rw [same, List.append_nil], ?_⟩
      rw [atEnd, utf8ByteSize_eq_size, ← toLexeme_all, size_toLexeme, same]
  | append_singleton after last =>
      rw [← List.cons_append, ← List.append_assoc] at whole
      obtain ⟨same, -⟩ := List.append_inj' whole rfl
      exact ⟨_, same, offset_eq_of_append same⟩

/-- A text has one division into tokens, and every token of it begins at a character. It is what a
cursor gives out up to the end of the text, and in whatever order the cursor is read and iterated,
it gives out the tokens of the division in their order and then only the end. -/
theorem gives_only_division (source : String) :
    (∀ tokens, Divides source tokens ↔ (start source).drain.1 = tokens ++ [atEnd source]) ∧
      (∀ token ∈ (start source).drain.1,
        (⟨token.offset⟩ : String.Pos.Raw).IsValid source) ∧
      ∀ requests, Orderly source ((start source).exchanges requests) := by
  refine ⟨?_, ?_, ?_⟩
  · intro tokens
    rw [drain_start, divides_iff, List.append_left_inj, eq_comm]
  · rw [drain_start, List.forall_mem_append, List.forall_mem_singleton]
    refine ⟨fun token => (divides_iff.mpr rfl).isValid, ?_⟩
    exact String.Pos.Raw.isValid_iff_exists_append.mpr ⟨source, "", by simp, rfl⟩
  · intro requests
    constructor
    · exact (at_start source).prefix_given requests
    · exact (at_start source).countP_endsIteration requests
    · intro before request after whole
      obtain ⟨isNext, ended | earlier⟩ := (at_start source).silent requests whole
      · cases ended
      · exact ⟨isNext, earlier⟩

end Cursor

end Varlink
