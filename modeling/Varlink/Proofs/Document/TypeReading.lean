import Mathlib.Data.List.Basic
import Varlink.Document.Reader
import Varlink.Proofs.Document.Grammar
import Varlink.Proofs.Outcome

/-!
# Reading types

The reader of types takes off the front of the tokens exactly what the grammar derives, and nothing
more: whatever follows, the derived tokens are read to their end and the rest is left. The two
directions are proved separately, first for the readers inside a group, which are stated for any
reader of types, and then for types, by induction on the number of levels and on the derivation.

The reader takes modifiers off a word one at a time, while the grammar has whole runs of them. A
derivation can be extended at its first word by one more modifier, which is what connects the two.
-/

namespace Varlink

namespace Modifier

/-- No two modifiers start alike, so the one at the start of a word is found. -/
theorem ofWord?_eq_some_iff {word rest : String} {modifier : Modifier} :
    ofWord? word = some (modifier, rest) ↔ word = modifier.spelling ++ rest := by
  constructor
  · intro h
    obtain ⟨found, -, h⟩ := List.exists_of_findSome?_eq_some h
    obtain ⟨after, taken, h⟩ := Option.map_eq_some_iff.mp h
    obtain ⟨rfl, rfl⟩ := Prod.mk.inj h
    rw [List.isPrefixOf?_eq_some_iff_append_eq] at taken
    rw [← String.toList_inj, String.toList_append, String.toList_ofList, taken]
  · rintro rfl
    cases modifier <;> simp [ofWord?, all, spelling, List.isPrefixOf?]

theorem ofWord?_eq_none_iff {word : String} : ofWord? word = none ↔ Bare word := by
  rw [Option.eq_none_iff_forall_ne_some]
  constructor
  · rintro h modifier ⟨rest, covered⟩
    refine h (modifier, String.ofList rest) (ofWord?_eq_some_iff.mpr ?_)
    rw [← String.toList_inj, String.toList_append, String.toList_ofList, covered]
  · rintro bare ⟨modifier, rest⟩ h
    refine bare modifier ⟨rest.toList, ?_⟩
    rw [ofWord?_eq_some_iff.mp h, String.toList_append]

/-- A modifier that is a word of its own leaves nothing of it. -/
theorem ofWord?_spelling (modifier : Modifier) : ofWord? modifier.spelling = some (modifier, "") := by
  rw [ofWord?_eq_some_iff, String.append_empty]

/-- The first of a run of modifiers is taken off first. -/
theorem ofWord?_run_append (modifier : Modifier) (modifiers : List Modifier) (base : String) :
    ofWord? (run (modifier :: modifiers) ++ base) = some (modifier, run modifiers ++ base) := by
  rw [ofWord?_eq_some_iff, run_cons, String.append_assoc]

theorem run_append_ne_empty (modifiers : List Modifier) {base : String} (nonempty : base ≠ "") :
    run modifiers ++ base ≠ "" := by
  simp [nonempty]

end Modifier

namespace Builtin

theorem spelling_ne_empty (leaf : Builtin) : leaf.spelling ≠ "" := by
  cases leaf <;> decide

/-- No built-in type starts with a modifier. -/
theorem bare_spelling (leaf : Builtin) : Modifier.Bare leaf.spelling := by
  intro modifier
  cases leaf <;> cases modifier <;> decide

end Builtin

namespace TypeExpr

theorem ofWord_spelling (leaf : Builtin) : ofWord leaf.spelling = .builtin leaf := by
  cases leaf <;> rfl

theorem ofWord_of_notBuiltin {name : String} (h : ∀ leaf : Builtin, name ≠ leaf.spelling) :
    ofWord name = .reference name := by
  have none : Builtin.ofWord? name = none := by
    apply List.find?_eq_none.mpr
    intro leaf _
    simpa using (h leaf).symm
  rw [ofWord, none]

theorem applied_depth (modifiers : List Modifier) (type : TypeExpr String) :
    (applied modifiers type).depth = modifiers.length + type.depth := by
  induction modifiers with
  | nil => simp [applied]
  | cons modifier modifiers ih =>
      rw [applied, List.foldr_cons, depth]
      show (applied modifiers type).depth + 1 = _
      rw [ih, List.length_cons]
      omega

end TypeExpr

namespace Reader

open Grammar Lexeme

variable {α β : Type} {input rest : List Lexeme} {value : α}

/-- The reader takes a value off the front of its input and leaves the rest. -/
def Reads (reading : Reading α input) (value : α) (rest : List Lexeme) : Prop :=
  ∃ shorter, reading.outcome = .ok ⟨value, rest, shorter⟩

theorem reads_bind {x : Logged Step Fault β} {f : β → Reading α input} :
    Reads (x >>= f) value rest ↔ ∃ found, x.outcome = .ok found ∧ Reads (f found) value rest := by
  unfold Reads
  constructor
  · rintro ⟨shorter, h⟩
    obtain ⟨found, first, second⟩ := Logged.outcome_bind_eq_ok.mp h
    exact ⟨found, first, shorter, second⟩
  · rintro ⟨found, first, shorter, second⟩
    exact ⟨shorter, Logged.outcome_bind_eq_ok.mpr ⟨found, first, second⟩⟩

@[simp] theorem reads_note {step : Step} {f : Unit → Reading α input} :
    Reads (Logged.note step >>= f) value rest ↔ Reads (f ()) value rest := by
  rw [reads_bind]
  constructor
  · rintro ⟨_, _, h⟩
    exact h
  · intro h
    exact ⟨(), rfl, h⟩

@[simp] theorem reads_pure {found : Found α input} :
    Reads (pure found) value rest ↔ found.value = value ∧ found.rest = rest := by
  obtain ⟨value', rest', shorter⟩ := found
  constructor
  · rintro ⟨_, h⟩
    cases h
    exact ⟨rfl, rfl⟩
  · rintro ⟨rfl, rfl⟩
    exact ⟨shorter, rfl⟩

/-- A step that only changes the value takes what it is given. -/
theorem reads_map {mid : List Lexeme} {x : Reading β mid} {f : β → α}
    {g : Found β mid → Found α input} (values : ∀ found, (g found).value = f found.value)
    (rests : ∀ found, (g found).rest = found.rest) :
    Reads (x >>= fun found => pure (g found)) value rest ↔
      ∃ inner, f inner = value ∧ Reads x inner rest := by
  rw [reads_bind]
  constructor
  · rintro ⟨⟨inner, left, shorter⟩, first, h⟩
    rw [reads_pure, values, rests] at h
    obtain ⟨rfl, rfl⟩ := h
    exact ⟨inner, rfl, shorter, first⟩
  · rintro ⟨inner, rfl, shorter, first⟩
    exact ⟨_, first, reads_pure.mpr ⟨values _, rests _⟩⟩

@[simp] theorem reads_fail {fault : Fault} :
    ¬ Reads (.fail fault : Reading α input) value rest := by
  rintro ⟨_, h⟩
  cases h

@[simp] theorem reads_unexpected {expected : List TokenKind} {at_ : List Lexeme} :
    ¬ Reads (unexpected expected at_ : Reading α input) value rest :=
  reads_fail

theorem reads_readWord {text : String} :
    Reads (readWord input) text rest ↔ input = word text :: rest := by
  unfold readWord
  split
  · rename_i found after
    simp [Found.head, word]
  · rename_i notWord
    simp only [reads_unexpected, false_iff]
    exact notWord text rest

/-- What follows the first member of a group: the other members, its end and the rest. -/
def closing (rest : List Lexeme) : List (List Lexeme) → List Lexeme
  | [] => groupEnd :: rest
  | member :: members => separator :: member ++ closing rest members

theorem group_append (member : List Lexeme) (members : List (List Lexeme)) (rest : List Lexeme) :
    group (member :: members) ++ rest = groupStart :: member ++ closing rest members := by
  induction members generalizing member with
  | nil => simp [group, closing]
  | cons second members ih =>
      have tail := ih second
      simp only [group, List.cons_append, List.append_assoc, List.nil_append, List.cons.injEq,
        true_and] at tail
      simp [group, closing, tail]

/-- The names of a group are read up to its end. -/
theorem readNames_sound {name : String} {names : List String}
    (spelled : ∀ lexeme ∈ input, lexeme.Spelled) (h : Reads (readNames name input) names rest) :
    ∃ more, names = name :: more ∧ input = closing rest (more.map fun name => [word name]) := by
  fun_induction readNames name input generalizing names with
  | case1 name text tail =>
      obtain ⟨rfl, rfl⟩ : [name] = names ∧ tail = rest := reads_pure.mp h
      obtain rfl : text = ")" := spelled _ (List.mem_cons_self ..)
      exact ⟨[], rfl, rfl⟩
  | case2 name text next after ih =>
      obtain ⟨⟨found, left, shorter⟩, first, h⟩ := reads_bind.mp h
      obtain ⟨rfl, rfl⟩ : name :: found = names ∧ left = rest := reads_pure.mp h
      obtain ⟨comma, behind⟩ := List.forall_mem_cons.mp spelled
      obtain ⟨more, rfl, rfl⟩ := ih (List.forall_mem_cons.mp behind).2 ⟨shorter, first⟩
      obtain rfl : text = "," := comma
      exact ⟨next :: more, rfl, rfl⟩
  | _ => simp at h

theorem readNames_complete (name : String) (more : List String) (rest : List Lexeme) :
    Reads (readNames name (closing rest (more.map fun name => [word name]))) (name :: more)
      rest := by
  induction more generalizing name with
  | nil => exact reads_pure.mpr ⟨rfl, rfl⟩
  | cons next more ih =>
      obtain ⟨shorter, tail⟩ := ih next
      exact reads_bind.mpr ⟨_, tail, reads_pure.mpr ⟨rfl, rfl⟩⟩

section Fields

variable {readInner : (input : List Lexeme) → Reading (TypeExpr String) input}
  {derives : List Lexeme → TypeExpr String → Prop} {name : String}
  {fields : List (String × TypeExpr String)}

/-- The fields of a group are read up to its end, if nothing but types is read in them. -/
theorem readFields_sound
    (sound : ∀ {input type rest}, (∀ lexeme ∈ input, lexeme.Spelled) →
      Reads (readInner input) type rest → ∃ words, input = words ++ rest ∧ derives words type)
    (spelled : ∀ lexeme ∈ input, lexeme.Spelled)
    (h : Reads (readFields readInner name input) fields rest) :
    ∃ first phrases, first.name = name ∧ fields = (first :: phrases).map FieldPhrase.value ∧
      (∀ phrase ∈ first :: phrases, derives phrase.words phrase.type) ∧
      input = colon :: first.words ++ closing rest (phrases.map FieldPhrase.tokens) := by
  fun_induction readFields readInner name input generalizing fields with
  | case1 name text after ih =>
      obtain ⟨⟨type, afterType, shorter⟩, first, h⟩ := reads_bind.mp h
      obtain ⟨mark, inside⟩ := List.forall_mem_cons.mp spelled
      obtain rfl : text = ":" := mark
      obtain ⟨words, rfl, derived⟩ := sound inside ⟨shorter, first⟩
      have behind := (List.forall_mem_append.mp inside).2
      dsimp only at h
      split at h
      · rename_i ending tail _ _
        obtain ⟨rfl, rfl⟩ : [(name, type)] = fields ∧ tail = rest := reads_pure.mp h
        obtain rfl : ending = ")" := behind _ (List.mem_cons_self ..)
        exact ⟨⟨name, words, type⟩, [], rfl, rfl, by simpa using derived, rfl⟩
      · rename_i comma next after _ _
        obtain ⟨⟨more, left, shorter'⟩, second, h⟩ := reads_bind.mp h
        obtain ⟨rfl, rfl⟩ : (name, type) :: more = fields ∧ left = rest := reads_pure.mp h
        obtain ⟨separated, behind⟩ := List.forall_mem_cons.mp behind
        obtain ⟨phrase, phrases, rfl, values, others, rfl⟩ :=
          ih _ _ _ shorter (List.forall_mem_cons.mp behind).2 ⟨_, second⟩
        obtain rfl : comma = "," := separated
        obtain rfl : more = _ := values
        exact ⟨⟨name, words, type⟩, phrase :: phrases, rfl, rfl,
          List.forall_mem_cons.mpr ⟨derived, others⟩, rfl⟩
      · simp at h
      · simp at h
  | _ => simp at h

/-- The fields of a group are read up to its end, if every type in them is read to its end. -/
theorem readFields_complete {first : FieldPhrase} {phrases : List FieldPhrase}
    (complete : ∀ phrase ∈ first :: phrases, ∀ rest,
      Reads (readInner (phrase.words ++ rest)) phrase.type rest) :
    Reads (readFields readInner first.name
        (colon :: first.words ++ closing rest (phrases.map FieldPhrase.tokens)))
      ((first :: phrases).map FieldPhrase.value) rest := by
  induction phrases generalizing first with
  | nil =>
      obtain ⟨shorter, type⟩ := complete first (List.mem_cons_self ..) (groupEnd :: rest)
      rw [List.cons_append, colon, readFields]
      exact reads_bind.mpr ⟨_, type, reads_pure.mpr ⟨rfl, rfl⟩⟩
  | cons second phrases ih =>
      obtain ⟨here, others⟩ := List.forall_mem_cons.mp complete
      obtain ⟨shorter, type⟩ := here (closing rest ((second :: phrases).map FieldPhrase.tokens))
      obtain ⟨shorter', more⟩ := ih others
      rw [List.cons_append, colon, readFields]
      exact reads_bind.mpr ⟨_, type, reads_bind.mpr ⟨_, more, reads_pure.mpr ⟨rfl, rfl⟩⟩⟩

end Fields

section Types

variable {type : TypeExpr String} {levels : Nat}

/-- A reader of types takes nothing but types that are nested no deeper than it allows. -/
def Sound (levels : Nat) (reader : (input : List Lexeme) → Reading (TypeExpr String) input) :
    Prop :=
  ∀ {input type rest}, (∀ lexeme ∈ input, lexeme.Spelled) → Reads (reader input) type rest →
    ∃ words, input = words ++ rest ∧ IsTypeWithin levels words type

theorem readGroup_sound {readInner : (input : List Lexeme) → Reading (TypeExpr String) input}
    (sound : Sound levels readInner) (spelled : ∀ lexeme ∈ input, lexeme.Spelled)
    (h : Reads (readGroup readInner input) type rest) :
    ∃ words, groupStart :: input = words ++ rest ∧ IsTypeWithin (levels + 1) words type := by
  unfold readGroup at h
  split at h
  · rename_i ending after
    obtain ⟨rfl, rfl⟩ : .struct [] = type ∧ after = rest := reads_pure.mp h
    obtain rfl : ending = ")" := spelled _ (List.mem_cons_self ..)
    refine ⟨_, rfl, .struct [] (by simp), ?_⟩
    simp [TypeExpr.depth, TypeExpr.fieldsDepth]
  · rename_i name after
    have behind := (List.forall_mem_cons.mp spelled).2
    split at h
    · obtain ⟨⟨fields, left, shorter⟩, first, h⟩ := reads_bind.mp h
      obtain ⟨rfl, rfl⟩ : .struct fields = type ∧ left = rest := reads_pure.mp (reads_note.mp h)
      obtain ⟨phrase, phrases, rfl, rfl, derived, rfl⟩ :=
        readFields_sound sound behind ⟨shorter, first⟩
      refine ⟨group ((phrase :: phrases).map FieldPhrase.tokens), ?_, .struct _ ?_, ?_⟩
      · rw [List.map_cons, group_append]
        rfl
      · exact fun phrase inside => (derived phrase inside).derived
      · rw [TypeExpr.depth, Nat.add_le_add_iff_right, TypeExpr.fieldsDepth_le_iff]
        exact List.forall_mem_map.mpr fun phrase inside => (derived phrase inside).depth_le
    · obtain ⟨⟨names, left, shorter⟩, first, h⟩ := reads_bind.mp h
      obtain ⟨rfl, rfl⟩ : .enum names = type ∧ left = rest := reads_pure.mp (reads_note.mp h)
      obtain ⟨more, rfl, rfl⟩ := readNames_sound behind ⟨shorter, first⟩
      refine ⟨group ((name :: more).map fun name => [word name]), ?_,
        .enum (List.cons_ne_nil _ _), ?_⟩
      · rw [List.map_cons, group_append]
        rfl
      · simp [TypeExpr.depth]
  · simp at h

/-- A modifier in front of the first word of a type applies to all of it. -/
theorem isType_glue (modifier : Modifier) {remainder : String} {words : List Lexeme}
    (h : IsType (word remainder :: words) type) :
    IsType (word (modifier.spelling ++ remainder) :: words) (.modified modifier type) := by
  generalize same : word remainder :: words = tokens at h
  cases h with
  | builtin modifiers leaf =>
      cases same
      simpa [String.append_assoc] using IsType.builtin (modifier :: modifiers) leaf
  | reference modifiers nonempty bare notBuiltin =>
      cases same
      simpa [String.append_assoc] using
        IsType.reference (modifier :: modifiers) nonempty bare notBuiltin
  | @modified modifiers _ _ nonempty inner =>
      cases same
      simpa using IsType.modified (List.cons_ne_nil modifier modifiers) inner
  | struct => cases same
  | enum => cases same

/-- A word without modifiers is a built-in type or a name. -/
theorem isType_ofWord {text : String} (nonempty : text ≠ "") (bare : Modifier.Bare text) :
    IsType [word text] (.ofWord text) := by
  by_cases builtin : ∃ leaf : Builtin, text = leaf.spelling
  · obtain ⟨leaf, rfl⟩ := builtin
    rw [TypeExpr.ofWord_spelling]
    simpa using IsType.builtin [] leaf
  · have notBuiltin : ∀ leaf : Builtin, text ≠ leaf.spelling := not_exists.mp builtin
    rw [TypeExpr.ofWord_of_notBuiltin notBuiltin]
    simpa using IsType.reference [] nonempty bare notBuiltin

/-- What is left of a word is a word, unless nothing is left. -/
theorem isWord_of_append {first second : List Char} (h : IsWord (first ++ second))
    (nonempty : second ≠ []) : IsWord second where
  nonempty := nonempty
  chars c inside := h.chars c (List.mem_append_right _ inside)
  noArrow within := h.noArrow (within.trans (List.suffix_append _ _).isInfix)

theorem reads_readType_group {opening : String} {after : List Lexeme} :
    Reads (readType (levels + 1) (⟨.groupStart, opening⟩ :: after)) type rest ↔
      Reads (readGroup (readType levels) after) type rest := by
  rw [readType.eq_2]
  refine (reads_map (f := id) (g := Found.afterHead) (fun _ => rfl) (fun _ => rfl)).trans ?_
  simp

theorem reads_readType_bare {text : String} {after : List Lexeme}
    (bare : Modifier.ofWord? text = none) :
    Reads (readType levels (⟨.word, text⟩ :: after)) type rest ↔
      .ofWord text = type ∧ after = rest := by
  rw [readType.eq_3, bare]
  exact reads_pure

/-- A modifier that is a word of its own applies to the type after it. -/
theorem reads_readType_modifier {text : String} {modifier : Modifier} {after : List Lexeme}
    (taken : Modifier.ofWord? text = some (modifier, "")) :
    Reads (readType (levels + 1) (⟨.word, text⟩ :: after)) type rest ↔
      ∃ inner, .modified modifier inner = type ∧ Reads (readType levels after) inner rest := by
  rw [readType.eq_3, taken]
  simp only [if_pos]
  exact reads_map (fun _ => rfl) (fun _ => rfl)

/-- A modifier at the start of a word applies to the type that starts with the rest of the word. -/
theorem reads_readType_glued {text remainder : String} {modifier : Modifier} {after : List Lexeme}
    (taken : Modifier.ofWord? text = some (modifier, remainder)) (nonempty : remainder ≠ "") :
    Reads (readType (levels + 1) (⟨.word, text⟩ :: after)) type rest ↔
      ∃ inner, .modified modifier inner = type ∧
        Reads (readType levels (⟨.word, remainder⟩ :: after)) inner rest := by
  rw [readType.eq_3, taken]
  simp only [if_neg nonempty]
  exact reads_map (fun _ => rfl) (fun _ => rfl)

/-- Each level that a group or modifier uses up is missing inside it, so the levels that were left
bound the depth of what was read. -/
theorem readType_sound (levels : Nat) : Sound levels (readType levels) := by
  intro input type rest spelled h
  induction levels using Nat.strongRecOn generalizing input type rest with
  | ind levels ih =>
      fun_cases readType levels input with
      | case2 opening after levels =>
          obtain ⟨mark, inside⟩ := List.forall_mem_cons.mp spelled
          obtain rfl : opening = "(" := mark
          exact readGroup_sound (ih levels (Nat.lt_succ_self _)) inside (reads_readType_group.mp h)
      | case3 levels text after plain =>
          obtain ⟨rfl, rfl⟩ := (reads_readType_bare plain).mp h
          have isWord : IsWord text.toList := spelled _ (List.mem_cons_self ..)
          have nonempty : text ≠ "" := fun empty => isWord.nonempty (by rw [empty]; rfl)
          have bare := Modifier.ofWord?_eq_none_iff.mp plain
          refine ⟨[word text], rfl, isType_ofWord nonempty bare, ?_⟩
          unfold TypeExpr.ofWord
          split <;> exact Nat.zero_le _
      | case5 text after modifier levels taken =>
          obtain ⟨inner, rfl, read⟩ := (reads_readType_modifier taken).mp h
          obtain ⟨words, rfl, derived, bound⟩ := ih levels (Nat.lt_succ_self _)
            (List.forall_mem_cons.mp spelled).2 read
          obtain rfl := Modifier.ofWord?_eq_some_iff.mp taken
          refine ⟨word (modifier.spelling ++ "") :: words, rfl, ?_, Nat.succ_le_succ bound⟩
          simpa using IsType.modified (List.cons_ne_nil modifier []) derived
      | case6 text after modifier remainder taken levels nonempty =>
          obtain ⟨inner, rfl, read⟩ := (reads_readType_glued taken nonempty).mp h
          obtain rfl := Modifier.ofWord?_eq_some_iff.mp taken
          obtain ⟨first, behind⟩ := List.forall_mem_cons.mp spelled
          have remaining : Spelled ⟨.word, remainder⟩ := by
            refine @isWord_of_append modifier.spelling.toList _ ?_ (by simpa using nonempty)
            simpa [Spelled] using first
          obtain ⟨words, covered, derived, bound⟩ := ih levels (Nat.lt_succ_self _)
            (List.forall_mem_cons.mpr ⟨remaining, behind⟩) read
          cases words with
          | nil => cases derived
          | cons first words =>
              cases covered
              exact ⟨_, rfl, isType_glue modifier derived, Nat.succ_le_succ bound⟩
      | case1 => simp [readType] at h
      | case4 text after modifier remainder taken => simp [readType, taken] at h
      | case7 levels input notGroup notWord =>
          rw [readType.eq_4 _ _ notGroup notWord] at h
          simp at h

/-- A run of modifiers at the start of a word is taken off it one by one. -/
theorem reads_run_append (modifiers : List Modifier) {base : String} {after : List Lexeme}
    (nonempty : base ≠ "") (h : Reads (readType levels (word base :: after)) type rest) :
    Reads (readType (modifiers.length + levels) (word (Modifier.run modifiers ++ base) :: after))
      (.applied modifiers type) rest := by
  induction modifiers with
  | nil =>
      rw [Modifier.run_nil, String.empty_append, List.length_nil, Nat.zero_add]
      exact h
  | cons modifier modifiers ih =>
      have taken := Modifier.ofWord?_run_append modifier modifiers base
      have remaining := Modifier.run_append_ne_empty modifiers nonempty
      rw [List.length_cons, Nat.add_right_comm]
      exact (reads_readType_glued taken remaining).mpr ⟨_, rfl, ih⟩

/-- A run of modifiers that is a word of its own applies to the type after it. -/
theorem reads_run {modifiers : List Modifier} {after : List Lexeme} (nonempty : modifiers ≠ [])
    (h : Reads (readType levels after) type rest) :
    Reads (readType (modifiers.length + levels) (word (Modifier.run modifiers) :: after))
      (.applied modifiers type) rest := by
  rcases List.eq_nil_or_concat modifiers with rfl | ⟨before, last, rfl⟩
  · contradiction
  · have here := (reads_readType_modifier last.ofWord?_spelling).mpr ⟨type, rfl, h⟩
    rw [List.concat_eq_append, Modifier.run_append, TypeExpr.applied_append, List.length_append,
      List.length_singleton, Nat.add_assoc, Nat.add_comm 1, Modifier.run_cons, Modifier.run_nil,
      String.append_empty]
    exact reads_run_append before last.spelling_ne_empty here

/-- A group of fields is read up to its end, if every type in it is. -/
theorem readGroup_struct {readInner : (input : List Lexeme) → Reading (TypeExpr String) input}
    {phrases : List FieldPhrase}
    (complete : ∀ phrase ∈ phrases, ∀ rest,
      Reads (readInner (phrase.words ++ rest)) phrase.type rest)
    (h : group (phrases.map FieldPhrase.tokens) ++ rest = groupStart :: input) :
    Reads (readGroup readInner input) (.struct (phrases.map FieldPhrase.value)) rest := by
  cases phrases with
  | nil =>
      cases h
      exact reads_pure.mpr ⟨rfl, rfl⟩
  | cons first phrases =>
      rw [List.map_cons, group_append] at h
      cases h
      obtain ⟨shorter, fields⟩ := readFields_complete complete
      exact reads_bind.mpr ⟨_, fields, reads_note.mpr (reads_pure.mpr ⟨rfl, rfl⟩)⟩

/-- A group of names is read up to its end. -/
theorem readGroup_enum {readInner : (input : List Lexeme) → Reading (TypeExpr String) input}
    {names : List String} (nonempty : names ≠ [])
    (h : group (names.map fun name => [word name]) ++ rest = groupStart :: input) :
    Reads (readGroup readInner input) (.enum names) rest := by
  cases names with
  | nil => contradiction
  | cons name more =>
      rw [List.map_cons, group_append] at h
      cases h
      obtain ⟨shorter, names⟩ := readNames_complete name more rest
      cases more with
      | nil => exact reads_bind.mpr ⟨_, names, reads_note.mpr (reads_pure.mpr ⟨rfl, rfl⟩)⟩
      | cons => exact reads_bind.mpr ⟨_, names, reads_note.mpr (reads_pure.mpr ⟨rfl, rfl⟩)⟩

theorem readType_complete {words : List Lexeme} (derived : IsType words type)
    (bound : type.depth ≤ levels) (rest : List Lexeme) :
    Reads (readType levels (words ++ rest)) type rest := by
  induction derived generalizing levels rest with
  | builtin modifiers leaf =>
      rw [TypeExpr.applied_depth] at bound
      obtain ⟨levels, rfl⟩ := Nat.exists_eq_add_of_le bound
      have bare := Modifier.ofWord?_eq_none_iff.mpr leaf.bare_spelling
      rw [Nat.add_assoc]
      refine reads_run_append modifiers leaf.spelling_ne_empty ?_
      exact (reads_readType_bare bare).mpr ⟨TypeExpr.ofWord_spelling leaf, rfl⟩
  | reference modifiers nonempty bare notBuiltin =>
      rw [TypeExpr.applied_depth] at bound
      obtain ⟨levels, rfl⟩ := Nat.exists_eq_add_of_le bound
      have bare := Modifier.ofWord?_eq_none_iff.mpr bare
      rw [Nat.add_assoc]
      refine reads_run_append modifiers nonempty ?_
      exact (reads_readType_bare bare).mpr ⟨TypeExpr.ofWord_of_notBuiltin notBuiltin, rfl⟩
  | modified nonempty inner ih =>
      rw [TypeExpr.applied_depth] at bound
      obtain ⟨levels, rfl⟩ := Nat.exists_eq_add_of_le bound
      rw [Nat.add_assoc]
      exact reads_run nonempty (ih (Nat.le_add_right _ _) rest)
  | struct phrases inner ih =>
      obtain ⟨levels, rfl⟩ := Nat.exists_eq_succ_of_ne_zero (Nat.ne_zero_of_lt bound)
      have bounds : ∀ phrase ∈ phrases, phrase.type.depth ≤ levels := by
        have fields := TypeExpr.fieldsDepth_le_iff.mp (Nat.le_of_succ_le_succ bound)
        exact List.forall_mem_map.mp fields
      have complete : ∀ phrase ∈ phrases, ∀ rest,
          Reads (readType levels (phrase.words ++ rest)) phrase.type rest := by
        intro phrase inside rest
        exact ih phrase inside (bounds phrase inside) rest
      exact reads_readType_group.mpr (readGroup_struct complete rfl)
  | enum nonempty =>
      obtain ⟨levels, rfl⟩ := Nat.exists_eq_succ_of_ne_zero (Nat.ne_zero_of_lt bound)
      exact reads_readType_group.mpr (readGroup_enum nonempty rfl)

/-- Types are read exactly as the grammar derives them. -/
theorem reads_readType (spelled : ∀ lexeme ∈ input, lexeme.Spelled) :
    Reads (readType levels input) type rest ↔
      ∃ words, input = words ++ rest ∧ IsTypeWithin levels words type := by
  constructor
  · exact readType_sound levels spelled
  · rintro ⟨words, rfl, derived, bound⟩
    exact readType_complete derived bound rest

theorem readSignature_complete {site : SignatureSite} {words : List Lexeme}
    (signature : IsSignature words type) (rest : List Lexeme) :
    Reads (readSignature site (words ++ rest)) type rest := by
  cases signature with
  | struct body =>
      obtain ⟨shorter, read⟩ := readType_complete body.derived body.depth_le rest
      exact reads_bind.mpr ⟨_, read, reads_pure.mpr ⟨rfl, rfl⟩⟩
  | reference body =>
      obtain ⟨shorter, read⟩ := readType_complete body.derived body.depth_le rest
      exact reads_bind.mpr ⟨_, read, reads_pure.mpr ⟨rfl, rfl⟩⟩

/-- Signatures are read exactly as the grammar derives them. -/
theorem reads_readSignature {site : SignatureSite}
    (spelled : ∀ lexeme ∈ input, lexeme.Spelled) :
    Reads (readSignature site input) type rest ↔
      ∃ words, input = words ++ rest ∧ IsSignature words type := by
  constructor
  · intro h
    obtain ⟨⟨found, left, shorter⟩, first, h⟩ := reads_bind.mp h
    have read : Reads (readType maxNesting input) found left := ⟨shorter, first⟩
    obtain ⟨words, covered, within⟩ := (reads_readType spelled).mp read
    cases found with
    | struct fields =>
        obtain ⟨rfl, rfl⟩ : .struct fields = type ∧ left = rest := reads_pure.mp h
        exact ⟨words, covered, .struct within⟩
    | reference name =>
        obtain ⟨rfl, rfl⟩ : .reference name = type ∧ left = rest := reads_pure.mp h
        exact ⟨words, covered, .reference within⟩
    | builtin => exact absurd h reads_fail
    | modified => exact absurd h reads_fail
    | enum => exact absurd h reads_fail
  · rintro ⟨words, rfl, signature⟩
    exact readSignature_complete signature rest

end Types

end Reader

end Varlink
