import Mathlib
import Varlink.Text.Words

/-!
# Low lines in the spellings of a name

A low line is not alphanumeric, so it is never part of a word, and no case of another character has
one. A spelling that joins words without a mark therefore has no low line at all, and one that joins
them by low lines does not end in one, since no word is empty. This is why a low line may be put behind
such a name to tell it from the others.
-/

namespace Varlink.Text

/-- Only the code of a low line is read as one: a number that is no code point is read as zero. -/
theorem eq_of_ofNat_eq_lowLine {code : Nat} (h : Char.ofNat code = '_') : code = 95 := by
  by_cases valid : code.isValidChar
  · have codes := congrArg Char.toNat h
    rwa [Char.toNat_ofNat, if_pos valid] at codes
  · rw [Char.ofNat, dif_neg valid] at h
    cases h

section CaseImage

variable {runs : List CaseRun} {expansions : List (Nat × List Nat)} {c : Char}

/-- No run of a table goes over the low line, and the longer forms neither have one nor are empty. -/
def AvoidsLowLine (runs : List CaseRun) (expansions : List (Nat × List Nat)) : Prop :=
  (∀ run ∈ runs, 95 < run.image ∨ run.image + (run.range.last - run.range.first) < 95) ∧
    ∀ expansion ∈ expansions, 95 ∉ expansion.2 ∧ expansion.2 ≠ []

theorem mem_of_lookup {code : Nat} {codes : List Nat} (found : expansions.lookup code = some codes) :
    (code, codes) ∈ expansions := by
  obtain ⟨before, after, rfl, -⟩ := List.lookup_eq_some_iff.mp found
  exact List.mem_append_right _ List.mem_cons_self

theorem lowLine_not_mem_caseImage (avoids : AvoidsLowLine runs expansions) (other : c ≠ '_') :
    '_' ∉ caseImage runs expansions c := by
  rw [caseImage]
  split
  · next codes found =>
    intro inside
    obtain ⟨code, isCode, same⟩ := List.mem_map.mp inside
    obtain rfl := eq_of_ofNat_eq_lowLine same
    exact (avoids.2 _ (mem_of_lookup found)).1 isCode
  · split
    · next run found =>
      intro inside
      have code := eq_of_ofNat_eq_lowLine (List.mem_singleton.mp inside).symm
      have holds := List.find?_some found
      simp only [CharRange.contains, Bool.and_eq_true, decide_eq_true_eq] at holds
      have apart := avoids.1 run (List.mem_of_find?_eq_some found)
      omega
    · exact fun inside => other (List.mem_singleton.mp inside).symm

theorem caseImage_ne_nil (avoids : AvoidsLowLine runs expansions) :
    caseImage runs expansions c ≠ [] := by
  rw [caseImage]
  split
  · next found =>
    rw [Ne, List.map_eq_nil_iff]
    exact (avoids.2 _ (mem_of_lookup found)).2
  · split <;> exact List.cons_ne_nil _ _

end CaseImage

theorem avoidsLowLine_lowercase : AvoidsLowLine lowercaseRuns lowercaseExpansions := by
  unfold AvoidsLowLine
  decide +kernel

theorem avoidsLowLine_uppercase : AvoidsLowLine uppercaseRuns uppercaseExpansions := by
  unfold AvoidsLowLine
  decide +kernel

theorem lowLine_not_mem_lowercase {c : Char} (other : c ≠ '_') : '_' ∉ lowercase c := by
  rw [lowercase]
  split
  · intro inside
    have same := List.mem_singleton.mp inside
    have notAlpha := Char.isLower_toLower_eq_isAlpha c
    rw [← same, Char.isAlpha] at notAlpha
    have notUpper : ¬ c.isUpper := fun isUpper => by simp [isUpper] at notAlpha
    exact other (same.trans (Char.toLower_eq_of_not_isUpper notUpper)).symm
  · exact lowLine_not_mem_caseImage avoidsLowLine_lowercase other

theorem lowLine_not_mem_uppercase {c : Char} (other : c ≠ '_') : '_' ∉ uppercase c := by
  rw [uppercase]
  split
  · intro inside
    have same := List.mem_singleton.mp inside
    have notAlpha := Char.isUpper_toUpper_eq_isAlpha c
    rw [← same, Char.isAlpha] at notAlpha
    have notLower : ¬ c.isLower := fun isLower => by simp [isLower] at notAlpha
    exact other (same.trans (Char.toUpper_eq_of_not_isLower notLower)).symm
  · exact lowLine_not_mem_caseImage avoidsLowLine_uppercase other

theorem lowercase_ne_nil (c : Char) : lowercase c ≠ [] := by
  rw [lowercase]
  split
  · exact List.cons_ne_nil _ _
  · exact caseImage_ne_nil avoidsLowLine_lowercase

theorem lowLine_not_mem_lowerWord {word : List Char} (without : '_' ∉ word) :
    '_' ∉ lowerWord word := by
  induction word using lowerWord.induct with
  | case1 => exact without
  | case2 => decide
  | case3 c rest notSigma ih =>
      rw [lowerWord]
      · rw [List.mem_append, not_or]
        exact ⟨lowLine_not_mem_lowercase fun same => without (same ▸ List.mem_cons_self),
          ih fun inside => without (List.mem_cons_of_mem c inside)⟩
      · exact notSigma

theorem lowLine_not_mem_capitalWord {word : List Char} (without : '_' ∉ word) :
    '_' ∉ capitalWord word := by
  cases word with
  | nil => exact without
  | cons c rest =>
      rw [capitalWord, List.mem_append, not_or]
      exact ⟨lowLine_not_mem_uppercase fun same => without (same ▸ List.mem_cons_self),
        lowLine_not_mem_lowerWord fun inside => without (List.mem_cons_of_mem c inside)⟩

theorem lowerWord_ne_nil {word : List Char} (nonempty : word ≠ []) : lowerWord word ≠ [] := by
  cases word using lowerWord.fun_cases with
  | case1 => exact nonempty
  | case2 => decide
  | case3 c rest notSigma =>
      rw [lowerWord]
      · exact List.append_ne_nil_of_left_ne_nil (lowercase_ne_nil c) _
      · exact notSigma

/-- The characters of the pieces are those of the text that are not cut at. -/
theorem cut_of_mem_splitWhere {cut : Char → Bool} {text piece : List Char}
    (inside : piece ∈ splitWhere cut text) {c : Char} (isPart : c ∈ piece) : cut c = false := by
  induction text generalizing piece with
  | nil =>
      obtain rfl := List.mem_singleton.mp inside
      cases isPart
  | cons first rest ih =>
      rw [splitWhere] at inside
      split at inside
      · rcases List.mem_cons.mp inside with rfl | inside
        · cases isPart
        · exact ih inside isPart
      · next kept =>
        split at inside
        · obtain rfl := List.mem_singleton.mp inside
          obtain rfl := List.mem_singleton.mp isPart
          exact Bool.eq_false_iff.mpr kept
        · next later pieces same =>
          rcases List.mem_cons.mp inside with rfl | inside
          · rcases List.mem_cons.mp isPart with rfl | isPart
            · exact Bool.eq_false_iff.mpr kept
            · exact ih (same ▸ List.mem_cons_self) isPart
          · exact ih (same ▸ List.mem_cons_of_mem _ inside) isPart

/-- A piece is cut into words without leaving anything behind, and every word has a character: a word
whose case is known has been begun. -/
theorem humps_spec (mode : WordCase) (word piece : List Char)
    (begun : mode = .upper → word ≠ []) :
    (humps mode word piece).flatten = word.reverse ++ piece ∧ [] ∉ humps mode word piece := by
  fun_induction humps mode word piece with
  | case1 mode word isEmpty =>
      obtain rfl := List.isEmpty_iff.mp isEmpty
      exact ⟨rfl, List.not_mem_nil⟩
  | case2 mode word notEmpty =>
      have nonempty := fun same => notEmpty (List.isEmpty_iff.mpr same)
      refine ⟨by simp, fun inside => nonempty ?_⟩
      exact List.reverse_eq_nil_iff.mp (List.mem_singleton.mp inside).symm
  | case3 mode word c => simp
  | case4 mode word c next rest _ ih =>
      obtain ⟨flat, nonempty⟩ := ih nofun
      exact ⟨by simp [flat], by simp [nonempty]⟩
  | case5 mode word c next rest _ isUpper ih =>
      obtain ⟨flat, nonempty⟩ := ih nofun
      simp only [Bool.and_eq_true, decide_eq_true_eq] at isUpper
      have isBegun := begun isUpper.1.1
      exact ⟨by simp [flat], by simp [nonempty, isBegun]⟩
  | case6 mode word c next rest _ _ ih =>
      obtain ⟨flat, nonempty⟩ := ih fun _ => List.cons_ne_nil c word
      exact ⟨by simp [flat], nonempty⟩

section Words

variable {name : String} {word : List Char}

theorem exists_piece (inside : word ∈ words name) :
    ∃ piece ∈ splitWhere (fun c => !isAlphanumeric c) name.toList, word ∈ humps .uncased [] piece :=
  List.mem_flatMap.mp inside

theorem ne_nil_of_mem_words (inside : word ∈ words name) : word ≠ [] := by
  obtain ⟨piece, -, inside⟩ := exists_piece inside
  rintro rfl
  exact (humps_spec .uncased [] piece nofun).2 inside

theorem isAlphanumeric_of_mem_words (inside : word ∈ words name) {c : Char} (isPart : c ∈ word) :
    isAlphanumeric c := by
  obtain ⟨piece, isPiece, inside⟩ := exists_piece inside
  have same : (humps .uncased [] piece).flatten = piece := (humps_spec .uncased [] piece nofun).1
  have isPart : c ∈ piece := same ▸ List.mem_flatten_of_mem inside isPart
  have kept := cut_of_mem_splitWhere isPiece isPart
  rwa [Bool.not_eq_false'] at kept

theorem lowLine_not_mem_words (inside : word ∈ words name) : '_' ∉ word := by
  intro isPart
  have isWord := isAlphanumeric_of_mem_words inside isPart
  revert isWord
  decide

end Words

theorem lowLine_not_mem_pascalCase (name : String) : '_' ∉ (pascalCase name).toList := by
  rw [pascalCase, String.toList_ofList]
  intro inside
  obtain ⟨word, isWord, inside⟩ := List.mem_flatMap.mp inside
  exact lowLine_not_mem_capitalWord (lowLine_not_mem_words isWord) inside

theorem pascalCase_ne_append_lowLine (name text : String) : pascalCase name ≠ text ++ "_" := by
  intro same
  refine lowLine_not_mem_pascalCase name ?_
  rw [same, String.toList_append]
  exact List.mem_append_right _ (List.mem_singleton_self '_')

/-- Words joined by low lines end as the last of them does. -/
theorem exists_getLast?_intercalate {words : List (List Char)} (some_word : words ≠ [])
    (nonempty : ∀ word ∈ words, word ≠ []) (without : ∀ word ∈ words, '_' ∉ word) :
    ∃ last, (List.intercalate ['_'] words).getLast? = some last ∧ last ≠ '_' := by
  induction words with
  | nil => exact absurd rfl some_word
  | cons word rest ih =>
      cases rest with
      | nil =>
          have isNonempty := nonempty word (List.mem_singleton_self word)
          refine ⟨word.getLast isNonempty, ?_, fun same => ?_⟩
          · rw [List.intercalate_singleton, List.getLast?_eq_some_getLast isNonempty]
          · have isLast := List.getLast_mem isNonempty
            exact without word (List.mem_singleton_self word) (same ▸ isLast)
      | cons next rest =>
          obtain ⟨last, isLast, other⟩ := ih (List.cons_ne_nil _ _)
            (fun word inside => nonempty word (List.mem_cons_of_mem _ inside))
            (fun word inside => without word (List.mem_cons_of_mem _ inside))
          refine ⟨last, ?_, other⟩
          rw [List.intercalate_cons_cons, List.getLast?_append, isLast, Option.some_or]

theorem snakeCase_ne_append_lowLine (name text : String) : snakeCase name ≠ text ++ "_" := by
  intro same
  have last := congrArg (fun text => text.toList.getLast?) same
  have spelled : (snakeCase name).toList =
      List.intercalate ['_'] ((words name).map lowerWord) := by
    rw [snakeCase, String.toList_intercalate, List.map_map]
    simp [Function.comp_def]
  rw [spelled, String.toList_append, List.getLast?_append] at last
  by_cases noWord : words name = []
  · rw [noWord] at last
    cases last
  · obtain ⟨final, isLast, other⟩ := exists_getLast?_intercalate
      (fun empty : (words name).map lowerWord = [] => noWord (List.map_eq_nil_iff.mp empty))
      (List.forall_mem_map.mpr fun word inside => lowerWord_ne_nil (ne_nil_of_mem_words inside))
      (List.forall_mem_map.mpr fun word inside =>
        lowLine_not_mem_lowerWord (lowLine_not_mem_words inside))
    rw [isLast] at last
    exact other (Option.some.inj last)

end Varlink.Text
