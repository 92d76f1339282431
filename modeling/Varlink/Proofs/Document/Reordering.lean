import Mathlib.Algebra.Order.BigOperators.Group.Finset
import Mathlib.Logic.Equiv.Basic
import Varlink.Proofs.Interface.PathNames

/-!
# Documents in another order

The members of a document may be written in another order. What is said of a place carries over,
since a place is told by its root and the way from there, and the roots are reordered with the
members they belong to: declarations among themselves, the two types of a method as a pair, and
errors among themselves.
-/

namespace Varlink

/-- The items of one list are those of the other, where the item at an index is found at the index
that this one is sent to. -/
def Reindexed {α : Type} (σ : Equiv.Perm Nat) (items others : List α) : Prop :=
  ∀ index, others[σ index]? = items[index]?

/-- One permutation for the first `n` indices, which it keeps, and another one for those behind. -/
def appendPerm (n : Nat) (σ τ : Equiv.Perm Nat) (keeps : ∀ index, σ index < n ↔ index < n) :
    Equiv.Perm Nat where
  toFun index := if index < n then σ index else n + τ (index - n)
  invFun index := if index < n then σ.symm index else n + τ.symm (index - n)
  left_inv index := by
    by_cases here : index < n
    · simp [here, keeps]
    · simp [here]
      omega
  right_inv index := by
    by_cases here : index < n
    · have back : σ.symm index < n := by
        rw [← keeps, Equiv.apply_symm_apply]
        exact here
      simp [here, back]
    · simp [here]
      omega

/-- The permutation of items for a list in which each of them has two entries. -/
def pairPerm (σ : Equiv.Perm Nat) : Equiv.Perm Nat where
  toFun index := 2 * σ (index / 2) + index % 2
  invFun index := 2 * σ.symm (index / 2) + index % 2
  left_inv index := by
    have half : (2 * σ (index / 2) + index % 2) / 2 = σ (index / 2) := by omega
    have parity : (2 * σ (index / 2) + index % 2) % 2 = index % 2 := by omega
    simp only [half, parity, Equiv.symm_apply_apply]
    omega
  right_inv index := by
    have half : (2 * σ.symm (index / 2) + index % 2) / 2 = σ.symm (index / 2) := by omega
    have parity : (2 * σ.symm (index / 2) + index % 2) % 2 = index % 2 := by omega
    simp only [half, parity, Equiv.apply_symm_apply]
    omega

namespace Reindexed

variable {α β : Type} {σ τ : Equiv.Perm Nat} {items others after later : List α}

theorem symm (h : Reindexed σ items others) : Reindexed σ.symm others items := by
  intro index
  rw [← h, Equiv.apply_symm_apply]

theorem map (h : Reindexed σ items others) (f : α → β) :
    Reindexed σ (items.map f) (others.map f) := by
  intro index
  rw [List.getElem?_map, List.getElem?_map, h]

theorem mem (h : Reindexed σ items others) {item : α} (inside : item ∈ items) : item ∈ others := by
  obtain ⟨index, found⟩ := List.mem_iff_getElem?.mp inside
  exact List.mem_of_getElem? ((h index).trans found)

theorem mem_iff (h : Reindexed σ items others) {item : α} : item ∈ others ↔ item ∈ items :=
  ⟨h.symm.mem, h.mem⟩

theorem lt_iff (h : Reindexed σ items others) (index : Nat) :
    σ index < others.length ↔ index < items.length := by
  rw [← not_iff_not, Nat.not_lt, Nat.not_lt, ← List.getElem?_eq_none_iff,
    ← List.getElem?_eq_none_iff, h]

theorem length_eq (h : Reindexed σ items others) : others.length = items.length := by
  have image : (Finset.range items.length).map σ.toEmbedding = Finset.range others.length := by
    ext index
    simp [← h.symm.lt_iff]
  rw [← Finset.card_range others.length, ← image, Finset.card_map, Finset.card_range]

theorem keeps (h : Reindexed σ items others) (index : Nat) :
    σ index < items.length ↔ index < items.length := by
  rw [← h.length_eq, h.lt_iff, h.length_eq]

theorem nodup (h : Reindexed σ items others) (nodup : items.Nodup) : others.Nodup := by
  rw [List.nodup_iff_getElem?_ne_getElem?]
  intro first second before bound same
  rw [← h.symm first, ← h.symm second] at same
  have inside := (h.symm.lt_iff first).mpr (before.trans bound)
  have equal := σ.symm.injective ((List.getElem?_inj inside nodup).mp same)
  exact absurd equal before.ne

theorem append {n : Nat} (h : Reindexed σ items others) (g : Reindexed τ after later)
    (length : items.length = n) (keeps : ∀ index, σ index < n ↔ index < n) :
    Reindexed (appendPerm n σ τ keeps) (items ++ after) (others ++ later) := by
  subst length
  intro index
  by_cases here : index < items.length
  · have there := (h.lt_iff index).mpr here
    have sent : appendPerm items.length σ τ keeps index = σ index := if_pos here
    rw [sent, List.getElem?_append_left there, List.getElem?_append_left here, h]
  · have behind := Nat.le_of_not_lt here
    have sent : appendPerm items.length σ τ keeps index =
      items.length + τ (index - items.length) := if_neg here
    rw [sent, List.getElem?_append_right (by rw [h.length_eq]; exact Nat.le_add_right ..),
      h.length_eq, Nat.add_sub_cancel_left, g, List.getElem?_append_right behind]

theorem exists_image {γ : Type} {f : α → γ} {g : β → γ} {images : List β}
    (h : Reindexed σ (items.map f) (images.map g)) {index : Nat} {item : α}
    (found : items[index]? = some item) :
    ∃ image, images[σ index]? = some image ∧ g image = f item := by
  have sent := h index
  rw [List.getElem?_map, List.getElem?_map, found] at sent
  exact Option.map_eq_some_iff.mp sent

/-- Lists with the same items in another order are reindexed by some permutation. -/
theorem exists_of_perm (perm : items.Perm others) : ∃ σ, Reindexed σ items others := by
  induction perm with
  | nil => exact ⟨.refl _, fun _ => rfl⟩
  | cons item _ ih =>
      obtain ⟨σ, h⟩ := ih
      have head : Reindexed (.refl _) [item] [item] := fun _ => rfl
      exact ⟨_, head.append h rfl fun _ => Iff.rfl⟩
  | swap first second rest =>
      refine ⟨.swap 0 1, ?_⟩
      rintro (_ | _ | index)
      · rfl
      · rfl
      · rw [Equiv.swap_apply_of_ne_of_ne (by omega) (by omega)]
        rfl
  | trans _ _ ih later =>
      obtain ⟨σ, h⟩ := ih
      obtain ⟨τ, g⟩ := later
      refine ⟨σ.trans τ, ?_⟩
      intro index
      rw [Equiv.trans_apply, g, h]

end Reindexed

/-- What stands in a list with two entries for each item. -/
theorem getElem?_flatMap_pair {α β : Type} (first second : α → β) (items : List α) (index : Nat) :
    (items.flatMap fun item => [first item, second item])[index]? =
      items[index / 2]?.map (if index % 2 = 0 then first else second) := by
  induction items generalizing index with
  | nil => rfl
  | cons item items ih =>
      rcases index with _ | _ | index
      · rfl
      · rfl
      · have half : (index + 2) / 2 = index / 2 + 1 := by omega
        have parity : (index + 2) % 2 = index % 2 := by omega
        rw [half, parity, List.getElem?_cons_succ, ← ih]
        rfl

theorem Reindexed.pairs {α β : Type} {σ : Equiv.Perm Nat} {items others : List α}
    (h : Reindexed σ items others) (first second : α → β) :
    Reindexed (pairPerm σ) (items.flatMap fun item => [first item, second item])
      (others.flatMap fun item => [first item, second item]) := by
  intro index
  have half : pairPerm σ index / 2 = σ (index / 2) := by
    show (2 * σ (index / 2) + index % 2) / 2 = _
    omega
  have parity : pairPerm σ index % 2 = index % 2 := by
    show (2 * σ (index / 2) + index % 2) % 2 = _
    omega
  rw [getElem?_flatMap_pair, getElem?_flatMap_pair, half, parity, h]

theorem length_flatMap_pair {α β : Type} (first second : α → β) (items : List α) :
    (items.flatMap fun item => [first item, second item]).length = 2 * items.length := by
  rw [List.length_flatMap]
  simp [Nat.mul_comm]

theorem pairPerm_apply (σ : Equiv.Perm Nat) (index : Nat) {part : Nat} (isPart : part < 2) :
    pairPerm σ (2 * index + part) = 2 * σ index + part := by
  show 2 * σ ((2 * index + part) / 2) + (2 * index + part) % 2 = _
  rw [show (2 * index + part) / 2 = index by omega, show (2 * index + part) % 2 = part by omega]

theorem pairPerm_lt {σ : Equiv.Perm Nat} {n : Nat} (keeps : ∀ index, σ index < n ↔ index < n)
    (index : Nat) : pairPerm σ index < 2 * n ↔ index < 2 * n := by
  have half := keeps (index / 2)
  show 2 * σ (index / 2) + index % 2 < 2 * n ↔ _
  omega

/-- A document with the members of another one, of each kind in another order. -/
structure Document.Reordering (document other : Document) where
  /-- Where the members of each kind are found in the other document. -/
  typedefs : Equiv.Perm Nat
  methods : Equiv.Perm Nat
  errors : Equiv.Perm Nat
  name : other.name = document.name
  sameTypedefs : Reindexed typedefs document.typedefs other.typedefs
  sameMethods : Reindexed methods document.methods other.methods
  sameErrors : Reindexed errors document.errors other.errors

namespace Document

/-- Members that are permuted are a reordering. -/
theorem exists_reordering {document other : Document} (name : other.name = document.name)
    (typedefs : document.typedefs.Perm other.typedefs)
    (methods : document.methods.Perm other.methods) (errors : document.errors.Perm other.errors) :
    Nonempty (document.Reordering other) := by
  obtain ⟨σ, sameTypedefs⟩ := Reindexed.exists_of_perm typedefs
  obtain ⟨τ, sameMethods⟩ := Reindexed.exists_of_perm methods
  obtain ⟨υ, sameErrors⟩ := Reindexed.exists_of_perm errors
  exact ⟨⟨σ, τ, υ, name, sameTypedefs, sameMethods, sameErrors⟩⟩

namespace Reordering

variable {document other : Document} (r : document.Reordering other)

/-- The reordering back. -/
def symm : other.Reordering document where
  typedefs := r.typedefs.symm
  methods := r.methods.symm
  errors := r.errors.symm
  name := r.name.symm
  sameTypedefs := r.sameTypedefs.symm
  sameMethods := r.sameMethods.symm
  sameErrors := r.sameErrors.symm

/-- Where the type of a signature is found: the two of a method stay together. -/
def signature : Equiv.Perm Nat :=
  appendPerm (2 * document.methods.length) (pairPerm r.methods) r.errors
    (pairPerm_lt r.sameMethods.keeps)

/-- Where what stands on its own is found. -/
def root : Equiv.Perm Nat :=
  appendPerm document.typedefs.length r.typedefs r.signature r.sameTypedefs.keeps

theorem root_typedef {index : Nat} (bound : index < document.typedefs.length) :
    r.root index = r.typedefs index :=
  if_pos bound

theorem root_signature (index : Nat) :
    r.root (document.typedefs.length + index) = document.typedefs.length + r.signature index := by
  have behind : ¬ document.typedefs.length + index < document.typedefs.length := by omega
  refine (if_neg behind).trans ?_
  rw [Nat.add_sub_cancel_left]

theorem signature_method {index part : Nat} (bound : index < document.methods.length)
    (isPart : part < 2) : r.signature (2 * index + part) = 2 * r.methods index + part := by
  have inside : 2 * index + part < 2 * document.methods.length := by omega
  exact (if_pos inside).trans (pairPerm_apply r.methods index isPart)

theorem signature_error (index : Nat) : r.signature (2 * document.methods.length + index) =
    2 * document.methods.length + r.errors index := by
  have behind : ¬ 2 * document.methods.length + index < 2 * document.methods.length := by omega
  refine (if_neg behind).trans ?_
  rw [Nat.add_sub_cancel_left]

theorem reindexed_signatures : Reindexed r.signature document.signatureTypes other.signatureTypes :=
  (r.sameMethods.pairs _ _).append (r.sameErrors.map _) (length_flatMap_pair ..)
    (pairPerm_lt r.sameMethods.keeps)

theorem reindexed_roots : Reindexed r.root document.roots other.roots :=
  (r.sameTypedefs.map _).append r.reindexed_signatures (List.length_map _) r.sameTypedefs.keeps

theorem reindexed_rootNames : Reindexed r.root document.rootNames other.rootNames := by
  refine (r.sameTypedefs.map _).append ?_ (List.length_map _) r.sameTypedefs.keeps
  exact (r.sameMethods.pairs _ _).append (r.sameErrors.map _) (length_flatMap_pair ..)
    (pairPerm_lt r.sameMethods.keeps)

/-- Where the type at a place is found. -/
def place (place : Place) : Place := ⟨r.root place.root, place.path⟩

theorem place_injective : Function.Injective r.place := by
  intro first second same
  obtain ⟨sameRoot, samePath⟩ := Place.mk.inj same
  exact congrArg₂ Place.mk (r.root.injective sameRoot) samePath

theorem exists_place (target : Place) : ∃ source, r.place source = target :=
  ⟨⟨r.root.symm target.root, target.path⟩, by rw [place, Equiv.apply_symm_apply]⟩

include r in
theorem length_typedefs : other.typedefs.length = document.typedefs.length :=
  r.sameTypedefs.length_eq

include r in
theorem length_methods : other.methods.length = document.methods.length :=
  r.sameMethods.length_eq

theorem root_lt_iff (root : Nat) :
    r.root root < document.typedefs.length ↔ root < document.typedefs.length := by
  by_cases bound : root < document.typedefs.length
  · rw [r.root_typedef bound, r.sameTypedefs.keeps]
  · obtain ⟨index, rfl⟩ := Nat.exists_eq_add_of_le (Nat.le_of_not_lt bound)
    rw [root_signature]
    omega

@[simp] theorem nodeAt?_place (source : Place) :
    other.nodeAt? (r.place source) = document.nodeAt? source := by
  rw [nodeAt?, place, r.reindexed_roots, nodeAt?]

@[simp] theorem pathName_place (source : Place) :
    other.pathName (r.place source) = document.pathName source := by
  rw [pathName, memberNames, place, r.reindexed_rootNames, r.reindexed_roots, pathName, memberNames]

theorem isEmptySignature_place (source : Place) :
    other.IsEmptySignature (r.place source) ↔ document.IsEmptySignature source := by
  rw [IsEmptySignature, IsEmptySignature, nodeAt?_place, r.length_typedefs, ← Nat.not_lt,
    ← Nat.not_lt]
  exact and_congr_left' (not_congr (r.root_lt_iff source.root))

@[simp] theorem hasGroup_place (source : Place) :
    other.hasGroup (r.place source) = document.hasGroup source := by
  rw [hasGroup, hasGroup, nodeAt?_place, decide_eq_decide.mpr (r.isEmptySignature_place source)]

@[simp] theorem originAt_place (source : Place) :
    other.originAt (r.place source) = document.originAt source := by
  rw [originAt, originAt, r.length_typedefs]
  simp only [place, r.root_lt_iff]

end Reordering

end Document

end Varlink
