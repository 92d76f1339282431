import Mathlib.Data.List.Nodup
import Mathlib.Logic.Relation
import Varlink.Graph

/-!
# What a walk through a graph visits

The walk never enters a node twice, so what it has left is a smaller graph. It still visits all that
can be reached: a path to a node can be cut at the last time it passes through the node that has
just been entered, and what is left of it avoids that node.
-/

namespace Varlink

namespace Graph

variable {α : Type} {next : α → List α} {nodes : List α} {start target : α}

/-- A step to a node next to another one, within the given nodes. -/
def Step (next : α → List α) (nodes : List α) (node other : α) : Prop :=
  other ∈ next node ∧ other ∈ nodes

/-- A way from one node to another that stays within the given nodes. -/
def Path (next : α → List α) (nodes : List α) (start target : α) : Prop :=
  start ∈ nodes ∧ Relation.ReflTransGen (Step next nodes) start target

theorem Path.mono {more : List α} (path : Path next nodes start target) (subset : nodes ⊆ more) :
    Path next more start target :=
  ⟨subset path.1, Relation.ReflTransGen.mono (fun _ _ step => ⟨step.1, subset step.2⟩) _ _ path.2⟩

theorem Path.head {node : α} (inside : node ∈ nodes) (isNext : start ∈ next node)
    (path : Path next nodes start target) : Path next nodes node target :=
  ⟨inside, .head ⟨isNext, path.1⟩ path.2⟩

variable [DecidableEq α]

/-- A path either avoids a node, ends there, or goes on from there without coming back. -/
theorem Path.cut (nodup : nodes.Nodup) (path : Path next nodes start target) (node : α) :
    target = node ∨ Path next (nodes.erase node) start target ∨
      ∃ other ∈ next node, Path next (nodes.erase node) other target := by
  obtain ⟨inside, steps⟩ := path
  induction steps using Relation.ReflTransGen.head_induction_on with
  | refl =>
      by_cases same : target = node
      · exact .inl same
      · exact .inr (.inl ⟨nodup.mem_erase_iff.mpr ⟨same, inside⟩, .refl⟩)
  | @head current other step _ ih =>
      rcases ih step.2 with isEnd | avoiding | later
      · exact .inl isEnd
      · by_cases same : current = node
        · subst same
          exact .inr (.inr ⟨other, step.1, avoiding⟩)
        · exact .inr (.inl (avoiding.head (nodup.mem_erase_iff.mpr ⟨same, inside⟩) step.1))
      · exact .inr (.inr later)

/-- The walk visits what can be reached from the pending nodes through unseen ones. -/
theorem mem_visit {pending unseen : List α} (nodup : unseen.Nodup) :
    target ∈ visit next pending unseen ↔ ∃ start ∈ pending, Path next unseen start target := by
  fun_induction visit next pending unseen with
  | case1 => simp
  | case2 node pending unseen isUnseen ih =>
      rw [List.mem_cons, ih (nodup.erase node)]
      constructor
      · rintro (rfl | ⟨start, isStart, path⟩)
        · exact ⟨target, List.mem_cons_self .., isUnseen, .refl⟩
        · have path := path.mono List.erase_subset
          rcases List.mem_append.mp isStart with isNext | isPending
          · exact ⟨node, List.mem_cons_self .., path.head isUnseen isNext⟩
          · exact ⟨start, List.mem_cons_of_mem _ isPending, path⟩
      · rintro ⟨start, isStart, path⟩
        rcases path.cut nodup node with isEnd | avoiding | ⟨other, isNext, later⟩
        · exact .inl isEnd
        · have notEntered := (nodup.mem_erase_iff.mp avoiding.1).1
          have isPending := (List.mem_cons.mp isStart).resolve_left notEntered
          exact .inr ⟨start, List.mem_append_right _ isPending, avoiding⟩
        · exact .inr ⟨other, List.mem_append_left _ isNext, later⟩
  | case3 node pending unseen isSeen ih =>
      rw [ih nodup, List.exists_mem_cons_iff]
      exact (or_iff_right fun path => isSeen path.1).symm

/-- In a graph that no step leaves, reaching is the closure of stepping. -/
theorem reaches_iff {starts : List α} (nodup : nodes.Nodup)
    (closed : ∀ node, ∀ other ∈ next node, other ∈ nodes) :
    reaches nodes next starts target ↔ ∃ start ∈ starts, start ∈ nodes ∧
      Relation.ReflTransGen (fun node other => other ∈ next node) start target := by
  have sameStep : Step next nodes = fun node other => other ∈ next node := by
    funext node other
    exact propext (and_iff_left_of_imp (closed node other))
  rw [reaches, decide_eq_true_iff, mem_visit nodup]
  simp only [Path, sameStep]

end Graph

end Varlink
