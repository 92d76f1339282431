import Varlink.Proofs.World.Folder
import Varlink.World

/-!
# What the operations on files change

Making a directory and writing a file change the view of the tree at one place. What was there stays,
so a path that led somewhere leads there still. Making all directories of a path adds empty
directories and makes sure that the path leads to one of them or to one that was there. Doing it
again changes nothing, whatever was written in between.
-/

namespace Varlink

namespace Node

variable {root root' : Node}

/-- One tree is the other one with empty directories added. -/
def Grows (root root' : Node) : Prop :=
  ∀ names, root'.view names = root.view names ∨
    root.view names = none ∧ root'.view names = some (directory [])

theorem Grows.refl (root : Node) : Grows root root := fun _ => .inl rfl

theorem Grows.trans {root'' : Node} (first : Grows root root') (second : Grows root' root'') :
    Grows root root'' := by
  intro names
  obtain same | ⟨absent, made⟩ := second names
  · rw [same]
    exact first names
  · obtain same | ⟨absent', made'⟩ := first names
    · exact .inr ⟨same ▸ absent, made⟩
    · exact .inr ⟨absent', made⟩

theorem Grows.keeps (grows : Grows root root') : Keeps root root' := by
  constructor
  · intro names shown
    obtain same | ⟨absent, -⟩ := grows names
    · rwa [same]
    · rw [absent] at shown
      cases shown
  · intro names isDirectory
    obtain same | ⟨absent, -⟩ := grows names
    · rwa [same]
    · rw [absent] at isDirectory
      cases isDirectory

end Node

namespace World

open Node Varlink.Path

variable {world after : World} {path content : String} {place : List String}

theorem isDirectory_iff : world.isDirectory path = true ↔
    ∃ place, Leads world.root world.here path place := by
  have found : world.isDirectory path = true ↔
      ∃ entries, world.find path = .ok (.directory entries) := by
    unfold isDirectory
    cases world.find path with
    | error error => simp
    | ok node => cases node <;> simp [Node.isDirectory]
  rw [found]
  constructor
  · rintro ⟨entries, h⟩
    obtain ⟨first, place, begins, reached, there⟩ := find_eq_ok.mp h
    have isDirectory := view_eq_directory.mpr ⟨entries, there⟩
    refine ⟨place, first, begins, ?_⟩
    unfold namesOfTarget at reached
    split_ifs at reached
    · exact reached
    · exact walk_dot.mpr ⟨reached, isDirectory⟩
  · rintro ⟨place, first, begins, reached⟩
    obtain ⟨short, isDirectory⟩ := walk_dot.mp reached
    obtain ⟨entries, there⟩ := view_eq_directory.mp isDirectory
    refine ⟨entries, find_eq_ok.mpr ⟨first, place, begins, ?_, there⟩⟩
    unfold namesOfTarget
    split_ifs
    · exact reached
    · exact short

theorem makeDirectory_of_findParent {parent : List String} {name : String}
    (found : findParent world.root world.here path = .ok (parent, some name)) :
    world.makeDirectory path =
      if (world.root.view (parent ++ [name])).isSome then .error .alreadyExists
      else .ok { world with root := put (.directory []) (parent ++ [name]) world.root } := by
  unfold makeDirectory
  rw [found, view, Option.isSome_map]
  dsimp only [bind, Except.bind]
  cases world.root.follow? (parent ++ [name]) <;> rfl

/-- A directory is not made again. -/
theorem makeDirectory_of_leads (leads : Leads world.root world.here path place) :
    world.makeDirectory path = .error .alreadyExists := by
  obtain ⟨parent, name?, found, isPlace⟩ := findParent_of_leads leads
  cases name? with
  | none =>
      unfold makeDirectory
      rw [found]
      rfl
  | some name =>
      obtain rfl := isPlace name rfl
      rw [makeDirectory_of_findParent found, leads.view]
      rfl

/-- A new directory stands where there was nothing. -/
theorem makeDirectory_eq_ok (h : world.makeDirectory path = .ok after) :
    ∃ parent name, findParent world.root world.here path = .ok (parent, some name) ∧
      world.root.view (parent ++ [name]) = none ∧
      after = { world with root := put (.directory []) (parent ++ [name]) world.root } := by
  unfold makeDirectory at h
  obtain ⟨⟨parent, name?⟩, found, h⟩ := bind_eq_ok.mp h
  cases name? with
  | none => cases h
  | some name =>
      dsimp only at h
      cases there : world.root.follow? (parent ++ [name]) with
      | some old =>
          rw [there] at h
          cases h
      | none =>
          rw [there] at h
          refine ⟨parent, name, found, ?_, (Except.ok.inj h).symm⟩
          rw [view, there]
          rfl

/-- A written file stands where there was nothing or a file. -/
theorem writeFile_eq_ok : world.writeFile path content = .ok after ↔
    ∃ parent name, findParent world.root world.here path = .ok (parent, some name) ∧
      (∀ old ∈ world.root.view (parent ++ [name]), ∃ bytes, old = .file bytes) ∧
      after = { world with
        root := put (.file (utf8Bytes content)) (parent ++ [name]) world.root } := by
  unfold writeFile
  rw [bind_eq_ok]
  constructor
  · rintro ⟨⟨parent, name?⟩, found, h⟩
    cases name? with
    | none => cases h
    | some name =>
        refine ⟨parent, name, found, ?_⟩
        dsimp only at h
        rw [view]
        cases there : world.root.follow? (parent ++ [name]) with
        | none =>
            rw [there] at h
            exact ⟨by simp, (Except.ok.inj h).symm⟩
        | some old =>
            rw [there] at h
            cases old with
            | file bytes => exact ⟨by simp [shell], (Except.ok.inj h).symm⟩
            | directory entries => cases h
            | socket replies => cases h
  · rintro ⟨parent, name, found, free, rfl⟩
    refine ⟨_, found, ?_⟩
    dsimp only
    rw [view] at free
    cases there : world.root.follow? (parent ++ [name]) with
    | none => rfl
    | some old =>
        rw [there] at free
        obtain ⟨bytes, isFile⟩ := free _ rfl
        cases old with
        | file bytes => rfl
        | directory entries => cases isFile
        | socket replies => cases isFile

section Put

variable {root new : Node} {here parent : List String} {name : String}

/-- What is put under the last name of a path is all that changes. -/
theorem view_put_of_findParent (found : findParent root here path = .ok (parent, some name))
    (free : ∀ old ∈ root.view (parent ++ [name]), ∃ bytes, old = .file bytes)
    (leaf : new.entries = []) (names : List String) :
    (put new (parent ++ [name]) root).view names =
      if names = parent ++ [name] then some new.shell else root.view names := by
  obtain ⟨first, before, begins, isLast, reached, -⟩ := findParent_eq_ok.mp found
  refine view_put (walk_dot.mp reached).2 ?_ leaf names
  intro old there
  obtain ⟨bytes, isFile⟩ := free old.shell (by rw [view, there]; rfl)
  cases old with
  | file bytes => rfl
  | directory entries => cases isFile
  | socket replies => rfl

theorem keeps_put_of_findParent (found : findParent root here path = .ok (parent, some name))
    (free : ∀ old ∈ root.view (parent ++ [name]), ∃ bytes, old = .file bytes)
    (leaf : new.entries = []) : Keeps root (put new (parent ++ [name]) root) := by
  have changed := view_put_of_findParent found free leaf
  constructor
  · intro names shown
    rw [changed]
    split_ifs
    · rfl
    · exact shown
  · intro names isDirectory
    rw [changed, if_neg, isDirectory]
    rintro rfl
    obtain ⟨bytes, isFile⟩ := free _ isDirectory
    cases isFile

end Put

/-- A new directory leaves what was there, and its path leads to it. -/
theorem makeDirectory_grows (h : world.makeDirectory path = .ok after) :
    ∃ root, after = { world with root } ∧ Grows world.root root ∧
      ∃ place, Leads root world.here path place := by
  obtain ⟨parent, name, found, absent, rfl⟩ := makeDirectory_eq_ok h
  have free : ∀ old ∈ world.root.view (parent ++ [name]), ∃ bytes, old = .file bytes := by
    rw [absent]
    simp
  have leaf : (Node.directory []).entries = [] := rfl
  have changed := view_put_of_findParent found free leaf
  have keeps := keeps_put_of_findParent found free leaf
  refine ⟨_, rfl, ?_, parent ++ [name], ?_⟩
  · intro names
    rw [changed]
    split_ifs with isTarget
    · exact .inr ⟨isTarget ▸ absent, rfl⟩
    · exact .inl rfl
  · obtain ⟨first, before, begins, isLast, reached, notDot, notDots, short⟩ :=
      findParent_eq_ok.mp found
    obtain ⟨reached, isDirectory⟩ := walk_dot.mp (walk_of_keeps keeps reached)
    have made := changed (parent ++ [name])
    rw [if_pos rfl] at made
    refine ⟨first, begins, ?_⟩
    rw [isLast]
    refine walk_dot.mpr ⟨?_, made⟩
    rw [walk_append, reached]
    refine walk_cons_eq_ok.mpr ⟨isDirectory, ?_⟩
    rw [if_neg notDot, if_neg notDots, made]
    exact ⟨short, rfl, rfl⟩

/-- A directory is made, or it is there already. -/
def Ensures (world : World) (path : String) (after : World) : Prop :=
  world.makeDirectory path = .ok after ∨
    world.makeDirectory path = .error .alreadyExists ∧ world.isDirectory path = true ∧ after = world

theorem allowExisting_eq_ok {error : SystemError} : world.allowExisting path error = .ok after ↔
    error = .alreadyExists ∧ world.isDirectory path = true ∧ after = world := by
  unfold allowExisting
  by_cases there : error = .alreadyExists ∧ world.isDirectory path = true
  · simp [there, eq_comm]
  · simp only [Bool.and_eq_true, decide_eq_true_eq, if_neg there]
    simp [← and_assoc, there]

section Settle

variable {base : World} {error : SystemError}

/-- What is done about a directory that cannot be made is all right if it is there. -/
theorem settle_eq_ok (failed : base.makeDirectory path = .error error) :
    (match base.allowExisting path error with
      | .ok world => (world, .ok ())
      | .error error => (base, .error error) : World × Except SystemError Unit) = (after, .ok ()) ↔
        base.Ensures path after := by
  have allowed : base.allowExisting path error = .ok after ↔ base.Ensures path after := by
    simp [Ensures, failed, allowExisting_eq_ok]
  rw [← allowed]
  cases base.allowExisting path error <;> simp

theorem settle_fst : (match base.allowExisting path error with
    | .ok world => (world, .ok ())
    | .error error => (base, .error error) : World × Except SystemError Unit).1 = base := by
  cases allowed : base.allowExisting path error with
  | error cause => rfl
  | ok after => exact (allowExisting_eq_ok.mp allowed).2.2

end Settle

/-- Directories are made if the first one is there in the end, be it after the others were made. -/
theorem makeAll_cons_eq_ok {parents : List String} :
    world.makeAll (path :: parents) = (after, .ok ()) ↔
      world.Ensures path after ∨ world.makeDirectory path = .error .notFound ∧
        ∃ below, world.makeAll parents = (below, .ok ()) ∧ below.Ensures path after := by
  rw [makeAll]
  split
  · rename_i made isMade
    simp [Ensures, isMade]
  · rename_i isMissing
    have notThere : ¬ world.Ensures path after := by
      simp [Ensures, isMissing]
    rw [or_iff_right notThere, and_iff_right isMissing]
    cases parentsMade : world.makeAll parents with
    | mk below outcome =>
        cases outcome with
        | error error => simp
        | ok done =>
            have same : (∃ other, (below, (.ok done : Except SystemError Unit)) = (other, .ok ()) ∧
                other.Ensures path after) ↔ below.Ensures path after := by
              simp
            rw [same]
            dsimp only
            split
            · rename_i made isMade
              simp [Ensures, isMade]
            · rename_i error failed
              exact settle_eq_ok failed
  · rename_i error notMissing failed
    have notRetried : ¬ (world.makeDirectory path = .error .notFound ∧
        ∃ below, world.makeAll parents = (below, .ok ()) ∧ below.Ensures path after) := by
      rintro ⟨isMissing, -⟩
      exact notMissing (Except.error.inj (failed.symm.trans isMissing))
    rw [or_iff_left notRetried]
    exact settle_eq_ok failed

theorem Ensures.grows (ensures : world.Ensures path after) :
    ∃ root, after = { world with root } ∧ Grows world.root root ∧
      ∃ place, Leads root world.here path place := by
  obtain made | ⟨-, there, rfl⟩ := ensures
  · exact makeDirectory_grows made
  · exact ⟨after.root, rfl, .refl _, isDirectory_iff.mp there⟩

/-- Making directories adds empty ones, and the path leads to a directory then. -/
theorem makeAll_grows {paths : List String} (h : world.makeAll paths = (after, .ok ())) :
    ∃ root, after = { world with root } ∧ Grows world.root root ∧
      ∀ path ∈ paths.head?, ∃ place, Leads root world.here path place := by
  induction paths generalizing after with
  | nil =>
      obtain ⟨rfl, -⟩ := Prod.mk.inj h
      exact ⟨world.root, rfl, .refl _, by simp⟩
  | cons path parents ih =>
      simp only [List.head?_cons, Option.mem_some_iff, forall_eq']
      obtain ensures | ⟨-, below, parentsMade, ensures⟩ := makeAll_cons_eq_ok.mp h
      · exact ensures.grows
      · obtain ⟨root, rfl, grows, -⟩ := ih parentsMade
        obtain ⟨root', rfl, grows', leads⟩ := ensures.grows
        exact ⟨root', rfl, grows.trans grows', leads⟩

/-- Even if directories cannot all be made, nothing is done but to add empty ones. -/
theorem makeAll_leaves (world : World) (paths : List String) :
    ∃ root, (world.makeAll paths).1 = { world with root } ∧ Grows world.root root := by
  induction paths with
  | nil => exact ⟨world.root, rfl, .refl _⟩
  | cons path parents ih =>
      rw [makeAll]
      split
      · rename_i made isMade
        obtain ⟨root, rfl, grows, -⟩ := makeDirectory_grows isMade
        exact ⟨root, rfl, grows⟩
      · obtain ⟨root, below, grows⟩ := ih
        generalize world.makeAll parents = result at below
        obtain ⟨_, outcome⟩ := result
        obtain rfl := below
        cases outcome with
        | error error => exact ⟨root, rfl, grows⟩
        | ok done =>
            dsimp only
            split
            · rename_i made isMade
              obtain ⟨root', rfl, grows', -⟩ := makeDirectory_grows isMade
              exact ⟨root', rfl, grows.trans grows'⟩
            · exact ⟨root, settle_fst, grows⟩
      · exact ⟨world.root, settle_fst, .refl _⟩

/-- Making a directory that is there does nothing. -/
theorem makeAll_of_leads (leads : Leads world.root world.here path place)
    (parents : List String) : world.makeAll (path :: parents) = (world, .ok ()) := by
  refine makeAll_cons_eq_ok.mpr (.inl (.inr ⟨makeDirectory_of_leads leads, ?_, rfl⟩))
  exact isDirectory_iff.mpr ⟨place, leads⟩

section Elsewhere

variable {other : World} {root : Node} (sameRoot : other.root = world.root)
  (sameHere : other.here = world.here)
include sameRoot sameHere

/-- What was printed or told about has no influence on the files. -/
theorem makeDirectory_elsewhere : other.makeDirectory path =
    (world.makeDirectory path).map fun made => { other with root := made.root } := by
  have sameParent : findParent other.root other.here path =
      findParent world.root world.here path := by
    rw [sameRoot, sameHere]
  cases found : findParent world.root world.here path with
  | error error =>
      unfold makeDirectory
      rw [sameParent, found]
      rfl
  | ok target =>
      obtain ⟨parent, name?⟩ := target
      cases name? with
      | none =>
          unfold makeDirectory
          rw [sameParent, found]
          rfl
      | some name =>
          rw [makeDirectory_of_findParent found,
            makeDirectory_of_findParent (sameParent.trans found), sameRoot]
          split_ifs <;> rfl

theorem Ensures.elsewhere (ensures : world.Ensures path { world with root }) :
    other.Ensures path { other with root } := by
  unfold Ensures
  rw [makeDirectory_elsewhere sameRoot sameHere]
  obtain made | ⟨failed, there, same⟩ := ensures
  · rw [made]
    exact .inl rfl
  · have same : root = world.root := congrArg World.root same
    rw [failed, same, ← sameRoot]
    refine .inr ⟨rfl, ?_, rfl⟩
    rwa [isDirectory_iff, sameRoot, sameHere, ← isDirectory_iff]

end Elsewhere

theorem makeAll_elsewhere {other : World} {paths : List String} {root : Node}
    (h : world.makeAll paths = ({ world with root }, .ok ()))
    (sameRoot : other.root = world.root) (sameHere : other.here = world.here) :
    other.makeAll paths = ({ other with root }, .ok ()) := by
  induction paths generalizing root with
  | nil =>
      have same : world.root = root := congrArg World.root (Prod.mk.inj h).1
      rw [← same, ← sameRoot]
      rfl
  | cons path parents ih =>
      rw [makeAll_cons_eq_ok] at h ⊢
      obtain ensures | ⟨isMissing, below, parentsMade, ensures⟩ := h
      · exact .inl (ensures.elsewhere sameRoot sameHere)
      · obtain ⟨root', rfl, -, -⟩ := makeAll_grows parentsMade
        have sameBelow : { other with root := root' }.root = { world with root := root' }.root := rfl
        refine .inr ⟨?_, { other with root := root' }, ih parentsMade,
          ensures.elsewhere sameBelow sameHere⟩
        rw [makeDirectory_elsewhere sameRoot sameHere, isMissing]
        rfl

theorem ancestors_eq (path : String) :
    ancestors path = [] ∨ ∃ parents, ancestors path = path :: parents := by
  unfold ancestors
  dsimp only
  split_ifs
  · exact .inl rfl
  · exact .inr ⟨_, rfl⟩
  · exact .inl rfl
  · exact .inr ⟨_, rfl⟩

theorem makeAll_ancestors_of_leads (leads : Leads world.root world.here path place) :
    world.makeAll (ancestors path) = (world, .ok ()) := by
  obtain isEmpty | ⟨parents, isPath⟩ := ancestors_eq path
  · rw [isEmpty]
    rfl
  · rw [isPath]
    exact makeAll_of_leads leads parents

theorem makeAll_ancestors_of_seenFrom (seen : SeenFrom world.root world.here path place) :
    world.makeAll (ancestors path) = (world, .ok ()) := by
  by_cases isPath : path = ""
  · rw [isPath]
    rfl
  · rw [SeenFrom, if_neg isPath] at seen
    exact makeAll_ancestors_of_leads seen

/-- Directories that were made are not made again, whatever came to them since. -/
theorem makeAll_again {other : World} {root : Node}
    (made : world.makeAll (ancestors path) = ({ world with root }, .ok ()))
    (sameHere : other.here = world.here) (keeps : Keeps root other.root) :
    other.makeAll (ancestors path) = (other, .ok ()) := by
  obtain isEmpty | ⟨parents, isPath⟩ := ancestors_eq path
  · rw [isEmpty]
    rfl
  · obtain ⟨root', same, -, leads⟩ := makeAll_grows made
    obtain rfl : root = root' := congrArg World.root same
    obtain ⟨place, leads⟩ := leads path (by rw [isPath]; rfl)
    have leads' : Leads other.root other.here path place := by
      rw [sameHere]
      exact leads.of_keeps keeps
    exact makeAll_ancestors_of_leads leads'

/-- A file of that name can be written in a directory: the name fits, and there is nothing else. -/
structure Writable (root : Node) (here : List String) (directory : String) (place : List String)
    (name : String) : Prop where
  found : findParent root here (Run.joinPath directory name) = .ok (place, some name)
  free : ∀ old ∈ root.view (place ++ [name]), ∃ bytes, old = .file bytes

section Writable

variable {root root' : Node} {here : List String} {directory name : String}

theorem writable_of_writeFile (nonempty : name ≠ "") (noSlash : '/' ∉ name.toList)
    (seen : SeenFrom world.root world.here directory place)
    (h : world.writeFile (Run.joinPath directory name) content = .ok after) :
    Writable world.root world.here directory place name := by
  obtain ⟨parent, other, found, free, -⟩ := writeFile_eq_ok.mp h
  obtain ⟨rfl, seen'⟩ := seenFrom_of_findParent_joinPath nonempty noSlash found
  obtain rfl := seen.unique seen'
  exact ⟨found, free⟩

theorem writeFile_of_writable (writable : Writable world.root world.here directory place name)
    (content : String) : world.writeFile (Run.joinPath directory name) content =
      .ok { world with root := put (.file (utf8Bytes content)) (place ++ [name]) world.root } :=
  writeFile_eq_ok.mpr ⟨place, name, writable.found, writable.free, rfl⟩

/-- What is shown under the name in the directory is found at its path. -/
theorem find_of_writable (writable : Writable world.root world.here directory place name)
    (nonempty : name ≠ "") (noSlash : '/' ∉ name.toList) {bytes : List UInt8}
    (shown : world.root.view (place ++ [name]) = some (.file bytes)) :
    world.find (Run.joinPath directory name) = .ok (.file bytes) := by
  obtain ⟨first, before, begins, isLast, reached, notDot, notDots, short⟩ :=
    findParent_eq_ok.mp writable.found
  obtain ⟨reached, isDirectory⟩ := walk_dot.mp reached
  have isTarget : namesOfTarget (Run.joinPath directory name) = before ++ [name] := by
    rw [namesOfTarget, if_neg (not_endsWith_joinPath nonempty noSlash), isLast]
  refine find_eq_ok.mpr ⟨first, place ++ [name], begins, ?_, ?_⟩
  · rw [isTarget, walk_append, reached]
    refine walk_cons_eq_ok.mpr ⟨isDirectory, ?_⟩
    rw [if_neg notDot, if_neg notDots, shown]
    exact ⟨short, rfl, rfl⟩
  · obtain ⟨node, there, isFile⟩ := Option.map_eq_some_iff.mp shown
    cases node with
    | file content =>
        obtain rfl : content = bytes := Node.file.inj isFile
        exact there
    | directory entries => cases isFile
    | socket replies => cases isFile

/-- A file can be written still if the directory is there and no other file took its name. -/
theorem Writable.of_keeps (writable : Writable root here directory place name)
    (keeps : Keeps root root')
    (same : root'.view (place ++ [name]) = root.view (place ++ [name])) :
    Writable root' here directory place name := by
  refine ⟨findParent_of_keeps keeps writable.found, ?_⟩
  rw [same]
  exact writable.free

end Writable

/-- A socket in the tree can be connected to if its path is one that sockets can have. -/
theorem connect_unix {replies : List UInt8} (noNul : '\x00' ∉ path.toList)
    (short : path.utf8ByteSize ≤ maxSocketPath) (found : world.find path = .ok (.socket replies)) :
    (Host.connect (.unix path) : StateM World _).run world =
      (.ok (.delivering [replies]), world) := by
  show (world.connect (.unix path), world) = _
  rw [connect, if_neg (by simpa using noNul), if_neg (Nat.not_lt_of_le short), found]
  rfl

end World

end Varlink
