import Mathlib.Data.List.Basic
import SchemaBindings.Files

namespace SchemaBindings.Files

theorem fromUTF8?_toUTF8 (text : String) : String.fromUTF8? text.toUTF8 = some text :=
  dif_pos text.isValidUTF8

namespace Tree

section Entries
variable {tree : Tree} {location other : Location} {entry : Entry}

theorem entry?_put_self (outside : location.isPrefixOf tree.workingDirectory = false) :
    Tree.entry? (tree.put location entry) location = some entry := by
  have above : ¬location.isPrefixOf (tree.put location entry).workingDirectory = true := by
    rw [put, outside]
    exact Bool.false_ne_true
  unfold Tree.entry?
  rw [if_neg above, put, List.lookup_cons_self]

theorem entry?_put_of_ne (apart : other ≠ location) :
    Tree.entry? (tree.put location entry) other = tree.entry? other := by
  have elsewhere : ((location, entry) :: tree.entries).lookup other = tree.entries.lookup other := by
    rw [List.lookup_cons, beq_false_of_ne apart]
  unfold Tree.entry?
  rw [put]
  split
  · rfl
  · exact elsewhere

end Entries

-- The same places are directories.
structure SameDirectories (tree after : Tree) : Prop where
  start : after.workingDirectory = tree.workingDirectory
  directory : ∀ location,
    after.entry? location = some .directory ↔ tree.entry? location = some .directory

namespace SameDirectories
variable {tree middle after : Tree}

theorem refl (tree : Tree) : SameDirectories tree tree := ⟨rfl, fun _ => Iff.rfl⟩

theorem trans (first : SameDirectories tree middle) (second : SameDirectories middle after) :
    SameDirectories tree after :=
  ⟨second.start.trans first.start,
    fun location => (second.directory location).trans (first.directory location)⟩

theorem symm (same : SameDirectories tree after) : SameDirectories after tree :=
  ⟨same.start.symm, fun location => (same.directory location).symm⟩

-- Only a directory can be left.
theorem step_ok (same : SameDirectories tree after)
    (went : tree.step location component = .ok next) :
    after.step location component = .ok next := by
  unfold step at went ⊢
  split at went
  · cases went
  · cases went
  · rename_i here
    rwa [(same.directory location).mpr here]

theorem walk_ok (same : SameDirectories tree after)
    (went : tree.walk location path = .ok next) : after.walk location path = .ok next := by
  induction path generalizing location with
  | nil => exact went
  | cons component rest ih =>
    rw [walk] at went ⊢
    cases first : tree.step location component with
    | error _ =>
      rw [first] at went
      cases went
    | ok middle =>
      rw [first] at went
      rw [same.step_ok first]
      exact ih went

theorem locate_ok (same : SameDirectories tree after) (found : tree.locate path = .ok location) :
    after.locate path = .ok location := by
  have start : after.origin path = tree.origin path := by rw [origin, origin, same.start]
  rw [locate] at found ⊢
  split at found
  · cases found
  rename_i noNul
  split at found
  · cases found
  rename_i short
  split at found
  · cases found
  rename_i some
  rw [if_neg noNul, if_neg short, if_neg some, start]
  exact same.walk_ok found

theorem locate_ok_iff (same : SameDirectories tree after) :
    after.locate path = .ok location ↔ tree.locate path = .ok location :=
  ⟨same.symm.locate_ok, same.locate_ok⟩

end SameDirectories

section Writing
variable {tree after : Tree} {path content : String} {location : Location}

-- A path without a nul that is not too long leads where its components do.
theorem locate_eq_walk (plain : '\x00' ∉ path.toList) (short : path.utf8ByteSize ≤ longestPath)
    (named : path.isEmpty = false) :
    tree.locate path = tree.walk (tree.origin path) (components path) := by
  have noNul : path.contains '\x00' = false := by
    rw [String.contains_char_eq]
    simpa using plain
  rw [locate, noNul, named, if_neg Bool.false_ne_true, if_neg (Nat.not_lt.mpr short),
    if_neg Bool.false_ne_true]

-- A file is replaced as a whole, or comes to be.
structure Replaces (tree : Tree) (location : Location) (content : String) (after : Tree) : Prop where
  held : after.entry? location = some (.file content.toUTF8)
  rest : ∀ other, other ≠ location → after.entry? other = tree.entry? other
  directories : SameDirectories tree after

theorem replaces_put (plain : tree.entry? location ≠ some .directory) :
    Replaces tree location content (tree.put location (.file content.toUTF8)) := by
  have outside : location.isPrefixOf tree.workingDirectory = false := by
    cases above : location.isPrefixOf tree.workingDirectory with
    | false => rfl
    | true => exact (plain (if_pos above)).elim
  have held : Tree.entry? (tree.put location (.file content.toUTF8)) location =
      some (.file content.toUTF8) := entry?_put_self outside
  refine ⟨held, fun _ => entry?_put_of_ne, rfl, fun other => ?_⟩
  by_cases same : other = location
  · rw [same, held]
    exact ⟨nofun, fun there => (plain there).elim⟩
  · rw [entry?_put_of_ne same]

theorem writeText_ok (written : tree.writeText path content = .ok after) :
    ∃ location, tree.locate path = .ok location ∧ path.endsWith "/" = false ∧
      Replaces tree location content after := by
  rw [writeText] at written
  cases found : tree.locate path with
  | error _ =>
    rw [found] at written
    cases written
  | ok location =>
    rw [found] at written
    simp only [bind, Except.bind] at written
    split at written
    · cases written
    · rename_i file
      split at written
      · cases written
      · rename_i plain
        cases written
        exact ⟨location, rfl, eq_false_of_ne_true file, replaces_put plain⟩

-- A file that a path leads to is read as the text it holds.
theorem readText_of_entry? (found : tree.locate path = .ok location)
    (file : path.endsWith "/" = false) (held : tree.entry? location = some (.file content.toUTF8)) :
    tree.readText path = .ok content := by
  have bytes : tree.readBytes path = .ok content.toUTF8 := by
    rw [readBytes, found]
    simp only [bind, Except.bind, held, file]
    rfl
  rw [readText, bytes]
  simp only [bind, Except.bind, fromUTF8?_toUTF8]
  rfl

-- The path leads to a place where there is a file or may come to be one.
def Writable (tree : Tree) (path : String) : Prop :=
  ∃ location, tree.locate path = .ok location ∧ path.endsWith "/" = false ∧
    tree.entry? location ≠ some .directory

theorem writeText_of_writable (writable : tree.Writable path) (content : String) :
    ∃ after, tree.writeText path content = .ok after := by
  obtain ⟨location, found, file, plain⟩ := writable
  rw [writeText, found]
  simp only [bind, Except.bind, file]
  split
  · rename_i same
    cases same
  · exact ⟨_, rfl⟩

-- What can be read is a file, and may be written.
theorem writable_of_readText (read : tree.readText path = .ok text) : tree.Writable path := by
  cases bytes : tree.readBytes path with
  | error cause => simp [readText, bytes, bind, Except.bind] at read
  | ok held =>
    rw [readBytes] at bytes
    cases found : tree.locate path with
    | error cause => simp [found, bind, Except.bind] at bytes
    | ok location =>
      rw [found] at bytes
      simp only [bind, Except.bind] at bytes
      split at bytes
      · cases bytes
      · cases bytes
      · rename_i here
        split at bytes
        · cases bytes
        · rename_i file
          exact ⟨location, found, eq_false_of_ne_true file, by simp [here]⟩

theorem Writable.of_sameDirectories (writable : tree.Writable path)
    (same : SameDirectories tree after) : after.Writable path := by
  obtain ⟨location, found, file, plain⟩ := writable
  exact ⟨location, same.locate_ok found, file, fun here => plain ((same.directory location).mp here)⟩

end Writing

-- Every place holds the same.
structure Alike (tree after : Tree) : Prop where
  start : after.workingDirectory = tree.workingDirectory
  entries : ∀ location, after.entry? location = tree.entry? location

namespace Alike
variable {tree after : Tree}

theorem locate_eq (alike : Alike tree after) (path : String) :
    after.locate path = tree.locate path := by
  have walk (components : List Component) (location : Location) :
      after.walk location components = tree.walk location components := by
    induction components generalizing location with
    | nil => rfl
    | cons component rest ih => simp only [Tree.walk, Tree.step.eq_def, alike.entries, ih]
  simp only [locate, origin, walk, alike.start]

-- What cannot be written to the one cannot be written to the other, and for the same cause.
theorem writeText_error (alike : Alike tree after)
    (refused : tree.writeText path content = .error cause) :
    after.writeText path content = .error cause := by
  rw [writeText] at refused ⊢
  rw [alike.locate_eq]
  cases found : tree.locate path with
  | error other => rwa [found] at refused
  | ok location =>
    rw [found] at refused
    simp only [bind, Except.bind, alike.entries] at refused ⊢
    split at refused
    · rename_i closed
      rwa [if_pos closed]
    · rename_i file
      split at refused
      · rwa [if_neg file]
      · cases refused

end Alike

end Tree

namespace Medium
variable {medium : Medium} {tree after : Tree} {path content : String}

-- What is taken is what is not refused and can be written.
theorem writeText_ok_iff : medium.writeText tree path content = .ok after ↔
    medium.writeRefusal tree path content = none ∧ tree.writeText path content = .ok after := by
  rw [writeText]
  cases medium.writeRefusal tree path content <;> simp

-- The later medium takes and refuses the same at these paths, whatever else there is.
def SteadyAt (first later : Medium) (paths : List String) : Prop :=
  ∀ path ∈ paths, ∀ tree after content,
    later.writeRefusal after path content = first.writeRefusal tree path content

end Medium
end SchemaBindings.Files
