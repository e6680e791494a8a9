import ProbeStream.Fs.Tree

/-!
# Files through their paths

What writing and appending do to a file is said here by what reading the same path gives, without
locations:

- what was written is read back (`read_write`), and what was appended stands behind what was there
  (`read_append`);
- a path can be written if it leads to a file or to a free name in a directory, and only then
  (`exists_write_iff`);
- a file that can be read can be appended to (`exists_append`).

The one fact behind them is that a path still leads to a file after the content of that file has
changed (`find_put`). The way to a file goes through directories, so it never meets the file before
its end.
-/

namespace ProbeStream.Fs

/-- A place for a file: a file is there, or its name is free in a directory. -/
inductive Target.IsPlaceFor (location : Location) : Target → Prop
  | file (content : Bytes) : IsPlaceFor location (.present location (.file content))
  | free : IsPlaceFor location (.vacant location)

namespace Tree

/-- The path leads to a file, or to a free name in a directory. -/
def IsWritable (tree : Tree) (path : String) : Prop :=
  ∃ location target, tree.find path = .ok target ∧ target.IsPlaceFor location

section

variable {tree after : Tree} {path : String} {location start : Location} {target : Target}
  {parts : List String} {content old piece : Bytes}

/-! ## A path to a changed file -/

/-- No directory stands at a place for a file. -/
theorem node?_ne_directory (found : tree.walk start parts = .ok target)
    (place : target.IsPlaceFor location) : tree.node? location ≠ some .directory := by
  induction parts generalizing start with
  | nil =>
    rw [walk] at found
    split at found
    · cases found
    · next node there =>
      cases found
      cases place with
      | file content => simp [there]
  | cons part rest ih =>
    rw [walk] at found
    split at found
    · cases found
    · cases found
    · split at found
      · exact ih found
      split at found
      · exact ih found
      split at found
      · cases found
      split at found
      · next vacant =>
        cases found
        cases place with
        | free => simp [vacant.1]
      · exact ih found

theorem walk_put (found : tree.walk start parts = .ok target)
    (place : target.IsPlaceFor location) :
    (tree.put location (.file content)).walk start parts =
      .ok (.present location (.file content)) := by
  have noDirectory := node?_ne_directory found place
  have inside : location ≠ [] := by
    rintro rfl
    exact noDirectory rfl
  have here := node?_put_self tree (.file content) inside
  -- what is a directory, or was anything else than a place for the file, stays as it was
  have elsewhere {other : Location} (directory : tree.node? other = some .directory) :
      (tree.put location (.file content)).node? other = some .directory := by
    rw [node?_put_of_ne, directory]
    rintro rfl
    exact noDirectory directory
  induction parts generalizing start with
  | nil =>
    rw [walk] at found
    split at found
    · cases found
    · cases found
      cases place with
      | file _ => rw [walk, here]
  | cons part rest ih =>
    rw [walk] at found
    split at found
    · cases found
    · cases found
    next directory =>
    rw [walk, elsewhere directory]
    dsimp only
    split at found
    · next stays => rw [if_pos stays, ih found]
    next goes =>
    rw [if_neg goes]
    split at found
    · next back => rw [if_pos back, ih found]
    next forth =>
    rw [if_neg forth]
    split at found
    · cases found
    next short =>
    rw [if_neg short]
    split at found
    · next vacant =>
      obtain ⟨_, rfl⟩ := vacant
      cases found
      cases place with
      | free => rw [if_neg (by simp [here]), walk, here]
    next occupied =>
    by_cases same : start ++ [part] = location
    · rw [if_neg (by simp [same, here]), ih found]
    · rw [node?_put_of_ne tree _ same, if_neg occupied, ih found]

/-- After the content of a file has changed, its path leads to the file as it is now. -/
theorem find_put (found : tree.find path = .ok target) (place : target.IsPlaceFor location)
    (content : Bytes) :
    (tree.put location (.file content)).find path = .ok (.present location (.file content)) := by
  rw [find] at found ⊢
  split at found
  · cases found
  next noNul =>
  split at found
  · cases found
  next notEmpty =>
  split at found
  · cases found
  next short =>
  rw [if_neg noNul, if_neg notEmpty, if_neg short]
  dsimp only at found ⊢
  rw [here_put]
  split at found
  · cases found
  · next reached =>
    cases found
    rw [walk_put reached place]

/-! ## Writing, appending, reading -/

theorem read_eq_ok_iff :
    tree.read path = .ok content ↔
      ∃ location, tree.find path = .ok (.present location (.file content)) := by
  rw [read]
  split
  · next found => simp [found]
  · next found => simp [found]
  · next found => simp [found]
  · next found => simp [found]

theorem write_eq_ok_iff :
    tree.write path content = .ok after ↔
      ∃ location target, tree.find path = .ok target ∧ target.IsPlaceFor location ∧
        after = tree.put location (.file content) := by
  rw [write]
  constructor
  · intro done
    split at done
    · cases done
    · next location found =>
      cases done
      exact ⟨location, _, found, .free, rfl⟩
    · cases done
    · next location old found =>
      cases done
      exact ⟨location, _, found, .file old, rfl⟩
  · rintro ⟨location, target, found, place, rfl⟩
    cases place <;> rw [found]

theorem append_eq_ok_iff :
    tree.append path piece = .ok after ↔
      ∃ location old, tree.find path = .ok (.present location (.file old)) ∧
        after = tree.put location (.file (old ++ piece)) := by
  rw [append]
  constructor
  · intro done
    split at done
    · cases done
    · cases done
    · cases done
    · next location old found =>
      cases done
      exact ⟨location, old, found, rfl⟩
  · rintro ⟨location, old, found, rfl⟩
    rw [found]

theorem exists_write_iff : (∃ after, tree.write path content = .ok after) ↔
    tree.IsWritable path := by
  simp only [write_eq_ok_iff, IsWritable]
  constructor
  · rintro ⟨_, location, target, found, place, _⟩
    exact ⟨location, target, found, place⟩
  · rintro ⟨location, target, found, place⟩
    exact ⟨_, location, target, found, place, rfl⟩

theorem read_write (written : tree.write path content = .ok after) :
    after.read path = .ok content := by
  obtain ⟨location, target, found, place, rfl⟩ := write_eq_ok_iff.mp written
  exact read_eq_ok_iff.mpr ⟨location, find_put found place content⟩

theorem read_append (appended : tree.append path piece = .ok after)
    (before : tree.read path = .ok old) : after.read path = .ok (old ++ piece) := by
  obtain ⟨location, there, found, rfl⟩ := append_eq_ok_iff.mp appended
  obtain ⟨other, same⟩ := read_eq_ok_iff.mp before
  cases found.symm.trans same
  exact read_eq_ok_iff.mpr ⟨location, find_put found (.file old) _⟩

/-- A file that can be read can be appended to. -/
theorem exists_append (before : tree.read path = .ok old) (piece : Bytes) :
    ∃ after, tree.append path piece = .ok after := by
  obtain ⟨location, found⟩ := read_eq_ok_iff.mp before
  exact ⟨_, append_eq_ok_iff.mpr ⟨location, old, found, rfl⟩⟩

/-- What was appended to is a file that can be read. -/
theorem exists_read_of_append (appended : tree.append path piece = .ok after) :
    ∃ content, after.read path = .ok content := by
  obtain ⟨location, old, found, _⟩ := append_eq_ok_iff.mp appended
  exact ⟨_, read_append appended (read_eq_ok_iff.mpr ⟨location, found⟩)⟩

end

end Tree

end ProbeStream.Fs
