import ConstructSchema.Files.Tree
import ConstructSchema.Proofs.Files.Path
import Mathlib.Data.List.Basic
import Mathlib.Tactic.SplitIfs

/-!
What a file tree holds after a file was written.

A path is followed in steps, one for each segment (`follow_cons_eq_ok_iff`). A tree in which a file
was put has every directory it had before, and something wherever there was something, so each step
can still be taken and every path leads to where it led (`follow_of_within`). A write that is not
refused puts its text where its path leads (`exists_put_of_writeText`); the file is read back
(`readText_of_writeText`), and a file with another name is left alone
(`readText_of_writeText_of_ne`).
-/

namespace ConstructSchema.FileTree

variable {t t' : FileTree} {place other : List String}

/-! ## Following paths -/

/-- A step along a segment from a place to another. -/
inductive Step (t : FileTree) (place : List String) : String → List String → Prop
  | here (inDirectory : t.entryAt place = some .directory) : Step t place Path.here place
  | above (inDirectory : t.entryAt place = some .directory) :
    Step t place Path.above place.dropLast
  | name {segment : String} (inDirectory : t.entryAt place = some .directory)
    (not_here : segment ≠ Path.here) (not_above : segment ≠ Path.above)
    (short : Path.isOverlong segment = false)
    (there : (t.entryAt (place ++ [segment])).isSome) : Step t place segment (place ++ [segment])

theorem isDirectoryAt_iff : t.isDirectoryAt place = true ↔ t.entryAt place = some .directory := by
  simp [isDirectoryAt]

/-- Segments are followed by a step along the first, and from there along the others. -/
theorem follow_cons_eq_ok_iff {segment : String} {rest : List String} :
    t.follow place (segment :: rest) = .ok other ↔
      ∃ next, t.Step place segment next ∧ t.follow next rest = .ok other := by
  rw [follow]
  constructor
  · intro h
    split_ifs at h with hdir hhere habove hlong hthere
    · exact ⟨place, hhere ▸ .here (isDirectoryAt_iff.1 hdir), h⟩
    · exact ⟨place.dropLast, habove ▸ .above (isDirectoryAt_iff.1 hdir), h⟩
    · exact ⟨place ++ [segment], .name (isDirectoryAt_iff.1 hdir) hhere habove
        (by simpa using hlong) hthere, h⟩
  · rintro ⟨next, hstep, h⟩
    cases hstep with
    | here hdir => simpa [isDirectoryAt_iff.2 hdir] using h
    | above hdir => simpa [isDirectoryAt_iff.2 hdir, Path.here, Path.above] using h
    | name hdir hhere habove hlong hthere =>
      simpa [isDirectoryAt_iff.2 hdir, hhere, habove, hlong, hthere] using h

/-- Two lists of segments, one behind the other, are followed one after the other. -/
theorem follow_append_eq_ok_iff {before after : List String} :
    t.follow place (before ++ after) = .ok other ↔
      ∃ middle, t.follow place before = .ok middle ∧ t.follow middle after = .ok other := by
  induction before generalizing place with
  | nil => simp [follow]
  | cons segment rest ih =>
    rw [List.cons_append, follow_cons_eq_ok_iff]
    simp only [follow_cons_eq_ok_iff, ih]
    constructor
    · rintro ⟨next, hstep, middle, hbefore, hafter⟩
      exact ⟨middle, ⟨next, hstep, hbefore⟩, hafter⟩
    · rintro ⟨middle, ⟨next, hstep, hbefore⟩, hafter⟩
      exact ⟨next, hstep, middle, hbefore, hafter⟩

/-- A tree that has every directory of another, and something wherever the other has something. -/
structure Within (t t' : FileTree) : Prop where
  directory : ∀ place, t.entryAt place = some .directory → t'.entryAt place = some .directory
  isSome : ∀ place, (t.entryAt place).isSome → (t'.entryAt place).isSome

/-- A step can be taken in a tree that has more. -/
theorem Step.of_within (hwithin : t.Within t') {segment : String} (h : t.Step place segment other) :
    t'.Step place segment other := by
  cases h with
  | here hdir => exact .here (hwithin.directory _ hdir)
  | above hdir => exact .above (hwithin.directory _ hdir)
  | name hdir hhere habove hlong hthere =>
    exact .name (hwithin.directory _ hdir) hhere habove hlong (hwithin.isSome _ hthere)

/-- What segments lead to, they lead to in a tree that has more. -/
theorem follow_of_within (hwithin : t.Within t') {segments : List String}
    (h : t.follow place segments = .ok other) : t'.follow place segments = .ok other := by
  induction segments generalizing place with
  | nil => exact h
  | cons segment rest ih =>
    obtain ⟨next, hstep, hrest⟩ := follow_cons_eq_ok_iff.1 h
    exact follow_cons_eq_ok_iff.2 ⟨next, hstep.of_within hwithin, ih hrest⟩

/-- What is above a directory is a directory. -/
theorem directory_dropLast (h : t.entryAt place = some .directory) :
    t.entryAt place.dropLast = some .directory := by
  rcases List.eq_nil_or_concat' place with rfl | ⟨before, name, rfl⟩
  · exact h
  · rw [List.dropLast_concat]
    exact t.parent_eq before name (by simp [h])

/-- A step to a file is along its name: dots only lead to directories. -/
theorem Step.eq_of_file {segment text : String} (h : t.Step place segment other)
    (hfile : t.entryAt other = some (.file text)) :
    segment ≠ Path.here ∧ other = place ++ [segment] := by
  cases h with
  | here hdir => simp [hdir] at hfile
  | above hdir => simp [directory_dropLast hdir] at hfile
  | name _ hhere => exact ⟨hhere, rfl⟩

/-- Segments that lead to a file end in its name. -/
theorem getLast?_of_follow_file {segments : List String} {text : String}
    (h : t.follow [] segments = .ok other) (hfile : t.entryAt other = some (.file text)) :
    segments.getLast? = other.getLast? ∧ segments.getLast? ≠ some Path.here := by
  rcases List.eq_nil_or_concat' segments with rfl | ⟨before, name, rfl⟩
  · cases Except.ok.inj h
    simp [t.root_eq] at hfile
  · obtain ⟨place, -, hlast⟩ := follow_append_eq_ok_iff.1 h
    obtain ⟨next, hstep, hnext⟩ := follow_cons_eq_ok_iff.1 hlast
    cases Except.ok.inj hnext
    obtain ⟨hhere, rfl⟩ := hstep.eq_of_file hfile
    simpa using hhere

/-! ## Putting a file -/

section put

variable {name : String} {entry : Entry} {inDirectory : t.entryAt place = some .directory}
  {notDirectory : t.entryAt (place ++ [name]) ≠ some .directory}

@[simp] theorem entryAt_put_self :
    (t.put place name entry inDirectory notDirectory).entryAt (place ++ [name]) = some entry :=
  if_pos rfl

theorem entryAt_put_of_ne (h : other ≠ place ++ [name]) :
    (t.put place name entry inDirectory notDirectory).entryAt other = t.entryAt other :=
  if_neg h

/-- Nothing is lost when a file is put somewhere. -/
theorem within_put : t.Within (t.put place name entry inDirectory notDirectory) where
  directory other h := by
    have hne : other ≠ place ++ [name] := by
      rintro rfl
      exact notDirectory h
    rwa [entryAt_put_of_ne hne]
  isSome other h := by
    by_cases heq : other = place ++ [name]
    · simp [heq]
    · rwa [entryAt_put_of_ne heq]

end put

/-! ## Writing and reading -/

variable {path text : String}

/-- A write that is not refused follows the path up to its last segment, which is a name, and puts
the text there. -/
theorem exists_put_of_writeText (h : t.writeText path text = .ok t') :
    Path.refusal? path = none ∧ Path.endsInSlash path = false ∧
      ∃ before name place, Path.segments path = before ++ [name] ∧
        t.follow [] before = .ok place ∧
        name ≠ Path.here ∧ name ≠ Path.above ∧ Path.isOverlong name = false ∧
        ∃ inDirectory notDirectory,
          t' = t.put place name (.file text) inDirectory notDirectory := by
  unfold writeText at h
  cases hrefusal : Path.refusal? path with
  | some e => simp [hrefusal] at h
  | none =>
    rcases List.eq_nil_or_concat' (Path.segments path) with hnil | ⟨before, name, hsegments⟩
    · simp [hrefusal, writeAt, hnil] at h
    · simp only [hrefusal, writeAt, hsegments, List.getLast?_concat, List.dropLast_concat] at h
      cases hfollow : t.follow [] before with
      | error e => simp [hfollow] at h
      | ok place =>
        simp only [hfollow] at h
        split_ifs at h with hdir hdots hlong htaken hslash
        · simp only [Bool.or_eq_true, decide_eq_true_eq, not_or] at hdots
          exact ⟨rfl, by simpa using hslash, before, name, place, hsegments, hfollow, hdots.1,
            hdots.2, by simpa using hlong, hdir, htaken, (Except.ok.inj h).symm⟩

/-- The text that a read gives is that of a file, and the path ends in the name of the file. -/
theorem exists_file_of_readText (h : t.readText path = .ok text) :
    ∃ place, t.locate path = .ok place ∧ t.entryAt place = some (.file text) ∧
      (Path.segments path).getLast? = place.getLast? := by
  unfold readText at h
  cases hlocate : t.locate path with
  | error e => simp [hlocate] at h
  | ok place =>
    simp only [hlocate] at h
    split at h
    next text' hfile =>
      cases Except.ok.inj h
      refine ⟨place, rfl, hfile, ?_⟩
      unfold locate at hlocate
      split at hlocate
      · cases hlocate
      · split_ifs at hlocate with hempty hslash
        · exact absurd (List.getLast?_concat ..) (getLast?_of_follow_file hlocate hfile).2
        · rw [List.append_nil] at hlocate
          exact (getLast?_of_follow_file hlocate hfile).1
    next => cases h

/-- A path leads to the same place in a tree that has more. -/
theorem locate_of_within (hwithin : t.Within t') (h : t.locate path = .ok place) :
    t'.locate path = .ok place := by
  unfold locate at h ⊢
  split at h
  · cases h
  · split_ifs at h ⊢ <;> exact follow_of_within hwithin h

/-- A file that was written is read back. -/
theorem readText_of_writeText (h : t.writeText path text = .ok t') :
    t'.readText path = .ok text := by
  obtain ⟨hrefusal, hslash, before, name, place, hsegments, hfollow, hhere, habove, hlong,
    hdir, htaken, ht'⟩ := exists_put_of_writeText h
  have hwithin : t.Within t' := ht' ▸ within_put
  have hentry : t'.entryAt (place ++ [name]) = some (.file text) := ht' ▸ entryAt_put_self
  have hstep : t'.Step place name (place ++ [name]) :=
    .name (hwithin.directory place hdir) hhere habove hlong (by simp [hentry])
  have hall : t'.follow [] (before ++ [name]) = .ok (place ++ [name]) :=
    follow_append_eq_ok_iff.2
      ⟨place, follow_of_within hwithin hfollow, follow_cons_eq_ok_iff.2 ⟨_, hstep, rfl⟩⟩
  have hne : path ≠ "" := by
    rintro rfl
    simp at hsegments
  simp [readText, locate, hrefusal, hne, hsegments, hslash, hall, hentry]

/-- A file whose name is another than the one that is written stays as it is. -/
theorem readText_of_writeText_of_ne {otherPath otherText : String}
    (h : t.writeText path text = .ok t') (hread : t.readText otherPath = .ok otherText)
    (hne : (Path.segments otherPath).getLast? ≠ (Path.segments path).getLast?) :
    t'.readText otherPath = .ok otherText := by
  obtain ⟨-, -, before, name, place, hsegments, -, -, -, -, hdir, htaken, ht'⟩ :=
    exists_put_of_writeText h
  obtain ⟨other, hlocate, hfile, hlast⟩ := exists_file_of_readText hread
  have hother : other ≠ place ++ [name] := by
    rintro rfl
    simp [hlast, hsegments] at hne
  have hentry : t'.entryAt other = some (.file otherText) := by
    rw [ht', entryAt_put_of_ne hother, hfile]
  simp [readText, locate_of_within (ht' ▸ within_put) hlocate, hentry]

/-! ## Steps one after the other -/

variable {α β : Type} {x : StateM FileTree α} {f : α → StateM FileTree β}

/-- Two steps on a tree: the second goes on with what the first gave and left. -/
theorem bind_of_eq {a : α} {between : FileTree} (h : x t = (a, between)) :
    (x >>= f) t = f a between :=
  congrArg (fun r : α × FileTree => f r.1 r.2) h

/-- A read leaves the tree alone. -/
theorem system_read : system.read path t = (t.readText path, t) := rfl

end ConstructSchema.FileTree
