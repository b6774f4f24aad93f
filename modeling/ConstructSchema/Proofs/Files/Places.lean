import ConstructSchema.Proofs.Files.Tree
import Mathlib.Data.List.Infix

/-!
Places in a file tree, and the ways to them.

A path without two dots leads where its names say (`placeOf`, `eq_of_follow`), or up to a segment
along which no step can be taken (`exists_stuck_of_follow`). What is missing on the way is missing
from there on (`entryAt_append_eq_none`), so a path that is not found meets no file
(`clear_of_follow_notFound`), and where no file stands on the way a path fails only because a name
is missing or too long (`eq_of_follow_error`).
-/

namespace ConstructSchema.FileTree

variable {t t' : FileTree} {place other : List String} {segments : List String}

/-- Trees that hold the same everywhere are the same. -/
theorem ext (h : ∀ place, t.entryAt place = t'.entryAt place) : t = t' := by
  cases t
  cases t'
  obtain rfl := funext h
  rfl

/-- Below a place where nothing is, nothing is. -/
theorem entryAt_append_eq_none (h : t.entryAt place = none) (names : List String) :
    t.entryAt (place ++ names) = none := by
  induction names using List.reverseRecOn with
  | nil => rwa [List.append_nil]
  | append_singleton before name ih =>
    by_contra hthere
    rw [← List.append_assoc] at hthere
    have hdir := t.parent_eq (place ++ before) name hthere
    rw [ih] at hdir
    cases hdir

/-- What is above a directory is a directory. -/
theorem directory_of_above (h : t.entryAt place = some .directory) (hway : other <+: place) :
    t.entryAt other = some .directory := by
  obtain ⟨names, rfl⟩ := hway
  induction names using List.reverseRecOn with
  | nil => rwa [List.append_nil] at h
  | append_singleton before name ih =>
    refine ih (t.parent_eq (other ++ before) name ?_)
    rw [List.append_assoc, h]
    simp

/-! ## Where paths lead -/

/-- The place that segments lead to from the root, if two dots are not among them. -/
def placeOf (segments : List String) : List String :=
  segments.filter (· ≠ Path.here)

@[simp] theorem placeOf_nil : placeOf [] = [] := rfl

theorem placeOf_here_cons (rest : List String) : placeOf (Path.here :: rest) = placeOf rest := by
  simp [placeOf]

theorem placeOf_cons {segment : String} (h : segment ≠ Path.here) (rest : List String) :
    placeOf (segment :: rest) = segment :: placeOf rest := by
  simp [placeOf, h]

@[simp] theorem placeOf_append (before after : List String) :
    placeOf (before ++ after) = placeOf before ++ placeOf after :=
  List.filter_append ..

/-- Segments that lead somewhere lead where their names say. -/
theorem eq_of_follow (habove : Path.above ∉ segments) (h : t.follow place segments = .ok other) :
    other = place ++ placeOf segments := by
  induction segments generalizing place with
  | nil =>
    cases h
    simp
  | cons segment rest ih =>
    obtain ⟨hsegment, hrest⟩ := not_or.1 (mt List.mem_cons.2 habove)
    obtain ⟨next, hstep, hfollow⟩ := follow_cons_eq_ok_iff.1 h
    rw [ih hrest hfollow]
    cases hstep with
    | here => rw [placeOf_here_cons]
    | above => exact absurd rfl hsegment
    | name _ hhere => simp [placeOf_cons hhere]

/-- Where segments lead there is something. -/
theorem isSome_of_follow (hstart : (t.entryAt place).isSome)
    (h : t.follow place segments = .ok other) : (t.entryAt other).isSome := by
  induction segments generalizing place with
  | nil =>
    cases h
    exact hstart
  | cons segment rest ih =>
    obtain ⟨next, hstep, hfollow⟩ := follow_cons_eq_ok_iff.1 h
    refine ih ?_ hfollow
    cases hstep with
    | here hdir => simp [hdir]
    | above hdir => simp [directory_dropLast hdir]
    | name _ _ _ _ hthere => exact hthere

/-- Why no step can be taken from a place along a segment. -/
inductive Stuck (t : FileTree) (place : List String) (segment : String) : FileError → Prop
  | notDirectory (not_directory : t.entryAt place ≠ some .directory) :
    Stuck t place segment .notDirectory
  | nameTooLong (inDirectory : t.entryAt place = some .directory) (not_here : segment ≠ Path.here)
    (not_above : segment ≠ Path.above) (long : Path.isOverlong segment = true) :
    Stuck t place segment .nameTooLong
  | notFound (inDirectory : t.entryAt place = some .directory) (not_here : segment ≠ Path.here)
    (not_above : segment ≠ Path.above) (short : Path.isOverlong segment = false)
    (missing : t.entryAt (place ++ [segment]) = none) : Stuck t place segment .notFound

/-- Segments lead nowhere because no step can be taken along the first, or because the others lead
nowhere from where it leads. -/
theorem stuck_or_of_follow_cons {segment : String} {rest : List String} {e : FileError}
    (h : t.follow place (segment :: rest) = .error e) :
    t.Stuck place segment e ∨
      ∃ next, t.Step place segment next ∧ t.follow next rest = .error e := by
  rw [follow] at h
  split_ifs at h with hdir hhere habove hlong hthere
  · exact Or.inr ⟨place, hhere ▸ .here (isDirectoryAt_iff.1 hdir), h⟩
  · exact Or.inr ⟨_, habove ▸ .above (isDirectoryAt_iff.1 hdir), h⟩
  · cases h
    exact Or.inl (.nameTooLong (isDirectoryAt_iff.1 hdir) hhere habove hlong)
  · exact Or.inr ⟨_, .name (isDirectoryAt_iff.1 hdir) hhere habove (by simpa using hlong) hthere, h⟩
  · cases h
    exact Or.inl (.notFound (isDirectoryAt_iff.1 hdir) hhere habove (by simpa using hlong)
      (by simpa using hthere))
  · cases h
    exact Or.inl (.notDirectory fun hdir' => hdir (isDirectoryAt_iff.2 hdir'))

theorem follow_append (before after : List String) :
    t.follow place (before ++ after) =
      (t.follow place before).bind fun middle => t.follow middle after := by
  induction before generalizing place with
  | nil => rfl
  | cons segment rest ih =>
    rw [List.cons_append, follow, follow]
    split_ifs <;> first | exact ih | rfl

/-- Segments that lead nowhere lead up to one along which no step can be taken. -/
theorem exists_stuck_of_follow {e : FileError} (h : t.follow place segments = .error e) :
    ∃ before segment rest middle, segments = before ++ segment :: rest ∧
      t.follow place before = .ok middle ∧ t.Stuck middle segment e := by
  induction segments generalizing place with
  | nil => cases h
  | cons segment rest ih =>
    rcases stuck_or_of_follow_cons h with hstuck | ⟨next, hstep, hrest⟩
    · exact ⟨[], segment, rest, place, rfl, rfl, hstuck⟩
    · obtain ⟨before, segment', rest', middle, rfl, hbefore, hstuck⟩ := ih hrest
      exact ⟨segment :: before, segment', rest', middle, rfl,
        follow_cons_eq_ok_iff.2 ⟨next, hstep, hbefore⟩, hstuck⟩

/-! ## Ways without files -/

/-- No file stands on the way from the root along names, nor at its end. -/
def Clear (t : FileTree) (names : List String) : Prop :=
  ∀ before, before <+: names → ∀ text, t.entryAt before ≠ some (.file text)

/-- What is there on the way is a directory. -/
theorem Clear.directory_of_isSome {before names : List String} (h : t.Clear names)
    (hway : before <+: names) (hsome : (t.entryAt before).isSome) :
    t.entryAt before = some .directory := by
  obtain ⟨entry, hentry⟩ := Option.isSome_iff_exists.1 hsome
  cases entry with
  | directory => exact hentry
  | file text => exact absurd hentry (h before hway text)

/-- Behind a directory in which the next name is missing there are no files. -/
theorem clear_of_missing {name : String} (hdir : t.entryAt place = some .directory)
    (hnone : t.entryAt (place ++ [name]) = none) (names : List String) :
    t.Clear (place ++ name :: names) := by
  intro before hbefore text
  rcases List.prefix_or_prefix_of_prefix hbefore (List.prefix_append place _) with hway | hbehind
  · simp [directory_of_above hdir hway]
  · obtain ⟨behind, rfl⟩ := hbehind
    cases behind with
    | nil => simp [hdir]
    | cons first rest =>
      obtain ⟨rfl, -⟩ := List.cons_prefix_cons.1 ((List.prefix_append_right_inj place).1 hbefore)
      have hbelow := entryAt_append_eq_none hnone rest
      rw [List.append_assoc, List.singleton_append] at hbelow
      simp [hbelow]

/-- If something is not found, it is missing, and there was no file on the way. -/
theorem clear_of_follow_notFound (habove : Path.above ∉ segments)
    (h : t.follow [] segments = .error .notFound) :
    t.entryAt (placeOf segments) = none ∧ t.Clear (placeOf segments) := by
  obtain ⟨before, segment, rest, middle, rfl, hbefore, hstuck⟩ := exists_stuck_of_follow h
  have hmiddle := eq_of_follow (fun hmem => habove (List.mem_append_left _ hmem)) hbefore
  rw [List.nil_append] at hmiddle
  obtain - | - | ⟨hdir, hhere, -, -, hmissing⟩ := hstuck
  rw [placeOf_append, placeOf_cons hhere, ← hmiddle]
  have hbelow := entryAt_append_eq_none hmissing (placeOf rest)
  rw [List.append_assoc, List.singleton_append] at hbelow
  exact ⟨hbelow, clear_of_missing hdir hmissing _⟩

/-- Where no file stands on the way, segments fail only because a name is missing or too long. -/
theorem eq_of_follow_error (habove : Path.above ∉ segments) (hclear : t.Clear (placeOf segments))
    {e : FileError} (h : t.follow [] segments = .error e) : e = .notFound ∨ e = .nameTooLong := by
  obtain ⟨before, segment, rest, middle, rfl, hbefore, hstuck⟩ := exists_stuck_of_follow h
  cases hstuck with
  | notFound => exact Or.inl rfl
  | nameTooLong => exact Or.inr rfl
  | notDirectory hdir =>
    have hmiddle := eq_of_follow (fun hmem => habove (List.mem_append_left _ hmem)) hbefore
    have hsome := isSome_of_follow (by simp [t.root_eq]) hbefore
    have hway : middle <+: placeOf (before ++ segment :: rest) := by
      rw [hmiddle, List.nil_append, placeOf_append]
      exact List.prefix_append _ _
    exact absurd (hclear.directory_of_isSome hway hsome) hdir

end ConstructSchema.FileTree
