import ConstructSchema.Proofs.Files.Places

/-!
Where a path leads by its text alone.

The parts of a path between its slashes are taken one after the other: an empty part and a dot stay
where they are, two dots go up, and any other part goes down (`advance`, `resolve`). A joined path
leads where its second part leads from where the first one leads (`resolve_join`). In a tree without
links nothing else decides where a path leads, apart from whether it leads anywhere
(`FileTree.eq_resolve_of_follow`). If two dots are not among the parts, a path that does not start
at the root only goes down (`resolve_eq_append`), and the files it leads to are below where it
started (`isBelow_resolve`).
-/

namespace ConstructSchema

namespace Path

/-! ## Parts -/

/-- The parts of a path between its slashes, the empty ones as well. -/
def parts (path : String) : List String :=
  (path.toList.splitOn '/').map String.ofList

variable {path : String}

/-- The segments of a path are its parts that are not empty. -/
theorem segments_eq_filter_parts (path : String) :
    segments path = (parts path).filter (· ≠ "") := by
  have hempty : (fun part : List Char => !part.isEmpty) =
      (fun part => decide (part ≠ "")) ∘ String.ofList := by
    funext part
    cases part <;> simp
  rw [segments, parts, split_eq_splitOn, List.filter_map, hempty]

theorem mem_segments_iff {segment : String} :
    segment ∈ segments path ↔ segment ∈ parts path ∧ segment ≠ "" := by
  simp [segments_eq_filter_parts]

theorem above_mem_segments_iff : above ∈ segments path ↔ above ∈ parts path := by
  simp [mem_segments_iff, above]

/-- No part between slashes has a slash. -/
theorem not_mem_of_mem_splitOn (cs : List Char) : ∀ part ∈ cs.splitOn '/', '/' ∉ part := by
  induction cs with
  | nil => simp
  | cons c rest ih =>
    rw [List.splitOn_cons_eq_if_modifyHead]
    by_cases hc : c = '/'
    · simpa [hc] using ih
    · cases hrest : rest.splitOn '/' with
      | nil => simp
      | cons part others =>
        rw [hrest] at ih
        simpa [hc, Ne.symm hc] using ih

/-- Segments are names. -/
theorem isName_of_mem_segments {segment : String} (h : segment ∈ segments path) :
    IsName segment := by
  obtain ⟨hpart, hne⟩ := mem_segments_iff.1 h
  obtain ⟨part, hmem, rfl⟩ := List.mem_map.1 hpart
  exact ⟨hne, by simpa using not_mem_of_mem_splitOn _ part hmem⟩

/-! ## Resolution -/

/-- A path starts at the root. -/
def isAbsolute (path : String) : Bool :=
  path.toList.head? == some '/'

/-- Where a part of a path leads from a place. -/
def advance (place : List String) (part : String) : List String :=
  if part = "" ∨ part = here then place
  else if part = above then place.dropLast
  else place ++ [part]

/-- Where a path leads from a place by its text alone. -/
def resolve (place : List String) (path : String) : List String :=
  (parts path).foldl advance (if isAbsolute path then [] else place)

example : resolve ["srv", "data"] "./new//../../other" = ["srv", "other"] := by decide

/-- Empty parts lead nowhere. -/
theorem resolve_eq_foldl_segments (place : List String) (path : String) :
    resolve place path =
      (segments path).foldl advance (if isAbsolute path then [] else place) := by
  have hempty : (fun place part => if decide (part ≠ "") then advance place part else place) =
      advance := by
    funext place part
    by_cases h : part = "" <;> simp [h, advance]
  rw [segments_eq_filter_parts, List.foldl_filter, hempty, resolve]

theorem isAbsolute_of_isName {name : String} (h : IsName name) : isAbsolute name = false := by
  have hhead : name.toList.head? ≠ some '/' := fun h' => h.no_slash (List.mem_of_head? h')
  simpa [isAbsolute] using hhead

/-- A joined path starts at the root if its first path does, or if that is empty and the second
one does. -/
theorem isAbsolute_join (directory path : String) :
    isAbsolute (join directory path) =
      if directory = "" then isAbsolute path else isAbsolute directory := by
  unfold join isAbsolute
  by_cases hempty : directory = ""
  · simp [hempty]
  · have hne : directory.toList ≠ [] := fun hnil => hempty (String.toList_eq_nil_iff.1 hnil)
    obtain ⟨c, rest, hcons⟩ := List.exists_cons_of_ne_nil hne
    rw [if_neg hempty]
    split <;> simp [hcons]

/-- A joined path leads where its second path leads from where the first one leads. -/
theorem resolve_join (place : List String) (directory : String) (h : isAbsolute path = false) :
    resolve place (join directory path) = resolve (resolve place directory) path := by
  simp only [resolve_eq_foldl_segments, segments_join_eq_append, List.foldl_append,
    isAbsolute_join, h]
  by_cases hempty : directory = ""
  · simp [hempty, isAbsolute]
  · simp [hempty]

/-- Names only lead down. -/
theorem foldl_advance_eq_append {names : List String} (hempty : "" ∉ names) (habove : above ∉ names)
    (place : List String) : names.foldl advance place = place ++ FileTree.placeOf names := by
  induction names generalizing place with
  | nil => simp
  | cons name rest ih =>
    obtain ⟨hne, hempty'⟩ := not_or.1 (mt List.mem_cons.2 hempty)
    obtain ⟨hdown, habove'⟩ := not_or.1 (mt List.mem_cons.2 habove)
    rw [List.foldl_cons, ih hempty' habove']
    by_cases hhere : name = here
    · simp [advance, hhere, FileTree.placeOf_here_cons]
    · simp [advance, hhere, Ne.symm hne, Ne.symm hdown, FileTree.placeOf_cons hhere]

theorem empty_not_mem_segments (path : String) : "" ∉ segments path :=
  fun h => (mem_segments_iff.1 h).2 rfl

/-- Without two dots a path that does not start at the root only leads down. -/
theorem resolve_eq_append (hrelative : isAbsolute path = false) (habove : above ∉ segments path)
    (place : List String) :
    resolve place path = place ++ FileTree.placeOf (segments path) := by
  rw [resolve_eq_foldl_segments, hrelative]
  exact foldl_advance_eq_append (empty_not_mem_segments path) habove place

/-! ## Places below -/

/-- A name that leads down: a part that neither stays nor goes up. -/
structure LeadsDown (name : String) : Prop extends IsName name where
  ne_here : name ≠ here
  ne_above : name ≠ above

/-- A place is below another one: names that lead down lead from the one to the other. -/
def IsBelow (base place : List String) : Prop :=
  ∃ names, names ≠ [] ∧ place = base ++ names ∧ ∀ name ∈ names, LeadsDown name

/-- The path of a file within a directory leads to its name, in the place of the directory. -/
theorem resolve_join_of_leadsDown {file : String} (hfile : LeadsDown file) (place : List String)
    (directory : String) :
    resolve place (join directory file) = resolve place directory ++ [file] := by
  have hrelative := isAbsolute_of_isName hfile.toIsName
  have habove : above ∉ [file] := by simpa using hfile.ne_above.symm
  rw [← segments_of_isName hfile.toIsName] at habove
  rw [resolve_join place directory hrelative, resolve_eq_append hrelative habove,
    segments_of_isName hfile.toIsName, FileTree.placeOf_cons hfile.ne_here, FileTree.placeOf_nil]

/-- The names on the way along a path without two dots lead down. -/
theorem leadsDown_of_mem_placeOf (habove : above ∉ segments path) {name : String}
    (h : name ∈ FileTree.placeOf (segments path)) : LeadsDown name := by
  obtain ⟨hmem, hhere⟩ : name ∈ segments path ∧ name ≠ here := by
    simpa [FileTree.placeOf] using h
  exact ⟨isName_of_mem_segments hmem, hhere, fun hup => habove (hup ▸ hmem)⟩

/-- So do those on the way to a file behind it. -/
theorem leadsDown_of_mem_placeOf_append (habove : above ∉ segments path) {file : String}
    (hfile : LeadsDown file) :
    ∀ name ∈ FileTree.placeOf (segments path) ++ [file], LeadsDown name := by
  intro name hname
  rcases List.mem_append.1 hname with hway | hlast
  · exact leadsDown_of_mem_placeOf habove hway
  · exact List.mem_singleton.1 hlast ▸ hfile

/-- Without two dots, a file behind a path that does not start at the root is below. -/
theorem isBelow_resolve (hrelative : isAbsolute path = false) (habove : above ∉ segments path)
    (base : List String) {file : String} (hfile : LeadsDown file) :
    IsBelow base (resolve base path ++ [file]) := by
  refine ⟨FileTree.placeOf (segments path) ++ [file], by simp, ?_,
    leadsDown_of_mem_placeOf_append habove hfile⟩
  rw [resolve_eq_append hrelative habove, List.append_assoc]

end Path

/-! ## Paths in a tree -/

namespace FileTree

variable {t : FileTree} {place other : List String}

/-- A step in a tree leads where the text of its segment does. -/
theorem Step.eq_advance {segment : String} (h : t.Step place segment other) (hne : segment ≠ "") :
    other = Path.advance place segment := by
  cases h with
  | here => simp [Path.advance]
  | above => simp [Path.advance, Path.above, Path.here]
  | name _ hhere habove => simp [Path.advance, hne, hhere, habove]

/-- Segments that lead somewhere lead where their texts do, one after the other. -/
theorem eq_foldl_of_follow {segments : List String} (hnames : "" ∉ segments)
    (h : t.follow place segments = .ok other) : other = segments.foldl Path.advance place := by
  induction segments generalizing place with
  | nil =>
    cases h
    rfl
  | cons segment rest ih =>
    obtain ⟨hne, hrest⟩ := not_or.1 (mt List.mem_cons.2 hnames)
    obtain ⟨next, hstep, hfollow⟩ := follow_cons_eq_ok_iff.1 h
    rw [List.foldl_cons, ← hstep.eq_advance (Ne.symm hne)]
    exact ih hrest hfollow

/-- Where a path leads in a tree from a place, it leads by its text. -/
theorem eq_resolve_of_follow {path : String} (hrelative : Path.isAbsolute path = false)
    (h : t.follow place (Path.segments path) = .ok other) : other = Path.resolve place path := by
  rw [Path.resolve_eq_foldl_segments, hrelative]
  exact eq_foldl_of_follow (Path.empty_not_mem_segments path) h

end FileTree

end ConstructSchema
