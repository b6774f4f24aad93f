import ConstructSchema.Files.Path

/-!
The segments of a joined path.

A slash cuts a text in two that are split on their own (`segments_append_slash`), so a joined path
has the segments of its first path and then those of its second, whether or not the first is written
with a slash at its end (`segments_join_eq_append`). The path of a file within a directory has the
segments of the directory and then the name of the file (`segments_join`).
-/

namespace ConstructSchema.Path

/-! ## Parts between slashes -/

theorem split_eq_splitOn (cs : List Char) : split cs = cs.splitOn '/' := by
  induction cs with
  | nil => rfl
  | cons c rest ih =>
    rw [split, List.splitOn_cons_eq_if_modifyHead, ih]
    cases hrest : rest.splitOn '/' with
    | nil => exact absurd hrest (List.splitOn_ne_nil _ _)
    | cons part others => by_cases hc : c = '/' <;> simp [hc]

/-! ## Segments -/

@[simp] theorem segments_empty : segments "" = [] := rfl

theorem segments_append_slash (before after : String) :
    segments (before ++ "/" ++ after) = segments before ++ segments after := by
  have hchars : (before ++ "/" ++ after).toList = before.toList ++ '/' :: after.toList := by simp
  simp [segments, hchars, split_eq_splitOn, List.splitOn_append_cons_self]

/-- A name: it can stand between slashes as a segment. -/
structure IsName (name : String) : Prop where
  ne_empty : name ≠ ""
  no_slash : '/' ∉ name.toList

instance (name : String) : Decidable (IsName name) :=
  decidable_of_iff (name ≠ "" ∧ '/' ∉ name.toList) ⟨fun h => ⟨h.1, h.2⟩, fun h => ⟨h.1, h.2⟩⟩

variable {file : String}

theorem segments_of_isName (h : IsName file) : segments file = [file] := by
  have hne : file.toList ≠ [] := fun hnil => h.ne_empty (String.toList_eq_nil_iff.1 hnil)
  simp [segments, split_eq_splitOn, List.splitOn_eq_singleton h.no_slash, hne]

/-- A text that ends in a slash is one without it, and the slash. -/
theorem exists_eq_append_slash {path : String} (h : endsInSlash path = true) :
    ∃ start, path = start ++ "/" := by
  have hlast : path.toList.getLast? = some '/' := by simpa [endsInSlash] using h
  obtain ⟨cs, hcs⟩ := List.getLast?_eq_some_iff.1 hlast
  refine ⟨String.ofList cs, ?_⟩
  rw [← String.toList_inj, hcs]
  simp

/-- A joined path leads through the directory and then along the other path. -/
theorem segments_join_eq_append (directory path : String) :
    segments (join directory path) = segments directory ++ segments path := by
  unfold join
  by_cases hempty : directory = ""
  · simp [hempty]
  · by_cases hslash : endsInSlash directory = true
    · obtain ⟨start, rfl⟩ := exists_eq_append_slash hslash
      have hstart := segments_append_slash start ""
      rw [segments_empty, List.append_nil, String.append_empty] at hstart
      simp [hslash, segments_append_slash, hstart]
    · simp [hempty, hslash, segments_append_slash]

/-- The path of a file within a directory leads through the directory to the file. -/
theorem segments_join (directory : String) (h : IsName file) :
    segments (join directory file) = segments directory ++ [file] := by
  rw [segments_join_eq_append, segments_of_isName h]

/-- The path of a file within a directory ends in the name of the file. -/
theorem endsInSlash_join (directory : String) (h : IsName file) :
    endsInSlash (join directory file) = false := by
  have hlast : ∀ start : String, endsInSlash (start ++ file) = false := by
    intro start
    obtain ⟨c, hc⟩ : ∃ c, file.toList.getLast? = some c := by
      rw [← Option.isSome_iff_exists, List.getLast?_isSome]
      exact fun hnil => h.ne_empty (String.toList_eq_nil_iff.1 hnil)
    have hne : c ≠ '/' := by
      rintro rfl
      exact h.no_slash (List.mem_of_getLast? hc)
    simpa [endsInSlash, List.getLast?_append, hc] using hne
  unfold join
  split
  · exact hlast directory
  · exact hlast (directory ++ "/")

end ConstructSchema.Path
