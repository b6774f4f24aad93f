import ConstructSchema.Proofs.Files.Directories

/-!
Writing a file into a directory that is there.

Such a file is refused only if its path is refused for its text alone or a directory has its name
(`writeText_join`). Otherwise it is put there, all else stays as it was (`wrote_of_writeText_join`),
and to write the same text again changes nothing (`writeText_join_again`).
-/

namespace ConstructSchema.FileTree

variable {t t' : FileTree} {place : List String} {directory file text : String}

/-- A name that a file can have. -/
structure IsFileName (file : String) : Prop extends Path.IsName file where
  ne_here : file ≠ Path.here
  ne_above : file ≠ Path.above
  short : Path.isOverlong file = false

/-- A file of a directory that is there is written, unless its path is refused for its text alone
or a directory has its name. -/
theorem writeText_join (hfile : IsFileName file)
    (hfollow : t.follow [] (Path.segments directory) = .ok place)
    (hdir : t.entryAt place = some .directory) (text : String) :
    t.writeText (Path.join directory file) text =
      match Path.refusal? (Path.join directory file) with
      | some e => .error e
      | none =>
        if taken : t.entryAt (place ++ [file]) = some .directory then .error .isDirectory
        else .ok (t.put place file (.file text) hdir taken) := by
  unfold writeText
  cases Path.refusal? (Path.join directory file) with
  | some e => rfl
  | none =>
    simp only [writeAt, Path.segments_join directory hfile.toIsName,
      Path.endsInSlash_join directory hfile.toIsName, List.getLast?_concat, List.dropLast_concat,
      hfollow]
    simp [hdir, hfile.ne_here, hfile.ne_above, hfile.short]

/-- What a write to a file of a directory leaves: the text in the file, and all else as it was. -/
structure Wrote (t : FileTree) (directory : String) (place : List String) (file text : String)
    (t' : FileTree) : Prop where
  refusal_eq : Path.refusal? (Path.join directory file) = none
  not_taken : t.entryAt (place ++ [file]) ≠ some .directory
  entry_eq : t'.entryAt (place ++ [file]) = some (.file text)
  others : ∀ other, other ≠ place ++ [file] → t'.entryAt other = t.entryAt other
  follow_eq : t'.follow [] (Path.segments directory) = .ok place
  directory_eq : t'.entryAt place = some .directory

/-- A file of a directory that is there is written, and the directory is still there. -/
theorem wrote_of_writeText_join (hfile : IsFileName file)
    (hfollow : t.follow [] (Path.segments directory) = .ok place)
    (hdir : t.entryAt place = some .directory)
    (h : t.writeText (Path.join directory file) text = .ok t') :
    t.Wrote directory place file text t' := by
  rw [writeText_join hfile hfollow hdir] at h
  cases hrefusal : Path.refusal? (Path.join directory file) with
  | some e => simp [hrefusal] at h
  | none =>
    simp only [hrefusal] at h
    split_ifs at h with htaken
    obtain rfl := (Except.ok.inj h).symm
    have hwithin : t.Within (t.put place file (.file text) hdir htaken) := within_put
    exact {
      refusal_eq := hrefusal
      not_taken := htaken
      entry_eq := entryAt_put_self
      others := fun _ hother => entryAt_put_of_ne hother
      follow_eq := follow_of_within hwithin hfollow
      directory_eq := hwithin.directory _ hdir }

/-- A file of a directory that is there is refused for the text of its path, or because a directory
has its name. -/
theorem refused_of_writeText_join (hfile : IsFileName file)
    (hfollow : t.follow [] (Path.segments directory) = .ok place)
    (hdir : t.entryAt place = some .directory) {e : FileError}
    (h : t.writeText (Path.join directory file) text = .error e) :
    Path.refusal? (Path.join directory file) = some e ∨
      e = .isDirectory ∧ t.entryAt (place ++ [file]) = some .directory := by
  rw [writeText_join hfile hfollow hdir] at h
  cases hrefusal : Path.refusal? (Path.join directory file) with
  | some e' =>
    simp only [hrefusal] at h
    exact Or.inl (congrArg some (Except.error.inj h))
  | none =>
    simp only [hrefusal] at h
    split_ifs at h with htaken
    exact Or.inr ⟨(Except.error.inj h).symm, htaken⟩

/-- If a file of a directory that is there clashes with something, that is a directory. -/
theorem directory_of_writeText_join (hfile : IsFileName file)
    (hfollow : t.follow [] (Path.segments directory) = .ok place)
    (hdir : t.entryAt place = some .directory) {e : FileError} (hclash : e.IsClash)
    (h : t.writeText (Path.join directory file) text = .error e) :
    t.entryAt (place ++ [file]) = some .directory := by
  rcases refused_of_writeText_join hfile hfollow hdir h with hrefusal | ⟨-, htaken⟩
  · exact absurd hclash (not_isClash_of_refusal hrefusal)
  · exact htaken

/-- Where names fit, a file of a directory that is there is refused only if it clashes. -/
theorem isClash_of_writeText_join (hfile : IsFileName file)
    (hfollow : t.follow [] (Path.segments directory) = .ok place)
    (hdir : t.entryAt place = some .directory)
    (hfits : Path.refusal? (Path.join directory file) = none) {e : FileError}
    (h : t.writeText (Path.join directory file) text = .error e) : e.IsClash := by
  rcases refused_of_writeText_join hfile hfollow hdir h with hrefusal | ⟨rfl, -⟩
  · simp [hfits] at hrefusal
  · exact .isDirectory

/-- A file that has a text already is given it again without a change. -/
theorem writeText_join_again (hfile : IsFileName file)
    (hfollow : t.follow [] (Path.segments directory) = .ok place)
    (hdir : t.entryAt place = some .directory)
    (hrefusal : Path.refusal? (Path.join directory file) = none)
    (hentry : t.entryAt (place ++ [file]) = some (.file text)) :
    t.writeText (Path.join directory file) text = .ok t := by
  rw [writeText_join hfile hfollow hdir, hrefusal]
  have htaken : t.entryAt (place ++ [file]) ≠ some .directory := by simp [hentry]
  simp only [dif_neg htaken]
  refine congrArg _ (ext fun other => ?_)
  by_cases hother : other = place ++ [file]
  · rw [hother, entryAt_put_self, hentry]
  · rw [entryAt_put_of_ne hother]

end ConstructSchema.FileTree
