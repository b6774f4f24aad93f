import ConstructSchema.Proofs.Files.Places

/-!
What making a directory and those on the way to it does to a file tree.

Whatever comes of it, nothing is lost and nothing appears but directories on the way, and if it is
not refused the directory is there in the end (`made_of_makeDirectories`). To make it again changes
nothing (`makeDirectories_of_directory`). The first attempt tells that something is missing only
where no file stands on the way, and then no file is in the way of a later attempt either. So if a
file is in the way, it was so from the start, and no directory was made (`Made.unchanged`). Other
refusals come from names that do not fit, and from a dot behind a directory that is missing
(`isClash_of_makeDirectories`).
-/

namespace ConstructSchema

/-- The refusals of a path that meets a file where a directory is needed, or a directory where a
file is needed. -/
inductive FileError.IsClash : FileError → Prop
  | exists : IsClash .exists
  | notDirectory : IsClash .notDirectory
  | isDirectory : IsClash .isDirectory

namespace FileTree

variable {t t' made : FileTree} {place other : List String} {segments : List String}

/-! ## One directory -/

/-- A directory that is made is put where its path leads, and nothing was there. -/
theorem exists_put_of_makeDirectory (habove : Path.above ∉ segments)
    (h : t.makeDirectory segments = .ok made) :
    t.entryAt (placeOf segments) = none ∧ made.follow [] segments = .ok (placeOf segments) ∧
      made.entryAt (placeOf segments) = some .directory ∧
      ∀ other, other ≠ placeOf segments → made.entryAt other = t.entryAt other := by
  rcases List.eq_nil_or_concat' segments with rfl | ⟨before, name, rfl⟩
  · cases h
  · rw [makeDirectory, List.getLast?_concat, List.dropLast_concat] at h
    cases hfollow : t.follow [] before with
    | error e => simp [hfollow] at h
    | ok place =>
      simp only [hfollow] at h
      split_ifs at h with hdir hdots hlong htaken
      simp only [Bool.or_eq_true, decide_eq_true_eq, not_or] at hdots
      have hbefore : Path.above ∉ before := fun hmem => habove (List.mem_append_left _ hmem)
      obtain rfl : place = placeOf before := by simpa using eq_of_follow hbefore hfollow
      have hplace : placeOf (before ++ [name]) = placeOf before ++ [name] := by
        rw [placeOf_append, placeOf_cons hdots.1, placeOf_nil]
      have hwithin : t.Within made := Except.ok.inj h ▸ within_put
      have hself : made.entryAt (placeOf before ++ [name]) = some .directory :=
        Except.ok.inj h ▸ entryAt_put_self
      have hstep : made.Step (placeOf before) name (placeOf before ++ [name]) :=
        .name (hwithin.directory _ hdir) hdots.1 hdots.2 (by simpa using hlong) (by simp [hself])
      rw [hplace]
      refine ⟨by simpa using htaken, ?_, hself, fun other hother => ?_⟩
      · exact follow_append_eq_ok_iff.2 ⟨_, follow_of_within hwithin hfollow,
          follow_cons_eq_ok_iff.2 ⟨_, hstep, rfl⟩⟩
      · rw [← Except.ok.inj h, entryAt_put_of_ne hother]

/-- A directory is refused if something is there already. -/
theorem makeDirectory_of_follow (h : t.follow [] segments = .ok place) :
    t.makeDirectory segments = .error .exists := by
  rcases List.eq_nil_or_concat' segments with rfl | ⟨before, name, rfl⟩
  · rfl
  · obtain ⟨middle, hbefore, hlast⟩ := follow_append_eq_ok_iff.1 h
    obtain ⟨next, hstep, -⟩ := follow_cons_eq_ok_iff.1 hlast
    rw [makeDirectory, List.getLast?_concat, List.dropLast_concat]
    simp only [hbefore]
    cases hstep with
    | here hmiddle => simp [hmiddle]
    | above hmiddle => simp [hmiddle]
    | name hmiddle hhere habove hlong hthere => simp [hmiddle, hhere, habove, hlong, hthere]

/-- A directory is refused because something is there already, or because its path leads nowhere;
and it is not the last name that is missing. -/
theorem follow_of_makeDirectory {e : FileError} (h : t.makeDirectory segments = .error e) :
    (e = .exists ∧ ∃ place, t.follow [] segments = .ok place) ∨
      (t.follow [] segments = .error e ∧
        (e = .notFound → t.follow [] segments.dropLast = .error .notFound)) := by
  cases hfollow : t.follow [] segments with
  | ok place =>
    rw [makeDirectory_of_follow hfollow, Except.error.injEq] at h
    exact Or.inl ⟨h.symm, place, rfl⟩
  | error e' =>
    refine Or.inr ?_
    rcases List.eq_nil_or_concat' segments with rfl | ⟨before, name, rfl⟩
    · cases hfollow
    · rw [makeDirectory, List.getLast?_concat, List.dropLast_concat] at h
      rw [follow_append] at hfollow
      rw [List.dropLast_concat]
      cases hbefore : t.follow [] before with
      | error cause =>
        simp only [hbefore, Except.error.injEq, Except.bind] at h hfollow
        subst h hfollow
        exact ⟨rfl, fun hmissing => congrArg _ hmissing⟩
      | ok place =>
        simp only [hbefore, Except.bind] at h hfollow
        -- The place is there, so what is missing is the name, and then the directory is made.
        rcases stuck_or_of_follow_cons hfollow with hstuck | ⟨next, -, hnext⟩
        · cases hstuck with
          | notDirectory hdir =>
            obtain rfl : .notDirectory = e := by simpa [hdir] using h
            exact ⟨rfl, by simp⟩
          | nameTooLong hdir hhere habove hlong =>
            obtain rfl : .nameTooLong = e := by simpa [hdir, hhere, habove, hlong] using h
            exact ⟨rfl, by simp⟩
          | notFound hdir hhere habove hshort hmissing =>
            simp [hdir, hhere, habove, hshort, hmissing] at h
        · cases hnext

/-- A directory is not found only if the one above is missing and no file stands on the way. -/
theorem clear_of_makeDirectory_notFound (habove : Path.above ∉ segments)
    (h : t.makeDirectory segments = .error .notFound) :
    t.entryAt (placeOf segments.dropLast) = none ∧ t.Clear (placeOf segments) := by
  obtain ⟨⟨⟩, -⟩ | ⟨hfollow, hfront⟩ := follow_of_makeDirectory h
  have hdropLast : Path.above ∉ segments.dropLast := fun hmem =>
    habove (List.dropLast_subset _ hmem)
  exact ⟨(clear_of_follow_notFound hdropLast (hfront rfl)).1,
    (clear_of_follow_notFound habove hfollow).2⟩

theorem leadsToDirectory_iff : t.leadsToDirectory segments = true ↔
    ∃ place, t.follow [] segments = .ok place ∧ t.entryAt place = some .directory := by
  unfold leadsToDirectory
  cases t.follow [] segments with
  | error e => simp
  | ok place => simp [isDirectoryAt_iff]

/-- Where no file stands on the way, a directory is refused because it is there, or because a name
is missing or too long. -/
theorem leadsToDirectory_or_not_isClash (habove : Path.above ∉ segments)
    (hclear : t.Clear (placeOf segments)) {e : FileError}
    (h : t.makeDirectory segments = .error e) :
    t.leadsToDirectory segments = true ∨ ¬ e.IsClash := by
  rcases follow_of_makeDirectory h with ⟨-, place, hfollow⟩ | ⟨hfollow, -⟩
  · have hplace : place = placeOf segments := by simpa using eq_of_follow habove hfollow
    have hsome := isSome_of_follow (by simp [t.root_eq]) hfollow
    have hdir := hclear.directory_of_isSome (hplace ▸ List.prefix_rfl) hsome
    exact Or.inl (leadsToDirectory_iff.2 ⟨place, hfollow, hdir⟩)
  · rcases eq_of_follow_error habove hclear hfollow with rfl | rfl <;> exact Or.inr nofun

/-! ## All directories on the way -/

/-- A tree is another one with directories made on the way to a place. -/
def Grown (t t' : FileTree) (place : List String) : Prop :=
  ∀ other, t'.entryAt other = t.entryAt other ∨
    (other <+: place ∧ t.entryAt other = none ∧ t'.entryAt other = some .directory)

namespace Grown

theorem refl (t : FileTree) (place : List String) : t.Grown t place := fun _ => Or.inl rfl

theorem trans {between : FileTree} {shorter : List String} (hfirst : t.Grown between shorter)
    (hway : shorter <+: place) (hsecond : between.Grown t' place) : t.Grown t' place := by
  intro other
  rcases hfirst other with hsame | ⟨hother, hnone, hdir⟩
  · rw [← hsame]
    exact hsecond other
  · refine Or.inr ⟨hother.trans hway, hnone, ?_⟩
    rcases hsecond other with hsame' | ⟨-, hnone', -⟩
    · rw [hsame', hdir]
    · rw [hdir] at hnone'
      cases hnone'

/-- No file comes in the way. -/
theorem clear (h : t.Grown t' place) {names : List String} (hclear : t.Clear names) :
    t'.Clear names := by
  intro before hbefore text
  rcases h before with hsame | ⟨-, -, hdir⟩
  · rw [hsame]
    exact hclear before hbefore text
  · rw [hdir]
    simp

/-- What was a directory is one. -/
theorem directory_of_directory (h : t.Grown t' place) (hdir : t.entryAt other = some .directory) :
    t'.entryAt other = some .directory := by
  rcases h other with hsame | ⟨-, hnone, -⟩
  · rw [hsame, hdir]
  · rw [hdir] at hnone
    cases hnone

/-- If the place is a directory in the end, no file was in the way. -/
theorem clear_of_directory (h : t.Grown t' place) (hdir : t'.entryAt place = some .directory) :
    t.Clear place := by
  intro before hbefore text hfile
  rcases h before with hsame | ⟨-, hnone, -⟩
  · have hfront := directory_of_above hdir hbefore
    rw [hsame, hfile] at hfront
    cases hfront
  · rw [hfile] at hnone
    cases hnone

/-- If the place is a directory already, nothing is made. -/
theorem eq_of_directory (h : t.Grown t' place) (hdir : t.entryAt place = some .directory) :
    t' = t := by
  refine ext fun other => ?_
  rcases h other with hsame | ⟨hother, hnone, -⟩
  · exact hsame
  · rw [directory_of_above hdir hother] at hnone
    cases hnone

end Grown

/-- Dots that do not count lead nowhere. -/
theorem placeOf_counted (first : String) (rest : List String) :
    placeOf (first :: rest.filter (· ≠ Path.here)) = placeOf (first :: rest) := by
  rw [placeOf, placeOf, List.filter_cons, List.filter_cons, List.filter_filter]
  simp

/-- The directories above are on the way. -/
theorem placeOf_parentSegments (segments : List String) :
    placeOf (parentSegments segments) <+: placeOf segments := by
  cases segments with
  | nil => exact List.prefix_rfl
  | cons first rest =>
    rw [← placeOf_counted]
    exact (List.dropLast_prefix _).filter _

theorem parentSegments_subset (segments : List String) : parentSegments segments ⊆ segments := by
  intro segment hmem
  cases segments with
  | nil => exact hmem
  | cons first rest =>
    have hcounted := List.dropLast_subset _ hmem
    rw [List.mem_cons, List.mem_filter] at hcounted
    exact List.mem_cons.2 (hcounted.imp_right And.left)

theorem above_notMem_parentSegments (h : Path.above ∉ segments) :
    Path.above ∉ parentSegments segments :=
  fun hmem => h (parentSegments_subset segments hmem)

/-- What an answer says about the directories that were to be made. -/
structure Made (t : FileTree) (segments : List String) (answer : Except FileError Unit)
    (made : FileTree) : Prop where
  grown : t.Grown made (placeOf segments)
  /-- If they are not refused, they are there. -/
  follow_eq : answer = .ok () → made.follow [] segments = .ok (placeOf segments)
  directory : answer = .ok () → made.entryAt (placeOf segments) = some .directory
  /-- If a file is in the way, none of them was made. -/
  unchanged : ∀ e, answer = .error e → e.IsClash → made = t

/-- The answer to an attempt is that of the directory if it is there. -/
theorem Made.of_refused (habove : Path.above ∉ segments) (hgrown : t.Grown made (placeOf segments))
    {e : FileError}
    (hunchanged : made.leadsToDirectory segments = false → e.IsClash → made = t) :
    t.Made segments (if made.leadsToDirectory segments then .ok () else .error e) made := by
  by_cases hleads : made.leadsToDirectory segments = true
  · obtain ⟨place, hfollow, hdir⟩ := leadsToDirectory_iff.1 hleads
    obtain rfl : place = placeOf segments := by simpa using eq_of_follow habove hfollow
    rw [if_pos hleads]
    exact ⟨hgrown, fun _ => hfollow, fun _ => hdir, nofun⟩
  · rw [if_neg hleads]
    refine ⟨hgrown, nofun, nofun, fun e' he' hclash => ?_⟩
    cases he'
    exact hunchanged (by simpa using hleads) hclash

/-- A directory that was made is one more. -/
theorem Made.of_makeDirectory {between : FileTree} (habove : Path.above ∉ segments)
    (hgrown : t.Grown between (placeOf segments))
    (h : between.makeDirectory segments = .ok made) : t.Made segments (.ok ()) made := by
  obtain ⟨hnone, hfollow, hdir, hothers⟩ := exists_put_of_makeDirectory habove h
  have hlast : between.Grown made (placeOf segments) := by
    intro other
    by_cases hother : other = placeOf segments
    · rw [hother]
      exact Or.inr ⟨List.prefix_rfl, hnone, hdir⟩
    · exact Or.inl (hothers other hother)
  exact ⟨hgrown.trans List.prefix_rfl hlast, fun _ => hfollow, fun _ => hdir, nofun⟩

/-- The directories on the way are made one behind the other, or a file was in the way of the first
attempt already. -/
theorem made_of_makeDirectories (habove : Path.above ∉ segments) :
    t.Made segments (t.makeDirectories segments).1 (t.makeDirectories segments).2 := by
  fun_induction makeDirectories t segments with
  | case1 => exact ⟨.refl t _, fun _ => rfl, fun _ => t.root_eq, nofun⟩
  | case2 segments _ made hmake => exact .of_makeDirectory habove (.refl t _) hmake
  | case3 segments _ hmissing e changed hparent ih =>
    have hchanged := ih fun hmem => habove (parentSegments_subset segments hmem)
    rw [hparent] at hchanged
    exact ⟨hchanged.grown.trans (placeOf_parentSegments segments) (.refl changed _), nofun, nofun,
      hchanged.unchanged⟩
  | case4 segments _ hmissing changed hparent made hmake ih =>
    have hchanged := ih fun hmem => habove (parentSegments_subset segments hmem)
    rw [hparent] at hchanged
    exact .of_makeDirectory habove
      (hchanged.grown.trans (placeOf_parentSegments segments) (.refl changed _)) hmake
  | case5 segments _ hmissing changed hparent e hmake ih =>
    have hchanged := ih fun hmem => habove (parentSegments_subset segments hmem)
    rw [hparent] at hchanged
    have hgrown : t.Grown changed (placeOf segments) :=
      hchanged.grown.trans (placeOf_parentSegments segments) (.refl changed _)
    have hclear := hgrown.clear (clear_of_makeDirectory_notFound habove hmissing).2
    refine .of_refused habove hgrown fun hleads hclash => ?_
    rcases leadsToDirectory_or_not_isClash habove hclear hmake with hleads' | hclash'
    · exact absurd hleads' (by simp [hleads])
    · exact absurd hclash hclash'
  | case6 segments _ e _ hmake =>
    exact .of_refused habove (.refl t _) fun _ _ => rfl

/-- Where no file stands on the way, directories are refused for no clash. -/
theorem not_isClash_of_makeDirectories (habove : Path.above ∉ segments)
    (hclear : t.Clear (placeOf segments)) {e : FileError}
    (h : (t.makeDirectories segments).1 = .error e) : ¬ e.IsClash := by
  fun_induction makeDirectories t segments with
  | case1 => cases h
  | case2 => cases h
  | case3 segments _ _ e' changed hparent ih =>
    cases h
    refine ih (above_notMem_parentSegments habove) (fun before hbefore => ?_) (by rw [hparent])
    exact hclear before (hbefore.trans (placeOf_parentSegments segments))
  | case4 => cases h
  | case5 segments _ _ changed hparent e' hmake ih =>
    have hchanged := made_of_makeDirectories (t := t) (above_notMem_parentSegments habove)
    rw [hparent] at hchanged
    have hgrown : t.Grown changed (placeOf segments) :=
      hchanged.grown.trans (placeOf_parentSegments segments) (.refl changed _)
    split_ifs at h with hleads
    cases h
    exact (leadsToDirectory_or_not_isClash habove (hgrown.clear hclear) hmake).resolve_left hleads
  | case6 segments _ e' _ hmake =>
    split_ifs at h with hleads
    cases h
    exact (leadsToDirectory_or_not_isClash habove hclear hmake).resolve_left hleads

/-- Directories that are there are made again without a change. -/
theorem makeDirectories_of_directory (hfollow : t.follow [] segments = .ok place)
    (hdir : t.entryAt place = some .directory) : t.makeDirectories segments = (.ok (), t) := by
  by_cases hnil : segments = []
  · rw [makeDirectories, dif_pos hnil]
  · have hleads : t.leadsToDirectory segments = true :=
      leadsToDirectory_iff.2 ⟨place, hfollow, hdir⟩
    rw [makeDirectories, dif_neg hnil, makeDirectory_of_follow hfollow]
    simp [hleads]

/-! ## Names that fit -/

theorem eq_notFound_or_isClash_of_makeDirectory
    (hshort : ∀ segment ∈ segments, Path.isOverlong segment = false) {e : FileError}
    (h : t.makeDirectory segments = .error e) : e = .notFound ∨ e.IsClash := by
  rcases follow_of_makeDirectory h with ⟨rfl, -⟩ | ⟨hfollow, -⟩
  · exact Or.inr .exists
  · obtain ⟨before, segment, rest, middle, rfl, -, hstuck⟩ := exists_stuck_of_follow hfollow
    cases hstuck with
    | notFound => exact Or.inl rfl
    | notDirectory => exact Or.inr .notDirectory
    | nameTooLong _ _ _ hlong => simp [hshort segment (by simp)] at hlong

/-- Segments of which the last is a name, or all are dots that stand for the directory itself. -/
def EndsInName (segments : List String) : Prop :=
  segments.getLast? = some Path.here → placeOf segments = []

instance (segments : List String) : Decidable (EndsInName segments) :=
  inferInstanceAs (Decidable (_ → _))

theorem endsInName_parentSegments (segments : List String) :
    EndsInName (parentSegments segments) := by
  cases segments with
  | nil => exact fun _ => rfl
  | cons first rest =>
    intro hlast
    -- Behind the first segment no dots are left, so the last is a dot only if it is the first.
    have hrest : Path.here ∉ rest.filter (· ≠ Path.here) := by simp
    obtain ⟨before, hbefore⟩ := List.getLast?_eq_some_iff.1 hlast
    have hway : before ++ [Path.here] <+: first :: rest.filter (· ≠ Path.here) :=
      hbefore ▸ List.dropLast_prefix _
    cases before with
    | nil =>
      rw [hbefore]
      exact placeOf_here_cons []
    | cons other names =>
      exact absurd ((List.cons_prefix_cons.1 hway).2.subset (by simp)) hrest

/-- The directory above one that ends in a name is at the place without that name. -/
theorem placeOf_dropLast (hend : EndsInName segments) :
    placeOf segments.dropLast = placeOf (parentSegments segments) := by
  rcases List.eq_nil_or_concat' segments with rfl | ⟨before, name, rfl⟩
  · rfl
  · rw [List.dropLast_concat]
    by_cases hname : name = Path.here
    · have hnil : placeOf (before ++ [name]) = [] := hend (by rw [List.getLast?_concat, hname])
      have hparent := placeOf_parentSegments (before ++ [name])
      rw [hnil, List.prefix_nil] at hparent
      rw [placeOf_append, List.append_eq_nil_iff] at hnil
      rw [hparent, hnil.1]
    · cases before with
      | nil => rfl
      | cons first rest =>
        have hcounted : (rest ++ [name]).filter (· ≠ Path.here) =
            rest.filter (· ≠ Path.here) ++ [name] := by simp [hname]
        rw [List.cons_append, parentSegments]
        simp only [hcounted, ← List.cons_append, List.dropLast_concat]
        rw [placeOf_counted]

/-- Where names fit, directories whose path ends in a name are refused only if a file is in the
way. -/
theorem isClash_of_makeDirectories (habove : Path.above ∉ segments)
    (hshort : ∀ segment ∈ segments, Path.isOverlong segment = false) (hend : EndsInName segments)
    {e : FileError} (h : (t.makeDirectories segments).1 = .error e) : e.IsClash := by
  fun_induction makeDirectories t segments with
  | case1 => cases h
  | case2 => cases h
  | case3 segments _ _ e' changed hparent ih =>
    cases h
    exact ih (above_notMem_parentSegments habove)
      (fun segment hmem => hshort segment (parentSegments_subset segments hmem))
      (endsInName_parentSegments segments) (by rw [hparent])
  | case4 => cases h
  | case5 segments _ hmissing changed hparent e' hmake ih =>
    have hchanged := made_of_makeDirectories (t := t) (above_notMem_parentSegments habove)
    rw [hparent] at hchanged
    split_ifs at h
    cases h
    refine (eq_notFound_or_isClash_of_makeDirectory hshort hmake).resolve_left ?_
    rintro rfl
    have hnone := (clear_of_makeDirectory_notFound habove hmake).1
    rw [placeOf_dropLast hend] at hnone
    cases hnone.symm.trans (hchanged.directory rfl)
  | case6 segments _ e' hne hmake =>
    split_ifs at h
    cases h
    exact (eq_notFound_or_isClash_of_makeDirectory hshort hmake).resolve_left hne

/-! ## Paths -/

/-- A path is refused for its text alone without a look at any file. -/
theorem not_isClash_of_refusal {path : String} {e : FileError} (h : Path.refusal? path = some e) :
    ¬ e.IsClash := by
  unfold Path.refusal? at h
  split_ifs at h <;> cases h <;> exact nofun

variable {directory : String} {answer : Except FileError Unit}

theorem made_of_createDirectories (habove : Path.above ∉ Path.segments directory)
    (h : t.createDirectories directory = (answer, made)) :
    t.Made (Path.segments directory) answer made := by
  unfold createDirectories at h
  cases hrefusal : Path.refusal? directory with
  | some e =>
    rw [hrefusal] at h
    cases h
    exact ⟨.refl t _, nofun, nofun, fun _ _ _ => rfl⟩
  | none =>
    simp only [hrefusal] at h
    have hmade := made_of_makeDirectories (t := t) habove
    rwa [h] at hmade

/-- If directories are refused for a clash, a file stands on the way. -/
theorem not_clear_of_createDirectories (habove : Path.above ∉ Path.segments directory)
    {e : FileError} (hclash : e.IsClash)
    (h : t.createDirectories directory = (.error e, made)) :
    ¬ t.Clear (placeOf (Path.segments directory)) := by
  intro hclear
  unfold createDirectories at h
  cases hrefusal : Path.refusal? directory with
  | some e' =>
    rw [hrefusal] at h
    cases h
    exact not_isClash_of_refusal hrefusal hclash
  | none =>
    simp only [hrefusal] at h
    exact not_isClash_of_makeDirectories habove hclear (congrArg Prod.fst h) hclash

/-- A directory that was made once is made again without a change. -/
theorem createDirectories_again {before : FileTree}
    (h : before.createDirectories directory = (.ok (), made))
    (hfollow : t.follow [] (Path.segments directory) = .ok place)
    (hdir : t.entryAt place = some .directory) : t.createDirectories directory = (.ok (), t) := by
  unfold createDirectories at h ⊢
  cases hrefusal : Path.refusal? directory with
  | some e =>
    rw [hrefusal] at h
    cases h
  | none => exact makeDirectories_of_directory hfollow hdir

/-- Where names fit, the directories of a path that ends in a name are refused only if a file is in
the way. -/
theorem isClash_of_createDirectories (habove : Path.above ∉ Path.segments directory)
    (hrefusal : Path.refusal? directory = none)
    (hshort : ∀ segment ∈ Path.segments directory, Path.isOverlong segment = false)
    (hend : EndsInName (Path.segments directory)) {e : FileError}
    (h : t.createDirectories directory = (.error e, made)) : e.IsClash := by
  unfold createDirectories at h
  rw [hrefusal] at h
  exact isClash_of_makeDirectories habove hshort hend (congrArg Prod.fst h)

end FileTree

end ConstructSchema
