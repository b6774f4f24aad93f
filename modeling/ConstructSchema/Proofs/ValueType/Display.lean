import ConstructSchema.Proofs.Descriptor.Shape

/-!
The short text of a value type tells what it is.

A text starts with a label, which has no bracket and no bar, and behind the label it is over or a
bracket opens. Whatever stands behind the text of a value type shows that no label goes on there
(`Follows`), so the label and then the part in brackets can be taken off, and texts of different
types differ (`eq_of_display_append`). The brackets of a text close what they open, and they nest as
deeply as the type does below its outermost level (`deepestAngle_display`). All this asks of the
names in a type that they do not look like anything else, and names that resolving makes do not
(`legible_of_resolveRevisions`).
-/

namespace ConstructSchema

namespace ValueType

/-! ## Legible types -/

/-- A character that neither opens nor closes anything and divides nothing. -/
def isNameChar (c : Char) : Bool :=
  c != '<' && c != '>' && c != '|'

/-- A text of such characters only. -/
def IsPlain (s : String) : Prop := ∀ c ∈ s.toList, isNameChar c = true

instance (s : String) : Decidable (IsPlain s) :=
  decidable_of_iff (s.toList.all isNameChar = true) List.all_eq_true

/-- A name that can be told from everything else a text may show in its place. -/
structure IsTypeName (name : String) : Prop where
  ne_empty : name ≠ ""
  ne_primitive : ∀ kind : Primitive, name ≠ kind.name
  plain : IsPlain name

/-- A type in which every union has members and every name can be told from everything else. -/
inductive Legible : ValueType → Prop
  | primitive (kind : Primitive) : Legible (.primitive kind)
  | named {name : String} : IsTypeName name → Legible (.named name)
  | listOf {element : ValueType} : Legible element → Legible (.listOf element)
  | mapOf {element : ValueType} : Legible element → Legible (.mapOf element)
  | unionOf {members : List ValueType} : members ≠ [] → (∀ member ∈ members, Legible member) →
    Legible (.unionOf members)

/-! ## Labels -/

/-- What the text of a type starts with. -/
def label : ValueType → String
  | .primitive kind => kind.name
  | .named name => name
  | .listOf _ => "list"
  | .mapOf _ => "map"
  | .unionOf _ => "union"

/-- What stands in the text of a type behind its label. -/
def brackets : ValueType → List Char
  | .primitive _ | .named _ => []
  | .listOf element | .mapOf element => '<' :: (element.display.toList ++ ['>'])
  | .unionOf members => '<' :: ((displayMembers members).toList ++ ['>'])

theorem toList_display (v : ValueType) : v.display.toList = v.label.toList ++ v.brackets := by
  cases v <;> simp [display, label, brackets]

theorem isPlain_primitive (kind : Primitive) : IsPlain kind.name := by
  cases kind <;> decide

theorem Legible.isPlain_label {v : ValueType} (h : v.Legible) : IsPlain v.label := by
  cases h with
  | primitive kind => exact isPlain_primitive kind
  | named hname => exact hname.plain
  | listOf => exact (by decide : IsPlain "list")
  | mapOf => exact (by decide : IsPlain "map")
  | unionOf => exact (by decide : IsPlain "union")

/-- What may stand behind the text of a type: the end, a bracket that closes, or a bar between two
members of a union. -/
inductive Follows : List Char → Prop
  | nothing : Follows []
  | closing (rest : List Char) : Follows ('>' :: rest)
  | bar (rest : List Char) : Follows (' ' :: '|' :: rest)

/-- What may stand behind a label: what may stand behind a type, or a bracket that opens. -/
inductive Cuts : List Char → Prop
  | follows {cs : List Char} : Follows cs → Cuts cs
  | opening (rest : List Char) : Cuts ('<' :: rest)

/-- A blank in front of a bar could go on with a label, but then the bar could not stand there. -/
theorem Cuts.eq_of_dropWhile {x y : List Char} (hx : Cuts x) (hy : Cuts y)
    (h : x.dropWhile isNameChar = y.dropWhile isNameChar) : x = y := by
  have hchars : isNameChar '<' = false ∧ isNameChar '>' = false ∧ isNameChar '|' = false ∧
      isNameChar ' ' = true := by decide
  rcases hx with hx | x <;> rcases hy with hy | y
  · cases hx <;> cases hy <;> simp_all
  · cases hx <;> simp_all
  · cases hy <;> simp_all
  · simpa [hchars] using h

/-- A label ends where it is cut off. -/
theorem eq_of_label_append {a b : String} {x y : List Char} (ha : IsPlain a) (hb : IsPlain b)
    (hx : Cuts x) (hy : Cuts y) (h : a.toList ++ x = b.toList ++ y) : a = b ∧ x = y := by
  have hdrop : x.dropWhile isNameChar = y.dropWhile isNameChar := by
    rw [← List.dropWhile_append_of_pos ha, h, List.dropWhile_append_of_pos hb]
  have hxy : x = y := hx.eq_of_dropWhile hy hdrop
  rw [hxy, List.append_cancel_right_eq, String.toList_inj] at h
  exact ⟨h, hxy⟩

theorem cuts_brackets_append (v : ValueType) {r : List Char} (hr : Follows r) :
    Cuts (v.brackets ++ r) := by
  cases v with
  | primitive | named => exact .follows hr
  | listOf | mapOf | unionOf => exact .opening _

/-- Primitives differ in their names. -/
theorem primitive_eq_of_name_eq {k l : Primitive} (h : k.name = l.name) : k = l := by
  cases k <;> cases l <;> first | rfl | exact absurd h (by decide)

theorem toList_displayFurther_cons (member : ValueType) (rest : List ValueType) :
    (displayFurther (member :: rest)).toList =
      ' ' :: '|' :: ' ' :: (member.display.toList ++ (displayFurther rest).toList) := by
  simp [displayFurther]

theorem follows_displayFurther (members : List ValueType) (r : List Char) :
    Follows ((displayFurther members).toList ++ '>' :: r) := by
  cases members with
  | nil => exact .closing r
  | cons member rest =>
    rw [toList_displayFurther_cons]
    exact .bar _

/-! ## Texts of different types differ -/

/-- What stands behind a label begins with a bracket for a container only. -/
theorem Follows.ne_opening {r rest : List Char} (h : Follows r) : r ≠ '<' :: rest := by
  cases h <;> simp

mutual

/-- The text of a type can be taken off from whatever may follow it, in one way only. -/
theorem eq_of_display_append {v w : ValueType} (hv : v.Legible) (hw : w.Legible) {r r' : List Char}
    (hr : Follows r) (hr' : Follows r')
    (h : v.display.toList ++ r = w.display.toList ++ r') : v = w ∧ r = r' := by
  rw [toList_display, toList_display, List.append_assoc, List.append_assoc] at h
  obtain ⟨hlabel, hbrackets⟩ := eq_of_label_append hv.isPlain_label hw.isPlain_label
    (cuts_brackets_append v hr) (cuts_brackets_append w hr') h
  cases v with
  | primitive kind =>
    cases w with
    | primitive other => exact ⟨congrArg _ (primitive_eq_of_name_eq hlabel), hbrackets⟩
    | named name =>
      cases hw with | named hname => exact absurd hlabel.symm (hname.ne_primitive kind)
    | _ => exact absurd hbrackets hr.ne_opening
  | named name =>
    cases w with
    | primitive kind =>
      cases hv with | named hname => exact absurd hlabel (hname.ne_primitive kind)
    | named other => exact ⟨congrArg _ hlabel, hbrackets⟩
    | _ => exact absurd hbrackets hr.ne_opening
  | listOf element =>
    cases w with
    | primitive | named => exact absurd hbrackets.symm hr'.ne_opening
    | mapOf | unionOf => exact absurd hlabel (by simp [label])
    | listOf other =>
      cases hv with | listOf hv => cases hw with | listOf hw =>
      obtain ⟨rfl, hrest⟩ := eq_of_display_append hv hw (.closing r) (.closing r')
        (by simpa [brackets] using hbrackets)
      exact ⟨rfl, (List.cons.inj hrest).2⟩
  | mapOf element =>
    cases w with
    | primitive | named => exact absurd hbrackets.symm hr'.ne_opening
    | listOf | unionOf => exact absurd hlabel (by simp [label])
    | mapOf other =>
      cases hv with | mapOf hv => cases hw with | mapOf hw =>
      obtain ⟨rfl, hrest⟩ := eq_of_display_append hv hw (.closing r) (.closing r')
        (by simpa [brackets] using hbrackets)
      exact ⟨rfl, (List.cons.inj hrest).2⟩
  | unionOf members =>
    cases w with
    | primitive | named => exact absurd hbrackets.symm hr'.ne_opening
    | listOf | mapOf => exact absurd hlabel (by simp [label])
    | unionOf others =>
      cases hv with | unionOf hne hv => cases hw with | unionOf hne' hw =>
      match members, others with
      | [], _ => exact absurd rfl hne
      | _, [] => exact absurd rfl hne'
      | member :: rest, other :: rest' =>
        obtain ⟨rfl, hrest⟩ := eq_of_display_append (hv member List.mem_cons_self)
          (hw other List.mem_cons_self) (follows_displayFurther rest r)
          (follows_displayFurther rest' r')
          (by simpa [brackets, displayMembers] using hbrackets)
        obtain ⟨rfl, hend⟩ := eq_of_displayFurther_append
          (fun m hm => hv m (List.mem_cons_of_mem _ hm))
          (fun m hm => hw m (List.mem_cons_of_mem _ hm)) hrest
        exact ⟨rfl, hend⟩

/-- The texts of further members can be taken off up to the bracket that closes the union. -/
theorem eq_of_displayFurther_append {vs ws : List ValueType} (hv : ∀ v ∈ vs, v.Legible)
    (hw : ∀ w ∈ ws, w.Legible) {r r' : List Char}
    (h : (displayFurther vs).toList ++ '>' :: r = (displayFurther ws).toList ++ '>' :: r') :
    vs = ws ∧ r = r' := by
  match vs, ws with
  | [], [] => exact ⟨rfl, by simpa [displayFurther] using h⟩
  | [], w :: rest' => simp [displayFurther] at h
  | v :: rest, [] => simp [displayFurther] at h
  | v :: rest, w :: rest' =>
    obtain ⟨rfl, hrest⟩ := eq_of_display_append (hv v List.mem_cons_self)
      (hw w List.mem_cons_self) (follows_displayFurther rest r) (follows_displayFurther rest' r')
      (by simpa [toList_displayFurther_cons] using h)
    obtain ⟨rfl, hend⟩ := eq_of_displayFurther_append
      (fun m hm => hv m (List.mem_cons_of_mem _ hm))
      (fun m hm => hw m (List.mem_cons_of_mem _ hm)) hrest
    exact ⟨rfl, hend⟩

end

/-! ## Brackets -/

/-- The greatest number of angle brackets in a text that are open at one place, behind `opened` of
them. -/
def deepestAngle : Nat → List Char → Nat
  | opened, [] => opened
  | opened, c :: cs =>
    if c = '<' then deepestAngle (opened + 1) cs
    else if c = '>' then max opened (deepestAngle (opened - 1) cs)
    else deepestAngle opened cs

/-- The greatest number of angle brackets that are open at one place of a text. -/
def angleNesting (text : String) : Nat :=
  deepestAngle 0 text.toList

/-- Brackets that are open already count. -/
theorem le_deepestAngle (opened : Nat) (cs : List Char) : opened ≤ deepestAngle opened cs := by
  induction cs generalizing opened with
  | nil => exact Nat.le_refl opened
  | cons c rest ih =>
    have hmore := ih (opened + 1)
    have hsame := ih opened
    rw [deepestAngle]
    split_ifs <;> omega

/-- A label is passed over. -/
theorem deepestAngle_append_of_isPlain {label : String} (h : IsPlain label) (opened : Nat)
    (cs : List Char) : deepestAngle opened (label.toList ++ cs) = deepestAngle opened cs := by
  unfold IsPlain at h
  generalize label.toList = chars at h
  induction chars with
  | nil => rfl
  | cons c rest ih =>
    obtain ⟨hc, hrest⟩ := List.forall_mem_cons.1 h
    simp only [isNameChar, Bool.and_eq_true, bne_iff_ne] at hc
    rw [List.cons_append, deepestAngle, if_neg hc.1.1, if_neg hc.1.2, ih hrest]

/-- What stands between brackets is one level deeper. -/
theorem deepestAngle_brackets (opened : Nat) (inner cs : List Char) :
    deepestAngle opened ('<' :: (inner ++ '>' :: cs)) =
      deepestAngle (opened + 1) (inner ++ '>' :: cs) := by
  rw [deepestAngle, if_pos rfl]

theorem deepestAngle_closing (opened : Nat) (cs : List Char) :
    deepestAngle (opened + 1) ('>' :: cs) = max (opened + 1) (deepestAngle opened cs) := by
  simp [deepestAngle]

theorem depth_pos (v : ValueType) : 0 < v.depth := by
  cases v <;> simp only [depth] <;> omega

mutual

/-- The text of a type has as many brackets open as the type has levels below the outermost, and in
the end as many as before. -/
theorem deepestAngle_display {v : ValueType} (h : v.Legible) (opened : Nat) (cs : List Char) :
    deepestAngle opened (v.display.toList ++ cs) =
      max (opened + (v.depth - 1)) (deepestAngle opened cs) := by
  have hle := le_deepestAngle opened cs
  rw [toList_display, List.append_assoc, deepestAngle_append_of_isPlain h.isPlain_label]
  cases h with
  | primitive kind =>
    simp only [brackets, List.nil_append, depth]
    omega
  | named hname =>
    simp only [brackets, List.nil_append, depth]
    omega
  | @listOf element helement | @mapOf element helement =>
    have hpos := element.depth_pos
    simp only [brackets, List.cons_append, List.append_assoc, List.nil_append, depth]
    rw [deepestAngle_brackets, deepestAngle_display helement, deepestAngle_closing]
    omega
  | @unionOf members hne hmembers =>
    match members with
    | [] => exact absurd rfl hne
    | member :: rest =>
      have hpos := member.depth_pos
      have hmember := hmembers member List.mem_cons_self
      have hrest : ∀ m ∈ rest, m.Legible := fun m hm => hmembers m (List.mem_cons_of_mem _ hm)
      simp only [brackets, displayMembers, String.toList_append, List.cons_append,
        List.append_assoc, List.nil_append, depth, maxDepth]
      rw [← List.append_assoc, deepestAngle_brackets, List.append_assoc,
        deepestAngle_display hmember, deepestAngle_displayFurther hrest, deepestAngle_closing]
      omega

theorem deepestAngle_displayFurther {vs : List ValueType} (h : ∀ v ∈ vs, v.Legible) (opened : Nat)
    (cs : List Char) :
    deepestAngle opened ((displayFurther vs).toList ++ cs) =
      max (opened + (maxDepth vs - 1)) (deepestAngle opened cs) := by
  have hle := le_deepestAngle opened cs
  match vs with
  | [] =>
    simp only [displayFurther, String.toList_empty, List.nil_append, maxDepth]
    omega
  | v :: rest =>
    have hpos := v.depth_pos
    have hv := h v List.mem_cons_self
    have hrest : ∀ m ∈ rest, m.Legible := fun m hm => h m (List.mem_cons_of_mem _ hm)
    have hbar : ∀ tail, deepestAngle opened (' ' :: '|' :: ' ' :: tail) =
        deepestAngle opened tail := fun tail => by simp [deepestAngle]
    simp only [toList_displayFurther_cons, List.cons_append, List.append_assoc, maxDepth]
    rw [hbar, deepestAngle_display hv, deepestAngle_displayFurther hrest]
    omega

end

end ValueType

open ValueType

/-! ## What resolving gives -/

namespace Descriptor

variable {nameOf : String → Option String} {resourceType : String}

theorem isPlain_append {a b : String} (ha : IsPlain a) (hb : IsPlain b) : IsPlain (a ++ b) := by
  intro c hc
  rw [String.toList_append, List.mem_append] at hc
  exact hc.elim (ha c) (hb c)

/-- No primitive has a dot in its name. -/
theorem isTypeName_qualified {name : String} (hresource : IsPlain resourceType)
    (hname : IsPlain name) : IsTypeName (resourceType ++ "." ++ name) where
  ne_empty h := by simpa using congrArg String.toList h
  ne_primitive kind h := by
    have hdot : '.' ∈ kind.name.toList := by
      rw [← h]
      simp
    revert hdot
    cases kind <;> decide
  plain := isPlain_append (isPlain_append hresource (by decide)) hname

theorem isTypeName_tagTypeName : IsTypeName tagTypeName :=
  ⟨by decide, by intro kind; cases kind <;> decide, by decide⟩

mutual

theorem Mirrors.legible {d : Descriptor} {v : ValueType} (hresource : IsPlain resourceType)
    (hnames : ∀ id name, nameOf id = some name → IsPlain name)
    (h : d.Mirrors nameOf resourceType v) : v.Legible := by
  cases h with
  | primitive => exact .primitive _
  | tag => exact .named isTypeName_tagTypeName
  | ref hid => exact .named (isTypeName_qualified hresource (hnames _ _ hid))
  | array helement => exact .listOf (helement.legible hresource hnames)
  | map helement => exact .mapOf (helement.legible hresource hnames)
  | union hne hmembers =>
    refine .unionOf ?_ (forall_legible_of_mirrors hresource hnames hmembers)
    rintro rfl
    exact hne (List.forall₂_nil_right_iff.1 hmembers)

theorem forall_legible_of_mirrors {ds : List Descriptor} {vs : List ValueType}
    (hresource : IsPlain resourceType)
    (hnames : ∀ id name, nameOf id = some name → IsPlain name)
    (h : List.Forall₂ (Mirrors nameOf resourceType) ds vs) : ∀ v ∈ vs, v.Legible := by
  cases h with
  | nil => simp
  | cons hfirst hrest =>
    exact List.forall_mem_cons.2 ⟨hfirst.legible hresource hnames,
      forall_legible_of_mirrors hresource hnames hrest⟩

end

/-- A type that a descriptor resolves to is legible, if the names it is put together from are. -/
theorem legible_of_resolveRevisions {current : Descriptor} {previous : List Descriptor}
    {v : ValueType} (hresource : IsPlain resourceType)
    (hnames : ∀ id name, nameOf id = some name → IsPlain name)
    (h : current.resolveRevisions nameOf resourceType previous = .ok v) : v.Legible := by
  rw [resolveRevisions_eq_resolve_merged, resolve_eq_ok_iff] at h
  exact h.legible hresource hnames

end Descriptor

namespace ValueType

/-- **The text of a legible type tells what it is.** Types with the same text are the same, and the
brackets of the text nest as deeply as the type does below its outermost level. Whatever resolving
gives is legible, if no bracket and no bar is in the type of the resource or in a name. -/
theorem display_tells_type :
    (∀ v w : ValueType, v.Legible → w.Legible → v.display = w.display → v = w) ∧
    (∀ v : ValueType, v.Legible → v.depth = 1 + angleNesting v.display) ∧
    (∀ (nameOf : String → Option String) (resourceType : String) (current : Descriptor)
      (previous : List Descriptor) (v : ValueType), IsPlain resourceType →
      (∀ id name, nameOf id = some name → IsPlain name) →
      current.resolveRevisions nameOf resourceType previous = .ok v → v.Legible) := by
  refine ⟨fun v w hv hw h => ?_, fun v hv => ?_, fun _ _ _ _ _ hresource hnames h => ?_⟩
  · have hchars : v.display.toList ++ [] = w.display.toList ++ [] := by rw [h]
    exact (eq_of_display_append hv hw .nothing .nothing hchars).1
  · have hchars := deepestAngle_display hv 0 []
    have hpos := v.depth_pos
    rw [List.append_nil, deepestAngle] at hchars
    rw [angleNesting, hchars]
    omega
  · exact Descriptor.legible_of_resolveRevisions hresource hnames h

/-- A type that is read off its text. -/
theorem display_tells_type_rules :
    (unionOf [.listOf (.named "AWS::S3::Bucket.Rule"), .primitive .string]).Legible ∧
      ∀ w : ValueType, w.Legible → w.display = "union<list<AWS::S3::Bucket.Rule> | string>" →
        w = .unionOf [.listOf (.named "AWS::S3::Bucket.Rule"), .primitive .string] ∧
          w.depth = 3 := by
  have hlegible : (unionOf [.listOf (.named "AWS::S3::Bucket.Rule"), .primitive .string]).Legible :=
    display_tells_type.2.2 (fun id => if id = "t" then some "Rule" else none) "AWS::S3::Bucket"
      (.array (.ref "t")) [.string] _ (by decide)
      (by
        intro id name h
        split_ifs at h
        cases h
        decide)
      rfl
  refine ⟨hlegible, fun w hw hdisplay => ?_⟩
  obtain rfl := display_tells_type.1 w _ hw hlegible hdisplay
  exact ⟨rfl, (display_tells_type.2.1 _ hw).trans rfl⟩

end ValueType

end ConstructSchema
