import ConstructSchema.Json.Basic
import ConstructSchema.Proofs.Table

/-!
The order of the members of an object.

A decoder finds the members it wants by their names and passes over the others, so their order
matters only for which fault is reported first. Where no name stands twice, `OrderFree` decoders
succeed with one result for every order or for none. `Arranges` describes a function that reorders
the members of all objects in a value: leaving them as they are is one (`arranges_id`), sorting them
by name is another (`arranges_sorted`). What is encoded and then arranged decodes as what is only
encoded (`OrderFree.decode_arranged`).
-/

namespace ConstructSchema

/-! ## Records -/

namespace Record

variable {V α : Type} {skippable : V → Bool} {known : List (String × Option Fault)}

/-- A member that does not stop a check when the names in `seen` stood before: one that belongs to
no field and can be passed over, or a field that is not there yet and has no fault. -/
def Passes (skippable : V → Bool) (known : List (String × Option Fault)) (seen : List String)
    (m : String × V) : Prop :=
  match known.lookup m.1 with
  | none => skippable m.2 = true
  | some fault => fault = none ∧ m.1 ∉ seen

/-- The names of members that are names of fields. -/
def fieldNames (known : List (String × Option Fault)) (members : List (String × V)) :
    List String :=
  (members.map (·.1)).filter fun name => (known.lookup name).isSome

/-- A check succeeds exactly if each member passes and no field stands twice. -/
theorem checkMembers_eq_ok_iff {seen : List String} {members : List (String × V)} :
    checkMembers skippable known seen members = .ok () ↔
      (∀ m ∈ members, Passes skippable known seen m) ∧ (fieldNames known members).Nodup := by
  induction members generalizing seen with
  | nil => simp [checkMembers, fieldNames]
  | cons m rest ih =>
    obtain ⟨name, value⟩ := m
    rw [checkMembers, List.forall_mem_cons, Passes, fieldNames, List.map_cons, List.filter_cons]
    cases h : known.lookup name with
    | none =>
      by_cases hskip : skippable value = true
      · simp only [hskip, if_true, ih, Option.isSome_none, true_and, Bool.false_eq_true, if_false]
        rfl
      · simp [hskip]
    | some fault =>
      by_cases hseen : name ∈ seen
      · simp [hseen]
      · cases fault with
        | some fault => simp [hseen]
        | none =>
          -- The rest must not hold the name again, whatever stood before.
          have hrest : (∀ m ∈ rest, Passes skippable known (name :: seen) m) ↔
              (∀ m ∈ rest, Passes skippable known seen m) ∧ name ∉ fieldNames known rest := by
            have hmem : name ∉ fieldNames known rest ↔ ∀ m ∈ rest, m.1 ≠ name := by
              simp only [fieldNames, List.mem_filter, List.mem_map, h, Option.isSome_some, and_true,
                not_exists, not_and, ne_eq]
            rw [hmem, ← forall₂_and]
            refine forall₂_congr fun m _ => ?_
            unfold Passes
            by_cases hname : m.1 = name
            · simp [hname, h]
            · cases known.lookup m.1 <;> simp [hname]
          simp only [hseen, if_false, ih, hrest, not_false_eq_true, true_and, Option.isSome_some,
            if_true, List.nodup_cons, and_assoc]
          rfl

/-- Whether a check of named members succeeds does not depend on their order. -/
theorem check_named_perm {members members' : List (String × V)} (h : members.Perm members') :
    (named members).check skippable known = .ok () ↔
      (named members').check skippable known = .ok () := by
  have hcheck : ∀ members : List (String × V), (named members).check skippable known = .ok () ↔
      checkMembers skippable known [] members = .ok () := by
    intro members
    rw [check, named]
    cases checkMembers skippable known [] members <;> simp
  have hnames : (fieldNames known members).Perm (fieldNames known members') :=
    (h.map _).filter _
  rw [hcheck, hcheck, checkMembers_eq_ok_iff, checkMembers_eq_ok_iff, hnames.nodup_iff]
  simp only [h.mem_iff]

/-- Where no name stands twice, the field of a name does not depend on the order. -/
theorem field_named_perm {members members' : List (String × V)} (h : members.Perm members')
    (hnodup : (members.map (·.1)).Nodup) (name : String) (decode : V → Except Fault α) :
    (named members).field name decode = (named members').field name decode := by
  have hnodup' : (members'.map (·.1)).Nodup := (h.map _).nodup_iff.1 hnodup
  have hlookup : members.lookup name = members'.lookup name := by
    apply Option.ext
    intro value
    rw [lookup_eq_some_iff_mem hnodup, lookup_eq_some_iff_mem hnodup', h.mem_iff]
  rw [field, field, named, named, hlookup]

/-- A field that has to be there, among named members. -/
@[simp] theorem required_named (members : List (String × V)) (name : String)
    (value : Option (Except Fault α)) :
    (named members).required name value = value.getD (.error (.missingField name)) := by
  cases value <;> rfl

@[simp] theorem optional_some (default : α) (value : Except Fault α) :
    optional default (some value) = value := rfl

@[simp] theorem faultOf_ok (a : α) : faultOf (some (.ok a : Except Fault α)) = none := rfl

@[simp] theorem optional_none (default : α) :
    optional default (none : Option (Except Fault α)) = .ok default := rfl

@[simp] theorem field_named_nil (name : String) (decode : V → Except Fault α) :
    (named []).field name decode = none := rfl

/-- A field is looked for in the first member, and then in the others. -/
@[simp] theorem field_named_cons (m : String × V) (members : List (String × V)) (name : String)
    (decode : V → Except Fault α) :
    (named (m :: members)).field name decode =
      if name = m.1 then some (decode m.2) else (named members).field name decode := by
  rw [field, named, lookup_cons_eq_ite]
  split <;> rfl

end Record

namespace Json

variable {α : Type}

/-! ## Decoders -/

@[simp] theorem text_string (s : String) : text (.string s) = .ok s := rfl

@[simp] theorem record_object (names : List String) (members : List (String × Json)) :
    record names (.object members) = .ok (.named members) := rfl

/-- A decoder to which the order of the members of an object does not matter. -/
def OrderFree (decode : Json → Except Fault α) : Prop :=
  ∀ {members members' : List (String × Json)}, members.Perm members' →
    (members.map (·.1)).Nodup → ∀ a, decode (.object members) = .ok a →
      decode (.object members') = .ok a

/-- A check before the rest of a decoder succeeds for another order as well. -/
theorem checkFields_bind_perm {members members' : List (String × Json)}
    (h : members.Perm members') {known : List (String × Option Fault)}
    {f : Unit → Except Fault α} {a : α}
    (ha : (checkFields (.named members) known >>= f) = .ok a) :
    (checkFields (.named members') known >>= f) = .ok a := by
  rw [bind_eq_ok_iff] at ha ⊢
  obtain ⟨u, hcheck, hf⟩ := ha
  exact ⟨u, (Record.check_named_perm h).1 hcheck, hf⟩

/-- Members that are some of the fields, each once, and none with a fault, pass the check. -/
theorem checkFields_named_eq_ok {members : List (String × Json)}
    {known : List (String × Option Fault)} (hmembers : (members.map (·.1)).Nodup)
    (hknown : (known.map (·.1)).Nodup) (hsubset : ∀ m ∈ members, (m.1, none) ∈ known) :
    checkFields (.named members) known = .ok () := by
  have hcheck : Record.checkMembers skippableMember known [] members = .ok () := by
    rw [Record.checkMembers_eq_ok_iff]
    refine ⟨fun m hm => ?_, hmembers.filter _⟩
    rw [Record.Passes, (lookup_eq_some_iff_mem hknown).2 (hsubset m hm)]
    exact ⟨rfl, List.not_mem_nil⟩
  rw [checkFields, Record.check, Record.named, hcheck]
  rfl

/-! ## Arrangements -/

/-- A function that puts the members of each object of a value into some order, at every depth, and
changes nothing else. -/
structure Arranges (f : Json → Json) : Prop where
  null : f .null = .null
  bool : ∀ b, f (.bool b) = .bool b
  string : ∀ s, f (.string s) = .string s
  array : ∀ items, f (.array items) = .array (items.map f)
  object : ∀ members, (members.map (·.1)).Nodup → ∃ members',
    f (.object members) = .object members' ∧ (members.map fun m => (m.1, f m.2)).Perm members'

theorem arranges_id : Arranges id where
  null := rfl
  bool _ := rfl
  string _ := rfl
  array items := by simp
  object members _ := ⟨members, rfl, by simp⟩

theorem sortedItems_eq_map (items : List Json) : sortedItems items = items.map sorted := by
  induction items with
  | nil => rfl
  | cons item rest ih => rw [sortedItems, ih, List.map_cons]

theorem sortedValues_eq_map (members : List (String × Json)) :
    sortedValues members = members.map fun m => (m.1, m.2.sorted) := by
  induction members with
  | nil => rfl
  | cons m rest ih => rw [sortedValues, ih, List.map_cons]

theorem arranges_sorted : Arranges sorted where
  null := rfl
  bool _ := rfl
  string _ := rfl
  array items := by rw [sorted, sortedItems_eq_map]
  object members hnodup := by
    refine ⟨_, rfl, ?_⟩
    rw [sortedValues_eq_map]
    exact (Table.entries_ofList_perm (by simpa [List.map_map, Function.comp_def] using hnodup)).symm

section

variable {f : Json → Json} (hf : Arranges f) {decode : Json → Except Fault α}
include hf

/-- What decodes with its parts arranged decodes when it is arranged as a whole. -/
theorem OrderFree.decode_arranged (hfree : OrderFree decode) {members : List (String × Json)}
    (hnodup : (members.map (·.1)).Nodup) {a : α}
    (h : decode (.object (members.map fun m => (m.1, f m.2))) = .ok a) :
    decode (f (.object members)) = .ok a := by
  obtain ⟨members', hobject, hperm⟩ := hf.object members hnodup
  rw [hobject]
  exact hfree hperm (by simpa [List.map_map, Function.comp_def] using hnodup) a h

/-- An arranged object has the same members, each arranged. -/
theorem Arranges.exists_lookup {members : List (String × Json)}
    (hnodup : (members.map (·.1)).Nodup) :
    ∃ members', f (.object members) = .object members' ∧
      ∀ {name value}, (name, value) ∈ members → members'.lookup name = some (f value) := by
  obtain ⟨members', hobject, hperm⟩ := hf.object members hnodup
  refine ⟨members', hobject, fun {name value} hmem => ?_⟩
  have hnodup' : (members'.map (·.1)).Nodup := by
    rw [← (hperm.map (·.1)).nodup_iff]
    simpa [List.map_map, Function.comp_def] using hnodup
  rw [lookup_eq_some_iff_mem hnodup', ← hperm.mem_iff]
  exact List.mem_map_of_mem (f := fun m => (m.1, f m.2)) hmem

/-- One member can stand in only one order. -/
theorem Arranges.object_singleton (name : String) (value : Json) :
    f (.object [(name, value)]) = .object [(name, f value)] := by
  obtain ⟨members, hobject, hperm⟩ := hf.object [(name, value)] (by simp)
  rw [hobject, List.singleton_perm.1 hperm]

/-! An encoder is given with a decoder that undoes it, also behind the arrangement. -/

variable {encode : α → Json}

theorem listOf_arranged {as : List α} (h : ∀ a ∈ as, decode (f (encode a)) = .ok a) :
    listOf decode (f (.array (as.map encode))) = .ok as := by
  rw [hf.array, listOf, List.map_map]
  exact mapM_map_eq_ok h

theorem tableOf_arranged (h : ∀ a, decode (f (encode a)) = .ok a) (t : Table α) :
    tableOf decode (f (.ofTable encode t)) = .ok t := by
  have hnodup : ((t.entries.map fun e => (e.1, encode e.2)).map (·.1)).Nodup := by
    simpa [List.map_map, Function.comp_def] using t.ascending.nodup_names
  obtain ⟨members', hobject, hperm⟩ := hf.object _ hnodup
  have hentries : ((t.entries.map fun e => (e.1, encode e.2)).map fun m => (m.1, f m.2)).mapM
      (fun m => (decode m.2).map (Prod.mk m.1 ·)) = .ok t.entries := by
    rw [List.map_map]
    refine mapM_map_eq_ok fun e _ => ?_
    simp only [Function.comp_apply, h]
    rfl
  obtain ⟨pairs, hpairs, hpermPairs⟩ := exists_mapM_perm hperm hentries
  rw [ofTable, hobject, tableOf, hpairs]
  exact congrArg Except.ok (Table.ofList_eq_of_perm hpermPairs.symm)

theorem nullable_flag_arranged (o : Option Bool) :
    nullable flag (f (ofOption .bool o)) = .ok o := by
  cases o with
  | none => rw [ofOption, hf.null]; rfl
  | some b => rw [ofOption, hf.bool]; rfl

theorem nullable_text_arranged (o : Option String) :
    nullable text (f (ofOption .string o)) = .ok o := by
  cases o with
  | none => rw [ofOption, hf.null]; rfl
  | some s => rw [ofOption, hf.string]; rfl

end

end Json

end ConstructSchema
