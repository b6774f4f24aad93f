import ConstructSchema.Proofs.Command.Generate
import ConstructSchema.Proofs.Schema.Checks

/-!
What `inspect` tells about a database, and what it tells about generation.

An inspection reads one file and changes none (`inspect_run`). The listing has an entry for each
resource of the table, in the order of the names (`shows_entries`). Generation asks for the owners
of resources of the table only: in the second pass it goes through the table, and in the first it
asks for the owners of parents, which are found through edges from the table
(`mem_values_of_owner_mem_checks`). So each failure of an owner is shown by an entry
(`exists_entry_of_schemas`), and a generation that has no such failure fails for its parents or its
descriptors (`owner_fails_or_besidesOwner`).
-/

namespace ConstructSchema

/-! ## Failures of the assembly -/

/-- The failures of an assembly that are not about the owner of a resource. -/
inductive Failure.BesidesOwner : Failure → Prop
  | parentNotFound (typeName : String) (found : Nat) : BesidesOwner (.parentNotFound typeName found)
  | missingReference (resourceType id : String) : BesidesOwner (.missingReference resourceType id)
  | malformedType (resourceType : String) (container : Container) :
    BesidesOwner (.malformedType resourceType container)

/-- A defective node is no matter of owners. -/
theorem Descriptor.besidesOwner_of_nodeFailure? {nameOf : String → Option String}
    {resourceType : String} {d : Descriptor} {failure : Failure}
    (h : nodeFailure? nameOf resourceType d = some failure) : failure.BesidesOwner := by
  unfold nodeFailure? at h
  split at h
  next id =>
    split_ifs at h
    cases h
    exact .missingReference resourceType id
  next =>
    cases h
    exact .malformedType resourceType .union
  next container =>
    cases h
    exact .malformedType resourceType container
  next => cases h

namespace Database

variable {db : Database}

/-- Owners are asked for resources of the table only: a parent is found through an edge from it. -/
theorem mem_values_of_owner_mem_checks {r : Resource} (h : Check.owner r ∈ db.checks) :
    r ∈ db.document.resources.values := by
  rcases List.mem_append.1 h with htypes | hresources
  · obtain ⟨t, -, hcheck⟩ := List.mem_flatMap.1 htypes
    rcases List.mem_cons.1 hcheck with hparent | hlater
    · cases hparent
    · obtain ⟨parent, hparent, hcheck⟩ := List.mem_flatMap.1 hlater
      rcases List.mem_cons.1 hcheck with howner | hproperty
      · cases howner
        exact db.mem_values_of_mem_parents hparent
      · simp [propertyChecks] at hproperty
  · obtain ⟨other, hother, hcheck⟩ := List.mem_flatMap.1 hresources
    rw [resourceChecks, List.cons_append] at hcheck
    rcases List.mem_cons.1 hcheck with howner | hlater
    · cases howner
      exact hother
    · simp [attributeChecks, propertyChecks] at hlater

/-- A lookup of an owner fails in one way. -/
theorem eq_serviceNotFound_of_serviceOf {r : Resource} {failure : Failure}
    (h : db.serviceOf r = .error failure) :
    ∃ found, failure = .serviceNotFound r.typeId found := by
  unfold serviceOf at h
  split at h
  next => cases h
  next found _ =>
    cases h
    exact ⟨found, rfl⟩

/-- An assembly fails for the owner of a resource of the table, or not for an owner. -/
theorem owner_fails_or_besidesOwner {c : Conventions} {failure : Failure}
    (h : db.schemas c = .error failure) :
    (∃ r ∈ db.document.resources.values, db.serviceOf r = .error failure) ∨
      failure.BesidesOwner := by
  have hfirst := db.failureOf_schemas c
  rw [h, failureOf_error] at hfirst
  obtain ⟨check, hmem, hfails⟩ := List.exists_of_findSome?_eq_some hfirst.symm
  cases check with
  | parent t =>
    rw [Check.failure?] at hfails
    split_ifs at hfails
    cases hfails
    exact Or.inr (.parentNotFound ..)
  | owner r =>
    rw [Check.failure?, ← failureOf_serviceOf, failureOf_eq_some_iff] at hfails
    exact Or.inl ⟨r, mem_values_of_owner_mem_checks hmem, hfails⟩
  | descriptor resourceType d =>
    obtain ⟨node, -, hnode⟩ := List.exists_of_findSome?_eq_some hfails
    exact Or.inr (Descriptor.besidesOwner_of_nodeFailure? hnode)

end Database

/-- If all resources have an owner, an assembly does not fail for one. -/
theorem Database.besidesOwner_of_schemas {db : Database} {c : Conventions} {failure : Failure}
    (howned : ∀ r ∈ db.document.resources.values, ∃ service, db.serviceOf r = .ok service)
    (h : db.schemas c = .error failure) : failure.BesidesOwner := by
  refine (owner_fails_or_besidesOwner h).resolve_left ?_
  intro ⟨r, hr, howner⟩
  obtain ⟨service, hservice⟩ := howned r hr
  simp [howner] at hservice

namespace Command

variable {db : Database} {r : Resource}

/-! ## Listings -/

/-- What is said of a resource of the type `typeId` that has `found` services, not exactly one. -/
def unownedText (typeId : String) (found : Nat) : String :=
  "Service not found for resource type " ++ typeId ++
    ": expected exactly one owning service, found " ++ toString found

theorem message_serviceNotFound (typeId : String) (found : Nat) :
    (Failure.serviceNotFound typeId found).message = unownedText typeId found := rfl

/-- What is shown about the owner of a resource: its name, or why there is none. -/
inductive ShowsOwner (db : Database) (r : Resource) : String → Prop
  | found {service : Service} (owned : db.serviceOf r = .ok service) : ShowsOwner db r service.name
  | missing {found : Nat} (fails : db.serviceOf r = .error (.serviceNotFound r.typeId found)) :
    ShowsOwner db r (unownedText r.typeId found)

/-- An entry that shows a resource: its type with its owner, and how many attributes and properties
it has. -/
def Shows (db : Database) (r : Resource) (entry : String) : Prop :=
  ∃ owner, ShowsOwner db r owner ∧
    entry = "  • " ++ r.typeId ++ " (" ++ owner ++ ")\n" ++
      "    Attributes: " ++ toString r.attributes.size ++
      "  Properties: " ++ toString r.properties.size ++ "\n"

/-- A text in which this is said of a resource. -/
def TellsUnowned (text : String) : Prop :=
  ∃ typeId found, (unownedText typeId found).toList <:+: text.toList

/-- The entry that the lines about a resource make up. -/
def entryOf (db : Database) (r : Resource) : String :=
  String.join ((resourceLines db r).map (· ++ "\n"))

theorem shows_entryOf (db : Database) (r : Resource) : Shows db r (entryOf db r) := by
  unfold entryOf resourceLines
  cases h : db.serviceOf r with
  | ok service =>
    refine ⟨_, .found h, ?_⟩
    simp [String.join_cons, ← String.toList_inj]
  | error failure =>
    obtain ⟨found, rfl⟩ := Database.eq_serviceNotFound_of_serviceOf h
    refine ⟨_, .missing h, ?_⟩
    simp [String.join_cons, ← String.toList_inj, message_serviceNotFound]

/-- There is one entry for each resource of the table, in the order of their names. -/
theorem shows_entries (db : Database) :
    List.Forall₂ (Shows db) db.document.resources.values
      (db.document.resources.values.map (entryOf db)) :=
  List.forall₂_map_right_iff.2 (List.forall₂_same.2 fun r _ => shows_entryOf db r)

/-- The lines about all resources are the entries, one behind the other. -/
theorem join_resourceLines (resources : List Resource) :
    String.join ((resources.flatMap (resourceLines db)).map (· ++ "\n")) =
      String.join (resources.map (entryOf db)) := by
  induction resources with
  | nil => rfl
  | cons r rest ih => simp [String.join_append, String.join_cons, ih, entryOf]

/-- Where the owner of a resource is missing, its entry says so. -/
theorem unownedText_infix_of_shows {entry : String} (h : Shows db r entry) {found : Nat}
    (hfails : db.serviceOf r = .error (.serviceNotFound r.typeId found)) :
    (unownedText r.typeId found).toList <:+: entry.toList := by
  obtain ⟨owner, howner, rfl⟩ := h
  obtain rfl : owner = unownedText r.typeId found := by
    cases howner with
    | found howned => simp [hfails] at howned
    | missing hfails' =>
      rw [hfails, Except.error.injEq, Failure.serviceNotFound.injEq] at hfails'
      rw [hfails'.2]
  refine ⟨("  • " ++ r.typeId ++ " (").toList, (")\n" ++
    "    Attributes: " ++ toString r.attributes.size ++
      "  Properties: " ++ toString r.properties.size ++ "\n").toList, ?_⟩
  simp

/-- Each resource that is listed has an entry. -/
theorem exists_shows_of_mem {resources : List Resource} {entries : List String}
    (h : List.Forall₂ (Shows db) resources entries) (hr : r ∈ resources) :
    ∃ entry ∈ entries, Shows db r entry := by
  induction h with
  | nil => cases hr
  | @cons first entry _ _ hshows _ ih =>
    rcases List.mem_cons.1 hr with rfl | hr
    · exact ⟨entry, List.mem_cons_self, hshows⟩
    · obtain ⟨other, hmem, hother⟩ := ih hr
      exact ⟨other, List.mem_cons_of_mem entry hmem, hother⟩

/-- If an assembly fails for an owner, an entry says so. -/
theorem exists_entry_of_schemas {entries : List String}
    (h : List.Forall₂ (Shows db) db.document.resources.values entries) {c : Conventions}
    {typeId : String} {found : Nat}
    (hfails : db.schemas c = .error (.serviceNotFound typeId found)) :
    ∃ entry ∈ entries, (unownedText typeId found).toList <:+: entry.toList := by
  rcases Database.owner_fails_or_besidesOwner hfails with ⟨r, hr, howner⟩ | hbesides
  · obtain ⟨found', hsame⟩ := Database.eq_serviceNotFound_of_serviceOf howner
    cases hsame
    obtain ⟨entry, hmem, hshows⟩ := exists_shows_of_mem h hr
    exact ⟨entry, hmem, unownedText_infix_of_shows hshows howner⟩
  · cases hbesides

/-- If no entry tells of a resource without an owner, all have one. -/
theorem owned_of_not_tellsUnowned {entries : List String}
    (h : List.Forall₂ (Shows db) db.document.resources.values entries)
    (hsilent : ∀ entry ∈ entries, ¬ TellsUnowned entry) (hr : r ∈ db.document.resources.values) :
    ∃ service, db.serviceOf r = .ok service := by
  cases howner : db.serviceOf r with
  | ok service => exact ⟨service, rfl⟩
  | error failure =>
    obtain ⟨found, rfl⟩ := Database.eq_serviceNotFound_of_serviceOf howner
    obtain ⟨entry, hmem, hshows⟩ := exists_shows_of_mem h hr
    exact absurd ⟨_, _, unownedText_infix_of_shows hshows howner⟩ (hsilent entry hmem)

/-- An entry of a listing is in it. -/
theorem infix_join_of_mem {entry : String} {entries : List String} (h : entry ∈ entries) :
    entry.toList <:+: (String.join entries).toList := by
  obtain ⟨before, behind, rfl⟩ := List.append_of_mem h
  refine ⟨(String.join before).toList, (String.join behind).toList, ?_⟩
  simp [String.join_append, String.join_cons]

/-! ## Inspections -/

/-- The lines before the listing: what was asked for, how many entities there are, and the edges
that name none of them. -/
def overviewLines (spec : String) (db : Database) : List String :=
  [verboseLine, databaseLine spec, "\n✓ Load successful!", "\nSpecification:",
    "  Services: " ++ toString db.document.services.size,
    "  Resources: " ++ toString db.document.resources.size,
    "  Type definitions: " ++ toString db.document.typeDefinitions.size] ++
  danglingLines true db.dangling ++ ["\nResources:"]

variable {t : FileTree} {spec : String}

/-- An inspection of a database succeeds and leaves the tree alone. -/
theorem inspect_run (hload : (Database.load FileTree.system spec t).1 = .ok db) (verbose : Bool) :
    inspect FileTree.system spec verbose t =
      (.success ((if verbose then [verboseLine] else []) ++ [databaseLine spec] ++
        summaryLines verbose db), t) := by
  have hrun : Database.load FileTree.system spec t = (.ok db, t) :=
    Prod.ext hload (by rw [Database.load_eq])
  unfold inspect
  rw [FileTree.bind_of_eq hrun]
  rfl

/-- With more printed, the listing follows the overview. -/
theorem output_inspect (hload : (Database.load FileTree.system spec t).1 = .ok db) :
    (inspect FileTree.system spec true t).1.output =
      String.join ((overviewLines spec db).map (· ++ "\n")) ++
        String.join (db.document.resources.values.map (entryOf db)) := by
  rw [inspect_run hload, ← join_resourceLines, ← String.join_append, ← List.map_append]
  simp [Outcome.success, summaryLines, overviewLines]

/-- **An inspection lists the failures of owners that a generation can meet.** It succeeds and
changes no file. With more printed, it lists each resource of the table once, in the order of their
names, which ascend byte by byte. If a generation with any conventions fails for the owner of a
resource, an entry of the listing has the text of this failure. So if all resources have an owner,
or no entry tells of one without, it can fail only for a parent or a descriptor. -/
theorem inspect_lists_owner_failures (t : FileTree) (spec : String) (db : Database)
    (hload : (Database.load FileTree.system spec t).1 = .ok db) :
    (∀ verbose, (inspect FileTree.system spec verbose t).2 = t ∧
      (inspect FileTree.system spec verbose t).1.exit = 0) ∧
    (db.document.resources.names.map bytes).Pairwise (· < ·) ∧
    ∃ entries, List.Forall₂ (Shows db) db.document.resources.values entries ∧
      (inspect FileTree.system spec true t).1.output =
        String.join ((overviewLines spec db).map (· ++ "\n")) ++ String.join entries ∧
      (∀ c typeId found, db.schemas c = .error (.serviceNotFound typeId found) →
        (Failure.serviceNotFound typeId found).message = unownedText typeId found ∧
        (unownedText typeId found).toList <:+: (String.join entries).toList ∧
        ∃ entry ∈ entries, (unownedText typeId found).toList <:+: entry.toList) ∧
      (∀ c failure, (∀ r ∈ db.document.resources.values, ∃ service, db.serviceOf r = .ok service) →
        db.schemas c = .error failure → failure.BesidesOwner) ∧
      ∀ c failure, (∀ entry ∈ entries, ¬ TellsUnowned entry) →
        db.schemas c = .error failure → failure.BesidesOwner := by
  have hentries := shows_entries db
  refine ⟨fun verbose => ?_, Table.pairwise_bytes _, _, hentries, output_inspect hload,
    fun c typeId found hfails => ?_, fun c failure => Database.besidesOwner_of_schemas,
    fun c failure hsilent => ?_⟩
  · rw [inspect_run hload]
    exact ⟨rfl, rfl⟩
  · obtain ⟨entry, hmem, htext⟩ := exists_entry_of_schemas hentries hfails
    exact ⟨message_serviceNotFound typeId found, htext.trans (infix_join_of_mem hmem), entry, hmem,
      htext⟩
  · exact Database.besidesOwner_of_schemas fun r => owned_of_not_tellsUnowned hentries hsilent

/-- The owner that a generation misses is missing in the listing. -/
theorem inspect_lists_owner_failures_ownerless :
    ownerless.schemas {} = .error (.serviceNotFound "AWS::S3::Bucket" 0) ∧
    (inspect FileTree.system "db.json" true ownerlessTree).1.exit = 0 ∧
    ("Service not found for resource type AWS::S3::Bucket: " ++
      "expected exactly one owning service, found 0").toList <:+:
        (inspect FileTree.system "db.json" true ownerlessTree).1.output.toList := by
  obtain ⟨hinspects, -, entries, -, houtput, hlists, -⟩ :=
    inspect_lists_owner_failures ownerlessTree "db.json" ownerless load_ownerless
  obtain ⟨-, htext, -⟩ := hlists {} _ _ schemas_ownerless
  refine ⟨schemas_ownerless, (hinspects true).2, htext.trans ?_⟩
  rw [houtput, String.toList_append]
  exact (List.suffix_append _ _).isInfix

end Command

end ConstructSchema
