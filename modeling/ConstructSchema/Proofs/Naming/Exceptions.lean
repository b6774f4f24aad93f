import ConstructSchema.Naming.Yaml
import Mathlib.Data.List.Basic

/-!
The exceptions of conventions that are read from a text.

The built-in exceptions come first and the listed ones are added one by one, each unless it is there
already (`foldl_addException`). So nothing is there twice, and whatever is added once more changes
nothing: conventions that were read are as they would be after another reading
(`mergeExceptions_mergeExceptions`). Exceptions are applied in order, so a name is respelled as it
is by default and from there on by what was added (`ofText_completes`).
-/

namespace ConstructSchema.Conventions

variable {known listed : List NameException} {e : NameException}

/-! ## One more exception -/

theorem addException_of_mem (h : e ∈ known) : addException known e = known := if_pos h

theorem addException_of_not_mem (h : e ∉ known) : addException known e = known ++ [e] := if_neg h

/-- Nothing comes in twice. -/
theorem nodup_addException (h : known.Nodup) (e : NameException) :
    (addException known e).Nodup := by
  by_cases he : e ∈ known
  · rwa [addException_of_mem he]
  · rw [addException_of_not_mem he, List.nodup_append]
    refine ⟨h, List.pairwise_singleton _ e, fun a ha b hb => ?_⟩
    rintro rfl
    exact he (List.mem_singleton.1 hb ▸ ha)

/-! ## A list of exceptions -/

/-- The exceptions of a list that are not known, in their order, each at its first place only. -/
def newExceptions (known listed : List NameException) : List NameException :=
  (listed.removeAll known).eraseDups

/-- Behind a known exception the list goes on as if it were not there. -/
theorem newExceptions_cons_of_mem (h : e ∈ known) :
    newExceptions known (e :: listed) = newExceptions known listed := by
  simp [newExceptions, List.removeAll, h]

/-- Behind a new exception it is one of those that are known. -/
theorem newExceptions_cons_of_not_mem (h : e ∉ known) :
    newExceptions known (e :: listed) = e :: newExceptions (known ++ [e]) listed := by
  have hfilter : listed.removeAll (known ++ [e]) = (listed.removeAll known).filter (!· == e) := by
    rw [List.removeAll, List.removeAll, List.filter_filter]
    refine List.filter_congr fun a _ => ?_
    by_cases hae : a = e <;> simp [hae, h]
  have hhead : (e :: listed).removeAll known = e :: listed.removeAll known := by
    simp [List.removeAll, h]
  rw [newExceptions, newExceptions, hhead, List.eraseDups_cons, hfilter]

/-- A list that is added one by one leaves its new exceptions behind the known ones. -/
theorem foldl_addException (known listed : List NameException) :
    listed.foldl addException known = known ++ newExceptions known listed := by
  induction listed generalizing known with
  | nil => simp [newExceptions, List.removeAll]
  | cons e rest ih =>
    by_cases he : e ∈ known
    · rw [List.foldl_cons, addException_of_mem he, ih, newExceptions_cons_of_mem he]
    · rw [List.foldl_cons, addException_of_not_mem he, ih, newExceptions_cons_of_not_mem he,
        List.append_assoc, List.singleton_append]

theorem nodup_foldl_addException (h : known.Nodup) (listed : List NameException) :
    (listed.foldl addException known).Nodup := by
  induction listed generalizing known with
  | nil => exact h
  | cons e rest ih => exact ih (nodup_addException h e)

/-- Exceptions that are known already change nothing. -/
theorem foldl_addException_of_mem (h : ∀ e ∈ listed, e ∈ known) :
    listed.foldl addException known = known := by
  induction listed with
  | nil => rfl
  | cons e rest ih =>
    rw [List.foldl_cons, addException_of_mem (h e List.mem_cons_self),
      ih fun a ha => h a (List.mem_cons_of_mem e ha)]

/-- Exceptions of which each is new are all kept. -/
theorem foldl_addException_of_nodup (h : (known ++ listed).Nodup) :
    listed.foldl addException known = known ++ listed := by
  induction listed generalizing known with
  | nil => simp
  | cons e rest ih =>
    have he : e ∉ known := fun hmem =>
      (List.nodup_append.1 h).2.2 e hmem e List.mem_cons_self rfl
    have hrest : ((known ++ [e]) ++ rest).Nodup := by simpa using h
    rw [List.foldl_cons, addException_of_not_mem he, ih hrest, List.append_assoc,
      List.singleton_append]

/-! ## The built-in exceptions and those of a list -/

theorem mergeExceptions_eq (listed : List NameException) :
    mergeExceptions listed = builtinExceptions ++ newExceptions builtinExceptions listed :=
  foldl_addException builtinExceptions listed

/-- Both lists one behind the other, without what stood before. -/
theorem mergeExceptions_eq_eraseDups (listed : List NameException) :
    mergeExceptions listed = (builtinExceptions ++ listed).eraseDups := by
  have hbuiltin : builtinExceptions.eraseDups = builtinExceptions := by decide
  rw [mergeExceptions_eq, List.eraseDups_append, hbuiltin, newExceptions]

theorem nodup_mergeExceptions (listed : List NameException) : (mergeExceptions listed).Nodup :=
  nodup_foldl_addException (by decide) listed

/-- What was merged is as it would be after it was merged again. -/
theorem mergeExceptions_mergeExceptions (listed : List NameException) :
    mergeExceptions (mergeExceptions listed) = mergeExceptions listed := by
  have hnodup : (builtinExceptions ++ newExceptions builtinExceptions listed).Nodup :=
    mergeExceptions_eq listed ▸ nodup_mergeExceptions listed
  rw [mergeExceptions_eq listed, mergeExceptions, List.foldl_append,
    foldl_addException_of_mem fun _ h => h, foldl_addException_of_nodup hnodup]

/-! ## Respelled names -/

/-- What a name becomes by a list of exceptions: each in turn replaces the first occurrence of its
part in what the one before left, if the part occurs there. -/
inductive Respelled : List NameException → String → String → Prop
  | done (name : String) : Respelled [] name name
  | next {e : NameException} {later : List NameException} {name between result : String}
    (first : Text.FirstReplaced e.source e.target name between)
    (rest : Respelled later between result) : Respelled (e :: later) name result

/-- A list of exceptions makes one text of a name. -/
theorem respell_eq_iff {exceptions : List NameException} {name result : String} :
    respell exceptions name = result ↔ Respelled exceptions name result := by
  induction exceptions generalizing name with
  | nil =>
    constructor
    · intro h
      obtain rfl : name = result := h
      exact .done name
    · intro h
      cases h
      rfl
  | cons e later ih =>
    constructor
    · intro h
      exact .next (NameException.apply_eq_iff.1 rfl) (ih.1 h)
    · intro h
      cases h with
      | next hfirst hrest =>
        rw [← NameException.apply_eq_iff.2 hfirst] at hrest
        exact ih.2 hrest

/-- A name is respelled by one list and then by the other. -/
theorem respell_append (first second : List NameException) (name : String) :
    respell (first ++ second) name = respell second (respell first name) :=
  List.foldl_append ..

/-- By default one part is respelled, where it occurs first. -/
theorem applyExceptions_default_eq_iff {name result : String} :
    ({} : Conventions).applyExceptions name = result ↔
      Text.FirstReplaced "ApiGatewayV2" "APIGatewayV2" name result :=
  NameException.apply_eq_iff

/-! ## Conventions from a text -/

/-- The conventions `c` are those that a text lists, completed by the built-in exceptions. -/
structure Completes (listed c : Conventions) : Prop where
  /-- The built-in exceptions and the listed ones in their order, without what stood before. -/
  exceptions_eq_eraseDups :
    c.csharpExceptions = (builtinExceptions ++ listed.csharpExceptions).eraseDups
  /-- So the built-in exceptions stay in front, and behind them are those that are new. -/
  exceptions_eq_append : c.csharpExceptions =
    builtinExceptions ++ newExceptions builtinExceptions listed.csharpExceptions
  nodup : c.csharpExceptions.Nodup
  mem_iff : ∀ e, e ∈ c.csharpExceptions ↔ e ∈ builtinExceptions ∨ e ∈ listed.csharpExceptions
  /-- To put the built-in exceptions first once more changes nothing. -/
  withBuiltins_eq : c.withBuiltins = c
  /-- Everything else is as it is listed. -/
  elsewhere : c = { listed with csharpExceptions := c.csharpExceptions }
  /-- A name is respelled by default, and then by the exceptions that are new, in their order. -/
  applyExceptions_eq_iff : ∀ name result, c.applyExceptions name = result ↔
    Respelled (newExceptions builtinExceptions listed.csharpExceptions)
      (({} : Conventions).applyExceptions name) result

theorem completes_withBuiltins (listed : Conventions) : listed.Completes listed.withBuiltins where
  exceptions_eq_eraseDups := mergeExceptions_eq_eraseDups listed.csharpExceptions
  exceptions_eq_append := mergeExceptions_eq listed.csharpExceptions
  nodup := nodup_mergeExceptions listed.csharpExceptions
  mem_iff e := by simp [withBuiltins, mergeExceptions_eq_eraseDups, List.mem_eraseDups]
  withBuiltins_eq := by simp [withBuiltins, mergeExceptions_mergeExceptions]
  elsewhere := rfl
  applyExceptions_eq_iff name result := by
    rw [← respell_eq_iff]
    simp only [applyExceptions, withBuiltins, mergeExceptions_eq, respell_append]

/-- **Listed exceptions add to the built-in ones.** Of a text that can be decoded the conventions
are those that it lists, with the built-in exceptions put in front and no exception twice, whether
or not the text is that of a file. The default conventions need nothing put in front either: they
have the one built-in exception, and respell the first occurrence of its part in a name. -/
theorem ofText_completes {text : String} {listed : Conventions}
    (h : Yaml.decodeText ofYaml text = .ok listed) :
    (∃ c, ofText text = .ok c ∧ (∀ path, ofFile path text = .ok c) ∧ listed.Completes c) ∧
      ({} : Conventions).withBuiltins = {} ∧
      ({} : Conventions).csharpExceptions = builtinExceptions ∧
      builtinExceptions = [⟨"ApiGatewayV2", "APIGatewayV2"⟩] ∧
      ∀ name result, ({} : Conventions).applyExceptions name = result ↔
        Text.FirstReplaced "ApiGatewayV2" "APIGatewayV2" name result := by
  refine ⟨⟨listed.withBuiltins, ?_, fun path => ?_, completes_withBuiltins listed⟩, by decide,
    rfl, rfl, fun _ _ => applyExceptions_default_eq_iff⟩
  · unfold ofText
    rw [h]
  · unfold ofFile
    rw [h]

/-- A list with the same exception twice, and a built-in one between. -/
def listedTwice : List NameException :=
  [⟨"Iot", "IoT"⟩, ⟨"ApiGatewayV2", "APIGatewayV2"⟩, ⟨"Iot", "IoT"⟩]

/-- The list as a text. -/
def listedTwiceText : String :=
  "csharp_service_exceptions: [\x7bfrom: Iot, to: IoT\x7d, " ++
    "\x7bfrom: ApiGatewayV2, to: APIGatewayV2\x7d, \x7bfrom: Iot, to: IoT\x7d]"

theorem decodeText_listedTwiceText :
    Yaml.decodeText ofYaml listedTwiceText = .ok { csharpExceptions := listedTwice } := by
  decide +kernel

/-- What is listed respells a name, at the first occurrence only, and the built-in exception goes
on to respell another one. -/
theorem ofText_completes_listedTwice :
    Yaml.decodeText ofYaml listedTwiceText = .ok { csharpExceptions := listedTwice } ∧
      ∃ c, ofText listedTwiceText = .ok c ∧
        Completes { csharpExceptions := listedTwice } c ∧
        c.csharpExceptions = [⟨"ApiGatewayV2", "APIGatewayV2"⟩, ⟨"Iot", "IoT"⟩] ∧
        c.applyExceptions "IotEvents" = "IoTEvents" ∧
        c.applyExceptions "IotIotApiGatewayV2" = "IoTIotAPIGatewayV2" ∧
        c.applyExceptions "Lambda" = "Lambda" := by
  refine ⟨decodeText_listedTwiceText, ?_⟩
  obtain ⟨⟨c, hc, -, hcompletes⟩, -⟩ := ofText_completes decodeText_listedTwiceText
  have hnames (name result : String) := hcompletes.applyExceptions_eq_iff name result
  refine ⟨c, hc, hcompletes, hcompletes.exceptions_eq_eraseDups, (hnames _ _).2 ?_,
    (hnames _ _).2 ?_, (hnames _ _).2 ?_⟩
  · exact respell_eq_iff.1 (by decide)
  · exact respell_eq_iff.1 (by decide)
  · exact respell_eq_iff.1 (by decide)

end ConstructSchema.Conventions
