import TextTemplate.Proofs.Coercion
import TextTemplate.Proofs.VariablePrecedence

/-!
What is built by a schema, and what is complained about if nothing is. Data fit a schema if they are a mapping of its
fields, and each field can be filled: by what is given for it, coerced, or else by its default. The order of the entries
does not matter. Of several mistakes the one told is about the mapping first, about its keys next, and about the fields
in the order of the schema last. Keys that cannot be written are told without a place.
-/

namespace TextTemplate

def Hint.IsSupported : Hint → Prop
  | dict key item => key.IsSupported ∧ item.IsSupported
  | unsupported _ => False
  | _ => True

def CoerceFailure.IsWithin (path : List Text) : CoerceFailure → Prop
  | config error => path <+: error.path
  | overflow | unwritable => True
  | unsupported _ => False

theorem CoerceFailure.IsWithin.outer {path steps : List Text} {failure : CoerceFailure}
    (within : failure.IsWithin (path ++ steps)) : failure.IsWithin path := by
  cases failure with
  | config error => exact (List.prefix_append path steps).trans within
  | overflow | unwritable => exact True.intro
  | unsupported typeName => exact within

theorem coerce_error_isWithin {hint : Hint} (supported : hint.IsSupported) {path : List Text} {value : Value}
    {failure : CoerceFailure} (failed : coerce hint path value = .error failure) : failure.IsWithin path := by
  induction hint generalizing path value with
  | any => cases failed
  | bool =>
      rcases coerce_bool_cases path value with ⟨truth, -, made⟩ | refused
      · cases made.symm.trans failed
      · obtain rfl := Except.error.inj (refused.symm.trans failed)
        exact List.prefix_rfl
  | str =>
      rcases coerce_str_cases path value with ⟨text, -, made⟩ | ⟨-, refused⟩
      · cases made.symm.trans failed
      · obtain rfl := Except.error.inj (refused.symm.trans failed)
        exact List.prefix_rfl
  | int =>
      rcases coerce_int_cases path value with ⟨number, made⟩ | ⟨-, overflowed⟩ | refused
      · cases made.symm.trans failed
      · obtain rfl := Except.error.inj (overflowed.symm.trans failed)
        exact True.intro
      · obtain rfl := Except.error.inj (refused.symm.trans failed)
        exact List.prefix_rfl
  | dict key item ihKey ihItem =>
      rcases dict_or_refused key item value with ⟨entries, rfl⟩ | refused
      · obtain ⟨entry, -, failed'⟩ := coerceEntries_error (coerce_dict_error_iff.mp failed)
        rcases coerceEntry_eq_error_iff.mp failed' with atKey | ⟨newKey, -, ⟨-, rfl⟩ | ⟨step, -, atItem⟩⟩
        · exact (ihKey supported.1 atKey).outer
        · exact True.intro
        · exact (ihItem supported.2 atItem).outer
      · obtain rfl := Except.error.inj ((coerce_dict_refused refused).symm.trans failed)
        exact List.prefix_rfl
  | unsupported typeName => exact supported.elim

namespace Schema

variable {schema : Schema} {entries entries' : List (Value × Value)}

def IsField (schema : Schema) (key : Value) : Prop :=
  ∃ field ∈ schema.fields, key = .text (.ofString field.name)

def given? (entries : List (Value × Value)) (field : Field) : Option Value :=
  Entries.find? Value.sameKey entries (.text (.ofString field.name))

inductive Fills (entries : List (Value × Value)) (field : Field) (value : Value) : Prop
  | given {input : Value} (isGiven : given? entries field = some input) (made : field.hint.Makes input value)
  | default (absent : given? entries field = none) (isDefault : field.default = some value)

def Fits (schema : Schema) (data : Value) : Prop :=
  ∃ entries, data = .dict entries ∧ (∀ entry ∈ entries, schema.IsField entry.1) ∧
    ∀ field ∈ schema.fields, ∃ value, Fills entries field value

inductive FieldFault (schema : Schema) (entries : List (Value × Value)) (field : Field) : BuildFailure → Prop
  | missing (absent : given? entries field = none) (noDefault : field.default = none) :
    FieldFault schema entries field (.config ⟨[.ofString field.name], "required field missing"⟩)
  | rejected {input : Value} {error : ConfigError} (isGiven : given? entries field = some input)
      (refused : coerce field.hint [.ofString field.name] input = .error (.config error))
      (placed : [.ofString field.name] <+: error.path) :
    FieldFault schema entries field (.config error)
  | overflow {input : Value} (isGiven : given? entries field = some input)
      (overflowed : coerce field.hint [.ofString field.name] input = .error .overflow) :
    FieldFault schema entries field .overflow
  | unwritable {input : Value} (isGiven : given? entries field = some input)
      (tooLong : coerce field.hint [.ofString field.name] input = .error .unwritable) :
    FieldFault schema entries field (.config ⟨[], schema.failedText Text.unwritableText⟩)

structure Unexpected (schema : Schema) (entries : List (Value × Value)) (extras : List Value) : Prop where
  nonempty : extras ≠ []
  unknown : ∀ key ∈ extras, ¬ schema.IsField key
  all : ∃ known, (∀ key ∈ known, schema.IsField key) ∧ (entries.map Prod.fst).Perm (known ++ extras)

def InOrder (keys : List Value) : Prop :=
  keys.Pairwise fun first second => ∃ name name', first.plain = some name ∧ second.plain = some name' ∧
    name.map CodePoint.code ≤ name'.map CodePoint.code

/-- The mistake in data that is told: the first one, in the order of the cases and, for fields, that of the schema. -/
inductive Fails (schema : Schema) : Value → BuildFailure → Prop
  | notMapping {data : Value} (other : ∀ entries, data ≠ .dict entries) :
    Fails schema data (.config ⟨[], "expected mapping for " ++ schema.name ++ ", got " ++ data.typeName⟩)
  | unexpected {entries : List (Value × Value)} {extras : List Value} {shown : List Char}
      (keys : schema.Unexpected entries extras) (inOrder : InOrder extras)
      (written : (Value.list extras).literal = some shown) :
    Fails schema (.dict entries) (.config ⟨[], "unexpected keys: " ++ String.ofList shown⟩)
  | unwritable {entries : List (Value × Value)} {extras : List Value} (keys : schema.Unexpected entries extras)
      (tooLong : ∃ key ∈ extras, key.plain = none) :
    Fails schema (.dict entries) (.config ⟨[], schema.failedText Text.unwritableText⟩)
  | field {entries : List (Value × Value)} {before after : List Field} {field : Field} {failure : BuildFailure}
      (known : ∀ entry ∈ entries, schema.IsField entry.1) (split : schema.fields = before ++ field :: after)
      (earlier : ∀ other ∈ before, ∃ value, Fills entries other value)
      (fault : FieldFault schema entries field failure) :
    Fails schema (.dict entries) failure

theorem hasField_iff {key : Value} : schema.hasField key = true ↔ schema.IsField key := by
  simp only [hasField, List.any_eq_true, IsField]
  refine exists_congr fun field => and_congr_right fun _ => ?_
  cases key with
  | text content => simpa [Value.sameKey, Value.sameKeyIf] using eq_comm
  | _ => simp [Value.sameKey, Value.sameKeyIf, Value.wholeNumber?]

/-! Fields. -/

theorem fieldValue_ok_iff {field : Field} {value : Value} :
    schema.fieldValue entries field = .ok value ↔ Fills entries field value := by
  rw [fieldValue]
  constructor
  · intro taken
    split at taken
    next input isGiven =>
      split at taken
      next coerced made =>
        obtain rfl := Except.ok.inj taken
        exact .given isGiven (coerce_elsewhere made)
      all_goals cases taken
    next absent =>
      split at taken
      next default isDefault =>
        obtain rfl := Except.ok.inj taken
        exact .default absent isDefault
      next => cases taken
  · rintro (⟨isGiven, made⟩ | ⟨absent, isDefault⟩)
    · rw [given?] at isGiven
      simp only [isGiven, made [.ofString field.name]]
    · rw [given?] at absent
      simp only [absent, isDefault]

theorem fieldFault_of_error {field : Field} (supported : field.hint.IsSupported) {failure : BuildFailure}
    (failed : schema.fieldValue entries field = .error failure) : FieldFault schema entries field failure := by
  rw [fieldValue] at failed
  split at failed
  next input isGiven =>
    split at failed
    next => cases failed
    next error refused =>
      obtain rfl := Except.error.inj failed
      exact .rejected isGiven refused (coerce_error_isWithin supported refused)
    next overflowed =>
      obtain rfl := Except.error.inj failed
      exact .overflow isGiven overflowed
    next tooLong =>
      obtain rfl := Except.error.inj failed
      exact .unwritable isGiven tooLong
    next refused => exact (coerce_error_isWithin supported refused).elim
  next absent =>
    split at failed
    next => cases failed
    next noDefault =>
      obtain rfl := Except.error.inj failed
      exact .missing absent noDefault

/-! Keys. -/

theorem unexpected_of_perm {extras : List Value} (perm : extras.Perm (schema.extraKeys entries))
    (some : extras ≠ []) : schema.Unexpected entries extras := by
  refine ⟨some, ?_, (entries.map Prod.fst).filter schema.hasField, ?_, ?_⟩
  · intro key member isField
    have unknown := (List.mem_filter.mp (perm.mem_iff.mp member)).2
    rw [hasField_iff.mpr isField] at unknown
    cases unknown
  · intro key member
    exact hasField_iff.mp (List.mem_filter.mp member).2
  · exact ((List.filter_append_perm schema.hasField _).symm).trans (perm.symm.append_left _)

def named? (key : Value) : Option (List Nat × Value) :=
  key.plain.map fun name => (name.map CodePoint.code, key)

theorem of_mapM_named? {keys : List Value} {named : List (List Nat × Value)} (written : keys.mapM named? = some named) :
    named.map Prod.snd = keys ∧
      ∀ pair ∈ named, ∃ name, pair.2.plain = some name ∧ pair.1 = name.map CodePoint.code := by
  induction keys generalizing named with
  | nil =>
      obtain rfl := Option.some.inj written
      exact ⟨rfl, List.forall_mem_nil _⟩
  | cons key rest ih =>
      rw [List.mapM_cons] at written
      obtain ⟨first, isFirst, written⟩ := Option.bind_eq_some_iff.mp written
      obtain ⟨others, ofRest, written⟩ := Option.bind_eq_some_iff.mp written
      obtain ⟨name, isName, rfl⟩ := Option.map_eq_some_iff.mp isFirst
      obtain rfl := Option.some.inj written
      obtain ⟨same, ofOthers⟩ := ih ofRest
      exact ⟨congrArg (key :: ·) same, List.forall_mem_cons.mpr ⟨⟨name, isName, rfl⟩, ofOthers⟩⟩

theorem sortedKeys_eq_some {keys sorted : List Value} (made : sortedKeys keys = some sorted) :
    sorted.Perm keys ∧ InOrder sorted := by
  obtain ⟨named, written, made⟩ := Option.bind_eq_some_iff.mp made
  obtain rfl := Option.some.inj made
  obtain ⟨rfl, ofNamed⟩ := of_mapM_named? written
  let precedes (first second : List Nat × Value) : Bool := !List.lex second.1 first.1
  have perm : (named.mergeSort precedes).Perm named := List.mergeSort_perm _ _
  have inOrder : (named.mergeSort precedes).Pairwise fun first second => precedes first second = true := by
    refine List.pairwise_mergeSort ?_ ?_ _
    · intro first second third
      simpa [precedes] using le_trans
    · intro first second
      simpa [precedes] using le_total _ _
  refine ⟨perm.map _, List.pairwise_map.mpr (inOrder.imp_of_mem ?_)⟩
  intro first second isFirst isSecond ordered
  obtain ⟨name, isName, codes⟩ := ofNamed first (perm.mem_iff.mp isFirst)
  obtain ⟨name', isName', codes'⟩ := ofNamed second (perm.mem_iff.mp isSecond)
  refine ⟨name, name', isName, isName', ?_⟩
  rw [← codes, ← codes']
  simpa [precedes] using ordered

theorem sortedKeys_eq_none {keys : List Value} (failed : sortedKeys keys = none) : ∃ key ∈ keys, key.plain = none := by
  have unnamed : keys.mapM named? = none := by
    cases written : keys.mapM named? with
    | none => rfl
    | some named =>
        rw [sortedKeys] at failed
        cases (congrArg (Option.bind · _) written).symm.trans failed
  obtain ⟨key, member, noName⟩ := mapM_eq_none_iff.mp unnamed
  exact ⟨key, member, Option.map_eq_none_iff.mp noName⟩

theorem fails_of_extraKeys (some : schema.extraKeys entries ≠ []) :
    schema.Fails (.dict entries) (.config ⟨[], schema.extraKeysText (schema.extraKeys entries)⟩) := by
  rw [extraKeysText]
  cases made : sortedKeys (schema.extraKeys entries) with
  | none => exact .unwritable (unexpected_of_perm (.refl _) some) (sortedKeys_eq_none made)
  | some extras =>
      obtain ⟨perm, inOrder⟩ := sortedKeys_eq_some made
      have keys : schema.Unexpected entries extras := by
        refine unexpected_of_perm perm ?_
        rintro rfl
        exact some perm.nil_eq.symm
      rw [Option.bind_some]
      cases written : (Value.list extras).literal with
      | some shown => exact .unexpected keys inOrder written
      | none =>
          rw [Value.literal, Option.map_eq_none_iff, Value.literals_eq_mapM, mapM_eq_none_iff] at written
          obtain ⟨key, member, noLiteral⟩ := written
          refine .unwritable keys ⟨key, member, ?_⟩
          rwa [Value.plain_eq_none_iff, Value.inserted_eq_none_iff]

/-! The order of entries. -/

theorem mem_of_find?_text {content : Text} {value : Value}
    (found : Entries.find? Value.sameKey entries (.text content) = some value) : (.text content, value) ∈ entries := by
  obtain ⟨known, same, member⟩ := Entries.mem_of_find? found
  obtain rfl := Value.sameKey_text_iff.mp same
  exact member

theorem exists_find?_text {content : Text} {value : Value} (member : (.text content, value) ∈ entries) :
    ∃ found, Entries.find? Value.sameKey entries (.text content) = some found := by
  induction entries with
  | nil => cases member
  | cons entry rest ih =>
      rw [Entries.find?]
      split
      next => exact ⟨_, rfl⟩
      next other =>
        refine ih (List.mem_of_ne_of_mem ?_ member)
        rintro rfl
        exact other (Value.sameKey_text_iff.mpr rfl)

theorem find?_text_of_mem (distinct : Entries.Distinct Value.sameKey entries) {content : Text} {value : Value}
    (member : (.text content, value) ∈ entries) :
    Entries.find? Value.sameKey entries (.text content) = some value := by
  have isText : (Value.text content).sameKey (.text content) = true := Value.sameKey_text_iff.mpr rfl
  induction entries with
  | nil => cases member
  | cons entry rest ih =>
      obtain ⟨apart, ofRest⟩ := List.pairwise_cons.mp distinct
      rcases List.mem_cons.mp member with rfl | later
      · rw [Entries.find?, if_pos isText]
      · rw [Entries.find?, if_neg (by simpa using apart _ later)]
        exact ih ofRest later

theorem given?_perm (distinct : Entries.Distinct Value.sameKey entries) (perm : entries.Perm entries') (field : Field) :
    given? entries' field = given? entries field := by
  have kept {value : Value} (found : given? entries' field = some value) : given? entries field = some value :=
    find?_text_of_mem distinct (perm.mem_iff.mpr (mem_of_find?_text found))
  cases found : given? entries' field with
  | some value => exact (kept found).symm
  | none =>
      cases found' : given? entries field with
      | none => rfl
      | some value =>
          obtain ⟨other, isGiven⟩ := exists_find?_text (perm.mem_iff.mp (mem_of_find?_text found'))
          cases found.symm.trans isGiven

theorem fills_perm (distinct : Entries.Distinct Value.sameKey entries) (perm : entries.Perm entries') {field : Field}
    {value : Value} : Fills entries field value ↔ Fills entries' field value := by
  have same := given?_perm distinct perm field
  constructor
  · rintro (⟨isGiven, made⟩ | ⟨absent, isDefault⟩)
    · exact .given (same.trans isGiven) made
    · exact .default (same.trans absent) isDefault
  · rintro (⟨isGiven, made⟩ | ⟨absent, isDefault⟩)
    · exact .given (same.symm.trans isGiven) made
    · exact .default (same.symm.trans absent) isDefault

/-! Building. -/

theorem build_ok_iff {data : Value} {values : List (String × Value)} : schema.build data = .ok values ↔
    ∃ entries, data = .dict entries ∧ (∀ entry ∈ entries, schema.IsField entry.1) ∧
      List.Forall₂ (fun field value => field.name = value.1 ∧ Fills entries field value.2) schema.fields values := by
  simp only [← @fieldValue_ok_iff schema, ← fieldValues_ok_iff, ← hasField_iff]
  constructor
  · intro built
    rcases schema.build_cases data with ⟨entries, rfl, known, same⟩ | ⟨error, refused⟩
    · exact ⟨entries, rfl, known, same.symm.trans built⟩
    · cases refused.symm.trans built
  · rintro ⟨entries, rfl, known, taken⟩
    exact (build_dict known).trans taken

theorem build_ok_iff_fits (schema : Schema) (data : Value) :
    (∃ values, schema.build data = .ok values) ↔ schema.Fits data := by
  simp only [build_ok_iff]
  rw [exists_comm]
  refine exists_congr fun entries => ?_
  rw [exists_and_left, exists_and_left, exists_forall₂_iff]
  simp

theorem fails_of_build {data : Value} (supported : ∀ field ∈ schema.fields, field.hint.IsSupported)
    {failure : BuildFailure} (failed : schema.build data = .error failure) : schema.Fails data failure := by
  cases data with
  | dict entries =>
      by_cases known : ∀ entry ∈ entries, schema.hasField entry.1 = true
      · rw [build_dict known, fieldValues_error_iff] at failed
        obtain ⟨before, field, after, split, earlier, fault⟩ := failed
        simp only [fieldValue_ok_iff] at earlier
        simp only [hasField_iff] at known
        have member : field ∈ schema.fields := by simp [split]
        exact .field known split earlier (fieldFault_of_error (supported field member) fault)
      · have some : schema.extraKeys entries ≠ [] := fun none => known (extraKeys_eq_nil_iff.mp none)
        have told : failure = .config ⟨[], schema.extraKeysText (schema.extraKeys entries)⟩ := by
          rw [build] at failed
          split at failed
          next none => exact absurd none some
          next => exact (Except.error.inj failed).symm
        rw [told]
        exact fails_of_extraKeys some
  | _ =>
      obtain rfl := Except.error.inj failed
      exact .notMapping (by simp)

theorem build_perm (distinct : Entries.Distinct Value.sameKey entries) (perm : entries.Perm entries')
    (values : List (String × Value)) : schema.build (.dict entries) = .ok values ↔
      schema.build (.dict entries') = .ok values := by
  simp only [build_ok_iff, Value.dict.injEq, exists_eq_left', fills_perm distinct perm, perm.mem_iff]

/-- Values are built exactly from data that fit the schema. Each field has what is given for it, coerced, or its
default, in the order of the schema, whatever the order of the entries; and else the first mistake is told. -/
theorem build_follows_schema (schema : Schema) (supported : ∀ field ∈ schema.fields, field.hint.IsSupported) :
    (∀ data, (∃ values, schema.build data = .ok values) ↔ schema.Fits data) ∧
    (∀ entries values, schema.build (.dict entries) = .ok values →
      List.Forall₂ (fun field value => field.name = value.1 ∧ Fills entries field value.2) schema.fields values) ∧
    (∀ entries entries' values, Entries.Distinct Value.sameKey entries → entries.Perm entries' →
      (schema.build (.dict entries) = .ok values ↔ schema.build (.dict entries') = .ok values)) ∧
    ∀ data failure, schema.build data = .error failure → schema.Fails data failure := by
  refine ⟨build_ok_iff_fits schema, ?_, ?_, fun data failure => fails_of_build supported⟩
  · intro entries values built
    obtain ⟨entries', same, -, filled⟩ := build_ok_iff.mp built
    obtain rfl := Value.dict.inj same
    exact filled
  · intro entries entries' values distinct perm
    exact build_perm distinct perm values

theorem build_follows_schema_first :
    let schema : Schema := ⟨"Job", [⟨"port", .int, none⟩, ⟨"tags", .dict .str .bool, none⟩, ⟨"name", .str, none⟩]⟩
    let data := Value.dict [(.text (.ofString "tags"), .int 0), (.text (.ofString "port"), .text (.ofString "x"))]
    (∀ field ∈ schema.fields, field.hint.IsSupported) ∧
      schema.build data = .error (.config ⟨[.ofString "port"], "expected int, got str"⟩) ∧
      schema.Fails data (.config ⟨[.ofString "port"], "expected int, got str"⟩) ∧ ¬ schema.Fits data := by
  intro schema data
  have supported : ∀ field ∈ schema.fields, field.hint.IsSupported := by
    simp [schema, Hint.IsSupported]
  have failed : schema.build data = .error (.config ⟨[.ofString "port"], "expected int, got str"⟩) := by
    cbv
  obtain ⟨fits_iff, -, -, told⟩ := build_follows_schema schema supported
  refine ⟨supported, failed, told data _ failed, fun fits => ?_⟩
  obtain ⟨values, built⟩ := (fits_iff data).mpr fits
  cases failed.symm.trans built

/-- Neither an unexpected key nor the place of a bad value is told if the key has too many digits. The place is not told
even where the mapping is what its hint asks for. -/
theorem unwritable_key_untold :
    let long := Value.int (10 ^ Text.digitLimit)
    let schema : Schema := ⟨"Job", [⟨"slots", .dict .int .any, none⟩]⟩
    let failed := BuildFailure.config ⟨[], "failed to build Job: " ++ Text.unwritableText⟩
    schema.build (.dict [(long, .none)]) = .error failed ∧
      (∀ shown, failed ≠ .config ⟨[], "unexpected keys: " ++ shown⟩) ∧
      (Hint.dict .int .any).Accepts (.dict [(long, .none)]) ∧
      schema.build (.dict [(.text (.ofString "slots"), .dict [(long, .none)])]) = .error failed := by
  intro long schema failed
  have noPlain : long.plain = none := by
    rw [Value.plain, Value.literal, Text.decimal?_pow_digitLimit]
    · rfl
    all_goals simp [long]
  refine ⟨?_, ?_, ⟨_, rfl, List.forall_mem_singleton.mpr ⟨⟨_, rfl⟩, True.intro⟩⟩, ?_⟩
  · have extras (key : Int) : schema.extraKeys [(.int key, .none)] = [.int key] := rfl
    have unsorted : sortedKeys [long] = none := by
      rw [sortedKeys, List.mapM_cons, noPlain]
      rfl
    have told : schema.extraKeysText [long] = "failed to build Job: " ++ Text.unwritableText := by
      rw [extraKeysText, unsorted]
      rfl
    rw [build, extras]
    dsimp only
    rw [told]
  · intro shown same
    have details := congrArg ConfigError.detail (BuildFailure.config.inj same)
    have firstLetter := congrArg (fun text => text.toList.head?) details
    simp at firstLetter
  · have untold : coerce (.dict .int .any) [.ofString "slots"] (.dict [(long, .none)]) = .error .unwritable := by
      refine coerce_dict_failed_iff.mpr ⟨[], _, [], rfl, List.forall_mem_nil _, ?_⟩
      exact coerceEntry_eq_error_iff.mpr (Or.inr ⟨long, rfl, Or.inl ⟨noPlain, rfl⟩⟩)
    have known : ∀ entry ∈ [(Value.text (.ofString "slots"), Value.dict [(long, .none)])],
        schema.hasField entry.1 = true := List.forall_mem_singleton.mpr rfl
    rw [build_dict known]
    refine fieldValues_error_iff.mpr ⟨[], _, [], rfl, List.forall_mem_nil _, ?_⟩
    rw [fieldValue, Entries.find?, if_pos (Value.sameKey_text_iff.mpr rfl)]
    dsimp only
    rw [untold]
    rfl

end Schema

end TextTemplate
