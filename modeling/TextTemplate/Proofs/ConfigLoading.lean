import Mathlib
import TextTemplate.Config.Load
import TextTemplate.Proofs.Writing

/-!
What loading settings yields. Coercion yields what its hint accepts, so settings that are loaded are in range, and the
parser takes their depth. All that can go wrong is told as a mistake in the settings, except for a depth that is an
infinite number: it is the only value that no integer can be made of and that is not refused either.
-/

namespace TextTemplate

def Hint.Accepts : Hint → Value → Prop
  | .any, _ => True
  | .bool, value => ∃ truth, value = .bool truth
  | .str, value => ∃ content, value = .text content
  | .int, value => ∃ number, value = .int number
  | .dict key item, value =>
    ∃ entries, value = .dict entries ∧ ∀ entry ∈ entries, key.Accepts entry.1 ∧ item.Accepts entry.2
  | .unsupported _, _ => False

def Hint.Overflows : Hint → Value → Prop
  | .int, value => ∃ negative, value = .float (.infinite negative)
  | .dict key item, value =>
    ∃ entries, value = .dict entries ∧ ∃ entry ∈ entries, key.Overflows entry.1 ∨ item.Overflows entry.2
  | _, _ => False

theorem Entries.forall_assign {Key Item : Type} {same : Key → Key → Bool} {ofKey : Key → Prop}
    {ofItem : Item → Prop} {entries : List (Key × Item)} {key : Key} {item : Item}
    (all : ∀ entry ∈ entries, ofKey entry.1 ∧ ofItem entry.2) (isKey : ofKey key) (isItem : ofItem item) :
    ∀ entry ∈ assign same entries key item, ofKey entry.1 ∧ ofItem entry.2 := by
  induction entries with
  | nil =>
      intro entry member
      obtain rfl := List.mem_singleton.mp member
      exact ⟨isKey, isItem⟩
  | cons first rest ih =>
      obtain ⟨ofFirst, ofRest⟩ := List.forall_mem_cons.mp all
      rw [assign]
      split
      · exact List.forall_mem_cons.mpr ⟨⟨ofFirst.1, isItem⟩, ofRest⟩
      · exact List.forall_mem_cons.mpr ⟨ofFirst, ih ofRest⟩

section

variable {coerceKey coerceItem : List Text → Value → Except CoerceFailure Value} {path : List Text}

theorem coerceEntry_eq_ok_iff {old new : Value × Value} :
    coerceEntry coerceKey coerceItem path old = .ok new ↔ coerceKey (path ++ [keyStep]) old.1 = .ok new.1 ∧
      ∃ step, new.1.plain = some step ∧ coerceItem (path ++ [step]) old.2 = .ok new.2 := by
  rw [coerceEntry, Parsing.bind_eq_ok]
  constructor
  · rintro ⟨newKey, ofKey, next⟩
    obtain ⟨place, isPlace, next⟩ := Parsing.bind_eq_ok.mp next
    obtain ⟨newItem, ofItem, same⟩ := Parsing.bind_eq_ok.mp next
    obtain ⟨step, written, rfl⟩ := stepTo_eq_ok_iff.mp isPlace
    obtain rfl := Except.ok.inj same
    exact ⟨ofKey, step, written, ofItem⟩
  · rintro ⟨ofKey, step, written, ofItem⟩
    have isPlace : stepTo path new.1 = .ok (path ++ [step]) := stepTo_eq_ok_iff.mpr ⟨step, written, rfl⟩
    exact ⟨new.1, ofKey, Parsing.bind_eq_ok.mpr ⟨_, isPlace, Parsing.bind_eq_ok.mpr ⟨new.2, ofItem, rfl⟩⟩⟩

theorem coerceEntry_eq_error_iff {old : Value × Value} {failure : CoerceFailure} :
    coerceEntry coerceKey coerceItem path old = .error failure ↔
      coerceKey (path ++ [keyStep]) old.1 = .error failure ∨
      ∃ newKey, coerceKey (path ++ [keyStep]) old.1 = .ok newKey ∧
        (newKey.plain = none ∧ .unwritable = failure ∨
          ∃ step, newKey.plain = some step ∧ coerceItem (path ++ [step]) old.2 = .error failure) := by
  rw [coerceEntry, Parsing.bind_eq_error]
  refine or_congr_right (exists_congr fun newKey => and_congr_right fun _ => ?_)
  rw [Parsing.bind_eq_error, stepTo_eq_error_iff]
  refine or_congr_right ?_
  constructor
  · rintro ⟨place, isPlace, next⟩
    obtain ⟨step, written, rfl⟩ := stepTo_eq_ok_iff.mp isPlace
    rcases Parsing.bind_eq_error.mp next with failed | ⟨newItem, -, impossible⟩
    · exact ⟨step, written, failed⟩
    · cases impossible
  · rintro ⟨step, written, failed⟩
    exact ⟨_, stepTo_eq_ok_iff.mpr ⟨step, written, rfl⟩, Parsing.bind_eq_error.mpr (Or.inl failed)⟩

theorem coerceEntries_accepts {ofKey ofItem : Value → Prop} {done entries result : List (Value × Value)}
    (ofEntry : ∀ old new, coerceEntry coerceKey coerceItem path old = .ok new → ofKey new.1 ∧ ofItem new.2)
    (all : ∀ entry ∈ done, ofKey entry.1 ∧ ofItem entry.2)
    (coerced : coerceEntries coerceKey coerceItem path done entries = .ok result) :
    ∀ entry ∈ result, ofKey entry.1 ∧ ofItem entry.2 := by
  induction entries generalizing done with
  | nil =>
      obtain rfl : done = result := Except.ok.inj coerced
      exact all
  | cons entry rest ih =>
      obtain ⟨new, made, later⟩ := Parsing.bind_eq_ok.mp coerced
      obtain ⟨newKey, newItem⟩ := ofEntry entry new made
      exact ih (Entries.forall_assign all newKey newItem) later

theorem coerceEntries_error {done entries : List (Value × Value)} {failure : CoerceFailure}
    (failed : coerceEntries coerceKey coerceItem path done entries = .error failure) :
    ∃ entry ∈ entries, coerceEntry coerceKey coerceItem path entry = .error failure := by
  induction entries generalizing done with
  | nil => cases failed
  | cons entry rest ih =>
      rcases Parsing.bind_eq_error.mp failed with atEntry | ⟨new, -, later⟩
      · exact ⟨entry, List.mem_cons_self, atEntry⟩
      · obtain ⟨other, member, failed'⟩ := ih later
        exact ⟨other, List.mem_cons_of_mem entry member, failed'⟩

end

theorem Value.readInteger_overflow {value : Value} (tooLarge : value.readInteger = .overflow) :
    Hint.int.Overflows value := by
  cases value with
  | float number =>
      cases number with
      | nan => cases tooLarge
      | infinite negative => exact ⟨negative, rfl⟩
      | finite negative mantissa exponent => cases tooLarge
  | text content =>
      rw [readInteger] at tooLarge
      split at tooLarge <;> cases tooLarge
  | _ => cases tooLarge

/-! What coercion does with a value, for each hint. -/

section

variable (path : List Text) (value : Value)

theorem coerce_bool_cases :
    (∃ truth, value = .bool truth ∧ coerce .bool path value = .ok (.bool truth)) ∨
      coerce .bool path value = .error (mismatch "bool" value path) := by
  cases value with
  | bool truth => exact Or.inl ⟨truth, rfl, rfl⟩
  | _ => exact Or.inr rfl

theorem coerce_str_cases :
    (∃ text, value.plain = some text ∧ coerce .str path value = .ok (.text text)) ∨
      value.plain = none ∧ coerce .str path value = .error (mismatch "str" value path) := by
  rw [coerce, coerceText]
  cases value.plain with
  | some text => exact Or.inl ⟨text, rfl, rfl⟩
  | none => exact Or.inr ⟨rfl, rfl⟩

theorem coerce_int_cases :
    (∃ number, coerce .int path value = .ok (.int number)) ∨
      (Hint.int.Overflows value ∧ coerce .int path value = .error .overflow) ∨
      coerce .int path value = .error (mismatch "int" value path) := by
  rw [coerce, coerceInt]
  cases reading : value.readInteger with
  | number number => exact Or.inl ⟨number, rfl⟩
  | overflow => exact Or.inr (Or.inl ⟨Value.readInteger_overflow reading, rfl⟩)
  | impossible => exact Or.inr (Or.inr rfl)

theorem coerce_dict_cases (key item : Hint) :
    (∃ entries, value = .dict entries ∧ coerce (.dict key item) path value =
      (coerceEntries (coerce key) (coerce item) path [] entries).map .dict) ∨
      coerce (.dict key item) path value = .error (mismatch "dict" value path) := by
  cases value with
  | dict entries => exact Or.inl ⟨entries, rfl, rfl⟩
  | _ => exact Or.inr rfl

end

def Hint.Explains (hint : Hint) (value : Value) : Except CoerceFailure Value → Prop
  | .ok result => hint.Accepts result
  | .error .overflow => hint.Overflows value
  | .error _ => True

theorem Hint.Explains.accepts {hint : Hint} {value result : Value} {outcome : Except CoerceFailure Value}
    (explained : hint.Explains value outcome) (coerced : outcome = .ok result) : hint.Accepts result := by
  rwa [coerced] at explained

theorem Hint.Explains.overflows {hint : Hint} {value : Value} {outcome : Except CoerceFailure Value}
    (explained : hint.Explains value outcome) (failed : outcome = .error .overflow) : hint.Overflows value := by
  rwa [failed] at explained

theorem coerce_explained (hint : Hint) (path : List Text) (value : Value) :
    hint.Explains value (coerce hint path value) := by
  induction hint generalizing path value with
  | any => trivial
  | bool =>
      rcases coerce_bool_cases path value with ⟨truth, -, same⟩ | refused
      · rw [same]
        exact ⟨truth, rfl⟩
      · rw [refused]
        trivial
  | str =>
      rcases coerce_str_cases path value with ⟨text, -, same⟩ | ⟨-, refused⟩
      · rw [same]
        exact ⟨text, rfl⟩
      · rw [refused]
        trivial
  | int =>
      rcases coerce_int_cases path value with ⟨number, same⟩ | ⟨overflows, same⟩ | refused
      · rw [same]
        exact ⟨number, rfl⟩
      · rw [same]
        exact overflows
      · rw [refused]
        trivial
  | dict key item ihKey ihItem =>
      rcases coerce_dict_cases path value key item with ⟨entries, rfl, same⟩ | refused
      · rw [same]
        cases made : coerceEntries (coerce key) (coerce item) path [] entries with
        | ok done =>
            refine ⟨done, rfl, coerceEntries_accepts ?_ (List.forall_mem_nil _) made⟩
            intro old new ofEntry
            obtain ⟨ofKey, step, -, ofItem⟩ := coerceEntry_eq_ok_iff.mp ofEntry
            exact ⟨(ihKey _ old.1).accepts ofKey, (ihItem _ old.2).accepts ofItem⟩
        | error failure =>
            cases failure with
            | overflow =>
                obtain ⟨entry, member, failed⟩ := coerceEntries_error made
                refine ⟨entries, rfl, entry, member, ?_⟩
                rcases coerceEntry_eq_error_iff.mp failed with atKey | ⟨-, -, ⟨-, impossible⟩ | ⟨step, -, atItem⟩⟩
                · exact Or.inl ((ihKey _ entry.1).overflows atKey)
                · cases impossible
                · exact Or.inr ((ihItem _ entry.2).overflows atItem)
            | config error => trivial
            | unwritable => trivial
            | unsupported typeName => trivial
      · rw [refused]
        trivial
  | unsupported typeName => trivial

namespace Schema

variable {schema : Schema} {entries : List (Value × Value)}

theorem fieldValue_accepts {field : Field} {value : Value}
    (ofDefault : ∀ default, field.default = some default → field.hint.Accepts default)
    (taken : schema.fieldValue entries field = .ok value) : field.hint.Accepts value := by
  rw [fieldValue] at taken
  split at taken
  next given found =>
    split at taken
    next coerced accepted =>
      obtain rfl : coerced = value := Except.ok.inj taken
      exact (coerce_explained _ _ given).accepts accepted
    all_goals cases taken
  next absent =>
    split at taken
    next default isDefault =>
      obtain rfl : default = value := Except.ok.inj taken
      exact ofDefault default isDefault
    next => cases taken

theorem fieldValue_overflow_iff {field : Field} :
    schema.fieldValue entries field = .error .overflow ↔
      ∃ value, Entries.find? Value.sameKey entries (.text (.ofString field.name)) = some value ∧
        coerce field.hint [.ofString field.name] value = .error .overflow := by
  rw [fieldValue]
  constructor
  · intro failed
    split at failed
    next value found =>
      split at failed
      next => cases failed
      next => cases failed
      next overflowed => exact ⟨value, found, overflowed⟩
      all_goals cases failed
    next =>
      split at failed <;> cases failed
  · rintro ⟨value, found, overflowed⟩
    simp only [found, overflowed]

theorem fieldValues_ok_iff {fields : List Field} {values : List (String × Value)} :
    schema.fieldValues entries fields = .ok values ↔
      List.Forall₂ (fun field value => field.name = value.1 ∧ schema.fieldValue entries field = .ok value.2)
        fields values := by
  induction fields generalizing values with
  | nil =>
      constructor
      · intro taken
        obtain rfl : [] = values := Except.ok.inj taken
        exact .nil
      · intro all
        cases all
        rfl
  | cons field rest ih =>
      rw [fieldValues, Parsing.bind_eq_ok]
      constructor
      · rintro ⟨value, taken, next⟩
        obtain ⟨others, ofRest, same⟩ := Parsing.bind_eq_ok.mp next
        obtain rfl : (field.name, value) :: others = values := Except.ok.inj same
        exact .cons ⟨rfl, taken⟩ (ih.mp ofRest)
      · intro all
        cases all with
        | @cons _ value _ others taken ofRest =>
            refine ⟨value.2, taken.2, Parsing.bind_eq_ok.mpr ⟨others, ih.mpr ofRest, ?_⟩⟩
            rw [taken.1]
            rfl

theorem fieldValues_error_iff {fields : List Field} {failure : BuildFailure} :
    schema.fieldValues entries fields = .error failure ↔
      ∃ before field after, fields = before ++ field :: after ∧
        (∀ earlier ∈ before, ∃ value, schema.fieldValue entries earlier = .ok value) ∧
        schema.fieldValue entries field = .error failure := by
  induction fields with
  | nil => simp [fieldValues]
  | cons first rest ih =>
      rw [fieldValues, Parsing.bind_eq_error]
      constructor
      · rintro (failed | ⟨value, taken, next⟩)
        · exact ⟨[], first, rest, rfl, List.forall_mem_nil _, failed⟩
        · rcases Parsing.bind_eq_error.mp next with failed | ⟨values, -, impossible⟩
          · obtain ⟨before, field, after, rfl, earlier, failed'⟩ := ih.mp failed
            exact ⟨first :: before, field, after, rfl, List.forall_mem_cons.mpr ⟨⟨value, taken⟩, earlier⟩, failed'⟩
          · cases impossible
      · rintro ⟨before, field, after, split, earlier, failed⟩
        cases before with
        | nil =>
            obtain ⟨rfl, -⟩ := List.cons.inj split
            exact Or.inl failed
        | cons other others =>
            obtain ⟨rfl, same⟩ := List.cons.inj split
            obtain ⟨⟨value, taken⟩, earlier'⟩ := List.forall_mem_cons.mp earlier
            refine Or.inr ⟨value, taken, Parsing.bind_eq_error.mpr (Or.inl ?_)⟩
            exact ih.mpr ⟨others, field, after, same, earlier', failed⟩

theorem extraKeys_eq_nil_iff : schema.extraKeys entries = [] ↔ ∀ entry ∈ entries, schema.hasField entry.1 = true := by
  rw [extraKeys, List.filter_eq_nil_iff]
  constructor
  · intro none entry member
    simpa using none entry.1 (List.mem_map_of_mem member)
  · intro all key member
    obtain ⟨entry, isEntry, rfl⟩ := List.mem_map.mp member
    simpa using all entry isEntry

theorem build_dict (known : ∀ entry ∈ entries, schema.hasField entry.1 = true) :
    schema.build (.dict entries) = schema.fieldValues entries schema.fields := by
  rw [build, extraKeys_eq_nil_iff.mpr known]

theorem build_cases (data : Value) :
    (∃ entries, data = .dict entries ∧ (∀ entry ∈ entries, schema.hasField entry.1 = true) ∧
      schema.build data = schema.fieldValues entries schema.fields) ∨
      ∃ error, schema.build data = .error (.config error) := by
  cases data with
  | dict entries =>
      by_cases known : ∀ entry ∈ entries, schema.hasField entry.1 = true
      · exact Or.inl ⟨entries, rfl, known, build_dict known⟩
      · right
        rw [build]
        split
        next noExtras => exact absurd (extraKeys_eq_nil_iff.mp noExtras) known
        next => exact ⟨_, rfl⟩
  | _ => exact Or.inr ⟨_, rfl⟩

end Schema

namespace EngineConfig

/-- Settings are in range: the depth is an integer that the parser takes, and the names of variables are texts. -/
structure IsValid (config : EngineConfig) : Prop where
  maxDepth : ∃ depth : Int, config.maxDepth = .int depth ∧ 1 ≤ depth ∧ depth ≤ maxDepthLimit
  cache : Hint.bool.Accepts config.cache
  vars : (Hint.dict .str .any).Accepts config.vars

theorem isValid_default : default.IsValid where
  maxDepth := ⟨defaultMaxDepth, rfl, by decide, by decide⟩
  cache := ⟨true, rfl⟩
  vars := ⟨[], rfl, List.forall_mem_nil _⟩

variable {config : EngineConfig}

theorem IsValid.withSwitch (valid : config.IsValid) (switch : Option String) : (config.withSwitch switch).IsValid := by
  cases switch with
  | none => exact valid
  | some text =>
      constructor
      · exact valid.maxDepth
      · exact ⟨_, rfl⟩
      · exact valid.vars

theorem depthLimit_int (depth : Int) : (Value.int depth).depthLimit =
    match Text.decimal? depth with
    | some shown =>
      if 1 ≤ depth && depth ≤ maxDepthLimit then .ok ⟨depth.toNat, String.ofList shown⟩
      else .error (.outOfRange (String.ofList shown))
    | none => .error .unwritable := by
  have bounds : (Value.int depth).wholeBounds? = some (depth, depth) := rfl
  unfold Value.depthLimit
  rw [bounds, Value.literal]
  cases Text.decimal? depth <;> rfl

theorem IsValid.depthLimit (valid : config.IsValid) : ∃ limit, config.maxDepth.depthLimit = .ok limit := by
  obtain ⟨depth, same, least, most⟩ := valid.maxDepth
  have short : depth.natAbs < 10 ^ Text.digitLimit := by
    have hundreds : depth.natAbs < 10 ^ 3 := by
      rw [maxDepthLimit] at most
      omega
    exact hundreds.trans_le (Nat.pow_le_pow_right (by decide) (by decide))
  rw [same, depthLimit_int, Text.decimal?_of_lt short]
  dsimp only
  rw [if_pos (by simp [least, most])]
  exact ⟨_, rfl⟩

theorem IsValid.compile (valid : config.IsValid) (source : String) (fault : DepthFault) :
    compileSource config.maxDepth source ≠ .error (.badDepth fault) := by
  obtain ⟨limit, taken⟩ := valid.depthLimit
  rw [compileSource_of_limit taken]
  cases parseTemplate limit source <;> simp [Except.mapError]

theorem IsValid.context (valid : config.IsValid) : ∃ defaults, config.context = .ok defaults := by
  obtain ⟨entries, same, -⟩ := valid.vars
  rw [EngineConfig.context, same]
  exact ⟨_, rfl⟩

theorem of_checked {given : EngineConfig} (passed : given.checked = .ok config) :
    given = config ∧ ∃ limit, given.maxDepth.depthLimit = .ok limit := by
  rw [checked] at passed
  split at passed
  next limit taken => exact ⟨Except.ok.inj passed, limit, taken⟩
  all_goals cases passed

theorem checked_isValid {given : EngineConfig} (ofDepth : Hint.int.Accepts given.maxDepth)
    (ofCache : Hint.bool.Accepts given.cache) (ofVars : (Hint.dict .str .any).Accepts given.vars)
    (passed : given.checked = .ok config) : config.IsValid := by
  obtain ⟨depth, isInt⟩ := ofDepth
  obtain ⟨rfl, limit, taken⟩ := of_checked passed
  rw [isInt, depthLimit_int] at taken
  split at taken
  next shown written =>
    split at taken
    next inRange => exact ⟨⟨depth, isInt, by simpa using inRange⟩, ofCache, ofVars⟩
    next => cases taken
  next => cases taken

theorem schema_defaults : ∀ field ∈ schema.fields, ∀ default, field.default = some default →
    field.hint.Accepts default := by
  intro field member value isDefault
  simp only [schema, List.mem_cons, List.not_mem_nil, or_false] at member
  rcases member with rfl | rfl | rfl
  · obtain rfl := Option.some.inj isDefault
    exact ⟨_, rfl⟩
  · obtain rfl := Option.some.inj isDefault
    exact isValid_default.cache
  · obtain rfl := Option.some.inj isDefault
    exact isValid_default.vars

theorem schema_overflow {field : Field} (member : field ∈ schema.fields) {value : Value}
    (overflows : field.hint.Overflows value) :
    field.name = "max_depth" ∧ ∃ negative, value = .float (.infinite negative) := by
  simp only [schema, List.mem_cons, List.not_mem_nil, or_false] at member
  rcases member with rfl | rfl | rfl
  · exact ⟨rfl, overflows⟩
  · exact overflows.elim
  · obtain ⟨entries, -, entry, -, atKey | atItem⟩ := overflows
    · exact atKey.elim
    · exact atItem.elim

theorem ofSettings_of_fieldValues {entries : List (Value × Value)} {values : List (String × Value)}
    (taken : schema.fieldValues entries schema.fields = .ok values) : ∃ given : EngineConfig,
      ofSettings values = given.checked ∧
        schema.fieldValue entries ⟨"max_depth", .int, some default.maxDepth⟩ = .ok given.maxDepth ∧
        schema.fieldValue entries ⟨"cache", .bool, some default.cache⟩ = .ok given.cache ∧
        schema.fieldValue entries ⟨"vars", .dict .str .any, some default.vars⟩ = .ok given.vars := by
  have all := Schema.fieldValues_ok_iff.mp taken
  rw [schema] at all
  obtain _ | @⟨_, ⟨_, depth⟩, _, _, ⟨rfl, ofDepth⟩, all⟩ := all
  obtain _ | @⟨_, ⟨_, cache⟩, _, _, ⟨rfl, ofCache⟩, all⟩ := all
  obtain _ | @⟨_, ⟨_, vars⟩, _, _, ⟨rfl, ofVars⟩, all⟩ := all
  cases all
  exact ⟨⟨depth, cache, vars⟩, rfl, ofDepth, ofCache, ofVars⟩

theorem fieldValue_accepts {entries : List (Value × Value)} {field : Field} {value : Value}
    (member : field ∈ schema.fields) (taken : schema.fieldValue entries field = .ok value) :
    field.hint.Accepts value :=
  Schema.fieldValue_accepts (schema_defaults field member) taken

theorem build_of_fieldValues {data : Value} {entries : List (Value × Value)} {values : List (String × Value)}
    (made : schema.build data = .ok values) (taken : schema.fieldValues entries schema.fields = .ok values) :
    (∃ config, build data = .ok config ∧ config.IsValid) ∨ ∃ error, build data = .error (.config error) := by
  obtain ⟨given, same, ofDepth, ofCache, ofVars⟩ := ofSettings_of_fieldValues taken
  have depthAccepted : Hint.int.Accepts given.maxDepth := fieldValue_accepts (by simp [schema]) ofDepth
  have cacheAccepted : Hint.bool.Accepts given.cache := fieldValue_accepts (by simp [schema]) ofCache
  have varsAccepted : (Hint.dict .str .any).Accepts given.vars := fieldValue_accepts (by simp [schema]) ofVars
  rw [build, made]
  change (∃ config, (ofSettings values).mapError _ = _ ∧ _) ∨ ∃ error, (ofSettings values).mapError _ = _
  rw [same]
  cases passed : given.checked with
  | ok config => exact Or.inl ⟨config, rfl, checked_isValid depthAccepted cacheAccepted varsAccepted passed⟩
  | error fault =>
      right
      cases fault <;> exact ⟨_, rfl⟩

theorem build_of_error {data : Value} {failure : BuildFailure} (failed : schema.build data = .error failure) :
    build data = .error failure := by
  rw [build, failed]
  rfl

end EngineConfig

def Value.HasInfiniteDepth (root : Value) : Prop :=
  ∃ entries negative, root = .dict entries ∧
    (∀ entry ∈ entries, EngineConfig.schema.hasField entry.1 = true) ∧
    Entries.find? sameKey entries (.text (.ofString "max_depth")) = some (.float (.infinite negative))

namespace EngineConfig

theorem build_infinite {data : Value} (infinite : data.HasInfiniteDepth) : build data = .error .overflow := by
  obtain ⟨entries, negative, rfl, known, found⟩ := infinite
  have failed : schema.fieldValue entries ⟨"max_depth", .int, some default.maxDepth⟩ = .error .overflow :=
    Schema.fieldValue_overflow_iff.mpr ⟨_, found, rfl⟩
  refine build_of_error ?_
  rw [Schema.build_dict known]
  exact Schema.fieldValues_error_iff.mpr ⟨[], _, _, rfl, List.forall_mem_nil _, failed⟩

theorem build_finite {data : Value} (finite : ¬ data.HasInfiniteDepth) :
    (∃ config, build data = .ok config ∧ config.IsValid) ∨ ∃ error, build data = .error (.config error) := by
  rcases schema.build_cases data with ⟨entries, rfl, known, same⟩ | ⟨error, refused⟩
  · cases taken : schema.fieldValues entries schema.fields with
    | ok values => exact build_of_fieldValues (same.trans taken) taken
    | error failure =>
        right
        rw [taken] at same
        cases failure with
        | config error => exact ⟨error, build_of_error same⟩
        | overflow =>
            exfalso
            obtain ⟨before, field, after, split, -, failed⟩ := Schema.fieldValues_error_iff.mp taken
            obtain ⟨value, found, overflowed⟩ := Schema.fieldValue_overflow_iff.mp failed
            have member : field ∈ schema.fields := by
              rw [split]
              simp
            obtain ⟨named, negative, rfl⟩ := schema_overflow member ((coerce_explained _ _ value).overflows overflowed)
            rw [named] at found
            exact finite ⟨entries, negative, rfl, known, found⟩
  · exact Or.inr ⟨error, build_of_error refused⟩

end EngineConfig

theorem Value.hasInfiniteDepth_orEmpty (root : Value) :
    (if root.isVoid then Value.dict [] else root).HasInfiniteDepth ↔ root.HasInfiniteDepth := by
  by_cases void : root.isVoid = true
  · -- A mapping that counts as empty has no depth.
    rw [if_pos void]
    constructor
    · rintro ⟨entries, negative, same, -, found⟩
      obtain rfl := Value.dict.inj same
      cases found
    · rintro ⟨entries, negative, rfl, -, found⟩
      rw [isVoid, List.isEmpty_iff] at void
      rw [void] at found
      cases found
  · rw [if_neg void]

theorem configOf_cases (root : Value) :
    root.HasInfiniteDepth ∧ configOf root = .error .overflow ∨ ¬ root.HasInfiniteDepth ∧
      ((∃ config, configOf root = .ok config ∧ config.IsValid) ∨
        ∃ error, configOf root = .error (.mistake (.config error))) := by
  by_cases infinite : root.HasInfiniteDepth
  · left
    have failed := EngineConfig.build_infinite ((Value.hasInfiniteDepth_orEmpty root).mpr infinite)
    rw [configOf, failed]
    exact ⟨infinite, rfl⟩
  · right
    have finite := mt (Value.hasInfiniteDepth_orEmpty root).mp infinite
    rw [configOf]
    rcases EngineConfig.build_finite finite with ⟨config, built, valid⟩ | ⟨error, refused⟩
    · rw [built]
      exact ⟨infinite, Or.inl ⟨config, rfl, valid⟩⟩
    · rw [refused]
      exact ⟨infinite, Or.inr ⟨error, rfl⟩⟩

theorem loadConfig_of_read {path : String} {found : Found} {root : Value}
    (isRoot : readDocument path found = .ok root) (switch : Option String) :
    loadConfig path found switch = (configOf root).map fun config => config.withSwitch switch := by
  cases found with
  | missing => cases isRoot
  | _ =>
      rw [loadConfig, isRoot]
      · cases made : configOf root <;> simp [made, bind, Except.bind, Except.map, pure, Except.pure]
      all_goals simp

/-- Settings from a file with a document are loaded as valid ones, for which the parser does not complain about the
depth, or the mistake in them is told, exactly if the document does not give an infinite number as the depth. If it
does, the load overflows. -/
theorem config_loaded_iff (path : String) (found : Found) (switch : Option String) (root : Value)
    (isRoot : readDocument path found = .ok root) :
    let outcome := loadConfig path found switch
    (((∃ config, outcome = .ok config ∧ config.IsValid ∧
          ∀ source fault, compileSource config.maxDepth source ≠ .error (.badDepth fault)) ∨
        ∃ error, outcome = .error (.mistake (.config error))) ↔
      ¬ root.HasInfiniteDepth) ∧
    (root.HasInfiniteDepth → outcome = .error .overflow) := by
  intro outcome
  have same : outcome = (configOf root).map fun config => config.withSwitch switch := loadConfig_of_read isRoot switch
  rcases configOf_cases root with ⟨infinite, failed⟩ | ⟨finite, told⟩
  · have overflowed : outcome = .error .overflow := by
      rw [same, failed]
      rfl
    refine ⟨⟨?_, fun finite => absurd infinite finite⟩, fun _ => overflowed⟩
    rintro (⟨config, loaded, -⟩ | ⟨error, told⟩)
    · cases overflowed.symm.trans loaded
    · cases overflowed.symm.trans told
  · refine ⟨⟨fun _ => finite, fun _ => ?_⟩, fun infinite => absurd infinite finite⟩
    rcases told with ⟨config, built, valid⟩ | ⟨error, refused⟩
    · have valid' := valid.withSwitch switch
      refine Or.inl ⟨config.withSwitch switch, ?_, valid', valid'.compile⟩
      rw [same, built]
      rfl
    · refine Or.inr ⟨error, ?_⟩
      rw [same, refused]
      rfl

theorem config_loaded_iff_text :
    let found := Found.file ("max_depth: '8'\n".toList.map Char.toNat)
    let root := Value.dict [(.text (.ofString "max_depth"), .text (.ofString "8"))]
    let config := EngineConfig.mk (.int 8) (.bool false) (.dict [])
    readDocument "c.yaml" found = .ok root ∧ ¬ root.HasInfiniteDepth ∧
      loadConfig "c.yaml" found (some "0") = .ok config ∧ config.IsValid := by
  intro found root config
  have isRoot : readDocument "c.yaml" (.file ("max_depth: '8'\n".toList.map Char.toNat)) = .ok root := by cbv
  have made : EngineConfig.schema.build (.dict [(.text (.ofString "max_depth"), .text (.ofString "8"))]) =
      .ok [("max_depth", .int 8), ("cache", .bool true), ("vars", .dict [])] := by cbv
  have loaded : loadConfig "c.yaml" found (some "0") = .ok config := by
    have built : configOf root = .ok ⟨.int 8, .bool true, .dict []⟩ := by
      rw [configOf, if_neg (by decide), EngineConfig.build, made]
      rfl
    rw [loadConfig_of_read isRoot, built]
    rfl
  have finite : ¬ root.HasInfiniteDepth := by
    rintro ⟨entries, negative, same, -, given⟩
    obtain rfl := Value.dict.inj same
    cases given
  have taken := (config_loaded_iff "c.yaml" found (some "0") root isRoot).1.mpr finite
  rw [loaded] at taken
  rcases taken with ⟨config', loaded', valid, -⟩ | ⟨error, told⟩
  · obtain rfl : config = config' := Except.ok.inj loaded'
    exact ⟨isRoot, finite, loaded, valid⟩
  · cases told

/-- An infinite depth is neither taken nor told as a mistake. -/
theorem infinite_depth_overflows :
    let found := Found.file ("max_depth: .inf\n".toList.map Char.toNat)
    let root := Value.dict [(.text (.ofString "max_depth"), .float (.infinite false))]
    readDocument "c.yaml" found = .ok root ∧
      ¬ ((∃ config, loadConfig "c.yaml" found none = .ok config ∧ config.IsValid) ∨
        ∃ error, loadConfig "c.yaml" found none = .error (.mistake (.config error))) := by
  intro found root
  have isRoot : readDocument "c.yaml" (.file ("max_depth: .inf\n".toList.map Char.toNat)) = .ok root := by cbv
  have overflowed : loadConfig "c.yaml" (.file ("max_depth: .inf\n".toList.map Char.toNat)) none =
      .error .overflow := by cbv
  refine ⟨isRoot, ?_⟩
  rintro (⟨config, loaded, -⟩ | ⟨error, told⟩)
  · cases overflowed.symm.trans loaded
  · cases overflowed.symm.trans told

end TextTemplate
