import Mathlib
import TextTemplate.CommandLine.Run
import TextTemplate.Proofs.ConfigLoading
import TextTemplate.Proofs.NamesRead

/-!
Where a variable gets its value on the command line. Three lists may set it: the items on the command line, the entries
of the context file, and the entries of the settings. Each is normalised on its own way, and they are merged in two
places; what comes of it is a lookup. The last setting in the first list that has one is taken, under the keys as they
are written out.
-/

namespace TextTemplate

/-! Entries and the names that their keys are written as. -/

theorem Text.chars?_ofChars (chars : List Char) : (ofChars chars).chars? = some chars := by
  induction chars with
  | nil => rfl
  | cons c rest ih =>
      change (ofChars rest).chars?.map (c :: ·) = _
      rw [ih, Option.map_some]

theorem Text.eq_of_chars? {text : Text} {chars : List Char} (spelled : text.chars? = some chars) :
    text = ofChars chars := by
  induction text generalizing chars with
  | nil =>
      obtain rfl := Option.some.inj spelled
      rfl
  | cons point rest ih =>
      cases point with
      | char c =>
          obtain ⟨others, ofRest, rfl⟩ := Option.map_eq_some_iff.mp spelled
          rw [ih ofRest]
          rfl
      | surrogate half => cases spelled

theorem Text.toString?_eq_some_iff {text : Text} {name : String} :
    text.toString? = some name ↔ text = ofString name := by
  constructor
  · intro spelled
    obtain ⟨chars, isText, rfl⟩ := Option.map_eq_some_iff.mp spelled
    rw [eq_of_chars? isText, ofString, String.toList_ofList]
  · rintro rfl
    rw [toString?, ofString, chars?_ofChars, Option.map_some, String.ofList_toList]

theorem Text.ofString_injective : Function.Injective ofString := by
  intro name other same
  have spelled : some name = some other := by
    rw [← toString?_eq_some_iff.mpr rfl, same, toString?_eq_some_iff.mpr rfl]
  exact Option.some.inj spelled

namespace Value

def name? : Value → Option String
  | text content => content.toString?
  | _ => Option.none

theorem sameKey_text_iff {known : Value} {key : Text} : known.sameKey (.text key) = true ↔ known = .text key := by
  cases known <;> simp [sameKey, sameKeyIf, wholeNumber?]

theorem eq_text_of_name? {known : Value} {key : Text} {name : String} (isKnown : known.name? = some name)
    (isKey : key.toString? = some name) : known = .text key := by
  cases known with
  | text content => rw [Text.toString?_eq_some_iff.mp isKnown, Text.toString?_eq_some_iff.mp isKey]
  | _ => cases isKnown

end Value

namespace Context

def valuesOf (context : Context) (name : String) : List Value :=
  context.filterMap fun (known, value) => if known = name then some value else none

theorem given?_eq_getLast? (context : Context) (name : String) :
    context.given? name = (context.valuesOf name).getLast? := by
  induction context with
  | nil => rfl
  | cons entry rest ih =>
      obtain ⟨known, value⟩ := entry
      rw [given?] at ih
      rw [given?, valuesOf, List.reverse_cons, List.lookup_append, ih, valuesOf]
      by_cases same : known = name
      · subst same
        have single : List.lookup known [(known, value)] = some value := by simp
        simp only [single, List.filterMap_cons, if_true, List.getLast?_cons, ← Option.or_some]
      · have apart : (name == known) = false := beq_false_of_ne fun equal => same equal.symm
        simp [same, List.lookup, apart]

theorem given?_eq_find? {context : Context} (distinct : (context.map Prod.fst).Nodup) (name : String) :
    context.given? name = Entries.find? (· == ·) context name := by
  induction context with
  | nil => rfl
  | cons entry rest ih =>
      obtain ⟨known, value⟩ := entry
      obtain ⟨fresh, distinct'⟩ := List.nodup_cons.mp distinct
      have ofRest := ih distinct'
      rw [given?] at ofRest
      rw [given?, List.reverse_cons, List.lookup_append, ofRest, Entries.find?]
      by_cases same : known = name
      · subst same
        have absent : Entries.find? (· == ·) rest known = none := by
          rw [← Option.not_isSome_iff_eq_none, ← Entries.mem_keys_iff]
          exact fresh
        simp [absent]
      · have apart : (name == known) = false := beq_false_of_ne fun equal => same equal.symm
        simp [same, List.lookup, apart]

theorem given?_mergedOver {context defaults : Context} (distinct : (defaults.map Prod.fst).Nodup) (name : String) :
    (context.mergedOver defaults).given? name = (context.given? name).or (defaults.given? name) := by
  have distinct' : ((context.mergedOver defaults).map Prod.fst).Nodup := Entries.nodup_assignAll distinct context
  rw [given?_eq_find? distinct', find?_mergedOver, given?_eq_find? distinct]

theorem ofEntries_cons (key item : Value) (rest : List (Value × Value)) :
    ofEntries ((key, item) :: rest) =
      match key.name? with
      | some name => (name, item) :: ofEntries rest
      | none => ofEntries rest := by
  cases key with
  | text content => cases spelled : content.toString? <;> simp [ofEntries, Value.name?, spelled]
  | _ => rfl

theorem ofEntries_assign (entries : List (Value × Value)) (key : Text) (item : Value) :
    ofEntries (Entries.assign Value.sameKey entries (.text key) item) =
      match key.toString? with
      | some name => Entries.assign (· == ·) (ofEntries entries) name item
      | none => ofEntries entries := by
  induction entries with
  | nil => cases spelled : key.toString? <;> simp [Entries.assign, ofEntries, spelled]
  | cons entry rest ih =>
      obtain ⟨known, old⟩ := entry
      by_cases same : known = .text key
      · subst same
        rw [Entries.assign, if_pos (Value.sameKey_text_iff.mpr rfl), ofEntries_cons, ofEntries_cons, Value.name?]
        cases key.toString? <;> simp [Entries.assign]
      · rw [Entries.assign, if_neg (mt Value.sameKey_text_iff.mp same), ofEntries_cons, ofEntries_cons, ih]
        cases isKnown : known.name? with
        | none => rfl
        | some other =>
            cases isKey : key.toString? with
            | none => rfl
            | some name =>
                have apart : other ≠ name := by
                  rintro rfl
                  exact same (Value.eq_text_of_name? isKnown isKey)
                simp [Entries.assign, apart]

end Context

theorem underTexts_cons_iff {entry : Value × Value} {rest named : List (Value × Value)} :
    underTexts (entry :: rest) = some named ↔ ∃ name others, entry.1.plain = some name ∧
      underTexts rest = some others ∧ named = (.text name, entry.2) :: others := by
  obtain ⟨key, item⟩ := entry
  rw [underTexts, List.mapM_cons, ← underTexts]
  dsimp only
  cases key.plain <;> cases underTexts rest <;> simp [eq_comm]

namespace Context

variable {entries named merged : List (Value × Value)}

theorem ofEntries_assignAll (written : underTexts entries = some named) (done : List (Value × Value)) :
    ofEntries (Entries.assignAll Value.sameKey done named) =
      Entries.assignAll (· == ·) (ofEntries done) (ofEntries named) := by
  induction entries generalizing named done with
  | nil =>
      obtain rfl := Option.some.inj written
      rfl
  | cons entry rest ih =>
      obtain ⟨name, others, -, ofRest, rfl⟩ := underTexts_cons_iff.mp written
      change ofEntries (Entries.assignAll Value.sameKey (Entries.assign Value.sameKey done (.text name) entry.2)
        others) = _
      rw [ih ofRest, ofEntries_assign, ofEntries_cons, Value.name?]
      cases name.toString? <;> rfl

def valuesUnder (name : String) (entries : List (Value × Value)) : List Value :=
  entries.filterMap fun (key, value) => if key.plain = some (Text.ofString name) then some value else none

theorem valuesOf_underTexts (written : underTexts entries = some named) (name : String) :
    (ofEntries named).valuesOf name = valuesUnder name entries := by
  induction entries generalizing named with
  | nil =>
      obtain rfl := Option.some.inj written
      rfl
  | cons entry rest ih =>
      obtain ⟨key, item⟩ := entry
      obtain ⟨text, others, isText, ofRest, rfl⟩ := underTexts_cons_iff.mp written
      rw [ofEntries_cons, Value.name?, valuesUnder, List.filterMap_cons, ← valuesUnder, ← ih ofRest]
      dsimp only at isText ⊢
      rw [isText]
      cases spelled : text.toString? with
      | none =>
          have other : text ≠ Text.ofString name := by
            intro same
            cases spelled.symm.trans (Text.toString?_eq_some_iff.mpr same)
          simp [other]
      | some known =>
          dsimp only
          rw [Text.toString?_eq_some_iff.mp spelled]
          by_cases same : known = name
          · simp [same, valuesOf]
          · have apart : Text.ofString known ≠ Text.ofString name := fun equal => same (Text.ofString_injective equal)
            simp [same, apart, valuesOf]

theorem ofEntries_contextEntries (made : contextEntries entries = some merged) :
    ∃ named, underTexts entries = some named ∧ ofEntries merged = (ofEntries named).mergedOver [] := by
  obtain ⟨named, written, rfl⟩ := Option.map_eq_some_iff.mp made
  exact ⟨named, written, ofEntries_assignAll written []⟩

theorem nodup_nil : (([] : Context).map Prod.fst).Nodup :=
  List.nodup_nil

theorem nodup_contextEntries (made : contextEntries entries = some merged) :
    ((ofEntries merged).map Prod.fst).Nodup := by
  obtain ⟨named, -, same⟩ := ofEntries_contextEntries made
  rw [same]
  exact Entries.nodup_assignAll nodup_nil _

theorem given?_contextEntries (made : contextEntries entries = some merged) (name : String) :
    (ofEntries merged).given? name = (valuesUnder name entries).getLast? := by
  obtain ⟨named, written, same⟩ := ofEntries_contextEntries made
  rw [same, given?_mergedOver nodup_nil, given?_eq_getLast?, valuesOf_underTexts written]
  exact Option.or_none

end Context

/-! Variables in settings. -/

theorem coerceEntries_str_any {path : List Text} {done entries result : List (Value × Value)}
    (coerced : coerceEntries (coerce .str) (coerce .any) path done entries = .ok result) :
    ∃ named, underTexts entries = some named ∧ result = Entries.assignAll Value.sameKey done named := by
  induction entries generalizing done with
  | nil => exact ⟨[], rfl, (Except.ok.inj coerced).symm⟩
  | cons entry rest ih =>
      obtain ⟨new, made, next⟩ := Parsing.bind_eq_ok.mp coerced
      obtain ⟨ofKey, step, -, ofItem⟩ := coerceEntry_eq_ok_iff.mp made
      obtain ⟨named, written, rfl⟩ := ih next
      rcases coerce_str_cases (path ++ [keyStep]) entry.1 with ⟨name, isName, plain⟩ | ⟨-, refused⟩
      · have same : new = (.text name, entry.2) :=
          Prod.ext (Except.ok.inj (ofKey.symm.trans plain)) (Except.ok.inj ofItem).symm
        exact ⟨new :: named, underTexts_cons_iff.mpr ⟨name, named, isName, written, by rw [same]⟩, rfl⟩
      · cases refused.symm.trans ofKey

def Value.variableEntries : Value → List (Value × Value)
  | dict entries =>
    match Entries.find? sameKey entries (text (.ofString "vars")) with
    | some (dict given) => given
    | _ => []
  | _ => []

namespace EngineConfig

theorem fieldValue_vars {entries : List (Value × Value)} {value : Value}
    (taken : schema.fieldValue entries ⟨"vars", .dict .str .any, some default.vars⟩ = .ok value) :
    ∃ merged, contextEntries (Value.dict entries).variableEntries = some merged ∧ value = .dict merged := by
  rw [Schema.fieldValue] at taken
  cases found : Entries.find? Value.sameKey entries (.text (.ofString "vars")) with
  | none =>
      simp only [found] at taken
      obtain rfl : default.vars = value := Except.ok.inj taken
      rw [Value.variableEntries, found]
      exact ⟨[], rfl, rfl⟩
  | some given =>
      simp only [found] at taken
      rcases coerce_dict_cases [.ofString "vars"] given .str .any with ⟨vars, rfl, same⟩ | refused
      · rw [same] at taken
        cases coerced : coerceEntries (coerce .str) (coerce .any) [.ofString "vars"] [] vars with
        | ok result =>
            rw [coerced] at taken
            obtain rfl : Value.dict result = value := Except.ok.inj taken
            obtain ⟨named, written, rfl⟩ := coerceEntries_str_any coerced
            rw [Value.variableEntries, found]
            exact ⟨_, by rw [contextEntries, written]; rfl, rfl⟩
        | error failure =>
            rw [coerced] at taken
            cases failure <;> cases taken
      · rw [refused] at taken
        cases taken

theorem vars_of_build {data : Value} {config : EngineConfig} (built : build data = .ok config) :
    ∃ merged, contextEntries data.variableEntries = some merged ∧ config.vars = .dict merged := by
  rcases schema.build_cases data with ⟨entries, rfl, -, same⟩ | ⟨error, refused⟩
  · cases taken : schema.fieldValues entries schema.fields with
    | ok values =>
        obtain ⟨given, ofGiven, -, -, ofVars⟩ := ofSettings_of_fieldValues taken
        rw [build, same, taken] at built
        change (ofSettings values).mapError _ = _ at built
        rw [ofGiven] at built
        cases passed : given.checked with
        | ok made =>
            rw [passed] at built
            obtain ⟨rfl, -⟩ := of_checked passed
            obtain rfl : given = config := Except.ok.inj built
            exact fieldValue_vars ofVars
        | error fault =>
            rw [passed] at built
            cases built
    | error failure => cases (build_of_error (same.trans taken)).symm.trans built
  · cases (build_of_error refused).symm.trans built

end EngineConfig

theorem Value.variableEntries_orEmpty (root : Value) :
    (if root.isVoid then Value.dict [] else root).variableEntries = root.variableEntries := by
  by_cases void : root.isVoid = true
  · rw [if_pos void]
    cases root with
    | dict entries =>
        rw [isVoid, List.isEmpty_iff] at void
        rw [void]
    | _ => rfl
  · rw [if_neg void]

theorem vars_of_configOf {root : Value} {config : EngineConfig} (made : configOf root = .ok config) :
    ∃ merged, contextEntries root.variableEntries = some merged ∧ config.vars = .dict merged := by
  rw [configOf] at made
  cases built : EngineConfig.build (if root.isVoid then .dict [] else root) with
  | ok given =>
      rw [built] at made
      obtain rfl : given = config := Except.ok.inj made
      rw [← Value.variableEntries_orEmpty root]
      exact EngineConfig.vars_of_build built
  | error failure =>
      rw [built] at made
      cases failure <;> cases made

/-- The document at a path, or nothing if none can be read. -/
def documentAt (path : String) (found : Found) : Value :=
  (readDocument path found).toOption.getD .none

theorem documentAt_of_read {path : String} {found : Found} {root : Value}
    (isRoot : readDocument path found = .ok root) : documentAt path found = root := by
  rw [documentAt, isRoot]
  rfl

theorem vars_of_loadConfig {path : String} {found : Found} {switch : Option String} {settings : EngineConfig}
    (loaded : loadConfig path found switch = .ok settings) :
    ∃ merged, contextEntries (documentAt path found).variableEntries = some merged ∧
      settings.vars = .dict merged := by
  have switched : ∀ config : EngineConfig, (config.withSwitch switch).vars = config.vars := by
    intro config
    cases switch <;> rfl
  cases isRoot : readDocument path found with
  | ok root =>
      rw [loadConfig_of_read isRoot] at loaded
      cases made : configOf root with
      | ok config =>
          rw [made] at loaded
          obtain rfl : config.withSwitch switch = settings := Except.ok.inj loaded
          rw [switched, documentAt_of_read isRoot]
          exact vars_of_configOf made
      | error failure =>
          rw [made] at loaded
          cases loaded
  | error failure =>
      cases found with
      | missing =>
          obtain rfl : EngineConfig.default.withSwitch switch = settings := Except.ok.inj loaded
          rw [switched]
          exact ⟨[], rfl, rfl⟩
      | _ =>
          rw [loadConfig, isRoot] at loaded
          · cases loaded
          all_goals simp

def Value.ownEntries : Value → List (Value × Value)
  | dict entries => entries
  | _ => []

theorem loadContext_ok {path : String} {found : Found} {entries : List (Value × Value)}
    (loaded : loadContext path found = .ok entries) :
    contextEntries (documentAt path found).ownEntries = some entries := by
  cases found with
  | missing => cases loaded
  | _ =>
      rw [loadContext] at loaded
      · obtain ⟨root, isRoot, next⟩ := Parsing.bind_eq_ok.mp loaded
        rw [documentAt_of_read isRoot]
        cases root with
        | none =>
            obtain rfl := Except.ok.inj next
            rfl
        | dict own =>
            dsimp only at next
            cases made : contextEntries own with
            | none =>
                rw [made] at next
                cases next
            | some merged =>
                rw [made] at next
                obtain rfl := Except.ok.inj next
                exact made
        | _ => cases next
      all_goals simp

theorem loadContext_of_dict {path : String} {found : Found} {entries merged : List (Value × Value)}
    (isRoot : readDocument path found = .ok (.dict entries)) (made : contextEntries entries = some merged) :
    loadContext path found = .ok merged := by
  cases found with
  | missing => cases isRoot
  | _ =>
      rw [loadContext, isRoot]
      · exact congrArg (Option.elim · _ Except.ok) made
      all_goals simp

namespace CommandLine

/-! Items on the command line. -/

def itemName (item : String) : String :=
  String.ofList (Text.trim (item.toList.takeWhile (· ≠ '=')))

def itemValue (item : String) : Value :=
  .text (.ofChars (item.toList.dropWhile (· ≠ '=')).tail)

def setTo? (name : String) : Option String → Option Value
  | none => none
  | some item => if '=' ∈ item.toList ∧ itemName item = name then some (itemValue item) else none

def itemFault? : Option String → Option Complaint
  | none => some (badVariable "[]" "Expected 'name=value'")
  | some item =>
    if '=' ∉ item.toList then some (badVariable item "Expected 'name=value'")
    else if itemName item = "" then some (badVariable item "Empty name")
    else none

theorem splitEquals?_eq (chars : List Char) : splitEquals? chars =
    if '=' ∈ chars then some (chars.takeWhile (· ≠ '='), (chars.dropWhile (· ≠ '=')).tail) else none := by
  induction chars with
  | nil => rfl
  | cons c rest ih =>
      rw [splitEquals?, ih]
      by_cases same : c = '='
      · simp [same]
      · by_cases later : '=' ∈ rest <;> simp [same, Ne.symm same, later]

theorem readVariable_cases (item : Option String) :
    (∃ fault, itemFault? item = some fault ∧ readVariable item = .error fault) ∨
      ∃ text, item = some text ∧ '=' ∈ text.toList ∧ itemFault? item = none ∧
        readVariable item = .ok (itemName text, itemValue text) := by
  cases item with
  | none => exact Or.inl ⟨_, rfl, rfl⟩
  | some text =>
      rw [itemFault?, readVariable, splitEquals?_eq]
      by_cases equals : '=' ∈ text.toList
      · rw [if_neg (not_not_intro equals), if_pos equals]
        dsimp only
        cases trimmed : Text.trim (text.toList.takeWhile (· ≠ '=')) with
        | nil =>
            left
            rw [if_pos (by rw [itemName, trimmed])]
            exact ⟨_, rfl, rfl⟩
        | cons c rest =>
            right
            rw [if_neg (by rw [itemName, trimmed]; simp)]
            refine ⟨text, rfl, equals, rfl, ?_⟩
            rw [itemName, trimmed, itemValue]
      · rw [if_pos equals, if_neg equals]
        exact Or.inl ⟨_, rfl, rfl⟩

theorem readVariables_cases (items : List (Option String)) :
    (∃ fault, items.findSome? itemFault? = some fault ∧ items.mapM readVariable = .error fault) ∨
      items.findSome? itemFault? = none ∧ ∃ assigned : Context, items.mapM readVariable = .ok assigned ∧
        ∀ name, assigned.valuesOf name = items.filterMap (setTo? name) := by
  induction items with
  | nil => exact Or.inr ⟨rfl, [], rfl, fun name => rfl⟩
  | cons item rest ih =>
      rw [List.mapM_cons, List.findSome?_cons]
      rcases readVariable_cases item with ⟨fault, faulty, refused⟩ | ⟨text, rfl, equals, faultless, taken⟩
      · rw [faulty, refused]
        exact Or.inl ⟨fault, rfl, rfl⟩
      · rw [faultless, taken]
        rcases ih with ⟨fault, faulty, refused⟩ | ⟨faultless', assigned, taken', values⟩
        · rw [refused]
          exact Or.inl ⟨fault, faulty, rfl⟩
        · rw [taken']
          refine Or.inr ⟨faultless', (itemName text, itemValue text) :: assigned, rfl, fun name => ?_⟩
          rw [Context.valuesOf, List.filterMap_cons, List.filterMap_cons, ← values name, Context.valuesOf, setTo?]
          by_cases same : itemName text = name <;> simp [same, equals]

structure VariableSources where
  items : List (Option String)
  fromFile : List (Value × Value)
  defaults : List (Value × Value)

/-- The value of a variable: the last one in the first list that sets it. A variable that is set nowhere, or to
nothing, is the empty text. -/
def VariableSources.value (sources : VariableSources) (name : String) : Value :=
  let inItems := (sources.items.filterMap (setTo? name)).getLast?
  let inFile := (Context.valuesUnder name sources.fromFile).getLast?
  let inDefaults := (Context.valuesUnder name sources.defaults).getLast?
  Context.orEmpty ((inItems.or (inFile.or inDefaults)).getD .none)

theorem VariableSources.value_of_merged (sources : VariableSources) {fromFile defaults : List (Value × Value)}
    (ofFile : contextEntries sources.fromFile = some fromFile)
    (ofDefaults : contextEntries sources.defaults = some defaults) {assigned : Context} {name : String}
    (values : assigned.valuesOf name = sources.items.filterMap (setTo? name)) :
    ((assigned.mergedOver (.ofEntries fromFile)).mergedOver (.ofEntries defaults)).value name =
      sources.value name := by
  have fileDistinct := Context.nodup_contextEntries ofFile
  have defaultsDistinct := Context.nodup_contextEntries ofDefaults
  rw [Context.value_eq_orEmpty, Context.find?_mergedOver, Context.given?_mergedOver fileDistinct,
    ← Context.given?_eq_find? defaultsDistinct, Context.given?_contextEntries ofFile,
    Context.given?_contextEntries ofDefaults, Context.given?_eq_getLast?, values, Option.or_assoc]
  rfl

end CommandLine

end TextTemplate
