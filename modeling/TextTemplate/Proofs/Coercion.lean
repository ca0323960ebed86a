import TextTemplate.Proofs.AssignedEntries
import TextTemplate.Proofs.ConfigLoading

/-!
What coercion makes of a value and where it fails, for hints of any depth. Its results are what their hints ask for,
values that are so already are left alone if their keys can be written, and a complaint is about the first part that
cannot be made so, in the order of the entries, each key before its value.
-/

namespace TextTemplate

namespace Hint

def IsScalar : Hint → Prop
  | any | bool | str | int => True
  | _ => False

def IsBuilt : Hint → Prop
  | dict key item => key.IsScalar ∧ item.IsBuilt
  | unsupported _ => False
  | _ => True

def shown : Hint → String
  | any => "any"
  | bool => "bool"
  | str => "str"
  | int => "int"
  | dict _ _ => "dict"
  | unsupported typeName => typeName

def Refuses : Hint → Value → Prop
  | bool, value => ∀ truth, value ≠ .bool truth
  | str, value => value.plain = none
  | int, value => value.readInteger = .impossible
  | dict _ _, value => ∀ entries, value ≠ .dict entries
  | _, _ => False

/-- The mappings in a value have different keys, as deep as the hint goes. -/
def DistinctKeys : Hint → Value → Prop
  | dict key item, .dict entries =>
    Entries.Distinct Value.sameKey entries ∧
      ∀ entry ∈ entries, key.DistinctKeys entry.1 ∧ item.DistinctKeys entry.2
  | _, _ => True

def KeysWritable : Hint → Value → Prop
  | dict key item, .dict entries =>
    ∀ entry ∈ entries, (key.KeysWritable entry.1 ∧ entry.1.plain ≠ none) ∧ item.KeysWritable entry.2
  | _, _ => True

def Makes (hint : Hint) (value result : Value) : Prop :=
  ∀ path, coerce hint path value = .ok result

def Takes (hint : Hint) (value : Value) : Prop :=
  ∃ result, hint.Makes value result

def MakesEntry (key item : Hint) (old new : Value × Value) : Prop :=
  key.Makes old.1 new.1 ∧ new.1.plain ≠ none ∧ item.Makes old.2 new.2

def TakesEntry (key item : Hint) (entry : Value × Value) : Prop :=
  ∃ new, MakesEntry key item entry new

/-- The first part of a value that cannot be coerced: the steps to it, the hint that refuses it, and the part itself.
The steps are keys as they are written once they are coerced; `<key>` is the step to a key. -/
inductive FirstOffender : Hint → Value → List Text → Hint → Value → Prop
  | here {hint : Hint} {value : Value} (refused : hint.Refuses value) : FirstOffender hint value [] hint value
  | key {key item : Hint} {before after : List (Value × Value)} {entry : Value × Value}
      (earlier : ∀ other ∈ before, TakesEntry key item other) (refused : key.Refuses entry.1) :
      FirstOffender (dict key item) (.dict (before ++ entry :: after)) [keyStep] key entry.1
  | item {key item wanted : Hint} {before after : List (Value × Value)} {entry : Value × Value}
      {newKey offender : Value}
      {step : Text} {steps : List Text} (earlier : ∀ other ∈ before, TakesEntry key item other)
      (made : key.Makes entry.1 newKey) (written : newKey.plain = some step)
      (inside : FirstOffender item entry.2 steps wanted offender) :
      FirstOffender (dict key item) (.dict (before ++ entry :: after)) (step :: steps) wanted offender

end Hint

/-! Entries are coerced one after another, until the first one fails. -/

theorem exists_forall₂_iff {α β : Type} {related : α → β → Prop} {items : List α} :
    (∃ others, List.Forall₂ related items others) ↔ ∀ item ∈ items, ∃ other, related item other := by
  induction items with
  | nil => simp
  | cons first rest ih =>
      rw [List.forall_mem_cons, ← ih]
      simp only [List.forall₂_cons_left_iff]
      constructor
      · rintro ⟨-, other, others, ofFirst, ofRest, -⟩
        exact ⟨⟨other, ofFirst⟩, others, ofRest⟩
      · rintro ⟨⟨other, ofFirst⟩, others, ofRest⟩
        exact ⟨_, other, others, ofFirst, ofRest, rfl⟩

section

variable {coerceKey coerceItem : List Text → Value → Except CoerceFailure Value} {path : List Text}
  {done entries : List (Value × Value)}

theorem coerceEntries_ok_iff {result : List (Value × Value)} :
    coerceEntries coerceKey coerceItem path done entries = .ok result ↔
      ∃ normalised, List.Forall₂ (fun old new => coerceEntry coerceKey coerceItem path old = .ok new) entries
          normalised ∧
        result = Entries.assignAll Value.sameKey done normalised := by
  induction entries generalizing done with
  | nil =>
      constructor
      · intro coerced
        exact ⟨[], .nil, (Except.ok.inj coerced).symm⟩
      · rintro ⟨normalised, made, rfl⟩
        cases made
        rfl
  | cons entry rest ih =>
      rw [coerceEntries, Parsing.bind_eq_ok]
      constructor
      · rintro ⟨new, ofEntry, later⟩
        obtain ⟨normalised, made, rfl⟩ := ih.mp later
        exact ⟨new :: normalised, .cons ofEntry made, rfl⟩
      · rintro ⟨normalised, made, rfl⟩
        cases made with
        | @cons _ new _ others ofEntry ofRest => exact ⟨new, ofEntry, ih.mpr ⟨others, ofRest, rfl⟩⟩

theorem coerceEntries_error_iff {failure : CoerceFailure} :
    coerceEntries coerceKey coerceItem path done entries = .error failure ↔
      ∃ before entry after, entries = before ++ entry :: after ∧
        (∀ other ∈ before, ∃ new, coerceEntry coerceKey coerceItem path other = .ok new) ∧
        coerceEntry coerceKey coerceItem path entry = .error failure := by
  induction entries generalizing done with
  | nil => simp [coerceEntries]
  | cons first rest ih =>
      rw [coerceEntries, Parsing.bind_eq_error]
      constructor
      · rintro (failed | ⟨new, made, later⟩)
        · exact ⟨[], first, rest, rfl, List.forall_mem_nil _, failed⟩
        · obtain ⟨before, entry, after, rfl, earlier, failed⟩ := ih.mp later
          exact ⟨first :: before, entry, after, rfl, List.forall_mem_cons.mpr ⟨⟨new, made⟩, earlier⟩, failed⟩
      · rintro ⟨before, entry, after, split, earlier, failed⟩
        cases before with
        | nil =>
            obtain ⟨rfl, rfl⟩ := List.cons.inj split
            exact Or.inl failed
        | cons other others =>
            obtain ⟨rfl, rfl⟩ := List.cons.inj split
            obtain ⟨⟨new, made⟩, earlier'⟩ := List.forall_mem_cons.mp earlier
            exact Or.inr ⟨new, made, ih.mpr ⟨others, entry, after, rfl, earlier', failed⟩⟩

end

/-! Mappings. -/

section

variable {key item : Hint} {path : List Text} {value : Value} {entries : List (Value × Value)}

theorem coerce_dict (key item : Hint) (path : List Text) (entries : List (Value × Value)) :
    coerce (.dict key item) path (.dict entries) =
      (coerceEntries (coerce key) (coerce item) path [] entries).map .dict := rfl

theorem coerce_dict_refused (refused : (Hint.dict key item).Refuses value) :
    coerce (.dict key item) path value = .error (mismatch "dict" value path) := by
  cases value with
  | dict entries => exact absurd rfl (refused entries)
  | _ => rfl

theorem dict_or_refused (key item : Hint) (value : Value) :
    (∃ entries, value = .dict entries) ∨ (Hint.dict key item).Refuses value := by
  by_cases isDict : ∃ entries, value = .dict entries
  · exact Or.inl isDict
  · exact Or.inr fun entries same => isDict ⟨entries, same⟩

theorem coerce_dict_ok_iff {result : Value} : coerce (.dict key item) path (.dict entries) = .ok result ↔
    ∃ normalised, List.Forall₂ (fun old new => coerceEntry (coerce key) (coerce item) path old = .ok new) entries
        normalised ∧
      result = .dict (Entries.assignAll Value.sameKey [] normalised) := by
  rw [coerce_dict]
  constructor
  · intro coerced
    cases made : coerceEntries (coerce key) (coerce item) path [] entries with
    | ok done =>
        rw [made] at coerced
        obtain ⟨normalised, ofEntries, rfl⟩ := coerceEntries_ok_iff.mp made
        exact ⟨normalised, ofEntries, (Except.ok.inj coerced).symm⟩
    | error failure =>
        rw [made] at coerced
        cases coerced
  · rintro ⟨normalised, ofEntries, rfl⟩
    rw [coerceEntries_ok_iff.mpr ⟨normalised, ofEntries, rfl⟩]
    rfl

theorem coerce_dict_error_iff {failure : CoerceFailure} :
    coerce (.dict key item) path (.dict entries) = .error failure ↔
    coerceEntries (coerce key) (coerce item) path [] entries = .error failure := by
  rw [coerce_dict]
  cases coerceEntries (coerce key) (coerce item) path [] entries <;> simp [Except.map]

end

theorem coerce_elsewhere {hint : Hint} {path : List Text} {value result : Value}
    (coerced : coerce hint path value = .ok result) : hint.Makes value result := by
  intro path'
  induction hint generalizing path path' value result with
  | any => exact coerced
  | bool =>
      rcases coerce_bool_cases path value with ⟨truth, rfl, -⟩ | refused
      · exact coerced
      · cases refused.symm.trans coerced
  | str =>
      rw [coerce, coerceText] at coerced ⊢
      cases written : value.plain with
      | some text =>
          rw [written] at coerced
          exact coerced
      | none =>
          rw [written] at coerced
          cases coerced
  | int =>
      rw [coerce, coerceInt] at coerced ⊢
      cases reading : value.readInteger with
      | number number =>
          rw [reading] at coerced
          exact coerced
      | overflow =>
          rw [reading] at coerced
          cases coerced
      | impossible =>
          rw [reading] at coerced
          cases coerced
  | dict key item ihKey ihItem =>
      rcases dict_or_refused key item value with ⟨entries, rfl⟩ | refused
      · rw [coerce_dict_ok_iff] at coerced ⊢
        obtain ⟨normalised, ofEntries, rfl⟩ := coerced
        refine ⟨normalised, ofEntries.imp ?_, rfl⟩
        intro old new ofEntry
        obtain ⟨ofKey, step, written, ofItem⟩ := coerceEntry_eq_ok_iff.mp ofEntry
        exact coerceEntry_eq_ok_iff.mpr ⟨ihKey ofKey _, step, written, ihItem ofItem _⟩
      · cases (coerce_dict_refused refused).symm.trans coerced
  | unsupported typeName => cases coerced

theorem coerce_ok_iff {hint : Hint} {path : List Text} {value result : Value} :
    coerce hint path value = .ok result ↔ hint.Makes value result :=
  ⟨coerce_elsewhere, fun made => made path⟩

namespace Hint

variable {key item hint : Hint} {entries : List (Value × Value)} {value result : Value}

theorem makesEntry_iff {path : List Text} {old new : Value × Value} :
    coerceEntry (coerce key) (coerce item) path old = .ok new ↔ MakesEntry key item old new := by
  rw [coerceEntry_eq_ok_iff, coerce_ok_iff, MakesEntry, Option.ne_none_iff_exists']
  simp only [coerce_ok_iff, exists_and_right]

theorem makes_dict_iff : (dict key item).Makes (.dict entries) result ↔
    ∃ normalised, List.Forall₂ (MakesEntry key item) entries normalised ∧
      result = .dict (Entries.assignAll Value.sameKey [] normalised) := by
  rw [← @coerce_ok_iff _ [], coerce_dict_ok_iff]
  simp only [makesEntry_iff]

theorem distinctKeys_of_coerced {path : List Text} (coerced : coerce hint path value = .ok result) :
    hint.DistinctKeys result := by
  induction hint generalizing path value result with
  | dict key item ihKey ihItem =>
      rcases dict_or_refused key item value with ⟨entries, rfl⟩ | refused
      · cases made : coerceEntries (coerce key) (coerce item) path [] entries with
        | ok done =>
            rw [coerce_dict, made] at coerced
            obtain rfl : Value.dict done = result := Except.ok.inj coerced
            have inside : ∀ entry ∈ done, key.DistinctKeys entry.1 ∧ item.DistinctKeys entry.2 := by
              refine coerceEntries_accepts ?_ (List.forall_mem_nil _) made
              intro old new ofEntry
              obtain ⟨ofKey, -, ofItem⟩ := makesEntry_iff.mp ofEntry
              exact ⟨ihKey (ofKey path), ihItem (ofItem path)⟩
            obtain ⟨normalised, -, rfl⟩ := coerceEntries_ok_iff.mp made
            exact ⟨Entries.distinct_assignAll .nil normalised, inside⟩
        | error failure => cases (coerce_dict_error_iff.mpr made).symm.trans coerced
      · cases (coerce_dict_refused refused).symm.trans coerced
  | _ => exact True.intro

theorem keysWritable_of_coerced {path : List Text} (coerced : coerce hint path value = .ok result) :
    hint.KeysWritable result := by
  induction hint generalizing path value result with
  | dict key item ihKey ihItem =>
      rcases dict_or_refused key item value with ⟨entries, rfl⟩ | refused
      · cases made : coerceEntries (coerce key) (coerce item) path [] entries with
        | ok done =>
            rw [coerce_dict, made] at coerced
            obtain rfl : Value.dict done = result := Except.ok.inj coerced
            let isStep := fun key' => key.KeysWritable key' ∧ key'.plain ≠ none
            refine @coerceEntries_accepts _ _ _ isStep item.KeysWritable _ _ _ ?_ (List.forall_mem_nil _) made
            intro old new ofEntry
            obtain ⟨ofKey, written, ofItem⟩ := makesEntry_iff.mp ofEntry
            exact ⟨⟨ihKey (ofKey path), written⟩, ihItem (ofItem path)⟩
        | error failure => cases (coerce_dict_error_iff.mpr made).symm.trans coerced
      · cases (coerce_dict_refused refused).symm.trans coerced
  | _ => exact True.intro

theorem makes_self (accepted : hint.Accepts value) (distinct : hint.DistinctKeys value)
    (writable : hint.KeysWritable value) : hint.Makes value value := by
  induction hint generalizing value with
  | any =>
      intro path
      rfl
  | bool =>
      obtain ⟨truth, rfl⟩ := accepted
      intro path
      rfl
  | str =>
      obtain ⟨content, rfl⟩ := accepted
      intro path
      rfl
  | int =>
      obtain ⟨number, rfl⟩ := accepted
      intro path
      rfl
  | dict key item ihKey ihItem =>
      obtain ⟨entries, rfl, ofEntries⟩ := accepted
      obtain ⟨apart, inside⟩ := distinct
      refine makes_dict_iff.mpr ⟨entries, List.forall₂_same.mpr ?_, ?_⟩
      · intro entry member
        obtain ⟨ofKey, ofItem⟩ := ofEntries entry member
        obtain ⟨keyApart, itemApart⟩ := inside entry member
        obtain ⟨⟨keyWritable, written⟩, itemWritable⟩ := writable entry member
        exact ⟨ihKey ofKey keyApart keyWritable, written, ihItem ofItem itemApart itemWritable⟩
      · rw [Entries.assignAll_of_distinct apart]
  | unsupported typeName => exact accepted.elim

theorem unwritable_of_accepted (accepted : hint.Accepts value) {path : List Text} {failure : CoerceFailure}
    (failed : coerce hint path value = .error failure) : failure = .unwritable := by
  induction hint generalizing path value with
  | any => cases failed
  | bool =>
      obtain ⟨truth, rfl⟩ := accepted
      cases failed
  | str =>
      obtain ⟨content, rfl⟩ := accepted
      cases failed
  | int =>
      obtain ⟨number, rfl⟩ := accepted
      cases failed
  | dict key item ihKey ihItem =>
      obtain ⟨entries, rfl, ofEntries⟩ := accepted
      obtain ⟨entry, member, failed'⟩ := coerceEntries_error (coerce_dict_error_iff.mp failed)
      obtain ⟨ofKey, ofItem⟩ := ofEntries entry member
      rcases coerceEntry_eq_error_iff.mp failed' with atKey | ⟨newKey, -, ⟨-, same⟩ | ⟨step, -, atItem⟩⟩
      · exact ihKey ofKey atKey
      · exact same.symm
      · exact ihItem ofItem atItem
  | unsupported typeName => exact accepted.elim

theorem keysWritable_of_makes (accepted : hint.Accepts value) (distinct : hint.DistinctKeys value)
    (made : hint.Makes value result) : hint.KeysWritable value := by
  induction hint generalizing value result with
  | dict key item ihKey ihItem =>
      obtain ⟨entries, rfl, ofEntries⟩ := accepted
      obtain ⟨-, inside⟩ := distinct
      obtain ⟨normalised, all, -⟩ := makes_dict_iff.mp made
      intro entry member
      obtain ⟨ofKey, ofItem⟩ := ofEntries entry member
      obtain ⟨keyApart, itemApart⟩ := inside entry member
      obtain ⟨new, keyMade, written, itemMade⟩ := exists_forall₂_iff.mp ⟨normalised, all⟩ entry member
      have keyWritable := ihKey ofKey keyApart keyMade
      have same : entry.1 = new.1 :=
        Except.ok.inj ((makes_self ofKey keyApart keyWritable []).symm.trans (keyMade []))
      exact ⟨⟨keyWritable, same ▸ written⟩, ihItem ofItem itemApart itemMade⟩
  | _ => exact True.intro

theorem makes_self_iff (accepted : hint.Accepts value) (distinct : hint.DistinctKeys value) (path : List Text) :
    (coerce hint path value = .ok value ↔ hint.KeysWritable value) ∧
      (coerce hint path value = .error .unwritable ↔ ¬ hint.KeysWritable value) := by
  by_cases writable : hint.KeysWritable value
  · have made := makes_self accepted distinct writable path
    simp [made, writable]
  · have failed : coerce hint path value = .error .unwritable := by
      cases outcome : coerce hint path value with
      | ok result => exact absurd (keysWritable_of_makes accepted distinct (coerce_ok_iff.mp outcome)) writable
      | error failure => rw [unwritable_of_accepted accepted outcome]
    simp [failed, writable]

end Hint

/-! Complaints. -/

theorem coerce_refused {hint : Hint} {value : Value} (refused : hint.Refuses value) (path : List Text) :
    coerce hint path value = .error (mismatch hint.shown value path) := by
  cases hint with
  | bool =>
      cases value with
      | bool truth => exact absurd rfl (refused truth)
      | _ => rfl
  | str =>
      have noText : value.plain = none := refused
      simp only [coerce, coerceText, noText, Option.elim, Hint.shown]
  | int =>
      have noNumber : value.readInteger = .impossible := refused
      simp only [coerce, coerceInt, noNumber, Hint.shown]
  | dict key item => exact coerce_dict_refused refused
  | _ => exact refused.elim

theorem refused_of_scalar {hint : Hint} {path : List Text} {value : Value} {error : ConfigError}
    (failed : coerce hint path value = .error (.config error)) (scalar : hint.IsScalar) : hint.Refuses value := by
  cases hint with
  | any => cases failed
  | bool =>
      rintro truth rfl
      cases failed
  | str =>
      rcases coerce_str_cases path value with ⟨text, -, made⟩ | ⟨noText, -⟩
      · cases made.symm.trans failed
      · exact noText
  | int =>
      rw [coerce, coerceInt] at failed
      cases reading : value.readInteger with
      | number number =>
          rw [reading] at failed
          cases failed
      | overflow =>
          rw [reading] at failed
          cases failed
      | impossible => exact reading
  | dict key item => exact scalar.elim
  | unsupported typeName => exact scalar.elim

theorem firstOffender_of_refused {hint : Hint} {value : Value} (refused : hint.Refuses value) {path : List Text}
    {error : ConfigError} (failed : coerce hint path value = .error (.config error)) :
    ∃ steps wanted offender, hint.FirstOffender value steps wanted offender ∧
      .config error = mismatch wanted.shown offender (path ++ steps) := by
  refine ⟨[], hint, value, .here refused, ?_⟩
  rw [List.append_nil]
  exact Except.error.inj (failed.symm.trans (coerce_refused refused path))

theorem coerce_dict_failed_iff {key item : Hint} {path : List Text} {entries : List (Value × Value)}
    {failure : CoerceFailure} : coerce (.dict key item) path (.dict entries) = .error failure ↔
      ∃ before entry after, entries = before ++ entry :: after ∧
        (∀ other ∈ before, Hint.TakesEntry key item other) ∧
        coerceEntry (coerce key) (coerce item) path entry = .error failure := by
  rw [coerce_dict_error_iff, coerceEntries_error_iff]
  simp only [Hint.makesEntry_iff, Hint.TakesEntry]

theorem firstOffender_of_failed {hint : Hint} (built : hint.IsBuilt) {path : List Text} {value : Value}
    {error : ConfigError} (failed : coerce hint path value = .error (.config error)) :
    ∃ steps wanted offender, hint.FirstOffender value steps wanted offender ∧
      .config error = mismatch wanted.shown offender (path ++ steps) := by
  induction hint generalizing path value with
  | dict key item ihKey ihItem =>
      obtain ⟨scalar, itemBuilt⟩ := built
      rcases dict_or_refused key item value with ⟨entries, rfl⟩ | refused
      · obtain ⟨before, entry, after, rfl, earlier, failed'⟩ := coerce_dict_failed_iff.mp failed
        rcases coerceEntry_eq_error_iff.mp failed' with atKey | ⟨newKey, made, ⟨-, other⟩ | ⟨step, written, atItem⟩⟩
        · have refused := refused_of_scalar atKey scalar
          refine ⟨[keyStep], key, entry.1, .key earlier refused, ?_⟩
          exact Except.error.inj (atKey.symm.trans (coerce_refused refused _))
        · cases other
        · obtain ⟨steps, wanted, offender, first, told⟩ := ihItem itemBuilt atItem
          refine ⟨_, wanted, offender, .item earlier (coerce_ok_iff.mp made) written first, ?_⟩
          rw [told, List.append_assoc, List.singleton_append]
      · exact firstOffender_of_refused refused failed
  | unsupported typeName => exact built.elim
  | any | bool | str | int => exact firstOffender_of_refused (refused_of_scalar failed True.intro) failed

theorem failed_of_firstOffender {hint wanted : Hint} {value offender : Value} {steps : List Text}
    (first : hint.FirstOffender value steps wanted offender) (path : List Text) :
    coerce hint path value = .error (mismatch wanted.shown offender (path ++ steps)) := by
  induction first generalizing path with
  | here refused =>
      rw [List.append_nil]
      exact coerce_refused refused path
  | @key key item before after entry earlier refused =>
      refine coerce_dict_failed_iff.mpr ⟨before, entry, after, rfl, earlier, ?_⟩
      exact coerceEntry_eq_error_iff.mpr (Or.inl (coerce_refused refused _))
  | @item key item wanted before after entry newKey offender step steps earlier made written inside ih =>
      refine coerce_dict_failed_iff.mpr ⟨before, entry, after, rfl, earlier, ?_⟩
      refine coerceEntry_eq_error_iff.mpr (Or.inr ⟨newKey, made _, Or.inr ⟨step, written, ?_⟩⟩)
      rw [ih, List.append_assoc, List.singleton_append]

/-- Coercion yields what its hint asks for, in mappings with different keys that can be written; it leaves alone what
is so already if its keys can be written, and else fails without a place; it leaves alone its own results; and it
complains exactly about the first offender, at the steps to it. -/
theorem coercion_sound (hint : Hint) (built : hint.IsBuilt) (path : List Text) (value : Value) :
    (∀ result, coerce hint path value = .ok result →
      hint.Accepts result ∧ hint.DistinctKeys result ∧ hint.KeysWritable result) ∧
    (hint.Accepts value → hint.DistinctKeys value →
      (coerce hint path value = .ok value ↔ hint.KeysWritable value) ∧
      (coerce hint path value = .error .unwritable ↔ ¬ hint.KeysWritable value)) ∧
    (∀ result, coerce hint path value = .ok result → ∀ path', coerce hint path' result = .ok result) ∧
    (∀ error, coerce hint path value = .error (.config error) ↔
      ∃ steps wanted offender, hint.FirstOffender value steps wanted offender ∧
        error = ⟨path ++ steps, "expected " ++ wanted.shown ++ ", got " ++ offender.typeName⟩) := by
  have typed : ∀ result, coerce hint path value = .ok result →
      hint.Accepts result ∧ hint.DistinctKeys result ∧ hint.KeysWritable result := by
    intro result coerced
    exact ⟨(coerce_explained hint path value).accepts coerced, Hint.distinctKeys_of_coerced coerced,
      Hint.keysWritable_of_coerced coerced⟩
  refine ⟨typed, ?_, ?_, ?_⟩
  · intro accepted distinct
    exact Hint.makes_self_iff accepted distinct path
  · intro result coerced
    obtain ⟨accepted, distinct, writable⟩ := typed result coerced
    exact Hint.makes_self accepted distinct writable
  · intro error
    constructor
    · intro failed
      obtain ⟨steps, wanted, offender, first, told⟩ := firstOffender_of_failed built failed
      exact ⟨steps, wanted, offender, first, CoerceFailure.config.inj told⟩
    · rintro ⟨steps, wanted, offender, first, rfl⟩
      exact failed_of_firstOffender first path

theorem coercion_sound_groups :
    let hint := Hint.dict .str (.dict .int .bool)
    let conforming := Value.dict [(.text (.ofString "a"), .dict [(.int 1, .bool true)])]
    let failing := Value.dict
      [(.text (.ofString "a"), .dict [(.int 1, .bool true)]), (.int 7, .dict [(.text (.ofString "x"), .bool true)])]
    hint.IsBuilt ∧ coerce hint [.ofString "vars"] conforming = .ok conforming ∧
      coerce hint [.ofString "vars"] failing =
        .error (.config ⟨[.ofString "vars", .ofString "7", .ofString "<key>"], "expected int, got str"⟩) := by
  intro hint conforming failing
  have built : hint.IsBuilt := ⟨True.intro, True.intro, True.intro⟩
  have group : (Hint.dict .int .bool).Accepts (.dict [(.int 1, .bool true)]) := ⟨_, rfl, by simp [Hint.Accepts]⟩
  have one : (Value.int 1).plain = some (.ofString "1") := by cbv
  have seven : (Value.int 7).plain = some (.ofString "7") := by cbv
  have text (content : Text) : (Value.text content).plain = some content := rfl
  obtain ⟨-, leftAlone, -, -⟩ := coercion_sound hint built [.ofString "vars"] conforming
  obtain ⟨-, -, -, complains⟩ := coercion_sound hint built [.ofString "vars"] failing
  refine ⟨built, (leftAlone ⟨_, rfl, ?_⟩ ?_).1.mpr ?_,
    (complains _).mpr ⟨[.ofString "7", keyStep], .int, .text (.ofString "x"), ?_, rfl⟩⟩
  · exact List.forall_mem_singleton.mpr ⟨⟨_, rfl⟩, group⟩
  · simp [hint, conforming, Hint.DistinctKeys, Entries.Distinct]
  · simp [hint, conforming, Hint.KeysWritable, text, one]
  · have groupMade : (Hint.dict .int .bool).Makes (.dict [(.int 1, .bool true)]) (.dict [(.int 1, .bool true)]) :=
      Hint.makes_self group (by simp [Hint.DistinctKeys, Entries.Distinct]) (by simp [Hint.KeysWritable, one])
    have textMade : Hint.str.Makes (.text (.ofString "a")) (.text (.ofString "a")) := fun _ => rfl
    have earlier : ∀ other ∈ [(Value.text (.ofString "a"), Value.dict [(.int 1, .bool true)])],
        Hint.TakesEntry .str (.dict .int .bool) other :=
      List.forall_mem_singleton.mpr ⟨(_, _), textMade, by simp [text], groupMade⟩
    have inGroup : (Hint.dict .int .bool).FirstOffender (.dict [(.text (.ofString "x"), .bool true)]) [keyStep] .int
        (.text (.ofString "x")) := @Hint.FirstOffender.key _ _ [] _ (_, _) (List.forall_mem_nil _) (by cbv)
    have written : Hint.str.Makes (.int 7) (.text (.ofString "7")) := by
      intro path
      rw [coerce, coerceText, seven]
      rfl
    exact @Hint.FirstOffender.item _ _ _ _ [] (_, _) _ _ _ _ earlier written (text _) inGroup

/-- A mapping from an integer of too many digits is what its hint asks for, but is not left alone. -/
theorem conforming_mapping_unwritable :
    let hint := Hint.dict .int .any
    let value := Value.dict [(.int (10 ^ Text.digitLimit), .none)]
    hint.IsBuilt ∧ hint.Accepts value ∧ hint.DistinctKeys value ∧
      ∀ path, coerce hint path value = .error .unwritable := by
  intro hint value
  have accepted : hint.Accepts value := ⟨_, rfl, List.forall_mem_singleton.mpr ⟨⟨_, rfl⟩, True.intro⟩⟩
  have distinct : hint.DistinctKeys value := by simp [hint, value, Hint.DistinctKeys, Entries.Distinct]
  have unwritable : ¬ hint.KeysWritable value := by
    intro writable
    obtain ⟨⟨-, written⟩, -⟩ := writable _ (List.mem_singleton.mpr rfl)
    refine written ?_
    rw [Value.plain, Value.literal, Text.decimal?_pow_digitLimit]
    · rfl
    all_goals simp
  exact ⟨⟨True.intro, True.intro⟩, accepted, distinct, fun path => (Hint.makes_self_iff accepted distinct path).2.mpr
    unwritable⟩

end TextTemplate
