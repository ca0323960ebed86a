import TextTemplate.Proofs.Coercion
import TextTemplate.Proofs.VariablePrecedence

/-!
What is left of a mapping whose keys are normalised. Keys that were different may be the same then, and the entries are
assigned one after another: each normalised key keeps its first place and has its last value. So entries are lost
exactly if two keys become the same.
-/

namespace TextTemplate

structure Value.InMapping (entries : List (Value × Value)) : Prop where
  keys : ∀ entry ∈ entries, entry.1.canBeKey = true
  distinct : Entries.Distinct sameKey entries

/-! Normalised keys that are the same are equal. -/

theorem Value.int_of_sameKey {number number' : Int} (same : (int number).sameKey (int number') = true) :
    number = number' := by
  simpa [sameKey, sameKeyIf, wholeNumber?] using same

theorem Value.bool_of_sameKey {truth truth' : Bool} (same : (bool truth).sameKey (bool truth') = true) :
    truth = truth' := by
  revert truth truth'
  decide

theorem Hint.eq_of_makes {hint : Hint} {key other newKey newOther : Value} (canBe : key.canBeKey = true)
    (apart : key.sameKey other = false) (made : hint.Makes key newKey) (madeOther : hint.Makes other newOther)
    (same : newKey.sameKey newOther = true) : newKey = newOther := by
  have accepted : hint.Accepts newKey := (coerce_explained hint [] key).accepts (made [])
  have acceptedOther : hint.Accepts newOther := (coerce_explained hint [] other).accepts (madeOther [])
  cases hint with
  | any =>
      obtain rfl : key = newKey := Except.ok.inj (made [])
      obtain rfl : other = newOther := Except.ok.inj (madeOther [])
      rw [apart] at same
      cases same
  | bool =>
      obtain ⟨truth, rfl⟩ := accepted
      obtain ⟨truth', rfl⟩ := acceptedOther
      rw [Value.bool_of_sameKey same]
  | str =>
      obtain ⟨content, rfl⟩ := acceptedOther
      exact Value.sameKey_text_iff.mp same
  | int =>
      obtain ⟨number, rfl⟩ := accepted
      obtain ⟨number', rfl⟩ := acceptedOther
      rw [Value.int_of_sameKey same]
  | dict key' item =>
      rcases dict_or_refused key' item key with ⟨entries, rfl⟩ | refused
      · cases canBe
      · cases (made []).symm.trans (coerce_dict_refused refused)
  | unsupported typeName => exact accepted.elim

theorem Value.InMapping.equal_of_makes {key item : Hint} {entries normalised : List (Value × Value)}
    (mapping : InMapping entries)
    (made : List.Forall₂ (Hint.MakesEntry key item) entries normalised) :
    normalised.Pairwise fun first second => first.1.sameKey second.1 = true → first.1 = second.1 := by
  rw [List.pairwise_iff_get]
  intro i j before same
  have asMany : entries.length = normalised.length := made.length_eq
  have ofKey (k : Fin normalised.length) : key.Makes (entries.get (k.cast asMany.symm)).1 (normalised.get k).1 :=
    (made.get (k.cast asMany.symm).isLt k.isLt).1
  have apart := List.pairwise_iff_get.mp mapping.distinct (i.cast asMany.symm) (j.cast asMany.symm) before
  exact Hint.eq_of_makes (mapping.keys _ (List.get_mem _ _)) apart (ofKey i) (ofKey j) same

theorem texts_of_underTexts {entries named : List (Value × Value)} (written : underTexts entries = some named) :
    ∀ entry ∈ named, ∃ name, entry.1 = .text name := by
  induction entries generalizing named with
  | nil =>
      obtain rfl := Option.some.inj written
      exact List.forall_mem_nil _
  | cons entry rest ih =>
      obtain ⟨name, others, -, ofRest, rfl⟩ := underTexts_cons_iff.mp written
      exact List.forall_mem_cons.mpr ⟨⟨name, rfl⟩, ih ofRest⟩

theorem mergesTo_contextEntries {entries merged : List (Value × Value)} (made : contextEntries entries = some merged) :
    ∃ named, underTexts entries = some named ∧ Entries.MergesTo Value.sameKey named merged := by
  obtain ⟨named, written, rfl⟩ := Option.map_eq_some_iff.mp made
  refine ⟨named, written, Entries.mergesTo_assignAll (List.pairwise_of_forall_mem_list ?_)⟩
  intro first _ second member same
  obtain ⟨name, isText⟩ := texts_of_underTexts written second member
  rw [isText] at same ⊢
  exact Value.sameKey_text_iff.mp same

/-- Entries of mappings are merged under their normalised keys: coerced ones, variables in settings, and those of a
context. -/
theorem merged_under_normalised_keys :
    (∀ key item path entries result, Value.InMapping entries →
      coerce (.dict key item) path (.dict entries) = .ok result → ∃ normalised merged,
        List.Forall₂ (Hint.MakesEntry key item) entries normalised ∧
        result = .dict merged ∧ Entries.MergesTo Value.sameKey normalised merged) ∧
    (∀ data config, EngineConfig.build data = .ok config → ∃ named merged,
      underTexts data.variableEntries = some named ∧ config.vars = .dict merged ∧
        Entries.MergesTo Value.sameKey named merged) ∧
    ∀ path found entries merged, readDocument path found = .ok (.dict entries) →
      loadContext path found = .ok merged → ∃ named,
        underTexts entries = some named ∧ Entries.MergesTo Value.sameKey named merged := by
  refine ⟨?_, ?_, ?_⟩
  · intro key item path entries result mapping coerced
    obtain ⟨normalised, made, rfl⟩ := Hint.makes_dict_iff.mp (coerce_elsewhere coerced)
    exact ⟨normalised, _, made, rfl, Entries.mergesTo_assignAll (mapping.equal_of_makes made)⟩
  · intro data config built
    obtain ⟨merged, made, isVars⟩ := EngineConfig.vars_of_build built
    obtain ⟨named, written, merges⟩ := mergesTo_contextEntries made
    exact ⟨named, merged, written, isVars, merges⟩
  · intro path found entries merged isRoot loaded
    have made := loadContext_ok loaded
    rw [documentAt_of_read isRoot] at made
    exact mergesTo_contextEntries made

theorem merged_under_normalised_keys_truth :
    let entries := [(Value.bool true, Value.int 1), (.text (.ofString "x"), .int 2),
      (.text (.ofString "True"), .int 3)]
    let merged := [(Value.text (.ofString "True"), Value.int 3), (.text (.ofString "x"), .int 2)]
    Value.InMapping entries ∧ coerce (.dict .str .any) [] (.dict entries) = .ok (.dict merged) ∧
      ∃ normalised, List.Forall₂ (Hint.MakesEntry .str .any) entries normalised ∧
        Entries.MergesTo Value.sameKey normalised merged := by
  intro entries merged
  have mapping : Value.InMapping entries := ⟨by decide, by unfold Entries.Distinct; decide⟩
  have coerced : coerce (.dict .str .any) [] (.dict entries) = .ok (.dict merged) := rfl
  obtain ⟨normalised, merged', made, same, merges⟩ := merged_under_normalised_keys.1 _ _ _ _ _ mapping coerced
  obtain rfl : merged = merged' := Value.dict.inj same
  exact ⟨mapping, coerced, normalised, made, merges⟩

/-- An entry is lost: a number and a text are two keys, and one when they are written out. -/
theorem entry_lost_under_one_text :
    let entries := [(Value.text (.ofString "1"), Value.text (.ofString "str")), (.int 1, .text (.ofString "int"))]
    let merged := [(Value.text (.ofString "1"), Value.text (.ofString "int"))]
    let found := Found.file ("'1': str\n1: int\n".toList.map Char.toNat)
    Value.InMapping entries ∧ merged.length < entries.length ∧
      coerce (.dict .str .any) [.ofString "vars"] (.dict entries) = .ok (.dict merged) ∧
      readDocument "c.yaml" found = .ok (.dict entries) ∧ loadContext "c.yaml" found = .ok merged := by
  intro entries merged found
  have isRoot : readDocument "c.yaml" (.file ("'1': str\n1: int\n".toList.map Char.toNat)) = .ok (.dict entries) := by
    cbv
  have made : contextEntries entries = some merged := rfl
  exact ⟨⟨by decide, by unfold Entries.Distinct; decide⟩, by decide, rfl, isRoot, loadContext_of_dict isRoot made⟩

end TextTemplate
