import TextTemplate.Proofs.ConfigLoading

/-!
What the root of a document decides. A context is read from nothing and from mappings only. Settings are read from the
roots that count as empty besides: they are taken for an empty mapping before anything asks for one.
-/

namespace TextTemplate

inductive Value.IsHollow : Value → Prop
  | falsity : IsHollow (.bool false)
  | zero : IsHollow (.int 0)
  | zeroFloat (negative : Bool) (exponent : Int) : IsHollow (.float (.finite negative 0 exponent))
  | noText : IsHollow (.text [])
  | noList : IsHollow (.list [])
  | noTuple : IsHollow (.tuple [])

theorem Value.isVoid_of_isHollow {root : Value} (hollow : root.IsHollow) : root.isVoid = true := by
  cases hollow <;> rfl

theorem Value.isVoid_cases {root : Value} (void : root.isVoid = true) :
    root = .none ∨ root = .dict [] ∨ root.IsHollow := by
  cases root with
  | none => exact Or.inl rfl
  | bool truth =>
      cases truth with
      | false => exact Or.inr (Or.inr .falsity)
      | true => cases void
  | int number =>
      obtain rfl : number = 0 := by simpa [isVoid, isTruthy] using void
      exact Or.inr (Or.inr .zero)
  | float number =>
      cases number with
      | finite negative mantissa exponent =>
          obtain rfl : mantissa = 0 := by simpa [isVoid, Double.isZeroOrNan] using void
          exact Or.inr (Or.inr (.zeroFloat negative exponent))
      | nan => cases void
      | infinite negative => cases void
  | text content =>
      obtain rfl : content = [] := by simpa [isVoid, isTruthy] using void
      exact Or.inr (Or.inr .noText)
  | list items =>
      obtain rfl : items = [] := by simpa [isVoid] using void
      exact Or.inr (Or.inr .noList)
  | tuple items =>
      obtain rfl : items = [] := by simpa [isVoid] using void
      exact Or.inr (Or.inr .noTuple)
  | dict entries =>
      obtain rfl : entries = [] := by simpa [isVoid] using void
      exact Or.inr (Or.inl rfl)
  | _ => cases void

/-! Settings by root. -/

def BuildFailure.toLoad : BuildFailure → LoadFailure
  | config error => .mistake (.config error)
  | overflow => .overflow

theorem configOf_eq (root : Value) : configOf root =
    (EngineConfig.build (if root.isVoid then .dict [] else root)).mapError BuildFailure.toLoad := rfl

theorem EngineConfig.build_empty : build (.dict []) = .ok default := by
  rw [build, Schema.build_dict (List.forall_mem_nil _)]
  rfl

theorem EngineConfig.build_of_not_dict {root : Value} (noMapping : ∀ entries, root ≠ .dict entries) :
    build root = .error (.config ⟨[], "expected mapping for EngineConfig, got " ++ root.typeName⟩) := by
  apply build_of_error
  cases root with
  | dict entries => exact absurd rfl (noMapping entries)
  | _ => rfl

theorem configOf_void {root : Value} (void : root.isVoid = true) : configOf root = .ok EngineConfig.default := by
  rw [configOf_eq, if_pos void, EngineConfig.build_empty]
  rfl

theorem configOf_dict (entries : List (Value × Value)) :
    configOf (.dict entries) = (EngineConfig.build (.dict entries)).mapError BuildFailure.toLoad := by
  rw [configOf_eq]
  cases entries <;> rfl

theorem configOf_solid {root : Value} (solid : root.isVoid = false) (noMapping : ∀ entries, root ≠ .dict entries) :
    configOf root =
      .error (.mistake (.config ⟨[], "expected mapping for EngineConfig, got " ++ root.typeName⟩)) := by
  rw [configOf_eq, solid, if_neg Bool.false_ne_true, EngineConfig.build_of_not_dict noMapping]
  rfl

theorem loadContext_refused {path : String} {found : Found} {root : Value} (isRoot : readDocument path found = .ok root)
    (something : root ≠ .none) (noMapping : ∀ entries, root ≠ .dict entries) :
    loadContext path found = .error (.mistake
      (.config ⟨[], "Context file " ++ path ++ " must contain a mapping, got " ++ root.typeName⟩)) := by
  cases found with
  | missing => cases isRoot
  | _ =>
      rw [loadContext, isRoot]
      · cases root with
        | none => exact absurd rfl something
        | dict entries => exact absurd rfl (noMapping entries)
        | _ => rfl
      all_goals simp

/-- Settings are the default ones if the root of their file is nothing, and what is made of it if it is a mapping. A
root that is neither is refused by contexts, and by settings exactly if it does not count as empty. -/
theorem config_root_refused_iff (path : String) (found : Found) (switch : Option String) (root : Value)
    (isRoot : readDocument path found = .ok root) :
    (root = .none → loadConfig path found switch = .ok (EngineConfig.default.withSwitch switch)) ∧
    (∀ entries, root = .dict entries → loadConfig path found switch =
      ((EngineConfig.build root).mapError BuildFailure.toLoad).map fun config => config.withSwitch switch) ∧
    (root ≠ .none → (∀ entries, root ≠ .dict entries) →
      loadContext path found = .error (.mistake
        (.config ⟨[], "Context file " ++ path ++ " must contain a mapping, got " ++ root.typeName⟩)) ∧
      (loadConfig path found switch =
          .error (.mistake (.config ⟨[], "expected mapping for EngineConfig, got " ++ root.typeName⟩)) ↔
        ¬ root.IsHollow) ∧
      (loadConfig path found switch = .ok (EngineConfig.default.withSwitch switch) ↔ root.IsHollow)) := by
  have same := loadConfig_of_read isRoot switch
  refine ⟨?_, ?_, ?_⟩
  · rintro rfl
    rw [same, configOf_void rfl]
    rfl
  · rintro entries rfl
    rw [same, configOf_dict]
  · intro something noMapping
    refine ⟨loadContext_refused isRoot something noMapping, ?_⟩
    by_cases hollow : root.IsHollow
    · have made := configOf_void (Value.isVoid_of_isHollow hollow)
      rw [same, made]
      simp [hollow, Except.map]
    · have solid : root.isVoid = false := by
        by_contra void
        rcases Value.isVoid_cases (by simpa using void) with none | empty | isHollow
        · exact something none
        · exact noMapping [] empty
        · exact hollow isHollow
      rw [same, configOf_solid solid noMapping]
      simp [hollow, Except.map]

theorem config_root_refused_iff_number :
    let found := Found.file ("7\n".toList.map Char.toNat)
    readDocument "c.yaml" found = .ok (.int 7) ∧ loadConfig "c.yaml" found none =
      .error (.mistake (.config ⟨[], "expected mapping for EngineConfig, got int"⟩)) := by
  intro found
  have isRoot : readDocument "c.yaml" (.file ("7\n".toList.map Char.toNat)) = .ok (.int 7) := by cbv
  obtain ⟨-, -, neither⟩ := config_root_refused_iff "c.yaml" found none (.int 7) isRoot
  obtain ⟨-, refused, -⟩ := neither (by simp) (by simp)
  have notHollow : ¬ (Value.int 7).IsHollow := by
    intro hollow
    cases hollow
  exact ⟨isRoot, refused.mpr notHollow⟩

/-- A root that is false is refused by contexts, and gives the default settings. -/
theorem false_root_taken :
    let found := Found.file ("false\n".toList.map Char.toNat)
    readDocument "c.yaml" found = .ok (.bool false) ∧ loadConfig "c.yaml" found none = .ok EngineConfig.default ∧
      loadContext "c.yaml" found =
        .error (.mistake (.config ⟨[], "Context file c.yaml must contain a mapping, got bool"⟩)) := by
  intro found
  have isRoot : readDocument "c.yaml" (.file ("false\n".toList.map Char.toNat)) = .ok (.bool false) := by cbv
  refine ⟨isRoot, ?_, loadContext_refused isRoot (by simp) (by simp)⟩
  rw [loadConfig_of_read isRoot, configOf_void rfl]
  rfl

end TextTemplate
