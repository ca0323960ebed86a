import TextTemplate.Proofs.JsonText
import TextTemplate.Proofs.RenderCommand

/-!
Nodes and their documents. A node is read back from its document, whatever it was built of; so two nodes have equal
documents only if they are equal themselves, and the command that prints the syntax of a template prints something else
for every other syntax.
-/

namespace TextTemplate

namespace Json

mutual

def same : Json → Json → Bool
  | text content, text content' => content == content'
  | number value, number value' => value == value'
  | list items, list items' => sameItems items items'
  | object fields, object fields' => fields.length == fields'.length && sameFields fields fields'
  | _, _ => false

def sameItems : List Json → List Json → Bool
  | [], [] => true
  | item :: rest, item' :: rest' => same item item' && sameItems rest rest'
  | _, _ => false

def sameFields : List (String × Json) → List (String × Json) → Bool
  | [], _ => true
  | (name, item) :: rest, fields =>
    (match fields.lookup name with
      | some item' => same item item'
      | none => false) && sameFields rest fields

end

end Json

namespace Node

mutual

theorem ofJson?_toJson : ∀ node : Node, ofJson? node.toJson = some node
  | text _ => rfl
  | template expression => by simp [toJson, record, typeName, ofJson?, ofJson?_toJson expression]
  | var _ => rfl
  | string _ => rfl
  | filter _ args => by simp [toJson, record, typeName, ofJson?, ofJsons?_toJsons args]
  | pipe left _ args => by
      simp [toJson, record, typeName, ofJson?, ofJson?_toJson left, ofJsons?_toJsons args]
  | ternary condition whenTrue whenFalse => by
      simp [toJson, record, typeName, ofJson?, ofJson?_toJson condition, ofJson?_toJson whenTrue,
        ofJson?_toJson whenFalse]
  | or left right => by simp [toJson, record, typeName, ofJson?, ofJson?_toJson left, ofJson?_toJson right]

theorem ofJsons?_toJsons : ∀ nodes : List Node, ofJsons? (toJsons nodes) = some nodes
  | [] => rfl
  | node :: rest => by simp [toJsons, ofJsons?, ofJson?_toJson node, ofJsons?_toJsons rest]

end

mutual

theorem same_toJson_iff : ∀ node other : Node, node.toJson.same other.toJson = true ↔ node = other
  | text _, other => by cases other <;> simp [toJson, record, typeName, Json.same, Json.sameFields, List.lookup]
  | template expression, other => by
      cases other <;>
        simp [toJson, record, typeName, Json.same, Json.sameFields, List.lookup, same_toJson_iff expression]
  | var _, other => by cases other <;> simp [toJson, record, typeName, Json.same, Json.sameFields, List.lookup]
  | string _, other => by cases other <;> simp [toJson, record, typeName, Json.same, Json.sameFields, List.lookup]
  | filter _ args, other => by
      cases other <;> simp [toJson, record, typeName, Json.same, Json.sameFields, List.lookup, same_toJsons_iff args]
  | pipe left _ args, other => by
      cases other <;>
        simp [toJson, record, typeName, Json.same, Json.sameFields, List.lookup, same_toJson_iff left,
          same_toJsons_iff args]
  | ternary condition whenTrue whenFalse, other => by
      cases other <;>
        simp [toJson, record, typeName, Json.same, Json.sameFields, List.lookup, same_toJson_iff condition,
          same_toJson_iff whenTrue, same_toJson_iff whenFalse]
  | or left right, other => by
      cases other <;>
        simp [toJson, record, typeName, Json.same, Json.sameFields, List.lookup, same_toJson_iff left,
          same_toJson_iff right]

theorem same_toJsons_iff : ∀ nodes others : List Node,
    Json.sameItems (toJsons nodes) (toJsons others) = true ↔ nodes = others
  | [], others => by cases others <;> simp [toJsons, Json.sameItems]
  | node :: rest, others => by
      cases others <;> simp [toJsons, Json.sameItems, same_toJson_iff node, same_toJsons_iff rest]

end

theorem toJson_injective : Function.Injective toJson := by
  intro node other same
  have read := congrArg ofJson? same
  rw [ofJson?_toJson, ofJson?_toJson] at read
  exact Option.some.inj read

end Node

namespace CommandLine

def compilation (surroundings : Surroundings) (config : Option String) (template : String) :
    Except Stop (List Node) := do
  let (path, found) ← (configFile surroundings config).outcome
  let settings ← (ofLoading (loadConfig path found surroundings.cacheSwitch)).outcome
  let source ← (readTemplate surroundings template).outcome
  (compileSource settings.maxDepth source).mapError Stop.ofCompile

def Dumps (surroundings : Surroundings) (arguments : List String) (nodes : List Node) : Prop :=
  ∃ config debug template, readArguments arguments = .run ⟨config, debug, .ast template⟩ ∧
    compilation surroundings config template = .ok nodes

theorem perform_ast (surroundings : Surroundings) (config : Option String) (debug : Bool) (template : String) :
    (perform surroundings ⟨config, debug, .ast template⟩).outcome =
      (compilation surroundings config template).map fun nodes => (Json.list (nodes.map Node.toJson)).render := by
  simp only [perform, compilation, Traced.outcome_bind_eq, makeEngine_outcome, bind_assoc, pure_bind, compile_outcome,
    except_map_bind]
  refine bind_congr fun place => ?_
  refine bind_congr fun settings => ?_
  refine bind_congr fun source => ?_
  cases compileSource settings.maxDepth source <;> rfl

theorem Dumps.run_eq {surroundings : Surroundings} {arguments : List String} {nodes : List Node}
    (dumps : Dumps surroundings arguments nodes) :
    (run surroundings arguments).exitCode = 0 ∧
      (run surroundings arguments).output = (Json.list (nodes.map Node.toJson)).render := by
  obtain ⟨config, debug, template, asked, compiled⟩ := dumps
  have performed := perform_ast surroundings config debug template
  rw [compiled] at performed
  rw [run, asked]
  dsimp only
  rw [performed]
  exact ⟨rfl, rfl⟩

/-- The document of a node is read back as this node; documents are equal only of equal nodes; and what is printed of
two templates is the same only if they are compiled to the same nodes. -/
theorem records_tell_nodes_apart :
    (∀ node : Node, Node.ofJson? node.toJson = some node) ∧
    (∀ node other : Node, node.toJson.same other.toJson = true ↔ node = other) ∧
    ∀ surroundings surroundings' arguments arguments' nodes nodes',
      Dumps surroundings arguments nodes → Dumps surroundings' arguments' nodes' →
        (run surroundings arguments).exitCode = 0 ∧ (run surroundings' arguments').exitCode = 0 ∧
          ((run surroundings arguments).output = (run surroundings' arguments').output ↔ nodes = nodes') := by
  refine ⟨Node.ofJson?_toJson, Node.same_toJson_iff, ?_⟩
  intro surroundings surroundings' arguments arguments' nodes nodes' dumps dumps'
  obtain ⟨succeeded, printed⟩ := dumps.run_eq
  obtain ⟨succeeded', printed'⟩ := dumps'.run_eq
  refine ⟨succeeded, succeeded', ?_⟩
  rw [printed, printed']
  constructor
  · intro same
    exact List.map_injective_iff.mpr Node.toJson_injective (Json.list.inj (Json.render_injective same))
  · rintro rfl
    rfl

theorem records_tell_nodes_apart_letters :
    let surroundings : Surroundings := ⟨"/srv", fun _ => .missing, "", none, none⟩
    let ofVariable := ["ast", "\x7b\x7b a \x7d\x7d"]
    let ofLiteral := ["ast", "\x7b\x7b 'a' \x7d\x7d"]
    Dumps surroundings ofVariable [.template (.var "a")] ∧ Dumps surroundings ofLiteral [.template (.string "a")] ∧
      (run surroundings ofVariable).output ≠ (run surroundings ofLiteral).output := by
  intro surroundings ofVariable ofLiteral
  have ofSource : ∀ template nodes, (readTemplate surroundings template).outcome = .ok template →
      (∀ shown, parseTemplate ⟨64, shown⟩ template = .ok nodes) →
        compilation surroundings none template = .ok nodes := by
    intro template nodes isSource parsed
    have limited : (Value.int defaultMaxDepth).depthLimit = .ok ⟨64, "64"⟩ := by rfl
    rw [compilation]
    change (readTemplate surroundings template).outcome >>= _ = _
    rw [isSource]
    change (compileSource (.int defaultMaxDepth) template).mapError Stop.ofCompile = _
    rw [compileSource_of_limit limited, parsed]
    rfl
  have dumps : Dumps surroundings ofVariable [.template (.var "a")] := by
    refine ⟨none, false, "\x7b\x7b a \x7d\x7d", by cbv, ofSource _ _ (by simp [readTemplate, Traced.ok]) ?_⟩
    intro shown
    cbv
  have dumps' : Dumps surroundings ofLiteral [.template (.string "a")] := by
    refine ⟨none, false, "\x7b\x7b 'a' \x7d\x7d", by cbv, ofSource _ _ (by simp [readTemplate, Traced.ok]) ?_⟩
    intro shown
    cbv
  have told := records_tell_nodes_apart.2.2 _ _ _ _ _ _ dumps dumps'
  refine ⟨dumps, dumps', fun same => ?_⟩
  cases told.2.2.mp same

end CommandLine

end TextTemplate
