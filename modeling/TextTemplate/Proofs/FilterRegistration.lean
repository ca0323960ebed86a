import TextTemplate.Proofs.AssignedEntries
import TextTemplate.Proofs.CacheHistory
import TextTemplate.Proofs.NamesRead

/-!
What a registry tells, from its seed and from what it was offered since. Its names are those of the seed, and after them
the new ones in the order in which filters were first registered under them; each name stands for the filter that was
registered under it last. What is no filter is refused and changes nothing. The filters of an engine are told from what
it was offered since it was made, at any time in a session, and they are the ones that its evaluations call.
-/

namespace TextTemplate

structure Offer where
  name : String
  candidate : Candidate

def Offer.accepted? (offer : Offer) : Option (String × Filter) :=
  match offer.candidate with
  | .filter filter => some (offer.name, filter)
  | .value _ => none

namespace Entries

theorem firstKeys_beq {Key : Type} [BEq Key] [LawfulBEq Key] (keys : List Key) :
    firstKeys (· == ·) keys = keys.eraseDups := by
  induction keys using List.reverseRecOn with
  | nil => rfl
  | append_singleton front last ih =>
      rw [firstKeys_concat, ih, List.eraseDups_append]
      by_cases known : last ∈ front
      · simp [List.removeAll, known]
      · simp [List.removeAll, known, List.eraseDups_cons]

theorem eraseDups_of_nodup {Key : Type} [BEq Key] [LawfulBEq Key] {keys : List Key} (distinct : keys.Nodup) :
    keys.eraseDups = keys := by
  induction keys with
  | nil => rfl
  | cons key rest ih =>
      obtain ⟨fresh, others⟩ := List.nodup_cons.mp distinct
      have apart : rest.filter (fun other => !other == key) = rest := by
        refine List.filter_eq_self.mpr fun other member => ?_
        simpa using ne_of_mem_of_not_mem member fresh
      rw [List.eraseDups_cons, apart, ih others]

theorem assignAll_append {Key Item : Type} {same : Key → Key → Bool} (entries added more : List (Key × Item)) :
    assignAll same entries (added ++ more) = assignAll same (assignAll same entries added) more :=
  List.foldl_append

theorem find?_eq_lookup {Item : Type} (entries : List (String × Item)) (name : String) :
    find? (· == ·) entries name = entries.lookup name := by
  induction entries with
  | nil => rfl
  | cons entry rest ih =>
      obtain ⟨key, item⟩ := entry
      rw [find?, List.lookup_cons, ih]
      by_cases same : key = name
      · simp [same]
      · simp [same, beq_false_of_ne (Ne.symm same)]

end Entries

namespace Registry

def afterOffer (registry : Registry) (offer : Offer) : Registry :=
  match registry.register offer.name offer.candidate with
  | .ok after => after
  | .error _ => registry

def afterOffers (registry : Registry) (offers : List Offer) : Registry :=
  offers.foldl afterOffer registry

def candidates (filters : List (String × Filter)) : List (String × Candidate) :=
  filters.map fun (name, filter) => (name, .filter filter)

def ofFilters (filters : List (String × Filter)) : Registry :=
  ofSeed (candidates filters)

def registrations (offers : List Offer) : List (String × Filter) :=
  offers.filterMap Offer.accepted?

/-- The names that a seed does not have, in the order in which filters are first registered under them. -/
def newNames (seed : List (String × Filter)) (offers : List Offer) : List String :=
  (((registrations offers).map Prod.fst).removeAll (seed.map Prod.fst)).eraseDups

/-- The filter that is registered last under a name, or else that of the seed. -/
def lastRegistered? (seed : List (String × Filter)) (offers : List Offer) (name : String) : Option Filter :=
  ((registrations offers).reverse.lookup name).or (seed.lookup name)

structure Tells (registry : Registry) (seed : List (String × Filter)) (offers : List Offer) : Prop where
  names : registry.names = seed.map Prod.fst ++ newNames seed offers
  distinct : registry.names.Nodup
  resolve (name : String) : registry.resolve? name = (lastRegistered? seed offers name).map .filter
  contains (name : String) : registry.contains name = true ↔ name ∈ registry.names
  resolves (name : String) : name ∈ registry.names ↔ (registry.resolve? name).isSome = true

variable {registry : Registry} {seed : List (String × Filter)} {offers : List Offer}

theorem candidates_names (filters : List (String × Filter)) :
    (candidates filters).map Prod.fst = filters.map Prod.fst := by
  simp [candidates]

theorem candidates_append (filters more : List (String × Filter)) :
    candidates (filters ++ more) = candidates filters ++ candidates more :=
  List.map_append

theorem lookup_candidates (filters : List (String × Filter)) (name : String) :
    (candidates filters).lookup name = (filters.lookup name).map .filter := by
  induction filters with
  | nil => rfl
  | cons entry rest ih =>
      obtain ⟨key, filter⟩ := entry
      rw [candidates, List.map_cons, ← candidates, List.lookup_cons, List.lookup_cons, ih]
      split <;> rfl

theorem entries_ofFilters (distinct : (seed.map Prod.fst).Nodup) : (ofFilters seed).entries = candidates seed := by
  refine Entries.assignAll_of_distinct ?_
  rw [← candidates_names, List.Nodup, List.pairwise_map] at distinct
  exact distinct.imp fun apart => beq_false_of_ne apart

theorem entries_afterOffer (registry : Registry) (offer : Offer) : (registry.afterOffer offer).entries =
    Entries.assignAll (· == ·) registry.entries (candidates offer.accepted?.toList) := by
  obtain ⟨name, candidate⟩ := offer
  cases candidate <;> rfl

theorem afterOffers_append (registry : Registry) (offers more : List Offer) :
    registry.afterOffers (offers ++ more) = (registry.afterOffers offers).afterOffers more :=
  List.foldl_append

theorem registrations_cons (offer : Offer) (rest : List Offer) :
    registrations (offer :: rest) = offer.accepted?.toList ++ registrations rest := by
  rw [registrations, List.filterMap_cons, ← registrations]
  cases offer.accepted? <;> rfl

theorem entries_afterOffers (registry : Registry) (offers : List Offer) : (registry.afterOffers offers).entries =
    Entries.assignAll (· == ·) registry.entries (candidates (registrations offers)) := by
  induction offers generalizing registry with
  | nil => rfl
  | cons offer rest ih =>
      have first : registry.afterOffers (offer :: rest) = (registry.afterOffer offer).afterOffers rest := rfl
      rw [first, ih, entries_afterOffer, registrations_cons, candidates_append, Entries.assignAll_append]

theorem names_after (distinct : (seed.map Prod.fst).Nodup) (offers : List Offer) :
    ((ofFilters seed).afterOffers offers).names = seed.map Prod.fst ++ newNames seed offers := by
  have whole : ((ofFilters seed).afterOffers offers).entries =
      Entries.assignAll (· == ·) [] (candidates seed ++ candidates (registrations offers)) := by
    rw [entries_afterOffers, ofFilters, ofSeed, Entries.assignAll_append]
  rw [names, whole, Entries.keys_assignAll, List.map_append, candidates_names, candidates_names, Entries.firstKeys_beq,
    List.eraseDups_append, Entries.eraseDups_of_nodup distinct, newNames]

theorem resolve_of_find? {name : String} {found : Option Filter}
    (isFound : Entries.find? (· == ·) registry.entries name = found.map .filter) :
    registry.resolve? name = found.map .filter := by
  rw [resolve?, isFound]
  cases found <;> rfl

theorem find?_after (distinct : (seed.map Prod.fst).Nodup) (offers : List Offer) (name : String) :
    Entries.find? (· == ·) ((ofFilters seed).afterOffers offers).entries name =
      (lastRegistered? seed offers name).map .filter := by
  have reversed : (candidates (registrations offers)).reverse = candidates (registrations offers).reverse := by
    simp [candidates]
  rw [entries_afterOffers, Entries.find?_assignAll, reversed, lookup_candidates, entries_ofFilters distinct,
    Entries.find?_eq_lookup, lookup_candidates, lastRegistered?, Option.map_or]

theorem tells_after (distinct : (seed.map Prod.fst).Nodup) (offers : List Offer) :
    ((ofFilters seed).afterOffers offers).Tells seed offers := by
  have resolved (name : String) := resolve_of_find? (find?_after distinct offers name)
  refine ⟨names_after distinct offers, ?_, resolved, ?_, ?_⟩
  · rw [names, entries_afterOffers, entries_ofFilters distinct]
    exact Entries.nodup_assignAll (by rwa [candidates_names]) _
  · intro name
    rw [contains, List.contains_iff_mem]
  · intro name
    rw [names, Entries.mem_keys_iff, find?_after distinct, resolved]

end Registry

/-! Evaluations with a given filter for each name. -/

def callBy (filterOf : String → Option Filter) (name : String) (value : Value) (args : List Value) : Evaluated Value :=
  match filterOf name with
  | none => Traced.fail (.unknownFilter name)
  | some called => ⟨[⟨name, called.label, value, args⟩], (called.apply value args).mapError .filterFailed⟩

theorem Registry.call_eq_callBy {registry : Registry} {filterOf : String → Option Filter}
    (known : ∀ name, registry.resolve? name = (filterOf name).map .filter) : registry.call = callBy filterOf := by
  funext name value args
  rw [call, callBy, known]
  cases filterOf name <;> rfl

namespace Engine

variable {engine : Engine} {filterOf : String → Option Filter}

theorem evaluate_eq_evaluateBy (known : ∀ name, engine.registry.resolve? name = (filterOf name).map .filter) :
    engine.evaluate = engine.evaluateBy (.calling (callBy filterOf)) := by
  rw [evaluate, Registry.call_eq_callBy known]

theorem render_eq_evaluateBy (known : ∀ name, engine.registry.resolve? name = (filterOf name).map .filter)
    (stamp : Nat) (source : String) (context : Context) : (engine.render stamp source context).1 =
      match (engine.compile stamp source).1 with
      | .error error => Traced.fail (.compile error)
      | .ok compiled => engine.evaluateBy (.calling (callBy filterOf)) compiled.nodes context := by
  cases made : (engine.compile stamp source).1 with
  | error error => rw [render_of_compile_error made]
  | ok compiled =>
      rw [render_of_compile_ok made, evaluate_eq_evaluateBy known]

end Engine

/-! The engines of a session. -/

def Request.offer? : Request → Option Offer
  | .addFilter filter candidate => some ⟨filter, candidate⟩
  | _ => none

namespace Session

def afterSteps (session : Session) (steps : List Step) : Session :=
  steps.foldl (fun before step => (before.perform step).2.tick) session

/-- What the engine of a name was offered since it was made, from what that was before a step. -/
def offersAfter (name : String) (offers : List Offer) : Step → List Offer
  | .create other settings => if other = name ∧ (EngineConfig.ofSettings settings).isOk then [] else offers
  | .createDefault other => if other = name then [] else offers
  | .ask other request => if other = name then offers ++ request.offer?.toList else offers
  | .takeCalls => offers

def offersTo (name : String) (steps : List Step) : List Offer :=
  steps.foldl (offersAfter name) []

theorem run_append (session : Session) (steps more : List Step) :
    session.run (steps ++ more) = session.run steps ++ (session.afterSteps steps).run more := by
  induction steps generalizing session with
  | nil => rfl
  | cons step rest ih =>
      simp only [List.cons_append, run, afterSteps, List.foldl_cons]
      rw [ih, afterSteps]

theorem answer_engine (session : Session) (name : String) (request : Request) :
    ∃ engine : Engine, engine.registry = (session.engine name).registry.afterOffers request.offer?.toList ∧
      ∀ other, (session.answer name request).2.engine other =
        if name = other then engine else session.engine other := by
  have put := engine_putEngine session name
  have same (other : String) :
      session.engine other = if name = other then session.engine name else session.engine other := by
    split
    next equal => rw [equal]
    next => rfl
  have compiled (source : String) :
      ((session.engine name).compile session.clock source).2.registry = (session.engine name).registry :=
    congrArg Prod.snd (Engine.compile_settings _ _ source)
  cases request with
  | compile source =>
      refine ⟨_, compiled source, fun other => ?_⟩
      rw [answer]
      split
      next made => rw [made, put]
      next made =>
        rw [made]
        exact put other _
  | render source context =>
      refine ⟨_, compiled source, fun other => ?_⟩
      rw [answer, Engine.render]
      cases (session.engine name).compile session.clock source with
      | mk result after => cases result <;> rw [replyTo_engine, put]
  | evaluate step context =>
      refine ⟨_, rfl, fun other => ?_⟩
      rw [answer, replyTo_engine, ← same]
  | addFilter filter candidate =>
      cases candidate with
      | filter given => exact ⟨_, rfl, fun other => put other _⟩
      | value value => exact ⟨_, rfl, same⟩
  | filters | cacheSize => exact ⟨_, rfl, same⟩
  | clearCache => exact ⟨(session.engine name).clearCache, rfl, fun other => put other _⟩
  | set setting value =>
      exact ⟨{ session.engine name with config := (session.engine name).config.assign setting value }, rfl,
        fun other => put other _⟩

theorem perform_registry {session : Session} {name : String} {offers : List Offer}
    (told : (session.engine name).registry = Registry.builtIn.afterOffers offers) (step : Step) :
    ((session.perform step).2.engine name).registry = Registry.builtIn.afterOffers (offersAfter name offers step) := by
  cases step with
  | create other settings =>
      rw [perform, offersAfter]
      cases EngineConfig.ofSettings settings with
      | ok config =>
          simp only [engine_putEngine, Except.isOk, Except.toBool, and_true]
          split
          next => rfl
          next => exact told
      | error fault => simpa [Except.isOk, Except.toBool] using told
  | createDefault other =>
      rw [perform, offersAfter, engine_putEngine]
      split
      next => rfl
      next => exact told
  | ask other request =>
      obtain ⟨engine, offered, engines⟩ := (session.putEngine other (session.engine other)).answer_engine other request
      rw [engine_present] at offered
      rw [perform, offersAfter, engines, engine_present]
      by_cases same : other = name
      · rw [if_pos same, if_pos same, offered, same, told, Registry.afterOffers_append]
      · rw [if_neg same, if_neg same, told]
  | takeCalls => exact told

theorem registry_afterSteps (switch : Option String) (steps : List Step) (name : String) :
    (((start switch).afterSteps steps).engine name).registry =
      Registry.builtIn.afterOffers (offersTo name steps) := by
  induction steps using List.reverseRecOn with
  | nil => rfl
  | append_singleton front last ih =>
      rw [afterSteps, List.foldl_append, ← afterSteps, offersTo, List.foldl_append, ← offersTo]
      exact perform_registry ih last

end Session

/-- Whatever is offered to a registry, its names are those of its seed and then the new ones in the order of their first
registration, and each stands for the filter registered last; what is no filter is refused and changes nothing. The
engines of a session have the filters that they were offered since they were made, and evaluations call these. -/
theorem filters_follow_registrations :
    (∀ (seed : List (String × Filter)) (offers : List Offer), (seed.map Prod.fst).Nodup →
      let registry := (Registry.ofFilters seed).afterOffers offers
      registry.Tells seed offers ∧
      ∀ name value, registry.register name (.value value) = .error ⟨name, value.typeName⟩ ∧
        registry.afterOffer ⟨name, .value value⟩ = registry) ∧
    ∀ switch steps name,
      let session := (Session.start switch).afterSteps steps
      let engine := session.engine name
      let offers := Session.offersTo name steps
      let evaluator := Evaluator.calling (callBy (Registry.lastRegistered? Filter.builtIns offers))
      (∀ more, (Session.start switch).run (steps ++ more) = (Session.start switch).run steps ++ session.run more) ∧
      engine.registry.Tells Filter.builtIns offers ∧
      (∀ filter value, session.perform (.ask name (.addFilter filter (.value value))) =
        (.notCallable ⟨filter, value.typeName⟩, session.putEngine name engine)) ∧
      (∀ nodes context, engine.evaluate nodes context = engine.evaluateBy evaluator nodes context) ∧
      ∀ stamp source context, (engine.render stamp source context).1 =
        match (engine.compile stamp source).1 with
        | .error error => Traced.fail (.compile error)
        | .ok compiled => engine.evaluateBy evaluator compiled.nodes context := by
  refine ⟨fun seed offers distinct => ⟨Registry.tells_after distinct offers, fun _ _ => ⟨rfl, rfl⟩⟩, ?_⟩
  intro switch steps name session engine offers evaluator
  have distinct : (Filter.builtIns.map Prod.fst).Nodup := by decide
  have registry : engine.registry = (Registry.ofFilters Filter.builtIns).afterOffers offers :=
    Session.registry_afterSteps switch steps name
  have tells : engine.registry.Tells Filter.builtIns offers := by
    rw [registry]
    exact Registry.tells_after distinct offers
  have evaluated := Engine.evaluate_eq_evaluateBy tells.resolve
  exact ⟨Session.run_append _ steps, tells, fun _ _ => rfl, fun _ _ => by rw [evaluated],
    Engine.render_eq_evaluateBy tells.resolve⟩

theorem filters_follow_registrations_replaced :
    let pair : Filter := ⟨fun value _ => .ok (.list [value, value]), none⟩
    let seed : List (String × Filter) := [("lower", Filter.lower), ("upper", Filter.upper)]
    let offers : List Offer := [⟨"new", .filter Filter.upper⟩, ⟨"bad", .value (.int 1)⟩, ⟨"lower", .filter pair⟩,
      ⟨"other", .filter pair⟩, ⟨"new", .filter Filter.lower⟩, ⟨"lower", .value .none⟩]
    let registry := (Registry.ofFilters seed).afterOffers offers
    let steps : List Step :=
      [.ask "e" (.addFilter "lower" (.filter pair)), .ask "e" (.addFilter "lower" (.value .none))]
    let engine := ((Session.start none).afterSteps steps).engine "e"
    (seed.map Prod.fst).Nodup ∧ registry.names = ["lower", "upper", "new", "other"] ∧
      registry.resolve? "lower" = some (.filter pair) ∧ registry.resolve? "bad" = none ∧
      registry.contains "bad" = false ∧
      engine.evaluate [.template (.pipe (.var "a") "lower" [])] [("a", .text (.ofString "A"))] =
        ⟨[⟨"lower", none, .text (.ofString "A"), []⟩], .ok (.ofString "A,A")⟩ := by
  intro pair seed offers registry steps engine
  have distinct : (seed.map Prod.fst).Nodup := by decide
  obtain ⟨ofRegistry, ofEngines⟩ := filters_follow_registrations
  obtain ⟨tells, -⟩ := ofRegistry seed offers distinct
  obtain ⟨-, -, -, evaluated, -⟩ := ofEngines none steps "e"
  have names : registry.names = ["lower", "upper", "new", "other"] := tells.names
  refine ⟨distinct, names, tells.resolve "lower", tells.resolve "bad", ?_, ?_⟩
  · rw [← Bool.not_eq_true, tells.contains, names]
    decide
  · rw [evaluated]
    rfl

end TextTemplate
