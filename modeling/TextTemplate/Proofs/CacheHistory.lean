import Mathlib
import TextTemplate.Proofs.CacheTransparency

/-!
What an engine keeps, told from what it was asked. A source is kept from the first time that it is compiled
while templates are kept, until they are cleared; whenever it is compiled in between while templates are kept,
the template of the first time is returned.
-/

namespace TextTemplate

/-- A request, whether the engine kept compiled templates at that time, and the reply. -/
structure Exchange where
  request : Request
  keeps : Bool
  reply : Reply

namespace Exchange

def compiled? (exchange : Exchange) : Option String :=
  match exchange.request, exchange.reply with
  | .compile source, .compiled _ _ => some source
  | .render _ _, .renderError (.compile _) => none
  | .render source _, _ => some source
  | _, _ => none

def kept? (exchange : Exchange) : Option String :=
  if exchange.keeps then exchange.compiled? else none

theorem compiled_render {source : String} {context : Context} {keeps : Bool} {reply : Reply}
    (made : ∀ error, reply ≠ .renderError (.compile error)) :
    compiled? ⟨.render source context, keeps, reply⟩ = some source := by
  cases reply with
  | renderError error =>
      cases error with
      | compile error => exact absurd rfl (made error)
      | vars fault => rfl
      | eval error => rfl
  | config _ | compiled _ _ | text _ | names _ | size _ | calls _ | done | badSetting _ | notCallable _ => rfl

theorem kept_eq_none {exchange : Exchange} (notCompiled : exchange.compiled? = none) :
    exchange.kept? = none := by
  rw [kept?, notCompiled]
  exact ite_self none

def clears (exchange : Exchange) : Bool :=
  match exchange.request with
  | .clearCache => true
  | _ => false

/-- The sources that were compiled while templates were kept, since they were last cleared. -/
def keptSources (past : List Exchange) : List String :=
  (past.reverse.takeWhile fun exchange => !exchange.clears).filterMap kept?

/-- The exchange that made the template that is kept for a source, by its number. The exchanges are given with
the latest one first. -/
def filledBefore? (source : String) : List Exchange → Option Nat
  | [] => none
  | last :: earlier =>
    if last.clears then none
    else (filledBefore? source earlier).or (if last.kept? = some source then some earlier.length else none)

def filledAt? (source : String) (past : List Exchange) : Option Nat :=
  filledBefore? source past.reverse

theorem keptSources_concat (past : List Exchange) (last : Exchange) :
    keptSources (past ++ [last]) = if last.clears then [] else last.kept?.toList ++ keptSources past := by
  unfold keptSources
  rw [List.reverse_append]
  cases cleared : last.clears with
  | true => simp [cleared]
  | false => cases kept : last.kept? <;> simp [cleared, kept]

theorem filledAt_concat (source : String) (past : List Exchange) (last : Exchange) :
    filledAt? source (past ++ [last]) = if last.clears then none else
      (filledAt? source past).or (if last.kept? = some source then some past.length else none) := by
  simp [filledAt?, filledBefore?]

theorem filledAt_isSome_iff (source : String) (past : List Exchange) :
    (filledAt? source past).isSome = true ↔ source ∈ keptSources past := by
  induction past using List.reverseRecOn with
  | nil => simp [filledAt?, filledBefore?, keptSources]
  | append_singleton past last ih =>
      rw [filledAt_concat, keptSources_concat]
      split
      · simp
      · rw [Option.isSome_or, Bool.or_eq_true, ih, List.mem_append, Option.mem_toList, or_comm]
        refine or_congr_left ?_
        by_cases kept : last.kept? = some source <;> simp [kept]

theorem getElem?_concat_iff {past : List Exchange} {last exchange : Exchange} {step : Nat} :
    (past ++ [last])[step]? = some exchange ↔
      past[step]? = some exchange ∨ step = past.length ∧ exchange = last := by
  rcases Nat.lt_trichotomy step past.length with inPast | rfl | beyond
  · rw [List.getElem?_append_left inPast]
    constructor
    · exact Or.inl
    · rintro (found | ⟨rfl, -⟩)
      · exact found
      · exact absurd inPast (Nat.lt_irrefl _)
  · simp [eq_comm]
  · have outside : past[step]? = none := List.getElem?_eq_none (Nat.le_of_lt beyond)
    have outside' : (past ++ [last])[step]? = none :=
      List.getElem?_eq_none (by rw [List.length_append]; exact beyond)
    simp only [outside, outside', reduceCtorEq, false_or, false_iff, not_and]
    omega

theorem filledAt_spec {source : String} {past : List Exchange} {step : Nat}
    (filled : filledAt? source past = some step) :
    (∃ exchange, past[step]? = some exchange ∧ exchange.kept? = some source) ∧
      ∀ later exchange, step ≤ later → past[later]? = some exchange → exchange.clears = false := by
  induction past using List.reverseRecOn with
  | nil => cases filled
  | append_singleton past last ih =>
      rw [filledAt_concat] at filled
      split at filled
      · cases filled
      · rename_i notCleared
        have lastKeeps : last.clears = false := by simpa using notCleared
        rcases Option.or_eq_some_iff.mp filled with before | ⟨-, now⟩
        · obtain ⟨⟨exchange, found, kept⟩, uncleared⟩ := ih before
          refine ⟨⟨exchange, getElem?_concat_iff.mpr (Or.inl found), kept⟩, ?_⟩
          intro later exchange' after found'
          rcases getElem?_concat_iff.mp found' with inPast | ⟨-, rfl⟩
          · exact uncleared later exchange' after inPast
          · exact lastKeeps
        · split at now
          · rename_i kept
            cases now
            refine ⟨⟨last, getElem?_concat_iff.mpr (Or.inr ⟨rfl, rfl⟩), kept⟩, ?_⟩
            intro later exchange after found
            rcases getElem?_concat_iff.mp found with inPast | ⟨-, rfl⟩
            · have bound := (List.getElem?_eq_some_iff.mp inPast).1
              omega
            · exact lastKeeps
          · cases now

theorem filledAt_append {source : String} {past more : List Exchange} {step : Nat}
    (filled : filledAt? source past = some step) (uncleared : ∀ exchange ∈ more, exchange.clears = false) :
    filledAt? source (past ++ more) = some step := by
  induction more using List.reverseRecOn with
  | nil => rwa [List.append_nil]
  | append_singleton more last ih =>
      have before := ih fun exchange member => uncleared exchange (List.mem_append_left _ member)
      have lastKeeps : last.clears = false := uncleared last (by simp)
      rw [← List.append_assoc, filledAt_concat, before, lastKeeps]
      rfl

def MadeBy (past : List Exchange) (step : Nat) (source : String) (keeps : Bool) (maker : Nat) : Prop :=
  if keeps then filledAt? source (past.take (step + 1)) = some maker else maker = step

namespace MadeBy

variable {past : List Exchange} {step maker : Nat} {source : String}

theorem filled (made : MadeBy past step source true maker) :
    (∃ exchange, past[maker]? = some exchange ∧ exchange.kept? = some source) ∧
      ∀ later exchange, maker ≤ later → later ≤ step → past[later]? = some exchange →
        exchange.clears = false := by
  obtain ⟨⟨exchange, found, kept⟩, uncleared⟩ := filledAt_spec made
  have bound := (List.getElem?_eq_some_iff.mp found).1
  rw [List.length_take] at bound
  refine ⟨⟨exchange, ?_, kept⟩, ?_⟩
  · rwa [List.getElem?_take_of_lt (by omega)] at found
  · intro later other after before inPast
    exact uncleared later other after (by rwa [List.getElem?_take_of_lt (by omega)])

theorem le {keeps : Bool} (made : MadeBy past step source keeps maker) : maker ≤ step := by
  cases keeps with
  | false => exact Nat.le_of_eq made
  | true =>
      obtain ⟨⟨exchange, found, -⟩, -⟩ := filledAt_spec made
      have bound := (List.getElem?_eq_some_iff.mp found).1
      rw [List.length_take] at bound
      omega

theorem later {step' : Nat} (made : MadeBy past step source true maker) (order : step ≤ step')
    (uncleared : ∀ between exchange, step < between → between ≤ step' → past[between]? = some exchange →
      exchange.clears = false) : MadeBy past step' source true maker := by
  have whole := List.take_append_drop (step + 1) (past.take (step' + 1))
  rw [List.take_take, Nat.min_eq_left (by omega)] at whole
  change filledAt? source (past.take (step' + 1)) = some maker
  rw [← whole]
  refine filledAt_append made fun exchange member => ?_
  obtain ⟨index, found⟩ := List.mem_iff_getElem?.mp member
  rw [List.getElem?_drop] at found
  have bound := (List.getElem?_eq_some_iff.mp found).1
  rw [List.length_take] at bound
  rw [List.getElem?_take_of_lt (by omega)] at found
  exact uncleared (step + 1 + index) exchange (by omega) (by omega) found

end MadeBy

end Exchange

namespace Engine

def filled? (engine : Engine) (source : String) : Option Nat :=
  (Entries.find? (· == ·) engine.cache source).map Compiled.stamp

inductive CompileCase (engine : Engine) (stamp : Nat) (source : String) :
    Except CompileError Compiled → Engine → Prop
  | failed {error} : compileSource engine.config.maxDepth source = .error error →
      CompileCase engine stamp source (.error error) engine
  | returned {compiled} : engine.config.keepsCompiled = true →
      Entries.find? (· == ·) engine.cache source = some compiled →
      CompileCase engine stamp source (.ok compiled) engine
  | filled {nodes} : engine.config.keepsCompiled = true →
      Entries.find? (· == ·) engine.cache source = none →
      compileSource engine.config.maxDepth source = .ok nodes →
      CompileCase engine stamp source (.ok ⟨stamp, nodes⟩)
        { engine with cache := engine.cache ++ [(source, ⟨stamp, nodes⟩)] }
  | passed {nodes} : engine.config.keepsCompiled = false →
      compileSource engine.config.maxDepth source = .ok nodes →
      CompileCase engine stamp source (.ok ⟨stamp, nodes⟩) engine

theorem compile_case (engine : Engine) (stamp : Nat) (source : String) :
    CompileCase engine stamp source (engine.compile stamp source).1 (engine.compile stamp source).2 := by
  unfold compile
  split
  · rename_i compiled kept
    unfold kept? at kept
    split at kept
    · rename_i keeps
      exact .returned keeps kept
    · cases kept
  · rename_i notKept
    split
    · rename_i error failed
      exact .failed failed
    · rename_i nodes made
      unfold keep
      split
      · rename_i keeps
        have absent : Entries.find? (· == ·) engine.cache source = none := by
          simpa only [kept?, keeps, if_true] using notKept
        rw [Entries.assign_of_absent _ absent]
        exact .filled keeps absent made
      · rename_i keepsNot
        exact .passed (by simpa using keepsNot) made

structure Follows (before after : Engine) (stamp : Nat) (exchange : Exchange) : Prop where
  filled (source : String) : after.filled? source = if exchange.clears then none else
    (before.filled? source).or (if exchange.kept? = some source then some stamp else none)
  distinct : (before.cache.map Prod.fst).Nodup → (after.cache.map Prod.fst).Nodup

theorem Follows.of_same {before after : Engine} (stamp : Nat) {exchange : Exchange}
    (same : after.cache = before.cache) (clears : exchange.clears = false) (kept : exchange.kept? = none) :
    Follows before after stamp exchange := by
  refine ⟨fun source => ?_, fun distinct => by rwa [same]⟩
  simp [filled?, same, clears, kept]

theorem CompileCase.follows {engine after : Engine} {stamp : Nat} {source : String}
    {result : Except CompileError Compiled} (case : CompileCase engine stamp source result after)
    {exchange : Exchange} (clears : exchange.clears = false)
    (keeps : exchange.keeps = engine.config.keepsCompiled)
    (compiled : exchange.compiled? = result.toOption.map fun _ => source) :
    Follows engine after stamp exchange := by
  cases case with
  | failed failed =>
      exact .of_same stamp rfl clears (Exchange.kept_eq_none compiled)
  | @returned object keepsNow found =>
      refine ⟨fun other => ?_, id⟩
      have kept : exchange.kept? = some source := by
        rw [Exchange.kept?, keeps, keepsNow, compiled]
        rfl
      by_cases same : source = other
      · simp [clears, filled?, ← same, found]
      · simp [clears, kept, same]
  | @filled nodes keepsNow absent made =>
      have kept : exchange.kept? = some source := by
        rw [Exchange.kept?, keeps, keepsNow, compiled]
        rfl
      refine ⟨fun other => ?_, fun distinct => ?_⟩
      · have found := Entries.find?_assign Entries.isSameness_beq engine.cache source other ⟨stamp, nodes⟩
        rw [Entries.assign_of_absent _ absent] at found
        simp only [filled?, found, clears, kept, beq_iff_eq, Option.some.injEq]
        by_cases same : source = other
        · simp [← same, absent]
        · simp [same]
      · have distinct' := Entries.nodup_assign distinct source ⟨stamp, nodes⟩
        rwa [Entries.assign_of_absent _ absent] at distinct'
  | passed keepsNot made =>
      refine .of_same stamp rfl clears ?_
      rw [Exchange.kept?, keeps, keepsNot]
      rfl

theorem CompileCase.stamp_eq {engine after : Engine} {stamp : Nat} {source : String} {compiled : Compiled}
    (case : CompileCase engine stamp source (.ok compiled) after) :
    if engine.config.keepsCompiled then after.filled? source = some compiled.stamp
    else compiled.stamp = stamp := by
  cases case with
  | returned keeps found => simp [keeps, filled?, found]
  | @filled nodes keeps absent made =>
      have found := Entries.find?_assign Entries.isSameness_beq engine.cache source source ⟨stamp, nodes⟩
      rw [Entries.assign_of_absent _ absent] at found
      simp [keeps, filled?, found]
  | passed keepsNot made => simp [keepsNot]

end Engine

namespace Session

def converse (session : Session) (name : String) : List Request → List Exchange × Session
  | [] => ([], session)
  | request :: rest =>
    let (reply, after) := session.perform (.ask name request)
    let (others, last) := after.tick.converse name rest
    (⟨request, (session.engine name).config.keepsCompiled, reply⟩ :: others, last)

theorem converse_run (session : Session) (name : String) (requests : List Request) :
    (session.converse name requests).1.map Exchange.reply = session.run (requests.map (.ask name)) := by
  induction requests generalizing session with
  | nil => rfl
  | cons request rest ih => simp only [converse, List.map_cons, run, ih]

theorem converse_request (session : Session) (name : String) (requests : List Request) :
    (session.converse name requests).1.map Exchange.request = requests := by
  induction requests generalizing session with
  | nil => rfl
  | cons request rest ih => simp only [converse, List.map_cons, ih]

theorem engine_present (session : Session) (name other : String) :
    (session.putEngine name (session.engine name)).engine other = session.engine other := by
  rw [engine_putEngine]
  split
  · rename_i same
    rw [same]
  · rfl

/-! One request. -/

theorem replyTo_session (session : Session) (rendered : Rendered) :
    (session.replyTo rendered).2 = { session with calls := session.calls ++ rendered.trace } := by
  unfold replyTo
  cases rendered.outcome <;> rfl

theorem replyTo_engine (session : Session) (rendered : Rendered) (name : String) :
    (session.replyTo rendered).2.engine name = session.engine name := by
  rw [replyTo_session]
  rfl

theorem replyTo_evaluate (session : Session) (engine : Engine) (nodes : List Node) (context : Context)
    (error : CompileError) :
    (session.replyTo (engine.evaluate nodes context)).1 ≠ .renderError (.compile error) := by
  unfold replyTo
  rw [Engine.evaluate_eq]
  cases engine.config.context with
  | error fault => simp [Traced.fail]
  | ok defaults =>
      simp only [Traced.mapError]
      cases (Node.render engine.registry (context.mergedOver defaults) nodes).outcome <;>
        simp [Except.mapError]

theorem answer_follows (session : Session) (name : String) (request : Request) :
    Engine.Follows (session.engine name) ((session.answer name request).2.engine name) session.clock
      ⟨request, (session.engine name).config.keepsCompiled, (session.answer name request).1⟩ := by
  cases request with
  | compile source =>
      have case := Engine.compile_case (session.engine name) session.clock source
      simp only [answer]
      generalize (session.engine name).compile session.clock source = made at case
      obtain ⟨result, after⟩ := made
      have put := engine_putEngine session name name after
      rw [if_pos rfl] at put
      cases result with
      | error error =>
          rw [put]
          exact case.follows rfl rfl rfl
      | ok compiled =>
          change Engine.Follows _ ((session.putEngine name after).engine name) _ _
          rw [put]
          exact case.follows rfl rfl rfl
  | render source context =>
      have case := Engine.compile_case (session.engine name) session.clock source
      simp only [answer, Engine.render]
      generalize (session.engine name).compile session.clock source = made at case
      obtain ⟨result, after⟩ := made
      have put := engine_putEngine session name name after
      rw [if_pos rfl] at put
      cases result with
      | error error =>
          simp only [replyTo_engine, put]
          exact case.follows rfl rfl rfl
      | ok compiled =>
          simp only [replyTo_engine, put]
          exact case.follows rfl rfl (Exchange.compiled_render (replyTo_evaluate _ after compiled.nodes context))
  | evaluate step context =>
      refine .of_same _ ?_ rfl (Exchange.kept_eq_none rfl)
      simp only [answer, replyTo_engine]
  | addFilter filter candidate =>
      simp only [answer, Engine.addFilter]
      cases (session.engine name).registry.register filter candidate with
      | error refusal => exact .of_same _ rfl rfl (Exchange.kept_eq_none rfl)
      | ok registry =>
          refine .of_same _ ?_ rfl (Exchange.kept_eq_none rfl)
          simp only [Except.map, engine_putEngine, if_true]
  | filters => exact .of_same _ rfl rfl (Exchange.kept_eq_none rfl)
  | clearCache =>
      have put := engine_putEngine session name name (session.engine name).clearCache
      rw [if_pos rfl] at put
      simp only [answer, put]
      exact ⟨fun source => rfl, fun _ => List.nodup_nil⟩
  | cacheSize => exact .of_same _ rfl rfl (Exchange.kept_eq_none rfl)
  | set setting value =>
      refine .of_same _ ?_ rfl (Exchange.kept_eq_none rfl)
      simp only [answer, engine_putEngine, if_true]

theorem answer_other (session : Session) (name : String) {request : Request}
    (other : ∀ source, request ≠ .compile source) :
    (session.answer name request).2.clock = session.clock ∧
      (session.answer name request).2.compiled = session.compiled := by
  cases request with
  | compile source => exact absurd rfl (other source)
  | render source context =>
      rw [answer, replyTo_session]
      exact ⟨rfl, rfl⟩
  | evaluate step context =>
      rw [answer, replyTo_session]
      exact ⟨rfl, rfl⟩
  | addFilter filter candidate =>
      simp only [answer]
      cases (session.engine name).addFilter filter candidate <;> exact ⟨rfl, rfl⟩
  | filters | clearCache | cacheSize => exact ⟨rfl, rfl⟩
  | set setting value => exact ⟨rfl, rfl⟩

theorem answer_compile (session : Session) (name source : String) :
    (∃ error, (session.answer name (.compile source)).1 = .renderError (.compile error) ∧
      (session.answer name (.compile source)).2 = session.putEngine name (session.engine name)) ∨
    ∃ compiled, (session.answer name (.compile source)).1 = .compiled compiled.nodes (session.sameAs? compiled) ∧
      (session.answer name (.compile source)).2.clock = session.clock ∧
      (session.answer name (.compile source)).2.compiled = session.compiled ++ [(session.clock, compiled)] ∧
      if (session.engine name).config.keepsCompiled then
        ((session.answer name (.compile source)).2.engine name).filled? source = some compiled.stamp
      else compiled.stamp = session.clock := by
  have case := Engine.compile_case (session.engine name) session.clock source
  simp only [answer]
  generalize (session.engine name).compile session.clock source = made at case
  obtain ⟨result, after⟩ := made
  cases result with
  | error error =>
      refine Or.inl ⟨error, rfl, ?_⟩
      cases case
      rfl
  | ok compiled =>
      refine Or.inr ⟨compiled, rfl, rfl, rfl, ?_⟩
      have put := engine_putEngine session name name after
      rw [if_pos rfl] at put
      change if _ then ((session.putEngine name after).engine name).filled? source = _ else _
      rw [put]
      exact case.stamp_eq

/-- A session whose engine was asked what the exchanges say, from the first step on. -/
structure Records (past : List Exchange) (name : String) (session : Session) : Prop where
  clock : session.clock = past.length
  filled (source : String) : (session.engine name).filled? source = Exchange.filledAt? source past
  distinct : ((session.engine name).cache.map Prod.fst).Nodup
  earlier (step : Nat) (compiled : Compiled) :
    session.compiled.lookup step = some compiled → step < past.length
  returned (step : Nat) (source : String) (keeps : Bool) (nodes : List Node) (same : Option Nat) :
    past[step]? = some ⟨.compile source, keeps, .compiled nodes same⟩ →
      ∃ compiled, session.compiled.lookup step = some compiled ∧ compiled.nodes = nodes ∧
        Exchange.MadeBy past step source keeps compiled.stamp

namespace Records

variable {past : List Exchange} {name : String} {session : Session}

theorem present (records : Records past name session) :
    Records past name (session.putEngine name (session.engine name)) := by
  have engines := engine_present session name name
  refine { records with filled := fun source => ?_, distinct := ?_ }
  · rw [engines]
    exact records.filled source
  · rw [engines]
    exact records.distinct

theorem concat (records : Records past name session) {exchange : Exchange} {after : Session}
    (clock : after.clock = session.clock)
    (follows : Engine.Follows (session.engine name) (after.engine name) session.clock exchange)
    (compiled : (after.compiled = session.compiled ∧
        ∀ source keeps nodes same, exchange ≠ ⟨.compile source, keeps, .compiled nodes same⟩) ∨
      ∃ source keeps made same, exchange = ⟨.compile source, keeps, .compiled made.nodes same⟩ ∧
        after.compiled = session.compiled ++ [(session.clock, made)] ∧
        if keeps then (after.engine name).filled? source = some made.stamp else made.stamp = session.clock) :
    Records (past ++ [exchange]) name after.tick := by
  have filled (source : String) :
      (after.engine name).filled? source = Exchange.filledAt? source (past ++ [exchange]) := by
    rw [follows.filled, records.filled, records.clock, Exchange.filledAt_concat]
  have kept (step : Nat) (made : Compiled) (found : session.compiled.lookup step = some made) :
      after.compiled.lookup step = some made := by
    rcases compiled with ⟨same, _⟩ | ⟨_, _, _, _, _, more, _⟩
    · rwa [same]
    · rw [more, List.lookup_append, found]
      rfl
  refine ⟨?_, filled, follows.distinct records.distinct, ?_, ?_⟩
  · rw [tick, clock, records.clock, List.length_append, List.length_singleton]
  · intro step made found
    rw [List.length_append, List.length_singleton]
    change after.compiled.lookup step = some made at found
    rcases compiled with ⟨same, _⟩ | ⟨_, _, _, _, _, more, _⟩
    · rw [same] at found
      exact Nat.lt_succ_of_lt (records.earlier step made found)
    · rw [more, List.lookup_append] at found
      rcases Option.or_eq_some_iff.mp found with before | ⟨-, now⟩
      · exact Nat.lt_succ_of_lt (records.earlier step made before)
      · have isLast : step = session.clock := by
          by_contra other
          have apart : (step == session.clock) = false := beq_false_of_ne other
          simp [List.lookup_cons, apart] at now
        rw [isLast, records.clock]
        exact Nat.lt_succ_self _
  · intro step source keeps nodes same found
    rcases Exchange.getElem?_concat_iff.mp found with before | ⟨rfl, isLast⟩
    · obtain ⟨made, remembered, sameNodes, stamped⟩ := records.returned step source keeps nodes same before
      have bound := (List.getElem?_eq_some_iff.mp before).1
      refine ⟨made, kept step made remembered, sameNodes, ?_⟩
      rwa [Exchange.MadeBy, List.take_append_of_le_length (by omega)]
    · rcases compiled with ⟨-, other⟩ | ⟨source', keeps', made, same', exchanged, more, stamped⟩
      · exact absurd isLast.symm (other source keeps nodes same)
      · rw [exchanged] at isLast
        simp only [Exchange.mk.injEq, Request.compile.injEq, Reply.compiled.injEq] at isLast
        obtain ⟨rfl, rfl, rfl, rfl⟩ := isLast
        have unknown : session.compiled.lookup past.length = none := by
          rw [Option.eq_none_iff_forall_ne_some]
          intro known remembered
          exact absurd (records.earlier _ known remembered) (Nat.lt_irrefl _)
        refine ⟨made, ?_, rfl, ?_⟩
        · change after.compiled.lookup past.length = some made
          rw [more, List.lookup_append, unknown, records.clock]
          simp
        · rw [Exchange.MadeBy, List.take_of_length_le (by simp), ← filled]
          rwa [records.clock] at stamped

theorem answer (records : Records past name session) (request : Request) :
    Records (past ++ [⟨request, (session.engine name).config.keepsCompiled, (session.answer name request).1⟩])
      name (session.answer name request).2.tick := by
  have follows := answer_follows session name request
  by_cases isCompile : ∃ source, request = .compile source
  · obtain ⟨source, rfl⟩ := isCompile
    rcases answer_compile session name source with ⟨error, replied, after⟩ | ⟨made, replied, clock, more, stamped⟩
    · refine records.concat (by rw [after]; rfl) follows (Or.inl ⟨by rw [after]; rfl, ?_⟩)
      intro source' keeps nodes same exchanged
      rw [replied] at exchanged
      cases exchanged
    · exact records.concat clock follows (Or.inr ⟨source, _, made, _, by rw [replied], more, stamped⟩)
  · have other : ∀ source, request ≠ .compile source := fun source same => isCompile ⟨source, same⟩
    obtain ⟨clock, same⟩ := answer_other session name other
    refine records.concat clock follows (Or.inl ⟨same, ?_⟩)
    intro source keeps nodes same exchanged
    exact other source (congrArg Exchange.request exchanged)

theorem converse (records : Records past name session) (requests : List Request) :
    Records (past ++ (session.converse name requests).1) name (session.converse name requests).2 := by
  induction requests generalizing past session with
  | nil => rwa [Session.converse, List.append_nil]
  | cons request rest ih =>
      have asked := records.present.answer request
      rw [engine_present] at asked
      have later := ih asked
      rwa [List.append_assoc] at later

end Records

/-- Both steps returned the same template, which has nodes. -/
def Identical (session : Session) (step step' : Nat) : Prop :=
  ∃ compiled compiled', session.compiled.lookup step = some compiled ∧
    session.compiled.lookup step' = some compiled' ∧ compiled.nodes ≠ [] ∧ compiled.stamp = compiled'.stamp

theorem Records.identical_iff {past : List Exchange} {name : String} {session : Session}
    (records : Records past name session) {step step' : Nat} (order : step < step')
    {source source' : String} {keeps keeps' : Bool} {nodes nodes' : List Node} {same same' : Option Nat}
    (first : past[step]? = some ⟨.compile source, keeps, .compiled nodes same⟩)
    (second : past[step']? = some ⟨.compile source', keeps', .compiled nodes' same'⟩)
    (hasNodes : nodes ≠ []) :
    session.Identical step step' ↔ source = source' ∧ keeps = true ∧ keeps' = true ∧
      ∀ between exchange, step < between → between < step' → past[between]? = some exchange →
        exchange.clears = false := by
  obtain ⟨compiled, remembered, rfl, made⟩ := records.returned _ _ _ _ _ first
  obtain ⟨compiled', remembered', rfl, made'⟩ := records.returned _ _ _ _ _ second
  have byStamp : session.Identical step step' ↔ compiled.stamp = compiled'.stamp := by
    constructor
    · rintro ⟨known, known', found, found', -, equal⟩
      rw [remembered] at found
      rw [remembered'] at found'
      cases found
      cases found'
      exact equal
    · intro equal
      exact ⟨compiled, compiled', remembered, remembered', hasNodes, equal⟩
  rw [byStamp]
  constructor
  · intro equal
    have earlier : compiled'.stamp ≤ step := equal ▸ made.le
    cases keeps' with
    | false =>
        have isNew : compiled'.stamp = step' := made'
        omega
    | true =>
        obtain ⟨⟨maker, found, kept⟩, uncleared⟩ := made'.filled
        cases keeps with
        | false =>
            have isNew : compiled.stamp = step := made
            rw [← equal, isNew, first] at found
            cases found
            cases kept
        | true =>
            obtain ⟨⟨maker', found', kept'⟩, -⟩ := made.filled
            rw [equal, found] at found'
            cases found'
            rw [kept] at kept'
            refine ⟨(Option.some.inj kept').symm, rfl, rfl, ?_⟩
            intro between exchange after before
            exact uncleared between exchange (by omega) (by omega)
  · rintro ⟨rfl, rfl, rfl, uncleared⟩
    have again : Exchange.MadeBy past step' source true compiled.stamp := by
      refine made.later (Nat.le_of_lt order) fun between exchange after before found => ?_
      by_cases last : between = step'
      · rw [last, second] at found
        cases found
        rfl
      · exact uncleared between exchange after (by omega) found
    exact Option.some.inj (again.symm.trans made')

def startWith (switch : Option String) (name : String) (config : EngineConfig) (registry : Registry) : Session :=
  (start switch).putEngine name ⟨config, registry, []⟩

theorem records_startWith (switch : Option String) (name : String) (config : EngineConfig) (registry : Registry) :
    Records [] name (startWith switch name config registry) := by
  have put : (startWith switch name config registry).engine name = ⟨config, registry, []⟩ := by
    rw [startWith, engine_putEngine, if_pos rfl]
  refine ⟨rfl, fun source => ?_, ?_, ?_, ?_⟩
  · rw [put]
    rfl
  · rw [put]
    exact List.nodup_nil
  · intro step compiled found
    cases found
  · intro step source keeps nodes same found
    cases found

theorem Records.cacheSize_eq {past : List Exchange} {name : String} {session : Session}
    (records : Records past name session) :
    (session.engine name).cacheSize = (Exchange.keptSources past).toFinset.card := by
  have sameSources : ((session.engine name).cache.map Prod.fst).toFinset =
      (Exchange.keptSources past).toFinset := by
    ext source
    rw [List.mem_toFinset, List.mem_toFinset, Entries.mem_keys_iff, ← Exchange.filledAt_isSome_iff,
      ← records.filled, Engine.filled?, Option.isSome_map]
  rw [← sameSources, List.toFinset_card_of_nodup records.distinct, List.length_map]
  rfl

theorem perform_compile_failed (session : Session) (name source : String) {error : RenderError}
    (failed : (session.perform (.ask name (.compile source))).1 = .renderError error) :
    (session.perform (.ask name (.compile source))).2.engine name = session.engine name := by
  simp only [perform] at failed ⊢
  rcases answer_compile (session.putEngine name (session.engine name)) name source with
    ⟨-, -, after⟩ | ⟨compiled, replied, -⟩
  · rw [after, engine_present, engine_present]
  · rw [replied] at failed
    cases failed

theorem answer_render (session : Session) (name source : String) (context : Context) :
    (session.answer name (.render source context)).2.engine name =
        ((session.engine name).compile session.clock source).2 ∧
      ∀ cause, (session.answer name (.render source context)).1 = .renderError (.compile cause) →
        ((session.engine name).compile session.clock source).1 = .error cause := by
  simp only [answer, Engine.render]
  generalize (session.engine name).compile session.clock source = made
  obtain ⟨result, after⟩ := made
  have put := engine_putEngine session name name after
  rw [if_pos rfl] at put
  cases result with
  | error error =>
      refine ⟨by simp only [replyTo_engine, put], ?_⟩
      rintro cause ⟨⟩
      rfl
  | ok compiled =>
      refine ⟨by simp only [replyTo_engine, put], ?_⟩
      intro cause replied
      exact absurd replied (replyTo_evaluate _ after compiled.nodes context cause)

theorem perform_render_failed (session : Session) (name source : String) (context : Context) {error : RenderError}
    (failed : (session.perform (.ask name (.render source context))).1 = .renderError error) :
    let before := session.engine name
    let after := (session.perform (.ask name (.render source context))).2.engine name
    after = before ∨ ∃ nodes, (∀ cause, error ≠ .compile cause) ∧ before.config.keepsCompiled = true ∧
      Entries.find? (· == ·) before.cache source = none ∧
      compileSource before.config.maxDepth source = .ok nodes ∧
      after = { before with cache := before.cache ++ [(source, ⟨session.clock, nodes⟩)] } := by
  obtain ⟨engine, reported⟩ := answer_render (session.putEngine name (session.engine name)) name source context
  rw [engine_present] at engine reported
  have case := Engine.compile_case (session.engine name) session.clock source
  change _ = ((session.engine name).compile session.clock source).2 at engine
  change ∀ cause, _ → ((session.engine name).compile session.clock source).1 = _ at reported
  simp only [perform] at failed ⊢
  rw [failed] at reported
  rw [engine]
  generalize (session.engine name).compile session.clock source = made at case reported
  obtain ⟨result, after⟩ := made
  cases case with
  | failed _ => exact Or.inl rfl
  | returned _ _ => exact Or.inl rfl
  | passed _ _ => exact Or.inl rfl
  | @filled nodes keeps absent made =>
      refine Or.inr ⟨nodes, ?_, keeps, absent, made, rfl⟩
      rintro cause rfl
      cases reported cause rfl

/-- At any time in a run of requests to an engine: the number of kept templates is that of the different sources
that were compiled, also for a rendering, while templates were kept and since they were last cleared. What fails
to compile changes nothing of the engine, and a rendering that fails later has at most added the one template.
Two compilations returned the identical template exactly if they were of the same source, both while templates
were kept, and with no clearing in between. -/
theorem cache_follows_history (switch : Option String) (name : String) (config : EngineConfig) (registry : Registry)
    (requests : List Request) :
    let past := ((startWith switch name config registry).converse name requests).1
    let now := ((startWith switch name config registry).converse name requests).2
    past.map Exchange.request = requests ∧
    past.map Exchange.reply = (startWith switch name config registry).run (requests.map (.ask name)) ∧
    (now.engine name).cacheSize = (Exchange.keptSources past).toFinset.card ∧
    (∀ source error, (now.perform (.ask name (.compile source))).1 = .renderError error →
      (now.perform (.ask name (.compile source))).2.engine name = now.engine name) ∧
    (∀ source context error, (now.perform (.ask name (.render source context))).1 = .renderError error →
      let before := now.engine name
      let after := (now.perform (.ask name (.render source context))).2.engine name
      after = before ∨ ∃ nodes, (∀ cause, error ≠ .compile cause) ∧ before.config.keepsCompiled = true ∧
        Entries.find? (· == ·) before.cache source = none ∧
        compileSource before.config.maxDepth source = .ok nodes ∧
        after = { before with cache := before.cache ++ [(source, ⟨now.clock, nodes⟩)] }) ∧
    ∀ step step', step < step' → ∀ source source' keeps keeps' nodes nodes' same same',
      past[step]? = some ⟨.compile source, keeps, .compiled nodes same⟩ → nodes ≠ [] →
      past[step']? = some ⟨.compile source', keeps', .compiled nodes' same'⟩ → nodes' ≠ [] →
      (now.Identical step step' ↔ source = source' ∧ keeps = true ∧ keeps' = true ∧
        ∀ between exchange, step < between → between < step' → past[between]? = some exchange →
          exchange.clears = false) := by
  intro past now
  have records : Records past name now := (records_startWith switch name config registry).converse requests
  refine ⟨converse_request _ name requests, converse_run _ name requests, records.cacheSize_eq, ?_, ?_, ?_⟩
  · intro source error failed
    exact perform_compile_failed now name source failed
  · intro source context error failed
    exact perform_render_failed now name source context failed
  · intro step step' order source source' keeps keeps' nodes nodes' same same' first hasNodes second _
    exact records.identical_iff order first second hasNodes

theorem compileSource_of_parse {source : String} {nodes : List Node}
    (parsed : ∀ shown, parseTemplate ⟨64, shown⟩ source = .ok nodes) :
    compileSource EngineConfig.default.maxDepth source = .ok nodes := by
  have taken : EngineConfig.default.maxDepth.depthLimit = .ok ⟨64, "64"⟩ := by rfl
  rw [compileSource_of_limit taken, parsed]
  rfl

def switchedRequests : List Request :=
  [.compile "\x7b\x7ba\x7d\x7d", .set "cache" (.bool false), .compile "\x7b\x7ba\x7d\x7d",
    .set "cache" (.bool true), .compile "\x7b\x7ba\x7d\x7d", .clearCache, .compile "\x7b\x7ba\x7d\x7d"]

theorem cache_follows_history_switched :
    let now := ((startWith none "e" .default ⟨[]⟩).converse "e" switchedRequests).2
    (now.engine "e").cacheSize = 1 ∧ now.Identical 0 4 ∧ ¬now.Identical 0 2 ∧ ¬now.Identical 4 6 := by
  intro now
  have compiles : compileSource (.int 64) "\x7b\x7ba\x7d\x7d" = .ok [.template (.var "a")] :=
    compileSource_of_parse fun shown => by cbv
  have past : ((startWith none "e" .default ⟨[]⟩).converse "e" switchedRequests).1 =
      [⟨.compile "\x7b\x7ba\x7d\x7d", true, .compiled [.template (.var "a")] none⟩,
        ⟨.set "cache" (.bool false), true, .config ⟨.int 64, .bool false, .dict []⟩⟩,
        ⟨.compile "\x7b\x7ba\x7d\x7d", false, .compiled [.template (.var "a")] none⟩,
        ⟨.set "cache" (.bool true), false, .config ⟨.int 64, .bool true, .dict []⟩⟩,
        ⟨.compile "\x7b\x7ba\x7d\x7d", true, .compiled [.template (.var "a")] (some 0)⟩,
        ⟨.clearCache, true, .done⟩,
        ⟨.compile "\x7b\x7ba\x7d\x7d", true, .compiled [.template (.var "a")] none⟩] := by
    simp [switchedRequests, converse, perform, answer, startWith, start, putEngine, engine, Engine.compile,
      Engine.kept?, Engine.keep, Engine.clearCache, Entries.assign, Entries.find?, EngineConfig.keepsCompiled,
      EngineConfig.default, Value.isVoid, Value.isTruthy, defaultMaxDepth, compiles, sameAs?, tick,
      EngineConfig.assign]
  obtain ⟨-, -, size, -, -, identical⟩ := cache_follows_history none "e" .default ⟨[]⟩ switchedRequests
  rw [past] at size identical
  refine ⟨size, ?_, ?_, ?_⟩
  · refine (identical 0 4 (by decide) _ _ _ _ _ _ _ _ rfl (by simp) rfl (by simp)).mpr ⟨rfl, rfl, rfl, ?_⟩
    intro between exchange after before found
    interval_cases between <;> cases found <;> rfl
  · intro same
    obtain ⟨-, -, keeps, -⟩ :=
      (identical 0 2 (by decide) _ _ _ _ _ _ _ _ rfl (by simp) rfl (by simp)).mp same
    cases keeps
  · intro same
    obtain ⟨-, -, -, uncleared⟩ :=
      (identical 4 6 (by decide) _ _ _ _ _ _ _ _ rfl (by simp) rfl (by simp)).mp same
    cases uncleared 5 _ (by decide) (by decide) rfl

end Session

end TextTemplate
