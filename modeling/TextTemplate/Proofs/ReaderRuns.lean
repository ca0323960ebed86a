import Mathlib
import TextTemplate.Proofs.LargerLimits
import TextTemplate.Node.TokenReader

/-!
What a used reader comes to. It ends, and it reads what the readers of token lists read from the rest of its tokens,
with the levels that it has not entered as their budget. Whatever it becomes on the way has its position within the
tokens and its depth within the limit.
-/

namespace TextTemplate

/-! Readers of token lists for the parts that have none so far. -/

namespace Parsing

def filterCall (tokens : List Token) : Except Fault ((String × List Node) × List Token) :=
  expect .identifier tokens >>= fun named => arguments named.2 >>= fun given =>
    .ok ((named.1.value, given.1), given.2)

def block (budget : Nat) (tokens : List Token) : Except Fault (Node × List Token) :=
  expect .openTemplate tokens >>= fun opened => expression budget opened.2 >>= fun read =>
    expect .closeTemplate read.2 >>= fun closed => .ok (.template read.1, closed.2)

def item (budget : Nat) : List Token → Except Fault (Option Node × List Token)
  | [] => .ok (none, [])
  | token :: rest =>
    if token.kind = .text then .ok (some (.text token.value), rest)
    else if token.kind = .openTemplate then
      block budget (token :: rest) >>= fun read => .ok (some read.1, read.2)
    else .ok (none, rest)

theorem arguments_primary {token : Token} (goesOn : endsArguments token.kind = false) (rest : List Token) :
    arguments (token :: rest) = primary (token :: rest) >>= fun read => arguments read.2 >>= fun given =>
      .ok (read.1 :: given.1, given.2) := by
  rw [arguments, primary]
  cases primaryNode? token with
  | some node => rfl
  | none =>
      simp only [goesOn, Bool.false_eq_true, if_false]
      rfl

theorem pipeLinks_call {budget : Nat} {left : Node} {token : Token} {rest : List Token} (isPipe : token.kind = .pipe) :
    pipeLinks (budget + 1) left (token :: rest) =
      filterCall rest >>= fun call => pipeLinks budget (.pipe left call.1.1 call.1.2) call.2 := by
  rw [pipeLinks_pipe isPipe, filterCall]
  cases expect .identifier rest with
  | error fault => rfl
  | ok named =>
      rw [Grammar.ok_bind, Grammar.ok_bind]
      cases arguments named.2 <;> rfl

def items (limit : Nat) (tokens : List Token) : Except Fault (List Node × List Token) :=
  (parseNodes limit tokens).map fun nodes => (nodes, [])

theorem items_cons (limit : Nat) (token : Token) (rest : List Token) :
    items limit (token :: rest) = item limit (token :: rest) >>= fun read =>
      items limit read.2 >>= fun more => .ok (read.1.toList ++ more.1, more.2) := by
  simp only [items, item]
  by_cases isText : token.kind = .text
  · rw [Grammar.parseNodes_text rest isText, if_pos isText, Grammar.ok_bind]
    cases parseNodes limit rest <;> rfl
  · by_cases isOpen : token.kind = .openTemplate
    · have opened := Grammar.expect_eq_ok_iff.mpr ⟨(rfl : token :: rest = _), isOpen⟩
      rw [parseNodes_open isOpen, if_neg isText, if_pos isOpen, block, opened, Grammar.ok_bind]
      cases expression limit rest with
      | error fault => rfl
      | ok read =>
          rw [Grammar.ok_bind, Grammar.ok_bind]
          cases expect .closeTemplate read.2 with
          | error fault => rfl
          | ok closed =>
              simp only [Grammar.ok_bind]
              cases parseNodes limit closed.2 <;> rfl
    · rw [Grammar.parseNodes_stray rest isText isOpen, if_neg isText, if_neg isOpen, Grammar.ok_bind]
      cases parseNodes limit rest <;> rfl

theorem filterCall_length {tokens : List Token} {call : (String × List Node) × List Token}
    (found : filterCall tokens = .ok call) : call.2.length < tokens.length := by
  obtain ⟨named, isName, found⟩ := bind_eq_ok.mp found
  obtain ⟨given, areGiven, found⟩ := bind_eq_ok.mp found
  cases found
  exact Nat.lt_of_le_of_lt (arguments_length areGiven) (expect_length isName)

theorem block_length {budget : Nat} {tokens : List Token} {read : Node × List Token}
    (found : block budget tokens = .ok read) : read.2.length < tokens.length := by
  obtain ⟨opened, isOpen, found⟩ := bind_eq_ok.mp found
  obtain ⟨inside, isRead, found⟩ := bind_eq_ok.mp found
  obtain ⟨closed, isClosed, found⟩ := bind_eq_ok.mp found
  cases found
  have := expect_length isOpen
  have := expression_length isRead
  exact Nat.lt_trans (expect_length isClosed) (by omega)

theorem item_length {budget : Nat} {token : Token} {rest : List Token} {read : Option Node × List Token}
    (found : item budget (token :: rest) = .ok read) : read.2.length < (token :: rest).length := by
  rw [item] at found
  split at found
  · cases found
    simp
  · split at found
    · obtain ⟨inside, isRead, found⟩ := bind_eq_ok.mp found
      cases found
      exact block_length isRead
    · cases found
      simp

end Parsing

namespace TokenReader

variable {α β κ ι σ : Type}

def Runs (routine : Routine α) (start : Course) (after : Except ParseError α → Course → Prop) : Prop :=
  ∃ outcome finish, routine.run.run start = some (outcome, finish) ∧ after outcome finish

theorem Runs.mono {routine : Routine α} {start : Course} {after after' : Except ParseError α → Course → Prop}
    (runs : Runs routine start after) (weaker : ∀ outcome finish, after outcome finish → after' outcome finish) :
    Runs routine start after' := by
  obtain ⟨outcome, finish, ran, holds⟩ := runs
  exact ⟨outcome, finish, ran, weaker outcome finish holds⟩

theorem Runs.bind {first : Routine α} {next : α → Routine β} {start : Course}
    {between : Except ParseError α → Course → Prop} {after : Except ParseError β → Course → Prop}
    (runs : Runs first start between)
    (returned : ∀ value middle, between (.ok value) middle → Runs (next value) middle after)
    (raised : ∀ error middle, between (.error error) middle → after (.error error) middle) :
    Runs (first >>= next) start after := by
  obtain ⟨outcome, middle, ran, holds⟩ := runs
  cases outcome with
  | ok value =>
      obtain ⟨outcome, finish, ranNext, holds⟩ := returned value middle holds
      refine ⟨outcome, finish, ?_, holds⟩
      rw [ExceptT.run_bind, StateT.run_bind, ran]
      exact ranNext
  | error error =>
      refine ⟨.error error, middle, ?_, raised error middle holds⟩
      rw [ExceptT.run_bind, StateT.run_bind, ran]
      rfl

theorem Runs.bind_returned {first : Routine α} {next : α → Routine β} {start : Course} {value : α}
    {middles : Course → Prop} {after : Except ParseError β → Course → Prop}
    (returns : Runs first start fun outcome middle => outcome = .ok value ∧ middles middle)
    (runs : ∀ middle, middles middle → Runs (next value) middle after) : Runs (first >>= next) start after := by
  refine returns.bind ?_ ?_
  · rintro _ middle ⟨⟨⟩, reached⟩
    exact runs middle reached
  · rintro _ middle ⟨⟨⟩, -⟩

structure InBounds (limit : DepthLimit) (reader : TokenReader) : Prop where
  position : reader.position ≤ reader.tokens.length
  depth : reader.depth ≤ limit.levels

def Course.InBounds (limit : DepthLimit) (course : Course) : Prop :=
  ∀ reader ∈ course.now :: course.before, reader.InBounds limit

theorem Course.InBounds.become {limit : DepthLimit} {course : Course} (inBounds : course.InBounds limit)
    {next : TokenReader} (nextInBounds : next.InBounds limit) :
    Course.InBounds limit ⟨next, course.now :: course.before⟩ :=
  List.forall_mem_cons.mpr ⟨nextInBounds, inBounds⟩

theorem Course.InBounds.now {limit : DepthLimit} {course : Course} (inBounds : course.InBounds limit) :
    course.now.InBounds limit :=
  inBounds course.now List.mem_cons_self

theorem Course.InBounds.withDepth {limit : DepthLimit} {course : Course} (inBounds : course.InBounds limit)
    {depth : Nat} (lower : depth ≤ limit.levels) :
    Course.InBounds limit ⟨{ course.now with depth := depth }, course.now :: course.before⟩ :=
  inBounds.become ⟨inBounds.now.position, lower⟩

/-- The reader has come to this rest of its tokens, and has this many levels left to enter. -/
structure Stands (limit : DepthLimit) (tokens : List Token) (budget : Nat) (rest : List Token) (course : Course) :
    Prop where
  same : course.now.tokens = tokens
  rest : tokens.drop course.now.position = rest
  budget : course.now.depth + budget = limit.levels
  inBounds : course.InBounds limit

/-- A reader comes to what a reader of token lists comes to: to the same value, with the same left for what follows, or
to the complaint about the same fault. -/
inductive Comes (limit : DepthLimit) (tokens : List Token) (left : κ → Course → Prop) :
    Except Fault (α × κ) → Except ParseError α → Course → Prop
  | read {value rest finish} (stands : left rest finish) :
      Comes limit tokens left (.ok (value, rest)) (.ok value) finish
  | failed {fault finish} (same : finish.now.tokens = tokens) (inBounds : finish.InBounds limit) :
      Comes limit tokens left (.error fault) (.error (fault.toError limit tokens)) finish

variable {limit : DepthLimit} {tokens rest : List Token} {budget : Nat} {start : Course}
  {left : κ → Course → Prop} {left' : ι → Course → Prop}

theorem Comes.mono {left' : κ → Course → Prop} {read : Except Fault (α × κ)} {outcome : Except ParseError α}
    {finish : Course} (comes : Comes limit tokens left read outcome finish)
    (weaker : ∀ rest, left rest finish → left' rest finish) : Comes limit tokens left' read outcome finish := by
  cases comes with
  | read stands => exact .read (weaker _ stands)
  | failed same inBounds => exact .failed same inBounds

theorem Comes.outcome_eq {read : Except Fault (α × κ)} {outcome : Except ParseError α} {finish : Course}
    (comes : Comes limit tokens left read outcome finish) :
    outcome = (read.map Prod.fst).mapError (Fault.toError limit tokens) := by
  cases comes <;> rfl

theorem Comes.inBounds {read : Except Fault (α × κ)} {outcome : Except ParseError α} {finish : Course}
    (comes : Comes limit tokens left read outcome finish) (stays : ∀ rest, left rest finish → finish.InBounds limit) :
    finish.InBounds limit := by
  cases comes with
  | read stands => exact stays _ stands
  | failed same inBounds => exact inBounds

theorem follows_bind {first : Routine α} {next : α → Routine β} {read : Except Fault (α × κ)}
    {readNext : α × κ → Except Fault (β × ι)} (begins : Runs first start (Comes limit tokens left read))
    (later : ∀ value rest middle, read = .ok (value, rest) → left rest middle →
      Runs (next value) middle (Comes limit tokens left' (readNext (value, rest)))) :
    Runs (first >>= next) start (Comes limit tokens left' (read >>= readNext)) := by
  refine begins.bind ?_ ?_
  · intro value middle comes
    cases comes with
    | read stands => exact later value _ middle rfl stands
  · intro error middle comes
    cases comes with
    | failed same inBounds => exact .failed same inBounds

theorem follows_pure (value : α) {rest : κ} (stands : left rest start) :
    Runs (pure value) start (Comes limit tokens left (.ok (value, rest))) :=
  ⟨_, start, rfl, .read stands⟩

theorem runs_now {next : TokenReader → Routine α} {after : Except ParseError α → Course → Prop}
    (runs : Runs (next start.now) start after) : Runs (liftM now >>= next) start after :=
  runs

theorem runs_become {reader : TokenReader} {next : PUnit → Routine α} {after : Except ParseError α → Course → Prop}
    (runs : Runs (next ⟨⟩) ⟨reader, start.now :: start.before⟩ after) :
    Runs (liftM (become reader) >>= next) start after :=
  runs

/-! A routine that calls itself. -/

def again (body : (σ → Routine α) → σ → Routine α) (start : Course) (argument : σ) : Routine α := fun later =>
  if later.now.room < start.now.room then recursing body argument later else none

theorem runs_recursing {body : (σ → Routine α) → σ → Routine α} {argument : σ}
    {after : Except ParseError α → Course → Prop} (runs : Runs (body (again body start) argument) start after) :
    Runs (recursing body argument) start after := by
  obtain ⟨outcome, finish, ran, holds⟩ := runs
  refine ⟨outcome, finish, ?_, holds⟩
  change recursing body argument start = _
  -- one unfolding only: the calls inside the body are left as `again`
  rw [recursing]
  exact ran

theorem runs_again {body : (σ → Routine α) → σ → Routine α} {argument : σ} {later : Course}
    {after : Except ParseError α → Course → Prop} (shorter : later.now.room < start.now.room)
    (runs : Runs (recursing body argument) later after) : Runs (again body start argument) later after := by
  obtain ⟨outcome, finish, ran, holds⟩ := runs
  refine ⟨outcome, finish, ?_, holds⟩
  change (if later.now.room < start.now.room then recursing body argument later else none) = _
  rw [if_pos shorter]
  exact ran

theorem Stands.room_eq (stands : Stands limit tokens budget rest start) : start.now.room = rest.length := by
  rw [room, stands.same, ← stands.rest, List.length_drop]

theorem Stands.room_lt {later : Course} {budget' : Nat} {rest' : List Token}
    (stands : Stands limit tokens budget rest start) (stands' : Stands limit tokens budget' rest' later)
    (shorter : rest'.length < rest.length) : later.now.room < start.now.room := by
  rw [stands.room_eq, stands'.room_eq]
  exact shorter

/-! Single steps. -/

theorem endToken_kind (tokens : List Token) : (endToken tokens).kind = .endOfInput := by
  rw [endToken]
  split <;> rfl

theorem Stands.token_eq (stands : Stands limit tokens budget rest start) :
    start.now.token = rest.headD (endToken tokens) := by
  rw [TokenReader.token, stands.same, ← stands.rest, List.headD_eq_head?_getD, List.head?_drop]

theorem Stands.position_lt {token : Token} (stands : Stands limit tokens budget (token :: rest) start) :
    start.now.position < tokens.length := by
  have left := congrArg List.length stands.rest
  rw [List.length_drop, List.length_cons] at left
  omega

theorem Stands.kind_ne {kind : TokenKind} (stands : Stands limit tokens budget rest start)
    (notNext : Parsing.NotNext kind rest) (real : kind ≠ .endOfInput) : start.now.token.kind ≠ kind := by
  rw [stands.token_eq]
  cases rest with
  | nil =>
      rw [List.headD_nil, endToken_kind]
      exact real.symm
  | cons token others => exact notNext token rfl

theorem Stands.comes_error (stands : Stands limit tokens budget rest start) (cause : ParseCause) :
    Comes limit tokens left (.error ⟨cause, rest⟩) (.error ⟨cause, limit, start.now.token⟩ : Except ParseError α)
      start := by
  rw [stands.token_eq]
  exact .failed stands.same stands.inBounds

theorem complain_follows (stands : Stands limit tokens budget rest start) (cause : ParseCause) :
    Runs (complain limit cause : Routine α) start (Comes limit tokens left (.error ⟨cause, rest⟩)) :=
  ⟨_, start, rfl, stands.comes_error cause⟩

theorem advance_runs {token : Token} (stands : Stands limit tokens budget (token :: rest) start) :
    Runs advance start fun outcome finish => outcome = .ok token ∧ Stands limit tokens budget rest finish := by
  have inside : start.now.position < start.now.tokens.length := by
    rw [stands.same]
    exact stands.position_lt
  have next : start.now.token = token := stands.token_eq
  obtain ⟨same, here, levels, inBounds⟩ := stands
  rw [advance]
  apply runs_now
  rw [if_pos inside, next]
  apply runs_become
  refine ⟨.ok token, _, rfl, rfl, same, ?_, levels, inBounds.become ⟨inside, ?_⟩⟩
  · rw [← List.drop_drop, here]
    rfl
  · exact inBounds.now.depth

theorem advanced {token : Token} {next : Token → Routine α} {after : Except ParseError α → Course → Prop}
    (stands : Stands limit tokens budget (token :: rest) start)
    (runs : ∀ middle, Stands limit tokens budget rest middle → Runs (next token) middle after) :
    Runs (advance >>= next) start after :=
  (advance_runs stands).bind_returned runs

theorem accepted {kind : TokenKind} {token : Token} {yes no : Routine α}
    {after : Except ParseError α → Course → Prop} (stands : Stands limit tokens budget (token :: rest) start)
    (same : token.kind = kind) (runs : ∀ middle, Stands limit tokens budget rest middle → Runs yes middle after) :
    Runs (do if ← accepts kind then yes else no) start after := by
  have next : start.now.token.kind = kind := by rw [stands.token_eq, List.headD_cons, same]
  have taken : Runs (accepts kind) start
      fun outcome finish => outcome = .ok true ∧ Stands limit tokens budget rest finish := by
    rw [accepts]
    apply runs_now
    rw [if_pos next]
    exact advanced stands fun middle stands => ⟨.ok true, middle, rfl, rfl, stands⟩
  exact taken.bind_returned runs

theorem refused {kind : TokenKind} {yes no : Routine α} {after : Except ParseError α → Course → Prop}
    (stands : Stands limit tokens budget rest start) (notNext : Parsing.NotNext kind rest) (real : kind ≠ .endOfInput)
    (runs : Runs no start after) : Runs (do if ← accepts kind then yes else no) start after := by
  have passedBy : Runs (accepts kind) start fun outcome finish => outcome = .ok false ∧ finish = start := by
    rw [accepts]
    apply runs_now
    rw [if_neg (stands.kind_ne notNext real)]
    exact ⟨.ok false, start, rfl, rfl, rfl⟩
  refine passedBy.bind_returned ?_
  rintro middle rfl
  exact runs

theorem entered_full {next : Unit → Routine α} {after : Except ParseError α → Course → Prop}
    (stands : Stands limit tokens 0 rest start) (raised : after (.error ⟨.tooDeep, limit, start.now.token⟩) start) :
    Runs (enterLevel limit >>= next) start after := by
  have full : limit.levels ≤ start.now.depth := Nat.le_of_eq stands.budget.symm
  have complains : Runs (enterLevel limit) start fun outcome finish =>
      outcome = .error ⟨.tooDeep, limit, start.now.token⟩ ∧ finish = start := by
    rw [enterLevel]
    apply runs_now
    rw [if_pos full]
    exact ⟨_, start, rfl, rfl, rfl⟩
  refine complains.bind ?_ ?_
  · rintro value middle ⟨⟨⟩, -⟩
  · rintro error middle ⟨⟨⟩, rfl⟩
    exact raised

theorem entered {next : Unit → Routine α} {after : Except ParseError α → Course → Prop}
    (stands : Stands limit tokens (budget + 1) rest start)
    (runs : ∀ middle, Stands limit tokens budget rest middle → Runs (next ()) middle after) :
    Runs (enterLevel limit >>= next) start after := by
  obtain ⟨same, here, levels, inBounds⟩ := stands
  have room : ¬ limit.levels ≤ start.now.depth := by omega
  have entersOne : Runs (enterLevel limit) start fun outcome finish =>
      outcome = .ok () ∧ Stands limit tokens budget rest finish := by
    rw [enterLevel]
    apply runs_now
    rw [if_neg room]
    refine ⟨.ok (), _, rfl, rfl, same, here, ?_, inBounds.withDepth (Nat.succ_le_of_lt (Nat.lt_of_not_le room))⟩
    dsimp only
    omega
  exact entersOne.bind_returned runs

theorem expect_follows {kind : TokenKind} (real : kind ≠ .endOfInput)
    (stands : Stands limit tokens budget rest start) :
    Runs (expect limit kind) start (Comes limit tokens (Stands limit tokens budget) (Parsing.expect kind rest)) := by
  rw [expect]
  apply runs_now
  cases rest with
  | nil =>
      rw [if_neg (stands.kind_ne (Parsing.notNext_nil kind) real)]
      exact complain_follows stands _
  | cons token others =>
      rw [Parsing.expect, stands.token_eq, List.headD_cons]
      by_cases same : token.kind = kind
      · rw [if_pos same, if_pos same]
        refine (advance_runs stands).mono ?_
        rintro outcome finish ⟨rfl, stands⟩
        exact .read stands
      · rw [if_neg same, if_neg same]
        exact complain_follows stands _

theorem primary_follows (stands : Stands limit tokens budget rest start) :
    Runs (primary limit) start (Comes limit tokens (Stands limit tokens budget) (Parsing.primary rest)) := by
  rw [primary]
  apply runs_now
  rw [stands.token_eq]
  cases rest with
  | nil =>
      have unknown : Parsing.primaryNode? (endToken tokens) = none := by
        rw [Parsing.primaryNode?, endToken_kind]
      rw [List.headD_nil, unknown]
      exact complain_follows stands _
  | cons token others =>
      rw [Parsing.primary, List.headD_cons]
      cases Parsing.primaryNode? token with
      | none => exact complain_follows stands _
      | some node => exact advanced stands fun middle stands => follows_pure node stands

/-! Filters and pipelines. -/

theorem arguments_follows (stands : Stands limit tokens budget rest start) :
    Runs (arguments limit) start (Comes limit tokens (Stands limit tokens budget) (Parsing.arguments rest)) := by
  induction rest generalizing start with
  | nil =>
      apply runs_recursing
      apply runs_now
      rw [stands.token_eq, List.headD_nil, endToken_kind]
      exact follows_pure [] stands
  | cons token others ih =>
      apply runs_recursing
      apply runs_now
      rw [stands.token_eq, List.headD_cons]
      cases ends : Parsing.endsArguments token.kind with
      | true =>
          rw [Parsing.arguments, Grammar.primaryNode_eq_none ends]
          simp only [ends, if_true]
          exact follows_pure [] stands
      | false =>
          rw [Parsing.arguments_primary ends]
          refine follows_bind (primary_follows stands) fun arg tail middle isRead afterOne => ?_
          obtain ⟨_, split, -⟩ := Grammar.primary_eq_ok_iff.mp isRead
          obtain ⟨-, rfl⟩ := List.cons.inj split
          have shorter := stands.room_lt afterOne (Nat.lt_succ_self _)
          exact follows_bind (runs_again shorter (ih afterOne)) fun args rest finish _ stands =>
            follows_pure (arg :: args) stands

theorem filterCall_follows (stands : Stands limit tokens budget rest start) :
    Runs (filterCall limit) start (Comes limit tokens (Stands limit tokens budget) (Parsing.filterCall rest)) := by
  rw [filterCall, Parsing.filterCall]
  refine follows_bind (expect_follows (by decide) stands) fun name rest middle _ stands => ?_
  exact follows_bind (arguments_follows stands) fun args rest finish _ stands => follows_pure (name.value, args) stands

def Spent (limit : DepthLimit) (tokens : List Token) (left : Nat × List Token) : Course → Prop :=
  Stands limit tokens left.1 left.2

theorem notNext_or (kind : TokenKind) (rest : List Token) :
    Parsing.NotNext kind rest ∨ ∃ token others, rest = token :: others ∧ token.kind = kind := by
  cases rest with
  | nil => exact Or.inl (Parsing.notNext_nil kind)
  | cons token others =>
      by_cases same : token.kind = kind
      · exact Or.inr ⟨token, others, rfl, same⟩
      · exact Or.inl (Parsing.notNext_cons same others)

theorem pipeLinks_follows (node : Node) (stands : Stands limit tokens budget rest start) :
    Runs (pipeLinks limit node) start
      (Comes limit tokens (Spent limit tokens) (Parsing.pipeLinks budget node rest)) := by
  -- on the levels left, since each link takes one; that it takes tokens too is what `runs_again` asks for
  induction budget generalizing node rest start with
  | zero =>
      apply runs_recursing
      rcases notNext_or .pipe rest with notPipe | ⟨token, others, rfl, isPipe⟩
      · rw [Parsing.pipeLinks_other 0 node notPipe]
        exact refused stands notPipe (by decide) (follows_pure node stands)
      · rw [Parsing.pipeLinks, if_pos isPipe]
        exact accepted stands isPipe fun middle stands => entered_full stands (stands.comes_error _)
  | succ budget ih =>
      apply runs_recursing
      rcases notNext_or .pipe rest with notPipe | ⟨token, others, rfl, isPipe⟩
      · rw [Parsing.pipeLinks_other (budget + 1) node notPipe]
        exact refused stands notPipe (by decide) (follows_pure node stands)
      · rw [Parsing.pipeLinks_call isPipe]
        refine accepted stands isPipe fun middle afterPipe => ?_
        refine entered afterPipe fun middle inner => ?_
        refine follows_bind (filterCall_follows inner) fun call rest middle isCall afterCall => ?_
        have shorter := stands.room_lt afterCall (Nat.lt_succ_of_lt (Parsing.filterCall_length isCall))
        exact runs_again shorter (ih _ afterCall)

theorem pipeline_follows (stands : Stands limit tokens budget rest start) :
    Runs (pipeline limit) start (Comes limit tokens (Spent limit tokens) (Parsing.pipeline budget rest)) := by
  rw [pipeline]
  exact follows_bind (primary_follows stands) fun node rest middle _ stands => pipeLinks_follows node stands

/-! Chains of `or`. The level of each link is kept while its operand is read. -/

theorem setDepth_runs {depth budget' : Nat} {next : PUnit → Routine α} {after : Except ParseError α → Course → Prop}
    (stands : Stands limit tokens budget rest start) (levels : depth + budget' = limit.levels)
    (runs : ∀ middle, Stands limit tokens budget' rest middle → Runs (next ⟨⟩) middle after) :
    Runs (liftM (setDepth depth) >>= next) start after := by
  obtain ⟨same, here, -, inBounds⟩ := stands
  have lower : depth ≤ limit.levels := by omega
  exact runs _ ⟨same, here, levels, inBounds.withDepth lower⟩

def StandsSomewhere (limit : DepthLimit) (tokens rest : List Token) (course : Course) : Prop :=
  ∃ budget, Stands limit tokens budget rest course

theorem orLinks_follows (node : Node) (stands : Stands limit tokens budget rest start) :
    Runs (orLinks limit node) start
      (Comes limit tokens (StandsSomewhere limit tokens) (Parsing.orLinks budget node rest)) := by
  induction budget generalizing node rest start with
  | zero =>
      apply runs_recursing
      rcases notNext_or .or rest with notOr | ⟨token, others, rfl, isOr⟩
      · rw [Parsing.orLinks_other 0 node notOr]
        exact refused stands notOr (by decide) (follows_pure node ⟨0, stands⟩)
      · rw [Parsing.orLinks, if_pos isOr]
        exact accepted stands isOr fun middle stands => entered_full stands (stands.comes_error _)
  | succ budget ih =>
      apply runs_recursing
      rcases notNext_or .or rest with notOr | ⟨token, others, rfl, isOr⟩
      · rw [Parsing.orLinks_other (budget + 1) node notOr]
        exact refused stands notOr (by decide) (follows_pure node ⟨budget + 1, stands⟩)
      · rw [Parsing.orLinks_or isOr]
        refine accepted stands isOr fun middle afterOr => ?_
        refine entered afterOr fun middle inner => ?_
        apply runs_now
        refine follows_bind (pipeline_follows inner) fun right left finish isOperand spent => ?_
        refine setDepth_runs spent inner.budget fun finish afterOperand => ?_
        have shorter := stands.room_lt afterOperand (Nat.lt_succ_of_lt (Parsing.pipeline_length isOperand))
        exact runs_again shorter (ih _ afterOperand)

/-! Chains and expressions leave what they have entered, whether they return or complain. -/

theorem run_leaving (saved : Nat) (body : Routine α) (start : Course) :
    (leaving saved body).run.run start = (body.run.run start).map fun ended =>
      (ended.1, ⟨{ ended.2.now with depth := saved }, ended.2.now :: ended.2.before⟩) := by
  change (body.run.run start).bind _ = _
  cases body.run.run start <;> rfl

theorem leaving_restores {body : Routine α} {saved : Nat} {read : Except Fault (α × List Token)}
    (levels : saved + budget = limit.levels)
    (follows : Runs body start (Comes limit tokens (StandsSomewhere limit tokens) read)) :
    Runs (leaving saved body) start fun outcome finish =>
      finish.now.depth = saved ∧ Comes limit tokens (Stands limit tokens budget) read outcome finish := by
  obtain ⟨outcome, finish, ran, comes⟩ := follows
  have lower : saved ≤ limit.levels := by omega
  refine ⟨outcome, ⟨{ finish.now with depth := saved }, finish.now :: finish.before⟩, ?_, rfl, ?_⟩
  · rw [run_leaving, ran]
    rfl
  · cases comes with
    | read stands =>
        obtain ⟨_, same, here, -, inBounds⟩ := stands
        exact .read ⟨same, here, levels, inBounds.withDepth lower⟩
    | failed same inBounds => exact .failed same (inBounds.withDepth lower)

theorem orChain_restores (stands : Stands limit tokens budget rest start) :
    Runs (orChain limit) start fun outcome finish => finish.now.depth = start.now.depth ∧
      Comes limit tokens (Stands limit tokens budget) (Parsing.orChain budget rest) outcome finish := by
  rw [orChain]
  apply runs_now
  apply leaving_restores stands.budget
  exact follows_bind (pipeline_follows stands) fun node left middle _ spent => orLinks_follows node spent

theorem orChain_follows (stands : Stands limit tokens budget rest start) :
    Runs (orChain limit) start (Comes limit tokens (Stands limit tokens budget) (Parsing.orChain budget rest)) :=
  (orChain_restores stands).mono fun _ _ restored => restored.2

theorem ternaryWith_follows {branch : Routine Node} (stands : Stands limit tokens budget rest start)
    (inner : ∀ {later rest'}, rest'.length < rest.length → Stands limit tokens budget rest' later →
      Runs branch later (Comes limit tokens (Stands limit tokens budget) (Parsing.expression budget rest'))) :
    Runs (ternaryWith limit branch) start (Comes limit tokens (Stands limit tokens budget)
      (Parsing.orChain budget rest >>= fun read => Parsing.branches budget read.1 read.2)) := by
  rw [ternaryWith]
  refine follows_bind (orChain_follows stands) fun condition rest₁ middle isChain stands => ?_
  have afterChain := Parsing.orChain_length isChain
  dsimp only
  rcases notNext_or .question rest₁ with notQuestion | ⟨token, rest₂, rfl, isQuestion⟩
  · rw [Parsing.branches_other budget condition notQuestion]
    exact refused stands notQuestion (by decide) (follows_pure condition stands)
  · rw [List.length_cons] at afterChain
    rw [Parsing.branches, if_pos isQuestion]
    have shorter : rest₂.length < rest.length := by omega
    refine accepted stands isQuestion fun middle stands => ?_
    refine follows_bind (inner shorter stands) fun whenTrue rest₃ middle isTrue stands => ?_
    refine follows_bind (expect_follows (by decide) stands) fun colon rest₄ middle isColon stands => ?_
    have shorter' : rest₄.length < rest.length :=
      Nat.lt_trans (Parsing.expect_length isColon) (Nat.lt_trans (Parsing.expression_length isTrue) shorter)
    exact follows_bind (inner shorter' stands) fun whenFalse rest₅ finish _ stands => follows_pure _ stands

theorem expression_restores (stands : Stands limit tokens budget rest start) :
    Runs (expression limit) start fun outcome finish => finish.now.depth = start.now.depth ∧
      Comes limit tokens (Stands limit tokens budget) (Parsing.expression budget rest) outcome finish := by
  induction budget generalizing rest start with
  | zero =>
      apply runs_recursing
      apply runs_now
      exact entered_full stands ⟨rfl, stands.comes_error _⟩
  | succ budget ih =>
      rw [Parsing.expression_succ]
      apply runs_recursing
      apply runs_now
      refine entered stands fun middle inside => leaving_restores stands.budget ?_
      refine (ternaryWith_follows inside fun shorter later => ?_).mono fun _ _ comes => comes.mono ?_
      · exact runs_again (stands.room_lt later shorter) ((ih later).mono fun _ _ restored => restored.2)
      · exact fun _ stands => ⟨budget, stands⟩

theorem expression_follows (stands : Stands limit tokens budget rest start) :
    Runs (expression limit) start (Comes limit tokens (Stands limit tokens budget) (Parsing.expression budget rest)) :=
  (expression_restores stands).mono fun _ _ restored => restored.2

theorem ternary_follows (stands : Stands limit tokens budget rest start) :
    Runs (ternary limit) start (Comes limit tokens (Stands limit tokens budget)
      (Parsing.orChain budget rest >>= fun read => Parsing.branches budget read.1 read.2)) :=
  ternaryWith_follows stands fun _ later => expression_follows later

/-! Nodes of token lists, one list after another. -/

theorem block_follows (stands : Stands limit tokens budget rest start) :
    Runs (block limit) start (Comes limit tokens (Stands limit tokens budget) (Parsing.block budget rest)) := by
  rw [block, Parsing.block]
  refine follows_bind (expect_follows (by decide) stands) fun opened rest middle _ stands => ?_
  refine follows_bind (expression_follows stands) fun node rest middle _ stands => ?_
  exact follows_bind (expect_follows (by decide) stands) fun closed rest finish _ stands => follows_pure _ stands

theorem item_follows {token : Token} (stands : Stands limit tokens budget (token :: rest) start) :
    Runs (item limit) start
      (Comes limit tokens (Stands limit tokens budget) (Parsing.item budget (token :: rest))) := by
  rw [item, Parsing.item]
  apply runs_now
  rw [stands.token_eq, List.headD_cons]
  dsimp only
  by_cases isText : token.kind = .text
  · rw [if_pos isText, if_pos isText]
    exact advanced stands fun middle stands => follows_pure _ stands
  · rw [if_neg isText, if_neg isText]
    by_cases isOpen : token.kind = .openTemplate
    · rw [if_pos isOpen, if_pos isOpen]
      exact follows_bind (block_follows stands) fun node rest middle _ stands => follows_pure _ stands
    · rw [if_neg isOpen, if_neg isOpen]
      exact advanced stands fun middle stands => follows_pure _ stands

theorem items_follows (stands : Stands limit tokens limit.levels rest start) :
    Runs (items limit) start
      (Comes limit tokens (Stands limit tokens limit.levels) (Parsing.items limit.levels rest)) := by
  induction length : rest.length using Nat.strong_induction_on generalizing rest start with
  | _ length ih =>
      subst length
      apply runs_recursing
      apply runs_now
      cases rest with
      | nil =>
          have atEnd : ¬ start.now.position < start.now.tokens.length := by
            rw [stands.same, Nat.not_lt, ← List.drop_eq_nil_iff]
            exact stands.rest
          rw [if_neg atEnd, Parsing.items, Parsing.parseNodes]
          exact follows_pure [] stands
      | cons token others =>
          have inside : start.now.position < start.now.tokens.length := by
            rw [stands.same]
            exact stands.position_lt
          rw [if_pos inside, Parsing.items_cons]
          refine follows_bind (item_follows stands) fun node rest middle isRead afterItem => ?_
          have shorter := Parsing.item_length isRead
          have goesOn := runs_again (stands.room_lt afterItem shorter) (ih rest.length shorter afterItem rfl)
          refine follows_bind goesOn ?_
          intro nodes rest finish _ stands
          exact follows_pure _ stands

theorem items_outcome (limit : DepthLimit) (tokens : List Token) :
    ((Parsing.items limit.levels tokens).map Prod.fst).mapError (Fault.toError limit tokens) =
      parseTokens limit tokens := by
  rw [parseTokens, Parsing.items]
  cases Parsing.parseNodes limit.levels tokens <;> rfl

/-- Whatever the reader was before, it reads a token list as if nothing had been before. -/
theorem parse_run (inBounds : start.InBounds limit) (tokens : List Token) :
    ∃ finish, (parse limit tokens).run start = some (parseTokens limit tokens, finish) ∧ finish.InBounds limit := by
  have begins : Stands limit tokens limit.levels tokens ⟨⟨tokens, 0, 0⟩, start.now :: start.before⟩ :=
    ⟨rfl, rfl, Nat.zero_add _, inBounds.become ⟨Nat.zero_le _, Nat.zero_le _⟩⟩
  obtain ⟨outcome, finish, ran, comes⟩ := items_follows begins
  have told : outcome = parseTokens limit tokens := comes.outcome_eq.trans (items_outcome limit tokens)
  subst told
  exact ⟨finish, ran, comes.inBounds fun _ stands => stands.inBounds⟩

theorem parseAll_run (inBounds : start.InBounds limit) (sources : List (List Token)) :
    ∃ finish, (parseAll limit sources).run start = some (sources.map (parseTokens limit), finish) ∧
      finish.InBounds limit := by
  induction sources generalizing start with
  | nil => exact ⟨start, rfl, inBounds⟩
  | cons tokens more ih =>
      obtain ⟨middle, ran, inBounds⟩ := parse_run inBounds tokens
      obtain ⟨finish, ranMore, inBounds⟩ := ih inBounds
      refine ⟨finish, ?_, inBounds⟩
      rw [parseAll, StateT.run_bind, ran]
      change ((parseAll limit more).run middle).bind _ = _
      rw [ranMore]
      rfl

end TokenReader

end TextTemplate
