import Mathlib
import TextTemplate.Proofs.ReaderRuns

/-!
The numbers of a used reader. Expressions and chains of `or` leave the depth as they found it, a pipeline that is read
leaves it greater by its links, and whatever is read takes a token. So nothing of one token list is left for the next.
-/

namespace TextTemplate

/-! The links of a pipeline are its pipe tokens. -/

namespace Grammar

theorem Link.pipes_eq (link : Link) : link.symbols.countP (fun symbol => symbol.kind == .pipe) = 1 := by
  have inArgs : (link.args.map Primary.symbol).countP (fun symbol => symbol.kind == .pipe) = 0 := by
    rw [List.countP_eq_zero]
    intro symbol member
    obtain ⟨arg, -, rfl⟩ := List.mem_map.mp member
    cases arg <;> simp [Primary.symbol]
  rw [Link.symbols, List.countP_cons, List.countP_cons, inArgs]
  rfl

theorem Pipeline.pipes_eq (pipeline : Pipeline) :
    pipeline.symbols.countP (fun symbol => symbol.kind == .pipe) = pipeline.links.length := by
  have inFirst : (pipeline.first.symbol.kind == .pipe) = false := by
    cases pipeline.first <;> rfl
  have inLinks : ∀ links : List Link,
      (links.flatMap Link.symbols).countP (fun symbol => symbol.kind == .pipe) = links.length := by
    intro links
    induction links with
    | nil => rfl
    | cons link rest ih => rw [List.flatMap_cons, List.countP_append, Link.pipes_eq, ih, List.length_cons, Nat.add_comm]
  rw [Pipeline.symbols, List.countP_cons, inFirst, inLinks]
  rfl

end Grammar

namespace TokenReader

variable {α κ : Type}

def taken (reader later : TokenReader) : List Token :=
  (reader.tokens.drop reader.position).take (later.position - reader.position)

/-- The routine ends, all numbers being in bounds on the way, and if it returns, it has taken a token or more. -/
def MovesOn (limit : DepthLimit) (routine : Routine α) (reader : TokenReader) : Prop :=
  Runs routine ⟨reader, []⟩ fun outcome finish =>
    finish.InBounds limit ∧ finish.now.tokens = reader.tokens ∧
      ∀ value, outcome = .ok value → reader.position < finish.now.position

def KeepsDepth (routine : Routine α) (reader : TokenReader) : Prop :=
  Runs routine ⟨reader, []⟩ fun _ finish => finish.now.depth = reader.depth

def CountsLinks (limit : DepthLimit) (reader : TokenReader) : Prop :=
  Runs (pipeline limit) ⟨reader, []⟩ fun outcome finish => ∀ node, outcome = .ok node →
    finish.now.depth = reader.depth + (reader.taken finish.now).countP fun token => token.kind == .pipe

structure CountsWell (limit : DepthLimit) (reader : TokenReader) : Prop where
  expression_keeps : KeepsDepth (expression limit) reader
  orChain_keeps : KeepsDepth (orChain limit) reader
  pipeline_counts : CountsLinks limit reader
  primary_moves : MovesOn limit (primary limit) reader
  filterCall_moves : MovesOn limit (filterCall limit) reader
  pipeline_moves : MovesOn limit (pipeline limit) reader
  orChain_moves : MovesOn limit (orChain limit) reader
  ternary_moves : MovesOn limit (ternary limit) reader
  expression_moves : MovesOn limit (expression limit) reader
  block_moves : MovesOn limit (block limit) reader
  item_moves : reader.position < reader.tokens.length → MovesOn limit (item limit) reader

variable {limit : DepthLimit} {reader : TokenReader}

theorem InBounds.stands (inBounds : reader.InBounds limit) :
    Stands limit reader.tokens (limit.levels - reader.depth) (reader.tokens.drop reader.position) ⟨reader, []⟩ :=
  ⟨rfl, rfl, Nat.add_sub_cancel' inBounds.depth, List.forall_mem_singleton.mpr inBounds⟩

theorem position_lt {rest : List Token} {finish : Course}
    (stands : StandsSomewhere limit reader.tokens rest finish)
    (shorter : rest.length < (reader.tokens.drop reader.position).length) :
    reader.position < finish.now.position := by
  obtain ⟨_, -, here, -, -⟩ := stands
  rw [← here, List.length_drop, List.length_drop] at shorter
  omega

theorem MovesOn.of_follows {routine : Routine α} {left : κ → Course → Prop} {read : Except Fault (α × κ)}
    (restOf : κ → List Token) (follows : Runs routine ⟨reader, []⟩ (Comes limit reader.tokens left read))
    (stands : ∀ rest finish, left rest finish → StandsSomewhere limit reader.tokens (restOf rest) finish)
    (shorter : ∀ value rest, read = .ok (value, rest) →
      (restOf rest).length < (reader.tokens.drop reader.position).length) : MovesOn limit routine reader := by
  refine follows.mono fun outcome finish comes => ?_
  cases comes with
  | read left =>
      have somewhere := stands _ _ left
      refine ⟨somewhere.choose_spec.inBounds, somewhere.choose_spec.same, ?_⟩
      intro _ _
      exact position_lt somewhere (shorter _ _ rfl)
  | failed same inBounds => exact ⟨inBounds, same, fun _ returned => nomatch returned⟩

theorem MovesOn.of_stands {routine : Routine α} {budget : Nat} {read : Except Fault (α × List Token)}
    (follows : Runs routine ⟨reader, []⟩ (Comes limit reader.tokens (Stands limit reader.tokens budget) read))
    (shorter : ∀ value rest, read = .ok (value, rest) → rest.length < (reader.tokens.drop reader.position).length) :
    MovesOn limit routine reader :=
  .of_follows id follows (fun _ _ stands => ⟨budget, stands⟩) shorter

theorem taken_eq {later : TokenReader} {consumed rest : List Token} (inBounds : later.InBounds limit)
    (same : later.tokens = reader.tokens) (split : reader.tokens.drop reader.position = consumed ++ rest)
    (here : reader.tokens.drop later.position = rest) : reader.taken later = consumed := by
  have before := congrArg List.length split
  have after := congrArg List.length here
  have inside : later.position ≤ reader.tokens.length := same ▸ inBounds.position
  rw [List.length_drop, List.length_append] at before
  rw [List.length_drop] at after
  have moved : later.position - reader.position = consumed.length := by omega
  rw [taken, split, moved, List.take_left]

theorem InBounds.countsLinks (inBounds : reader.InBounds limit) : CountsLinks limit reader := by
  refine (pipeline_follows inBounds.stands).mono fun outcome finish comes node returned => ?_
  generalize found : Parsing.pipeline _ _ = read at comes
  cases comes with
  | failed => cases returned
  | @read value left _ spent =>
      obtain ⟨consumed, spelled, split, symbols, -, count⟩ := Grammar.pipeline_sound found
      obtain ⟨same, here, levels, later⟩ := spent
      have links : consumed.countP (fun token => token.kind == .pipe) = spelled.links.length := by
        rw [← Grammar.Pipeline.pipes_eq, ← symbols, List.countP_map]
        exact List.countP_congr fun token _ => by rw [Function.comp_apply, Token.symbol_kind]
      have depth := inBounds.depth
      rw [taken_eq later.now same split here, links]
      omega

/-! Every part that is read takes a token. -/

theorem ternary_length {budget : Nat} {tokens : List Token} {read : Node × List Token}
    (found : (Parsing.orChain budget tokens >>= fun read => Parsing.branches budget read.1 read.2) = .ok read) :
    read.2.length < tokens.length := by
  obtain ⟨condition, isChain, found⟩ := Parsing.bind_eq_ok.mp found
  have left := (Parsing.branches_remains budget condition.1 condition.2).length_le
  rw [found] at left
  exact Nat.lt_of_le_of_lt left (Parsing.orChain_length isChain)

theorem InBounds.countsWell (inBounds : reader.InBounds limit) : CountsWell limit reader where
  expression_keeps := (expression_restores inBounds.stands).mono fun _ _ restored => restored.1
  orChain_keeps := (orChain_restores inBounds.stands).mono fun _ _ restored => restored.1
  pipeline_counts := inBounds.countsLinks
  primary_moves := .of_stands (primary_follows inBounds.stands) fun _ _ => Parsing.primary_length
  filterCall_moves := .of_stands (filterCall_follows inBounds.stands) fun _ _ => Parsing.filterCall_length
  pipeline_moves :=
    .of_follows Prod.snd (pipeline_follows inBounds.stands) (fun _ _ spent => ⟨_, spent⟩)
      fun _ _ => Parsing.pipeline_length
  orChain_moves := .of_stands (orChain_follows inBounds.stands) fun _ _ => Parsing.orChain_length
  ternary_moves := .of_stands (ternary_follows inBounds.stands) fun _ _ => ternary_length
  expression_moves := .of_stands (expression_follows inBounds.stands) fun _ _ => Parsing.expression_length
  block_moves := .of_stands (block_follows inBounds.stands) fun _ _ => Parsing.block_length
  item_moves inside := by
    have next := List.drop_eq_getElem_cons inside
    have stands := inBounds.stands
    rw [next] at stands
    refine .of_stands (item_follows stands) fun _ _ found => ?_
    rw [next]
    exact Parsing.item_length found

/-- A reader has been, or is left, like this when an unused one has read some token lists, one after another. -/
def Reached (limit : DepthLimit) (reader : TokenReader) : Prop :=
  ∃ sources ended, (parseAll limit sources).run ⟨unused, []⟩ = some ended ∧ reader ∈ ended.2.now :: ended.2.before

theorem unused_inBounds (limit : DepthLimit) : unused.InBounds limit :=
  ⟨Nat.zero_le _, Nat.zero_le _⟩

theorem InBounds.alone (inBounds : reader.InBounds limit) : Course.InBounds limit ⟨reader, []⟩ :=
  List.forall_mem_singleton.mpr inBounds

theorem Reached.inBounds (reached : reader.Reached limit) : reader.InBounds limit := by
  obtain ⟨sources, ended, ran, been⟩ := reached
  obtain ⟨finish, ran', inBounds⟩ := parseAll_run (unused_inBounds limit).alone sources
  cases ran.symm.trans ran'
  exact inBounds reader been

/-- However a reader has been used, its depth comes back and its position goes on as they should in every part that it
reads; and whatever it is given then, it ends with what an unused one gives for each token list alone. -/
theorem reached_reads_as_unused (reached : reader.Reached limit) :
    reader.InBounds limit ∧ reader.CountsWell limit ∧
      (∀ sources, ∃ finish,
        (parseAll limit sources).run ⟨reader, []⟩ = some (sources.map (parseTokens limit), finish)) ∧
      ∀ tokens, ∃ finish, (parse limit tokens).run ⟨unused, []⟩ = some (parseTokens limit tokens, finish) := by
  refine ⟨reached.inBounds, reached.inBounds.countsWell, fun sources => ?_, fun tokens => ?_⟩
  · obtain ⟨finish, ran, -⟩ := parseAll_run reached.inBounds.alone sources
    exact ⟨finish, ran⟩
  · obtain ⟨finish, ran, -⟩ := parse_run (unused_inBounds limit).alone tokens
    exact ⟨finish, ran⟩

theorem reached_reads_as_unused_in_branch :
    (⟨tokenize "\x7b\x7b a ? b | f \x7d\x7d", 6, 3⟩ : TokenReader).Reached (.ofNat 4) ∧
      (⟨tokenize "\x7b\x7b a ? b | f \x7d\x7d", 6, 3⟩ : TokenReader).CountsWell (.ofNat 4) ∧
      ∃ finish, (parseAll (.ofNat 4) [tokenize "\x7b\x7b a | ", tokenize "x"]).run
          ⟨⟨tokenize "\x7b\x7b a ? b | f \x7d\x7d", 6, 3⟩, []⟩ =
        some ([.error ⟨.expected .identifier, ⟨4, "4"⟩, ⟨.endOfInput, "", ⟨6, 1, 7⟩⟩⟩, .ok [.text "x"]], finish) := by
  have been : ((parseAll (.ofNat 4) [tokenize "\x7b\x7b a ? b | f \x7d\x7d"]).run ⟨unused, []⟩).any (fun ended =>
      (ended.2.now :: ended.2.before).elem ⟨tokenize "\x7b\x7b a ? b | f \x7d\x7d", 6, 3⟩) = true := by
    cbv
  have outcomes : [tokenize "\x7b\x7b a | ", tokenize "x"].map (parseTokens (.ofNat 4)) =
      [.error ⟨.expected .identifier, ⟨4, "4"⟩, ⟨.endOfInput, "", ⟨6, 1, 7⟩⟩⟩, .ok [.text "x"]] := by
    cbv
  obtain ⟨ended, ran, been⟩ := (Option.any_eq_true _ _).mp been
  have reached : Reached (.ofNat 4) _ := ⟨_, ended, ran, List.elem_iff.mp been⟩
  obtain ⟨-, counts, reads, -⟩ := reached_reads_as_unused reached
  exact ⟨reached, counts, outcomes ▸ reads _⟩

end TokenReader

end TextTemplate
