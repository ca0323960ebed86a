import TextTemplate.Proofs.Faults
import TextTemplate.Proofs.Placeless

/-!
Faults are found at the first token that no template has there. What a reader does depends on the tokens that it
takes and on the one after them, so a fault stays whatever comes later. What was read before the fault can be
completed, within the same levels: every phrase that has begun needs only a name, or a colon and a name, before it
may end.
-/

namespace TextTemplate.Parsing

variable {α β ι κ : Type}

def Closes (rest : List Token) : Prop :=
  ∃ token more, rest = token :: more ∧ (token.kind = .colon ∨ token.kind = .closeTemplate)

/-- What may stand in the place of the rest that a reader leaves. -/
def CanFollow (other rest : List Token) : Prop :=
  other.head? = rest.head? ∨ Closes other

def NotNext (kind : TokenKind) (tokens : List Token) : Prop :=
  ∀ token, tokens.head? = some token → token.kind ≠ kind

/-- Whatever can follow in the place of `rest`, these tokens are read to the same result. -/
def Reads (read : List Token → Except Fault α) (result : List Token → α) (consumed rest : List Token) : Prop :=
  ∀ other, CanFollow other rest → read (consumed ++ other) = .ok (result other)

def filler (kind : TokenKind) : Token :=
  ⟨kind, "", Mark.start⟩

def Endless (tokens : List Token) : Prop :=
  ∀ token ∈ tokens, token.kind ≠ .endOfInput

def Completes (added : List Token) : Prop :=
  added = [] ∨ added = [filler .colon, filler .identifier]

/-- After these tokens a reader fails with `fault`: with any other rest that begins alike and, if it is too deep,
with any rest at all. Otherwise there are tokens that complete what it has read. -/
structure Blames (read : List Token → Except Fault α) (shape : ι → List Token → α) (consumed : List Token)
    (fault : Fault) : Prop where
  stays (other : List Token) : fault.cause = .tooDeep ∨ other.head? = fault.rest.head? →
    read (consumed ++ other) = .error ⟨fault.cause, other⟩
  completes : fault.cause ≠ .tooDeep →
    ∃ more result, Endless more ∧ ∀ other, Closes other →
      read (consumed ++ (more ++ other)) = .ok (shape result other)

theorem Endless.append {tokens more : List Token} (endless : Endless tokens) (moreEndless : Endless more) :
    Endless (tokens ++ more) := by
  intro token member
  rcases List.mem_append.mp member with first | later
  · exact endless token first
  · exact moreEndless token later

theorem endless_nil : Endless [] := by
  simp [Endless]

theorem endless_filler {kind : TokenKind} (real : kind ≠ .endOfInput) : Endless [filler kind] := by
  simpa [Endless, filler] using real

theorem Completes.endless {added : List Token} (completes : Completes added) : Endless added := by
  rcases completes with rfl | rfl <;> simp [Endless, filler]

theorem Closes.after {added other : List Token} (closes : Closes other) (completes : Completes added) :
    Closes (added ++ other) := by
  rcases completes with rfl | rfl
  · exact closes
  · exact ⟨filler .colon, filler .identifier :: other, rfl, Or.inl rfl⟩

theorem CanFollow.append {other rest : List Token} (follows : CanFollow other rest) (consumed : List Token) :
    CanFollow (consumed ++ other) (consumed ++ rest) := by
  cases consumed with
  | nil => exact follows
  | cons token more => exact Or.inl rfl

theorem Closes.notNext {kind : TokenKind} {other : List Token} (closes : Closes other)
    (notColon : kind ≠ .colon) (notClose : kind ≠ .closeTemplate) : NotNext kind other := by
  obtain ⟨token, more, rfl, ends⟩ := closes
  rintro first ⟨⟩ rfl
  exact ends.elim notColon notClose

theorem CanFollow.notNext {kind : TokenKind} {other rest : List Token} (follows : CanFollow other rest)
    (notNext : NotNext kind rest) (notColon : kind ≠ .colon) (notClose : kind ≠ .closeTemplate) :
    NotNext kind other := by
  rcases follows with same | closes
  · intro token first
    exact notNext token (same ▸ first)
  · exact closes.notNext notColon notClose

theorem notNext_nil (kind : TokenKind) : NotNext kind [] :=
  fun _ first => nomatch first

theorem notNext_cons {kind : TokenKind} {token : Token} (other : token.kind ≠ kind) (rest : List Token) :
    NotNext kind (token :: rest) := by
  rintro first ⟨⟩
  exact other

theorem CanFollow.of_nil {other : List Token} (follows : CanFollow other []) : other = [] ∨ Closes other :=
  follows.imp_left List.head?_eq_none_iff.mp

theorem CanFollow.of_cons {other rest : List Token} {token : Token} (follows : CanFollow other (token :: rest)) :
    (∃ more, other = token :: more) ∨ Closes other :=
  follows.imp_left fun same => List.head?_eq_some_iff.mp same

namespace Blames

variable {first read read' : List Token → Except Fault α} {shape : ι → List Token → α} {result : List Token → α}
  {next : α → Except Fault β} {shape' : κ → List Token → β} {consumed more : List Token} {fault : Fault}
  {token : Token}

theorem cons (same : ∀ other, read (token :: other) = read' other) (blames : Blames read' shape consumed fault) :
    Blames read shape (token :: consumed) fault := by
  constructor
  · intro other alike
    rw [List.cons_append, same]
    exact blames.stays other alike
  · intro shallow
    obtain ⟨added, value, endless, completed⟩ := blames.completes shallow
    refine ⟨added, value, endless, fun other closes => ?_⟩
    rw [List.cons_append, same]
    exact completed other closes

theorem bind_first (blames : Blames first shape consumed fault)
    (ends : fault.cause ≠ .tooDeep → ∀ value, ∃ added value', Completes added ∧
      ∀ other, Closes other → next (shape value (added ++ other)) = .ok (shape' value' other)) :
    Blames (fun tokens => first tokens >>= next) shape' consumed fault := by
  constructor
  · intro other alike
    rw [blames.stays other alike]
    rfl
  · intro shallow
    obtain ⟨added, value, endless, completed⟩ := blames.completes shallow
    obtain ⟨added', value', completes, ended⟩ := ends shallow value
    refine ⟨added ++ added', value', endless.append completes.endless, fun other closes => ?_⟩
    rw [List.append_assoc, completed _ (closes.after completes), Grammar.ok_bind]
    exact ended other closes

theorem bind_next {rest : List Token} (reads : Reads first result consumed (token :: rest))
    (blames : Blames (fun tokens => next (result tokens)) shape' (token :: more) fault) :
    Blames (fun tokens => first tokens >>= next) shape' (consumed ++ token :: more) fault := by
  have passes : ∀ other, first (consumed ++ token :: other) = .ok (result (token :: other)) :=
    fun other => reads _ (Or.inl rfl)
  constructor
  · intro other alike
    rw [List.append_assoc, List.cons_append, passes]
    exact blames.stays other alike
  · intro shallow
    obtain ⟨added, value, endless, completed⟩ := blames.completes shallow
    refine ⟨added, value, endless, fun other closes => ?_⟩
    rw [List.append_assoc, List.cons_append, passes]
    exact completed other closes

theorem bind_here {added : List Token} {value : κ} (reads : Reads first result consumed fault.rest)
    (shallow : fault.cause ≠ .tooDeep)
    (fails : ∀ other, other.head? = fault.rest.head? → next (result other) = .error ⟨fault.cause, other⟩)
    (completes : Completes added)
    (ended : ∀ other, Closes other → next (result (added ++ other)) = .ok (shape' value other)) :
    Blames (fun tokens => first tokens >>= next) shape' consumed fault := by
  constructor
  · intro other alike
    have same := alike.resolve_left shallow
    rw [reads other (Or.inl same)]
    exact fails other same
  · intro _
    refine ⟨added, value, completes.endless, fun other closes => ?_⟩
    rw [reads _ (Or.inr (closes.after completes))]
    exact ended other closes

end Blames

/-! Primaries, names and arguments. -/

theorem expect_fails {kind : TokenKind} {tokens other : List Token} {fault : Fault}
    (failed : expect kind tokens = .error fault) (alike : other.head? = fault.rest.head?) :
    fault.rest = tokens ∧ fault.cause = .expected kind ∧ expect kind other = .error ⟨fault.cause, other⟩ := by
  cases tokens with
  | nil =>
      cases failed
      obtain rfl := List.head?_eq_none_iff.mp alike
      exact ⟨rfl, rfl, rfl⟩
  | cons token rest =>
      simp only [expect] at failed
      split at failed
      · cases failed
      · rename_i notKind
        cases failed
        obtain ⟨more, rfl⟩ := List.head?_eq_some_iff.mp alike
        exact ⟨rfl, rfl, by simp only [expect, notKind, if_false]⟩

theorem expect_blames {kind : TokenKind} {tokens : List Token} {fault : Fault} (real : kind ≠ .endOfInput)
    (failed : expect kind tokens = .error fault) :
    tokens = fault.rest ∧ Blames (expect kind) Prod.mk [] fault := by
  obtain ⟨stopped, cause, -⟩ := expect_fails failed rfl
  refine ⟨stopped.symm, ?_, ?_⟩
  · intro other alike
    exact (expect_fails failed (alike.resolve_left (by simp [cause]))).2.2
  · intro _
    refine ⟨[filler kind], filler kind, endless_filler real, fun other _ => ?_⟩
    exact Grammar.expect_eq_ok_iff.mpr ⟨rfl, rfl⟩

theorem primary_blames {tokens : List Token} {fault : Fault} (failed : primary tokens = .error fault) :
    tokens = fault.rest ∧ Blames primary Prod.mk [] fault := by
  have completed : ∃ more node, Endless more ∧ ∀ other, Closes other →
      primary ([] ++ (more ++ other)) = .ok (node, other) :=
    ⟨[filler .identifier], .var "", endless_filler (by simp), fun other _ => rfl⟩
  cases tokens with
  | nil =>
      cases failed
      refine ⟨rfl, ?_, fun _ => completed⟩
      intro other alike
      obtain rfl := List.head?_eq_none_iff.mp (alike.resolve_left (by simp))
      rfl
  | cons token rest =>
      simp only [primary] at failed
      split at failed
      · cases failed
      · rename_i unknown
        cases failed
        refine ⟨rfl, ?_, fun _ => completed⟩
        intro other alike
        obtain ⟨more, rfl⟩ := List.head?_eq_some_iff.mp (alike.resolve_left (by simp))
        simp only [List.nil_append, primary, unknown]

theorem arguments_closes {other : List Token} (closes : Closes other) : arguments other = .ok ([], other) := by
  obtain ⟨token, more, rfl, ends⟩ := closes
  have known : endsArguments token.kind = true := by
    rcases ends with ends | ends <;> rw [ends] <;> rfl
  simp only [arguments, Grammar.primaryNode_eq_none known, known, if_true]

theorem arguments_reads {tokens rest : List Token} {nodes : List Node}
    (found : arguments tokens = .ok (nodes, rest)) :
    ∃ consumed, tokens = consumed ++ rest ∧ Reads arguments (Prod.mk nodes) consumed rest := by
  induction tokens generalizing nodes rest with
  | nil =>
      cases found
      refine ⟨[], rfl, fun other follows => ?_⟩
      rcases follows.of_nil with rfl | closes
      · rfl
      · exact arguments_closes closes
  | cons token others ih =>
      simp only [arguments] at found
      split at found
      · rename_i known
        obtain ⟨⟨more, tail⟩, read, kept⟩ := bind_eq_ok.mp found
        cases kept
        obtain ⟨consumed, rfl, reads⟩ := ih read
        refine ⟨token :: consumed, rfl, fun other follows => ?_⟩
        simp only [List.cons_append, arguments, known, reads other follows]
        rfl
      · rename_i unknown
        split at found
        · rename_i ends
          cases found
          refine ⟨[], rfl, fun other follows => ?_⟩
          rcases follows.of_cons with ⟨more, rfl⟩ | closes
          · simp only [List.nil_append, arguments, unknown, ends, if_true]
          · exact arguments_closes closes
        · cases found

theorem arguments_blames {tokens : List Token} {fault : Fault} (failed : arguments tokens = .error fault) :
    ∃ consumed, tokens = consumed ++ fault.rest ∧ Blames arguments Prod.mk consumed fault := by
  induction tokens with
  | nil => cases failed
  | cons token rest ih =>
      simp only [arguments] at failed
      split at failed
      · rename_i node known
        have unfolded : ∀ other, arguments (token :: other) =
            arguments other >>= fun args => .ok (node :: args.1, args.2) := by
          intro other
          simp only [arguments, known]
          rfl
        rcases bind_eq_error.mp failed with later | ⟨_, _, kept⟩
        · obtain ⟨consumed, rfl, blames⟩ := ih later
          refine ⟨token :: consumed, rfl, Blames.cons unfolded (blames.bind_first fun _ args => ?_)⟩
          exact ⟨[], node :: args, Or.inl rfl, fun other _ => rfl⟩
        · cases kept
      · rename_i unknown
        split at failed
        · cases failed
        · rename_i notEnding
          cases failed
          refine ⟨[], rfl, ?_, fun _ => ⟨[], [], endless_nil, fun other => arguments_closes⟩⟩
          intro other alike
          obtain ⟨more, rfl⟩ := List.head?_eq_some_iff.mp (alike.resolve_left (by simp))
          simp only [List.nil_append, arguments, unknown, notEnding]
          rfl

/-! Pipelines. -/

abbrev withBudget (read : Node × Nat) (rest : List Token) : Node × Nat × List Token :=
  (read.1, read.2, rest)

theorem pipeLinks_other (budget : Nat) (left : Node) {tokens : List Token} (notPipe : NotNext .pipe tokens) :
    pipeLinks budget left tokens = .ok (left, budget, tokens) := by
  cases tokens with
  | nil => cases budget <;> rfl
  | cons token rest =>
      have other := notPipe token rfl
      cases budget <;> simp [pipeLinks, other]

theorem pipeLinks_closes (budget : Nat) (left : Node) {other : List Token} (closes : Closes other) :
    pipeLinks budget left other = .ok (left, budget, other) :=
  pipeLinks_other budget left (closes.notNext (by simp) (by simp))

theorem pipeLinks_reads {budget remaining : Nat} {left node : Node} {tokens rest : List Token}
    (found : pipeLinks budget left tokens = .ok (node, remaining, rest)) :
    ∃ consumed, tokens = consumed ++ rest ∧
      Reads (pipeLinks budget left) (withBudget (node, remaining)) consumed rest := by
  fun_induction pipeLinks budget left tokens with
  | case1 budget left =>
      cases found
      refine ⟨[], rfl, fun other follows => ?_⟩
      exact pipeLinks_other _ _ (follows.notNext (notNext_nil _) (by simp) (by simp))
  | case2 left token others isPipe => cases found
  | case3 left token others isPipe budget ih =>
      obtain ⟨⟨name, afterName⟩, named, foundArgs⟩ := bind_eq_ok.mp found
      obtain ⟨⟨args, tail⟩, given, foundLinks⟩ := bind_eq_ok.mp foundArgs
      obtain ⟨consumed, rfl, reads⟩ := ih _ _ _ foundLinks
      obtain ⟨rfl, isName⟩ := Grammar.expect_eq_ok_iff.mp named
      obtain ⟨argTokens, rfl, readsArgs⟩ := arguments_reads given
      refine ⟨token :: name :: argTokens ++ consumed, by simp, fun other follows => ?_⟩
      rw [List.append_assoc, List.cons_append, List.cons_append,
        Grammar.pipeLinks_step isPipe isName (readsArgs _ (follows.append consumed))]
      exact reads other follows
  | case4 budget left token others notPipe =>
      cases found
      refine ⟨[], rfl, fun other follows => ?_⟩
      exact pipeLinks_other _ _ (follows.notNext (notNext_cons notPipe _) (by simp) (by simp))

theorem pipeLinks_blames {budget : Nat} {left : Node} {tokens : List Token} {fault : Fault}
    (failed : pipeLinks budget left tokens = .error fault) :
    ∃ token consumed, tokens = token :: (consumed ++ fault.rest) ∧
      Blames (pipeLinks budget left) withBudget (token :: consumed) fault := by
  fun_induction pipeLinks budget left tokens with
  | case1 budget left => cases failed
  | case2 left token rest isPipe =>
      cases failed
      refine ⟨token, [], rfl, ?_, fun shallow => absurd rfl shallow⟩
      intro other _
      simp [pipeLinks, isPipe]
  | case3 left token rest isPipe budget ih =>
      have unfolded : ∀ other, pipeLinks (budget + 1) left (token :: other) =
          expect .identifier other >>= fun name => arguments name.2 >>= fun args =>
            pipeLinks budget (.pipe left name.1.value args.1) args.2 := by
        intro other
        rw [pipeLinks, if_pos isPipe]
      rcases bind_eq_error.mp failed with noName | ⟨⟨name, afterName⟩, named, failedArgs⟩
      · obtain ⟨rfl, blames⟩ := expect_blames (by simp) noName
        refine ⟨token, [], rfl, Blames.cons unfolded (blames.bind_first fun _ name => ?_)⟩
        refine ⟨[], (.pipe left name.value [], budget), Or.inl rfl, fun other closes => ?_⟩
        rw [List.nil_append, arguments_closes closes, Grammar.ok_bind]
        exact pipeLinks_closes budget _ closes
      obtain ⟨rfl, isName⟩ := Grammar.expect_eq_ok_iff.mp named
      have passed : ∀ other, (expect .identifier (name :: other) >>= fun name => arguments name.2 >>= fun args =>
          pipeLinks budget (.pipe left name.1.value args.1) args.2) =
            arguments other >>= fun args => pipeLinks budget (.pipe left name.value args.1) args.2 := by
        intro other
        rw [Grammar.expect_eq_ok_iff.mpr ⟨rfl, isName⟩, Grammar.ok_bind]
      rcases bind_eq_error.mp failedArgs with wrong | ⟨⟨args, tail⟩, given, failedLinks⟩
      · obtain ⟨consumed, same, blames⟩ := arguments_blames wrong
        refine ⟨token, name :: consumed, by rw [same]; rfl, Blames.cons unfolded (Blames.cons passed ?_)⟩
        refine blames.bind_first fun _ args => ⟨[], (.pipe left name.value args, budget), Or.inl rfl, ?_⟩
        exact fun other closes => pipeLinks_closes budget _ closes
      · obtain ⟨next, more, rfl, blames⟩ := ih _ _ _ failedLinks
        obtain ⟨consumed, rfl, reads⟩ := arguments_reads given
        refine ⟨token, name :: (consumed ++ next :: more), by simp, Blames.cons unfolded (Blames.cons passed ?_)⟩
        exact Blames.bind_next reads blames
  | case4 budget left token rest notPipe => cases failed

theorem pipeline_reads {budget remaining : Nat} {tokens rest : List Token} {node : Node}
    (found : pipeline budget tokens = .ok (node, remaining, rest)) :
    ∃ consumed, tokens = consumed ++ rest ∧
      Reads (pipeline budget) (withBudget (node, remaining)) consumed rest := by
  obtain ⟨⟨left, tail⟩, read, foundLinks⟩ := bind_eq_ok.mp found
  obtain ⟨token, rfl, first⟩ := Grammar.primary_eq_ok_iff.mp read
  obtain ⟨consumed, rfl, reads⟩ := pipeLinks_reads foundLinks
  refine ⟨token :: consumed, rfl, fun other follows => ?_⟩
  rw [pipeline, List.cons_append, Grammar.primary_eq_ok_iff.mpr ⟨token, rfl, first⟩, Grammar.ok_bind]
  exact reads other follows

theorem pipeline_blames {budget : Nat} {tokens : List Token} {fault : Fault}
    (failed : pipeline budget tokens = .error fault) :
    ∃ consumed, tokens = consumed ++ fault.rest ∧ Blames (pipeline budget) withBudget consumed fault := by
  rcases bind_eq_error.mp failed with wrong | ⟨⟨left, rest⟩, read, failedLinks⟩
  · obtain ⟨rfl, blames⟩ := primary_blames wrong
    refine ⟨[], rfl, blames.bind_first fun _ node => ⟨[], (node, budget), Or.inl rfl, ?_⟩⟩
    exact fun other closes => pipeLinks_closes budget node closes
  · obtain ⟨token, rfl, first⟩ := Grammar.primary_eq_ok_iff.mp read
    obtain ⟨next, more, rfl, blames⟩ := pipeLinks_blames failedLinks
    refine ⟨token :: next :: more, rfl, Blames.cons (fun other => ?_) blames⟩
    rw [pipeline, Grammar.primary_eq_ok_iff.mpr ⟨token, rfl, first⟩, Grammar.ok_bind]

/-! Chains of `or`. -/

theorem orLinks_other (budget : Nat) (left : Node) {tokens : List Token} (notOr : NotNext .or tokens) :
    orLinks budget left tokens = .ok (left, tokens) := by
  cases tokens with
  | nil => cases budget <;> rfl
  | cons token rest =>
      have other := notOr token rfl
      cases budget <;> simp [orLinks, other]

theorem orLinks_closes (budget : Nat) (left : Node) {other : List Token} (closes : Closes other) :
    orLinks budget left other = .ok (left, other) :=
  orLinks_other budget left (closes.notNext (by simp) (by simp))

theorem orLinks_reads {budget : Nat} {left node : Node} {tokens rest : List Token}
    (found : orLinks budget left tokens = .ok (node, rest)) :
    ∃ consumed, tokens = consumed ++ rest ∧ Reads (orLinks budget left) (Prod.mk node) consumed rest := by
  fun_induction orLinks budget left tokens with
  | case1 budget left =>
      cases found
      refine ⟨[], rfl, fun other follows => ?_⟩
      exact orLinks_other _ _ (follows.notNext (notNext_nil _) (by simp) (by simp))
  | case2 left token others isOr => cases found
  | case3 left token others isOr budget ih =>
      obtain ⟨⟨right, remaining, tail⟩, operand, foundLinks⟩ := bind_eq_ok.mp found
      obtain ⟨consumed, rfl, reads⟩ := ih _ _ foundLinks
      obtain ⟨first, rfl, readsFirst⟩ := pipeline_reads operand
      refine ⟨token :: first ++ consumed, by simp, fun other follows => ?_⟩
      rw [List.append_assoc, List.cons_append,
        Grammar.orLinks_step isOr (readsFirst _ (follows.append consumed))]
      exact reads other follows
  | case4 budget left token others notOr =>
      cases found
      refine ⟨[], rfl, fun other follows => ?_⟩
      exact orLinks_other _ _ (follows.notNext (notNext_cons notOr _) (by simp) (by simp))

theorem orLinks_blames {budget : Nat} {left : Node} {tokens : List Token} {fault : Fault}
    (failed : orLinks budget left tokens = .error fault) :
    ∃ token consumed, tokens = token :: (consumed ++ fault.rest) ∧
      Blames (orLinks budget left) Prod.mk (token :: consumed) fault := by
  fun_induction orLinks budget left tokens with
  | case1 budget left => cases failed
  | case2 left token rest isOr =>
      cases failed
      refine ⟨token, [], rfl, ?_, fun shallow => absurd rfl shallow⟩
      intro other _
      simp [orLinks, isOr]
  | case3 left token rest isOr budget ih =>
      have unfolded : ∀ other, orLinks (budget + 1) left (token :: other) =
          pipeline budget other >>= fun right => orLinks budget (.or left right.1) right.2.2 := by
        intro other
        rw [orLinks, if_pos isOr]
      rcases bind_eq_error.mp failed with wrong | ⟨⟨right, remaining, tail⟩, operand, failedLinks⟩
      · obtain ⟨consumed, rfl, blames⟩ := pipeline_blames wrong
        refine ⟨token, consumed, rfl, Blames.cons unfolded (blames.bind_first fun _ right => ?_)⟩
        exact ⟨[], .or left right.1, Or.inl rfl, fun other closes => orLinks_closes budget _ closes⟩
      · obtain ⟨next, more, rfl, blames⟩ := ih _ _ failedLinks
        obtain ⟨consumed, rfl, reads⟩ := pipeline_reads operand
        refine ⟨token, consumed ++ next :: more, by simp, Blames.cons unfolded ?_⟩
        exact Blames.bind_next reads blames
  | case4 budget left token rest notOr => cases failed

theorem orChain_reads {budget : Nat} {tokens rest : List Token} {node : Node}
    (found : orChain budget tokens = .ok (node, rest)) :
    ∃ consumed, tokens = consumed ++ rest ∧ Reads (orChain budget) (Prod.mk node) consumed rest := by
  obtain ⟨⟨left, remaining, tail⟩, read, foundLinks⟩ := bind_eq_ok.mp found
  obtain ⟨consumed, rfl, reads⟩ := orLinks_reads foundLinks
  obtain ⟨first, rfl, readsFirst⟩ := pipeline_reads read
  refine ⟨first ++ consumed, by simp, fun other follows => ?_⟩
  rw [orChain, List.append_assoc, readsFirst _ (follows.append consumed), Grammar.ok_bind]
  exact reads other follows

theorem orChain_blames {budget : Nat} {tokens : List Token} {fault : Fault}
    (failed : orChain budget tokens = .error fault) :
    ∃ consumed, tokens = consumed ++ fault.rest ∧ Blames (orChain budget) Prod.mk consumed fault := by
  rcases bind_eq_error.mp failed with wrong | ⟨⟨left, remaining, rest⟩, read, failedLinks⟩
  · obtain ⟨consumed, rfl, blames⟩ := pipeline_blames wrong
    refine ⟨consumed, rfl, blames.bind_first fun _ left => ⟨[], left.1, Or.inl rfl, ?_⟩⟩
    exact fun other closes => orLinks_closes _ _ closes
  · obtain ⟨next, more, rfl, blames⟩ := orLinks_blames failedLinks
    obtain ⟨consumed, rfl, reads⟩ := pipeline_reads read
    exact ⟨consumed ++ next :: more, by simp, Blames.bind_next reads blames⟩

/-! Expressions. -/

def falseBranch (budget : Nat) (condition whenTrue : Node) (tokens : List Token) :
    Except Fault (Node × List Token) :=
  expect .colon tokens >>= fun mark => expression budget mark.2 >>= fun whenFalse =>
    .ok (.ternary condition whenTrue whenFalse.1, whenFalse.2)

def branches (budget : Nat) (condition : Node) : List Token → Except Fault (Node × List Token)
  | [] => .ok (condition, [])
  | token :: rest =>
    if token.kind = .question then
      expression budget rest >>= fun whenTrue => falseBranch budget condition whenTrue.1 whenTrue.2
    else .ok (condition, token :: rest)

theorem expression_succ (budget : Nat) (tokens : List Token) :
    expression (budget + 1) tokens = orChain budget tokens >>= fun read => branches budget read.1 read.2 := by
  rw [expression]
  refine congrArg _ (funext fun read => ?_)
  obtain ⟨condition, rest⟩ := read
  cases rest <;> rfl

theorem branches_other (budget : Nat) (condition : Node) {tokens : List Token}
    (notQuestion : NotNext .question tokens) :
    branches budget condition tokens = .ok (condition, tokens) := by
  cases tokens with
  | nil => rfl
  | cons token rest => rw [branches, if_neg (notQuestion token rfl)]

theorem branches_closes (budget : Nat) (condition : Node) {other : List Token} (closes : Closes other) :
    branches budget condition other = .ok (condition, other) :=
  branches_other budget condition (closes.notNext (by simp) (by simp))

theorem falseBranch_colon {budget : Nat} {condition whenTrue : Node} {colon : Token} (isColon : colon.kind = .colon)
    (tokens : List Token) :
    falseBranch budget condition whenTrue (colon :: tokens) =
      expression budget tokens >>= fun whenFalse => .ok (.ternary condition whenTrue whenFalse.1, whenFalse.2) := by
  rw [falseBranch, Grammar.expect_eq_ok_iff.mpr ⟨rfl, isColon⟩, Grammar.ok_bind]

/-! A name is an expression, so that a branch is never missing for long. -/

theorem expression_name (budget : Nat) {other : List Token} (closes : Closes other) :
    expression (budget + 1) (filler .identifier :: other) = .ok (.var "", other) := by
  have chain : orChain budget (filler .identifier :: other) = .ok (.var "", other) := by
    have first : primary (filler .identifier :: other) = .ok (.var "", other) := rfl
    rw [orChain, pipeline, first, Grammar.ok_bind]
    dsimp only
    rw [pipeLinks_closes budget _ closes, Grammar.ok_bind]
    exact orLinks_closes budget _ closes
  rw [expression_succ, chain, Grammar.ok_bind]
  exact branches_closes budget _ closes

theorem falseBranch_name (budget : Nat) (condition whenTrue : Node) {other : List Token} (closes : Closes other) :
    falseBranch (budget + 1) condition whenTrue ([filler .colon, filler .identifier] ++ other) =
      .ok (.ternary condition whenTrue (.var ""), other) := by
  rw [List.cons_append, falseBranch_colon rfl, List.cons_append, List.nil_append, expression_name budget closes,
    Grammar.ok_bind]

theorem expression_reads {budget : Nat} {tokens rest : List Token} {node : Node}
    (found : expression budget tokens = .ok (node, rest)) :
    ∃ consumed, tokens = consumed ++ rest ∧ Reads (expression budget) (Prod.mk node) consumed rest := by
  induction budget generalizing tokens rest node with
  | zero => simp [expression] at found
  | succ budget ih =>
      rw [expression_succ] at found
      obtain ⟨⟨condition, tail⟩, read, foundBranches⟩ := bind_eq_ok.mp found
      obtain ⟨first, rfl, readsFirst⟩ := orChain_reads read
      have inBranches : ∃ consumed, tail = consumed ++ rest ∧
          Reads (branches budget condition) (Prod.mk node) consumed rest := by
        cases tail with
        | nil =>
            cases foundBranches
            refine ⟨[], rfl, fun other follows => ?_⟩
            exact branches_other _ _ (follows.notNext (notNext_nil _) (by simp) (by simp))
        | cons token others =>
            simp only [branches] at foundBranches
            split at foundBranches
            · rename_i isQuestion
              obtain ⟨⟨whenTrue, afterTrue⟩, branch, foundColon⟩ := bind_eq_ok.mp foundBranches
              obtain ⟨⟨colon, beforeFalse⟩, mark, foundFalse⟩ := bind_eq_ok.mp foundColon
              obtain ⟨⟨whenFalse, afterFalse⟩, branch', kept⟩ := bind_eq_ok.mp foundFalse
              cases kept
              obtain ⟨falseTokens, rfl, readsFalse⟩ := ih branch'
              obtain ⟨rfl, isColon⟩ := Grammar.expect_eq_ok_iff.mp mark
              obtain ⟨trueTokens, rfl, readsTrue⟩ := ih branch
              refine ⟨token :: trueTokens ++ colon :: falseTokens, by simp, fun other follows => ?_⟩
              rw [List.append_assoc, List.cons_append, List.cons_append, branches, if_pos isQuestion,
                readsTrue (colon :: (falseTokens ++ other)) (Or.inl rfl), Grammar.ok_bind]
              dsimp only
              rw [falseBranch_colon isColon, readsFalse other follows, Grammar.ok_bind]
            · rename_i notQuestion
              cases foundBranches
              refine ⟨[], rfl, fun other follows => ?_⟩
              exact branches_other _ _ (follows.notNext (notNext_cons notQuestion _) (by simp) (by simp))
      obtain ⟨consumed, rfl, reads⟩ := inBranches
      refine ⟨first ++ consumed, by simp, fun other follows => ?_⟩
      rw [expression_succ, List.append_assoc, readsFirst _ (follows.append consumed), Grammar.ok_bind]
      exact reads other follows

theorem branches_blames {budget : Nat} {condition : Node} {tokens : List Token} {fault : Fault}
    (ih : ∀ {tokens fault}, expression budget tokens = .error fault →
      ∃ consumed, tokens = consumed ++ fault.rest ∧ Blames (expression budget) Prod.mk consumed fault)
    (failed : branches budget condition tokens = .error fault) :
    ∃ token consumed, tokens = token :: (consumed ++ fault.rest) ∧
      Blames (branches budget condition) Prod.mk (token :: consumed) fault := by
  cases tokens with
  | nil => cases failed
  | cons token rest =>
      simp only [branches] at failed
      split at failed
      · rename_i isQuestion
        have unfolded : ∀ other, branches budget condition (token :: other) =
            expression budget other >>= fun whenTrue => falseBranch budget condition whenTrue.1 whenTrue.2 := by
          intro other
          rw [branches, if_pos isQuestion]
        rcases bind_eq_error.mp failed with wrong | ⟨⟨whenTrue, afterTrue⟩, branch, failedColon⟩
        · obtain ⟨consumed, rfl, blames⟩ := ih wrong
          refine ⟨token, consumed, rfl, Blames.cons unfolded (blames.bind_first fun shallow whenTrue => ?_)⟩
          -- Without a level for the branch this would be too deep; with one, a name is a second branch.
          cases budget with
          | zero =>
              have tooDeep := congrArg Fault.cause (Except.error.inj wrong)
              exact absurd tooDeep.symm shallow
          | succ budget =>
              exact ⟨_, _, Or.inr rfl, fun other => falseBranch_name budget condition whenTrue⟩
        obtain ⟨trueTokens, rfl, readsTrue⟩ := expression_reads branch
        rcases bind_eq_error.mp failedColon with noColon | ⟨⟨colon, beforeFalse⟩, mark, failedFalse⟩
        · -- The first branch ends where the colon is missing, and also before a colon.
          obtain ⟨stopped, cause, -⟩ := expect_fails noColon rfl
          dsimp only at stopped
          subst stopped
          refine ⟨token, trueTokens, rfl, Blames.cons unfolded ?_⟩
          cases budget with
          | zero => simp [expression] at branch
          | succ budget =>
              refine Blames.bind_here readsTrue (by simp [cause]) ?_ (Or.inr rfl)
                fun other => falseBranch_name budget condition whenTrue
              intro other alike
              dsimp only
              rw [falseBranch, (expect_fails noColon alike).2.2]
              rfl
        · obtain ⟨rfl, isColon⟩ := Grammar.expect_eq_ok_iff.mp mark
          rcases bind_eq_error.mp failedFalse with wrong | ⟨_, _, kept⟩
          · obtain ⟨consumed, same, blames⟩ := ih wrong
            dsimp only at same
            subst same
            refine ⟨token, trueTokens ++ colon :: consumed, by simp, Blames.cons unfolded ?_⟩
            refine Blames.bind_next readsTrue (Blames.cons (falseBranch_colon isColon) ?_)
            exact blames.bind_first fun _ whenFalse =>
              ⟨[], .ternary condition whenTrue whenFalse, Or.inl rfl, fun other _ => rfl⟩
          · cases kept
      · cases failed

theorem expression_blames {budget : Nat} {tokens : List Token} {fault : Fault}
    (failed : expression budget tokens = .error fault) :
    ∃ consumed, tokens = consumed ++ fault.rest ∧ Blames (expression budget) Prod.mk consumed fault := by
  induction budget generalizing tokens fault with
  | zero =>
      cases failed
      exact ⟨[], rfl, fun other _ => rfl, fun shallow => absurd rfl shallow⟩
  | succ budget ih =>
      have unfolded : expression (budget + 1) =
          fun tokens => orChain budget tokens >>= fun read => branches budget read.1 read.2 :=
        funext (expression_succ budget)
      rw [unfolded] at failed
      rcases bind_eq_error.mp failed with wrong | ⟨⟨condition, rest⟩, read, failedBranches⟩
      · obtain ⟨consumed, rfl, blames⟩ := orChain_blames wrong
        refine ⟨consumed, rfl, unfolded ▸ blames.bind_first fun _ condition => ?_⟩
        exact ⟨[], condition, Or.inl rfl, fun other => branches_closes budget condition⟩
      · obtain ⟨next, more, rfl, blames⟩ := branches_blames ih failedBranches
        obtain ⟨consumed, rfl, reads⟩ := orChain_reads read
        exact ⟨consumed ++ next :: more, by simp, unfolded ▸ Blames.bind_next reads blames⟩

/-! Nodes. -/

theorem parseNodes_blames {limit : Nat} {tokens : List Token} {fault : Fault}
    (failed : parseNodes limit tokens = .error fault) :
    ∃ consumed, tokens = consumed ++ fault.rest ∧
      (∀ other, fault.cause = .tooDeep ∨ other.head? = fault.rest.head? →
        parseNodes limit (consumed ++ other) = .error ⟨fault.cause, other⟩) ∧
      (fault.cause ≠ .tooDeep → ∃ more nodes, Endless more ∧ parseNodes limit (consumed ++ more) = .ok nodes) := by
  fun_induction parseNodes limit tokens with
  | case1 => cases failed
  | case2 token rest isText ih =>
      rcases bind_eq_error.mp failed with later | ⟨_, _, kept⟩
      · obtain ⟨consumed, rfl, stays, completes⟩ := ih later
        refine ⟨token :: consumed, rfl, ?_, ?_⟩
        · intro other alike
          rw [List.cons_append, Grammar.parseNodes_text _ isText, stays other alike]
          rfl
        · intro shallow
          obtain ⟨more, nodes, endless, completed⟩ := completes shallow
          refine ⟨more, .text token.value :: nodes, endless, ?_⟩
          rw [List.cons_append, Grammar.parseNodes_text _ isText, completed]
          rfl
      · cases kept
  | case3 token rest notText isOpen fault' wrong =>
      cases failed
      obtain ⟨consumed, rfl, blames⟩ := expression_blames wrong
      refine ⟨token :: consumed, rfl, ?_, ?_⟩
      · intro other alike
        exact parseNodes_failed isOpen (blames.stays other alike)
      · intro shallow
        obtain ⟨more, node, endless, completed⟩ := blames.completes shallow
        have closed := completed [filler .closeTemplate] ⟨_, [], rfl, Or.inr rfl⟩
        refine ⟨more ++ [filler .closeTemplate], [.template node], endless.append (endless_filler (by simp)), ?_⟩
        rw [List.cons_append, Grammar.parseNodes_block isOpen closed rfl, parseNodes]
        rfl
  | case4 token rest notText isOpen node afterNode read fault' noClose =>
      cases failed
      obtain ⟨stopped, cause, -⟩ := expect_fails noClose rfl
      subst stopped
      obtain ⟨consumed, rfl, reads⟩ := expression_reads read
      refine ⟨token :: consumed, rfl, ?_, ?_⟩
      · intro other alike
        have same := alike.resolve_left (by simp [cause])
        exact parseNodes_unclosed isOpen (reads other (Or.inl same)) (expect_fails noClose same).2.2
      · intro _
        have closed := reads [filler .closeTemplate] (Or.inr ⟨_, [], rfl, Or.inr rfl⟩)
        refine ⟨[filler .closeTemplate], [.template node], endless_filler (by simp), ?_⟩
        rw [List.cons_append, Grammar.parseNodes_block isOpen closed rfl, parseNodes]
        rfl
  | case5 token rest notText isOpen node afterNode read close tail closed ih =>
      rcases bind_eq_error.mp failed with later | ⟨_, _, kept⟩
      · obtain ⟨consumed, rfl, stays, completes⟩ := ih later
        obtain ⟨rfl, isClose⟩ := Grammar.expect_eq_ok_iff.mp closed
        obtain ⟨inside, rfl, reads⟩ := expression_reads read
        have block : ∀ other, parseNodes limit (token :: inside ++ close :: consumed ++ other) =
            parseNodes limit (consumed ++ other) >>= fun nodes => .ok (.template node :: nodes) := by
          intro other
          have read' := reads (close :: (consumed ++ other)) (Or.inl rfl)
          rw [List.append_assoc, List.cons_append, List.cons_append,
            Grammar.parseNodes_block isOpen read' isClose]
          rfl
        refine ⟨token :: inside ++ close :: consumed, by simp, ?_, ?_⟩
        · intro other alike
          rw [block, stays other alike]
          rfl
        · intro shallow
          obtain ⟨more, nodes, endless, completed⟩ := completes shallow
          exact ⟨more, .template node :: nodes, endless, by rw [block, completed, Grammar.ok_bind]⟩
      · cases kept
  | case6 token rest notText notOpen ih =>
      obtain ⟨consumed, rfl, stays, completes⟩ := ih failed
      refine ⟨token :: consumed, rfl, ?_, ?_⟩
      · intro other alike
        rw [List.cons_append, Grammar.parseNodes_stray _ notText notOpen]
        exact stays other alike
      · intro shallow
        obtain ⟨more, nodes, endless, completed⟩ := completes shallow
        refine ⟨more, nodes, endless, ?_⟩
        rw [List.cons_append, Grammar.parseNodes_stray _ notText notOpen]
        exact completed

end TextTemplate.Parsing

namespace TextTemplate

theorem parseTokens_eq_error_iff {limit : DepthLimit} {tokens : List Token} {error : ParseError} :
    parseTokens limit tokens = .error error ↔
      ∃ fault, Parsing.parseNodes limit.levels tokens = .error fault ∧ fault.toError limit tokens = error := by
  rw [parseTokens]
  cases Parsing.parseNodes limit.levels tokens <;> simp [Except.mapError]

theorem parseTokens_ne_ok {limit : DepthLimit} {tokens : List Token} {fault : Fault}
    (failed : Parsing.parseNodes limit.levels tokens = .error fault) (nodes : List Node) :
    parseTokens limit tokens ≠ .ok nodes := by
  simp [parseTokens, failed, Except.mapError]

/-- A fault is reported at the first token with which the tokens do not begin a template any more. Too many levels
are reported at the token after that. -/
theorem error_earliest (limit : DepthLimit) (tokens : List Token) (error : ParseError)
    (failed : parseTokens limit tokens = .error error) :
    ∃ index ≤ tokens.length,
      Parsing.parseNodes limit.levels tokens = .error ⟨error.cause, tokens.drop index⟩ ∧
      error.token = tokens[index]?.getD (endToken tokens) ∧
      (error.cause ≠ .tooDeep →
        (∃ more nodes, Parsing.Endless more ∧ parseTokens limit (tokens.take index ++ more) = .ok nodes) ∧
        (index < tokens.length →
          ∀ more nodes, parseTokens limit (tokens.take (index + 1) ++ more) ≠ .ok nodes)) ∧
      (error.cause = .tooDeep → ∀ more nodes, parseTokens limit (tokens.take index ++ more) ≠ .ok nodes) := by
  obtain ⟨⟨cause, rest⟩, stopped, rfl⟩ := parseTokens_eq_error_iff.mp failed
  obtain ⟨consumed, split, stays, completes⟩ := Parsing.parseNodes_blames stopped
  dsimp only at split stays completes
  subst split
  refine ⟨consumed.length, by simp, ?_, ?_, ?_, ?_⟩
  · rw [List.drop_left]
    exact stopped
  · rw [List.getElem?_append_right le_rfl, Nat.sub_self, ← List.head?_eq_getElem?, ← List.headD_eq_head?_getD]
    rfl
  · intro shallow
    constructor
    · obtain ⟨more, nodes, endless, completed⟩ := completes shallow
      rw [List.take_left]
      exact ⟨more, nodes, endless, by rw [parseTokens, completed]; rfl⟩
    · intro inside more nodes
      cases rest with
      | nil => simp at inside
      | cons token later =>
          have taken : (consumed ++ token :: later).take (consumed.length + 1) ++ more =
              consumed ++ token :: more := by
            simp [List.take_append]
          rw [taken]
          exact parseTokens_ne_ok (stays (token :: more) (Or.inr rfl)) nodes
  · intro tooDeep more nodes
    rw [List.take_left]
    exact parseTokens_ne_ok (stays more (Or.inl tooDeep)) nodes

theorem error_earliest_colon :
    let tokens := tokenize "\x7b\x7b a ? b \x7d\x7d"
    let limit := DepthLimit.ofNat 2
    parseTokens limit tokens = .error ⟨.expected .colon, limit, .closeTemplate, "\x7d\x7d", ⟨9, 1, 10⟩⟩ ∧
      (∃ more nodes, Parsing.Endless more ∧ parseTokens limit (tokens.take 4 ++ more) = .ok nodes) ∧
      ∀ more nodes, parseTokens limit (tokens.take 5 ++ more) ≠ .ok nodes := by
  intro tokens limit
  have failed : parseTokens (DepthLimit.ofNat 2) (tokenize "\x7b\x7b a ? b \x7d\x7d") =
      .error ⟨.expected .colon, DepthLimit.ofNat 2, .closeTemplate, "\x7d\x7d", ⟨9, 1, 10⟩⟩ := by cbv
  have left : Parsing.parseNodes 2 (tokenize "\x7b\x7b a ? b \x7d\x7d") =
      .error ⟨.expected .colon, [⟨.closeTemplate, "\x7d\x7d", ⟨9, 1, 10⟩⟩]⟩ := by cbv
  have count : (tokenize "\x7b\x7b a ? b \x7d\x7d").length = 5 := by cbv
  obtain ⟨index, within, stopped, -, shallow, -⟩ := error_earliest limit tokens _ failed
  obtain ⟨completes, stays⟩ := shallow (by simp)
  have single : (tokens.drop index).length = 1 := by
    have same := stopped.symm.trans left
    simp only [Except.error.injEq, Fault.mk.injEq] at same
    rw [same.2, List.length_singleton]
  rw [List.length_drop, count] at single
  obtain rfl : index = 4 := by omega
  exact ⟨failed, completes, stays (Nat.lt_of_lt_of_eq (by decide) count.symm)⟩

end TextTemplate
