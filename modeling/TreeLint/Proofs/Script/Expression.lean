import TreeLint.Proofs.Script.Type
import TreeLint.Script.Expression

/-! # Functions, classes and expressions -/

namespace TreeLint.Script.Parser

variable {s : Stream} {n m j : Nat} {g : Grammar} (sound : g.Sound s n) {c₀ : Cursor}

include sound

/-! ## Functions -/

theorem blockStatement_yields : Yields s (n + 1) (blockStatement g) := by
  unfold blockStatement
  refine fun c₀ => .opening .expectFirst ?_
  refine (block_moves (fun id => [id]) sound.statement Problem.noConfusion).flat.andThen
    (by omega) fun body => ?_
  exact .node (by simp) (by omega)

omit sound in
theorem maybeNamed {b : Bool} {α : Type} {f : Ref → Parser α} {Q : α → Cursor → Prop}
    (rest : ∀ r : Ref, Runs (Row s n c₀ m r.toList) (f r) Q) :
    Runs (Row s n c₀ m [])
      (if b = true then some <$> identifier >>= f else pure none >>= f) Q := by
  refine .optional (R := fun r : Ref => Row s n c₀ m r.toList) (fun _ => ?_) (fun _ _ row => row)
    rest
  exact identifier_yields.goesOn.post fun _ _ row => row.least (by omega)

theorem function_row {form : FunctionForm} {isAsync : Bool} :
    Runs (Row s (n + 1) c₀ m []) (function g form c₀.peek.start isAsync)
      fun id => Row s (n + 1) c₀ 1 [id] := by
  unfold function
  refine .skip .expect (Runs.tried.bind fun isGenerator => .look fun named => ?_)
  refine maybeNamed fun name => skipTypeParams_row.bind fun _ => ?_
  refine (params_moves sound).andThen (by omega) fun params => ?_
  exact (colonType_moves sound).andThen (by omega) fun result =>
    (blockStatement_yields sound).andThen (by omega) fun body => .node (by simp) (by omega)

theorem methodFunction_yields {isAsync : Bool} : Yields s (n + 1) (methodFunction g isAsync) := by
  unfold methodFunction
  refine fun c₀ => .here (skipTypeParams_row.bind fun _ => ?_)
  refine (params_moves sound).andThen (by omega) fun params => ?_
  exact (colonType_moves sound).andThen (by omega) fun result =>
    (blockStatement_yields sound).andThen (by omega) fun body => .node (by simp) (by omega)

/-! ## Members of a class -/

omit sound in
theorem modifiers_row : Runs (Row s n c₀ m []) modifiers fun _ => Row s n c₀ m [] := by
  unfold modifiers
  refine improve_row (fun _ : Modifiers => []) (fun m i le => ?_) {}
  refine .peeked fun token => .look fun next => .ite (fun modifier => ?_) fun _ =>
    .pure fun _ row => row.1
  have word : token.kind = .word := by simp_all
  refine .skip (Runs.advance.pre ?_) (.pure fun _ row => row)
  rintro c ⟨row, rfl⟩
  exact ⟨row, by simp [word]⟩

theorem fieldRest_moves :
    Moves s (n + 1) (fieldRest g) (fun _ => 0) fun r => r.1.toList ++ r.2.toList := by
  unfold fieldRest
  refine .of_row fun c₀ => (colonType_moves sound).andThen (by omega) fun ofType => ?_
  refine .eatOptional sound.assignment (by omega) fun value => Runs.semicolon.bind fun _ =>
    .pure fun _ row => row

theorem classMember_yields : Yields s (n + 1) (classMember g) := by
  unfold classMember
  refine fun c₀ => .here (modifiers_row.bind fun m => ?_)
  refine (propertyKey_moves sound).andThen (by omega) fun ⟨key, computed⟩ => ?_
  refine Runs.tried.bind fun _ => ?_
  refine .when (fun _ => .discard .tried) (fun _ _ row => row) (.look fun signed => ?_)
  refine .ite (fun _ => .look fun c => ?_) fun _ => ?_
  · exact (methodFunction_yields sound).andThen (by omega) fun value => .node (by simp) (by omega)
  · exact (fieldRest_moves sound).andThen (by omega) fun ⟨ofType, value⟩ =>
      .node (by simp) (by omega)

theorem classBody_yields : Yields s (n + 1) (classBody g) := by
  unfold classBody
  refine fun c₀ => .opening .expectFirst ?_
  refine (block_moves Option.toList (.of_row fun c₀ => .eat ?_ ?_) Problem.noConfusion).goesOn.bind
    fun members => ?_
  · exact .pure fun _ row => row
  · exact (classMember_yields sound).andThen (by omega) fun member => .pure fun _ row => row
  · rw [flatMap_toList]
    exact .node (by simp [present]) (by omega)

omit sound in
theorem implemented_yields : Yields s n implemented := by
  unfold implemented
  refine fun c₀ => .here (entityName_yields.goesOn.bind fun name => ?_)
  exact skipTypeParams_row.bind fun _ => .node (by simp) (by omega)

/-! ## Expressions -/

omit sound in
theorem sequence_yields {assignment : Parser NodeId} (h : Yields s n assignment) :
    Yields s n (sequence assignment) := by
  unfold sequence
  refine fun c₀ => .here (.roundsFrom fun i k le bound => ?_)
  refine .bind (commaChain_row h bound (by omega)) fun items => ?_
  split
  · exact .pure fun _ row => row.least (by simp)
  · exact .other (by simp) (by simp)

theorem spreadOr_yields : Yields s n (spreadOr g) := by
  unfold spreadOr
  refine fun c₀ => .here (.eat ?_ ?_)
  · exact sound.assignment.andThen (by omega) fun argument => .node (by simp) (by omega)
  · exact (sound.assignment.call (by omega)).post fun _ _ row => row

theorem callArguments_moves : Moves s (n + 1) (callArguments g) (fun _ => 1) present := by
  unfold callArguments
  refine .of_row fun c₀ => .skip .expect ?_
  refine (commaList_moves (spreadOr_yields sound)).flat.andThen (by omega) fun args => ?_
  exact .pure fun _ row => by simpa using row.least (by omega)

theorem bracketProperty_yields : Yields s n (bracketProperty g) := by
  unfold bracketProperty
  exact .of_row fun c₀ => (sequence_yields sound.assignment).andThen (by omega) fun property =>
    .skip .expect (.pure fun _ row => row.least (by omega))

theorem optionalLink_row {calls : Bool} {expr : NodeId} (le : j ≤ n + 1) (read : 0 < m) :
    Runs (Row s j c₀ m [expr]) (optionalLink g c₀.peek.start calls expr)
      fun id => Row s j c₀ m [id] := by
  obtain ⟨i, rfl⟩ := Nat.exists_eq_succ_of_ne_zero (Nat.ne_of_gt read)
  unfold optionalLink
  refine .look fun _ => .ite (fun _ => ?_) fun _ => .eat ?_ ?_
  · exact (callArguments_moves sound).andThen (by omega) fun args => .node (by simp) (by omega)
  · exact (bracketProperty_yields sound).andThen (by omega) fun property =>
      .node (by simp) (by omega)
  · exact identifier_yields.goesOn.bind fun property => .node (by simp) (by omega)

theorem link_row {calls : Bool} {expr : NodeId} (le : j ≤ n + 1) (read : 0 < m) :
    Runs (Row s j c₀ m [expr]) (link g c₀.peek.start calls expr)
      fun o => o.elim (Row s j c₀ m [expr]) fun id => Row s j c₀ (m + 1) [id] := by
  unfold link
  refine .eat ?_ (.eat ?_ (.eat ?_ ?_))
  · exact identifier_yields.goesOn.bind fun property =>
      .bind (.node (by simp) (by omega)) fun id => .pure fun _ row => row
  · exact (optionalLink_row sound le (Nat.succ_pos m)).bind fun id => .pure fun _ row => row
  · exact (bracketProperty_yields sound).andThen (by omega) fun property =>
      .bind (.node (by simp) (by omega)) fun id => .pure fun _ row => row
  refine .look fun _ => .ite (fun _ => ?_) fun _ => .sees ?_ ?_
  · exact (callArguments_moves sound).andThen (by omega) fun args =>
      .bind (.node (by simp) (by omega)) fun id => .pure fun _ row => row
  · refine .look fun _ => .ite (fun _ => ?_) fun _ => .pure fun _ row => row.1
    exact .skip .advance (.bind (.other (by simp) (by omega)) fun id => .pure fun _ row => row)
  · exact .look fun _ => .pure fun _ row => row

theorem chain_row {calls : Bool} {expr : NodeId} (le : j ≤ n + 1) (read : 0 < m) :
    Runs (Row s j c₀ m [expr]) (chain g c₀.peek.start calls expr)
      fun id => Row s j c₀ m [id] := by
  unfold chain
  exact improve_row (fun id => [id])
    (fun expr i more => link_row sound le (Nat.lt_of_lt_of_le read more)) expr

theorem classNode_row {form : ClassForm} {isAbstract : Bool} :
    Runs (Row s (n + 1) c₀ m []) (classNode g form c₀.peek.start isAbstract)
      fun id => Row s (n + 1) c₀ 1 [id] := by
  unfold classNode
  refine .skip .expect (.look fun _ => .look fun _ => .look fun _ => ?_)
  refine maybeNamed fun name => skipTypeParams_row.bind fun _ => Runs.eaten.bind fun extends_ => ?_
  extract_lets rest
  have after : ∀ super : Ref, Runs (Row s (n + 1) c₀ (m + 1) (name.toList ++ super.toList))
      (rest super) fun id => Row s (n + 1) c₀ 1 [id] := by
    intro super
    refine .eatChain implemented_yields (Nat.le_add_right _ _) fun implements => ?_
    exact (classBody_yields sound).andThen (by omega) fun body => .node (by simp) (by omega)
  clear_value rest
  cases extends_ with
  | true =>
    refine .within (j := n) (fun c outer => ?_) (by simp)
    refine sound.primary.andThen (by omega) fun expr => .bind (chain_row sound (Nat.le_succ n)
      (Nat.succ_pos _)) fun super => ?_
    refine skipTypeParams_row.bind fun _ => .bind (.pure fun c' row => ?_) after
    exact (outer.trans row).least (by simp)
  | false =>
    refine .bind (.pure fun c row => ?_) after
    simpa using row

theorem arrayLiteral_yields : Yields s (n + 1) (arrayLiteral g) := by
  unfold arrayLiteral
  refine fun c₀ => .opening .expectFirst ?_
  exact (holeyList_moves (spreadOr_yields sound)).andThen (by omega) fun items =>
    .node (by simp) (by omega)

omit sound in
theorem eatMemberWord_row {ids : List NodeId} :
    Runs (Row s n c₀ m ids) eatMemberWord fun _ => Row s n c₀ m ids := by
  unfold eatMemberWord
  refine .look fun _ => .look fun _ => .look fun _ => .look fun _ => .ite (fun _ => ?_) fun _ =>
    .pure fun _ row => row
  exact Runs.step.bind fun _ => .pure fun _ row => row

theorem objectMember_yields : Yields s n (objectMember g) := by
  unfold objectMember
  refine fun c₀ => .look fun _ => .ite (fun _ => spreadOr_yields sound c₀) fun _ => ?_
  refine .here (eatMemberWord_row.bind fun word => ?_)
  refine (propertyKey_moves sound).andThen (by omega) fun ⟨key, computed⟩ => .look fun signed => ?_
  refine .ite (fun _ => ?_) fun _ => .eat ?_ (.look fun c => .ite (fun _ => ?_) fun _ => ?_)
  · exact (methodFunction_yields sound).andThen (by omega) fun value => .node (by simp) (by omega)
  · exact sound.assignment.andThen (by omega) fun value => .node (by simp) (by omega)
  · exact .fail Problem.noConfusion
  · exact .nodeSharing (fun _ => Ref.compact_shared (some key)) (by omega)

theorem objectLiteral_yields : Yields s (n + 1) (objectLiteral g) := by
  unfold objectLiteral
  refine fun c₀ => .opening .expectFirst ?_
  exact (commaList_moves (objectMember_yields sound)).flat.andThen (by omega) fun members =>
    .node (by simp) (by omega)

theorem wordExpression_yields :
    Runs (At s (n + 1) c₀) (wordExpression g c₀.peek) fun id => Row s (n + 1) c₀ 1 [id] := by
  unfold wordExpression
  refine .ite (fun _ => literal_yields c₀) fun _ => .eatFirst (.other rfl (by omega))
    (.eatFirst (.other rfl (by omega)) ?_)
  refine .ite (fun _ => (function_row sound).pre fun _ => At.row) fun _ => .look fun _ => ?_
  refine .ite (fun _ => ?_) fun _ => .ite (fun _ => ?_) fun _ => identifier_yields c₀
  · exact .pre (.skip .step (function_row sound)) fun _ => At.row
  · exact (classNode_row sound).pre fun _ => At.row

theorem primary_yields : Yields s (n + 1) (primary g) := by
  unfold primary
  refine fun c₀ => .peek ?_
  split
  · exact literal_yields c₀
  · exact literal_yields c₀
  next template => exact .skip (.advanceLive (by simp [template])) (.other (by simp) (by omega))
  · exact wordExpression_yields sound
  all_goals
    refine .eatFirst ?_ (.look fun _ => .ite (fun _ => arrayLiteral_yields sound c₀) fun _ => ?_)
    · exact (sequence_yields sound.assignment).andThen (by omega) fun expr =>
        .skip .expect (.pure fun _ row => row.least (by simp))
    · exact .look fun _ => .ite (fun _ => objectLiteral_yields sound c₀) fun _ =>
        .fail Problem.noConfusion

theorem construct_yields : Yields s (n + 1) (construct g) := by
  unfold construct
  refine fun c₀ => .opening .expectFirst (.within (j := n) (fun c outer => ?_) (Nat.le_refl _))
  refine .look fun _ => ?_
  refine .branch (Q := fun id => Row s n c 1 [id]) (fun _ => ?_) (fun _ => ?_) fun first => ?_
  · exact (sound.construct.call (by omega)).post fun _ _ row => row
  · exact ((primary_yields sound).call (by omega)).post fun _ _ row => row
  refine .bind (chain_row sound (Nat.le_succ n) Nat.one_pos) fun callee => ?_
  refine .pre (P := Row s (n + 1) c₀ 2 [callee]) (.look fun _ => ?_) fun _ => outer.trans
  refine .branch (Q := fun args => Row s (n + 1) c₀ 1 (callee :: present args)) (fun _ => ?_)
    (fun _ => .pure fun _ row => row.least (by omega)) fun args => .node (by simp) (by omega)
  exact ((callArguments_moves sound).call (by omega)).post fun _ _ row => row.least (by omega)

theorem leftHandSide_yields : Yields s (n + 1) (leftHandSide g) := by
  unfold leftHandSide
  refine fun c₀ => .here (.look fun _ => ?_)
  refine .branch (Q := fun id => Row s (n + 1) c₀ 1 [id]) (fun _ => ?_) (fun _ => ?_)
    fun first => ?_
  · exact ((construct_yields sound).call (by omega)).post fun _ _ row => row
  · exact ((primary_yields sound).call (by omega)).post fun _ _ row => row
  · exact chain_row sound (Nat.le_refl _) Nat.one_pos

/-! ## Operators -/

theorem updated_yields :
    Runs (At s (n + 1) c₀) (updated g c₀.peek.start) fun id => Row s (n + 1) c₀ 1 [id] := by
  unfold updated
  refine .bind (leftHandSide_yields sound c₀) fun expr => ?_
  refine .look fun _ => .look fun _ => .look fun _ => ?_
  exact .ite (fun _ => .skip .step (.other (by simp) (by simp))) fun _ => .pure fun _ row => row

omit sound in
theorem kind_ne_of_unaryType? {t : Token} {type : Text} (h : unaryType? t = some type) :
    t.kind ≠ .eof := by
  intro eof
  simp [unaryType?, eof] at h

theorem unary_yields : Yields s (n + 1) (unary g) := by
  unfold unary
  refine fun c₀ => .peek ?_
  split
  next type known =>
    refine .skip (.advanceLive (kind_ne_of_unaryType? known)) ?_
    exact sound.unary.andThen (by omega) fun argument => .other (by simp) (by omega)
  · refine .look fun next => .ite (fun await => ?_) fun _ => updated_yields sound
    have word : c₀.peek.kind = .word := by simp_all
    refine .skip (.advanceLive (by simp [word])) ?_
    exact sound.unary.andThen (by omega) fun argument => .node (by simp) (by omega)

theorem binaryStep_row {level : Nat} {left : NodeId} (read : 0 < m) :
    Runs (Row s (n + 1) c₀ m [left]) (binaryStep g level c₀.peek.start left)
      fun o => o.elim (Row s (n + 1) c₀ m [left]) fun id => Row s (n + 1) c₀ (m + 1) [id] := by
  unfold binaryStep
  refine .look fun token => ?_
  split
  · exact .pure fun _ row => row
  next own _ =>
    refine .ite (fun _ => .pure fun _ row => row) fun _ => ?_
    refine .skip .step (.ite (fun _ => ?_) fun _ => ?_)
    · refine sound.typeNode.andThen (by omega) fun type => ?_
      exact .bind (.other (by simp) (by omega)) fun id => .pure fun _ row => row
    · refine (sound.binary own).andThen (by omega) fun right => ?_
      exact .bind (.other (by simp) (by omega)) fun id => .pure fun _ row => row

theorem binary_yields (level : Nat) : Yields s (n + 1) (binary g level) := by
  unfold binary
  refine fun c₀ => .here ((unary_yields sound).andThen (by omega) fun first => ?_)
  exact improve_row (fun id => [id])
    (fun left i more => binaryStep_row sound (Nat.lt_of_lt_of_le Nat.one_pos more)) first

theorem conditional_yields : Yields s (n + 1) (conditional g) := by
  unfold conditional
  refine fun c₀ => .here ((binary_yields sound 0).andThen (by omega) fun test => .eat ?_ ?_)
  · exact sound.assignment.andThen (by omega) fun consequent => .skip .expect
      (sound.assignment.andThen (by omega) fun alternate => .other (by simp) (by omega))
  · exact .pure fun _ row => row

instance : Looks arrowKind? := by
  unfold arrowKind?
  infer_instance

theorem arrow_yields {isAsync : Bool} : Yields s (n + 1) (arrow g isAsync) := by
  unfold arrow
  refine fun c₀ => .here (.when (fun _ => .discard .step) (fun _ _ row => row) (.look fun _ => ?_))
  refine .branch (Q := Row s (n + 1) c₀ 1) (fun _ => ?_) (fun _ => ?_) fun params => ?_
  · exact ((params_moves sound).call (by omega)).post fun _ _ row => row
  · exact .map (identifier_yields.goesOn.post fun _ _ row => row)
  refine (colonType_moves sound).andThen (by omega) fun result => .skip .expect (.look fun _ => ?_)
  refine .branch (Q := fun id => Row s (n + 1) c₀ 1 (params ++ result.toList ++ [id])) (fun _ => ?_)
    (fun _ => ?_) fun body => .node (by simp) (by omega)
  · exact (sound.assignment.call (by omega)).post fun _ _ row => row.least (by omega)
  · exact ((blockStatement_yields sound).call (by omega)).post fun _ _ row => row.least (by omega)

theorem assignment_yields : Yields s (n + 1) (assignment g) := by
  unfold assignment
  refine fun c₀ => .look fun kind => ?_
  split
  · exact arrow_yields sound c₀
  · refine .here ((conditional_yields sound).andThen (by omega) fun left => .look fun _ => ?_)
    refine .ite (fun _ => .skip .step ?_) fun _ => .pure fun _ row => row
    exact sound.assignment.andThen (by omega) fun right => .other (by simp) (by omega)

end TreeLint.Script.Parser
