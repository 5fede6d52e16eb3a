import TreeLint.Proofs.Script.Cursor
import TreeLint.Script.Type

/-! # Bindings and types

The places where recursion enters again are taken for granted for fewer tokens
(`Grammar.Sound`), and every parser reads a token before it gets there. -/

namespace TreeLint.Script

/-- The parsers of a grammar build what they should wherever there are no more than `n` tokens
to read. -/
structure Grammar.Sound (s : Stream) (n : Nat) (g : Grammar) : Prop where
  typeNode : Yields s n g.typeNode
  postfixType : Yields s n g.postfixType
  bindingTarget : Yields s n g.bindingTarget
  primary : Yields s n g.primary
  construct : Yields s n g.construct
  unary : Yields s n g.unary
  binary : ∀ level, Yields s n (g.binary level)
  assignment : Yields s n g.assignment
  statement : Yields s n g.statement

namespace Parser

variable {s : Stream} {n j : Nat} {g : Grammar} (sound : g.Sound s n) {c₀ : Cursor}

include sound

/-! ## Bindings -/

theorem colonType_moves : Moves s (n + 1) (colonType g) (fun _ => 0) Option.toList := by
  unfold colonType
  refine .of_row fun c₀ => .eat ?_ ?_
  · exact sound.typeNode.andThen (by omega) fun t => .pure fun _ row => row.least (by omega)
  · exact .pure fun _ row => row

theorem propertyKey_moves :
    Moves s (n + 1) (propertyKey g) (fun _ => 1) fun key => [key.1] := by
  unfold propertyKey
  refine fun c₀ => .peek (.ite (fun _ => ?_) fun _ => ?_)
  · exact Runs.bind (literal_yields c₀) fun key => .pure fun _ row => row
  refine .eatFirst ?_ (.ite (fun _ => ?_) fun _ => ?_)
  · exact sound.assignment.andThen (by omega) fun key => .skip .expect
      (.pure fun _ row => row.least (by simp))
  · exact Runs.bind (identifier_yields c₀) fun key => .pure fun _ row => row
  · exact .fail Problem.noConfusion

theorem bindingElement_yields {target : Parser NodeId} (h : Yields s j target) (le : j ≤ n + 1) :
    Yields s j (bindingElement g target) := by
  unfold bindingElement
  refine fun c₀ => .here (h.andThen (by omega) fun left => .eat ?_ ?_)
  · exact sound.assignment.andThen (by omega) fun default => .node (by simp) (by omega)
  · exact .pure fun _ row => row

theorem objectPatternItem_yields : Yields s n (objectPatternItem g) := by
  unfold objectPatternItem
  refine fun c₀ => .here (.eat ?_ ?_)
  · exact (identifier_yields.call (j := n) (by omega)).bind fun name => .node (by simp) (by omega)
  refine (propertyKey_moves sound).andThen (by omega) fun ⟨key, computed⟩ => .eat ?_ ?_
  · exact (bindingElement_yields sound sound.bindingTarget (by omega)).andThen (by omega)
      fun value => .node (by simp) (by omega)
  · refine .look fun default => .look fun c => .ite (fun _ => ?_) fun _ => ?_
    · exact .fail Problem.noConfusion
    · exact .nodeSharing (fun _ => Ref.compact_shared (some key)) (by omega)

theorem arrayPatternItem_yields : Yields s n (arrayPatternItem g) := by
  unfold arrayPatternItem
  refine fun c₀ => .here (.eat ?_ ?_)
  · exact sound.bindingTarget.andThen (by omega) fun target => .node (by simp) (by omega)
  · exact ((bindingElement_yields sound sound.bindingTarget (by omega)).call (by omega)).post
      fun _ _ row => row

theorem bindingTarget_yields : Yields s (n + 1) (bindingTarget g) := by
  unfold bindingTarget
  refine fun c₀ => .here (.eat ?_ (.eat ?_ ?_))
  · refine (commaList_moves (objectPatternItem_yields sound)).flat.andThen (by omega)
      fun items => ?_
    exact .skip (((colonType_moves sound).call (by omega)).post fun _ _ row => row.drop)
      (.node (by simp) (by omega))
  · refine (holeyList_moves (arrayPatternItem_yields sound)).andThen (by omega) fun items => ?_
    exact .skip (((colonType_moves sound).call (by omega)).post fun _ _ row => row.drop)
      (.node (by simp) (by omega))
  · exact Runs.word.bind fun name => Runs.eaten.bind fun optional =>
      (colonType_moves sound).andThen (by omega) fun ofType => .identifierNode (by simp) (by omega)

omit sound in
theorem skipModifiers_row {m : Nat} {ids : List NodeId} :
    Runs (Row s n c₀ m ids) skipModifiers fun _ => Row s n c₀ m ids := by
  unfold skipModifiers
  refine .discard (.post ((many_moves (fun _ => []) fun c₀ => ?_).goesOn)
    fun l _ row => ?_)
  · refine .peek (.look fun next => .ite (fun modifier => ?_) fun _ => ?_)
    · have word : c₀.peek.kind = .word := by simp_all
      exact .skip (.advanceLive (by simp [word])) (.pure fun _ row => row)
    · exact .pure fun _ => At.row
  · have nothing : l.flatMap (fun _ => ([] : List NodeId)) = [] :=
      List.flatMap_eq_nil_iff.mpr fun _ _ => rfl
    rw [nothing, List.append_nil] at row
    exact row

theorem param_yields : Yields s (n + 1) (param g) := by
  unfold param
  refine .of_row fun c₀ => skipModifiers_row.bind fun _ => ?_
  refine .within (fun c outer => .post (Q := fun id => Row s (n + 1) c 1 [id]) (.eat ?_ ?_)
    fun id _ row => outer.trans row) (Nat.le_refl _)
  · exact (bindingTarget_yields sound).andThen (by omega) fun target => .node (by simp) (by omega)
  · have element := bindingElement_yields sound (bindingTarget_yields sound) (Nat.le_refl _)
    exact (element.call (by omega)).post fun _ _ row => row.least (by omega)

theorem params_moves : Moves s (n + 1) (params g) (fun _ => 1) fun l => l := by
  unfold params
  refine .of_row fun c₀ => .skip .expect ?_
  exact ((commaList_moves (param_yields sound)).flat.call (by omega)).post
    fun _ _ row => row.least (by omega)

/-! ## Types -/

theorem typeArgs_moves : Moves s (n + 1) (typeArgs g) (fun _ => 0) fun l => l := by
  unfold typeArgs
  refine .of_row fun c₀ => .eat ?_ ?_
  · exact ((commaList_moves sound.typeNode).flat.call (by omega)).post
      fun _ _ row => row.least (by omega)
  · exact .pure fun _ row => row

omit sound in
theorem memberSeparator_row {m : Nat} {ids : List NodeId} :
    Runs (Row s n c₀ m ids) memberSeparator fun _ => Row s n c₀ m ids := by
  unfold memberSeparator
  exact Runs.tried.bind fun b => .ite (fun _ => .discard .tried) fun _ => .pure fun _ row => row

theorem signature_moves : Moves s (n + 1) (signature g) (fun _ => 1) fun l => l := by
  unfold signature
  refine .of_row fun c₀ => skipTypeParams_row.bind fun _ => ?_
  refine (params_moves sound).andThen (by omega) fun params => ?_
  refine (colonType_moves sound).andThen (by omega) fun result => ?_
  exact memberSeparator_row.bind fun _ => .pure fun _ row => row

instance : Looks seesSignature :=
  inferInstanceAs (Looks (sees _ >>= fun _ => sees _ >>= fun _ => pure _))

theorem keyedTypeMember_row {m : Nat} {isReadonly : Bool} :
    Runs (Row s (n + 1) c₀ m []) (keyedTypeMember g c₀.peek.start isReadonly)
      fun id => Row s (n + 1) c₀ 1 [id] := by
  unfold keyedTypeMember
  refine (propertyKey_moves sound).andThen (by omega) fun ⟨key, computed⟩ => ?_
  refine Runs.eaten.bind fun optional => ?_
  refine .look fun signed => .ite (fun _ => ?_) fun _ => ?_
  · exact (signature_moves sound).andThen (by omega) fun parts => .other (by simp) (by omega)
  · refine (colonType_moves sound).andThen (by omega) fun ofType => ?_
    exact memberSeparator_row.bind fun _ => .node (by simp) (by omega)

omit sound in
theorem eatReadonly_row {m : Nat} {ids : List NodeId} :
    Runs (Row s n c₀ m ids) eatReadonly fun _ => Row s n c₀ m ids := by
  unfold eatReadonly
  exact .look fun _ => .look fun _ => .ite (fun _ => .tried) fun _ => .pure fun _ row => row

theorem typeMember_yields : Yields s (n + 1) (typeMember g) := by
  unfold typeMember
  refine fun c₀ => .here (eatReadonly_row.bind fun isReadonly => ?_)
  refine .look fun _ => .look fun _ => .look fun _ => .ite (fun _ => ?_) fun _ => ?_
  · refine .skip .expect ?_
    refine (bindingTarget_yields sound).andThen (by omega) fun param => .skip .expect ?_
    refine (colonType_moves sound).andThen (by omega) fun ofType => ?_
    exact memberSeparator_row.bind fun _ => .other (by simp) (by omega)
  refine .look fun signed => .ite (fun _ => ?_) fun _ => ?_
  · exact (signature_moves sound).andThen (by omega) fun parts => .other (by simp) (by omega)
  · exact keyedTypeMember_row sound

theorem typeMembers_yields {form : ListForm} : Yields s (n + 1) (typeMembers g form) := by
  unfold typeMembers
  refine fun c₀ => .opening .expectFirst ?_
  refine (block_moves (fun id => [id]) (typeMember_yields sound) Problem.noConfusion).flat.andThen
    (by omega) fun members => ?_
  exact .node (by simp) (by omega)

theorem parenthesizedType_yields :
    Runs (At s (n + 1) c₀) (parenthesizedType g c₀.peek.start)
      fun id => Row s (n + 1) c₀ 1 [id] := by
  unfold parenthesizedType
  refine .look fun arrow => .ite (fun _ => ?_) fun _ => ?_
  · refine .bind (params_moves sound c₀) fun params => .skip .expect ?_
    exact sound.typeNode.andThen (by omega) fun result => .other (by simp) (by omega)
  · refine .pre (P := Row s (n + 1) c₀ 0 []) (.skip .expect ?_) fun _ => At.row
    exact sound.typeNode.andThen (by omega) fun type =>
      .skip .expect (.pure fun _ row => row.least (by omega))

theorem namedType_yields (word : c₀.peek.kind = .word) :
    Runs (At s (n + 1) c₀) (namedType g c₀.peek.start) fun id => Row s (n + 1) c₀ 1 [id] := by
  unfold namedType
  refine .eatFirst ?_ (.eatFirst ?_ (.peek (.ite (fun _ => ?_) fun _ => ?_)))
  · exact (entityName_yields.call (Nat.le_succ _)).bind fun name => .other (by simp) (by omega)
  · exact sound.postfixType.andThen (by omega) fun type => .other (by simp) (by omega)
  · exact .skip (.advanceLive (by simp [word])) (.node (by simp) (by omega))
  · refine .bind (entityName_yields c₀) fun name => ?_
    exact (typeArgs_moves sound).andThen (by omega) fun args => .node (by simp) (by simp)

theorem primaryType_yields : Yields s (n + 1) (primaryType g) := by
  unfold primaryType
  refine fun c₀ => .peek (.ite (fun _ => ?_) fun _ => ?_)
  · exact .bind (literal_yields c₀) fun value => .node (by simp) (by simp)
  refine .look fun _ => .ite (fun _ => typeMembers_yields sound c₀) fun _ => .eatFirst ?_ ?_
  · exact (commaList_moves sound.typeNode).flat.andThen (by omega) fun items =>
      .other (by simp) (by omega)
  refine .look fun _ => .ite (fun _ => parenthesizedType_yields sound) fun _ =>
    .ite (fun word => namedType_yields sound word) fun _ => .fail Problem.noConfusion

theorem postfixType_yields : Yields s (n + 1) (postfixType g) := by
  unfold postfixType
  refine fun c₀ => .here ((primaryType_yields sound).andThen (by omega) fun first => ?_)
  refine improve_row (fun id => [id]) (fun type i le => ?_) first
  refine .look fun _ => .look fun _ => .ite (fun _ => .skip .expect (.eat ?_ ?_)) fun _ =>
    .pure fun _ row => row
  · exact .bind (.node (by simp) (by omega)) fun id => .pure fun _ row => row
  · exact sound.typeNode.andThen (by omega) fun index => .skip .expect
      (.bind (.other (by simp) (by omega)) fun id => .pure fun _ row => row)

omit sound in
theorem operands_moves {operator : Text} {operand : Parser NodeId} (h : Yields s n operand) :
    Moves s n (operands operator operand) (fun _ => 1) fun l => l := by
  unfold operands
  refine .of_row fun c₀ => .skip .tried (h.andThen (by omega) fun first => ?_)
  refine (many_moves (fun id => [id]) (.of_row fun c₀ => ?_)).flat.goesOn.bind
    fun more => .pure fun _ row => row.least (by omega)
  refine .eat ?_ ?_
  · exact h.andThen (by omega) fun a => .pure fun _ row => row.least (by simp)
  · exact .pure fun _ row => row

omit sound in
theorem joined_row {form : ListForm} {types : List NodeId} :
    Runs (Row s n c₀ 1 types) (joined c₀.peek.start form types)
      fun id => Row s n c₀ 1 [id] := by
  unfold joined
  split
  · exact .pure fun _ row => row
  · exact .node (by simp) (by omega)

theorem intersectionType_yields : Yields s (n + 1) (intersectionType g) := by
  unfold intersectionType
  refine fun c₀ => .here ?_
  refine (operands_moves (postfixType_yields sound)).andThen (by omega) fun types => ?_
  exact joined_row.post fun _ _ row => row

theorem typeNode_yields : Yields s (n + 1) (typeNode g) := by
  unfold typeNode
  refine fun c₀ => .here ?_
  refine (operands_moves (intersectionType_yields sound)).andThen (by omega) fun types => ?_
  exact joined_row.post fun _ _ row => row

end Parser
end TreeLint.Script
