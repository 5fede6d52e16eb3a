import TreeLint.Proofs.Script.Expression
import TreeLint.Script.Statement

/-! # Statements and declarations -/

namespace TreeLint.Script.Parser

variable {s : Stream} {n m : Nat} {g : Grammar} {c₀ : Cursor} {ids : List NodeId}

/-! ## Imports -/

instance : Looks typeImportAhead := by
  unfold typeImportAhead
  infer_instance

theorem moduleReference_yields : Yields s n moduleReference := by
  unfold moduleReference
  refine fun c₀ => .look fun _ => .look fun _ => .ite (fun _ => ?_) fun _ => entityName_yields c₀
  refine .here (.skip .step (.skip .expect ?_))
  exact stringLiteral_yields.goesOn.bind fun source => .skip .expect (.node (by simp) (by omega))

/-- A name that another one may follow; if none does, it stands for both. -/
theorem renamed {text : Text} {name : NodeId} {f : NodeId → Parser NodeId}
    {Q : NodeId → Cursor → Prop}
    (rest : ∀ other ids, (ids.Nodup → Ref.compact [some name, some other] = ids) →
      Runs (Row s n c₀ m ids) (f other) Q) :
    Runs (Row s n c₀ m [name]) (eat text >>= fun b =>
      if b = true then identifier >>= f else pure name >>= f) Q := by
  refine .eat ?_ ?_
  · refine identifier_yields.goesOn.bind fun other => ?_
    have parts (distinct : [name, other].Nodup) :
        Ref.compact [some name, some other] = [name, other] := Ref.compact_of_nodup distinct
    exact (rest other [name, other] parts).pre
      fun _ row => row.least (by omega)
  · exact rest name [name] fun _ => Ref.compact_shared (some name)

theorem importSpecifier_yields : Yields s n importSpecifier := by
  unfold importSpecifier
  refine fun c₀ => .here (.look fun _ => .look fun _ => .look fun _ => ?_)
  refine .when (fun _ => .discard .step) (fun _ _ row => row) ?_
  refine identifier_yields.goesOn.bind fun imported => ?_
  exact renamed fun localName ids parts => .nodeSharing parts (by omega)

theorem importFrom_row {specifiers : List NodeId} {typeOnly : Bool} :
    Runs (Row s n c₀ m specifiers) (importFrom c₀.peek.start specifiers typeOnly)
      fun id => Row s n c₀ 1 [id] := by
  unfold importFrom
  refine .skip .expect (stringLiteral_yields.goesOn.bind fun source => ?_)
  exact Runs.semicolon.bind fun _ => .node (by simp) (by omega)

theorem bracedImports_moves : Moves s n bracedImports (fun _ => 0) fun l => l := by
  unfold bracedImports
  refine fun c₀ => .here (.eat ?_ (.eat ?_ ?_))
  · refine .skip .expect (identifier_yields.goesOn.bind fun name => ?_)
    refine .bind (.node (k := 0) (by simp) (by omega)) fun id => ?_
    exact .pure fun _ row => row.least (by simp)
  · exact (commaList_moves importSpecifier_yields).flat.goesOn.post
      fun _ _ row => row.least (by simp)
  · exact .pure fun _ row => row

theorem defaultImport?_moves : Moves s n defaultImport? (fun _ => 0) Option.toList := by
  unfold defaultImport?
  refine .of_row fun c₀ => .look fun _ => .look fun _ => .ite (fun _ => ?_) fun _ =>
    .pure fun _ row => row
  refine identifier_yields.goesOn.bind fun name => ?_
  exact .got fun c row => .map ((Runs.nodeOnly (k := 0) row rfl (by omega)).post fun _ _ row =>
    row.least (by simp))

theorem importSpecifiers_moves : Moves s n importSpecifiers (fun _ => 0) fun l => l := by
  unfold importSpecifiers
  refine .of_row fun c₀ => defaultImport?_moves.goesOn.bind fun first => ?_
  cases first with
  | none => exact bracedImports_moves.goesOn
  | some name =>
    refine .eat ?_ (.pure fun _ row => row)
    exact bracedImports_moves.goesOn.bind fun l =>
      .pure fun _ row => row.least (by omega)

theorem importDeclaration_row {exported : Bool} :
    Runs (Row s n c₀ m []) (importDeclaration c₀.peek.start exported)
      fun id => Row s n c₀ 1 [id] := by
  unfold importDeclaration
  refine .skip .expect (.look fun typeOnly => .when (fun _ => .discard .step)
    (fun _ _ row => row) (.look fun string => ?_))
  refine .ite (fun _ => ?_) fun _ => .look fun _ => .look fun _ => .ite (fun _ => ?_) fun _ =>
    .ite (fun _ => .fail Problem.noConfusion) fun _ => ?_
  · refine literal_yields.goesOn.bind fun source => ?_
    exact Runs.semicolon.bind fun _ => .node (by simp) (by omega)
  · refine identifier_yields.goesOn.bind fun name => .skip .expect ?_
    refine moduleReference_yields.goesOn.bind fun reference => ?_
    exact Runs.semicolon.bind fun _ => .node (by simp) (by omega)
  · exact importSpecifiers_moves.goesOn.bind fun specifiers =>
      importFrom_row

/-! ## Exports -/

theorem exportSpecifier_yields : Yields s n exportSpecifier := by
  unfold exportSpecifier
  refine fun c₀ => .here (identifier_yields.goesOn.bind fun localName => ?_)
  exact renamed fun exported ids parts => .nodeSharing parts (by omega)

theorem exportAll_row :
    Runs (Row s n c₀ m []) (exportAll c₀.peek.start) fun id => Row s n c₀ 1 [id] := by
  unfold exportAll
  refine .eatOptional identifier_yields (Nat.le_add_right n _) fun name => .skip .expect ?_
  refine stringLiteral_yields.goesOn.bind fun source => ?_
  exact Runs.semicolon.bind fun _ => .other (by simp) (by omega)

theorem exportList_row :
    Runs (Row s n c₀ m []) (exportList c₀.peek.start) fun id => Row s n c₀ 1 [id] := by
  unfold exportList
  refine Runs.tried.bind fun typeOnly => .skip .expect ?_
  refine (commaList_moves exportSpecifier_yields).flat.goesOn.bind fun specifiers => ?_
  refine .eatOptional stringLiteral_yields (Nat.le_add_right n _) fun source => ?_
  exact Runs.semicolon.bind fun _ => .node (by simp) (by omega)

/-! ## Other declarations -/

variable (sound : g.Sound s n)

include sound

theorem expression_yields : Yields s (n + 1) (expression g) :=
  sequence_yields (assignment_yields sound)

theorem defaultExport_yields : Yields s (n + 1) (defaultExport g) := by
  unfold defaultExport
  refine fun c₀ => .here (.look fun _ => .ite (fun _ => function_row sound) fun _ => ?_)
  refine .look fun _ => .look fun _ => .ite (fun _ => .skip .step (function_row sound)) fun _ => ?_
  refine .look fun _ => .ite (fun _ => classNode_row sound) fun _ => ?_
  exact (assignment_yields sound).andThen (by omega) fun expr => Runs.semicolon.bind fun _ =>
    .pure fun _ row => row

theorem exportDeclaration_yields : Yields s (n + 1) (exportDeclaration g) := by
  unfold exportDeclaration
  refine fun c₀ => .opening .expectFirst (.look fun _ => ?_)
  refine .ite (fun _ => importDeclaration_row) fun _ => ?_
  refine .eat ?_ (.eat exportAll_row (.look fun _ => .look fun _ => .look fun _ => ?_))
  · exact (defaultExport_yields sound).andThen (by omega) fun target => .node (by simp) (by omega)
  refine .ite (fun _ => exportList_row) fun _ => ?_
  refine sound.statement.andThen (by omega) fun declaration => .look fun _ => ?_
  exact .ite (fun _ => .stop Problem.noConfusion) fun _ => .node (by simp) (by omega)

theorem interfaceHeritage_yields : Yields s (n + 1) (interfaceHeritage g) := by
  unfold interfaceHeritage
  refine fun c₀ => .here (entityName_yields.goesOn.bind fun name => ?_)
  exact (typeArgs_moves sound).andThen (by omega) fun args => .other (by simp) (by omega)

theorem interfaceDeclaration_row :
    Runs (Row s (n + 1) c₀ m []) (interfaceDeclaration g c₀.peek.start)
      fun id => Row s (n + 1) c₀ 1 [id] := by
  unfold interfaceDeclaration
  refine .skip .expect (identifier_yields.goesOn.bind fun name => ?_)
  refine skipTypeParams_row.bind fun _ => ?_
  refine .eatChain (interfaceHeritage_yields sound) (by omega) fun heritage => ?_
  exact (typeMembers_yields sound).andThen (by omega) fun body => .node (by simp) (by omega)

theorem typeAlias_row :
    Runs (Row s (n + 1) c₀ m []) (typeAlias g c₀.peek.start) fun id => Row s (n + 1) c₀ 1 [id] := by
  unfold typeAlias
  refine .skip .expect (identifier_yields.goesOn.bind fun name => ?_)
  refine skipTypeParams_row.bind fun _ => .skip .expect ?_
  refine (typeNode_yields sound).andThen (by omega) fun type => ?_
  exact Runs.semicolon.bind fun _ => .node (by simp) (by omega)

theorem declarator_yields : Yields s (n + 1) (declarator g) := by
  unfold declarator
  refine fun c₀ => .here ((bindingTarget_yields sound).andThen (by omega) fun target => ?_)
  exact .eatOptional (assignment_yields sound) (by omega) fun init => .node (by simp) (by omega)

theorem variableDeclaration_row :
    Runs (Row s (n + 1) c₀ m []) (variableDeclaration g c₀.peek.start)
      fun id => Row s (n + 1) c₀ 1 [id] := by
  unfold variableDeclaration
  refine Runs.step.bind fun keyword => .roundsFrom fun i k le bound => ?_
  refine .bind (commaChain_row (declarator_yields sound) bound (by omega)) fun declarators => ?_
  exact Runs.semicolon.bind fun _ => .node (by simp) (by omega)

/-! ## Statements -/

theorem ifStatement_yields : Yields s (n + 1) (ifStatement g) := by
  unfold ifStatement
  refine fun c₀ => .opening .expectFirst (.skip .expect ?_)
  refine (expression_yields sound).andThen (by omega) fun test => .skip .expect ?_
  refine sound.statement.andThen (by omega) fun consequent => ?_
  exact .eatOptional sound.statement (by omega) fun alternate => .node (by simp) (by omega)

theorem catchClause_yields : Yields s (n + 1) (catchClause g) := by
  unfold catchClause
  refine fun c₀ => .opening .expectFirst ?_
  have after : ∀ param : Ref, Runs (Row s (n + 1) c₀ 1 param.toList)
      (blockStatement g >>= fun body => node c₀.peek.start (.catchClause param (some body)))
      fun id => Row s (n + 1) c₀ 1 [id] := fun param =>
    (blockStatement_yields sound).andThen (by omega) fun body => .node (by simp) (by omega)
  refine .eat ?_ (after none)
  refine (bindingTarget_yields sound).andThen (by omega) fun target => .skip .expect ?_
  exact (after (some target)).pre fun _ row => row.least (by omega)

theorem tryStatement_yields : Yields s (n + 1) (tryStatement g) := by
  unfold tryStatement
  refine fun c₀ => .opening .expectFirst ?_
  refine (blockStatement_yields sound).andThen (by omega) fun body => ?_
  refine .look fun _ => .optional (R := fun r : Ref => Row s (n + 1) c₀ 1 (body :: r.toList))
    (fun _ => ?_) (fun _ _ row => row.least (by omega)) fun handler => ?_
  · exact ((catchClause_yields sound).call (by omega)).post fun _ _ row => row.least (by omega)
  refine .eatOptional (blockStatement_yields sound) (by omega) fun finalizer => ?_
  exact .ite (fun _ => .stop Problem.noConfusion) fun _ => .node (by simp) (by omega)

theorem returnStatement_yields : Yields s (n + 1) (returnStatement g) := by
  unfold returnStatement
  refine fun c₀ => .opening .expectFirst ?_
  refine .look fun _ => .look fun _ => .look fun _ => .look fun _ => ?_
  refine .branch (Q := fun r : Ref => Row s (n + 1) c₀ 1 r.toList) (fun _ => ?_) (fun _ => ?_)
    fun argument => ?_
  · exact .pure fun _ row => row
  · refine .map (((expression_yields sound).call (by omega)).post fun _ _ row => ?_)
    exact row.least (by omega)
  · exact Runs.semicolon.bind fun _ => .node (by simp) (by omega)

theorem throwStatement_yields : Yields s (n + 1) (throwStatement g) := by
  unfold throwStatement
  refine fun c₀ => .opening .expectFirst ?_
  refine (expression_yields sound).andThen (by omega) fun argument => ?_
  exact Runs.semicolon.bind fun _ => .other (by simp) (by omega)

theorem whileStatement_yields : Yields s (n + 1) (whileStatement g) := by
  unfold whileStatement
  refine fun c₀ => .opening .expectFirst (.skip .expect ?_)
  refine (expression_yields sound).andThen (by omega) fun test => .skip .expect ?_
  exact sound.statement.andThen (by omega) fun body => .other (by simp) (by omega)

omit sound in
theorem told {p : Parser NodeId} (h : Runs (Row s n c₀ 0 []) p fun id => Row s n c₀ 1 [id]) :
    Runs (At s n c₀) (some <$> p) fun o => o.elim (At s n c₀) fun id => Row s n c₀ 1 [id] :=
  .map (h.pre fun _ => At.row)

omit sound in
theorem toldIf {b : Prop} [Decidable b] {p : Parser (Option NodeId)}
    (h : Runs (At s n c₀) p fun o => o.elim (At s n c₀) fun id => Row s n c₀ 1 [id]) :
    Runs (At s n c₀) (if b then p else pure none)
      fun o => o.elim (At s n c₀) fun id => Row s n c₀ 1 [id] :=
  .ite (fun _ => h) fun _ => .pure fun _ here => here

/-- If the first words do not tell a statement, nothing has been read. -/
theorem keywordStatement?_runs :
    Runs (At s (n + 1) c₀) (keywordStatement? g c₀.peek)
      fun o => o.elim (At s (n + 1) c₀) fun id => Row s (n + 1) c₀ 1 [id] := by
  have afterWord {p : Parser NodeId}
      (h : Runs (Row s (n + 1) c₀ 0 []) p fun id => Row s (n + 1) c₀ 1 [id]) :
      Runs (At s (n + 1) c₀) (discard advance >>= fun _ => some <$> p)
        fun o => o.elim (At s (n + 1) c₀) fun id => Row s (n + 1) c₀ 1 [id] :=
    .pre (.skip .step (.map h)) fun _ => At.row
  unfold keywordStatement?
  refine .ite (fun _ => .pure fun _ here => here) fun _ => .look fun next => ?_
  split
  case h_1 => exact .ite (fun _ => .pure fun _ here => here) fun _ => told importDeclaration_row
  case h_2 => exact .map (exportDeclaration_yields sound c₀)
  case h_3 => exact told (function_row sound)
  case h_4 => exact toldIf (afterWord (function_row sound))
  case h_5 => exact told (classNode_row sound)
  case h_6 => exact toldIf (afterWord (classNode_row sound))
  case h_7 => exact toldIf (told (interfaceDeclaration_row sound))
  case h_8 => exact .look fun third => toldIf (told (typeAlias_row sound))
  case h_9 | h_10 | h_11 => exact toldIf (told (variableDeclaration_row sound))
  case h_12 => exact .map (ifStatement_yields sound c₀)
  case h_13 => exact .map (tryStatement_yields sound c₀)
  case h_14 => exact .map (returnStatement_yields sound c₀)
  case h_15 => exact .map (throwStatement_yields sound c₀)
  case h_16 => exact .map (whileStatement_yields sound c₀)
  case h_17 => exact .pure fun _ here => here

theorem statement_yields : Yields s (n + 1) (statement g) := by
  unfold statement
  refine fun c₀ => .peek ((keywordStatement?_runs sound).bind fun o => ?_)
  cases o with
  | some id => exact .pure fun _ row => row
  | none =>
    refine .look fun _ => .ite (fun _ => blockStatement_yields sound c₀) fun _ => ?_
    refine .eatFirst (.other (by simp) (by omega)) ?_
    refine .bind (expression_yields sound c₀) fun expr => ?_
    exact Runs.semicolon.bind fun _ => .node (by simp) (by simp)

end TreeLint.Script.Parser
