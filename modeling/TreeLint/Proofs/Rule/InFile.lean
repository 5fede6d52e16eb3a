import TreeLint.Proofs.Diagnostic.InFile
import TreeLint.Rule.Registry

/-! # Findings in another file

What a rule finds is found in the spans, texts and names of the tree it looks at.  In the
same tree of another file the findings are the same, moved there; the lemmas say so of the
parts of each rule, from the questions it asks of the tree up to the findings at one node.
The rule about comments on queries only gets as far as the name it puts into a comment:
where the comment goes may be a hole, which is in no file.
-/

namespace TreeLint

def Finding.inFile (file : FileId) (f : Finding) : Finding :=
  { f with span := f.span.inFile file, fix := f.fix.map (Fix.inFile file) }

namespace Rule

/-- What a step gives, with its findings in another file. -/
def resultInFile (file : FileId) (r : Memory × List Finding) : Memory × List Finding :=
  (r.1, r.2.map (Finding.inFile file))

section Findings

variable {t : Tree} {here : FileId} (h : t.inFile here = t) (there : FileId)

/-! ## Returned promises -/

namespace ReturnAwait

theorem reachesAsyncTry_inFile (t : Tree) (inTry : Bool) (child : NodeId) (way : List NodeId) :
    reachesAsyncTry (t.inFile there) inTry child way = reachesAsyncTry t inTry child way := by
  induction way generalizing inTry child with
  | nil => rfl
  | cons node rest ih =>
    simp only [reachesAsyncTry, Tree.function?_inFile, Tree.tryBlock?_inFile, ih]

theorem insideAsyncTry_inFile (t : Tree) (id : NodeId) :
    insideAsyncTry (t.inFile there) id = insideAsyncTry t id := by
  simp only [insideAsyncTry, Tree.ancestors_inFile, reachesAsyncTry_inFile]

theorem returnFindings_inFile (t : Tree) (id : NodeId) :
    returnFindings (t.inFile there) id = (returnFindings t id).map (Finding.inFile there) := by
  simp only [returnFindings, insideAsyncTry_inFile, Tree.target_inFile, Tree.hasKind_inFile]
  cases call : t.hasKind (t.target (some id)) .callExpression && insideAsyncTry t id with
  | false => rfl
  | true =>
    rw [Tree.span_of_deref? there t (Tree.deref?_of_hasKind (Bool.and_eq_true_iff.mp call).1)]
    rfl

end ReturnAwait

/-! ## Properties -/

theorem dottedProperty?_inFile (t : Tree) (r : Ref) :
    dottedProperty? (t.inFile there) r = dottedProperty? t r := by
  simp [dottedProperty?]

namespace UnboundedConcurrency

theorem isUnbounded_inFile (t : Tree) (c : Call) :
    isUnbounded (t.inFile there) c = isUnbounded t c := by
  simp only [isUnbounded, Tree.member?_inFile, Tree.isIdentifier_inFile, dottedProperty?_inFile,
    Tree.call?_inFile]

theorem callFindings_inFile (t : Tree) (id : NodeId) :
    callFindings (t.inFile there) id = (callFindings t id).map (Finding.inFile there) := by
  have unbounded : isUnbounded (t.inFile there) = isUnbounded t :=
    funext (isUnbounded_inFile there t)
  simp only [callFindings, Tree.call?_inFile, unbounded]
  cases unbounded : (t.call? (some id)).any (isUnbounded t) with
  | false => rfl
  | true =>
    obtain ⟨c, found, -⟩ := (Option.any_eq_true _ _).mp unbounded
    rw [Tree.span_of_deref? there t (Tree.deref?_of_part? found)]
    rfl

end UnboundedConcurrency

namespace EventProperty

variable (t : Tree)

theorem implementsEvent_inFile (c : ClassNode) :
    implementsEvent (t.inFile there) c = implementsEvent t c := by
  simp only [implementsEvent, Tree.target_inFile, Tree.isIdentifier_inFile]

theorem properties?_inFile (c : ClassNode) : properties? (t.inFile there) c = properties? t c := by
  simp only [properties?, Tree.items_inFile, Tree.propertyDefinition?_inFile,
    Tree.isIdentifier_inFile]

theorem typeDeclares_inFile (type : Ref) (key : Text) :
    typeDeclares (t.inFile there) type key = typeDeclares t type key := by
  simp only [typeDeclares, Tree.hasKind_inFile, Tree.items_inFile,
    Tree.propertySignature?_inFile, Tree.keyName?_inFile]

theorem objectDeclares_inFile (value : Ref) (key : Text) :
    objectDeclares (t.inFile there) value key = objectDeclares t value key := by
  simp only [objectDeclares, Tree.hasKind_inFile, Tree.items_inFile, Tree.property?_inFile,
    Tree.keyName?_inFile]

theorem referredInterface?_inFile (type : Ref) :
    referredInterface? (t.inFile there) type = referredInterface? t type := by
  have reference := funext (Tree.typeReference?_inFile there t)
  simp only [referredInterface?, Tree.hasKind_inFile, Tree.items_inFile, reference,
    Tree.name_inFile]

theorem statements_inFile (program : Ref) :
    (((t.inFile there).program? program).map Program.body).getD []
      = ((t.program? program).map Program.body).getD [] := by
  rw [Tree.program?_inFile, Option.map_map]
  rfl

theorem exportedInterface?_inFile (program : Ref) (name : Text) :
    exportedInterface? (t.inFile there) program name = exportedInterface? t program name := by
  simp only [exportedInterface?, statements_inFile, Tree.exportNamed?_inFile,
    Tree.interface?_inFile, Tree.isIdentifier_inFile]

theorem interfaceDeclares_inFile (i : InterfaceNode) (key : Text) :
    interfaceDeclares (t.inFile there) i key = interfaceDeclares t i key := by
  simp only [interfaceDeclares, Tree.items_inFile, Tree.propertySignature?_inFile,
    Tree.isIdentifier_inFile]

theorem declares_inFile (key : Text) (viaInterface : Bool) (field : Ref)
    (d : PropertyDefinition) :
    declares (t.inFile there) key viaInterface field d = declares t key viaInterface field d := by
  simp only [declares, typeDeclares_inFile, objectDeclares_inFile, referredInterface?_inFile,
    exportedInterface?_inFile, Tree.enclosingProgram_inFile, interfaceDeclares_inFile]

theorem classFindings_inFile {c : Context} {g : File} (path : g.path = c.file.path) (key : Text)
    (viaInterface : Bool) {id : NodeId} (present : (c.tree.deref? (some id)).isSome) :
    classFindings ⟨c.tree.inFile there, g, c.cwd, c.options⟩ key viaInterface id
      = (classFindings c key viaInterface id).map (Finding.inFile there) := by
  simp only [classFindings, path, Tree.class?_inFile, properties?_inFile, declares_inFile,
    implementsEvent_inFile, Tree.name_inFile, Tree.span_of_deref? there c.tree present]
  split
  · rfl
  cases c.tree.class? (some id) with
  | none => rfl
  | some cls =>
    simp only
    split <;> rfl

end EventProperty

/-! ## Exports -/

namespace ExportInline

variable (t : Tree)

theorem isModuleMark_inFile (r : Ref) : isModuleMark (t.inFile there) r = isModuleMark t r := by
  simp only [isModuleMark, isExportAll, Tree.kind?_inFile, Tree.otherType?_inFile]

theorem functionNamed?_inFile (body : List Ref) (name : Text) :
    functionNamed? (t.inFile there) body name = functionNamed? t body name := by
  simp only [functionNamed?, Tree.hasKind_inFile, Tree.function?_inFile, Tree.name_inFile]

theorem withComma_inFile (content : Text) (s : Span) :
    withComma content (s.inFile there) = (withComma content s).inFile there := by
  simp only [withComma, Span.inFile_stop]
  split <;> rfl

theorem withComma_file (content : Text) (s : Span) : (withComma content s).file = s.file := by
  simp only [withComma]
  split <;> rfl

/-- Decisions that are made item by item may be moved item by item. -/
theorem mapM_eq_map {α β : Type} {f f' : α → Except Fault β} {move : β → β}
    (each : ∀ a, f' a = (f a).map move) (l : List α) :
    l.mapM f' = (l.mapM f).map (List.map move) := by
  induction l with
  | nil => rfl
  | cons a l ih =>
    rw [List.mapM_cons, List.mapM_cons, each, ih]
    cases f a with
    | error e => rfl
    | ok b => cases l.mapM f <;> rfl

variable {c : Context} {g : File}

theorem specifierFinding?_inFile (h : c.tree.inFile here = c.tree)
    (content : g.content = c.file.content) (body : List Ref) {r : Ref} {s : ExportSpecifier}
    (found : c.tree.exportSpecifier? r = some s) :
    specifierFinding? ⟨c.tree.inFile there, g, c.cwd, c.options⟩ body r s
      = (specifierFinding? c body r s).map (Finding.inFile there) := by
  have present := Tree.deref?_of_part? found
  simp only [specifierFinding?, functionNamed?_inFile, Tree.name_inFile, content]
  split
  · rfl
  cases named : functionNamed? c.tree body (c.tree.name s.localName) with
  | none => rfl
  | some f =>
    have kind := List.find?_some named
    simp only [Bool.and_eq_true] at kind
    have declared := Tree.deref?_of_hasKind kind.1.1
    have own : ∀ e ∈ [Edit.delete (withComma c.file.content (c.tree.span r)),
        Edit.insertBefore (c.tree.span f) "export "], e.span.file = here := by
      simp only [List.mem_cons, List.not_mem_nil, or_false, forall_eq_or_imp, forall_eq]
      exact ⟨(withComma_file _ _).trans (Tree.span_file h present), Tree.span_file h declared⟩
    have fix := Fix.compose_inFile "export inline" _ own there
    simp only [Option.map_some, Finding.inFile, ← fix, Tree.span_of_deref? there c.tree present,
      Tree.span_of_deref? there c.tree declared, withComma_inFile]
    rfl

theorem itemFinding?_inFile (h : c.tree.inFile here = c.tree)
    (content : g.content = c.file.content) (body : List Ref) (r s : Ref) :
    itemFinding? ⟨c.tree.inFile there, g, c.cwd, c.options⟩ body r s
      = (itemFinding? c body r s).map (Option.map (Finding.inFile there)) := by
  simp only [itemFinding?, Tree.exportSpecifier?_inFile]
  cases named : c.tree.exportSpecifier? s with
  | none => rfl
  | some spec =>
    simp only
    rw [specifierFinding?_inFile there h content body named]
    rfl

theorem statementFindings_inFile (h : c.tree.inFile here = c.tree)
    (content : g.content = c.file.content) (body : List Ref) (r : Ref) :
    statementFindings ⟨c.tree.inFile there, g, c.cwd, c.options⟩ body r
      = (statementFindings c body r).map (List.map (Finding.inFile there)) := by
  have mark := funext (isModuleMark_inFile there c.tree)
  simp only [statementFindings, Tree.exportNamed?_inFile, mark]
  cases found : c.tree.exportNamed? r with
  | none => rfl
  | some d =>
    simp only
    split
    · rfl
    split
    · split
      · rw [Tree.span_of_deref? there c.tree (Tree.deref?_of_part? found)]
        rfl
      · rfl
    · rw [mapM_eq_map (itemFinding?_inFile there h content body r)]
      cases d.specifiers.mapM (itemFinding? c body r) with
      | error e => rfl
      | ok items =>
        refine congrArg Except.ok ?_
        rw [List.map_filterMap, List.filterMap_map]
        rfl

theorem programFindings_inFile (h : c.tree.inFile here = c.tree)
    (content : g.content = c.file.content) (id : NodeId) :
    programFindings ⟨c.tree.inFile there, g, c.cwd, c.options⟩ id
      = (programFindings c id).map (List.map (Finding.inFile there)) := by
  simp only [programFindings, EventProperty.statements_inFile]
  rw [mapM_eq_map (statementFindings_inFile there h content _)]
  cases List.mapM (statementFindings c _) _ with
  | error e => rfl
  | ok found => exact congrArg Except.ok List.map_flatten.symm

end ExportInline

/-! ## Imports -/

namespace ImportStyle

theorem finding_inFile (t : Tree) {id : NodeId} (present : (t.deref? (some id)).isSome)
    (title : Text) (replacement? : Option Text) :
    finding (t.inFile there) id title replacement?
      = (finding t id title replacement?).inFile there := by
  rw [finding, Tree.span_of_deref? there t present]
  cases replacement? <;> rfl

variable {c : Context} {g : File}

theorem namespaceFindings_inFile (path : g.path = c.file.path) (accepts : Matcher)
    (pairs : List Pair) {id : NodeId} (present : (c.tree.deref? (some id)).isSome) :
    namespaceFindings ⟨c.tree.inFile there, g, c.cwd, c.options⟩ accepts pairs id
      = (namespaceFindings c accepts pairs id).map (Finding.inFile there) := by
  simp only [namespaceFindings, Context.absoluteDir, Context.absolutePath, path,
    Tree.importDeclaration?_inFile, Tree.importSpecifier?_inFile, Tree.stringValue?_inFile,
    Tree.literal?_inFile, Tree.name_inFile, finding_inFile there c.tree present]
  split
  · split <;> rfl
  · rfl

theorem equalsFindings_inFile (c : Context) (g : File) (pairs : List Pair) {id : NodeId}
    (present : (c.tree.deref? (some id)).isSome) :
    equalsFindings ⟨c.tree.inFile there, g, c.cwd, c.options⟩ pairs id
      = (equalsFindings c pairs id).map (Finding.inFile there) := by
  simp only [equalsFindings, Tree.importEquals?_inFile, Tree.hasKind_inFile,
    Tree.literal?_inFile, Tree.target_inFile, Tree.name_inFile,
    finding_inFile there c.tree present]
  split
  · rfl
  split
  · rfl
  · split <;> rfl

end ImportStyle

/-! ## Types of parameters -/

namespace ParamTypes

theorem importedNames_inFile (t : Tree) (id : NodeId) :
    importedNames (t.inFile there) id = importedNames t id := by
  simp only [importedNames, EventProperty.statements_inFile, Tree.importDeclaration?_inFile,
    Tree.importSpecifier?_inFile, Tree.name_inFile]

variable {t : Tree}

theorem fix_inFile (h : t.inFile here = t) (root : (t.deref? t.root).isSome) {param : Ref}
    (present : (t.deref? param).isSome) (f : TypeFix) (imported : Memory) :
    fix (t.inFile there) param f imported = (fix t param f imported).map (Fix.inFile there) := by
  simp only [fix, Tree.root_inFile, Tree.span_of_deref? there t root,
    Tree.span_of_deref? there t present]
  split
  · refine Eq.trans ?_ (Fix.compose_inFile "add parameter type" here ?_ there)
    · rfl
    · simp only [List.nil_append, List.mem_cons, List.not_mem_nil, or_false, forall_eq]
      exact Tree.span_file h present
  · refine Eq.trans ?_ (Fix.compose_inFile "add parameter type" here ?_ there)
    · rfl
    · simp only [List.cons_append, List.nil_append, List.mem_cons, List.not_mem_nil, or_false,
        forall_eq_or_imp, forall_eq]
      exact ⟨Tree.span_file h root, Tree.span_file h present⟩

theorem paramFindings_inFile (h : t.inFile here = t) (root : (t.deref? t.root).isSome)
    (s : Settings) {id : NodeId} (present : (t.deref? (some id)).isSome) (imported : Memory)
    (param : Ref) :
    paramFindings (t.inFile there) s id imported param
      = resultInFile there (paramFindings t s id imported param) := by
  simp only [paramFindings, Tree.identifier?_inFile, Tree.name_inFile]
  cases found : t.identifier? param with
  | none => rfl
  | some i =>
    have fixed : ∀ f, fix (t.inFile there) param f imported
        = (fix t param f imported).map (Fix.inFile there) :=
      fun f => fix_inFile there h root (Tree.deref?_of_part? found) f imported
    simp only
    split
    · rfl
    · cases s.fixes.find? fun f => f.pattern.isMatch (t.name param) with
      | none => simp [resultInFile, Finding.inFile, Tree.span_of_deref? there t present]
      | some f =>
        simp only [Option.bind_some, fixed, Tree.span_of_deref? there t present]
        cases fix t param f imported <;> rfl

theorem paramsFindings_inFile (h : t.inFile here = t) (root : (t.deref? t.root).isSome)
    (s : Settings) {id : NodeId} (present : (t.deref? (some id)).isSome) (imported : Memory)
    (params : List Ref) :
    paramsFindings (t.inFile there) s id imported params
      = resultInFile there (paramsFindings t s id imported params) := by
  induction params generalizing imported with
  | nil => rfl
  | cons p ps ih =>
    simp only [paramsFindings, paramFindings_inFile there h root s present, ih, resultInFile,
      List.map_append]

theorem settings_eq (c : Context) (g : File) (path : g.path = c.file.path) :
    settings ⟨c.tree.inFile there, g, c.cwd, c.options⟩ = settings c := by
  have fix : typeFix ⟨c.tree.inFile there, g, c.cwd, c.options⟩ = typeFix c := by
    funext pattern entry
    simp only [typeFix, Context.absoluteDir, Context.absolutePath, path]
  simp only [settings, fix]

end ParamTypes

/-! ## Comments on queries -/

namespace SequelizeComment

variable (t : Tree)

theorem hasIdentifierKey_inFile (object : Ref) (name : Text) :
    hasIdentifierKey (t.inFile there) object name = hasIdentifierKey t object name := by
  simp only [hasIdentifierKey, Tree.items_inFile, Tree.property?_inFile,
    Tree.isIdentifier_inFile]

theorem routeName?_inFile (r : Ref) : routeName? (t.inFile there) r = routeName? t r := by
  simp only [routeName?, Tree.call?_inFile, Tree.member?_inFile, Tree.literal?_inFile,
    Tree.isIdentifier_inFile, Tree.hasKind_inFile, Tree.name_inFile]

theorem scopeName?_inFile (id : NodeId) : scopeName? (t.inFile there) id = scopeName? t id := by
  simp only [scopeName?, Tree.kind?_inFile, Tree.function?_inFile, Tree.name_inFile,
    Tree.parent_inFile, Tree.declared?_inFile, Tree.hasKind_inFile, routeName?_inFile,
    Tree.methodDefinition?_inFile]

theorem enclosingName_inFile (id : NodeId) :
    enclosingName (t.inFile there) id = enclosingName t id := by
  have scope := funext (scopeName?_inFile there t)
  simp only [enclosingName, Tree.ancestors_inFile, scope]

end SequelizeComment

end Findings
end Rule
end TreeLint
