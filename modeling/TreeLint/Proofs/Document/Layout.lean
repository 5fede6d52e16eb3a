import TreeLint.Document.Decode

/-! # The layout of a node

Every type of node is decoded by one plan: some fields are read for children, then the
range of the node, then the other fields, and the node is added above what was found.
A `Slot` is one of the fields, or one of the pairs of fields that may share a node, and
`before` and `after` say for each kind which slots are read on which side of the range.
`nodeWith_eq` says that a node is decoded by the plan for its kind, so what holds of the
reading of slots and of the adding of a node holds of decoding.

`Runs` is how such things are said: from this tree the decoder either gives a value and
a tree with one property, or stops at a fault with another.
-/

namespace TreeLint.Document

/-! ## Runs of a decoder -/

/-- From the tree the decoder gives a value and a tree as described, or such a fault. -/
def Runs {α : Type} (s : Setting) (t : Tree) (d : Decoder α) (Q : α → Tree → Prop)
    (E : Fault → Prop) : Prop :=
  match d s t with
  | .ok (a, t') => Q a t'
  | .error failure => E failure.fault

namespace Runs

variable {α β : Type} {s : Setting} {t : Tree} {E : Fault → Prop}

theorem pure {a : α} {Q : α → Tree → Prop} (h : Q a t) : Runs s t (Pure.pure a) Q E := h

theorem fail {f : Fault} {Q : α → Tree → Prop} (h : E f) : Runs s t (Document.fail f) Q E := h

theorem bind {d : Decoder α} {k : α → Decoder β} {Q : α → Tree → Prop} {R : β → Tree → Prop}
    (h : Runs s t d Q E) (h' : ∀ a t', Q a t' → Runs s t' (k a) R E) :
    Runs s t (d >>= k) R E := by
  simp only [Runs, Bind.bind, ReaderT.bind, StateT.bind, Except.bind] at h ⊢
  cases first : d s t with
  | error f => simpa only [first] using h
  | ok result =>
    simp only [first] at h
    exact h' result.1 result.2 h

theorem mono {d : Decoder α} {Q R : α → Tree → Prop} {F : Fault → Prop} (h : Runs s t d Q E)
    (weaker : ∀ a t', Q a t' → R a t') (faults : ∀ f, E f → F f) : Runs s t d R F := by
  unfold Runs at h ⊢
  split at h
  · exact weaker _ _ h
  · exact faults _ h

theorem and {d : Decoder α} {Q R : α → Tree → Prop} {F : Fault → Prop} (h : Runs s t d Q E)
    (h' : Runs s t d R F) : Runs s t d (fun a t' => Q a t' ∧ R a t') fun f => E f ∧ F f := by
  unfold Runs at h h' ⊢
  split
  next ok =>
    rw [ok] at h h'
    exact ⟨h, h'⟩
  next error =>
    rw [error] at h h'
    exact ⟨h, h'⟩

theorem imp {d : Decoder α} {Q R : α → Tree → Prop} (h : Runs s t d Q E)
    (weaker : ∀ a t', Q a t' → R a t') : Runs s t d R E :=
  h.mono weaker fun _ => id

theorem of_ok {d : Decoder α} {Q : α → Tree → Prop} {a : α} {t' : Tree} (h : Runs s t d Q E)
    (ok : d s t = .ok (a, t')) : Q a t' := by
  rwa [Runs, ok] at h

theorem of_error {d : Decoder α} {Q : α → Tree → Prop} {f : Failure} (h : Runs s t d Q E)
    (error : d s t = .error f) : E f.fault := by
  rwa [Runs, error] at h

/-- A list is decoded item by item; what is known of the items done, their values and the
tree so far is kept by each. -/
theorem mapM {d : α → Decoder β} {xs : List α} {I : List α → List β → Tree → Prop}
    (h : ∀ x ∈ xs, ∀ (done : List α) (ys : List β) (t : Tree), I done ys t →
      Runs s t (d x) (fun y t' => I (done ++ [x]) (ys ++ [y]) t') E)
    (start : I [] [] t) : Runs s t (xs.mapM d) (I xs) E := by
  suffices step : ∀ (done : List α) (ys : List β) (t : Tree), I done ys t →
      Runs s t (xs.mapM d) (fun zs t' => I (done ++ xs) (ys ++ zs) t') E from step [] [] t start
  induction xs with
  | nil =>
    intro done ys t start
    rw [List.mapM_nil]
    exact pure (by rwa [List.append_nil, List.append_nil])
  | cons x xs ih =>
    intro done ys t start
    rw [List.mapM_cons]
    refine (h x List.mem_cons_self done ys t start).bind fun y t' next => ?_
    refine (ih (fun x mem => h x (List.mem_cons_of_mem _ mem)) _ _ t' next).bind fun zs t'' last => ?_
    refine pure ?_
    rwa [List.append_assoc, List.append_assoc] at last

end Runs

/-! ## Ranges

Reading a range leaves the tree as it is, and fails for other reasons than that two ranges
cannot be compared. -/

/-- The range of a node has two numbers. -/
def Numbered (o : Fields) : Prop :=
  ∃ a b, o.value? "range" = some (.array [.number a, .number b])

/-- Two fields hold nodes with identical ranges. -/
def identical (o : Fields) (first second : Text) : Bool :=
  match nodeField? o first, nodeField? o second with
  | some a, some b =>
    match a.value? "range", b.value? "range" with
    | some (.array [a0, a1]), some (.array [b0, b1]) =>
      sameEntry? a0 b0 == some true && sameEntry? a1 b1 == some true
    | _, _ => false
  | _, _ => false

section

variable {s : Setting} {t : Tree}

theorem offset_runs (v : Json) :
    Runs s t (offset v) (fun _ t' => t = t' ∧ ∃ digits, v = .number digits)
      (· ≠ .incomparable) := by
  unfold offset
  split
  next digits =>
    split
    · exact .fail (by simp)
    · split
      · exact .fail (by simp)
      · refine Runs.bind (Q := fun _ t' => t = t') rfl fun setting t' same => ?_
        simp only
        split
        · exact .pure ⟨same, digits, rfl⟩
        · exact .fail (by simp)
  · exact .fail (by simp)

theorem span_runs (o : Fields) :
    Runs s t (span o) (fun _ t' => t = t' ∧ Numbered o) (· ≠ .incomparable) := by
  unfold span
  split
  next first last found =>
    refine (offset_runs first).bind ?_
    rintro start _ ⟨rfl, a, rfl⟩
    refine (offset_runs last).bind ?_
    rintro stop _ ⟨rfl, b, rfl⟩
    have numbered : Numbered o := ⟨a, b, found⟩
    split
    · exact .fail (by simp)
    · exact Runs.bind (Q := fun _ t' => t = t') rfl fun _ _ same => .pure ⟨same, numbered⟩
  · exact .fail (by simp)

theorem sameRange_runs (o : Fields) (first second : Text) :
    Runs s t (sameRange o first second) (fun b t' => t = t' ∧ b = identical o first second)
      (· = .incomparable) := by
  cases fieldA : nodeField? o first with
  | none =>
    simp only [sameRange, identical, fieldA]
    exact .pure ⟨rfl, rfl⟩
  | some a =>
    cases fieldB : nodeField? o second with
    | none =>
      simp only [sameRange, identical, fieldA, fieldB]
      exact .pure ⟨rfl, rfl⟩
    | some b =>
      by_cases numbered : ∃ a0 a1 b0 b1, a.value? "range" = some (.array [a0, a1]) ∧
          b.value? "range" = some (.array [b0, b1])
      · obtain ⟨a0, a1, b0, b1, rangeA, rangeB⟩ := numbered
        simp only [sameRange, identical, fieldA, fieldB, rangeA, rangeB]
        cases start : sameEntry? a0 b0 with
        | none => exact .fail rfl
        | some same =>
          cases same with
          | false => exact .pure ⟨rfl, rfl⟩
          | true =>
            cases stop : sameEntry? a1 b1 with
            | none => exact .fail rfl
            | some same => cases same <;> exact .pure ⟨rfl, rfl⟩
      · have apart : identical o first second = false := by
          simp only [identical, fieldA, fieldB]
          split
          next rangeA rangeB => exact absurd ⟨_, _, _, _, rangeA, rangeB⟩ numbered
          · rfl
        have skipped : sameRange o first second = pure false := by
          simp only [sameRange, fieldA, fieldB]
          split
          next rangeA rangeB => exact absurd ⟨_, _, _, _, rangeA, rangeB⟩ numbered
          · rfl
        rw [apart, skipped]
        exact .pure ⟨rfl, rfl⟩

theorem candidates_runs (vs : List Json) :
    Runs s t (candidates vs)
      (fun cs t' => t = t' ∧ ∀ c ∈ cs, ∃ v ∈ vs, node? v = some c.node) (· ≠ .incomparable) := by
  induction vs generalizing t with
  | nil => exact .pure ⟨rfl, fun c mem => absurd mem List.not_mem_nil⟩
  | cons v vs ih =>
    have later : ∀ {cs : List Candidate}, (∀ c ∈ cs, ∃ w ∈ vs, node? w = some c.node) →
        ∀ c ∈ cs, ∃ w ∈ v :: vs, node? w = some c.node := by
      intro cs among c mem
      obtain ⟨w, value, node⟩ := among c mem
      exact ⟨w, List.mem_cons_of_mem _ value, node⟩
    unfold candidates
    split
    next n node =>
      refine (span_runs n).bind ?_
      rintro sp _ ⟨rfl, -⟩
      refine ih.bind fun cs t' found => .pure ⟨found.1, fun c mem => ?_⟩
      obtain rfl | mem := List.mem_cons.mp mem
      · exact ⟨v, List.mem_cons_self, node⟩
      · exact later found.2 c mem
    · exact ih.imp fun cs _ found => ⟨found.1, later found.2⟩

theorem comments_runs (vs : List Json) :
    Runs s t (comments vs) (fun _ t' => t = t') (· ≠ .incomparable) := by
  induction vs generalizing t with
  | nil => exact .pure rfl
  | cons v vs ih =>
    unfold comments
    split
    · exact .pure rfl
    next eq =>
      cases eq
      refine (span_runs _).bind ?_
      rintro sp _ ⟨rfl, -⟩
      exact ih.bind fun _ _ same => .pure same
    next eq =>
      cases eq
      exact ih

end

/-- The key of a shorthand property is the left side of its value, if that is a pair. -/
theorem shorthandKey_ok (value : Ref) (s : Setting) (t : Tree) :
    ∃ key, shorthandKey value s t = .ok (key, t) ∧
      ((∃ n form right, t.deref? value = some n ∧ n.shape = .pair form key right) ∨
        key = value ∧ ∀ n form left right, t.deref? value = some n →
          n.shape ≠ .pair form left right) := by
  simp only [shorthandKey, bind, ReaderT.bind, StateT.bind, get, getThe, MonadStateOf.get, liftM,
    monadLift, MonadLift.monadLift, StateT.get, pure, Except.pure, Except.bind]
  cases found : t.deref? value with
  | none => exact ⟨value, rfl, .inr ⟨rfl, by simp⟩⟩
  | some n =>
    obtain ⟨span, parent, shape⟩ := n
    cases shape with
    | pair form left right => exact ⟨left, rfl, .inl ⟨_, form, right, rfl, rfl⟩⟩
    | _ =>
      refine ⟨value, rfl, .inr ⟨rfl, ?_⟩⟩
      rintro _ _ _ _ ⟨⟩
      simp

theorem apart_sublist (previous? : Option UInt32) (cs : List Candidate) :
    (apart previous? cs).Sublist cs := by
  induction cs generalizing previous? with
  | nil => exact .slnil
  | cons c cs ih =>
    rw [apart]
    split
    · exact (ih previous?).cons c
    · exact (ih _).cons_cons c

/-! ## Slots -/

/-- Where a node looks for children. -/
inductive Slot where
  | child (key : Text)
  | list (key : Text)
  | type (key : Text)
  | typeArguments
  /-- The two names of an import specifier. -/
  | imported
  /-- The two names of an export specifier. -/
  | exported
  /-- The key and the value of a property. -/
  | entry
  /-- All fields of a node without a kind of its own. -/
  | rest

/-- Reads the children of a slot, in the order of the fields of the node. -/
def Slot.read (decode : NodeDecoder) (o : Fields) : Slot → Decoder (List Ref)
  | child key => do return [← Document.child decode o key]
  | list key => Document.list decode o key
  | type key => do return [← typeField decode o key]
  | typeArguments => Document.typeArguments decode o
  | imported => do
    let localName ← Document.child decode o "local"
    let imported ← secondName decode o "imported" localName
    return [imported, localName]
  | exported => do
    let localName ← Document.child decode o "local"
    let exported ← secondName decode o "exported" localName
    return [localName, exported]
  | entry => do
    let (key, value) ← keyAndValue decode o
    return [key, value]
  | rest => do
    let found ← candidates (fieldValues o)
    let children ← (apart none (found.mergeSort Candidate.before)).mapM fun c => decode c.node
    return children.map some

/-- The slots of a kind that are read before the range of the node. -/
def before : Kind → List Slot
  | .importDeclaration => [.list "specifiers", .child "source"]
  | .importSpecifier => [.imported]
  | .tsImportEqualsDeclaration => [.child "id", .child "moduleReference"]
  | .exportNamedDeclaration => [.child "declaration", .list "specifiers", .child "source"]
  | .exportSpecifier => [.exported]
  | .classDeclaration | .classExpression =>
    [.child "id", .child "superClass", .list "implements", .child "body"]
  | .propertyDefinition => [.child "key", .type "typeAnnotation", .child "value"]
  | .functionDeclaration | .functionExpression | .arrowFunctionExpression =>
    [.child "id", .list "params", .type "returnType", .child "body"]
  | .variableDeclarator => [.child "id"]
  | .tsInterfaceDeclaration => [.child "id", .list "extends"]
  | .tsTypeAliasDeclaration => [.child "id"]
  | .ifStatement => [.child "test", .child "consequent"]
  | .tryStatement => [.child "block", .child "handler"]
  | .catchClause => [.child "param"]
  | .property => [.entry]
  | .callExpression | .newExpression => [.child "callee"]
  | .memberExpression => [.child "object"]
  | .assignmentPattern | .tsQualifiedName => [.child "left"]
  | .tsTypeReference => [.child "typeName"]
  | .other => [.rest]
  | _ => []

/-- The slots of a kind that are read after the range of the node. -/
def after : Kind → List Slot
  | .importDefaultSpecifier | .importNamespaceSpecifier => [.child "local"]
  | .tsExternalModuleReference => [.child (wrapField .moduleReference)]
  | .exportDefaultDeclaration => [.child (wrapField .exportDefault)]
  | .tsClassImplements => [.child (wrapField .implements)]
  | .expressionStatement => [.child (wrapField .expressionStatement)]
  | .returnStatement => [.child (wrapField .returnStatement)]
  | .spreadElement => [.child (wrapField .spread)]
  | .awaitExpression => [.child (wrapField .await)]
  | .restElement => [.child (wrapField .rest)]
  | .tsArrayType => [.child (wrapField .arrayType)]
  | .tsLiteralType => [.child (wrapField .literalType)]
  | .classBody => [.list (listField .classBody)]
  | .tsInterfaceBody => [.list (listField .interfaceBody)]
  | .blockStatement => [.list (listField .block)]
  | .objectExpression => [.list (listField .object)]
  | .arrayExpression => [.list (listField .array)]
  | .objectPattern => [.list (listField .objectPattern)]
  | .arrayPattern => [.list (listField .arrayPattern)]
  | .tsTypeLiteral => [.list (listField .typeLiteral)]
  | .tsIntersectionType => [.list (listField .intersection)]
  | .tsUnionType => [.list (listField .union)]
  | .methodDefinition => [.child "key", .child "value"]
  | .variableDeclaration => [.list "declarations"]
  | .variableDeclarator => [.child "init"]
  | .tsInterfaceDeclaration => [.child "body"]
  | .tsTypeAliasDeclaration => [.child "typeAnnotation"]
  | .ifStatement => [.child "alternate"]
  | .tryStatement => [.child "finalizer"]
  | .catchClause => [.child "body"]
  | .identifier => [.type "typeAnnotation"]
  | .callExpression | .newExpression => [.list "arguments"]
  | .memberExpression => [.child "property"]
  | .assignmentPattern | .tsQualifiedName => [.child "right"]
  | .tsTypeReference => [.typeArguments]
  | .tsPropertySignature => [.child "key", .type "typeAnnotation"]
  | _ => []

theorem entry_of_mem_before {k : Kind} (h : .entry ∈ before k) : k = .property := by
  cases k with
  | property => rfl
  | _ => nomatch h

theorem entry_not_mem_after (k : Kind) : .entry ∉ after k := by
  cases k <;> nofun

/-! ## Shapes

The shape of a node is put together from what was found in its slots.  The slots of its
kind always find what the shape asks for; with anything else it is that of a node
without a kind of its own. -/

section Shapes

variable (o : Fields)

def otherShape (parts : List (List Ref)) : Shape := .other (typeOf o) parts.flatten

def listShape (form : ListForm) : List (List Ref) → Shape
  | [items] => .list form items
  | parts => otherShape o parts

/-- The shape of a node with one slot for one child. -/
def shape₁ (make : Ref → Shape) : List (List Ref) → Shape
  | [[a]] => make a
  | parts => otherShape o parts

def shape₂ (make : Ref → Ref → Shape) : List (List Ref) → Shape
  | [[a], [b]] => make a b
  | parts => otherShape o parts

def shape₃ (make : Ref → Ref → Ref → Shape) : List (List Ref) → Shape
  | [[a], [b], [c]] => make a b c
  | parts => otherShape o parts

/-- The shape of a node with one slot for two parts. -/
def namesShape (make : Ref → Ref → Shape) : List (List Ref) → Shape
  | [[a, b]] => make a b
  | parts => otherShape o parts

/-- The shape of a node with a child and a list. -/
def headShape (make : Ref → List Ref → Shape) : List (List Ref) → Shape
  | [[a], items] => make a items
  | parts => otherShape o parts

def importShape : List (List Ref) → Shape
  | [specifiers, [source]] =>
    .importDeclaration ⟨specifiers, source, text o "importKind" == "type"⟩
  | parts => otherShape o parts

def exportShape : List (List Ref) → Shape
  | [[declaration], specifiers, [source]] =>
    .exportNamed ⟨declaration, specifiers, source, text o "exportKind" == "type"⟩
  | parts => otherShape o parts

def classShape (form : ClassForm) : List (List Ref) → Shape
  | [[name], [superClass], implements, [body]] =>
    .classNode ⟨form, name, superClass, implements, body, flag o "abstract"⟩
  | parts => otherShape o parts

def functionShape (form : FunctionForm) : List (List Ref) → Shape
  | [[name], params, [returnType], [body]] =>
    .function ⟨form, name, params, returnType, body, flag o "async", flag o "generator",
      flag o "expression"⟩
  | parts => otherShape o parts

def interfaceShape : List (List Ref) → Shape
  | [[name], heritage, [body]] => .interface ⟨name, heritage, body⟩
  | parts => otherShape o parts

def leafShape (shape : Shape) : List (List Ref) → Shape
  | [] => shape
  | parts => otherShape o parts

/-- The shape of a node of a kind. -/
def shapeOf : Kind → List (List Ref) → Shape
  | .importDeclaration => importShape o
  | .importSpecifier => namesShape o fun imported localName =>
    .importSpecifier ⟨.named, imported, localName, text o "importKind" == "type"⟩
  | .importDefaultSpecifier => shape₁ o fun localName =>
    .importSpecifier ⟨.default, none, localName, false⟩
  | .importNamespaceSpecifier => shape₁ o fun localName =>
    .importSpecifier ⟨.star, none, localName, false⟩
  | .tsImportEqualsDeclaration => shape₂ o fun name reference =>
    .importEquals ⟨name, reference, text o "importKind" == "type", flag o "isExport"⟩
  | .tsExternalModuleReference => shape₁ o (.wrap .moduleReference)
  | .exportNamedDeclaration => exportShape o
  | .exportDefaultDeclaration => shape₁ o (.wrap .exportDefault)
  | .exportSpecifier => namesShape o fun localName exported => .exportSpecifier ⟨localName, exported⟩
  | .classDeclaration => classShape o .declaration
  | .classExpression => classShape o .expression
  | .classBody => listShape o .classBody
  | .tsClassImplements => shape₁ o (.wrap .implements)
  | .propertyDefinition => shape₃ o fun key ofType value =>
    .propertyDefinition
      ⟨key, ofType, value, flag o "computed", flag o "static", flag o "readonly"⟩
  | .methodDefinition => shape₂ o fun key value =>
    .methodDefinition ⟨key, value, text o "kind", flag o "computed", flag o "static"⟩
  | .functionDeclaration => functionShape o .declaration
  | .functionExpression => functionShape o .expression
  | .arrowFunctionExpression => functionShape o .arrow
  | .variableDeclaration => fun
    | [declarations] => .variableDeclaration ⟨text o "kind", declarations, flag o "declare"⟩
    | parts => otherShape o parts
  | .variableDeclarator => shape₂ o .variableDeclarator
  | .tsInterfaceDeclaration => interfaceShape o
  | .tsInterfaceBody => listShape o .interfaceBody
  | .tsTypeAliasDeclaration => shape₂ o .typeAlias
  | .blockStatement => listShape o .block
  | .expressionStatement => shape₁ o (.wrap .expressionStatement)
  | .returnStatement => shape₁ o (.wrap .returnStatement)
  | .ifStatement => shape₃ o .ifStatement
  | .tryStatement => shape₃ o .tryStatement
  | .catchClause => shape₂ o .catchClause
  | .literal => leafShape o (.literal (literal o))
  | .objectExpression => listShape o .object
  | .property => namesShape o fun key value =>
    .property ⟨key, value, text o "kind", flag o "computed", flag o "shorthand",
      flag o "method"⟩
  | .spreadElement => shape₁ o (.wrap .spread)
  | .arrayExpression => listShape o .array
  | .callExpression => headShape o fun callee args => .call ⟨.call, callee, args, flag o "optional"⟩
  | .newExpression => headShape o fun callee args =>
    .call ⟨.construct, callee, args, flag o "optional"⟩
  | .memberExpression => shape₂ o fun object property =>
    .member ⟨object, property, flag o "computed", flag o "optional"⟩
  | .awaitExpression => shape₁ o (.wrap .await)
  | .objectPattern => listShape o .objectPattern
  | .arrayPattern => listShape o .arrayPattern
  | .assignmentPattern => shape₂ o (.pair .assignmentPattern)
  | .restElement => shape₁ o (.wrap .rest)
  | .tsTypeReference => headShape o fun name args => .typeReference ⟨name, args⟩
  | .tsQualifiedName => shape₂ o (.pair .qualifiedName)
  | .tsTypeLiteral => listShape o .typeLiteral
  | .tsPropertySignature => shape₂ o fun key ofType =>
    .propertySignature
      ⟨key, ofType, flag o "computed", flag o "optional", flag o "readonly"⟩
  | .tsIntersectionType => listShape o .intersection
  | .tsUnionType => listShape o .union
  | .tsArrayType => shape₁ o (.wrap .arrayType)
  | .tsLiteralType => shape₁ o (.wrap .literalType)
  | .tsKeyword => leafShape o (.keyword (keywordName (typeOf o)))
  | .other => fun
    | [children] => .other (typeOf o) children
    | parts => otherShape o parts
  | _ => otherShape o

/-- Adds a node above what was found in its slots. -/
def close (k : Kind) (s : Span) (parts : List (List Ref)) : Decoder NodeId :=
  match k, parts with
  | .identifier, [[ofType]] => do
    let (tree, id) := (← get).addIdentifier s (text o "name") ofType (flag o "optional")
    set tree
    return id
  | k, parts => add s (shapeOf o k parts)

/-- The shape has what was found for its children, and is no program.  Only the kinds of
pairs have the shape of a pair. -/
structure Above (k : Kind) (parts : List (List Ref)) (shape : Shape) : Prop where
  compact_refs : Ref.compact shape.refs = Ref.compact parts.flatten
  kind_ne : shape.kind ≠ .program
  pair : ∀ {form left right}, shape = .pair form left right →
    k = form.kind ∧ parts = [[left], [right]]

variable {o} {k : Kind} {parts : List (List Ref)}

/-- A shape that has for its parts what was found, and is no pair. -/
theorem above_of_refs {shape : Shape} (refs : shape.refs = parts.flatten)
    (kind : shape.kind ≠ .program) (pair : ∀ form left right, shape ≠ .pair form left right) :
    Above k parts shape :=
  ⟨congrArg Ref.compact refs, kind, fun eq => absurd eq (pair _ _ _)⟩

theorem otherShape_above : Above k parts (otherShape o parts) :=
  above_of_refs rfl nofun nofun

theorem listShape_above (form : ListForm) : Above k parts (listShape o form parts) := by
  unfold listShape
  split
  next items =>
    refine above_of_refs (List.append_nil items).symm ?_ nofun
    cases form <;> nofun
  next => exact otherShape_above

theorem shape₁_above {make : Ref → Shape} (h : ∀ a, Above k [[a]] (make a)) :
    Above k parts (shape₁ o make parts) := by
  unfold shape₁
  split
  · exact h _
  · exact otherShape_above

theorem wrapShape_above (form : WrapForm) : Above k parts (shape₁ o (.wrap form) parts) := by
  refine shape₁_above fun a => ?_
  refine ⟨rfl, ?_, nofun⟩
  cases form <;> nofun

theorem shape₂_above {make : Ref → Ref → Shape} (h : ∀ a b, Above k [[a], [b]] (make a b)) :
    Above k parts (shape₂ o make parts) := by
  unfold shape₂
  split
  · exact h _ _
  · exact otherShape_above

theorem pairShape_above (form : PairForm) :
    Above form.kind parts (shape₂ o (.pair form) parts) := by
  refine shape₂_above fun a b => ⟨rfl, ?_, ?_⟩
  · cases form <;> nofun
  · rintro _ _ _ ⟨⟩
    exact ⟨rfl, rfl⟩

theorem shape₃_above {make : Ref → Ref → Ref → Shape}
    (h : ∀ a b c, Above k [[a], [b], [c]] (make a b c)) : Above k parts (shape₃ o make parts) := by
  unfold shape₃
  split
  · exact h _ _ _
  · exact otherShape_above

theorem namesShape_above {make : Ref → Ref → Shape} (h : ∀ a b, Above k [[a, b]] (make a b)) :
    Above k parts (namesShape o make parts) := by
  unfold namesShape
  split
  · exact h _ _
  · exact otherShape_above

theorem headShape_above {make : Ref → List Ref → Shape}
    (h : ∀ a items, Above k [[a], items] (make a items)) :
    Above k parts (headShape o make parts) := by
  unfold headShape
  split
  · exact h _ _
  · exact otherShape_above

theorem leafShape_above {shape : Shape} (h : Above k [] shape) :
    Above k parts (leafShape o shape parts) := by
  unfold leafShape
  split
  · exact h
  · exact otherShape_above

theorem importShape_above : Above k parts (importShape o parts) := by
  unfold importShape
  split
  · exact ⟨rfl, nofun, nofun⟩
  · exact otherShape_above

theorem exportShape_above : Above k parts (exportShape o parts) := by
  unfold exportShape
  split
  · exact ⟨rfl, nofun, nofun⟩
  · exact otherShape_above

theorem classShape_above (form : ClassForm) : Above k parts (classShape o form parts) := by
  unfold classShape
  split
  · refine ⟨rfl, ?_, nofun⟩
    cases form <;> nofun
  · exact otherShape_above

theorem functionShape_above (form : FunctionForm) : Above k parts (functionShape o form parts) := by
  unfold functionShape
  split
  · refine ⟨rfl, ?_, nofun⟩
    cases form <;> nofun
  · exact otherShape_above

theorem interfaceShape_above : Above k parts (interfaceShape o parts) := by
  unfold interfaceShape
  split
  · exact ⟨rfl, nofun, nofun⟩
  · exact otherShape_above

theorem headCall_above {form : CallForm} {optional : Bool} (a : Ref) (items : List Ref) :
    Above k [[a], items] (.call ⟨form, a, items, optional⟩) := by
  refine above_of_refs (congrArg (a :: ·) (List.append_nil items).symm) ?_ nofun
  cases form <;> nofun

theorem shapeOf_above (k : Kind) : Above k parts (shapeOf o k parts) := by
  cases k with
  | variableDeclaration | other =>
    rcases parts with _ | ⟨items, _ | ⟨more, rest⟩⟩
    · exact otherShape_above
    · exact above_of_refs (List.append_nil items).symm nofun nofun
    · exact otherShape_above
  | callExpression | newExpression => exact headShape_above headCall_above
  | tsTypeReference =>
    refine headShape_above fun name args => above_of_refs ?_ nofun nofun
    exact congrArg (name :: ·) (List.append_nil args).symm
  | assignmentPattern => exact pairShape_above .assignmentPattern
  | tsQualifiedName => exact pairShape_above .qualifiedName
  | importDeclaration => exact importShape_above
  | exportNamedDeclaration => exact exportShape_above
  | tsInterfaceDeclaration => exact interfaceShape_above
  | literal | tsKeyword => exact leafShape_above ⟨rfl, nofun, nofun⟩
  | importDefaultSpecifier | importNamespaceSpecifier =>
    exact shape₁_above fun _ => ⟨rfl, nofun, nofun⟩
  | importSpecifier | exportSpecifier | property =>
    exact namesShape_above fun _ _ => ⟨rfl, nofun, nofun⟩
  | propertyDefinition | ifStatement | tryStatement =>
    exact shape₃_above fun _ _ _ => ⟨rfl, nofun, nofun⟩
  | classDeclaration | classExpression => exact classShape_above _
  | functionDeclaration | functionExpression | arrowFunctionExpression => exact functionShape_above _
  | _ => first
    | exact listShape_above _
    | exact wrapShape_above _
    | exact shape₂_above fun _ _ => ⟨rfl, nofun, nofun⟩
    | exact otherShape_above

/-- A node is always added, and above exactly what was found. -/
theorem close_ok (k : Kind) (s : Span) (parts : List (List Ref)) (setting : Setting) (t : Tree) :
    ∃ names shape, close o k s parts setting t
        = .ok (⟨t.size⟩, (({ t with names } : Tree).add s shape).1) ∧ Above k parts shape := by
  unfold close
  split
  next ofType =>
    refine ⟨(t.names.intern (text o "name")).1,
      .identifier ⟨(t.names.intern (text o "name")).2, ofType, flag o "optional"⟩, rfl, ?_⟩
    exact ⟨rfl, nofun, nofun⟩
  next => exact ⟨t.names, shapeOf o k parts, rfl, shapeOf_above k⟩

end Shapes

/-! ## Plans -/

/-- How a node of a kind is decoded. -/
def plan (decode : NodeDecoder) (o : Fields) (k : Kind) : Decoder NodeId := do
  let parts ← (before k).mapM (Slot.read decode o)
  let s ← span o
  let others ← (after k).mapM (Slot.read decode o)
  close o k s (parts ++ others)

/-- A node is decoded by the plan for its kind. -/
theorem nodeWith_eq (decode : NodeDecoder) (o : Fields) :
    nodeWith decode o =
      if Kind.ofType (typeOf o) = .program then fail .nestedProgram
      else plan decode o (Kind.ofType (typeOf o)) := by
  rw [nodeWith]
  cases Kind.ofType (typeOf o) with
  | program => rfl
  | _ =>
    simp only [plan, before, after, Slot.read, List.mapM_cons, List.mapM_nil, bind_assoc,
      pure_bind, List.cons_append, List.nil_append, List.append_nil, reduceCtorEq, if_false]
    rfl

end TreeLint.Document
