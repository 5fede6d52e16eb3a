import TreeLint.Proofs.Tree.Growth

/-! # Trees that say the same

Two shapes are alike (`Shape.Like`) if they differ in nothing but the places of their children
and names: they are of one kind, hold the same data, spell the same names, and have their
references in the same places, related as asked for.  Nothing is said of spans and comments.

While trees are built, what has been found alike stays alike, since a tree that is added to
keeps its nodes and names (`Tree.KeptIn`).  `Facts` are such lasting relations of two trees.

Two trees are compared from their roots on down (`Facts.similar`): nodes are alike, or changed in
some way (`Change`), and what is below them is compared in the same manner.
-/

namespace TreeLint

/-- The nodes and names of a tree are those of another, which may have more; parents are set
later. -/
structure Tree.KeptIn (t t' : Tree) : Prop where
  nodes : ∀ {id n}, t.node? id = some n →
    ∃ n', t'.node? id = some n' ∧ n'.span = n.span ∧ n'.shape = n.shape
  names : t.names.list <+: t'.names.list

namespace Tree.KeptIn

variable {t t' t'' : Tree}

theorem refl (t : Tree) : t.KeptIn t :=
  ⟨fun found => ⟨_, found, rfl, rfl⟩, List.prefix_refl _⟩

theorem trans (h : t.KeptIn t') (h' : t'.KeptIn t'') : t.KeptIn t'' := by
  refine ⟨fun found => ?_, h.names.trans h'.names⟩
  obtain ⟨n', found', span, shape⟩ := h.nodes found
  obtain ⟨n'', found'', span', shape'⟩ := h'.nodes found'
  exact ⟨n'', found'', span'.trans span, shape'.trans shape⟩

theorem of_nodes (names : t.names.list <+: t'.names.list) (same : t'.nodes = t.nodes) :
    t.KeptIn t' :=
  ⟨fun found => ⟨_, by rwa [node?, same], rfl, rfl⟩, names⟩

theorem size_le (h : t.KeptIn t') : t.size ≤ t'.size := by
  by_contra less
  cases found : t.node? ⟨t'.size⟩ with
  | none => exact less (node?_eq_none.mp found)
  | some n =>
    obtain ⟨n', found', -⟩ := h.nodes found
    exact Nat.lt_irrefl _ (index_lt_size found')

theorem add (t : Tree) (span : Span) (shape : Shape) : t.KeptIn (t.add span shape).1 := by
  refine ⟨fun {id n} found => ?_, List.prefix_refl _⟩
  have old : id.index ≠ t.size := Nat.ne_of_lt (index_lt_size found)
  refine ⟨_, by rw [node?_add, if_neg old, found, Option.map_some], ?_⟩
  split <;> exact ⟨rfl, rfl⟩

theorem intern (names : Names) (name : Text) : names.list <+: (names.intern name).1.list := by
  unfold Names.intern
  split
  · exact List.prefix_refl _
  · exact List.prefix_append _ _

theorem addIdentifier (t : Tree) (span : Span) (name : Text) (ofType : Ref) (optional : Bool) :
    t.KeptIn (t.addIdentifier span name ofType optional).1 :=
  (show t.KeptIn { t with names := (t.names.intern name).1 } from
    of_nodes (intern t.names name) rfl).trans
    (add _ span _)

/-- What is looked up in the shape of a node stays. -/
theorem part? {α : Type} (h : t.KeptIn t') {r : Ref} {pick : Shape → Option α} {a : α}
    (part : t.part? r pick = some a) : t'.part? r pick = some a := by
  obtain ⟨n, at_node, picked⟩ := Option.bind_eq_some_iff.mp part
  obtain ⟨id, rfl, found⟩ := Option.bind_eq_some_iff.mp at_node
  obtain ⟨n', found', -, shape⟩ := h.nodes found
  simp only [Tree.part?, deref?, Option.bind_some, found', shape, picked]

theorem kind? (h : t.KeptIn t') {r : Ref} {k : Kind} (known : t.kind? r = some k) :
    t'.kind? r = some k := by
  obtain ⟨n, at_node, rfl⟩ := Option.map_eq_some_iff.mp known
  obtain ⟨id, rfl, found⟩ := Option.bind_eq_some_iff.mp at_node
  obtain ⟨n', found', -, shape⟩ := h.nodes found
  simp only [Tree.kind?, deref?, Option.bind_some, found', Option.map_some, Node.kind, shape]

/-- What was there already is of no other kind later. -/
theorem kind?_of_lt (h : t.KeptIn t') {id : NodeId} {k : Kind} (old : id.index < t.size)
    (known : t'.kind? (some id) = some k) : t.kind? (some id) = some k := by
  cases found : t.node? id with
  | none => exact absurd old (Nat.not_lt.mpr (node?_eq_none.mp found))
  | some n =>
    have at_node : t.deref? (some id) = some n := found
    have here : t.kind? (some id) = some n.kind := by rw [Tree.kind?, at_node, Option.map_some]
    rw [here, ← h.kind? here, known]

/-- What is looked up in the shape of a node that was there already stays. -/
theorem part?_eq {α : Type} (h : t.KeptIn t') {r : Ref} {k : Kind} (known : t.kind? r = some k)
    (pick : Shape → Option α) : t'.part? r pick = t.part? r pick := by
  obtain ⟨n, at_node, rfl⟩ := Option.map_eq_some_iff.mp known
  obtain ⟨id, rfl, found⟩ := Option.bind_eq_some_iff.mp at_node
  obtain ⟨n', found', -, shape⟩ := h.nodes found
  have at_node' : t'.deref? (some id) = some n' := found'
  rw [Tree.part?, Tree.part?, at_node, at_node', Option.bind_some, Option.bind_some, shape]

theorem target_eq (h : t.KeptIn t') {r : Ref} {k : Kind} (known : t.kind? r = some k) :
    t'.target r = t.target r := by
  rw [Tree.target, Tree.target, h.part?_eq known]

theorem items_eq (h : t.KeptIn t') {r : Ref} {k : Kind} (known : t.kind? r = some k) :
    t'.items r = t.items r := by
  rw [Tree.items, Tree.items, h.part?_eq known]

theorem isIdentifier (h : t.KeptIn t') {r : Ref} {name : Text} (some : name ≠ [])
    (known : t.isIdentifier r name) : t'.isIdentifier r name := by
  simp only [Tree.isIdentifier, Tree.hasKind, Bool.and_eq_true, beq_iff_eq] at known ⊢
  obtain ⟨kind, named⟩ := known
  refine ⟨h.kind? kind, ?_⟩
  have same : t'.identifier? r = t.identifier? r := by
    rw [Tree.identifier?, Tree.identifier?, h.part?_eq kind]
  cases found : t.identifier? r with
  | none => simp [Tree.name, found, eq_comm, some] at named
  | some i =>
    simp only [Tree.name, same, found] at named ⊢
    obtain ⟨more, names⟩ := h.names
    have inside : i.name < t.names.list.length := by
      by_contra outside
      simp [Names.get, Nat.le_of_not_lt outside, eq_comm, some] at named
    rw [← named]
    simp [Names.get, ← names, List.getElem?_append_left inside]

theorem target (h : t.KeptIn t') {r : Ref} {id : NodeId} (known : t.target r = some id) :
    t'.target r = some id := by
  have there {o : Option Ref} (known : o.getD none = some id) : o = some (some id) := by
    cases o with
    | none => contradiction
    | some r => exact congrArg some known
  rw [Tree.target, h.part? (there known)]
  rfl

theorem span (h : t.KeptIn t') {r : Ref} {k : Kind} (known : t.kind? r = some k) :
    t'.span r = t.span r := by
  obtain ⟨n, at_node, rfl⟩ := Option.map_eq_some_iff.mp known
  obtain ⟨id, rfl, found⟩ := Option.bind_eq_some_iff.mp at_node
  obtain ⟨n', found', span, -⟩ := h.nodes found
  have at_node' : t'.deref? (some id) = some n' := found'
  simp only [Tree.span, at_node, at_node', span]

end Tree.KeptIn

/-- The node added last. -/
theorem Tree.exists_node?_add_new (t : Tree) (span : Span) (shape : Shape) :
    ∃ n, (t.add span shape).1.node? ⟨t.size⟩ = some n ∧ n.span = span ∧ n.shape = shape := by
  refine ⟨_, by rw [node?_add, if_pos rfl, Option.map_some], ?_⟩
  split <;> exact ⟨rfl, rfl⟩

/-- An interned name is found where it was put. -/
theorem Names.getElem?_intern (names : Names) (name : Text) :
    (names.intern name).1.list[(names.intern name).2]? = some name := by
  unfold Names.intern
  split
  next i found => exact (names.inverse name i).mp found
  · simp

/-- Shapes of one kind with the same data, whose references are related in their places, and
whose names are spelled the same. -/
inductive Shape.Like (R : Ref → Ref → Prop) (a b : Names) : Shape → Shape → Prop where
  | program {body body' comments comments'} : List.Forall₂ R body body' →
      Like R a b (.program ⟨body, comments⟩) (.program ⟨body', comments'⟩)
  | importDeclaration {specs specs' source source' typeOnly} :
      List.Forall₂ R specs specs' → R source source' →
      Like R a b (.importDeclaration ⟨specs, source, typeOnly⟩)
        (.importDeclaration ⟨specs', source', typeOnly⟩)
  | importSpecifier {form imported imported' local_ local_' typeOnly} :
      R imported imported' → R local_ local_' →
      Like R a b (.importSpecifier ⟨form, imported, local_, typeOnly⟩)
        (.importSpecifier ⟨form, imported', local_', typeOnly⟩)
  | importEquals {name name' reference reference' typeOnly exported} :
      R name name' → R reference reference' →
      Like R a b (.importEquals ⟨name, reference, typeOnly, exported⟩)
        (.importEquals ⟨name', reference', typeOnly, exported⟩)
  | exportNamed {declaration declaration' specs specs' source source' typeOnly} :
      R declaration declaration' → List.Forall₂ R specs specs' → R source source' →
      Like R a b (.exportNamed ⟨declaration, specs, source, typeOnly⟩)
        (.exportNamed ⟨declaration', specs', source', typeOnly⟩)
  | exportSpecifier {local_ local_' exported exported'} : R local_ local_' → R exported exported' →
      Like R a b (.exportSpecifier ⟨local_, exported⟩) (.exportSpecifier ⟨local_', exported'⟩)
  | classNode {form name name' super super' implements implements' body body' isAbstract} :
      R name name' → R super super' → List.Forall₂ R implements implements' → R body body' →
      Like R a b (.classNode ⟨form, name, super, implements, body, isAbstract⟩)
        (.classNode ⟨form, name', super', implements', body', isAbstract⟩)
  | propertyDefinition {key key' type type' value value' computed isStatic isReadonly} :
      R key key' → R type type' → R value value' →
      Like R a b (.propertyDefinition ⟨key, type, value, computed, isStatic, isReadonly⟩)
        (.propertyDefinition ⟨key', type', value', computed, isStatic, isReadonly⟩)
  | methodDefinition {key key' value value' kind computed isStatic} :
      R key key' → R value value' →
      Like R a b (.methodDefinition ⟨key, value, kind, computed, isStatic⟩)
        (.methodDefinition ⟨key', value', kind, computed, isStatic⟩)
  | function {form name name' params params' type type' body body' isAsync isGenerator
        isExpression} :
      R name name' → List.Forall₂ R params params' → R type type' → R body body' →
      Like R a b (.function ⟨form, name, params, type, body, isAsync, isGenerator, isExpression⟩)
        (.function ⟨form, name', params', type', body', isAsync, isGenerator, isExpression⟩)
  | variableDeclaration {kind declarations declarations' declare} :
      List.Forall₂ R declarations declarations' →
      Like R a b (.variableDeclaration ⟨kind, declarations, declare⟩)
        (.variableDeclaration ⟨kind, declarations', declare⟩)
  | variableDeclarator {target target' init init'} : R target target' → R init init' →
      Like R a b (.variableDeclarator target init) (.variableDeclarator target' init')
  | interface {name name' heritage heritage' body body'} :
      R name name' → List.Forall₂ R heritage heritage' → R body body' →
      Like R a b (.interface ⟨name, heritage, body⟩) (.interface ⟨name', heritage', body'⟩)
  | typeAlias {name name' type type'} : R name name' → R type type' →
      Like R a b (.typeAlias name type) (.typeAlias name' type')
  | ifStatement {test test' consequent consequent' alternate alternate'} :
      R test test' → R consequent consequent' → R alternate alternate' →
      Like R a b (.ifStatement test consequent alternate)
        (.ifStatement test' consequent' alternate')
  | tryStatement {block block' handler handler' finalizer finalizer'} :
      R block block' → R handler handler' → R finalizer finalizer' →
      Like R a b (.tryStatement block handler finalizer)
        (.tryStatement block' handler' finalizer')
  | catchClause {param param' body body'} : R param param' → R body body' →
      Like R a b (.catchClause param body) (.catchClause param' body')
  | identifier {name name' type type' optional} {text : Text} :
      a.list[name]? = some text → b.list[name']? = some text → R type type' →
      Like R a b (.identifier ⟨name, type, optional⟩) (.identifier ⟨name', type', optional⟩)
  | literal {l} : Like R a b (.literal l) (.literal l)
  | property {key key' value value' kind computed shorthand method} :
      R key key' → R value value' →
      Like R a b (.property ⟨key, value, kind, computed, shorthand, method⟩)
        (.property ⟨key', value', kind, computed, shorthand, method⟩)
  | call {form callee callee' arguments arguments' optional} :
      R callee callee' → List.Forall₂ R arguments arguments' →
      Like R a b (.call ⟨form, callee, arguments, optional⟩)
        (.call ⟨form, callee', arguments', optional⟩)
  | member {object object' property property' computed optional} :
      R object object' → R property property' →
      Like R a b (.member ⟨object, property, computed, optional⟩)
        (.member ⟨object', property', computed, optional⟩)
  | typeReference {name name' arguments arguments'} :
      R name name' → List.Forall₂ R arguments arguments' →
      Like R a b (.typeReference ⟨name, arguments⟩) (.typeReference ⟨name', arguments'⟩)
  | propertySignature {key key' type type' computed optional isReadonly} :
      R key key' → R type type' →
      Like R a b (.propertySignature ⟨key, type, computed, optional, isReadonly⟩)
        (.propertySignature ⟨key', type', computed, optional, isReadonly⟩)
  | keyword {name} : Like R a b (.keyword name) (.keyword name)
  | list {form items items'} : List.Forall₂ R items items' →
      Like R a b (.list form items) (.list form items')
  | wrap {form target target'} : R target target' →
      Like R a b (.wrap form target) (.wrap form target')
  | pair {form left left' right right'} : R left left' → R right right' →
      Like R a b (.pair form left right) (.pair form left' right')
  | other {type children children'} : List.Forall₂ R children children' →
      Like R a b (.other type children) (.other type children')

namespace Shape.Like

variable {R S : Ref → Ref → Prop} {a b : Names} {s s' : Shape}

theorem kind (h : Like R a b s s') : s.kind = s'.kind := by
  cases h <;> rfl

theorem refs (h : Like R a b s s') : List.Forall₂ R s.refs s'.refs := by
  have append {l l' m m' : List Ref} (h : List.Forall₂ R l l') (h' : List.Forall₂ R m m') :
      List.Forall₂ R (l ++ m) (l' ++ m') := List.rel_append h h'
  cases h <;> simp_all [Shape.refs]

theorem mono (h : Like R a b s s') (weaker : ∀ r r', R r r' → S r r') : Like S a b s s' := by
  have all {l l' : List Ref} (h : List.Forall₂ R l l') : List.Forall₂ S l l' := h.imp weaker
  cases h <;> constructor <;> first | exact weaker _ _ ‹_› | exact all ‹_› | assumption

theorem withNames (h : Like R a b s s') {a' b' : Names} (more : a.list <+: a'.list)
    (more' : b.list <+: b'.list) : Like R a' b' s s' := by
  have kept {l l' : List Text} (more : l <+: l') {i : Nat} {text : Text}
      (h : l[i]? = some text) : l'[i]? = some text := by
    obtain ⟨rest, rfl⟩ := more
    rw [List.getElem?_append_left (List.getElem?_eq_some_iff.mp h).1, h]
  cases h with
  | identifier name name' type => exact .identifier (kept more name) (kept more' name') type
  | _ => constructor <;> assumption

end Shape.Like

/-- A relation of two trees that lasts when the trees are added to. -/
structure Facts where
  holds : Tree → Tree → Prop
  lasting : ∀ {t t' u u' : Tree}, t.KeptIn t' → u.KeptIn u' → holds t u → holds t' u'

namespace Facts

/-- What does not depend on the trees. -/
def of (p : Prop) : Facts := ⟨fun _ _ => p, fun _ _ h => h⟩

def none : Facts := of True

def and (P Q : Facts) : Facts :=
  ⟨fun t u => P.holds t u ∧ Q.holds t u, fun grow grow' h => ⟨P.lasting grow grow' h.1,
    Q.lasting grow grow' h.2⟩⟩

variable {α β : Type}

/-- Both are absent, or both are there and related. -/
def option (V : α → β → Facts) (a : Option α) (b : Option β) : Facts :=
  ⟨fun t u => Option.Rel (fun a b => (V a b).holds t u) a b, fun grow grow' h => by
    cases h with
    | none => exact .none
    | some h => exact .some ((V _ _).lasting grow grow' h)⟩

/-- Lists of one length with related items. -/
def list (V : α → β → Facts) (l : List α) (m : List β) : Facts :=
  ⟨fun t u => List.Forall₂ (fun a b => (V a b).holds t u) l m,
    fun grow grow' h => h.imp fun _ _ => (V _ _).lasting grow grow'⟩

/-- Related nodes as references that are there. -/
theorem refs {V : α → β → Facts} {l : List α} {m : List β} {t u : Tree}
    (h : (list V l m).holds t u) :
    List.Forall₂ (Option.Rel fun a b => (V a b).holds t u) (l.map some) (m.map some) := by
  induction h with
  | nil => exact .nil
  | cons first _ ih => exact .cons (.some first) ih

theorem toList {V : α → β → Facts} {a : Option α} {b : Option β} {t u : Tree}
    (h : (option V a b).holds t u) : (list V a.toList b.toList).holds t u := by
  cases h with
  | none => exact .nil
  | some h => exact .cons h .nil

theorem filterMap {V : α → β → Facts} {l : List (Option α)} {m : List (Option β)} {t u : Tree}
    (h : (list (option V) l m).holds t u) :
    (list V (l.filterMap id) (m.filterMap id)).holds t u := by
  induction h with
  | nil => exact .nil
  | cons first _ ih =>
    cases first with
    | none => exact ih
    | some first => exact .cons first ih

theorem append {V : α → β → Facts} {l l' : List α} {m m' : List β} {t u : Tree}
    (h : (list V l m).holds t u) (h' : (list V l' m').holds t u) :
    (list V (l ++ l') (m ++ m')).holds t u :=
  List.rel_append h h'

theorem pair {V : α → β → Facts} {a a' : α} {b b' : β} {t u : Tree} (h : (V a b).holds t u)
    (h' : (V a' b').holds t u) : (list V [a, a'] [b, b']).holds t u :=
  .cons h (.cons h' .nil)

end Facts

/-! ## From the root on down -/

variable {Q Q' : NodeId → NodeId → Prop} {t t' u u' : Tree} {a b : NodeId}

/-- What is in one of two related lists has its like in the other. -/
theorem exists_of_forall₂ {α β : Type} {R : α → β → Prop} {l : List α} {m : List β}
    (h : List.Forall₂ R l m) {b : β} (mem : b ∈ m) : ∃ a ∈ l, R a b := by
  induction h with
  | nil => contradiction
  | cons first _ ih =>
    cases mem with
    | head => exact ⟨_, List.mem_cons_self, first⟩
    | tail _ mem =>
      obtain ⟨a, mem, related⟩ := ih mem
      exact ⟨a, List.mem_cons_of_mem _ mem, related⟩

/-- Nodes that are alike, with children that are related. -/
def Tree.Alike (Q : NodeId → NodeId → Prop) (t u : Tree) (a b : NodeId) : Prop :=
  ∃ n m, t.node? a = some n ∧ u.node? b = some m ∧
    n.shape.Like (Option.Rel Q) t.names u.names m.shape

namespace Tree.Alike

theorem mono (h : t.Alike Q u a b) (weaker : ∀ x y, Q x y → Q' x y) : t.Alike Q' u a b := by
  obtain ⟨n, m, found, found', like⟩ := h
  refine ⟨n, m, found, found', like.mono fun r r' related => ?_⟩
  cases related with
  | none => exact .none
  | some related => exact .some (weaker _ _ related)

theorem lasting (h : t.Alike Q u a b) (grow : t.KeptIn t') (grow' : u.KeptIn u') :
    t'.Alike Q u' a b := by
  obtain ⟨n, m, found, found', like⟩ := h
  obtain ⟨n', kept, -, shape⟩ := grow.nodes found
  obtain ⟨m', kept', -, shape'⟩ := grow'.nodes found'
  exact ⟨n', m', kept, kept', shape ▸ shape' ▸ like.withNames grow.names grow'.names⟩

theorem kind? (h : t.Alike Q u a b) : u.kind? (some b) = t.kind? (some a) := by
  obtain ⟨n, m, found, found', like⟩ := h
  have at_node : t.deref? (some a) = some n := found
  have at_node' : u.deref? (some b) = some m := found'
  rw [Tree.kind?, Tree.kind?, at_node, at_node', Option.map_some, Option.map_some, Node.kind,
    Node.kind, like.kind]

theorem keyName? (h : t.Alike Q u a b) : u.keyName? (some b) = t.keyName? (some a) := by
  obtain ⟨n, m, found, found', like⟩ := h
  have at_node : t.deref? (some a) = some n := found
  have at_node' : u.deref? (some b) = some m := found'
  obtain ⟨span, parent, shape⟩ := n
  obtain ⟨span', parent', shape'⟩ := m
  cases like with
  | identifier name name' =>
    simp [Tree.keyName?, Tree.kind?, at_node, at_node', Node.kind, Shape.kind, Tree.name,
      Tree.identifier?, Tree.part?, Names.get, List.getD_eq_getElem?_getD, name, name']
  | literal =>
    simp [Tree.keyName?, Tree.kind?, at_node, at_node', Node.kind, Shape.kind, Tree.stringValue?,
      Tree.literal?, Tree.part?]
  | @importSpecifier form | @classNode form | @function form | @call form | @list form | @wrap form
  | @pair form =>
    cases form <;> simp [Tree.keyName?, Tree.kind?, at_node, at_node', Node.kind, Shape.kind,
      ListForm.kind, WrapForm.kind, PairForm.kind]
  | _ => simp [Tree.keyName?, Tree.kind?, at_node, at_node', Node.kind, Shape.kind]

/-- What is told of the shapes of two nodes is told of the nodes. -/
theorem part? {α β : Type} {pick : Shape → Option α} {pick' : Shape → Option β} {V : α → β → Prop}
    (h : t.Alike Q u a b) (agree : ∀ s s', s.Like (Option.Rel Q) t.names u.names s' →
      Option.Rel V (pick s) (pick' s')) :
    Option.Rel V (t.part? (some a) pick) (u.part? (some b) pick') := by
  obtain ⟨n, m, found, found', like⟩ := h
  have at_node : t.deref? (some a) = some n := found
  have at_node' : u.deref? (some b) = some m := found'
  rw [Tree.part?, Tree.part?, at_node, at_node']
  exact agree _ _ like

theorem function? (h : t.Alike Q u a b) :
    Option.Rel (fun f f' : FunctionNode => f.isAsync = f'.isAsync) (t.function? (some a))
      (u.function? (some b)) := by
  refine h.part? fun s s' like => ?_
  cases like with
  | function => exact .some rfl
  | _ => exact .none

theorem tryBlock? (h : t.Alike Q u a b) :
    Option.Rel (Option.Rel Q) (t.tryBlock? (some a)) (u.tryBlock? (some b)) := by
  refine h.part? fun s s' like => ?_
  cases like with
  | tryStatement block => exact .some block
  | _ => exact .none

theorem target (h : t.Alike Q u a b) : Option.Rel Q (t.target (some a)) (u.target (some b)) := by
  have missing {r r' : Option Ref} (related : Option.Rel (Option.Rel Q) r r') :
      Option.Rel Q (r.getD Option.none) (r'.getD Option.none) := by
    cases related with
    | none => exact .none
    | some target => exact target
  rw [Tree.target, Tree.target]
  refine missing (h.part? fun s s' like => ?_)
  cases like with
  | wrap target => exact .some target
  | _ => exact .none

theorem call? (h : t.Alike Q u a b) :
    Option.Rel (fun c c' : Call => List.Forall₂ (Option.Rel Q) c.arguments c'.arguments)
      (t.call? (some a)) (u.call? (some b)) := by
  refine h.part? fun s s' like => ?_
  cases like with
  | call _ arguments => exact .some arguments
  | _ => exact .none

theorem exists_child (h : t.Alike Q u a b) {c : NodeId} (child : c ∈ u.children b) :
    ∃ d ∈ t.children a, Q d c := by
  obtain ⟨n, m, found, found', like⟩ := h
  rw [Tree.children, found'] at child
  obtain ⟨r, mem, related⟩ := exists_of_forall₂ like.refs (Ref.mem_compact.mp child)
  cases related with
  | some related =>
    refine ⟨_, ?_, related⟩
    rw [Tree.children, found]
    exact Ref.mem_compact.mpr mem

/-- The same the other way round. -/
theorem exists_child_of (h : t.Alike Q u a b) {c : NodeId} (child : c ∈ t.children a) :
    ∃ d ∈ u.children b, Q c d := by
  obtain ⟨n, m, found, found', like⟩ := h
  rw [Tree.children, found] at child
  obtain ⟨r, mem, related⟩ := exists_of_forall₂ like.refs.flip (Ref.mem_compact.mp child)
  cases related with
  | some related =>
    refine ⟨_, ?_, related⟩
    rw [Tree.children, found']
    exact Ref.mem_compact.mpr mem

end Tree.Alike

/-- What may become of nodes of a few kinds. -/
structure Change where
  Between : (NodeId → NodeId → Prop) → Tree → Tree → NodeId → NodeId → Prop
  mono : ∀ {Q Q' t u a b}, Between Q t u a b → (∀ x y, Q x y → Q' x y) → Between Q' t u a b
  lasting : ∀ {Q t t' u u' a b}, Between Q t u a b → t.KeptIn t' → u.KeptIn u' →
    Between Q t' u' a b
  kind : ∀ {Q t u a b}, Between Q t u a b → ∃ k ∈ [Kind.objectExpression, .returnStatement],
    t.kind? (some a) = some k ∧ u.kind? (some b) = some k

/-- Related nodes are alike or changed, as they should be. -/
def Change.Relates (c : Change) (changed : NodeId → Bool) (t u : Tree) (Q : NodeId → NodeId → Prop) :
    Prop :=
  ∀ a b, Q a b → (changed a = false ∧ t.Alike Q u a b) ∨ (changed a = true ∧ c.Between Q t u a b)

/-- Nodes with all that is below them. -/
def Facts.similar (c : Change) (changed : NodeId → Bool) (a b : NodeId) : Facts :=
  ⟨fun t u => ∃ Q, Q a b ∧ c.Relates changed t u Q, fun grow grow' h => by
    obtain ⟨Q, related, relates⟩ := h
    refine ⟨Q, related, fun x y related => ?_⟩
    obtain ⟨same, alike⟩ | ⟨other, between⟩ := relates x y related
    · exact .inl ⟨same, alike.lasting grow grow'⟩
    · exact .inr ⟨other, c.lasting between grow grow'⟩⟩

namespace Facts

variable {c : Change} {changed : NodeId → Bool}

/-- A pair on top of nodes that are compared already. -/
theorem similar_cons
    (h : (changed a = false ∧ t.Alike (fun x y => (similar c changed x y).holds t u) u a b) ∨
      (changed a = true ∧ c.Between (fun x y => (similar c changed x y).holds t u) t u a b)) :
    (similar c changed a b).holds t u := by
  let Q (x y : NodeId) : Prop := (x = a ∧ y = b) ∨ (similar c changed x y).holds t u
  have below (x y : NodeId) (related : (similar c changed x y).holds t u) : Q x y := .inr related
  refine ⟨Q, .inl ⟨rfl, rfl⟩, fun x y related => ?_⟩
  obtain ⟨rfl, rfl⟩ | ⟨Q', related, relates⟩ := related
  · exact h.imp (fun h => ⟨h.1, h.2.mono below⟩) fun h => ⟨h.1, c.mono h.2 below⟩
  · have inside (v w : NodeId) (related : Q' v w) : Q v w := .inr ⟨Q', related, relates⟩
    exact (relates x y related).imp (fun h => ⟨h.1, h.2.mono inside⟩)
      fun h => ⟨h.1, c.mono h.2 inside⟩

theorem similar_cases (h : (similar c changed a b).holds t u) :
    (changed a = false ∧ t.Alike (fun x y => (similar c changed x y).holds t u) u a b) ∨
    (changed a = true ∧ c.Between (fun x y => (similar c changed x y).holds t u) t u a b) := by
  obtain ⟨Q, related, relates⟩ := h
  have inside (v w : NodeId) (related : Q v w) : (similar c changed v w).holds t u :=
    ⟨Q, related, relates⟩
  exact (relates a b related).imp (fun h => ⟨h.1, h.2.mono inside⟩)
    fun h => ⟨h.1, c.mono h.2 inside⟩

theorem kind?_of_similar (h : (similar c changed a b).holds t u) :
    u.kind? (some b) = t.kind? (some a) := by
  obtain ⟨-, alike⟩ | ⟨-, between⟩ := similar_cases h
  · exact alike.kind?
  · obtain ⟨k, -, known, known'⟩ := c.kind between
    rw [known, known']

theorem keyName?_of_similar (h : (similar c changed a b).holds t u) :
    u.keyName? (some b) = t.keyName? (some a) := by
  obtain ⟨-, alike⟩ | ⟨-, between⟩ := similar_cases h
  · exact alike.keyName?
  · obtain ⟨k, mem, known, known'⟩ := c.kind between
    rw [Tree.keyName?, Tree.keyName?, known, known']
    obtain rfl | rfl : k = .objectExpression ∨ k = .returnStatement := by simpa using mem
    all_goals rfl

end Facts
end TreeLint
