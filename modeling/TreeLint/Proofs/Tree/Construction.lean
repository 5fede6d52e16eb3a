import Mathlib.Data.List.Destutter
import Mathlib.Data.List.Nodup
import Mathlib.Data.List.ReduceOption
import TreeLint.Proofs.Tree.Likeness

/-! # Adding nodes and names

The order of the children is laid down twice: in what is handed over when a node is added, so
that it gets the node for its parent (`Shape.adopted`), and in what is read off the node as its
children later (`Shape.refs`).  Both list the fields of every shape as these are declared
(`Shape.Declares`), so a node that is added becomes the parent of its children and of nothing else,
and no other node changes in any other way (`constructors_place`).  This is so whatever tree it is
added to, and whatever its shape refers to: nodes that have a parent already, no nodes at all, or
the new node itself.

A tree keeps every name of an identifier once, and its identifiers have the places of their names
(`NameId`).  A place that was given to a name stays its own whatever is interned later, and the
places tell names apart (`Names.internAll_interned`).  The empty name has the first place from the
outset, and it is also what is read at a place that was never given; so identifiers can be compared
by their places as well as by their names, if their places were given to them by the table, as they
are where identifiers are added by their names (`Constructed`).
-/

namespace TreeLint

/-! ## Nodes -/

theorem Ref.exists_destutter' (id : NodeId) (ids : List NodeId) :
    ∃ rest, ids.destutter' (· ≠ ·) id = id :: rest := by
  induction ids with
  | nil => exact ⟨[], rfl⟩
  | cons next ids ih =>
    rw [List.destutter']
    split
    · exact ⟨_, rfl⟩
    · exact ih

/-- Holes are left out, and of equal neighbours all but the first. -/
theorem Ref.compact_eq_destutter (refs : List Ref) :
    compact refs = refs.reduceOption.destutter (· ≠ ·) := by
  suffices h : ∀ (id : NodeId) (ids : List NodeId),
      (id :: ids).foldr compact.keep [] = ids.destutter' (· ≠ ·) id by
    rw [compact, List.reduceOption]
    cases refs.filterMap id with
    | nil => rfl
    | cons id ids => exact h id ids
  intro id ids
  induction ids generalizing id with
  | nil => rfl
  | cons next ids ih =>
    obtain ⟨rest, begins⟩ := exists_destutter' next ids
    rw [List.foldr_cons, ih, List.destutter', begins, compact.keep]
    by_cases same : id = next
    · subst same
      simp [begins]
    · simp [same]

/-- The fields of a shape that refer to nodes, in the order in which its fields are declared. -/
inductive Shape.Declares : Shape → List Ref → Prop
  | program {body comments} : Declares (.program ⟨body, comments⟩) body
  | importDeclaration {specifiers source typeOnly} :
      Declares (.importDeclaration ⟨specifiers, source, typeOnly⟩) (specifiers ++ [source])
  | importSpecifier {form imported localName typeOnly} :
      Declares (.importSpecifier ⟨form, imported, localName, typeOnly⟩) [imported, localName]
  | importEquals {name reference typeOnly exported} :
      Declares (.importEquals ⟨name, reference, typeOnly, exported⟩) [name, reference]
  | exportNamed {declaration specifiers source typeOnly} :
      Declares (.exportNamed ⟨declaration, specifiers, source, typeOnly⟩)
        ([declaration] ++ specifiers ++ [source])
  | exportSpecifier {localName exported} :
      Declares (.exportSpecifier ⟨localName, exported⟩) [localName, exported]
  | classNode {form name superClass implements body isAbstract} :
      Declares (.classNode ⟨form, name, superClass, implements, body, isAbstract⟩)
        ([name, superClass] ++ implements ++ [body])
  | propertyDefinition {key ofType value computed isStatic isReadonly} :
      Declares (.propertyDefinition ⟨key, ofType, value, computed, isStatic, isReadonly⟩)
        [key, ofType, value]
  | methodDefinition {key value kind computed isStatic} :
      Declares (.methodDefinition ⟨key, value, kind, computed, isStatic⟩) [key, value]
  | function {form name params returnType body isAsync isGenerator isExpression} :
      Declares
        (.function ⟨form, name, params, returnType, body, isAsync, isGenerator, isExpression⟩)
        ([name] ++ params ++ [returnType, body])
  | variableDeclaration {kind declarations declare} :
      Declares (.variableDeclaration ⟨kind, declarations, declare⟩) declarations
  | variableDeclarator {target init} : Declares (.variableDeclarator target init) [target, init]
  | interface {name heritage body} :
      Declares (.interface ⟨name, heritage, body⟩) ([name] ++ heritage ++ [body])
  | typeAlias {name type} : Declares (.typeAlias name type) [name, type]
  | ifStatement {test consequent alternate} :
      Declares (.ifStatement test consequent alternate) [test, consequent, alternate]
  | tryStatement {block handler finalizer} :
      Declares (.tryStatement block handler finalizer) [block, handler, finalizer]
  | catchClause {param body} : Declares (.catchClause param body) [param, body]
  | identifier {name ofType optional} : Declares (.identifier ⟨name, ofType, optional⟩) [ofType]
  | literal {kind value raw} : Declares (.literal ⟨kind, value, raw⟩) []
  | property {key value kind computed shorthand method} :
      Declares (.property ⟨key, value, kind, computed, shorthand, method⟩) [key, value]
  | call {form callee arguments optional} :
      Declares (.call ⟨form, callee, arguments, optional⟩) ([callee] ++ arguments)
  | member {object property computed optional} :
      Declares (.member ⟨object, property, computed, optional⟩) [object, property]
  | typeReference {name arguments} :
      Declares (.typeReference ⟨name, arguments⟩) ([name] ++ arguments)
  | propertySignature {key ofType computed optional isReadonly} :
      Declares (.propertySignature ⟨key, ofType, computed, optional, isReadonly⟩) [key, ofType]
  | keyword {name} : Declares (.keyword name) []
  | list {form items} : Declares (.list form items) items
  | wrap {form target} : Declares (.wrap form target) [target]
  | pair {form left right} : Declares (.pair form left right) [left, right]
  | other {type children} : Declares (.other type children) children

namespace Shape.Declares

variable {shape : Shape} {fields fields' : List Ref}

theorem refs (shape : Shape) : shape.Declares shape.refs := by
  cases shape <;> constructor

theorem unique (h : shape.Declares fields) (h' : shape.Declares fields') : fields = fields' := by
  cases h <;> cases h' <;> rfl

end Shape.Declares

namespace Tree

/-- What a tree is after a node was added to it: the node has the nodes in the fields of its shape
as its children, those that are there and neighbours that are one node once; these have it for
their parent, and nothing else has changed. -/
structure Placed (t : Tree) (span : Span) (shape : Shape) (t' : Tree) (id : NodeId) : Prop where
  fresh : t.node? id = none
  children : ∃ fields, shape.Declares fields ∧
    t'.children id = fields.reduceOption.destutter (· ≠ ·)
  new : t'.node? id = some ⟨span, if id ∈ t'.children id then some id else none, shape⟩
  old : ∀ {x n}, t.node? x = some n →
    t'.node? x = some (if x ∈ t'.children id then { n with parent := some id } else n)
  absent : ∀ {x}, t.node? x = none → x ≠ id → t'.node? x = none
  file : t'.file = t.file

namespace Placed

variable {t t' u : Tree} {span : Span} {shape : Shape} {id : NodeId}

theorem children_eq (h : Placed t span shape t' id) {fields : List Ref}
    (declares : shape.Declares fields) :
    t'.children id = fields.reduceOption.destutter (· ≠ ·) := by
  obtain ⟨fields', declares', eq⟩ := h.children
  rw [eq, declares'.unique declares]

/-- Only the nodes of the two trees matter. -/
theorem of_nodes (h : Placed t span shape t' id) {u u' : Tree} (before : u.nodes = t.nodes)
    (after : u'.nodes = t'.nodes) (file : u'.file = u.file) : Placed u span shape u' id := by
  have old : ∀ x, u.node? x = t.node? x := fun x => by rw [node?, before, node?]
  have new : ∀ x, u'.node? x = t'.node? x := fun x => by rw [node?, after, node?]
  have children : u'.children id = t'.children id := by rw [Tree.children, new, Tree.children]
  refine ⟨?_, ?_, ?_, ?_, ?_, file⟩
  · rw [old]
    exact h.fresh
  · rw [children]
    exact h.children
  · rw [children, new]
    exact h.new
  · intro x n found
    rw [children, new]
    exact h.old (old x ▸ found)
  · intro x missing differs
    rw [new]
    exact h.absent (old x ▸ missing) differs

end Placed

theorem add_placed (t : Tree) (span : Span) (shape : Shape) :
    Placed t span shape (t.add span shape).1 (t.add span shape).2 := by
  have fresh : t.node? ⟨t.size⟩ = none := node?_eq_none.mpr (Nat.le_refl _)
  have children : (t.add span shape).1.children ⟨t.size⟩ = Ref.compact shape.refs := by
    obtain ⟨n, found, -, same⟩ := t.exists_node?_add_new span shape
    rw [Tree.children, found, ← same]
    rfl
  refine ⟨fresh, ?_, ?_, ?_, ?_, rfl⟩
  · refine ⟨shape.refs, .refs shape, ?_⟩
    rw [add_snd, children, Ref.compact_eq_destutter]
  · rw [add_snd, children, node?_add, if_pos rfl, Option.map_some]
    split <;> rfl
  · intro x n found
    have other : x.index ≠ t.size := Nat.ne_of_lt (index_lt_size found)
    rw [add_snd, children, node?_add, if_neg other, found, Option.map_some]
  · intro x missing differs
    have other : x.index ≠ t.size := fun same => differs (congrArg NodeId.mk same)
    rw [node?_add, if_neg other, missing, Option.map_none]

/-- Whatever node is added to whatever tree, it is placed above its children.  A program becomes
the root besides, and an identifier brings its name into the table, where all others stay. -/
theorem constructors_place (t : Tree) (span : Span) :
    (∀ shape, let (t', id) := t.add span shape
      Placed t span shape t' id ∧ t'.root = t.root ∧ t'.names = t.names) ∧
    (∀ p, let (t', id) := t.addProgram span p
      Placed t span (.program p) t' id ∧ t'.root = some id ∧ t'.names = t.names) ∧
    ∀ name ofType optional, let (t', id) := t.addIdentifier span name ofType optional
      Placed t span (.identifier ⟨(t.names.intern name).2, ofType, optional⟩) t' id ∧
        t'.root = t.root ∧ t'.names = (t.names.intern name).1 ∧
        t.names.list <+: t'.names.list := by
  refine ⟨fun shape => ?_, fun p => ?_, fun name ofType optional => ?_⟩
  · exact ⟨add_placed t span shape, rfl, rfl⟩
  · exact ⟨(add_placed t span (.program p)).of_nodes rfl rfl rfl, rfl, rfl⟩
  · let named : Tree := { t with names := (t.names.intern name).1 }
    let shape : Shape := .identifier ⟨(t.names.intern name).2, ofType, optional⟩
    have placed : Placed t span shape (named.add span shape).1 (named.add span shape).2 :=
      (add_placed named span shape).of_nodes rfl rfl rfl
    exact ⟨placed, rfl, rfl, KeptIn.intern t.names name⟩

/-- The name, the interfaces but for a hole, and the body of a class that extends nothing. -/
theorem constructors_place_class :
    let t := (["A", "I", "J", "b", "c"].foldl (fun t name =>
      (t.addIdentifier ⟨0, 0, 1⟩ (utf8 name) none false).1) (Tree.empty 0) : Tree)
    let shape : Shape :=
      .classNode ⟨.declaration, some ⟨0⟩, none, [some ⟨1⟩, none, some ⟨2⟩], some ⟨3⟩, false⟩
    let (t', id) := t.add ⟨0, 0, 9⟩ shape
    Placed t ⟨0, 0, 9⟩ shape t' id ∧ t'.root = t.root ∧ t'.names = t.names ∧
      t'.children id = [⟨0⟩, ⟨1⟩, ⟨2⟩, ⟨3⟩] ∧
      (∀ c ∈ t'.children id, t'.parent (some c) = some id) ∧
      t'.parent (some ⟨4⟩) = none ∧ t'.parent (some id) = none := by
  intro t shape
  obtain ⟨placed, root, names⟩ := (constructors_place t ⟨0, 0, 9⟩).1 shape
  have children := placed.children_eq .classNode
  exact ⟨placed, root, names, children, by decide, by decide, by decide⟩

/-- The one node of a shorthand property is its only child. -/
example :
    let (t, a) := (Tree.empty 0).addIdentifier ⟨0, 2, 3⟩ "a" none false
    let (t, id) := t.add ⟨0, 2, 3⟩ (.property ⟨some a, some a, "init", false, true, false⟩)
    t.children id = [a] ∧ t.parent (some a) = some id := by
  decide

end Tree

/-! ## Names -/

namespace Names

variable {names : Names} {name : Text} {i j : NameId}

theorem exists_getElem? (known : i < names.size) : ∃ name, names.list[i]? = some name :=
  ⟨_, List.getElem?_eq_getElem known⟩

theorem nodup (names : Names) : names.list.Nodup := by
  refine List.nodup_iff_getElem?_ne_getElem?.mpr fun i j less inside same => ?_
  obtain ⟨name, found⟩ := exists_getElem? (Nat.lt_trans less inside)
  have first : names.ids.lookup name = some i := (names.inverse name i).mpr found
  have second : names.ids.lookup name = some j := (names.inverse name j).mpr (same ▸ found)
  exact Nat.ne_of_lt less (Option.some.inj (first.symm.trans second))

theorem get_eq_of_getElem? (found : names.list[i]? = some name) : names.get i = name := by
  rw [get, List.getD_eq_getElem?_getD, found, Option.getD_some]

/-- A place that was given to a name is the only one that name has. -/
theorem get_eq_iff (known : i < names.size) :
    names.get i = name ↔ names.ids.lookup name = some i := by
  rw [names.inverse]
  constructor
  · rintro rfl
    obtain ⟨name, found⟩ := exists_getElem? known
    rw [found, get_eq_of_getElem? found]
  · exact get_eq_of_getElem?

theorem get_inj (known : i < names.size) (known' : j < names.size) :
    names.get i = names.get j ↔ i = j := by
  constructor
  · intro same
    have first : names.ids.lookup (names.get i) = some i := (get_eq_iff known).mp rfl
    have second : names.ids.lookup (names.get i) = some j := (get_eq_iff known').mp same.symm
    exact Option.some.inj (first.symm.trans second)
  · rintro rfl
    rfl

theorem get_of_size_le (unknown : names.size ≤ i) : names.get i = [] := by
  rw [get, List.getD_eq_getElem?_getD, List.getElem?_eq_none unknown, Option.getD_none]

theorem get_intern (names : Names) (name : Text) :
    (names.intern name).1.get (names.intern name).2 = name :=
  get_eq_of_getElem? (getElem?_intern names name)

/-- What stands at a place is still there when more names have been added. -/
theorem get_of_prefix {names' : Names} (more : names.list <+: names'.list)
    (known : i < names.size) :
    i < names'.size ∧ names'.get i = names.get i := by
  obtain ⟨name, found⟩ := exists_getElem? known
  obtain ⟨rest, eq⟩ := more
  have found' : names'.list[i]? = some name := by
    rw [← eq, List.getElem?_append_left known, found]
  refine ⟨(List.getElem?_eq_some_iff.mp found').1, ?_⟩
  rw [get_eq_of_getElem? found, get_eq_of_getElem? found']

/-! ## Interning one name after the other -/

/-- The table after some names were interned in turn, and the places they were given. -/
def internAll (names : Names) : List Text → Names × List NameId
  | [] => (names, [])
  | name :: more =>
    let (names, i) := names.intern name
    let (names, is) := names.internAll more
    (names, i :: is)

theorem prefix_internAll (names : Names) (more : List Text) :
    names.list <+: (names.internAll more).1.list := by
  induction more generalizing names with
  | nil => exact List.prefix_refl _
  | cons name more ih => exact (Tree.KeptIn.intern names name).trans (ih _)

/-- In the end each name is found at the place that it was given on the way. -/
theorem internAll_places (names : Names) (all : List Text) :
    List.Forall₂ (fun name i => (names.internAll all).1.list[i]? = some name) all
      (names.internAll all).2 := by
  induction all generalizing names with
  | nil => exact .nil
  | cons name more ih =>
    refine .cons ?_ (ih _)
    obtain ⟨rest, eq⟩ := prefix_internAll (names.intern name).1 more
    have found := getElem?_intern names name
    show ((names.intern name).1.internAll more).1.list[(names.intern name).2]? = some name
    rw [← eq, List.getElem?_append_left (List.getElem?_eq_some_iff.mp found).1, found]

theorem size_internAll_le (names : Names) (all : List Text) :
    (names.internAll all).1.size ≤ names.size + all.length := by
  induction all generalizing names with
  | nil => exact Nat.le_refl _
  | cons name more ih =>
    have one : (names.intern name).1.size ≤ names.size + 1 := by
      unfold intern
      split <;> simp [size]
    have later := ih (names.intern name).1
    rw [List.length_cons]
    show ((names.intern name).1.internAll more).1.size ≤ _
    omega

/-- What holds of a table after some names were interned from the start, and of the places they
were given. -/
structure Interned (all : List Text) (names : Names) (places : List NameId) : Prop where
  nodup : names.list.Nodup
  empty : names.list.head? = some []
  inverse : ∀ name i, names.ids.lookup name = some i ↔ names.list[i]? = some name
  given : List.Forall₂ (fun name i => i < names.size ∧ names.get i = name) all places
  apart : ∀ {a b i j}, (a, i) ∈ all.zip places → (b, j) ∈ all.zip places → (i = j ↔ a = b)
  /-- Whatever is interned later. -/
  kept : ∀ {i}, i < names.size → ∀ more, i < (names.internAll more).1.size ∧
    (names.internAll more).1.get i = names.get i
  got : ∀ name, (names.intern name).1.get (names.intern name).2 = name
  unknown : ∀ {i}, names.size ≤ i → names.get i = []
  /-- There are no more places than names that were asked for, and the one of the empty name. -/
  few : names.size ≤ all.length + 1

theorem internAll_interned (all : List Text) :
    Interned all (initial.internAll all).1 (initial.internAll all).2 := by
  have given : List.Forall₂ (fun name i => i < (initial.internAll all).1.size ∧
      (initial.internAll all).1.get i = name) all (initial.internAll all).2 :=
    (internAll_places initial all).imp fun name i found =>
      ⟨(List.getElem?_eq_some_iff.mp found).1, get_eq_of_getElem? found⟩
  refine {
    nodup := nodup _
    empty := ?_
    inverse := (initial.internAll all).1.inverse
    given
    apart := fun {a b i j} mem mem' => ?_
    kept := fun known more => get_of_prefix (prefix_internAll _ more) known
    got := get_intern _
    unknown := get_of_size_le
    few := ?_ }
  · obtain ⟨rest, eq⟩ := prefix_internAll initial all
    rw [← eq]
    rfl
  · obtain ⟨known, rfl⟩ := List.forall₂_zip given mem
    obtain ⟨known', rfl⟩ := List.forall₂_zip given mem'
    exact (get_inj known known').symm
  · rw [Nat.add_comm]
    exact size_internAll_le initial all

end Names

namespace Tree

/-! ## Identifiers -/

/-- A tree to which identifiers are added by their names. -/
inductive Constructed : Tree → Prop
  | empty (file : FileId) : Constructed (Tree.empty file)
  | add {t : Tree} (h : Constructed t) (span : Span) {shape : Shape}
    (other : ∀ i, shape ≠ .identifier i) : Constructed (t.add span shape).1
  | addProgram {t : Tree} (h : Constructed t) (span : Span) (p : Program) :
    Constructed (t.addProgram span p).1
  | addIdentifier {t : Tree} (h : Constructed t) (span : Span) (name : Text) (ofType : Ref)
    (optional : Bool) : Constructed (t.addIdentifier span name ofType optional).1

/-- The places of identifiers were given to them by the table. -/
def Named (t : Tree) : Prop :=
  ∀ id n i, t.node? id = some n → n.shape = .identifier i → i.name < t.names.size

theorem Named.add {t : Tree} (h : t.Named) (span : Span) {shape : Shape}
    (known : ∀ i, shape = .identifier i → i.name < t.names.size) : (t.add span shape).1.Named := by
  intro id n i found identifier
  obtain ⟨-, -, same⟩ | ⟨old, found', -, same, -⟩ := node?_of_add found
  · exact known i (same ▸ identifier)
  · exact h id old i found' (same ▸ identifier)

theorem Constructed.named {t : Tree} (h : t.Constructed) : t.Named := by
  induction h with
  | empty file =>
    intro id n i found
    contradiction
  | add _ span other ih => exact ih.add span fun i same => absurd same (other i)
  | addProgram _ span p ih => exact ih.add span nofun
  | @addIdentifier t _ span name ofType optional ih =>
    let named : Tree := { t with names := (t.names.intern name).1 }
    have more : t.names.list <+: named.names.list := KeptIn.intern t.names name
    have kept : named.Named := fun id n i found identifier =>
      (Names.get_of_prefix more (ih id n i found identifier)).1
    refine kept.add span ?_
    rintro i ⟨⟩
    exact (List.getElem?_eq_some_iff.mp (Names.getElem?_intern t.names name)).1

theorem identifier?_eq_some {t : Tree} {r : Ref} {i : Identifier} :
    t.identifier? r = some i ↔ ∃ id n, r = some id ∧ t.node? id = some n ∧
      n.shape = .identifier i := by
  constructor
  · intro h
    obtain ⟨n, found, pick⟩ := Option.bind_eq_some_iff.mp h
    obtain ⟨id, rfl, found⟩ := Option.bind_eq_some_iff.mp found
    cases same : n.shape with
    | identifier j =>
      rw [same] at pick
      cases pick
      exact ⟨id, n, rfl, found, same⟩
    | _ => simp [same] at pick
  · rintro ⟨id, n, rfl, found, same⟩
    simp [identifier?, part?, deref?, found, same]

theorem isIdentifier_iff {t : Tree} {r : Ref} {i : Identifier} (found : t.identifier? r = some i)
    (name : Text) : t.isIdentifier r name ↔ t.names.get i.name = name := by
  obtain ⟨id, n, rfl, there, same⟩ := identifier?_eq_some.mp found
  have kind : n.kind = .identifier := by rw [Node.kind, same, Shape.kind]
  simp [isIdentifier, hasKind, kind?, deref?, there, kind, Tree.name, found]

/-- Whatever names are interned in turn, each has a place of its own that stays its own; so
identifiers have the same name if and only if they have the same place in the table, and the name
that is asked for if and only if they have its place. -/
theorem interning_sound :
    (∀ all, Names.Interned all (Names.initial.internAll all).1 (Names.initial.internAll all).2) ∧
    ∀ t : Tree, t.Constructed → ∀ r i, t.identifier? r = some i →
      (∀ name, t.isIdentifier r name ↔ t.names.ids.lookup name = some i.name) ∧
      ∀ r' j, t.identifier? r' = some j → (t.name r = t.name r' ↔ i.name = j.name) := by
  refine ⟨Names.internAll_interned, fun t constructed r i found => ?_⟩
  have known : ∀ {r i}, t.identifier? r = some i → i.name < t.names.size := by
    intro r i found
    obtain ⟨id, n, -, there, same⟩ := identifier?_eq_some.mp found
    exact constructed.named id n i there same
  refine ⟨fun name => ?_, fun r' j found' => ?_⟩
  · rw [isIdentifier_iff found, Names.get_eq_iff (known found)]
  · have spelled : t.name r = t.names.get i.name := by rw [Tree.name, found]
    have spelled' : t.name r' = t.names.get j.name := by rw [Tree.name, found']
    rw [spelled, spelled', Names.get_inj (known found) (known found')]

/-- A name that is interned again is given the place it has, and so is the empty name; the two
identifiers of one name are told to be the same by either. -/
theorem interning_sound_again :
    let all : List Text := ["b", "", "a", "b"]
    let t := ((Tree.empty 0).addIdentifier ⟨0, 0, 1⟩ "a" none false).1
    let u := (t.addIdentifier ⟨0, 2, 3⟩ "a" none false).1
    (Names.initial.internAll all).2 = [1, 0, 2, 1] ∧
      Names.Interned all (Names.initial.internAll all).1 (Names.initial.internAll all).2 ∧
      u.Constructed ∧ u.identifier? (some ⟨0⟩) = some ⟨1, none, false⟩ ∧
      u.identifier? (some ⟨1⟩) = some ⟨1, none, false⟩ ∧
      (u.name (some ⟨0⟩) = u.name (some ⟨1⟩) ↔ (1 : NameId) = 1) := by
  intro all t u
  have constructed : u.Constructed :=
    ((Constructed.empty 0).addIdentifier _ _ _ _).addIdentifier _ _ _ _
  have first : u.identifier? (some ⟨0⟩) = some ⟨1, none, false⟩ := by decide
  have second : u.identifier? (some ⟨1⟩) = some ⟨1, none, false⟩ := by decide
  exact ⟨by decide, interning_sound.1 all, constructed, first, second,
    (interning_sound.2 u constructed _ _ first).2 _ _ second⟩

end Tree

end TreeLint
