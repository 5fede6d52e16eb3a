import TreeLint.Proofs.Lint.Entries
import TreeLint.Proofs.Script.Program

/-! # Events without their source

A class of the generated library that implements `Event` is reported unless its field
`properties` declares the source of the event.  There are three ways to declare it: in a type
literal of the field's intersection type (`InType`), in the object that the field is initialised
with (`InObject`), and in the interface that the intersection type refers to first
(`RefersTo`), which is looked for among the exports of the whole program.

A rule looks upward for that program from where it stands; in a script that leads to the root
from everywhere.  In the first two ways a key declares what it spells, be it an identifier or a
string (`Spells`).  In an interface a string does not count (`lint_requireItlyEventSource`).
-/

namespace TreeLint

/-! ## The first of its kind -/

/-- The value at the first item of a list that has one. -/
def First {α β : Type} (Has : α → β → Prop) (l : List α) (b : β) : Prop :=
  ∃ before a after, l = before ++ a :: after ∧ Has a b ∧ ∀ x ∈ before, ∀ y, ¬ Has x y

theorem findSome?_eq_some_iff_first {α β : Type} {f : α → Option β} (Has : α → β → Prop)
    (spec : ∀ a b, f a = some b ↔ Has a b) {l : List α} {b : β} :
    l.findSome? f = some b ↔ First Has l b := by
  rw [List.findSome?_eq_some_iff]
  simp only [First, ← spec, ← Option.eq_none_iff_forall_ne_some]

namespace First

variable {α β : Type} {Has : α → β → Prop} {l : List α} {b : β}

/-- The value and the item it is at. -/
theorem iff_exists_item : First Has l b ↔
    ∃ a, First (fun x (found : α × β) => x = found.1 ∧ Has x found.2) l (a, b) := by
  constructor
  · rintro ⟨before, a, after, split, has, none⟩
    exact ⟨a, before, a, after, split, ⟨rfl, has⟩, fun x mem y has => none x mem y.2 has.2⟩
  · rintro ⟨item, before, a, after, split, ⟨here, has⟩, none⟩
    exact ⟨before, a, after, split, has, fun x mem y has => none x mem (x, y) ⟨rfl, has⟩⟩

end First

/-! ## Ways to declare a key -/

namespace Rule.EventProperty

variable {t : Tree} {c : ClassNode} {d : PropertyDefinition} {key : Text}

/-- A key is an identifier of the name. -/
def Named (t : Tree) (text : Text) (key : Ref) : Prop := t.isIdentifier key text

/-- A key is a string literal of the value. -/
def Quotes (t : Tree) (text : Text) (key : Ref) : Prop := t.stringValue? key = some text

/-- A key spells a text in one of the two ways. -/
def Spells (t : Tree) (text : Text) (key : Ref) : Prop := Named t text key ∨ Quotes t text key

theorem kind?_of_stringValue? {r : Ref} (h : t.stringValue? r = some key) :
    t.kind? r = some .literal := by
  unfold Tree.stringValue? at h
  split at h
  next l found =>
    simp only [Tree.literal?, Tree.part?, Option.bind_eq_some_iff] at found
    obtain ⟨n, at_node, picked⟩ := found
    split at picked
    next shape => simp [Tree.kind?, at_node, Node.kind, shape, Shape.kind]
    · contradiction
  · contradiction

theorem keyName?_eq_some_iff {r : Ref} : t.keyName? r = some key ↔ Spells t key r := by
  unfold Tree.keyName? Spells Named Quotes Tree.isIdentifier Tree.hasKind
  split
  next kind =>
    have other : t.stringValue? r ≠ some key := fun string => by
      simp [kind?_of_stringValue? string] at kind
    simp [kind, other]
  next kind => simp [kind]
  next identifier literal =>
    have other : t.stringValue? r ≠ some key := fun string =>
      literal (kind?_of_stringValue? string)
    simp only [reduceCtorEq, Bool.and_eq_true, beq_iff_eq, false_iff, not_or]
    exact ⟨fun known => identifier known.1, other⟩

/-- A property signature among the members of a type literal or of the body of an interface, with
a key that is not computed. -/
def HasSignature (t : Tree) (Key : Ref → Prop) (members : Ref) : Prop :=
  ∃ member ∈ t.items members, ∃ s, t.propertySignature? member = some s ∧ s.computed = false ∧
    Key s.key

/-- The type of a field is an intersection with a type literal that declares the key. -/
def InType (t : Tree) (key : Text) (d : PropertyDefinition) : Prop :=
  t.hasKind d.ofType .tsIntersectionType ∧ ∃ member ∈ t.items d.ofType,
    t.hasKind member .tsTypeLiteral ∧ HasSignature t (Spells t key) member

/-- A field is initialised with an object that declares the key. -/
def InObject (t : Tree) (key : Text) (d : PropertyDefinition) : Prop :=
  t.hasKind d.value .objectExpression ∧ ∃ item ∈ t.items d.value, ∃ p,
    t.property? item = some p ∧ p.computed = false ∧ Spells t key p.key

/-- A statement exports an interface of a name. -/
def Exports (t : Tree) (name : Text) (statement : Ref) (i : InterfaceNode) : Prop :=
  ∃ e, t.exportNamed? statement = some e ∧ t.interface? e.declaration = some i ∧
    t.isIdentifier i.name name

/-- The type of a field is an intersection that refers to an interface first: by a plain
identifier, to the first interface of that name that the program exports. -/
def RefersTo (t : Tree) (d : PropertyDefinition) (i : InterfaceNode) : Prop :=
  t.hasKind d.ofType .tsIntersectionType ∧
    ∃ r, First (fun member r => t.typeReference? member = some r) (t.items d.ofType) r ∧
      t.hasKind r.name .identifier ∧
      ∃ p, t.program? t.root = some p ∧ First (Exports t (t.name r.name)) p.body i

/-- A member of a class is a field whose key is the identifier `properties`. -/
def IsField (t : Tree) (member : Ref) (d : PropertyDefinition) : Prop :=
  t.propertyDefinition? member = some d ∧ d.computed = false ∧ t.isIdentifier d.key "properties"

/-- A class implements `Event`, and its first field `properties`, if there is one, declares the
key in none of the three ways, where such keys declare it in an interface. -/
structure Lacks (t : Tree) (key : Text) (Key : Ref → Prop) (c : ClassNode) : Prop where
  event : ∃ i ∈ c.implements, t.isIdentifier (t.target i) "Event"
  field : ∀ d, First (IsField t) (t.items c.body) d → ¬ InType t key d ∧ ¬ InObject t key d ∧
    ∀ i, RefersTo t d i → ¬ HasSignature t Key i.body

/-- A node is such a class. -/
def Lacking (t : Tree) (key : Text) (Key : Ref → Prop) (id : NodeId) : Prop :=
  ∃ c, t.class? (some id) = some c ∧ Lacks t key Key c

/-- Where no interface has the key as a string, it is all one whether a string would declare
it. -/
theorem lacking_spells_iff (unquoted : ∀ r i, t.interface? r = some i →
    ¬ HasSignature t (Quotes t key) i.body) {id : NodeId} :
    Lacking t key (Spells t key) id ↔ Lacking t key (Named t key) id := by
  have same {d : PropertyDefinition} {i : InterfaceNode} (refers : RefersTo t d i) :
      HasSignature t (Spells t key) i.body ↔ HasSignature t (Named t key) i.body := by
    obtain ⟨-, r, -, -, p, -, before, statement, after, -, ⟨e, -, declared, -⟩, -⟩ := refers
    constructor
    · rintro ⟨member, mem, s, signature, plain, named | quotes⟩
      · exact ⟨member, mem, s, signature, plain, named⟩
      · exact absurd ⟨member, mem, s, signature, plain, quotes⟩ (unquoted _ i declared)
    · rintro ⟨member, mem, s, signature, plain, named⟩
      exact ⟨member, mem, s, signature, plain, .inl named⟩
  refine exists_congr fun c => and_congr_right fun _ => ⟨fun h => ?_, fun h => ?_⟩
  all_goals
    refine ⟨h.event, fun d first => ?_⟩
    obtain ⟨noType, noObject, noInterface⟩ := h.field d first
    refine ⟨noType, noObject, fun i refers signature => noInterface i refers ?_⟩
  · exact (same refers).mpr signature
  · exact (same refers).mp signature

/-! ## What the rule asks for -/

theorem implementsEvent_iff :
    implementsEvent t c ↔ ∃ i ∈ c.implements, t.isIdentifier (t.target i) "Event" :=
  List.any_eq_true

theorem any_propertySignature?_iff (test : Ref → Bool) {Key : Ref → Prop}
    (spec : ∀ r, test r ↔ Key r) {members : Ref} :
    ((t.items members).any fun member => (t.propertySignature? member).any fun s =>
      !s.computed && test s.key) = true ↔ HasSignature t Key members := by
  simp [HasSignature, Option.any_eq_true, spec]

theorem keyName?_beq_iff {r : Ref} : (t.keyName? r == some key) = true ↔ Spells t key r :=
  beq_iff_eq.trans keyName?_eq_some_iff

theorem typeDeclares_iff : typeDeclares t d.ofType key ↔ InType t key d := by
  simp only [typeDeclares, InType, Bool.and_eq_true, List.any_eq_true,
    ← any_propertySignature?_iff (fun r => t.keyName? r == some key) fun _ => keyName?_beq_iff]

theorem objectDeclares_iff : objectDeclares t d.value key ↔ InObject t key d := by
  simp [objectDeclares, InObject, Option.any_eq_true, keyName?_eq_some_iff]

theorem interfaceDeclares_iff {i : InterfaceNode} : interfaceDeclares t i key ↔
    HasSignature t (Named t key) i.body := by
  rw [interfaceDeclares]
  exact any_propertySignature?_iff (fun r => t.isIdentifier r key) fun _ => Iff.rfl

theorem exportedInterface?_eq_some_iff {program : Ref} {name : Text} {i : InterfaceNode} :
    exportedInterface? t program name = some i ↔
      ∃ p, t.program? program = some p ∧ First (Exports t name) p.body i := by
  unfold exportedInterface?
  refine (findSome?_eq_some_iff_first (Exports t name) fun statement i => ?_).trans ?_
  · unfold Exports
    split
    next e exported =>
      simp only [exported, Option.some.injEq, exists_eq_left']
      split
      next j declared =>
        simp only [declared, Option.ite_none_right_eq_some, Option.some.injEq]
        exact ⟨fun ⟨named, same⟩ => ⟨same, same ▸ named⟩, fun ⟨same, named⟩ => ⟨same ▸ named, same⟩⟩
      next none => simp [none]
    next none => simp [none]
  · cases t.program? program with
    | none => simp [First]
    | some p => simp

theorem referredInterface?_eq_some_iff {name : Text} : referredInterface? t d.ofType = some name ↔
    t.hasKind d.ofType .tsIntersectionType ∧
      ∃ r, First (fun member r => t.typeReference? member = some r) (t.items d.ofType) r ∧
        t.hasKind r.name .identifier ∧ t.name r.name = name := by
  simp only [← findSome?_eq_some_iff_first (f := t.typeReference?) _ fun _ _ => Iff.rfl]
  unfold referredInterface?
  split
  next other => simp_all
  next kind =>
    cases (t.items d.ofType).findSome? t.typeReference? with
    | none => simp
    | some r => simp_all

theorem properties?_eq_some_iff {member : Ref} : properties? t c = some (member, d) ↔
    First (fun m (found : Ref × PropertyDefinition) => m = found.1 ∧ IsField t m found.2)
      (t.items c.body) (member, d) := by
  unfold properties?
  refine findSome?_eq_some_iff_first _ fun m (member, d) => ?_
  unfold IsField
  split
  next e defined =>
    simp only [defined, Option.ite_none_right_eq_some, Option.some.injEq, Prod.mk.injEq,
      Bool.and_eq_true, Bool.not_eq_true']
    constructor
    · rintro ⟨⟨plain, named⟩, rfl, rfl⟩
      exact ⟨rfl, rfl, plain, named⟩
    · rintro ⟨rfl, rfl, plain, named⟩
      exact ⟨⟨plain, named⟩, rfl, rfl⟩
  next none => simp [none]

/-- What the rule takes for the field is the first there is. -/
theorem first_isField_iff : First (IsField t) (t.items c.body) d ↔
    ∃ member, properties? t c = some (member, d) := by
  simp only [properties?_eq_some_iff]
  exact First.iff_exists_item

/-- Where every identifier has a name, and the program of the field is the root. -/
theorem declares_iff (named : ∀ {r}, t.hasKind r .identifier → t.name r ≠ []) {field : Ref}
    (program : t.enclosingProgram field = t.root) : declares t key true field d ↔
      InType t key d ∨ InObject t key d ∨
        ∃ i, RefersTo t d i ∧ HasSignature t (Named t key) i.body := by
  simp only [declares, Bool.or_eq_true, Bool.true_and, typeDeclares_iff, objectDeclares_iff,
    or_assoc, program]
  refine or_congr_right (or_congr_right ?_)
  constructor
  · intro declared
    split at declared
    next name referred =>
      rw [Bool.and_eq_true, Option.any_eq_true] at declared
      obtain ⟨-, i, exported, declares⟩ := declared
      obtain ⟨intersection, r, first, identifier, rfl⟩ := referredInterface?_eq_some_iff.mp referred
      exact ⟨i, ⟨intersection, r, first, identifier, exportedInterface?_eq_some_iff.mp exported⟩,
        interfaceDeclares_iff.mp declares⟩
    · contradiction
  · rintro ⟨i, ⟨intersection, r, first, identifier, exported⟩, declares⟩
    have referred : referredInterface? t d.ofType = some (t.name r.name) :=
      referredInterface?_eq_some_iff.mpr ⟨intersection, r, first, identifier, rfl⟩
    rw [referred]
    rw [Bool.and_eq_true, Option.any_eq_true]
    exact ⟨by simpa using named identifier, i, exportedInterface?_eq_some_iff.mpr exported,
      interfaceDeclares_iff.mpr declares⟩

/-- What the rule has to say of a class. -/
def missing (t : Tree) (id : NodeId) : Finding :=
  ⟨t.span (some id), "missingRequiredItlyProperty",
    [("eventName", (t.class? (some id)).elim [] fun c => t.name c.name)], none⟩

theorem exists_classNode {id : NodeId} (h : t.class? (some id) = some c) :
    ∃ n, t.node? id = some n ∧ n.shape = .classNode c := by
  simp only [Tree.class?, Tree.part?, Tree.deref?, Option.bind_some, Option.bind_eq_some_iff] at h
  obtain ⟨n, found, picked⟩ := h
  split at picked
  next c' shape => exact ⟨n, found, shape.trans (congrArg _ (Option.some.inj picked))⟩
  · contradiction

theorem exists_list {r item : Ref} (mem : item ∈ t.items r) : ∃ id n form items, r = some id ∧
    t.node? id = some n ∧ n.shape = .list form items ∧ item ∈ items := by
  cases at_node : t.deref? r with
  | none => simp [Tree.items, Tree.part?, at_node] at mem
  | some n =>
    simp only [Tree.items, Tree.part?, at_node, Option.bind_some] at mem
    split at mem
    next form items shape =>
      obtain ⟨id, rfl, found⟩ := Option.bind_eq_some_iff.mp at_node
      exact ⟨id, n, form, items, rfl, found, shape, mem⟩
    · simp at mem

/-- The members of a class that is led to are led to. -/
theorem leads_member {root id : NodeId} (leads : t.Leads root id)
    (found : t.class? (some id) = some c) {member : NodeId} (mem : some member ∈ t.items c.body) :
    t.Leads root member := by
  obtain ⟨n, at_node, shape⟩ := exists_classNode found
  obtain ⟨b, m, form, items, body, at_body, shape', item⟩ := exists_list mem
  have child : b ∈ n.children := Ref.mem_compact.mpr (by simp [shape, Shape.refs, body])
  have grandchild : member ∈ m.children := Ref.mem_compact.mpr (by simpa [shape'] using item)
  exact (leads.tail ⟨n, at_node, child⟩).tail ⟨m, at_body, grandchild⟩

/-- The field that the rule takes is in the program at the root. -/
theorem program_of_properties? {file : FileId} (built : Script.Built file t) {root id : NodeId}
    (at_root : t.root = some root) (leads : t.Leads root id)
    (found : t.class? (some id) = some c) {member : Ref}
    (first : properties? t c = some (member, d)) :
    t.enclosingProgram member = t.root := by
  obtain ⟨before, m, after, split, ⟨rfl, field⟩, -⟩ := properties?_eq_some_iff.mp first
  obtain ⟨n, at_node, -⟩ := Option.bind_eq_some_iff.mp field.1
  obtain ⟨member, rfl, -⟩ := Option.bind_eq_some_iff.mp at_node
  refine built.enclosingProgram_eq at_root (leads_member leads found ?_)
  rw [split]
  exact List.mem_append_right before List.mem_cons_self

/-- Whether a class lacks the key, as the rule finds out in a script. -/
theorem lacks_iff {file : FileId} (built : Script.Built file t) {root id : NodeId}
    (at_root : t.root = some root) (leads : t.Leads root id)
    (found : t.class? (some id) = some c) :
    Lacks t key (Named t key) c ↔ implementsEvent t c ∧
      ¬ (properties? t c).any fun (field, d) => declares t key true field d := by
  have declared {member : Ref} {d : PropertyDefinition}
      (first : properties? t c = some (member, d)) :
      declares t key true member d ↔ InType t key d ∨ InObject t key d ∨
        ∃ i, RefersTo t d i ∧ HasSignature t (Named t key) i.body :=
    declares_iff built.name_ne_nil (program_of_properties? built at_root leads found first)
  rw [implementsEvent_iff, Option.any_eq_true]
  constructor
  · rintro ⟨event, field⟩
    refine ⟨event, ?_⟩
    rintro ⟨⟨member, d⟩, first, declares⟩
    obtain ⟨noType, noObject, noInterface⟩ := field d (first_isField_iff.mpr ⟨member, first⟩)
    obtain type | object | ⟨i, refers, signature⟩ := (declared first).mp declares
    · exact noType type
    · exact noObject object
    · exact noInterface i refers signature
  · rintro ⟨event, none⟩
    refine ⟨event, fun d first => ?_⟩
    obtain ⟨member, first⟩ := first_isField_iff.mp first
    have undeclared := fun ways => none ⟨(member, d), first, (declared first).mpr ways⟩
    exact ⟨fun type => undeclared (.inl type), fun object => undeclared (.inr (.inl object)),
      fun i refers signature => undeclared (.inr (.inr ⟨i, refers, signature⟩))⟩

/-- The rule says of a node of the library what is missing there, or nothing. -/
theorem classFindings_eq (context : Context) {file : FileId}
    (built : Script.Built file context.tree)
    (library : context.file.path.endsWith libraryPath = true) {root id : NodeId}
    (at_root : context.tree.root = some root) (leads : context.tree.Leads root id) :
    (Lacking context.tree key (Named context.tree key) id →
      classFindings context key true id = [missing context.tree id]) ∧
    (¬ Lacking context.tree key (Named context.tree key) id →
      classFindings context key true id = []) := by
  simp only [classFindings, library, Bool.not_true, Bool.false_eq_true, if_false]
  cases found : context.tree.class? (some id) with
  | none => simp [Lacking, found]
  | some c =>
    have same : Lacking context.tree key (Named context.tree key) id ↔
        Lacks context.tree key (Named context.tree key) c := by
      simp [Lacking, found]
    rw [same, lacks_iff built at_root leads found]
    simp only [missing, found, Option.elim_some]
    cases implementsEvent context.tree c <;>
      cases (properties? context.tree c).any fun (field, d) =>
        declares context.tree key true field d <;> simp

end Rule.EventProperty

open Rule (requireItlyEventSource)
open Rule.EventProperty

/-- In a script of the generated library the rule reports the classes that the root leads to and
that lack a source, each once, and nothing else.  A source that an interface declares by a string
does not count, so the classes that lack one by the common notion of a key are reported, and no
others, where interfaces have no such strings. -/
theorem lint_requireItlyEventSource {files : FileSet} {id : FileId} {f : File} {t : Tree}
    (known : files.get? id = some f) (library : f.path.endsWith libraryPath = true)
    (parsed : Script.parse files id = .ok t) (severity : Severity) (options : Options)
    (cwd : Text) :
    ∃ (root : NodeId) (classes : List NodeId) (ds : List Diagnostic), t.root = some root ∧
      classes.Nodup ∧
      (∀ id, id ∈ classes ↔ t.Leads root id ∧ t.hasKind (some id) .classDeclaration ∧
        Lacking t "eventSource" (Named t "eventSource") id) ∧
      ((∀ r i, t.interface? r = some i → ¬ HasSignature t (Quotes t "eventSource") i.body) →
        ∀ id, id ∈ classes ↔ t.Leads root id ∧ t.hasKind (some id) .classDeclaration ∧
          Lacking t "eventSource" (Spells t "eventSource") id) ∧
      lint [⟨requireItlyEventSource, severity, options⟩] cwd false files (some t) = .ok ds ∧
      ds.Perm (classes.map fun id =>
        requireItlyEventSource.diagnostic severity (missing t id)) := by
  classical
  have built := Script.built_of_parse parsed
  obtain ⟨root, b, planted⟩ := Tree.exists_planted built.fine
  let e : Entry := ⟨requireItlyEventSource, severity, options⟩
  let find := classFindings ⟨t, f, cwd, options⟩ "eventSource" true
  let declarations := b.ids.filter fun id => t.hasKind (some id) .classDeclaration
  have mem {id : NodeId} : id ∈ declarations ↔
      t.Leads root id ∧ t.hasKind (some id) .classDeclaration := by
    rw [List.mem_filter, planted.mem_ids_iff]
  have finds {id : NodeId} (declared : id ∈ declarations) :
      (Lacking t "eventSource" (Named t "eventSource") id → find id = [missing t id]) ∧
        (¬ Lacking t "eventSource" (Named t "eventSource") id → find id = []) :=
    classFindings_eq ⟨t, f, cwd, options⟩ built library planted.at_root (mem.mp declared).1
  have found : declarations.flatMap find
      = (declarations.filter (Lacking t "eventSource" (Named t "eventSource"))).map (missing t) :=
    flatMap_eq_map_filter (fun _ declared => (finds declared).1)
      fun _ declared => (finds declared).2
  obtain ⟨ds, linted, perm⟩ := lint_onEnter (built.file ▸ known) e cwd rfl
  have lacking {id : NodeId} :
      id ∈ declarations.filter (Lacking t "eventSource" (Named t "eventSource")) ↔
        t.Leads root id ∧ t.hasKind (some id) .classDeclaration ∧
          Lacking t "eventSource" (Named t "eventSource") id := by
    rw [List.mem_filter, mem, decide_eq_true_eq, and_assoc]
  refine ⟨root, _, ds, planted.at_root, (planted.nodup.filter _).filter _, fun id => lacking,
    fun unquoted id => ?_, linted, ?_⟩
  · rw [lacking, lacking_spells_iff unquoted]
  · rw [planted.walk_eq_tour, Branch.entered_tour, Running.reports] at perm
    have reported := congrArg (List.map (e.rule.diagnostic e.severity)) found
    rw [List.map_map] at reported
    exact perm.trans (.of_eq reported)

/-- A class that is reported although the interface of its field declares the source, for it does
so by a string. -/
theorem lint_requireItlyEventSource_string :
    let files := ((FileSet.empty "/" "").addInMemory "itly/index.ts"
      ("export interface P \x7b 'eventSource': string \x7d\n" ++
        "class A implements Event \x7b properties: P & \x7b itly: true \x7d; \x7d\n")).1
    ∃ f t ds, files.get? 0 = some f ∧ f.path.endsWith libraryPath = true ∧
      Script.parse files 0 = .ok t ∧
      lint [⟨requireItlyEventSource, .error, .empty⟩] "/" false files (some t) = .ok ds ∧
      ds.length = 1 := by
  intro files
  have known : files.get? 0 = some files.files.head! := by decide +kernel
  have library : files.files.head!.path.endsWith libraryPath = true := by decide +kernel
  have one : (Script.parse files 0).toOption.any (fun t => (Running.reports
      ⟨requireItlyEventSource, .error, .empty⟩ t .classDeclaration
      (classFindings ⟨t, files.files.head!, "/", .empty⟩ "eventSource" true)
      (t.walk.filterMap Visit.entered?)).length == 1) = true := by decide +kernel
  cases parsed : Script.parse files 0 with
  | error e => simp [parsed, Except.toOption] at one
  | ok t =>
    obtain ⟨root, classes, ds, -, -, -, -, linted, -⟩ :=
      lint_requireItlyEventSource known library parsed .error .empty "/"
    refine ⟨_, t, ds, known, library, rfl, linted, ?_⟩
    have file := (Script.built_of_parse parsed).file
    obtain ⟨ds', linted', perm⟩ := lint_onEnter (file ▸ known)
      ⟨requireItlyEventSource, .error, .empty⟩ "/" rfl
    cases linted.symm.trans linted'
    rw [perm.length_eq]
    simpa [parsed, Except.toOption] using one

end TreeLint
