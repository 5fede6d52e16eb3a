import TreeLint.Proofs.Document.Bounds
import TreeLint.Proofs.Fix.Selection
import TreeLint.Proofs.Rule.Registry
import TreeLint.Proofs.Rule.Uniform

/-! # The fixes of the rules

A rule makes its edits at nodes of the tree: at the span of a node, at one of its ends, or
over the comma that follows it.  Where the nodes lie within the source and those that are
asked for are there, so are the edits (`Edit.Plain`).  Overlapping edits are not composed,
so whatever a rule offers is a fix that is ready (`Rule.handy_of_mem_all`).

Two rules go to nodes that might not be there.  The type of a parameter is imported before
the root, and a comment on a query is added before the first property of an object, which
is a hole if the document has a null in its place.
-/

namespace TreeLint

namespace Span.Within

variable {s : Span} {file : FileId} {size : Nat}

theorem startPoint (h : s.Within file size) : s.startPoint.Within file size :=
  ⟨h.own, UInt32.le_refl _, Nat.le_trans (UInt32.le_iff_toNat_le.mp h.upright) h.inside⟩

theorem endPoint (h : s.Within file size) : s.endPoint.Within file size :=
  ⟨h.own, UInt32.le_refl _, h.inside⟩

end Span.Within

/-- An edit that lies within the source and takes no account of what is there. -/
structure Edit.Plain (file : FileId) (size : Nat) (e : Edit) : Prop where
  within : e.span.Within file size
  unguarded : e.oldText = []

theorem Edit.Plain.fits {file : FileId} {content : Text} {e : Edit}
    (h : e.Plain file content.length) : e.Fits content :=
  ⟨h.within.upright, h.within.inside, .inl h.unguarded⟩

/-- A fix that was composed of plain edits is ready. -/
theorem Fix.ready_of_plain {title content : Text} {edits : List Edit} {file : FileId} {f : Fix}
    (composed : (Fix.compose title edits).toOption = some f) (nonempty : edits ≠ [])
    (plain : ∀ e ∈ edits, e.Plain file content.length) : f.Ready file content :=
  compose_ready (toOption_eq_some.mp composed) nonempty (fun e mem => (plain e mem).within.own)
    fun e mem => (plain e mem).fits

theorem Fix.ready_of_one {title content : Text} {e : Edit} {file : FileId} {f : Fix}
    (composed : (Fix.compose title [e]).toOption = some f) (plain : e.Plain file content.length) :
    f.Ready file content :=
  ready_of_plain composed (List.cons_ne_nil e []) (List.forall_mem_singleton.mpr plain)

/-- A finding whose fix is ready, if it has one. -/
def Finding.Handy (file : FileId) (content : Text) (f : Finding) : Prop :=
  ∀ g, f.fix = some g → g.Ready file content

theorem Finding.handy_of_none {file : FileId} {content : Text} {f : Finding} (h : f.fix = none) :
    f.Handy file content := by
  intro g offered
  rw [h] at offered
  contradiction

/-! ## What rules rely on -/

theorem Shape.eq_object {shape : Shape} (h : shape.kind = .objectExpression) :
    ∃ items, shape = .list .object items := by
  cases shape with
  | list form items =>
    cases form with
    | object => exact ⟨items, rfl⟩
    | _ => contradiction
  | importSpecifier s =>
    obtain ⟨form, _, _, _⟩ := s
    cases form <;> contradiction
  | classNode c =>
    obtain ⟨form, _, _, _, _, _⟩ := c
    cases form <;> contradiction
  | function f =>
    obtain ⟨form, _, _, _, _, _, _, _⟩ := f
    cases form <;> contradiction
  | call c =>
    obtain ⟨form, _, _, _⟩ := c
    cases form <;> contradiction
  | wrap form _ | pair form _ _ => cases form <;> contradiction
  | _ => contradiction

/-- A tree whose nodes lie within the source, and whose root and children are there. -/
structure Context.Grounded (c : Context) (file : FileId) : Prop where
  small : c.file.content.length < UInt32.size
  nodes : c.tree.Every (Sturdy file c.file.content.length)
  climbing : c.tree.Climbing
  root : (c.tree.deref? c.tree.root).isSome

namespace Context.Grounded

variable {c : Context} {file : FileId}

theorem within (h : c.Grounded file) {r : Ref} (present : (c.tree.deref? r).isSome) :
    (c.tree.span r).Within file c.file.content.length := by
  obtain ⟨n, found⟩ := Option.isSome_iff_exists.mp present
  obtain ⟨id, rfl, node⟩ := Option.bind_eq_some_iff.mp found
  rw [Tree.span_of_node? node]
  exact (h.nodes id n node).within

/-- The first property of an object is there. -/
theorem first (h : c.Grounded file) {object first : Ref} {rest : List Ref}
    (kind : c.tree.hasKind object .objectExpression)
    (items : c.tree.items object = first :: rest) : (c.tree.deref? first).isSome := by
  obtain ⟨n, found⟩ := Option.isSome_iff_exists.mp (Tree.deref?_of_hasKind kind)
  obtain ⟨id, rfl, node⟩ := Option.bind_eq_some_iff.mp found
  obtain ⟨m, node', kind⟩ := Tree.hasKind_iff.mp kind
  cases node.symm.trans node'
  obtain ⟨properties, shape⟩ := Shape.eq_object kind
  have listed : properties = first :: rest := by
    rw [← items]
    simp [Tree.items, Tree.part?, found, shape]
  rw [listed] at shape
  cases first with
  | none => exact absurd List.mem_cons_self ((h.nodes id n node).full _ shape)
  | some child =>
    have mem : child ∈ n.children := by
      rw [Node.children, Ref.mem_compact, shape]
      exact List.mem_cons_self
    have inside := Nat.lt_trans (h.climbing.child node child mem) (Tree.index_lt_size node)
    exact Option.isSome_iff_ne_none.mpr fun absent =>
      Nat.not_le.mpr inside (Tree.node?_eq_none.mp absent)

end Context.Grounded

namespace Rule

variable {c : Context} {file : FileId}

/-! ## Exports -/

namespace ExportInline

/-- A comma that is taken along is part of the source. -/
theorem withComma_within {content : Text} {s : Span} (small : content.length < UInt32.size)
    (h : s.Within file content.length) : (withComma content s).Within file content.length := by
  have inside := h.inside
  have small : content.length < 2 ^ 32 := small
  simp only [withComma]
  split
  next rest comma =>
    generalize blanks : ((content.drop s.stop.toNat).takeWhile fun b =>
      b == 32 || b == 9 || b == 13 || b == 10).length = n at comma
    have left : n + (rest.length + 1) = content.length - s.stop.toNat := by
      have := congrArg List.length comma
      simp only [List.length_drop, List.length_cons] at this
      omega
    have stop : (s.stop.toNat + n + 1).toUInt32.toNat = s.stop.toNat + n + 1 := by
      rw [Nat.toUInt32_eq, UInt32.toNat_ofNat', Nat.mod_eq_of_lt]
      omega
    have upright := UInt32.le_iff_toNat_le.mp h.upright
    refine ⟨h.own, UInt32.le_iff_toNat_le.mpr ?_, ?_⟩
    · simp only [stop]
      omega
    · simp only [stop]
      omega
  · exact h

theorem specifierFinding?_handy (h : c.Grounded file) {body : List Ref} {r : Ref}
    {s : ExportSpecifier} (found : c.tree.exportSpecifier? r = some s) {f : Finding}
    (eq : specifierFinding? c body r s = some f) : f.Handy file c.file.content := by
  simp only [specifierFinding?] at eq
  split at eq
  · contradiction
  obtain ⟨declaration, named, rfl⟩ := Option.map_eq_some_iff.mp eq
  have kind := List.find?_some named
  simp only [Bool.and_eq_true] at kind
  intro g composed
  refine Fix.ready_of_plain composed (by simp) ?_
  simp only [List.forall_mem_cons, List.not_mem_nil, false_implies, implies_true, and_true]
  have name := h.within (Tree.deref?_of_part? found)
  have declared := h.within (Tree.deref?_of_hasKind kind.1.1)
  exact ⟨⟨withComma_within h.small name, rfl⟩, ⟨declared.startPoint, rfl⟩⟩

theorem statementFindings_handy (h : c.Grounded file) {body : List Ref} {r : Ref}
    {found : List Finding} (eq : statementFindings c body r = .ok found) :
    ∀ f ∈ found, f.Handy file c.file.content := by
  simp only [statementFindings] at eq
  split at eq
  · cases eq
    simp
  next d statement =>
    split at eq
    · cases eq
      simp
    split at eq
    · split at eq
      · cases eq
        refine List.forall_mem_singleton.mpr fun g composed => Fix.ready_of_one composed ?_
        exact ⟨h.within (Tree.deref?_of_part? statement), rfl⟩
      · cases eq
        simp
    · cases items : d.specifiers.mapM (itemFinding? c body r) with
      | error e =>
        rw [items] at eq
        contradiction
      | ok each =>
        rw [items] at eq
        cases eq
        intro f mem
        obtain ⟨item, mem, rfl⟩ := List.mem_filterMap.mp mem
        obtain ⟨s, -, one⟩ := mem_of_mapM items _ mem
        simp only [itemFinding?] at one
        split at one
        next spec name => exact specifierFinding?_handy h name (Except.ok.inj one)
        · contradiction

theorem programFindings_handy (h : c.Grounded file) {id : NodeId} {found : List Finding}
    (eq : programFindings c id = .ok found) : ∀ f ∈ found, f.Handy file c.file.content := by
  simp only [programFindings] at eq
  generalize ((c.tree.program? (some id)).map Program.body).getD [] = body at eq
  cases statements : body.mapM (statementFindings c body) with
  | error e =>
    rw [statements] at eq
    contradiction
  | ok each =>
    rw [statements] at eq
    cases eq
    intro f mem
    obtain ⟨fs, mem, here⟩ := List.mem_flatten.mp mem
    obtain ⟨r, -, one⟩ := mem_of_mapM statements fs mem
    exact statementFindings_handy h one f here

end ExportInline

/-! ## Imports -/

namespace ImportStyle

theorem finding_handy (h : c.Grounded file) {id : NodeId}
    (present : (c.tree.deref? (some id)).isSome) (title : Text) (replacement? : Option Text) :
    (finding c.tree id title replacement?).Handy file c.file.content := by
  intro g offered
  obtain ⟨text, -, composed⟩ := Option.bind_eq_some_iff.mp offered
  exact Fix.ready_of_one composed ⟨h.within present, rfl⟩

theorem namespaceFindings_handy (h : c.Grounded file) (accepts : Matcher) (pairs : List Pair)
    (id : NodeId) : ∀ f ∈ namespaceFindings c accepts pairs id,
      f.Handy file c.file.content := by
  simp only [namespaceFindings]
  split
  next declaration =>
    split
    · exact List.forall_mem_singleton.mpr
        (finding_handy h (Tree.deref?_of_part? declaration) _ _)
    · simp
  · simp

theorem equalsFindings_handy (h : c.Grounded file) (pairs : List Pair) (id : NodeId) :
    ∀ f ∈ equalsFindings c pairs id, f.Handy file c.file.content := by
  simp only [equalsFindings]
  split
  · simp
  next declaration =>
    split
    · simp
    split
    · simp
    · exact List.forall_mem_singleton.mpr
        (finding_handy h (Tree.deref?_of_part? declaration) _ _)

theorem visitor_finds (h : c.Grounded file) (accepts : Matcher) (s : Settings) :
    (visitor c accepts s).Finds (Finding.Handy file c.file.content) := by
  intro memory visit memory' found step
  cases visit with
  | leave id =>
    cases step
    simp
  | enter id =>
    simp only [visitor] at step
    split at step
    · split at step
      · cases step
        exact namespaceFindings_handy h accepts _ id
      · cases step
        simp
    · cases step
      exact equalsFindings_handy h s.toNamed id
    · cases step
      simp

end ImportStyle

/-! ## Types of parameters -/

namespace ParamTypes

theorem fix_ready (h : c.Grounded file) {param : Ref} (present : (c.tree.deref? param).isSome)
    {f : TypeFix} {imported : Memory} {g : Fix} (made : fix c.tree param f imported = some g) :
    g.Ready file c.file.content := by
  simp only [fix] at made
  refine Fix.ready_of_plain made (by simp) (List.forall_mem_append.mpr ⟨?_, ?_⟩)
  · split
    · simp
    · exact List.forall_mem_singleton.mpr ⟨(h.within h.root).startPoint, rfl⟩
  · exact List.forall_mem_singleton.mpr ⟨(h.within present).endPoint, rfl⟩

theorem paramFindings_handy (h : c.Grounded file) (s : Settings) (id : NodeId) (imported : Memory)
    (param : Ref) : ∀ f ∈ (paramFindings c.tree s id imported param).2,
      f.Handy file c.file.content := by
  simp only [paramFindings]
  split
  · simp
  next i named =>
    split
    · simp
    · refine List.forall_mem_singleton.mpr fun g offered => ?_
      obtain ⟨f, -, made⟩ := Option.bind_eq_some_iff.mp offered
      exact fix_ready h (Tree.deref?_of_part? named) made

theorem paramsFindings_handy (h : c.Grounded file) (s : Settings) (id : NodeId)
    (imported : Memory) (params : List Ref) :
    ∀ f ∈ (paramsFindings c.tree s id imported params).2, f.Handy file c.file.content := by
  induction params generalizing imported with
  | nil => simp [paramsFindings]
  | cons p ps ih =>
    exact List.forall_mem_append.mpr ⟨paramFindings_handy h s id imported p, ih _⟩

theorem visitor_finds (h : c.Grounded file) (s : Settings) :
    (visitor c.tree s).Finds (Finding.Handy file c.file.content) := by
  intro memory visit memory' found step
  cases visit with
  | leave id =>
    cases step
    simp
  | enter id =>
    simp only [visitor] at step
    split at step
    · cases step
      simp
    · have found := congrArg Prod.snd (Except.ok.inj step)
      subst found
      exact paramsFindings_handy h s id memory _
    · cases step
      simp

end ParamTypes

/-! ## Returned promises -/

theorem ReturnAwait.returnFindings_handy (h : c.Grounded file) (id : NodeId) :
    ∀ f ∈ returnFindings c.tree id, f.Handy file c.file.content := by
  simp only [returnFindings]
  split
  next call =>
    refine List.forall_mem_singleton.mpr fun g composed => Fix.ready_of_one composed ?_
    have present := Tree.deref?_of_hasKind (Bool.and_eq_true_iff.mp call).1
    exact ⟨(h.within present).startPoint, rfl⟩
  · simp

/-! ## Comments on queries -/

namespace SequelizeComment

theorem commentEdit?_plain (h : c.Grounded file) {object : Ref}
    (kind : c.tree.hasKind object .objectExpression) {name : Text} {e : Edit}
    (made : commentEdit? c object name = some e) : e.Plain file c.file.content.length := by
  simp only [commentEdit?] at made
  split at made
  next first rest items =>
    cases made
    exact ⟨(h.within (h.first kind items)).startPoint, rfl⟩
  · split at made
    · cases made
      exact ⟨h.within (Tree.deref?_of_hasKind kind), rfl⟩
    · contradiction

theorem callFindings_handy (h : c.Grounded file) (id : NodeId) :
    ∀ f ∈ callFindings c id, f.Handy file c.file.content := by
  simp only [callFindings]
  split
  next callee object _ _ =>
    split
    · simp
    next options =>
      refine List.forall_mem_singleton.mpr fun g offered => ?_
      obtain ⟨e, made, composed⟩ := Option.bind_eq_some_iff.mp offered
      have kind : c.tree.hasKind object .objectExpression := by
        simp only [Bool.or_eq_true, not_or] at options
        simpa using options.1.2
      rw [Option.ite_none_left_eq_some] at made
      exact Fix.ready_of_one composed (commentEdit?_plain h kind made.2)
  · simp

end SequelizeComment

/-! ## Findings without fixes -/

theorem EventProperty.classFindings_handy (c : Context) (file : FileId) (key : Text)
    (viaInterface : Bool) (id : NodeId) :
    ∀ f ∈ classFindings c key viaInterface id, f.Handy file c.file.content := by
  simp only [classFindings]
  split
  · exact List.forall_mem_singleton.mpr (Finding.handy_of_none rfl)
  split
  · simp
  split
  · simp
  · exact List.forall_mem_singleton.mpr (Finding.handy_of_none rfl)

theorem UnboundedConcurrency.callFindings_handy (t : Tree) (file : FileId) (content : Text)
    (id : NodeId) : ∀ f ∈ callFindings t id, f.Handy file content := by
  simp only [callFindings]
  split
  · exact List.forall_mem_singleton.mpr (Finding.handy_of_none rfl)
  · simp

/-! ## The rules -/

/-- A rule whose fixes are ready wherever it is set up for a grounded tree. -/
def Handy (r : Rule) : Prop :=
  ∀ (c : Context) (file : FileId) (v : Visitor), c.Grounded file → r.create c = .ok v →
    v.Finds (Finding.Handy file c.file.content)

/-- A rule that looks at nodes of one kind is handy if what it finds at each is. -/
theorem handy_of_onEnter {r : Rule} {k : Kind}
    {find : Context → NodeId → Except Fault (List Finding)}
    (create : ∀ c, r.create c = .ok (.onEnter c.tree k (find c)))
    (finds : ∀ (c : Context) (file : FileId), c.Grounded file → ∀ id found,
      find c id = .ok found → ∀ f ∈ found, f.Handy file c.file.content) : r.Handy := by
  intro c file v grounded created
  cases (create c).symm.trans created
  exact onEnter_finds fun id found _ => finds c file grounded id found

theorem eventProperty_handy (name description key missing : Text) (viaInterface : Bool) :
    (EventProperty.rule name description key missing viaInterface).Handy := by
  refine handy_of_onEnter (fun _ => rfl) fun c file _ id found eq => ?_
  cases eq
  exact EventProperty.classFindings_handy c file key viaInterface id

/-- Whatever the options, the fixes of the rules are ready. -/
theorem handy_of_mem_all {r : Rule} (h : r ∈ all) : r.Handy := by
  simp only [all, List.mem_cons, List.not_mem_nil, or_false] at h
  obtain rfl | rfl | rfl | rfl | rfl | rfl | rfl | rfl := h
  · exact handy_of_onEnter (fun _ => rfl) fun c file grounded id found eq =>
      ExportInline.programFindings_handy grounded eq
  · intro c file v grounded created
    obtain ⟨s, -, rfl⟩ := importStyle_created created
    exact ImportStyle.visitor_finds grounded _ s
  · intro c file v grounded created
    obtain ⟨s, -, rfl⟩ := paramTypes_created created
    exact ParamTypes.visitor_finds grounded s
  · exact eventProperty_handy _ _ _ _ _
  · exact eventProperty_handy _ _ _ _ _
  · refine handy_of_onEnter (fun _ => rfl) fun c file grounded id found eq => ?_
    cases eq
    exact ReturnAwait.returnFindings_handy grounded id
  · refine handy_of_onEnter (fun _ => rfl) fun c file grounded id found eq => ?_
    cases eq
    exact SequelizeComment.callFindings_handy grounded id
  · refine handy_of_onEnter (fun _ => rfl) fun c file _ id found eq => ?_
    cases eq
    exact UnboundedConcurrency.callFindings_handy c.tree file c.file.content id

end Rule
end TreeLint
