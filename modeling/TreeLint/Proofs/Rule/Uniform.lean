import TreeLint.Proofs.Rule.InFile

/-! # What the rules know of a file

A rule is set up with a whole file, its number and flags included, but no rule looks at
those.  In another file with the same path, content and tree a rule finds the same, moved
there (`Rule.Uniform`), and this holds of all rules but one.

The exception is the rule about comments on queries.  The text that it inserts goes before
the first property of an object, and where that is a hole the edit stands in the first
file, whatever file is linted.  What is stored of its findings still does not depend on
the file (`Rule.Blind`), and that much holds of every rule (`Rule.blind_of_mem_all`).
-/

namespace TreeLint

/-- What is stored of a finding. -/
def Finding.stored (f : Finding) : Stored.Range × Text × Template.Data × Option Stored.Fix :=
  (.ofSpan f.span, f.messageId, f.data, f.fix.bind Stored.Fix.ofFix?)

theorem Finding.stored_inFile (f : Finding) (here there : FileId) :
    (f.inFile there).stored = (f.inFile here).stored := by
  have fix : (f.fix.map (Fix.inFile there)).bind Stored.Fix.ofFix?
      = (f.fix.map (Fix.inFile here)).bind Stored.Fix.ofFix? := by
    cases f.fix with
    | none => rfl
    | some fix => exact Stored.Fix.ofFix?_inFile fix here there
  simp only [stored, inFile, fix]
  rfl

namespace Visitor

/-- The visitor with its findings in another file. -/
def inFile (file : FileId) (v : Visitor) : Visitor where
  step memory visit := (v.step memory visit).map (Rule.resultInFile file)

/-- The visitor with its findings as they are stored. -/
def stored (v : Visitor) (memory : Memory) (visit : Visit) :
    Except Fault (Memory × List (Stored.Range × Text × Template.Data × Option Stored.Fix)) :=
  (v.step memory visit).map fun r => (r.1, r.2.map Finding.stored)

theorem inFile_found {v : Visitor} {here : FileId} (own : v.inFile here = v) {memory : Memory}
    {visit : Visit} {memory' : Memory} {found : List Finding}
    (h : v.step memory visit = .ok (memory', found)) :
    found.map (Finding.inFile here) = found := by
  have moved := congrArg (fun v => v.step memory visit) own
  simp only [inFile, h] at moved
  exact (Prod.mk.inj (Except.ok.inj moved)).2

theorem stored_inFile {v : Visitor} {here : FileId} (own : v.inFile here = v) (there : FileId) :
    (v.inFile there).stored = v.stored := by
  funext memory visit
  cases result : v.step memory visit with
  | error e => simp only [stored, inFile, result]; rfl
  | ok r =>
    obtain ⟨memory', found⟩ := r
    have same : (found.map (Finding.inFile there)).map Finding.stored = found.map Finding.stored :=
      calc (found.map (Finding.inFile there)).map Finding.stored
        _ = (found.map (Finding.inFile here)).map Finding.stored := by
          rw [List.map_map, List.map_map]
          exact List.map_congr_left fun f _ => f.stored_inFile here there
        _ = found.map Finding.stored := by rw [inFile_found own result]
    simp only [stored, inFile, result]
    exact congrArg (fun found => Except.ok (memory', found)) same

/-- A visitor that only finds what has a property, whatever it remembers. -/
def Finds (p : Finding → Prop) (v : Visitor) : Prop :=
  ∀ memory visit memory' found, v.step memory visit = .ok (memory', found) → ∀ f ∈ found, p f

end Visitor

/-- The same tree, for another file of the same path and content. -/
def Context.inFile (there : FileId) (g : File) (c : Context) : Context :=
  ⟨c.tree.inFile there, g, c.cwd, c.options⟩

namespace Rule

/-- A rule that is blind to the number and the flags of a file. -/
def Uniform (r : Rule) : Prop :=
  ∀ (c : Context) (there : FileId) (g : File), c.tree.Whole → g.path = c.file.path →
    g.content = c.file.content →
    r.create (c.inFile there g) = (r.create c).map (Visitor.inFile there)

/-- A rule of which nothing is stored that depends on the number or the flags of a file. -/
structure Blind (r : Rule) : Prop where
  stored : ∀ (c : Context) (there : FileId) (g : File), c.tree.Whole → g.path = c.file.path →
    g.content = c.file.content →
    (r.create (c.inFile there g)).map Visitor.stored = (r.create c).map Visitor.stored
  /-- What it finds, it finds in the file of the tree. -/
  primary : ∀ (c : Context) (v : Visitor), c.tree.Whole → r.create c = .ok v →
    ∀ memory visit memory' found, v.step memory visit = .ok (memory', found) →
      ∀ f ∈ found, f.span.file = c.tree.file

/-! ## Visitors -/

section Visitors

variable {c : Context} {g : File} {there : FileId}

theorem onEnter_inFile {t : Tree} {k : Kind} {find find' : NodeId → Except Fault (List Finding)}
    (same : ∀ id, (t.deref? (some id)).isSome →
      find' id = (find id).map (List.map (Finding.inFile there))) :
    Visitor.onEnter (t.inFile there) k find' = (Visitor.onEnter t k find).inFile there := by
  refine congrArg Visitor.mk (funext fun memory => funext fun visit => ?_)
  cases visit with
  | leave id => rfl
  | enter id =>
    simp only [Visitor.onEnter, Tree.hasKind_inFile]
    cases kind : t.hasKind (some id) k with
    | false => rfl
    | true =>
      rw [if_pos rfl, if_pos rfl, same id (Tree.deref?_of_hasKind kind)]
      cases find id <;> rfl

theorem onEnter_finds {p : Finding → Prop} {t : Tree} {k : Kind}
    {find : NodeId → Except Fault (List Finding)}
    (finds : ∀ id found, t.hasKind (some id) k → find id = .ok found → ∀ f ∈ found, p f) :
    (Visitor.onEnter t k find).Finds p := by
  intro memory visit memory' found step
  cases visit with
  | leave id =>
    cases step
    simp
  | enter id =>
    simp only [Visitor.onEnter] at step
    split at step
    next kind =>
      cases here : find id with
      | error e =>
        rw [here] at step
        contradiction
      | ok fs =>
        rw [here] at step
        cases step
        exact finds id _ kind here
    · cases step
      simp

theorem importStyle_inFile (path : g.path = c.file.path) (accepts : ImportStyle.Matcher)
    (s : ImportStyle.Settings) :
    ImportStyle.visitor (c.inFile there g) accepts s
      = (ImportStyle.visitor c accepts s).inFile there := by
  refine congrArg Visitor.mk (funext fun memory => funext fun visit => ?_)
  cases visit with
  | leave id => rfl
  | enter id =>
    simp only [ImportStyle.visitor, Context.inFile, Tree.kind?_inFile]
    by_cases present : (c.tree.deref? (some id)).isSome
    · simp only [ImportStyle.namespaceFindings_inFile there path accepts _ present,
        ImportStyle.equalsFindings_inFile there c g s.toNamed present]
      split
      · split <;> rfl
      · rfl
      · rfl
    · rw [Tree.kind?_eq_none present]
      rfl

theorem paramTypes_inFile {t : Tree} {here : FileId} (own : t.inFile here = t)
    (root : (t.deref? t.root).isSome) (s : ParamTypes.Settings) :
    ParamTypes.visitor (t.inFile there) s = (ParamTypes.visitor t s).inFile there := by
  refine congrArg Visitor.mk (funext fun memory => funext fun visit => ?_)
  cases visit with
  | leave id => rfl
  | enter id =>
    simp only [ParamTypes.visitor, Tree.kind?_inFile, ParamTypes.importedNames_inFile,
      Tree.function?_inFile]
    by_cases present : (t.deref? (some id)).isSome
    · simp only [ParamTypes.paramsFindings_inFile there own root s present]
      split <;> rfl
    · rw [Tree.kind?_eq_none present]
      rfl

end Visitors

/-! ## The rules -/

theorem exportInline_uniform : exportInline.Uniform := by
  intro c there g whole path content
  refine congrArg Except.ok (onEnter_inFile fun id _ => ?_)
  exact ExportInline.programFindings_inFile there whole.own content id

theorem importStyle_uniform (accepts : ImportStyle.Matcher) :
    (importStyleWith accepts).Uniform := by
  intro c there g whole path content
  simp only [importStyleWith, Context.inFile]
  cases ImportStyle.settings c.options with
  | error e => rfl
  | ok s => exact congrArg Except.ok (importStyle_inFile path accepts s)

theorem paramTypes_uniform : paramTypes.Uniform := by
  intro c there g whole path content
  simp only [paramTypes, Context.inFile, ParamTypes.settings_eq there c g path]
  cases ParamTypes.settings c with
  | error e => rfl
  | ok s => exact congrArg Except.ok (paramTypes_inFile whole.own whole.root s)

theorem eventProperty_uniform (name description key missing : Text) (viaInterface : Bool) :
    (EventProperty.rule name description key missing viaInterface).Uniform := by
  intro c there g whole path content
  refine congrArg Except.ok (onEnter_inFile fun id present => ?_)
  exact congrArg Except.ok (EventProperty.classFindings_inFile there path key viaInterface present)

theorem returnAwait_uniform : returnAwait.Uniform := by
  intro c there g whole path content
  refine congrArg Except.ok (onEnter_inFile fun id _ => ?_)
  exact congrArg Except.ok (ReturnAwait.returnFindings_inFile there c.tree id)

theorem unboundedConcurrency_uniform : unboundedConcurrency.Uniform := by
  intro c there g whole path content
  refine congrArg Except.ok (onEnter_inFile fun id _ => ?_)
  exact congrArg Except.ok (UnboundedConcurrency.callFindings_inFile there c.tree id)

theorem Uniform.own {r : Rule} (h : r.Uniform) {c : Context} (whole : c.tree.Whole) {v : Visitor}
    (created : r.create c = .ok v) : v.inFile c.tree.file = v := by
  have moved := h c c.tree.file c.file whole rfl rfl
  rw [Context.inFile, whole.own, created] at moved
  exact (Except.ok.inj moved).symm

theorem Uniform.blind {r : Rule} (h : r.Uniform) : r.Blind := by
  refine ⟨fun c there g whole path content => ?_, fun c v whole created => ?_⟩
  · rw [h c there g whole path content]
    cases created : r.create c with
    | error e => rfl
    | ok v => exact congrArg Except.ok (Visitor.stored_inFile (h.own whole created) there)
  · intro memory visit memory' found step f mem
    rw [← Visitor.inFile_found (h.own whole created) step] at mem
    obtain ⟨f, -, rfl⟩ := List.mem_map.mp mem
    rfl

namespace SequelizeComment

variable {c : Context} {g : File} (there : FileId)

/-- A span is stored alike in any file, that of a hole included. -/
theorem range_inFile (t : Tree) (r : Ref) :
    Stored.Range.ofSpan ((t.inFile there).span r) = Stored.Range.ofSpan (t.span r) := by
  rw [Tree.span, Tree.span, Tree.deref?_inFile]
  cases t.deref? r <;> rfl

theorem commentEdit?_stored (path : g.path = c.file.path) (object : Ref) (name : Text) :
    (commentEdit? (c.inFile there g) object name).map Stored.Edit.ofEdit
      = (commentEdit? c object name).map Stored.Edit.ofEdit := by
  have range := range_inFile there c.tree
  have start (r : Ref) : ((c.tree.inFile there).span r).start = (c.tree.span r).start :=
    congrArg Stored.Range.start (range r)
  have length (r : Ref) : ((c.tree.inFile there).span r).length = (c.tree.span r).length :=
    congrArg (fun range => range.stop - range.start) (range r)
  simp only [commentEdit?, Context.inFile, path, Tree.items_inFile, length]
  cases c.tree.items object with
  | nil =>
    simp only
    cases (c.tree.span object).length == 2 with
    | true => simp only [if_true, Option.map_some, Stored.Edit.ofEdit, Edit.replace, range]
    | false => rfl
  | cons first rest =>
    simp only [Option.map_some, Stored.Edit.ofEdit, Edit.insertBefore, Span.startPoint,
      Stored.Range.ofSpan, start]

theorem callFindings_stored (path : g.path = c.file.path) (id : NodeId) :
    (callFindings (c.inFile there g) id).map Finding.stored
      = (callFindings c id).map Finding.stored := by
  have fix (edit? : Option Edit) :
      (edit?.bind fun e => (Fix.compose "add query comment" [e]).toOption).bind Stored.Fix.ofFix?
        = (edit?.map Stored.Edit.ofEdit).map
            fun e => ⟨[], "add query comment", 0, 0, false, false, [e]⟩ := by
    cases edit? <;> rfl
  have finder : dottedProperty? (c.tree.inFile there) = dottedProperty? c.tree :=
    funext (dottedProperty?_inFile there c.tree)
  have call : (c.inFile there g).tree = c.tree.inFile there := rfl
  simp only [callFindings, call, Tree.call?_inFile, finder, Tree.hasKind_inFile,
    hasIdentifierKey_inFile, enclosingName_inFile]
  split
  · split
    · rfl
    · simp only [List.map_cons, List.map_nil, Finding.stored, range_inFile, fix]
      split
      · rfl
      · rw [commentEdit?_stored there path]
  · rfl

theorem callFindings_span {id : NodeId} {f : Finding} (mem : f ∈ callFindings c id) :
    f.span = c.tree.span (some id) := by
  simp only [callFindings] at mem
  split at mem
  · split at mem
    · contradiction
    · rw [List.mem_singleton.mp mem]
  · contradiction

end SequelizeComment

theorem sequelizeComment_blind : sequelizeComment.Blind := by
  refine ⟨fun c there g whole path content => ?_, fun c v whole created => ?_⟩
  · refine congrArg Except.ok (funext fun memory => funext fun visit => ?_)
    cases visit with
    | leave id => rfl
    | enter id =>
      simp only [Visitor.stored, Visitor.onEnter, Context.inFile, Tree.hasKind_inFile]
      cases c.tree.hasKind (some id) .callExpression with
      | false => rfl
      | true =>
        exact congrArg (fun found => Except.ok (memory, found))
          (SequelizeComment.callFindings_stored there path id)
  · cases created
    refine onEnter_finds fun id found kind eq f mem => ?_
    cases eq
    rw [SequelizeComment.callFindings_span mem]
    exact Tree.span_file whole.own (Tree.deref?_of_hasKind kind)

/-- All rules but the one about comments on queries are blind to the file. -/
theorem uniform_of_mem_all {r : Rule} (h : r ∈ all) : r = sequelizeComment ∨ r.Uniform := by
  simp only [all, List.mem_cons, List.not_mem_nil, or_false] at h
  obtain rfl | rfl | rfl | rfl | rfl | rfl | rfl | rfl := h
  · exact .inr exportInline_uniform
  · exact .inr (importStyle_uniform _)
  · exact .inr paramTypes_uniform
  · exact .inr (eventProperty_uniform _ _ _ _ _)
  · exact .inr (eventProperty_uniform _ _ _ _ _)
  · exact .inr returnAwait_uniform
  · exact .inl rfl
  · exact .inr unboundedConcurrency_uniform

/-- What is stored of the findings of a rule depends on neither the number nor the flags
of the file. -/
theorem blind_of_mem_all {r : Rule} (h : r ∈ all) : r.Blind := by
  obtain rfl | uniform := uniform_of_mem_all h
  · exact sequelizeComment_blind
  · exact uniform.blind

end Rule
end TreeLint
