import TreeLint.Proofs.Lint.Entries
import TreeLint.Proofs.Lint.Pass
import TreeLint.Proofs.Rewriting.Objects
import TreeLint.Proofs.Rule.Fixes
import TreeLint.Proofs.Script.Program
import TreeLint.Rule.SequelizeComment

/-! # Commenting what was reported

A pass over what the rule for queries reports puts a comment into the options of each query that
the rule offers a fix for.  Where what the comments say can stand between quotes as it is, the text
that comes of it is a script again, whose tree is that of the script as it was but for these
comments (`fix_sequelizeComment`). -/

namespace TreeLint

open Script (Piece Plain Comments)
open Edit (Put Apart)

namespace Rule.SequelizeComment

/-! ## What is offered -/

/-- A call of a finder, the object of its options that a comment is offered for, and what this is
to say. -/
structure Offers (t : Tree) (path : Text) (call object : NodeId) (value : Text) : Prop where
  kind : t.hasKind (some call) .callExpression
  called : ∃ form callee chained,
    t.call? (some call) = some ⟨form, callee, [some object], chained⟩ ∧
    (dottedProperty? t callee).any finders.contains
  isObject : t.hasKind (some object) .objectExpression
  uncommented : hasIdentifierKey t (some object) "comment" = false
  named : enclosingName t call ≠ []
  room : t.items (some object) ≠ [] ∨ (t.span (some object)).length = 2
  value_eq : value = pathEnd path ++ ":" ++ enclosingName t call

/-- The object that a comment is offered for at a call, with what this is to say. -/
def offer? (t : Tree) (path : Text) (call : NodeId) : Option (NodeId × Text) :=
  match t.call? (some call) with
  | some ⟨_, callee, [object], _⟩ =>
    if !(dottedProperty? t callee).any finders.contains || !t.hasKind object .objectExpression
        || hasIdentifierKey t object "comment" then none
    else if (enclosingName t call).isEmpty then none
    else if (t.items object).isEmpty && (t.span object).length != 2 then none
    else object.map fun o => (o, pathEnd path ++ ":" ++ enclosingName t call)
  | _ => none

variable {t : Tree} {path : Text} {call object : NodeId} {value : Text}

theorem offer?_eq_some_iff (kind : t.hasKind (some call) .callExpression) :
    offer? t path call = some (object, value) ↔ Offers t path call object value := by
  constructor
  · intro offered
    simp only [offer?] at offered
    split at offered
    next form callee argument chained called =>
      rw [Option.ite_none_left_eq_some, Option.ite_none_left_eq_some,
        Option.ite_none_left_eq_some] at offered
      obtain ⟨known, named, room, offered⟩ := offered
      obtain ⟨o, rfl, same⟩ := Option.map_eq_some_iff.mp offered
      cases same
      simp only [Bool.or_eq_true, Bool.not_eq_true', not_or, Bool.not_eq_false, Bool.not_eq_true]
        at known
      refine ⟨kind, ⟨form, callee, chained, called, known.1.1⟩, known.1.2, known.2,
        mt List.isEmpty_iff.mpr named, ?_, rfl⟩
      simpa [or_iff_not_imp_left] using room
    · contradiction
  · rintro ⟨-, ⟨form, callee, chained, called, finder⟩, isObject, uncommented, named, room, rfl⟩
    have space :
        ((t.items (some object)).isEmpty && (t.span (some object)).length != 2) = false := by
      simpa [or_iff_not_imp_left] using room
    simp [offer?, called, finder, isObject, uncommented, named, space]

/-! ## What the fixes put in -/

/-- What is put into the text for an object. -/
def put (t : Tree) (o : NodeId × Text) : Put :=
  let text := Piece.joined (Piece.comment o.2)
  match t.items (some o.1) with
  | first :: _ => ⟨.insertBefore (t.span first) text, (t.span first).start.toNat, text⟩
  | [] => ⟨.replace (t.span (some o.1)) ("\x7b" ++ text ++ "\x7d"),
      (t.span (some o.1)).start.toNat + 1, text⟩

theorem joined_comment (value : Text) :
    Piece.joined (Piece.comment value) = utf8 "comment: '" ++ value ++ utf8 "', " := by
  have opening :
      utf8 "comment: '" = utf8 "comment" ++ utf8 ":" ++ utf8 " " ++ [Text.byte '\''] := by
    decide
  have closing : utf8 "', " = [Text.byte '\''] ++ utf8 "," ++ utf8 " " := by decide
  simp [Piece.joined, Piece.comment, Script.quoted, opening, closing]

variable {c : Context} {file : FileId}

theorem commentEdit?_eq {name : Text} : commentEdit? c (some object) name =
    if (c.tree.items (some object)).isEmpty && (c.tree.span (some object)).length != 2 then none
    else some (put c.tree (object, pathEnd c.file.path ++ ":" ++ name)).edit := by
  have text : Piece.joined (Piece.comment (pathEnd c.file.path ++ ":" ++ name))
      = "comment: '" ++ pathEnd c.file.path ++ ":" ++ name ++ "', " := by
    rw [joined_comment]
    simp
  simp only [commentEdit?, put, text]
  cases c.tree.items (some object) with
  | nil =>
    by_cases bare : (c.tree.span (some object)).length = 2 <;> simp [bare]
  | cons first rest => rfl

theorem editsOf_callFindings {severity : Severity}
    (here : (c.tree.span (some call)).file = file) :
    ((callFindings c call).map (sequelizeComment.diagnostic severity)).filterMap
        (FixPass.editsOf? file)
      = ((offer? c.tree c.file.path call).map fun o => [(put c.tree o).edit]).toList := by
  have nothing {f : Finding} (none : f.fix = none) :
      ([f].map (sequelizeComment.diagnostic severity)).filterMap (FixPass.editsOf? file) = [] := by
    simp [FixPass.editsOf?, diagnostic, none]
  have one {f : Finding} {e : Edit} (span : f.span = c.tree.span (some call))
      (fix : f.fix = (Fix.compose "add query comment" [e]).toOption) :
      ([f].map (sequelizeComment.diagnostic severity)).filterMap
        (FixPass.editsOf? file) = [[e]] := by
    have offered : FixPass.editsOf? file (sequelizeComment.diagnostic severity f) = some [e] :=
      FixPass.editsOf?_of_one ((congrArg Span.file span).trans here) (congrArg Option.toList fix)
    rw [List.map_singleton, List.filterMap_cons_some offered, List.filterMap_nil]
  cases called : c.tree.call? (some call) with
  | none =>
    simp only [callFindings, offer?, called]
    rfl
  | some found =>
    obtain ⟨form, callee, arguments, chained⟩ := found
    obtain _ | ⟨argument, _ | ⟨second, more⟩⟩ := arguments
    · simp only [callFindings, offer?, called]
      rfl
    · simp only [callFindings, offer?, called]
      split
      · rfl
      next known =>
        obtain _ | object := argument
        · simp [Tree.hasKind, Tree.kind?, Tree.deref?] at known
        split
        · exact nothing rfl
        rw [commentEdit?_eq]
        split
        · exact nothing rfl
        · exact one rfl rfl
    · simp only [callFindings, offer?, called]
      rfl

/-! ## The objects of a script -/

section Objects

open Script

variable {source : Text} {found : Tokens} {root id : NodeId} {b : Branch}

/-- What is offered at the calls among some nodes. -/
def offers (t : Tree) (path : Text) (ids : List NodeId) : List (NodeId × Text) :=
  (ids.filter fun id => t.hasKind (some id) .callExpression).filterMap (offer? t path)

theorem mem_offers (planted : t.Planted root b) : (object, value) ∈ offers t path b.ids ↔
    ∃ call, t.Leads root call ∧ Offers t path call object value := by
  rw [offers, List.mem_filterMap]
  constructor
  · rintro ⟨call, mem, offered⟩
    obtain ⟨inside, kind⟩ := List.mem_filter.mp mem
    exact ⟨call, planted.mem_ids_iff.mp inside, (offer?_eq_some_iff kind).mp offered⟩
  · rintro ⟨call, leads, offers⟩
    exact ⟨call, List.mem_filter.mpr ⟨planted.mem_ids_iff.mpr leads, offers.kind⟩,
      (offer?_eq_some_iff offers.kind).mpr offers⟩

theorem Offers.mem_children (h : Offers t path call object value) : object ∈ t.children call := by
  obtain ⟨form, callee, chained, called, -⟩ := h.called
  refine Tree.mem_children_of_part? called fun s picked => ?_
  split at picked
  · simp [Shape.refs, Option.some.inj picked]
  · contradiction

/-- An object is the argument of one call only. -/
theorem Offers.unique (planted : t.Planted root b) {call' : NodeId} {value' : Text}
    (leads : t.Leads root call) (leads' : t.Leads root call') (h : Offers t path call object value)
    (h' : Offers t path call' object value') : call = call' ∧ value = value' := by
  obtain ⟨n, at_node, child⟩ := Tree.mem_children.mp h.mem_children
  obtain ⟨n', at_node', child'⟩ := Tree.mem_children.mp h'.mem_children
  have same : call = call' := Option.some.inj
    ((planted.parent_child leads at_node child).symm.trans
      (planted.parent_child leads' at_node' child'))
  exact ⟨same, by rw [h.value_eq, h'.value_eq, same]⟩

/-- What is offered for an object. -/
def value? (t : Tree) (path : Text) (ids : List NodeId) (id : NodeId) : Option Text :=
  ((offers t path ids).find? fun o => o.1 == id).map Prod.snd

theorem value?_eq_some_iff (planted : t.Planted root b) :
    value? t path b.ids object = some value ↔ (object, value) ∈ offers t path b.ids := by
  rw [value?, Option.map_eq_some_iff]
  constructor
  · rintro ⟨o, found, rfl⟩
    have same : o.1 = object := by simpa using List.find?_some found
    exact same ▸ List.mem_of_find?_eq_some found
  · intro mem
    have there : ((offers t path b.ids).find? fun o => o.1 == object).isSome :=
      List.find?_isSome.mpr ⟨(object, value), mem, by simp⟩
    obtain ⟨⟨object', value'⟩, found⟩ := Option.isSome_iff_exists.mp there
    obtain rfl : object' = object := by simpa using List.find?_some found
    obtain ⟨call, leads, offered⟩ := (mem_offers planted).mp mem
    obtain ⟨call', leads', offered'⟩ :=
      (mem_offers planted).mp (List.mem_of_find?_eq_some found)
    exact ⟨_, found, (offered'.unique planted leads' leads offered).2⟩

variable (script : Reading file source found t)

/-- The objects that comments are offered for. -/
def comments (planted : t.Planted root b) (plain : ∀ o ∈ offers t path b.ids, Plain o.2) :
    Comments where
  tree := t
  tokens := seen source 0 found.tokens
  ordered := Piece.seen_apart script.short script.cut
  value? := value? t path b.ids
  object := by
    intro id value said
    have mem := (value?_eq_some_iff planted).mp said
    obtain ⟨call, -, offered⟩ := (mem_offers planted).mp mem
    exact ⟨by simpa [Tree.hasKind] using offered.isObject, plain _ mem⟩
  opening := by
    intro s mem brace
    obtain ⟨front, after, -, fits, -⟩ :=
      Piece.exists_of_seen script.short script.cut mem (Token.kind_ne_eof_of_spells brace)
    rw [Token.text_of_spells brace] at fits
    exact fits.kind_of_punctuator (by decide)
  closing := by
    intro s mem brace
    obtain ⟨front, after, -, -, start, stop⟩ :=
      Piece.exists_of_seen script.short script.cut mem (Token.kind_ne_eof_of_spells brace)
    have one : s.token.stop.toNat = s.token.start.toNat + 1 := by
      rw [stop, start, Token.text_of_spells brace, List.length_append]
      rfl
    have le : (1 : UInt32) ≤ s.token.stop := UInt32.le_iff_toNat_le.mpr (by rw [one]; simp)
    refine UInt32.toNat_inj.mp ?_
    rw [UInt32.toNat_sub_of_le _ _ le, one]
    rfl

end Objects

/-- What is put in for an object. -/
structure Spot (C : Comments) (o : NodeId × Text) (p : Put) : Prop where
  point : p.point = (C.point o.1).toNat
  new : p.new = Piece.joined (Piece.comment o.2)
  file : p.edit.span.file = (C.tree.span (some o.1)).file
  edit : (∃ s, p.edit = .insertBefore s p.new ∧ s.start = C.point o.1) ∨
    C.tree.items (some o.1) = [] ∧
      p.edit = .replace (C.tree.span (some o.1)) (utf8 "\x7b" ++ p.new ++ utf8 "\x7d") ∧
        (C.tree.span (some o.1)).start.toNat + 1 = p.point ∧
          (C.tree.span (some o.1)).stop.toNat = p.point + 1

namespace Spot

variable {C : Comments} {o o' : NodeId × Text} {p p' : Put} (h : Spot C o p)

include h

theorem unguarded : p.edit.oldText = [] := by
  obtain ⟨s, edit, -⟩ | ⟨-, edit, -⟩ := h.edit <;> rw [edit] <;> rfl

/-- Where the edit starts and stops. -/
theorem bounds : (∃ s, p.edit = .insertBefore s p.new) ∧ p.edit.span.start.toNat = p.point ∧
      p.edit.span.stop.toNat = p.point ∨
    p.edit.span.start = (C.tree.span (some o.1)).start ∧ p.edit.span.start.toNat + 1 = p.point ∧
      p.edit.span.stop.toNat = p.point + 1 := by
  obtain ⟨s, edit, start⟩ | ⟨-, edit, start, stop⟩ := h.edit
  · rw [edit, h.point, ← start]
    exact .inl ⟨⟨s, rfl⟩, rfl, rfl⟩
  · rw [edit]
    exact .inr ⟨rfl, start, stop⟩

/-- What is put in for two objects is put in apart where neither begins with what is put in before
in the other. -/
theorem apart (h' : Spot C o' p') (points : p.point ≠ p'.point)
    (unopened : C.point o.1 ≠ (C.tree.span (some o'.1)).start)
    (unopened' : C.point o'.1 ≠ (C.tree.span (some o.1)).start) : Apart p.edit p'.edit := by
  have inserted {a b : Edit} {x y : Text} (h : ∃ s, a = .insertBefore s x)
      (h' : ∃ s, b = .insertBefore s y) : Apart a b := by
    obtain ⟨s, rfl⟩ := h
    obtain ⟨s', rfl⟩ := h'
    exact Edit.apart_insertBefore s s'
  have away {x y : UInt32} (other : x ≠ y) : x.toNat ≠ y.toNat := mt UInt32.toNat_inj.mp other
  suffices far : p.edit.span.start.toNat ≠ p'.edit.span.start.toNat ∧
      (p.edit.span.stop.toNat ≤ p'.edit.span.start.toNat ∨
        p'.edit.span.stop.toNat ≤ p.edit.span.start.toNat) ∨ Apart p.edit p'.edit by
    obtain ⟨other, le | le⟩ | done := far
    · exact Edit.apart_of_stop_le (UInt32.le_iff_toNat_le.mpr le) (mt (congrArg UInt32.toNat) other)
    · exact (Edit.apart_of_stop_le (UInt32.le_iff_toNat_le.mpr le)
        (mt (congrArg UInt32.toNat) other.symm)).symm
    · exact done
  have unopened := away unopened
  have unopened' := away unopened'
  rw [← h.point] at unopened
  rw [← h'.point] at unopened'
  obtain ⟨put, start, stop⟩ | ⟨first, start, stop⟩ := h.bounds
  · obtain ⟨put', start', stop'⟩ | ⟨first', start', stop'⟩ := h'.bounds
    · exact .inr (inserted put put')
    · rw [← first'] at unopened
      omega
  · rw [← first] at unopened'
    obtain ⟨put', start', stop'⟩ | ⟨first', start', stop'⟩ := h'.bounds
    · omega
    · rw [← first'] at unopened
      omega

section Text

open Script

variable {source : Text} {found : Tokens} {s t' : Seen} (short : source.length < UInt32.size)
  (cut : tokenize file source = .ok found) (mem : s ∈ seen source 0 found.tokens)
  (mem' : t' ∈ seen source 0 found.tokens) (live : s.token.kind ≠ .eof)
  (opening : C.Opening o.1 s.token t'.token)

include short cut mem' opening

theorem point_lt : p.point < source.length := by
  obtain ⟨front, after, source_eq, fits, start, -⟩ :=
    Piece.exists_of_seen short cut mem' opening.live
  have pos : 0 < t'.token.text.length := List.length_pos_of_ne_nil fits.ne_nil
  rw [h.point, ← opening.point, start, source_eq, List.length_append, List.length_append]
  omega

theorem fits : Edit.Fits source p.edit := by
  have lt := h.point_lt short cut mem' opening
  refine ⟨UInt32.le_iff_toNat_le.mpr ?_, ?_, .inl h.unguarded⟩ <;>
    obtain ⟨-, start, stop⟩ | ⟨-, start, stop⟩ := h.bounds <;> omega

include mem live

theorem in_text : p.In source := by
  have lt := h.point_lt short cut mem' opening
  obtain ⟨edit, point, new⟩ := p
  obtain ⟨span, made, start⟩ | ⟨none, made, start, stop⟩ := h.edit
  · obtain rfl : edit = .insertBefore span new := made
    obtain rfl : point = span.start.toNat := h.point.trans (congrArg UInt32.toNat start.symm)
    exact Put.in_insertBefore lt new
  · obtain rfl : edit = .replace _ (utf8 "\x7b" ++ new ++ utf8 "\x7d") := made
    have start : (C.tree.span (some o.1)).start.toNat + 1 = point := start
    have stop : (C.tree.span (some o.1)).stop.toNat = point + 1 := stop
    have here : point = (C.point o.1).toNat := h.point
    obtain ⟨closes, same⟩ := opening.closed none
    obtain ⟨first, next, -⟩ := Piece.slice_of_seen short cut mem live
    obtain ⟨second, -, -⟩ := Piece.slice_of_seen short cut mem' opening.live
    rw [Token.text_of_spells opening.brace] at first next
    rw [opening.point, ← here, same, Token.text_of_spells closes] at second
    have one : s.token.stop.toNat = point := by rw [next, opening.start, ← start]; rfl
    rw [one, opening.start] at first
    exact Put.in_replace (by omega) (by omega) lt first second new

end Text

end Spot

/-! ## The pass -/

section Pass

open Script

variable {files : FileSet} {f : File} {found : Tokens} {root : NodeId} {b : Branch}
  {severity : Severity} {options : Options}

variable (script : Reading file f.content found t) (planted : t.Planted root b)
  (plain : ∀ o ∈ offers t f.path b.ids, Plain o.2) {o : NodeId × Text}

theorem put_of_nil (none : t.items (some o.1) = []) : put t o =
    ⟨.replace (t.span (some o.1)) (utf8 "\x7b" ++ Piece.joined (Piece.comment o.2) ++ utf8 "\x7d"),
      (t.span (some o.1)).start.toNat + 1, Piece.joined (Piece.comment o.2)⟩ := by
  simp only [put, none]

theorem put_of_cons {first : Ref} {rest : List Ref} (items : t.items (some o.1) = first :: rest) :
    put t o = ⟨.insertBefore (t.span first) (Piece.joined (Piece.comment o.2)),
      (t.span first).start.toNat, Piece.joined (Piece.comment o.2)⟩ := by
  simp only [put, items]

include script planted plain in
/-- Each object begins with a brace, and the comment is put in before the next token. -/
theorem exists_opening (mem : o ∈ offers t f.path b.ids) : ∃ s t',
    s ∈ seen f.content 0 found.tokens ∧ t' ∈ seen f.content 0 found.tokens ∧ s.token.kind ≠ .eof ∧
      (comments script planted plain).Opening o.1 s.token t'.token := by
  let C := comments script planted plain
  have said : C.value? o.1 = some o.2 := (value?_eq_some_iff planted).mpr mem
  have settled := (Comments.view (C := C) script.short script.cut script.parsed rfl).settled
  have owned := C.changed_iff.mpr ⟨o.2, said⟩
  obtain ⟨before, s, t', after, split, opening⟩ := settled.placed owned (by rw [said]; rfl)
  have whole : seen f.content 0 found.tokens = before ++ s :: t' :: after := split
  obtain ⟨-, inside, live⟩ := Piece.split_tokens script.short script.cut whole
  exact ⟨s, t', inside, by simp [whole], live, opening⟩

include planted in
theorem leads_of_mem (mem : o ∈ offers t f.path b.ids) : t.Leads root o.1 := by
  obtain ⟨call, leads, offered⟩ := (mem_offers planted).mp mem
  obtain ⟨n, at_node, child⟩ := Tree.mem_children.mp offered.mem_children
  exact leads.tail ⟨n, at_node, child⟩

include script planted plain in
theorem put_spot (mem : o ∈ offers t f.path b.ids) :
    Spot (comments script planted plain) o (put t o) := by
  obtain ⟨s, t', -, -, -, opening⟩ := exists_opening script planted plain mem
  obtain ⟨call, leads, offered⟩ := (mem_offers planted).mp mem
  obtain ⟨-, proper, -⟩ := script.within offered.isObject (by decide)
  cases items : t.items (some o.1) with
  | nil =>
    have at_ : (comments script planted plain).point o.1 = (t.span (some o.1)).stop - 1 :=
      Comments.point_of_nil items
    have two : ((t.span (some o.1)).stop - (t.span (some o.1)).start).toNat = 2 :=
      congrArg UInt32.toNat (offered.room.resolve_left fun full => full items)
    rw [UInt32.toNat_sub_of_le _ _ (UInt32.le_of_lt proper)] at two
    have le : (1 : UInt32) ≤ (t.span (some o.1)).stop := by
      rw [UInt32.le_iff_toNat_le]
      change 1 ≤ _
      omega
    have point : ((comments script planted plain).point o.1).toNat
        = (t.span (some o.1)).start.toNat + 1 := by
      rw [at_, UInt32.toNat_sub_of_le _ _ le]
      change _ - 1 = _
      omega
    rw [put_of_nil items]
    refine ⟨point.symm, rfl, rfl, .inr ⟨items, rfl, rfl, ?_⟩⟩
    change (t.span (some o.1)).stop.toNat = _ + 1 + 1
    omega
  | cons first rest =>
    have at_ : (comments script planted plain).point o.1 = (t.span first).start :=
      Comments.point_of_cons items
    have some : first.isSome := opening.items first (by
      change first ∈ t.items (some o.1)
      rw [items]
      exact List.mem_cons_self)
    obtain ⟨a, rfl⟩ := Option.isSome_iff_exists.mp some
    have child : a ∈ t.children o.1 := by
      rw [Tree.items, Option.getD_eq_iff] at items
      have there := items.resolve_right fun missing => List.cons_ne_nil _ _ missing.2.symm
      refine Tree.mem_children_of_part? there fun s picked => ?_
      split at picked
      · simp [Shape.refs, Option.some.inj picked]
      · contradiction
    have inside := planted.contains (leads_of_mem planted mem)
      (.single (Tree.mem_children.mp child))
    rw [put_of_cons items]
    refine ⟨congrArg UInt32.toNat at_.symm, rfl, ?_, .inl ⟨_, rfl, at_.symm⟩⟩
    simp only [Span.contains, Bool.and_eq_true, beq_iff_eq] at inside
    exact inside.1.1.symm

/-- What a pass is offered puts in the comments. -/
theorem offers_of_reports {ds : List Diagnostic} {ids : List NodeId}
    (here : ∀ call ∈ ids.filter fun id => c.tree.hasKind (some id) .callExpression,
      (c.tree.span (some call)).file = file)
    (perm : ds.Perm (Running.reports ⟨sequelizeComment, severity, options⟩ c.tree .callExpression
      (callFindings c) ids)) :
    ((ds.filterMap (FixPass.editsOf? file)).flatMap fun edits => edits).Perm
      (((offers c.tree c.file.path ids).map (put c.tree)).map Put.edit) := by
  refine ((perm.filterMap _).flatMap_right _).trans (.of_eq ?_)
  have each (call : NodeId)
      (mem : call ∈ ids.filter fun id => c.tree.hasKind (some id) .callExpression) :
      ((callFindings c call).map (sequelizeComment.diagnostic severity)).filterMap
        (FixPass.editsOf? file) = _ := editsOf_callFindings (here call mem)
  rw [Running.reports, List.map_flatMap, List.filterMap_flatMap, List.flatMap_congr each,
    ← List.filterMap_eq_flatMap_toList, ← List.map_filterMap, List.flatMap_map, List.map_map,
    List.map_eq_flatMap]
  rfl

theorem at?_of_mem (mem : o ∈ offers t f.path b.ids) : let C := comments script planted plain
    C.insertions.at? o.1 = some ⟨(C.point o.1).toNat, Piece.comment o.2⟩ := by
  have said : value? t f.path b.ids o.1 = some o.2 := (value?_eq_some_iff planted).mpr mem
  exact Option.map_eq_some_iff.mpr ⟨o.2, said, rfl⟩

include script planted plain in
/-- No object is the argument of two calls, and no two objects have one place. -/
theorem points_ne :
    (offers t f.path b.ids).Pairwise fun o o' => (put t o).point ≠ (put t o').point := by
  let C := comments script planted plain
  have settled : C.insertions.rewriting.Settled :=
    (Comments.view script.short script.cut script.parsed rfl).settled
  rw [offers, List.pairwise_filterMap]
  refine (planted.nodup.filter _).imp_of_mem
    fun {call call'} mem mem' other o offer o' offer' same => other ?_
  obtain ⟨inside, kind⟩ := List.mem_filter.mp mem
  obtain ⟨inside', kind'⟩ := List.mem_filter.mp mem'
  have there : o ∈ offers t f.path b.ids := List.mem_filterMap.mpr ⟨call, mem, offer⟩
  have there' : o' ∈ offers t f.path b.ids := List.mem_filterMap.mpr ⟨call', mem', offer'⟩
  rw [(put_spot script planted plain there).point,
    (put_spot script planted plain there').point] at same
  have one : o.1 = o'.1 := Insertions.point_inj settled (at?_of_mem script planted plain there)
    (at?_of_mem script planted plain there') same
  have h := (offer?_eq_some_iff kind).mp offer
  have h' := (offer?_eq_some_iff kind').mp offer'
  exact (h.unique planted (planted.mem_ids_iff.mp inside) (planted.mem_ids_iff.mp inside')
    (one ▸ h')).1

/-- No object begins where a comment is put in, for what comes after a brace there is no brace. -/
theorem point_ne_start {o' : NodeId × Text} (mem : o ∈ offers t f.path b.ids)
    (mem' : o' ∈ offers t f.path b.ids) :
    (comments script planted plain).point o.1 ≠ (t.span (some o'.1)).start := by
  intro same
  obtain ⟨s, s', -, inside', -, opening⟩ := exists_opening script planted plain mem
  obtain ⟨u, u', there, -, -, opening'⟩ := exists_opening script planted plain mem'
  have one : s' = u := Insertions.eq_of_start (I := (comments script planted plain).insertions)
    inside' there (opening.point.trans (same.trans opening'.start.symm))
  have unopened := opening.unopened
  rw [one, opening'.brace] at unopened
  contradiction

theorem result_eq : (comments script planted plain).insertions.result f.content
    = Text.withInserted (Put.all ((offers t f.path b.ids).map (put t))) 0 f.content := by
  have settled : (comments script planted plain).insertions.rewriting.Settled :=
    (Comments.view script.short script.cut script.parsed rfl).settled
  refine Insertions.result_eq settled
    (List.pairwise_map.mpr (points_ne script planted plain)) (fun {id new} placed => ?_)
    (fun p mem => ?_) _
  · obtain ⟨value, said, rfl⟩ := Option.map_eq_some_iff.mp placed
    have mem : (id, value) ∈ offers t f.path b.ids := (value?_eq_some_iff planted).mp said
    have spot := put_spot script planted plain mem
    exact ⟨_, List.mem_map_of_mem mem, spot.point, spot.new⟩
  · obtain ⟨o, inside, rfl⟩ := List.mem_map.mp mem
    exact ⟨o.1, _, at?_of_mem script planted plain inside,
      (put_spot script planted plain inside).point⟩

/-- A pass over what is reported puts in the comments. -/
theorem run_comments (known : files.get? file = some f) {cwd : Text} {ds : List Diagnostic}
    (perm : ds.Perm (Running.reports ⟨sequelizeComment, severity, options⟩ t .callExpression
      (callFindings ⟨t, f, cwd, options⟩) b.ids)) :
    ∃ n, FixPass.run files file ds
      = .ok ((comments script planted plain).insertions.result f.content, n) := by
  have offered := offers_of_reports (c := ⟨t, f, cwd, options⟩)
    (fun call mem => (script.within (List.mem_filter.mp mem).2 (by decide)).1) perm
  have spot {o : NodeId × Text} (mem : o ∈ offers t f.path b.ids) :=
    put_spot script planted plain mem
  have points := points_ne script planted plain
  have apart : (((offers t f.path b.ids).map (put t)).map Put.edit).Pairwise Apart := by
    rw [List.map_map, List.pairwise_map]
    exact points.imp_of_mem fun mem mem' other => (spot mem).apart (spot mem') other
      (point_ne_start script planted plain mem mem') (point_ne_start script planted plain mem' mem)
  obtain ⟨n, done⟩ := FixPass.run_puts known script.short offered
    (List.forall_mem_map.mpr fun o mem => by
      obtain ⟨s, s', inside, inside', live, opening⟩ := exists_opening script planted plain mem
      exact (spot mem).in_text script.short script.cut inside inside' live opening)
    (List.forall_mem_map.mpr fun o mem => by
      obtain ⟨s, s', -, inside', -, opening⟩ := exists_opening script planted plain mem
      exact (spot mem).fits script.short script.cut inside' opening)
    (List.forall_mem_map.mpr fun o mem => by
      obtain ⟨call, -, h⟩ := (mem_offers planted).mp mem
      exact (spot mem).file.trans (script.within h.isObject (by decide)).1)
    apart (List.pairwise_map.mpr points)
  exact ⟨n, by rw [done, ← result_eq script planted plain]⟩

end Pass

/-! ## The tree that comes of it -/

section After

variable {u : Tree} {root root' call' x y : NodeId} {changed : NodeId → Bool}
  {text : NodeId → Text}

theorem mem_children_of_object {id c : NodeId} (kind : t.kind? (some id) = some .objectExpression) :
    c ∈ t.children id ↔ some c ∈ t.items (some id) := by
  obtain ⟨n, found, isObject⟩ := Option.map_eq_some_iff.mp kind
  have at_ : t.node? id = some n := found
  obtain ⟨items, shape⟩ := Shape.eq_object isObject
  simp [Tree.children, at_, Tree.items, Tree.part?, found, shape, Node.children, Shape.refs,
    Ref.mem_compact]

theorem exists_child_of_similar (similar : (Facts.similar (commenting text) changed x y).holds t u)
    {c : NodeId} (child : c ∈ t.children x) :
    ∃ d ∈ u.children y, (Facts.similar (commenting text) changed c d).holds t u := by
  obtain ⟨-, alike⟩ | ⟨-, kind, kind', p, rest, items, -, related⟩ := Facts.similar_cases similar
  · exact alike.exists_child_of child
  · obtain ⟨r, mem, same⟩ := exists_of_forall₂ related.flip ((mem_children_of_object kind).mp child)
    cases same with
    | some same =>
      refine ⟨_, (mem_children_of_object kind').mpr ?_, same⟩
      rw [items]
      exact List.mem_cons_of_mem _ mem

/-- What is below the root is there again. -/
theorem exists_similar (top : (Facts.similar (commenting text) changed root root').holds t u)
    (leads : t.Leads root x) :
    ∃ y, u.Leads root' y ∧ (Facts.similar (commenting text) changed x y).holds t u := by
  induction leads with
  | refl => exact ⟨root', .refl, top⟩
  | tail _ child ih =>
    obtain ⟨y, leads, similar⟩ := ih
    obtain ⟨d, child', similar⟩ := exists_child_of_similar similar (Tree.mem_children.mpr child)
    exact ⟨d, leads.tail (Tree.mem_children.mp child'), similar⟩

/-- The call of an object with a comment has this object as its argument. -/
theorem exists_commented (similar : (Facts.similar (commenting text) changed call call').holds t u)
    (offered : Offers t path call object value) (owned : changed object = true) :
    ∃ object', (u.call? (some call')).map Call.arguments = some [some object'] ∧
      ∃ p rest, u.items (some object') = some p :: rest ∧ u.IsComment p (text object) ∧
        List.Forall₂ (Option.Rel fun a b => (Facts.similar (commenting text) changed a b).holds t u)
          (t.items (some object)) rest := by
  obtain ⟨form, callee, chained, called, -⟩ := offered.called
  obtain ⟨-, alike⟩ | ⟨-, isObject, -⟩ := Facts.similar_cases similar
  · have both := alike.call?
    rw [called] at both
    cases called' : u.call? (some call') with
    | none => simp [called'] at both
    | some c =>
      rw [called', Option.rel_some_some] at both
      obtain ⟨r, rest, first, none, arguments⟩ := List.forall₂_cons_left_iff.mp both
      rw [List.forall₂_nil_left_iff.mp none] at arguments
      cases first with
      | @some _ object' same =>
        refine ⟨object', congrArg some arguments, ?_⟩
        obtain ⟨free, -⟩ | ⟨-, -, -, p, rest, items, comment, related⟩ := Facts.similar_cases same
        · rw [owned] at free
          contradiction
        · exact ⟨p, rest, items, comment, related⟩
  · have kind := offered.kind
    rw [Tree.hasKind, isObject] at kind
    contradiction

end After

end Rule.SequelizeComment

open Rule (sequelizeComment)
open Rule.SequelizeComment

/-- Where what is said can stand between quotes as it is, a pass over what the rule reports of a
script makes a script of it again.  Its tree is the one before with a comment before the properties
of each object that one is offered for: the call is there again, with one argument, which has a
property for the comment and then those that the object had. -/
theorem fix_sequelizeComment {files : FileSet} {id : FileId} {f : File} {t : Tree}
    (known : files.get? id = some f) (short : f.content.length < UInt32.size)
    (parsed : Script.parse files id = .ok t)
    (plain : ∀ root call object value, t.root = some root → t.Leads root call →
      Offers t f.path call object value → Plain value)
    (severity : Severity) (options : Options) (cwd : Text) :
    ∃ (root : NodeId) (ds : List Diagnostic) (out : Text) (n : Nat), t.root = some root ∧
      lint [⟨sequelizeComment, severity, options⟩] cwd false files (some t) = .ok ds ∧
      FixPass.run files id ds = .ok (out, n) ∧
      ∀ (files' : FileSet) (id' : FileId) (f' : File), files'.get? id' = some f' →
        f'.content = out → out.length < UInt32.size →
        ∃ t' root', Script.parse files' id' = .ok t' ∧ t'.root = some root' ∧
          ∃ (changed : NodeId → Bool) (text : NodeId → Text),
            (∀ object value, changed object ∧ text object = value ↔
              ∃ call, t.Leads root call ∧ Offers t f.path call object value) ∧
            (Facts.similar (commenting text) changed root root').holds t t' ∧
            ∀ call object value, t.Leads root call → Offers t f.path call object value →
              ∃ call' object', t'.Leads root' call' ∧
                (Facts.similar (commenting text) changed call call').holds t t' ∧
                (t'.call? (some call')).map Call.arguments = some [some object'] ∧
                ∃ p rest, t'.items (some object') = some p :: rest ∧ t'.IsComment p value ∧
                  List.Forall₂ (Option.Rel fun a b =>
                    (Facts.similar (commenting text) changed a b).holds t t')
                    (t.items (some object)) rest := by
  have built := Script.built_of_parse parsed
  obtain ⟨root, b, planted⟩ := Tree.exists_planted built.fine
  obtain ⟨found, script⟩ := Script.exists_reading known short parsed
  have plain : ∀ o ∈ offers t f.path b.ids, Plain o.2 := by
    intro o mem
    obtain ⟨call, leads, offered⟩ := (mem_offers planted).mp mem
    exact plain root call o.1 o.2 planted.at_root leads offered
  obtain ⟨ds, linted, perm⟩ := lint_onEnter (built.file ▸ known)
    ⟨sequelizeComment, severity, options⟩ cwd rfl
  rw [planted.walk_eq_tour, Branch.entered_tour] at perm
  obtain ⟨n, done⟩ := run_comments script planted plain known perm
  let C := comments script planted plain
  refine ⟨root, ds, _, n, planted.at_root, linted, done,
    fun files' id' f' known' content short' => ?_⟩
  obtain ⟨t', root₁, root', parsed', at_root, at_root', similar⟩ :=
    C.parses script.short script.cut script.parsed rfl short' id'
  obtain rfl : root₁ = root := Option.some.inj (at_root.symm.trans planted.at_root)
  have read : Script.parse files' id' = .ok t' :=
    Script.parse_of_parseSource known' (content ▸ parsed')
  have changed_iff (object : NodeId) (value : Text) :
      C.insertions.changed object ∧ C.text object = value ↔
        ∃ call, t.Leads root₁ call ∧ Offers t f.path call object value := by
    rw [← mem_offers planted, ← value?_eq_some_iff planted]
    exact C.changed_and_text_iff
  refine ⟨t', root', read, at_root', _, C.text, changed_iff, similar,
    fun call object value leads offered => ?_⟩
  obtain ⟨call', leads', same⟩ := exists_similar similar leads
  obtain ⟨changed, rfl⟩ := (changed_iff object value).mpr ⟨call, leads, offered⟩
  obtain ⟨object', arguments, p, rest, items, comment, related⟩ :=
    exists_commented same offered changed
  exact ⟨call', object', leads', same, arguments, p, rest, items, comment, related⟩

/-- A query in a function, with options that have no comment. -/
theorem fix_sequelizeComment_property :
    let files := ((FileSet.empty "/" "").addInMemory "a.ts"
      "function f()\x7bm.findAll(\x7ba: 1\x7d)\x7d").1
    ∃ f t, files.get? 0 = some f ∧ f.content.length < UInt32.size ∧ Script.parse files 0 = .ok t ∧
      (∀ root call object value, t.root = some root → t.Leads root call →
        Offers t f.path call object value → Plain value) ∧
      ∃ ds out n, lint [⟨sequelizeComment, .error, .empty⟩] "/" false files (some t) = .ok ds ∧
        FixPass.run files 0 ds = .ok (out, n) ∧
        ∀ (files' : FileSet) (id' : FileId) (f' : File), files'.get? id' = some f' →
          f'.content = out → out.length < UInt32.size → ∃ t' object p rest,
            Script.parse files' id' = .ok t' ∧ t'.items (some object) = some p :: rest ∧
              t'.IsComment p "a.ts:f" := by
  intro files
  have known : files.get? 0 = some files.files.head! := by decide +kernel
  have short : files.files.head!.content.length < UInt32.size := by decide +kernel
  have said : (Script.parse files 0).toOption.any (fun t =>
      (offers t files.files.head!.path (t.walk.filterMap Visit.entered?)).map Prod.snd
        == [utf8 "a.ts:f"]) = true := by decide +kernel
  cases parsed : Script.parse files 0 with
  | error e => simp [parsed, Except.toOption] at said
  | ok t =>
    obtain ⟨root, b, planted⟩ := Tree.exists_planted (Script.built_of_parse parsed).fine
    simp only [parsed, Except.toOption, Option.any_some, beq_iff_eq, planted.walk_eq_tour,
      Branch.entered_tour] at said
    obtain ⟨⟨object, value⟩, one, value_eq⟩ := List.map_eq_singleton_iff.mp said
    have value_eq : value = utf8 "a.ts:f" := value_eq
    obtain ⟨call, leads, offered⟩ := (mem_offers planted).mp (one ▸ List.mem_singleton_self _)
    have plain (root' call' object' : NodeId) (value' : Text) (at_root : t.root = some root')
        (leads' : t.Leads root' call')
        (offered' : Offers t files.files.head!.path call' object' value') : Plain value' := by
      obtain rfl : root' = root := Option.some.inj (at_root.symm.trans planted.at_root)
      have mem := (mem_offers planted).mpr ⟨call', leads', offered'⟩
      rw [one, List.mem_singleton, Prod.mk.injEq, value_eq] at mem
      rw [mem.2]
      unfold Plain
      decide
    obtain ⟨root', ds, out, n, at_root, linted, done, again⟩ :=
      fix_sequelizeComment known short parsed plain .error .empty "/"
    obtain rfl : root' = root := Option.some.inj (at_root.symm.trans planted.at_root)
    refine ⟨_, t, known, short, rfl, plain, ds, out, n, linted, done,
      fun files' id' f' known' content short' => ?_⟩
    obtain ⟨t', root₁, parsed', -, changed, text, -, -, commented⟩ :=
      again files' id' f' known' content short'
    obtain ⟨call₁, object', -, -, -, p, rest, items, comment, -⟩ :=
      commented call object value leads offered
    exact ⟨t', object', p, rest, parsed', items, value_eq ▸ comment⟩

end TreeLint
