import TreeLint.Proofs.Script.Statement
import TreeLint.Script.Parse

/-! # Scripts

The grammar is sound for as many tokens as it has levels, so the tree of a script is settled
when the program goes on top of it: parsing stops at a problem of the text or not at all.  Either
way what has been built by then was built step by step (`parseSource_outcome`). -/

namespace TreeLint.Script

variable {s : Stream} {n : Nat} {g : Grammar}

namespace Grammar

/-- Nowhere is there no token to read, not even the one that marks the end. -/
theorem exhausted_yields {p : Parser NodeId} : Yields s 0 p := by
  rintro c₀ c ⟨-, stands⟩
  exact absurd (List.length_eq_zero_iff.mp (Nat.le_zero.mp stands.bound)) stands.ordered.ne_nil

theorem exhausted_sound : exhausted.Sound s 0 := by
  constructor <;> intros <;> exact exhausted_yields

theorem Sound.deeper (sound : g.Sound s n) : g.deeper.Sound s (n + 1) where
  typeNode := Parser.typeNode_yields sound
  postfixType := Parser.postfixType_yields sound
  bindingTarget := Parser.bindingTarget_yields sound
  primary := Parser.primary_yields sound
  construct := Parser.construct_yields sound
  unary := Parser.unary_yields sound
  binary := Parser.binary_yields sound
  assignment := Parser.assignment_yields sound
  statement := Parser.statement_yields sound

theorem ofDepth_sound (n : Nat) : (ofDepth n).Sound s n := by
  induction n with
  | zero => exact exhausted_sound
  | succ n ih => exact ih.deeper

end Grammar

theorem Parser.statements_moves (sound : g.Sound s n) :
    Moves s n (statements g) (fun _ => 0) fun l => l := by
  unfold statements
  refine (many_moves (fun id => [id]) (.of_row fun c₀ => .look fun ended => ?_)).flat
  refine .ite (fun _ => .pure fun _ row => row) fun _ => ?_
  exact sound.statement.andThen (by omega) fun id => .pure fun _ row => row

/-- The tokens of a source text. -/
def Tokens.stream (found : Tokens) (file : FileId) (source : Text) : Stream :=
  ⟨file, found.tokens, source.length.toUInt32⟩

/-- A tree without defect in which every node but the root spans from token to token. -/
structure Parsed (s : Stream) (t : Tree) : Prop where
  wellFormed : t.defect? = none
  spans : ∀ {id n}, t.node? id = some n → some id ≠ t.root → s.Delimits n.span

/-- The nodes of a row are the children of what goes on top of it. -/
theorem Row.compact_map {c₀ c : Cursor} {m : Nat} {body : List NodeId} (row : Row s n c₀ m body c) :
    Ref.compact (body.map some) = body := by
  have nodup := row.grows.nodup
  rw [← present_map_some body] at nodup
  rw [Ref.compact_of_nodup nodup]
  exact present_map_some body

/-- A row becomes a tree when the program goes on top of it. -/
theorem Row.program {c₀ c : Cursor} {body : List NodeId} (row : Row s n c₀ 0 body c)
    (comments : List Span) :
    Parsed s (c.tree.addProgram ⟨s.file, c₀.peek.start, s.limit⟩ ⟨body.map some, comments⟩).1 := by
  constructor
  · have grows := row.grows.mono (Q := fun _ => True) fun _ _ => trivial
    have children := row.compact_map
    have last := (row.stand (Nat.le_add_right n 0)).ordered.le_limit
    refine grows.defect?_addProgram trivial children ⟨fun sp mem => ?_, row.lined.2⟩
    have inside := row.lined.1 sp mem
    simp only [Span.contains, Bool.and_eq_true, decide_eq_true_eq] at inside ⊢
    exact ⟨inside.1, UInt32.le_trans inside.2 last⟩
  · intro id n found other
    obtain ⟨rfl, -⟩ | ⟨old, found', span, -⟩ :=
      Tree.node?_of_add (show (c.tree.add _ (.program _)).1.node? id = some n from found)
    · exact absurd rfl other
    · exact span ▸ row.grows.settled.spans found'

/-- Whether or not it comes to an end, a tree is built step by step from the empty one. -/
theorem build_outcome (file : FileId) {source : Text} {found : Tokens}
    (ordered : Ordered source.length.toUInt32 0 found.tokens) :
    (∃ e, build file source found = .error (.grammar e) ∧ (Tree.empty file).Steps e.tree ∧
      e.problem ≠ .tooDeep) ∨
    ∃ t, build file source found = .ok t ∧ (Tree.empty file).Steps t ∧
      Parsed (found.stream file source) t := by
  let start : Cursor :=
    ⟨source, .ofText .eof [] source.length, found.tokens, 0, Tree.empty file⟩
  have stands : Stands (found.stream file source) (found.tokens.length + 1) start :=
    ⟨Nat.le_succ _, ordered, fun _ mem => mem, rfl, Tree.settled_empty _ file⟩
  have runs := Parser.statements_moves (Grammar.ofDepth_sound (found.tokens.length + 1))
    start start ⟨rfl, stands⟩
  unfold build
  simp only [StateT.run]
  cases result : Parser.statements (.ofDepth (found.tokens.length + 1)) start with
  | error e =>
    simp only [result] at runs ⊢
    exact .inl ⟨e, rfl, runs⟩
  | ok out =>
    obtain ⟨body, c⟩ := out
    simp only [result] at runs ⊢
    obtain ⟨steps, row⟩ := runs
    have parsed := row.program found.comments
    have top : c.tree.Step (c.tree.add ⟨file, start.peek.start, source.length.toUInt32⟩
        (.program ⟨body.map some, found.comments⟩)).1 := row.step row.compact_map
    refine .inr ⟨_, ?_, (steps.tail top).tail (.root _), parsed⟩
    have wellFormed := parsed.wellFormed
    simp only [start, Tokens.stream] at wellFormed
    rw [wellFormed]
    rfl

theorem parseSource_outcome (file : FileId) {source : Text} (short : source.length < UInt32.size) :
    (∃ e, tokenize file source = .error e ∧ parseSource file source = .error (.lexical e)) ∨
      (∃ e, parseSource file source = .error (.grammar e) ∧ (Tree.empty file).Steps e.tree ∧
        e.problem ≠ .tooDeep) ∨
      ∃ found t, tokenize file source = .ok found ∧ parseSource file source = .ok t ∧
        (Tree.empty file).Steps t ∧ Parsed (found.stream file source) t := by
  unfold parseSource
  cases cut : tokenize file source with
  | error e => exact .inl ⟨e, rfl, rfl⟩
  | ok found =>
    refine .inr ?_
    obtain failed | ⟨t, built, outcome⟩ := build_outcome file (tokenize_ordered short cut)
    · exact .inl failed
    · exact .inr ⟨found, t, rfl, built, outcome⟩

/-- Parsing a file fails where its text is no sequence of tokens or its tokens are no script,
and for no other reason; otherwise the tree has no defect, and all its nodes but the program
span from the start of a token to the end of one.  No file is longer than offsets go. -/
theorem parse_fails_only_on_syntax {files : FileSet} {id : FileId} {f : File}
    (known : files.get? id = some f) (short : f.content.length < UInt32.size) :
    (∃ e, tokenize id f.content = .error e ∧
      parse files id = .error (f.path ++ ": " ++ e.message)) ∨
    (∃ e, parseSource id f.content = .error (.grammar e) ∧ e.problem ≠ .tooDeep ∧
      parse files id = .error (f.path ++ ": " ++ e.message)) ∨
    ∃ found t, tokenize id f.content = .ok found ∧ parse files id = .ok t ∧
      Parsed (found.stream id f.content) t := by
  unfold parse
  simp only [known]
  obtain ⟨e, cut, outcome⟩ | ⟨e, outcome, -, problem⟩ | ⟨found, t, cut, outcome, -, parsed⟩ :=
    parseSource_outcome id short
  · simp only [outcome]
    exact .inl ⟨e, cut, rfl⟩
  · simp only [outcome]
    exact .inr (.inl ⟨e, rfl, problem, rfl⟩)
  · simp only [outcome]
    exact .inr (.inr ⟨found, t, cut, rfl, parsed⟩)

/-- The files of a run that has one file, which declares a variable. -/
def oneFile : FileSet := ((FileSet.empty "/" "").addInMemory "a.ts" "let a: b = [c];").1

theorem parse_fails_only_on_syntax_declaration :
    ∃ f, oneFile.get? 0 = some f ∧ f.content.length < UInt32.size ∧
      ∃ found t, tokenize 0 f.content = .ok found ∧ parse oneFile 0 = .ok t ∧
        Parsed (found.stream 0 f.content) t := by
  have known : oneFile.get? 0 = some oneFile.files.head! := by decide
  have short : oneFile.files.head!.content.length < UInt32.size := by decide
  have accepted : (parse oneFile 0).toOption.isSome = true := by decide +kernel
  refine ⟨_, known, short, ?_⟩
  obtain ⟨e, -, failed⟩ | ⟨e, -, -, failed⟩ | parsed := parse_fails_only_on_syntax known short
  · rw [failed] at accepted
    contradiction
  · rw [failed] at accepted
    contradiction
  · exact parsed

end TreeLint.Script
