import TreeLint.Proofs.Rewriting.Statement
import TreeLint.Proofs.Script.Parse

/-! # Rewritten scripts

Where the parsers of the nodes that tokens are changed for keep up, a script with its tokens
rewritten is a script again, and its tree is that of the script as it was, but for the changes
(`Rewriting.Over.settled`).  What is known of the changes then is known of all the nodes of
the tree. -/

namespace TreeLint.Script

open Rewriting.Tracks (exists_of_bind)

namespace Parser

/-- A loop ends where a step answers nothing. -/
theorem exists_of_collect {α : Type} {step : Parser (Option α)} {n : Nat} {c c' : Cursor}
    {l : List α} (run : collect step n c = .ok (l, c')) : ∃ c₀, step c₀ = .ok (none, c') := by
  induction n generalizing c l with
  | zero => contradiction
  | succ n ih =>
    obtain ⟨o, c₁, first, rest⟩ := exists_of_bind run
    cases o with
    | none =>
      cases rest
      exact ⟨c, first⟩
    | some a =>
      obtain ⟨l', c₂, rest, last⟩ := exists_of_bind rest
      cases last
      exact ih rest

/-- Statements go on to the end of the text. -/
theorem kind_of_statements {g : Grammar} {c c' : Cursor} {l : List NodeId}
    (run : statements g c = .ok (l, c')) : c'.peek.kind = .eof := by
  obtain ⟨n, c₁, -, run⟩ := exists_of_bind run
  obtain ⟨c₀, step⟩ := exists_of_collect run
  obtain ⟨ended, c₂, at_, step⟩ := exists_of_bind step
  cases at_
  cases known : c₀.peek.kind == TokenKind.eof with
  | true =>
    rw [known] at step
    cases step
    exact eq_of_beq known
  | false =>
    rw [known] at step
    obtain ⟨id, c₃, -, last⟩ := exists_of_bind step
    cases last

end Parser

/-- Where the tokens of a script start to be read. -/
def Tokens.cursor (found : Tokens) (file : FileId) (source : Text) : Cursor :=
  ⟨source, .ofText .eof [] source.length, found.tokens, 0, Tree.empty file⟩

theorem Tokens.cursor_ready {found : Tokens} {file : FileId} {source : Text}
    (short : source.length < UInt32.size) (cut : tokenize file source = .ok found) :
    (found.cursor file source).Ready :=
  ⟨rfl, _, tokenize_ordered short cut⟩

theorem ahead_of_eof {c : Cursor} (ready : c.Ready) (last : c.peek.kind = .eof) :
    c.ahead = [⟨c.peek, c.newlineBefore⟩] := by
  obtain ⟨limit, ordered⟩ := ready.ordered
  obtain ⟨t, ts, rest, peek⟩ := ready.exists_cons
  rw [rest] at ordered
  cases ordered with
  | eof => rw [Cursor.ahead, rest, seen, seen, Cursor.newlineBefore, peek]
  | cons live => exact absurd last (peek ▸ live)

/-- The tree of a script is that of its statements with the program on top. -/
theorem build_eq_ok {file : FileId} {source : Text} {found : Tokens} {t : Tree}
    (built : build file source found = .ok t) :
    ∃ body c span, Parser.statements (.ofDepth (found.tokens.length + 1)) (found.cursor file source)
        = .ok (body, c) ∧
      t = (c.tree.addProgram span ⟨body.map some, found.comments⟩).1 := by
  unfold build at built
  simp only [StateT.run] at built
  cases run : Parser.statements (.ofDepth (found.tokens.length + 1)) (found.cursor file source) with
  | error e =>
    rw [Tokens.cursor] at run
    simp [run] at built
  | ok out =>
    obtain ⟨body, c⟩ := out
    refine ⟨body, c, ⟨file, (found.cursor file source).peek.start, source.length.toUInt32⟩, rfl, ?_⟩
    rw [Tokens.cursor] at run
    simp only [run] at built
    split at built
    · contradiction
    · exact (Except.ok.inj built).symm

theorem statements_of_build_error {file : FileId} {source : Text} {found : Tokens}
    {e : GrammarError} (failed : build file source found = .error (.grammar e)) :
    Parser.statements (.ofDepth (found.tokens.length + 1)) (found.cursor file source) = .error e := by
  unfold build at failed
  simp only [StateT.run] at failed
  cases run : Parser.statements (.ofDepth (found.tokens.length + 1)) (found.cursor file source) with
  | error e' =>
    rw [Tokens.cursor] at run
    simp only [run, Except.error.injEq, Error.grammar.injEq] at failed
    rw [failed]
  | ok out =>
    rw [Tokens.cursor] at run
    simp only [run] at failed
    split at failed <;> simp at failed

/-- Adding the program changes nothing else. -/
theorem keptIn_addProgram (t : Tree) (span : Span) (p : Program) :
    t.KeptIn (t.addProgram span p).1 :=
  (Tree.KeptIn.add t span (.program p)).trans (.of_nodes (List.prefix_refl _) rfl)

theorem exists_program (t : Tree) (span : Span) (p : Program) : ∃ n,
    (t.addProgram span p).1.root = some ⟨t.size⟩ ∧
      (t.addProgram span p).1.node? ⟨t.size⟩ = some n ∧ n.shape = .program p := by
  obtain ⟨n, found, -, shape⟩ := t.exists_node?_add_new span (.program p)
  exact ⟨n, rfl, found, shape⟩

namespace Rewriting

variable {R : Rewriting}

theorem Tracks.statements {g h : Grammar} {H : Token → Prop} {P : Facts} (both : R.Abreast g h) :
    R.Tracks .near .any H P (Parser.statements g) (Parser.statements h) (.list R.Same) := by
  refine many (k := .any) (V := R.Same) rfl (atKind fun ended => ?_)
  refine ite (fun _ => pure fun _ _ _ => .none) fun _ => ?_
  exact map (both.statement.ofFree.anywhere.mono rfl) fun _ _ _ _ same => .some same

/-- A script that is parsed, and what is to become of its tokens. -/
structure Over (R : Rewriting) (file : FileId) (source : Text) (found : Tokens) : Prop where
  short : source.length < UInt32.size
  cut : tokenize file source = .ok found
  parsed : parseSource file source = .ok R.tree
  tokens : R.tokens = seen source 0 found.tokens
  ending : R.Alike [] []
  edited : ∀ n m, (∀ k ≤ n, ∀ m, R.Abreast (.ofDepth k) (.ofDepth m)) →
    R.Edited (.ofDepth n) (.ofDepth m)

/-- What all tokens become. -/
def outcome (R : Rewriting) : List Seen := R.tokens.flatMap (R.edit 0 R.tree.size)

/-- What is known of the changes for all nodes, and of a script with the tokens that come of
them. -/
structure Settled (R : Rewriting) : Prop where
  single : ∀ {id id' s}, s ∈ R.tokens → ¬ R.Leaves id s → ¬ R.Leaves id' s → id = id'
  placed : ∀ {id}, R.owner id = true → R.Placed id R.tokens
  parses : ∀ {file source found}, source.length < UInt32.size → tokenize file source = .ok found →
    (seen source 0 found.tokens).map Seen.bare = R.outcome →
    ∃ t root root', parseSource file source = .ok t ∧ R.tree.root = some root ∧
      t.root = some root' ∧ (R.Same root root').holds R.tree t

namespace Over

variable {file : FileId} {source : Text} {found : Tokens} {t : Tree} {span : Span} {p : Program}

/-- The program itself has no changes. -/
theorem index_lt_of_owned (tree : R.tree = (t.addProgram span p).1) {id : NodeId}
    (owned : R.owner id = true) : id.index < t.size := by
  obtain ⟨k, mem, known⟩ := R.owned owned
  obtain ⟨n, at_node, kind⟩ := Option.map_eq_some_iff.mp known
  have old := Tree.index_lt_size (show R.tree.node? id = some n from at_node)
  rw [tree] at old
  have size : (t.addProgram span p).1.size = t.size + 1 := t.size_add span (.program p)
  by_contra late
  obtain rfl : id = ⟨t.size⟩ := congrArg NodeId.mk (by omega)
  obtain ⟨m, -, found, shape⟩ := exists_program t span p
  have same : R.tree.node? ⟨t.size⟩ = some n := at_node
  rw [tree, found, Option.some.injEq] at same
  subst same
  rw [Node.kind, shape] at kind
  have program : k = .program := kind.symm
  exact absurd (program ▸ mem) (by decide)

theorem index_lt_of_changed (tree : R.tree = (t.addProgram span p).1) {id : NodeId} {s : Seen}
    (changed : ¬ R.Leaves id s) : id.index < t.size := by
  refine index_lt_of_owned tree ?_
  by_contra unowned
  exact changed (leaves_of_unowned (by simpa using unowned))

theorem settled (view : R.Over file source found) : R.Settled := by
  obtain ⟨short, cut, parsed, tokens, ending, edited⟩ := view
  have built : build file source found = .ok R.tree := by
    rw [parseSource, cut] at parsed
    exact parsed
  obtain ⟨body, c, span, run, tree⟩ := build_eq_ok built
  let start := found.cursor file source
  have ready : start.Ready := Tokens.cursor_ready short cut
  have ahead : start.ahead = R.tokens := tokens.symm
  have tracks (m : Nat) := Tracks.statements (H := fun _ => True) (P := .none)
    (Abreast.ofDepth edited (found.tokens.length + 1) m) run ready trivial
  have kept : c.tree.KeptIn R.tree := tree ▸ keptIn_addProgram c.tree span _
  have sub : start.ahead <:+ R.tokens := ahead ▸ List.suffix_refl _
  obtain ⟨went, more⟩ := tracks 0
  obtain ⟨here, -⟩ := more kept sub
  have read : R.tokens = start.upTo c ++ c.ahead := ahead.symm.trans went.ahead
  have low (id : NodeId) : start.tree.size ≤ id.index := Nat.zero_le _
  have high {id : NodeId} {s : Seen} (changed : ¬ R.Leaves id s) : id.index < c.tree.size :=
    index_lt_of_changed tree changed
  refine ⟨fun mem changed changed' => here.single (low _) (high changed) (low _) (high changed') mem
    changed changed', fun owned => ?_, fun {file' source' found'} short' cut' same => ?_⟩
  · have placed := here.placed (low _) (index_lt_of_owned tree owned) owned
    simpa [read] using R.placed_mono [] c.ahead placed
  have last := ahead_of_eof went.ready (Parser.kind_of_statements run)
  have outcome : R.outcome = R.rewritten start c ++ c.view := by
    have edit (s : Seen) : R.edit 0 R.tree.size s = R.edit 0 c.tree.size s := by
      refine edit_left (Nat.zero_le _) kept.size_le fun id late _ => ?_
      by_contra changed
      exact Nat.not_lt.mpr late (high changed)
    have ended (s : Seen) (mem : s ∈ c.ahead) : R.edit 0 c.tree.size s = [s.bare] := by
      rw [edit_left (Nat.le_refl 0) (Nat.zero_le _) fun id _ lt => ?_, edit_self]
      by_contra changed
      have distinct := R.distinct
      rw [read] at distinct
      have inside := here.within (low _) lt (read ▸ List.mem_append_right _ mem) changed
      exact (List.nodup_append.mp distinct).2.2 s inside s mem rfl
    rw [Rewriting.outcome, List.flatMap_congr fun s _ => edit s, read, List.flatMap_append]
    congr 1
    rw [last] at ended ⊢
    simpa [Cursor.view, last] using ended _ List.mem_cons_self
  have follows : R.Follows c.view c.view := by
    refine ⟨?_, ?_⟩
    · rw [Cursor.view, last]
      exact R.keep ending
    · rw [Cursor.view, last]
      exact ⟨_, _, _, _, rfl, rfl, rfl, .same⟩
  have view : (found'.cursor file' source').view = R.rewritten start c ++ c.view :=
    same.trans outcome
  obtain ⟨-, more⟩ := tracks (found'.tokens.length + 1)
  have arrives := ((more kept sub).2 _ follows).2 _ view (Tokens.cursor_ready short' cut') trivial
  obtain ⟨e, failed, -, problem⟩ | ⟨t, built', -⟩ := build_outcome file' (tokenize_ordered short' cut')
  · rw [statements_of_build_error failed] at arrives
    exact absurd arrives problem
  · obtain ⟨body', d, span', run', rfl⟩ := build_eq_ok built'
    rw [run'] at arrives
    obtain ⟨-, -, -, value⟩ := arrives
    obtain ⟨n, root, at_root, shape⟩ := exists_program c.tree span ⟨body.map some, found.comments⟩
    obtain ⟨m, root', at_root', shape'⟩ :=
      exists_program d.tree span' ⟨body'.map some, found'.comments⟩
    refine ⟨_, ⟨c.tree.size⟩, ⟨d.tree.size⟩, ?_, tree ▸ root, root', ?_⟩
    · simp only [parseSource, cut', built']
    have unowned : R.owner ⟨c.tree.size⟩ = false := by
      rw [Bool.eq_false_iff]
      exact fun owned => Nat.lt_irrefl _ (index_lt_of_owned tree owned)
    refine R.same_node unowned (tree ▸ at_root) at_root' ?_
    rw [shape, shape']
    refine .program (Facts.refs ?_)
    exact (Facts.list R.Same body body').lasting kept (keptIn_addProgram d.tree span' _) value

end Over
end Rewriting
end TreeLint.Script
