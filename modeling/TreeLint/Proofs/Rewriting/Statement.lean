import TreeLint.Proofs.Rewriting.Expression
import TreeLint.Script.Parse

/-! # Statements in both runs -/

namespace TreeLint.Script

/-- What a return statement consists of before its node is made: where it starts, and what is
returned. -/
def Parser.returnHead (g : Grammar) : Parser (UInt32 × Ref) := do
  let start := (← Parser.expect "return").start
  let ends := (← Parser.sees ";") || (← Parser.sees "\x7d") || (← Parser.atKind .eof)
    || (← Parser.newlineBefore)
  let argument : Ref ← if ends then pure none else some <$> Parser.expression g
  Parser.semicolon
  return (start, argument)

theorem Parser.returnStatement_eq (g : Grammar) : Parser.returnStatement g =
    Parser.returnHead g >>= fun head => Parser.node head.1 (.wrap .returnStatement head.2) := by
  unfold Parser.returnStatement Parser.returnHead
  simp only [bind_assoc, pure_bind]
  congr! 10
  split <;> simp only [bind_assoc, pure_bind]

namespace Rewriting.Tracks

variable {R : Rewriting} {g h : Grammar} {e : Tail} {k : Manner} {H : Token → Prop} {P : Facts}
  {α : Type} {V : α → α → Facts}

/-! ## Imports -/

theorem seesNext_equals {b : Bool} {A A' B B' : Parser α} (reads : k.reads = true)
    (word : b = true → ∀ s, H s → s.kind = .word) (yes : R.Tracks e k H P A A' V)
    (no : R.Tracks e k H P B B' V) :
    R.Tracks e k H P (Parser.seesNext "=" >>= fun x => if (b && x) = true then A else B)
      (Parser.seesNext "=" >>= fun x => if (b && x) = true then A' else B') V := by
  refine decides (K := fun _ => True) (fun c => b && (c.peekAt 1).spells "=")
    (fun c d beside head strong => ?_) (fun _ _ => trivial)
    (yes.pre (fun _ h => h.1) fun _ _ h => h) no (fun _ => rfl) (fun _ => rfl)
  cases b with
  | false => rfl
  | true =>
    obtain ⟨ts, us, words, words', close⟩ := beside.close (strong reads)
    have same := close.equals (word rfl _ head)
    rw [← Token.bare_spells (c.peekAt 1), ← Token.bare_spells (d.peekAt 1),
      beside.ready.peekAt_bare,
      beside.ready'.peekAt_bare, words, words']
    exact same

theorem typeImportAhead {A A' : Bool → Parser α} (reads : k.reads = true)
    (go : ∀ x, R.Tracks e k (fun t => H t ∧ (x = true → t.spells "type")) P (A x) (A' x) V) :
    R.Tracks e k H P (Parser.typeImportAhead >>= A) (Parser.typeImportAhead >>= A') V := by
  let marks (next third : Token) : Bool :=
    next.spells "\x7b" || next.spells "*"
      || (next.kind == .word && next.text != "from" && !third.spells ",")
  let ahead (c : Cursor) : Bool := c.peek.spells "type" && marks (c.peekAt 1) (c.peekAt 2)
  have split (A : Bool → Parser α) (c : Cursor) :
      (Parser.typeImportAhead >>= A) c = A (ahead c) c := by
    change ((if (!c.peek.spells "type") = true then Pure.pure false else
      Parser.peekAt 1 >>= fun next => Parser.peekAt 2 >>= fun third =>
        Pure.pure (marks next third) : Parser Bool) >>= A) c = _
    simp only [ahead]
    cases c.peek.spells "type" <;> rfl
  refine look ahead ahead (S := (· = ·)) (κ := fun _ => k)
    (G := fun x t => H t ∧ (x = true → t.spells "type")) (split A) (split A')
    (fun c d beside _ _ strong => ?_) (fun x _ same => by subst same; exact go x)
    (fun c head => ⟨head, fun found => (Bool.and_eq_true_iff.mp found).1⟩) (fun _ => rfl)
    (fun _ => k.implies_self)
  have same := strong reads
  have spells : d.peek.spells "type" = c.peek.spells "type" := Token.spells_of_bare same _
  simp only [ahead, spells]
  cases type : c.peek.spells "type" with
  | false => rfl
  | true =>
    have twin := beside.peekAt_one same (by rw [Token.text_of_spells type]; decide)
    have brace : (d.peekAt 1).spells "\x7b" = (c.peekAt 1).spells "\x7b" := twin.spells (by decide)
    have star : (d.peekAt 1).spells "*" = (c.peekAt 1).spells "*" := twin.spells (by decide)
    have word : ((d.peekAt 1).kind == .word) = ((c.peekAt 1).kind == .word) := twin.kind_beq .word
    simp only [marks, brace, star, word]
    cases known : (c.peekAt 1).kind == .word with
    | false => rfl
    | true =>
      have third : (d.peekAt 2).spells "," = (c.peekAt 2).spells "," :=
        beside.peekAt_two same (.inr type) (eq_of_beq known) (by decide)
      have text : ((d.peekAt 1).text != utf8 "from") = ((c.peekAt 1).text != utf8 "from") :=
        twin.text_ne (by decide)
      rw [third, text]

theorem moduleReference :
    R.KeepsUp .near .firm Parser.moduleReference Parser.moduleReference R.Same := by
  refine decides (K := fun t => t.spells "require")
    (fun c => c.peek.spells "require" && (c.peekAt 1).spells "(") (fun c d beside _ strong => ?_)
    (fun c found => (Bool.and_eq_true_iff.mp found).1) (here fun x y => ?_) entityName
    (fun _ => rfl) (fun _ => rfl)
  · refine beside.next_eq (fun t => t.spells "require") (fun t => t.spells "(")
      (fun twin => twin.spells (by decide)) (fun _ => rfl) (fun _ => rfl) (fun t found => ?_)
      fun _ => strong rfl
    rw [Token.text_of_spells found]
    decide
  · refine skip (advanceSolid fun t known => .of_spells known.2 (by decide)) (skip (expect rfl) ?_)
    refine bind stringLiteral fun a b => skip (expect rfl)
      (node (fun _ _ known => .wrap (.some known.2)) rfl)

theorem importSpecifier :
    R.KeepsUp .near .firm Parser.importSpecifier Parser.importSpecifier R.Same := by
  let item (start : UInt32) (typed : Bool) : Parser NodeId := do
    let imported ← Parser.identifier
    let localName ← if ← Parser.eat "as" then Parser.identifier else Pure.pure imported
    Parser.node start (.importSpecifier ⟨.named, some imported, some localName, typed⟩)
  have rest {H : Token → Prop} {x y : UInt32} {typed : Bool} :
      R.Tracks .near .firm H .none (item x typed) (item y typed) R.Same := by
    refine bind identifier fun a b => optional (j := .calmly) (V := R.Same) ?_ fun c d => node
      ?_ rfl
    · exact eat identifier.ofFirm (pure fun _ _ known => known.2) rfl
    · exact fun _ _ known => .importSpecifier (.some known.1.2) (.some known.2)
  refine here fun x y => ?_
  refine tests (K := fun t => t.spells "type")
    (fun c => c.peek.spells "type" && (c.peekAt 1).kind == .word && !(c.peekAt 1).spells "as")
    (fun typed => if typed = true then Functor.discard Parser.advance >>= fun _ => item x typed
      else item x typed)
    (fun typed => if typed = true then Functor.discard Parser.advance >>= fun _ => item y typed
      else item y typed)
    (fun c d beside _ strong => ?_) (fun c found => ?_) (fun typed => ?_) (fun _ => rfl)
    (fun _ => rfl)
  · rw [Bool.and_assoc, Bool.and_assoc]
    refine beside.next_eq (fun t => t.spells "type")
      (fun t => t.kind == .word && !t.spells "as") (fun twin => ?_) (fun _ => rfl)
      (fun _ => rfl) (fun t found => ?_) fun _ => strong rfl
    · rw [twin.kind_beq, twin.spells (by decide)]
    · rw [Token.text_of_spells found]
      decide
  · simp only [Bool.and_eq_true] at found
    exact found.1.1
  · refine ite (fun found => ?_) fun _ => rest
    exact skip (advanceSolid fun t known => .of_spells (known.2 found) (by decide)) rest.ofFirm

theorem importFrom {start start' : UInt32} {l l' : List NodeId} {typeOnly : Bool}
    (spared : R.Spares .importDeclaration) :
    R.Tracks .free .some H (P.and (.list R.Same l l')) (Parser.importFrom start l typeOnly)
      (Parser.importFrom start' l' typeOnly) R.Same := by
  refine skip (expect rfl) (bind stringLiteral fun a b => thenStill semicolon fun _ _ => .nodeOf
    (fun _ _ known => ?_) spared)
  exact .importDeclaration (Facts.refs known.1.1.2) (.some known.1.2)

theorem bracedImports :
    R.Tracks .near .calmly H P Parser.bracedImports Parser.bracedImports (.list R.Same) := by
  refine here fun x y => eat ?_ (eat ?_ (pure fun _ _ _ => .nil) rfl) rfl
  · refine skip (expect rfl) (bind identifier fun a b => ?_)
    refine thenStill (V := R.Same) (node (fun _ _ known => ?_) rfl) fun _ _ => ?_
    · exact .importSpecifier .none (.some known.2)
    · exact .pure fun _ _ known => .cons known.2 .nil
  · exact (commaList importSpecifier rfl).ofFirm

theorem defaultImport? :
    R.Tracks .near .calmly H P Parser.defaultImport? Parser.defaultImport? (.option R.Same) := by
  refine atKind fun word => sees (fun source => ite (fun _ => ?_) fun _ => pure fun _ _ _ =>
    .none) rfl
  refine bind identifier fun a b => getAny fun c d => ?_
  refine map (V := R.Same) (node (fun _ _ known => ?_) rfl) fun _ _ _ _ same => .some same
  exact .importSpecifier .none (.some known.2)

theorem importSpecifiers :
    R.Tracks .near .calmly H P Parser.importSpecifiers Parser.importSpecifiers (.list R.Same) := by
  refine bindOption defaultImport? bracedImports fun a b => eat ?_ ?_ rfl
  · refine thenStill bracedImports fun l l' => ?_
    exact .pure fun _ _ known => .cons known.1.2 known.2
  · exact pure fun _ _ known => .cons known.2 .nil

theorem importDeclaration {start start' : UInt32} {exported : Bool}
    (spared : R.Spares .importDeclaration) (spared' : R.Spares .tsImportEqualsDeclaration) :
    R.Tracks .free .some H P (Parser.importDeclaration start exported)
      (Parser.importDeclaration start' exported) R.Same := by
  have rest {typeOnly : Bool} {F F' : Unit → Parser NodeId} {H : Token → Prop}
      (go : R.Tracks .free .some (fun _ => True) P (F ()) (F' ()) R.Same)
      (known : ∀ t, H t → typeOnly = true → t.spells "type") :
      R.Tracks .free .some H P (if typeOnly = true then Functor.discard Parser.advance >>= F else
      F ())
        (if typeOnly = true then Functor.discard Parser.advance >>= F' else F' ()) R.Same := by
    refine ite (fun found => ?_) fun _ => go.pre (fun _ _ => trivial) fun _ _ h => h
    refine bind (discard (advanceSolid fun t head => ?_)) fun _ _ => ?_
    · exact .of_spells (known t head found) (by decide)
    · exact (go.mono rfl).pre (fun _ h => h) fun _ _ known => known.1
  refine skip (expect rfl) (mono (j := .some) (typeImportAhead rfl fun typeOnly => rest ?_
    fun t h => h.2) rfl)
  refine atKind fun string => ite (fun _ => ?_) fun _ => ?_
  · refine bind literal fun a b => thenStill semicolon fun _ _ => .nodeOf
      (fun _ _ known => ?_) spared
    exact .importDeclaration .nil (.some known.1.2)
  · refine atKind fun word => seesNext_equals rfl (fun found s head => ?_) ?_
      (ite (fun _ => fail) fun _ => ?_)
    · exact eq_of_beq (head.2.trans found)
    · refine bind identifier fun a b => skip (expect rfl)
        (bind moduleReference.anywhere fun i j => ?_)
      refine thenStill semicolon fun _ _ => .nodeOf (fun _ _ known => ?_) spared'
      exact .importEquals (.some known.1.1.2) (.some known.1.2)
    · exact bind importSpecifiers fun l l' => importFrom spared

/-! ## Exports -/

theorem exportSpecifier :
    R.KeepsUp .near .firm Parser.exportSpecifier Parser.exportSpecifier R.Same := by
  refine here fun x y => bind identifier fun a b => ?_
  refine optional (j := .calmly) (V := R.Same) ?_ fun c d => node (fun _ _ known => ?_) rfl
  · exact eat identifier.ofFirm (pure fun _ _ known => known.2) rfl
  · exact .exportSpecifier (.some known.1.2) (.some known.2)

theorem exportAll {start start' : UInt32} :
    R.Tracks .free .some H P (Parser.exportAll start) (Parser.exportAll start') R.Same := by
  refine optional (j := .calmly) (V := .option R.Same) ?_ fun name name' => skip (expect rfl) ?_
  · exact eat (map identifier.ofFirm fun _ _ _ _ same => .some same) (pure fun _ _ _ => .none) rfl
  refine bind stringLiteral fun a b => thenStill semicolon fun _ _ => .node
    (fun _ _ known => .other ?_) rfl
  exact Facts.refs (Facts.append (Facts.toList known.1.1.2) (.cons known.1.2 .nil))

theorem exportList {start start' : UInt32} :
    R.Tracks .free .some H P (Parser.exportList start) (Parser.exportList start') R.Same := by
  refine bindSame (eaten rfl) fun typeOnly => skip (expect rfl) ?_
  refine bind (commaList exportSpecifier rfl) fun l l' => ?_
  refine optional (j := .calmly) (V := .option R.Same) ?_ fun source source' => ?_
  · exact eat (map stringLiteral.ofFirm fun _ _ _ _ same => .some same)
      (pure fun _ _ _ => .none) rfl
  · refine thenStill semicolon fun _ _ => .node (fun _ _ known => ?_) rfl
    exact .exportNamed .none (Facts.refs known.1.1.2) known.1.2

end Rewriting.Tracks

/-- The parsers of the nodes that tokens are changed for keep up. -/
structure Rewriting.Edited (R : Rewriting) (g h : Grammar) : Prop where
  object : R.KeepsUp .near .firm (Parser.objectLiteral g) (Parser.objectLiteral h) R.Same
  function : ∀ start start' isAsync, R.KeepsUp .near .firm
    (Parser.function g .declaration start isAsync) (Parser.function h .declaration start' isAsync)
    R.Same
  returned : R.KeepsUp .free .some (Parser.returnStatement g) (Parser.returnStatement h) R.Same
  imported : ∀ start start' exported, R.KeepsUp .free .some
    (Parser.importDeclaration start exported) (Parser.importDeclaration start' exported) R.Same

namespace Rewriting
namespace Tracks

variable {R : Rewriting} {g h : Grammar} {e : Tail} {k : Manner} {H : Token → Prop} {P : Facts}
  {α : Type} {V : α → α → Facts}

variable (both : R.Abreast g h) (edited : R.Edited g h)

include both edited

theorem defaultExport :
    R.Tracks .free .some H P (Parser.defaultExport g) (Parser.defaultExport h) R.Same := by
  refine here fun x y => sees_ite ((edited.function _ _ _).anywhere.toFree rfl rfl)
    (sees (fun async => ?_) rfl) rfl
  refine asyncFunction rfl (fun found s head => head.2.trans found)
    ((edited.function _ _ _).anywhere.toFree (k := .firm) rfl rfl) ?_
  refine sees_ite ((classNode both).toFree rfl rfl) ?_ rfl
  refine bind (assignment both edited.object).anywhere fun a b => ?_
  exact thenStill semicolon fun _ _ => .pure fun _ _ known => known.1.2

omit both edited in
/-- The first run does not stop for a statement that cannot be exported, nor does the second. -/
theorem unlessUnexportable {a a' : NodeId} {problem : Problem} {A A' : Parser α}
    (same : ∀ t u, P.holds t u → (R.Same a a').holds t u) (go : R.Still P A A' V) :
    R.Still P
      (get >>= fun c => if (!Parser.isExportable (c.tree.kind? (some a))) = true then
        Parser.fail problem >>= fun _ : Unit => A else A)
      (get >>= fun c => if (!Parser.isExportable (c.tree.kind? (some a'))) = true then
        Parser.fail problem >>= fun _ : Unit => A' else A') V := by
  have split {a : NodeId} {A : Parser α} (c : Cursor) :
      (get >>= fun c => if (!Parser.isExportable (c.tree.kind? (some a))) = true then
        Parser.fail problem >>= fun _ : Unit => A else A) c =
      if (!Parser.isExportable (c.tree.kind? (some a))) = true then
        .error (c.errorHere problem) else A c := by
    change (if (!Parser.isExportable (c.tree.kind? (some a))) = true then
        Parser.fail problem >>= fun _ : Unit => A else A) c = _
    split <;> rfl
  intro c x c' run ready
  rw [split] at run
  split at run
  · contradiction
  next exportable =>
    obtain ⟨ready', kept, same', more⟩ := go run ready
    refine ⟨ready', kept, same', fun kept => ⟨(more kept).1, fun d ready₂ _ known => ?_⟩⟩
    rw [split, if_neg (R.same_exportable (same _ _ known) ▸ exportable)]
    exact (more kept).2 d ready₂ trivial known

theorem exportDeclaration :
    R.KeepsUp .free .some (Parser.exportDeclaration g) (Parser.exportDeclaration h) R.Same := by
  refine bindToken (expect rfl) fun t x y => sees_ite ((edited.imported _ _ _).anywhere.mono rfl)
    (eat ?_ (eat ?_ ?_ rfl) rfl) rfl
  · refine thenStill (mono (defaultExport both edited) rfl) fun a b => .node
      (fun _ _ known => ?_) rfl
    exact .wrap (.some known.2)
  · exact mono exportAll rfl
  refine decides (K := fun _ => True)
    (fun c => c.peek.spells "\x7b" || c.peek.spells "type" && (c.peekAt 1).spells "\x7b")
    (fun c d beside _ _ => ?_) (fun _ _ => trivial) (mono exportList rfl) ?_ (fun _ => rfl)
    (fun _ => rfl)
  · have brace : d.peek.spells "\x7b" = c.peek.spells "\x7b" := beside.near.spells (by decide)
    have typed := beside.next_eq (fun t => t.spells "type")
      (fun t => t.spells "\x7b") (fun twin => twin.spells (by decide)) (fun _ => rfl)
      (fun _ => rfl) (fun t found => ?_) fun found => beside.near.eq_of_text ?_
    · rw [brace, typed]
    · rw [Token.text_of_spells found]
      decide
    · rw [Token.bare_text, Token.text_of_spells (Bool.and_eq_true_iff.mp found).1]
      decide
  · refine thenStill (mono both.statement.anywhere rfl) fun a b => ?_
    refine unlessUnexportable (fun _ _ known => known.2) (.node (fun _ _ known => ?_) rfl)
    exact .exportNamed (.some known.2) .nil .none

/-! ## Other declarations -/

omit edited in
theorem interfaceHeritage :
    R.KeepsUp .near .firm (Parser.interfaceHeritage g) (Parser.interfaceHeritage h) R.Same := by
  refine here fun x y => bind entityName fun a b => bind (typeArgs both) fun l l' => node ?_ rfl
  exact fun _ _ known => .other (Facts.refs (.cons known.1.2 known.2))

omit edited in
theorem interfaceDeclaration {start start' : UInt32} :
    R.Tracks .near .firm H P (Parser.interfaceDeclaration g start)
      (Parser.interfaceDeclaration h start') R.Same := by
  let heirs (g : Grammar) : Parser (List NodeId) :=
    Parser.rounds >>= Parser.commaChain (Parser.interfaceHeritage g)
  refine skip (expect rfl) (bind identifier fun a b => bind skipTypeParams fun _ _ => ?_)
  refine optionalOf (j := .calmly) (V := .list R.Same) (heirs g) (heirs h) ?_ (fun l l' => ?_)
    (by simp only [heirs, bind_assoc]) (by simp only [heirs, bind_assoc])
  · refine eat (rounds fun n m => ?_) (pure fun _ _ _ => .nil) rfl
    exact ((commaChain (interfaceHeritage both) n m).pre (fun _ _ => trivial)
      fun _ _ h => h).ofFirm
  · refine bind (typeMembers both (.of rfl)) fun body body' => node ?_ rfl
    exact fun _ _ known => .interface (.some known.1.1.1.2) (Facts.refs known.1.2) (.some known.2)

omit edited in
theorem typeAlias {start start' : UInt32} :
    R.Tracks .free .some H P (Parser.typeAlias g start) (Parser.typeAlias h start') R.Same := by
  refine skip (expect rfl) (bind identifier fun a b => bind skipTypeParams fun _ _ => skip
    (expect rfl) ?_)
  refine bind (typeNode both).anywhere fun i j => thenStill semicolon fun _ _ => .node
    (fun _ _ known => ?_) rfl
  exact .typeAlias (.some known.1.1.1.2) (.some known.1.2)

theorem declarator :
    R.KeepsUp .near .firm (Parser.declarator g) (Parser.declarator h) R.Same := by
  refine here fun x y => bind (bindingTarget both).anywhere fun a b => ?_
  refine optional (j := .calmly) (V := .option R.Same) ?_ fun i j => node ?_ rfl
  · refine eat (map (assignment both edited.object).anywhere.ofFirm fun _ _ _ _ same => .some same)
      ?_ rfl
    exact pure fun _ _ _ => .none
  · exact fun _ _ known => .variableDeclarator (.some known.1.2) known.2

theorem variableDeclaration {start start' : UInt32} (live : ∀ t, H t → t.kind = .word) :
    R.Tracks .free .some H P (Parser.variableDeclaration g start)
      (Parser.variableDeclaration h start') R.Same := by
  refine bindToken (advanceSolid fun t known => .of_word (live t known)) fun t x y => ?_
  refine rounds fun n m => bind (j := .firm) (V := .list R.Same) ?_ fun l l' => ?_
  · exact (commaChain (declarator both edited) n m).pre (fun _ _ => trivial) fun _ _ h => h
  · refine thenStill semicolon fun _ _ => .node (fun _ _ known => ?_) rfl
    exact .variableDeclaration (Facts.refs known.1.2)

/-! ## Statements -/

omit edited in
theorem expression (object : R.KeepsUp .near .firm (Parser.objectLiteral g)
      (Parser.objectLiteral h) R.Same) :
    R.KeepsUp .near .firm (Parser.expression g) (Parser.expression h) R.Same :=
  sequence (assignment both object)

omit both edited in
/-- Where the first run does not come to an `else`, the second does not either. -/
theorem noElse {c d : Cursor} {w : List Seen} (rest : R.Rest .free w c.view d.view)
    (ready : c.Ready)
    (ready' : d.Ready) (other : c.peek.spells "else" = false) : d.peek.spells "else" = false := by
  obtain follows | resumes := rest
  · have near := (follows.beside ready ready').near
    exact (near.spells (by decide)).trans other
  · obtain ⟨more, ahead⟩ := ready'.ahead_eq
    have view : d.view = Seen.bare ⟨d.peek, d.newlineBefore⟩ :: more.map Seen.bare := by
      rw [Cursor.view, ahead, List.map_cons]
    exact resumes.noElse' ⟨d.peek.bare, d.newlineBefore⟩ (by rw [view]; rfl)

omit both edited in
/-- What follows the first branch of a conditional statement, which may end with it. -/
theorem elseOption {p p' q q' : Parser NodeId} {f f' : NodeId → Ref → Parser NodeId}
    (first : R.Tracks .free .some H P p p' R.Same)
    (yes : ∀ a b, R.Tracks .free .any (fun _ => True) (P.and (R.Same a b))
      ((some <$> q) >>= f a) ((some <$> q') >>= f' b) R.Same)
    (no : ∀ a b, R.Still (P.and (R.Same a b)) (f a none) (f' b none) R.Same) :
    R.Tracks .free .some H P
      (p >>= fun a => Parser.eat "else" >>= fun x => if x = true then (some <$> q) >>= f a
        else Pure.pure none >>= f a)
      (p' >>= fun a => Parser.eat "else" >>= fun x => if x = true then (some <$> q') >>= f' a
        else Pure.pure none >>= f' a) R.Same := by
  intro c b c'' run₀ ready head
  obtain ⟨a, c', run₁, run₂⟩ := exists_of_bind run₀
  rw [eat_run] at run₂
  by_cases found : c'.peek.spells "else" = true
  · have both : R.Tracks .free .some H P
        (p >>= fun a => Functor.discard (Parser.expect "else") >>= fun _ => (some <$> q) >>= f a)
        (p' >>= fun a => Functor.discard (Parser.expect "else") >>= fun _ => (some <$> q') >>= f' a)
        R.Same :=
      bind first.ofFree fun a b => skip (expect rfl) (yes a b)
    refine both.ofArrives (fun d S arrives => ?_) ?_ ready head
    · cases run : p' d with
      | error e =>
        have stops {f : NodeId → Parser NodeId} : (p' >>= f) d = .error e := by
          simp only [Bind.bind, StateT.bind, run, Except.bind]
        rw [stops] at arrives ⊢
        exact arrives
      | ok out =>
        obtain ⟨b, d'⟩ := out
        rw [bind_run run, expect_run] at arrives
        rw [bind_run run, eat_run]
        split at arrives
        next same =>
          rw [if_pos same]
          exact arrives
        next => exact nomatch arrives
    · rw [bind_run run₁, expect_run, if_pos found]
      rw [if_pos found] at run₂
      exact run₂
  · have both : R.Tracks .free .some H P
        (p >>= fun a c => if c.peek.spells "else" = true then .error (c.errorHere .tooDeep)
          else f a none c)
        (p' >>= fun a => Parser.eat "else" >>= fun x => if x = true then (some <$> q') >>= f' a
          else Pure.pure none >>= f' a) R.Same := by
      refine thenStillAt first fun a b c x c' run ready => ?_
      split at run
      · contradiction
      next other =>
        obtain ⟨ready', kept, same, more⟩ := no a b run ready
        refine ⟨ready', kept, same, fun kept => ⟨(more kept).1, fun d ready₂ ⟨w, rest⟩ known => ?_⟩⟩
        rw [eat_run, if_neg (by rw [noElse rest ready ready₂ (by simpa using other)]; decide)]
        exact (more kept).2 d ready₂ trivial known
    refine both ?_ ready head
    rw [bind_run run₁]
    rw [if_neg found] at run₂ ⊢
    exact run₂

theorem ifStatement :
    R.KeepsUp .free .some (Parser.ifStatement g) (Parser.ifStatement h) R.Same := by
  refine bindToken (expect rfl) fun t x y => skip (expect rfl) ?_
  refine bind (expression both edited.object).anywhere fun a b => skip (expect rfl) ?_
  refine mono (j := .some) (elseOption both.statement.anywhere (fun i j => ?_) fun i j => ?_) rfl
  · refine thenStill (V := .option R.Same) (map (mono both.statement.anywhere rfl) ?_) fun l m => ?_
    · exact fun _ _ _ _ same => .some same
    · exact .node (fun _ _ known => .ifStatement (.some known.1.1.2) (.some known.1.2) known.2) rfl
  · exact .node (fun _ _ known => .ifStatement (.some known.1.2) (.some known.2) .none) rfl

omit edited in
theorem catchClause :
    R.Tracks .near .firm H P (Parser.catchClause g) (Parser.catchClause h) R.Same := by
  refine bindToken (expect rfl) fun t x y => ?_
  let param (g : Grammar) : Parser Ref := Parser.bindingTarget g >>= fun target =>
    Functor.discard (Parser.expect ")") >>= fun _ => Pure.pure (some target)
  refine optionalOf (j := .calmly) (V := .option R.Same) (param g) (param h) ?_ (fun a b => ?_)
    (by simp only [param, bind_assoc, pure_bind]) (by simp only [param, bind_assoc, pure_bind])
  · refine eat (bind (bindingTarget both).anywhere fun a b => skip (expect rfl) ?_)
      (pure fun _ _ _ => .none) rfl
    exact pure fun _ _ known => .some known.2
  · refine bind (blockStatement both) fun i j => node (fun _ _ known => ?_) rfl
    exact .catchClause known.1.2 (.some known.2)

omit edited in
theorem tryStatement :
    R.Tracks .near .firm H P (Parser.tryStatement g) (Parser.tryStatement h) R.Same := by
  refine bindToken (expect rfl) fun t x y => bind (blockStatement both) fun a b => ?_
  refine optional (j := .calmly) (V := .option R.Same) ?_ fun i j => ?_
  · refine sees_ite (map (catchClause both).ofFirm fun _ _ _ _ same => .some same) ?_ rfl
    exact pure fun _ _ _ => .none
  refine optional (j := .calmly) (V := .option R.Same) ?_ fun l m =>
    iteSame ?_ (fun _ _ _ ran => nomatch ran) ?_
  · refine eat (map (blockStatement both).ofFirm fun _ _ _ _ same => .some same) ?_ rfl
    exact pure fun _ _ _ => .none
  · rintro t u ⟨⟨-, handler⟩, finalizer⟩
    cases handler <;> cases finalizer <;> rfl
  · exact node (fun _ _ known => .tryStatement (.some known.1.1.2) known.1.2 known.2) rfl

omit edited in
theorem returnHead (object : R.KeepsUp .near .firm (Parser.objectLiteral g)
      (Parser.objectLiteral h) R.Same) :
    R.KeepsUp .free .some (Parser.returnHead g) (Parser.returnHead h)
      fun x y => .option R.Same x.2 y.2 := by
  refine bindToken (expect rfl) fun t x y => sees (fun ends => sees (fun closes => ?_) rfl) rfl
  refine atKind fun last => newlineBefore fun broken => ?_
  refine join (j := .calmly) (V := .option R.Same) ?_ fun a b => ?_
  · refine ite (fun _ => pure fun _ _ _ => .none) fun _ => ?_
    exact map (expression both object).anywhere.ofFirm fun _ _ _ _ same => .some same
  · exact thenStill semicolon fun _ _ => .pure fun _ _ known => known.1.2

omit edited in
theorem returnStatement (object : R.KeepsUp .near .firm (Parser.objectLiteral g)
      (Parser.objectLiteral h) R.Same) (spared : R.Spares .returnStatement) :
    R.KeepsUp .free .some (Parser.returnStatement g) (Parser.returnStatement h) R.Same := by
  rw [Parser.returnStatement_eq, Parser.returnStatement_eq]
  exact thenStill (returnHead both object) fun _ _ => .nodeOf (fun _ _ known => .wrap known.2) spared

theorem throwStatement :
    R.Tracks .free .some H P (Parser.throwStatement g) (Parser.throwStatement h) R.Same := by
  refine bindToken (expect rfl) fun t x y => bind (expression both edited.object).anywhere
    fun a b => ?_
  refine thenStill semicolon fun _ _ => .node (fun _ _ known => ?_) rfl
  exact .other (.cons (.some known.1.2) .nil)

theorem whileStatement :
    R.Tracks .free .some H P (Parser.whileStatement g) (Parser.whileStatement h) R.Same := by
  refine bindToken (expect rfl) fun t x y => skip (expect rfl) ?_
  refine bind (expression both edited.object).anywhere fun a b => skip (expect rfl) ?_
  refine thenStill (mono both.statement.anywhere rfl) fun i j => .node (fun _ _ known => ?_) rfl
  exact .other (Facts.refs (Facts.pair known.1.2 known.2))

/-- A statement that its first words tell, or else another. -/
def orOther (other : Parser NodeId) : Option NodeId → Parser NodeId
  | some id => Pure.pure id
  | none => other

omit both edited in
theorem text_of_toString? {t : Text} {s : String} (known : t.toString?.getD "" = s) (some : s ≠ "")
    :
    t = utf8 s := by
  unfold Text.toString? String.fromUTF8? at known
  split at known
  · subst known
    rfl
  · exact (some known.symm).elim

/-- The rest of a statement that its first words do not tell. -/
theorem otherStatement (start start' : UInt32) :
    R.Tracks .free .some H P
      (Parser.sees "\x7b" >>= fun x => if x = true then Parser.blockStatement g else
        Parser.eat ";" >>= fun x => if x = true then Parser.other start "EmptyStatement" [] else
          Parser.expression g >>= fun expr => Parser.semicolon >>= fun _ =>
            Parser.node start (.wrap .expressionStatement (some expr)))
      (Parser.sees "\x7b" >>= fun x => if x = true then Parser.blockStatement h else
        Parser.eat ";" >>= fun x => if x = true then Parser.other start' "EmptyStatement" [] else
          Parser.expression h >>= fun expr => Parser.semicolon >>= fun _ =>
            Parser.node start' (.wrap .expressionStatement (some expr))) R.Same := by
  refine sees_ite ((blockStatement both).toFree rfl rfl) ?_ rfl
  refine eatOf ?_ ?_ (by decide)
  · exact thenStill (discard advanceSemicolon) fun _ _ => .node (fun _ _ _ => .other .nil) rfl
  · refine bind (expression both edited.object).anywhere fun a b => ?_
    exact thenStill semicolon fun _ _ => .node (fun _ _ known => .wrap (.some known.1.2)) rfl

omit both edited in
theorem some_orOther {p q : Parser NodeId} : ((some <$> p) >>= orOther q) = p := by
  rw [map_eq_pure_bind, bind_assoc]
  exact bind_pure p

omit both edited in
theorem told {p p' q q' : Parser NodeId} (h : R.Tracks e k H P p p' R.Same) :
    R.Tracks e k H P ((some <$> p) >>= orOther q) ((some <$> p') >>= orOther q') R.Same := by
  rw [some_orOther, some_orOther]
  exact h

omit both edited in
theorem toldIf {b b' : Prop} [Decidable b] [Decidable b'] {p p' q q' : Parser NodeId}
    {A A' : Parser (Option NodeId)} (agree : b' ↔ b) (yes : R.Tracks e k H P p p' R.Same)
    (no : R.Tracks e k H P q q' R.Same) (split : A = some <$> p)
    (split' : A' = some <$> p') :
    R.Tracks e k H P ((if b then A else Pure.pure none) >>= orOther q)
      ((if b' then A' else Pure.pure none) >>= orOther q') R.Same := by
  subst split split'
  by_cases found : b
  · rw [if_pos found, if_pos (agree.mpr found)]
    exact told yes
  · rw [if_neg found, if_neg fun found' => found (agree.mp found')]
    exact no

omit both edited in
theorem toldAfter {b b' : Prop} [Decidable b] [Decidable b'] {p p' q q' : Parser NodeId}
    (agree : b' ↔ b) (solid : ∀ t, H t → t.Solid)
    (yes : R.Tracks e .firm (fun _ => True) P p p' R.Same) (no : R.Tracks e k H P q q' R.Same) :
    R.Tracks e k H P
      ((if b then Functor.discard Parser.advance >>= fun _ => some <$> p else Pure.pure none) >>=
        orOther q)
      ((if b' then Functor.discard Parser.advance >>= fun _ => some <$> p' else Pure.pure none) >>=
        orOther q') R.Same :=
  toldIf agree (skip (advanceSolid solid) yes.ofFirm) no (map_bind ..).symm (map_bind ..).symm

omit both edited in
theorem toldAsync {p p' q q' : Parser NodeId} (reads : k.reads = true)
    (async : ∀ s, H s → s.spells "async") (yes : R.Tracks e .firm (fun _ => True) P p p' R.Same)
    (no : R.Tracks e k H P q q' R.Same) :
    R.Tracks e k H P
      (Parser.peekAt 1 >>= fun x =>
        (if x.spells "function" = true then Functor.discard Parser.advance >>= fun _ => some <$> p
          else Pure.pure none) >>= orOther q)
      (Parser.peekAt 1 >>= fun x =>
        (if x.spells "function" = true then Functor.discard Parser.advance >>= fun _ => some <$> p'
          else Pure.pure none) >>= orOther q') R.Same := by
  have same {p q : Parser NodeId} : (Parser.peekAt 1 >>= fun x =>
      (if x.spells "function" = true then Functor.discard Parser.advance >>= fun _ => some <$> p
        else Pure.pure none) >>= orOther q) =
      (Parser.seesNext "function" >>= fun x =>
        if (true && x) = true then Functor.discard Parser.advance >>= fun _ => p else q) := by
    funext c
    change ((if (c.peekAt 1).spells "function" = true then
        Functor.discard Parser.advance >>= fun _ => some <$> p else Pure.pure none) >>= orOther q) c
        =
      (if (c.peekAt 1).spells "function" = true then
        Functor.discard Parser.advance >>= fun _ => p else q) c
    split
    · simp only [bind_assoc, some_orOther]
    · rfl
  rw [same, same]
  exact asyncFunction reads (fun _ => async) yes no

omit both edited in
theorem toldType {p p' q q' : Parser NodeId} (reads : k.reads = true)
    (type : ∀ s, H s → s.spells "type") (yes : R.Tracks e k H P p p' R.Same)
    (no : R.Tracks e k H P q q' R.Same) :
    R.Tracks e k H P
      (Parser.peekAt 1 >>= fun x => (Parser.peekAt 2 >>= fun y =>
        if (decide (x.kind = .word) && (y.spells "=" || y.spells "<")) = true then some <$> p
          else Pure.pure none) >>= orOther q)
      (Parser.peekAt 1 >>= fun x => (Parser.peekAt 2 >>= fun y =>
        if (decide (x.kind = .word) && (y.spells "=" || y.spells "<")) = true then some <$> p'
          else Pure.pure none) >>= orOther q') R.Same := by
  let named (c : Cursor) : Bool := decide ((c.peekAt 1).kind = .word) &&
    ((c.peekAt 2).spells "=" || (c.peekAt 2).spells "<")
  have split {p q : Parser NodeId} (c : Cursor) :
      (Parser.peekAt 1 >>= fun x => (Parser.peekAt 2 >>= fun y =>
        if (decide (x.kind = .word) && (y.spells "=" || y.spells "<")) = true then some <$> p
          else Pure.pure none) >>= orOther q) c = (if named c = true then p else q) c := by
    change ((if named c = true then some <$> p else Pure.pure none) >>= orOther q) c = _
    split
    · rw [some_orOther]
    · rfl
  refine decides (K := fun _ => True) named (fun c d beside head strong => ?_) (fun _ _ => trivial)
    (yes.pre (fun _ h => h.1) fun _ _ h => h) no split split
  have same := strong reads
  have spelled : c.peek.spells "type" = true := type c.peek.bare head
  have twin := beside.peekAt_one same (by rw [Token.text_of_spells spelled]; decide)
  have kind : (d.peekAt 1).kind = .word ↔ (c.peekAt 1).kind = .word := twin.kind_iff .word
  simp only [named, kind]
  by_cases word : (c.peekAt 1).kind = .word
  · have equals : (d.peekAt 2).spells "=" = (c.peekAt 2).spells "=" :=
      beside.peekAt_two same (.inr spelled) word (by decide)
    have angle : (d.peekAt 2).spells "<" = (c.peekAt 2).spells "<" :=
      beside.peekAt_two same (.inr spelled) word (by decide)
    rw [equals, angle]
  · simp [word]

omit both edited in
theorem toldUnless {b b' : Prop} [Decidable b] [Decidable b'] {p p' q q' : Parser NodeId}
    (agree : b' ↔ b) (yes : R.Tracks e k H P p p' R.Same) (no : R.Tracks e k H P q q' R.Same) :
    R.Tracks e k H P ((if b then Pure.pure none else some <$> p) >>= orOther q)
      ((if b' then Pure.pure none else some <$> p') >>= orOther q') R.Same := by
  rw [← ite_not b, ← ite_not b']
  exact toldIf (not_congr agree) yes no rfl rfl

theorem statement : R.KeepsUp .free .some (Parser.statement g) (Parser.statement h) R.Same := by
  refine peek rfl fun t x y => ?_
  change R.Tracks .free .some _ _ (Parser.keywordStatement? g t >>= orOther _)
    (Parser.keywordStatement? h { t with start := x, stop := y } >>= orOther _) R.Same
  have other {H : Token → Prop} :=
    otherStatement (H := H) (P := .none) both edited t.start x
  unfold Parser.keywordStatement?
  by_cases word : t.kind = .word
  · rw [if_neg (not_not_intro word), if_neg (not_not_intro word), bind_assoc, bind_assoc]
    have solid (s : Token) (head : True ∧ s = t.bare) : s.Solid := head.2 ▸ .of_word word
    by_cases async : t.text = utf8 "async"
    · have keyword : t.text.toString?.getD "" = "async" := by rw [async]; rfl
      simp only [keyword]
      refine toldAsync rfl (fun s head => ?_) ((edited.function _ _
        _).anywhere.toFree rfl rfl) other
      exact head.2 ▸ Token.spells_of_text (.inr word) async
    by_cases type : t.text = utf8 "type"
    · have keyword : t.text.toString?.getD "" = "type" := by rw [type]; rfl
      simp only [keyword]
      refine toldType rfl (fun s head => ?_) (typeAlias both) other
      exact head.2 ▸ Token.spells_of_text (.inr word) type
    refine peekNext rfl fun u v ⟨s, head, twin⟩ => ?_
    rw [head.2, Token.bare_text] at twin
    dsimp only
    generalize keyword : t.text.toString?.getD "" = name
    have next {name : String} (keyword : t.text.toString?.getD "" = name) (some : name ≠ "")
        (apart : utf8 name ∉ gaps) : Twin u.bare v.bare :=
      twin (text_of_toString? keyword some ▸ apart)
    split
    case h_1 =>
      have twin := next keyword (by decide) (by decide)
      refine toldUnless ?_ (edited.imported _ _ _).anywhere other
      have paren : v.spells "(" = u.spells "(" := twin.spells (by decide)
      have dot : v.spells "." = u.spells "." := twin.spells (by decide)
      rw [paren, dot]
    case h_2 => exact told (exportDeclaration both edited).anywhere
    case h_3 => exact told ((edited.function _ _ _).anywhere.toFree rfl rfl)
    case h_4 => exact (async (text_of_toString? keyword (by decide))).elim
    case h_5 => exact told ((classNode both).toFree rfl rfl)
    case h_6 =>
      have twin := next keyword (by decide) (by decide)
      refine toldAfter ?_ solid ((classNode both).toFree rfl rfl) other
      have opens : v.spells "class" = u.spells "class" := twin.spells (by decide)
      rw [opens]
    case h_7 =>
      have twin := next keyword (by decide) (by decide)
      exact toldIf (twin.kind_iff .word) ((interfaceDeclaration both).toFree rfl rfl) other rfl rfl
    case h_8 => exact (type (text_of_toString? keyword (by decide))).elim
    case h_9 | h_10 | h_11 =>
      have twin := next keyword (by decide) (by decide)
      refine toldIf ?_ (variableDeclaration both edited fun s head => ?_) other rfl rfl
      · have brace : v.spells "\x7b" = u.spells "\x7b" := twin.spells (by decide)
        have bracket : v.spells "[" = u.spells "[" := twin.spells (by decide)
        have name : (v.kind = .word) = (u.kind = .word) := propext (twin.kind_iff .word)
        simp only [brace, bracket, name]
      · exact head.2 ▸ word
    case h_12 => exact told (ifStatement both edited).anywhere
    case h_13 => exact told ((tryStatement both).toFree rfl rfl)
    case h_14 => exact told edited.returned.anywhere
    case h_15 => exact told (throwStatement both edited)
    case h_16 => exact told (whileStatement both edited)
    case h_17 => exact other
  · rw [if_pos word, if_pos word]
    exact other

end Tracks

/-! ## Grammars -/

namespace Abreast

variable {R : Rewriting} {g h : Grammar}

theorem deeper (both : R.Abreast g h) (edited : R.Edited g h) : R.Abreast g.deeper h.deeper where
  typeNode := Tracks.typeNode both
  postfixType := Tracks.postfixType both
  bindingTarget := Tracks.bindingTarget both
  primary := Tracks.primary both edited.object
  construct := Tracks.construct both edited.object
  unary := Tracks.unary both edited.object
  binary := Tracks.binary both edited.object
  assignment := Tracks.assignment both edited.object
  statement := Tracks.statement both edited

theorem exhausted (both : R.Abreast g h) : R.Abreast g .exhausted where
  typeNode := both.typeNode.exhausted
  postfixType := both.postfixType.exhausted
  bindingTarget := both.bindingTarget.exhausted
  primary := both.primary.exhausted
  construct := both.construct.exhausted
  unary := both.unary.exhausted
  binary level := (both.binary level).exhausted
  assignment := both.assignment.exhausted
  statement := both.statement.exhausted

theorem ofExhausted : R.Abreast .exhausted h where
  typeNode := Tracks.fail
  postfixType := Tracks.fail
  bindingTarget := Tracks.fail
  primary := Tracks.fail
  construct := Tracks.fail
  unary := Tracks.fail
  binary _ := Tracks.fail
  assignment := Tracks.fail
  statement := Tracks.fail

/-- Grammars keep up with one another however deep they are. -/
theorem ofDepth (edited : ∀ n m, (∀ k ≤ n, ∀ m, R.Abreast (.ofDepth k) (.ofDepth m)) →
    R.Edited (.ofDepth n) (.ofDepth m)) (n m : Nat) : R.Abreast (.ofDepth n) (.ofDepth m) := by
  induction n using Nat.strongRecOn generalizing m with
  | ind n ih =>
    cases n with
    | zero => exact ofExhausted
    | succ n =>
      have both : ∀ k ≤ n, ∀ m, R.Abreast (.ofDepth k) (.ofDepth m) :=
        fun k le => ih k (Nat.lt_succ_of_le le)
      cases m with
      | zero => exact ((both n le_rfl 0).deeper (edited n 0 both)).exhausted
      | succ m => exact (both n le_rfl m).deeper (edited n m both)

end Abreast

end Rewriting
end TreeLint.Script
