import TreeLint.Script.Statement
import TreeLint.Source.FileSet
import TreeLint.Tree.Validate

/-! # Parsing a script

The recursion of the grammar is unrolled as deep as there are tokens.  A script that
parses has a well-formed tree; that is checked before the tree is handed out. -/

namespace TreeLint.Script

namespace Grammar

/-- The grammar in which every place of recursion is too deep. -/
def exhausted : Grammar where
  typeNode := Parser.fail .tooDeep
  postfixType := Parser.fail .tooDeep
  bindingTarget := Parser.fail .tooDeep
  primary := Parser.fail .tooDeep
  construct := Parser.fail .tooDeep
  unary := Parser.fail .tooDeep
  binary _ := Parser.fail .tooDeep
  assignment := Parser.fail .tooDeep
  statement := Parser.fail .tooDeep

def deeper (g : Grammar) : Grammar where
  typeNode := Parser.typeNode g
  postfixType := Parser.postfixType g
  bindingTarget := Parser.bindingTarget g
  primary := Parser.primary g
  construct := Parser.construct g
  unary := Parser.unary g
  binary := Parser.binary g
  assignment := Parser.assignment g
  statement := Parser.statement g

/-- The grammar with the given number of levels of nesting. -/
def ofDepth : Nat → Grammar
  | 0 => exhausted
  | n + 1 => deeper (ofDepth n)

end Grammar

inductive Error where
  | lexical (e : LexicalError)
  | grammar (e : GrammarError)
  | malformed (t : Tree) (d : Tree.Defect)

def Error.message : Error → Text
  | lexical e => e.message
  | grammar e => e.message
  | malformed t d => d.message t

def Parser.statements (g : Grammar) : Parser (List NodeId) :=
  many do
    if ← atKind .eof then return none
    return some (← g.statement)

def build (file : FileId) (source : Text) (tokens : Tokens) : Except Error Tree :=
  let eof := Token.ofText .eof [] source.length
  let cursor : Cursor := ⟨source, eof, tokens.tokens, 0, Tree.empty file⟩
  match (Parser.statements (.ofDepth (tokens.tokens.length + 1))).run cursor with
  | .error e => .error (.grammar e)
  | .ok (body, c) =>
    let span : Span := ⟨file, cursor.peek.start, source.length.toUInt32⟩
    let (tree, _) := c.tree.addProgram span ⟨body.map some, tokens.comments⟩
    match tree.defect? with
    | some d => .error (.malformed tree d)
    | none => .ok tree

def parseSource (file : FileId) (source : Text) : Except Error Tree :=
  match tokenize file source with
  | .error e => .error (.lexical e)
  | .ok tokens => build file source tokens

def parse (files : FileSet) (id : FileId) : Except Text Tree :=
  match files.get? id with
  | none => .error ("unknown file " ++ Text.decimal id.toNat)
  | some f =>
    match parseSource id f.content with
    | .ok tree => .ok tree
    | .error e => .error (f.path ++ ": " ++ e.message)

end TreeLint.Script
