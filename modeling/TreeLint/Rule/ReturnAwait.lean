import TreeLint.Rule.Basic

/-! # Awaiting returned promises

A promise returned from the block of a try statement has to be awaited there, or its
rejection escapes the handler. -/

namespace TreeLint.Rule.ReturnAwait

/-- Whether the way up from a node enters the block of a try statement before it
reaches the nearest function, and that function is asynchronous. -/
def reachesAsyncTry (t : Tree) (inTry : Bool) (child : NodeId) : (way : List NodeId) → Bool
  | [] => false
  | node :: rest =>
    match t.function? (some node) with
    | some f => inTry && f.isAsync
    | none =>
      reachesAsyncTry t (inTry || t.tryBlock? (some node) == some (some child)) node rest

/-- Whether a node stands in the block of a try statement of an asynchronous
function. -/
def insideAsyncTry (t : Tree) (id : NodeId) : Bool :=
  reachesAsyncTry t false id (t.ancestors (some id))

def returnFindings (t : Tree) (id : NodeId) : List Finding :=
  let call := t.target (some id)
  if t.hasKind call .callExpression && insideAsyncTry t id then
    [{ span := t.span call
       messageId := "requiresAwait"
       data := []
       fix := (Fix.compose "await returned promise"
        [.insertBefore (t.span call) "await "]).toOption }]
  else []

end ReturnAwait

def returnAwait : Rule where
  name := "return-await"
  description := "Await returned promises inside try blocks"
  type := .problem
  fixable := true
  recommended := true
  messages := [("requiresAwait", "Returned promise must be awaited inside a try block")]
  create c := .ok (.onEnter c.tree .returnStatement fun id =>
    .ok (ReturnAwait.returnFindings c.tree id))

end TreeLint.Rule
