import TreeLint.Rule.SequelizeComment

/-! # Unbounded concurrency

Waiting for all results of a mapped collection starts every task at once. -/

namespace TreeLint.Rule

namespace UnboundedConcurrency

/-- Whether a call waits for all promises of a call of `map`. -/
def isUnbounded (t : Tree) (c : Call) : Bool :=
  (t.member? c.callee).any (fun m => t.isIdentifier m.object "Promise")
    && dottedProperty? t c.callee == some "all"
    && (match c.arguments with
      | [] => false
      | first :: _ =>
        match t.call? first with
        | some ⟨.call, callee, _, _⟩ => dottedProperty? t callee == some "map"
        | _ => false)

def callFindings (t : Tree) (id : NodeId) : List Finding :=
  if (t.call? (some id)).any (isUnbounded t) then
    [⟨t.span (some id), "unboundedConcurrency", [], none⟩]
  else []

end UnboundedConcurrency

/-- Not all tasks of a collection are started at once. -/
def unboundedConcurrency : Rule where
  name := "unbounded-concurrency"
  description := "Disallow Promise.all over an unbounded map"
  type := .problem
  fixable := false
  recommended := true
  messages := [("unboundedConcurrency",
    "Promise.all over .map() runs every task at once, use a concurrency limit")]
  create c := .ok (.onEnter c.tree .callExpression fun id =>
    .ok (UnboundedConcurrency.callFindings c.tree id))

end TreeLint.Rule
