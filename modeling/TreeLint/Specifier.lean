import TreeLint.Path

/-! # Module specifiers

A specifier names a builtin module, a path relative to the importing file, or a
package.  Telling them apart is work on the text alone. -/

namespace TreeLint.Specifier

inductive Kind where
  | package | builtin | relative
  deriving DecidableEq, Repr, Inhabited

def Kind.name : Kind → String
  | package => "package"
  | builtin => "builtin"
  | relative => "relative"

/-- A classified specifier.  The path of a relative one is cleaned; builtin modules
and packages are their own path. -/
structure Target where
  kind : Kind
  specifier : Text
  path : Text
  deriving DecidableEq, Repr

def builtins : List Text := List.map utf8 [
  "assert", "assert/strict", "async_hooks", "buffer", "child_process", "cluster", "console",
  "constants", "crypto", "dgram", "diagnostics_channel", "dns", "dns/promises", "domain",
  "events", "fs", "fs/promises", "http", "http2", "https", "inspector", "module", "net", "os",
  "path", "path/posix", "path/win32", "perf_hooks", "process", "punycode", "querystring",
  "readline", "readline/promises", "repl", "stream", "stream/consumers", "stream/promises",
  "stream/web", "string_decoder", "sys", "timers", "timers/promises", "tls", "trace_events",
  "tty", "url", "util", "util/types", "v8", "vm", "wasi", "worker_threads", "zlib"]

/-- Whether a specifier names a builtin module, by its scheme or by its name. -/
def isBuiltin (spec : Text) : Bool :=
  spec.startsWith "node:" || spec.startsWith "internal/" || builtins.contains spec

/-- Whether a specifier starts with a mark of a path. -/
def isRelative (spec : Text) : Bool :=
  spec == "." || spec == ".." || spec.startsWith "./" || spec.startsWith "../"
    || spec.startsWith "/"

/-- The target of a specifier imported by a file in `dir`. -/
def classify (dir spec : Text) : Target :=
  if isBuiltin spec then ⟨.builtin, spec, spec⟩
  else if isRelative spec then
    let path := if spec.startsWith "/" then spec else Path.append dir spec
    ⟨.relative, spec, Path.clean path⟩
  else ⟨.package, spec, spec⟩

/-- What is said when no path leads from `dir` to `target`. -/
def unrelated (dir target : Text) : Text :=
  "Rel: can't make " ++ target ++ " relative to " ++ dir

/-- A relative specifier that leads from `dir` to the path `target`. -/
def relativeTo (dir target : Text) : Except Text Text :=
  match Path.relative? dir target with
  | some rel => .ok (if rel.startsWith "." then rel else "./" ++ rel)
  | none => .error (unrelated dir target)

end TreeLint.Specifier
