import TreeLint.Disk
import TreeLint.Rule.Registry
import TreeLint.Run.Stored
import TreeLint.Version

/-! # The cache of results

The diagnostics of a file are kept on disk under a key that covers all they depend on:
the source, the syntax tree, the path and the working directory, the configuration,
and the rules that run with their severities. -/

namespace TreeLint

/-- What the result for a file depends on. -/
structure CacheInput where
  /-- The digest of the source. -/
  source : Text
  /-- The digest of the syntax tree. -/
  tree : Text
  path : Text
  cwd : Text
  /-- The digest of the configuration. -/
  config : Text
  /-- The names and severities of the rules. -/
  rules : List (Text × Severity)
  deriving DecidableEq, Repr

namespace CacheInput

/-- The last `width` bytes of a number, the least significant first. -/
def littleEndian (width n : Nat) : Text :=
  (List.range width).map fun i => (n / Nat.pow 256 i % 256).toUInt8

def field (t : Text) : Text := littleEndian 4 t.length ++ t

def ruleField (rule : Text × Severity) : Text := rule.1 ++ "=" ++ rule.2.name

/-- The whole input as bytes.  The rules are sorted, so that their order does not
matter. -/
def bytes (i : CacheInput) : Text :=
  littleEndian 2 Payload.currentSchema.toNat
    ++ ([Build.this.version, i.source, i.tree, i.path, i.cwd, i.config].flatMap field)
    ++ (Text.sorted (i.rules.map ruleField)).flatMap field

def key (i : CacheInput) : Text := Sha256.digest i.bytes

def ofFile (f : File) (document cwd config : Text) (entries : List Entry) : CacheInput :=
  { source := f.hash
    tree := Sha256.digest document
    path := f.path
    cwd
    config
    rules := entries.map fun e => (e.rule.name, e.severity) }

end CacheInput

/-- A cache in a folder of a disk. -/
structure Cache where
  dir : Text
  disk : Disk
  deriving Inhabited

namespace Cache

inductive Found where
  | absent
  /-- Something stored in another form. -/
  | outdated (p : Payload)
  | hit (p : Payload)
  deriving DecidableEq, Repr

def openAt (disk : Disk) (dir : Text) : Except Disk.Failure Cache :=
  (disk.makeFolder dir).map fun disk => ⟨dir, disk⟩

def pathOf (c : Cache) (key : Text) : Text :=
  let name := Sha256.toHex key
  Path.joinAll [c.dir, utf8 "lint", name.take 2, name ++ ".mp"]

/-- What is found under a key, or nothing where it cannot be read. -/
def get? (c : Cache) (key : Text) : Option Found :=
  match c.disk.read (c.pathOf key) with
  | .error f => if f.cause == .notFound then some .absent else none
  | .ok bytes =>
    (Payload.read? bytes).map fun p => if p.isCurrent then .hit p else .outdated p

def put (c : Cache) (key : Text) (p : Payload) : Except Disk.Failure Cache :=
  (c.disk.write (c.pathOf key) p.write).map fun disk => { c with disk }

def clear (c : Cache) : Except Disk.Failure Cache :=
  match c.disk.look c.dir with
  | .error .notFound => .ok c
  | .error cause => .error ⟨"rename", c.dir, cause⟩
  | .ok _ => openAt (c.disk.remove c.dir) c.dir

end Cache
end TreeLint
