import TreeLint.Diagnostic.Basic
import TreeLint.MessagePack

/-! # Stored diagnostics

The diagnostics of one file in the form they are kept in between runs.  Spans are kept
without their file, since a file has another number in another run, and fixes are kept
resolved: one that does not resolve is not kept. -/

namespace TreeLint

namespace Stored

structure Range where
  start : UInt32
  stop : UInt32
  deriving DecidableEq, Repr, Inhabited

def Range.ofSpan (s : Span) : Range := ⟨s.start, s.stop⟩

def Range.inFile (r : Range) (file : FileId) : Span := ⟨file, r.start, r.stop⟩

structure Note where
  range : Range
  message : Text
  deriving DecidableEq, Repr, Inhabited

structure Edit where
  range : Range
  newText : Text
  oldText : Text
  deriving DecidableEq, Repr, Inhabited

structure Fix where
  id : Text
  title : Text
  kind : UInt8
  applicability : UInt8
  preferred : Bool
  requiresAll : Bool
  edits : List Edit
  deriving DecidableEq, Repr, Inhabited

structure Diagnostic where
  severity : UInt8
  rule : Text
  messageId : Text
  message : Text
  data : Template.Data
  range : Range
  notes : List Note
  fixes : List Fix
  deriving DecidableEq, Repr, Inhabited

/-! ## To the stored form and back -/

def Edit.ofEdit (e : TreeLint.Edit) : Edit := ⟨.ofSpan e.span, e.newText, e.oldText⟩

def Edit.inFile (file : FileId) (e : Edit) : TreeLint.Edit :=
  ⟨e.range.inFile file, e.newText, e.oldText⟩

def Fix.ofFix? (f : TreeLint.Fix) : Option Fix :=
  match f.resolve with
  | .error _ => none
  | .ok f => some ⟨f.id, f.title, f.kind.code, f.applicability.code, f.preferred, f.requiresAll,
      f.edits.map .ofEdit⟩

def Fix.inFile (file : FileId) (f : Fix) : TreeLint.Fix :=
  ⟨f.id, f.title, .ofCode f.kind, .ofCode f.applicability, f.preferred, f.requiresAll,
    f.edits.map (Edit.inFile file), none⟩

def Diagnostic.ofDiagnostic (d : TreeLint.Diagnostic) : Diagnostic :=
  { severity := d.severity.level
    rule := d.rule
    messageId := d.messageId
    message := d.message
    data := d.data
    range := .ofSpan d.primary
    notes := d.notes.map fun n => ⟨.ofSpan n.span, n.message⟩
    fixes := d.fixes.filterMap Fix.ofFix? }

def Diagnostic.inFile (file : FileId) (d : Diagnostic) : TreeLint.Diagnostic :=
  { severity := ⟨d.severity⟩
    rule := d.rule
    messageId := d.messageId
    message := d.message
    data := d.data
    primary := d.range.inFile file
    notes := d.notes.map fun n => ⟨n.range.inFile file, n.message⟩
    fixes := d.fixes.map (Fix.inFile file) }

end Stored

structure Payload where
  /-- The version of the form it is stored in. -/
  schema : UInt16
  path : Text
  diagnostics : List Stored.Diagnostic
  deriving DecidableEq, Repr, Inhabited

namespace Payload

def currentSchema : UInt16 := 1

def isCurrent (p : Payload) : Bool := p.schema == currentSchema

def ofDiagnostics (path : Text) (ds : List Diagnostic) : Payload :=
  ⟨currentSchema, path, ds.map .ofDiagnostic⟩

/-- The diagnostics of a payload for a file; there are none in another form. -/
def diagnosticsIn (p : Payload) (file : FileId) : List Diagnostic :=
  if p.isCurrent then p.diagnostics.map (Stored.Diagnostic.inFile file) else []

/-! ## As bytes -/

open MessagePack

def writeRange (r : Stored.Range) : List (Text × Text) :=
  [("Start", word32 r.start), ("End", word32 r.stop)]

def writeNote (n : Stored.Note) : Text :=
  record (writeRange n.range ++ [(utf8 "Msg", text n.message)])

def writeEdit (e : Stored.Edit) : Text :=
  record (writeRange e.range
    ++ [(utf8 "NewText", text e.newText), (utf8 "OldText", text e.oldText)])

def writeFix (f : Stored.Fix) : Text :=
  record [("ID", text f.id), ("Title", text f.title), ("Kind", word8 f.kind),
    ("Applicability", word8 f.applicability), ("IsPreferred", bool f.preferred),
    ("RequiresAll", bool f.requiresAll), ("Edits", list (f.edits.map writeEdit))]

def writeDiagnostic (d : Stored.Diagnostic) : Text :=
  record ([(utf8 "Severity", word8 d.severity), (utf8 "Rule", text d.rule),
      (utf8 "MessageID", text d.messageId), (utf8 "Message", text d.message),
      (utf8 "Data", texts d.data)] ++ writeRange d.range
    ++ [(utf8 "Notes", list (d.notes.map writeNote)),
      (utf8 "Fixes", list (d.fixes.map writeFix))])

def write (p : Payload) : Text :=
  record [("Schema", word16 p.schema), ("Path", text p.path),
    ("Diagnostics", list (p.diagnostics.map writeDiagnostic))]

def rangeFields {α : Type} (get : α → Stored.Range) (put : α → Stored.Range → α) :
    List (Member α) :=
  [.set "Start" Reader.word fun a n => put a { get a with start := n.toUInt32 },
    .set "End" Reader.word fun a n => put a { get a with stop := n.toUInt32 }]

def readNote : Reader Stored.Note :=
  .record default (rangeFields Stored.Note.range (fun n range => { n with range })
    ++ [.set "Msg" Reader.text fun n message => { n with message }])

def readEdit : Reader Stored.Edit :=
  .record default (rangeFields Stored.Edit.range (fun e range => { e with range })
    ++ [.set "NewText" Reader.text fun e newText => { e with newText },
      .set "OldText" Reader.text fun e oldText => { e with oldText }])

def readFix : Reader Stored.Fix :=
  .record default [
    .set "ID" Reader.text fun f id => { f with id },
    .set "Title" Reader.text fun f title => { f with title },
    .set "Kind" Reader.word fun f n => { f with kind := n.toUInt8 },
    .set "Applicability" Reader.word fun f n => { f with applicability := n.toUInt8 },
    .set "IsPreferred" Reader.bool fun f preferred => { f with preferred },
    .set "RequiresAll" Reader.bool fun f requiresAll => { f with requiresAll },
    .set "Edits" (Reader.list readEdit) fun f edits => { f with edits }]

def readDiagnostic : Reader Stored.Diagnostic :=
  .record default ([
      .set "Severity" Reader.word fun d n => { d with severity := n.toUInt8 },
      .set "Rule" Reader.text fun d rule => { d with rule },
      .set "MessageID" Reader.text fun d messageId => { d with messageId },
      .set "Message" Reader.text fun d message => { d with message },
      .set "Data" Reader.texts fun d data => { d with data }]
    ++ rangeFields Stored.Diagnostic.range (fun d range => { d with range })
    ++ [.set "Notes" (Reader.list readNote) fun d notes => { d with notes },
      .set "Fixes" (Reader.list readFix) fun d fixes => { d with fixes }])

def reader : Reader Payload :=
  .record default [
    .set "Schema" Reader.word fun p n => { p with schema := n.toUInt16 },
    .set "Path" Reader.text fun p path => { p with path },
    .set "Diagnostics" (Reader.list readDiagnostic) fun p diagnostics => { p with diagnostics }]

def read? (bytes : Text) : Option Payload := (reader bytes).map (·.1)

end Payload
end TreeLint
