import TreeLint.Text.Width

/-! # Cells on a screen

A screen reads a line byte by byte.  Control sequences take no cells: they begin with an
escape byte, and what begins one says how it goes on and where it ends.  All other
characters are taken cluster by cluster, and the marks of a cluster may change how many
cells it takes. -/

namespace TreeLint.Screen

/-! ## Control sequences -/

/-- Where a screen stands in a control sequence. -/
inductive Mode where
  /-- In none. -/
  | ground
  /-- After the byte that begins one. -/
  | escape
  /-- In one of a few letters. -/
  | letters
  /-- In the numbers of one, and after them. -/
  | control | controlEnd
  /-- In one for a device: at its beginning, in its numbers, after them, in its data. -/
  | device | deviceNumbers | deviceEnd | deviceData
  /-- In one for the system around the screen. -/
  | system
  /-- In a text for nobody. -/
  | remark
  deriving DecidableEq, Repr, Inhabited

namespace Mode

/-- The mode a byte leads to wherever it stands, if it is a control byte that breaks
sequences off or the first byte of one; any other byte past ASCII leads out of them. -/
def anywhere (b : UInt8) : Mode :=
  match b with
  | 0x1B => escape
  | 0x90 => device
  | 0x9B => control
  | 0x9D => system
  | 0x98 | 0x9E | 0x9F => remark
  | _ => ground

/-- The mode after the byte that follows an escape byte. -/
def ofLetter (b : UInt8) : Mode :=
  if b < 0x30 then letters
  else
    match Char.ofNat b.toNat with
    | 'P' => device
    | '[' => control
    | ']' => system
    | 'X' | '^' | '_' => remark
    | _ => ground

def isCancel (b : UInt8) : Bool := b == 0x18 || b == 0x1A

/-- The mode after data of a sequence that goes on up to an escape byte or the one byte
that ends it. -/
def afterData (m : Mode) (b : UInt8) : Mode :=
  if b == 0x1B then escape else if isCancel b || b == 0x9C then ground else m

def afterPrintable (m : Mode) (b : UInt8) : Mode :=
  match m with
  | escape => ofLetter b
  | letters => if b < 0x30 then letters else ground
  | control => if b < 0x30 then controlEnd else if b < 0x40 then control else ground
  | controlEnd => if b < 0x30 then controlEnd else ground
  | device | deviceNumbers =>
    if b < 0x30 then deviceEnd else if b < 0x40 then deviceNumbers else deviceData
  | deviceEnd => if b < 0x30 then deviceEnd else deviceData
  | m => m

def next (m : Mode) (b : UInt8) : Mode :=
  if m == system then (if b == 7 then ground else afterData m b)
  else if m == deviceData then afterData m b
  else if m == device && (b == 0x1B || (8 ≤ b && b ≤ 13)) then deviceData
  else if 0x80 ≤ b || b == 0x1B || isCancel b then anywhere b
  else if b < 0x20 || b == 0x7F then m
  else afterPrintable m b

def takesData (m : Mode) : Bool := m == system || m == deviceData

end Mode

/-! ## Cells -/

/-- Pictographs among the wide characters that are shown as text. -/
def textual : Ranges := #[
  (0x3030, 0x3030), (0x303d, 0x303d), (0x3297, 0x3297), (0x3299, 0x3299), (0x1f202, 0x1f202),
  (0x1f237, 0x1f237), (0x1f260, 0x1f265)]

def unknownWide : Ranges := #[(0x2ffc, 0x2fff), (0x31ef, 0x31ef)]

def charCells (k : Grapheme.Class) (c : Nat) : Nat :=
  match k with
  | .control | .cr | .lf | .extend | .joiner => 0
  | .regional => 2
  | .pictograph => if Text.wideChars.has c && !textual.has c then 2 else 1
  | _ =>
    if c == 0x2E3A then 3
    else if c == 0x2E3B then 4
    else if Text.wideChars.has c && !unknownWide.has c then 2
    else 1

def pieceCells (p : Utf8.Piece) : Nat := charCells (Grapheme.pieceClass p) p.code

/-- The cells of a pictograph after a character that may ask for text or picture. -/
def presented (cells : Nat) (p : Utf8.Piece) : Nat :=
  if p.code == 0xFE0E then 1 else if p.code == 0xFE0F then 2 else cells

/-- The cells of a cluster that begins with `p`.  Flags and syllables are as wide as their
first character. -/
def clusterCells (p : Utf8.Piece) (more : List Utf8.Piece) : Nat :=
  match Grapheme.pieceClass p with
  | .pictograph => more.foldl presented (pieceCells p)
  | .regional | .hangulL => pieceCells p
  | _ => more.foldl (fun cells q => cells + pieceCells q) (pieceCells p)

def isLead (b : UInt8) : Bool := 0xC2 ≤ b && b ≤ 0xF4

/-- The cells that pieces of a line take from a mode on; `skip` of them belong to a
cluster that is counted. -/
def cells : (skip : Nat) → Mode → List Utf8.Piece → Nat
  | _, _, [] => 0
  | skip + 1, m, _ :: ps => cells skip m ps
  | 0, m, p :: ps =>
    let bytes := p.bytes
    if bytes.head?.any isLead && !m.takesData then
      let more := Grapheme.continuation (.first (Grapheme.pieceClass p)) ps
      clusterCells p more + cells more.length .ground ps
    else
      let printed := m == .ground && bytes.head?.any fun b => 0x20 ≤ b && b < 0x80
      (if printed then 1 else 0) + cells 0 (bytes.foldl Mode.next m) ps

def width (line : Text) : Nat := cells 0 .ground (Utf8.pieces line)

end TreeLint.Screen
