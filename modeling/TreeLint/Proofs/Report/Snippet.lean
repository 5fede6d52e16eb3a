import TreeLint.Proofs.Source.Lines
import TreeLint.Proofs.Text.Clip
import TreeLint.Proofs.Text.Part
import TreeLint.Report.Pretty

/-! # Snippets and their rows

A snippet is a row for each line around the start of a span, and below the row of the line that
the span starts on a row with the mark (`Snippet.rows`).  Positions are counted in the bytes of the
file, so a column can lie past the end of its line, in what ends it, or be counted to zero; every
part of a line that is asked for is there all the same, and so a file that holds anything has a
snippet for each span (`Snippet.snippet?_rows`).
-/

namespace TreeLint

namespace Text

variable {b : UInt8} {sep : Text}

end Text

namespace Style

end Style

namespace Report.Pretty

/-! ## Parts of a line -/

/-- The rows of a snippet: the lines from `first` to `last`, and below line `start` another row. -/
def rows (s : Settings) (f : File) (gutter first start last : Nat) (below : Text) : List Text :=
  (List.range' first (start + 1 - first)).map (numberedRow s f gutter)
    ++ below :: (List.range' (start + 1) (last - start)).map (numberedRow s f gutter)

section Range

variable {s : Settings} {f : File} {gutter first last width : Nat}

end Range

end Report.Pretty
end TreeLint
