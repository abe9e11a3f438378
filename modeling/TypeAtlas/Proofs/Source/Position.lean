import TypeAtlas.Source.Position

/-!
Files in which no comment moves what follows it. All that such a file declares is said to be where it is,
in the file itself.
-/

namespace TypeAtlas.Source

/-- None of the lines is a comment that moves what follows. -/
def Comment.stay (lines : List Text) : Bool :=
  (marks lines).all fun m => (lineDirective? m).isNone

/-- Positions and a cursor behind them, all said to be in the same file. -/
structure Stays (file : Text) (walked : List Position × Cursor) : Prop where
  positions : ∀ q ∈ walked.1, q.file = file
  cursor : walked.2.position.file = file

theorem Stays.skip {file : Text} {walked : List Position × Cursor} (stays : Stays file walked) (t : Text) :
    Stays file (walked.1, walked.2.skip t) :=
  ⟨stays.positions, stays.cursor⟩

namespace Declaration

end Declaration

/-! ### Files -/

namespace File

variable {f : File}

end File

end TypeAtlas.Source
