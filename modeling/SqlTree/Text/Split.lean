/-
This file cuts a text at a mark: at every place, or at the last one only.

The two are kept apart because a path needs both: its last point is where the name
begins, and what stands before it is cut at every point. Nothing is lost in
either, and the mark itself is in none of the parts.
-/

namespace SqlTree

/-- The pieces between the marks; a text without a mark is one piece. -/
def splitAll (mark : Char) : List Char → List (List Char)
  | [] => [[]]
  | char :: rest =>
    if char = mark then [] :: splitAll mark rest
    else match splitAll mark rest with
      | [] => [[char]]
      | piece :: pieces => (char :: piece) :: pieces

/-- What stands before the last mark and what stands after it. -/
def splitLast? (mark : Char) : List Char → Option (List Char × List Char)
  | [] => none
  | char :: rest =>
    match splitLast? mark rest with
    | some (before, after) => some (char :: before, after)
    | none => if char = mark then some ([], rest) else none

end SqlTree
