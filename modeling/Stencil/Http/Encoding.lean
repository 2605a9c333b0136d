import Stencil.Deflate.Stream
import Stencil.Http.Line
import Stencil.Text.Blank

/-!
# Packed content

Content may be packed for the way, several times over. A header names the packings in the order in
which they were done, so they are undone in the reverse order. Names that are not known are passed
over.
-/

namespace Stencil.Http

/-- A way to pack content. -/
inductive Packing where
  /-- As it is. -/
  | plain
  /-- In the form of files. -/
  | file
  /-- In the short form, or without a header. -/
  | stream
  deriving DecidableEq, Repr

namespace Packing

/-- The packing with a name in lower case. -/
def ofName? (name : String) : Option Packing :=
  if name = "identity" then some .plain
  else if name = "gzip" then some .file
  else if name = "deflate" then some .stream
  else none

/-- The packings that a header value lists. -/
def ofValue (value : String) : List Packing :=
  (value.toList.splitOn ',').filterMap fun name =>
    ofName? (Text.lower (String.ofList (Text.trim name)))

/-- The packings that header lines list. -/
def ofLines (lines : Lines) : List Packing :=
  (lines.filter fun line => Lines.sameName line.1 "Content-Encoding").flatMap fun line =>
    ofValue line.2

/-- The content before it was packed. -/
def undo (content : List UInt8) : Packing → Except Deflate.Fault (List UInt8)
  | .plain => .ok content
  | .file => Deflate.unpackFile content
  | .stream => Deflate.unpackAny content

/-- The content before it was packed in several ways, one after the other. -/
def undoAll (packings : List Packing) (content : List UInt8) :
    Except Deflate.Fault (List UInt8) :=
  packings.reverse.foldlM undo content

end Packing

end Stencil.Http
