import SourceIndex.Chunk
import SourceIndex.Event
import SourceIndex.Text.Lines

/-! # Records of a file

A file is read as bytes, and the same bytes as lines.  Each of its chunks becomes a record
that carries the text of the lines it touches, so that the file is not needed any more.

Texts and names are Unicode texts: a file whose name is no valid text, and holds a lone surrogate
when it is read as one, is left out. -/
set_option autoImplicit false
namespace SourceIndex

/-- A chunk of a file with the text of its lines.  `stopLine` is the line behind the last one.
The text is absent when no word stands in these lines. -/
structure Record where
  filePath : String
  fileName : String
  startLine : Int
  stopLine : Int
  text : Option String
  size : Int
  deriving DecidableEq, Repr, Inhabited

inductive ReadFault where
  | numbered (code : Int) (reason : String)
  | described (text : String)
  deriving DecidableEq, Repr

def ReadFault.atPath (path : Path) : ReadFault → OsError
  | .numbered code reason => .numbered code reason (some path.text)
  | .described text => .described text

def ReadFault.absent : ReadFault := .numbered 2 "No such file or directory"

/-- What is behind a file name: the bytes that reading gives, and the syntax tree that the
parser gives for them. -/
structure FileContent where
  bytes : Except ReadFault (List UInt8)
  tree : Option SyntaxNode

structure SourceFile where
  path : Path
  bytes : List UInt8
  lines : List (List Char)

namespace SourceFile

def ofBytes (path : Path) (bytes : List UInt8) : SourceFile :=
  ⟨path, bytes, Text.splitLines (Utf8.decode bytes)⟩

def read (path : Path) (bytes : Except ReadFault (List UInt8)) : Except Failure SourceFile :=
  match bytes with
  | .ok bytes => .ok (ofBytes path bytes)
  | .error fault =>
    .error (.unchunkable path ("unable to read file: " ++ (fault.atPath path).message))

def recordOf (file : SourceFile) (chunk : Chunk) : Record where
  filePath := file.path.text
  fileName := file.path.name
  startLine := chunk.startRow
  stopLine := chunk.stopRow
  text := (Text.joinLines file.lines chunk.startRow chunk.stopRow).map String.ofList
  size := chunk.size

def chunked (file : SourceFile) (language : String) (records : List Record) : Event :=
  .debug "file_chunked"
    [("file", .text file.path.text), ("language", .text language),
      ("lines", .ofNat file.lines.length), ("chunks", .ofNat records.length)]

end SourceFile

/-- Read a file and split it.  A splitter that fails because of the file makes the file
unchunkable; any other failure of it is passed on. -/
def chunkFile (path : Path) (bytes : Except ReadFault (List UInt8)) (language : String)
    (split : List UInt8 → Except Failure (List Chunk)) :
    Except Failure (List Record × List Event) :=
  match SourceFile.read path bytes with
  | .error failure => .error failure
  | .ok file =>
    match split file.bytes with
    | .ok chunks =>
      let records := chunks.map file.recordOf
      .ok (records, [file.chunked language records])
    | .error failure =>
      if failure.concernsOneFile then
        .error (.unchunkable path (language ++ " splitter failed: " ++ failure.message))
      else .error failure

end SourceIndex
