import HiPerConTracer.Lib.Disk
import HiPerConTracer.Results.Statement

/-!
# Output streams (`outputstream.cc`, `compressortype.cc`)

An `OutputStream` writes to a file with the extension .tmp.  `closeStream` renames it to its final name
when the stream has been synchronised, and removes it otherwise.  All operations on files and streams
succeed.
-/

namespace HiPerConTracer.Writer
open Results (Text)

inductive CompressorType where
  | invalid
  | fromExtension
  | none
  | gzip
  | bzip2
  | xz
  | zstd
  | zlib
deriving DecidableEq, Repr

/-- `CompressorTable`, with the extensions. -/
def compressorTable : List (CompressorType × Text) := [
  (.none, []),
  (.xz, ['.', 'x', 'z']),
  (.bzip2, ['.', 'b', 'z', '2']),
  (.gzip, ['.', 'g', 'z']),
  (.zstd, ['.', 'z', 's', 't']),
  (.zlib, ['.', 'z', 'z'])]

def getExtensionForCompressor (type : CompressorType) : Text :=
  ((compressorTable.find? fun e => e.1 = type).map (·.2)).getD []

/-- `std::filesystem::path::extension`: from the last dot, unless the name begins with it. -/
def extension (name : Text) : Text :=
  let tail := name.reverse.takeWhile (· ≠ '.')
  if tail.length + 1 < name.length then '.' :: tail.reverse else []

def obtainCompressorFromExtension (name : Text) : CompressorType :=
  ((compressorTable.find? fun e => e.2 = (extension name).map Char.toLower).map (·.1)).getD .none

/-- The compressors, which are lossless. -/
structure Codec (β : Type) where
  compress : CompressorType → Text → β
  decompress : CompressorType → β → Text
  lossless : ∀ type text, decompress type (compress type text) = text

structure Path where
  directory : List Text
  name : Text
deriving DecidableEq, Repr

/-- The name of a temporary file. -/
def Path.tmp (p : Path) : Path := { p with name := p.name ++ ['.', 't', 'm', 'p'] }

variable {β : Type}

abbrev Op (β : Type) := Disk.Op Path β

/-- An output stream, with the file that its sink writes to, and the text that has been written. -/
structure OutputStream where
  fileName : Option Path
  tmpFileName : Option Path
  sink : Option Path
  compressor : CompressorType
  text : Text
deriving DecidableEq, Repr

namespace OutputStream

def start : OutputStream := ⟨none, none, none, .none, []⟩

def isComplete (o : OutputStream) : Bool := o.sink.isSome

/-- `closeStream`; none is "Incomplete output stream", which is thrown before anything is done. -/
def closeStream (codec : Codec β) (sync : Bool) (o : OutputStream) :
    Option (OutputStream × List (Op β)) :=
  let success := sync ∧ o.isComplete
  if sync ∧ ¬ success then none
  else
    let closed :=
      match o.sink with
      | none => []
      | some sink => [.close sink (codec.compress o.compressor o.text)]
    let named :=
      match o.fileName, o.tmpFileName with
      | some fileName, some tmpFileName =>
        if success then [.rename tmpFileName fileName] else [.remove tmpFileName]
      | _, _ => []
    some (⟨none, none, none, o.compressor, []⟩, closed ++ named)

/-- `openStream`, with a file name. -/
def openStream (codec : Codec β) (fileName : Path) (compressor : CompressorType) (o : OutputStream) :
    Option (OutputStream × List (Op β)) :=
  match o.closeStream codec false with
  | none => none
  | some (_, closed) =>
    let compressor :=
      if compressor = .fromExtension then obtainCompressorFromExtension fileName.name else compressor
    some (⟨some fileName, some fileName.tmp, some fileName.tmp, compressor, []⟩,
      closed ++ [.remove fileName, .create fileName.tmp])

/-- The operator `<<`; without a sink, the stream gets bad. -/
def write (text : Text) (o : OutputStream) : OutputStream × List (Op β) :=
  match o.sink with
  | none => (o, [])
  | some sink => ({ o with text := o.text ++ text }, [.write sink])

variable (codec : Codec β)

theorem closeStream_open (sync : Bool) (p : Path) (compressor : CompressorType) (text : Text) :
    closeStream codec sync ⟨some p, some p.tmp, some p.tmp, compressor, text⟩ =
      some (⟨none, none, none, compressor, []⟩,
        [.close p.tmp (codec.compress compressor text),
          if sync then .rename p.tmp p else .remove p.tmp]) := by
  cases sync with
  | false => rfl
  | true => rfl

theorem closeStream_closed (compressor : CompressorType) (text : Text) :
    closeStream codec false ⟨none, none, none, compressor, text⟩ =
      some (⟨none, none, none, compressor, []⟩, []) := rfl

theorem openStream_closed (p : Path) (compressor : CompressorType) (text : Text) :
    openStream codec p .fromExtension ⟨none, none, none, compressor, text⟩ =
      some (⟨some p, some p.tmp, some p.tmp, obtainCompressorFromExtension p.name, []⟩,
        [.remove p, .create p.tmp]) := rfl

end OutputStream

end HiPerConTracer.Writer
