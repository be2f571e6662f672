import JavadocRepair.Files.TextFile
import JavadocRepair.Log.Line

/-!
# Scanning logs

A log is read in blocks of bytes. The lines that a block completes are read before the next block
is decoded, so a line that reports nonsense is found before bytes in a later block that are no
text; within a block the bytes come first. A scan keeps what it found up to its end.
-/

namespace JavadocRepair.Log

/-- Why a log cannot be scanned to its end. -/
inductive ScanFault where
  | unreadable (path : String) (fault : ReadFault)
  | embeddedNull
  | line (fault : LineFault)
  deriving Repr, DecidableEq

/-- The wording of a fault on reading a log for a reason. -/
def unreadableMessage (path reason : String) : String :=
  s!"could not read log file {path}: {reason}"

/-- The wording of a fault. -/
def ScanFault.message : ScanFault → String
  | .unreadable path fault => unreadableMessage path (fault.message path)
  | .embeddedNull => OpenFault.embeddedNull.message ""
  | .line fault => fault.message

/-- What was found, in the order of the log, and what ended the scan before the end of the log. -/
structure Scan (φ : Type) where
  findings : List Finding
  fault : Option φ
  deriving Repr, DecidableEq

namespace Scan

variable {φ ψ : Type}

/-- The violations found. -/
def violations (scan : Scan φ) : List Violation :=
  scan.findings.map (·.violation)

/-- A scan with findings in front. -/
def after (findings : List Finding) (scan : Scan φ) : Scan φ :=
  { scan with findings := findings ++ scan.findings }

/-- Goes on with another scan if this one has no fault. -/
def andThen (scan : Scan φ) (next : Unit → Scan φ) : Scan φ :=
  match scan.fault with
  | some _ => scan
  | none => (next ()).after scan.findings

/-- Names the fault anew. -/
def mapFault (f : φ → ψ) (scan : Scan φ) : Scan ψ :=
  ⟨scan.findings, scan.fault.map f⟩

end Scan

/-- Scans lines behind findings, of which the last comes first. -/
def scanLinesFrom (matchers : List Matcher) (done : List Finding) :
    List String → Scan LineFault
  | [] => ⟨done.reverse, none⟩
  | line :: rest =>
    match readLine line matchers with
    | .error fault => ⟨done.reverse, some fault⟩
    | .ok none => scanLinesFrom matchers done rest
    | .ok (some finding) => scanLinesFrom matchers (finding :: done) rest

/-- Scans lines. -/
def scanLines (matchers : List Matcher) (lines : List String) : Scan LineFault :=
  scanLinesFrom matchers [] lines

/-- What ends the scan of bytes. -/
inductive BytesFault where
  | decode (fault : Text.Utf8.Fault)
  | line (fault : LineFault)
  deriving Repr, DecidableEq

/-- Scans blocks, between which a character and a line may be unfinished. -/
def scanBlocks (matchers : List Matcher) (decoder : Text.Utf8.Decoder)
    (buffer : Text.LineBuffer) : List (List UInt8) → Scan BytesFault
  | [] =>
    match decoder.endFault? decoder.taken with
    | some fault => ⟨[], some (.decode fault)⟩
    | none => (scanLines matchers buffer.last?.toList).mapFault .line
  | block :: rest =>
    match decoder.block block with
    | .error fault => ⟨[], some (.decode fault)⟩
    | .ok (chars, decoder) =>
      let (lines, buffer) := buffer.pushAll [] chars
      ((scanLines matchers lines).mapFault .line).andThen fun _ =>
        scanBlocks matchers decoder buffer rest

/-- Cuts bytes into blocks of a size, of which there are at most `fuel`. -/
def blocksOf (size : Nat) : Nat → List UInt8 → List (List UInt8)
  | 0, _ => []
  | fuel + 1, bytes =>
    if bytes.isEmpty then [] else bytes.take size :: blocksOf size fuel (bytes.drop size)

/-- The number of bytes that are decoded at once. -/
def blockSize : Nat := 8192

/-- Scans the bytes of a log. -/
def scanBytes (matchers : List Matcher) (bytes : List UInt8) : Scan BytesFault :=
  scanBlocks matchers none .empty (blocksOf blockSize (bytes.length / blockSize + 1) bytes)

/-- The fault of a log at a path whose bytes cannot be scanned. -/
def BytesFault.atPath (path : String) : BytesFault → ScanFault
  | .decode fault => .unreadable path (.decodeFault fault)
  | .line fault => .line fault

/-- Scans the log at a path. -/
def scan (tree : FileTree) (path : String) (matchers : List Matcher) : Scan ScanFault :=
  match tree.read path with
  | .error .embeddedNull => ⟨[], some .embeddedNull⟩
  | .error fault => ⟨[], some (.unreadable path (.openFault fault))⟩
  | .ok bytes => (scanBytes matchers bytes).mapFault (·.atPath path)

end JavadocRepair.Log
