import JavadocRepair.Log.Scan
import JavadocRepair.Matcher.Builtin
import JavadocRepair.Proofs.Log.Line
import JavadocRepair.Proofs.Text.Lines
import JavadocRepair.Proofs.Text.Utf8

/-!
# Scans in blocks

A log is scanned in blocks of bytes, between which a character and a line may be unfinished. What
the scan finds does not depend on where the blocks are cut: it is what the lines of the whole text
report, up to the first line that has a fault. If the bytes are no text, the scan ends with a fault.
-/

namespace JavadocRepair.Log

variable {φ ψ : Type} {matchers : List Matcher}

/-! ## Scans of lines -/

/-- What a line reports, if it has no fault. -/
def finding? (matchers : List Matcher) (line : String) : Option Finding :=
  match readLine line matchers with
  | .ok finding => finding
  | .error _ => none

/-- The fault of a line. -/
def lineFault? (matchers : List Matcher) (line : String) : Option LineFault :=
  match readLine line matchers with
  | .ok _ => none
  | .error fault => some fault

/-- The violation that a line reports, if it has no fault. -/
def violation? (matchers : List Matcher) (line : String) : Option Violation :=
  (finding? matchers line).map (·.violation)

/-- What lines report from the first one on, up to the first fault. -/
def reports (matchers : List Matcher) (lines : List String) : Scan LineFault where
  findings := (lines.takeWhile fun line => (lineFault? matchers line).isNone).filterMap
    (finding? matchers)
  fault := lines.findSome? (lineFault? matchers)

theorem reports_nil : reports matchers [] = ⟨[], none⟩ := rfl

theorem reports_cons_of_fault {line : String} {fault : LineFault}
    (bad : lineFault? matchers line = some fault) (lines : List String) :
    reports matchers (line :: lines) = ⟨[], some fault⟩ := by
  simp [reports, bad]

theorem reports_cons {line : String} (good : lineFault? matchers line = none)
    (lines : List String) :
    reports matchers (line :: lines) =
      (reports matchers lines).after (finding? matchers line).toList := by
  cases found : finding? matchers line <;> simp [reports, good, found, Scan.after]

/-- Lines that report go in front of what the lines behind them report. -/
theorem reports_append (xs ys : List String) :
    reports matchers (xs ++ ys) = (reports matchers xs).andThen fun _ => reports matchers ys := by
  induction xs with
  | nil => simp [reports_nil, Scan.andThen, Scan.after]
  | cons line xs ih =>
    rw [List.cons_append]
    cases fault : lineFault? matchers line with
    | some found => rw [reports_cons_of_fault fault, reports_cons_of_fault fault, Scan.andThen]
    | none =>
      rw [reports_cons fault, reports_cons fault, ih]
      cases ended : (reports matchers xs).fault <;> simp [Scan.andThen, Scan.after, ended]

theorem scanLinesFrom_eq_reports (done : List Finding) (lines : List String) :
    scanLinesFrom matchers done lines = (reports matchers lines).after done.reverse := by
  induction lines generalizing done with
  | nil => simp [scanLinesFrom, reports_nil, Scan.after]
  | cons line lines ih =>
    simp only [scanLinesFrom]
    cases read : readLine line matchers with
    | error fault =>
      have bad : lineFault? matchers line = some fault := by simp [lineFault?, read]
      rw [reports_cons_of_fault bad]
      simp [Scan.after]
    | ok report =>
      rw [reports_cons (by simp [lineFault?, read])]
      cases report with
      | none => simp [ih, finding?, read, Scan.after]
      | some finding => simp [ih, finding?, read, Scan.after]

/-- Scanning lines gives what they report. -/
theorem scanLines_eq_reports (lines : List String) :
    scanLines matchers lines = reports matchers lines := by
  rw [scanLines, scanLinesFrom_eq_reports]
  simp [Scan.after]

theorem andThen_mapFault (f : φ → ψ) (scan next : Scan φ) :
    ((scan.mapFault f).andThen fun _ => next.mapFault f) =
      (scan.andThen fun _ => next).mapFault f := by
  cases ended : scan.fault <;> simp [Scan.andThen, Scan.mapFault, Scan.after, ended]

/-- The first fault that lines report is that of a line behind lines without one. -/
theorem reports_fault_eq_some_iff {lines : List String} {fault : LineFault} :
    (reports matchers lines).fault = some fault ↔
      ∃ before line after, lines = before ++ line :: after ∧
        (∀ earlier ∈ before, lineFault? matchers earlier = none) ∧
        lineFault? matchers line = some fault := by
  simp only [reports, List.findSome?_eq_some_iff]
  constructor
  · intro parts
    rcases parts with ⟨before, line, after, split, bad, good⟩
    exact ⟨before, line, after, split, good, bad⟩
  · intro parts
    rcases parts with ⟨before, line, after, split, good, bad⟩
    exact ⟨before, line, after, split, bad, good⟩

/-- Lines without a fault report their violations. -/
theorem violations_reports {lines : List String}
    (good : ∀ line ∈ lines, lineFault? matchers line = none) :
    (reports matchers lines).violations = lines.filterMap (violation? matchers) := by
  have whole : lines.takeWhile (fun line => (lineFault? matchers line).isNone) = lines := by
    rw [List.takeWhile_eq_self_iff]
    simpa using good
  simp only [Scan.violations, reports, whole, List.map_filterMap]
  rfl

/-! ## Scans of blocks -/

/-- Blocks that are the bytes of a text report what the lines of the text report, wherever they
    are cut. -/
theorem scanBlocks_eq_reports {decoder : Text.Utf8.Decoder} {buffer : Text.LineBuffer}
    {blocks : List (List UInt8)} {position : Nat} {chars : List Char}
    (decoded : decoder.pushAll position [] blocks.flatten = .ok (chars, none)) :
    scanBlocks matchers decoder buffer blocks =
      (reports matchers (buffer.finish chars)).mapFault .line := by
  induction blocks generalizing decoder buffer position chars with
  | nil =>
    simp only [List.flatten_nil, Text.Utf8.Decoder.pushAll, List.reverse_nil, Except.ok.injEq,
      Prod.mk.injEq] at decoded
    rcases decoded with ⟨rfl, rfl⟩
    simp [scanBlocks, Text.Utf8.Decoder.endFault?, scanLines_eq_reports, Text.LineBuffer.finish,
      Text.LineBuffer.pushAll]
  | cons block blocks ih =>
    rw [List.flatten_cons, Text.Utf8.pushAll_append] at decoded
    cases read : decoder.pushAll position [] block with
    | error fault => simp [read] at decoded
    | ok result =>
      rcases result with ⟨first, next⟩
      simp only [read] at decoded
      rw [Text.Utf8.pushAll_done] at decoded
      cases later : next.pushAll (position + block.length) [] blocks.flatten with
      | error fault => simp [later, Except.map] at decoded
      | ok result =>
        rcases result with ⟨rest, last⟩
        simp only [later, Except.map, List.reverse_reverse, Except.ok.injEq, Prod.mk.injEq]
          at decoded
        rcases decoded with ⟨rfl, rfl⟩
        simp only [scanBlocks, Text.Utf8.Decoder.block, Text.Utf8.pushAll_move read,
          scanLines_eq_reports, ih later, andThen_mapFault, ← reports_append]
        rw [Text.LineBuffer.finish_append]

/-- The fault `fault` of a scan of bytes is that of the decoder, or of the first line with a fault
    among those that a buffer hands over for the text `chars` that the bytes begin with. -/
def EndsEarly (matchers : List Matcher) (buffer : Text.LineBuffer) (bytes : List UInt8)
    (fault : Option BytesFault) : Prop :=
  (∃ found, fault = some (.decode found)) ∨
  ∃ chars rest before line after found, bytes = Text.Utf8.encode chars ++ rest ∧
    (buffer.pushAll [] chars).1 = before ++ line :: after ∧
    (∀ earlier ∈ before, lineFault? matchers earlier = none) ∧
    lineFault? matchers line = some found ∧ fault = some (.line found)

/-- Bytes that are no text end the scan of their blocks with a fault. -/
theorem scanBlocks_endsEarly {decoder : Text.Utf8.Decoder} {buffer : Text.LineBuffer}
    {blocks : List (List UInt8)} {read : List UInt8} (position : Nat)
    (holds : decoder.Holds read)
    (undecodable : ∀ chars, decoder.pushAll position [] blocks.flatten ≠ .ok (chars, none)) :
    EndsEarly matchers buffer (read ++ blocks.flatten)
      (scanBlocks matchers decoder buffer blocks).fault := by
  induction blocks generalizing decoder buffer position read with
  | nil =>
    cases decoder with
    | none => exact absurd rfl (undecodable [])
    | some u => exact .inl ⟨_, rfl⟩
  | cons block blocks ih =>
    cases decoded : decoder.block block with
    | error fault => exact .inl ⟨fault, by simp [scanBlocks, decoded]⟩
    | ok result =>
      rcases result with ⟨first, next⟩
      rcases Text.Utf8.pushAll_ok holds decoded with ⟨new, unread, equal, held, split⟩
      obtain rfl : first = new := equal
      have bytes : read ++ (block :: blocks).flatten =
          Text.Utf8.encode first ++ (unread ++ blocks.flatten) := by
        rw [List.flatten_cons, ← List.append_assoc, split, List.append_assoc]
      have later (chars : List Char) :
          next.pushAll (position + block.length) [] blocks.flatten ≠ .ok (chars, none) := by
        intro whole
        apply undecodable (first ++ chars)
        rw [List.flatten_cons, Text.Utf8.pushAll_append, Text.Utf8.pushAll_move decoded position]
        dsimp only
        rw [Text.Utf8.pushAll_done, whole]
        simp [Except.map]
      simp only [scanBlocks, decoded, scanLines_eq_reports]
      -- a line of this block has a fault, or the fault comes from the blocks behind it
      cases ended : (reports matchers (buffer.pushAll [] first).1).fault with
      | some fault =>
        rcases reports_fault_eq_some_iff.1 ended with ⟨before, line, after, handed, good, bad⟩
        exact .inr ⟨first, _, before, line, after, fault, bytes, handed, good, bad, by
          simp [Scan.andThen, Scan.mapFault, ended]⟩
      | none =>
        have good := List.findSome?_eq_none_iff.1 ended
        have fault (scan : Scan BytesFault) :
            (((reports matchers (buffer.pushAll [] first).1).mapFault BytesFault.line).andThen
              fun _ => scan).fault = scan.fault := by
          simp [Scan.andThen, Scan.mapFault, Scan.after, ended]
        rw [fault]
        rcases ih _ held later with decoding | ⟨chars, rest, before, line, after, found, same,
          handed, earlier, bad, last⟩
        · exact .inl decoding
        · refine .inr ⟨first ++ chars, rest, (buffer.pushAll [] first).1 ++ before, line, after,
            found, ?_, ?_, ?_, bad, last⟩
          · rw [bytes, same]
            simp [Text.Utf8.encode]
          · simp [Text.LineBuffer.pushAll_append, handed]
          · intro text member
            rcases List.mem_append.1 member with inFirst | inLater
            · exact good text inFirst
            · exact earlier text inLater

/-- The blocks that bytes are cut into hold all of them. -/
theorem flatten_blocksOf {size fuel : Nat} {bytes : List UInt8}
    (enough : bytes.length ≤ size * fuel) : (blocksOf size fuel bytes).flatten = bytes := by
  induction fuel generalizing bytes with
  | zero => simpa [blocksOf] using enough
  | succ fuel ih =>
    simp only [blocksOf]
    split
    · simp_all
    · have fewer : (bytes.drop size).length ≤ size * fuel := by
        rw [List.length_drop, Nat.mul_succ] at *
        omega
      rw [List.flatten_cons, ih fewer, List.take_append_drop]

theorem flatten_blocks (bytes : List UInt8) :
    (blocksOf blockSize (bytes.length / blockSize + 1) bytes).flatten = bytes := by
  apply flatten_blocksOf
  have := Nat.lt_mul_div_succ bytes.length (show 0 < blockSize by decide)
  omega

/-! ## Scans of logs -/

theorem scanBytes_encode (chars : List Char) :
    scanBytes matchers (Text.Utf8.encode chars) =
      (reports matchers (Text.lines chars)).mapFault .line := by
  have decoded : Text.Utf8.Decoder.pushAll none 0 []
      (blocksOf blockSize ((Text.Utf8.encode chars).length / blockSize + 1)
        (Text.Utf8.encode chars)).flatten = .ok (chars, none) := by
    rw [flatten_blocks]
    simpa [Text.Utf8.Decoder.pushAll] using Text.Utf8.pushAll_encode 0 chars [] []
  rw [scanBytes, scanBlocks_eq_reports decoded, Text.LineBuffer.finish_empty]

/-- A log whose bytes are a text gives what the lines of the text report. -/
theorem scan_encode {tree : FileTree} {path : String} {chars : List Char}
    (readable : tree.read path = .ok (Text.Utf8.encode chars)) :
    scan tree path matchers = (reports matchers (Text.lines chars)).mapFault .line := by
  simp only [scan, readable, scanBytes_encode, Scan.mapFault, Option.map_map]
  rfl

theorem scanBytes_endsEarly (matchers : List Matcher) {bytes : List UInt8}
    (undecodable : ∀ chars, bytes ≠ Text.Utf8.encode chars) :
    EndsEarly matchers .empty bytes (scanBytes matchers bytes).fault := by
  have early (blocks : List (List UInt8)) (whole : blocks.flatten = bytes) :
      EndsEarly matchers .empty bytes (scanBlocks matchers none .empty blocks).fault := by
    subst whole
    apply scanBlocks_endsEarly 0 Text.Utf8.holds_none
    intro chars decoded
    rcases Text.Utf8.pushAll_ok Text.Utf8.holds_none decoded with ⟨new, unread, equal, held, split⟩
    obtain rfl : unread = [] := held
    exact undecodable new (by simpa using split)
  exact early _ (flatten_blocks bytes)

/-- A scan depends on nothing but the bytes of its log. -/
theorem scan_of_read {tree other : FileTree} {path : String}
    (same : tree.read path = other.read path) :
    scan tree path matchers = scan other path matchers := by
  rw [scan, same, ← scan]

/-- Only a text can be scanned to its end. -/
theorem exists_encode_of_scan {tree : FileTree} {path : String} {bytes : List UInt8}
    (readable : tree.read path = .ok bytes) (scanned : (scan tree path matchers).fault = none) :
    ∃ chars, bytes = Text.Utf8.encode chars := by
  by_contra undecodable
  have ended : (scanBytes matchers bytes).fault = none := by
    simpa [scan, readable, Scan.mapFault] using scanned
  rcases scanBytes_endsEarly matchers (not_exists.1 undecodable) with
    ⟨found, early⟩ | ⟨_, _, _, _, _, found, _, _, _, _, early⟩
  · rw [ended] at early
    cases early
  · rw [ended] at early
    cases early

/-- A log that can be scanned to its end is a text. -/
theorem exists_text_of_scan {tree : FileTree} {path : String}
    (scanned : (scan tree path matchers).fault = none) :
    ∃ chars, tree.read path = .ok (Text.Utf8.encode chars) := by
  cases readable : tree.read path with
  | error fault => cases fault <;> simp [scan, readable] at scanned
  | ok bytes =>
    rcases exists_encode_of_scan readable scanned with ⟨chars, rfl⟩
    exact ⟨chars, rfl⟩

section Lines

variable {tree : FileTree} {path : String} {chars : List Char}

theorem readLines_encode (readable : tree.read path = .ok (Text.Utf8.encode chars)) :
    tree.readLines path = .ok (Text.lines chars) := by
  simp [FileTree.readLines, readable, Text.linesOfBytes]

theorem scan_fault_eq_none_iff (readable : tree.read path = .ok (Text.Utf8.encode chars)) :
    (scan tree path matchers).fault = none ↔
      ∀ line ∈ Text.lines chars, lineFault? matchers line = none := by
  rw [scan_encode readable]
  simp [Scan.mapFault, reports, List.findSome?_eq_none_iff]

theorem scan_violations (readable : tree.read path = .ok (Text.Utf8.encode chars))
    (scanned : (scan tree path matchers).fault = none) :
    (scan tree path matchers).violations = (Text.lines chars).filterMap (violation? matchers) := by
  rw [scan_encode readable, ← violations_reports ((scan_fault_eq_none_iff readable).1 scanned)]
  rfl

/-- The lines of a log that can be scanned to its end have no fault, and what they report is what
    the scan finds. -/
theorem exists_lines_of_scan (scanned : (scan tree path matchers).fault = none) :
    ∃ lines, tree.readLines path = .ok lines ∧
      (∀ line ∈ lines, lineFault? matchers line = none) ∧
      (scan tree path matchers).violations = lines.filterMap (violation? matchers) := by
  rcases exists_text_of_scan scanned with ⟨chars, readable⟩
  exact ⟨Text.lines chars, readLines_encode readable, (scan_fault_eq_none_iff readable).1 scanned,
    scan_violations readable scanned⟩

/-- What a scan finds has numbers that can be written. -/
theorem lineNumber_lt_tooLarge_of_scan (scanned : (scan tree path matchers).fault = none) :
    ∀ violation ∈ (scan tree path matchers).violations,
      violation.lineNumber < Number.tooLarge := by
  rcases exists_lines_of_scan scanned with ⟨lines, _, _, found⟩
  rw [found]
  intro violation member
  rcases List.mem_filterMap.1 member with ⟨line, _, reported⟩
  rcases Option.map_eq_some_iff.1 reported with ⟨finding, taken, rfl⟩
  have read : readLine line matchers = .ok (some finding) := by
    unfold finding? at taken
    split at taken
    · next found => rw [found, taken]
    · cases taken
  exact lt_tooLarge_of_readLine read

end Lines

/-- Scanning a log in blocks agrees with reading it as a whole. If its bytes are a text, the scan
    gives what the lines of the text report. If they are not, reading fails, and the scan has a
    fault: it cannot decode the bytes, or a line that ends before the first byte that cannot be
    decoded is the first one with a fault. -/
theorem scan_agrees_with_readLines {tree : FileTree} {path : String} {bytes : List UInt8}
    (readable : tree.read path = .ok bytes) (matchers : List Matcher) :
    (∀ chars, bytes = Text.Utf8.encode chars →
      tree.readLines path = .ok (Text.lines chars) ∧
      scan tree path matchers = (reports matchers (Text.lines chars)).mapFault .line) ∧
    ((∀ chars, bytes ≠ Text.Utf8.encode chars) →
      ∃ fault, tree.readLines path = .error (.decodeFault fault) ∧
        ((∃ found, (scan tree path matchers).fault =
            some (.unreadable path (.decodeFault found))) ∨
          ∃ front rest before line found, bytes = Text.Utf8.encode front ++ rest ∧
            (Text.Utf8.encode front).length ≤ fault.position ∧
            (front.getLast? = some '\n' ∨ front.getLast? = some '\r') ∧
            Text.lines front = before ++ [line] ∧
            (∀ earlier ∈ before, lineFault? matchers earlier = none) ∧
            lineFault? matchers line = some found ∧
            (scan tree path matchers).fault = some (.line found))) := by
  have scanned : scan tree path matchers =
      (scanBytes matchers bytes).mapFault (·.atPath path) := by
    simp [scan, readable]
  constructor
  · rintro chars rfl
    constructor
    · simp [FileTree.readLines, readable, Text.linesOfBytes]
    · rw [scanned, scanBytes_encode]
      simp only [Scan.mapFault, Option.map_map]
      rfl
  · intro undecodable
    cases decoded : Text.Utf8.decode bytes with
    | ok chars => exact absurd (Text.Utf8.decode_eq_ok_iff.1 decoded) (undecodable chars)
    | error fault =>
      refine ⟨fault, by simp [FileTree.readLines, readable, Text.linesOfBytes, decoded], ?_⟩
      rcases scanBytes_endsEarly matchers undecodable with ⟨found, ended⟩ |
        ⟨chars, rest, before, line, after, found, split, handed, good, bad, ended⟩
      · left
        exact ⟨found, by simp [scanned, Scan.mapFault, ended, BytesFault.atPath]⟩
      · right
        rcases Text.LineBuffer.exists_front_of_handed handed with ⟨front, ⟨more, rfl⟩, ends, cut⟩
        have bytesSplit : bytes =
            Text.Utf8.encode front ++ (Text.Utf8.encode more ++ rest) := by
          rw [split]
          simp [Text.Utf8.encode]
        refine ⟨front, _, before, line, found, bytesSplit, ?_, ends, cut, good, bad, ?_⟩
        · rw [bytesSplit] at decoded
          exact Text.Utf8.length_le_of_decode_error decoded
        · simp [scanned, Scan.mapFault, ended, BytesFault.atPath]

/-- A log whose lines end in different ways, and one whose last byte belongs to no character. -/
def twoLogs : FileTree where
  entries := [(["whole"], .file [0x78, 0x0d, 0x0a, 0xc3, 0xa9, 0x0d, 0x79]),
    (["broken"], .file [0x78, 0x0d, 0x0a, 0xff])]
  workingDirectory := []

theorem scan_agrees_with_readLines_twoLogs :
    twoLogs.read "whole" = .ok (Text.Utf8.encode "x\r\né\ry".toList) ∧
    twoLogs.read "broken" = .ok [0x78, 0x0d, 0x0a, 0xff] ∧
    (∀ chars, [0x78, 0x0d, 0x0a, 0xff] ≠ Text.Utf8.encode chars) ∧
    scan twoLogs "whole" Matcher.builtin =
      (reports Matcher.builtin ["x", "é", "y"]).mapFault .line ∧
    (scan twoLogs "broken" Matcher.builtin).fault.isSome = true := by
  have whole : twoLogs.read "whole" = .ok (Text.Utf8.encode "x\r\né\ry".toList) := by rfl
  have broken : twoLogs.read "broken" = .ok [0x78, 0x0d, 0x0a, 0xff] := by rfl
  have undecodable (chars : List Char) : [0x78, 0x0d, 0x0a, 0xff] ≠ Text.Utf8.encode chars := by
    intro equal
    have decoded := Text.Utf8.decode_eq_ok_iff.2 equal
    cases decoded
  refine ⟨whole, broken, undecodable,
    ((scan_agrees_with_readLines whole Matcher.builtin).1 _ rfl).2, ?_⟩
  obtain ⟨_, _, ⟨_, decoding⟩ | ⟨_, _, _, _, _, _, _, _, _, _, _, ended⟩⟩ :=
    (scan_agrees_with_readLines broken Matcher.builtin).2 undecodable
  · exact Option.isSome_iff_exists.2 ⟨_, decoding⟩
  · exact Option.isSome_iff_exists.2 ⟨_, ended⟩

end JavadocRepair.Log
