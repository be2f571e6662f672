import JavadocRepair.Files.TextFile
import JavadocRepair.Proofs.Text.Lines
import JavadocRepair.Proofs.Text.Utf8

/-!
# Line ends as bytes

What is written for the lines of a text is the text with a line feed for each of its line ends, and
with one more behind its last line if that has no end. Since no byte of another character is a line
feed or a carriage return, this can be said of the bytes of the text without decoding them.
-/

namespace JavadocRepair.Text

/-- Bytes with a line feed in the place of every carriage return and the line feed behind it, and
    in the place of every other carriage return. -/
def lineFeeds : List UInt8 → List UInt8
  | [] => []
  | [byte] => [if byte = 0x0d then 0x0a else byte]
  | byte :: next :: rest =>
    if byte = 0x0d ∧ next = 0x0a then 0x0a :: lineFeeds rest
    else (if byte = 0x0d then 0x0a else byte) :: lineFeeds (next :: rest)

/-- The line feed that bytes lack if their last line has no end. -/
def lastFeed (bytes : List UInt8) : List UInt8 :=
  match bytes.getLast? with
  | none => []
  | some byte => if byte = 0x0a ∨ byte = 0x0d then [] else [0x0a]

/-- Bytes of which all lines end in a line feed. -/
def normalBytes (bytes : List UInt8) : List UInt8 :=
  lineFeeds bytes ++ lastFeed bytes

/-! ## Bytes of single characters -/

/-- A byte of the ASCII range stands in the encoding of no other character than its own. -/
theorem eq_of_mem_encodeChar {c : Char} {byte : UInt8}
    (member : byte ∈ String.utf8EncodeChar c) (ascii : byte < 0x80) :
    c = Char.ofNat byte.toNat := by
  have back : Char.ofNat c.toNat = c := Char.ofNat_toNat c
  rw [UInt8.lt_iff_toNat_lt] at ascii
  by_cases small : c.toNat < 0x80
  · have spelled := Utf8.encodeChar_one small
    rw [back] at spelled
    rw [spelled, List.mem_singleton] at member
    have same : byte.toNat = c.toNat := by
      rw [member]
      simp
      omega
    rw [same, back]
  · rcases Utf8.encodeChar_opens c.valid (Nat.le_of_not_lt small) with
      ⟨lead, u, spelled, wide, _⟩
    have high (count n : Nat) : ∀ later ∈ Utf8.continuation count n, 0x80 ≤ later.toNat := by
      induction count with
      | zero => simp [Utf8.continuation]
      | succ count ih =>
        rw [Utf8.continuation, List.forall_mem_cons]
        refine ⟨?_, ih⟩
        simp
        omega
    change String.utf8EncodeChar (Char.ofNat c.toNat) = _ at spelled
    rw [back] at spelled
    rw [spelled] at member
    have least : 0x80 ≤ byte.toNat := by
      rcases List.mem_cons.1 member with rfl | later
      · exact wide
      · exact high _ _ byte later
    exact absurd ascii (Nat.not_lt.2 least)

/-- A character of the ASCII range is encoded as its own byte. -/
theorem encodeChar_ofNat {byte : UInt8} (ascii : byte < 0x80) :
    String.utf8EncodeChar (Char.ofNat byte.toNat) = [byte] := by
  rw [Utf8.encodeChar_one (UInt8.lt_iff_toNat_lt.1 ascii), UInt8.ofNat_toNat]

/-- The first byte of a text is in the ASCII range if and only if its first character is. -/
theorem head?_encode_eq_some_iff {chars : List Char} {byte : UInt8} (ascii : byte < 0x80) :
    (Utf8.encode chars).head? = some byte ↔ chars.head? = some (Char.ofNat byte.toNat) := by
  cases chars with
  | nil => simp [Utf8.encode]
  | cons c chars =>
    rw [Utf8.encode, List.flatMap_cons, List.head?_append_of_ne_nil _ String.utf8EncodeChar_ne_nil,
      List.head?_cons, Option.some.injEq]
    constructor
    · intro first
      exact eq_of_mem_encodeChar (List.mem_of_mem_head? first) ascii
    · rintro rfl
      rw [encodeChar_ofNat ascii, List.head?_cons]

/-- The last byte of a text is in the ASCII range if and only if its last character is. -/
theorem getLast?_encode_eq_some_iff {chars : List Char} {byte : UInt8} (ascii : byte < 0x80) :
    (Utf8.encode chars).getLast? = some byte ↔
      chars.getLast? = some (Char.ofNat byte.toNat) := by
  rcases List.eq_nil_or_concat chars with rfl | ⟨chars, c, rfl⟩
  · simp [Utf8.encode]
  · rw [List.concat_eq_append, Utf8.encode, List.flatMap_append, List.flatMap_singleton,
      List.getLast?_append_of_ne_nil _ String.utf8EncodeChar_ne_nil, List.getLast?_concat,
      Option.some.injEq]
    constructor
    · intro last
      exact eq_of_mem_encodeChar (List.mem_of_getLast? last) ascii
    · rintro rfl
      rw [encodeChar_ofNat ascii, List.getLast?_singleton]

/-! ## Line feeds for line ends -/

section

variable {front rest : List UInt8}

@[simp]
theorem lineFeeds_pair (rest : List UInt8) :
    lineFeeds (0x0d :: 0x0a :: rest) = 0x0a :: lineFeeds rest := by
  simp [lineFeeds]

theorem lineFeeds_return (alone : rest.head? ≠ some 0x0a) :
    lineFeeds (0x0d :: rest) = 0x0a :: lineFeeds rest := by
  cases rest with
  | nil => rfl
  | cons next rest =>
    have other : next ≠ 0x0a := by simpa using alone
    simp [lineFeeds, other]

/-- Bytes without a carriage return stay as they are. -/
theorem lineFeeds_append (noReturn : 0x0d ∉ front) (rest : List UInt8) :
    lineFeeds (front ++ rest) = front ++ lineFeeds rest := by
  induction front with
  | nil => rfl
  | cons byte front ih =>
    rcases not_or.1 (mt List.mem_cons.2 noReturn) with ⟨other, later⟩
    have kept (rest : List UInt8) : lineFeeds (byte :: rest) = byte :: lineFeeds rest := by
      cases rest <;> simp [lineFeeds, Ne.symm other]
    rw [List.cons_append, kept, ih later, List.cons_append]

theorem lineFeeds_feed (rest : List UInt8) :
    lineFeeds (0x0a :: rest) = 0x0a :: lineFeeds rest :=
  lineFeeds_append (show 0x0d ∉ [0x0a] by decide) rest

/-- Bytes in which all lines end in a line feed already. -/
theorem normalBytes_of_feeds {bytes : List UInt8} (noReturn : 0x0d ∉ bytes)
    (ends : bytes.getLast? = some 0x0a) : normalBytes bytes = bytes := by
  have kept : lineFeeds bytes = bytes := by simpa [lineFeeds] using lineFeeds_append noReturn []
  simp [normalBytes, kept, lastFeed, ends]

/-- Whether a line feed is lacking depends on what stands behind the last line end. -/
theorem lastFeed_append_end {byte : UInt8} (ends : byte = 0x0a ∨ byte = 0x0d)
    (front rest : List UInt8) : lastFeed (front ++ byte :: rest) = lastFeed rest := by
  cases rest using List.reverseRecOn with
  | nil => simp [lastFeed, ends]
  | append_singleton rest last =>
    have same : (front ++ byte :: (rest ++ [last])).getLast? = some last := by
      rw [← List.cons_append, ← List.append_assoc, List.getLast?_concat]
    simp [lastFeed, same]

end

/-! ## Written lines -/

@[simp]
theorem encode_nil : Utf8.encode [] = [] := rfl

theorem encode_cons (c : Char) (chars : List Char) :
    Utf8.encode (c :: chars) = String.utf8EncodeChar c ++ Utf8.encode chars := by
  rw [Utf8.encode, List.flatMap_cons, ← Utf8.encode]

theorem encode_append (xs ys : List Char) :
    Utf8.encode (xs ++ ys) = Utf8.encode xs ++ Utf8.encode ys :=
  List.flatMap_append

theorem encode_newline (chars : List Char) :
    Utf8.encode ('\n' :: chars) = 0x0a :: Utf8.encode chars :=
  encode_cons '\n' chars

theorem encode_return (chars : List Char) :
    Utf8.encode ('\r' :: chars) = 0x0d :: Utf8.encode chars :=
  encode_cons '\r' chars

@[simp]
theorem bytesOfLines_nil : bytesOfLines [] = [] := rfl

theorem bytesOfLines_cons (chars : List Char) (texts : List String) :
    bytesOfLines (String.ofList chars :: texts) =
      Utf8.encode chars ++ 0x0a :: bytesOfLines texts := by
  rw [bytesOfLines, unlines, List.flatMap_cons, ← unlines, String.toList_ofList, List.append_assoc,
    encode_append, List.singleton_append, encode_newline, ← bytesOfLines]

theorem bytesOfLines_append (xs ys : List String) :
    bytesOfLines (xs ++ ys) = bytesOfLines xs ++ bytesOfLines ys := by
  rw [bytesOfLines, unlines, List.flatMap_append, encode_append]
  rfl

/-- The bytes of a character that ends no line are kept. -/
theorem lineFeeds_encode_char {c : Char} (notReturn : c ≠ '\r') (chars : List Char) :
    lineFeeds (Utf8.encode (c :: chars)) =
      String.utf8EncodeChar c ++ lineFeeds (Utf8.encode chars) := by
  have noReturn : 0x0d ∉ String.utf8EncodeChar c := by
    intro member
    exact notReturn (eq_of_mem_encodeChar member (by decide))
  rw [encode_cons, lineFeeds_append noReturn]

/-- A line that has no end lacks its line feed. -/
theorem lastFeed_encode {line : List Char} (isLine : IsLine line) :
    lastFeed (Utf8.encode line) = if line = [] then [] else [0x0a] := by
  have noEnd {byte : UInt8} (found : (Utf8.encode line).getLast? = some byte) :
      byte ≠ 0x0a ∧ byte ≠ 0x0d := by
    constructor
    · rintro rfl
      exact isLine.1 (List.mem_of_getLast? ((getLast?_encode_eq_some_iff (by decide)).1 found))
    · rintro rfl
      exact isLine.2 (List.mem_of_getLast? ((getLast?_encode_eq_some_iff (by decide)).1 found))
  cases found : (Utf8.encode line).getLast? with
  | none =>
    have empty : line = [] := by
      cases line with
      | nil => rfl
      | cons c line => simp [encode_cons] at found
    simp [lastFeed, empty]
  | some byte =>
    have some : line ≠ [] := by
      rintro rfl
      cases found
    simp [lastFeed, found, some, noEnd found]

/-- The lines behind the beginning `line` of a line are written as the bytes of that beginning and
    the other bytes with a line feed for every line end. -/
theorem bytesOfLines_linesFrom {line chars : List Char} (isLine : IsLine line) :
    bytesOfLines (linesFrom [] line.reverse chars) =
      Utf8.encode line ++ lineFeeds (Utf8.encode chars) ++
        lastFeed (Utf8.encode (line ++ chars)) := by
  induction chars using lineInduction generalizing line with
  | nil =>
    rw [List.append_nil, lastFeed_encode isLine, linesFrom]
    by_cases empty : line = []
    · simp [empty, lineFeeds]
    · simp [empty, bytesOfLines_cons, lineFeeds]
  | newline rest ih =>
    have later : bytesOfLines (lines rest) = normalBytes (Utf8.encode rest) := ih isLine_nil
    rw [linesFrom_newline, linesFrom_cut, List.reverse_reverse, bytesOfLines_cons, later,
      encode_append, encode_newline, lineFeeds_feed, lastFeed_append_end (.inl rfl)]
    simp [normalBytes]
  | returnNewline rest ih =>
    have later : bytesOfLines (lines rest) = normalBytes (Utf8.encode rest) := ih isLine_nil
    have behind : lastFeed (0x0a :: Utf8.encode rest) = lastFeed (Utf8.encode rest) :=
      lastFeed_append_end (.inl rfl) [] _
    rw [linesFrom_return_newline, linesFrom_cut, List.reverse_reverse, bytesOfLines_cons, later,
      encode_append, encode_return, encode_newline, lineFeeds_pair,
      lastFeed_append_end (.inr rfl), behind]
    simp [normalBytes]
  | carriageReturn rest alone ih =>
    have later : bytesOfLines (lines rest) = normalBytes (Utf8.encode rest) := ih isLine_nil
    have aloneByte : (Utf8.encode rest).head? ≠ some 0x0a :=
      mt (head?_encode_eq_some_iff (by decide)).1 alone
    rw [linesFrom_return alone, linesFrom_cut, List.reverse_reverse, bytesOfLines_cons, later,
      encode_append, encode_return, lineFeeds_return aloneByte, lastFeed_append_end (.inr rfl)]
    simp [normalBytes]
  | char c rest notNewline notReturn ih =>
    have longer : IsLine (line ++ [c]) := by
      simp only [IsLine, List.mem_append, List.mem_singleton, not_or]
      exact ⟨⟨isLine.1, notNewline.symm⟩, ⟨isLine.2, notReturn.symm⟩⟩
    have later := ih longer
    rw [List.reverse_concat] at later
    rw [linesFrom_char notNewline notReturn, later, lineFeeds_encode_char notReturn, encode_append,
      encode_cons, List.append_assoc line]
    simp

/-- The lines of a text are written as the bytes of the text with all line ends made line feeds. -/
theorem bytesOfLines_lines (chars : List Char) :
    bytesOfLines (lines chars) = normalBytes (Utf8.encode chars) :=
  bytesOfLines_linesFrom isLine_nil

end JavadocRepair.Text
