/-!
# Lines

A line ends at a line feed, at a carriage return, or at a carriage return followed by a line feed;
no other character ends one. What stands after the last end is a line of its own if it is not
empty, so a final terminator opens no further line. Written lines all end in a line feed.

`lines` cuts a whole text. A `LineBuffer` takes a text character by character and hands over each
line as soon as it is known to be complete.
-/

namespace JavadocRepair.Text

/-- The lines of a text behind those already read, last one first, and behind the beginning of a
    line, whose characters come last one first as well. -/
def linesFrom (done : List String) (line : List Char) : List Char → List String
  | [] => (if line.isEmpty then done else String.ofList line.reverse :: done).reverse
  | '\r' :: '\n' :: rest => linesFrom (String.ofList line.reverse :: done) [] rest
  | c :: rest =>
    if c = '\n' || c = '\r' then linesFrom (String.ofList line.reverse :: done) [] rest
    else linesFrom done (c :: line) rest

/-- The lines of a text. -/
def lines (chars : List Char) : List String :=
  linesFrom [] [] chars

/-- Lines as they are written: every one ends in a line feed. -/
def unlines (lines : List String) : List Char :=
  lines.flatMap fun line => line.toList ++ ['\n']

/-- The line being read: its characters, last one first, and whether a carriage return was read
    after them, which ends the line as soon as it is known what follows. -/
structure LineBuffer where
  reversed : List Char
  afterReturn : Bool
  deriving Repr, DecidableEq

namespace LineBuffer

/-- Nothing has been read. -/
def empty : LineBuffer := ⟨[], false⟩

/-- The line that the buffer holds. -/
def line (buffer : LineBuffer) : String := String.ofList buffer.reversed.reverse

/-- Reads one character and hands over the line that it completes. -/
def push (buffer : LineBuffer) (c : Char) : Option String × LineBuffer :=
  if buffer.afterReturn then
    if c = '\n' then (some buffer.line, empty)
    else if c = '\r' then (some buffer.line, ⟨[], true⟩)
    else (some buffer.line, ⟨[c], false⟩)
  else if c = '\n' then (some buffer.line, empty)
  else if c = '\r' then (none, ⟨buffer.reversed, true⟩)
  else (none, ⟨c :: buffer.reversed, false⟩)

/-- Reads characters; the completed lines go in front of those already read, last one first. -/
def pushAll (buffer : LineBuffer) (done : List String) : List Char → List String × LineBuffer
  | [] => (done.reverse, buffer)
  | c :: rest =>
    match buffer.push c with
    | (none, next) => pushAll next done rest
    | (some line, next) => pushAll next (line :: done) rest

/-- The line that the end of the text completes. -/
def last? (buffer : LineBuffer) : Option String :=
  if buffer.afterReturn || !buffer.reversed.isEmpty then some buffer.line else none

end LineBuffer

end JavadocRepair.Text
