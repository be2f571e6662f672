import JavadocRepair.Document.Basic

/-!
# The host

Three things are not for the tool to decide but for what it runs on: which characters have a name,
for which patterns the stack is large enough, and for which values it is when they are shown in a
message. They are given from outside.
-/

namespace JavadocRepair

/-- What the tool finds where it runs. -/
structure Host where
  characterNamed? : String → Option Nat
  canRead : String → Bool
  canShow : Document → Bool

namespace Host

/-- The names of the digits. -/
def digitNames : List String :=
  ["ZERO", "ONE", "TWO", "THREE", "FOUR", "FIVE", "SIX", "SEVEN", "EIGHT", "NINE"]

/-- The names of the ASCII characters that are neither letters nor digits nor controls, with their
    code points. -/
def signNames : List (String × Nat) :=
  [("SPACE", 0x20), ("EXCLAMATION MARK", 0x21), ("QUOTATION MARK", 0x22), ("NUMBER SIGN", 0x23),
    ("DOLLAR SIGN", 0x24), ("PERCENT SIGN", 0x25), ("AMPERSAND", 0x26), ("APOSTROPHE", 0x27),
    ("LEFT PARENTHESIS", 0x28), ("RIGHT PARENTHESIS", 0x29), ("ASTERISK", 0x2a),
    ("PLUS SIGN", 0x2b), ("COMMA", 0x2c), ("HYPHEN-MINUS", 0x2d), ("FULL STOP", 0x2e),
    ("SOLIDUS", 0x2f), ("COLON", 0x3a), ("SEMICOLON", 0x3b), ("LESS-THAN SIGN", 0x3c),
    ("EQUALS SIGN", 0x3d), ("GREATER-THAN SIGN", 0x3e), ("QUESTION MARK", 0x3f),
    ("COMMERCIAL AT", 0x40), ("LEFT SQUARE BRACKET", 0x5b), ("REVERSE SOLIDUS", 0x5c),
    ("RIGHT SQUARE BRACKET", 0x5d), ("CIRCUMFLEX ACCENT", 0x5e), ("LOW LINE", 0x5f),
    ("GRAVE ACCENT", 0x60), ("LEFT CURLY BRACKET", 0x7b), ("VERTICAL LINE", 0x7c),
    ("RIGHT CURLY BRACKET", 0x7d), ("TILDE", 0x7e)]

/-- The names of the printable ASCII characters. -/
def asciiNames : List (String × Nat) :=
  signNames
    ++ digitNames.zipIdx.map (fun (name, value) => ("DIGIT " ++ name, 0x30 + value))
    ++ (List.range 26).flatMap fun index =>
      let letter := String.singleton (.ofNat (0x41 + index))
      [("LATIN CAPITAL LETTER " ++ letter, 0x41 + index),
        ("LATIN SMALL LETTER " ++ letter, 0x61 + index)]

/-- A host that knows the names of the printable ASCII characters, in any case, and whose stack
    is large enough for everything. -/
def ascii : Host where
  characterNamed? name := asciiNames.lookup (name.map Char.toUpper)
  canRead _ := true
  canShow _ := true

end Host

end JavadocRepair
