import JavadocRepair.Pattern.Basic

/-!
# Widths

How many characters a pattern can match: bounds computed from the tree, where an unbounded
repetition counts as `unbounded` iterations and no bound grows beyond that. A look-behind needs
both bounds to agree.
-/

namespace JavadocRepair.Pattern

/-- The number that stands for an unbounded repetition; written counts are smaller. -/
def unbounded : Nat := 4294967295

/-- The least and the greatest number of characters. -/
structure Width where
  low : Nat
  high : Nat
  deriving Repr, DecidableEq

namespace Width

/-- Bounds are cut off at the greatest number of iterations. -/
def capped (width : Width) : Width :=
  ⟨min width.low (unbounded - 1), min width.high unbounded⟩

/-- One after the other. -/
def add (a b : Width) : Width := ⟨a.low + b.low, a.high + b.high⟩

/-- One or the other. -/
def either (a b : Width) : Width := ⟨min a.low b.low, max a.high b.high⟩

/-- Repeated. -/
def times (width : Width) (least : Nat) (most : Option Nat) : Width :=
  ⟨width.low * least, width.high * most.getD unbounded⟩

end Width

/-- The width of a node, given the widths of the groups that it refers back to. -/
def Node.width (groups : Nat → Width) : Node → Width
  | .empty => ⟨0, 0⟩
  | .char _ => ⟨1, 1⟩
  | .run _ least most _ => (Width.times ⟨1, 1⟩ least most).capped
  | .anchor _ => ⟨0, 0⟩
  | .backreference index _ => groups index
  | .group _ body => body.width groups
  | .sequence first second => ((first.width groups).add (second.width groups)).capped
  | .choice first second => ((first.width groups).either (second.width groups)).capped
  | .repetition _ least most body => ((body.width groups).times least most).capped
  | .atomic body => body.width groups
  | .lookahead _ _ => ⟨0, 0⟩
  | .lookbehind _ _ _ => ⟨0, 0⟩
  | .conditional _ present absent =>
    ((present.width groups).either (absent.width groups)).capped

end JavadocRepair.Pattern
