import JavadocRepair.Configuration.Basic
import JavadocRepair.Repair

/-!
# Classes of failures

The failures that the tool reports as its own have classes. What can stop it besides has none: a
path with a null character, a numeral with too many digits or a number that would have too many, an
entry of a configuration that is no object or has a pattern with a number that is too large, and a
stack that is too small, be it for a pattern or for the wording of a failure.
-/

namespace JavadocRepair

/-- The classes of failures. -/
inductive FailureClass where
  | general
  | unreadableLog
  | unparsableViolation
  | badConfiguration
  | failedPatch
  | noAsterisk
  | noPrecedingLine
  deriving Repr, DecidableEq

namespace FailureClass

/-- A failure that the tool reports as its own. -/
def isOwn : FailureClass → Bool
  | noAsterisk => false
  | noPrecedingLine => false
  | _ => true

/-- A failure that comes from an invalid value. -/
def isInvalidValue : FailureClass → Bool
  | general => false
  | unreadableLog => false
  | failedPatch => false
  | _ => true

end FailureClass

/-- The class of a fault in a line. -/
def Log.LineFault.failureClass? (fault : Log.LineFault) : Option FailureClass :=
  match fault.problem with
  | .noPath _ => some .unparsableViolation
  | .badLineNumber _ => some .unparsableViolation
  | .noSuchGroup _ => none
  | .tooManyDigits _ => none

/-- The class of a fault in scanning a log. -/
def Log.ScanFault.failureClass? : Log.ScanFault → Option FailureClass
  | .unreadable _ _ => some .unreadableLog
  | .embeddedNull => none
  | .line fault => fault.failureClass?

/-- The class of a fault of a run. -/
def RunFault.failureClass? : RunFault → Option FailureClass
  | .scan fault => fault.failureClass?
  | .patch _ => some .failedPatch

/-- The class of a fault of a comment. -/
def Comment.Fault.failureClass? : Comment.Fault → Option FailureClass
  | .noAsterisk _ => some .noAsterisk
  | .noPrecedingLine _ _ => some .noPrecedingLine
  | .numberTooLarge => none

/-- The class of a fault of a configuration file. -/
def Configuration.Fault.failureClass? (host : Host) :
    Configuration.Fault → Option FailureClass
  | .embeddedNull => none
  | .entries ⟨_, .unread _⟩ => none
  | .entries ⟨_, .notObject _⟩ => none
  | .mismatch _ violations =>
    if violations.all (·.breach.isShown host) then some .badConfiguration else none
  | _ => some .badConfiguration

end JavadocRepair
