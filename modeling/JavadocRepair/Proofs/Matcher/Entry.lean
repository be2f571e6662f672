import Mathlib
import JavadocRepair.Matcher.Entry

/-!
# Entries that give no matcher

The fault of a list of entries is that of the first entry that gives no matcher. An entry is left
unread if its fields are in order, each by itself, but its pattern is not read to its end for a fault
that is no defect of it.
-/

namespace JavadocRepair.Matcher

variable {host : Host} {fields : List (String × Document)} {entry : Document}
  {fault : EntryFault} {source : String} {reason : Pattern.Fault}

/-- With checked fields all that can go wrong is an invalid pattern or group, or a pattern that is
    left unread. -/
theorem exists_of_define_eq_error {name : String} {pathGroup lineGroup : GroupRef}
    (refused : define host name source pathGroup lineGroup = .error fault) :
    (∃ faults, fault = .invalid faults) ∨
      ∃ reason, fault = .unread reason ∧ Pattern.read host source = .error reason ∧
        reason.isDefect = false := by
  unfold define at refused
  cases read : Pattern.read host source with
  | error found =>
    rw [read] at refused
    dsimp only at refused
    split_ifs at refused with defect
    · cases refused
      exact .inl ⟨_, rfl⟩
    · cases refused
      exact .inr ⟨found, rfl, rfl, Bool.eq_false_iff.2 defect⟩
  | ok pattern =>
    rw [read] at refused
    dsimp only at refused
    split_ifs at refused
    all_goals
      cases refused
      exact .inl ⟨_, rfl⟩

/-- An object with fields that are in order, but with a pattern that is left unread. -/
structure LeftUnread (host : Host) (entry : Document) (source : String)
    (reason : Pattern.Fault) : Prop where
  fields : ∃ fields name pathGroup lineGroup, entry = .object fields ∧
    requiredField nameOf "name" fields = .ok name ∧
    requiredField Document.toText "pattern" fields = .ok source ∧
    groupField 1 "path_group" fields = .ok pathGroup ∧
    groupField 2 "line_group" fields = .ok lineGroup
  pattern : Pattern.read host source = .error reason
  noDefect : reason.isDefect = false

theorem ofEntry_of_leftUnread (unread : LeftUnread host entry source reason) :
    ofEntry host entry = .error (.unread reason) := by
  rcases unread with ⟨⟨fields, name, pathGroup, lineGroup, rfl, nameRead, sourceRead, pathRead,
    lineRead⟩, refused, noDefect⟩
  simp [ofEntry, ofFields, nameRead, sourceRead, pathRead, lineRead, define, refused, noDefect]

/-- An object gives a matcher, or is invalid, or is left unread. -/
theorem exists_of_ofEntry_eq_error (refused : ofEntry host (.object fields) = .error fault) :
    (∃ faults, fault = .invalid faults) ∨
      ∃ reason source, fault = .unread reason ∧
        LeftUnread host (.object fields) source reason := by
  rw [ofEntry, ofFields] at refused
  split at refused
  · next name source pathGroup lineGroup nameRead sourceRead pathRead lineRead =>
    rcases exists_of_define_eq_error refused with invalid | ⟨reason, rfl, unread, noDefect⟩
    · exact .inl invalid
    · refine .inr ⟨reason, source, rfl, ?_, unread, noDefect⟩
      exact ⟨fields, name, pathGroup, lineGroup, rfl, nameRead, sourceRead, pathRead, lineRead⟩
  · cases refused
    exact .inl ⟨_, rfl⟩

theorem ofEntriesFrom_cons_eq_error_iff {index : Nat} {rest : List Document}
    {fault : EntriesFault} :
    ofEntriesFrom host index (entry :: rest) = .error fault ↔
      (ofEntry host entry = .error fault.fault ∧ fault.index = index) ∨
        (∃ matcher, ofEntry host entry = .ok matcher) ∧
          ofEntriesFrom host (index + 1) rest = .error fault := by
  rcases fault with ⟨place, fault⟩
  rw [ofEntriesFrom]
  cases ofEntry host entry with
  | error found => simp [and_comm, eq_comm]
  | ok matcher => cases ofEntriesFrom host (index + 1) rest <;> simp

/-- The first entry without a matcher decides what is wrong with all of them. -/
theorem ofEntriesFrom_eq_error_iff {index : Nat} {entries : List Document} {fault : EntriesFault} :
    ofEntriesFrom host index entries = .error fault ↔
      ∃ before entry after, entries = before ++ entry :: after ∧
        (∀ earlier ∈ before, ∃ matcher, ofEntry host earlier = .ok matcher) ∧
        ofEntry host entry = .error fault.fault ∧ fault.index = index + before.length := by
  induction entries generalizing index with
  | nil => simp [ofEntriesFrom]
  | cons entry rest ih =>
    rw [ofEntriesFrom_cons_eq_error_iff, ih]
    constructor
    · intro either
      rcases either with ⟨refused, place⟩ |
        ⟨built, before, bad, after, rfl, good, refused, place⟩
      · exact ⟨[], entry, rest, rfl, by simp, refused, place⟩
      · refine ⟨entry :: before, bad, after, rfl, List.forall_mem_cons.2 ⟨built, good⟩, refused, ?_⟩
        rw [place, List.length_cons, Nat.add_right_comm, Nat.add_assoc]
    · intro parts
      rcases parts with ⟨before, bad, after, split, good, refused, place⟩
      cases before with
      | nil =>
        rw [List.nil_append, List.cons.injEq] at split
        rcases split with ⟨rfl, rfl⟩
        exact .inl ⟨refused, place⟩
      | cons first before =>
        rw [List.cons_append, List.cons.injEq] at split
        rcases split with ⟨rfl, rfl⟩
        rcases List.forall_mem_cons.1 good with ⟨built, good⟩
        refine .inr ⟨built, before, bad, after, rfl, good, refused, ?_⟩
        rw [place, List.length_cons, Nat.add_right_comm, Nat.add_assoc]

/-- The entry that is named as the one without a matcher is the first of these. -/
theorem isLeast_of_ofEntries_eq_error {entries : List Document} {fault : EntriesFault}
    (refused : ofEntries host entries = .error fault) :
    (∃ entry, entries[fault.index]? = some entry ∧ ofEntry host entry = .error fault.fault) ∧
      IsLeast {index | ∃ entry fault, entries[index]? = some entry ∧
        ofEntry host entry = .error fault} fault.index := by
  obtain ⟨before, entry, after, rfl, good, refused, place⟩ := ofEntriesFrom_eq_error_iff.1 refused
  have there : (before ++ entry :: after)[fault.index]? = some entry := by
    simp [place]
  refine ⟨⟨entry, there, refused⟩, ⟨entry, fault.fault, there, refused⟩, ?_⟩
  rintro index ⟨other, found, there, bad⟩
  by_contra earlier
  have inside : index < before.length := by omega
  rw [List.getElem?_append_left inside] at there
  obtain ⟨matcher, made⟩ := good other (List.mem_of_getElem? there)
  cases bad.symm.trans made

end JavadocRepair.Matcher
