import Mathlib
import JavadocRepair.Matcher.Entry
import JavadocRepair.Proofs.Pattern.Readers

/-!
# Entries that give a matcher

An entry gives a matcher if each of its fields is in order, the pattern can be read and the groups
are groups of the pattern. The checks of the fields stop at numbers of 64 bits, which does not
matter: no pattern that is short enough to be kept has that many groups.
-/

namespace JavadocRepair

variable {host : Host} {fields : List (String × Document)} {value : Document}
  {pattern : Pattern} {group : GroupRef} {source : String}

/-- A value is an integer: a number that is written without a fraction, or whose fraction is zero. -/
inductive Document.IsInteger : Document → Int → Prop where
  | integer (n : Int) : IsInteger (.integer n) n
  | real {x : Number.Binary64} {n : Int} (whole : x.toInt? = some n) : IsInteger (.real x) n

/-- A value refers to a group of a pattern: by its number, where the first is 1, or by its name. -/
inductive Pattern.RefersTo (pattern : Pattern) : Document → GroupRef → Prop where
  | number {value : Document} {n : Int} (whole : value.IsInteger n) (least : 1 ≤ n)
      (most : n ≤ pattern.groups) : RefersTo pattern value (.number n)
  | name {s : String} (known : s ∈ pattern.names.map (·.1)) : RefersTo pattern (.text s) (.name s)

/-! ## Single fields -/

theorem requiredField_eq_ok_iff {α : Type} {check : Document → Except FieldProblem α}
    {name : String} {a : α} :
    requiredField check name fields = .ok a ↔
      ∃ value, Document.field? fields name = some value ∧ check value = .ok a := by
  unfold requiredField
  cases Document.field? fields name with
  | none => simp
  | some value => cases checked : check value <;> simp [checked]

theorem Document.toText_eq_ok_iff {s : String} : value.toText = .ok s ↔ value = .text s := by
  cases value <;> simp [toText]

theorem Matcher.nameOf_eq_ok_iff {name : String} :
    nameOf value = .ok name ↔
      value = .text name ∧ ∃ c ∈ name.toList, Text.isBlank c = false := by
  unfold nameOf
  cases read : value.toText with
  | error problem =>
    have other : value ≠ .text name := by
      intro same
      rw [Document.toText_eq_ok_iff.2 same] at read
      cases read
    simp [other]
  | ok s =>
    obtain rfl := Document.toText_eq_ok_iff.1 read
    by_cases blank : s.toList.all Text.isBlank = true
    · simp only [blank, if_true]
      grind
    · simp only [blank]
      grind

/-- Numbers that are written with a fraction or an exponent are kept to 64 bits. -/
theorem Document.toInteger_eq_ok_iff {n : Int} (notText : ∀ s, value ≠ .text s)
    (notBool : ∀ b, value ≠ .bool b) (above : 0 < n) (below : n < 2 ^ 63) :
    value.toInteger = .ok n ↔ value.IsInteger n := by
  constructor
  · intro read
    cases value with
    | integer m =>
      cases read
      exact .integer n
    | real x =>
      simp only [toInteger, integerOfReal] at read
      split at read
      · cases read
      · next m whole =>
        split at read
        · cases read
          exact .real whole
        · cases read
    | text s => exact absurd rfl (notText s)
    | bool b => exact absurd rfl (notBool b)
    | null | list | object => cases read
  · intro isInteger
    cases isInteger with
    | integer => rfl
    | real whole =>
      simp only [toInteger, integerOfReal, whole]
      rw [if_pos (by omega)]

/-- A group is a name if its field is a text, and else a number. -/
theorem groupField_eq_ok_iff {otherwise : Int} {name : String}
    (named : (Document.field? fields name).getD (.integer otherwise) = value) :
    groupField otherwise name fields = .ok group ↔
      (∃ s, value = .text s ∧ group = .name s) ∨
        ∃ n, (∀ s, value ≠ .text s) ∧ value.toInteger = .ok n ∧ group = .number n := by
  unfold groupField
  split
  · next missing =>
    rw [missing, Option.getD_none] at named
    subst named
    simp [Document.toInteger, eq_comm]
  · next s there =>
    rw [there, Option.getD_some] at named
    subst named
    simp [eq_comm]
  · next found notText there =>
    rw [there, Option.getD_some] at named
    subst named
    have other : ∀ s, found ≠ .text s := notText
    cases found.toInteger <;> simp [other, @eq_comm _ group]

/-! ## Groups of a pattern -/

theorem Pattern.isSome_groupIndex?_number {n : Int} :
    (pattern.groupIndex? (.number n)).isSome = true ↔ 1 ≤ n ∧ n ≤ pattern.groups := by
  simp only [groupIndex?, Option.isSome_ite]
  omega

/-- All names of a pattern are names of its groups. -/
theorem Pattern.isSome_groupIndex?_name (accepted : Pattern.read host source = .ok pattern)
    {s : String} :
    (pattern.groupIndex? (.name s)).isSome = true ↔ s ∈ pattern.names.map (·.1) := by
  rw [groupIndex?, Option.isSome_filter]
  cases there : pattern.names.lookup s with
  | none =>
    have absent := List.lookup_eq_none_iff.1 there
    simp only [bne_iff_ne] at absent
    simp only [Option.any_none, Bool.false_eq_true, false_iff, List.mem_map, not_exists, not_and]
    exact fun entry member same => absent entry member same.symm
  | some index =>
    rcases List.lookup_eq_some_iff.1 there with ⟨before, after, split, _⟩
    have member : (s, index) ∈ pattern.names := by simp [split]
    have within := (groups_of_read accepted).2 (s, index) member
    simp only [Option.any_some, Bool.and_eq_true, decide_eq_true_eq, within, true_and, true_iff]
    exact List.mem_map_of_mem member

/-- A field gives a group of a pattern if and only if its value refers to that group. -/
theorem groupField_isSome_iff {otherwise : Int} {name : String}
    (accepted : Pattern.read host source = .ok pattern) (short : source.length < 2 ^ 63)
    (named : (Document.field? fields name).getD (.integer otherwise) = value)
    (notBool : ∀ b, value ≠ .bool b) :
    groupField otherwise name fields = .ok group ∧ (pattern.groupIndex? group).isSome = true ↔
      pattern.RefersTo value group := by
  have few : (pattern.groups : Int) < 2 ^ 63 := by
    have := (Pattern.groups_of_read accepted).1
    omega
  rw [groupField_eq_ok_iff named]
  constructor
  · intro parts
    rcases parts with ⟨⟨s, rfl, rfl⟩ | ⟨n, notText, read, rfl⟩, found⟩
    · exact .name ((Pattern.isSome_groupIndex?_name accepted).1 found)
    · rcases Pattern.isSome_groupIndex?_number.1 found with ⟨least, most⟩
      exact .number ((Document.toInteger_eq_ok_iff notText notBool (by omega) (by omega)).1 read)
        least most
  · intro refers
    cases refers with
    | @number _ n whole least most =>
      have notText : ∀ s, value ≠ .text s := by
        rintro s rfl
        cases whole
      refine ⟨.inr ⟨n, notText, ?_, rfl⟩, Pattern.isSome_groupIndex?_number.2 ⟨least, most⟩⟩
      exact (Document.toInteger_eq_ok_iff notText notBool (by omega) (by omega)).2 whole
    | @name s known =>
      exact ⟨.inl ⟨s, rfl, rfl⟩, (Pattern.isSome_groupIndex?_name accepted).2 known⟩

/-! ## Entries -/

namespace Matcher

variable {matcher : Matcher} {matchers : List Matcher}

theorem define_eq_ok_iff {name : String} {pathGroup lineGroup : GroupRef} :
    define host name source pathGroup lineGroup = .ok matcher ↔
      Pattern.read host source = .ok matcher.pattern ∧ matcher.name = name ∧
        matcher.pathGroup = pathGroup ∧ matcher.lineGroup = lineGroup := by
  constructor
  · intro made
    unfold define at made
    dsimp only at made
    split at made
    · split at made <;> cases made
    · next pattern read =>
      split_ifs at made
      cases made
      exact ⟨read, rfl, rfl, rfl⟩
  · intro parts
    rcases matcher with ⟨name, pattern, pathGroup, lineGroup, hasPath, hasLine⟩
    rcases parts with ⟨read, rfl, rfl, rfl⟩
    simp only [define, read, hasPath, hasLine, dite_true]

theorem ofFields_eq_ok_iff :
    ofFields host fields = .ok matcher ↔
      requiredField nameOf "name" fields = .ok matcher.name ∧
      (∃ source, requiredField Document.toText "pattern" fields = .ok source ∧
        Pattern.read host source = .ok matcher.pattern) ∧
      groupField 1 "path_group" fields = .ok matcher.pathGroup ∧
      groupField 2 "line_group" fields = .ok matcher.lineGroup := by
  unfold ofFields
  dsimp only
  split
  · next name source pathGroup lineGroup nameRead sourceRead pathRead lineRead =>
    rw [define_eq_ok_iff, nameRead, sourceRead, pathRead, lineRead]
    grind
  · next bad =>
    constructor
    · intro refused
      cases refused
    · intro parts
      rcases parts with ⟨nameRead, ⟨source, sourceRead, _⟩, pathRead, lineRead⟩
      exact (bad _ _ _ _ nameRead sourceRead pathRead lineRead).elim

/-- A list of entries gives matchers if and only if each entry gives one. -/
theorem ofEntriesFrom_eq_ok_iff {index : Nat} {entries : List Document} :
    ofEntriesFrom host index entries = .ok matchers ↔
      List.Forall₂ (fun entry matcher => ofEntry host entry = .ok matcher) entries matchers := by
  induction entries generalizing index matchers with
  | nil => cases matchers <;> simp [ofEntriesFrom]
  | cons entry rest ih =>
    rw [ofEntriesFrom]
    cases made : ofEntry host entry with
    | error fault => cases matchers <;> simp [made]
    | ok first =>
      cases matchers with
      | nil => cases ofEntriesFrom host (index + 1) rest <;> simp
      | cons matcher matchers =>
        rw [List.forall₂_cons, made, ← ih]
        cases ofEntriesFrom host (index + 1) rest <;> simp

end Matcher

end JavadocRepair
