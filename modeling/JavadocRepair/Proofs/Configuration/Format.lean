import Mathlib
import JavadocRepair.Proofs.Configuration.Schema
import JavadocRepair.Proofs.Document.Length
import JavadocRepair.Files.TextFile
import JavadocRepair.Proofs.Matcher.Definition

/-!
# The format of configuration files

A configuration file is in order if its object has the known fields, each with a value of the right
kind, its entries describe matchers and no name occurs twice. Files that are in order give the
matchers that they describe, behind the built-in ones unless these are left out, and no other file
gives any.
-/

namespace JavadocRepair.Configuration

variable {host : Host} {tree : FileTree} {path : String} {bytes : List UInt8}
  {includeBuiltin : Option Bool} {fields : List (String × Document)} {entry value : Document}
  {entries : List Document} {matcher : Matcher} {custom matchers : List Matcher} {bound : Nat}

/-- The fields of an entry describe a matcher. A group that is left out is the first one for the path
    and the second one for the line number. -/
structure Describes (host : Host) (fields : List (String × Document))
    (matcher : Matcher) : Prop where
  known : ∀ name ∈ fields.map (·.1), name ∈ ["name", "pattern", "path_group", "line_group"]
  name : Document.field? fields "name" = some (.text matcher.name)
  visible : ∃ c ∈ matcher.name.toList, Text.isBlank c = false
  pattern : ∃ source, Document.field? fields "pattern" = some (.text source) ∧ source ≠ "" ∧
    Pattern.read host source = .ok matcher.pattern
  pathGroup : matcher.pattern.RefersTo
    ((Document.field? fields "path_group").getD (.integer 1)) matcher.pathGroup
  lineGroup : matcher.pattern.RefersTo
    ((Document.field? fields "line_group").getD (.integer 2)) matcher.lineGroup

/-- An entry is an object that describes a matcher. -/
def DescribedBy (host : Host) (entry : Document) (matcher : Matcher) : Prop :=
  ∃ fields, entry = .object fields ∧ Describes host fields matcher

/-- The fields of a configuration file list the matchers that its entries describe, in order. -/
structure Lists (host : Host) (fields : List (String × Document))
    (custom : List Matcher) : Prop where
  known : ∀ name ∈ fields.map (·.1), name ∈ ["replace_defaults", "matchers"]
  replaces : ∀ value, Document.field? fields "replace_defaults" = some value → ∃ b, value = .bool b
  entries : ∃ entries, Document.field? fields "matchers" = some (.list entries) ∧
    List.Forall₂ (DescribedBy host) entries custom

/-- The built-in matchers are kept: the caller wants them, or leaves that to the file, which does not
    replace them. -/
def KeepsBuiltin (fields : List (String × Document)) (includeBuiltin : Option Bool) : Prop :=
  includeBuiltin = some true ∨ includeBuiltin = none ∧
    (Document.field? fields "replace_defaults" = none ∨
      Document.field? fields "replace_defaults" = some (.bool false))

/-! ## Entries -/

theorem groupSchema_admits_of_refersTo {pattern : Pattern} {group : GroupRef}
    (refers : pattern.RefersTo value group) : groupSchema.Admits value := by
  refine .value ?_ nofun
  cases refers with
  | number whole =>
    refine ⟨.integer, by simp, ?_⟩
    cases whole with
    | integer => rfl
    | real whole => simp [ValueKind.admits, whole]
  | name => exact ⟨.string, by simp, rfl⟩

/-- The schema keeps Booleans out, which would else be taken for numbers. -/
theorem group_described_iff {otherwise : Int} {name source : String} {pattern : Pattern}
    {group : GroupRef} (accepted : Pattern.read host source = .ok pattern)
    (short : source.length < 2 ^ 63) :
    (∀ value, Document.field? fields name = some value → groupSchema.Admits value) ∧
        groupField otherwise name fields = .ok group ∧
        (pattern.groupIndex? group).isSome = true ↔
      pattern.RefersTo ((Document.field? fields name).getD (.integer otherwise)) group := by
  have notBool (admitted : ∀ value, Document.field? fields name = some value →
      groupSchema.Admits value) (b : Bool) :
      (Document.field? fields name).getD (.integer otherwise) ≠ .bool b := by
    cases there : Document.field? fields name with
    | none => nofun
    | some value =>
      rintro rfl
      cases admitted _ there with
      | value kind => simp [ValueKind.admits] at kind
  constructor
  · intro parts
    exact (groupField_isSome_iff accepted short rfl (notBool parts.1)).1 parts.2
  · intro refers
    have admitted (value : Document) (there : Document.field? fields name = some value) :
        groupSchema.Admits value := by
      rw [there, Option.getD_some] at refers
      exact groupSchema_admits_of_refersTo refers
    exact ⟨admitted, (groupField_isSome_iff accepted short rfl (notBool admitted)).2 refers⟩

theorem describes_iff (within : (Document.object fields).TextsWithin bound)
    (small : bound < 2 ^ 63) :
    Describes host fields matcher ↔
      entrySchema.Admits (.object fields) ∧ Matcher.ofFields host fields = .ok matcher := by
  have short (source : String) (there : Document.field? fields "pattern" = some (.text source)) :
      source.length < 2 ^ 63 := by
    cases within.field? there with
    | text short => exact short.trans_lt small
  rw [entrySchema_admits_iff, Matcher.ofFields_eq_ok_iff]
  simp only [requiredField_eq_ok_iff, Matcher.nameOf_eq_ok_iff, Document.toText_eq_ok_iff]
  constructor
  · intro described
    rcases described with ⟨known, named, visible, ⟨source, written, filled, read⟩, path, line⟩
    have pathGroup := (group_described_iff read (short source written)).2 path
    have lineGroup := (group_described_iff read (short source written)).2 line
    refine ⟨⟨known, ⟨_, named, ?_⟩, ⟨source, written, filled⟩, pathGroup.1, lineGroup.1⟩,
      ⟨_, named, rfl, visible⟩, ⟨source, ⟨_, written, rfl⟩, read⟩, pathGroup.2.1, lineGroup.2.1⟩
    intro empty
    rcases visible with ⟨c, member, _⟩
    rw [empty] at member
    cases member
  · intro parts
    rcases parts with ⟨⟨known, _, ⟨_, written', filled⟩, pathAdmitted, lineAdmitted⟩,
      ⟨_, named, rfl, visible⟩, ⟨source, ⟨_, written, rfl⟩, read⟩, pathRead, lineRead⟩
    rw [Document.text.inj (Option.some.inj (written'.symm.trans written))] at filled
    exact {
      known := known
      name := named
      visible := visible
      pattern := ⟨source, written, filled, read⟩
      pathGroup := (group_described_iff read (short source written)).1
        ⟨pathAdmitted, pathRead, matcher.hasPathGroup⟩
      lineGroup := (group_described_iff read (short source written)).1
        ⟨lineAdmitted, lineRead, matcher.hasLineGroup⟩ }

/-- An entry describes a matcher if and only if the schema admits it and it gives that matcher. -/
theorem describedBy_iff (within : entry.TextsWithin bound) (small : bound < 2 ^ 63) :
    DescribedBy host entry matcher ↔
      entrySchema.Admits entry ∧ Matcher.ofEntry host entry = .ok matcher := by
  unfold DescribedBy
  cases entry with
  | object fields =>
    rw [Matcher.ofEntry, ← describes_iff within small]
    simp
  | _ => simp [Matcher.ofEntry]

theorem forall₂_describedBy_iff (within : ∀ entry ∈ entries, entry.TextsWithin bound)
    (small : bound < 2 ^ 63) :
    List.Forall₂ (DescribedBy host) entries custom ↔
      (∀ entry ∈ entries, entrySchema.Admits entry) ∧
        Matcher.ofEntries host entries = .ok custom := by
  rw [Matcher.ofEntries, Matcher.ofEntriesFrom_eq_ok_iff, ← List.forall₂_and_left]
  induction entries generalizing custom with
  | nil => simp
  | cons entry rest ih =>
    rcases List.forall_mem_cons.1 within with ⟨first, later⟩
    cases custom with
    | nil => simp
    | cons matcher custom =>
      simp only [List.forall₂_cons, describedBy_iff first small, ih later]

/-! ## Files -/

theorem lists_iff (within : (Document.object fields).TextsWithin bound) (small : bound < 2 ^ 63) :
    Lists host fields custom ↔
      fileSchema.Admits (.object fields) ∧
        Matcher.ofEntries host (entriesOf fields) = .ok custom := by
  have described (entries : List Document)
      (listed : Document.field? fields "matchers" = some (.list entries)) :
      List.Forall₂ (DescribedBy host) entries custom ↔
        (∀ entry ∈ entries, entrySchema.Admits entry) ∧
          Matcher.ofEntries host (entriesOf fields) = .ok custom := by
    rw [entriesOf_of_field? listed]
    cases within.field? listed with
    | list each => exact forall₂_describedBy_iff each small
  rw [fileSchema_admits_iff]
  constructor
  · intro lists
    rcases lists with ⟨known, replaces, entries, listed, each⟩
    rcases (described entries listed).1 each with ⟨admitted, made⟩
    exact ⟨⟨known, replaces, entries, listed, admitted⟩, made⟩
  · intro parts
    rcases parts with ⟨⟨known, replaces, entries, listed, admitted⟩, made⟩
    exact ⟨known, replaces, entries, listed, (described entries listed).2 ⟨admitted, made⟩⟩

/-! ## Names -/

theorem repeated_eq_nil_iff {names : List String} : repeated names = [] ↔ names.Nodup := by
  rw [List.nodup_iff_count_le_one, repeated, ← List.length_eq_zero_iff, List.length_mergeSort,
    List.length_eq_zero_iff, List.eq_nil_iff_forall_not_mem]
  simp only [List.mem_eraseDups, List.mem_filter, decide_eq_true_eq, not_and, not_lt]
  constructor
  · intro most name
    by_cases member : name ∈ names
    · exact most name member
    · rw [List.count_eq_zero_of_not_mem member]
      exact Nat.zero_le 1
  · intro most name _
    exact most name

/-- What the caller and the file say together. -/
theorem keepsBuiltin_iff
    (replaces : ∀ value, Document.field? fields "replace_defaults" = some value →
      ∃ b, value = .bool b) :
    KeepsBuiltin fields includeBuiltin ↔ includeBuiltin.getD (!replacesBuiltin fields) = true := by
  unfold KeepsBuiltin replacesBuiltin
  cases includeBuiltin with
  | some b => simp
  | none =>
    cases there : Document.field? fields "replace_defaults" with
    | none => simp
    | some value =>
      rcases replaces value there with ⟨b, rfl⟩
      simp

/-! ## Loading -/

theorem matchersOf_eq_ok_iff (made : Matcher.ofEntries host (entriesOf fields) = .ok custom) :
    matchersOf host fields includeBuiltin = .ok matchers ↔
      matchers = (if includeBuiltin.getD (!replacesBuiltin fields) then Matcher.builtin ++ custom
        else custom) ∧ (matchers.map (·.name)).Nodup := by
  simp only [matchersOf, made]
  generalize (if includeBuiltin.getD (!replacesBuiltin fields) then Matcher.builtin ++ custom
    else custom) = all
  split
  · next none =>
    have distinct := repeated_eq_nil_iff.1 none
    simp only [Except.ok.injEq]
    constructor
    · rintro rfl
      exact ⟨rfl, distinct⟩
    · exact fun parts => parts.1.symm
  · next some =>
    simp only [reduceCtorEq, false_iff, not_and]
    rintro rfl
    exact fun distinct => some (repeated_eq_nil_iff.2 distinct)

theorem ofBytes_eq_ok_iff :
    ofBytes host path bytes includeBuiltin = .ok matchers ↔
      ∃ fields, Document.ofBytes? .standard bytes = some (.object fields) ∧
        fileSchema.Admits (.object fields) ∧
          matchersOf host fields includeBuiltin = .ok matchers := by
  unfold ofBytes
  cases Document.ofBytes? .standard bytes with
  | none => simp
  | some document =>
    dsimp only
    split
    · next fields clean =>
      have admits := Schema.report_eq_nil_iff.1 clean
      simp [admits]
    · next other =>
      simp only [Option.some.injEq, reduceCtorEq, false_iff, not_exists, not_and]
      rintro fields rfl admits
      exact (other fields (Schema.report_eq_nil_iff.2 admits) rfl).elim

theorem load_eq_ofBytes (readable : tree.read (Path.normal path) = .ok bytes) :
    load host tree path includeBuiltin =
      ofBytes host (Path.normal path) bytes includeBuiltin := by
  simp only [load, readable]

/-- A file that lists matchers gives them if and only if their names are distinct. -/
theorem load_eq_ok_iff_of_lists (readable : tree.read (Path.normal path) = .ok bytes)
    (small : bytes.length < 2 ^ 63)
    (parsed : Document.ofBytes? .standard bytes = some (.object fields))
    (lists : Lists host fields custom) :
    load host tree path includeBuiltin = .ok matchers ↔
      (matchers.map (·.name)).Nodup ∧
      (KeepsBuiltin fields includeBuiltin → matchers = Matcher.builtin ++ custom) ∧
      (¬KeepsBuiltin fields includeBuiltin → matchers = custom) := by
  have within := Document.textsWithin_of_ofBytes? parsed
  rcases (lists_iff within small).1 lists with ⟨admits, made⟩
  have loaded : load host tree path includeBuiltin = .ok matchers ↔
      matchersOf host fields includeBuiltin = .ok matchers := by
    rw [load_eq_ofBytes readable, ofBytes_eq_ok_iff, parsed]
    simp [admits]
  rw [loaded, matchersOf_eq_ok_iff made, keepsBuiltin_iff lists.replaces]
  split <;> simp_all [and_comm]

/-- Loading gives matchers exactly for the files that list matchers with distinct names: those that
    are listed, in their order, behind the built-in ones if these are kept. So a listed matcher may
    have the name of a built-in one exactly when these are left out. Only a file of 2^63 bytes, more
    than there can be, has room for a pattern with a group that no number of 64 bits counts. -/
theorem load_eq_ok_iff_lists (readable : tree.read (Path.normal path) = .ok bytes)
    (small : bytes.length < 2 ^ 63) (includeBuiltin : Option Bool) :
    (∀ matchers, load host tree path includeBuiltin = .ok matchers ↔
      ∃ fields custom, Document.ofBytes? .standard bytes = some (.object fields) ∧
        Lists host fields custom ∧ (matchers.map (·.name)).Nodup ∧
        (KeepsBuiltin fields includeBuiltin → matchers = Matcher.builtin ++ custom) ∧
        (¬KeepsBuiltin fields includeBuiltin → matchers = custom)) ∧
    ∀ fields custom, Document.ofBytes? .standard bytes = some (.object fields) →
      Lists host fields custom → (custom.map (·.name)).Nodup →
      (∃ matcher ∈ custom, matcher.name ∈ Matcher.builtin.map (·.name)) →
      ((∃ matchers, load host tree path includeBuiltin = .ok matchers) ↔
        ¬KeepsBuiltin fields includeBuiltin) := by
  constructor
  · intro matchers
    constructor
    · intro loaded
      rw [load_eq_ofBytes readable] at loaded
      rcases ofBytes_eq_ok_iff.1 loaded with ⟨fields, parsed, admits, made⟩
      have within := Document.textsWithin_of_ofBytes? parsed
      cases listed : Matcher.ofEntries host (entriesOf fields) with
      | error fault =>
        rw [matchersOf, listed] at made
        cases made
      | ok custom =>
        have lists := (lists_iff within small).2 ⟨admits, listed⟩
        rw [← load_eq_ofBytes readable] at loaded
        exact ⟨fields, custom, parsed, lists,
          (load_eq_ok_iff_of_lists readable small parsed lists).1 loaded⟩
    · intro parts
      rcases parts with ⟨fields, custom, parsed, lists, rest⟩
      exact (load_eq_ok_iff_of_lists readable small parsed lists).2 rest
  · intro fields custom parsed lists distinct shared
    have loads (matchers : List Matcher) :
        load host tree path includeBuiltin = .ok matchers ↔ _ :=
      load_eq_ok_iff_of_lists readable small parsed lists
    constructor
    · intro loaded kept
      rcases loaded with ⟨matchers, loaded⟩
      rcases (loads matchers).1 loaded with ⟨names, withBuiltin, _⟩
      rcases shared with ⟨matcher, member, builtin⟩
      rw [withBuiltin kept, List.map_append, List.nodup_append] at names
      exact names.2.2 _ builtin _ (List.mem_map_of_mem member) rfl
    · intro replaced
      exact ⟨custom, (loads custom).2 ⟨distinct, fun kept => absurd kept replaced, fun _ => rfl⟩⟩

/-- A file that lists one matcher under the name of a built-in one. Its pattern has a character by its
    name, and its groups are a name and a number with a fraction of zero. -/
def renamedBytes : List UInt8 :=
  Text.bytesOfLines ["\x7b\"matchers\": [\x7b\"name\": \"checkstyle\", "
    ++ "\"pattern\": \"(?P<file>[^:]+)\\\\N\x7bCOLON\x7d(\\\\d+)\", "
    ++ "\"path_group\": \"file\", \"line_group\": 2.0\x7d]\x7d"]

/-- The tree that holds this file. -/
def renamedFile : FileTree where
  entries := [(["config"], .file renamedBytes)]
  workingDirectory := []

theorem load_eq_ok_iff_lists_renamedFile :
    renamedFile.read (Path.normal "config") = .ok renamedBytes ∧ renamedBytes.length < 2 ^ 63 ∧
    ∃ fields custom, Document.ofBytes? .standard renamedBytes = some (.object fields) ∧
      Lists .ascii fields custom ∧ custom.map (·.name) = ["checkstyle"] ∧
      load .ascii renamedFile "config" (some false) = .ok custom ∧
      ∀ matchers, load .ascii renamedFile "config" (some true) ≠ .ok matchers := by
  have readable : renamedFile.read (Path.normal "config") = .ok renamedBytes := rfl
  have small : renamedBytes.length < 2 ^ 63 := by decide +kernel
  have names : (load .ascii renamedFile "config" (some false)).toOption.map (·.map (·.name)) =
      some ["checkstyle"] := by decide +kernel
  refine ⟨readable, small, ?_⟩
  cases loaded : load .ascii renamedFile "config" (some false) with
  | error fault =>
    rw [loaded] at names
    cases names
  | ok custom =>
    rcases ((load_eq_ok_iff_lists readable small (some false)).1 custom).1 loaded with
      ⟨fields, listed, parsed, lists, distinct, _, replaced⟩
    obtain rfl := replaced (by simp [KeepsBuiltin])
    rw [loaded] at names
    have named : custom.map (·.name) = ["checkstyle"] := Option.some.inj names
    have shared : ∃ matcher ∈ custom, matcher.name ∈ Matcher.builtin.map (·.name) := by
      have member : "checkstyle" ∈ custom.map (·.name) := by simp [named]
      rcases List.mem_map.1 member with ⟨matcher, member, same⟩
      exact ⟨matcher, member, same ▸ by decide +kernel⟩
    refine ⟨fields, custom, parsed, lists, named, rfl, ?_⟩
    intro matchers accepted
    have refused := ((load_eq_ok_iff_lists readable small (some true)).2 fields custom parsed
      lists distinct shared).1 ⟨matchers, accepted⟩
    exact refused (.inl rfl)

end JavadocRepair.Configuration
