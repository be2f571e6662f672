import JavadocRepair.Matcher.Builtin

/-!
# What patterns read

A pattern says which texts it reads and which groups it then marks, without saying in which order
alternatives are tried. Matching with backtracking agrees with that: it finds a way through the
subject if there is one, and what it finds is one. This holds for patterns without anchors,
references and iterations that are kept, such as the built-in ones.
-/

namespace JavadocRepair.Pattern

/-- The state behind `count` further characters. -/
def State.advance (state : State) (count : Nat) : State :=
  { state with position := state.position + count }

@[simp]
theorem State.advance_advance (state : State) (first second : Nat) :
    (state.advance first).advance second = state.advance (first + second) := by
  simp only [advance, Nat.add_assoc]

/-- A pattern in which nothing depends on what stands around the text that is read, and no choice
    is kept once it is made. -/
def Node.isPlain : Node → Bool
  | .empty | .char _ => true
  | .run greed _ _ _ => greed != .possessive
  | .group _ body => body.isPlain
  | .sequence first second | .choice first second => first.isPlain && second.isPlain
  | _ => false

/-- A plain pattern reads a text, which takes it from one state to another. -/
inductive Node.Reads : Node → State → List Char → State → Prop where
  | empty {state : State} : Reads .empty state [] state
  | char {set : CharSet} {c : Char} {state : State} (member : set.contains c = true) :
      Reads (.char set) state [c] (state.advance 1)
  | run {greed : Greed} {least : Nat} {most : Option Nat} {set : CharSet} {text : List Char}
      {state : State} (enough : least ≤ text.length)
      (notMore : ∀ bound, most = some bound → text.length ≤ bound)
      (members : ∀ c ∈ text, set.contains c = true) :
      Reads (.run greed least most set) state text (state.advance text.length)
  | group {index : Nat} {body : Node} {text : List Char} {state reached : State} :
      Reads body (state.openGroup index) text reached →
      Reads (.group index body) state text (reached.closeGroup index)
  | sequence {first second : Node} {left right : List Char} {state middle reached : State} :
      Reads first state left middle → Reads second middle right reached →
      Reads (.sequence first second) state (left ++ right) reached
  | choiceFirst {first second : Node} {text : List Char} {state reached : State} :
      Reads first state text reached → Reads (.choice first second) state text reached
  | choiceSecond {first second : Node} {text : List Char} {state reached : State} :
      Reads second state text reached → Reads (.choice first second) state text reached

theorem Node.Reads.position_eq {node : Node} {state reached : State} {text : List Char}
    (reads : node.Reads state text reached) :
    reached.position = state.position + text.length := by
  induction reads with
  | empty => rfl
  | char => rfl
  | run => rfl
  | group _ ih => exact ih
  | sequence _ _ ihFirst ihSecond =>
    rw [ihSecond, ihFirst, List.length_append, Nat.add_assoc]
  | choiceFirst _ ih => exact ih
  | choiceSecond _ ih => exact ih

/-! ## Runs of characters -/

theorem runEnd_eq (subject : Array Char) (set : CharSet) (position most : Nat) :
    runEnd subject set position most =
      position + (((subject.toList.drop position).take most).takeWhile set.contains).length := by
  induction most generalizing position with
  | zero => simp [runEnd]
  | succ most ih =>
    simp only [runEnd]
    cases found : subject[position]? with
    | none =>
      have ended : subject.toList.drop position = [] := by
        rw [List.drop_eq_nil_iff, Array.length_toList]
        exact Array.getElem?_eq_none_iff.1 found
      simp [ended]
    | some c =>
      rcases Array.getElem?_eq_some_iff.1 found with ⟨inside, equal⟩
      have split : subject.toList.drop position = c :: subject.toList.drop (position + 1) := by
        rw [List.drop_eq_getElem_cons (by simpa using inside)]
        simp [equal]
      by_cases member : set.contains c = true
      · simp only [member, if_true, ih, split, List.take_succ_cons, List.takeWhile_cons,
          List.length_cons]
        omega
      · simp [member, split]

theorem mem_runLengths {greed : Greed} {least longest length : Nat}
    (notKept : greed ≠ .possessive) :
    length ∈ runLengths greed least longest ↔ least ≤ length ∧ length ≤ longest := by
  unfold runLengths
  split
  · simp only [List.not_mem_nil, false_iff]
    omega
  · cases greed with
    | greedy =>
      simp only [List.mem_reverse, List.mem_range'_1]
      omega
    | sparing =>
      simp only [List.mem_range'_1]
      omega
    | possessive => exact absurd rfl notKept

/-- The lengths that a run is tried with are those of the texts that it reads. -/
theorem mem_runLengths_iff_reads {subject : Array Char} {greed : Greed} {least : Nat}
    {most : Option Nat} {set : CharSet} {position : Nat} (notKept : greed ≠ .possessive)
    (length : Nat) :
    length ∈ runLengths greed least
        (runEnd subject set position
          (min (most.getD (subject.size - position)) (subject.size - position)) - position) ↔
      ∃ text, text <+: subject.toList.drop position ∧ text.length = length ∧ least ≤ length ∧
        (∀ bound, most = some bound → length ≤ bound) ∧
        ∀ c ∈ text, set.contains c = true := by
  rw [mem_runLengths notKept, runEnd_eq, Nat.add_sub_cancel_left]
  have room : (subject.toList.drop position).length = subject.size - position := by simp
  generalize subject.toList.drop position = rest at room
  rw [← room]
  constructor
  · intro parts
    rcases parts with ⟨enough, short⟩
    have within : length ≤ (rest.take (min (most.getD rest.length) rest.length)).length :=
      Nat.le_trans short (List.takeWhile_prefix _).length_le
    rw [List.length_take] at within
    refine ⟨rest.take length, List.take_prefix _ _, ?_, enough, ?_, ?_⟩
    · rw [List.length_take]
      omega
    · rintro bound rfl
      simp only [Option.getD_some] at within
      omega
    · intro c member
      have run : rest.take length <+:
          (rest.take (min (most.getD rest.length) rest.length)).takeWhile set.contains := by
        refine List.prefix_of_prefix_length_le (List.take_prefix _ _)
          ((List.takeWhile_prefix _).trans (List.take_prefix _ _)) ?_
        rw [List.length_take]
        omega
      exact List.all_eq_true.1 List.all_takeWhile c (run.subset member)
  · intro parts
    rcases parts with ⟨text, there, rfl, enough, notMore, members⟩
    refine ⟨enough, ?_⟩
    have fits : text.length ≤ min (most.getD rest.length) rest.length := by
      have := there.length_le
      cases most with
      | none => simpa using this
      | some bound =>
        have := notMore bound rfl
        simp only [Option.getD_some]
        omega
    rcases List.prefix_take_iff.2 ⟨there, fits⟩ with ⟨behind, split⟩
    rw [← split, List.takeWhile_append_of_pos members, List.length_append]
    omega

theorem append_prefix_iff {left right rest : List Char} :
    left ++ right <+: rest ↔ left <+: rest ∧ right <+: rest.drop left.length := by
  constructor
  · intro parts
    rcases parts with ⟨behind, rfl⟩
    exact ⟨⟨right ++ behind, by simp⟩, ⟨behind, by simp⟩⟩
  · intro parts
    rcases parts with ⟨⟨behind, rfl⟩, later⟩
    simpa using later

/-! ## Backtracking -/

variable {subject : Array Char} {node : Node} {state reached final : State} {next : Continuation}
  {text : List Char}

theorem singleton_prefix_iff {position : Nat} {c : Char} :
    [c] <+: subject.toList.drop position ↔ subject[position]? = some c := by
  rw [← Array.getElem?_toList, ← List.head?_drop]
  generalize subject.toList.drop position = rest
  cases rest with
  | nil => simp
  | cons d rest => simp [eq_comm]

/-- What backtracking finds is a reading of the pattern. -/
theorem exec_sound (plain : node.isPlain = true)
    (found : node.exec subject state next = some final) :
    ∃ text reached, node.Reads state text reached ∧
      text <+: subject.toList.drop state.position ∧ next reached = some final := by
  induction node generalizing state next with
  | empty => exact ⟨[], state, .empty, List.nil_prefix, found⟩
  | char set =>
    simp only [Node.exec] at found
    cases there : subject[state.position]? with
    | none => simp [there] at found
    | some c =>
      simp only [there] at found
      split at found
      · next member =>
        exact ⟨[c], _, .char member, singleton_prefix_iff.2 there, found⟩
      · cases found
  | run greed least most set =>
    have notKept : greed ≠ .possessive := by simpa [Node.isPlain] using plain
    simp only [Node.exec] at found
    rcases List.exists_of_findSome?_eq_some found with ⟨length, member, ended⟩
    obtain ⟨text, there, rfl, enough, notMore, members⟩ :=
      (mem_runLengths_iff_reads notKept length).1 member
    exact ⟨text, _, .run enough notMore members, there, ended⟩
  | group index body ih =>
    rcases ih plain found with ⟨text, reached, reads, there, ended⟩
    exact ⟨text, _, .group reads, there, ended⟩
  | sequence first second ihFirst ihSecond =>
    simp only [Node.isPlain, Bool.and_eq_true] at plain
    rcases ihFirst plain.1 found with ⟨left, middle, readsFirst, thereFirst, rest⟩
    rcases ihSecond plain.2 rest with ⟨right, reached, readsSecond, thereSecond, ended⟩
    rw [readsFirst.position_eq, ← List.drop_drop] at thereSecond
    exact ⟨left ++ right, reached, .sequence readsFirst readsSecond,
      append_prefix_iff.2 ⟨thereFirst, thereSecond⟩, ended⟩
  | choice first second ihFirst ihSecond =>
    simp only [Node.isPlain, Bool.and_eq_true] at plain
    simp only [Node.exec] at found
    cases taken : first.exec subject state next with
    | some other =>
      simp only [taken, Option.some.injEq] at found
      subst found
      rcases ihFirst plain.1 taken with ⟨text, reached, reads, there, ended⟩
      exact ⟨text, reached, .choiceFirst reads, there, ended⟩
    | none =>
      simp only [taken] at found
      rcases ihSecond plain.2 found with ⟨text, reached, reads, there, ended⟩
      exact ⟨text, reached, .choiceSecond reads, there, ended⟩
  | anchor | backreference | repetition | atomic | lookahead | lookbehind | conditional =>
    simp [Node.isPlain] at plain

/-- Backtracking finds something wherever a reading of the pattern leads to the end. -/
theorem exec_complete (plain : node.isPlain = true) (reads : node.Reads state text reached)
    (there : text <+: subject.toList.drop state.position) (ends : (next reached).isSome = true) :
    (node.exec subject state next).isSome = true := by
  induction reads generalizing next with
  | empty => exact ends
  | char member =>
    simp only [Node.exec, singleton_prefix_iff.1 there, member, if_true]
    exact ends
  | run enough notMore members =>
    have notKept := by simpa [Node.isPlain] using plain
    simp only [Node.exec, List.findSome?_isSome_iff]
    exact ⟨_, (mem_runLengths_iff_reads notKept _).2
      ⟨_, there, rfl, enough, notMore, members⟩, ends⟩
  | group _ ih => exact ih plain there ends
  | sequence readsFirst _ ihFirst ihSecond =>
    simp only [Node.isPlain, Bool.and_eq_true] at plain
    rcases append_prefix_iff.1 there with ⟨thereFirst, thereSecond⟩
    rw [List.drop_drop, ← readsFirst.position_eq] at thereSecond
    exact ihFirst plain.1 thereFirst (ihSecond plain.2 thereSecond ends)
  | choiceFirst _ ih =>
    simp only [Node.isPlain, Bool.and_eq_true] at plain
    have found := ih plain.1 there ends
    simp only [Node.exec]
    split <;> simp_all
  | choiceSecond _ ih =>
    simp only [Node.isPlain, Bool.and_eq_true] at plain
    have found := ih plain.2 there ends
    simp only [Node.exec]
    split <;> simp_all

/-- The state in which matching begins. -/
def State.initial (groups : Nat) : State := ⟨0, List.replicate groups ⟨none, none⟩⟩

theorem matchAll?_sound {groups : Nat} (plain : node.isPlain = true)
    (found : node.matchAll? groups subject = some final) :
    node.Reads (.initial groups) subject.toList final := by
  rcases exec_sound plain found with ⟨text, reached, reads, there, ended⟩
  split at ended
  · next whole =>
    cases ended
    have length := reads.position_eq
    have equal : text = subject.toList := by
      apply List.IsPrefix.eq_of_length (by simpa using there)
      simp [← whole, length]
    exact equal ▸ reads
  · cases ended

theorem matchAll?_complete {groups : Nat} (plain : node.isPlain = true)
    (reads : node.Reads (.initial groups) subject.toList reached) :
    (node.matchAll? groups subject).isSome = true := by
  refine exec_complete plain reads (by simp) ?_
  simp [reads.position_eq, State.initial]

/-! ## Nodes one after the other -/

theorem reads_sequenceOf_nil :
    (Node.sequenceOf []).Reads state text reached ↔ text = [] ∧ reached = state := by
  constructor
  · intro reads
    cases reads
    exact ⟨rfl, rfl⟩
  · intro parts
    rcases parts with ⟨rfl, rfl⟩
    exact .empty

theorem reads_sequenceOf_cons {nodes : List Node} :
    (Node.sequenceOf (node :: nodes)).Reads state text reached ↔
      ∃ left right middle, text = left ++ right ∧ node.Reads state left middle ∧
        (Node.sequenceOf nodes).Reads middle right reached := by
  cases nodes with
  | nil =>
    simp only [reads_sequenceOf_nil]
    constructor
    · intro reads
      exact ⟨text, [], reached, by simp, reads, rfl, rfl⟩
    · intro parts
      rcases parts with ⟨left, right, middle, rfl, reads, rfl, rfl⟩
      rw [List.append_nil]
      exact reads
  | cons other nodes =>
    constructor
    · intro reads
      cases reads with
      | sequence readsFirst readsSecond => exact ⟨_, _, _, rfl, readsFirst, readsSecond⟩
    · intro parts
      rcases parts with ⟨left, right, middle, rfl, readsFirst, readsSecond⟩
      exact .sequence readsFirst readsSecond

theorem reads_sequenceOf_append {front back : List Node} :
    (Node.sequenceOf (front ++ back)).Reads state text reached ↔
      ∃ left right middle, text = left ++ right ∧ (Node.sequenceOf front).Reads state left middle ∧
        (Node.sequenceOf back).Reads middle right reached := by
  induction front generalizing state text with
  | nil =>
    simp only [List.nil_append, reads_sequenceOf_nil]
    constructor
    · intro reads
      exact ⟨[], text, state, rfl, ⟨rfl, rfl⟩, reads⟩
    · intro parts
      rcases parts with ⟨left, right, middle, rfl, ⟨rfl, rfl⟩, reads⟩
      exact reads
  | cons node front ih =>
    simp only [List.cons_append, reads_sequenceOf_cons, ih]
    constructor
    · intro parts
      rcases parts with ⟨left, _, middle, rfl, first, center, right, later, rfl, second, third⟩
      exact ⟨left ++ center, right, later, by simp, ⟨left, center, middle, rfl, first, second⟩,
        third⟩
    · intro parts
      rcases parts with ⟨_, right, later, rfl, ⟨left, center, middle, rfl, first, second⟩, third⟩
      exact ⟨left, center ++ right, middle, by simp, first, center, right, later, rfl, second,
        third⟩

theorem contains_point (c d : Char) :
    CharSet.contains ⟨[.point c.toNat], false, none⟩ d = true ↔ d = c := by
  simp [CharSet.contains, Member.contains, Char.toNat_inj]

theorem reads_literal {literal : String} :
    (Node.sequenceOf (Pattern.literal literal)).Reads state text reached ↔
      text = literal.toList ∧ reached = state.advance literal.toList.length := by
  unfold Pattern.literal
  generalize literal.toList = chars
  induction chars generalizing state text with
  | nil => simp [reads_sequenceOf_nil, State.advance]
  | cons c chars ih =>
    simp only [List.map_cons, reads_sequenceOf_cons, ih]
    constructor
    · intro parts
      rcases parts with ⟨left, _, middle, rfl, first, rfl, rfl⟩
      cases first with
      | char member =>
        obtain rfl := (contains_point c _).1 member
        rw [State.advance_advance, List.length_cons, Nat.add_comm]
        exact ⟨rfl, rfl⟩
    · intro parts
      rcases parts with ⟨rfl, rfl⟩
      refine ⟨[c], chars, state.advance 1, rfl, .char ((contains_point c c).2 rfl), rfl, ?_⟩
      rw [State.advance_advance, List.length_cons, Nat.add_comm]

theorem reads_literal_append {literal : String} {nodes : List Node} :
    (Node.sequenceOf (Pattern.literal literal ++ nodes)).Reads state text reached ↔
      ∃ rest, text = literal.toList ++ rest ∧
        (Node.sequenceOf nodes).Reads (state.advance literal.toList.length) rest reached := by
  rw [reads_sequenceOf_append]
  constructor
  · intro parts
    rcases parts with ⟨left, rest, middle, split, first, later⟩
    rcases reads_literal.1 first with ⟨rfl, rfl⟩
    exact ⟨rest, split, later⟩
  · intro parts
    rcases parts with ⟨rest, split, later⟩
    exact ⟨_, rest, _, split, reads_literal.2 ⟨rfl, rfl⟩, later⟩

/-- A node that reads certain texts and comes to one state for each, in front of other nodes. -/
theorem reads_sequenceOf_cons_of {nodes : List Node} {accepts : List Char → Prop}
    {after : List Char → State}
    (reads : ∀ text reached, node.Reads state text reached ↔ accepts text ∧ reached = after text) :
    (Node.sequenceOf (node :: nodes)).Reads state text reached ↔
      ∃ left right, accepts left ∧ text = left ++ right ∧
        (Node.sequenceOf nodes).Reads (after left) right reached := by
  rw [reads_sequenceOf_cons]
  constructor
  · intro parts
    rcases parts with ⟨left, right, middle, split, first, later⟩
    rcases (reads left middle).1 first with ⟨accepted, rfl⟩
    exact ⟨left, right, accepted, split, later⟩
  · intro parts
    rcases parts with ⟨left, right, accepted, split, later⟩
    exact ⟨left, right, _, split, (reads left _).2 ⟨accepted, rfl⟩, later⟩

end JavadocRepair.Pattern
