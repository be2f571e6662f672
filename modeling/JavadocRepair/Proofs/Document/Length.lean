import Mathlib
import JavadocRepair.Document.Reader
import JavadocRepair.Proofs.Text.Utf8

/-!
# How long the texts of a document are

Every text in a document is written in the bytes that the document is read from, and takes at least
one byte for each of its characters. Each reader takes its part from the front of the input and
leaves an end of it that is no longer, so no text is longer than the input.
-/

namespace JavadocRepair.Document

variable {limits : Limits} {bound fuel depth : Nat} {document : Document} {input rest : List Char}

/-- No text among the values of a document has more than a number of characters. -/
inductive TextsWithin (bound : Nat) : Document → Prop where
  | null : TextsWithin bound .null
  | bool (b : Bool) : TextsWithin bound (.bool b)
  | integer (n : Int) : TextsWithin bound (.integer n)
  | real (x : Number.Binary64) : TextsWithin bound (.real x)
  | text {s : String} (short : s.length ≤ bound) : TextsWithin bound (.text s)
  | list {elements : List Document} (each : ∀ element ∈ elements, TextsWithin bound element) :
      TextsWithin bound (.list elements)
  | object {fields : List (String × Document)}
      (each : ∀ field ∈ fields, TextsWithin bound field.2) : TextsWithin bound (.object fields)

theorem TextsWithin.field? {fields : List (String × Document)} {name : String}
    (within : (Document.object fields).TextsWithin bound) (there : field? fields name = some document) :
    document.TextsWithin bound := by
  cases within with
  | object each =>
    rcases List.lookup_eq_some_iff.1 there with ⟨before, after, rfl, _⟩
    exact each (name, document) (by simp)

theorem textsWithin_setField {fields : List (String × Document)} {name : String}
    (each : ∀ field ∈ fields, field.2.TextsWithin bound) (within : document.TextsWithin bound) :
    ∀ field ∈ setField fields name document, field.2.TextsWithin bound := by
  unfold setField
  split
  · rw [List.forall_mem_map]
    intro field member
    split
    · exact within
    · exact each field member
  · rw [List.forall_mem_append]
    exact ⟨each, by simpa using within⟩

/-! ## Blanks, texts and numbers -/

theorem length_skipBlanks_le (input : List Char) : (skipBlanks input).length ≤ input.length := by
  fun_induction skipBlanks input with
  | case1 => exact Nat.le_refl _
  | case2 c rest _ ih => exact Nat.le_succ_of_le ih
  | case3 => exact Nat.le_refl _

theorem length_digitsOf_le (input : List Char) : (digitsOf input).2.length ≤ input.length :=
  (List.dropWhile_sublist _).length_le

/-- An escape is longer than the character that it stands for. -/
theorem length_le_of_textTail {done : List Char} {s : String}
    (read : textTail done input = some (s, rest)) :
    s.length + rest.length ≤ done.length + input.length := by
  fun_induction textTail done input
  case case1 =>
    cases read
    simp
  case case4 ih | case8 ih | case9 ih | case12 ih =>
    have shorter := ih read
    simp only [List.length_cons] at shorter ⊢
    omega
  all_goals cases read

theorem length_le_of_fraction? {fraction : List Char}
    (read : fraction? input = some (fraction, rest)) : rest.length ≤ input.length := by
  unfold fraction? at read
  grind [length_digitsOf_le]

theorem length_le_of_exponent? {exponent : Option Int}
    (read : exponent? input = some (exponent, rest)) : rest.length ≤ input.length := by
  unfold exponent? at read
  grind [length_digitsOf_le]

theorem textsWithin_of_number? {negative : Bool} {whole fraction : List Char}
    {exponent : Option Int} (read : number? limits negative whole fraction exponent = some document) :
    document.TextsWithin bound := by
  unfold number? at read
  grind [TextsWithin, Option.map_eq_some_iff]

/-- What a reader takes from the front of its input: a document without longer texts, in front of
    an end that is no longer. -/
structure Cut (bound : Nat) (input : List Char) (document : Document) (rest : List Char) : Prop where
  texts : document.TextsWithin bound
  shorter : rest.length ≤ input.length

theorem cut_of_numberHead? (read : numberHead? limits input = some (document, rest)) :
    Cut bound input document rest := by
  unfold numberHead? at read
  split at read
  next negative unsigned stripped =>
    simp only [Option.bind_eq_bind, Option.bind_none, Option.ite_none_left_eq_some,
      Option.bind_eq_some_iff, Option.pure_def, Option.some.injEq, Prod.mk.injEq] at read
    rcases read with ⟨_, ⟨fraction, afterFraction⟩, fractionRead, ⟨exponent, afterExponent⟩,
      exponentRead, number, numberRead, rfl, rfl⟩
    refine ⟨textsWithin_of_number? numberRead, ?_⟩
    calc afterExponent.length
      _ ≤ afterFraction.length := length_le_of_exponent? exponentRead
      _ ≤ (digitsOf unsigned).2.length := length_le_of_fraction? fractionRead
      _ ≤ unsigned.length := length_digitsOf_le _
      _ ≤ input.length := by grind

/-! ## Values -/

/-- What the three readers of values are to do with a given amount of fuel. -/
structure Cutting (limits : Limits) (bound fuel : Nat) : Prop where
  value : ∀ depth input document rest, input.length ≤ bound →
    value? limits fuel depth input = some (document, rest) → Cut bound input document rest
  elements : ∀ depth done input document rest, input.length ≤ bound →
    (∀ element ∈ done, element.TextsWithin bound) →
    elements? limits fuel depth done input = some (document, rest) → Cut bound input document rest
  fields : ∀ depth done input document rest, input.length ≤ bound →
    (∀ field ∈ done, field.2.TextsWithin bound) →
    fields? limits fuel depth done input = some (document, rest) → Cut bound input document rest

theorem Cutting.value_succ (cutting : Cutting limits bound fuel) (short : input.length ≤ bound)
    (read : value? limits (fuel + 1) depth input = some (document, rest)) :
    Cut bound input document rest := by
  have blanks := length_skipBlanks_le input
  rw [value?] at read
  split at read
  · next tail there =>
    cases read
    exact ⟨.null, by grind⟩
  · next tail there =>
    cases read
    exact ⟨.bool _, by grind⟩
  · next tail there =>
    cases read
    exact ⟨.bool _, by grind⟩
  · next tail there =>
    rcases Option.map_eq_some_iff.1 read with ⟨⟨s, tail⟩, textRead, same⟩
    cases same
    have taken := length_le_of_textTail textRead
    exact ⟨.text (by grind), by grind⟩
  · next tail there =>
    have inner := length_skipBlanks_le tail
    split at read
    · cases read
    · split at read
      · cases read
        exact ⟨.list (List.forall_mem_nil _), by grind⟩
      · have cut := cutting.elements _ _ _ _ _ (by grind) (List.forall_mem_nil _) read
        exact ⟨cut.texts, by grind [cut.shorter]⟩
  · next tail there =>
    have inner := length_skipBlanks_le tail
    split at read
    · cases read
    · split at read
      · cases read
        exact ⟨.object (List.forall_mem_nil _), by grind⟩
      · have cut := cutting.fields _ _ _ _ _ (by grind) (List.forall_mem_nil _) read
        exact ⟨cut.texts, by grind [cut.shorter]⟩
  · have cut : Cut bound _ document rest := cut_of_numberHead? read
    exact ⟨cut.texts, cut.shorter.trans blanks⟩

theorem Cutting.elements_succ {done : List Document} (cutting : Cutting limits bound fuel)
    (short : input.length ≤ bound) (within : ∀ element ∈ done, element.TextsWithin bound)
    (read : elements? limits (fuel + 1) depth done input = some (document, rest)) :
    Cut bound input document rest := by
  rw [elements?] at read
  split at read
  · cases read
  · next element tail elementRead =>
    have first := cutting.value _ _ _ _ short elementRead
    have each := List.forall_mem_cons.2 ⟨first.texts, within⟩
    have blanks := (length_skipBlanks_le tail).trans first.shorter
    split at read
    · have cut := cutting.elements _ _ _ _ _ (by grind) each read
      exact ⟨cut.texts, by grind [cut.shorter]⟩
    · cases read
      refine ⟨.list ?_, by grind⟩
      intro element member
      exact each element (List.mem_reverse.1 member)
    · cases read

theorem Cutting.fields_succ {done : List (String × Document)} (cutting : Cutting limits bound fuel)
    (short : input.length ≤ bound) (within : ∀ field ∈ done, field.2.TextsWithin bound)
    (read : fields? limits (fuel + 1) depth done input = some (document, rest)) :
    Cut bound input document rest := by
  have blanks := length_skipBlanks_le input
  rw [fields?] at read
  split at read
  · next quoted there =>
    split at read
    · cases read
    · next name named nameRead =>
      have nameTaken := length_le_of_textTail nameRead
      have nameBlanks := length_skipBlanks_le named
      split at read
      · next colon there =>
        split at read
        · cases read
        · next value tail valueRead =>
          have first := cutting.value _ _ _ _ (by grind) valueRead
          have each : ∀ field ∈ setField done name value, field.2.TextsWithin bound :=
            textsWithin_setField within first.texts
          have tailBlanks := (length_skipBlanks_le tail).trans first.shorter
          split at read
          · have cut := cutting.fields _ _ _ _ _ (by grind) each read
            exact ⟨cut.texts, by grind [cut.shorter]⟩
          · cases read
            exact ⟨.object each, by grind⟩
          · cases read
      · cases read
  · cases read

theorem cutting (limits : Limits) (bound fuel : Nat) : Cutting limits bound fuel := by
  induction fuel with
  | zero => constructor <;> simp [value?, elements?, fields?]
  | succ fuel ih =>
    constructor
    · intro depth input document rest short read
      exact ih.value_succ short read
    · intro depth done input document rest short within read
      exact ih.elements_succ short within read
    · intro depth done input document rest short within read
      exact ih.fields_succ short within read

/-! ## Whole files -/

/-- No text in a document is longer than the file that it is read from. -/
theorem textsWithin_of_ofBytes? {bytes : List UInt8}
    (read : ofBytes? limits bytes = some document) : document.TextsWithin bytes.length := by
  unfold ofBytes? at read
  split at read
  · next chars decoded =>
    have short : chars.length ≤ bytes.length := by
      rw [Text.Utf8.decode_eq_ok_iff.1 decoded]
      exact Text.Utf8.length_le_length_encode chars
    unfold ofChars? at read
    split at read
    · next whole rest valueRead =>
      split at read
      · cases read
        exact ((cutting limits _ _).value _ _ _ _ short valueRead).texts
      · cases read
    · cases read
  · cases read

end JavadocRepair.Document
