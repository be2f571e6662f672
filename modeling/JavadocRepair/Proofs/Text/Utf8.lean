import Mathlib
import JavadocRepair.Text.Utf8

/-!
# The decoder inverts the encoder

`decode` accepts the bytes that `encode` writes and no others, and gives back what was written. The
decoder says in `Unfinished` what it has read of a character; `Unfinished.Spells` says what that
record means: which bytes were read, and how each number that still fits goes on.
-/

namespace JavadocRepair.Text.Utf8

/-! ## The bytes of a character -/

/-- The continuation bytes that spell the last `count` groups of six bits of a number. -/
def continuation : Nat → Nat → List UInt8
  | 0, _ => []
  | count + 1, n => .ofNat (n / 64 ^ count % 64 + 0x80) :: continuation count n

@[simp]
theorem length_continuation (count n : Nat) : (continuation count n).length = count := by
  induction count with
  | zero => rfl
  | succ count ih => simp [continuation, ih]

theorem toNat_charOfNat {n : Nat} (valid : n.isValidChar) : (Char.ofNat n).toNat = n := by
  simp [Char.ofNat, valid, Char.ofNatAux, Char.toNat]

theorem encodeChar_one {n : Nat} (high : n < 0x80) :
    String.utf8EncodeChar (Char.ofNat n) = [.ofNat n] := by
  have value : (Char.ofNat n).val.toNat = n := toNat_charOfNat (.inl (by omega))
  simp only [String.utf8EncodeChar, value]
  rw [if_pos (by omega)]

theorem encodeChar_two {n : Nat} (low : 0x80 ≤ n) (high : n < 0x800) :
    String.utf8EncodeChar (Char.ofNat n) = .ofNat (n / 64 + 0xc0) :: continuation 1 n := by
  have value : (Char.ofNat n).val.toNat = n := toNat_charOfNat (.inl (by omega))
  have lead : n / 64 % 0x20 = n / 64 := by omega
  simp only [String.utf8EncodeChar, value, continuation]
  rw [if_neg (by omega), if_pos (by omega), lead]
  simp

theorem encodeChar_three {n : Nat} (low : 0x800 ≤ n) (high : n < 0x10000)
    (valid : n.isValidChar) :
    String.utf8EncodeChar (Char.ofNat n) = .ofNat (n / 4096 + 0xe0) :: continuation 2 n := by
  have value : (Char.ofNat n).val.toNat = n := toNat_charOfNat valid
  have lead : n / 4096 % 0x10 = n / 4096 := by omega
  simp only [String.utf8EncodeChar, value, continuation]
  rw [if_neg (by omega), if_neg (by omega), if_pos (by omega), lead]
  simp

theorem encodeChar_four {n : Nat} (low : 0x10000 ≤ n) (high : n < 0x110000) :
    String.utf8EncodeChar (Char.ofNat n) = .ofNat (n / 262144 + 0xf0) :: continuation 3 n := by
  have value : (Char.ofNat n).val.toNat = n := toNat_charOfNat (.inr (by omega))
  have lead : n / 262144 % 0x08 = n / 262144 := by omega
  simp only [String.utf8EncodeChar, value, continuation]
  rw [if_neg (by omega), if_neg (by omega), if_neg (by omega), lead]
  simp

/-! ## What the decoder holds -/

/-- The meaning of an unfinished character after the bytes `read`: every number that begins with
    its bits, and goes on in the range of its next byte, is spelled by those bytes and the
    continuation bytes that are missing. -/
structure Unfinished.Spells (u : Unfinished) (read : List UInt8) : Prop where
  taken : u.taken = read.length
  missing : 1 ≤ u.missing
  low : 0x80 ≤ u.low.toNat
  high : u.high.toNat ≤ 0xbf
  complete : ∀ n, n / 64 ^ u.missing = u.bits →
    u.low.toNat ≤ n / 64 ^ (u.missing - 1) % 64 + 0x80 →
    n / 64 ^ (u.missing - 1) % 64 + 0x80 ≤ u.high.toNat →
    String.utf8EncodeChar (Char.ofNat n) = read ++ continuation u.missing n

theorem spells_two {byte : UInt8} {bits : Nat} (lead : bits + 0xc0 = byte.toNat)
    (least : 2 ≤ bits) (most : bits < 0x20) :
    Unfinished.Spells ⟨byte, 1, 1, bits, 0x80, 0xbf⟩ [byte] := by
  refine ⟨rfl, Nat.le_refl _, Nat.le_refl _, Nat.le_refl _, fun n same low high => ?_⟩
  simp only [Nat.pow_one] at same
  rw [encodeChar_two (by omega) (by omega), same, lead, UInt8.ofNat_toNat]
  rfl

theorem spells_three {byte low high : UInt8} {bits : Nat} (lead : bits + 0xe0 = byte.toNat)
    (least : 0x80 ≤ low.toNat) (most : high.toNat ≤ 0xbf)
    (scalar : ∀ n, n / 4096 = bits → low.toNat ≤ n / 64 % 64 + 0x80 →
      n / 64 % 64 + 0x80 ≤ high.toNat → 0x800 ≤ n ∧ n < 0x10000 ∧ n.isValidChar) :
    Unfinished.Spells ⟨byte, 1, 2, bits, low, high⟩ [byte] := by
  refine ⟨rfl, by simp, least, most, fun n same above below => ?_⟩
  have same : n / 4096 = bits := same
  obtain ⟨atLeast, below, valid⟩ := scalar n same above below
  rw [encodeChar_three atLeast below valid, same, lead, UInt8.ofNat_toNat]
  rfl

theorem spells_four {byte low high : UInt8} {bits : Nat} (lead : bits + 0xf0 = byte.toNat)
    (least : 0x80 ≤ low.toNat) (most : high.toNat ≤ 0xbf)
    (scalar : ∀ n, n / 262144 = bits → low.toNat ≤ n / 4096 % 64 + 0x80 →
      n / 4096 % 64 + 0x80 ≤ high.toNat → 0x10000 ≤ n ∧ n < 0x110000) :
    Unfinished.Spells ⟨byte, 1, 3, bits, low, high⟩ [byte] := by
  refine ⟨rfl, by simp, least, most, fun n same above below => ?_⟩
  have same : n / 262144 = bits := same
  obtain ⟨atLeast, below⟩ := scalar n same above below
  rw [encodeChar_four atLeast below, same, lead, UInt8.ofNat_toNat]
  rfl

/-- A lead byte opens a character that it spells the beginning of. -/
theorem spells_ofLead {byte : UInt8} {u : Unfinished}
    (opened : Unfinished.ofLead? byte = some u) : u.Spells [byte] := by
  simp only [Unfinished.ofLead?] at opened
  repeat' split at opened
  all_goals cases opened
  · exact spells_two (by omega) (by omega) (by omega)
  · refine spells_three (by omega) (by simp) (by simp) fun n same low high => ?_
    simp at low high
    exact ⟨by omega, by omega, .inl (by omega)⟩
  · refine spells_three (by omega) (by simp) (by simp) fun n same low high => ?_
    simp at low high
    exact ⟨by omega, by omega, .inl (by omega)⟩
  · refine spells_three (by omega) (by simp) (by simp) fun n same low high => ?_
    exact ⟨by omega, by omega, by unfold Nat.isValidChar; omega⟩
  · refine spells_four (by omega) (by simp) (by simp) fun n same low high => ?_
    simp at low high
    exact ⟨by omega, by omega⟩
  · exact spells_four (by omega) (by simp) (by simp) fun n same low high =>
      ⟨by omega, by omega⟩
  · refine spells_four (by omega) (by simp) (by simp) fun n same low high => ?_
    simp at low high
    exact ⟨by omega, by omega⟩

/-- The decoder stands behind the bytes `read` of an unfinished character, if there are any. -/
def Decoder.Holds : Decoder → List UInt8 → Prop
  | none, read => read = []
  | some u, read => u.Spells read

theorem holds_none : Decoder.Holds none [] := rfl

theorem Decoder.Holds.taken_eq {decoder : Decoder} {read : List UInt8}
    (holds : decoder.Holds read) : decoder.taken = read.length := by
  cases decoder with
  | none => simp [Decoder.taken, show read = [] from holds]
  | some u => exact Unfinished.Spells.taken holds

/-- A byte that completes no character is held with those before it. -/
theorem holds_push_none {decoder next : Decoder} {read : List UInt8} {position : Nat}
    {byte : UInt8} (holds : decoder.Holds read)
    (pushed : decoder.push position byte = .ok (none, next)) : next.Holds (read ++ [byte]) := by
  cases decoder with
  | none =>
    obtain rfl : read = [] := holds
    simp only [Decoder.push] at pushed
    split at pushed
    · cases pushed
    · split at pushed
      · next u opened =>
        cases pushed
        exact spells_ofLead opened
      · cases pushed
  | some u =>
    have spells : u.Spells read := holds
    simp only [Decoder.push] at pushed
    split at pushed
    · next inRange =>
      split at pushed
      · cases pushed
      · next more =>
        cases pushed
        have low := spells.low
        have high := spells.high
        simp only [Bool.and_eq_true, decide_eq_true_eq, UInt8.le_iff_toNat_le] at inRange
        obtain ⟨count, counted⟩ : ∃ count, u.missing = count + 2 := ⟨u.missing - 2, by omega⟩
        have fewer : u.missing - 1 = count + 1 := by omega
        refine ⟨by simp [spells.taken], by dsimp only; omega, Nat.le_refl _, Nat.le_refl _, ?_⟩
        intro n bits _ _
        dsimp only at bits ⊢
        rw [fewer] at bits ⊢
        have digit : n / 64 ^ (count + 1) % 64 + 0x80 = byte.toNat := by omega
        have quotient : n / 64 ^ (count + 2) = u.bits := by
          rw [Nat.pow_succ, ← Nat.div_div_eq_div_mul]
          omega
        have whole := spells.complete n (by rw [counted, quotient])
          (by rw [fewer]; omega) (by rw [fewer]; omega)
        rw [whole, counted, continuation, digit, UInt8.ofNat_toNat]
        simp
    · cases pushed

/-- A byte that completes a character ends the bytes of that character. -/
theorem holds_push_some {decoder next : Decoder} {read : List UInt8} {position : Nat}
    {byte : UInt8} {c : Char} (holds : decoder.Holds read)
    (pushed : decoder.push position byte = .ok (some c, next)) :
    next = none ∧ String.utf8EncodeChar c = read ++ [byte] := by
  cases decoder with
  | none =>
    obtain rfl : read = [] := holds
    simp only [Decoder.push] at pushed
    split at pushed
    · next ascii =>
      cases pushed
      rw [UInt8.lt_iff_toNat_lt] at ascii
      exact ⟨rfl, by rw [encodeChar_one ascii, UInt8.ofNat_toNat]; rfl⟩
    · split at pushed <;> cases pushed
  | some u =>
    have spells : u.Spells read := holds
    simp only [Decoder.push] at pushed
    split at pushed
    · next inRange =>
      split at pushed
      · next single =>
        cases pushed
        have low := spells.low
        have high := spells.high
        simp only [Bool.and_eq_true, decide_eq_true_eq, UInt8.le_iff_toNat_le] at inRange
        have counted : u.missing = 1 := Nat.le_antisymm single spells.missing
        have whole := spells.complete (u.bits * 64 + byte.toNat % 64)
          (by rw [counted]; omega) (by rw [counted]; simp; omega) (by rw [counted]; simp; omega)
        have digit : (u.bits * 64 + byte.toNat % 64) % 64 + 0x80 = byte.toNat := by omega
        refine ⟨rfl, ?_⟩
        rw [whole, counted, continuation, Nat.pow_zero, Nat.div_one, digit, UInt8.ofNat_toNat]
        rfl
      · cases pushed
    · cases pushed

/-! ## Reading bytes one after the other -/

section

variable {decoder next : Decoder} {position : Nat} {done chars : List Char} {bytes : List UInt8}

theorem pushAll_append (xs ys : List UInt8) :
    decoder.pushAll position done (xs ++ ys) =
      match decoder.pushAll position done xs with
      | .error fault => .error fault
      | .ok (chars, next) => next.pushAll (position + xs.length) chars.reverse ys := by
  induction xs generalizing decoder position done with
  | nil => simp [Decoder.pushAll]
  | cons byte xs ih =>
    simp only [List.cons_append, Decoder.pushAll]
    have place : position + 1 + xs.length = position + (byte :: xs).length := by simp; omega
    cases decoder.push position byte with
    | error fault => rfl
    | ok pushed =>
      obtain ⟨read, next⟩ := pushed
      cases read with
      | none =>
        dsimp only
        rw [ih, place]
      | some c =>
        dsimp only
        rw [ih, place]

/-- What is read does not depend on where the bytes stand; only the place of a fault does. -/
theorem push_move {byte : UInt8} {pushed : Option Char × Decoder}
    (ok : decoder.push position byte = .ok pushed) (other : Nat) :
    decoder.push other byte = .ok pushed := by
  cases decoder with
  | none =>
    simp only [Decoder.push] at ok ⊢
    split
    · simp_all
    · split at ok
      · contradiction
      · split at ok
        · simp_all
        · cases ok
  | some u =>
    simp only [Decoder.push] at ok ⊢
    split at ok
    · simp_all
    · cases ok

theorem pushAll_move (ok : decoder.pushAll position done bytes = .ok (chars, next))
    (other : Nat) : decoder.pushAll other done bytes = .ok (chars, next) := by
  induction bytes generalizing decoder position done other with
  | nil => exact ok
  | cons byte bytes ih =>
    simp only [Decoder.pushAll] at ok ⊢
    cases pushed : decoder.push position byte with
    | error fault => simp [pushed] at ok
    | ok result =>
      rw [push_move pushed other]
      obtain ⟨read, after⟩ := result
      simp only [pushed] at ok
      cases read with
      | none => exact ih ok (other + 1)
      | some c => exact ih ok (other + 1)

/-- What was read before the bytes is kept in front of what they give. -/
theorem pushAll_done (decoder : Decoder) (position : Nat) (done : List Char)
    (bytes : List UInt8) :
    decoder.pushAll position done bytes =
      (decoder.pushAll position [] bytes).map fun read => (done.reverse ++ read.1, read.2) := by
  induction bytes generalizing decoder position done with
  | nil => simp [Decoder.pushAll, Except.map]
  | cons byte bytes ih =>
    simp only [Decoder.pushAll]
    cases decoder.push position byte with
    | error fault => rfl
    | ok pushed =>
      obtain ⟨read, after⟩ := pushed
      cases read with
      | none => exact ih _ _ _
      | some c =>
        dsimp only
        rw [ih, ih after (position + 1) [c]]
        cases after.pushAll (position + 1) [] bytes <;> simp [Except.map]

/-- Bytes that are read without fault are those of the characters read, and of one that is still
    unfinished. -/
theorem pushAll_ok {read : List UInt8} (holds : decoder.Holds read)
    (ok : decoder.pushAll position done bytes = .ok (chars, next)) :
    ∃ new rest, chars = done.reverse ++ new ∧ next.Holds rest ∧
      read ++ bytes = encode new ++ rest := by
  induction bytes generalizing decoder position done read with
  | nil =>
    simp only [Decoder.pushAll, Except.ok.injEq, Prod.mk.injEq] at ok
    obtain ⟨rfl, rfl⟩ := ok
    exact ⟨[], read, by simp, holds, by simp [encode]⟩
  | cons byte bytes ih =>
    simp only [Decoder.pushAll] at ok
    cases pushed : decoder.push position byte with
    | error fault => simp [pushed] at ok
    | ok result =>
      obtain ⟨complete, after⟩ := result
      simp only [pushed] at ok
      cases complete with
      | none =>
        obtain ⟨new, rest, chars_eq, held, split⟩ := ih (holds_push_none holds pushed) ok
        exact ⟨new, rest, chars_eq, held, by rw [← split]; simp⟩
      | some c =>
        obtain ⟨rfl, spelled⟩ := holds_push_some holds pushed
        obtain ⟨new, rest, chars_eq, held, split⟩ := ih holds_none ok
        refine ⟨c :: new, rest, by simp [chars_eq], held, ?_⟩
        simp only [encode, List.flatMap_cons, spelled, List.append_assoc] at split ⊢
        rw [← split]
        simp

theorem push_error_position {read : List UInt8} {byte : UInt8} {fault : Fault}
    (holds : decoder.Holds read) (failed : decoder.push position byte = .error fault) :
    fault.position = position - read.length := by
  cases decoder with
  | none =>
    obtain rfl : read = [] := holds
    simp only [Decoder.push] at failed
    split at failed
    · cases failed
    · split at failed
      · cases failed
      · cases failed
        rfl
  | some u =>
    have spells : u.Spells read := holds
    simp only [Decoder.push] at failed
    split at failed
    · split at failed <;> cases failed
    · cases failed
      simp [spells.taken]

/-- A fault stands right behind bytes of complete characters. -/
theorem pushAll_error {read : List UInt8} {fault : Fault} (holds : decoder.Holds read)
    (room : read.length ≤ position)
    (failed : decoder.pushAll position done bytes = .error fault) :
    ∃ new rest, read ++ bytes = encode new ++ rest ∧
      fault.position + read.length = position + (encode new).length := by
  induction bytes generalizing decoder position done read with
  | nil => simp [Decoder.pushAll] at failed
  | cons byte bytes ih =>
    simp only [Decoder.pushAll] at failed
    cases pushed : decoder.push position byte with
    | error found =>
      simp only [pushed, Except.error.injEq] at failed
      subst failed
      have place := push_error_position holds pushed
      exact ⟨[], read ++ byte :: bytes, by simp [encode], by simp [encode]; omega⟩
    | ok result =>
      obtain ⟨complete, after⟩ := result
      simp only [pushed] at failed
      cases complete with
      | none =>
        obtain ⟨new, rest, split, place⟩ :=
          ih (holds_push_none holds pushed) (by simp; omega) failed
        exact ⟨new, rest, by rw [← split]; simp, by simp at place; omega⟩
      | some c =>
        obtain ⟨rfl, spelled⟩ := holds_push_some holds pushed
        obtain ⟨new, rest, split, place⟩ := ih holds_none (by simp) failed
        have length := congrArg List.length spelled
        refine ⟨c :: new, rest, ?_, ?_⟩
        · simp only [encode, List.flatMap_cons, spelled, List.append_assoc] at split ⊢
          rw [← split]
          simp
        · simp [encode] at place length ⊢
          omega

end

/-! ## Reading what was written -/

/-- A character above the ASCII range is a lead byte, which opens it, and continuation bytes that
    suit the opened character. -/
theorem encodeChar_opens {n : Nat} (valid : n.isValidChar) (wide : 0x80 ≤ n) :
    ∃ byte u, String.utf8EncodeChar (Char.ofNat n) = byte :: continuation u.missing n ∧
      0x80 ≤ byte.toNat ∧ Unfinished.ofLead? byte = some u ∧ 1 ≤ u.missing ∧
      n / 64 ^ u.missing = u.bits ∧
      u.low.toNat ≤ n / 64 ^ (u.missing - 1) % 64 + 0x80 ∧
      n / 64 ^ (u.missing - 1) % 64 + 0x80 ≤ u.high.toNat := by
  have top : n < 0x110000 := by unfold Nat.isValidChar at valid; omega
  by_cases two : n < 0x800
  · refine ⟨_, ⟨.ofNat (n / 64 + 0xc0), 1, 1, n / 64, 0x80, 0xbf⟩, encodeChar_two wide two, ?_⟩
    have lead : (UInt8.ofNat (n / 64 + 0xc0)).toNat = n / 64 + 0xc0 := by simp; omega
    refine ⟨by omega, ?_, by simp, by simp, by simp, by simp; omega⟩
    simp only [Unfinished.ofLead?, lead]
    rw [if_pos (by omega), show (n / 64 + 0xc0) % 32 = n / 64 by omega]
  by_cases three : n < 0x10000
  · have lead : (UInt8.ofNat (n / 4096 + 0xe0)).toNat = n / 4096 + 0xe0 := by simp; omega
    obtain ⟨low, high, opened, above, below⟩ : ∃ low high,
        Unfinished.ofLead? (.ofNat (n / 4096 + 0xe0)) =
          some ⟨.ofNat (n / 4096 + 0xe0), 1, 2, n / 4096, low, high⟩ ∧
        low.toNat ≤ n / 64 % 64 + 0x80 ∧ n / 64 % 64 + 0x80 ≤ high.toNat := by
      simp only [Unfinished.ofLead?, lead]
      rw [if_neg (by omega)]
      unfold Nat.isValidChar at valid
      by_cases first : n / 4096 = 0
      · exact ⟨0xa0, 0xbf, by simp [first], by simp; omega, by simp; omega⟩
      by_cases surrogate : n / 4096 = 13
      · exact ⟨0x80, 0x9f, by simp [surrogate], by simp, by simp; omega⟩
      · refine ⟨0x80, 0xbf, ?_, by simp, by simp; omega⟩
        rw [if_neg (by omega), if_neg (by omega), if_pos (by omega),
          show (n / 4096 + 0xe0) % 16 = n / 4096 by omega]
    exact ⟨_, _, encodeChar_three (by omega) three valid, by omega, opened, by simp, by simp,
      by simpa using above, by simpa using below⟩
  · have lead : (UInt8.ofNat (n / 262144 + 0xf0)).toNat = n / 262144 + 0xf0 := by simp; omega
    obtain ⟨low, high, opened, above, below⟩ : ∃ low high,
        Unfinished.ofLead? (.ofNat (n / 262144 + 0xf0)) =
          some ⟨.ofNat (n / 262144 + 0xf0), 1, 3, n / 262144, low, high⟩ ∧
        low.toNat ≤ n / 4096 % 64 + 0x80 ∧ n / 4096 % 64 + 0x80 ≤ high.toNat := by
      simp only [Unfinished.ofLead?, lead]
      rw [if_neg (by omega), if_neg (by omega), if_neg (by omega), if_neg (by omega)]
      by_cases first : n / 262144 = 0
      · exact ⟨0x90, 0xbf, by simp [first], by simp; omega, by simp; omega⟩
      by_cases last : n / 262144 = 4
      · exact ⟨0x80, 0x8f, by simp [last], by simp, by simp; omega⟩
      · refine ⟨0x80, 0xbf, ?_, by simp, by simp; omega⟩
        rw [if_neg (by omega), if_pos (by omega),
          show (n / 262144 + 0xf0) % 8 = n / 262144 by omega]
    exact ⟨_, _, encodeChar_four (by omega) top, by omega, opened, by simp, by simp,
      by simpa using above, by simpa using below⟩

/-- The continuation bytes of a number complete its character. -/
theorem pushAll_continuation {u : Unfinished} {n position : Nat} {done : List Char}
    (missing : 1 ≤ u.missing) (bits : n / 64 ^ u.missing = u.bits)
    (low : u.low.toNat ≤ n / 64 ^ (u.missing - 1) % 64 + 0x80)
    (high : n / 64 ^ (u.missing - 1) % 64 + 0x80 ≤ u.high.toNat) (rest : List UInt8) :
    Decoder.pushAll (some u) position done (continuation u.missing n ++ rest) =
      Decoder.pushAll none (position + u.missing) (Char.ofNat n :: done) rest := by
  obtain ⟨count, counted⟩ : ∃ count, u.missing = count + 1 := ⟨u.missing - 1, by omega⟩
  induction count generalizing u position with
  | zero =>
    rw [counted] at bits low high ⊢
    have byte : (UInt8.ofNat (n / 64 ^ 0 % 64 + 0x80)).toNat = n % 64 + 0x80 := by simp; omega
    have inRange : (u.low ≤ UInt8.ofNat (n / 64 ^ 0 % 64 + 0x80) &&
        UInt8.ofNat (n / 64 ^ 0 % 64 + 0x80) ≤ u.high) = true := by
      simp only [Bool.and_eq_true, decide_eq_true_eq, UInt8.le_iff_toNat_le, byte]
      simp at low high
      omega
    have whole : u.bits * 64 + (n % 64 + 0x80) % 64 = n := by omega
    simp only [continuation, List.cons_append, List.nil_append, Decoder.pushAll, Decoder.push,
      inRange, if_true, counted, Nat.le_refl, byte, whole]
  | succ count ih =>
    rw [counted] at bits low high ⊢
    simp only [Nat.add_one_sub_one] at low high
    have byte : (UInt8.ofNat (n / 64 ^ (count + 1) % 64 + 0x80)).toNat =
        n / 64 ^ (count + 1) % 64 + 0x80 := by simp; omega
    have inRange : (u.low ≤ UInt8.ofNat (n / 64 ^ (count + 1) % 64 + 0x80) &&
        UInt8.ofNat (n / 64 ^ (count + 1) % 64 + 0x80) ≤ u.high) = true := by
      simp only [Bool.and_eq_true, decide_eq_true_eq, UInt8.le_iff_toNat_le, byte]
      omega
    have more : u.bits * 64 + (n / 64 ^ (count + 1) % 64 + 0x80) % 64 = n / 64 ^ (count + 1) := by
      rw [Nat.pow_succ, ← Nat.div_div_eq_div_mul] at bits
      omega
    rw [continuation, List.cons_append]
    simp only [Decoder.pushAll, Decoder.push, inRange, if_true, counted, byte, more]
    rw [if_neg (by omega)]
    dsimp only
    rw [show position + (count + 1 + 1) = position + 1 + (count + 1) by omega]
    apply ih
    · simp
    · rfl
    · simp
    · simp
      omega
    · rfl

/-- The bytes of a character are read as that character. -/
theorem pushAll_encodeChar {c : Char} {position : Nat} {done : List Char} (rest : List UInt8) :
    Decoder.pushAll none position done (String.utf8EncodeChar c ++ rest) =
      Decoder.pushAll none (position + (String.utf8EncodeChar c).length) (c :: done) rest := by
  have valid : c.toNat.isValidChar := c.valid
  have back : Char.ofNat c.toNat = c := Char.ofNat_toNat c
  by_cases ascii : c.toNat < 0x80
  · have byte : (UInt8.ofNat c.toNat).toNat = c.toNat := by simp; omega
    have small : UInt8.ofNat c.toNat < 0x80 := by
      rw [UInt8.lt_iff_toNat_lt, byte]
      exact ascii
    have spelled := encodeChar_one ascii
    rw [back] at spelled
    rw [spelled]
    simp only [List.cons_append, List.nil_append, Decoder.pushAll, Decoder.push, small, if_true,
      byte, back, List.length_singleton]
  · obtain ⟨byte, u, spelled, wide, opened, missing, bits, low, high⟩ :=
      encodeChar_opens valid (by omega)
    have large : ¬byte < 0x80 := by
      rw [UInt8.lt_iff_toNat_lt]
      exact Nat.not_lt.2 wide
    rw [back] at spelled
    rw [spelled]
    simp only [List.cons_append, Decoder.pushAll, Decoder.push, large, if_false, opened]
    rw [pushAll_continuation missing bits low high, back, List.length_cons, length_continuation,
      Nat.add_assoc, Nat.add_comm 1]

/-- Encoded characters are read as those characters, whatever follows them. -/
theorem pushAll_encode (position : Nat) (chars done : List Char) (rest : List UInt8) :
    Decoder.pushAll none position done (encode chars ++ rest) =
      Decoder.pushAll none (position + (encode chars).length) (chars.reverse ++ done) rest := by
  induction chars generalizing position done with
  | nil => simp [encode]
  | cons c chars ih =>
    simp only [encode, List.flatMap_cons, List.append_assoc] at ih ⊢
    rw [pushAll_encodeChar, ih]
    simp [Nat.add_assoc]

@[simp]
theorem decode_encode (chars : List Char) : decode (encode chars) = .ok chars := by
  have read : Decoder.block none (encode chars) = .ok (chars, none) := by
    have whole := pushAll_encode 0 chars [] []
    simpa [Decoder.block, Decoder.taken, Decoder.pushAll] using whole
  simp [decode, read, Decoder.endFault?]

/-- Bytes decode to the text that they are the encoding of, and to nothing else. -/
theorem decode_eq_ok_iff {bytes : List UInt8} {chars : List Char} :
    decode bytes = .ok chars ↔ bytes = encode chars := by
  constructor
  · intro decoded
    unfold decode at decoded
    split at decoded
    · cases decoded
    · next read decoder block =>
      split at decoded
      · cases decoded
      · next finished =>
        cases decoded
        obtain ⟨new, rest, chars_eq, held, split⟩ := pushAll_ok holds_none block
        obtain rfl : decoder = none := by simpa [Decoder.endFault?] using finished
        obtain rfl : rest = [] := held
        simpa [chars_eq] using split
  · rintro rfl
    exact decode_encode chars

/-- A character takes at least one byte. -/
theorem length_le_length_encode (chars : List Char) : chars.length ≤ (encode chars).length := by
  induction chars with
  | nil => exact Nat.le_refl _
  | cons c chars ih =>
    have taken := List.length_pos_of_ne_nil (String.utf8EncodeChar_ne_nil (c := c))
    simp only [encode, List.flatMap_cons, List.length_append, List.length_cons] at ih ⊢
    omega

/-- A fault stands behind all characters that the bytes begin with. -/
theorem length_le_of_decode_error {chars : List Char} {rest : List UInt8} {fault : Fault}
    (failed : decode (encode chars ++ rest) = .error fault) :
    (encode chars).length ≤ fault.position := by
  simp only [decode, Decoder.block, Decoder.taken] at failed
  rw [pushAll_encode] at failed
  cases read : Decoder.pushAll none (0 + (encode chars).length) (chars.reverse ++ []) rest with
  | error found =>
    obtain ⟨new, _, _, place⟩ := pushAll_error holds_none (by simp) read
    simp only [read, Except.error.injEq] at failed
    subst failed
    simp at place
    omega
  | ok result =>
    obtain ⟨all, next⟩ := result
    obtain ⟨new, unread, _, held, split⟩ := pushAll_ok holds_none read
    have taken := Decoder.Holds.taken_eq held
    have length := congrArg List.length split
    simp only [read] at failed
    cases next with
    | none => simp [Decoder.endFault?] at failed
    | some u =>
      simp only [Decoder.endFault?, Option.map_some, Except.error.injEq] at failed
      subst failed
      simp [Decoder.taken] at taken length ⊢
      omega

end JavadocRepair.Text.Utf8
