import InputReplay.Number.Decimal
import Mathlib.Data.List.Basic
import Mathlib.Data.List.TakeWhile
import Mathlib.Data.Option.Basic

/-! The written form of numbers. An integer is an optional sign and digits. A decimal is an optional sign, digits
with a point among or around them if there is one, and an exponent if there is one. What is written so is read as
what it says, and nothing else is read. -/

namespace InputReplay

/-- An optional sign; `true` is a minus. -/
inductive SignText : List Char → Bool → Prop
  | none : SignText [] false
  | plus : SignText ['+'] false
  | minus : SignText ['-'] true

/-- A run of digits, which may be empty. -/
def IsDigits (text : List Char) : Prop := ∀ c ∈ text, c.isDigit = true

/-- An integer: its text, the digits in it and its value. -/
inductive IntegerText : List Char → List Char → Int → Prop
  | mk {sign digits negative} (signed : SignText sign negative) (all : IsDigits digits) (full : digits ≠ []) :
      IntegerText (sign ++ digits) digits (if negative then -(numeral digits : Int) else numeral digits)

/-- Digits around a point, or digits alone: the text, and the digits before and after the point. -/
inductive MantissaText : List Char → List Char → List Char → Prop
  | whole {digits} (all : IsDigits digits) (full : digits ≠ []) : MantissaText digits digits []
  | point {before after} (left : IsDigits before) (right : IsDigits after) (full : before ≠ [] ∨ after ≠ []) :
      MantissaText (before ++ '.' :: after) before after

inductive ExponentText : List Char → Int → Prop
  | none : ExponentText [] 0
  | some {mark text digits n} (marked : mark = 'e' ∨ mark = 'E') (h : IntegerText text digits n) :
      ExponentText (mark :: text) n

/-- A decimal and the number it says. -/
inductive DecimalText : List Char → Decimal → Prop
  | mk {sign mantissa before after exponent negative n} (signed : SignText sign negative)
      (digits : MantissaText mantissa before after) (scaled : ExponentText exponent n) :
      DecimalText (sign ++ (mantissa ++ exponent)) ⟨negative, numeral (before ++ after), n - after.length⟩

/-! Signs. -/

theorem exists_signText (text : List Char) :
    ∃ sign, SignText sign (takeSign text).1 ∧ text = sign ++ (takeSign text).2 := by
  unfold takeSign
  split
  · exact ⟨['-'], .minus, rfl⟩
  · exact ⟨['+'], .plus, rfl⟩
  · exact ⟨[], .none, rfl⟩

theorem SignText.takeSign {sign rest : List Char} {negative : Bool} (h : SignText sign negative)
    (unsigned : ∀ c ∈ rest.head?, c ≠ '+' ∧ c ≠ '-') : takeSign (sign ++ rest) = (negative, rest) := by
  cases h with
  | plus | minus => rfl
  | none =>
    rw [List.nil_append]
    cases rest with
    | nil => rfl
    | cons c more =>
      obtain ⟨noPlus, noMinus⟩ := unsigned c rfl
      unfold InputReplay.takeSign
      split
      · next same => exact absurd (List.cons.inj same).1 noMinus
      · next same => exact absurd (List.cons.inj same).1 noPlus
      · rfl

/-! Digits. -/

theorem IsDigits.unsigned {digits : List Char} (all : IsDigits digits) : ∀ c ∈ digits.head?, c ≠ '+' ∧ c ≠ '-' := by
  intro c hc
  have digit := all c (List.mem_of_mem_head? hc)
  constructor
  · rintro rfl
    exact absurd digit (by decide)
  · rintro rfl
    exact absurd digit (by decide)

theorem isDigits_takeWhile (text : List Char) : IsDigits (text.takeWhile Char.isDigit) :=
  fun _ hc => List.mem_takeWhile_imp hc

variable {digits rest : List Char}

theorem IsDigits.takeWhile_append (all : IsDigits digits) (stop : ∀ c ∈ rest.head?, c.isDigit = false) :
    (digits ++ rest).takeWhile Char.isDigit = digits := by
  have none : rest.takeWhile Char.isDigit = [] := by
    cases rest with
    | nil => rfl
    | cons c more => rw [List.takeWhile_cons_of_neg (by simp [stop c rfl])]
  rw [List.takeWhile_append_of_pos all, none, List.append_nil]

theorem IsDigits.dropWhile_append (all : IsDigits digits) (stop : ∀ c ∈ rest.head?, c.isDigit = false) :
    (digits ++ rest).dropWhile Char.isDigit = rest := by
  rw [List.dropWhile_append_of_pos all]
  cases rest with
  | nil => rfl
  | cons c more => rw [List.dropWhile_cons_of_neg (by simp [stop c rfl])]

theorem numeral_zeros (n : Nat) (digits : List Char) :
    numeral (List.replicate n '0' ++ digits) = numeral digits := by
  induction n with
  | zero => rfl
  | succ n ih => exact ih

theorem isDigits_zeros (n : Nat) : IsDigits (List.replicate n '0') := by
  intro c hc
  rw [List.eq_of_mem_replicate hc]
  rfl

/-! Integers. -/

theorem integerText_zeros {n : Nat} (h : 0 < n) : IntegerText (List.replicate n '0') (List.replicate n '0') 0 := by
  have zero : numeral (List.replicate n '0') = 0 := by
    have zeros := numeral_zeros n []
    rwa [List.append_nil] at zeros
  have written := IntegerText.mk .none (isDigits_zeros n) (by simp [Nat.ne_of_gt h])
  rwa [zero] at written

theorem IntegerText.takeSign {text : List Char} {n : Int} (h : IntegerText text digits n) :
    (takeSign text).2 = digits := by
  obtain ⟨signed, all, -⟩ := h
  rw [signed.takeSign all.unsigned]

theorem readInteger?_eq_some_iff {text : List Char} {n : Int} :
    readInteger? text = some n ↔ ∃ digits, IntegerText text digits n := by
  constructor
  · intro h
    obtain ⟨sign, signed, whole⟩ := exists_signText text
    unfold readInteger? at h
    dsimp only at h
    split at h
    · next ok =>
      cases h
      refine ⟨(takeSign text).2, ?_⟩
      have parts := IntegerText.mk signed (List.all_eq_true.1 ok.2) ok.1
      rwa [← whole] at parts
    · cases h
  · rintro ⟨digits, signed, all, full⟩
    unfold readInteger?
    rw [signed.takeSign all.unsigned]
    exact if_pos ⟨full, List.all_eq_true.2 all⟩

/-! What characters there are in a number. -/

def isNumberChar (c : Char) : Bool := c.isDigit || c ∈ ['+', '-', '.', 'e', 'E']

def IsNumberText (text : List Char) : Prop := ∀ c ∈ text, isNumberChar c = true

theorem IsNumberText.append {text more : List Char} (h : IsNumberText text) (h' : IsNumberText more) :
    IsNumberText (text ++ more) := by
  intro c hc
  exact (List.mem_append.1 hc).elim (h c) (h' c)

theorem IsNumberText.cons {c : Char} {text : List Char} (first : isNumberChar c = true) (h : IsNumberText text) :
    IsNumberText (c :: text) := List.forall_mem_cons.2 ⟨first, h⟩

theorem IsNumberText.not_mem {text : List Char} (h : IsNumberText text) {c : Char}
    (other : isNumberChar c = false) : c ∉ text := by
  intro hc
  rw [h c hc] at other
  cases other

theorem IsDigits.isNumberText (all : IsDigits digits) : IsNumberText digits := by
  intro c hc
  rw [isNumberChar, all c hc, Bool.true_or]

theorem SignText.isNumberText {sign : List Char} {negative : Bool} (h : SignText sign negative) :
    IsNumberText sign := by
  cases h with
  | none => exact fun c hc => (List.not_mem_nil hc).elim
  | plus | minus => exact List.forall_mem_singleton.2 rfl

theorem IntegerText.isNumberText {text : List Char} {n : Int} (h : IntegerText text digits n) :
    IsNumberText text := by
  obtain ⟨signed, all, -⟩ := h
  exact signed.isNumberText.append all.isNumberText

theorem MantissaText.isNumberText {mantissa before after : List Char} (h : MantissaText mantissa before after) :
    IsNumberText mantissa := by
  cases h with
  | whole all _ => exact all.isNumberText
  | point left right _ => exact left.isNumberText.append (right.isNumberText.cons (by decide))

theorem ExponentText.isNumberText {text : List Char} {n : Int} (h : ExponentText text n) : IsNumberText text := by
  cases h with
  | none => exact fun _ hc => absurd hc List.not_mem_nil
  | some marked written =>
    refine written.isNumberText.cons ?_
    rcases marked with rfl | rfl <;> decide

theorem DecimalText.isNumberText {text : List Char} {d : Decimal} (h : DecimalText text d) :
    IsNumberText text := by
  obtain ⟨signed, digits, scaled⟩ := h
  exact signed.isNumberText.append (digits.isNumberText.append scaled.isNumberText)

/-! Decimals. -/

theorem MantissaText.full {mantissa before after : List Char} (h : MantissaText mantissa before after) :
    before ≠ [] ∨ after ≠ [] := by
  cases h with
  | whole _ full => exact .inl full
  | point _ _ full => exact full

theorem MantissaText.unsigned {mantissa before after : List Char} (h : MantissaText mantissa before after)
    (exponent : List Char) : ∀ c ∈ (mantissa ++ exponent).head?, c ≠ '+' ∧ c ≠ '-' := by
  have front {digits : List Char} (all : IsDigits digits) (full : digits ≠ []) (more : List Char) :
      ∀ c ∈ (digits ++ more).head?, c ≠ '+' ∧ c ≠ '-' := by
    rw [List.head?_append_of_ne_nil _ full]
    exact all.unsigned
  cases h with
  | whole all full => exact front all full exponent
  | point left right full =>
    rw [List.append_assoc]
    by_cases none : before = []
    · subst none
      rintro c ⟨⟩
      decide
    · exact front left none _

namespace Decimal

theorem readExponent?_eq_some_iff {text : List Char} {n : Int} :
    readExponent? text = some n ↔ ExponentText text n := by
  constructor
  · intro h
    cases text with
    | nil =>
      cases h
      exact .none
    | cons mark rest =>
      rw [readExponent?] at h
      split at h
      · next marked =>
        obtain ⟨digits, written⟩ := readInteger?_eq_some_iff.1 h
        exact .some marked written
      · cases h
  · intro h
    cases h with
    | none => rfl
    | some marked written =>
      rw [readExponent?, if_pos marked]
      exact readInteger?_eq_some_iff.2 ⟨_, written⟩

/-- An exponent begins with no digit and no point. -/
theorem head_of_exponentText {text : List Char} {n : Int} (h : ExponentText text n) :
    ∀ c ∈ text.head?, c.isDigit = false ∧ c ≠ '.' := by
  intro c hc
  cases h with
  | none => cases hc
  | some marked _ =>
    cases hc
    rcases marked with rfl | rfl <;> decide

/-- What is taken off the front of a text are the digits before and after a point, and what is left follows
them. -/
theorem exists_mantissaText (text : List Char)
    (full : text.takeWhile Char.isDigit ≠ [] ∨ (takeFraction (text.dropWhile Char.isDigit)).1 ≠ []) :
    ∃ mantissa,
      MantissaText mantissa (text.takeWhile Char.isDigit) (takeFraction (text.dropWhile Char.isDigit)).1 ∧
      text = mantissa ++ (takeFraction (text.dropWhile Char.isDigit)).2 := by
  have whole := (List.takeWhile_append_dropWhile (p := Char.isDigit) (l := text)).symm
  have before := isDigits_takeWhile text
  cases tail : text.dropWhile Char.isDigit with
  | nil =>
    rw [tail] at full whole
    exact ⟨_, .whole before (full.resolve_right fun none => none rfl), whole⟩
  | cons c more =>
    rw [tail] at full whole
    by_cases point : c = '.'
    · subst point
      refine ⟨_, .point before (isDigits_takeWhile more) full, ?_⟩
      rw [List.append_assoc, List.cons_append]
      simp only [takeFraction, List.takeWhile_append_dropWhile]
      exact whole
    · have none : takeFraction (c :: more) = ([], c :: more) := by
        unfold takeFraction
        split
        · next same => exact absurd (List.cons.inj same).1 point
        · rfl
      rw [none] at full ⊢
      exact ⟨_, .whole before (full.resolve_right fun none => none rfl), whole⟩

theorem take_mantissaText {mantissa before after exponent : List Char} (h : MantissaText mantissa before after)
    (stop : ∀ c ∈ exponent.head?, c.isDigit = false ∧ c ≠ '.') :
    (mantissa ++ exponent).takeWhile Char.isDigit = before ∧
    takeFraction ((mantissa ++ exponent).dropWhile Char.isDigit) = (after, exponent) := by
  cases h with
  | whole all full =>
    have ended : ∀ c ∈ exponent.head?, c.isDigit = false := fun c hc => (stop c hc).1
    rw [all.takeWhile_append ended, all.dropWhile_append ended]
    refine ⟨rfl, ?_⟩
    unfold takeFraction
    split
    · exact absurd rfl (stop '.' rfl).2
    · rfl
  | point left right full =>
    have pointed : ∀ c ∈ ('.' :: after ++ exponent).head?, c.isDigit = false := by
      rintro c ⟨⟩
      rfl
    have ended : ∀ c ∈ exponent.head?, c.isDigit = false := fun c hc => (stop c hc).1
    rw [List.append_assoc, left.takeWhile_append pointed, left.dropWhile_append pointed]
    refine ⟨rfl, ?_⟩
    rw [List.cons_append, takeFraction, right.takeWhile_append ended, right.dropWhile_append ended]

theorem read?_eq_some_iff {text : List Char} {d : Decimal} : read? text = some d ↔ DecimalText text d := by
  constructor
  · intro h
    unfold read? at h
    dsimp only at h
    obtain ⟨_, full, h⟩ := Option.bind_eq_some_iff.1 h
    obtain ⟨n, scaled, same⟩ := Option.bind_eq_some_iff.1 h
    cases same
    have full := (Option.guard_eq_some' _).1 full
    obtain ⟨sign, signed, whole⟩ := exists_signText text
    obtain ⟨mantissa, digits, rest⟩ := exists_mantissaText _ full
    have parts := DecimalText.mk signed digits (readExponent?_eq_some_iff.1 scaled)
    rwa [← rest, ← whole] at parts
  · rintro ⟨signed, digits, scaled⟩
    obtain ⟨before, after⟩ := take_mantissaText digits (head_of_exponentText scaled)
    unfold read?
    rw [signed.takeSign (digits.unsigned _)]
    dsimp only
    rw [before, after]
    have full := digits.full
    refine Option.bind_eq_some_iff.2 ⟨(), (Option.guard_eq_some' _).2 full, ?_⟩
    exact Option.bind_eq_some_iff.2 ⟨_, readExponent?_eq_some_iff.2 scaled, rfl⟩

end Decimal
end InputReplay
