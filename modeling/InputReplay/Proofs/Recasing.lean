import InputReplay.Proofs.Names
import Mathlib.Data.List.Forall2

/-! Texts that differ in the case of ASCII letters alone. Lower case does not tell them apart, although it looks at
the neighbours of a sigma: letters of either case are cased, and none of them is passed over. So a key is found by
its name in any mixture of cases. -/

namespace InputReplay

/-- Texts that are alike but for the case of ASCII letters. -/
def Recased (text text' : List Char) : Prop := List.Forall₂ (fun c c' => c.toLower = c'.toLower) text text'

instance (text text' : List Char) : Decidable (Recased text text') := inferInstanceAs (Decidable (List.Forall₂ _ _ _))

/-- A character is its own small letter unless it is a capital letter of ASCII. -/
theorem toLower_cases (c : Char) : c.toLower = c ∨ ∃ n < 26, c = Char.ofNat (65 + n) := by
  unfold Char.toLower
  split
  · next capital =>
    right
    have low : 65 ≤ c.toNat := UInt32.le_iff_toNat_le.1 capital.1
    have high : c.toNat ≤ 90 := UInt32.le_iff_toNat_le.1 capital.2
    refine ⟨c.toNat - 65, by omega, ?_⟩
    rw [Nat.add_sub_cancel' low, Char.ofNat_toNat]
  · exact .inl rfl

/-- What is the same for each capital letter and its small one is the same for characters that differ in case. -/
theorem eq_of_toLower_eq {α : Type} {f : Char → α}
    (letters : ∀ n < 26, f (Char.ofNat (65 + n)).toLower = f (Char.ofNat (65 + n))) {c c' : Char}
    (same : c.toLower = c'.toLower) : f c = f c' := by
  have small (c : Char) : f c.toLower = f c := by
    rcases toLower_cases c with own | ⟨n, hn, rfl⟩
    · rw [own]
    · exact letters n hn
  rw [← small c, same, small c']

section
variable {c c' : Char} (same : c.toLower = c'.toLower)
include same

theorem isCased_eq : isCased c = isCased c' := eq_of_toLower_eq (by decide) same

theorem isCaseIgnorable_eq : isCaseIgnorable c = isCaseIgnorable c' := eq_of_toLower_eq (by decide +kernel) same

theorem lowerChar_eq : lowerChar c = lowerChar c' := eq_of_toLower_eq (by decide) same

theorem eq_sigma_iff : c = 'Σ' ↔ c' = 'Σ' := by
  have alike := eq_of_toLower_eq (f := fun c => decide (c = 'Σ')) (by decide) same
  exact decide_eq_decide.1 alike

end

namespace Recased

variable {text text' : List Char}

theorem dropWhile (h : Recased text text') {p : Char → Bool} (alike : ∀ c c', c.toLower = c'.toLower → p c = p c') :
    Recased (text.dropWhile p) (text'.dropWhile p) := by
  induction h with
  | nil => exact .nil
  | @cons c c' _ _ same others ih =>
    by_cases skip : p c = true
    · rw [List.dropWhile_cons_of_pos skip, List.dropWhile_cons_of_pos (alike c c' same ▸ skip)]
      exact ih
    · rw [List.dropWhile_cons_of_neg skip, List.dropWhile_cons_of_neg (alike c c' same ▸ skip)]
      exact .cons same others

theorem meetsCased_eq (h : Recased text text') : meetsCased text = meetsCased text' := by
  unfold meetsCased
  have passed := h.dropWhile fun _ _ => isCaseIgnorable_eq
  generalize text.dropWhile isCaseIgnorable = rest, text'.dropWhile isCaseIgnorable = rest' at passed ⊢
  cases passed with
  | nil => rfl
  | cons same _ => exact isCased_eq same

theorem lowerAfter_eq {before before' : List Char} (h : Recased text text') (hb : Recased before before') :
    lowerAfter before text = lowerAfter before' text' := by
  induction h generalizing before before' with
  | nil => rfl
  | @cons c c' rest rest' same others ih =>
    -- a sigma has its form by what is cased on either side
    have ends : endsWord before rest = endsWord before' rest' := by
      rw [endsWord, endsWord, meetsCased_eq hb, meetsCased_eq others]
    simp only [lowerAfter, eq_sigma_iff same, ends, lowerChar_eq same, ih (.cons same hb)]

end Recased

theorem lowerCase_eq_of_recased {text text' : String} (h : Recased text.toList text'.toList) :
    lowerCase text = lowerCase text' := congrArg String.ofList (h.lowerAfter_eq .nil)

/-- A key is found by every spelling of its name in capital and small letters. -/
theorem KeyCode.lookup?_eq_of_recased {name name' : String} (h : Recased name.toList name'.toList) :
    lookup? name = lookup? name' := by
  unfold lookup?
  rw [lowerCase_eq_of_recased h]

end InputReplay
