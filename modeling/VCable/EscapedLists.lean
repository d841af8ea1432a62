import Mathlib.Data.List.Basic
import Mathlib.Tactic.Common

/-!
# Escaped lists

An encoding that copies some items and writes every other one as a mark with
two code items.  If the mark is itself copied, two lists can have one code:
exactly if each is the other with some items in place of their escapes.
-/

/-- An escaping: what is copied, the mark, and the code of an escaped item. -/
structure Escaping (α : Type*) where
  kept : α → Bool
  mark : α
  high : α → α
  low : α → α
  high_ne_mark : ∀ item, high item ≠ mark
  low_ne_mark : ∀ item, low item ≠ mark
  code_injective : ∀ first second, high first = high second → low first = low second →
    first = second

namespace Escaping

variable {α : Type*} (escaping : Escaping α)

def encodeItem (item : α) : List α :=
  if escaping.kept item then [item]
  else [escaping.mark, escaping.high item, escaping.low item]

def encode (items : List α) : List α :=
  items.flatMap escaping.encodeItem

/-- The lists differ at most in that escapes stand for their items. -/
inductive Alike : List α → List α → Prop
  | nil : Alike [] []
  | cons (item : α) {first second : List α} (rest : Alike first second) :
      Alike (item :: first) (item :: second)
  | escapedRight {item : α} {first second : List α} (escaped : escaping.kept item = false)
      (mark : escaping.kept escaping.mark = true)
      (high : escaping.kept (escaping.high item) = true)
      (low : escaping.kept (escaping.low item) = true) (rest : Alike first second) :
      Alike (item :: first) (escaping.mark :: escaping.high item :: escaping.low item :: second)
  | escapedLeft {item : α} {first second : List α} (escaped : escaping.kept item = false)
      (mark : escaping.kept escaping.mark = true)
      (high : escaping.kept (escaping.high item) = true)
      (low : escaping.kept (escaping.low item) = true) (rest : Alike first second) :
      Alike (escaping.mark :: escaping.high item :: escaping.low item :: first) (item :: second)

variable {escaping} {item : α} {first second rest : List α}

theorem encode_kept (kept : escaping.kept item = true) :
    escaping.encode (item :: rest) = item :: escaping.encode rest := by
  rw [encode, List.flatMap_cons, encodeItem, if_pos kept]
  rfl

theorem encode_escaped (escaped : escaping.kept item = false) :
    escaping.encode (item :: rest) =
      escaping.mark :: escaping.high item :: escaping.low item :: escaping.encode rest := by
  rw [encode, List.flatMap_cons, encodeItem, if_neg (by simp [escaped])]
  rfl

theorem encode_eq_of_alike (alike : escaping.Alike first second) :
    escaping.encode first = escaping.encode second := by
  induction alike with
  | nil => rfl
  | cons item _ ih =>
      rw [encode, encode, List.flatMap_cons, List.flatMap_cons]
      exact congrArg _ ih
  | escapedRight escaped mark high low _ ih =>
      rw [encode_escaped escaped, encode_kept mark, encode_kept high, encode_kept low, ih]
  | escapedLeft escaped mark high low _ ih =>
      rw [encode_escaped escaped, encode_kept mark, encode_kept high, encode_kept low, ih]

/-- A code that goes on with an item other than the mark comes from a list that
has that item copied. -/
theorem encode_eq_cons (unmarked : item ≠ escaping.mark)
    (code : escaping.encode first = item :: rest) :
    ∃ later, first = item :: later ∧ escaping.kept item = true ∧ escaping.encode later = rest := by
  cases first with
  | nil => cases code
  | cons other later =>
      cases kept : escaping.kept other with
      | true =>
          rw [encode_kept kept] at code
          obtain ⟨rfl, tail⟩ := List.cons.inj code
          exact ⟨later, rfl, kept, tail⟩
      | false =>
          rw [encode_escaped kept] at code
          exact absurd (List.cons.inj code).1.symm unmarked

/-- Where one code has an escape and the other copies, the copied items spell
the escape out. -/
theorem spelled_of_encode_eq {other : α} (escaped : escaping.kept item = false)
    (kept : escaping.kept other = true)
    (same : escaping.encode (item :: first) = escaping.encode (other :: second)) :
    ∃ later, second = escaping.high item :: escaping.low item :: later ∧ other = escaping.mark ∧
      escaping.kept (escaping.high item) = true ∧ escaping.kept (escaping.low item) = true ∧
        escaping.encode first = escaping.encode later := by
  rw [encode_escaped escaped, encode_kept kept] at same
  obtain ⟨mark, tail⟩ := List.cons.inj same
  obtain ⟨afterHigh, rfl, highKept, code⟩ := encode_eq_cons (escaping.high_ne_mark item) tail.symm
  obtain ⟨later, rfl, lowKept, code⟩ := encode_eq_cons (escaping.low_ne_mark item) code
  exact ⟨later, rfl, mark.symm, highKept, lowKept, code.symm⟩

theorem encode_eq_iff : escaping.encode first = escaping.encode second ↔
    escaping.Alike first second := by
  refine ⟨fun same => ?_, encode_eq_of_alike⟩
  induction size : first.length + second.length using Nat.strongRecOn
    generalizing first second with
  | ind size ih =>
      cases first with
      | nil =>
          cases second with
          | nil => exact .nil
          | cons other second =>
              cases kept : escaping.kept other with
              | true => rw [encode_kept kept] at same; cases same
              | false => rw [encode_escaped kept] at same; cases same
      | cons item first =>
          cases second with
          | nil =>
              cases kept : escaping.kept item with
              | true => rw [encode_kept kept] at same; cases same
              | false => rw [encode_escaped kept] at same; cases same
          | cons other second =>
              simp only [List.length_cons] at size
              cases kept : escaping.kept item with
              | true =>
                  cases otherKept : escaping.kept other with
                  | true =>
                      rw [encode_kept kept, encode_kept otherKept] at same
                      obtain ⟨rfl, tail⟩ := List.cons.inj same
                      exact .cons item (ih _ (by omega) tail rfl)
                  | false =>
                      obtain ⟨later, rfl, rfl, high, low, tail⟩ :=
                        spelled_of_encode_eq otherKept kept same.symm
                      simp only [List.length_cons] at size
                      exact .escapedLeft otherKept kept high low (ih _ (by omega) tail.symm rfl)
              | false =>
                  cases otherKept : escaping.kept other with
                  | true =>
                      obtain ⟨later, rfl, rfl, high, low, tail⟩ :=
                        spelled_of_encode_eq kept otherKept same
                      simp only [List.length_cons] at size
                      exact .escapedRight kept otherKept high low (ih _ (by omega) tail rfl)
                  | false =>
                      rw [encode_escaped kept, encode_escaped otherKept] at same
                      simp only [List.cons.injEq, true_and] at same
                      obtain ⟨high, low, tail⟩ := same
                      obtain rfl := escaping.code_injective item other high low
                      exact .cons item (ih _ (by omega) tail rfl)

end Escaping
