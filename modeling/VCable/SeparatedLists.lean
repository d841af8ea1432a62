import Mathlib.Data.List.Basic

/-!
# Splitting a prefix

Splitting a list at a separator, when the list is a sequence of ended lines or
is cut short.
-/

namespace SeparatedLists

variable {α : Type*} [BEq α] {separator : α}

/-- A sequence of lines, each ended by the separator, splits into the lines and
an empty rest. -/
theorem splitOn_flatMap_ended [LawfulBEq α] {lines : List (List α)}
    (free : ∀ line ∈ lines, separator ∉ line) :
    (lines.flatMap (· ++ [separator])).splitOn separator = lines ++ [[]] := by
  induction lines with
  | nil => rfl
  | cons line lines ih =>
      rw [List.flatMap_cons, List.append_assoc, List.singleton_append,
        List.splitOn_append_cons_self_of_not_mem (free line (by simp)),
        ih fun other otherMem => free other (by simp [otherMem]), List.cons_append]

/-- A list that is cut short splits into the same pieces up to the last one,
which is a prefix of its whole. -/
theorem splitOn_of_isPrefix {first whole : List α} (starts : first <+: whole) :
    ∃ complete last lastWhole rest, first.splitOn separator = complete ++ [last] ∧
      whole.splitOn separator = complete ++ lastWhole :: rest ∧ last <+: lastWhole := by
  induction first generalizing whole with
  | nil =>
      obtain ⟨lastWhole, rest, pieces⟩ :=
        List.exists_cons_of_ne_nil (List.splitOn_ne_nil separator whole)
      exact ⟨[], [], lastWhole, rest, rfl, pieces, List.nil_prefix⟩
  | cons head first ih =>
      obtain ⟨further, rfl⟩ := starts
      obtain ⟨complete, last, lastWhole, rest, pieces, wholePieces, lastStarts⟩ :=
        ih (List.prefix_append first further)
      rw [List.cons_append, List.splitOn_cons_eq_if_modifyHead,
        List.splitOn_cons_eq_if_modifyHead, pieces, wholePieces]
      split
      · exact ⟨[] :: complete, last, lastWhole, rest, rfl, rfl, lastStarts⟩
      · cases complete with
        | nil =>
            exact ⟨[], head :: last, head :: lastWhole, rest, rfl, rfl,
              List.cons_prefix_cons.mpr ⟨rfl, lastStarts⟩⟩
        | cons piece complete =>
            exact ⟨(head :: piece) :: complete, last, lastWhole, rest, rfl, rfl, lastStarts⟩

/-- Each piece of a list that is cut short starts a piece of the whole. -/
theorem exists_piece_of_prefix {first whole piece : List α} (starts : first <+: whole)
    (member : piece ∈ first.splitOn separator) :
    ∃ wholePiece ∈ whole.splitOn separator, piece <+: wholePiece := by
  obtain ⟨complete, last, lastWhole, rest, pieces, wholePieces, lastStarts⟩ :=
    splitOn_of_isPrefix starts
  rw [pieces, List.mem_append, List.mem_singleton] at member
  rw [wholePieces]
  rcases member with done | rfl
  · exact ⟨piece, List.mem_append_left _ done, List.prefix_refl _⟩
  · exact ⟨lastWhole, by simp, lastStarts⟩

/-- What is in a piece of a list is in the list. -/
theorem mem_of_mem_splitOn {whole piece : List α} {item : α}
    (member : piece ∈ whole.splitOn separator) (inside : item ∈ piece) : item ∈ whole := by
  induction whole generalizing piece with
  | nil =>
      rw [List.splitOn_nil, List.mem_singleton] at member
      rwa [member] at inside
  | cons head whole ih =>
      obtain ⟨first, rest, pieces⟩ :=
        List.exists_cons_of_ne_nil (List.splitOn_ne_nil separator whole)
      rw [List.splitOn_cons_eq_if_modifyHead, pieces] at member
      rw [pieces] at ih
      split at member
      · rcases List.mem_cons.mp member with rfl | later
        · cases inside
        · exact List.mem_cons_of_mem _ (ih later inside)
      · rw [List.modifyHead_cons] at member
        rcases List.mem_cons.mp member with rfl | later
        · rcases List.mem_cons.mp inside with rfl | further
          · exact List.mem_cons_self
          · exact List.mem_cons_of_mem _ (ih List.mem_cons_self further)
        · exact List.mem_cons_of_mem _ (ih (List.mem_cons_of_mem _ later) inside)

end SeparatedLists
