import Mathlib.Data.List.Basic

/-!
# Lines

A text is a list of symbols, and a line of it ends before the symbol `nl` or at the end of the text.

* `lines_append`, `lines_of_notMem`: how a text falls into lines
* `lines_induction`: induction over the lines of a text
* `endWith`: another ending for the lines that have one
-/

namespace Infra

variable {α : Type _} [DecidableEq α] {nl : α}

/-- The lines of a text, without their endings. Nothing after the last ending is not a line. -/
def lines (nl : α) : List α → List (List α)
  | [] => []
  | a :: text =>
    if a = nl then [] :: lines nl text
    else
      match lines nl text with
      | [] => [[a]]
      | line :: rest => (a :: line) :: rest

@[simp] theorem lines_nil : lines nl [] = [] := rfl

/-- The first line. -/
theorem lines_append {line : List α} (h : nl ∉ line) (text : List α) :
    lines nl (line ++ nl :: text) = line :: lines nl text := by
  induction line with
  | nil => exact if_pos rfl
  | cons a line ih =>
    obtain ⟨hne, h⟩ := List.ne_and_not_mem_of_not_mem_cons h
    rw [List.cons_append, lines, if_neg (Ne.symm hne), ih h]

/-- The last line, when it has no ending. -/
theorem lines_of_notMem {line : List α} (h : nl ∉ line) (hne : line ≠ []) :
    lines nl line = [line] := by
  induction line with
  | nil => exact absurd rfl hne
  | cons a line ih =>
    obtain ⟨ha, h⟩ := List.ne_and_not_mem_of_not_mem_cons h
    rw [lines, if_neg (Ne.symm ha)]
    by_cases hline : line = []
    · rw [hline, lines_nil]
    · rw [ih h hline]

/-- **Induction over the lines**, from the last one to the first. -/
theorem lines_induction (nl : α) {P : List α → Prop} (last : ∀ line, nl ∉ line → P line)
    (step : ∀ line text, nl ∉ line → P text → P (line ++ nl :: text)) (text : List α) :
    P text := by
  have hprefix : ∀ text line, nl ∉ line → P (line ++ text) := by
    intro text
    induction text with
    | nil =>
      intro line h
      rw [List.append_nil]
      exact last line h
    | cons a text ih =>
      intro line h
      by_cases ha : a = nl
      · rw [ha]
        exact step line text h (ih [] List.not_mem_nil)
      · have hmem : nl ∉ line ++ [a] := by
          rw [List.mem_append, List.mem_singleton, not_or]
          exact ⟨h, Ne.symm ha⟩
        rw [List.append_cons]
        exact ih (line ++ [a]) hmem
  exact hprefix text [] List.not_mem_nil

/-- The text with `ending` before every `nl`. -/
def endWith (ending : List α) (nl : α) (text : List α) : List α :=
  text.flatMap fun a => if a = nl then ending ++ [nl] else [a]

theorem endWith_of_notMem {ending line : List α} (h : nl ∉ line) :
    endWith ending nl line = line := by
  induction line with
  | nil => rfl
  | cons a line ih =>
    obtain ⟨ha, h⟩ := List.ne_and_not_mem_of_not_mem_cons h
    rw [endWith, List.flatMap_cons, if_neg (Ne.symm ha)]
    exact congrArg (a :: ·) (ih h)

/-- Every line gets the ending, and the symbol `nl` stays where it was. -/
theorem endWith_append {ending line : List α} (h : nl ∉ line) (text : List α) :
    endWith ending nl (line ++ nl :: text) =
      (line ++ ending) ++ nl :: endWith ending nl text := by
  have hline : line.flatMap (fun a => if a = nl then ending ++ [nl] else [a]) = line :=
    endWith_of_notMem h
  rw [endWith, List.flatMap_append, hline, List.flatMap_cons, if_pos rfl]
  simp only [List.append_assoc, List.singleton_append]
  rfl

end Infra
