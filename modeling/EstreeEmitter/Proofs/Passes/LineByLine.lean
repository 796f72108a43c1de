import EstreeEmitter.Proofs.Passes.PutsLines
import EstreeEmitter.Proofs.Passes.Steps

set_option autoImplicit false

/-! # Passes that work line by line

The passes for increments and for printed sums scan a whole text, yet no line has any influence on
how another one is edited (`edited_line_by_line`): whatever they recognise, a quoted text included,
stands on one line. A printed sum is recognised by the line feed behind it, so there a line is
edited together with its line feed. -/

namespace EstreeEmitter.Passes

open Text

theorem endedText_concat (lines : List (List Char)) (last rest : List Char) :
    endedText (lines ++ [last]) ++ rest = endedText lines ++ last ++ '\n' :: rest := by
  simp [endedText]

/-- Printed sums are stringified line by line. -/
theorem stringifyPuts_lineFeed (code rest : List Char) :
    stringifyPuts (code ++ '\n' :: rest) =
      stringifyPuts (code ++ ['\n']) ++ stringifyPuts rest := by
  obtain ⟨lines, last, rfl, hlines, hlast⟩ := exists_endedText code
  have hall : ∀ line ∈ lines ++ [last], '\n' ∉ line := by
    intro line hm
    rcases List.mem_append.mp hm with hm | hm
    · exact hlines line hm
    · rwa [List.mem_singleton.mp hm]
  -- the lines of the code are full ones in both texts
  have hedit : ∀ behind, stringifyPuts (endedText lines ++ last ++ '\n' :: behind) =
      endedText ((lines ++ [last]).map stringifyLine) ++ stringifyPuts behind := by
    intro behind
    rw [← endedText_concat, stringifyPuts_endedText_append hall]
  rw [hedit, hedit]
  simp [stringifyPuts_of_not_mem]

theorem stringifyPuts_lines (lines : List (List Char)) (rest : List Char) :
    stringifyPuts (endedText lines ++ rest) =
      (lines.flatMap fun line => stringifyPuts (line ++ ['\n'])) ++ stringifyPuts rest := by
  induction lines with
  | nil => rfl
  | cons line lines ih =>
      rw [endedText_cons, List.append_assoc, List.cons_append, stringifyPuts_lineFeed, ih,
        List.flatMap_cons, List.append_assoc]

/-- **Increments and printed sums are edited line by line.** A text is edited like its parts before
and behind any line feed; so every line is edited as if it stood alone, and no quote of another line
matters. -/
theorem edited_line_by_line (code rest : List Char) (lines : List (List Char)) :
    increments (code ++ '\n' :: rest) = increments code ++ '\n' :: increments rest ∧
      stringifyPuts (code ++ '\n' :: rest) =
        stringifyPuts (code ++ ['\n']) ++ stringifyPuts rest ∧
      increments (joinWith ['\n'] lines) = joinWith ['\n'] (lines.map increments) ∧
      stringifyPuts (endedText lines ++ rest) =
        (lines.flatMap fun line => stringifyPuts (line ++ ['\n'])) ++ stringifyPuts rest :=
  ⟨increments_lineFeed code rest, stringifyPuts_lineFeed code rest, increments_joinWith lines,
    stringifyPuts_lines lines rest⟩

end EstreeEmitter.Passes
