/-!
# Line breaks

A line break of two characters, carriage return and line feed, counts as the line feed alone.

    '\r' ∉ cs → singleBreaks cs = cs                    (singleBreaks_of_not_mem)
-/

namespace RunLedger.Text

/-- The text with line breaks of two characters made into one. -/
def singleBreaks : List Char → List Char
  | '\r' :: '\n' :: rest => '\n' :: singleBreaks rest
  | c :: rest => c :: singleBreaks rest
  | [] => []

theorem singleBreaks_of_not_mem {cs : List Char} (h : '\r' ∉ cs) : singleBreaks cs = cs := by
  fun_induction singleBreaks cs with
  | case1 rest ih => simp at h
  | case2 c rest _ ih => rw [ih fun hm => h (List.mem_cons_of_mem c hm)]
  | case3 => rfl

end RunLedger.Text
