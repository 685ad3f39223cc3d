/-!
# Blank characters and trimming

Blank are the tab, the line and page breaks, the four information separators, the spaces of the
Unicode character database and its line and paragraph separators; zero-width characters are not.
Trimming removes the longest blank runs at both ends.

    trim (trim cs) = trim cs                            (trim_trim)
    trim cs = [] ↔ ∀ c ∈ cs, isBlank c = true           (trim_eq_nil_iff)
-/

namespace RunLedger.Text

def isBlank (c : Char) : Bool :=
  let n := c.toNat
  (0x09 ≤ n && n ≤ 0x0D) || (0x1C ≤ n && n ≤ 0x20) || n == 0x85 || n == 0xA0 || n == 0x1680 ||
    (0x2000 ≤ n && n ≤ 0x200A) || n == 0x2028 || n == 0x2029 || n == 0x202F || n == 0x205F ||
    n == 0x3000

/-- The text from its first character that is not blank. -/
def trimLeft (cs : List Char) : List Char := cs.dropWhile isBlank

/-- The text up to its last character that is not blank. -/
def trimRight (cs : List Char) : List Char := (cs.reverse.dropWhile isBlank).reverse

def trim (cs : List Char) : List Char := trimRight (trimLeft cs)

def trimmed (s : String) : String := String.ofList (trim s.toList)

def isBlankText (s : String) : Bool := s.toList.all isBlank

/-! ## Lemmas -/

theorem dropWhile_of_head {p : Char → Bool} {cs : List Char}
    (h : ∀ c ∈ cs.head?, p c = false) : cs.dropWhile p = cs := by
  cases cs with
  | nil => rfl
  | cons c r => simp [h c (by simp)]

theorem head?_dropWhile {p : Char → Bool} (cs : List Char) :
    ∀ c ∈ (cs.dropWhile p).head?, p c = false := by
  induction cs with
  | nil => simp
  | cons c r ih =>
    by_cases hc : p c = true
    · simpa [hc] using ih
    · simp [hc]

theorem dropWhile_eq_nil {p : Char → Bool} {cs : List Char} (h : cs.dropWhile p = []) :
    ∀ c ∈ cs, p c = true := by
  induction cs with
  | nil => simp
  | cons c r ih =>
    by_cases hc : p c = true
    · rw [List.dropWhile_cons_of_pos hc] at h
      simpa [hc] using ih h
    · simp [hc] at h

theorem trimLeft_trimLeft (cs : List Char) : trimLeft (trimLeft cs) = trimLeft cs :=
  dropWhile_of_head (head?_dropWhile cs)

theorem trimRight_trimRight (cs : List Char) : trimRight (trimRight cs) = trimRight cs := by
  simp only [trimRight, List.reverse_reverse]
  rw [dropWhile_of_head (head?_dropWhile cs.reverse)]

theorem trimRight_cons_of_not_blank {c : Char} {r : List Char} (h : isBlank c = false) :
    trimRight (c :: r) = c :: trimRight r := by
  simp only [trimRight, List.reverse_cons, List.dropWhile_append]
  split
  · next hr =>
    have hr' : List.dropWhile isBlank r.reverse = [] := by simpa using hr
    simp [hr', h]
  · simp

theorem trimLeft_trimRight_trimLeft (cs : List Char) :
    trimLeft (trimRight (trimLeft cs)) = trimRight (trimLeft cs) := by
  apply dropWhile_of_head
  intro c hc
  cases hl : trimLeft cs with
  | nil => simp [hl, trimRight] at hc
  | cons d r =>
    have hd : isBlank d = false := head?_dropWhile cs d (by
      have : cs.dropWhile isBlank = d :: r := hl
      simp [this])
    rw [hl, trimRight_cons_of_not_blank hd] at hc
    simp only [List.head?_cons, Option.mem_some] at hc
    exact hc ▸ hd

theorem trim_trim (cs : List Char) : trim (trim cs) = trim cs := by
  rw [trim, trim, trimLeft_trimRight_trimLeft, trimRight_trimRight]

theorem trim_eq_nil_iff {cs : List Char} : trim cs = [] ↔ ∀ c ∈ cs, isBlank c = true := by
  constructor
  · intro h
    cases hl : trimLeft cs with
    | nil => exact dropWhile_eq_nil hl
    | cons d r =>
      have hd : isBlank d = false := head?_dropWhile cs d (by
        have : cs.dropWhile isBlank = d :: r := hl
        simp [this])
      rw [trim, hl, trimRight_cons_of_not_blank hd] at h
      simp at h
  · intro h
    have : trimLeft cs = [] := by
      induction cs with
      | nil => rfl
      | cons c r ih =>
        rw [trimLeft, List.dropWhile_cons_of_pos (h c (by simp))]
        exact ih fun d hd => h d (by simp [hd])
    simp [trim, this, trimRight]

end RunLedger.Text
