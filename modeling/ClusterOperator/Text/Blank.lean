/-!
# Blanks at the ends of a text

Settings and quantities are read after the white space around them is cut off. White space is the
Unicode property of that name: 25 characters, of which six are ASCII.

## Main definitions

* `Text.isBlank`: the property.
* `Text.trimLeft`, `Text.trimRight`, `Text.trim`: a list of characters without the blanks at its
  start, at its end, and at both.

## Main results

* `Text.trim_trim`: cutting twice is cutting once.
-/

namespace ClusterOperator.Text

/-- The Unicode property *white space*. -/
def isBlank (c : Char) : Bool :=
  let n := c.toNat
  n == 0x20 || (9 ≤ n && n ≤ 13) || n == 0x85 || n == 0xa0 || n == 0x1680 ||
    (0x2000 ≤ n && n ≤ 0x200a) || n == 0x2028 || n == 0x2029 || n == 0x202f || n == 0x205f ||
    n == 0x3000

/-- The characters from the first one that is no blank. -/
def trimLeft (cs : List Char) : List Char := cs.dropWhile isBlank

/-- The characters up to the last one that is no blank. -/
def trimRight (cs : List Char) : List Char := (cs.reverse.dropWhile isBlank).reverse

/-- The characters between the blanks at both ends. -/
def trim (cs : List Char) : List Char := trimRight (trimLeft cs)

theorem trimLeft_trimLeft (cs : List Char) : trimLeft (trimLeft cs) = trimLeft cs := by
  induction cs with
  | nil => rfl
  | cons c r ih =>
    by_cases h : isBlank c = true
    · simpa [trimLeft, h] using ih
    · simp [trimLeft, h]

theorem trimRight_eq (cs : List Char) : trimRight cs = (trimLeft cs.reverse).reverse := rfl

theorem trimRight_trimRight (cs : List Char) : trimRight (trimRight cs) = trimRight cs := by
  simp [trimRight_eq, trimLeft_trimLeft]

/-- Cutting the end of a text that starts with no blank leaves it so. -/
theorem trimLeft_trimRight_trimLeft (cs : List Char) :
    trimLeft (trimRight (trimLeft cs)) = trimRight (trimLeft cs) := by
  generalize hds : trimLeft cs = ds
  have hfix : trimLeft ds = ds := by rw [← hds, trimLeft_trimLeft]
  cases ds with
  | nil => rfl
  | cons d ds =>
    have hd : isBlank d = false := by
      refine Bool.eq_false_iff.mpr fun h => ?_
      have hle : (trimLeft (d :: ds)).length ≤ ds.length := by
        simpa [trimLeft, h] using (List.dropWhile_sublist isBlank).length_le
      rw [hfix, List.length_cons] at hle
      omega
    have hend : ∃ es, trimRight (d :: ds) = d :: es := by
      rw [trimRight_eq, List.reverse_cons]
      unfold trimLeft
      rw [List.dropWhile_append]
      split
      · exact ⟨[], by simp [hd]⟩
      · exact ⟨(List.dropWhile isBlank ds.reverse).reverse, by simp⟩
    obtain ⟨es, hes⟩ := hend
    rw [hes]
    simp [trimLeft, hd]

theorem trim_trim (cs : List Char) : trim (trim cs) = trim cs := by
  unfold trim
  rw [trimLeft_trimRight_trimLeft, trimRight_trimRight]

end ClusterOperator.Text
