/-! # Blank characters and trimming

`isBlank` is the Unicode property White_Space, which is wider than the ASCII
class of `Char.isWhitespace`.  `trim` drops blanks at both ends and keeps the
ones between.
-/

namespace AccessBroker.Text

/-- The characters with the Unicode property White_Space. -/
def isBlank (c : Char) : Bool :=
  let n := c.toNat
  (0x09 ≤ n && n ≤ 0x0d) || n == 0x20 || n == 0x85 || n == 0xa0 || n == 0x1680 ||
    (0x2000 ≤ n && n ≤ 0x200a) || n == 0x2028 || n == 0x2029 || n == 0x202f ||
    n == 0x205f || n == 0x3000

/-- Drops the blanks that a list of characters starts with. -/
def dropBlanks (cs : List Char) : List Char :=
  cs.dropWhile isBlank

theorem length_dropBlanks_le (cs : List Char) : (dropBlanks cs).length ≤ cs.length :=
  (List.dropWhile_sublist _).length_le

def trimChars (cs : List Char) : List Char :=
  (dropBlanks (dropBlanks cs).reverse).reverse

/-- The text without the blanks at its two ends. -/
def trim (s : String) : String :=
  String.ofList (trimChars s.toList)

theorem toList_trim (s : String) : (trim s).toList = trimChars s.toList := by
  simp [trim]

/-- A list that is left by dropping blanks starts with no blank, and neither does a part at its
front. -/
theorem dropBlanks_of_prefix {cs front rest : List Char} (parts : dropBlanks cs = front ++ rest) :
    dropBlanks front = front := by
  cases front with
  | nil => rfl
  | cons c front =>
    have first := List.head?_dropWhile_not isBlank cs
    unfold dropBlanks at parts ⊢
    rw [parts] at first
    have solid : isBlank c = false := by simpa using first
    rw [List.dropWhile_cons, solid]
    rfl

theorem trimChars_trimChars (cs : List Char) : trimChars (trimChars cs) = trimChars cs := by
  have front : dropBlanks (trimChars cs) = trimChars cs := by
    obtain ⟨blanks, parts⟩ := List.dropWhile_suffix isBlank (l := (dropBlanks cs).reverse)
    have parts : blanks ++ dropBlanks (dropBlanks cs).reverse = (dropBlanks cs).reverse := parts
    have whole : dropBlanks cs = trimChars cs ++ blanks.reverse := by
      rw [trimChars, ← List.reverse_append, parts, List.reverse_reverse]
    exact dropBlanks_of_prefix whole
  have back : dropBlanks (trimChars cs).reverse = (trimChars cs).reverse := by
    rw [trimChars, List.reverse_reverse]
    exact dropBlanks_of_prefix (List.append_nil _).symm
  rw [trimChars, front, back, List.reverse_reverse]

theorem trim_trim (s : String) : trim (trim s) = trim s := by
  rw [trim, toList_trim, trimChars_trimChars, trim]

/-- A text of blanks only, or of nothing. -/
def isAllBlank (s : String) : Bool :=
  s.toList.all isBlank

end AccessBroker.Text
