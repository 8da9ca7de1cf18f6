/-!
# Texts

A text is read as words divided by blanks, and blanks around it do not count.

## Main definitions

* `isBlank`: the blank characters
* `dropEndWhile`, `trim`: a text without what stands at its end, or around it
* `words`: the maximal runs of characters that are not blank
* `unwords`: words in a row, one space between neighbours
* `lowerCase`: a text without capital letters
-/

namespace DeskCalculator.Text

/-- Unicode's property `White_Space`: the five controls from the tab to the carriage return, the
next-line control, and the spaces and line ends of all scripts. -/
def isBlank (c : Char) : Bool :=
  let n := c.toNat
  (0x09 ≤ n && n ≤ 0x0D) || n == 0x20 || n == 0x85 || n == 0xA0 || n == 0x1680 ||
    (0x2000 ≤ n && n ≤ 0x200A) || n == 0x2028 || n == 0x2029 || n == 0x202F || n == 0x205F ||
    n == 0x3000

/-- A list without the longest run at its end whose members all satisfy `p`. -/
def dropEndWhile {α : Type} (p : α → Bool) (s : List α) : List α :=
  (s.reverse.dropWhile p).reverse

@[simp] theorem dropEndWhile_nil {α : Type} (p : α → Bool) : dropEndWhile p [] = [] := rfl

/-- At the end of a list one member is dropped, or the list is kept. -/
theorem dropEndWhile_concat {α : Type} (p : α → Bool) (s : List α) (a : α) :
    dropEndWhile p (s ++ [a]) = if p a then dropEndWhile p s else s ++ [a] := by
  by_cases h : p a <;> simp [dropEndWhile, h]

/-- A list is kept if its last member stays. -/
theorem dropEndWhile_eq_self {α : Type} {p : α → Bool} {s : List α}
    (stays : ∀ a ∈ s.getLast?, p a = false) : dropEndWhile p s = s := by
  rcases s.eq_nil_or_concat with rfl | ⟨s, a, rfl⟩
  · rfl
  · have last : p a = false := stays a (by simp)
    rw [List.concat_eq_append, dropEndWhile_concat, last, if_neg Bool.false_ne_true]

/-- What stands in front of a member that stays is kept. -/
theorem dropEndWhile_append_cons {α : Type} {p : α → Bool} {a : α} (stays : p a = false)
    (w s : List α) : dropEndWhile p (w ++ a :: s) = w ++ a :: dropEndWhile p s := by
  have stop : (a :: w.reverse).dropWhile p = a :: w.reverse :=
    List.dropWhile_cons_of_neg (by simp [stays])
  simp only [dropEndWhile, List.reverse_append, List.reverse_cons, List.append_assoc,
    List.singleton_append, List.dropWhile_append, stop]
  split
  · next none =>
    rw [List.isEmpty_iff.mp none]
    simp
  · simp

/-- A text without the blanks before its first and after its last other character. -/
def trim (s : String) : String :=
  String.ofList (dropEndWhile isBlank (s.toList.dropWhile isBlank))

/-- The maximal runs of characters that are not blank, from left to right. -/
def words (s : String) : List String :=
  ((s.toList.splitOnP isBlank).filter fun w => !w.isEmpty).map String.ofList

/-- Words in a row, one space between neighbours. -/
def unwords (ws : List String) : String :=
  " ".intercalate ws

/-- A text with its ASCII letters in lower case; other letters stay as they are. -/
def lowerCase (s : String) : String :=
  String.ofList (s.toList.map Char.toLower)

end DeskCalculator.Text
