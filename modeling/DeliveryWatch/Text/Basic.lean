/-
Blank characters, lines, and cutting text at a mark.

* `isBlank` is the class of white space that headers, subjects and settings share;
* `strip s` removes blanks at both ends and nothing else;
* `words s` are the maximal runs of characters that are not blank: no word is empty
  (`ne_nil_of_mem_words`);
* `splitLines s` — the lines without their breaks; a break at the end of the text starts no line;
* `lineFeeds s` — the text with a line feed for each carriage return, alone or with a line feed;
* `cutFirst? mark s` is what stands before and after the first occurrence of `mark`, and
  `cutLast? mark s` likewise for the last one.
-/

namespace DeliveryWatch.Text

/-! ### Blanks -/

/-- White space of any script: the control characters 9-13 and 28-31, the space, NEL, the
no-break space and the spaces and separators of general punctuation. -/
def isBlank (c : Char) : Bool :=
  let n := c.toNat
  (9 ≤ n && n ≤ 13) || (28 ≤ n && n ≤ 32) || n == 0x85 || n == 0xA0 || n == 0x1680 ||
    (0x2000 ≤ n && n ≤ 0x200A) || n == 0x2028 || n == 0x2029 || n == 0x202F || n == 0x205F ||
    n == 0x3000

/-- Space or tab, the white space that folds a header line. -/
def isSpaceOrTab (c : Char) : Bool := c == ' ' || c == '\t'

/-- A carriage return or a line feed. -/
def isLineEnd (c : Char) : Bool := c == '\r' || c == '\n'

/-- Drop the longest final run of characters in the class `p`. -/
def dropEndWhile {α : Type} (p : α → Bool) (s : List α) : List α :=
  (s.reverse.dropWhile p).reverse

/-- The longest final run of characters in the class `p`. -/
def takeEndWhile {α : Type} (p : α → Bool) (s : List α) : List α :=
  (s.reverse.takeWhile p).reverse

/-- Drop the characters of class `p` at both ends. -/
def stripWhile {α : Type} (p : α → Bool) (s : List α) : List α := dropEndWhile p (s.dropWhile p)

/-- Drop the blanks at both ends. -/
def strip (s : List Char) : List Char := stripWhile isBlank s

/-- Maximal runs of characters that are not blank, from left to right. -/
def words (s : List Char) : List (List Char) := (s.splitOnP isBlank).filter (· ≠ [])

theorem dropEndWhile_append_takeEndWhile {α : Type} (p : α → Bool) (s : List α) :
    dropEndWhile p s ++ takeEndWhile p s = s := by
  simp [dropEndWhile, takeEndWhile, ← List.reverse_append]

theorem ne_nil_of_mem_words {s w : List Char} (h : w ∈ words s) : w ≠ [] := by
  simp only [words, List.mem_filter, decide_eq_true_eq] at h
  exact h.2

/-! ### Lines -/

/-- A character that ends a line: the control characters 10-13 and 28-30, NEL, and the separators of
lines and paragraphs. -/
def isLineBreak (c : Char) : Bool :=
  let n := c.toNat
  (10 ≤ n && n ≤ 13) || (28 ≤ n && n ≤ 30) || n == 0x85 || n == 0x2028 || n == 0x2029

/-- The lines of a text without their breaks. A carriage return and a line feed make one break. -/
def splitLines : List Char → List (List Char)
  | [] => []
  | '\r' :: '\n' :: r => [] :: splitLines r
  | c :: r =>
    if isLineBreak c then [] :: splitLines r
    else
      match splitLines r with
      | [] => [[c]]
      | l :: ls => (c :: l) :: ls

/-- Line ends of all kinds as line feeds. -/
def lineFeeds : List Char → List Char
  | '\r' :: '\n' :: r => '\n' :: lineFeeds r
  | '\r' :: r => '\n' :: lineFeeds r
  | c :: r => c :: lineFeeds r
  | [] => []

/-! ### Cutting -/

variable {α : Type} [BEq α]

/-- The text before and after the first occurrence of `mark`, if there is one. -/
def cutFirst? (mark : List α) : List α → Option (List α × List α)
  | [] => (mark.isPrefixOf? []).map ([], ·)
  | c :: r =>
    match mark.isPrefixOf? (c :: r) with
    | some rest => some ([], rest)
    | none => (cutFirst? mark r).map fun (before, after) => (c :: before, after)

/-- The text before and after the last occurrence of `mark`, if there is one. -/
def cutLast? (mark : List α) (s : List α) : Option (List α × List α) :=
  (cutFirst? mark.reverse s.reverse).map fun (after, before) => (before.reverse, after.reverse)

/-- Whether `mark` occurs in the text. -/
def holds (mark : List α) (s : List α) : Bool := (cutFirst? mark s).isSome

/-- Cut at the first character of class `p`: the text before it, and the text from it on. -/
def cutWhere (p : α → Bool) (s : List α) : List α × List α :=
  (s.takeWhile (!p ·), s.dropWhile (!p ·))

theorem isPrefixOf?_nil (s : List α) : ([] : List α).isPrefixOf? s = some s := rfl

theorem isPrefixOf?_cons_nil (m : α) (ms : List α) : (m :: ms).isPrefixOf? [] = none := rfl

theorem isPrefixOf?_cons (m c : α) (ms r : List α) :
    (m :: ms).isPrefixOf? (c :: r) = if m == c then ms.isPrefixOf? r else none := rfl

theorem eq_append_of_isPrefixOf? [LawfulBEq α] {mark s rest : List α}
    (h : mark.isPrefixOf? s = some rest) : s = mark ++ rest := by
  induction mark generalizing s with
  | nil => simpa [isPrefixOf?_nil] using h
  | cons m ms ih =>
    cases s with
    | nil => simp [isPrefixOf?_cons_nil] at h
    | cons c r =>
      simp only [isPrefixOf?_cons] at h
      split at h
      · rename_i hm
        rw [ih h, eq_of_beq hm]
        rfl
      · simp at h

end DeliveryWatch.Text
