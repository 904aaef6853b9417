/-
Unfolding of header values: a line end, with the white space around it, becomes one space where the
next line starts with white space.

* `unfold` joins the lines of a value; a line end before any other character stays.
-/
import DeliveryWatch.Text.Basic

namespace DeliveryWatch.Message

open Text

/-- What follows a fold at the front of the text: white space, a line end, and white space that
starts the next line. -/
def afterFold? (s : List Char) : Option (List Char) :=
  let next? := match s.dropWhile isSpaceOrTab with
    | '\n' :: r => some r
    | '\r' :: '\n' :: r => some r
    | _ => none
  next?.bind fun r =>
    match r with
    | c :: _ => if isSpaceOrTab c then some (r.dropWhile isSpaceOrTab) else none
    | [] => none

theorem length_dropWhile_le {α : Type} (p : α → Bool) (s : List α) :
    (s.dropWhile p).length ≤ s.length :=
  (List.dropWhile_sublist p).length_le

/-- A fold takes up at least one character. -/
theorem length_lt_of_afterFold? {s rest : List Char} (h : afterFold? s = some rest) :
    rest.length < s.length := by
  have hs := length_dropWhile_le isSpaceOrTab s
  simp only [afterFold?, Option.bind_eq_some_iff] at h
  obtain ⟨r, hr, h⟩ := h
  -- whichever line end it was, it is gone
  have hlt : r.length < s.length := by
    split at hr
    · rename_i r' he
      cases hr
      rw [he] at hs
      simp at hs
      omega
    · rename_i r' he
      cases hr
      rw [he] at hs
      simp at hs
      omega
    · simp at hr
  split at h
  · rename_i c t
    split at h
    · cases h
      have := length_dropWhile_le isSpaceOrTab (c :: t)
      omega
    · simp at h
  · simp at h

/-- The value with every fold replaced by one space, from left to right. -/
def unfold : List Char → List Char
  | [] => []
  | c :: r =>
    match _h : afterFold? (c :: r) with
    | some rest => ' ' :: unfold rest
    | none => c :: unfold r
termination_by s => s.length
decreasing_by
  · exact length_lt_of_afterFold? _h
  · simp

end DeliveryWatch.Message
