/-
Header values of one line, written and read.

* `writtenLine` — a value of one line as it is written;
* `written?_of_isOneLine` — writing such a value never fails, and takes one line;
* `unstructured_of_not_infix` — text without an opening mark of an encoded word is read as it stands;
* `unstructured_writtenLine` — so a value that was written is read as it was, but for spaces at its
  front.
-/
import DeliveryWatch.Header.Unstructured
import DeliveryWatch.Proofs.Header.EncodedWord
import DeliveryWatch.Proofs.Text.Lines

namespace DeliveryWatch.Header

open DeliveryWatch.Header.Symbol Text

/-- Whether a text is in ASCII. -/
def isAscii (s : List Char) : Bool := s.all (·.toNat < 128)

/-- A value of one line as it is written. -/
def writtenLine (s : List Char) : List Char := if isAscii s then s else encodedWord s

/-! ### Writing -/

theorem isOneLine_encodedWord (s : List Char) : IsOneLine (encodedWord s) := by
  cases s with
  | nil => nofun
  | cons d r =>
    obtain ⟨letter, text, hl, hcontent, hword⟩ := exists_content (List.cons_ne_nil d r)
    have htext : IsOneLine text := by
      intro c hc
      obtain ⟨hlow, hhigh, -⟩ := hcontent.signs c hc
      simp only [isLineBreak, Bool.or_eq_false_iff, Bool.and_eq_false_iff, decide_eq_false_iff_not,
        beq_eq_false_iff_ne]
      omega
    have hfront : IsOneLine ("utf-8?".toList ++ [letter, '?']) := by
      rcases hl with rfl | rfl
      · decide
      · decide
    -- the word is put together from parts of one line each
    have hparts : wordParts letter text = "utf-8?".toList ++ [letter, '?'] ++ text := rfl
    have hopen : IsOneLine "=?".toList := by decide
    have hclose : IsOneLine "?=".toList := by decide
    rw [hword, hparts]
    exact (hopen.append (hfront.append htext)).append hclose

theorem isOneLine_writtenLine {s : List Char} (h : IsOneLine s) : IsOneLine (writtenLine s) := by
  rw [writtenLine]
  split
  · exact h
  · exact isOneLine_encodedWord s

/-- A text of one line has no line that reads as a field of its own. -/
theorem embedsField_of_isOneLine {s : List Char} (h : IsOneLine s) : embedsField s = false := by
  induction s with
  | nil => rfl
  | cons c r ih =>
    obtain ⟨hc, hr⟩ := h.of_cons
    have hfeed : (c == '\n') = false := by
      rw [beq_eq_false_iff_ne]
      rintro rfl
      exact absurd hc (by decide)
    rw [embedsField, ih hr, hfeed]
    rfl

/-- **A value of one line is always written**, on one line. -/
theorem written?_of_isOneLine {s : String} (h : IsOneLine s.toList) :
    written? s = .ok (String.ofList (writtenLine s.toList)) := by
  have hlines : ['\n'].intercalate (writtenLines s.toList) = writtenLine s.toList := by
    by_cases hs : s.toList = []
    · rw [hs]
      rfl
    · rw [writtenLines, splitLines_of_isOneLine h hs]
      show ['\n'].intercalate [writtenLine s.toList] = _
      exact List.intercalate_singleton
  have hfield := embedsField_of_isOneLine (isOneLine_writtenLine h)
  simp only [written?, hlines, hfield, Bool.false_eq_true, if_false]

/-! ### Reading -/

theorem holdsWord_of_not_infix {s : Symbols} (h : ¬ wordStart <:+: s) : holdsWord s = false := by
  induction s with
  | nil => rfl
  | cons x r ih =>
    rw [List.infix_cons_iff, not_or] at h
    rw [holdsWord, isPrefixOf?_of_not_prefix h.1, ih h.2]
    rfl

theorem readEncodedWord_of_not_prefix {s : Symbols} (h : ¬ wordStart <+: s) :
    readEncodedWord s = .notAWord := by
  rw [readEncodedWord, isPrefixOf?_of_not_prefix h]

/-- Without an opening mark, the visible text at the front ends with the next white space. -/
theorem textRun_of_not_infix {s : Symbols} (h : ¬ wordStart <:+: s) :
    textRun true s = (s.takeWhile (!isSpaceOrTab ·), s.dropWhile (!isSpaceOrTab ·)) := by
  have hrun : holdsWord (s.takeWhile (!isSpaceOrTab ·)) = false :=
    holdsWord_of_not_infix fun hi => h (hi.trans (List.takeWhile_prefix _).isInfix)
  have hdrop : s.drop (s.takeWhile (!isSpaceOrTab ·)).length = s.dropWhile (!isSpaceOrTab ·) := by
    have hcut := congrArg (List.drop (s.takeWhile (!isSpaceOrTab ·)).length)
      (List.takeWhile_append_dropWhile (p := (!isSpaceOrTab ·)) (l := s))
    rw [List.drop_left] at hcut
    exact hcut.symm
  simp only [textRun, hrun, Bool.and_false, Bool.false_eq_true, if_false, hdrop]

theorem unstructuredFrom_of_not_infix {s : Symbols} (h : ¬ wordStart <:+: s) {n : Nat}
    (hn : s.length ≤ n) : unstructuredFrom .text n s = s := by
  -- every step takes white space or a run of other text, and what is left holds no mark either
  induction n generalizing s with
  | zero =>
    rw [List.length_eq_zero_iff.mp (Nat.le_zero.mp hn)]
    rfl
  | succ n ih =>
    cases s with
    | nil => rfl
    | cons x r =>
      rw [List.length_cons] at hn
      have hrest : ∀ p : Symbol → Bool, ¬ wordStart <:+: (x :: r).dropWhile p :=
        fun p hi => h (hi.trans (List.dropWhile_suffix p).isInfix)
      rw [unstructuredFrom]
      split
      · rename_i hx
        have hlen := length_dropWhile_cons_le (isBlank_of_isSpaceOrTab hx) r
        simp only [Ending.pending, List.nil_append]
        rw [ih (hrest _) (by omega)]
        exact List.takeWhile_append_dropWhile
      · rename_i hx
        have hlen := length_dropWhile_cons_le (p := (!isSpaceOrTab ·)) (by simpa using hx) r
        have hword := readEncodedWord_of_not_prefix fun hp => h hp.isInfix
        simp only [hword, textRun_of_not_infix h, Ending.pending, List.nil_append]
        rw [ih (hrest _) (by omega)]
        exact List.takeWhile_append_dropWhile

/-- **Text without an opening mark is read as it stands.** -/
theorem unstructured_of_not_infix {s : Symbols} (h : ¬ wordStart <:+: s) : unstructured s = s :=
  unstructuredFrom_of_not_infix h (by omega)

/-- **An encoded word is read as the text that was written.** -/
theorem unstructured_encodedWord {s : List Char} (hs : s ≠ []) :
    unstructured (ofText (encodedWord s)) = ofText s := by
  have hread := readEncodedWord_encodedWord hs []
  obtain ⟨letter, text, -, -, hword⟩ := exists_content hs
  have hfirst : ∃ r, ofText (encodedWord s) = char '=' :: r := ⟨_, congrArg ofText hword⟩
  obtain ⟨r, hr⟩ := hfirst
  -- nothing stands behind the word, so no white space is left over
  have hend : ∀ n, unstructuredFrom .word n [] = [] := by
    intro n
    cases n with
    | zero => rfl
    | succ n => rfl
  rw [List.append_nil, hr] at hread
  have hspace : isSpaceOrTab (char '=') = false := by decide
  rw [unstructured, hr, unstructuredFrom]
  simp only [hspace, Bool.false_eq_true, if_false, hread, hend, List.append_nil]
  exact flatMap_piecesOf (Nat.le_of_eq (List.length_map char))

theorem filterMap_char?_ofText (s : List Char) : (ofText s).filterMap char? = s := by
  rw [ofText, List.filterMap_map]
  exact List.filterMap_some

theorem not_infix_ofText {s : List Char} (h : ¬ "=?".toList <:+: s) :
    ¬ wordStart <:+: ofText s := by
  intro hi
  have hchars := hi.filterMap char?
  rw [filterMap_char?_ofText] at hchars
  exact h hchars

/-- What is read of a value of one line that was written: in ASCII, the value without the white space at
its front. -/
def readLine (s : List Char) : List Char := if isAscii s then s.dropWhile Text.isSpaceOrTab else s

/-- **A value that was written is read as it was**, but for white space at its front. -/
theorem unstructured_writtenLine {s : List Char} (h : ¬ "=?".toList <:+: s) :
    unstructured (ofText ((writtenLine s).dropWhile Text.isSpaceOrTab)) = ofText (readLine s) := by
  rw [writtenLine, readLine]
  split
  · refine unstructured_of_not_infix (not_infix_ofText ?_)
    exact fun hi => h (hi.trans (List.dropWhile_suffix _).isInfix)
  · rename_i hascii
    have hs : s ≠ [] := by
      rintro rfl
      exact hascii rfl
    obtain ⟨letter, text, -, -, hword⟩ := exists_content hs
    have hfirst : (encodedWord s).dropWhile Text.isSpaceOrTab = encodedWord s := by
      rw [hword]
      rfl
    rw [hfirst, unstructured_encodedWord hs]

end DeliveryWatch.Header
