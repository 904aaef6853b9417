/-
Which texts pass as configured names.

* `IsIdentifier` — plain identifiers; `IsAdmitted` — those, and those with one line feed at the end;
* `isName_iff` — these are the texts that pass, and no others;
* `isIdentifier_iff` — so a text passes that has no line feed exactly if it is a plain identifier;
* `checkName_eq_ok`, `checkName_eq_error` — the outcomes of the check;
* `virtual_or_isReservedName` — what a database without tables can read has a name of its own, or comes with
  the database.
-/
import DeliveryWatch.Database.Name
import Mathlib.Data.List.TakeWhile

namespace DeliveryWatch.Database

/-! ### Identifiers -/

/-- A plain identifier: a letter or underscore, then letters, digits and underscores. -/
def IsIdentifier : List Char → Prop
  | [] => False
  | c :: r => (c.isAlpha = true ∨ c = '_') ∧ ∀ d ∈ r, d.isAlphanum = true ∨ d = '_'

-- only the characters of the name are looked at: there are finitely many, and all could be tried
instance : DecidablePred IsIdentifier
  | [] => inferInstanceAs (Decidable False)
  | c :: r => @instDecidableAnd (c.isAlpha = true ∨ c = '_') _ inferInstance (List.decidableBAll _ r)

/-- A plain identifier, perhaps with a line feed at its end. -/
def IsAdmitted (name : String) : Prop :=
  ∃ w, IsIdentifier w ∧ (name.toList = w ∨ name.toList = w ++ ['\n'])

theorem isNameStart_iff {c : Char} : isNameStart c = true ↔ c.isAlpha = true ∨ c = '_' := by
  have halpha : c.isAlpha = (decide ('A' ≤ c ∧ c ≤ 'Z') || ('a' ≤ c && c ≤ 'z')) := rfl
  rw [isNameStart, halpha, Bool.decide_and, Bool.or_comm (_ && _), Bool.or_eq_true, beq_iff_eq]

theorem isNamePart_iff {c : Char} : isNamePart c = true ↔ c.isAlphanum = true ∨ c = '_' := by
  have hdigit : ('0' ≤ c ∧ c ≤ '9') ↔ c.isDigit = true := by
    simp only [Char.isDigit, Bool.and_eq_true, decide_eq_true_eq, Char.le_def]
  rw [isNamePart, Bool.or_eq_true, isNameStart_iff, Bool.and_eq_true, decide_eq_true_eq,
    decide_eq_true_eq, hdigit, Char.isAlphanum, Bool.or_eq_true]
  exact or_right_comm

/-- An identifier has no line feed. -/
theorem IsIdentifier.feed_notMem {w : List Char} (h : IsIdentifier w) : '\n' ∉ w := by
  cases w with
  | nil => exact List.not_mem_nil
  | cons c r =>
    obtain ⟨hc, hr⟩ := h
    have hfeed : ¬ (('\n' : Char).isAlphanum = true ∨ '\n' = '_') := by decide
    have hstart : ¬ (('\n' : Char).isAlpha = true ∨ '\n' = '_') := by decide
    intro hmem
    rcases List.mem_cons.mp hmem with rfl | hmem
    · exact hstart hc
    · exact hfeed (hr _ hmem)

/-! ### What passes -/

/-- What is left behind the signs of a name is a line feed exactly if the text ends with one. -/
theorem dropWhile_eq_feed_iff {r : List Char} : r.dropWhile isNamePart = ['\n'] ↔
    ∃ v, r = v ++ ['\n'] ∧ ∀ d ∈ v, isNamePart d = true := by
  constructor
  · intro h
    refine ⟨r.takeWhile isNamePart, ?_, fun d hd => List.mem_takeWhile_imp hd⟩
    rw [← h, List.takeWhile_append_dropWhile]
  · rintro ⟨v, rfl, hv⟩
    rw [List.dropWhile_append_of_pos hv]
    decide

/-- **What passes** is a plain identifier, perhaps with one line feed at its end. -/
theorem isName_iff {s : List Char} :
    isName s = true ↔ ∃ w, IsIdentifier w ∧ (s = w ∨ s = w ++ ['\n']) := by
  cases s with
  | nil =>
    refine ⟨nofun, ?_⟩
    rintro ⟨w, hw, rfl | h⟩
    · exact hw.elim
    · exact absurd h.symm (List.append_ne_nil_of_right_ne_nil _ (List.cons_ne_nil _ _))
  | cons c r =>
    rw [isName, Bool.and_eq_true, Bool.or_eq_true, beq_iff_eq, beq_iff_eq, isNameStart_iff,
      List.dropWhile_eq_nil_iff, dropWhile_eq_feed_iff]
    simp only [isNamePart_iff]
    constructor
    · rintro ⟨hc, hr | ⟨v, rfl, hv⟩⟩
      · exact ⟨c :: r, ⟨hc, hr⟩, .inl rfl⟩
      · exact ⟨c :: v, ⟨hc, hv⟩, .inr rfl⟩
    · rintro ⟨w, hw, h⟩
      cases w with
      | nil => exact hw.elim
      | cons d v =>
        rcases h with h | h
        · cases h
          exact ⟨hw.1, .inl hw.2⟩
        · cases h
          exact ⟨hw.1, .inr ⟨v, rfl, hw.2⟩⟩

theorem isName_toList {name : String} : isName name.toList = true ↔ IsAdmitted name := isName_iff

instance : DecidablePred IsAdmitted := fun _ => decidable_of_iff _ isName_toList

theorem isIdentifier_iff {name : String} :
    IsIdentifier name.toList ↔ IsAdmitted name ∧ '\n' ∉ name.toList := by
  constructor
  · intro h
    exact ⟨⟨_, h, .inl rfl⟩, h.feed_notMem⟩
  · rintro ⟨⟨w, hw, h | h⟩, hfeed⟩
    · rw [h]
      exact hw
    · rw [h] at hfeed
      exact absurd (List.mem_append_right w List.mem_cons_self) hfeed

theorem checkName_eq_ok {what value name : String} :
    checkName what (some value) = .ok name ↔ name = value ∧ IsAdmitted value := by
  rw [← isName_toList, checkName]
  split
  · rename_i h
    constructor
    · rintro ⟨⟩
      exact ⟨rfl, h⟩
    · rintro ⟨rfl, -⟩
      rfl
  · rename_i h
    exact ⟨nofun, fun h' => absurd h'.2 h⟩

theorem checkName_eq_error {what value : String} {f : NameFault} :
    checkName what (some value) = .error f ↔ f = ⟨what, some value⟩ ∧ ¬ IsAdmitted value := by
  rw [← isName_toList, checkName]
  split
  · rename_i h
    exact ⟨nofun, fun h' => absurd h h'.2⟩
  · rename_i h
    constructor
    · rintro ⟨⟩
      exact ⟨rfl, h⟩
    · rintro ⟨rfl, -⟩
      rfl

/-! ### Names in statements -/

/-- A database is described under names that no other table can have, and a statement cannot name these
otherwise. -/
theorem isReservedName_of_schemaNames {name n : String} (h : schemaNames.any (sameName name) = true)
    (hn : statementName name = .ok n) : isReservedName n = true := by
  have hall : ∀ s ∈ schemaNames, "sqlite_".toList.isPrefixOf (Text.lowerAscii s.toList) = true ∧
      Text.dropEndWhile (· == '\n') (Text.lowerAscii s.toList) = Text.lowerAscii s.toList := by
    decide
  obtain ⟨s, hs, hsame⟩ := List.any_eq_true.mp h
  have hlower : Text.lowerAscii name.toList = Text.lowerAscii s.toList := eq_of_beq hsame
  have hname : n = name := by
    rw [statementName] at hn
    split at hn
    · cases hn
      rfl
    · rename_i hquoted
      -- a bare name has no capitals, so it is the one of the schema to the letter
      have hbare : Text.lowerAscii name.toList = name.toList := by
        simp only [isQuoted, Bool.or_eq_true, not_or, bne_iff_ne, ne_eq, Decidable.not_not] at hquoted
        exact hquoted.1.2
      simp only at hn
      split at hn
      · cases hn
      · cases hn
        rw [← hbare, hlower, (hall s hs).2, ← hlower, hbare, String.ofList_toList]
  rw [hname, isReservedName, hlower]
  exact (hall s hs).1

/-- What can be read in a database without tables comes with the database, or has a name that no other table
can have. -/
theorem virtual_or_isReservedName {name : String} (h : ({} : Database).isReadable name = true) :
    isVirtualName name = true ∨ ∀ n, statementName name = .ok n → isReservedName n = true := by
  have heither : (schemaNames.any (sameName name) || isVirtualName name) = true := h
  rcases Bool.or_eq_true_iff.mp heither with hschema | hvirtual
  · exact .inr fun n => isReservedName_of_schemaNames hschema
  · exact .inl hvirtual

end DeliveryWatch.Database
