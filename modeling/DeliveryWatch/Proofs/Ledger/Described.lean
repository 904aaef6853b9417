/-
The tables that are described for configured names.

* `describe?_eq_ok`, `describe?_eq_error` — the outcomes of a description;
* `names_of_describe?`, `columns_of_describe?` — what is described: the configured names, the columns of
  pings, and one for a lookup field that is none of them;
* `only_admitted_names` — so all names of a described table are identifiers, with a line feed at most at
  the end; `feed_described` — this line feed does occur.
-/
import DeliveryWatch.Ledger.Table
import DeliveryWatch.Proofs.Database.Name
import DeliveryWatch.Proofs.Outcome

namespace DeliveryWatch

open Database Ledger Outcome

namespace Ledger.PingTable

variable {table field : String} {p : PingTable}

/-- The column that a lookup field gets which is no column of pings. -/
def ownColumns (field : String) : List Column :=
  if (pingColumns.map Column.name).contains field then [] else [{ name := field, type := "TEXT" }]

theorem ownColumns_of_mem (h : field ∈ pingColumns.map Column.name) : ownColumns field = [] := by
  rw [ownColumns, if_pos (List.contains_iff_mem.mpr h)]

theorem ownColumns_of_notMem (h : field ∉ pingColumns.map Column.name) :
    ownColumns field = [{ name := field, type := "TEXT" }] := by
  rw [ownColumns, if_neg fun hc => h (List.contains_iff_mem.mp hc)]

/-- A table is described exactly if both names pass. -/
theorem describe?_eq_ok : describe? (some table) (some field) = .ok p ↔
    IsAdmitted table ∧ IsAdmitted field ∧ p = ⟨table, field, pingColumns ++ ownColumns field⟩ := by
  rw [describe?]
  simp only [bind_eq_ok, checkName_eq_ok]
  constructor
  · rintro ⟨_, ⟨rfl, htable⟩, _, ⟨rfl, hfield⟩, ⟨⟩⟩
    exact ⟨htable, hfield, rfl⟩
  · rintro ⟨htable, hfield, rfl⟩
    exact ⟨table, ⟨rfl, htable⟩, field, ⟨rfl, hfield⟩, rfl⟩

/-- The first name that does not pass is reported. -/
theorem describe?_eq_error {f : NameFault} : describe? (some table) (some field) = .error f ↔
    f = ⟨"lookup table name", some table⟩ ∧ ¬ IsAdmitted table ∨
      f = ⟨"lookup field name", some field⟩ ∧ IsAdmitted table ∧ ¬ IsAdmitted field := by
  rw [describe?]
  simp only [bind_eq_error, checkName_eq_ok, checkName_eq_error]
  constructor
  · rintro (h | ⟨_, ⟨rfl, htable⟩, ⟨rfl, hfield⟩ | ⟨_, -, h⟩⟩)
    · exact .inl h
    · exact .inr ⟨rfl, htable, hfield⟩
    · cases h
  · rintro (h | ⟨rfl, htable, hfield⟩)
    · exact .inl h
    · exact .inr ⟨table, ⟨rfl, htable⟩, .inl ⟨rfl, hfield⟩⟩

/-- A lookup field that is no column of pings gets a column of its own. -/
theorem columns_of_describe? (h : describe? (some table) (some field) = .ok p) :
    p.columns = pingColumns ++ ownColumns p.field := by
  obtain ⟨-, -, rfl⟩ := describe?_eq_ok.mp h
  rfl

end Ledger.PingTable

theorem names_of_describe? {table field : String} {p : PingTable}
    (h : PingTable.describe? (some table) (some field) = .ok p) :
    p.name = table ∧ p.field = field := by
  obtain ⟨-, -, rfl⟩ := PingTable.describe?_eq_ok.mp h
  exact ⟨rfl, rfl⟩

namespace Ledger.PingTable

theorem isAdmitted_pingColumns : ∀ c ∈ pingColumns, IsAdmitted c.name := by
  decide

theorem isAdmitted_ownColumns {field : String} (h : IsAdmitted field) :
    ∀ c ∈ ownColumns field, IsAdmitted c.name := by
  intro c hc
  rw [ownColumns] at hc
  split at hc
  · cases hc
  · rw [List.mem_singleton.mp hc]
    exact h

/-- **Only identifiers get through**, with one line feed at their ends or without. Any other text is refused
by a fault that names it, and no name of a table that is described, or of one of its columns, is another
text. -/
theorem only_admitted_names (what value table field : String) :
    (checkName what (some value) = .ok value ↔ IsAdmitted value) ∧
    (checkName what (some value) = .error ⟨what, some value⟩ ↔ ¬ IsAdmitted value) ∧
    (checkName what (some value) = .ok value ∧ '\n' ∉ value.toList ↔ IsIdentifier value.toList) ∧
    match describe? (some table) (some field) with
    | .ok p => IsAdmitted table ∧ IsAdmitted field ∧ p.name = table ∧ p.field = field ∧
        ∀ name ∈ p.name :: p.columns.map Column.name, IsAdmitted name
    | .error f => f = ⟨"lookup table name", some table⟩ ∧ ¬ IsAdmitted table ∨
        f = ⟨"lookup field name", some field⟩ ∧ IsAdmitted table ∧ ¬ IsAdmitted field := by
  have hok : checkName what (some value) = .ok value ↔ IsAdmitted value := by
    rw [checkName_eq_ok, eq_self, true_and]
  refine ⟨hok, ?_, ?_, ?_⟩
  · rw [checkName_eq_error, eq_self, true_and]
  · rw [hok, isIdentifier_iff]
  · split
    · rename_i p hp
      obtain ⟨htable, hfield, rfl⟩ := describe?_eq_ok.mp hp
      refine ⟨htable, hfield, rfl, rfl, ?_⟩
      intro name hname
      -- every column is one of those that all tables of pings have, or that of the lookup field
      rcases List.mem_cons.mp hname with rfl | hname
      · exact htable
      · obtain ⟨c, hc, rfl⟩ := List.mem_map.mp hname
        rcases List.mem_append.mp hc with hc | hc
        · exact isAdmitted_pingColumns c hc
        · exact isAdmitted_ownColumns hfield c hc
    · rename_i f hf
      exact describe?_eq_error.mp hf

/-- One line feed at the end does get through, into the names of a table and of a column. -/
theorem feed_described :
    checkName "identifier" (some "pings\n") = .ok "pings\n" ∧ ¬ IsIdentifier "pings\n".toList ∧
      ∃ p, describe? (some "pings\n") (some "mailbox\n") = .ok p ∧ p.name = "pings\n" ∧
        "mailbox\n" ∈ p.columns.map Column.name ∧ ¬ IsIdentifier "mailbox\n".toList :=
  ⟨by decide +kernel, by decide +kernel, _, rfl, rfl, by decide, by decide +kernel⟩

end Ledger.PingTable

end DeliveryWatch
