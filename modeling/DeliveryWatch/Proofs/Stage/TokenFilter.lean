/-
What the check at the start says of the lookups and write-backs that come later.

* `PingTable.CanFind`, `PingTable.Admits` — what a lookup asks of the columns of the table, and what a
  write-back asks of the table;
* `find_refused_iff`, `record_refused_iff` — both are refused exactly where this is missing;
* `exists_activate_iff` — the filter is activated exactly if something of the configured name can be
  read, whatever its columns are;
* `scope_of_activation` — so after the start lookups are refused for every token or for none, as the
  columns tell, and the mail is dropped or judged by its ping accordingly.

The columns stay as they were at the start, and the rows may change in any way that the rules of the
table allow.
-/
import DeliveryWatch.Proofs.Database.Change
import DeliveryWatch.Proofs.Pipeline.Failure

namespace DeliveryWatch

open Database Ledger Outcome

/-! ### Columns that stay -/

/-- A table of this name has the same columns in both databases, or there is none in both. -/
def Database.SameColumns (name : String) (db db' : Database) : Prop :=
  (db'.table? name).map Table.columns = (db.table? name).map Table.columns

/-- What holds of the columns of a table goes on to hold. -/
theorem Database.SameColumns.exists_iff {name : String} {db db' : Database}
    (h : SameColumns name db db') {P : Table → Prop}
    (hP : ∀ t t' : Table, t'.columns = t.columns → P t → P t') :
    (∃ t, db'.table? name = some t ∧ P t) ↔ ∃ t, db.table? name = some t ∧ P t := by
  rw [SameColumns] at h
  cases ht : db.table? name with
  | none =>
    rw [ht, Option.map_none, Option.map_eq_none_iff] at h
    rw [h]
  | some t =>
    rw [ht, Option.map_some] at h
    obtain ⟨t', ht', hcols⟩ := Option.map_eq_some_iff.mp h
    rw [ht']
    constructor
    · rintro ⟨_, ⟨⟩, hp⟩
      exact ⟨t, rfl, hP t' t hcols.symm hp⟩
    · rintro ⟨_, ⟨⟩, hp⟩
      exact ⟨t', rfl, hP t t' hcols hp⟩

namespace Ledger.PingTable

variable {p : PingTable} {n token : String} {db : Database} {t : Table}

/-! ### Lookups -/

/-- A table that can be asked for the lookup field of pings that wait. -/
structure IsAskable (p : PingTable) (t : Table) : Prop where
  field : ∃ name read, statementName p.field = .ok name ∧ t.reader name = .ok read
  conditions : ∀ name ∈ [tokenColumn, seenColumn], (t.column? name).isSome = true

theorem IsAskable.congr (t t' : Table) (hcols : t'.columns = t.columns) (h : p.IsAskable t) :
    p.IsAskable t' := by
  have hcolumn : ∀ name, t'.column? name = t.column? name := by
    intro name
    rw [Table.column?, Table.column?, hcols]
  obtain ⟨name, read, hname, hread⟩ := h.field
  refine ⟨⟨name, read, hname, ?_⟩, ?_⟩
  · rw [← hread, Table.reader, Table.reader, hcolumn]
  · intro other hother
    rw [hcolumn]
    exact h.conditions other hother

/-- A database whose pings can be looked up. -/
def CanFind (p : PingTable) (n : String) (db : Database) : Prop :=
  ∃ t, db.table? n = some t ∧ p.IsAskable t

theorem exists_select_iff (hn : statementName p.name = .ok n) (token : String) :
    (∃ v, p.select token db = .ok v) ↔ p.CanFind n db := by
  -- the condition fits the cells, so only the columns can be missing
  have hnames : (unseen token).map (·.1) = [tokenColumn, seenColumn] := rfl
  have hfit : Table.checkCells (unseen token) = .ok () := rfl
  constructor
  · rintro ⟨v, hv⟩
    obtain ⟨n', hn', hv⟩ := bind_eq_ok.mp hv
    obtain ⟨field, hfield, hv⟩ := bind_eq_ok.mp hv
    obtain ⟨t, ht, hv⟩ := bind_eq_ok.mp hv
    obtain ⟨read, hread, hcolumns, -, -⟩ := Table.first?_eq_ok.mp hv
    cases hn.symm.trans hn'
    rw [hnames] at hcolumns
    exact ⟨t, demand_eq_ok.mp ht, ⟨field, read, hfield, hread⟩, Table.checkColumns_eq_ok.mp hcolumns⟩
  · rintro ⟨t, ht, ⟨field, read, hfield, hread⟩, hcolumns⟩
    rw [← hnames] at hcolumns
    have hfirst := Table.first?_eq_ok.mpr
      ⟨read, hread, Table.checkColumns_eq_ok.mpr hcolumns, hfit, rfl⟩
    rw [← first?_of_table? ht] at hfirst
    exact ⟨_, bind_eq_ok.mpr ⟨n, hn, bind_eq_ok.mpr ⟨field, hfield, hfirst⟩⟩⟩

/-- **A lookup is refused exactly where the pings cannot be looked up**, whatever the token is. -/
theorem find_refused_iff (hn : statementName p.name = .ok n) (token : String) :
    (∃ text, p.find token db = .error (.lookup text)) ↔ ¬ p.CanFind n db := by
  rw [← exists_select_iff hn token]
  cases hs : p.select token db with
  | error f =>
    have hfind : ∃ text, p.find token db = .error (.lookup text) := by
      simp only [find, hs, statementFault, isReported_of_select hs, if_true]
      exact ⟨_, rfl⟩
    refine ⟨fun _ => ?_, fun _ => hfind⟩
    rintro ⟨v, hv⟩
    cases hv
  | ok found =>
    refine ⟨?_, fun h => absurd ⟨found, rfl⟩ h⟩
    rintro ⟨text, h⟩
    simp only [find, hs] at h
    cases found with
    | none => cases h
    | some v =>
      -- what is left to fail is showing the value, and that is another fault
      rcases bind_eq_error.mp h with h | ⟨shown, -, h⟩
      · obtain ⟨kind, other, hother⟩ := other_of_shownValue h
        cases hother
      · cases h

/-! ### Write-backs -/

/-- A table that a delivery can be written to: its columns are there, no two rows come to agree on a
unique column, and what is written as the number of a row is a number. -/
structure Admits (t : Table) (d : Delivery) : Prop where
  columns : ∀ name ∈ writtenColumns ++ [tokenColumn], (t.column? name).isSome = true
  apart : (t.changedRows (written d) [(tokenColumn, .text d.token)]).Pairwise
    fun r s => t.clash r s = false
  numbered : ∃ rows, t.renumber (written d)
    (t.changedRows (written d) [(tokenColumn, .text d.token)]) = .ok rows

/-- A table that has the columns of deliveries, and asks of none that are written that its values
differ. -/
structure IsFree (t : Table) : Prop where
  columns : ∀ name ∈ writtenColumns ++ [tokenColumn], (t.column? name).isSome = true
  free : ∀ c ∈ t.columns, (c.isKey || c.isUnique) = true →
    ∀ name ∈ writtenColumns, sameName name c.name = false

theorem IsFree.congr (t t' : Table) (hcols : t'.columns = t.columns) (h : IsFree t) : IsFree t' := by
  refine ⟨?_, ?_⟩
  · intro name hname
    rw [Table.column?, hcols]
    exact h.columns name hname
  · rw [hcols]
    exact h.free

/-- Such a table takes every delivery. -/
theorem IsFree.admits (h : IsFree t) (hs : t.Sound) (d : Delivery) : Admits t d := by
  -- unique columns are given nothing, and the column of the numbers is one of them
  have hgiven : ∀ c ∈ t.columns, (c.isKey || c.isUnique) = true →
      Table.given? (written d) c = none := by
    intro c hc hrule
    refine Table.given?_eq_none ?_
    rw [map_written]
    exact h.free c hc hrule
  exact ⟨h.columns, hs.apart_changed hgiven, _,
    Table.renumber_of_not_given (fun c hc hn => hgiven c hc (Table.isKey_of_isRowNumber hn)) _⟩

theorem written_ne_null (d : Delivery) : ∀ x ∈ written d, x.2 ≠ .null := by
  intro x hx
  simp only [written, List.mem_cons, List.not_mem_nil, or_false] at hx
  rcases hx with rfl | rfl | rfl | rfl | rfl
  all_goals
    intro h
    cases h

theorem exists_record_iff (hn : statementName p.name = .ok n)
    (hs : ∀ t, db.table? n = some t → t.Sound) {d : Delivery} (hd : fitsCell d.delay = true) :
    (∃ r, p.record d db = .ok r) ↔ ∃ t, db.table? n = some t ∧ Admits t d := by
  have hfit := checkCells_written d hd
  -- what a delivery writes is there and fits, so the change asks for the rest only
  have hchange : ∀ t, db.table? n = some t →
      ((∃ r, t.change (written d) [(tokenColumn, .text d.token)] = .ok r) ↔ Admits t d) := by
    intro t ht
    rw [(hs t ht).exists_change_iff (written_ne_null d) hfit]
    exact ⟨fun ⟨h1, h2, h3⟩ => ⟨h1, h2, h3⟩, fun h => ⟨h.columns, h.apart, h.numbered⟩⟩
  constructor
  · rintro ⟨⟨db', k⟩, h⟩
    obtain ⟨n', hn', h⟩ := change_of_record h
    cases hn.symm.trans hn'
    obtain ⟨t, t', ht, ht', -⟩ := change_eq_ok.mp h
    exact ⟨t, ht, (hchange t ht).mp ⟨_, ht'⟩⟩
  · rintro ⟨t, ht, hadmits⟩
    obtain ⟨⟨t', k⟩, ht'⟩ := (hchange t ht).mpr hadmits
    have hupdate : p.update d db = .ok (db.put t', k) :=
      bind_eq_ok.mpr ⟨n, hn, change_eq_ok.mpr ⟨t, t', ht, ht', rfl⟩⟩
    exact ⟨_, by rw [record, hupdate]⟩

/-- **A write-back of the pipeline is refused exactly where no table takes the delivery.** -/
theorem record_refused_iff (hn : statementName p.name = .ok n)
    (hs : ∀ t, db.table? n = some t → t.Sound) (token data : String) (now : Time) :
    (∃ text, p.record (Stage.delivery token data now) db = .error (.update text)) ↔
      ¬ ∃ t, db.table? n = some t ∧ Admits t (Stage.delivery token data now) := by
  have hd : fitsCell (Stage.delivery token data now).delay = true := Trace.fitsCell_recordedDelay data
  rw [← exists_record_iff hn hs hd]
  cases h : p.record (Stage.delivery token data now) db with
  | ok r =>
    refine ⟨?_, fun h => absurd ⟨r, rfl⟩ h⟩
    rintro ⟨text, h⟩
    cases h
  | error f =>
    obtain ⟨text, rfl⟩ := update_of_record h
    refine ⟨fun _ => ?_, fun _ => ⟨text, rfl⟩⟩
    rintro ⟨r, hr⟩
    cases hr

end Ledger.PingTable

namespace Stage

open PingTable

/-! ### The filter -/

section AnyStore

variable {σ : Type} (store : Store σ) (clock : σ → Time) (e : Envelope) (s : Scene σ)

/-- **The filter drops mail for three reasons only**: it carries no token, the token has no ping that
waits, or the lookup is refused. -/
theorem process_cases : ((tokenFilter store clock).process .saveMail e s).2.1 = e ∨
    Ping.token? e.subject = none ∨ ∃ token, Ping.token? e.subject = some token ∧
      ((store.find token s.resources).result = .ok none ∨
        ∃ text, (store.find token s.resources).result = .error (.lookup text)) := by
  -- what the stage does to the message is what its filter does
  have hprocess : ((tokenFilter store clock).process .saveMail e s).2.1
      = (filter store clock e s).2.1 := by
    simp only [tokenFilter]
    split
    · rename_i h
      rw [h]
    · rename_i h
      rw [h]
  rw [hprocess, filter]
  cases htoken : Ping.token? e.subject with
  | none => exact .inr (.inl rfl)
  | some token =>
    cases hfind : (store.find token s.resources).result with
    | ok found =>
      cases found with
      | none => exact .inr (.inr ⟨token, rfl, .inl hfind⟩)
      | some ping =>
        refine .inl ?_
        simp only [hfind]
    | error f =>
      cases f with
      | lookup text => exact .inr (.inr ⟨token, rfl, .inr ⟨text, hfind⟩⟩)
      | _ =>
        refine .inl ?_
        simp only [hfind]

/-- Where lookups are refused, all mail is taken and dropped. -/
theorem process_of_refused
    (h : ∀ token, ∃ text, (store.find token s.resources).result = .error (.lookup text)) :
    ∃ s', (tokenFilter store clock).process .saveMail e s
      = (.ok (Reply.accepted e.queueId), e.suppress, s') := by
  simp only [tokenFilter, filter]
  cases Ping.token? e.subject with
  | none => exact ⟨_, rfl⟩
  | some token =>
    obtain ⟨text, htext⟩ := h token
    simp only [htext]
    exact ⟨_, rfl⟩

end AnyStore

section PingTable

variable {σ : Type} {p : PingTable} {access : Access σ} {clock : σ → Time} {n : String}

/-- **The filter is activated exactly if something of the configured name can be read.** -/
theorem exists_activate_iff {s : Scene σ} :
    (∃ s', (tokenFilter (p.store access) clock).activate s = (.ok (), s')) ↔
      ∃ n, statementName p.name = .ok n ∧ (access.get s.resources).isReadable n = true := by
  rw [← validate_eq_ok, ← result_validate]
  show (∃ s', activateFilter (p.store access) s = (.ok (), s')) ↔ _
  simp only [activateFilter, Scene.resources_note]
  cases ((p.store access).validate s.resources).result with
  | ok u => exact ⟨fun _ => rfl, fun _ => ⟨_, rfl⟩⟩
  | error f =>
    refine ⟨?_, nofun⟩
    rintro ⟨s', h⟩
    cases h

/-- What becomes of lookups, write-backs and mail on resources `r`, as the table tells that was there at
the start. -/
structure Scope (p : PingTable) (access : Access σ) (clock : σ → Time) (n : String) (start : Database)
    (r : σ) : Prop where
  /-- Lookups are refused for every token or for none. -/
  lookups : ∀ token, (∃ text, ((p.store access).find token r).result = .error (.lookup text)) ↔
    ¬ p.CanFind n start
  /-- A write-back is refused exactly if the table does not take it. -/
  updates : ∀ token data now,
    (∃ text, ((p.store access).record (delivery token data now) r).result = .error (.update text)) ↔
      ¬ ∃ t, (access.get r).table? n = some t ∧ Admits t (delivery token data now)
  /-- A table with all columns takes every write-back, unless values that are written have to differ. -/
  written : (∃ t, start.table? n = some t ∧ IsFree t) → ∀ token data now,
    ∃ k, ((p.store access).record (delivery token data now) r).result = .ok k
  /-- Where pings can be looked up, mail is dropped only for want of one. -/
  judged : p.CanFind n start → ∀ (e : Envelope) (s : Scene σ), s.resources = r →
    ((tokenFilter (p.store access) clock).process .saveMail e s).2.1 = e ∨
      Ping.token? e.subject = none ∨ ∃ token, Ping.token? e.subject = some token ∧
        ((p.store access).find token r).result = .ok none
  /-- Where they cannot, all mail is taken and dropped. -/
  dropped : ¬ p.CanFind n start → ∀ (e : Envelope) (s : Scene σ), s.resources = r →
    ∃ s', (tokenFilter (p.store access) clock).process .saveMail e s
      = (.ok (Reply.accepted e.queueId), e.suppress, s')

/-- **What the start guarantees.** A filter that is activated has something of the configured name that
can be read, and no more: as long as the columns of the table stay, lookups, write-backs and mail fare
as these columns tell. -/
theorem scope_of_activation {s s' : Scene σ}
    (h : (tokenFilter (p.store access) clock).activate s = (.ok (), s')) :
    ∃ n, statementName p.name = .ok n ∧ (access.get s.resources).isReadable n = true ∧
      ∀ r : σ, SameColumns n (access.get s.resources) (access.get r) →
        (∀ t, (access.get r).table? n = some t → t.Sound) →
        Scope p access clock n (access.get s.resources) r := by
  obtain ⟨n, hn, hreadable⟩ := exists_activate_iff.mp ⟨s', h⟩
  refine ⟨n, hn, hreadable, ?_⟩
  intro r hcols hsound
  -- what a lookup asks for it asks of the columns, and these are the same still
  have hcan : p.CanFind n (access.get r) ↔ p.CanFind n (access.get s.resources) :=
    hcols.exists_iff IsAskable.congr
  have hlookups : ∀ token, (∃ text, ((p.store access).find token r).result = .error (.lookup text)) ↔
      ¬ p.CanFind n (access.get s.resources) := by
    intro token
    rw [← hcan]
    exact find_refused_iff hn token
  refine ⟨hlookups, ?_, ?_, ?_, ?_⟩
  · intro token data now
    rw [← record_refused_iff hn hsound token data now, result_record]
    cases p.record (delivery token data now) (access.get r) with
    | ok x => exact ⟨nofun, nofun⟩
    | error f =>
      constructor
      · rintro ⟨text, h⟩
        cases h
        exact ⟨text, rfl⟩
      · rintro ⟨text, h⟩
        cases h
        exact ⟨text, rfl⟩
  · intro hfree token data now
    obtain ⟨t, ht, hfree⟩ := (hcols.exists_iff IsFree.congr).mpr hfree
    have hd : fitsCell (delivery token data now).delay = true := Trace.fitsCell_recordedDelay data
    obtain ⟨⟨db', k⟩, hrecord⟩ :=
      (exists_record_iff hn hsound hd).mpr ⟨t, ht, hfree.admits (hsound t ht) _⟩
    refine ⟨k, ?_⟩
    rw [result_record, hrecord]
    rfl
  · rintro hfind e x rfl
    rcases process_cases (p.store access) clock e x with
      hkept | hnone | ⟨token, htoken, hwaits | hrefused⟩
    · exact .inl hkept
    · exact .inr (.inl hnone)
    · exact .inr (.inr ⟨token, htoken, hwaits⟩)
    · exact absurd hfind ((hlookups token).mp hrefused)
  · rintro hfind e x rfl
    exact process_of_refused _ _ _ _ fun token => (hlookups token).mpr hfind

end PingTable

namespace Sample

/-- Premises with the sample database, which has a table of pings. -/
def premises : Premises := { database := Ledger.Sample.database, now := Ledger.Sample.noon }

/-- Premises whose table has the right name and a wrong column. -/
def strange : Premises where
  database := { tables := [{ name := "pings", columns := [{ name := "x", type := "TEXT" }] }] }
  now := Ledger.Sample.noon

/-- The filter over the table of pings. -/
def filter : Stage Premises := tokenFilter (Ledger.Sample.pings.store Premises.access) Premises.now

end Sample

/-- On a table with the columns of pings nothing is refused. -/
theorem scope_of_activation_pings :
    ∃ s', Sample.filter.activate { resources := Sample.premises } = (.ok (), s') ∧
      (∀ token text, ((Ledger.Sample.pings.store Premises.access).find token Sample.premises).result
        ≠ .error (.lookup text)) ∧
      ∀ token data now, ∃ k, ((Ledger.Sample.pings.store Premises.access).record
        (delivery token data now) Sample.premises).result = .ok k := by
  have hactivate : ∃ s', Sample.filter.activate { resources := Sample.premises } = (.ok (), s') :=
    exists_activate_iff.mpr ⟨"pings", by decide, by decide⟩
  obtain ⟨s', hs'⟩ := hactivate
  obtain ⟨n, hn, -, hscope⟩ := scope_of_activation hs'
  have hname : statementName Ledger.Sample.pings.name = .ok "pings" := by decide
  cases hname.symm.trans hn
  have hsound : ∀ t, (Premises.access.get Sample.premises).table? "pings" = some t → t.Sound := by
    rintro t ⟨⟩
    exact Ledger.Sample.isPings_table.sound
  obtain ⟨hlookups, -, hwritten, -, -⟩ := hscope Sample.premises rfl hsound
  have hcan : Ledger.Sample.pings.CanFind "pings" Ledger.Sample.database :=
    ⟨Ledger.Sample.table, rfl, ⟨tokenColumn, _, by decide, rfl⟩, by decide⟩
  refine ⟨s', hs', ?_, ?_⟩
  · intro token text h
    exact (hlookups token).mp ⟨text, h⟩ hcan
  · exact hwritten ⟨Ledger.Sample.table, rfl, by decide, by decide⟩

/-- On a table with another column the filter is activated all the same; then every lookup and every
write-back is refused, and mail with a token is taken and dropped. -/
theorem activated_on_strange_columns :
    PingTable.describe? (some "pings") (some "guid") = .ok Ledger.Sample.pings ∧
      (Sample.filter.activate { resources := Sample.strange }).1 = .ok () ∧
      ((Ledger.Sample.pings.store Premises.access).find "x" Sample.strange).result
        = .error (.lookup "Could not lookup GUID x: (OperationalError)") ∧
      ((Ledger.Sample.pings.store Premises.access).record
          (delivery "x" "Subject: guid: x\n\nhello" Ledger.Sample.noon) Sample.strange).result
        = .error (.update "Could not update delay for GUID x: (OperationalError)") ∧
      (Sample.filter.process .saveMail { data := "Subject: guid: x\n\nhello", subject := some "guid: x" }
        { resources := Sample.strange }).1 = .ok { code := 250, text := "OK" } ∧
      (Sample.filter.process .saveMail { data := "Subject: guid: x\n\nhello", subject := some "guid: x" }
        { resources := Sample.strange }).2.1.isIgnored = true := by
  refine ⟨by decide, by decide, by decide +kernel, by decide +kernel, by decide +kernel, ?_⟩
  decide +kernel

end Stage

end DeliveryWatch
