/-
Pipelines are assembled as the plan says.

* `Plan.Writes` — the names that a plan writes, said without cutting its text; they are the stage names
  (`Plan.writes_stageNames`, `Plan.Writes.eq_stageNames`);
* `Registry.make_of_contains`, `Registry.make_of_not_contains` — the stage of a name is made as it was
  registered, and a name that is not registered is the fault;
* `orShipped_given` — a registry that is given and not empty is the one that stages come from;
* `assemble_eq_ok`, `assemble_eq_error` — what comes out, name by name;
* `shippedStages_make_eq_error` — which of the shipped stages cannot be made, and when;
* `assemble_exact` — a pipeline has the stages of the names in order, each made by the registry, and
  what cannot be assembled fails at the first name whose stage cannot be made.
-/
import DeliveryWatch.Pipeline.Assembly
import DeliveryWatch.Proofs.Outcome

namespace DeliveryWatch

/-! ### Names -/

/-- The plan writes these names: its text consists of parts without a bar, with bars between them, and
the names are the parts without the blanks at their ends, but for parts of blanks only. -/
def Plan.Writes (p : Plan) (names : List String) : Prop :=
  ∃ parts : List (List Char), parts ≠ [] ∧ (∀ part ∈ parts, '|' ∉ part) ∧
    p.process.toList = ['|'].intercalate parts ∧
    names = ((parts.map Text.strip).filter (· ≠ [])).map String.ofList

theorem notMem_of_mem_splitOn {c : Char} {s part : List Char} (h : part ∈ s.splitOn c) : c ∉ part := by
  induction s generalizing part with
  | nil =>
    rw [List.splitOn_nil, List.mem_singleton] at h
    rw [h]
    exact List.not_mem_nil
  | cons d s ih =>
    rw [List.splitOn_cons_eq_if_modifyHead] at h
    split at h
    · rcases List.mem_cons.mp h with rfl | h
      · exact List.not_mem_nil
      · exact ih h
    · rename_i hd
      -- any other character goes to the first part
      obtain ⟨first, rest, hcut⟩ := List.exists_cons_of_ne_nil (List.splitOn_ne_nil c s)
      rw [hcut, List.modifyHead_cons] at h
      rw [hcut] at ih
      rcases List.mem_cons.mp h with rfl | h
      · rw [List.mem_cons, not_or]
        refine ⟨?_, ih List.mem_cons_self⟩
        rintro rfl
        exact hd (beq_self_eq_true c)
      · exact ih (List.mem_cons_of_mem first h)

theorem Plan.stageNames_eq (p : Plan) : p.stageNames
    = (((p.process.toList.splitOn '|').map Text.strip).filter (· ≠ [])).map String.ofList := by
  rw [stageNames]
  generalize (p.process.toList.splitOn '|').map Text.strip = parts
  induction parts with
  | nil => rfl
  | cons part parts ih =>
    cases part with
    | nil => exact ih
    | cons c part => exact congrArg (String.ofList (c :: part) :: ·) ih

theorem Plan.writes_stageNames (p : Plan) : p.Writes p.stageNames :=
  ⟨p.process.toList.splitOn '|', List.splitOn_ne_nil _ _, fun _ => notMem_of_mem_splitOn,
    (List.intercalate_splitOn '|').symm, p.stageNames_eq⟩

theorem Plan.Writes.eq_stageNames {p : Plan} {names : List String} (h : p.Writes names) :
    names = p.stageNames := by
  obtain ⟨parts, hne, hbars, htext, rfl⟩ := h
  rw [stageNames_eq, htext, List.splitOn_intercalate '|' hbars hne]

/-! ### Stages -/

namespace Registry

variable {σ : Type} {r : Registry (Maker σ)} {name : String}

/-- The stage of a name is made as it was registered. -/
theorem make_of_contains (h : r.contains (some name) = true) :
    ∃ maker, (key name, maker) ∈ r.entries ∧ r.make name = maker () := by
  obtain ⟨maker, hfind⟩ := Option.isSome_iff_exists.mp h
  obtain ⟨before, after, hentries, -⟩ := List.lookup_eq_some_iff.mp hfind
  refine ⟨maker, ?_, ?_⟩
  · rw [hentries]
    exact List.mem_append_right before List.mem_cons_self
  · rw [make, lookup, hfind]

theorem make_of_not_contains (h : r.contains (some name) = false) :
    r.make name = .error (.unknown (.unknown (some name) r.names)) := by
  have hfind : r.find? (some name) = none := by
    rw [contains, Option.isSome_eq_false_iff, Option.isNone_iff_eq_none] at h
    exact h
  rw [make, lookup, hfind]

theorem message_unknown (name : String) (available : List String) :
    (AssemblyFault.unknown (.unknown (some name) available)).message
      = "Unknown pipeline stage: " ++ name ++ ". Available: " ++ String.intercalate ", " available :=
  rfl

end Registry

/-! ### Assembly -/

variable {σ : Type} {shipped : Registry (Maker σ)} {given : Option (Registry (Maker σ))}

theorem orShipped_given (h : ∀ r ∈ given, 0 < r.size) :
    Registry.orShipped shipped given = given.getD shipped := by
  cases given with
  | none => rfl
  | some r =>
    have hsize : (r.size != 0) = true := by
      rw [bne_iff_ne]
      exact Nat.ne_of_gt (h r rfl)
    rw [Registry.orShipped, Option.filter_some, if_pos hsize]

theorem assemble_eq_ok {p : Plan} (h : ∀ r ∈ given, 0 < r.size) {pl : Pipeline σ} :
    assemble shipped p given = .ok pl ↔ ∃ stages, pl = { stages := stages } ∧ p.stageNames ≠ [] ∧
      List.Forall₂ (fun name stage => (given.getD shipped).make name = .ok stage) p.stageNames
        stages := by
  rw [assemble, orShipped_given h]
  refine Outcome.guard_eq_ok.trans ?_
  rw [List.isEmpty_iff, Outcome.bind_eq_ok]
  constructor
  · rintro ⟨hnames, stages, hstages, hpl⟩
    cases hpl
    exact ⟨stages, rfl, hnames, Outcome.mapM_eq_ok.mp hstages⟩
  · rintro ⟨stages, rfl, hnames, hstages⟩
    exact ⟨hnames, stages, Outcome.mapM_eq_ok.mpr hstages, rfl⟩

/-- A plan that cannot be assembled names no stage, or fails at the first name that has none. -/
theorem assemble_eq_error {p : Plan} (h : ∀ r ∈ given, 0 < r.size) {f : AssemblyFault} :
    assemble shipped p given = .error f ↔ p.stageNames = [] ∧ f = .noStages ∨
      ∃ before name after, p.stageNames = before ++ name :: after ∧
        (∀ n ∈ before, ∃ stage, (given.getD shipped).make n = .ok stage) ∧
        (given.getD shipped).make name = .error f := by
  rw [assemble, orShipped_given h]
  refine Outcome.guard_eq_error.trans ?_
  rw [List.isEmpty_iff, Outcome.bind_eq_error, Outcome.mapM_eq_error]
  constructor
  · rintro (h | ⟨-, h | ⟨stages, -, h⟩⟩)
    · exact .inl h
    · exact .inr h
    · cases h
  · rintro (h | ⟨before, name, after, hnames, h⟩)
    · exact .inl h
    · refine .inr ⟨?_, .inl ⟨before, name, after, hnames, h⟩⟩
      rw [hnames]
      exact List.append_ne_nil_of_right_ne_nil _ (List.cons_ne_nil name after)

/-- A stage of a pipeline is one that the registry holds. -/
theorem Registry.exists_maker_of_make {r : Registry (Maker σ)} {name : String} {stage : Stage σ}
    (h : r.make name = .ok stage) : ∃ maker, (key name, maker) ∈ r.entries ∧ maker () = .ok stage := by
  cases hname : r.contains (some name) with
  | false =>
    rw [make_of_not_contains hname] at h
    cases h
  | true =>
    obtain ⟨maker, hmem, hmake⟩ := make_of_contains hname
    exact ⟨maker, hmem, hmake.symm.trans h⟩

/-- The shipped stages can be made, but for the token filter over a table whose names are no names. -/
theorem shippedStages_make_eq_error {access : Access σ} {clock : σ → Time} {p : Plan} {name : String}
    {f : AssemblyFault} (hname : (shippedStages access clock p).contains (some name) = true) :
    (shippedStages access clock p).make name = .error f ↔ Registry.key name = "guidfilter" ∧
      ∃ g, Ledger.PingTable.describe? (some p.table) (some p.field) = .error g ∧ f = .name g := by
  obtain ⟨maker, hmem, hmake⟩ := Registry.make_of_contains hname
  rw [hmake]
  simp only [shippedStages, List.mem_cons, Prod.mk.injEq, List.not_mem_nil, or_false] at hmem
  rcases hmem with ⟨hkey, rfl⟩ | ⟨hkey, rfl⟩ | ⟨hkey, rfl⟩
  case inr.inl =>
    rw [hkey]
    cases Ledger.PingTable.describe? (some p.table) (some p.field) with
    | ok t => simp
    | error g => simp [eq_comm]
  -- the other two are made whatever the names
  all_goals simp [hkey]

theorem key_guidFilter : Registry.key "GuidFilter" = "guidfilter" := by decide +kernel

theorem shippedStages_contains_guidFilter (access : Access σ) (clock : σ → Time) (p : Plan) :
    (shippedStages access clock p).contains (some "GuidFilter") = true := by
  rw [Registry.contains, Registry.find?, Registry.keyOf, Option.getD_some, key_guidFilter]
  rfl

/-- The token filter over a table whose names are no names cannot be made. -/
theorem shippedStages_make_guidFilter {access : Access σ} {clock : σ → Time} {p : Plan}
    {g : Database.NameFault}
    (h : Ledger.PingTable.describe? (some p.table) (some p.field) = .error g) :
    (shippedStages access clock p).make "GuidFilter" = .error (.name g) :=
  (shippedStages_make_eq_error (shippedStages_contains_guidFilter access clock p)).mpr
    ⟨key_guidFilter, g, h, rfl⟩

/-- **Pipelines are assembled as configured.** A plan writes one row of names. From the registry that is
given and not empty, or else from the shipped one, the pipeline is the one whose stages the registry makes
for these names, in their order; it is assembled if there is a name and each can be made. Otherwise the
fault is that of the first name that cannot be made. A name that is registered is made by what is
registered under it, and one that is not is the fault; and of the shipped stages all can be made, but for
the token filter when the table of pings is given a name that is none. -/
theorem assemble_exact (access : Access σ) (clock : σ → Time) (p : Plan)
    {given : Option (Registry (Maker σ))} (h : ∀ r ∈ given, 0 < r.size) :
    let shipped := shippedStages access clock p
    let r := given.getD shipped
    ∃ names, p.Writes names ∧ (∀ others, p.Writes others → others = names) ∧
      (∀ pl, assemble shipped p given = .ok pl ↔ ∃ stages, pl = { stages := stages } ∧ names ≠ [] ∧
        List.Forall₂ (fun name stage => r.make name = .ok stage) names stages) ∧
      (∀ f, assemble shipped p given = .error f ↔ names = [] ∧ f = .noStages ∨
        ∃ before name after, names = before ++ name :: after ∧
          (∀ n ∈ before, ∃ stage, r.make n = .ok stage) ∧ r.make name = .error f) ∧
      (∀ name, r.contains (some name) = true →
        ∃ maker, (Registry.key name, maker) ∈ r.entries ∧ r.make name = maker ()) ∧
      (∀ name, r.contains (some name) = false → ∃ f, r.make name = .error f ∧
        f.message = "Unknown pipeline stage: " ++ name ++ ". Available: " ++
          String.intercalate ", " r.names) ∧
      (∀ pl, assemble shipped p given = .ok pl →
        ∀ stage ∈ pl.stages, ∃ entry ∈ r.entries, entry.2 () = .ok stage) ∧
      (∀ name f, shipped.contains (some name) = true → (shipped.make name = .error f ↔
        Registry.key name = "guidfilter" ∧
          ∃ g, Ledger.PingTable.describe? (some p.table) (some p.field) = .error g ∧ f = .name g)) := by
  intro shipped r
  refine ⟨p.stageNames, p.writes_stageNames, fun _ => Plan.Writes.eq_stageNames,
    fun pl => assemble_eq_ok h, fun f => assemble_eq_error h, fun name => Registry.make_of_contains,
    fun name hname => ⟨_, Registry.make_of_not_contains hname, Registry.message_unknown name r.names⟩,
    ?_, fun name f => shippedStages_make_eq_error⟩
  intro pl hpl stage hstage
  obtain ⟨stages, rfl, -, hstages⟩ := (assemble_eq_ok h).mp hpl
  obtain ⟨name, -, hmake⟩ := Outcome.of_mem_mapM (Outcome.mapM_eq_ok.mpr hstages) hstage
  obtain ⟨maker, hmem, hmaker⟩ := Registry.exists_maker_of_make hmake
  exact ⟨_, hmem, hmaker⟩

/-- Names of any case between blanks, one of them twice, and a part of blanks only. -/
theorem assemble_exact_repeated :
    let p : Plan := { process := " b || A |B " }
    let given : Registry (Maker Premises) := ⟨[("a", fun _ => .ok Stage.headers),
      ("b", fun _ => .ok (Stage.mailBox Premises.access))]⟩
    0 < given.size ∧ p.Writes ["b", "A", "B"] ∧
      assemble (shippedStages Premises.access Premises.now p) p (some given) = .ok
        { stages := [Stage.mailBox Premises.access, Stage.headers, Stage.mailBox Premises.access] } := by
  intro p given
  have hsize : ∀ r ∈ some given, 0 < r.size := by
    rintro r ⟨⟩
    decide
  have hstages : p.stageNames = ["b", "A", "B"] := by decide +kernel
  have hwrites : p.Writes ["b", "A", "B"] := hstages ▸ p.writes_stageNames
  obtain ⟨names, -, hnames, hok, -⟩ := assemble_exact Premises.access Premises.now p hsize
  obtain rfl := hnames _ hwrites
  refine ⟨by decide, hwrites, (hok _).mpr ⟨_, rfl, List.cons_ne_nil _ _, ?_⟩⟩
  exact .cons rfl (.cons rfl (.cons rfl .nil))

/-- Names that are all registered need not have a pipeline: the table of the token filter has a blank in
its name. And an empty registry that is given holds no name, but the pipeline of the shipped stages is
assembled. -/
theorem not_assembled_of_contains :
    let p : Plan := { table := "a b" }
    let shipped := shippedStages Premises.access Premises.now p
    let names := ["HeadersParser", "GuidFilter", "MailStore"]
    let empty : Registry (Maker Premises) := {}
    (p.Writes names ∧ (∀ name ∈ names, shipped.contains (some name) = true) ∧
      assemble shipped p = .error (.name ⟨"lookup table name", some "a b"⟩)) ∧
    (∀ name, empty.contains name = false) ∧
      ∃ pl, assemble (shippedStages Premises.access Premises.now {}) {} (some empty) = .ok pl ∧
        pl.stages.length = 3 := by
  intro p shipped names empty
  have hnames : p.stageNames = names := by decide +kernel
  refine ⟨⟨hnames ▸ p.writes_stageNames, ?_, ?_⟩, fun name => rfl, ?_⟩
  · simp only [names, List.forall_mem_cons]
    exact ⟨rfl, rfl, rfl, nofun⟩
  · have hdescribe : Ledger.PingTable.describe? (some p.table) (some p.field)
        = .error ⟨"lookup table name", some "a b"⟩ := by decide +kernel
    have hnone : ∀ r ∈ (none : Option (Registry (Maker Premises))), 0 < r.size := fun r h => by cases h
    refine (assemble_eq_error hnone).mpr (.inr ⟨["HeadersParser"], "GuidFilter", ["MailStore"], hnames,
      ?_, shippedStages_make_guidFilter hdescribe⟩)
    rw [List.forall_mem_singleton]
    exact ⟨Stage.headers, rfl⟩
  · exact ⟨_, rfl, rfl⟩

end DeliveryWatch
