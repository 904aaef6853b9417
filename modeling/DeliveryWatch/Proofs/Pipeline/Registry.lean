/-
What a registry holds after any calls of `register`.

* `key_key` — the key of a key is the key itself;
* `register_eq_ok`, `register_eq_error` — a name is refused if its key is empty or held;
* `attempt` — a call that is refused leaves the registry as it was; `accepted` — the calls that are not;
* `entries_run`, `nodup_run` — after any calls the registry holds the calls that were accepted, each under
  its key, and no key twice;
* `answers_run` — so `register`, `contains`, `lookup`, `make` and `names` agree on what the registry
  holds.
-/
import DeliveryWatch.Proofs.Pipeline.Assembly
import DeliveryWatch.Proofs.Text.Case

namespace DeliveryWatch.Registry

/-! ### Keys -/

theorem key_key (name : String) : key (key name) = key name := by
  simp only [key, String.toList_ofList, Text.strip_lower_strip, Text.lower_lower]

example : key " MailStore\n" = "mailstore" := by decide +kernel

theorem keyOf_keyOf (name : Option String) : keyOf (some (keyOf name)) = keyOf name :=
  key_key (name.getD "")

/-! ### One call -/

variable {α : Type} {r r' : Registry α} {x : Option String} {a : α}

theorem contains_iff : r.contains x = true ↔ keyOf x ∈ r.entries.map Prod.fst := by
  rw [contains, find?, List.lookup_isSome_iff]
  simp only [List.mem_map, beq_iff_eq, eq_comm (a := keyOf x)]

/-- A name is accepted if it has a key that is not held yet, and its key is added. -/
theorem register_eq_ok : r.register x a = .ok r' ↔
    keyOf x ≠ "" ∧ r.contains x = false ∧ r' = ⟨r.entries ++ [(keyOf x, a)]⟩ := by
  rw [register, ite_eq_iff]
  simp only [String.isEmpty_iff, reduceCtorEq, and_false, false_or]
  rw [ite_eq_iff]
  simp only [reduceCtorEq, and_false, false_or, Bool.not_eq_true, Except.ok.injEq, ne_eq,
    eq_comm (a := r')]

/-- A name is refused if its key is empty or held. -/
theorem register_eq_error :
    (∃ f, r.register x a = .error f) ↔ keyOf x = "" ∨ r.contains x = true := by
  cases hcall : r.register x a with
  | error f =>
    refine iff_of_true ⟨f, rfl⟩ ?_
    -- a name with a key that is free would be accepted
    by_contra hfree
    obtain ⟨hkey, hheld⟩ := not_or.mp hfree
    have hok := (register_eq_ok (a := a)).mpr ⟨hkey, eq_false_of_ne_true hheld, rfl⟩
    rw [hcall] at hok
    cases hok
  | ok r' =>
    obtain ⟨hkey, hheld, -⟩ := register_eq_ok.mp hcall
    refine iff_of_false ?_ (not_or.mpr ⟨hkey, ?_⟩)
    · rintro ⟨f, hf⟩
      cases hf
    · rw [hheld]
      exact Bool.false_ne_true

/-! ### Any number of calls -/

/-- Try to register; a registry that refuses stays as it is. -/
def attempt (r : Registry α) (call : Option String × α) : Registry α :=
  match r.register call.1 call.2 with
  | .ok r' => r'
  | .error _ => r

/-- The calls, one after another, that the registry accepts. -/
def accepted (r : Registry α) : List (Option String × α) → List (Option String × α)
  | [] => []
  | call :: calls =>
    match r.register call.1 call.2 with
    | .ok r' => call :: r'.accepted calls
    | .error _ => r.accepted calls

/-- The registry after calls, which is empty before them. -/
def run (calls : List (Option String × α)) : Registry α := calls.foldl attempt {}

theorem attempt_of_free (hkey : keyOf x ≠ "") (hfree : r.contains x = false) :
    r.attempt (x, a) = ⟨r.entries ++ [(keyOf x, a)]⟩ := by
  rw [attempt, register_eq_ok.mpr ⟨hkey, hfree, rfl⟩]

theorem entries_foldl (r : Registry α) (calls : List (Option String × α)) :
    (calls.foldl attempt r).entries
      = r.entries ++ (r.accepted calls).map fun c => (keyOf c.1, c.2) := by
  -- on the calls, from any registry: an accepted call changes the one that the rest starts from
  induction calls generalizing r with
  | nil => exact (List.append_nil _).symm
  | cons call calls ih =>
    rw [List.foldl_cons, attempt, accepted]
    cases hcall : r.register call.1 call.2 with
    | error f => exact ih r
    | ok r' =>
      obtain ⟨-, -, rfl⟩ := register_eq_ok.mp hcall
      rw [ih, List.append_assoc]
      rfl

/-- The registry holds the calls that were accepted, each under its key. -/
theorem entries_run (calls : List (Option String × α)) :
    (run calls).entries = (accepted {} calls).map fun c => (keyOf c.1, c.2) :=
  entries_foldl {} calls

theorem nodup_attempt (h : (r.entries.map Prod.fst).Nodup) (call : Option String × α) :
    ((r.attempt call).entries.map Prod.fst).Nodup := by
  rw [attempt]
  cases hcall : r.register call.1 call.2 with
  | error f => exact h
  | ok r' =>
    obtain ⟨-, hfree, rfl⟩ := register_eq_ok.mp hcall
    have hnew : keyOf call.1 ∉ r.entries.map Prod.fst := by
      rw [← contains_iff, hfree]
      exact Bool.false_ne_true
    rw [List.map_append, List.map_singleton]
    exact List.nodup_append.mpr ⟨h, List.pairwise_singleton _ _, fun k hk l hl => by
      rw [List.mem_singleton.mp hl]
      rintro rfl
      exact hnew hk⟩

/-- The registry holds no key twice. -/
theorem nodup_run (calls : List (Option String × α)) :
    ((run calls).entries.map Prod.fst).Nodup := by
  have hfold : ∀ r : Registry α, (r.entries.map Prod.fst).Nodup →
      ((calls.foldl attempt r).entries.map Prod.fst).Nodup := by
    induction calls with
    | nil => exact fun r h => h
    | cons call calls ih =>
      intro r h
      rw [List.foldl_cons]
      exact ih (r.attempt call) (nodup_attempt h call)
  exact hfold {} List.nodup_nil

/-! ### What the registry answers -/

theorem lookup_of_mem {entries : List (String × α)} (h : (entries.map Prod.fst).Nodup) {k : String}
    (hmem : (k, a) ∈ entries) : entries.lookup k = some a := by
  induction entries with
  | nil => cases hmem
  | cons e entries ih =>
    rw [List.map_cons, List.nodup_cons] at h
    rcases List.mem_cons.mp hmem with rfl | hmem
    · exact List.lookup_cons_self
    · have hne : (k == e.1) = false := by
        rw [beq_eq_false_iff_ne]
        rintro rfl
        exact h.1 (List.mem_map.mpr ⟨(e.1, a), hmem, rfl⟩)
      rw [List.lookup_cons, hne]
      exact ih h.2 hmem

theorem contains_run_iff {calls : List (Option String × α)} :
    (run calls).contains x = true ↔ ∃ c ∈ accepted {} calls, keyOf c.1 = keyOf x := by
  rw [contains_iff, entries_run, List.map_map, List.mem_map]
  rfl

theorem lookup_run {calls : List (Option String × α)} {c : Option String × α}
    (hc : c ∈ accepted {} calls) (hx : keyOf c.1 = keyOf x) : (run calls).lookup x = .ok c.2 := by
  have hmem : (keyOf x, c.2) ∈ (run calls).entries := by
    rw [entries_run, ← hx]
    exact List.mem_map_of_mem (f := fun c : Option String × α => (keyOf c.1, c.2)) hc
  rw [lookup, find?, lookup_of_mem (nodup_run calls) hmem]

theorem contains_iff_lookup : r.contains x = true ↔ ∃ a, r.lookup x = .ok a := by
  rw [contains, lookup]
  cases r.find? x with
  | none =>
    refine iff_of_false Bool.false_ne_true ?_
    rintro ⟨a, h⟩
    cases h
  | some a => exact iff_of_true rfl ⟨a, rfl⟩

theorem attempt_eq_self : r.attempt (x, a) = r ↔ ∃ f, r.register x a = .error f := by
  rw [attempt]
  cases hcall : r.register x a with
  | error f => exact iff_of_true rfl ⟨f, rfl⟩
  | ok r' =>
    obtain ⟨-, -, rfl⟩ := register_eq_ok.mp hcall
    refine iff_of_false ?_ ?_
    · intro hsame
      have hlength := congrArg (fun r => r.entries.length) hsame
      simp only [List.length_append, List.length_singleton] at hlength
      omega
    · rintro ⟨f, h⟩
      cases h

theorem perm_names (r : Registry α) : r.names.Perm (r.entries.map Prod.fst) :=
  List.mergeSort_perm _ _

/-- The names stand in order, none of them twice. -/
theorem pairwise_names (h : (r.entries.map Prod.fst).Nodup) : r.names.Pairwise (· < ·) := by
  -- sorting leaves equal names side by side; that there are none comes from the keys
  have hsorted : r.names.Pairwise fun a b => decide (a ≤ b) = true := by
    refine List.pairwise_mergeSort (fun a b c hab hbc => ?_) (fun a b => ?_) _
    · exact decide_eq_true (String.le_trans (of_decide_eq_true hab) (of_decide_eq_true hbc))
    · rw [Bool.or_eq_true, decide_eq_true_eq, decide_eq_true_eq]
      exact String.le_total a b
  have hdistinct : r.names.Nodup := (perm_names r).nodup_iff.mpr h
  refine List.Pairwise.imp₂ (fun a b hle hne => ?_) hsorted hdistinct
  exact Std.lt_of_le_of_ne (of_decide_eq_true hle) hne

variable {σ : Type}

/-- What a registry answers when these calls were accepted. -/
structure Answers (r : Registry (Maker σ)) (done : List (Option String × Maker σ)) : Prop where
  /-- A name is refused if its key is empty or that of an accepted call. -/
  refused : ∀ x maker, (∃ f, r.register x maker = .error f) ↔
    keyOf x = "" ∨ ∃ c ∈ done, keyOf c.1 = keyOf x
  /-- Just then the registry stays as it is. -/
  unchanged : ∀ x maker, r.attempt (x, maker) = r ↔ keyOf x = "" ∨ ∃ c ∈ done, keyOf c.1 = keyOf x
  /-- The registry contains the names that have the key of an accepted call. -/
  contained : ∀ x, r.contains x = true ↔ ∃ c ∈ done, keyOf c.1 = keyOf x
  /-- These are the names under which something is found. -/
  found : ∀ x, r.contains x = true ↔ ∃ maker, r.lookup x = .ok maker
  /-- The stage of such a name is made, or cannot be made, as the accepted call says. -/
  made : ∀ c ∈ done, ∀ x, keyOf c.1 = keyOf x →
    r.lookup x = .ok c.2 ∧ ∀ name, x = some name → r.make name = c.2 ()
  /-- Any other name is unknown. -/
  unknown : ∀ name, r.contains (some name) = false →
    r.make name = .error (.unknown (.unknown (some name) r.names))
  /-- So if all that was registered can be made, the names that are contained have stages, and no
  others. -/
  stages : (∀ c ∈ done, ∃ stage, c.2 () = .ok stage) →
    ∀ name, r.contains (some name) = true ↔ ∃ stage, r.make name = .ok stage
  /-- The names stand in order, none of them twice. -/
  sorted : r.names.Pairwise (· < ·)
  /-- They are the keys of the accepted calls. -/
  keys : r.names.Perm (done.map fun c => keyOf c.1)
  /-- There are as many as the size says, one for each accepted call. -/
  size : r.names.length = r.size ∧ r.size = done.length
  /-- Each of them is contained, and finds what was registered under it. -/
  resolved : ∀ name ∈ r.names, r.contains (some name) = true ∧
    ∃ c ∈ done, keyOf c.1 = name ∧ r.lookup (some name) = .ok c.2

/-- **The answers of a registry agree.** After any calls of `register`, whether accepted or not, the
registry answers by the calls that were accepted. -/
theorem answers_run (calls : List (Option String × Maker σ)) :
    Answers (run calls) (accepted {} calls) := by
  have hkeys : (run calls).entries.map Prod.fst = (accepted {} calls).map fun c => keyOf c.1 := by
    rw [entries_run, List.map_map]
    rfl
  have hmade : ∀ c ∈ accepted {} calls, ∀ x, keyOf c.1 = keyOf x → (run calls).lookup x = .ok c.2 ∧
      ∀ name, x = some name → (run calls).make name = c.2 () := by
    intro c hc x hx
    refine ⟨lookup_run hc hx, ?_⟩
    rintro name rfl
    rw [make, lookup_run hc hx]
  refine
    { refused := fun x maker => by rw [register_eq_error, contains_run_iff]
      unchanged := fun x maker => by rw [attempt_eq_self, register_eq_error, contains_run_iff]
      contained := fun x => contains_run_iff
      found := fun x => contains_iff_lookup
      made := hmade
      unknown := fun name => make_of_not_contains
      stages := ?_
      sorted := pairwise_names (nodup_run calls)
      keys := hkeys ▸ perm_names (run calls)
      size := ?_
      resolved := ?_ }
  · intro hall name
    constructor
    · intro hname
      obtain ⟨c, hc, hkey⟩ := contains_run_iff.mp hname
      obtain ⟨stage, hstage⟩ := hall c hc
      exact ⟨stage, ((hmade c hc _ hkey).2 name rfl).trans hstage⟩
    · rintro ⟨stage, hstage⟩
      by_contra hname
      rw [make_of_not_contains (eq_false_of_ne_true hname)] at hstage
      cases hstage
  · have hlength := (perm_names (run calls)).length_eq
    rw [List.length_map] at hlength
    refine ⟨hlength, ?_⟩
    rw [Registry.size, entries_run, List.length_map]
  · intro name hname
    -- a name that the registry lists is the key of an accepted call, and the key of itself
    obtain ⟨c, hc, rfl⟩ := List.mem_map.mp (hkeys ▸ (perm_names (run calls)).mem_iff.mp hname)
    have hkey : keyOf c.1 = keyOf (some (keyOf c.1)) := (keyOf_keyOf c.1).symm
    exact ⟨contains_run_iff.mpr ⟨c, hc, hkey⟩, c, hc, rfl, lookup_run hc hkey⟩

/-- The calls that register the shipped stages. -/
def shippedCalls (access : Access σ) (clock : σ → Time) (p : Plan) :
    List (Option String × Maker σ) :=
  [some "HeadersParser", some "GuidFilter", some "MailStore"].zip
    ((shippedStages access clock p).entries.map Prod.snd)

theorem run_shippedCalls (access : Access σ) (clock : σ → Time) (p : Plan) :
    run (shippedCalls access clock p) = shippedStages access clock p := by
  obtain ⟨hheaders, hfilter, hstore⟩ : keyOf (some "HeadersParser") = "headersparser" ∧
      keyOf (some "GuidFilter") = "guidfilter" ∧ keyOf (some "MailStore") = "mailstore" := by
    decide +kernel
  -- each of the three names is free when its turn comes
  have hfirst : ∀ a : Maker σ, attempt {} (some "HeadersParser", a) = ⟨[("headersparser", a)]⟩ := by
    intro a
    rw [attempt_of_free (by rw [hheaders]; decide) (by rw [contains, find?, hheaders]; rfl), hheaders]
    rfl
  have hsecond : ∀ a b : Maker σ, attempt ⟨[("headersparser", a)]⟩ (some "GuidFilter", b)
      = ⟨[("headersparser", a), ("guidfilter", b)]⟩ := by
    intro a b
    rw [attempt_of_free (by rw [hfilter]; decide) (by rw [contains, find?, hfilter]; rfl), hfilter]
    rfl
  have hthird : ∀ a b c : Maker σ,
      attempt ⟨[("headersparser", a), ("guidfilter", b)]⟩ (some "MailStore", c)
        = ⟨[("headersparser", a), ("guidfilter", b), ("mailstore", c)]⟩ := by
    intro a b c
    rw [attempt_of_free (by rw [hstore]; decide) (by rw [contains, find?, hstore]; rfl), hstore]
    rfl
  simp only [run, shippedCalls, shippedStages, List.map_cons, List.map_nil, List.zip_cons_cons,
    List.zip_nil_right, List.foldl_cons, List.foldl_nil, hfirst, hsecond, hthird]

/-- A name that is contained need not have a stage: the token filter is registered, but the table that
it is to work on has a blank in its name. -/
theorem not_made_of_contained :
    let r := run (shippedCalls Premises.access Premises.now { table := "a b" })
    r.contains (some "GuidFilter") = true ∧
      r.make "GuidFilter" = .error (.name ⟨"lookup table name", some "a b"⟩) := by
  intro r
  have hr : r = shippedStages Premises.access Premises.now { table := "a b" } := run_shippedCalls _ _ _
  rw [hr]
  exact ⟨shippedStages_contains_guidFilter _ _ _, shippedStages_make_guidFilter (by decide +kernel)⟩

end DeliveryWatch.Registry
