/-
A log line is one line, and cannot be forged.

* `Told` — the texts that a record tells, and `Shows` — an object shows them, each in its own field;
* `shows_fields` — the object of a record shows what the record tells, and nothing else does
  (`Shows.unique`);
* `shows_jsonLine` — so the JSON line of a record shows printable ASCII only, is read back as an object
  that shows what the record tells, and two records of one line tell the same.
-/
import DeliveryWatch.Log.Record
import DeliveryWatch.Proofs.Json.RoundTrip

namespace DeliveryWatch.Log

/-- The texts that a record tells. -/
structure Told where
  text : String
  logger : String
  function : Option String
  envelopeId : String
  error : Option String
  guid : Option String
  stage : Option String

/-- The record tells these texts. -/
structure Record.Tells (r : Record) (t : Told) : Prop where
  text : r.text = t.text
  logger : r.logger = t.logger
  function : r.function = t.function
  envelopeId : r.shownId = t.envelopeId
  error : r.cause.map Cause.text = t.error
  guid : r.guid = t.guid.map .str
  stage : r.stage = t.stage.map .str

/-- The object shows these texts: a function that is not known as `null`, and of an error, a token and
a stage the field is there if and only if the text is. -/
structure Shows (v : Json) (t : Told) : Prop where
  message : v.get? "message" = some (.str t.text)
  logger : v.get? "logger" = some (.str t.logger)
  function : v.get? "function" = some (.ofString? t.function)
  envelopeId : v.get? "envelope_id" = some (.str t.envelopeId)
  error : v.get? "error" = t.error.map .str
  guid : v.get? "guid" = t.guid.map .str
  stage : v.get? "stage" = t.stage.map .str

theorem str_injective : Function.Injective Json.str := fun _ _ h => Json.str.inj h

theorem ofString?_injective : Function.Injective Json.ofString? := by
  intro a b h
  cases a with
  | none =>
    cases b with
    | none => rfl
    | some b => cases h
  | some a =>
    cases b with
    | none => cases h
    | some b => exact congrArg some (Json.str.inj h)

/-- An object does not show two things. -/
theorem Shows.unique {v : Json} {t u : Told} (ht : Shows v t) (hu : Shows v u) : t = u := by
  have htext := str_injective (Option.some.inj (ht.message.symm.trans hu.message))
  have hlogger := str_injective (Option.some.inj (ht.logger.symm.trans hu.logger))
  have hfunction := ofString?_injective (Option.some.inj (ht.function.symm.trans hu.function))
  have hid := str_injective (Option.some.inj (ht.envelopeId.symm.trans hu.envelopeId))
  have herror := Option.map_injective str_injective (ht.error.symm.trans hu.error)
  have hguid := Option.map_injective str_injective (ht.guid.symm.trans hu.guid)
  have hstage := Option.map_injective str_injective (ht.stage.symm.trans hu.stage)
  cases t
  cases u
  congr

namespace Record

theorem lookup_optional_append_self (name : String) (v : Option Json) {rest : List (String × Json)}
    (h : rest.lookup name = none) : (optional name v ++ rest).lookup name = v := by
  cases v with
  | none => exact h
  | some v => exact List.lookup_cons_self

theorem lookup_optional_append_of_ne {name k : String} (h : (name == k) = false) (v : Option Json)
    (rest : List (String × Json)) : (optional k v ++ rest).lookup name = rest.lookup name := by
  cases v with
  | none => rfl
  | some v => rw [optional, List.singleton_append, List.lookup_cons, h]

/-- The fields that may be missing stand behind those that every record has. -/
theorem get?_fields (r : Record) (stamp : String) :
    ∀ name ∈ ["error", "guid", "stage"], (Json.obj (r.fields stamp)).get? name =
      (optional "error" (r.cause.map fun c : Cause => Json.str c.text) ++
        (optional "traceback" (r.cause.map fun c : Cause => Json.str c.account) ++
          (optional "guid" r.guid ++ (optional "stage" r.stage ++ [])))).lookup name := by
  simp only [Json.get?, fields, List.append_assoc, List.append_nil]
  rintro name (⟨⟩ | ⟨_, ⟨⟩ | ⟨_, ⟨⟩ | ⟨_, ⟨⟩⟩⟩⟩)
  · rfl
  · rfl
  · rfl

theorem shows_fields {r : Record} {t : Told} (h : r.Tells t) (stamp : String) :
    Shows (.obj (r.fields stamp)) t where
  message := by rw [← h.text]; rfl
  logger := by rw [← h.logger]; rfl
  function := by rw [← h.function]; rfl
  envelopeId := by rw [← h.envelopeId]; rfl
  error := by
    -- a field that may be missing is looked up behind those of other names
    rw [get?_fields r stamp _ (by decide), ← h.error, Option.map_map]
    refine lookup_optional_append_self _ _ ?_
    rw [lookup_optional_append_of_ne (by decide), lookup_optional_append_of_ne (by decide),
      lookup_optional_append_of_ne (by decide), List.lookup_nil]
  guid := by
    rw [get?_fields r stamp _ (by decide), lookup_optional_append_of_ne (by decide),
      lookup_optional_append_of_ne (by decide), ← h.guid]
    refine lookup_optional_append_self _ _ ?_
    rw [lookup_optional_append_of_ne (by decide), List.lookup_nil]
  stage := by
    rw [get?_fields r stamp _ (by decide), lookup_optional_append_of_ne (by decide),
      lookup_optional_append_of_ne (by decide), lookup_optional_append_of_ne (by decide), ← h.stage]
    exact lookup_optional_append_self _ _ List.lookup_nil

theorem forall_mem_optional {name : String} {v : Option Json} (h : ∀ w ∈ v, Json.IsWhole w) :
    ∀ f ∈ optional name v, Json.IsWhole f.2 := by
  cases v with
  | none => nofun
  | some w =>
    intro f hf
    rw [List.mem_singleton.mp hf]
    exact h w rfl

theorem isWhole_map_str {α : Type} {f : α → String} {o : Option α} :
    ∀ w ∈ o.map fun a => Json.str (f a), Json.IsWhole w := by
  intro w hw
  obtain ⟨a, -, rfl⟩ := Option.map_eq_some_iff.mp hw
  exact .str (f a)

theorem isWhole_fields {r : Record} {t : Told} (h : r.Tells t) (stamp : String) :
    Json.IsWhole (.obj (r.fields stamp)) := by
  have hfunction : Json.IsWhole (.ofString? r.function) := by
    cases r.function with
    | none => exact .null
    | some s => exact .str s
  have hguid : ∀ w ∈ r.guid, Json.IsWhole w := by
    rw [h.guid]
    exact isWhole_map_str
  have hstage : ∀ w ∈ r.stage, Json.IsWhole w := by
    rw [h.stage]
    exact isWhole_map_str
  refine .obj ?_
  simp only [fields, List.forall_mem_append, List.forall_mem_cons]
  exact ⟨⟨⟨⟨⟨.str _, .str _, .str _, .str _, hfunction, .str _, nofun⟩,
    forall_mem_optional isWhole_map_str⟩, forall_mem_optional isWhole_map_str⟩,
    forall_mem_optional hguid⟩, forall_mem_optional hstage⟩

/-- **Log lines cannot be forged.** The JSON line of a record shows printable ASCII only, it is read
back as an object that shows what the record tells, and no record that tells something else has that
line. -/
theorem shows_jsonLine {r : Record} {t : Told} (h : r.Tells t) (stamp : String) :
    (∀ c ∈ (r.jsonLine stamp).toList, Json.IsPrintable c) ∧
    (∃ v, Json.read? (r.jsonLine stamp) = some v ∧ Shows v t) ∧
    ∀ (r' : Record) (stamp' : String) (t' : Told), r'.Tells t' →
      r'.jsonLine stamp' = r.jsonLine stamp → t' = t := by
  have hread := Json.read?_render (isWhole_fields h stamp)
  refine ⟨?_, ⟨_, hread, shows_fields h stamp⟩, ?_⟩
  · rw [jsonLine, Json.render, String.toList_ofList]
    exact Json.isPrintable_of_mem_renderChars (isWhole_fields h stamp)
  · intro r' stamp' t' h' hline
    have hread' := Json.read?_render (isWhole_fields h' stamp')
    have hsame : Json.obj (r'.fields stamp') = Json.obj (r.fields stamp) := by
      rw [jsonLine, jsonLine] at hline
      rw [hline] at hread'
      exact Option.some.inj (hread'.symm.trans hread)
    exact (hsame ▸ shows_fields h' stamp').unique (shows_fields h stamp)

/-- A message that tries to begin a line of its own. -/
theorem shows_jsonLine_broken :
    let text := "a\n\x7b\"message\": \"b\"\x7d\x7f\u2028😀\\"
    let r : Record :=
      { level := .error, logger := "mail.\"log\"", text := text, envelopeId := some "id\r",
        cause := some ⟨"Fault", "\t"⟩, stage := some (.str "é") }
    let t : Told := ⟨text, "mail.\"log\"", none, "id\r", some "\t", none, some "é"⟩
    r.Tells t ∧ (∀ c ∈ (r.jsonLine "now").toList, Json.IsPrintable c) ∧
      ∃ v, Json.read? (r.jsonLine "now") = some v ∧ Shows v t := by
  intro text r t
  have htells : r.Tells t := ⟨rfl, rfl, rfl, rfl, rfl, rfl, rfl⟩
  have hline := shows_jsonLine htells "now"
  exact ⟨htells, hline.1, hline.2.1⟩

end Record

end DeliveryWatch.Log
