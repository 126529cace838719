import Heartbeat.Proofs.Archive.Counters
import Heartbeat.Proofs.Json.Yields

/-! The outcomes of a bulk call. The response lists its entries without naming the documents they are about, so
each entry speaks for the item at its own place: what becomes of an item depends on that entry alone, and an
item without one has failed. -/
namespace Heartbeat.Archive
open Json (Value Layout Field Shape)

/-- The entry reports that a document was created: with a status of success and without an error. -/
def ReportsCreation (entry : Entry) : Prop :=
  ∃ result, entry.lookup "create" = some result ∧
    200 ≤ result.status.toNat ∧ result.status.toNat ≤ 299 ∧ ∀ e, result.error = some e → e = .null

/-- The result is in the form in which it is read: where the response says null there is no error. -/
def ItemResult.Decoded (result : ItemResult) : Prop := result.error ≠ some .null

/-! ## What is read -/

/-- The draft has an error that is not null, or none. -/
private def ItemResult.Draft.Decoded (draft : ItemResult.Draft) : Prop := draft.error ≠ some (some .null)

theorem ItemResult.layout_yields : ItemResult.layout.shape.Yields ItemResult.Decoded := by
  refine Layout.shape_yields (P := Draft.Decoded) (fun field member => ?_) nofun
    fun draft result decoded built => ?_
  · simp only [ItemResult.layout, List.mem_cons, List.not_mem_nil, or_false] at member
    rcases member with rfl | rfl | rfl
    · exact Field.ofShape_yields (Shape.yields_true _) fun _ _ decoded _ => decoded
    · exact Field.ofShape_yields (Shape.yields_true _) fun _ _ decoded _ => decoded
    · exact (Field.ofShape_yields Shape.optional_any_yields fun _ _ _ solid same =>
        solid (Option.some.inj same)).defaulted
  · obtain ⟨status, -, eq⟩ := Json.ok_of_bind built
    cases eq
    intro null
    cases error : draft.error with
    | none => simp [error] at null
    | some found =>
      rw [error, Option.getD_some] at null
      exact decoded (null ▸ error)

/-- **No error that is read is null.** -/
theorem Response.decoded {body : Bytes} {response : Response} (read : parse body = .ok response) :
    ∀ entry ∈ response.entries, ∀ result ∈ entry, result.2.Decoded := by
  have yields : Response.layout.shape.Yields fun response =>
      ∀ entry ∈ response.entries, ∀ result ∈ entry, result.2.Decoded := by
    refine Layout.shape_yields
      (P := fun draft : Response.Draft => ∀ entries, draft.entries = some entries →
        ∀ entry ∈ entries, ∀ result ∈ entry, result.2.Decoded)
      (fun field member => ?_) nofun fun draft response decoded built => ?_
    · obtain rfl := List.mem_singleton.mp member
      exact (Field.ofShape_yields ItemResult.layout_yields.mapping.list fun _ _ _ each _ same =>
        Option.some.inj same ▸ each).defaulted
    · cases built
      intro entry member
      cases entries : draft.entries with
      | none => simp [entries] at member
      | some held =>
        simp only [entries, Option.getD_some] at member
        exact decoded held entries entry member
  exact yields.parse read

/-! ## One item -/

variable {id : String} {entry : Option Entry}

/-- What becomes of an item is settled by the result of its creation. -/
theorem outcome_cases (id : String) (entry : Option Entry)
    (decoded : ∀ e ∈ entry, ∀ result ∈ e, result.2.Decoded) :
    (∃ e ∈ entry, ReportsCreation e) ∧ (∃ created, outcome id entry = .created created) ∨
      (¬ ∃ e ∈ entry, ReportsCreation e) ∧ ∃ reason, outcome id entry = .failed id reason := by
  unfold outcome
  cases found : entry.bind (·.lookup "create") with
  | none =>
    refine .inr ⟨?_, _, rfl⟩
    rintro ⟨e, here, result, there, -⟩
    simp [Option.mem_def.mp here, there] at found
  | some result =>
    obtain ⟨e, here, there⟩ := Option.bind_eq_some_iff.mp found
    obtain ⟨before, later, place, -⟩ := List.lookup_eq_some_iff.mp there
    have known : result.Decoded := decoded e here ("create", result) (by simp [place])
    by_cases succeeds : 200 ≤ result.status.toNat ∧ result.status.toNat < 300 ∧ result.error.isNone
    · refine .inl ⟨⟨e, here, result, there, succeeds.1, by omega, ?_⟩, _, if_pos succeeds⟩
      intro error some
      simp [some] at succeeds
    · refine .inr ⟨?_, _, if_neg succeeds⟩
      rintro ⟨e', here', result', there', low, high, null⟩
      obtain rfl : e = e' := Option.mem_unique here here'
      obtain rfl : result = result' := Option.some.inj (there.symm.trans there')
      refine succeeds ⟨low, by omega, ?_⟩
      cases error : result.error with
      | none => rfl
      | some e => exact absurd (null e error ▸ error) known

/-- **Each entry speaks for the item at its place.** -/
theorem getElem?_outcomesOf (ids : List String) (entries : List Entry) (i : Nat) :
    (outcomesOf ids entries)[i]? = ids[i]?.map fun id => outcome id entries[i]? := by
  induction ids generalizing entries i with
  | nil => simp [outcomesOf]
  | cons id ids ih =>
    cases entries with
    | nil => cases i <;> simp [outcomesOf, ih]
    | cons entry entries => cases i <;> simp [outcomesOf, ih]

/-! ## A whole call -/

variable {items : List Item} {response : Response}

theorem getElem?_outcomes (items : List Item) (response : Response) (i : Nat) :
    (outcomes items response)[i]? = items[i]?.map fun item => outcome item.id response.entries[i]? := by
  rw [outcomes, getElem?_outcomesOf, List.getElem?_map, Option.map_map]
  rfl

/-- The outcomes depend on the entries at the places of items only. -/
theorem outcomes_congr {entries : List Entry}
    (same : entries.take items.length = response.entries.take items.length) :
    outcomes items ⟨entries⟩ = outcomes items response := by
  refine List.ext_getElem? fun i => ?_
  rw [getElem?_outcomes, getElem?_outcomes]
  by_cases here : i < items.length
  · have entry : entries[i]? = response.entries[i]? := by
      rw [← List.getElem?_take_of_lt here, same, List.getElem?_take_of_lt here]
    rw [entry]
  · rw [List.getElem?_eq_none (Nat.not_lt.mp here)]
    rfl

/-- Whatever is sent back, an insertion fails or has one outcome for each item. -/
theorem Index.length_insert (index : Index) (send : Http.Outgoing → Http.Outcome) (items : List Item) :
    (∃ fault, index.insert send items = .error fault) ∨
      ∃ list, index.insert send items = .ok list ∧ list.length = items.length := by
  cases result : index.insert send items with
  | error fault => exact .inl ⟨fault, rfl⟩
  | ok list =>
    refine .inr ⟨list, rfl, ?_⟩
    unfold insert at result
    split at result
    · rename_i empty
      cases result
      rw [List.isEmpty_iff.mp empty]
      rfl
    · obtain ⟨request, -, result⟩ := Json.ok_of_bind result
      obtain ⟨body, -, result⟩ := Json.ok_of_bind result
      split at result
      · cases result
        rw [outcomes, length_outcomesOf, List.length_map]
      · cases result

/-- An insertion has the outcomes of the response that is sent back with success. -/
theorem Index.insert_replied {index : Index} {send : Http.Outgoing → Http.Outcome} {request : Http.Outgoing}
    {code : Nat} {body : Bytes} (read : Response.parse body = .ok response) (some : items ≠ [])
    (built : index.bulkRequest items = .ok request) (replied : send request = .replied code body)
    (success : Http.isSuccess code = true) :
    index.insert send items = .ok (outcomes items response) := by
  have notEmpty : ¬ items.isEmpty = true := fun empty => some (List.isEmpty_iff.mp empty)
  have accepts : accepted (.replied code body) = .ok body := by
    simp [accepted, Http.Outcome.reply, Except.mapError, bind, Except.bind, pure, Except.pure, success]
  simp only [insert, if_neg notEmpty, built, replied, accepts, read, bind, Except.bind]
  rfl

/-- **Bulk outcomes line up with the batch.** There is one outcome for each item, in the order of the items. An
item is created exactly if the entry at its own place reports so, and else it has failed, under its own id. What
stands in other places changes nothing, nor does what stands behind the last item. So an insertion fails as a
whole, or has as many outcomes as items: those of the response that comes back. -/
theorem outcomes_line_up {body : Bytes} (read : Response.parse body = .ok response) (items : List Item) :
    (outcomes items response).length = items.length ∧
    (∀ (i : Nat) (item : Item), items[i]? = some item →
      ((∃ id, (outcomes items response)[i]? = some (.created id)) ↔
        ∃ entry, response.entries[i]? = some entry ∧ ReportsCreation entry) ∧
      ((∃ reason, (outcomes items response)[i]? = some (.failed item.id reason)) ↔
        ¬ ∃ entry, response.entries[i]? = some entry ∧ ReportsCreation entry)) ∧
    (∀ entries : List Entry, entries.take items.length = response.entries.take items.length →
      outcomes items ⟨entries⟩ = outcomes items response) ∧
    (∀ (j : Nat) (entry : Entry) (i : Nat), i ≠ j →
      (outcomes items ⟨response.entries.set j entry⟩)[i]? = (outcomes items response)[i]?) ∧
    ∀ (index : Index) (send : Http.Outgoing → Http.Outcome),
      ((∃ fault, index.insert send items = .error fault) ∨
        ∃ list, index.insert send items = .ok list ∧ list.length = items.length) ∧
      ∀ request code, items ≠ [] → index.bulkRequest items = .ok request →
        send request = .replied code body → Http.isSuccess code = true →
        index.insert send items = .ok (outcomes items response) := by
  refine ⟨?_, fun i item here => ?_, fun entries => outcomes_congr, fun j entry i other => ?_,
    fun index send => ⟨index.length_insert send items, fun request code => Index.insert_replied read⟩⟩
  · rw [outcomes, length_outcomesOf, List.length_map]
  · have own : (outcomes items response)[i]? = some (outcome item.id response.entries[i]?) := by
      rw [getElem?_outcomes, here]
      rfl
    have decoded : ∀ e ∈ response.entries[i]?, ∀ result ∈ e, result.2.Decoded :=
      fun e place => Response.decoded read e (List.mem_of_getElem? place)
    rw [own]
    rcases outcome_cases item.id response.entries[i]? decoded with
      ⟨reports, id, created⟩ | ⟨silent, reason, failed⟩
    · rw [created]
      exact ⟨iff_of_true ⟨id, rfl⟩ reports, iff_of_false (by simp) (not_not.mpr reports)⟩
    · rw [failed]
      exact ⟨iff_of_false (by simp) silent, iff_of_true ⟨reason, rfl⟩ silent⟩
  · rw [getElem?_outcomes, getElem?_outcomes, List.getElem?_set_ne (Ne.symm other)]

/-- A response with two entries: a document that was created, and an action that creates nothing. -/
def mixed : Bytes := Text.encode
  "\x7b\"items\":[\x7b\"create\":\x7b\"status\":201,\"error\":null\x7d\x7d,\x7b\"index\":\x7b\"status\":201\x7d\x7d]\x7d"

/-- Of three items the first is created, and the others have failed. -/
theorem first_of_three_is_created :
    ∃ response, Response.parse mixed = .ok response ∧
      (∃ id, (outcomes [Ledger.page "a", Ledger.page "b", Ledger.page "c"] response)[0]? =
        some (.created id)) ∧
      (∃ reason, (outcomes [Ledger.page "a", Ledger.page "b", Ledger.page "c"] response)[1]? =
        some (.failed "b" reason)) ∧
      ∃ reason, (outcomes [Ledger.page "a", Ledger.page "b", Ledger.page "c"] response)[2]? =
        some (.failed "c" reason) := by
  have read : Response.parse mixed =
      .ok ⟨[[("create", ⟨none, 201, none⟩)], [("index", ⟨none, 201, none⟩)]]⟩ := by rfl
  refine ⟨_, read, ?_⟩
  obtain ⟨-, each, -⟩ := outcomes_line_up read [Ledger.page "a", Ledger.page "b", Ledger.page "c"]
  refine ⟨(each 0 _ rfl).1.mpr ⟨_, rfl, _, rfl, by decide, by decide, nofun⟩,
    (each 1 _ rfl).2.mpr ?_, (each 2 _ rfl).2.mpr ?_⟩
  · rintro ⟨entry, place, result, found, -⟩
    cases place
    cases found
  · rintro ⟨entry, place, -⟩
    cases place

end Heartbeat.Archive
