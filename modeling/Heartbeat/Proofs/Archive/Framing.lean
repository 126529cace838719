import Heartbeat.Archive.Bulk
import Heartbeat.Proofs.Json.Whole
import Heartbeat.Proofs.Record.Messages

/-! A bulk body says what it was made of. Its lines end with newlines, and no line has one inside, whatever
newlines the names, addresses and ids have: they are written as escapes. So the body falls into its lines
again, two for each item, and each of them is read back as what it was written for. -/
namespace Heartbeat.Archive
open Json (Value Shape OneLine)
open Text (encode)

/-! ## Lines -/

/-- The pieces of a text between its newlines, with those before the first and behind the last. -/
def pieces (text : String) : List String := (text.toList.splitOn '\n').map String.ofList

theorem pieces_line {line : String} (flat : OneLine line) (rest : String) :
    pieces (line ++ "\n" ++ rest) = line :: pieces rest := by
  have text : (line ++ "\n" ++ rest).toList = line.toList ++ '\n' :: rest.toList := by simp
  have solid : ∀ c ∈ line.toList, (c == '\n') = false := by
    intro c member
    simp only [beq_eq_false_iff_ne]
    rintro rfl
    exact flat member
  rw [pieces, text, List.splitOn_eq_splitOnP, List.splitOnP_append_cons_of_forall_mem solid _ (by simp),
    List.map_cons, String.ofList_toList, ← List.splitOn_eq_splitOnP, pieces]

/-! ## Frames -/

/-- The action that creates a document with this id. -/
def creation (index id : String) : Value :=
  .object [("create", .object [("_id", .text id), ("_index", .text index)])]

/-- The two lines of an item. -/
def frame (index : String) (item : Item) : List String := [actionLine index item.id, item.document.render]

theorem oneLine_action (index id : String) : OneLine (actionLine index id) := by
  refine Json.oneLine_object fun member only => ?_
  cases List.mem_singleton.mp only
  refine Json.oneLine_object fun member inner => ?_
  rcases List.mem_pair.mp inner with rfl | rfl
  · exact Json.oneLine_renderText id
  · exact Json.oneLine_renderText index

theorem oneLine_record (r : Record) : OneLine r.toJson.render := by
  refine Json.oneLine_object fun member field => ?_
  simp only [List.mem_cons, List.not_mem_nil, or_false] at field
  rcases field with rfl | rfl | rfl | rfl | rfl | rfl
  · exact Json.oneLine_ofInt _
  all_goals exact Json.oneLine_renderText _

theorem oneLine_document (d : Document) : OneLine d.render := by
  refine Json.oneLine_object fun member field => ?_
  simp only [List.mem_cons, List.not_mem_nil, or_false] at field
  rcases field with rfl | rfl | rfl
  · exact oneLine_record d.server
  · exact Json.oneLine_ofInt _
  · exact Json.oneLine_ofInt _

/-- An action is read back as what it was written for. -/
theorem parse_action (index id : String) :
    Value.parse (encode (actionLine index id)) = .ok (creation index id) := by
  have target : Shape.any.Reads 1 (.object [("_id", .text id), ("_index", .text index)])
      (.object [("_id", .text id), ("_index", .text index)]) := by
    have sorted : "_id" < "_index" := by
      rw [String.lt_iff_toList_lt]
      decide
    refine Json.any_object_reads (fun member inner => ?_) (List.pairwise_pair.mpr sorted)
    rcases List.mem_pair.mp inner with rfl | rfl <;> exact Json.any_text_reads _
  have action : Shape.any.Reads 2 (creation index id) (creation index id) := by
    refine Json.any_object_reads (fun member only => ?_) (List.pairwise_singleton _ _)
    cases List.mem_singleton.mp only
    exact target
  exact action.parse (by decide)

theorem bulkBody_cons (index : String) (item : Item) (items : List Item) :
    bulkBody index (item :: items) =
      actionLine index item.id ++ "\n" ++ (item.document.render ++ "\n" ++ bulkBody index items) := by
  simp [bulkBody, String.append_assoc]

/-- **The body falls into the lines of its items**, with nothing behind the last. -/
theorem pieces_bulkBody (index : String) (items : List Item) :
    pieces (bulkBody index items) = items.flatMap (frame index) ++ [""] := by
  induction items with
  | nil => rfl
  | cons item items ih =>
    rw [bulkBody_cons, pieces_line (oneLine_action index item.id), pieces_line (oneLine_document item.document),
      ih]
    rfl

theorem length_frames (index : String) (items : List Item) :
    (items.flatMap (frame index)).length = 2 * items.length := by
  induction items with
  | nil => rfl
  | cons item items ih =>
    simp only [List.flatMap_cons, List.length_append, List.length_cons, ih, frame, List.length_nil]
    omega

/-- The lines of an item stand at twice its place and right behind. -/
theorem frames_at (index : String) {items : List Item} {i : Nat} {item : Item}
    (here : items[i]? = some item) :
    (items.flatMap (frame index))[2 * i]? = some (actionLine index item.id) ∧
      (items.flatMap (frame index))[2 * i + 1]? = some item.document.render := by
  induction items generalizing i with
  | nil => simp at here
  | cons first items ih =>
    cases i with
    | zero =>
      cases here
      exact ⟨rfl, rfl⟩
    | succ i => exact ih here

/-! ## Reading a body -/

/-- The index and the id that an action names, if it creates a document. -/
def target? (action : Value) : Option (String × String) := do
  let target ← action.member? "create"
  return (← (← target.member? "_index").text?, ← (← target.member? "_id").text?)

theorem target?_creation (index id : String) : target? (creation index id) = some (index, id) := by
  rfl

/-- The items that lines spell, each with its index. -/
def readFrames? : List String → Option (List (String × Item))
  | action :: document :: rest => do
    let (index, id) ← target? (← (Value.parse (encode action)).toOption)
    let document ← (Document.shape.parse (encode document)).toOption
    return (index, ⟨id, document⟩) :: (← readFrames? rest)
  | [last] => if last = "" then some [] else none
  | [] => none

/-- The index and the items of a body; none of an empty one, which names no index. -/
def readBulk? (body : String) : Option (String × List Item) := do
  let frames ← readFrames? (pieces body)
  let (index, _) ← frames.head?
  return (index, frames.map Prod.snd)

theorem readFrames?_frames (index : String) (items : List Item) :
    readFrames? (items.flatMap (frame index) ++ [""]) = some (items.map fun item => (index, item)) := by
  induction items with
  | nil => rfl
  | cons item items ih =>
    simp only [List.flatMap_cons, frame, List.cons_append, List.nil_append, readFrames?, parse_action,
      target?_creation, Document.parse_render, Except.toOption, Option.bind_eq_bind, Option.bind_some]
    rw [ih]
    rfl

/-- A body with items is read back as what it was made of. -/
theorem readBulk?_bulkBody (index : String) {items : List Item} (nonempty : items ≠ []) :
    readBulk? (bulkBody index items) = some (index, items) := by
  obtain ⟨item, rest, rfl⟩ := List.exists_cons_of_ne_nil nonempty
  have unpaired : (item :: rest).map (Prod.snd ∘ fun item => (index, item)) = item :: rest :=
    List.map_id _
  rw [readBulk?, pieces_bulkBody, readFrames?_frames]
  simp only [Option.bind_eq_bind, Option.bind_some, List.map_cons, List.head?_cons, List.map_map]
  exact congrArg (fun items => some (index, items)) unpaired

/-- The body tells how many items it has. -/
theorem length_pieces_bulkBody (index : String) (items : List Item) :
    (pieces (bulkBody index items)).length = 2 * items.length + 1 := by
  rw [pieces_bulkBody, List.length_append, length_frames, List.length_singleton]

/-- **A bulk body is framed.** Whatever characters the index's name and the items' texts have, the body falls
into two lines for each item with nothing behind the last: an action that is read back as the creation of the
item's id in the index, and a document that is read back as the item's. So a body with items is read back as
a whole, and no other items and no other index have it. -/
theorem bulk_body_is_framed (index : String) (items : List Item) :
    (∃ lines, pieces (bulkBody index items) = lines ++ [""] ∧ lines.length = 2 * items.length ∧
      ∀ i item, items[i]? = some item →
        ∃ action document, lines[2 * i]? = some action ∧ lines[2 * i + 1]? = some document ∧
          Value.parse (encode action) = .ok (creation index item.id) ∧
          Document.shape.parse (encode document) = .ok item.document) ∧
    (items ≠ [] → readBulk? (bulkBody index items) = some (index, items)) ∧
    ∀ (otherIndex : String) (others : List Item), bulkBody otherIndex others = bulkBody index items →
      others = items ∧ (items ≠ [] → otherIndex = index) := by
  refine ⟨⟨_, pieces_bulkBody index items, length_frames index items, fun i item here => ?_⟩,
    readBulk?_bulkBody index, fun otherIndex others same => ?_⟩
  · obtain ⟨action, document⟩ := frames_at index here
    exact ⟨_, _, action, document, parse_action index item.id, item.document.parse_render⟩
  · have count : 2 * others.length + 1 = 2 * items.length + 1 := by
      rw [← length_pieces_bulkBody otherIndex, ← length_pieces_bulkBody index, same]
    -- the number of lines tells whether there are items; if there are, both bodies are read back
    by_cases empty : items = []
    · subst empty
      have none : others = [] := List.eq_nil_of_length_eq_zero (by simpa using count)
      exact ⟨none, fun nonempty => absurd rfl nonempty⟩
    · have some_other : others ≠ [] := by
        rintro rfl
        exact empty (List.eq_nil_of_length_eq_zero (by simpa using count.symm))
      have read := readBulk?_bulkBody otherIndex some_other
      rw [same, readBulk?_bulkBody index empty, Option.some.injEq, Prod.mk.injEq] at read
      exact ⟨read.2.symm, fun _ => read.1.symm⟩

/-- An item whose texts would end lines, quotes and objects, and whose numbers are extreme. -/
def torn : Item :=
  { id := "\x7d\n\x7b\"create\""
    document :=
      { server :=
          { id := .minValue
            name := "a\n\"b\"\\\u0000"
            address := "\r\n"
            status := .down
            createdAt := default
            lastUpdated := default }
        observedAt := .maxValue
        duration := .minValue } }

theorem torn_item_is_framed : pieces (bulkBody "in\n\"dex" [torn]) = frame "in\n\"dex" torn ++ [""] ∧
    readBulk? (bulkBody "in\n\"dex" [torn]) = some ("in\n\"dex", [torn]) := by
  obtain ⟨-, read, -⟩ := bulk_body_is_framed "in\n\"dex" [torn]
  exact ⟨pieces_bulkBody _ [torn], read (by simp)⟩

end Heartbeat.Archive
