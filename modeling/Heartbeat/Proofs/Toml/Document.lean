import Heartbeat.Proofs.Toml.Written
import Heartbeat.Toml.Document

/-! A document of headers and pairs, one on each line, denotes what it says: its sections in their order, each with
its pairs in their order. -/
namespace Heartbeat.Toml

/-! ## Names -/

/-- The name can be written without quotes. -/
def isBare (name : String) : Bool := !name.toList.isEmpty && name.toList.all isNameChar

/-- A name that is written without quotes. -/
structure BareName where
  name : String
  bare : isBare name = true := by decide

theorem isBlank_of_isNameChar {c : Char} (bare : isNameChar c = true) : isBlank c = false := by
  have space : c ≠ ' ' := ne_of_test bare rfl
  have tab : c ≠ '\t' := ne_of_test bare rfl
  simp [isBlank, space, tab]

namespace BareName

def chars (key : BareName) : List Char := key.name.toList

variable (key : BareName)

theorem nonempty : key.chars ≠ [] := by
  have bare := key.bare
  simp only [isBare, Bool.and_eq_true, Bool.not_eq_true', List.isEmpty_eq_false_iff] at bare
  exact bare.1

theorem isNameChar_of_mem : ∀ c ∈ key.chars, isNameChar c = true := by
  have bare := key.bare
  simp only [isBare, Bool.and_eq_true, List.all_eq_true] at bare
  exact bare.2

/-- A name has a first character. -/
theorem exists_cons : ∃ c more, key.chars = c :: more ∧ isNameChar c = true := by
  cases chars : key.chars with
  | nil => exact absurd chars key.nonempty
  | cons c more => exact ⟨c, more, rfl, key.isNameChar_of_mem c (chars ▸ List.mem_cons_self)⟩

theorem name?_eq {after : List Char} (ends : ∀ c ∈ after.head?, isNameChar c = false) :
    name? (key.chars ++ after) = some (key.name, after) := by
  have stops : after.takeWhile isNameChar = [] ∧ after.dropWhile isNameChar = after := by
    cases after with
    | nil => exact ⟨rfl, rfl⟩
    | cons c after => simp [ends c rfl]
  have name : (key.chars ++ after).takeWhile isNameChar = key.chars := by
    rw [List.takeWhile_append_of_pos key.isNameChar_of_mem, stops.1, List.append_nil]
  have rest : (key.chars ++ after).dropWhile isNameChar = after := by
    rw [List.dropWhile_append_of_pos key.isNameChar_of_mem, stops.2]
  have filled : key.chars.isEmpty = false := List.isEmpty_eq_false_iff.mpr key.nonempty
  have spelled : String.ofList key.chars = key.name := String.ofList_toList
  obtain ⟨c, more, chars, first⟩ := key.exists_cons
  have quotes : ¬ (c = doubleQuote ∨ c = singleQuote) :=
    not_or.mpr ⟨ne_of_test first rfl, ne_of_test first rfl⟩
  rw [chars, List.cons_append] at name rest ⊢
  rw [chars] at filled spelled
  simp only [name?, if_neg quotes, name, rest, filled, spelled, Bool.false_eq_true, if_false]

/-- A name starts with no blank. -/
theorem skipBlanks_append (after : List Char) : skipBlanks (key.chars ++ after) = key.chars ++ after := by
  obtain ⟨c, more, chars, first⟩ := key.exists_cons
  rw [chars, List.cons_append, skipBlanks, List.dropWhile_cons_of_neg (by simp [isBlank_of_isNameChar first])]

/-- A key of one name, with what follows it behind blanks perhaps. -/
theorem names?_eq {after rest : List Char} {mark : Char} (ends : ∀ c ∈ after.head?, isNameChar c = false)
    (follows : skipBlanks after = mark :: rest) (single : mark ≠ '.') (most : Nat) :
    names? (most + 1) (key.chars ++ after) = some (⟨[], key.name⟩, mark :: rest) := by
  simp only [names?, key.skipBlanks_append, key.name?_eq ends, Option.bind_eq_bind, Option.bind_some, follows]
  split
  · next eq => exact absurd (List.cons.inj eq).1 single
  · rfl

theorem key?_header (rest : List Char) :
    key? (key.chars ++ ']' :: rest) = some (⟨[], key.name⟩, ']' :: rest) :=
  key.names?_eq (by rintro c ⟨⟩; rfl) rfl (by simp) _

theorem key?_pair (rest : List Char) :
    key? (key.chars ++ ' ' :: '=' :: rest) = some (⟨[], key.name⟩, '=' :: rest) :=
  key.names?_eq (by rintro c ⟨⟩; rfl) rfl (by simp) _

/-- A header is read: the name of its table is one of no list of tables. -/
theorem line?_header (rest : List Char) :
    line? ('[' :: (key.chars ++ ']' :: '\n' :: rest)) = some (.table ⟨[], key.name⟩, '\n' :: rest) := by
  have read := key.key?_header ('\n' :: rest)
  obtain ⟨c, more, chars, first⟩ := key.exists_cons
  have bracket : c ≠ '[' := ne_of_test first rfl
  rw [chars, List.cons_append] at read ⊢
  unfold line?
  split
  · next eq => exact absurd (List.cons.inj (List.cons.inj eq).2).1 bracket
  · next eq =>
    obtain ⟨-, rfl⟩ := List.cons.inj eq
    rw [read]
    rfl
  · next other => exact absurd rfl (other _)

/-- A pair is read. -/
theorem line?_pair (value : Written) (rest : List Char) :
    line? (key.chars ++ ' ' :: '=' :: ' ' :: (value.chars ++ '\n' :: rest)) =
      some (.pair ⟨[], key.name⟩ value.value, '\n' :: rest) := by
  have read := key.key?_pair (' ' :: (value.chars ++ '\n' :: rest))
  have blank : skipBlanks (' ' :: (value.chars ++ '\n' :: rest)) = value.chars ++ '\n' :: rest := value.solid rest
  have pair : pair? (value? maxDepth) (key.chars ++ ' ' :: '=' :: ' ' :: (value.chars ++ '\n' :: rest)) =
      some ((⟨[], key.name⟩, value.value), '\n' :: rest) := by
    simp only [pair?, read, Option.bind_eq_bind, Option.bind_some, blank, value.reads]
    rfl
  obtain ⟨c, more, chars, first⟩ := key.exists_cons
  have bracket : c ≠ '[' := ne_of_test first rfl
  rw [chars, List.cons_append] at pair ⊢
  unfold line?
  split
  · next eq => exact absurd (List.cons.inj eq).1 bracket
  · next eq => exact absurd (List.cons.inj eq).1 bracket
  · rw [pair]
    rfl

end BareName

/-! ## Lines -/

/-- How a line is written, and that it is read back. -/
structure WrittenLine where
  chars : List Char
  line : Line
  /-- The line starts with something that is not passed over. -/
  starts : ∃ c more, chars = c :: more ∧ (c = '[' ∨ isNameChar c = true)
  reads : ∀ rest, line? (chars ++ '\n' :: rest) = some (line, '\n' :: rest)

def headerLine (key : BareName) : WrittenLine where
  chars := '[' :: (key.chars ++ [']'])
  line := .table ⟨[], key.name⟩
  starts := ⟨'[', key.chars ++ [']'], rfl, .inl rfl⟩
  reads := fun rest => by
    rw [List.cons_append, List.append_assoc]
    exact key.line?_header rest

def pairLine (key : BareName) (value : Written) : WrittenLine where
  chars := key.chars ++ ' ' :: '=' :: ' ' :: value.chars
  line := .pair ⟨[], key.name⟩ value.value
  starts := by
    obtain ⟨c, more, chars, first⟩ := key.exists_cons
    exact ⟨c, more ++ ' ' :: '=' :: ' ' :: value.chars, by rw [chars, List.cons_append], .inr first⟩
  reads := fun rest => by
    rw [List.append_assoc]
    exact key.line?_pair value rest

/-- A line has no blanks in front, and is not over where it starts. -/
theorem WrittenLine.solid (line : WrittenLine) (rest : List Char) :
    skipBlanks (line.chars ++ '\n' :: rest) = line.chars ++ '\n' :: rest ∧
      finishLine? (line.chars ++ '\n' :: rest) = none := by
  obtain ⟨c, more, chars, first⟩ := line.starts
  have apart : isBlank c = false ∧ c ≠ '#' ∧ c ≠ '\n' ∧ c ≠ '\r' := by
    rcases first with rfl | bare
    · decide
    · exact ⟨isBlank_of_isNameChar bare, ne_of_test bare rfl, ne_of_test bare rfl,
        ne_of_test bare rfl⟩
  obtain ⟨solid, hash, newline, ret⟩ := apart
  have blanks : skipBlanks (c :: (more ++ '\n' :: rest)) = c :: (more ++ '\n' :: rest) := by
    rw [skipBlanks, List.dropWhile_cons_of_neg (by simp [solid])]
  rw [chars, List.cons_append]
  refine ⟨blanks, ?_⟩
  simp [finishLine?, blanks, skipComment, lineEnd?, hash, newline, ret]

/-- A line with the end of it. -/
def WrittenLine.ended (line : WrittenLine) : List Char := line.chars ++ ['\n']

/-- Lines are read one after another. -/
theorem lines?_flatMap (lines : List WrittenLine) {most : Nat} (enough : lines.length ≤ most) :
    lines? most (lines.flatMap (·.ended)) = some (lines.map (·.line)) := by
  induction lines generalizing most with
  | nil => cases most <;> rfl
  | cons line lines ih =>
    cases most with
    | zero => simp at enough
    | succ most =>
      have more := ih (Nat.le_of_succ_le_succ enough)
      have written : (line :: lines).flatMap (·.ended) = line.chars ++ '\n' :: lines.flatMap (·.ended) := by
        simp [WrittenLine.ended]
      obtain ⟨blanks, full⟩ := line.solid (lines.flatMap (·.ended))
      have finish : finishLine? ('\n' :: lines.flatMap (·.ended)) = some (lines.flatMap (·.ended)) := rfl
      have read := line.reads (lines.flatMap (·.ended))
      obtain ⟨c, rest, chars, -⟩ := line.starts
      rw [written]
      rw [chars, List.cons_append] at blanks full read ⊢
      simp only [lines?, full, blanks, read, finish, more, Option.bind_eq_bind, Option.bind_some, List.map_cons]
      rfl

theorem length_le_flatMap_ended (lines : List WrittenLine) : lines.length ≤ (lines.flatMap (·.ended)).length := by
  induction lines with
  | nil => exact Nat.le_refl _
  | cons line lines ih =>
    have one : 0 < line.ended.length := by simp [WrittenLine.ended]
    simp only [List.flatMap_cons, List.length_cons, List.length_append]
    omega

/-! ## Documents -/

/-- Pairs of one table, in their order. -/
abbrev Pairs := List (BareName × Written)

namespace Pairs

def lines (pairs : Pairs) : List WrittenLine := pairs.map fun (key, value) => pairLine key value

def names (pairs : Pairs) : List String := pairs.map (·.1.name)

def entries (pairs : Pairs) : Entries := pairs.map fun (key, value) => (key.name, value.value)

def nodes (pairs : Pairs) : Nodes := pairs.map fun (key, value) => (key.name, .value value.value)

end Pairs

/-- A section with its header. -/
def sectionLines (named : BareName × Pairs) : List WrittenLine := headerLine named.1 :: named.2.lines

/-- Pairs, and then sections with pairs of their own. -/
structure Document where
  pairs : Pairs
  sections : List (BareName × Pairs)

namespace Document

def lines (document : Document) : List WrittenLine :=
  document.pairs.lines ++ document.sections.flatMap sectionLines

def text (document : Document) : String := String.ofList (document.lines.flatMap (·.ended))

/-- What the document says. -/
def entries (document : Document) : Entries :=
  document.pairs.entries ++ document.sections.map fun (name, pairs) => (name.name, .table pairs.entries)

/-- No table has two entries of one name. -/
structure Distinct (document : Document) : Prop where
  outer : (document.pairs.names ++ document.sections.map (·.1.name)).Nodup
  inner : ∀ named ∈ document.sections, named.2.names.Nodup

end Document

/-! ## Tables -/

theorem alter_new {name : String} {nodes : Nodes} (change : Option Node → Option Node)
    (new : name ∉ nodes.map (·.1)) :
    alter name change nodes = (change none).map fun node => nodes ++ [(name, node)] := by
  induction nodes with
  | nil => rfl
  | cons entry nodes ih =>
    obtain ⟨other, node⟩ := entry
    simp only [List.map_cons, List.mem_cons, not_or] at new
    rw [alter, if_neg (Ne.symm new.1), ih new.2]
    cases change none <;> rfl

theorem alter_last {name : String} {nodes : Nodes} {node : Node} (change : Option Node → Option Node)
    (new : name ∉ nodes.map (·.1)) :
    alter name change (nodes ++ [(name, node)]) = (change (some node)).map fun node => nodes ++ [(name, node)] := by
  induction nodes with
  | nil => simp [alter]
  | cons entry nodes ih =>
    obtain ⟨other, held⟩ := entry
    simp only [List.map_cons, List.mem_cons, not_or] at new
    rw [List.cons_append, alter, if_neg (Ne.symm new.1), ih new.2]
    cases change (some node) <;> rfl

theorem insertPair_new {key : BareName} {value : Value} {nodes : Nodes} (new : key.name ∉ nodes.map (·.1)) :
    insertPair (⟨[], key.name⟩, value) nodes = some (nodes ++ [(key.name, .value value)]) := by
  simp [insertPair, alterAt, alter_new _ new]

/-- Pairs go into the table of the header above them, wherever in the document that table is. -/
theorem assemble_pairs {header : List String} {put : Nodes → Nodes}
    (inserts : ∀ pair below, insertBelow header pair (put below) = (insertPair pair below).map put)
    (pairs : Pairs) (more : List Line) {below : Nodes} (new : (below.map (·.1) ++ pairs.names).Nodup) :
    assemble (pairs.lines.map (·.line) ++ more) header (put below) = assemble more header (put (below ++ pairs.nodes)) := by
  induction pairs generalizing below with
  | nil => simp [Pairs.lines, Pairs.nodes]
  | cons pair pairs ih =>
    obtain ⟨key, value⟩ := pair
    have apart : key.name ∉ below.map (·.1) := by
      intro member
      exact (List.nodup_append.mp new).2.2 _ member _ List.mem_cons_self rfl
    have later : ((below ++ [(key.name, Node.value value.value)]).map (·.1) ++ Pairs.names pairs).Nodup := by
      simpa [Pairs.names] using new
    calc assemble (.pair ⟨[], key.name⟩ value.value :: ((Pairs.lines pairs).map (·.line) ++ more)) header (put below)
      _ = assemble ((Pairs.lines pairs).map (·.line) ++ more) header
            (put (below ++ [(key.name, .value value.value)])) := by
        simp [assemble, inserts, insertPair_new apart]
      _ = assemble more header (put (below ++ [(key.name, .value value.value)] ++ Pairs.nodes pairs)) := ih later
      _ = assemble more header (put (below ++ Pairs.nodes ((key, value) :: pairs))) := by
        simp [Pairs.nodes]

theorem insertBelow_nil (pair : Key × Value) (below : Nodes) :
    insertBelow [] pair (id below) = (insertPair pair below).map id := by
  simp [insertBelow, alterAt]

theorem insertBelow_last {name : String} {nodes : Nodes} (new : name ∉ nodes.map (·.1)) (pair : Key × Value)
    (below : Nodes) :
    insertBelow [name] pair (nodes ++ [(name, .table .stated below)]) =
      (insertPair pair below).map fun below => nodes ++ [(name, .table .stated below)] := by
  simp [insertBelow, alterAt, alter_last _ new, Function.comp_def]

theorem openTable_new {key : BareName} {nodes : Nodes} (new : key.name ∉ nodes.map (·.1)) :
    openTable ⟨[], key.name⟩ nodes = some (nodes ++ [(key.name, .table .stated [])]) := by
  simp [openTable, alterAt, alter_new _ new]

def sectionNode (named : BareName × Pairs) : String × Node := (named.1.name, .table .stated named.2.nodes)

/-- Sections come about one after another, whatever the header above them is. -/
theorem assemble_sections (sections : List (BareName × Pairs)) (header : List String) {nodes : Nodes}
    (new : (nodes.map (·.1) ++ sections.map (·.1.name)).Nodup) (inner : ∀ named ∈ sections, named.2.names.Nodup) :
    assemble ((sections.flatMap sectionLines).map (·.line)) header nodes = some (nodes ++ sections.map sectionNode) := by
  induction sections generalizing header nodes with
  | nil => simp [assemble]
  | cons named sections ih =>
    obtain ⟨key, pairs⟩ := named
    have apart : key.name ∉ nodes.map (·.1) := by
      intro member
      exact (List.nodup_append.mp new).2.2 _ member _ List.mem_cons_self rfl
    have distinct : (([] : Nodes).map (·.1) ++ pairs.names).Nodup := inner (key, pairs) List.mem_cons_self
    have later : ((nodes ++ [(key.name, Node.table .stated pairs.nodes)]).map (·.1) ++
        sections.map (·.1.name)).Nodup := by
      simpa using new
    have lines : (((key, pairs) :: sections).flatMap sectionLines).map (·.line) =
        .table ⟨[], key.name⟩ :: (pairs.lines.map (·.line) ++ (sections.flatMap sectionLines).map (·.line)) := by
      simp [sectionLines, headerLine]
    calc assemble ((((key, pairs) :: sections).flatMap sectionLines).map (·.line)) header nodes
      _ = assemble (pairs.lines.map (·.line) ++ (sections.flatMap sectionLines).map (·.line)) [key.name]
            (nodes ++ [(key.name, .table .stated [])]) := by
        rw [lines]
        simp [assemble, openTable_new apart]
      _ = assemble ((sections.flatMap sectionLines).map (·.line)) [key.name]
            (nodes ++ [(key.name, .table .stated pairs.nodes)]) :=
        assemble_pairs (insertBelow_last apart) pairs _ distinct
      _ = some (nodes ++ [(key.name, .table .stated pairs.nodes)] ++ sections.map sectionNode) :=
        ih [key.name] later fun named member => inner named (List.mem_cons_of_mem _ member)
      _ = some (nodes ++ ((key, pairs) :: sections).map sectionNode) := by simp [sectionNode]

theorem toEntries_eq_map (nodes : Nodes) : toEntries nodes = nodes.map fun (name, node) => (name, node.toValue) := by
  induction nodes with
  | nil => rfl
  | cons entry nodes ih =>
    obtain ⟨name, node⟩ := entry
    rw [toEntries, ih, List.map_cons]

theorem toEntries_nodes (pairs : Pairs) : toEntries pairs.nodes = pairs.entries := by
  simp [toEntries_eq_map, Pairs.nodes, Pairs.entries, Node.toValue]

theorem toEntries_append (nodes more : Nodes) : toEntries (nodes ++ more) = toEntries nodes ++ toEntries more := by
  rw [toEntries_eq_map, toEntries_eq_map, toEntries_eq_map, List.map_append]

theorem toEntries_sections (sections : List (BareName × Pairs)) : toEntries (sections.map sectionNode) =
    sections.map fun (name, pairs) => (name.name, .table pairs.entries) := by
  rw [toEntries_eq_map, List.map_map]
  apply List.map_congr_left
  intro named _
  have value : (Node.table .stated named.2.nodes).toValue = .table named.2.entries := by
    rw [Node.toValue, toEntries_nodes]
  simp only [Function.comp_apply, sectionNode, value]

namespace Document

variable {document : Document}

theorem assemble_lines (distinct : document.Distinct) :
    (assemble (document.lines.map (·.line)) [] []).map toEntries = some document.entries := by
  have outer : (([] : Nodes).map (·.1) ++ document.pairs.names).Nodup := (List.nodup_append.mp distinct.outer).1
  have names : document.pairs.nodes.map (·.1) = document.pairs.names := by simp [Pairs.nodes, Pairs.names]
  have later : (document.pairs.nodes.map (·.1) ++ document.sections.map (·.1.name)).Nodup := by
    rw [names]
    exact distinct.outer
  have front := assemble_pairs insertBelow_nil document.pairs
    ((document.sections.flatMap sectionLines).map (·.line)) outer
  have back := assemble_sections document.sections [] later distinct.inner
  rw [lines, List.map_append]
  simp only [id, List.nil_append] at front
  rw [front, back, Option.map_some, toEntries_append, toEntries_nodes, toEntries_sections]
  rfl

/-- **A document is read as what it says.** -/
theorem parse?_text (distinct : document.Distinct) : parse? document.text = some document.entries := by
  have chars : document.text.toList = document.lines.flatMap (·.ended) := String.toList_ofList
  have read := lines?_flatMap document.lines (length_le_flatMap_ended document.lines)
  have unmarked : ∀ rest, document.lines.flatMap (·.ended) ≠ '\uFEFF' :: rest := by
    intro rest eq
    cases lines : document.lines with
    | nil =>
      rw [lines] at eq
      cases eq
    | cons line lines' =>
      obtain ⟨c, more, written, first⟩ := line.starts
      rw [lines, List.flatMap_cons, WrittenLine.ended, written] at eq
      rw [(List.cons.inj eq).1] at first
      rcases first with first | first
      · cases first
      · cases first
  unfold parse?
  rw [chars]
  split
  · next rest marked => exact absurd marked (unmarked rest)
  · simp only [read, Option.bind_eq_bind, Option.bind_some]
    have assembled := assemble_lines distinct
    rw [Option.map_eq_some_iff] at assembled
    obtain ⟨nodes, whole, entries⟩ := assembled
    simp [whole, entries]

end Document

end Heartbeat.Toml
