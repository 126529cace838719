import Heartbeat.Proofs.Config.Choice
import Heartbeat.Proofs.Toml.Document

/-! A file that gives some settings loads to the defaults with those replaced, whatever else is in it. Every choice of
settings can be written in plain lines, a section after the other. -/
namespace Heartbeat.Config

open Toml (Value Entries)

variable {entries : Entries} {chosen : Choice}

/-- What a section gives does not change when it is left out instead of having nothing in it. -/
theorem given_emptied {α : Type} {ofValue? : Value → Option α} {default : α} {before after : Option Value}
    (same : ofValue? (.table []) = some default)
    (emptied : after = before ∨ after = none ∧ before = some (.table [])) :
    given ofValue? default after = given ofValue? default before := by
  rcases emptied with rfl | ⟨rfl, rfl⟩
  · rfl
  · exact same.symm

/-- **A section with nothing in it says what it says by not being there.** -/
theorem ofEntries?_emptied {fewer : Entries}
    (emptied : ∀ place, fewer.lookup place = entries.lookup place ∨
      fewer.lookup place = none ∧ entries.lookup place = some (.table [])) :
    ofEntries? fewer = ofEntries? entries := by
  have same {α : Type} {ofValue? : Value → Option α} {default : α} (place : String)
      (own : ofValue? (.table []) = some default) :
      given ofValue? default (fewer.lookup place) = given ofValue? default (entries.lookup place) :=
    given_emptied own (emptied place)
  simp only [ofEntries?]
  rw [same "api", same "transport", same "intake", same "store", same "cache", same "archive",
    same "reconcile"] <;> rfl

/-- The document that a file holds. -/
def Holds (content : Bytes) (entries : Entries) : Prop :=
  ∃ text, Text.decode? content = some text ∧ Toml.parse? text = some entries

theorem Holds.load_eq {content : Bytes} (holds : Holds content entries) (path : String) :
    load path (.file content) = match ofEntries? entries with
      | none => .error (.malformed path)
      | some config => .ok config := by
  obtain ⟨text, decoded, parsed⟩ := holds
  cases read : ofEntries? entries with
  | none => simp [load, decoded, parsed, read]
  | some config => simp [load, decoded, parsed, read]

theorem holds_text {document : Toml.Document} (distinct : document.Distinct) :
    Holds (Text.encode document.text) document.entries :=
  ⟨document.text, Text.decode?_encode _, Toml.Document.parse?_text distinct⟩

theorem Holds.load_gives {content : Bytes} (holds : Holds content entries) (gives : Gives entries chosen)
    (path : String) : load path (.file content) = .ok (chosen.replace {}) := by
  rw [holds.load_eq, gives.ofEntries?_eq]

/-! ## Writing a choice -/

open Toml (BareName Pairs Written)

def Count.written (count : Count) : Written := .number count.n.toNat count.fits

theorem Count.value_written (count : Count) : count.written.value = count.value := by
  have same : Int64.ofInt count.n.toNat = count.n.toInt64 := by
    apply Int64.toBitVec_inj.mp
    simp
  exact congrArg Value.integer same

theorem text_value (text : String) : (Written.text text).value = .text text := rfl

def providerWritten (provider : CacheProvider) : Written := .text provider.name

theorem providerWritten_value (provider : CacheProvider) :
    (providerWritten provider).value = providerValue provider := rfl

/-- The pair of a setting, if it is chosen. -/
def pairOf {α : Type} (key : BareName) (write : α → Written) (chosen : Option α) : Pairs :=
  chosen.toList.map fun a => (key, write a)

/-- The sections in the order of the configuration, each with what is chosen in it. -/
def Choice.document (chosen : Choice) : Toml.Document where
  pairs := []
  sections := [
    ({ name := "api" }, pairOf { name := "listen" } .text chosen.listen),
    ({ name := "transport" },
      pairOf { name := "topic" } .text chosen.topic ++
      pairOf { name := "capacity" } Count.written chosen.capacity),
    ({ name := "intake" },
      pairOf { name := "workers" } Count.written chosen.workers ++
      pairOf { name := "queue_capacity" } Count.written chosen.queueCapacity),
    ({ name := "store" }, pairOf { name := "db_path" } .text chosen.dbPath),
    ({ name := "cache" },
      pairOf { name := "provider" } providerWritten chosen.provider ++
      pairOf { name := "url" } .text chosen.cacheUrl ++
      pairOf { name := "ttl_secs" } Count.written chosen.ttlSecs ++
      pairOf { name := "memory_capacity" } Count.written chosen.memoryCapacity),
    ({ name := "archive" },
      pairOf { name := "url" } .text chosen.archiveUrl ++
      pairOf { name := "index" } .text chosen.index ++
      pairOf { name := "api_key" } .text chosen.apiKey ++
      pairOf { name := "batch_size" } Count.written chosen.batchSize ++
      pairOf { name := "flush_interval_ms" } Count.written chosen.flushIntervalMs ++
      pairOf { name := "request_timeout_ms" } Count.written chosen.requestTimeoutMs),
    ({ name := "reconcile" }, pairOf { name := "period_secs" } Count.written chosen.periodSecs)]

theorem lookup_pairOf {α : Type} (key : BareName) (write : α → Written) (chosen : Option α) (name : String) :
    (pairOf key write chosen).entries.lookup name =
      if name = key.name then chosen.map fun a => (write a).value else none := by
  cases chosen with
  | none => simp [pairOf, Pairs.entries]
  | some a =>
    by_cases same : name = key.name
    · simp [pairOf, Pairs.entries, same]
    · have apart : (name == key.name) = false := beq_false_of_ne same
      simp [pairOf, Pairs.entries, same, List.lookup_cons, apart]

theorem lookup_append (front back : Pairs) (name : String) :
    (Pairs.entries (front ++ back)).lookup name = (front.entries.lookup name).or (back.entries.lookup name) := by
  rw [Pairs.entries, List.map_append, List.lookup_append]
  rfl

/-- What is written for a choice gives it. -/
theorem gives_document (chosen : Choice) : Gives chosen.document.entries chosen := by
  have setting (place name : String) := lookup_tableOf chosen.document.entries place name
  constructor
  case table =>
    simp only [sections, List.forall_mem_cons]
    refine ⟨?_, ?_, ?_, ?_, ?_, ?_, ?_, by simp⟩
    all_goals
      intro value there
      exact ⟨_, (Option.some.inj there).symm⟩
  -- a setting is looked up in what is written for its section, where other names are passed over
  all_goals
    rw [← setting]
    show (Pairs.entries _).lookup _ = _
    simp [lookup_append, lookup_pairOf, Count.value_written, text_value, providerWritten_value]

theorem names_append (front back : Pairs) : Pairs.names (front ++ back) = front.names ++ back.names := by
  simp [Pairs.names]

theorem names_pairOf {α : Type} (key : BareName) (write : α → Written) (chosen : Option α) :
    (pairOf key write chosen).names.Sublist [key.name] := by
  cases chosen with
  | none => exact List.nil_sublist _
  | some a => exact List.Sublist.refl _

theorem distinct_document (chosen : Choice) : chosen.document.Distinct where
  outer := by
    show ["api", "transport", "intake", "store", "cache", "archive", "reconcile"].Nodup
    decide
  inner := by
    simp only [Choice.document, List.forall_mem_cons, names_append]
    refine ⟨?_, ?_, ?_, ?_, ?_, ?_, ?_, by simp⟩
    · exact (names_pairOf _ _ _).nodup (by decide)
    · exact ((names_pairOf _ _ _).append (names_pairOf _ _ _)).nodup (by decide)
    · exact ((names_pairOf _ _ _).append (names_pairOf _ _ _)).nodup (by decide)
    · exact (names_pairOf _ _ _).nodup (by decide)
    · exact ((((names_pairOf _ _ _).append (names_pairOf _ _ _)).append (names_pairOf _ _ _)).append
        (names_pairOf _ _ _)).nodup (by decide)
    · exact ((((((names_pairOf _ _ _).append (names_pairOf _ _ _)).append (names_pairOf _ _ _)).append
        (names_pairOf _ _ _)).append (names_pairOf _ _ _)).append (names_pairOf _ _ _)).nodup (by decide)
    · exact (names_pairOf _ _ _).nodup (by decide)

/-! ## Partial files -/

/-- **A partial file is the defaults with what it gives replaced.** Whatever else the document of a file holds, and
in whatever order, the file loads to the defaults with the chosen settings replaced and no others; a document of
plain lines, which every choice can be written as, is what a file that spells it holds; and a section with nothing
in it can be left out. -/
theorem partial_file_replaces_defaults (path : String) :
    (∀ content entries chosen, Holds content entries → Gives entries chosen →
      load path (.file content) = .ok (chosen.replace {})) ∧
    (∀ document : Toml.Document, document.Distinct → Holds (Text.encode document.text) document.entries) ∧
    (∀ chosen : Choice, chosen.document.Distinct ∧ Gives chosen.document.entries chosen) ∧
    (∀ content content' entries fewer, Holds content entries → Holds content' fewer →
      (∀ place, fewer.lookup place = entries.lookup place ∨
        fewer.lookup place = none ∧ entries.lookup place = some (.table [])) →
      load path (.file content') = load path (.file content)) := by
  refine ⟨?_, ?_, ?_, ?_⟩
  · intro content entries chosen holds gives
    exact holds.load_gives gives path
  · intro document distinct
    exact holds_text distinct
  · intro chosen
    exact ⟨distinct_document chosen, gives_document chosen⟩
  · intro content content' entries fewer holds holds' emptied
    rw [holds.load_eq, holds'.load_eq, ofEntries?_emptied emptied]

/-- The sections out of order, one of them with nothing in it and one with a setting that is not known. -/
def archiveFirst : Toml.Document where
  pairs := []
  sections := [
    ({ name := "archive" }, [({ name := "color" }, .number 7 (by decide)), ({ name := "url" }, .text "http://es")]),
    ({ name := "store" }, []),
    ({ name := "intake" }, [({ name := "workers" }, .number 4 (by decide))])]

theorem archive_before_workers :
    load "healthcheckd.toml" (.file (Text.encode
        "[archive]\ncolor = 7\nurl = \"http://es\"\n[store]\n[intake]\nworkers = 4\n")) =
      .ok { intake := { workers := 4 }, archive := { url := some "http://es" } } := by
  have text : archiveFirst.text = "[archive]\ncolor = 7\nurl = \"http://es\"\n[store]\n[intake]\nworkers = 4\n" := by
    decide +kernel
  have distinct : archiveFirst.Distinct := ⟨by decide, by decide⟩
  have gives : Gives archiveFirst.entries { workers := some ⟨4, by decide⟩, archiveUrl := some "http://es" } := by
    constructor
    case table =>
      simp only [sections, List.forall_mem_cons]
      refine ⟨?_, ?_, ?_, ?_, ?_, ?_, ?_, by simp⟩
      all_goals
        intro value there
        cases there
      all_goals exact ⟨_, rfl⟩
    all_goals rfl
  have partial' := partial_file_replaces_defaults "healthcheckd.toml"
  have loaded := partial'.1 _ _ _ (partial'.2.1 archiveFirst distinct) gives
  rw [text] at loaded
  exact loaded

end Heartbeat.Config
