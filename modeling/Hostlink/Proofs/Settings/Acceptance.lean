import Mathlib.Tactic.MkIffOfInductiveProp
import Hostlink.Proofs.Settings.Demands
import Hostlink.Proofs.Yaml.Reordered
/-!
From which documents settings are read: records of known sections, each of them a record of known
fields, with values of the types of the fields. What is given in any order is what is read, and the
usual values stand for the rest.
-/

namespace Hostlink.Settings

open Yaml

/-- How the plugin is known, by the fields that are given. -/
@[mk_iff]
structure Identity.Given (document : Document) (usual : Identity) (given : List (String × Node))
    (identity : Identity) : Prop where
  name : Takes (IsText document) usual.name (given.lookup "name") identity.name

/-- How the streams are read and written, by the fields that are given. -/
@[mk_iff]
structure Transport.Given (document : Document) (usual : Transport) (given : List (String × Node))
    (transport : Transport) : Prop where
  readChunk : Takes (IsNatural document (UInt64.size - 1)) usual.readChunk
    (given.lookup "read_chunk_bytes") transport.readChunk
  writeChunk : Takes (IsNatural document (UInt64.size - 1)) usual.writeChunk
    (given.lookup "write_chunk_bytes") transport.writeChunk
  maxFrame : Takes (IsNatural document (UInt64.size - 1)) usual.maxFrame
    (given.lookup "max_frame_bytes") transport.maxFrame

/-- How requests are handled, by the fields that are given. -/
@[mk_iff]
structure Handling.Given (document : Document) (usual : Handling) (given : List (String × Node))
    (handling : Handling) : Prop where
  replyUnroutable : Takes (IsTruth document) usual.replyUnroutable
    (given.lookup "reply_unroutable") handling.replyUnroutable
  exposeMetrics : Takes (IsTruth document) usual.exposeMetrics
    (given.lookup "expose_metrics") handling.exposeMetrics
  requestTimeout : Takes (IsNatural document (UInt64.size - 1)) usual.requestTimeout
    (given.lookup "request_timeout_ms") handling.requestTimeout

/-- How log events reach the host, by the fields that are given. -/
@[mk_iff]
structure Log.Given (document : Document) (usual : Log) (given : List (String × Node))
    (log : Log) : Prop where
  forward : Takes (IsTruth document) usual.forward (given.lookup "forward_to_host") log.forward
  level : Takes (IsText document) usual.level (given.lookup "forward_level") log.level

/-- The settings by the version and the sections that are given. -/
@[mk_iff]
structure Given (document : Document) (usual : Settings) (given : List (String × Node))
    (settings : Settings) : Prop where
  version : Takes (IsNatural document (UInt32.size - 1)) usual.version
    (given.lookup "version") settings.version
  identity : Takes (IsRecord document ["name"] (Identity.Given document {})) usual.identity
    (given.lookup "plugin") settings.identity
  transport :
    Takes (IsRecord document ["read_chunk_bytes", "write_chunk_bytes", "max_frame_bytes"]
      (Transport.Given document {})) usual.transport (given.lookup "transport") settings.transport
  handling :
    Takes (IsRecord document ["reply_unroutable", "expose_metrics", "request_timeout_ms"]
      (Handling.Given document {})) usual.handling (given.lookup "dispatch") settings.handling
  log : Takes (IsRecord document ["forward_to_host", "forward_level"] (Log.Given document {}))
    usual.log (given.lookup "log") settings.log

/-- A document that has the form of settings, and the settings that it holds. -/
def Holds (document : Document) (settings : Settings) : Prop :=
  document.alone = true ∧
    ∃ given,
      Record document ["version", "plugin", "transport", "dispatch", "log"] document.content given ∧
      "version" ∈ given.map Prod.fst ∧ Given document {} given settings

section

variable {document : Document}

theorem exists_change_iff {α σ : Type} {x : Except Yaml.Fault α} {set : α → σ → σ}
    {p : (σ → σ) → Prop} :
    (∃ change, (do return set (← x)) = .ok change ∧ p change) ↔ ∃ a, x = .ok a ∧ p (set a) := by
  simp only [bind_eq_ok_iff]
  constructor
  · rintro ⟨_, ⟨a, read, ⟨⟩⟩, h⟩
    exact ⟨a, read, h⟩
  · rintro ⟨a, read, h⟩
    exact ⟨set a, ⟨a, read, rfl⟩, h⟩

theorem natural_64_eq_ok_iff {site : Site} {wanted : String} {n : Nat} :
    site.natural (UInt64.size - 1) wanted = .ok n ↔
      IsNatural site.document (UInt64.size - 1) site.node n :=
  Site.natural_eq_ok_iff (by decide)

theorem natural_32_eq_ok_iff {site : Site} {wanted : String} {n : Nat} :
    site.natural (UInt32.size - 1) wanted = .ok n ↔
      IsNatural site.document (UInt32.size - 1) site.node n :=
  Site.natural_eq_ok_iff (by decide)

theorem Identity.follows : Follows document Identity.fields (Identity.Given document) where
  nil start record := by
    cases record
    cases start
    simp [Identity.given_iff]
  cons field mem path node rest start record absent := by
    simp only [Identity.fields, List.mem_singleton] at mem
    subst mem
    simp only [exists_change_iff, Site.text_eq_ok_iff]
    simp [Identity.given_iff, absent]

theorem Transport.follows : Follows document Transport.fields (Transport.Given document) where
  nil start record := by
    cases record
    cases start
    simp [Transport.given_iff]
  cons field mem path node rest start record absent := by
    simp only [Transport.fields, List.mem_cons, List.not_mem_nil, or_false] at mem
    rcases mem with rfl | rfl | rfl
    all_goals
      simp only [exists_change_iff, natural_64_eq_ok_iff]
      simp [Transport.given_iff, List.lookup_cons, absent, and_comm, and_left_comm]

theorem Handling.follows : Follows document Handling.fields (Handling.Given document) where
  nil start record := by
    cases record
    cases start
    simp [Handling.given_iff]
  cons field mem path node rest start record absent := by
    simp only [Handling.fields, List.mem_cons, List.not_mem_nil, or_false] at mem
    rcases mem with rfl | rfl | rfl
    all_goals
      simp only [exists_change_iff, natural_64_eq_ok_iff, Site.bool_eq_ok_iff]
      simp [Handling.given_iff, List.lookup_cons, absent, and_comm, and_left_comm,
        -Bool.exists_bool]

theorem Log.follows : Follows document Log.fields (Log.Given document) where
  nil start record := by
    cases record
    cases start
    simp [Log.given_iff]
  cons field mem path node rest start record absent := by
    simp only [Log.fields, List.mem_cons, List.not_mem_nil, or_false] at mem
    rcases mem with rfl | rfl
    all_goals
      simp only [exists_change_iff, Site.bool_eq_ok_iff, Site.text_eq_ok_iff]
      simp [Log.given_iff, List.lookup_cons, absent, and_comm, -Bool.exists_bool]

end

section

variable {site : Site}

theorem readSection_eq_ok_iff {σ : Type} {name : String} {fields : List (Yaml.Field σ)}
    {account : σ → List (String × Node) → σ → Prop} {start part : σ}
    (follows : Follows site.document fields account) :
    readSection name fields start site = .ok part ↔
      IsRecord site.document (fields.map Field.name) (account start) site.node part := by
  unfold readSection
  simp only [bind_eq_ok_iff, Prod.exists, readRecord_eq_ok_iff follows]
  constructor
  · rintro ⟨_, _, ⟨given, record, told, -⟩, ⟨⟩⟩
    exact ⟨given, record, told⟩
  · rintro ⟨given, record, told⟩
    exact ⟨part, _, ⟨given, record, told, rfl⟩, rfl⟩

theorem readIdentity_eq_ok_iff {identity : Identity} :
    readSection "PluginSection" Identity.fields {} site = .ok identity ↔
      IsRecord site.document ["name"] (Identity.Given site.document {}) site.node identity :=
  readSection_eq_ok_iff Identity.follows

theorem readTransport_eq_ok_iff {transport : Transport} :
    readSection "TransportSection" Transport.fields {} site = .ok transport ↔
      IsRecord site.document ["read_chunk_bytes", "write_chunk_bytes", "max_frame_bytes"]
        (Transport.Given site.document {}) site.node transport :=
  readSection_eq_ok_iff Transport.follows

theorem readHandling_eq_ok_iff {handling : Handling} :
    readSection "DispatchSection" Handling.fields {} site = .ok handling ↔
      IsRecord site.document ["reply_unroutable", "expose_metrics", "request_timeout_ms"]
        (Handling.Given site.document {}) site.node handling :=
  readSection_eq_ok_iff Handling.follows

theorem readLog_eq_ok_iff {log : Log} :
    readSection "LogSection" Log.fields {} site = .ok log ↔
      IsRecord site.document ["forward_to_host", "forward_level"] (Log.Given site.document {})
        site.node log :=
  readSection_eq_ok_iff Log.follows

theorem follows {document : Document} : Follows document fields (Given document) where
  nil start record := by
    cases record
    cases start
    simp [given_iff]
  cons field mem path node rest start record absent := by
    simp only [fields, List.mem_cons, List.not_mem_nil, or_false] at mem
    rcases mem with rfl | rfl | rfl | rfl | rfl
    all_goals
      simp only [exists_change_iff, natural_32_eq_ok_iff, readIdentity_eq_ok_iff,
        readTransport_eq_ok_iff, readHandling_eq_ok_iff, readLog_eq_ok_iff]
      simp [given_iff, List.lookup_cons, absent, and_assoc, and_comm, and_left_comm]

theorem ofSite_eq_ok_iff {settings : Settings} :
    ofSite site = .ok settings ↔
      ∃ given,
        Record site.document ["version", "plugin", "transport", "dispatch", "log"] site.node given ∧
        "version" ∈ given.map Prod.fst ∧ Given site.document {} given settings := by
  unfold ofSite
  simp only [bind_eq_ok_iff, Prod.exists, readRecord_eq_ok_iff follows]
  constructor
  · rintro ⟨read, _, ⟨given, record, told, rfl⟩, h⟩
    rw [ite_eq_iff] at h
    obtain ⟨there, ⟨⟩⟩ | ⟨-, missing⟩ := h
    · exact ⟨given, record, by simpa using there, told⟩
    · contradiction
  · rintro ⟨given, record, there, told⟩
    refine ⟨settings, _, ⟨given, record, told, rfl⟩, ?_⟩
    rw [if_pos (by simpa using there)]
    rfl

/-- A text is read as settings just when its document holds them. -/
theorem readDocument_eq_ok_iff {text : String} {settings : Settings} :
    readDocument ofSite text = .ok settings ↔ Holds (Document.ofText text) settings := by
  unfold readDocument Holds
  simp only [bind_eq_ok_iff, ofSite_eq_ok_iff, ite_eq_iff]
  constructor
  · rintro ⟨read, held, ⟨alone, ⟨⟩⟩ | ⟨-, malformed⟩⟩
    · exact ⟨alone, held⟩
    · contradiction
  · rintro ⟨alone, held⟩
    exact ⟨settings, held, .inl ⟨alone, rfl⟩⟩

end

section

variable {document document' : Document} {given given' : List (String × Node)}
  (rel : ∀ name, Option.Rel (Reordered document document') (given.lookup name) (given'.lookup name))
include rel

theorem Identity.Given.reordered {usual identity : Identity}
    (h : Identity.Given document usual given identity) :
    Identity.Given document' usual given' identity where
  name := h.name.reordered (rel _) Reordered.isText

theorem Transport.Given.reordered {usual transport : Transport}
    (h : Transport.Given document usual given transport) :
    Transport.Given document' usual given' transport where
  readChunk := h.readChunk.reordered (rel _) Reordered.isNatural
  writeChunk := h.writeChunk.reordered (rel _) Reordered.isNatural
  maxFrame := h.maxFrame.reordered (rel _) Reordered.isNatural

theorem Handling.Given.reordered {usual handling : Handling}
    (h : Handling.Given document usual given handling) :
    Handling.Given document' usual given' handling where
  replyUnroutable := h.replyUnroutable.reordered (rel _) Reordered.isTruth
  exposeMetrics := h.exposeMetrics.reordered (rel _) Reordered.isTruth
  requestTimeout := h.requestTimeout.reordered (rel _) Reordered.isNatural

theorem Log.Given.reordered {usual log : Log} (h : Log.Given document usual given log) :
    Log.Given document' usual given' log where
  forward := h.forward.reordered (rel _) Reordered.isTruth
  level := h.level.reordered (rel _) Reordered.isText

theorem Given.reordered {usual settings : Settings} (h : Given document usual given settings) :
    Given document' usual given' settings where
  version := h.version.reordered (rel _) Reordered.isNatural
  identity := h.identity.reordered (rel _) (IsRecord.reordered · fun rel h => h.reordered rel)
  transport := h.transport.reordered (rel _) (IsRecord.reordered · fun rel h => h.reordered rel)
  handling := h.handling.reordered (rel _) (IsRecord.reordered · fun rel h => h.reordered rel)
  log := h.log.reordered (rel _) (IsRecord.reordered · fun rel h => h.reordered rel)

end

section

variable {document document' : Document}

/-- What a document holds, one that differs in the order of entries holds as well. -/
theorem Holds.reordered {settings : Settings} (same : SameButOrder document document')
    (h : Holds document settings) : Holds document' settings := by
  obtain ⟨alone, given, record, there, told⟩ := h
  obtain ⟨given', record', names, rel⟩ := same.content.record record
  exact ⟨same.alone ▸ alone, given', record', names.mem_iff.1 there, told.reordered rel⟩

variable {text : String} {settings : Settings}

theorem ofText_eq_ok_iff :
    ofText text = .ok settings ↔
      Holds (Document.ofText text) settings ∧ ∀ demand ∈ settings.demands, demand.1 := by
  unfold ofText
  simp only [bind_eq_ok_iff, mapError_eq_ok_iff, readDocument_eq_ok_iff]
  rw [← (check_checks settings).ok_iff]
  constructor
  · rintro ⟨_, held, _, checked, ⟨⟩⟩
    exact ⟨held, checked⟩
  · rintro ⟨held, checked⟩
    exact ⟨settings, held, (), checked, rfl⟩

/-- Settings of the right form are refused for the first thing that is not as it is asked for. -/
theorem ofText_eq_error_iff (held : Holds (Document.ofText text) settings) {fault : Fault} :
    ofText text = .error fault ↔ FirstUnmet settings.demands fault := by
  have read : ofText text = (settings.check >>= fun _ => .ok settings) := by
    unfold ofText
    rw [readDocument_eq_ok_iff.2 held]
    rfl
  rw [read, ← (check_checks settings).error_iff]
  cases settings.check with
  | ok u => exact ⟨nofun, nofun⟩
  | error e =>
    show Except.error e = Except.error fault ↔ _
    rw [Except.error.injEq, Except.error.injEq]

theorem ofText_of_not_holds (none : ∀ settings, ¬ Holds (Document.ofText text) settings) :
    ∃ why, ofText text = .error (.config ("invalid yaml: " ++ why)) := by
  cases read : readDocument ofSite text with
  | ok settings => exact absurd (readDocument_eq_ok_iff.1 read) (none settings)
  | error e =>
    refine ⟨e.message, ?_⟩
    unfold ofText
    rw [read]
    rfl

/--
Settings are read from a text just when its document holds them and their values are as they are
asked for. Otherwise the first value that is not is reported, a version that is not known before all
others, or that the text is no document of settings. The order of sections and of fields does not
matter.
-/
theorem ofText_reads_settings (text : String) :
    (∀ settings, ofText text = .ok settings ↔
      Holds (Document.ofText text) settings ∧ ∀ demand ∈ settings.demands, demand.1) ∧
    (∀ settings, Holds (Document.ofText text) settings →
      (∀ fault, ofText text = .error fault ↔ FirstUnmet settings.demands fault) ∧
      (ofText text = .error .unsupportedVersion ↔ settings.version ≠ 1)) ∧
    ((∀ settings, ¬ Holds (Document.ofText text) settings) →
      ∃ why, ofText text = .error (.config ("invalid yaml: " ++ why))) ∧
    ∀ text', SameButOrder (Document.ofText text) (Document.ofText text') →
      ∀ settings, ofText text = .ok settings ↔ ofText text' = .ok settings := by
  refine ⟨fun _ => ofText_eq_ok_iff, fun settings held => ⟨fun _ => ofText_eq_error_iff held, ?_⟩,
    ofText_of_not_holds, fun text' same settings => ?_⟩
  · rw [ofText_eq_error_iff held, firstUnmet_unsupportedVersion_iff]
  · rw [ofText_eq_ok_iff, ofText_eq_ok_iff]
    constructor
    · exact And.imp_left (Holds.reordered same)
    · exact And.imp_left (Holds.reordered same.symm)

/-- A version that is not known is reported before a level that is not; sections may be swapped. -/
theorem ofText_reads_settings_swapped :
    ofText "version: 2\nlog:\n  forward_level: loud\n" = .error .unsupportedVersion ∧
    SameButOrder (Document.ofText "version: 1\nlog:\n  forward_to_host: true\n")
      (Document.ofText "log:\n  forward_to_host: true\nversion: 1\n") ∧
    ofText "log:\n  forward_to_host: true\nversion: 1\n" = .ok { log := { forward := true } } := by
  have held : Holds (Document.ofText "version: 2\nlog:\n  forward_level: loud\n")
      { version := 2, log := { level := "loud" } } :=
    readDocument_eq_ok_iff.1 (toOption_eq_some_iff.1 (by decide +kernel))
  have same : SameButOrder (Document.ofText "version: 1\nlog:\n  forward_to_host: true\n")
      (Document.ofText "log:\n  forward_to_host: true\nversion: 1\n") := by
    have first : Document.ofText "version: 1\nlog:\n  forward_to_host: true\n" =
        ⟨some (.mapping {} [(.scalar {} .plain "version", .scalar {} .plain "1"),
          (.scalar {} .plain "log", .mapping {}
            [(.scalar {} .plain "forward_to_host", .scalar {} .plain "true")])]), true⟩ := by
      with_unfolding_all rfl
    have second : Document.ofText "log:\n  forward_to_host: true\nversion: 1\n" =
        ⟨some (.mapping {} [(.scalar {} .plain "log", .mapping {}
            [(.scalar {} .plain "forward_to_host", .scalar {} .plain "true")]),
          (.scalar {} .plain "version", .scalar {} .plain "1")]), true⟩ := by
      with_unfolding_all rfl
    have entry {document : Document} {key : String} {node : Node} : ∀ {entries given},
        Named document entries given →
          Named document ((.scalar {} .plain key, node) :: entries) ((key, node) :: given) :=
      .cons ⟨⟨{}, .plain, rfl⟩, rfl⟩
    rw [first, second]
    refine ⟨rfl, .of_perm ⟨{}, _, rfl, entry (entry .nil)⟩ ⟨{}, _, rfl, entry (entry .nil)⟩
      (.swap _ _ _) (by decide) ?_⟩
    rw [List.forall_mem_cons, List.forall_mem_singleton]
    refine ⟨.scalar rfl rfl rfl, .of_perm ⟨{}, _, rfl, entry .nil⟩ ⟨{}, _, rfl, entry .nil⟩
      (.refl _) (by decide) ?_⟩
    rw [List.forall_mem_singleton]
    exact .scalar rfl rfl rfl
  refine ⟨((ofText_reads_settings _).2.1 _ held).2.2 (by decide), same, ?_⟩
  exact ((ofText_reads_settings _).2.2.2 _ same _).1 (by decide +kernel)

end

end Hostlink.Settings
