import Mathlib.Logic.Basic
import Hostlink.Proofs.Except
import Hostlink.Proofs.Severity
import Hostlink.Settings
/-!
What is asked of the values of settings, one thing after the other, the fault that is reported where
it is not so, and what therefore holds of all settings that are accepted.
-/

namespace Hostlink

/-- A fault that is that of the first demand that is not met. -/
inductive FirstUnmet {ε : Type} : List (Prop × ε) → ε → Prop where
  | here {p : Prop} {e : ε} {rest : List (Prop × ε)} (unmet : ¬ p) : FirstUnmet ((p, e) :: rest) e
  | later {p : Prop} {e other : ε} {rest : List (Prop × ε)} (met : p) (h : FirstUnmet rest e) :
    FirstUnmet ((p, other) :: rest) e

theorem FirstUnmet.mem {ε : Type} {demands : List (Prop × ε)} {e : ε}
    (h : FirstUnmet demands e) : e ∈ demands.map Prod.snd := by
  induction h with
  | here => exact List.mem_cons_self
  | later _ _ ih => exact List.mem_cons_of_mem _ ih

/-- A computation succeeds if demands are met, and fails with the fault of the first that is not. -/
structure Checks {ε : Type} (x : Except ε Unit) (demands : List (Prop × ε)) : Prop where
  ok_iff : x = .ok () ↔ ∀ demand ∈ demands, demand.1
  error_iff : ∀ e, x = .error e ↔ FirstUnmet demands e

namespace Checks

variable {ε : Type} {p : Prop} {e : ε} {x y : Except ε Unit} {rest : List (Prop × ε)}

theorem nil : Checks (.ok () : Except ε Unit) [] :=
  ⟨⟨nofun, fun _ => rfl⟩, fun _ => ⟨nofun, nofun⟩⟩

/-- A demand is checked in front of others. -/
theorem cons (h : Checks x rest) (met : p → y = x) (unmet : ¬ p → y = .error e) :
    Checks y ((p, e) :: rest) := by
  by_cases isMet : p
  · rw [met isMet]
    constructor
    · rw [List.forall_mem_cons, and_iff_right isMet, h.ok_iff]
    · intro fault
      rw [h.error_iff]
      constructor
      · exact .later isMet
      · rintro (unmet | ⟨-, later⟩)
        · exact absurd isMet unmet
        · exact later
  · rw [unmet isMet]
    constructor
    · rw [List.forall_mem_cons]
      exact ⟨nofun, fun all => absurd all.1 isMet⟩
    · intro fault
      rw [Except.error.injEq]
      constructor
      · rintro rfl
        exact .here isMet
      · rintro (_ | ⟨met, -⟩)
        · rfl
        · exact absurd met isMet

theorem guard {c : Prop} [Decidable c] {f : Unit → Except ε Unit} (h : Checks x rest)
    (met : p ↔ ¬ c) : Checks (if c then throw e >>= f else x) ((p, e) :: rest) :=
  h.cons (fun isMet => if_neg (met.1 isMet)) fun unmet => if_pos (not_not.1 (mt met.2 unmet))

theorem last {c : Prop} [Decidable c] (met : p ↔ ¬ c) :
    Checks (if c then throw e else pure ()) [(p, e)] :=
  nil.cons (fun isMet => if_neg (met.1 isMet)) fun unmet => if_pos (not_not.1 (mt met.2 unmet))

end Checks

namespace Settings

/-- What is asked of settings, and the fault where it is not so. -/
def demands (settings : Settings) : List (Prop × Fault) := [
  (settings.version = 1, .unsupportedVersion),
  (∃ c ∈ settings.identity.name.toList, Text.isBlank c = false,
    .config "plugin.name must not be empty"),
  (512 ≤ settings.transport.readChunk ∧ settings.transport.readChunk ≤ 1048576,
    .config "transport.read_chunk_bytes must be between 512 and 1048576"),
  (1 ≤ settings.transport.writeChunk ∧ settings.transport.writeChunk ≤ 65536,
    .config "transport.write_chunk_bytes must be between 1 and 65536"),
  (1024 ≤ settings.transport.maxFrame ∧ settings.transport.maxFrame ≤ 4294967295,
    .config "transport.max_frame_bytes must be between 1024 and 4294967295"),
  (100 ≤ settings.handling.requestTimeout ∧ settings.handling.requestTimeout ≤ 600000,
    .config "dispatch.request_timeout_ms must be between 100 and 600000"),
  (∃ severity : Severity, severity.SpelledBy settings.log.level,
    .config ("log.forward_level must be one of trace|debug|info|warn|error, got " ++
      Text.quoted settings.log.level))]

theorem allBlank_eq_false_iff {text : String} :
    Text.allBlank text = false ↔ ∃ c ∈ text.toList, Text.isBlank c = false := by
  unfold Text.allBlank
  rw [List.all_eq_false]
  simp only [Bool.not_eq_true]

theorem isNone_severity?_eq_false_iff {log : Log} :
    log.severity?.isNone = false ↔ ∃ severity : Severity, severity.SpelledBy log.level := by
  unfold Log.severity?
  rw [Option.isNone_eq_false_iff, Option.isSome_iff_exists]
  simp only [Severity.ofText?_eq_some_iff]

theorem checks_range {name message : String} {low high value : Nat} {x : Except Fault Unit}
    {rest : List (Prop × Fault)}
    (eq : name ++ " must be between " ++ toString low ++ " and " ++ toString high = message)
    (h : Checks x rest) :
    Checks (checkRange name low high value >>= fun _ => x)
      ((low ≤ value ∧ value ≤ high, .config message) :: rest) := by
  subst eq
  apply h.cons
  · intro within
    rw [checkRange, if_pos within, ok_bind]
  · intro outside
    rw [checkRange, if_neg outside]
    rfl

/-- Settings are checked for what is asked of them, in its order. -/
theorem check_checks (settings : Settings) : Checks settings.check settings.demands := by
  unfold check demands
  dsimp only
  refine .guard (.guard (checks_range (by rfl) (checks_range (by rfl) (checks_range (by rfl)
    (checks_range (by rfl) (.last ?level))))) ?name) ?version
  case version => exact not_not.symm
  case name => rw [← allBlank_eq_false_iff, Bool.not_eq_true]
  case level => rw [← isNone_severity?_eq_false_iff, Bool.not_eq_true]

/-- Only another version is reported as such, and before anything else. -/
theorem firstUnmet_unsupportedVersion_iff {settings : Settings} :
    FirstUnmet settings.demands .unsupportedVersion ↔ settings.version ≠ 1 := by
  constructor
  · intro h
    cases h with
    | here unmet => exact unmet
    | later _ later => simpa using later.mem
  · exact .here

/-- What holds of all settings that are accepted: the values are within their bounds. -/
structure Sound (settings : Settings) : Prop where
  version : settings.version = 1
  name : Text.allBlank settings.identity.name = false
  readChunk : 512 ≤ settings.transport.readChunk ∧ settings.transport.readChunk ≤ 1048576
  writeChunk : 1 ≤ settings.transport.writeChunk ∧ settings.transport.writeChunk ≤ 65536
  maxFrame : 1024 ≤ settings.transport.maxFrame ∧ settings.transport.maxFrame ≤ 4294967295
  requestTimeout :
    100 ≤ settings.handling.requestTimeout ∧ settings.handling.requestTimeout ≤ 600000
  severity : settings.log.severity?.isNone = false

theorem check_eq_ok_iff (settings : Settings) : settings.check = .ok () ↔ settings.Sound := by
  rw [(check_checks settings).ok_iff]
  simp only [demands, List.forall_mem_cons, ← allBlank_eq_false_iff,
    ← isNone_severity?_eq_false_iff]
  constructor
  · rintro ⟨version, name, readChunk, writeChunk, maxFrame, requestTimeout, severity, -⟩
    exact ⟨version, name, readChunk, writeChunk, maxFrame, requestTimeout, severity⟩
  · rintro ⟨version, name, readChunk, writeChunk, maxFrame, requestTimeout, severity⟩
    exact ⟨version, name, readChunk, writeChunk, maxFrame, requestTimeout, severity, nofun⟩

theorem sound_of_ofText {text : String} {settings : Settings} (h : ofText text = .ok settings) :
    settings.Sound := by
  unfold ofText at h
  obtain ⟨read, -, h⟩ := bind_eq_ok_iff.1 h
  obtain ⟨u, checked, h⟩ := bind_eq_ok_iff.1 h
  cases h
  exact (check_eq_ok_iff settings).1 checked

end Settings
end Hostlink
