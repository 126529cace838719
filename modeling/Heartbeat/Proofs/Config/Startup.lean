import Heartbeat.Proofs.Config.Precedence
import Heartbeat.Proofs.Pipeline.Dormant
import Heartbeat.Proofs.Time.Steady

/-! Whether what a configuration asks for can be started. The rules bound every setting from below, and the steady
clock and the cache bound three of them from above as well. For the flush interval the range of the setting is bound
enough; the sweep period and the life of cached records reach beyond what the clock counts and the cache takes, and a
daemon with such a period runs without sweeps. -/
namespace Heartbeat

open Time (Steady)

/-- The timers of a pipeline can be set at a moment of the steady clock, and its cache can be made. -/
structure PipelineSettings.Startable (settings : PipelineSettings) (clock : Steady) : Prop where
  sweeps : (clock.firstTick? settings.reconcilePeriod).isSome
  archive : (clock.firstTick? settings.archive.flushInterval).isSome
  cache : (Cache.Memory.make? settings.cacheTtl).isSome

namespace Config

variable {c : Config} {clock : Steady}

/-- No flush interval has more seconds. -/
def longestFlush : Nat := 18446744073709552

/-- The most seconds that a record may be cached. -/
def longestTtlSecs : Nat := 31536000000

theorem ne_zero_iff_toNat {n : UInt64} : n ≠ 0 ↔ n.toNat ≠ 0 := by
  rw [ne_eq, ← UInt64.toNat_inj, UInt64.toNat_zero]

theorem sweeps_start_iff (rules : Rules c) :
    (clock.firstTick? c.pipelineSettings.reconcilePeriod).isSome ↔ c.reconcile.periodSecs.toNat ≤ clock.left :=
  Steady.isSome_firstTick?_seconds_iff (ne_zero_iff_toNat.mp rules.periodSecs)

theorem archive_starts_iff (rules : Rules c) :
    (clock.firstTick? c.pipelineSettings.archive.flushInterval).isSome ↔
      clock.total + c.archive.flushIntervalMs.toNat * 1000000 < Steady.ending := by
  have positive : c.pipelineSettings.archive.flushInterval ≠ 0 := ne_zero_iff_toNat.mp rules.flushIntervalMs
  rw [Steady.isSome_firstTick?_iff]
  exact and_iff_right positive

/-- **Every flush interval is counted** by a clock that is not about to end. -/
theorem flush_counted (c : Config) (young : longestFlush ≤ clock.left) :
    clock.total + c.archive.flushIntervalMs.toNat * 1000000 < Steady.ending := by
  have bound : c.archive.flushIntervalMs.toNat < 2 ^ 64 := c.archive.flushIntervalMs.toNat_lt
  have left := clock.left_eq
  have nanos := clock.nanos.isLt
  unfold longestFlush at young
  unfold Steady.total Steady.ending
  omega

theorem cache_made_iff :
    (Cache.Memory.make? c.pipelineSettings.cacheTtl).isSome ↔ c.cache.ttlSecs.toNat ≤ longestTtlSecs := by
  have millis : c.pipelineSettings.cacheTtl = c.cache.ttlSecs.toNat * 1000 := rfl
  have made : (Cache.Memory.make? c.pipelineSettings.cacheTtl).isSome ↔
      c.pipelineSettings.cacheTtl ≤ Cache.Memory.longestTtl := by simp [Cache.Memory.make?]
  rw [made, millis]
  unfold Cache.Memory.longestTtl longestTtlSecs
  omega

/-- **A daemon can be started as it was told exactly if the clock counts its periods and the cache takes its ttl.** -/
theorem startable_iff (rules : Rules c) :
    c.pipelineSettings.Startable clock ↔
      c.reconcile.periodSecs.toNat ≤ clock.left ∧
      clock.total + c.archive.flushIntervalMs.toNat * 1000000 < Steady.ending ∧
      c.cache.ttlSecs.toNat ≤ longestTtlSecs := by
  rw [← sweeps_start_iff rules, ← archive_starts_iff rules, ← cache_made_iff]
  constructor
  · rintro ⟨sweeps, archive, cache⟩
    exact ⟨sweeps, archive, cache⟩
  · rintro ⟨sweeps, archive, cache⟩
    exact ⟨sweeps, archive, cache⟩

/-- The rules do not ask how long a period or a life is. -/
theorem Rules.unbounded (rules : Rules c) {period ttl : UInt64} (positive : period ≠ 0) (alive : ttl ≠ 0) :
    Rules { c with reconcile := { periodSecs := period }, cache := { c.cache with ttlSecs := ttl } } :=
  { rules with periodSecs := positive, ttlSecs := alive }

/-! ## What starts -/

/-- A daemon whose timers can be set and whose batches fit into a buffer starts with all its tasks. -/
theorem launch_eq_start (startable : c.pipelineSettings.Startable clock)
    (fits : c.pipelineSettings.archive.fits = true) (services : Services) :
    Daemon.launch clock c.pipelineSettings services = .start c.pipelineSettings services := by
  simp only [Daemon.launch, Daemon.start, Pipeline.launch, fits, startable.sweeps, startable.archive, Bool.and_true,
    if_true]

/-- A daemon whose period is not counted starts without sweeps. -/
theorem launch_dormant (rules : Rules c) (beyond : clock.left < c.reconcile.periodSecs.toNat)
    (services : Services) : (Daemon.launch clock c.pipelineSettings services).Dormant := by
  have uncounted : ¬ (clock.firstTick? c.pipelineSettings.reconcilePeriod).isSome := by
    rw [sweeps_start_iff rules]
    omega
  simp only [Daemon.launch, Pipeline.launch, if_neg uncounted]
  split <;> exact ⟨rfl, rfl⟩

/-- The tasks leave the database and the status of the sweeps alone while they begin. -/
theorem launch_keeps (clock : Steady) (settings : PipelineSettings) (services : Services) :
    (Daemon.launch clock settings services).pipeline.services.database = services.database ∧
    (Daemon.launch clock settings services).pipeline.services.sweepStatus = services.sweepStatus := by
  unfold Daemon.launch Pipeline.launch
  dsimp only
  split <;> split <;> exact ⟨rfl, rfl⟩

/-- **A valid daemon sweeps only if the clock counts its period.** Any period and any ttl but zero are valid, but a
daemon can be started as it was told only if the clock has its period left and its ttl is not longer than a thousand
years; its flush interval is no matter, unless the clock is about to end. A daemon that can be started has all its
tasks, if a buffer can be made for its batches. In a daemon with a longer period no sweep ever takes a step,
whatever happens, so that no stored row changes and no sweep is reported unless others see to it. -/
theorem sweeps_need_counted_period (valid : c.validate = .ok ()) (clock : Steady) :
    (c.pipelineSettings.Startable clock ↔
      c.reconcile.periodSecs.toNat ≤ clock.left ∧
      clock.total + c.archive.flushIntervalMs.toNat * 1000000 < Steady.ending ∧
      c.cache.ttlSecs.toNat ≤ longestTtlSecs) ∧
    (longestFlush ≤ clock.left → clock.total + c.archive.flushIntervalMs.toNat * 1000000 < Steady.ending) ∧
    (∀ period ttl : UInt64, period ≠ 0 → ttl ≠ 0 →
      validate { c with reconcile := { periodSecs := period }, cache := { c.cache with ttlSecs := ttl } } = .ok ()) ∧
    ∀ (services : Services) (d : Daemon), Daemon.launch clock c.pipelineSettings services = d →
      (c.pipelineSettings.Startable clock → c.pipelineSettings.archive.fits = true →
        d = .start c.pipelineSettings services) ∧
      (clock.left < c.reconcile.periodSecs.toNat → ∀ events,
        (d.run events).after .sweep = d.run events ∧
        (d.Obeys Daemon.Sparing events → services.Unswept (d.run events).pipeline.services)) := by
  have rules := validate_eq_ok_iff.mp valid
  refine ⟨startable_iff rules, ?_, ?_, ?_⟩
  · intro young
    exact flush_counted c young
  · intro period ttl positive alive
    exact validate_eq_ok_iff.mpr (rules.unbounded positive alive)
  · rintro services d rfl
    constructor
    · intro startable fits
      exact launch_eq_start startable fits services
    · intro beyond events
      have dormant := launch_dormant rules beyond services
      refine ⟨(dormant.run events).sweep, ?_⟩
      intro sparing
      obtain ⟨database, status⟩ := launch_keeps clock c.pipelineSettings services
      exact .trans (.aside database status) (dormant.run_unswept sparing)

/-! ## Times that are too long -/

/-- The environment of a daemon that sweeps as seldom as can be said. -/
def patient : Environment := .single "HEALTHCHECKD_RECONCILE_PERIOD_SECS" "18446744073709551615"

/-- What that environment makes of the defaults. -/
def patientConfig : Config := { reconcile := { periodSecs := 18446744073709551615 } }

theorem resolve_patient : resolve "healthcheckd.toml" .absent patient = .ok patientConfig := by
  have longest : Text.Counts (Text.trim "18446744073709551615") 18446744073709551615 :=
    Text.readCount_eq_ok_iff.mp (by decide +kernel)
  have merged : Merged patient {} patientConfig := by
    constructor
    case periodSecs => exact longest
    all_goals rfl
  exact resolve_eq_ok_iff.mpr ⟨{}, .defaults, merged, validate_eq_ok_iff.mp rfl⟩

/-- A host that is up. -/
def hostRow : Store.Row := Store.Table.newRow {} .epoch "host" "host" .up

/-- Services over that host alone. -/
def hosting : Services := { Services.plain with database := { table := some (Store.Table.add {} hostRow) } }

/-- The patient daemon over that host, when the clock has just begun. -/
def patientDaemon : Daemon := .launch ⟨0, 0⟩ patientConfig.pipelineSettings hosting

/-- A million years without a signal, in milliseconds. -/
def silence : List Event := [.elsewhere { hosting with now := 1000000 * 31536000000 }]

/-- The host of a patient daemon is up for good. -/
theorem silent_host_stays_up :
    validate patientConfig = .ok () ∧
    (patientDaemon.run silence).after .sweep = patientDaemon.run silence ∧
    ∃ t, (patientDaemon.run silence).pipeline.services.database.table = some t ∧ hostRow ∈ t.rows := by
  have valid : validate patientConfig = .ok () := rfl
  have beyond : Steady.left ⟨0, 0⟩ < patientConfig.reconcile.periodSecs.toNat := by decide
  obtain ⟨database, status⟩ := launch_keeps ⟨0, 0⟩ patientConfig.pipelineSettings hosting
  have sparing : patientDaemon.Obeys Daemon.Sparing silence := ⟨.aside database.symm status.symm, trivial⟩
  obtain ⟨-, -, -, started⟩ := sweeps_need_counted_period valid ⟨0, 0⟩
  obtain ⟨stuck, unswept⟩ := (started hosting _ rfl).2 beyond silence
  obtain ⟨t, held, kept⟩ := (unswept sparing).rows (Store.Table.add {} hostRow) rfl
  exact ⟨valid, stuck, t, held, kept.subset (Store.Table.mem_add.mpr (.inl rfl))⟩

-- with the default period a sweep begins in the same silence
example :
    let d := Daemon.launch ⟨0, 0⟩ (pipelineSettings {}) hosting
    ((d.run silence).after .sweep).pipeline.sweeping.isSome := by
  decide +kernel

/-- A file that asks for records to be cached a second longer than a thousand years. -/
def agelessFile : FileState := .file (Text.encode "[cache]\nttl_secs = 31536000001\n")

/-- What that file makes of the defaults. -/
def agelessConfig : Config := { cache := { ttlSecs := 31536000001 } }

theorem resolve_ageless : resolve "healthcheckd.toml" agelessFile (fun _ => none) = .ok agelessConfig := by
  have parsed : (Toml.parse? "[cache]\nttl_secs = 31536000001\n").bind ofEntries? = some agelessConfig := by
    decide +kernel
  have loaded : load "healthcheckd.toml" agelessFile = .ok agelessConfig := by
    simp only [agelessFile, load, Text.decode?_encode, parsed]
  exact resolve_eq_ok_iff.mpr ⟨_, .given loaded, .refl _, validate_eq_ok_iff.mp rfl⟩

/-- **That a configuration is valid does not make it startable**: neither the period of its sweeps nor its ttl need be
one that the clock counts or the cache takes, even on a clock that has just begun. -/
theorem valid_is_not_startable :
    (¬ ∀ (path : String) (state : FileState) (environment : Environment) (c : Config),
      resolve path state environment = .ok c →
        ((⟨0, 0⟩ : Steady).firstTick? c.pipelineSettings.reconcilePeriod).isSome) ∧
    (¬ ∀ (path : String) (state : FileState) (environment : Environment) (c : Config),
      resolve path state environment = .ok c → (Cache.Memory.make? c.pipelineSettings.cacheTtl).isSome) ∧
    ¬ ∀ (path : String) (state : FileState) (environment : Environment) (c : Config),
      resolve path state environment = .ok c → c.pipelineSettings.Startable ⟨0, 0⟩ := by
  have uncounted : ¬ ((⟨0, 0⟩ : Steady).firstTick? patientConfig.pipelineSettings.reconcilePeriod).isSome := by
    decide
  have ageless : ¬ (Cache.Memory.make? agelessConfig.pipelineSettings.cacheTtl).isSome := by decide
  refine ⟨fun always => ?_, fun always => ?_, fun always => ?_⟩
  · exact uncounted (always _ _ _ _ resolve_patient)
  · exact ageless (always _ _ _ _ resolve_ageless)
  · exact uncounted (always _ _ _ _ resolve_patient).sweeps

end Config
end Heartbeat
