import OpenBroker.Application
import OpenBroker.Proofs.Logger
import OpenBroker.Proofs.Reach
import OpenBroker.Proofs.Requests
import OpenBroker.Proofs.Settings

/-! # What is accepted is in effect

The settings are checked in one place and used in others: the broker refuses a negative limit, and
the logger a level that it does not know.  Neither can happen to a configuration that was loaded,
since a loaded limit is not negative, and a loaded level has the name of a known one.  So an
application without a catalog file starts with every configuration that is accepted, and what
the environment names is what holds afterwards: the level for the logger, and the limit for every
request that creates an instance, whatever was asked before.

That a service is full when as many instances are live as the limit says, and never with more, is
an invariant of the actions (`room_next`).  A limit of zero is no limit.
-/
namespace OpenBroker

/-! ## Refused for the limit -/

namespace Memory

open Http

variable {m : Memory} {passwords : Nat → Text} {password i : Text} {t : Table}

/-- What is served when an instance is **refused for the limit**. -/
def refusedForLimit (i : Text) : Served :=
  ⟨.ok (Reply.json 500 (Json.text (.object
      [("description", .string "instance limit for this service has been reached")]))),
    [.action (.provision i)],
    ["Provisioning error: instance limit for this service has been reached"], none⟩

/-- What is served when an instance is **created** that has an address. -/
def created (i address : Text) : Served :=
  ⟨.ok (Reply.json 201 (Json.text (.object [("dashboard_url", .string address)]))),
    [.action (.provision i)], [], none⟩

/-- With no more instances than the limit allows, a service is full when it has just as many. -/
theorem served_provision (room : 0 < m.limit → t.length ≤ m.limit) (dead : ¬ t.Live i) :
    (m.prescribed password t (.provision i)).served (.provision i) =
      if 1 ≤ m.limit ∧ t.instanceIds.length = m.limit then refusedForLimit i
      else created i (m.dashboard i) := by
  have full : m.limit ≠ 0 ∧ m.limit ≤ t.instanceIds.length ↔
      1 ≤ m.limit ∧ t.instanceIds.length = m.limit := by
    rw [Table.length_instanceIds]
    omega
  rw [prescribed, if_neg dead, ← dashboard_eq]
  simp only [full]
  split <;> rfl

theorem room_requests (m : Memory) (passwords : Nat → Text) (requests : List Request) :
    0 < m.limit → (Http.run (m.broker passwords) requests fresh).2.table.length ≤ m.limit :=
  table_requests (fun t => 0 < m.limit → t.length ≤ m.limit)
    (fun password a _ before => room_next before password a) passwords requests
    (fun _ => Nat.zero_le m.limit)

/-- **A request for an instance that is not live**, in any run of requests. -/
theorem serve_provision {r : Request} (delivered : r.Delivers (.provision i))
    (requests : List Request)
    (dead : ¬ (Http.run (m.broker passwords) requests fresh).2.table.Live i) :
    (serve (m.broker passwords) r (Http.run (m.broker passwords) requests fresh).2).1 =
      if 1 ≤ m.limit ∧
          (Http.run (m.broker passwords) requests fresh).2.table.instanceIds.length = m.limit then
        refusedForLimit i
      else created i (m.dashboard i) := by
  rw [serve_of_delivers delivered, answered_perform]
  exact served_provision (room_requests m passwords requests) dead

end Memory

/-! ## Starting -/

namespace Application

open Http

variable {env : Environment} {entries : List (Text × Files.Entry)} {c : Config}
  {given : Option Config} {level : Log.Level}

theorem configuration_of_load (loaded : Settings.load env entries = .ok c)
    (result : given = none ∨ given = some c) :
    ∃ printed, configuration given env entries = .ok (c, printed) := by
  rcases result with rfl | rfl
  · exact ⟨c.summary, Settings.tell_of_load loaded⟩
  · exact ⟨[], rfl⟩

/-- The broker of a configuration without a catalog file: its limit is not refused. -/
theorem memory_of_builtIn (entries : List (Text × Files.Entry)) (builtIn : c.catalogPath? = none)
    (least : 0 ≤ c.instanceLimit) :
    ∃ m, memory entries c = .ok m ∧ (m.limit : Int) = c.instanceLimit := by
  rw [memory, builtIn, Memory.create, if_neg (Int.not_lt.mpr least)]
  exact ⟨_, rfl, Int.toNat_of_nonneg least⟩

/-- The loggers of a configuration: its level is known. -/
theorem registry_of_ofText? (known : Log.Level.ofText? c.logLevel = some level) :
    ∃ r, registry false c = .ok r ∧ (r.logger c.loggerName).level = level := by
  obtain ⟨r, configured, effective⟩ :=
    Log.Registry.configure_of_ofText? .initial c.loggerName known
  refine ⟨r.watch ownLogger, ?_, ?_⟩
  · rw [registry, if_neg Bool.false_ne_true, configured]
    rfl
  · rw [Log.Registry.level_logger_watch, effective]

/-- **What is accepted is in effect.**  An environment names no catalog file, and is accepted.
Then the application starts, with the configuration that was loaded or from the environment; the
logger has the level that the environment names; and with the limit that it names, in any run of
requests one that creates an instance which is not live is refused for the limit if and only if
the limit is not zero and as many instances are live. -/
theorem start_of_load (noFile : Settings.Blank env Settings.catalogVariable)
    (loaded : Settings.load env entries = .ok c) (result : given = none ∨ given = some c) :
    ∃ (a : Started Memory) (level : Log.Level) (n : Nat),
      start given (memory entries) false env entries = .ok a ∧ a.config = c ∧
      (∀ l, Settings.NamesLevel env l ↔ l = level) ∧
      (a.registry.logger c.loggerName).level = level ∧
      (∀ z, Settings.NamesLimit env z ↔ z = n) ∧
      ∀ passwords requests (r : Request) i, r.Delivers (.provision i) →
        let broker := a.broker.broker passwords
        let s := (run broker requests Memory.fresh).2
        ¬ s.table.Live i →
          (serve broker r s).1 =
            if 1 ≤ n ∧ s.table.instanceIds.length = n then Memory.refusedForLimit i
            else Memory.created i (a.broker.dashboard i) := by
  obtain ⟨printed, configured⟩ := configuration_of_load loaded result
  obtain ⟨path, number, label, -, -⟩ := Settings.stages_of_load loaded
  have builtIn : c.catalogPath? = none := by
    rw [Settings.catalogPath_of_blank noFile] at path
    exact (Except.ok.inj path).symm
  have least : 0 ≤ c.instanceLimit := Settings.le_of_integer (by decide) number
  have namesLimit := Settings.namesLimit_of_integer number
  obtain ⟨level, known, namesLevel⟩ := Settings.namesLevel_of_level label
  obtain ⟨m, made, same⟩ := memory_of_builtIn entries builtIn least
  obtain ⟨registry_, logging, effective⟩ := registry_of_ofText? known
  refine ⟨⟨c, m, registry_, false, printed⟩, level, m.limit, ?_, rfl,
    fun l => namesLevel.iff_eq, effective, fun z => same ▸ namesLimit.iff_eq, ?_⟩
  · rw [start, configured]
    simp only [bind, Except.bind, made, logging]
  · intro passwords requests r i delivered broker s dead
    exact Memory.serve_provision delivered requests dead

/-- A limit of one, with a sign, an underscore and digits of another script, and a level in lower
case.  The second instance is refused. -/
theorem start_of_load_one :
    let env : Environment :=
      [("BROKER_INSTANCE_LIMIT", "\t+٠_١ "), ("BROKER_LOG_LEVEL", " warn\n")]
    let before : Request := ⟨"PUT", "/v2/service_instances/db", []⟩
    let r : Request := ⟨"PUT", "/v2/service_instances/cache", []⟩
    ∃ a, start none (memory []) false env [] = .ok a ∧
      (a.registry.logger "broker").level = Log.Severity.warning.level ∧
      let broker := a.broker.broker fun _ => []
      (serve broker r (run broker [before] Memory.fresh).2).1 =
        Memory.refusedForLimit "cache" := by
  intro env before r
  have noFile : Settings.Blank env Settings.catalogVariable := List.all_eq_true.mp (by decide)
  have loaded : Settings.load env [] = .ok ⟨none, 1, [], "WARN", "broker"⟩ := rfl
  obtain ⟨a, level, n, started, -, levels, effective, limits, served⟩ :=
    start_of_load noFile loaded (.inl rfl)
  have warn : Settings.NamesLevel env 30 := by
    have set : Settings.value? env Settings.levelVariable = some "warn" := rfl
    obtain ⟨visible, stripped⟩ := Settings.strip_of_value? set
    refine .named visible ?_
    rw [← stripped]
    decide
  have one : Settings.NamesLimit env 1 := by
    have set : Settings.value? env Settings.limitVariable = some "+٠_١" := rfl
    obtain ⟨visible, stripped⟩ := Settings.strip_of_value? set
    refine .denoted visible ?_
    rw [← stripped]
    have zero : Text.digit? '٠' = some 0 := by decide
    have unit : Text.digit? '١' = some 1 := by decide
    exact .plus (.digits zero (.underscore unit (.done 1)))
  obtain rfl : n = 1 := Int.ofNat.inj ((limits 1).mp one).symm
  refine ⟨a, started, ?_, ?_⟩
  · rw [effective, ← (levels 30).mp warn]
    rfl
  · have first : before.Delivers (.provision "db") :=
      Request.delivers_iff.mpr ⟨by decide, by decide +kernel, by decide⟩
    have second : r.Delivers (.provision "cache") :=
      Request.delivers_iff.mpr ⟨by decide, by decide +kernel, by decide⟩
    have limit : a.broker.limit = 1 := by
      have made : ((start none (memory []) false env []).toOption.map (·.broker.limit)) =
        some 1 := by decide +kernel
      rw [started] at made
      exact Option.some.inj made
    intro broker
    have table : (run broker [before] Memory.fresh).2.table = [(("db" : Text), [])] := by
      rw [run_cons, Memory.serve_of_delivers first, run, Memory.perform_table, Memory.next,
        Memory.after, limit]
      rfl
    have dead : ¬ (run broker [before] Memory.fresh).2.table.Live "cache" := by
      rw [table]
      decide
    have refused := served (fun _ => []) [before] r "cache" second dead
    rw [table] at refused
    exact refused

end Application
end OpenBroker
