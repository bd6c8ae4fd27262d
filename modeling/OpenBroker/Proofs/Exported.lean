import OpenBroker.Application
import OpenBroker.Proofs.Settings

/-! # A configuration is what its own environment is loaded as

Every setting has been brought into a form of its own when a configuration is loaded: there are no
blanks around it, a limit is a number, a level is in upper case, and what was left out has got its
default.  An environment that names the settings in this form (`Exports`) is loaded as the same
configuration (`load_of_exports`), since none of these steps changes anything when it is taken
again.

A limit is the only setting that is written in another way than it was read.  That it can be read
again, however large it is, is so because it has no more digits than the numeral that it came
from.
-/
namespace OpenBroker

open Settings

/-- **The environment of a configuration** names each setting as it is in effect; there is no
variable for a catalog that is built in. -/
def Config.environment (c : Config) : Environment :=
  c.catalogPath?.toList.map (catalogVariable, ·) ++
    [(limitVariable, Decimal.ofInt c.instanceLimit), (dashboardVariable, c.dashboardBase),
      (levelVariable, c.logLevel), (loggerVariable, c.loggerName)]

namespace Settings

variable {env env' : Environment} {entries : List (Text × Files.Entry)} {name t : Text} {c : Config}

/-- **An environment exports** a configuration: its variables for the settings are those of the
configuration's own environment, whatever other variables there are. -/
structure Exports (env : Environment) (c : Config) : Prop where
  catalog : Keyed.find? catalogVariable env = c.catalogPath?
  limit : Keyed.find? limitVariable env = some (Decimal.ofInt c.instanceLimit)
  dashboard : Keyed.find? dashboardVariable env = some c.dashboardBase
  level : Keyed.find? levelVariable env = some c.logLevel
  logger : Keyed.find? loggerVariable env = some c.loggerName

theorem exports_environment (c : Config) : Exports c.environment c := by
  obtain ⟨catalog, limit, dashboard, level, logger⟩ := c
  cases catalog <;> constructor <;> rfl

/-! ## Values that are read again -/

theorem written_of_find? (set : Keyed.find? name env = some t) : written env name = t := by
  rw [written, set]
  rfl

theorem value?_getD_nil (env : Environment) (name : Text) :
    (value? env name).getD [] = Text.strip (written env name) := by
  rw [value?, written]
  cases Text.strip ((Keyed.find? name env).getD []) <;> rfl

/-- What has been stripped is its own value. -/
theorem value?_of_strip (set : Keyed.find? name env = some t) (bare : Text.strip t = t)
    (visible : t ≠ []) : value? env name = some t := by
  rw [value?, set, Option.getD_some, bare]
  cases t with
  | nil => exact absurd rfl visible
  | cons c rest => rfl

theorem strip_of_value?_eq_some (h : value? env name = some t) : Text.strip t = t ∧ t ≠ [] := by
  obtain ⟨visible, rfl⟩ := strip_of_value? h
  refine ⟨Text.strip_strip _, fun nothing => visible ?_⟩
  exact Text.strip_eq_nil_iff.mp nothing

/-- **A value is read again** from a variable that is set to it, or unset if there is none. -/
theorem value?_of_find? (set : Keyed.find? name env' = value? env name) :
    value? env' name = value? env name := by
  cases value : value? env name with
  | none =>
    rw [value] at set
    rw [value?, set]
    rfl
  | some t =>
    rw [value] at set
    obtain ⟨bare, visible⟩ := strip_of_value?_eq_some value
    exact value?_of_strip set bare visible

/-- A value or a default is read again, since the default has no blanks around it either. -/
theorem value?_getD_of_find? {default : Text} (bare : Text.strip default = default)
    (visible : default ≠ [])
    (set : Keyed.find? name env' = some ((value? env name).getD default)) (other : Text) :
    (value? env' name).getD other = (value? env name).getD default := by
  cases value : value? env name with
  | none =>
    rw [value] at set
    rw [value?_of_strip set bare visible]
    rfl
  | some t =>
    rw [value] at set
    obtain ⟨bare, visible⟩ := strip_of_value?_eq_some value
    rw [value?_of_strip set bare visible]
    rfl

/-! ## Settings that are accepted again -/

theorem catalogPath?_of_catalogPath {path : Option Text}
    (h : catalogPath env entries = .ok path) : path = value? env catalogVariable := by
  unfold catalogPath at h
  split at h
  · rename_i unset
    rw [unset, Except.ok.inj h]
  · rename_i t set
    dsimp only at h
    rw [set]
    split at h
    · cases h
    · split at h <;> cases h
      rfl

theorem catalogPath_congr (same : value? env' catalogVariable = value? env catalogVariable) :
    catalogPath env' entries = catalogPath env entries := by
  rw [catalogPath, catalogPath, same]

/-- **A limit** is accepted again. -/
theorem integer_of_find? {default minimum : Int} {n : Nat}
    (loaded : integer env name default minimum = .ok n) (least : minimum ≤ n)
    (few : (Decimal.ofInt default).length ≤ Literal.digitLimit)
    (set : Keyed.find? name env' = some (Decimal.ofInt n)) (other : Int) :
    integer env' name other minimum = .ok n := by
  have short : (Decimal.ofNat n).length ≤ Literal.digitLimit := by
    unfold integer at loaded
    split at loaded
    · cases loaded
      exact few
    · split at loaded
      · cases loaded
      · rename_i numeral
        split at loaded
        · cases loaded
        · cases loaded
          exact Literal.length_ofNat_of_integer numeral
  have value : value? env' name = some (Decimal.ofNat n) := by
    refine value?_of_strip set ?_ ?_
    · exact Text.strip_of_visible fun c mem =>
        Text.isBlank_of_isAsciiDigit (Decimal.isAsciiDigit_of_mem_ofNat mem)
    · obtain ⟨c, ds, digits, -⟩ := Decimal.exists_head_ofNat n
      rw [digits]
      exact List.cons_ne_nil c ds
  unfold integer
  rw [value]
  dsimp only
  rw [Literal.integer_ofNat short]
  exact if_neg (Int.not_lt.mpr least)

/-- The names of the levels have no blanks around them. -/
theorem strip_of_ofName? (known : (Log.Level.ofName? t).isSome = true) :
    Text.strip t = t ∧ t ≠ [] := by
  have all : ∀ e ∈ Log.Level.names, Text.strip e.1 = e.1 ∧ e.1 ≠ [] := by decide
  obtain ⟨level, found⟩ := Option.isSome_iff_exists.mp known
  obtain ⟨before, after, names, -⟩ := List.lookup_eq_some_iff.mp found
  exact all (t, level) (names ▸ List.mem_append_right _ (List.mem_cons_self ..))

/-- **A level** is accepted again. -/
theorem level_of_find? {default label : Text} (loaded : level env name default = .ok label)
    (set : Keyed.find? name env' = some label) (other : Text) :
    level env' name other = .ok label := by
  obtain ⟨-, l, known, -⟩ := exists_ofName?_of_level loaded
  have named := Option.isSome_of_eq_some known
  obtain ⟨bare, visible⟩ := strip_of_ofName? named
  rw [level_eq, value?_of_strip set bare visible, Option.elim_some, upper_of_ofName? named, known]

/-! ## The configuration that is loaded again -/

/-- **A configuration is loaded again** from what exports it. -/
theorem load_of_exports (loaded : load env entries = .ok c) (exported : Exports env' c) :
    load env' entries = .ok c := by
  obtain ⟨path, number, label, dashboard, logger⟩ := stages_of_load loaded
  have catalogAgain : catalogPath env' entries = .ok c.catalogPath? := by
    have same : value? env' catalogVariable = value? env catalogVariable :=
      value?_of_find? (exported.catalog.trans (catalogPath?_of_catalogPath path))
    rw [catalogPath_congr same, path]
  have limitAgain : integer env' limitVariable Config.default.instanceLimit 0 =
      .ok c.instanceLimit := by
    obtain ⟨n, natural⟩ := Int.eq_ofNat_of_zero_le (le_of_integer (by decide) number)
    have set := exported.limit
    rw [natural] at number set ⊢
    have few : (Decimal.ofNat 100).length ≤ 3 := Decimal.length_ofNat_le (by decide) (by decide)
    exact integer_of_find? number (Int.natCast_nonneg n) (Nat.le_trans few (by decide)) set _
  have levelAgain := level_of_find? label exported.level Config.default.logLevel
  have dashboardAgain : (value? env' dashboardVariable).getD [] = c.dashboardBase := by
    rw [value?_getD_nil, written_of_find? exported.dashboard, dashboard, value?_getD_nil,
      Text.strip_strip]
  have loggerAgain : (value? env' loggerVariable).getD Config.default.loggerName =
      c.loggerName := by
    have set := exported.logger
    rw [logger] at set ⊢
    exact value?_getD_of_find? (by decide) (by decide) set _
  rw [load, catalogAgain, limitAgain, levelAgain, dashboardAgain, loggerAgain]
  rfl

end Settings

namespace Application

variable {env : Environment} {entries : List (Text × Files.Entry)} {c : Config} {printed : Text}

/-- **A configuration is a fixed point of its own environment.**  What was loaded from an
environment, of whatever variables, is loaded from every environment that exports it, over the same
files and with the same line printed; the configuration's own environment is one of these.  Its
level has a value. -/
theorem configuration_of_exports (loaded : configuration none env entries = .ok (c, printed)) :
    (∃ level, c.level? = some level) ∧ Exports c.environment c ∧
      ∀ env', Exports env' c → configuration none env' entries = .ok (c, printed) := by
  obtain ⟨accepted, rfl⟩ := load_of_tell loaded
  obtain ⟨-, -, label, -, -⟩ := stages_of_load accepted
  obtain ⟨-, level, -, known⟩ := exists_ofName?_of_level label
  refine ⟨⟨level, known⟩, exports_environment c, fun env' exported => ?_⟩
  exact tell_of_load (load_of_exports accepted exported)

/-- Blanks around a path, a numeral with a sign, an underscore and digits of another script, and a
level in lower case are gone when the configuration is loaded again, from its own variables among
others. -/
theorem configuration_of_exports_numeral :
    let env : Environment := [("BROKER_CATALOG_PATH", " ./c.json\t"),
      ("BROKER_INSTANCE_LIMIT", "+٠_٧ "), ("BROKER_LOG_LEVEL", " warn\n")]
    let entries : List (Text × Files.Entry) := [("c.json", .file [])]
    let c : Config := ⟨some "./c.json", 7, [], "WARN", "broker"⟩
    configuration none env entries = .ok (c, c.summary) ∧
      configuration none (("HOME", "/srv") :: c.environment) entries = .ok (c, c.summary) := by
  intro env entries c
  have accepted : load env entries = .ok c := rfl
  have loaded : configuration none env entries = .ok (c, c.summary) := tell_of_load accepted
  have exported : Exports (("HOME", "/srv") :: c.environment) c := by constructor <;> rfl
  exact ⟨loaded, (configuration_of_exports loaded).2.2 _ exported⟩

end Application
end OpenBroker
