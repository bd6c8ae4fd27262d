import OpenBroker.Proofs.Except
import OpenBroker.Proofs.Numeral
import OpenBroker.Proofs.Text
import OpenBroker.Settings

/-! # What an accepted environment says

A configuration is loaded in stages, each of which reads one variable (`stages_of_load`).  What
the stages for the limit and the level accept is stated here without them: `NamesLimit` and
`NamesLevel` say which number and which level an environment names, by the text of the variable
alone.  An environment names at most one of each.
-/
namespace OpenBroker

/-! ## What an environment names -/

namespace Settings

variable {env : Environment} {entries : List (Text × Files.Entry)} {name : Text} {c : Config}

/-- The text of a variable, nothing if the variable is not set. -/
def written (env : Environment) (name : Text) : Text := (Keyed.find? name env).getD []

/-- **Blank**: a variable is not set, or there is nothing to be seen in it. -/
def Blank (env : Environment) (name : Text) : Prop :=
  ∀ c ∈ written env name, Text.isBlank c = true

/-- **The limit that an environment names**: a hundred, or what the numeral denotes. -/
inductive NamesLimit (env : Environment) : Int → Prop
  | unset (blank : Blank env limitVariable) : NamesLimit env 100
  | denoted {z : Int} (visible : ¬ Blank env limitVariable)
      (numeral : Literal.Denotes (Text.strip (written env limitVariable)) z) : NamesLimit env z

/-- **The level that an environment names**, in any case: `INFO` if it names none. -/
inductive NamesLevel (env : Environment) : Log.Level → Prop
  | unset (blank : Blank env levelVariable) : NamesLevel env Log.Severity.info.level
  | named {level : Log.Level} (visible : ¬ Blank env levelVariable)
      (known : Log.Level.names.lookup (Text.upper (Text.strip (written env levelVariable))) =
        some level) : NamesLevel env level

theorem NamesLimit.unique {z z' : Int} (h : NamesLimit env z) (h' : NamesLimit env z') :
    z = z' := by
  cases h with
  | unset blank =>
    cases h' with
    | unset => rfl
    | denoted visible => exact absurd blank visible
  | denoted visible numeral =>
    cases h' with
    | unset blank => exact absurd blank visible
    | denoted _ numeral' => exact numeral.unique numeral'

theorem NamesLevel.unique {l l' : Log.Level} (h : NamesLevel env l) (h' : NamesLevel env l') :
    l = l' := by
  cases h with
  | unset blank =>
    cases h' with
    | unset => rfl
    | named visible => exact absurd blank visible
  | named visible known =>
    cases h' with
    | unset blank => exact absurd blank visible
    | named _ known' =>
      rw [known] at known'
      exact Option.some.inj known'

theorem NamesLimit.iff_eq {z z' : Int} (h : NamesLimit env z) : NamesLimit env z' ↔ z' = z :=
  ⟨fun h' => h'.unique h, fun same => same ▸ h⟩

theorem NamesLevel.iff_eq {l l' : Log.Level} (h : NamesLevel env l) :
    NamesLevel env l' ↔ l' = l :=
  ⟨fun h' => h'.unique h, fun same => same ▸ h⟩

/-! ## What is accepted -/

theorem value?_eq_none_iff : value? env name = none ↔ Blank env name := by
  rw [Blank, ← Text.strip_eq_nil_iff, value?, written]
  cases Text.strip ((Keyed.find? name env).getD []) with
  | nil => exact iff_of_true rfl rfl
  | cons c t => exact iff_of_false nofun nofun

theorem strip_of_value? {t : Text} (h : value? env name = some t) :
    ¬ Blank env name ∧ t = Text.strip (written env name) := by
  refine ⟨fun blank => ?_, ?_⟩
  · rw [value?_eq_none_iff.mpr blank] at h
    cases h
  · rw [value?] at h
    split at h
    · cases h
    · exact (Option.some.inj h).symm

/-- **The stages of loading**, each with what it accepts. -/
theorem stages_of_load (loaded : load env entries = .ok c) :
    catalogPath env entries = .ok c.catalogPath? ∧
      integer env limitVariable Config.default.instanceLimit 0 = .ok c.instanceLimit ∧
      level env levelVariable Config.default.logLevel = .ok c.logLevel ∧
      c.dashboardBase = (value? env dashboardVariable).getD [] ∧
      c.loggerName = (value? env loggerVariable).getD Config.default.loggerName := by
  obtain ⟨catalog, path, loaded⟩ := exists_of_bind_eq_ok loaded
  obtain ⟨limit, number, loaded⟩ := exists_of_bind_eq_ok loaded
  obtain ⟨label, known, loaded⟩ := exists_of_bind_eq_ok loaded
  cases loaded
  exact ⟨path, number, known, rfl, rfl⟩

theorem catalogPath_of_blank (blank : Blank env catalogVariable) :
    catalogPath env entries = .ok none := by
  rw [catalogPath, value?_eq_none_iff.mpr blank]

theorem le_of_integer {default minimum n : Int} (fits : minimum ≤ default)
    (h : integer env name default minimum = .ok n) : minimum ≤ n := by
  unfold integer at h
  split at h
  · cases h
    exact fits
  · split at h
    · cases h
    · split at h
      · cases h
      · cases h
        omega

/-- **A limit that is accepted** is the one that the environment names. -/
theorem namesLimit_of_integer {z : Int}
    (h : integer env limitVariable Config.default.instanceLimit 0 = .ok z) :
    NamesLimit env z := by
  unfold integer at h
  cases set : value? env limitVariable with
  | none =>
    rw [set] at h
    cases h
    exact .unset (value?_eq_none_iff.mp set)
  | some t =>
    rw [set] at h
    dsimp only at h
    split at h
    · cases h
    · rename_i n numeral
      split at h
      · cases h
      · cases h
        obtain ⟨visible, rfl⟩ := strip_of_value? set
        have denotes := Literal.denotes_of_integer numeral
        rw [Text.trim_strip] at denotes
        exact .denoted visible denotes

/-- The names of the levels are in upper case. -/
theorem upper_of_ofName? {t : Text} (known : (Log.Level.ofName? t).isSome = true) :
    Text.upper t = t := by
  have all : ∀ e ∈ Log.Level.names, Text.upper e.1 = e.1 := by decide
  obtain ⟨level, found⟩ := Option.isSome_iff_exists.mp known
  obtain ⟨before, after, names, -⟩ := List.lookup_eq_some_iff.mp found
  exact all (t, level) (names ▸ List.mem_append_right _ (List.mem_cons_self ..))

theorem level_eq (env : Environment) (name default : Text) :
    level env name default =
      match Log.Level.ofName? ((value? env name).elim default Text.upper) with
      | some _ => .ok ((value? env name).elim default Text.upper)
      | none => .error (.unknownLevel name ((value? env name).elim default Text.upper)) := by
  unfold level
  cases value? env name <;> rfl

/-- A level that is accepted is known, in upper case or not, by the name that it has. -/
theorem exists_ofName?_of_level {default label : Text} (h : level env name default = .ok label) :
    label = (value? env name).elim default Text.upper ∧
      ∃ l, Log.Level.ofName? label = some l ∧ Log.Level.ofText? label = some l := by
  rw [level_eq] at h
  split at h
  · rename_i l found
    cases h
    refine ⟨rfl, l, found, ?_⟩
    rw [Log.Level.ofText?, upper_of_ofName? (Option.isSome_of_eq_some found)]
    exact found
  · cases h

/-- **A level that is accepted** is the one that the environment names. -/
theorem namesLevel_of_level {label : Text}
    (h : level env levelVariable Config.default.logLevel = .ok label) :
    ∃ l, Log.Level.ofText? label = some l ∧ NamesLevel env l := by
  obtain ⟨chosen, l, named, known⟩ := exists_ofName?_of_level h
  refine ⟨l, known, ?_⟩
  cases set : value? env levelVariable with
  | none =>
    rw [set] at chosen
    rw [chosen] at named
    cases named
    exact .unset (value?_eq_none_iff.mp set)
  | some t =>
    rw [set] at chosen
    obtain ⟨visible, rfl⟩ := strip_of_value? set
    rw [chosen] at named
    exact .named visible named

/-! ## What is printed -/

theorem print_total (t : Text) : Console.total.print t = .ok t :=
  if_pos (List.all_eq_true.mpr fun _ _ => rfl)

theorem tell_of_load (loaded : load env entries = .ok c) :
    tell .total env entries = .ok (c, c.summary) := by
  rw [tell, loaded]
  dsimp only
  rw [print_total]
  rfl

/-- **What is told** on a console that everything can be written to is what was loaded. -/
theorem load_of_tell {printed : Text} (told : tell .total env entries = .ok (c, printed)) :
    load env entries = .ok c ∧ printed = c.summary := by
  cases loaded : load env entries with
  | error e =>
    rw [tell, loaded] at told
    cases told
  | ok c' =>
    rw [tell_of_load loaded] at told
    cases told
    exact ⟨rfl, rfl⟩

end Settings
end OpenBroker
