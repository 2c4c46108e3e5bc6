import Conformance.CommandLine.Session
import Conformance.Proofs.Outcome

/-! Where a configuration comes from: what the files hold, the environment, the arguments. -/
namespace Conformance

variable {σ : Type} {view : σ → Disk} {files : Files (StateM σ)}

/-- Looking at files yields what is on the disk, and changes nothing. -/
structure Files.Shows (view : σ → Disk) (files : Files (StateM σ)) : Prop where
  exists_eq (path : String) (s : σ) : files.exists? path s = (((view s).node? path).isSome, s)
  read_eq (path : String) (s : σ) : files.read path s = ((view s).readFile path, s)

theorem Disk.files_shows : Files.Shows id Disk.files where
  exists_eq _ _ := rfl
  read_eq _ _ := rfl

theorem CommandLine.Session.files_shows : Files.Shows Session.disk Session.files where
  exists_eq _ _ := rfl
  read_eq _ _ := rfl

namespace Config

/-- The configuration that a path leads to: the defaults where there is nothing. -/
def found (disk : Disk) (path : String) : Except ConfigError Config :=
  match disk.node? path with
  | none => .ok {}
  | some _ =>
    match disk.readFile path with
    | .ok text => ofToml text
    | .error reason => .error (.io reason)

theorem loadOrDefault_eq (h : files.Shows view) (path : String) (s : σ) :
    loadOrDefault files path s = (found (view s) path, s) := by
  have hload : (view s).node? path ≠ none → load files path s = (found (view s) path, s) := by
    intro hn
    simp only [load, found, bind, StateT.bind, h.exists_eq, h.read_eq,
      Option.isSome_iff_ne_none.mpr hn, if_true]
    cases hd : (view s).node? path with
    | none => exact absurd hd hn
    | some node => cases (view s).readFile path <;> rfl
  simp only [loadOrDefault, bind, StateT.bind, h.exists_eq]
  cases hd : (view s).node? path with
  | none =>
    simp only [found, hd]
    rfl
  | some node => exact hload (by simp [hd])

end Config

namespace CommandLine

/-- The configuration that the arguments of a run come to. -/
def RunArguments.resolved (a : RunArguments) (e : Environment) (disk : Disk) :
    Except ConfigError Config :=
  (Config.found disk a.config).map fun c => a.override (c.withEnvironment e)

theorem runConfig_eq (h : files.Shows view) (e : Environment) (a : RunArguments) (s : σ) :
    runConfig files e a s = (a.resolved e (view s), s) := by
  simp only [runConfig, bind, StateT.bind, Config.loadOrDefault_eq h]
  rfl

theorem matrixConfig_eq (h : files.Shows view) (e : Environment) (a : MatrixArguments) (s : σ) :
    matrixConfig files e a s =
      ((Config.found (view s) a.config).map (·.withEnvironment e), s) := by
  simp only [matrixConfig, bind, StateT.bind, Config.loadOrDefault_eq h]
  rfl

end CommandLine

end Conformance
