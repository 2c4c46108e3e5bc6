import Conformance.Proofs.CommandLine.ExitCode
import Conformance.Proofs.Disk.Written

/-! A configuration is initialized without harm: no other file changes, and the file that is written
says nothing but the defaults. -/
namespace Conformance.CommandLine

open Config (exampleText)

variable {environment : Environment} {gateway : Gateway} {words : List String} {disk : Disk}
  {a : InitArguments} {path : String}

/-! ### What is written -/

theorem writeExample_eq (a : InitArguments) (s : Session) : writeExample Session.files a s =
    if (s.disk.node? a.output).isSome && !a.force then (.error (.fileExists a.output), s)
    else ((s.disk.writeFile a.output exampleText).1.mapError .unwritten,
      { s with disk := (s.disk.writeFile a.output exampleText).2 }) := by
  have hexists : Session.files.exists? a.output s = ((s.disk.node? a.output).isSome, s) := rfl
  simp only [writeExample, bind, StateT.bind, hexists]
  split <;> rfl

theorem handleInit_eq (environment : Environment) (gateway : Gateway) (setUp : SetUp)
    (a : InitArguments) (s : Session) :
    ∃ printed, handleInit (Session.world environment gateway setUp) a s =
      ((writeExample Session.files a s).1.map fun _ => true,
        { (writeExample Session.files a s).2 with printed := printed }) := by
  have hfiles : (Session.world environment gateway setUp).files = Session.files := rfl
  simp only [handleInit, bind, StateT.bind, hfiles]
  obtain ⟨result, s'⟩ := writeExample Session.files a s
  cases result with
  | error e => exact ⟨s'.printed, rfl⟩
  | ok _ => exact ⟨_, rfl⟩

/-- Either there is something already that is kept, or the example is written and the code tells
whether all of it was. -/
theorem perform_init (gateway : Gateway) (setUp : SetUp) (disk : Disk)
    (h : parse environment words = .ok (.init a)) :
    let done := perform environment gateway disk words setUp
    let write := disk.writeFile a.output exampleText
    ((disk.node? a.output).isSome → a.force = false → done.1 = 2 ∧ done.2.disk = disk) ∧
    (disk.node? a.output = none ∨ a.force →
      done.1 = (if write.1.isOk then 0 else 2) ∧ done.2.disk = write.2) := by
  intro done write
  obtain ⟨hcode, _, _, hdisk⟩ := perform_of_parse gateway disk setUp h
  obtain ⟨printed, hinit⟩ := handleInit_eq environment gateway setUp a { disk := disk }
  have hdone : handle (Session.world environment gateway setUp) (.init a) { disk := disk } = _ :=
    hinit
  rw [hcode, hdisk, hdone, writeExample_eq]
  refine ⟨fun hn hf => ?_, fun hallowed => ?_⟩
  · rw [if_pos (by simp [hn, hf])]
    exact ⟨rfl, rfl⟩
  · have hwrites : ¬ ((disk.node? a.output).isSome && !a.force) = true := by
      obtain hn | hf := hallowed
      · simp [hn]
      · simp [hf]
    rw [if_neg hwrites]
    refine ⟨?_, rfl⟩
    change exitCode ((write.1.mapError Fatal.unwritten).map fun _ => true) = _
    cases write.1 <;> rfl

/-! ### What it says -/

theorem toList_exampleText :
    exampleText.toList = Config.exampleLines.flatMap fun line => line.toList ++ ['\n'] := by
  have hbreak : "\n".toList = ['\n'] := by rw [String.toList_ofList]
  rw [exampleText, String.toList_join, List.flatMap_map]
  exact congrArg (List.flatMap · _) (funext fun line => by rw [String.toList_append, hbreak])

/-- The lines of the file are taken apart before they are read. -/
theorem ofToml_example : Config.ofToml exampleText = .ok {} := by
  obtain ⟨cs, hcs, hread⟩ : ∃ cs, exampleText.toList = cs ∧
      (Toml.lines ⟨[], []⟩ (Toml.withoutMark cs)).bind (fun d =>
        (Config.decoderWith Config.tomlLeniency
          (Toml.Entry.table .header d.entries).toJson).toOption) = some {} := by
    rw [toList_exampleText, Config.exampleLines]
    repeat rw [List.flatMap_cons]
    repeat rw [String.toList_ofList]
    exact ⟨_, rfl, by decide +kernel⟩
  obtain ⟨d, hd, hconfig⟩ := Option.bind_eq_some_iff.mp hread
  have hdocument : Toml.read exampleText = some (Toml.Entry.table .header d.entries).toJson := by
    rw [Toml.read, hcs, hd]
    rfl
  rw [Config.ofToml, hdocument]
  simp only [Outcome.eq_ok_of_toOption hconfig]
  rfl

/-- There is the example file or nothing. -/
def SaysNothing (disk : Disk) (path : String) : Prop :=
  disk.readFile path = .ok exampleText ∨ disk.node? path = none

/-- The example file and no file at all come to the same. -/
theorem found_example (h : SaysNothing disk path) : Config.found disk path = .ok {} := by
  rw [Config.found]
  cases hn : disk.node? path with
  | none => rfl
  | some node =>
    obtain hread | hnone := h
    · simp only [hread, ofToml_example]
    · cases hnone.symm.trans hn

theorem runConfig_example (h : SaysNothing disk path) (e : Environment) (flags : RunArguments) :
    (runConfig Disk.files e { flags with config := path } disk).1 =
      .ok (flags.override (({} : Config).withEnvironment e)) := by
  rw [runConfig_eq Disk.files_shows, RunArguments.resolved]
  simp only [id_eq, found_example h]
  rfl

theorem matrixConfig_example (h : SaysNothing disk path) (e : Environment)
    (flags : MatrixArguments) :
    (matrixConfig Disk.files e { flags with config := path } disk).1 =
      .ok (({} : Config).withEnvironment e) := by
  rw [matrixConfig_eq Disk.files_shows]
  simp only [id_eq, found_example h]
  rfl

/-- The path leads to a file that can be read. -/
def CanBeRead (disk : Disk) (path : String) : Prop :=
  ∃ number, disk.node? path = some (.file number) ∧ (disk.file number).refusals.reading = none

theorem readFile_of_written {disk' : Disk} {result : Except String Unit}
    (h : disk.Written path exampleText result disk') (hok : result.isOk)
    (hr : CanBeRead disk' path) : disk'.readFile path = .ok exampleText := by
  obtain ⟨number, hnode, hreading⟩ := hr
  cases h with
  | whole all =>
    obtain ⟨n, hn, hbytes, _⟩ := all.written
    obtain rfl := Disk.Node.file.inj (Option.some.inj (hn.symm.trans hnode))
    exact Disk.readFile_of_bytes hnode hreading hbytes
  | device device found => cases hnode.symm.trans found
  | refused => cases hok
  | begun => cases hok

/-! ### How it ends -/

/-- Only the file that the path leads to has changed, if anything has. It holds the example after a
success, unless a device has taken it, and a first part after a write that the system has ended. -/
inductive InitEnds (disk : Disk) (path : String) : Nat → Disk → Prop where
  | unchanged : InitEnds disk path 2 disk
  | written {disk' : Disk} (all : disk.Replaced path exampleText.toUTF8 disk') :
    InitEnds disk path 0 disk'
  | taken (device : Disk.Device) (found : disk.node? path = some (.device device)) :
    InitEnds disk path 0 disk
  | begun {disk' : Disk} (n : Nat) (reason : String) (ended : disk.stop = some (n, reason))
    (short : n < exampleText.toUTF8.size)
    (first : disk.Replaced path (exampleText.toUTF8.extract 0 n) disk') :
    InitEnds disk path 2 disk'

theorem InitEnds.of_written {disk' : Disk} {result : Except String Unit}
    (h : disk.Written path exampleText result disk') :
    InitEnds disk path (if result.isOk then 0 else 2) disk' := by
  cases h with
  | refused => exact .unchanged
  | whole all => exact .written all
  | device device found => exact .taken device found
  | begun n reason ended short first => exact .begun n reason ended short first

/-- A success where nothing was leaves a file. -/
theorem InitEnds.replaced {disk' : Disk} (h : InitEnds disk path 0 disk')
    (hn : disk.node? path = none) : disk.Replaced path exampleText.toUTF8 disk' := by
  cases h with
  | written all => exact all
  | taken device found => cases hn.symm.trans found

/-- Initializing a configuration changes nothing but the file that the path leads to. Where there is
something already and no force is used, it ends with 2 and leaves the disk as it was. After a success
the file is the same as none, whatever the environment and the flags are, as long as it can be read.
Words that are refused change nothing. -/
theorem init_harmless (environment : Environment) (gateway : Gateway) (setUp : SetUp) (disk : Disk)
    (words : List String) :
    let done := perform environment gateway disk words setUp
    (∀ refusal, parse environment words = .error refusal → done.2.disk = disk) ∧
    ∀ a, parse environment words = .ok (.init a) →
      InitEnds disk a.output done.1 done.2.disk ∧
      ((disk.node? a.output).isSome → a.force = false → done.1 = 2 ∧ done.2.disk = disk) ∧
      (done.1 = 0 → CanBeRead done.2.disk a.output →
        ∀ (e : Environment) (bare : Disk) (path : String), bare.node? path = none →
        (∀ flags : RunArguments, ∃ c,
          (runConfig Disk.files e { flags with config := a.output } done.2.disk).1 = .ok c ∧
          (runConfig Disk.files e { flags with config := path } bare).1 = .ok c) ∧
        ∀ flags : MatrixArguments, ∃ c,
          (matrixConfig Disk.files e { flags with config := a.output } done.2.disk).1 = .ok c ∧
          (matrixConfig Disk.files e { flags with config := path } bare).1 = .ok c) := by
  intro done
  refine ⟨fun refusal h => (perform_of_refusal h).2, fun a h => ?_⟩
  obtain ⟨hkeeps, hwrites⟩ := perform_init gateway setUp disk h
  by_cases hallowed : disk.node? a.output = none ∨ a.force
  · obtain ⟨hcode, hdisk⟩ := hwrites hallowed
    have hwritten := disk.written_writeFile a.output exampleText
    rw [← hdisk] at hwritten
    refine ⟨?_, hkeeps, fun hzero hread e bare path hbare => ?_⟩
    · rw [hcode]
      exact .of_written hwritten
    · have hok : (disk.writeFile a.output exampleText).1.isOk := by
        by_contra hfailed
        rw [hcode, if_neg hfailed] at hzero
        cases hzero
      have hnew : SaysNothing done.2.disk a.output := .inl (readFile_of_written hwritten hok hread)
      have hold : SaysNothing bare path := .inr hbare
      exact ⟨fun flags => ⟨_, runConfig_example hnew e flags, runConfig_example hold e flags⟩,
        fun flags => ⟨_, matrixConfig_example hnew e flags, matrixConfig_example hold e flags⟩⟩
  · obtain ⟨hn, hf⟩ := not_or.mp hallowed
    obtain ⟨hcode, hdisk⟩ := hkeeps (Option.isSome_iff_ne_none.mpr hn) (by simpa using hf)
    refine ⟨?_, hkeeps, fun hzero => ?_⟩
    · rw [hcode, hdisk]
      exact .unchanged
    · cases hcode.symm.trans hzero

theorem node?_empty : ({} : Disk).node? defaultPath = none := by
  have hplace : ({} : Disk).place defaultPath = .ok [defaultPath] := by decide +kernel
  exact Disk.node?_eq hplace

/-- A link to a file that is not there yet, and another file. -/
def linkedDisk : Disk where
  nodes := [([], .directory), (["conf"], .directory), (["gatecheck.toml"], .link "conf/gate.toml"),
    (["notes"], .file 0)]

/-- The file is made where the link leads, and is kept the next time. -/
theorem init_harmless_linked :
    let done := perform [] .absent linkedDisk ["config", "init"]
    parse [] ["config", "init"] = .ok (.init {}) ∧ done.1 = 0 ∧
    done.2.disk.nodeAt ["notes"] = some (.file 0) ∧ done.2.disk.file 0 = linkedDisk.file 0 ∧
    (perform [] .absent done.2.disk ["config", "init"]).1 = 2 ∧
    ∃ c, (runConfig Disk.files [] {} done.2.disk).1 = .ok c ∧
      (runConfig Disk.files [] {} {}).1 = .ok c := by
  have hp : parse [] ["config", "init"] = .ok (.init {}) := rfl
  have hplace : linkedDisk.place defaultPath true = .ok ["conf", "gate.toml"] := by decide +kernel
  have hnothing : linkedDisk.node? defaultPath = none :=
    Disk.node?_eq ((Disk.Keeps.refl linkedDisk).leads hplace)
  have hnotes : linkedDisk.nodeAt ["notes"] = some (.file 0) := rfl
  have hcode : (perform [] .absent linkedDisk ["config", "init"]).1 = 0 := by
    have hwrite : (linkedDisk.writeFile defaultPath exampleText).1 = .ok () := by
      rw [Disk.writeFile_of_free hplace rfl rfl, Disk.overwrite_of_endless rfl]
    have hends := ((perform_init .absent {} linkedDisk hp).2 (.inl hnothing)).1
    rw [hwrite] at hends
    exact hends
  obtain ⟨hends, _, hsame⟩ := (init_harmless [] .absent {} linkedDisk ["config", "init"]).2 _ hp
  generalize perform [] .absent linkedDisk ["config", "init"] = done at hcode hends hsame
  have hreplaced : linkedDisk.Replaced defaultPath exampleText.toUTF8 done.2.disk := by
    rw [hcode] at hends
    exact hends.replaced hnothing
  obtain ⟨number, hnode, _, hrights⟩ := hreplaced.written
  have hthere : (done.2.disk.node? defaultPath).isSome := Option.isSome_of_eq_some hnode
  have hreading : (done.2.disk.file number).refusals.reading = none := by
    obtain ⟨hbefore, _⟩ | ⟨_, hnew⟩ := hrights
    · cases hnothing.symm.trans hbefore
    · rw [hnew]
      rfl
  have hother : linkedDisk.node? defaultPath ≠ some (.file 0) := by simp [hnothing]
  exact ⟨hp, hcode, (hreplaced.names ["notes"] (.inr (by simp [hnotes]))).trans hnotes,
    hreplaced.files ["notes"] 0 hnotes hother,
    (((init_harmless [] .absent {} done.2.disk ["config", "init"]).2 _ hp).2.1 hthere rfl).1,
    (hsame hcode ⟨number, hnode, hreading⟩ [] {} defaultPath node?_empty).1 {}⟩

/-- A link to the working directory, a file there, and another one that cannot be read. -/
def crowdedDisk : Disk where
  nodes := [([], .directory), (["proc"], .directory), (["proc", "self"], .directory),
    (["proc", "self", "cwd"], .link "/"), (["gatecheck.toml"], .file 0), (["shut.toml"], .file 1)]
  file n := {
    bytes := "existing".toUTF8
    refusals := { reading := if n = 1 then some "Permission denied (os error 13)" else none } }

def fullDisk : Disk := { crowdedDisk with stop := some (0, "No space left on device (os error 28)") }

theorem init_elsewhere :
    let done := perform [] .absent crowdedDisk
      ["config", "init", "--force", "--output=/proc/self/cwd/gatecheck.toml"]
    done.1 = 0 ∧
      done.2.disk.readFile "gatecheck.toml" ≠ crowdedDisk.readFile "gatecheck.toml" := by
  have hp : parse [] ["config", "init", "--force", "--output=/proc/self/cwd/gatecheck.toml"] =
      .ok (.init { output := "/proc/self/cwd/gatecheck.toml", force := true }) := rfl
  have hplace : crowdedDisk.place "/proc/self/cwd/gatecheck.toml" true =
      .ok ["gatecheck.toml"] := by decide +kernel
  have hdirect : crowdedDisk.place "gatecheck.toml" = .ok ["gatecheck.toml"] := by decide +kernel
  have hnode : crowdedDisk.node? "gatecheck.toml" = some (.file 0) := Disk.node?_eq hdirect
  have hold : crowdedDisk.readFile "gatecheck.toml" = .ok "existing" :=
    Disk.readFile_of_bytes hnode rfl rfl
  obtain ⟨hcode, hdisk⟩ := (perform_init .absent {} crowdedDisk hp).2 (.inr rfl)
  rw [Disk.writeFile_of_file hplace rfl rfl, Disk.overwrite_of_endless rfl] at hcode hdisk
  refine ⟨hcode, ?_⟩
  rw [hdisk, Disk.readFile_withBytes hnode rfl, hold]
  exact fun he => absurd (Except.ok.inj he) (by decide +kernel)

theorem init_cut :
    let done := perform [] .absent fullDisk ["config", "init", "--force"]
    done.1 = 2 ∧ done.2.disk.readFile "gatecheck.toml" ≠ fullDisk.readFile "gatecheck.toml" := by
  have hp : parse [] ["config", "init", "--force"] = .ok (.init { force := true }) := rfl
  have hplace : fullDisk.place defaultPath true = .ok ["gatecheck.toml"] := by decide +kernel
  have hnode : fullDisk.node? "gatecheck.toml" = some (.file 0) :=
    Disk.node?_eq ((Disk.Keeps.refl fullDisk).leads hplace)
  have hold : fullDisk.readFile "gatecheck.toml" = .ok "existing" :=
    Disk.readFile_of_bytes hnode rfl rfl
  have hsize : 0 < exampleText.toUTF8.size := by decide +kernel
  have hnothing : exampleText.toUTF8.extract 0 0 = "".toUTF8 := by simp
  obtain ⟨hcode, hdisk⟩ := (perform_init .absent {} fullDisk hp).2 (.inr rfl)
  rw [Disk.writeFile_of_file hplace rfl rfl, Disk.overwrite_of_stop rfl hsize] at hcode hdisk
  refine ⟨hcode, ?_⟩
  rw [hdisk, hnothing, Disk.readFile_withBytes hnode rfl, hold]
  exact fun he => absurd (Except.ok.inj he) (by decide)

theorem init_shut :
    let done := perform [] .absent crowdedDisk ["config", "init", "--force", "--output=shut.toml"]
    done.1 = 0 ∧ (runConfig Disk.files [] { config := "shut.toml" } done.2.disk).1 ≠
      (runConfig Disk.files [] {} {}).1 := by
  have hp : parse [] ["config", "init", "--force", "--output=shut.toml"] =
      .ok (.init { output := "shut.toml", force := true }) := rfl
  have hplace : crowdedDisk.place "shut.toml" true = .ok ["shut.toml"] := by decide +kernel
  have hnode : crowdedDisk.node? "shut.toml" = some (.file 1) :=
    Disk.node?_eq ((Disk.Keeps.refl crowdedDisk).leads hplace)
  obtain ⟨hcode, hdisk⟩ := (perform_init .absent {} crowdedDisk hp).2 (.inr rfl)
  rw [Disk.writeFile_of_file hplace rfl rfl, Disk.overwrite_of_endless rfl] at hcode hdisk
  have hshut : (crowdedDisk.withBytes 1 exampleText.toUTF8).node? "shut.toml" = some (.file 1) :=
    ((Disk.Keeps.refl _).withBytes 1 _).node? hnode
  have hread : (crowdedDisk.withBytes 1 exampleText.toUTF8).readFile "shut.toml" =
      .error "Permission denied (os error 13)" := by
    rw [Disk.readFile, hshut]
    rfl
  refine ⟨hcode, fun he => ?_⟩
  rw [hdisk, runConfig_eq Disk.files_shows, RunArguments.resolved] at he
  simp only [id_eq, Config.found, hshut, hread] at he
  cases he.trans (runConfig_example (.inr node?_empty) [] {})

/-- Another path may lead to the same file, a full disk takes none of the example after the file has
been emptied, and a file that can be written need not be one that can be read. -/
theorem init_harms :
    let elsewhere := perform [] .absent crowdedDisk
      ["config", "init", "--force", "--output=/proc/self/cwd/gatecheck.toml"]
    let cut := perform [] .absent fullDisk ["config", "init", "--force"]
    let shut := perform [] .absent crowdedDisk ["config", "init", "--force", "--output=shut.toml"]
    (elsewhere.1 = 0 ∧
      elsewhere.2.disk.readFile "gatecheck.toml" ≠ crowdedDisk.readFile "gatecheck.toml") ∧
    (cut.1 = 2 ∧ cut.2.disk.readFile "gatecheck.toml" ≠ fullDisk.readFile "gatecheck.toml") ∧
    (shut.1 = 0 ∧ (runConfig Disk.files [] { config := "shut.toml" } shut.2.disk).1 ≠
      (runConfig Disk.files [] {} {}).1) :=
  ⟨init_elsewhere, init_cut, init_shut⟩

end Conformance.CommandLine
