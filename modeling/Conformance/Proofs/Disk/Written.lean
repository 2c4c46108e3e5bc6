import Conformance.Disk.Access
import Conformance.Proofs.Pairs

/-! A write changes the bytes of one file, which is where the path leads, and nothing else. -/
namespace Conformance.Disk

variable {disk disk' : Disk} {path content part : String} {bytes : ByteArray}
  {place next other : List String} {number : Nat} {new : Bool}

/-! ### Paths -/

/-- All names are still there, and there are no new links. -/
structure Keeps (disk disk' : Disk) : Prop where
  names : ∀ place node, disk.nodeAt place = some node → disk'.nodeAt place = some node
  links : ∀ place target, disk'.nodeAt place = some (.link target) →
    disk.nodeAt place = some (.link target)
  workingDirectory : disk'.workingDirectory = disk.workingDirectory

theorem Keeps.refl (disk : Disk) : disk.Keeps disk := ⟨fun _ _ h => h, fun _ _ h => h, rfl⟩

theorem Keeps.step (h : disk.Keeps disk') (hs : disk.step place part = .ok next) :
    disk'.step place part = .ok next := by
  cases hn : disk.nodeAt place with
  | none =>
    rw [Disk.step, hn] at hs
    cases hs
  | some node =>
    rw [Disk.step, hn] at hs
    rwa [Disk.step, h.names place node hn]

theorem Keeps.followWith {onLink onLink' : List String → List String → Except String (List String)}
    (h : disk.Keeps disk')
    (hl : ∀ base way, onLink base way = .ok other → onLink' base way = .ok other)
    {way : List String} (hf : disk.followWith new onLink place way = .ok other) :
    disk'.followWith false onLink' place way = .ok other := by
  induction way generalizing place with
  | nil => exact hf
  | cons part rest ih =>
    rw [Disk.followWith] at hf
    rw [Disk.followWith]
    cases hs : disk.step place part with
    | error reason =>
      rw [hs] at hf
      cases hf
    | ok next =>
      simp only [hs] at hf
      simp only [h.step hs, Bool.false_eq_true, false_and, if_false]
      split at hf
      · cases hf
      · split at hf
        · rename_i target hn
          rw [h.names next _ hn]
          exact hl _ _ hf
        · rename_i hn
          -- a link that is new might lead elsewhere, but there is none
          split
          · rename_i target hn'
            exact absurd (h.links next target hn') (hn target)
          · exact ih hf

theorem Keeps.follow (h : disk.Keeps disk') {links : Nat} {way : List String}
    (hf : disk.follow new links place way = .ok other) :
    disk'.follow false links place way = .ok other := by
  -- on the links that are left: what is behind one is followed with one less
  induction links generalizing place way with
  | zero =>
    refine h.followWith (fun _ _ hl => ?_) hf
    cases hl
  | succ links ih => exact h.followWith (fun _ _ hl => ih hl) hf

/-- Where a file may come to be, there it is found. -/
theorem Keeps.leads (h : disk.Keeps disk') (hp : disk.place path new = .ok other) :
    disk'.place path = .ok other := by
  rw [Disk.place] at hp
  rw [Disk.place, h.workingDirectory]
  split at hp
  · cases hp
  · rename_i hempty
    split at hp
    · cases hp
    · rename_i hlong
      rw [if_neg hempty, if_neg hlong]
      exact h.follow hp

theorem node?_eq (hp : disk.place path = .ok place) : disk.node? path = disk.nodeAt place := by
  rw [node?, hp]

theorem Keeps.node? {node : Node} (h : disk.Keeps disk') (hn : disk.node? path = some node) :
    disk'.node? path = some node := by
  cases hp : disk.place path with
  | error reason =>
    rw [Disk.node?, hp] at hn
    cases hn
  | ok place =>
    rw [node?_eq hp] at hn
    rw [node?_eq (h.leads hp), h.names place node hn]

/-! ### Files -/

theorem lt_fresh (h : disk.nodeAt place = some (.file number)) : number < disk.fresh := by
  obtain ⟨before, after, hnodes, _⟩ := List.lookup_eq_some_iff.mp h
  have hmem : (place, Node.file number) ∈ disk.nodes := by simp [hnodes]
  unfold fresh
  generalize disk.nodes = nodes at hmem
  induction nodes with
  | nil => cases hmem
  | cons entry rest ih =>
    rw [List.foldr_cons]
    obtain rfl | hrest := List.mem_cons.mp hmem
    · exact Nat.le_max_left _ _
    · obtain ⟨name, node⟩ := entry
      cases node with
      | file n => exact Nat.lt_of_lt_of_le (ih hrest) (Nat.le_max_right _ _)
      | _ => exact ih hrest

theorem nodeAt_withFile (disk : Disk) (place other : List String) :
    (disk.withFile place).nodeAt other =
      (disk.nodeAt other).or (if other = place then some (.file disk.fresh) else none) := by
  rw [nodeAt, withFile, List.lookup_append, Pairs.lookup_cons]
  rfl

theorem keeps_withFile (disk : Disk) (place : List String) :
    disk.Keeps (disk.withFile place) where
  names other node h := by rw [nodeAt_withFile, h, Option.some_or]
  links other target h := by
    rw [nodeAt_withFile] at h
    cases ho : disk.nodeAt other with
    | some node => rwa [ho] at h
    | none =>
      rw [ho, Option.none_or] at h
      split at h <;> cases h
  workingDirectory := rfl

theorem Keeps.withBytes (h : disk.Keeps disk') (number : Nat) (bytes : ByteArray) :
    disk.Keeps (disk'.withBytes number bytes) :=
  ⟨h.names, h.links, h.workingDirectory⟩

/-- The file that a path leads to has these bytes, a new one if there was nothing. All names stand for
what they stood for, and all other files are as they were. -/
structure Replaced (disk : Disk) (path : String) (bytes : ByteArray) (disk' : Disk) : Prop where
  written : ∃ number, disk'.node? path = some (.file number) ∧
    (disk'.file number).bytes = bytes ∧
    (disk.node? path = some (.file number) ∧
        (disk'.file number).refusals = (disk.file number).refusals ∨
      disk.node? path = none ∧ (disk'.file number).refusals = disk.newFile)
  names : ∀ other, disk.place path ≠ .ok other ∨ disk.nodeAt other ≠ none →
    disk'.nodeAt other = disk.nodeAt other
  files : ∀ other number, disk.nodeAt other = some (.file number) →
    disk.node? path ≠ some (.file number) → disk'.file number = disk.file number

theorem replaced_withBytes (hp : disk.node? path = some (.file number)) (bytes : ByteArray) :
    Replaced disk path bytes (disk.withBytes number bytes) where
  written := by
    have hnode := ((Keeps.refl disk).withBytes number bytes).node? hp
    refine ⟨number, hnode, ?_, .inl ⟨hp, ?_⟩⟩ <;> simp [withBytes]
  names _ _ := rfl
  files other n hn hne := by
    have hother : n ≠ number := fun he => hne (he ▸ hp)
    simp [withBytes, hother]

theorem replaced_withFile (hp : disk.place path true = .ok place) (hn : disk.nodeAt place = none)
    (bytes : ByteArray) :
    Replaced disk path bytes ((disk.withFile place).withBytes disk.fresh bytes) where
  written := by
    have hbefore : disk.node? path = none := (node?_eq ((Keeps.refl disk).leads hp)).trans hn
    have hkeeps := (keeps_withFile disk place).withBytes disk.fresh bytes
    have hafter : ((disk.withFile place).withBytes disk.fresh bytes).node? path =
        some (.file disk.fresh) := by
      rw [node?_eq (hkeeps.leads hp)]
      have hnew := nodeAt_withFile disk place place
      rwa [hn, Option.none_or, if_pos rfl] at hnew
    refine ⟨disk.fresh, hafter, ?_, .inr ⟨hbefore, ?_⟩⟩ <;> simp [withBytes, withFile]
  names other hother := by
    -- the new name stands behind all others, which are found first
    refine (nodeAt_withFile disk place other).trans ?_
    cases ho : disk.nodeAt other with
    | some node => rfl
    | none =>
      obtain hplace | hthere := hother
      · rw [Option.none_or, if_neg]
        rintro rfl
        exact hplace ((Keeps.refl disk).leads hp)
      · exact absurd ho hthere
  files other n hnode _ := by
    have hold : n ≠ disk.fresh := Nat.ne_of_lt (lt_fresh hnode)
    simp [withBytes, withFile, hold]

theorem readFile_withBytes (hn : disk.node? path = some (.file number))
    (hr : (disk.file number).refusals.reading = none) (text : String) :
    (disk.withBytes number text.toUTF8).readFile path = .ok text := by
  have hnode := ((Keeps.refl disk).withBytes number text.toUTF8).node? hn
  refine readFile_of_bytes hnode ?_ ?_
  · simpa [withBytes] using hr
  · simp [withBytes]

/-- What a write can come to. -/
inductive Written (disk : Disk) (path content : String) : Except String Unit → Disk → Prop where
  | refused (reason : String) : Written disk path content (.error reason) disk
  | device (device : Device) (found : disk.node? path = some (.device device)) :
    Written disk path content (.ok ()) disk
  | whole {disk' : Disk} (all : Replaced disk path content.toUTF8 disk') :
    Written disk path content (.ok ()) disk'
  /-- The system has ended it, and the file holds a first part. -/
  | begun {disk' : Disk} (n : Nat) (reason : String) (ended : disk.stop = some (n, reason))
    (short : n < content.toUTF8.size)
    (first : Replaced disk path (content.toUTF8.extract 0 n) disk') :
    Written disk path content (.error reason) disk'

theorem cut?_eq_some {first : ByteArray} {reason : String}
    (h : disk.cut? bytes = some (first, reason)) :
    ∃ n, disk.stop = some (n, reason) ∧ n < bytes.size ∧ first = bytes.extract 0 n := by
  unfold cut? at h
  split at h
  · rename_i n words hstop
    split at h
    · rename_i hshort
      cases h
      exact ⟨n, hstop, hshort, rfl⟩
    · cases h
  · cases h

theorem written_overwrite {start : Disk} (hstop : start.stop = disk.stop)
    (h : ∀ bytes, Replaced disk path bytes (start.withBytes number bytes)) :
    Written disk path content (start.overwrite number content.toUTF8).1
      (start.overwrite number content.toUTF8).2 := by
  unfold overwrite
  split
  · rename_i first reason hcut
    obtain ⟨n, hn, hshort, rfl⟩ := cut?_eq_some hcut
    exact .begun n reason (hstop ▸ hn) hshort (h _)
  · exact .whole (h _)

theorem written_writeFile (disk : Disk) (path content : String) :
    Written disk path content (disk.writeFile path content).1 (disk.writeFile path content).2 := by
  unfold writeFile
  split
  · exact .refused _
  · rename_i place hp
    have hnode : disk.node? path = disk.nodeAt place := node?_eq ((Keeps.refl disk).leads hp)
    unfold writeAt
    split
    · rename_i number hn
      split
      · exact .refused _
      · exact written_overwrite rfl (replaced_withBytes (hnode.trans hn))
    · exact .refused _
    · rename_i device hn
      cases hw : device.write with
      | error reason => exact .refused _
      | ok _ => exact .device device (hnode.trans hn)
    · exact .refused _
    · rename_i hn
      split
      · exact .refused _
      · exact written_overwrite rfl (replaced_withFile hp hn)

end Conformance.Disk
