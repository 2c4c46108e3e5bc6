import Conformance.Proofs.Pairs
import Conformance.Sweep.Report
import Mathlib.Algebra.GroupWithZero.Nat
import Mathlib.Data.List.Basic
import Mathlib.Data.List.Nodup

/-! What the counts of a report say about its cases. They are kept case by case, but depend only on
how often each outcome occurs. -/
namespace Conformance

/-- Elements that are counted key by key. Each has at most one key. -/
theorem sum_countP_keys {α κ : Type} [DecidableEq κ] (p : α → Bool) (key : α → Option κ)
    (xs : List α) {keys : List κ} (hn : keys.Nodup) :
    (keys.map fun k => xs.countP fun x => p x && key x = some k).sum =
      xs.countP fun x => p x && (key x).any (· ∈ keys) := by
  induction keys with
  | nil => simp
  | cons k rest ih =>
    obtain ⟨hk, hrest⟩ := List.nodup_cons.mp hn
    rw [List.map_cons, List.sum_cons, ih hrest, List.countP_eq_countP_filter_add xs
      (fun x => p x && (key x).any (· ∈ k :: rest)) fun x => key x = some k, List.countP_filter,
      List.countP_filter]
    congr 1
    · refine List.countP_congr fun x _ => ?_
      cases key x <;> simp +contextual
    · refine List.countP_congr fun x _ => ?_
      cases hx : key x with
      | none => simp
      | some k' =>
        by_cases hkk : k' = k
        · simp [hkk, hk]
        · simp [hkk]

/-- Elements that are left out add nothing. -/
theorem sum_map_filter {α : Type} {p : α → Bool} {g : α → Nat} {xs : List α}
    (h : ∀ x ∈ xs, p x = false → g x = 0) : ((xs.filter p).map g).sum = (xs.map g).sum := by
  induction xs with
  | nil => rfl
  | cons x rest ih =>
    obtain ⟨hx, hrest⟩ := List.forall_mem_cons.mp h
    rw [List.map_cons, List.sum_cons, ← ih hrest]
    cases hp : p x with
    | true => rw [List.filter_cons_of_pos hp, List.map_cons, List.sum_cons]
    | false => rw [List.filter_cons_of_neg (by simp [hp]), hx hp, Nat.zero_add]

theorem Fault.mem_all (f : Fault) : f ∈ Fault.all := by
  cases f <;> decide

theorem Fault.nodup_all : Fault.all.Nodup := by
  decide

theorem Fault.pairwise_rank : Fault.all.Pairwise fun f g => f.rank < g.rank := by
  decide

namespace Summary

variable {cases more : List CaseReport} {f g : Fault} {n : Nat} {count : Fault → Nat}
  {kinds : List Fault} {faults : List (Fault × Nat)}

/-- How many cases failed with a fault of this kind. -/
def countFault (cases : List CaseReport) (f : Fault) : Nat :=
  cases.countP fun c => !c.passed && c.verdict.fault = some f

/-- Those of the kinds that occur, each with its number. -/
def occurring (count : Fault → Nat) (kinds : List Fault) : List (Fault × Nat) :=
  (kinds.map fun f => (f, count f)).filter (·.2 ≠ 0)

theorem occurring_cons (count : Fault → Nat) (f : Fault) (kinds : List Fault) :
    occurring count (f :: kinds) =
      if count f = 0 then occurring count kinds else (f, count f) :: occurring count kinds := by
  by_cases h : count f = 0 <;> simp [occurring, h]

theorem mem_occurring : (f, n) ∈ occurring count kinds ↔ f ∈ kinds ∧ count f = n ∧ n ≠ 0 := by
  simp only [occurring, List.mem_filter, List.mem_map, Prod.mk.injEq, decide_eq_true_eq]
  constructor
  · rintro ⟨⟨_, hk, rfl, rfl⟩, hn⟩
    exact ⟨hk, rfl, hn⟩
  · rintro ⟨hk, rfl, hn⟩
    exact ⟨⟨f, hk, rfl, rfl⟩, hn⟩

theorem nodup_occurring (count : Fault → Nat) (h : kinds.Nodup) :
    ((occurring count kinds).map (·.1)).Nodup := by
  have hsub : ((occurring count kinds).map (·.1)).Sublist
      ((kinds.map fun f => (f, count f)).map (·.1)) :=
    List.filter_sublist.map _
  rw [List.map_map, Function.comp_def, List.map_id'] at hsub
  exact hsub.nodup h

theorem occurring_congr {count' : Fault → Nat} (h : ∀ f ∈ kinds, count f = count' f) :
    occurring count kinds = occurring count' kinds := by
  rw [occurring, occurring, List.map_congr_left fun f hf => by rw [h f hf]]

/-! ### The kinds of failure, as they are counted -/

/-- Where only later kinds occur, the kind is put before them. -/
theorem increment_of_lt (h : ∀ x ∈ faults, f.rank < x.1.rank) :
    increment f faults = (f, 1) :: faults := by
  cases faults with
  | nil => rfl
  | cons x rest =>
    obtain ⟨g, n⟩ := x
    have hlt : f.rank < g.rank := h (g, n) List.mem_cons_self
    have hne : f ≠ g := fun he => Nat.lt_irrefl _ (he ▸ hlt)
    rw [increment, if_neg hne, if_pos hlt]

/-- The list of kinds is kept as the one of all kinds that occur. -/
theorem increment_occurring (ho : kinds.Pairwise fun f g => f.rank < g.rank) (hf : f ∈ kinds) :
    increment f (occurring count kinds) =
      occurring (fun g => if g = f then count g + 1 else count g) kinds := by
  induction kinds with
  | nil => cases hf
  | cons k rest ih =>
    obtain ⟨hk, hrest⟩ := List.pairwise_cons.mp ho
    rw [occurring_cons, occurring_cons]
    by_cases hkf : k = f
    · subst hkf
      have hlater : ∀ x ∈ occurring count rest, k.rank < x.1.rank := fun x hx =>
        hk x.1 (mem_occurring.mp hx).1
      have hsame : occurring (fun g => if g = k then count g + 1 else count g) rest =
          occurring count rest :=
        occurring_congr fun g hg => if_neg fun he => Nat.lt_irrefl _ (he ▸ hk g hg)
      rw [hsame, if_pos rfl, if_neg (Nat.succ_ne_zero _)]
      by_cases hz : count k = 0
      · rw [if_pos hz, hz, increment_of_lt hlater]
      · rw [if_neg hz, increment, if_pos rfl]
    · have hf' : f ∈ rest := (List.mem_cons.mp hf).resolve_left (Ne.symm hkf)
      have hle : ¬ f.rank < k.rank := Nat.not_lt_of_lt (hk f hf')
      rw [if_neg hkf]
      by_cases hz : count k = 0
      · rw [if_pos hz, if_pos hz, ih hrest hf']
      · rw [if_neg hz, if_neg hz, increment, if_neg (Ne.symm hkf), if_neg hle, ih hrest hf']

/-- What is counted of these cases, all at once. -/
def counted (cases : List CaseReport) : Summary where
  total := cases.length
  passed := cases.countP (·.passed)
  failed := cases.countP (!·.passed)
  faults := occurring (countFault cases) Fault.all

theorem record_counted (cases : List CaseReport) (c : CaseReport) :
    (counted cases).record c = counted (cases ++ [c]) := by
  have hkinds : ∀ f, countFault (cases ++ [c]) f =
      countFault cases f + if c.passed = false ∧ c.verdict.fault = some f then 1 else 0 := by
    intro f
    rw [countFault, List.countP_append, List.countP_singleton, countFault]
    simp
  cases hp : c.passed with
  | true =>
    have hfaults : occurring (countFault (cases ++ [c])) Fault.all =
        occurring (countFault cases) Fault.all :=
      occurring_congr fun f _ => by simp [hkinds, hp]
    simp [record, counted, hp, hfaults, List.countP_append]
  | false =>
    cases hv : c.verdict.fault with
    | none =>
      have hfaults : occurring (countFault (cases ++ [c])) Fault.all =
          occurring (countFault cases) Fault.all :=
        occurring_congr fun f _ => by simp [hkinds, hv]
      simp [record, counted, hp, hv, hfaults, List.countP_append]
    | some f =>
      have hfaults : occurring (countFault (cases ++ [c])) Fault.all =
          increment f (occurring (countFault cases) Fault.all) := by
        rw [increment_occurring Fault.pairwise_rank f.mem_all]
        refine occurring_congr fun g _ => ?_
        by_cases hg : g = f
        · simp [hkinds, hp, hv, hg]
        · simp [hkinds, hp, hv, hg, Ne.symm hg]
      simp [record, counted, hp, hv, hfaults, List.countP_append]

theorem foldl_record (cases more : List CaseReport) :
    more.foldl record (counted cases) = counted (cases ++ more) := by
  induction more generalizing cases with
  | nil => simp
  | cons c rest ih =>
    rw [List.foldl_cons, record_counted, ih, List.append_assoc, List.singleton_append]

/-- Counting case by case is counting all at once. -/
theorem ofCases_eq (cases : List CaseReport) : ofCases cases = counted cases := by
  have hnone : counted [] = {} := by decide
  rw [ofCases, ← hnone, foldl_record, List.nil_append]

/-! ### What follows for the counts -/

/-- How often a kind of failure occurs. -/
def faultCount (s : Summary) (f : Fault) : Nat := (s.faults.lookup f).getD 0

def faultTotal (s : Summary) : Nat := (s.faults.map (·.2)).sum

/-- The sum of two summaries, number by number. -/
def add (s t : Summary) : Summary where
  total := s.total + t.total
  passed := s.passed + t.passed
  failed := s.failed + t.failed
  faults := occurring (fun f => s.faultCount f + t.faultCount f) Fault.all

/-- What a summary says of the cases. -/
structure Accounts (cases : List CaseReport) (s : Summary) : Prop where
  total : s.total = cases.length
  passed : s.passed = cases.countP (·.passed)
  failed : s.failed = cases.countP (!·.passed)
  all : s.passed + s.failed = s.total
  kinds : (s.faults.map (·.1)).Nodup
  faults : ∀ f n, (f, n) ∈ s.faults ↔ countFault cases f = n ∧ 0 < n
  faultTotal : s.faultTotal ≤ s.failed

theorem lookup_occurring (count : Fault → Nat) (kinds : List Fault) (f : Fault) :
    ((occurring count kinds).lookup f).getD 0 = if f ∈ kinds then count f else 0 := by
  induction kinds with
  | nil => rfl
  | cons k rest ih =>
    rw [occurring_cons]
    by_cases hf : f = k
    · subst hf
      by_cases hz : count f = 0
      · rw [if_pos hz, ih, hz, ite_self, ite_self]
      · rw [if_neg hz, Pairs.lookup_cons, if_pos rfl, if_pos List.mem_cons_self]
        rfl
    · have hmem : f ∈ k :: rest ↔ f ∈ rest := by simp [hf]
      simp only [hmem]
      split
      · exact ih
      · rw [Pairs.lookup_cons, if_neg hf, ih]

theorem faultCount_ofCases (cases : List CaseReport) (f : Fault) :
    (ofCases cases).faultCount f = countFault cases f := by
  rw [ofCases_eq, faultCount, counted, lookup_occurring, if_pos f.mem_all]

theorem sum_occurring (count : Fault → Nat) (kinds : List Fault) :
    ((occurring count kinds).map (·.2)).sum = (kinds.map count).sum := by
  rw [occurring, sum_map_filter fun x _ hx => by simpa using hx, List.map_map, Function.comp_def]

/-- Failures without a kind are not among those that are counted by kind. -/
theorem faultTotal_ofCases (cases : List CaseReport) : (ofCases cases).faultTotal =
    cases.countP fun c => !c.passed && c.verdict.fault.isSome := by
  rw [ofCases_eq, faultTotal, counted, sum_occurring]
  have hsum := sum_countP_keys (fun c : CaseReport => !c.passed) (·.verdict.fault) cases
    Fault.nodup_all
  refine hsum.trans (List.countP_congr fun c _ => ?_)
  cases c.verdict.fault <;> simp [Fault.mem_all]

theorem accounts_ofCases (cases : List CaseReport) : Accounts cases (ofCases cases) where
  total := by rw [ofCases_eq, counted]
  passed := by rw [ofCases_eq, counted]
  failed := by rw [ofCases_eq, counted]
  all := by
    rw [ofCases_eq, counted, List.length_eq_countP_add_countP (fun c : CaseReport => c.passed)]
    simp
  kinds := by
    rw [ofCases_eq]
    exact nodup_occurring _ Fault.nodup_all
  faults f n := by
    rw [ofCases_eq, counted, mem_occurring, Nat.pos_iff_ne_zero]
    exact and_iff_right f.mem_all
  faultTotal := by
    rw [faultTotal_ofCases, ofCases_eq, counted]
    exact List.countP_mono_left fun c _ h => (Bool.and_eq_true_iff.mp h).1

theorem ofCases_perm (h : cases.Perm more) : ofCases cases = ofCases more := by
  have hkinds : countFault cases = countFault more := funext fun f => h.countP_eq _
  rw [ofCases_eq, ofCases_eq, counted, counted, h.length_eq, h.countP_eq, h.countP_eq, hkinds]

theorem ofCases_append (cases more : List CaseReport) :
    ofCases (cases ++ more) = (ofCases cases).add (ofCases more) := by
  have hkinds : countFault (cases ++ more) = fun f =>
      (ofCases cases).faultCount f + (ofCases more).faultCount f := by
    funext f
    rw [faultCount_ofCases, faultCount_ofCases, countFault, List.countP_append]
    rfl
  rw [ofCases_eq (cases ++ more), counted, hkinds, add, ofCases_eq, ofCases_eq, counted, counted,
    List.length_append, List.countP_append, List.countP_append]

end Summary

end Conformance
