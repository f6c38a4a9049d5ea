import Mathlib.Data.List.Induction
import Mathlib.Data.List.Nodup
import Mathlib.Data.Prod.Lex
import ThermalSimd.Greatest

/-!
# Choosing a temperature sensor

The scan that keeps the best temperature input found so far, and whether it is trusted. Enumeration
order decides only between sensors that tie, and ties are noticed.
-/

namespace ThermalSimd
namespace Sensors

open Greatest

def tempMinMillic : ℤ := -50000

def tempMaxMillic : ℤ := 150000

def pathSize : ℕ := 256

def copyPath (destSize : ℕ) (path : List Char) : List Char × Bool :=
  (path.take (destSize - 1), path.length < destSize)

/-- A temperature input that was found. -/
structure Candidate where
  path : List Char
  score : ℤ
  explicitPackageMatch : Bool
  reading : Option ℤ
  deriving DecidableEq

/-- `temp_candidate_state_t`. -/
structure TempCandidateState where
  path : List Char
  score : ℤ
  explicitPackageMatch : Bool
  ambiguous : Bool
  deriving DecidableEq

namespace TempCandidateState

def initial : TempCandidateState := ⟨[], -1, false, false⟩

/-- A path that does not fit overwrites the path but not the score. -/
def considerTempCandidate (best : TempCandidateState) (candidate : Candidate) :
    TempCandidateState :=
  match candidate.reading with
  | none => best
  | some value =>
    if value < tempMinMillic ∨ tempMaxMillic < value then best
    else if best.score < candidate.score ∨ candidate.score = best.score ∧
        best.explicitPackageMatch < candidate.explicitPackageMatch then
      let (path, fits) := copyPath pathSize candidate.path
      if fits then ⟨path, candidate.score, candidate.explicitPackageMatch, false⟩
      else { best with path }
    else if candidate.score = best.score ∧
        candidate.explicitPackageMatch = best.explicitPackageMatch ∧
        best.path ≠ [] ∧ candidate.path ≠ best.path then
      { best with ambiguous := true }
    else best

def scan (candidates : List Candidate) : TempCandidateState :=
  candidates.foldl considerTempCandidate initial

def select (best : TempCandidateState) (packageId : ℤ) (packageCount : ℕ) : Option (List Char) :=
  if best.score < 0 ∨ best.path = [] then none
  else if 1 < packageCount ∧ (packageId < 0 ∨ best.explicitPackageMatch = false) then none
  else if 0 ≤ packageId ∧ best.ambiguous = true ∧ best.explicitPackageMatch = false then none
  else
    let (path, fits) := copyPath pathSize best.path
    if fits then some path else none

end TempCandidateState

abbrev Rank : Type := ℤ ×ₗ Bool

namespace Candidate

def rank (candidate : Candidate) : Rank :=
  toLex (candidate.score, candidate.explicitPackageMatch)

/-- The path is not empty and fits its buffer. -/
structure Fits (candidate : Candidate) : Prop where
  named : candidate.path ≠ []
  fits : candidate.path.length < pathSize

def Plausible (candidate : Candidate) : Prop :=
  ∃ value ∈ candidate.reading, tempMinMillic ≤ value ∧ value ≤ tempMaxMillic

/-- A plausible candidate whose path fits. -/
structure Readable (candidate : Candidate) : Prop extends candidate.Fits where
  isPlausible : candidate.Plausible

end Candidate

namespace TempCandidateState

variable {candidate : Candidate} {candidates : List Candidate} (best : TempCandidateState)

def rank : Rank := toLex (best.score, best.explicitPackageMatch)

private def leader : Leader Rank (List Char) where
  rank := best.rank
  holder := if best.path = [] then none else some best.path
  contested := best.ambiguous

theorem holder_leader_eq_some {path} :
    best.leader.holder = some path ↔ best.path = path ∧ path ≠ [] := by
  unfold leader
  by_cases empty : best.path = []
  · rw [if_pos empty]
    constructor
    · rintro ⟨⟩
    · rintro ⟨rfl, named⟩
      exact absurd empty named
  · rw [if_neg empty, Option.some_inj]
    constructor
    · rintro rfl
      exact ⟨rfl, empty⟩
    · exact And.left

theorem isSome_holder_leader : best.leader.holder.isSome ↔ best.path ≠ [] := by
  unfold leader
  by_cases empty : best.path = [] <;> simp [empty]

theorem rank_lt_iff (candidate : Candidate) :
    best.rank < candidate.rank ↔ best.score < candidate.score ∨ candidate.score = best.score ∧
      best.explicitPackageMatch < candidate.explicitPackageMatch := by
  unfold rank Candidate.rank
  rw [Prod.Lex.toLex_lt_toLex, @eq_comm _ best.score]

theorem rank_eq_iff (candidate : Candidate) :
    candidate.rank = best.rank ↔ candidate.score = best.score ∧
      candidate.explicitPackageMatch = best.explicitPackageMatch := by
  unfold rank Candidate.rank
  rw [toLex_inj, Prod.mk.injEq]

theorem considerTempCandidate_of_unlikely
    (unlikely : ¬ candidate.Plausible) : best.considerTempCandidate candidate = best := by
  unfold considerTempCandidate
  cases read : candidate.reading with
  | none => rfl
  | some v =>
    refine if_pos ?_
    by_contra inside
    obtain ⟨low, high⟩ := not_or.mp inside
    exact unlikely ⟨v, read, not_lt.mp low, not_lt.mp high⟩

theorem leader_considerTempCandidate (readable : candidate.Readable) :
    (best.considerTempCandidate candidate).leader =
      best.leader.consider candidate.rank candidate.path := by
  obtain ⟨⟨named, fits⟩, v, read, low, high⟩ := readable
  have whole := List.take_of_length_le (Nat.le_sub_one_of_lt fits)
  have likely := not_or.mpr ⟨low.not_gt, high.not_gt⟩
  rw [considerTempCandidate, read]
  simp only [if_neg likely, copyPath, decide_eq_true fits, whole, if_true]
  unfold Leader.consider
  by_cases better : best.rank < candidate.rank
  · rw [if_pos ((rank_lt_iff best candidate).mp better),
      if_pos (show best.leader.rank < _ from better)]
    simp only [leader, rank, Candidate.rank, if_neg named]
  · rw [if_neg (mt (rank_lt_iff best candidate).mpr better),
      if_neg (show ¬ best.leader.rank < _ from better)]
    by_cases ties : candidate.score = best.score ∧
        candidate.explicitPackageMatch = best.explicitPackageMatch ∧
        best.path ≠ [] ∧ candidate.path ≠ best.path
    · obtain ⟨score, match_, held, different⟩ := ties
      rw [if_pos ⟨score, match_, held, different⟩, if_pos]
      · rfl
      · refine ⟨(rank_eq_iff best candidate).mpr ⟨score, match_⟩,
          (isSome_holder_leader best).mpr held, fun own => ?_⟩
        exact different ((holder_leader_eq_some best).mp own).1.symm
    · rw [if_neg ties, if_neg]
      rintro ⟨rank, held, other⟩
      obtain ⟨score, match_⟩ := (rank_eq_iff best candidate).mp rank
      have held := (isSome_holder_leader best).mp held
      refine ties ⟨score, match_, held, fun same => other ?_⟩
      exact (holder_leader_eq_some best).mpr ⟨same.symm, named⟩

variable {best}

private def ranked (candidates : List Candidate) : Set (Rank × List Char) :=
  {entry | ∃ candidate ∈ candidates, candidate.Plausible ∧ entry = (candidate.rank, candidate.path)}

theorem mem_ranked_append_singleton {entry} :
    entry ∈ ranked (candidates ++ [candidate]) ↔
      (candidate.Plausible ∧ entry = (candidate.rank, candidate.path)) ∨
        entry ∈ ranked candidates := by
  constructor
  · rintro ⟨other, mem, likely, rfl⟩
    rcases List.mem_append.mp mem with mem | mem
    · exact .inr ⟨other, mem, likely, rfl⟩
    · cases List.mem_singleton.mp mem
      exact .inl ⟨likely, rfl⟩
  · rintro (⟨likely, rfl⟩ | ⟨other, mem, likely, rfl⟩)
    · exact ⟨candidate, List.mem_append_right _ (List.mem_singleton_self _), likely, rfl⟩
    · exact ⟨other, List.mem_append_left _ mem, likely, rfl⟩

theorem scan_append_singleton (candidates candidate) :
    scan (candidates ++ [candidate]) = (scan candidates).considerTempCandidate candidate :=
  List.foldl_append

theorem leads_scan (fits : ∀ candidate ∈ candidates, candidate.Fits) :
    Leader.Leads initial.rank (ranked candidates) (scan candidates).leader := by
  induction candidates using List.reverseRecOn with
  | nil =>
    have unranked : ranked [] = ∅ :=
      Set.eq_empty_of_forall_notMem fun _ ⟨_, absent, _⟩ => List.not_mem_nil absent
    rw [unranked]
    exact Leader.leads_empty initial.rank
  | append_singleton candidates candidate ih =>
    have old := ih fun other mem => fits other (List.mem_append_left _ mem)
    have own := fits candidate (List.mem_append_right _ (List.mem_singleton_self _))
    rw [scan_append_singleton]
    by_cases likely : candidate.Plausible
    · have seen : ranked (candidates ++ [candidate]) =
          insert (candidate.rank, candidate.path) (ranked candidates) := by
        ext entry
        rw [mem_ranked_append_singleton, Set.mem_insert_iff, and_iff_right likely]
      rw [seen, leader_considerTempCandidate _ ⟨own, likely⟩]
      exact old.consider candidate.rank candidate.path
    · have seen : ranked (candidates ++ [candidate]) = ranked candidates := by
        ext entry
        rw [mem_ranked_append_singleton]
        exact or_iff_right fun own => likely own.1
      rw [seen, considerTempCandidate_of_unlikely _ likely]
      exact old

theorem length_path_considerTempCandidate (short : best.path.length < pathSize)
    (candidate) : (best.considerTempCandidate candidate).path.length < pathSize := by
  have cut : (copyPath pathSize candidate.path).1.length < pathSize :=
    (List.length_take_le _ _).trans_lt (Nat.lt_succ_self _)
  unfold considerTempCandidate
  split
  · exact short
  · split_ifs
    · exact short
    · dsimp only
      split
      · exact cut
      · exact cut
    · exact short
    · exact short

theorem length_path_scan (candidates) : (scan candidates).path.length < pathSize := by
  induction candidates using List.reverseRecOn with
  | nil => exact Nat.zero_lt_succ _
  | append_singleton candidates candidate ih =>
    rw [scan_append_singleton]
    exact length_path_considerTempCandidate ih candidate

theorem path_eq_of_holder_eq {first second : TempCandidateState}
    (same : first.leader.holder = second.leader.holder) : first.path = second.path := by
  by_cases empty : first.path = []
  · have pathless : ¬ second.path ≠ [] := by
      rw [← isSome_holder_leader, ← same, isSome_holder_leader]
      exact not_not_intro empty
    rw [empty, not_not.mp pathless]
  · have held := (holder_leader_eq_some first).mpr ⟨rfl, empty⟩
    exact ((holder_leader_eq_some second).mp (same ▸ held)).1.symm

theorem considerTempCandidate_of_lt (best : TempCandidateState) (readable : candidate.Readable)
    (better : best.rank < candidate.rank) :
    (best.considerTempCandidate candidate).path = candidate.path ∧
      (best.considerTempCandidate candidate).rank = candidate.rank := by
  have step := leader_considerTempCandidate best readable
  rw [Leader.consider, if_pos (show best.leader.rank < _ from better)] at step
  have holder := congrArg Leader.holder step
  exact ⟨((holder_leader_eq_some _).mp holder).1, congrArg Leader.rank step⟩

theorem considerTempCandidate_of_le (best : TempCandidateState) (fits : candidate.Fits)
    (worse : candidate.Plausible → candidate.rank ≤ best.rank) :
    (best.considerTempCandidate candidate).path = best.path ∧
      (best.considerTempCandidate candidate).rank = best.rank := by
  by_cases likely : candidate.Plausible
  · have step := leader_considerTempCandidate best ⟨fits, likely⟩
    have notBetter : ¬ best.leader.rank < candidate.rank := (worse likely).not_gt
    rw [Leader.consider, if_neg notBetter] at step
    have same : (best.considerTempCandidate candidate).leader.holder = best.leader.holder ∧
        (best.considerTempCandidate candidate).leader.rank = best.leader.rank := by
      rw [step]
      split <;> exact ⟨rfl, rfl⟩
    exact ⟨path_eq_of_holder_eq same.1, same.2⟩
  · rw [considerTempCandidate_of_unlikely _ likely]
    exact ⟨rfl, rfl⟩

/-- The candidate is plausible, and the first of those of the greatest rank. -/
structure Decides (before : List Candidate) (candidate : Candidate) (after : List Candidate) :
    Prop where
  isPlausible : candidate.Plausible
  before : ∀ other ∈ before, other.Plausible → other.rank < candidate.rank
  after : ∀ other ∈ after, other.Plausible → other.rank ≤ candidate.rank

theorem scan_of_decides {before after} (fits : ∀ other ∈ before ++ candidate :: after, other.Fits)
    (above : initial.rank < candidate.rank) (decides : Decides before candidate after) :
    (scan (before ++ candidate :: after)).path = candidate.path ∧
      (scan (before ++ candidate :: after)).rank = candidate.rank := by
  induction after using List.reverseRecOn with
  | nil =>
    obtain ⟨ahead, own⟩ := List.forall_mem_append.mp fits
    have better : (scan before).rank < candidate.rank := by
      rcases (leads_scan ahead).greatest.1 with floor | ⟨_, ⟨other, mem, likely, rfl⟩, same⟩
      · exact floor.trans_lt above
      · exact same.symm.trans_lt (decides.before other mem likely)
    rw [scan_append_singleton]
    exact considerTempCandidate_of_lt _ ⟨own _ List.mem_cons_self, decides.isPlausible⟩ better
  | append_singleton after last ih =>
    obtain ⟨behind, lastly⟩ := List.forall_mem_append.mp decides.after
    have rejoin : before ++ candidate :: (after ++ [last]) =
        (before ++ candidate :: after) ++ [last] := by simp
    rw [rejoin] at fits ⊢
    obtain ⟨ahead, own⟩ := List.forall_mem_append.mp fits
    obtain ⟨path, rank⟩ := ih ahead ⟨decides.isPlausible, decides.before, behind⟩
    have kept := considerTempCandidate_of_le (scan (before ++ candidate :: after))
      (own last List.mem_cons_self)
      fun likely => rank ▸ lastly last List.mem_cons_self likely
    rw [scan_append_singleton]
    exact ⟨kept.1.trans path, kept.2.trans rank⟩

theorem exists_decides (fits : ∀ candidate ∈ candidates, candidate.Fits)
    (holds : (scan candidates).path ≠ []) :
    ∃ before candidate after, candidates = before ++ candidate :: after ∧
      Decides before candidate after ∧ (scan candidates).path = candidate.path ∧
      (scan candidates).rank = candidate.rank := by
  induction candidates using List.reverseRecOn with
  | nil => exact absurd rfl holds
  | append_singleton candidates last ih =>
    obtain ⟨ahead, own⟩ := List.forall_mem_append.mp fits
    have lastFits := own last List.mem_cons_self
    rw [scan_append_singleton] at holds ⊢
    by_cases better : last.Plausible ∧ (scan candidates).rank < last.rank
    · obtain ⟨likely, better⟩ := better
      obtain ⟨path, rank⟩ := considerTempCandidate_of_lt _ ⟨lastFits, likely⟩ better
      refine ⟨candidates, last, [], rfl, ⟨likely, fun other mem isPlausible => ?_, ?_⟩,
        path, rank⟩
      · exact ((leads_scan ahead).le ⟨other, mem, isPlausible, rfl⟩).trans_lt better
      · exact fun other mem => absurd mem List.not_mem_nil
    · have worse (likely) : last.rank ≤ (scan candidates).rank :=
        not_lt.mp fun above => better ⟨likely, above⟩
      obtain ⟨path, rank⟩ := considerTempCandidate_of_le _ lastFits worse
      rw [path] at holds
      obtain ⟨before, candidate, after, rfl, decides, held, same⟩ := ih ahead holds
      refine ⟨before, candidate, after ++ [last], by simp,
        ⟨decides.isPlausible, decides.before, ?_⟩,
        path.trans held, rank.trans same⟩
      refine List.forall_mem_append.mpr ⟨decides.after, fun other mem likely => ?_⟩
      cases List.mem_singleton.mp mem
      exact same ▸ worse likely

theorem isSome_select (short : best.path.length < pathSize) (packageId packageCount) :
    (best.select packageId packageCount).isSome ↔
      (0 ≤ best.score ∧ best.path ≠ []) ∧
      ¬ (1 < packageCount ∧ (packageId < 0 ∨ best.explicitPackageMatch = false)) ∧
      ¬ (0 ≤ packageId ∧ best.ambiguous = true ∧ best.explicitPackageMatch = false) := by
  unfold select copyPath
  simp only [decide_eq_true short, if_true]
  split_ifs with unfound unnamed tied
  · refine iff_of_false Bool.false_ne_true fun trusted => ?_
    exact unfound.elim trusted.1.1.not_gt trusted.1.2
  · exact iff_of_false Bool.false_ne_true fun trusted => trusted.2.1 unnamed
  · exact iff_of_false Bool.false_ne_true fun trusted => trusted.2.2 tied
  · refine iff_of_true rfl ⟨?_, unnamed, tied⟩
    exact ⟨not_lt.mp fun negative => unfound (.inl negative), fun empty => unfound (.inr empty)⟩

theorem select_eq_some (short : best.path.length < pathSize) {packageId packageCount path}
    (selected : best.select packageId packageCount = some path) :
    path = best.path := by
  unfold select copyPath at selected
  simp only [decide_eq_true short, if_true] at selected
  split_ifs at selected
  rw [List.take_of_length_le (Nat.le_sub_one_of_lt short)] at selected
  exact (Option.some.inj selected).symm

/-- The greatest rank over the initial one, and whether two candidates have it. -/
structure Found (candidates : List Candidate) (best : TempCandidateState) : Prop where
  greatest :
    IsGreatest (insert initial.rank {rank | ∃ candidate ∈ candidates, candidate.rank = rank})
    best.rank
  ambiguous : best.ambiguous = true ↔ initial.rank < best.rank ∧
    ∃ first ∈ candidates, ∃ second ∈ candidates,
      first ≠ second ∧ first.rank = best.rank ∧ second.rank = best.rank

theorem found_scan (readable : ∀ candidate ∈ candidates, candidate.Readable)
    (distinct : (candidates.map Candidate.path).Nodup) : Found candidates (scan candidates) := by
  have leads := leads_scan fun candidate mem => (readable candidate mem).toFits
  have ranks : Prod.fst '' ranked candidates =
      {rank | ∃ candidate ∈ candidates, candidate.rank = rank} := by
    ext rank
    constructor
    · rintro ⟨_, ⟨candidate, mem, _, rfl⟩, rfl⟩
      exact ⟨candidate, mem, rfl⟩
    · rintro ⟨candidate, mem, rfl⟩
      exact ⟨_, ⟨candidate, mem, (readable candidate mem).isPlausible, rfl⟩, rfl⟩
  refine ⟨ranks ▸ leads.greatest, leads.contested.trans (and_congr_right fun _ => ?_)⟩
  -- Distinct paths make two paths at the lead two candidates, and conversely.
  constructor
  · rintro ⟨_, _, different, ⟨first, left, _, leftEq⟩, ⟨second, right, _, rightEq⟩⟩
    obtain ⟨leftRank, rfl⟩ := Prod.mk.inj leftEq
    obtain ⟨rightRank, rfl⟩ := Prod.mk.inj rightEq
    exact ⟨first, left, second, right, fun same => different (congrArg _ same),
      leftRank.symm, rightRank.symm⟩
  · rintro ⟨first, left, second, right, different, leftRank, rightRank⟩
    refine ⟨first.path, second.path, ?_, ⟨first, left, (readable first left).isPlausible, ?_⟩,
      ⟨second, right, (readable second right).isPlausible, ?_⟩⟩
    · exact fun same => different (List.inj_on_of_nodup_map distinct left right same)
    · exact Prod.ext leftRank.symm rfl
    · exact Prod.ext rightRank.symm rfl

theorem ranked_perm {candidates order} (permuted : candidates.Perm order) :
    ranked candidates = ranked order := by
  ext entry
  constructor
  · rintro ⟨candidate, mem, same⟩
    exact ⟨candidate, permuted.mem_iff.mp mem, same⟩
  · rintro ⟨candidate, mem, same⟩
    exact ⟨candidate, permuted.mem_iff.mpr mem, same⟩

theorem scan_perm {candidates order}
    (fits : ∀ candidate ∈ candidates, candidate.Fits) (permuted : candidates.Perm order) :
    (scan order).rank = (scan candidates).rank ∧
      (scan order).ambiguous = (scan candidates).ambiguous ∧
      ((scan order).path ≠ [] ↔ (scan candidates).path ≠ []) ∧
      ((scan candidates).ambiguous = false → (scan order).path = (scan candidates).path) := by
  have leads := leads_scan fits
  have again := leads_scan fun candidate mem => fits candidate (permuted.mem_iff.mpr mem)
  rw [← ranked_perm permuted] at again
  obtain ⟨rank, contested, held, holder⟩ := leads.unique again
  refine ⟨rank.symm, contested.symm, ?_, fun clear => (path_eq_of_holder_eq (holder clear)).symm⟩
  rw [← isSome_holder_leader, ← isSome_holder_leader, held]

/-- The order of enumeration affects neither what is found out about sensors, nor whether one is
selected, nor, without a tie, which. -/
theorem sensor_choice_order_independent {candidates : List Candidate}
    (readable : ∀ candidate ∈ candidates, candidate.Readable)
    (distinct : (candidates.map Candidate.path).Nodup) :
    ∀ order, candidates.Perm order →
      Found candidates (scan order) ∧
      ∀ packageId packageCount,
        ((scan order).select packageId packageCount).isSome =
          ((scan candidates).select packageId packageCount).isSome ∧
        ((scan candidates).ambiguous = false →
          (scan order).select packageId packageCount =
            (scan candidates).select packageId packageCount) := by
  intro order permuted
  obtain ⟨rank, ambiguous, held, path⟩ :=
    scan_perm (fun candidate member => (readable candidate member).toFits) permuted
  obtain ⟨score, explicit⟩ := Prod.mk.inj (toLex_inj.mp rank)
  refine ⟨?_, fun packageId packageCount => ⟨?_, fun clear => ?_⟩⟩
  · obtain ⟨greatest, tie⟩ := found_scan readable distinct
    exact ⟨rank.symm ▸ greatest, by rw [ambiguous, rank]; exact tie⟩
  · rw [Bool.eq_iff_iff, isSome_select (length_path_scan order),
      isSome_select (length_path_scan candidates), score, explicit, ambiguous, held]
  · unfold select
    rw [score, explicit, ambiguous, path clear]

def tiedCandidates : List Candidate :=
  [⟨['a'], 200, false, some 40000⟩, ⟨['b'], 260, true, some 45000⟩, ⟨['c'], 260, true, some 50000⟩]

theorem tied_sensors_found : Found tiedCandidates (scan tiedCandidates.reverse) := by
  refine (sensor_choice_order_independent ?_ ?_ _ tiedCandidates.reverse_perm.symm).1
  · rw [tiedCandidates, List.forall_mem_cons, List.forall_mem_cons, List.forall_mem_singleton]
    refine ⟨?_, ?_, ?_⟩ <;> exact ⟨⟨by decide, by decide⟩, _, rfl, by decide, by decide⟩
  · decide

/-- A candidate below the initial score leaves no trace. -/
theorem negative_score_ignored :
    let candidate : Candidate := ⟨['a'], -2, true, some 40000⟩
    candidate.Readable ∧
      ¬ IsGreatest {rank | ∃ other ∈ [candidate], other.rank = rank} (scan [candidate]).rank := by
  refine ⟨⟨⟨by decide, by decide⟩, 40000, rfl, by decide, by decide⟩, fun greatest => ?_⟩
  obtain ⟨other, member, same⟩ := greatest.1
  cases List.mem_singleton.mp member
  revert same
  decide

end TempCandidateState
end Sensors
end ThermalSimd
