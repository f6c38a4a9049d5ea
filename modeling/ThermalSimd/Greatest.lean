import Mathlib.Order.Bounds.Basic

/-!
# Keeping the greatest

A scan that keeps an entry of greatest rank, and one that also notices whether that rank is shared.
What it holds does not depend on the order of the entries except where ranks are tied.
-/

namespace Greatest

variable {Entry Rank : Type*} [LinearOrder Rank]

/-- A seen entry of greatest rank is held, if any was seen. -/
structure Top (rank : Entry → Rank) (seen : Set Entry) (best : Option Entry) : Prop where
  mem : ∀ top ∈ best, top ∈ seen
  le : ∀ entry ∈ seen, ∃ top ∈ best, rank entry ≤ rank top

variable {rank : Entry → Rank} {seen : Set Entry} {best other : Option Entry} {entry : Entry}

theorem top_empty : Top rank ∅ none where
  mem := fun _ none => absurd none (Option.not_mem_none _)
  le := fun _ absent => absurd absent (Set.notMem_empty _)

section

variable (top : Top rank seen best)
include top

theorem Top.replace (le : ∀ held ∈ best, rank held ≤ rank entry) :
    Top rank (insert entry seen) (some entry) where
  mem := fun _ held => Set.mem_insert_iff.mpr (.inl (Option.some.inj held).symm)
  le := by
    rintro other (rfl | old)
    · exact ⟨other, rfl, le_rfl⟩
    · obtain ⟨held, kept, below⟩ := top.le other old
      exact ⟨entry, rfl, below.trans (le held kept)⟩

theorem Top.keep (le : ∃ held ∈ best, rank entry ≤ rank held) :
    Top rank (insert entry seen) best where
  mem := fun held kept => Set.mem_insert_of_mem _ (top.mem held kept)
  le := by
    rintro other (rfl | old)
    · exact le
    · exact top.le other old

theorem Top.isSome_iff : best.isSome ↔ seen.Nonempty := by
  constructor
  · intro held
    obtain ⟨entry, rfl⟩ := Option.isSome_iff_exists.mp held
    exact ⟨entry, top.mem entry rfl⟩
  · rintro ⟨entry, mem⟩
    obtain ⟨held, kept, -⟩ := top.le entry mem
    exact Option.isSome_of_mem kept

theorem Top.rank_eq (again : Top rank seen other) {first second}
    (left : first ∈ best) (right : second ∈ other) : rank first = rank second := by
  obtain ⟨_, kept, below⟩ := again.le first (top.mem first left)
  obtain ⟨_, kept', below'⟩ := top.le second (again.mem second right)
  cases Option.mem_unique kept right
  cases Option.mem_unique kept' left
  exact le_antisymm below below'

theorem Top.eq_of_untied (again : Top rank seen other)
    (untied : ∀ first ∈ best, ∀ second ∈ seen, rank first = rank second → first = second) :
    best = other := by
  cases best with
  | none =>
    refine (Option.eq_none_iff_forall_not_mem.mpr fun held kept => ?_).symm
    obtain ⟨_, empty, -⟩ := top.le held (again.mem held kept)
    exact Option.not_mem_none _ empty
  | some first =>
    obtain ⟨second, kept, -⟩ := again.le first (top.mem first rfl)
    have same := untied first rfl second (again.mem second kept) (top.rank_eq again rfl kept)
    rw [same]
    exact kept.symm

end

theorem top_foldl {step}
    (steps : ∀ best entry,
      (step best entry = some entry ∧ ∀ held ∈ best, rank held ≤ rank entry) ∨
      (step best entry = best ∧ ∃ held ∈ best, rank entry ≤ rank held))
    (entries : List Entry) : Top rank {entry | entry ∈ entries} (entries.foldl step none) := by
  -- The entries seen so far are generalised; each step adds one to them.
  suffices run : ∀ seen best, Top rank seen best →
      Top rank (seen ∪ {entry | entry ∈ entries}) (entries.foldl step best) by
    have start := run ∅ none top_empty
    rwa [Set.empty_union] at start
  induction entries with
  | nil =>
    intro seen best top
    have empty : {entry : Entry | entry ∈ ([] : List Entry)} = ∅ :=
      Set.eq_empty_of_forall_notMem fun _ => List.not_mem_nil
    rw [empty, Set.union_empty]
    exact top
  | cons entry entries ih =>
    intro seen best top
    have split : seen ∪ {other | other ∈ entry :: entries} =
        insert entry seen ∪ {other | other ∈ entries} := by
      ext other
      simp only [Set.mem_union, Set.mem_ofPred_eq, List.mem_cons, Set.mem_insert_iff]
      tauto
    rw [split, List.foldl_cons]
    refine ih _ _ ?_
    rcases steps best entry with ⟨taken, above⟩ | ⟨kept, below⟩
    · rw [taken]
      exact top.replace above
    · rw [kept]
      exact top.keep below

/-- The best rank so far, who holds it, and whether somebody else has it too. -/
structure Leader (Rank Name : Type*) where
  rank : Rank
  holder : Option Name
  contested : Bool

namespace Leader

variable {Name : Type*} [DecidableEq Name]

def consider (leader : Leader Rank Name) (rank : Rank) (name : Name) : Leader Rank Name :=
  if leader.rank < rank then ⟨rank, some name, false⟩
  else if rank = leader.rank ∧ leader.holder.isSome ∧ leader.holder ≠ some name then
    { leader with contested := true }
  else leader

/-- The leader has the greatest rank seen, and knows whether it is shared. -/
structure Leads (floor : Rank) (seen : Set (Rank × Name)) (leader : Leader Rank Name) : Prop where
  greatest : IsGreatest (insert floor (Prod.fst '' seen)) leader.rank
  above : ∀ name ∈ leader.holder, floor < leader.rank ∧ (leader.rank, name) ∈ seen
  held : floor < leader.rank → leader.holder.isSome
  contested : leader.contested = true ↔ floor < leader.rank ∧
    ∃ first second, first ≠ second ∧ (leader.rank, first) ∈ seen ∧ (leader.rank, second) ∈ seen

variable {floor : Rank} {seen : Set (Rank × Name)} {leader : Leader Rank Name}

omit [DecidableEq Name] in
theorem leads_empty (floor : Rank) :
    Leads floor (∅ : Set (Rank × Name)) ⟨floor, none, false⟩ where
  greatest := by simp
  above := fun _ none => absurd none (Option.not_mem_none _)
  held := fun above => absurd above (lt_irrefl _)
  contested := by simp

omit [DecidableEq Name] in
theorem Leads.le (leads : Leads floor seen leader) {rank : Rank} {name : Name}
    (mem : (rank, name) ∈ seen) : rank ≤ leader.rank :=
  leads.greatest.2 (Set.mem_insert_of_mem _ ⟨_, mem, rfl⟩)

theorem Leads.consider (leads : Leads floor seen leader) (rank name) :
    Leads floor (insert (rank, name) seen) (leader.consider rank name) := by
  have ranks : insert floor (Prod.fst '' insert (rank, name) seen) =
      insert rank (insert floor (Prod.fst '' seen)) := by
    rw [Set.image_insert_eq, Set.insert_comm]
  have greatest := leads.greatest.insert rank
  rw [← ranks] at greatest
  unfold Leader.consider
  split
  · rename_i better
    have above := (leads.greatest.2 (Set.mem_insert _ _)).trans_lt better
    rw [max_eq_left better.le] at greatest
    -- Nothing seen before had the new rank.
    have fresh : ∀ other, (rank, other) ∈ insert (rank, name) seen → other = name := by
      rintro other (same | old)
      · exact (Prod.mk.inj same).2
      · exact absurd (leads.le old) better.not_ge
    refine ⟨greatest, ?_, fun _ => rfl, ?_⟩
    · rintro holder ⟨⟩
      exact ⟨above, Set.mem_insert _ _⟩
    · refine ⟨fun wrong => (Bool.false_ne_true wrong).elim, ?_⟩
      rintro ⟨-, first, second, different, left, right⟩
      exact absurd ((fresh first left).trans (fresh second right).symm) different
  · rename_i notBetter
    rw [max_eq_right (not_lt.mp notBetter)] at greatest
    have mono : ∀ {entry}, entry ∈ seen → entry ∈ insert (rank, name) seen :=
      Set.mem_insert_of_mem _
    have still : ∀ holder ∈ leader.holder,
        floor < leader.rank ∧ (leader.rank, holder) ∈ insert (rank, name) seen :=
      fun holder mem => ⟨(leads.above holder mem).1, mono (leads.above holder mem).2⟩
    split
    · rename_i ties
      obtain ⟨rfl, holds, other⟩ := ties
      obtain ⟨holder, held⟩ := Option.isSome_iff_exists.mp holds
      have above := leads.above holder held
      refine ⟨greatest, still, leads.held, iff_of_true rfl ⟨above.1, holder, name, ?_, ?_, ?_⟩⟩
      · rintro rfl
        exact other held
      · exact mono above.2
      · exact Set.mem_insert _ _
    · rename_i unchanged
      refine ⟨greatest, still, leads.held, leads.contested.trans (and_congr_right fun above => ?_)⟩
      -- The name considered is either below the lead or the holder's own.
      have old : ∀ other, (leader.rank, other) ∈ insert (rank, name) seen →
          (leader.rank, other) ∈ seen := by
        rintro other (same | old)
        · obtain ⟨rankEq, rfl⟩ := Prod.mk.inj same
          have held := leads.held above
          have own : leader.holder = some other := by
            by_contra different
            exact unchanged ⟨rankEq.symm, held, different⟩
          exact (leads.above other own).2
        · exact old
      constructor
      · rintro ⟨first, second, different, left, right⟩
        exact ⟨first, second, different, mono left, mono right⟩
      · rintro ⟨first, second, different, left, right⟩
        exact ⟨first, second, different, old first left, old second right⟩

omit [DecidableEq Name] in
theorem Leads.unique {again : Leader Rank Name} (leads : Leads floor seen leader)
    (leads' : Leads floor seen again) :
    leader.rank = again.rank ∧ leader.contested = again.contested ∧
      leader.holder.isSome = again.holder.isSome ∧
      (leader.contested = false → leader.holder = again.holder) := by
  have rank : leader.rank = again.rank := leads.greatest.unique leads'.greatest
  have isSome {one : Leader Rank Name} (leads : Leads floor seen one) :
      one.holder.isSome ↔ floor < one.rank := by
    refine ⟨fun holds => ?_, leads.held⟩
    obtain ⟨holder, held⟩ := Option.isSome_iff_exists.mp holds
    exact (leads.above holder held).1
  have held : leader.holder.isSome = again.holder.isSome := by
    rw [Bool.eq_iff_iff, isSome leads, isSome leads', rank]
  refine ⟨rank, ?_, held, fun uncontested => ?_⟩
  · rw [Bool.eq_iff_iff, leads.contested, leads'.contested, rank]
  cases first : leader.holder with
  | none =>
    rw [first] at held
    exact (Option.isSome_eq_false_iff.mp held.symm |> Option.isNone_iff_eq_none.mp).symm
  | some holder =>
    rw [first] at held
    obtain ⟨holder', second⟩ := Option.isSome_iff_exists.mp held.symm
    rw [second]
    by_contra different
    have left := leads.above holder first
    have right := leads'.above holder' second
    rw [← rank] at right
    have contested : leader.contested = true :=
      leads.contested.mpr ⟨left.1, holder, holder', fun same => different (congrArg some same),
        left.2, right.2⟩
    rw [uncontested] at contested
    exact Bool.false_ne_true contested

end Leader

end Greatest
