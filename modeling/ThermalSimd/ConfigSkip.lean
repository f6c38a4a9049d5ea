import ThermalSimd.ConfigDocument

/-!
# Skipping a subtree

`json_skip` over the tokens of an accepted text ends, passes the descendants of its token and
nothing else, and stops at the first token that is none.
-/

namespace ThermalSimd.ConfigFile

open Jsmn

variable {tokens after : List Token} {index cursor last fuel base : ℕ} {items : Items}

mutual

/-- A run of `json_skip` that returns. -/
inductive Skips (tokens : List Token) : ℕ → ℕ → Prop
  | outside {index : ℕ} (ended : tokens[index]? = none) : Skips tokens index index
  | flat {index : ℕ} {token : Token} (found : tokens[index]? = some token)
      (flat : isFlat token = true) : Skips tokens index (index + 1)
  | container {index last : ℕ} {token : Token} (found : tokens[index]? = some token)
      (container : isFlat token = false) (inner : SkipsBelow tokens index (index + 1) last) :
      Skips tokens index last

/-- A run of its loop from `cursor` on. -/
inductive SkipsBelow (tokens : List Token) : ℕ → ℕ → ℕ → Prop
  | outside {index cursor : ℕ} (ended : tokens[cursor]? = none) :
      SkipsBelow tokens index cursor cursor
  | leaves {index cursor : ℕ} {token : Token} (found : tokens[cursor]? = some token)
      (outside : isBelow token index = false) : SkipsBelow tokens index cursor cursor
  | child {index cursor next last : ℕ} {token : Token} (found : tokens[cursor]? = some token)
      (inside : isBelow token index = true) (skips : Skips tokens cursor next)
      (rest : SkipsBelow tokens index next last) : SkipsBelow tokens index cursor last

end

/-- The tokens between two positions all stand below `index`. -/
structure Passes (tokens : List Token) (index start last : ℕ) : Prop where
  later : start ≤ last
  fits : last ≤ tokens.length
  below : ∀ position, start ≤ position → position < last →
    ∀ token ∈ tokens[position]?, isBelow token index = true

theorem isBelow_of_le {token} (le : index ≤ cursor) (below : isBelow token cursor = true) :
    isBelow token index = true := by
  unfold isBelow at below ⊢
  split at below
  · cases below
  · simp only [decide_eq_true_eq] at below ⊢
    omega

theorem skips_skipFrom (tokens fuel) :
    (∀ index < tokens.length, 2 * (tokens.length - index) ≤ fuel →
      Skips tokens index (skipFrom tokens fuel index) ∧
        Passes tokens index (index + 1) (skipFrom tokens fuel index)) ∧
    ∀ index cursor, index < cursor → cursor ≤ tokens.length →
      2 * (tokens.length - cursor) + 1 ≤ fuel →
      SkipsBelow tokens index cursor (skipLoop tokens index fuel cursor) ∧
        Passes tokens index cursor (skipLoop tokens index fuel cursor) ∧
        ∀ token ∈ tokens[skipLoop tokens index fuel cursor]?, isBelow token index = false := by
  induction fuel with
  | zero => exact ⟨fun index inside enough => by omega, fun index cursor _ _ enough => by omega⟩
  | succ fuel ih =>
    obtain ⟨single, loop⟩ := ih
    constructor
    · intro index inside enough
      have found := List.getElem?_eq_getElem inside
      rw [skipFrom, found]
      dsimp only
      split
      · next flat => exact ⟨.flat found flat, le_rfl, inside, fun position _ _ => by omega⟩
      · next container =>
        obtain ⟨run, passes, -⟩ := loop index (index + 1) (by omega) inside (by omega)
        exact ⟨.container found (by simpa using container) run, passes⟩
    · intro index cursor later inside enough
      rw [skipLoop]
      rcases Nat.lt_or_ge cursor tokens.length with inside | ended
      · have found := List.getElem?_eq_getElem inside
        rw [found]
        dsimp only
        split
        · next below =>
          obtain ⟨skips, passed⟩ := single cursor inside (by omega)
          have next := passed.later
          obtain ⟨run, passes, ends⟩ :=
            loop index (skipFrom tokens fuel cursor) (by omega) passed.fits (by omega)
          refine ⟨.child found below skips run,
            ⟨by have := passes.later; omega, passes.fits, ?_⟩, ends⟩
          intro position start stop token here
          -- A position is that of the child, inside the child, or behind it.
          rcases Nat.lt_or_ge position (skipFrom tokens fuel cursor) with early | late
          · rcases start.eq_or_lt with rfl | behind
            · rw [found] at here
              cases here
              exact below
            · exact isBelow_of_le later.le (passed.below position behind early token here)
          · exact passes.below position late stop token here
        · next outside =>
          refine ⟨.leaves found (by simpa using outside), ⟨le_rfl, inside.le, ?_⟩, ?_⟩
          · intro position start stop
            omega
          · intro token here
            rw [found] at here
            cases here
            simpa using outside
      · have absent : tokens[cursor]? = none := List.getElem?_eq_none ended
        rw [absent]
        dsimp only
        refine ⟨.outside absent, ⟨le_rfl, inside, ?_⟩, ?_⟩
        · intro position start stop
          omega
        · simp [absent]

def Descends (tokens : List Token) (index position : ℕ) : Prop :=
  Relation.TransGen (fun low high => parentOf tokens low = some high) position index

private def Linked (tokens : List Token) : Prop :=
  ∀ position parent, parentOf tokens position = some parent →
    parent < position ∧ ∃ token, tokens[parent]? = some token ∧ isFlat token = false

theorem parentOf_layout {parent position above}
    (laid : tokens.drop base = items.layout draw parent base ++ after)
    (opened : ∀ above ∈ parent,
      above < base ∧ ∃ token, tokens[above]? = some token ∧ isFlat token = false)
    (start : base ≤ position) (stop : position < base + items.size)
    (under : parentOf tokens position = some above) :
    above < position ∧ ∃ token, tokens[above]? = some token ∧ isFlat token = false := by
  induction items generalizing base parent after with
  | nil => simp only [Forest.size] at stop; omega
  | leaf span rest hrest =>
    obtain ⟨found, later⟩ := of_drop_eq_cons laid
    rcases start.eq_or_lt with rfl | behind
    · rw [parentOf, found] at under
      exact opened above under
    · simp only [Forest.size] at stop
      refine hrest later (fun above mem => ?_) behind (by omega)
      exact ⟨(opened above mem).1.trans (Nat.lt_succ_self base), (opened above mem).2⟩
  | node span kids rest childrenHold hrest =>
    simp only [Forest.layout, List.cons_append, List.append_assoc] at laid
    obtain ⟨found, later⟩ := of_drop_eq_cons laid
    have restLaid := drop_add_of_append later
    rw [Forest.length_layout] at restLaid
    simp only [Forest.size] at stop
    rcases start.eq_or_lt with rfl | behind
    · rw [parentOf, found] at under
      exact opened above under
    · rcases Nat.lt_or_ge position (base + 1 + kids.size) with inner | outer
      · refine childrenHold later (fun above mem => ?_) behind inner
        cases mem
        exact ⟨Nat.lt_succ_self base, _, found, isFlat_node _ _ _⟩
      · refine hrest restLaid (fun above mem => ?_) outer (by omega)
        exact ⟨(opened above mem).1.trans (by omega), (opened above mem).2⟩

theorem linked_of_parse {capacity text} (parsed : parse capacity text = .ok tokens) :
    Linked tokens := by
  obtain ⟨items, rfl, -⟩ := parse_eq_layout parsed
  intro position _ under
  have inside : position < items.size := by
    by_contra outside
    rw [parentOf, List.getElem?_eq_none (by simpa using outside)] at under
    cases under
  have laid : (items.layout draw none 0).drop 0 = items.layout draw none 0 ++ [] := by simp
  exact parentOf_layout laid (by simp) (Nat.zero_le _) (by omega) under

section

variable {position : ℕ} (linked : Linked tokens)
include linked

theorem lt_of_descends (descends : Descends tokens index position) : index < position := by
  induction descends with
  | single step => exact (linked _ _ step).1
  | tail _ step ih => exact (linked _ _ step).1.trans ih

theorem descends_of_passes (passes : Passes tokens index (index + 1) last)
    (later : index < position)
    (inside : position < last) : Descends tokens index position := by
  induction position using Nat.strongRecOn with
  | ind position ih =>
    have found := List.getElem?_eq_getElem (inside.trans_le passes.fits)
    have below := passes.below position later inside _ found
    unfold isBelow at below
    split at below
    · cases below
    · next parent under =>
      have step : parentOf tokens position = some parent := by rw [parentOf, found]; exact under
      have earlier := (linked _ _ step).1
      have from_index : index ≤ parent := by simpa using below
      rcases from_index.eq_or_lt with rfl | between
      · exact .single step
      · exact .head step (ih parent earlier between (by omega))

theorem exists_parent_of_descends (descends : Descends tokens index position) :
    ∃ parent, parentOf tokens position = some parent ∧ index ≤ parent := by
  obtain ⟨parent, step, rest⟩ := Relation.TransGen.head'_iff.mp descends
  refine ⟨parent, step, ?_⟩
  rcases Relation.reflTransGen_iff_eq_or_transGen.mp rest with rfl | more
  · exact le_rfl
  · exact (lt_of_descends linked more).le

/-- Where `json_skip` ends is no descendant. -/
theorem not_descends_jsonSkip (inside : index < tokens.length) :
    ¬ Descends tokens index (jsonSkip tokens index) := by
  intro descends
  obtain ⟨parent, step, above⟩ := exists_parent_of_descends linked descends
  obtain ⟨earlier, _, opened, container⟩ := linked _ _ step
  have found := List.getElem?_eq_getElem inside
  rw [jsonSkip, skipFrom, found] at step earlier
  dsimp only at step earlier
  split at step
  · next flat =>
    rw [if_pos flat] at earlier
    obtain rfl : parent = index := by omega
    rw [found] at opened
    cases opened
    rw [flat] at container
    cases container
  · have ends := ((skips_skipFrom tokens (2 * tokens.length + 1)).2 index (index + 1) (by omega)
      inside (by omega)).2.2
    obtain ⟨next, here, under⟩ := Option.bind_eq_some_iff.mp step
    have outside := ends next here
    simp [isBelow, under, above] at outside

end

/-- `json_skip` from any token of an accepted text returns, passes descendants only, and ends at the
array's end or at a token that is none. -/
theorem json_skip_passes_subtree {capacity : ℕ} {text : List Char}
    (parsed : parse capacity text = .ok tokens) (index : ℕ) (inside : index < tokens.length) :
    Skips tokens index (jsonSkip tokens index) ∧
      index < jsonSkip tokens index ∧ jsonSkip tokens index ≤ tokens.length ∧
      (∀ position, index < position → position < jsonSkip tokens index →
        Descends tokens index position) ∧
      (jsonSkip tokens index = tokens.length ∨
        ¬ Descends tokens index (jsonSkip tokens index)) := by
  have linked := linked_of_parse parsed
  obtain ⟨skips, passes⟩ := (skips_skipFrom tokens _).1 index inside
    (show _ ≤ 2 * tokens.length + 2 by omega)
  refine ⟨skips, passes.later, passes.fits, fun position later before => ?_, .inr ?_⟩
  · exact descends_of_passes linked passes later before
  · exact not_descends_jsonSkip linked inside

theorem json_skip_passes_subtree_array :
    ∃ tokens, parse 8 "[[1,2],3]".toList = .ok tokens ∧ jsonSkip tokens 1 = 4 ∧
      Descends tokens 1 3 ∧ ¬ Descends tokens 1 4 := by
  refine ⟨_, rfl, rfl, ?_⟩
  obtain ⟨-, -, -, passed, ended⟩ := json_skip_passes_subtree
    (show parse 8 "[[1,2],3]".toList = _ from rfl) 1 (by decide)
  exact ⟨passed 3 (by decide) (by decide), ended.resolve_left (by decide)⟩

end ThermalSimd.ConfigFile
