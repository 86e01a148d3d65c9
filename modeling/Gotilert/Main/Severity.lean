/-
**Severity from priority**: `severityForPriority` of the forwarder
(`cmd/gotilert/main.go`).

An exact key wins. Otherwise one pass over the map keeps a candidate `bestKey`,
and the map's value at that key is the answer, `"info"` when there is none (the
map is empty). Go enumerates the keys in an order it does not specify, so the model
takes that order as an `Enumeration`: any permutation of the keys.

## The loop invariant

`IsClosestKey keys p k` says what the pass is for: `k` is one of `keys`, it is the
largest key `≤ p` if it is `≤ p`, and the smallest key if it is `> p`. (So it is
the largest key `≤ p` when there is one, and the smallest key otherwise.)
`isClosestKey_bestStep` is one iteration, `isClosestKey_foldl` every prefix of the
enumeration, and `isClosestKey_unique` makes the result independent of the order.
-/
import Gotilert.Go.Maps

set_option autoImplicit false

namespace Gotilert.Main

open Gotilert.Go

/-! ## The model -/

/-- The loop state `(bestKey, bestSet)`. -/
structure Best where
  key : Int
  set : Bool
  deriving DecidableEq, Repr

/-- One iteration of `for key := range mapping`. -/
def bestStep (priority : Int) (best : Best) (key : Int) : Best :=
  if !best.set then ⟨key, true⟩
  else if key ≤ priority ∧ best.key ≤ priority then ⟨if key > best.key then key else best.key, true⟩
  else if best.key > priority ∧ key < best.key then ⟨key, true⟩
  else best

/-- `severityForPriority(mapping, priority)`, with the keys enumerated in `order`. -/
def severityForPriority (mapping : GoMap Int GoString) (order : Enumeration mapping) (priority : Int) :
    GoString :=
  match mapping.lookup priority with
  | some sev => sev
  | none =>
    match mapping.lookup (order.keys.foldl (bestStep priority) ⟨0, false⟩).key with
    | some sev => sev
    | none => lit "info"

/-! ## What the pass computes -/

/-- `k` is the key of `keys` closest to `priority` from below, or the smallest key
when every key is above `priority`. -/
def IsClosestKey (keys : List Int) (priority k : Int) : Prop :=
  k ∈ keys ∧ (k ≤ priority → ∀ k' ∈ keys, k' ≤ priority → k' ≤ k) ∧
    (priority < k → ∀ k' ∈ keys, k ≤ k')

section Closest

variable {keys keys' : List Int} {priority k k' : Int}

theorem isClosestKey_unique (h : IsClosestKey keys priority k) (h' : IsClosestKey keys priority k') :
    k = k' := by
  obtain ⟨hm, hle, hgt⟩ := h
  obtain ⟨hm', hle', hgt'⟩ := h'
  by_cases hk : k ≤ priority <;> by_cases hk' : k' ≤ priority
  · exact le_antisymm (hle' hk' k hm hk) (hle hk k' hm' hk')
  · exact absurd (hgt' (by omega) k hm) (by omega)
  · exact absurd (hgt (by omega) k' hm') (by omega)
  · exact le_antisymm (hgt (by omega) k' hm') (hgt' (by omega) k hm)

theorem IsClosestKey.perm (hp : keys.Perm keys') (h : IsClosestKey keys priority k) :
    IsClosestKey keys' priority k := by
  obtain ⟨hm, hle, hgt⟩ := h
  exact ⟨hp.mem_iff.mp hm, fun hk k' hk' => hle hk k' (hp.mem_iff.mpr hk'),
    fun hk k' hk' => hgt hk k' (hp.mem_iff.mpr hk')⟩

/-- An exact key is the closest one. -/
theorem isClosestKey_self (h : priority ∈ keys) : IsClosestKey keys priority priority :=
  ⟨h, fun _ _ _ hk => hk, fun hp => absurd hp (lt_irrefl _)⟩

/-- The candidate after one iteration from a set state. -/
theorem bestStep_key {best : Best} (hs : best.set = true) (key : Int) :
    (bestStep priority best key).key =
      if key ≤ priority ∧ best.key ≤ priority then max key best.key
      else if priority < best.key ∧ key < best.key then key else best.key := by
  simp only [bestStep, hs, Bool.not_true, Bool.false_eq_true, if_false]
  split_ifs <;> simp_all [max_def]; omega

/-- Every iteration leaves the state set. -/
theorem bestStep_set (best : Best) (key : Int) : (bestStep priority best key).set = true := by
  simp only [bestStep]
  split_ifs <;> simp_all

theorem isClosestKey_singleton (key : Int) : IsClosestKey [key] priority key := by
  simp [IsClosestKey]

/-- One iteration keeps the candidate closest among the keys visited so far. -/
theorem isClosestKey_bestStep {best : Best} (hs : best.set = true) (h : IsClosestKey keys priority best.key)
    (key : Int) : IsClosestKey (keys ++ [key]) priority (bestStep priority best key).key := by
  obtain ⟨hm, hle, hgt⟩ := h
  rw [bestStep_key hs]
  refine ⟨?_, fun hb k' hk' hk'p => ?_, fun hb k' hk' => ?_⟩
  · have hkey : key ∈ keys ++ [key] := List.mem_append_right _ (List.mem_singleton_self key)
    have hbest : best.key ∈ keys ++ [key] := List.mem_append_left _ hm
    split_ifs
    · rcases max_choice key best.key with h | h <;> rw [h] <;> assumption
    · exact hkey
    · exact hbest
  all_goals
    rcases List.mem_append.mp hk' with hk' | hk'
    · have h1 := not_or_of_imp fun a => not_or_of_imp (hle a k' hk')
      have h2 := not_or_of_imp fun a => hgt a k' hk'
      split_ifs at hb ⊢ <;> omega
    · obtain rfl := List.mem_singleton.mp hk'
      split_ifs at hb ⊢ <;> omega

/-- **The loop invariant**, over every stretch of the enumeration: from a set state
whose candidate is closest among `acc`, the loop ends on one closest among
`acc ++ vs`. -/
theorem isClosestKey_foldl : ∀ (vs acc : List Int) (best : Best), best.set = true →
    IsClosestKey acc priority best.key → IsClosestKey (acc ++ vs) priority (vs.foldl (bestStep priority) best).key
  | [], acc, best, _, h => by simpa using h
  | key :: vs, acc, best, hs, h => by
    rw [List.foldl_cons, ← List.singleton_append, ← List.append_assoc]
    exact isClosestKey_foldl vs _ _ (bestStep_set best key) (isClosestKey_bestStep hs h key)

/-- From the initial state, the loop over any non-empty list of keys ends on the
closest of them. -/
theorem isClosestKey_foldl_init {vs : List Int} (h : vs ≠ []) :
    IsClosestKey vs priority (vs.foldl (bestStep priority) ⟨0, false⟩).key := by
  obtain ⟨key, vs, rfl⟩ := List.exists_cons_of_ne_nil h
  exact isClosestKey_foldl vs [key] ⟨key, true⟩ rfl (isClosestKey_singleton key)

end Closest

/-! ## What `severityForPriority` returns -/

section Result

variable (mapping : GoMap Int GoString) (order : Enumeration mapping) (priority : Int)

/-- **`severityForPriority` returns the value at the closest key**, in every order. -/
theorem lookup_closest_severityForPriority {k : Int} (hk : IsClosestKey mapping.keys priority k) :
    mapping.lookup k = some (severityForPriority mapping order priority) := by
  unfold severityForPriority
  cases hp : mapping.lookup priority with
  | some sev =>
    have hmem : priority ∈ mapping.keys := by simp [mem_keys_iff_lookup_isSome, hp]
    rw [isClosestKey_unique hk (isClosestKey_self hmem), hp]
  | none =>
    have hne : order.keys ≠ [] := List.ne_nil_of_mem (order.perm.mem_iff.mpr hk.1)
    have hb := (@isClosestKey_foldl_init priority _ hne).perm order.perm
    rw [← isClosestKey_unique hb hk]
    obtain ⟨v, hv⟩ := Option.isSome_iff_exists.mp ((mem_keys_iff_lookup_isSome mapping _).mp hb.1)
    simp only [hv]

/-- On an empty map the fallback is taken. -/
theorem severityForPriority_of_keys_eq_nil (h : mapping.keys = []) :
    severityForPriority mapping order priority = lit "info" := by
  have hnone : ∀ k, mapping.lookup k = none := fun k => by
    simpa [h] using (mem_keys_iff_lookup_isSome mapping k).not
  have horder : order.keys = [] := List.Perm.eq_nil (h ▸ order.perm)
  simp only [severityForPriority, hnone, horder]

/-- On a non-empty map the answer is one of its values. -/
theorem exists_lookup_severityForPriority (h : mapping.keys ≠ []) :
    ∃ k ∈ mapping.keys, mapping.lookup k = some (severityForPriority mapping order priority) :=
  let hk := @isClosestKey_foldl_init priority _ h
  ⟨_, hk.1, lookup_closest_severityForPriority mapping order priority hk⟩

/-- The enumeration order never shows in the result. -/
theorem severityForPriority_order_independent (order' : Enumeration mapping) :
    severityForPriority mapping order' priority = severityForPriority mapping order priority := by
  by_cases h : mapping.keys = []
  · rw [severityForPriority_of_keys_eq_nil _ _ _ h, severityForPriority_of_keys_eq_nil _ _ _ h]
  · have hk := @isClosestKey_foldl_init priority _ h
    exact Option.some_injective _ <|
      (lookup_closest_severityForPriority mapping order' priority hk).symm.trans
        (lookup_closest_severityForPriority mapping order priority hk)

/-- **What `severityForPriority` returns**, for every map, priority and enumeration
order: the exact key's value; else the value at the largest key below the priority;
else the value at the smallest key; `"info"` on the empty map, and a value of the
map otherwise. Every prefix of the enumeration leaves the loop on the closest key
visited so far, and so no order changes the result. -/
theorem severityForPriority_spec :
    (∀ sev, mapping.lookup priority = some sev → severityForPriority mapping order priority = sev) ∧
    (∀ k ∈ mapping.keys, k ≤ priority → (∀ k' ∈ mapping.keys, k' ≤ priority → k' ≤ k) →
      mapping.lookup k = some (severityForPriority mapping order priority)) ∧
    (∀ k ∈ mapping.keys, (∀ k' ∈ mapping.keys, priority < k' ∧ k ≤ k') →
      mapping.lookup k = some (severityForPriority mapping order priority)) ∧
    (mapping.keys = [] → severityForPriority mapping order priority = lit "info") ∧
    (mapping.keys ≠ [] →
      ∃ k ∈ mapping.keys, mapping.lookup k = some (severityForPriority mapping order priority)) ∧
    (∀ n, order.keys.take n ≠ [] →
      IsClosestKey (order.keys.take n) priority ((order.keys.take n).foldl (bestStep priority) ⟨0, false⟩).key) ∧
    ∀ order' : Enumeration mapping,
      severityForPriority mapping order' priority = severityForPriority mapping order priority := by
  refine ⟨fun sev h => ?_, fun k hk hkp hmax => ?_, fun k hk hmin => ?_,
    severityForPriority_of_keys_eq_nil mapping order priority,
    exists_lookup_severityForPriority mapping order priority,
    fun _ h => isClosestKey_foldl_init h, severityForPriority_order_independent mapping order priority⟩
  · simp [severityForPriority, h]
  · exact lookup_closest_severityForPriority mapping order priority
      ⟨hk, fun _ => hmax, fun h => absurd hkp (not_le.mpr h)⟩
  · exact lookup_closest_severityForPriority mapping order priority
      ⟨hk, fun h => absurd h (not_le.mpr (hmin k hk).1), fun _ k' hk' => (hmin k' hk').2⟩

/-- A priority between two keys reads the lower key; one below every key reads the
smallest. -/
example : severityForPriority (((∅ : GoMap Int GoString).insert (1 : Int) (lit "warning")).insert (5 : Int)
    (lit "critical")) ⟨[1, 5], by decide⟩ 3 = lit "warning" ∧
    severityForPriority (((∅ : GoMap Int GoString).insert (1 : Int) (lit "warning")).insert (5 : Int)
    (lit "critical")) ⟨[5, 1], by decide⟩ 0 = lit "warning" := by decide

end Result

end Gotilert.Main
