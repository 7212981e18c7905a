import Mathlib.Data.List.Basic
import Mathlib.Data.List.Induction
import ValidatorGen.Ordered

/-!
# Collecting elements each once

Elements that are their own keys are collected each once, in the order in which they first come.
Other elements are collected in the order in which their keys first come, the last one of each key.

## Main results

* `Ordered.put_of_mem` — an element with a known key is put where that key stands
* `Ordered.map_key_collect`, `Ordered.get?_collect` — which elements are collected, and where
* `Ordered.collect_id` — the elements without repetitions
* `Ordered.mem_collect_id` — nothing is lost and nothing is added
* `Ordered.pairwise_idxOf_collect` — the order is that of the first occurrences
* `Ordered.length_collect_eq_iff` — everything is kept iff nothing is repeated
-/

namespace ValidatorGen.Ordered

variable {α : Type} [DecidableEq α] {a : α}

/-- An element that is there already is put in its own place. -/
theorem put_id_of_mem {a : α} {as : List α} (h : a ∈ as) : put id a as = as := by
  induction as with
  | nil => cases h
  | cons b bs ih =>
    by_cases same : b = a
    · rw [put, if_pos (congrArg id same), same]
    · have later : a ∈ bs := (List.mem_cons.mp h).resolve_left fun equal => same equal.symm
      rw [put, if_neg (show ¬ id b = id a from same), ih later]

theorem foldl_put_id (as into : List α) :
    as.foldl (fun collected a => put id a collected) into =
      into ++ (as.filter (· ∉ into)).eraseDups := by
  induction as generalizing into with
  | nil => simp
  | cons a as ih =>
    rw [List.foldl_cons, ih]
    by_cases known : a ∈ into
    · rw [put_id_of_mem known, List.filter_cons_of_neg (by simpa using known)]
    · -- From here on the element counts as known, so it is left out of the rest.
      have fresh : id a ∉ into.map id := by simpa using known
      have rest : as.filter (· ∉ into ++ [a]) = (as.filter (· ∉ into)).filter fun b => !b == a := by
        rw [List.filter_filter]
        congr 1
        funext b
        by_cases same : b = a <;> simp [same]
      rw [put_of_not_mem fresh, List.filter_cons_of_pos (by simpa using known),
        List.eraseDups_cons, rest, List.append_assoc, List.singleton_append]

/-- Elements that are their own keys are collected each once, where they first come. -/
theorem collect_id (as : List α) : collect id as = as.eraseDups := by
  have all : as.filter (· ∉ []) = as := List.filter_eq_self.mpr (by simp)
  rw [collect, foldl_put_id, all, List.nil_append]

theorem mem_collect_id {as : List α} : a ∈ collect id as ↔ a ∈ as := by
  rw [collect_id, List.mem_eraseDups]

/-- One more element is added at the end, unless it is there already. -/
theorem collect_id_concat (as : List α) (a : α) :
    collect id (as ++ [a]) = if a ∈ as then collect id as else collect id as ++ [a] := by
  have step : collect id (as ++ [a]) = put id a (collect id as) := List.foldl_concat ..
  rw [step]
  split
  · rename_i known
    exact put_id_of_mem (mem_collect_id.mpr known)
  · rename_i fresh
    apply put_of_not_mem
    rwa [List.map_id, id, mem_collect_id]

/-- Elements are collected in the order in which they first come. -/
theorem pairwise_idxOf_collect (as : List α) :
    (collect id as).Pairwise fun a b => as.idxOf a < as.idxOf b := by
  induction as using List.reverseRecOn with
  | nil => exact .nil
  | append_singleton as a ih =>
    -- The elements before the last first come where they came without it.
    have kept : (collect id as).Pairwise fun b c => (as ++ [a]).idxOf b < (as ++ [a]).idxOf c := by
      refine ih.imp_of_mem ?_
      intro b c mem mem' first
      rwa [List.idxOf_append_of_mem (mem_collect_id.mp mem),
        List.idxOf_append_of_mem (mem_collect_id.mp mem')]
    rw [collect_id_concat]
    split
    · exact kept
    · rename_i fresh
      rw [List.pairwise_append]
      refine ⟨kept, List.pairwise_singleton .., ?_⟩
      intro b mem c last
      obtain rfl := List.mem_singleton.mp last
      rw [List.idxOf_append_of_mem (mem_collect_id.mp mem), List.idxOf_append_of_notMem fresh]
      have := List.idxOf_lt_length_of_mem (mem_collect_id.mp mem)
      omega

theorem length_collect_le (as : List α) : (collect id as).length ≤ as.length := by
  induction as using List.reverseRecOn with
  | nil => exact Nat.le_refl 0
  | append_singleton as a ih =>
    rw [collect_id_concat, List.length_append, List.length_singleton]
    split
    · omega
    · rw [List.length_append, List.length_singleton]
      omega

/-- As many elements are collected as there are iff none is repeated. -/
theorem length_collect_eq_iff (as : List α) : (collect id as).length = as.length ↔ as.Nodup := by
  constructor
  · intro all
    induction as using List.reverseRecOn with
    | nil => exact .nil
    | append_singleton as a ih =>
      rw [collect_id_concat, List.length_append, List.length_singleton] at all
      split at all
      · have := length_collect_le as
        omega
      · rename_i fresh
        rw [List.length_append, List.length_singleton] at all
        rw [List.nodup_append]
        refine ⟨ih (by omega), by simp, ?_⟩
        rintro b mem c last rfl
        exact fresh (List.mem_singleton.mp last ▸ mem)
  · intro distinct
    rw [collect_of_nodup (by rwa [List.map_id])]

/-! ### Elements with keys -/

section

variable {β κ : Type} [DecidableEq κ] {key : β → κ} {b : β}

/-- Among distinct keys, an element with a known key is put where that key stands. -/
theorem put_of_mem {bs : List β} (distinct : (bs.map key).Nodup) (h : key b ∈ bs.map key) :
    put key b bs = bs.map fun c => if key c = key b then b else c := by
  induction bs with
  | nil => cases h
  | cons c bs ih =>
    rw [List.map_cons, List.nodup_cons] at distinct
    rw [put, List.map_cons]
    by_cases same : key c = key b
    · -- The key does not come again, so nothing else is replaced.
      have rest : (bs.map fun c => if key c = key b then b else c) = bs := by
        refine (List.map_congr_left ?_).trans (List.map_id bs)
        intro d mem
        exact if_neg fun (again : key d = key b) =>
          distinct.1 (same.trans again.symm ▸ List.mem_map_of_mem mem)
      rw [if_pos same, if_pos same, rest]
    · have later : key b ∈ bs.map key :=
        (List.mem_cons.mp h).resolve_left fun equal => same equal.symm
      rw [if_neg same, if_neg same, ih distinct.2 later]

/-- Keys are put in as elements are. -/
theorem map_key_put_eq (b : β) (bs : List β) :
    (put key b bs).map key = put id (key b) (bs.map key) := by
  rw [map_key_put]
  split
  · rename_i known
    exact (put_id_of_mem known).symm
  · rename_i fresh
    exact (put_of_not_mem (by simpa using fresh)).symm

/-- Elements are collected in the order in which their keys first come. -/
theorem map_key_collect (bs : List β) : (collect key bs).map key = (bs.map key).eraseDups := by
  have each (into : List β) :
      (bs.foldl (fun collected b => put key b collected) into).map key =
        (bs.map key).foldl (fun collected k => put id k collected) (into.map key) := by
    induction bs generalizing into with
    | nil => rfl
    | cons b bs ih => rw [List.foldl_cons, ih, map_key_put_eq, List.map_cons, List.foldl_cons]
  rw [← collect_id]
  exact each []

/-- Of several elements with one key, the last is found. -/
theorem get?_collect (k : κ) (bs : List β) :
    get? key k (collect key bs) = bs.reverse.find? (key · = k) := by
  induction bs using List.reverseRecOn with
  | nil => rfl
  | append_singleton bs b ih =>
    have step : collect key (bs ++ [b]) = put key b (collect key bs) := List.foldl_concat ..
    rw [step, get?_put, List.reverse_concat, List.find?_cons, ih]
    by_cases here : key b = k <;> simp [here]

/-- An element that is kept can be put in before or after the others are left out. -/
theorem filter_put {keep : κ → Bool} (h : keep (key b)) (bs : List β) :
    (put key b bs).filter (fun c => keep (key c)) =
      put key b (bs.filter fun c => keep (key c)) := by
  induction bs with
  | nil => simp [put, h]
  | cons c bs ih =>
    rw [put]
    by_cases same : key c = key b
    · have kept : keep (key c) := same ▸ h
      rw [if_pos same, List.filter_cons, List.filter_cons, if_pos h, if_pos kept, put, if_pos same]
    · rw [if_neg same, List.filter_cons, List.filter_cons, ih]
      split
      · rw [put, if_neg same]
      · rfl

end

end ValidatorGen.Ordered
