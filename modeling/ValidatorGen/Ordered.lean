/-!
# Ordered collections

A list whose elements are told apart by a key keeps the order in which the keys first came. Putting
an element in replaces the one with the same key where it stands, and otherwise adds it at the end.

## Main definitions

* `Ordered.put` — replace the element with the same key, or add the element at the end
* `Ordered.get?` — the element with a given key
* `Ordered.collect` — put elements in one after the other
* `Ordered.value?`, `Ordered.modify` — look a value up by its key, and change it where it stands

## Main results

* `Ordered.map_key_put` — only a new key is added, and it comes last
* `Ordered.nodup_put` — distinct keys stay distinct
* `Ordered.collect_of_nodup` — elements with distinct keys are collected as they are
* `Ordered.get?_put` — only under the key of the element that is put in is another found
* `Ordered.value?_modify` — only the value that is changed is found to be another
-/

namespace ValidatorGen.Ordered

variable {α κ : Type} [DecidableEq κ] {key : α → κ}

/-- Replaces the element that has the same key, or adds the element at the end. -/
def put (key : α → κ) (a : α) : List α → List α
  | [] => [a]
  | b :: bs => if key b = key a then a :: bs else b :: put key a bs

/-- The first element with the key `k`. -/
def get? (key : α → κ) (k : κ) (as : List α) : Option α :=
  as.find? (key · = k)

/-- Puts elements in one after the other, starting from nothing. -/
def collect (key : α → κ) (as : List α) : List α :=
  as.foldl (fun collected a => put key a collected) []

theorem map_key_put (a : α) (as : List α) :
    (put key a as).map key =
      if key a ∈ as.map key then as.map key else as.map key ++ [key a] := by
  induction as with
  | nil => simp [put]
  | cons b bs ih =>
    by_cases h : key b = key a
    · simp [put, h]
    · have h' : ¬ key a = key b := fun e => h e.symm
      simp only [put, h, if_false, List.map_cons, ih, List.mem_cons, h', false_or]
      split <;> simp

theorem mem_put {a b : α} {as : List α} (h : b ∈ put key a as) : b = a ∨ b ∈ as := by
  induction as with
  | nil => exact .inl (List.mem_singleton.mp h)
  | cons c as ih =>
    rw [put] at h
    split at h
    · rcases List.mem_cons.mp h with rfl | mem
      · exact .inl rfl
      · exact .inr (List.mem_cons_of_mem c mem)
    · rcases List.mem_cons.mp h with rfl | mem
      · exact .inr List.mem_cons_self
      · exact (ih mem).imp_right (List.mem_cons_of_mem c)

theorem nodup_put (a : α) {as : List α} (h : (as.map key).Nodup) :
    ((put key a as).map key).Nodup := by
  rw [map_key_put]
  split
  · exact h
  · rename_i hmem
    rw [List.nodup_append]
    refine ⟨h, by simp, ?_⟩
    intro x hx y hy
    simp only [List.mem_singleton] at hy
    rintro rfl
    exact hmem (hy ▸ hx)

theorem nodup_foldl_put (as : List α) {into : List α} (h : (into.map key).Nodup) :
    ((as.foldl (fun collected a => put key a collected) into).map key).Nodup := by
  induction as generalizing into with
  | nil => exact h
  | cons a as ih => exact ih (nodup_put a h)

theorem nodup_collect (as : List α) : ((collect key as).map key).Nodup :=
  nodup_foldl_put as (by simp)

theorem mem_of_mem_foldl_put {b : α} {as into : List α}
    (h : b ∈ as.foldl (fun collected a => put key a collected) into) : b ∈ into ∨ b ∈ as := by
  induction as generalizing into with
  | nil => exact .inl h
  | cons a as ih =>
    rcases ih h with mem | mem
    · rcases mem_put mem with rfl | mem
      · exact .inr List.mem_cons_self
      · exact .inl mem
    · exact .inr (List.mem_cons_of_mem a mem)

theorem mem_of_mem_collect {b : α} {as : List α} (h : b ∈ collect key as) : b ∈ as :=
  (mem_of_mem_foldl_put h).resolve_left List.not_mem_nil

/-- An element with a new key comes last. -/
theorem put_of_not_mem {a : α} {as : List α} (h : key a ∉ as.map key) :
    put key a as = as ++ [a] := by
  induction as with
  | nil => rfl
  | cons b bs ih =>
    rw [List.map_cons, List.mem_cons, not_or] at h
    rw [put, if_neg fun same => h.1 same.symm, ih h.2, List.cons_append]

theorem foldl_put_of_nodup {as into : List α} (h : ((into ++ as).map key).Nodup) :
    as.foldl (fun collected a => put key a collected) into = into ++ as := by
  induction as generalizing into with
  | nil => rw [List.foldl_nil, List.append_nil]
  | cons a as ih =>
    rw [← List.singleton_append, ← List.append_assoc] at h
    have fresh : key a ∉ into.map key := by
      rw [List.map_append, List.map_append] at h
      have nodup := (List.nodup_append.mp h).1
      intro mem
      exact (List.nodup_append.mp nodup).2.2 _ mem _ (by simp) rfl
    rw [List.foldl_cons, put_of_not_mem fresh, ih h, List.append_assoc, List.singleton_append]

/-- Elements with distinct keys are collected as they are. -/
theorem collect_of_nodup {as : List α} (h : (as.map key).Nodup) : collect key as = as :=
  foldl_put_of_nodup h

theorem key_of_get? {k : κ} {a : α} {as : List α} (h : get? key k as = some a) : key a = k := by
  simpa using List.find?_some h

/-- Among distinct keys, an element is found under its key. -/
theorem get?_of_mem {a : α} {as : List α} (h : (as.map key).Nodup) (mem : a ∈ as) :
    get? key (key a) as = some a := by
  induction as with
  | nil => cases mem
  | cons b bs ih =>
    rw [List.map_cons, List.nodup_cons] at h
    rw [get?, List.find?_cons]
    rcases List.mem_cons.mp mem with rfl | mem
    · simp
    · have other : key b ≠ key a := fun same => h.1 (same ▸ List.mem_map_of_mem mem)
      rw [decide_eq_false other]
      exact ih h.2 mem

/-- The element that is put in is found under its key; under other keys nothing changes. -/
theorem get?_put (k : κ) (a : α) (as : List α) :
    get? key k (put key a as) = if key a = k then some a else get? key k as := by
  induction as with
  | nil =>
    by_cases here : key a = k <;> simp [put, get?, here]
  | cons b bs ih =>
    rw [get?] at ih
    rw [put, get?, get?]
    by_cases same : key b = key a
    · rw [if_pos same, List.find?_cons, List.find?_cons, same]
      by_cases here : key a = k <;> simp [here]
    · rw [if_neg same, List.find?_cons, List.find?_cons, ih]
      by_cases here : key b = k
      · have other : ¬ key a = k := fun there => same (here.trans there.symm)
        simp [here, other]
      · simp [here, get?]

/-- An element is kept iff its key is not `k'`. -/
theorem get?_filter_ne (k k' : κ) (as : List α) :
    get? key k (as.filter fun a => key a ≠ k') = if k = k' then none else get? key k as := by
  rw [get?, List.find?_filter, get?]
  by_cases here : k = k'
  · subst here
    rw [if_pos rfl, List.find?_eq_none]
    simp
  · rw [if_neg here]
    congr 1
    funext a
    by_cases found : key a = k
    · simp [found, here]
    · simp [found]

/-! ### Values by their keys -/

section

variable {k : κ} {a : α} {pairs : List (κ × α)}

/-- The first value with the key `k`. -/
def value? (k : κ) (pairs : List (κ × α)) : Option α := (get? Prod.fst k pairs).map Prod.snd

/-- The same values, with the one of the key `k` changed. -/
def modify (k : κ) (f : α → α) (pairs : List (κ × α)) : List (κ × α) :=
  pairs.map fun pair => if pair.1 = k then (pair.1, f pair.2) else pair

theorem value?_cons (k : κ) (pair : κ × α) (pairs : List (κ × α)) :
    value? k (pair :: pairs) = if pair.1 = k then some pair.2 else value? k pairs := by
  rw [value?, get?, List.find?_cons]
  by_cases h : pair.1 = k <;> simp [h, value?, get?]

theorem value?_eq_none_of_not_mem (h : k ∉ pairs.map Prod.fst) : value? k pairs = none := by
  induction pairs with
  | nil => rfl
  | cons pair pairs ih =>
    rw [List.map_cons, List.mem_cons, not_or] at h
    rw [value?_cons, if_neg fun same => h.1 same.symm, ih h.2]

/-- What is found under a key is there with that key. -/
theorem mem_of_value? (h : value? k pairs = some a) : (k, a) ∈ pairs := by
  obtain ⟨⟨k', a'⟩, found, rfl⟩ := Option.map_eq_some_iff.mp h
  have key : k' = k := key_of_get? found
  rw [← key]
  exact List.mem_of_find?_eq_some found

/-- Among distinct keys, a value is found under its key. -/
theorem value?_eq_some_iff (h : (pairs.map Prod.fst).Nodup) :
    value? k pairs = some a ↔ (k, a) ∈ pairs := by
  induction pairs with
  | nil => simp [value?, get?]
  | cons pair pairs ih =>
    rw [List.map_cons, List.nodup_cons] at h
    rw [value?_cons, List.mem_cons, ← ih h.2]
    by_cases same : pair.1 = k
    · have absent : value? k pairs = none := value?_eq_none_of_not_mem (same ▸ h.1)
      rw [if_pos same, absent, Prod.ext_iff]
      simp [same, eq_comm]
    · have other : ¬ (k, a) = pair := fun equal => same (congrArg Prod.fst equal).symm
      rw [if_neg same]
      simp [other]

theorem modify_cons (k : κ) (f : α → α) (pair : κ × α) (pairs : List (κ × α)) :
    modify k f (pair :: pairs) =
      (if pair.1 = k then (pair.1, f pair.2) else pair) :: modify k f pairs := rfl

theorem map_fst_modify (k : κ) (f : α → α) (pairs : List (κ × α)) :
    (modify k f pairs).map Prod.fst = pairs.map Prod.fst := by
  induction pairs with
  | nil => rfl
  | cons pair pairs ih =>
    rw [modify_cons, List.map_cons, List.map_cons, ih]
    split <;> rfl

theorem modify_of_not_mem (f : α → α) (h : k ∉ pairs.map Prod.fst) : modify k f pairs = pairs := by
  induction pairs with
  | nil => rfl
  | cons pair pairs ih =>
    rw [List.map_cons, List.mem_cons, not_or] at h
    rw [modify_cons, if_neg fun same => h.1 same.symm, ih h.2]

/-- Only the value that is changed is found to be another. -/
theorem value?_modify (k k' : κ) (f : α → α) (pairs : List (κ × α)) :
    value? k' (modify k f pairs) =
      if k' = k then (value? k' pairs).map f else value? k' pairs := by
  induction pairs with
  | nil => simp [modify, value?, get?]
  | cons pair pairs ih =>
    rw [modify_cons, value?_cons, value?_cons, ih]
    by_cases here : pair.1 = k <;> by_cases there : pair.1 = k'
    · simp [← here, ← there]
    · have other : ¬ k' = k := fun same => there (here.trans same.symm)
      rw [if_pos here, if_neg there, if_neg other, if_neg there, if_neg other]
    · have other : ¬ k' = k := fun same => here (there.trans same)
      rw [if_neg here, if_pos there, if_neg other, if_pos there]
    · rw [if_neg here, if_neg there, if_neg there]

end

end ValidatorGen.Ordered
