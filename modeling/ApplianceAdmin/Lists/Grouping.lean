import Mathlib.Data.List.Nodup
import Mathlib.Data.List.Sort
import Mathlib.Tactic

/-!
# Grouping a list by a key

A table with one entry for each key, filled record by record: a record with a new key is appended,
any other one is joined to the entry that is there.

* `upsert`, `groups`: the table; `summary`: the entry of a list of records with one key;
* `find_groups`: the entry of a key is the summary of its records;
* `nodup_groups`, `mem_map_key_groups`, `pairwise_groups`: the keys, each once, in the order in which
  they appear first;
* `idxOf_lt_of_filter`: the order of appearance in a part of the list;
* `pairwise_insertionSort`: a stable sort keeps the order of what it does not tell apart.
-/

namespace ApplianceAdmin.Lists

section Grouping

variable {α κ : Type} [DecidableEq κ] (key : α → κ) (join : α → α → α)

/-- The table after the record `x`. -/
def upsert (x : α) : List α → List α
  | [] => [x]
  | old :: rest => if key old = key x then join x old :: rest else old :: upsert x rest

/-- The table of the records `xs`. -/
def groups (xs : List α) : List α := xs.foldl (fun entries x => upsert key join x entries) []

/-- The entry after the record `x`. -/
def extend (o : Option α) (x : α) : Option α := some (o.elim x (join x))

/-- The entry of records with one key. -/
def summary (xs : List α) : Option α := xs.foldl (extend join) none

@[simp] theorem groups_nil : groups key join [] = [] := rfl

theorem groups_append (xs : List α) (x : α) :
    groups key join (xs ++ [x]) = upsert key join x (groups key join xs) := by
  simp [groups]

@[simp] theorem summary_nil : summary join [] = none := rfl

theorem summary_append (xs : List α) (x : α) :
    summary join (xs ++ [x]) = extend join (summary join xs) x := by
  simp [summary]

variable {key join}

/-- What holds of a single record, and is kept by joining another one, holds of the entry. -/
theorem summary_induction {β : Type} {f : β → α} {P : List β → α → Prop} (single : ∀ y, P [y] (f y))
    (snoc : ∀ ys a y, P ys a → P (ys ++ [y]) (join (f y) a)) {ys : List β} {a : α}
    (h : summary join (ys.map f) = some a) : P ys a := by
  induction ys using List.reverseRecOn generalizing a with
  | nil => cases h
  | append_singleton ys y ih =>
    rw [List.map_append, List.map_singleton, summary_append] at h
    cases hys : summary join (ys.map f) with
    | none =>
      rw [hys] at h
      cases h
      cases ys using List.reverseRecOn with
      | nil => exact single y
      | append_singleton ys z =>
        rw [List.map_append, List.map_singleton, summary_append] at hys
        cases hys
    | some b =>
      rw [hys] at h
      cases h
      exact snoc ys b y (ih hys)

section Key

variable (hkey : ∀ x old, key old = key x → key (join x old) = key x)

include hkey

theorem map_key_upsert (x : α) (l : List α) : (upsert key join x l).map key =
    if key x ∈ l.map key then l.map key else l.map key ++ [key x] := by
  induction l with
  | nil => rfl
  | cons old rest ih =>
    rw [upsert]
    split_ifs with hold h h
    · rw [List.map_cons, hkey x old hold, List.map_cons, hold]
    · exact absurd (List.mem_cons.2 (.inl hold.symm)) h
    · have hrest : key x ∈ rest.map key := (List.mem_cons.1 h).resolve_left fun he => hold he.symm
      rw [List.map_cons, ih, if_pos hrest, List.map_cons]
    · have hrest : key x ∉ rest.map key := fun he => h (List.mem_cons_of_mem _ he)
      rw [List.map_cons, ih, if_neg hrest, List.map_cons, List.cons_append]

/-- The keys of the table are those of the records. -/
theorem mem_map_key_groups {xs : List α} {k : κ} :
    k ∈ (groups key join xs).map key ↔ k ∈ xs.map key := by
  induction xs using List.reverseRecOn with
  | nil => rfl
  | append_singleton xs x ih =>
    rw [groups_append, map_key_upsert hkey, List.map_append, List.mem_append, ← ih]
    split_ifs with h
    · refine ⟨.inl, fun hk => hk.elim id fun hk => ?_⟩
      obtain rfl : k = key x := List.mem_singleton.1 hk
      exact h
    · exact List.mem_append

theorem nodup_groups (xs : List α) : ((groups key join xs).map key).Nodup := by
  induction xs using List.reverseRecOn with
  | nil => exact List.nodup_nil
  | append_singleton xs x ih =>
    rw [groups_append, map_key_upsert hkey]
    split_ifs with h
    · exact ih
    · exact List.nodup_append.2 ⟨ih, List.nodup_singleton _, fun a ha b hb hab =>
        h (List.mem_singleton.1 hb ▸ hab ▸ ha)⟩

/-- The entries stand in the order in which their keys appear first. -/
theorem pairwise_groups (xs : List α) :
    ((groups key join xs).map key).Pairwise fun k l =>
      (xs.map key).idxOf k < (xs.map key).idxOf l := by
  induction xs using List.reverseRecOn with
  | nil => exact .nil
  | append_singleton xs x ih =>
    have hold : ∀ {k}, k ∈ (groups key join xs).map key →
        (xs.map key ++ [key x]).idxOf k = (xs.map key).idxOf k := fun hk =>
      List.idxOf_append_of_mem ((mem_map_key_groups hkey).1 hk)
    have hpair : ((groups key join xs).map key).Pairwise fun k l =>
        (xs.map key ++ [key x]).idxOf k < (xs.map key ++ [key x]).idxOf l :=
      ih.imp_of_mem fun hk hl h => by rwa [hold hk, hold hl]
    rw [groups_append, map_key_upsert hkey, List.map_append, List.map_singleton]
    split_ifs with h
    · exact hpair
    · refine List.pairwise_append.2 ⟨hpair, List.pairwise_singleton _ _, fun k hk l hl => ?_⟩
      obtain rfl : l = key x := List.mem_singleton.1 hl
      have hnew : key x ∉ xs.map key := fun he => h ((mem_map_key_groups hkey).2 he)
      rw [hold hk, List.idxOf_append_of_notMem hnew]
      exact (List.idxOf_lt_length_of_mem ((mem_map_key_groups hkey).1 hk)).trans_le
        (Nat.le_add_right _ _)

theorem find_upsert (x : α) (l : List α) (k : κ) :
    (upsert key join x l).find? (key · = k) =
      if key x = k then extend join (l.find? (key · = k)) x else l.find? (key · = k) := by
  induction l with
  | nil => by_cases h : key x = k <;> simp [upsert, extend, h]
  | cons old rest ih =>
    rw [upsert]
    by_cases hold : key old = key x
    · rw [if_pos hold]
      by_cases h : key x = k
      · simp [extend, hkey x old hold, hold, h]
      · simp [hkey x old hold, hold, h]
    · rw [if_neg hold]
      by_cases hk : key old = k
      · simp [hk, show key x ≠ k from fun h => hold (hk.trans h.symm)]
      · simp [hk, ih]

/-- **The entry of a key is the summary of the records with that key.** -/
theorem find_groups (xs : List α) (k : κ) :
    (groups key join xs).find? (key · = k) = summary join (xs.filter (key · = k)) := by
  induction xs using List.reverseRecOn with
  | nil => rfl
  | append_singleton xs x ih =>
    rw [groups_append, find_upsert hkey, ih, List.filter_append]
    by_cases h : key x = k
    · simp [h, summary_append]
    · simp [h]

theorem summary_of_mem_groups {xs : List α} {e : α} (he : e ∈ groups key join xs) :
    summary join (xs.filter (key · = key e)) = some e := by
  rw [← find_groups hkey]
  have hsome : ((groups key join xs).find? (key · = key e)).isSome := by
    rw [List.find?_isSome]
    exact ⟨e, he, by simp⟩
  obtain ⟨e', he'⟩ := Option.isSome_iff_exists.1 hsome
  have hkey' : key e' = key e := by simpa using List.find?_some he'
  rw [he', List.inj_on_of_nodup_map (nodup_groups hkey xs) (List.mem_of_find?_eq_some he') he hkey']

end Key

end Grouping

/-- Leaving items out does not change which of two others appears first. -/
theorem idxOf_lt_of_filter {κ : Type} [DecidableEq κ] {p : κ → Bool} {k l : κ} (hl : p l = true)
    {xs : List κ} (h : (xs.filter p).idxOf k < (xs.filter p).idxOf l) :
    xs.idxOf k < xs.idxOf l := by
  induction xs with
  | nil => exact h
  | cons x xs ih =>
    by_cases hxl : x = l
    · rw [hxl, List.filter_cons_of_pos hl, List.idxOf_cons_self] at h
      exact absurd h (Nat.not_lt_zero _)
    by_cases hxk : x = k
    · rw [hxk, List.idxOf_cons_self, List.idxOf_cons_ne _ (hxk ▸ hxl)]
      exact Nat.succ_pos _
    rw [List.idxOf_cons_ne _ hxk, List.idxOf_cons_ne _ hxl]
    refine Nat.succ_lt_succ (ih ?_)
    by_cases hx : p x = true
    · rw [List.filter_cons_of_pos hx, List.idxOf_cons_ne _ hxk, List.idxOf_cons_ne _ hxl] at h
      exact Nat.lt_of_succ_lt_succ h
    · rwa [List.filter_cons_of_neg hx] at h

/-! ### Stable sorting -/

section Sorting

variable {α : Type} {r s : α → α → Prop} [DecidableRel r]

theorem pairwise_orderedInsert {a : α} {l : List α} (h : l.Pairwise fun b c => r c b → s b c)
    (ha : ∀ b ∈ l, s a b) : (l.orderedInsert r a).Pairwise fun b c => r c b → s b c := by
  induction l with
  | nil => exact List.pairwise_singleton _ _
  | cons b l ih =>
    obtain ⟨hb, hl⟩ := List.pairwise_cons.1 h
    rw [List.orderedInsert_cons]
    split_ifs with hab
    · exact List.pairwise_cons.2 ⟨fun c hc _ => ha c hc, h⟩
    · refine List.pairwise_cons.2 ⟨fun c hc => ?_, ih hl fun c hc => ha c (List.mem_cons_of_mem _ hc)⟩
      rcases (List.mem_orderedInsert r).1 hc with rfl | hc
      · exact fun hcb => absurd hcb hab
      · exact hb c hc

/-- Sorting keeps the order of what the sort does not tell apart. -/
theorem pairwise_insertionSort {l : List α} (h : l.Pairwise s) :
    (l.insertionSort r).Pairwise fun a b => r b a → s a b := by
  induction l with
  | nil => exact .nil
  | cons a l ih =>
    obtain ⟨ha, hl⟩ := List.pairwise_cons.1 h
    rw [List.insertionSort_cons]
    exact pairwise_orderedInsert (ih hl) fun b hb => ha b ((List.mem_insertionSort r).1 hb)

end Sorting

end ApplianceAdmin.Lists
