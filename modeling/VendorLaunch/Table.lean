/-!
# Insertion-ordered tables

A table is a list of bindings in which a key keeps the position of its first insertion and the
value of its last one. Environments, handler tables, saved handlers and mappings of data files
are all such tables, and each of them is printed or replayed in this order.

The lemmas say what a look-up finds after an insertion and after a removal, that the two pass each
other for different keys, and that a look-up finds nothing but bindings (`mem_of_find?`); nothing
else about the list is needed by a caller.
-/

namespace VendorLaunch

/-- Bindings in the order in which their keys were first inserted. -/
abbrev Table (κ υ : Type) := List (κ × υ)

namespace Table

variable {κ υ : Type} [DecidableEq κ]

/-- The value bound to `k`. -/
def find? (k : κ) : Table κ υ → Option υ
  | [] => none
  | (k', v) :: t => if k' = k then some v else find? k t

/-- Binds `k` to `v`: in place when `k` is bound already, at the end otherwise. -/
def insert (k : κ) (v : υ) : Table κ υ → Table κ υ
  | [] => [(k, v)]
  | (k', v') :: t => if k' = k then (k', v) :: t else (k', v') :: insert k v t

/-- The bindings of a list, later values replacing earlier ones. -/
def ofBindings (bs : List (κ × υ)) : Table κ υ :=
  bs.foldl (fun t b => t.insert b.1 b.2) []

/-- Removes every binding of `k`. -/
def erase (k : κ) (t : Table κ υ) : Table κ υ :=
  t.filter fun b => b.1 ≠ k

/-- The keys in order. -/
def keys (t : Table κ υ) : List κ := t.map Prod.fst

@[simp] theorem find?_nil (k : κ) : find? k ([] : Table κ υ) = none := rfl

/-- What is found is bound. -/
theorem mem_of_find? {k : κ} {v : υ} {t : Table κ υ} (h : find? k t = some v) : (k, v) ∈ t := by
  induction t with
  | nil => cases h
  | cons b t ih =>
    obtain ⟨k', v'⟩ := b
    rw [find?] at h
    by_cases hk : k' = k
    · rw [if_pos hk] at h
      obtain rfl := Option.some.inj h
      exact hk ▸ List.mem_cons_self
    · rw [if_neg hk] at h
      exact List.mem_cons_of_mem _ (ih h)

@[simp] theorem find?_insert_self (k : κ) (v : υ) (t : Table κ υ) :
    find? k (insert k v t) = some v := by
  induction t with
  | nil => simp [insert, find?]
  | cons b t ih => by_cases h : b.1 = k <;> simp [insert, find?, h, ih]

theorem find?_insert_of_ne {k j : κ} (h : j ≠ k) (v : υ) (t : Table κ υ) :
    find? j (insert k v t) = find? j t := by
  induction t with
  | nil => simp [insert, find?, Ne.symm h]
  | cons b t ih =>
    by_cases hb : b.1 = k
    · simp [insert, find?, hb, Ne.symm h]
    · simp [insert, find?, hb, ih]

theorem find?_insert (k j : κ) (v : υ) (t : Table κ υ) :
    find? j (insert k v t) = if j = k then some v else find? j t := by
  by_cases h : j = k
  · simp [h]
  · simp [h, find?_insert_of_ne h]

theorem find?_erase_self (k : κ) (t : Table κ υ) : find? k (erase k t) = none := by
  induction t with
  | nil => rfl
  | cons b t ih =>
    by_cases hb : b.1 = k
    · rw [erase, List.filter_cons_of_neg (by simpa using hb)]
      exact ih
    · rw [erase, List.filter_cons_of_pos (by simpa using hb), find?, if_neg hb]
      exact ih

theorem find?_erase_of_ne {k j : κ} (h : j ≠ k) (t : Table κ υ) : find? j (erase k t) = find? j t := by
  induction t with
  | nil => rfl
  | cons b t ih =>
    by_cases hb : b.1 = k
    · rw [erase, List.filter_cons_of_neg (by simpa using hb), find?, if_neg (hb ▸ Ne.symm h)]
      exact ih
    · rw [erase, List.filter_cons_of_pos (by simpa using hb), find?, find?]
      split
      · rfl
      · exact ih

theorem erase_insert_of_ne {k j : κ} (h : j ≠ k) (v : υ) (t : Table κ υ) :
    erase k (insert j v t) = insert j v (erase k t) := by
  induction t with
  | nil => rw [insert, erase, List.filter_cons_of_pos (by simpa using h)]; rfl
  | cons b t ih =>
    by_cases hj : b.1 = j
    · have hk : b.1 ≠ k := hj ▸ h
      rw [insert, if_pos hj, erase, erase, List.filter_cons_of_pos (by simpa using hk),
        List.filter_cons_of_pos (by simpa using hk), insert, if_pos hj]
    · rw [insert, if_neg hj]
      by_cases hk : b.1 = k
      · rw [erase, List.filter_cons_of_neg (by simpa using hk), erase,
          List.filter_cons_of_neg (by simpa using hk)]
        exact ih
      · rw [erase, List.filter_cons_of_pos (by simpa using hk), erase,
          List.filter_cons_of_pos (by simpa using hk), insert, if_neg hj]
        exact congrArg (b :: ·) ih

end Table

end VendorLaunch
