/-!
# Roster — values under names

A finite map with text keys whose entries stand in increasing order of the keys, so that two
rosters with the same values are equal (`Roster.ext_get?`).  The order of texts is that of their
code points, which is the order of their UTF-8 bytes.
-/

namespace CallSignaling

namespace Entries

variable {α : Type}

/-- The entries stand in increasing order of the keys. -/
def Sorted (es : List (String × α)) : Prop := es.Pairwise fun a b => a.1 < b.1

def get? (k : String) : List (String × α) → Option α
  | [] => none
  | (l, a) :: es => if l = k then some a else get? k es

def insert (k : String) (a : α) : List (String × α) → List (String × α)
  | [] => [(k, a)]
  | (l, b) :: es =>
    if k < l then (k, a) :: (l, b) :: es
    else if l = k then (k, a) :: es
    else (l, b) :: insert k a es

def erase (k : String) : List (String × α) → List (String × α)
  | [] => []
  | (l, b) :: es => if l = k then es else (l, b) :: erase k es

theorem mem_insert {k : String} {a : α} {e : String × α} {es : List (String × α)}
    (h : e ∈ insert k a es) : e = (k, a) ∨ e ∈ es := by
  induction es with
  | nil => simpa [insert] using h
  | cons f es ih =>
    obtain ⟨l, b⟩ := f
    simp only [insert] at h
    split at h
    · simpa using h
    · split at h
      · simp only [List.mem_cons] at h ⊢
        exact h.imp_right Or.inr
      · simp only [List.mem_cons] at h ⊢
        rcases h with h | h
        · exact Or.inr (Or.inl h)
        · exact (ih h).imp_right Or.inr

theorem mem_of_mem_erase {k : String} {e : String × α} {es : List (String × α)}
    (h : e ∈ erase k es) : e ∈ es := by
  induction es with
  | nil => simp [erase] at h
  | cons f es ih =>
    obtain ⟨l, b⟩ := f
    simp only [erase] at h
    split at h
    · exact List.mem_cons_of_mem _ h
    · simp only [List.mem_cons] at h ⊢
      exact h.imp_right ih

theorem Sorted.insert {k : String} {a : α} {es : List (String × α)} (h : Sorted es) :
    Sorted (insert k a es) := by
  induction es with
  | nil => simp [Sorted, Entries.insert]
  | cons f es ih =>
    obtain ⟨l, b⟩ := f
    obtain ⟨hl, hes⟩ := List.pairwise_cons.mp h
    simp only [Entries.insert]
    split
    next hkl =>
      refine List.pairwise_cons.mpr ⟨fun e he => ?_, h⟩
      rcases List.mem_cons.mp he with rfl | he
      · exact hkl
      · exact String.lt_trans hkl (hl e he)
    next hkl =>
      split
      next heq =>
        subst heq
        exact List.pairwise_cons.mpr ⟨hl, hes⟩
      next hne =>
        refine List.pairwise_cons.mpr ⟨fun e he => ?_, ih hes⟩
        rcases mem_insert he with rfl | he
        · exact String.not_le.mp fun hle => hne (String.le_antisymm (String.not_lt.mp hkl) hle)
        · exact hl e he

theorem Sorted.erase {k : String} {es : List (String × α)} (h : Sorted es) :
    Sorted (erase k es) := by
  induction es with
  | nil => exact h
  | cons f es ih =>
    obtain ⟨l, b⟩ := f
    obtain ⟨hl, hes⟩ := List.pairwise_cons.mp h
    simp only [Entries.erase]
    split
    · exact hes
    · exact List.pairwise_cons.mpr ⟨fun e he => hl e (mem_of_mem_erase he), ih hes⟩

theorem get?_insert (k q : String) (a : α) (es : List (String × α)) :
    get? q (insert k a es) = if q = k then some a else get? q es := by
  induction es with
  | nil => simp only [insert, get?, @eq_comm _ k q]
  | cons f es ih =>
    obtain ⟨l, b⟩ := f
    simp only [insert]
    split
    · simp only [get?, @eq_comm _ k q]
    · split
      next h => subst h; by_cases h : q = l <;> simp [get?, h, eq_comm]
      next h =>
        simp only [get?, ih]
        by_cases hq : l = q
        · subst hq; simp [h]
        · simp [hq]

theorem get?_eq_none_of_lt {k : String} {es : List (String × α)} (h : ∀ e ∈ es, k < e.1) :
    get? k es = none := by
  induction es with
  | nil => rfl
  | cons f es ih =>
    obtain ⟨l, b⟩ := f
    have hne : l ≠ k := fun e => String.lt_irrefl k (e ▸ h (l, b) (by simp))
    simp [get?, hne, ih fun e he => h e (List.mem_cons_of_mem _ he)]

theorem get?_erase {es : List (String × α)} (h : Sorted es) (k q : String) :
    get? q (erase k es) = if q = k then none else get? q es := by
  induction es with
  | nil => simp [erase, get?]
  | cons f es ih =>
    obtain ⟨l, b⟩ := f
    obtain ⟨hl, hes⟩ := List.pairwise_cons.mp h
    simp only [erase]
    split
    next heq =>
      subst heq
      by_cases hq : q = l
      · subst hq; simp [get?_eq_none_of_lt hl]
      · simp [get?, hq, eq_comm]
    next hne =>
      simp only [get?, ih hes]
      by_cases hq : l = q
      · subst hq; simp [hne]
      · simp [hq]

theorem get?_eq_some_of_mem {es : List (String × α)} (h : Sorted es) {k : String} {a : α}
    (hm : (k, a) ∈ es) : get? k es = some a := by
  induction es with
  | nil => simp at hm
  | cons f es ih =>
    obtain ⟨l, b⟩ := f
    obtain ⟨hl, hes⟩ := List.pairwise_cons.mp h
    rcases List.mem_cons.mp hm with he | hm
    · cases he; simp [get?]
    · have hne : l ≠ k := fun e => String.lt_irrefl l (by simpa [e] using hl _ hm)
      simp [get?, hne, ih hes hm]

theorem mem_of_get?_eq_some {es : List (String × α)} {k : String} {a : α}
    (h : get? k es = some a) : (k, a) ∈ es := by
  induction es with
  | nil => simp [get?] at h
  | cons f es ih =>
    obtain ⟨l, b⟩ := f
    simp only [get?] at h
    split at h
    next heq => cases h; subst heq; simp
    next => exact List.mem_cons_of_mem _ (ih h)

/-- Sorted entries are determined by what is found under each key. -/
theorem eq_of_get?_eq {xs ys : List (String × α)} (hx : Sorted xs) (hy : Sorted ys)
    (h : ∀ k, get? k xs = get? k ys) : xs = ys := by
  induction xs generalizing ys with
  | nil =>
    cases ys with
    | nil => rfl
    | cons e ys => have := h e.1; simp [get?] at this
  | cons e xs ih =>
    obtain ⟨k, a⟩ := e
    cases ys with
    | nil => have := h k; simp [get?] at this
    | cons f ys =>
      obtain ⟨l, b⟩ := f
      obtain ⟨hk, hxs⟩ := List.pairwise_cons.mp hx
      obtain ⟨hl, hys⟩ := List.pairwise_cons.mp hy
      have hkl : k = l := by
        have g1 : get? k ((l, b) :: ys) = some a := (h k).symm.trans (by simp [get?])
        have g2 : get? l ((k, a) :: xs) = some b := (h l).trans (by simp [get?])
        have m1 := mem_of_get?_eq_some g1
        have m2 := mem_of_get?_eq_some g2
        rcases List.mem_cons.mp m1 with e1 | m1
        · exact congrArg Prod.fst e1
        rcases List.mem_cons.mp m2 with e2 | m2
        · exact (congrArg Prod.fst e2).symm
        · exact absurd (String.lt_trans (hk _ m2) (hl _ m1)) (String.lt_irrefl k)
      subst hkl
      have hab : a = b := by simpa [get?] using h k
      subst hab
      congr 1
      refine ih hxs hys fun q => ?_
      by_cases hq : k = q
      · subst hq; rw [get?_eq_none_of_lt hk, get?_eq_none_of_lt hl]
      · simpa [get?, hq] using h q

end Entries

/-- Values under names. -/
structure Roster (α : Type) where
  entries : List (String × α)
  sorted : Entries.Sorted entries
deriving DecidableEq

namespace Roster

variable {α : Type}

def empty : Roster α := ⟨[], List.Pairwise.nil⟩

instance : EmptyCollection (Roster α) := ⟨empty⟩
instance : Inhabited (Roster α) := ⟨empty⟩

/-- The value under a name. -/
def get? (m : Roster α) (k : String) : Option α := Entries.get? k m.entries

def contains (m : Roster α) (k : String) : Bool := (m.get? k).isSome

/-- Puts a value under a name, in place of the one that was there. -/
def insert (m : Roster α) (k : String) (a : α) : Roster α :=
  ⟨Entries.insert k a m.entries, m.sorted.insert⟩

/-- Removes a name. -/
def erase (m : Roster α) (k : String) : Roster α := ⟨Entries.erase k m.entries, m.sorted.erase⟩

/-- The names in increasing order. -/
def names (m : Roster α) : List String := m.entries.map Prod.fst

def size (m : Roster α) : Nat := m.entries.length

def isEmpty (m : Roster α) : Bool := m.entries.isEmpty

@[simp] theorem get?_empty (k : String) : (∅ : Roster α).get? k = none := rfl

theorem get?_insert (m : Roster α) (k q : String) (a : α) :
    (m.insert k a).get? q = if q = k then some a else m.get? q :=
  Entries.get?_insert k q a m.entries

theorem get?_erase (m : Roster α) (k q : String) :
    (m.erase k).get? q = if q = k then none else m.get? q :=
  Entries.get?_erase m.sorted k q

@[simp] theorem get?_insert_self (m : Roster α) (k : String) (a : α) :
    (m.insert k a).get? k = some a := by simp [get?_insert]

@[simp] theorem get?_erase_self (m : Roster α) (k : String) : (m.erase k).get? k = none := by
  simp [get?_erase]

/-- A roster is determined by what is found under each name. -/
theorem ext_get? {m n : Roster α} (h : ∀ k, m.get? k = n.get? k) : m = n := by
  obtain ⟨xs, hx⟩ := m
  obtain ⟨ys, hy⟩ := n
  simp only [mk.injEq]
  exact Entries.eq_of_get?_eq hx hy h

theorem sorted_names (m : Roster α) : m.names.Pairwise (· < ·) :=
  List.pairwise_map.mpr m.sorted

theorem mem_names_iff (m : Roster α) (k : String) : k ∈ m.names ↔ (m.get? k).isSome := by
  constructor
  · intro h
    obtain ⟨⟨l, a⟩, hm, rfl⟩ := List.mem_map.mp h
    simp [get?, Entries.get?_eq_some_of_mem m.sorted hm]
  · intro h
    obtain ⟨a, ha⟩ := Option.isSome_iff_exists.mp h
    exact List.mem_map.mpr ⟨(k, a), Entries.mem_of_get?_eq_some ha, rfl⟩

end Roster

end CallSignaling
