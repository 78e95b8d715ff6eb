import CallSignaling.Transport.Pool

/-!
# The pool by its numbers
-/

namespace CallSignaling

namespace Pool

variable {p : Pool} {id : Nat} {t : Scripted}

/-- The pool with this transport under a number, which is in use or the next one. -/
def put (p : Pool) (id : Nat) (t : Scripted) : Pool :=
  { p with transports := p.transports.take id ++ t :: p.transports.drop (id + 1) }

theorem getElem?_put (h : id ≤ p.transports.length) (t : Scripted) (i : Nat) :
    (p.put id t).transports[i]? = if i = id then some t else p.transports[i]? := by
  have hl : (p.transports.take id).length = id := List.length_take_of_le h
  unfold put
  rcases Nat.lt_trichotomy i id with hi | rfl | hi
  · rw [List.getElem?_append_left (by omega), List.getElem?_take_of_lt hi, if_neg (by omega)]
  · rw [List.getElem?_append_right (by omega), hl, Nat.sub_self, if_pos rfl]
    rfl
  · rw [List.getElem?_append_right (by omega), hl, if_neg (by omega)]
    obtain ⟨j, rfl⟩ := Nat.exists_eq_add_of_lt hi
    rw [show id + j + 1 - id = j + 1 by omega, List.getElem?_cons_succ, List.getElem?_drop]
    congr 1
    omega

theorem getElem?_put_self (h : id ≤ p.transports.length) (t : Scripted) :
    (p.put id t).transports[id]? = some t := by
  rw [getElem?_put h, if_pos rfl]

theorem lt_length_put (h : id ≤ p.transports.length) (t : Scripted) :
    id < (p.put id t).transports.length := by
  obtain ⟨hl, -⟩ := List.getElem?_eq_some_iff.mp (getElem?_put_self h t)
  exact hl

/-- Pools with the same transports under the same numbers are the same. -/
theorem eq_of_getElem? {p q : Pool} (hb : p.behaviour = q.behaviour)
    (ht : ∀ i : Nat, p.transports[i]? = q.transports[i]?) : p = q := by
  obtain ⟨b, ts⟩ := p
  obtain ⟨c, us⟩ := q
  simp only [mk.injEq]
  exact ⟨hb, List.ext_getElem? ht⟩

theorem put_eq_self (h : p.transports[id]? = some t) : p.put id t = p := by
  have hl : id ≤ p.transports.length := by
    obtain ⟨hl, -⟩ := List.getElem?_eq_some_iff.mp h
    exact Nat.le_of_lt hl
  refine eq_of_getElem? rfl fun i => ?_
  rw [getElem?_put hl]
  split
  next e => rw [e, h]
  next => rfl

/-! ### Operations -/

theorem request_put {α : Type} (h : id ≤ p.transports.length) (t : Scripted)
    (op : Scripted → Scripted.Reply α) :
    (p.put id t).request id op = ((op t).1, p.put id (op t).2) := by
  unfold request
  rw [getElem?_put_self h]
  refine Prod.ext rfl (eq_of_getElem? rfl fun i => ?_)
  simp only [List.getElem?_set, getElem?_put h, lt_length_put h t]
  by_cases hi : i = id
  · simp [hi]
  · simp [hi, Ne.symm hi]

theorem create_eq (p : Pool) (remote : String) :
    p.create remote =
      if p.behaviour.rejectCreate then (.error (.setup "mock factory refused"), p)
      else (.ok p.transports.length,
        p.put p.transports.length (Scripted.create remote p.behaviour)) := by
  simp only [create, put, List.take_length, List.drop_eq_nil_of_le (Nat.le_succ _)]

theorem getElem?_close (p : Pool) (id i : Nat) :
    (p.close id).transports[i]? =
      if i = id then p.transports[i]?.map Scripted.close else p.transports[i]? := by
  simp only [close, List.getElem?_modify, @eq_comm _ id i]
  split
  · rfl
  · simp

end Pool

end CallSignaling
