import CallSignaling.Session.Registry

/-!
# The registry by what is found in it
-/

namespace CallSignaling

namespace Roster

variable {α : Type}

theorem insert_insert (m : Roster α) (k : String) (a b : α) :
    (m.insert k a).insert k b = m.insert k b := by
  refine ext_get? fun q => ?_
  simp only [get?_insert]
  split <;> rfl

theorem insert_eq_self {m : Roster α} {k : String} {a : α} (h : m.get? k = some a) :
    m.insert k a = m := by
  refine ext_get? fun q => ?_
  rw [get?_insert]
  split
  next e => rw [e, h]
  next => rfl

theorem erase_insert_self (m : Roster α) (k : String) (a : α) :
    (m.insert k a).erase k = m.erase k := by
  refine ext_get? fun q => ?_
  simp only [get?_erase, get?_insert]
  split <;> rfl

theorem erase_eq_self {m : Roster α} {k : String} (h : m.get? k = none) : m.erase k = m := by
  refine ext_get? fun q => ?_
  rw [get?_erase]
  split
  next e => rw [e, h]
  next => rfl

end Roster

namespace Registry

variable {R : Registry} {r : String} {e : Registered}

/-- The registry with this entry for a peer. -/
def put (R : Registry) (r : String) (e : Registered) : Registry :=
  { R with entries := R.entries.insert r e }

theorem lookup?_put (R : Registry) (r q : String) (e : Registered) :
    (R.put r e).lookup? q = if q = r then some e else R.lookup? q :=
  Roster.get?_insert ..

@[simp] theorem lookup?_put_self (R : Registry) (r : String) (e : Registered) :
    (R.put r e).lookup? r = some e := by
  rw [lookup?_put, if_pos rfl]

theorem put_put (R : Registry) (r : String) (e f : Registered) :
    (R.put r e).put r f = R.put r f := by
  simp only [put, Roster.insert_insert]

theorem put_eq_self (h : R.lookup? r = some e) : R.put r e = R := by
  simp only [put, Roster.insert_eq_self h]

theorem update_put (R : Registry) (r : String) (h : Nat) (s : Session) (f : Session → Session) :
    (R.put r ⟨h, s⟩).update r f = R.put r ⟨h, f s⟩ := by
  rw [update, lookup?_put_self]
  exact put_put R r _ _

theorem update_eq_put {f : Session → Session} (h : R.lookup? r = some e) :
    R.update r f = R.put r ⟨e.handle, f e.session⟩ := by
  rw [update, h]
  rfl

/-! ### Assignment -/

theorem assign_of_live {held : Nat → Bool} (h : R.lookup? r = some e)
    (hl : e.session.state.isTerminal = false) : R.assign held r = (e.handle, R) := by
  unfold assign
  rw [h]
  simp [hl]

theorem assign_of_none {held : Nat → Bool} (h : R.lookup? r = none) :
    R.assign held r = R.enrol r := by
  unfold assign
  rw [h]

theorem lookup?_enrol (R : Registry) (r q : String) :
    (R.enrol r).2.lookup? q = if q = r then some ⟨R.issued, Session.fresh r⟩ else R.lookup? q :=
  Roster.get?_insert ..

/-! ### Removal -/

theorem lookup?_remove (R : Registry) (r q : String) :
    (R.remove r).2.lookup? q = if q = r then none else R.lookup? q :=
  Roster.get?_erase ..

theorem remove_put (R : Registry) (r : String) (e : Registered) :
    (R.put r e).remove r = (some e, (R.remove r).2) := by
  unfold remove
  rw [lookup?_put_self]
  simp only [put, Roster.erase_insert_self]

theorem mem_entries_iff (R : Registry) (r : String) (e : Registered) :
    (r, e) ∈ R.entries.entries ↔ R.lookup? r = some e :=
  ⟨Entries.get?_eq_some_of_mem R.entries.sorted, Entries.mem_of_get?_eq_some⟩

end Registry

end CallSignaling
