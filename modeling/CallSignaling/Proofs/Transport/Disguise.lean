import CallSignaling.Proofs.Transport.Pool
import CallSignaling.Proofs.Transport.Replay

/-!
# Disguise — other transports in the place of those there are

Under a disguise other candidates are refused, and something else stands in the place of the
transports that are out of use.  Every call on a transport in use is answered as it would be
without, but for the answer to a candidate.
-/

namespace CallSignaling

/-- What the transports are made to look like. -/
structure Disguise where
  /-- The candidates that are refused, from those that were to be. -/
  refused : List String → List String
  /-- The numbers of the transports that are out of use. -/
  idle : Nat → Bool
  /-- What stands in the place of a transport out of use. -/
  relic : Scripted → Scripted

variable {D : Disguise}

def Behaviour.under (b : Behaviour) (D : Disguise) : Behaviour :=
  { b with rejectCandidates := D.refused b.rejectCandidates }

/-! ### Transports in use -/

namespace Scripted

def under (t : Scripted) (D : Disguise) : Scripted := { t with behaviour := t.behaviour.under D }

theorem attempt_under (t : Scripted) (c : Call) (reason : Option String) :
    (t.under D).attempt c reason = ((t.attempt c reason).1, (t.attempt c reason).2.under D) := by
  have hclosed : (t.under D).closed = t.closed := rfl
  unfold attempt
  rw [hclosed]
  split
  · rfl
  · cases reason <;> rfl

theorem describe_under (t : Scripted) (c : Call) (kind : String) (reason : Option String) :
    (t.under D).describe c kind reason =
      ((t.describe c kind reason).1, (t.describe c kind reason).2.under D) := by
  unfold describe
  rw [attempt_under]
  rcases t.attempt c reason with ⟨_ | _, _⟩ <;> rfl

/-- The answer to a candidate may differ, what becomes of the transport does not. -/
theorem addCandidate_under (t : Scripted) (c : String) :
    ((t.under D).addCandidate c).2 = (t.addCandidate c).2.under D := by
  have hclosed : (t.under D).closed = t.closed := rfl
  unfold addCandidate
  rw [attempt_snd, attempt_snd, hclosed]
  split <;> rfl

/-- A call that is answered in the same way. -/
def Steady {α : Type} (D : Disguise) (op : Scripted → Reply α) : Prop :=
  ∀ t : Scripted, op (t.under D) = ((op t).1, (op t).2.under D)

theorem steady_addTracks (ts : List Track) : Steady D (addTracks · ts) :=
  fun t => attempt_under t _ _

theorem steady_createOffer : Steady D createOffer := fun t => describe_under t _ _ _

theorem steady_createAnswer : Steady D createAnswer := fun t => describe_under t _ _ _

theorem steady_setLocal (sdp : String) : Steady D (setLocal · sdp) := fun t => attempt_under t _ _

theorem steady_setRemote (sdp : String) : Steady D (setRemote · sdp) := fun t => attempt_under t _ _

end Scripted

/-! ### The pool -/

/-- What stands in the place of the transport with a number. -/
def Disguise.transport (D : Disguise) (id : Nat) (t : Scripted) : Scripted :=
  if D.idle id then D.relic t else t.under D

namespace Pool

def under (p : Pool) (D : Disguise) : Pool :=
  { behaviour := p.behaviour.under D, transports := p.transports.mapIdx D.transport }

variable {p : Pool} {id : Nat}

theorem getElem?_under (p : Pool) (i : Nat) :
    (p.under D).transports[i]? = p.transports[i]?.map (D.transport i) := List.getElem?_mapIdx

theorem transport_of_used (hid : D.idle id = false) (t : Scripted) :
    D.transport id t = t.under D := by
  unfold Disguise.transport
  rw [hid, if_neg Bool.false_ne_true]

theorem length_request {α : Type} (p : Pool) (id : Nat) (op : Scripted → Scripted.Reply α) :
    (p.request id op).2.transports.length = p.transports.length := by
  unfold request
  split
  · rfl
  · exact List.length_set

/-- A transport in use takes a call in its disguise as it would without. -/
theorem request_snd_under {α : Type} {op : Scripted → Scripted.Reply α} (hid : D.idle id = false)
    (hop : ∀ t : Scripted, (op (t.under D)).2 = (op t).2.under D) (p : Pool) :
    ((p.under D).request id op).2 = (p.request id op).2.under D := by
  unfold request
  rw [getElem?_under]
  cases p.transports[id]? with
  | none => rfl
  | some t =>
    simp only [Option.map_some, transport_of_used hid, hop]
    simp only [under, List.mapIdx_set, transport_of_used hid]

theorem request_under {α : Type} {op : Scripted → Scripted.Reply α} (hid : D.idle id = false)
    (hop : Scripted.Steady D op) (p : Pool) :
    (p.under D).request id op = ((p.request id op).1, (p.request id op).2.under D) := by
  refine Prod.ext ?_ (request_snd_under hid (fun t => by rw [hop t]) p)
  unfold request
  rw [getElem?_under]
  cases p.transports[id]? with
  | none => rfl
  | some t => simp only [Option.map_some, transport_of_used hid, hop t]

theorem create_under (hnew : D.idle p.transports.length = false) (r : String) :
    (p.under D).create r = ((p.create r).1, (p.create r).2.under D) := by
  have hrej : (p.under D).behaviour.rejectCreate = p.behaviour.rejectCreate := rfl
  unfold create
  rw [hrej]
  split
  · rfl
  · simp only [under, List.length_mapIdx, List.mapIdx_concat, transport_of_used hnew]
    rfl

theorem length_create_le (p : Pool) (r : String) :
    p.transports.length ≤ (p.create r).2.transports.length := by
  unfold create
  split
  · exact Nat.le_refl _
  · simp

theorem create_ok {n : Nat} {r : String} (h : (p.create r).1 = .ok n) :
    n = p.transports.length := by
  unfold create at h
  split at h
  · simp at h
  · exact (Except.ok.inj h).symm

theorem close_under (hid : D.idle id = false) (p : Pool) :
    (p.under D).close id = (p.close id).under D := by
  refine eq_of_getElem? rfl fun i => ?_
  rw [getElem?_close, getElem?_under, getElem?_under, getElem?_close]
  by_cases hi : i = id
  · subst hi
    rw [if_pos rfl, if_pos rfl, Option.map_map, Option.map_map]
    refine congrArg (Option.map · _) (funext fun t => ?_)
    show (D.transport i t).close = D.transport i t.close
    rw [transport_of_used hid, transport_of_used hid]
    rfl
  · rw [if_neg hi, if_neg hi]

theorem length_close (p : Pool) (id : Nat) :
    (p.close id).transports.length = p.transports.length := List.length_modify ..

theorem closes_under {ids : List Nat} (hids : ∀ id ∈ ids, D.idle id = false) (p : Pool) :
    ids.foldl close (p.under D) = (ids.foldl close p).under D := by
  induction ids generalizing p with
  | nil => rfl
  | cons id ids ih =>
    rw [List.foldl_cons, List.foldl_cons, close_under (hids id (List.mem_cons_self ..))]
    exact ih (fun i hi => hids i (List.mem_cons_of_mem id hi)) (p.close id)

theorem length_closes (ids : List Nat) (p : Pool) :
    (ids.foldl close p).transports.length = p.transports.length := by
  induction ids generalizing p with
  | nil => rfl
  | cons id ids ih => rw [List.foldl_cons, ih, length_close]

end Pool

end CallSignaling
