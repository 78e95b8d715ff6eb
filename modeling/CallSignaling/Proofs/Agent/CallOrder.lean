import CallSignaling.Proofs.Agent.Turn
import CallSignaling.Proofs.Transport.CallOrder

/-!
# The order of the calls in a run

Main statement: `ordered_run`.  Whatever moves are made, every transport is called in the order of
an exchange, and a description is made only after the local tracks were handed over.
-/

namespace CallSignaling.Agent

variable {a b : Agent} {i : Nat} {t : Scripted}

theorem Lines.ordered (ha : a.Lines) (ht : a.transport? i = some t) : t.Ordered := by
  rcases ha.owner i t ht with ⟨k, hk⟩ | ⟨L, hL, hi⟩
  · exact hk.ordered
  · obtain ⟨u, st, k, hh, hat⟩ := ha.holds (lookup_of_line? hL).1 hi
    obtain rfl : u = t := Option.some.inj (hh.transport.symm.trans ht)
    exact hat.ordered

/-- A description that a move makes finds accepted tracks in the log, if there are any to send. -/
theorem Effect.tracks {m : Move} (he : Effect m a b) (hb : b.Lines) (ht : b.transport? i = some t)
    {pre post : List Call} {c : Call} (hc : t.calls = pre ++ c :: post)
    (hnew : (a.calls i).length ≤ pre.length) (hcreate : c.isCreate = true) (hts : a.tracks ≠ []) :
    ∃ ids, ids ≠ [] ∧ .addTracks ids ∈ pre ∧ t.refusal (.addTracks ids) = none := by
  obtain ⟨more, hmore, hg⟩ := he.grows i t ht
  have hold : a.calls i <+: t.calls := ⟨more, hmore.symm⟩
  have hpre : pre <+: t.calls := ⟨c :: post, hc.symm⟩
  obtain ⟨x, rfl⟩ := List.prefix_of_prefix_length_le hold hpre hnew
  have hx : more = x ++ c :: post := by
    rw [hmore, List.append_assoc] at hc
    exact List.append_cancel_left hc
  obtain ⟨ids, hne, hm⟩ := hg x c post hx hcreate hts
  refine ⟨ids, hne, hm, ?_⟩
  cases hr : t.refusal (.addTracks ids) with
  | none => rfl
  | some reason =>
    obtain ⟨p, q, hpq⟩ := List.append_of_mem hm
    have hcut : t.calls = p ++ .addTracks ids :: (q ++ c :: post) := by
      rw [hc, hpq]
      simp
    have hlast := (hb.ordered ht).refused p _ _ reason hcut rfl hr
    have hmem : c ∈ [Call.close] := by
      rw [← hlast]
      simp
    obtain rfl : c = .close := by simpa using hmem
    simp [Call.isCreate] at hcreate

/-- After any moves the log of every transport is in order; and a further move lets it grow, with a
description only behind accepted tracks if the agent has any. -/
theorem ordered_run (localId : String) (timeout : Option Nat) (tracks : List Track)
    (behaviour : Behaviour) (now : Nat) (history : List Move) :
    let a := (fresh localId timeout tracks (.fresh behaviour) now).run history
    (∀ i t, a.transport? i = some t → t.Ordered) ∧
    ∀ m i t, (a.after m).transport? i = some t → a.calls i <+: t.calls ∧
      ∀ pre c post, t.calls = pre ++ c :: post → (a.calls i).length ≤ pre.length →
        c.isCreate = true → a.tracks ≠ [] →
        ∃ ids, ids ≠ [] ∧ .addTracks ids ∈ pre ∧ t.refusal (.addTracks ids) = none := by
  have ha := sound_run localId timeout tracks behaviour now history
  refine ⟨fun i t => ha.lines.ordered, fun m i t ht => ⟨?_, fun pre c post hc hnew hcr hts => ?_⟩⟩
  · obtain ⟨more, hmore, -⟩ := (perform_turn ha m).effect.grows i t ht
    exact ⟨more, hmore.symm⟩
  · exact (perform_turn ha m).effect.tracks (ha.after m).lines ht hc hnew hcr hts

end CallSignaling.Agent
