import CallSignaling.Proofs.Session.Registry
import CallSignaling.Text.Utf8
import Mathlib.Data.List.Basic

/-!
# Handles — a registry that is shared, used and locked in any order

Main statement: `unaliased_run`.  Every entry that is there after a use was there before it or is
the one new entry with the next handle (`Stems`).  So two peers never share a handle, and a handle
that has left the registry (`Gone`) does not come back.
-/

namespace CallSignaling

/-! ### The order of names -/

namespace Utf8

/-- The bytes of a smaller character are smaller, whatever follows. -/
theorem encodeChar_lt {c d : Char} (h : c < d) (s t : Bytes) :
    encodeChar c ++ s < encodeChar d ++ t := by
  have hlt : c.val.toNat < d.val.toNat := UInt32.lt_iff_toNat_lt.mp (Char.lt_def.mp h)
  have hmax : d.val.toNat < 0x110000 := by
    have := d.valid
    simp only [UInt32.isValidChar, Nat.isValidChar] at this
    omega
  unfold encodeChar String.utf8EncodeChar
  generalize c.val.toNat = v at hlt
  generalize d.val.toNat = w at hlt hmax
  have htail : ∀ n, (n % 64 + 128) % 2 ^ 8 = n % 64 + 128 := by omega
  have hfour : ∀ n, (n % 8 + 240) % 2 ^ 8 = n % 8 + 240 := by omega
  -- the bytes of one character are the digits of its code, highest first
  have hdigits : ∀ n, n / 64 / 64 = n / 4096 ∧ n / 4096 / 64 = n / 262144 := by omega
  have hv := hdigits v
  have hw := hdigits w
  have hvtop : v / 262144 % 8 = v / 262144 := Nat.mod_eq_of_lt (by omega)
  have hwtop : w / 262144 % 8 = w / 262144 := Nat.mod_eq_of_lt (by omega)
  dsimp only
  split_ifs <;>
    simp only [List.cons_append, List.nil_append, List.cons_lt_cons_iff, UInt8.lt_iff_toNat_lt,
      ← UInt8.toNat_inj, UInt8.toNat_ofNat', htail, hfour] <;> omega

/-- The order of texts is that of their bytes. -/
theorem encode_lt {x y : String} (h : x < y) : encode x < encode y := by
  have hlt : x.toList < y.toList := h
  unfold encode
  generalize x.toList = cs at hlt
  generalize y.toList = ds at hlt
  induction hlt with
  | @nil d ds =>
    have hne : encodeChar d ≠ [] := by
      intro hd
      have hlen := String.length_utf8EncodeChar d
      have hpos := d.utf8Size_pos
      rw [show String.utf8EncodeChar d = [] from hd] at hlen
      simp at hlen
      omega
    obtain ⟨b, bs, hb⟩ := List.exists_cons_of_ne_nil hne
    rw [List.flatMap_nil, List.flatMap_cons, hb]
    exact .nil
  | rel hcd => exact encodeChar_lt hcd _ _
  | cons _ ih => exact List.append_left_lt ih

end Utf8

namespace SharedRegistry

/-! ### Uses -/

/-- What can be done with a shared registry and with the sessions behind its handles. -/
inductive Use where
  | assign (remote : String)
  | lookup (remote : String)
  | remove (remote : String)
  | drain
  | hold (remote : String)
  | release
  /-- The session behind a handle is locked, whether or not the registry still has it. -/
  | lock (handle : Nat)
  | unlock (handle : Nat)
  /-- The session with a peer comes into a state. -/
  | enter (remote : String) (state : CallState)
  | settle (remote : String) (final : CallState)
deriving DecidableEq, Repr

def lock (s : SharedRegistry) (handle : Nat) : SharedRegistry :=
  if s.isHeld handle then s else { s with held := handle :: s.held }

def unlock (s : SharedRegistry) (handle : Nat) : SharedRegistry :=
  { s with held := s.held.filter (· ≠ handle) }

def enter (s : SharedRegistry) (remote : String) (state : CallState) : SharedRegistry :=
  { s with registry := s.registry.update remote (Session.enter · state) }

/-- Does one use; answers the handles that it returns. -/
def perform (s : SharedRegistry) : Use → List Nat × SharedRegistry
  | .assign remote => ([(s.assign remote).1], (s.assign remote).2)
  | .lookup remote => ((s.lookup remote).toList, s)
  | .remove remote => ((s.remove remote).1.toList, (s.remove remote).2)
  | .drain => s.drain
  | .hold remote => ([], (s.hold remote).2)
  | .release => ([], s.release.2)
  | .lock handle => ([], s.lock handle)
  | .unlock handle => ([], s.unlock handle)
  | .enter remote state => ([], s.enter remote state)
  | .settle remote final => ([], s.settle remote final)

def after (s : SharedRegistry) (u : Use) : SharedRegistry := (s.perform u).2

/-- The registry after some uses. -/
def run (s : SharedRegistry) (uses : List Use) : SharedRegistry := uses.foldl after s

/-- The handles that some uses return. -/
def returned (s : SharedRegistry) : List Use → List Nat
  | [] => []
  | u :: uses => (s.perform u).1 ++ (s.after u).returned uses

/-- The handles that a use takes out of the registry. -/
def dismissed (s : SharedRegistry) : Use → List Nat
  | .assign remote => (s.lookup remote).toList.filter (· ≠ (s.assign remote).1)
  | .remove remote => (s.remove remote).1.toList
  | .drain => s.drain.1
  | _ => []

/-- A handle is that of an entry. -/
def Has (s : SharedRegistry) (handle : Nat) : Prop := ∃ r, s.lookup r = some handle

/-- What holds of a shared registry between two uses; `given` are the handles returned so far. -/
structure Unaliased (s : SharedRegistry) (given : List Nat) : Prop where
  /-- The names increase in the order of their bytes, so that no peer has two entries. -/
  ordered : (s.registry.remotes.map Utf8.encode).Pairwise (· < ·)
  counted : s.registry.remotes.length = s.registry.size
  listed : ∀ r, r ∈ s.registry.remotes ↔ (s.registry.lookup? r).isSome
  named : ∀ r e, s.registry.lookup? r = some e → e.session.remote = r
  apart : ∀ r q h, s.lookup r = some h → s.lookup q = some h → r = q
  /-- The handle of an entry is assigned again exactly if its session is locked or alive. -/
  assigned : ∀ r, s.lookup r = some (s.assign r).1 ↔ ∃ e, s.registry.lookup? r = some e ∧
    (s.isHeld e.handle = true ∨ e.session.state.isTerminal = false)
  kept : ∀ r, s.lookup r = some (s.assign r).1 → (s.assign r).2 = s
  renewed : ∀ r, s.lookup r ≠ some (s.assign r).1 → (s.assign r).1 ∉ given ∧
    (s.assign r).2.held = s.held ∧
    ∀ q, (s.assign r).2.registry.lookup? q =
      if q = r then some ⟨(s.assign r).1, Session.fresh r⟩ else s.registry.lookup? q
  drained : s.drain.1.Nodup ∧ (∀ h, h ∈ s.drain.1 ↔ s.Has h) ∧
    s.drain.2.registry.size = 0 ∧ ∀ r, s.drain.2.registry.lookup? r = none

variable {s : SharedRegistry} {R R' : Registry} {r q : String} {e : Registered} {u : Use} {h : Nat}

theorem has_iff : s.Has h ↔ ∃ r e, s.registry.lookup? r = some e ∧ e.handle = h := by
  unfold Has lookup
  simp only [Option.map_eq_some_iff]

theorem lookup_of_entry (hl : s.registry.lookup? r = some e) : s.lookup r = some e.handle := by
  unfold lookup
  rw [hl, Option.map_some]

/-! ### What a use does -/

/-- An assignment gives the handle of an entry that is in use, or makes a new entry. -/
theorem assign_cases (s : SharedRegistry) (r : String) :
    (∃ e, s.registry.lookup? r = some e ∧
      (s.isHeld e.handle = true ∨ e.session.state.isTerminal = false) ∧
      s.assign r = (e.handle, s)) ∨
    ((∀ e, s.registry.lookup? r = some e →
      s.isHeld e.handle = false ∧ e.session.state.isTerminal = true) ∧
      s.assign r = (s.registry.issued, { s with registry := (s.registry.enrol r).2 })) := by
  unfold assign Registry.assign
  cases hl : s.registry.lookup? r with
  | none => exact .inr ⟨nofun, rfl⟩
  | some e =>
    by_cases hlive : s.isHeld e.handle = true ∨ e.session.state.isTerminal = false
    · refine .inl ⟨e, rfl, hlive, ?_⟩
      simp only
      rw [if_pos (by simpa using hlive)]
    · refine .inr ⟨?_, ?_⟩
      · rintro f hf
        obtain rfl := Option.some.inj hf
        simpa [not_or] using hlive
      · simp only
        rw [if_neg (by simpa using hlive)]
        rfl

/-- The entries of `R'` come from those of `R`; one of them may be new, with the next handle. -/
structure Stems (R R' : Registry) : Prop where
  issued : R.issued ≤ R'.issued
  entry : ∃ r, ∀ q e, R'.lookup? q = some e →
    (∃ f, R.lookup? q = some f ∧ f.handle = e.handle ∧ f.session.remote = e.session.remote) ∨
    q = r ∧ e = ⟨R.issued, Session.fresh r⟩ ∧ R.issued < R'.issued

theorem Stems.of_lookup (hi : R.issued ≤ R'.issued)
    (hl : ∀ q e, R'.lookup? q = some e → R.lookup? q = some e) : Stems R R' :=
  ⟨hi, "", fun q e he => .inl ⟨e, hl q e he, rfl, rfl⟩⟩

theorem Stems.refl (R : Registry) : Stems R R := .of_lookup (Nat.le_refl _) fun _ _ he => he

theorem stems_enrol (R : Registry) (r : String) : Stems R (R.enrol r).2 where
  issued := Nat.le_succ _
  entry := by
    refine ⟨r, fun q e he => ?_⟩
    rw [Registry.lookup?_enrol] at he
    split at he
    next hq => exact .inr ⟨hq, (Option.some.inj he).symm, Nat.lt_succ_self _⟩
    next => exact .inl ⟨e, he, rfl, rfl⟩

theorem stems_remove (R : Registry) (r : String) : Stems R (R.remove r).2 := by
  refine .of_lookup (Nat.le_refl _) fun q e he => ?_
  rw [Registry.lookup?_remove] at he
  split at he
  · cases he
  · exact he

theorem stems_update (R : Registry) (r : String) {f : Session → Session}
    (hf : ∀ x, (f x).remote = x.remote) : Stems R (R.update r f) := by
  cases hl : R.lookup? r with
  | none =>
    have hsame : R.update r f = R := by
      unfold Registry.update
      rw [hl]
    rw [hsame]
    exact .refl R
  | some e =>
    rw [Registry.update_eq_put hl]
    refine ⟨Nat.le_refl _, r, fun q e' he' => .inl ?_⟩
    rw [Registry.lookup?_put] at he'
    split at he'
    next hq =>
      subst hq
      obtain rfl := Option.some.inj he'
      exact ⟨e, hl, rfl, (hf _).symm⟩
    next => exact ⟨e', he', rfl, rfl⟩

theorem stems_after (s : SharedRegistry) (u : Use) : Stems s.registry (s.after u).registry := by
  cases u with
  | assign r =>
    unfold after perform
    rcases s.assign_cases r with ⟨e, -, -, ha⟩ | ⟨-, ha⟩
    · simp only [ha]
      exact .refl _
    · simp only [ha]
      exact stems_enrol _ r
  | remove r => exact stems_remove s.registry r
  | drain => exact .of_lookup (Nat.le_refl _) fun q e he => nomatch he
  | hold r =>
    have hsame : (s.hold r).2.registry = s.registry := by
      unfold hold
      split
      · rfl
      · split <;> rfl
    exact hsame ▸ .refl _
  | lock h =>
    have hsame : (s.lock h).registry = s.registry := by
      unfold lock
      split <;> rfl
    exact hsame ▸ .refl _
  | enter r state => exact stems_update s.registry r (f := (Session.enter · state)) fun _ => rfl
  | settle r final => exact stems_update s.registry r (f := (Session.settle · final)) fun _ => rfl
  | _ => exact .refl _

/-- A handle that a use returns is that of an entry before or after it. -/
theorem has_of_returned (hm : h ∈ (s.perform u).1) : s.Has h ∨ (s.after u).Has h := by
  unfold after
  cases u with
  | assign r =>
    have hh : h = (s.assign r).1 := List.mem_singleton.mp hm
    subst hh
    rcases s.assign_cases r with ⟨e, hl, -, ha⟩ | ⟨-, ha⟩
    · rw [ha]
      exact .inl ⟨r, lookup_of_entry hl⟩
    · have hnew := Registry.lookup?_enrol s.registry r r
      rw [if_pos rfl] at hnew
      simp only [perform, ha]
      exact .inr ⟨r, lookup_of_entry (e := ⟨_, Session.fresh r⟩) hnew⟩
  | lookup r => exact .inl ⟨r, by simpa [perform] using hm⟩
  | remove r => exact .inl ⟨r, by simpa [perform, remove, Registry.remove, lookup] using hm⟩
  | drain =>
    left
    simp only [perform, drain, Registry.drain, List.mem_mergeSort, List.mem_map] at hm
    obtain ⟨e, ⟨⟨r, e⟩, hr, rfl⟩, rfl⟩ := hm
    exact ⟨r, lookup_of_entry ((Registry.mem_entries_iff _ _ _).mp hr)⟩
  | _ => cases hm

/-! ### Handles that are in use -/

/-- Every entry has its own handle, which has been given out, and the name of its peer. -/
structure Sound (s : SharedRegistry) : Prop where
  below : ∀ r e, s.registry.lookup? r = some e → e.handle < s.registry.issued
  named : ∀ r e, s.registry.lookup? r = some e → e.session.remote = r
  apart : ∀ r q e f, s.registry.lookup? r = some e → s.registry.lookup? q = some f →
    e.handle = f.handle → r = q

theorem sound_empty : Sound empty := by
  have hnone : ∀ r, empty.registry.lookup? r = none := fun _ => rfl
  constructor <;> simp [hnone]

theorem Sound.after (hs : s.Sound) (u : Use) : (s.after u).Sound := by
  have hst := stems_after s u
  obtain ⟨r, hentry⟩ := hst.entry
  refine ⟨fun q e he => ?_, fun q e he => ?_, fun q p e f he hf hef => ?_⟩
  · rcases hentry q e he with ⟨f, hf, hh, -⟩ | ⟨-, rfl, hlt⟩
    · rw [← hh]
      exact Nat.lt_of_lt_of_le (hs.below q f hf) hst.issued
    · exact hlt
  · rcases hentry q e he with ⟨f, hf, -, hn⟩ | ⟨rfl, rfl, -⟩
    · rw [← hn]
      exact hs.named q f hf
    · rfl
  · -- an old handle is below the new one
    rcases hentry q e he with ⟨e', he', hh, -⟩ | ⟨rfl, rfl, -⟩
    · rcases hentry p f hf with ⟨f', hf', hh', -⟩ | ⟨rfl, rfl, -⟩
      · exact hs.apart q p e' f' he' hf' (by rw [hh, hh', hef])
      · have := hs.below q e' he'
        simp only at hef
        omega
    · rcases hentry p f hf with ⟨f', hf', hh', -⟩ | ⟨rfl, rfl, -⟩
      · have := hs.below p f' hf'
        simp only at hef
        omega
      · rfl

theorem Sound.run (hs : s.Sound) (uses : List Use) : (s.run uses).Sound := by
  induction uses generalizing s with
  | nil => exact hs
  | cons u uses ih => exact ih (hs.after u)

theorem issued_run (s : SharedRegistry) (uses : List Use) :
    s.registry.issued ≤ (s.run uses).registry.issued := by
  induction uses generalizing s with
  | nil => exact Nat.le_refl _
  | cons u uses ih => exact Nat.le_trans (stems_after s u).issued (ih (s.after u))

/-- Whatever has been returned has been given out. -/
theorem Sound.returned_lt (hs : s.Sound) (uses : List Use) (hm : h ∈ s.returned uses) :
    h < (s.run uses).registry.issued := by
  induction uses generalizing s with
  | nil => cases hm
  | cons u uses ih =>
    rcases List.mem_append.mp hm with hm | hm
    · have hissued := (stems_after s u).issued
      have hrun := issued_run (s.after u) uses
      show h < ((s.after u).run uses).registry.issued
      rcases has_of_returned hm with hh | hh
      · obtain ⟨r, e, he, rfl⟩ := has_iff.mp hh
        have := hs.below r e he
        omega
      · obtain ⟨r, e, he, rfl⟩ := has_iff.mp hh
        have := (hs.after u).below r e he
        omega
    · exact ih (hs.after u) hm

/-! ### Handles that have left -/

/-- A handle that was given out is in the registry no more. -/
def Gone (s : SharedRegistry) (handle : Nat) : Prop :=
  handle < s.registry.issued ∧ ¬ s.Has handle

theorem Gone.after (hg : s.Gone h) (u : Use) : (s.after u).Gone h := by
  have hst := stems_after s u
  refine ⟨Nat.lt_of_lt_of_le hg.1 hst.issued, fun hh => ?_⟩
  obtain ⟨q, e, he, rfl⟩ := has_iff.mp hh
  obtain ⟨r, hentry⟩ := hst.entry
  rcases hentry q e he with ⟨f, hf, hfe, -⟩ | ⟨-, rfl, -⟩
  · exact hg.2 (has_iff.mpr ⟨q, f, hf, hfe⟩)
  · exact Nat.lt_irrefl _ hg.1

/-- No use returns such a handle. -/
theorem Gone.not_mem_returned (hg : s.Gone h) (uses : List Use) : h ∉ s.returned uses := by
  induction uses generalizing s with
  | nil => simp [returned]
  | cons u uses ih =>
    intro hm
    rcases List.mem_append.mp hm with hm | hm
    · rcases has_of_returned hm with hh | hh
      · exact hg.2 hh
      · exact (hg.after u).2 hh
    · exact ih (hg.after u) hm

/-- Only the entry of a peer has left or was replaced. -/
theorem Sound.gone_of_others (hs : s.Sound) {s' : SharedRegistry} (hl : s.lookup r = some h)
    (hissued : s.registry.issued ≤ s'.registry.issued)
    (hothers : ∀ q e, s'.registry.lookup? q = some e → e.handle = h →
      q ≠ r ∧ s.registry.lookup? q = some e) : s'.Gone h := by
  obtain ⟨e, he, rfl⟩ := Option.map_eq_some_iff.mp hl
  refine ⟨Nat.lt_of_lt_of_le (hs.below r e he) hissued, fun hh => ?_⟩
  obtain ⟨q, f, hf, hfe⟩ := has_iff.mp hh
  obtain ⟨hq, hold⟩ := hothers q f hf hfe
  exact hq (hs.apart q r f e hold he hfe)

theorem Sound.gone_of_dismissed (hs : s.Sound) (hm : h ∈ s.dismissed u) :
    (s.after u).Gone h := by
  have hissued := (stems_after s u).issued
  cases u with
  | assign r =>
    obtain ⟨hl, hne⟩ : s.lookup r = some h ∧ h ≠ (s.assign r).1 := by
      simpa [dismissed] using hm
    refine hs.gone_of_others hl hissued fun q e he heh => ?_
    rcases s.assign_cases r with ⟨f, hf, -, ha⟩ | ⟨-, ha⟩
    · rw [lookup_of_entry hf] at hl
      exact absurd (Option.some.inj hl).symm (by rwa [ha] at hne)
    · simp only [SharedRegistry.after, perform, ha, Registry.lookup?_enrol] at he
      split at he
      next =>
        obtain rfl := Option.some.inj he
        exact absurd heh.symm (by rwa [ha] at hne)
      next hq => exact ⟨hq, he⟩
  | remove r =>
    have hl : s.lookup r = some h := by
      simpa [dismissed, SharedRegistry.remove, Registry.remove, SharedRegistry.lookup] using hm
    refine hs.gone_of_others hl hissued fun q e he heh => ?_
    have he' : (s.registry.remove r).2.lookup? q = some e := he
    rw [Registry.lookup?_remove] at he'
    split at he'
    next => cases he'
    next hq => exact ⟨hq, he'⟩
  | drain =>
    have hh := has_of_returned (u := .drain) (s := s) hm
    rcases hh with hh | ⟨r, hr⟩
    · obtain ⟨r, hr⟩ := hh
      exact hs.gone_of_others hr hissued fun q e he _ => nomatch he
    · cases hr
  | _ => cases hm

/-! ### Between two uses -/

theorem Sound.drained (hs : s.Sound) : s.drain.1.Nodup ∧ ∀ h, h ∈ s.drain.1 ↔ s.Has h := by
  have hmem : ∀ r e, (r, e) ∈ s.registry.entries.entries ↔ s.registry.lookup? r = some e :=
    s.registry.mem_entries_iff
  refine ⟨?_, fun h => ?_⟩
  · show (((s.registry.entries.entries.map Prod.snd).map Registered.handle).mergeSort
      (· ≤ ·)).Nodup
    rw [(List.mergeSort_perm _ _).nodup_iff, List.map_map]
    refine List.pairwise_map.mpr (List.Pairwise.imp_of_mem ?_ s.registry.entries.sorted)
    rintro ⟨r, e⟩ ⟨q, f⟩ he hf hlt heq
    have hrq := hs.apart r q e f ((hmem r e).mp he) ((hmem q f).mp hf) heq
    exact String.lt_irrefl q (hrq ▸ hlt)
  · rw [has_iff]
    simp only [drain, Registry.drain, List.mem_mergeSort, List.mem_map, Prod.exists]
    constructor
    · rintro ⟨e, ⟨r, e, he, rfl⟩, rfl⟩
      exact ⟨r, e, (hmem r e).mp he, rfl⟩
    · rintro ⟨r, e, he, rfl⟩
      exact ⟨e, ⟨r, e, (hmem r e).mpr he, rfl⟩, rfl⟩

theorem Sound.unaliased (hs : s.Sound) {given : List Nat}
    (hgiven : ∀ h ∈ given, h < s.registry.issued) : Unaliased s given := by
  have hassigned : ∀ r, s.lookup r = some (s.assign r).1 → ∃ e, s.registry.lookup? r = some e ∧
      (s.isHeld e.handle = true ∨ e.session.state.isTerminal = false) ∧
      s.assign r = (e.handle, s) := by
    intro r hr
    rcases s.assign_cases r with hlive | ⟨-, ha⟩
    · exact hlive
    · -- the next handle is that of no entry
      obtain ⟨e, he, heq⟩ := Option.map_eq_some_iff.mp hr
      have := hs.below r e he
      rw [ha] at heq
      simp only at heq
      omega
  refine
    { ordered := ?_
      counted := by simp [Registry.remotes, Registry.size, Roster.names, Roster.size]
      listed := s.registry.entries.mem_names_iff
      named := hs.named
      apart := fun r q h hr hq => ?_
      assigned := fun r => ⟨fun hr => ?_, fun hlive => ?_⟩
      kept := fun r hr => ?_
      renewed := fun r hr => ?_
      drained := ⟨hs.drained.1, hs.drained.2, rfl, fun _ => rfl⟩ }
  · exact List.pairwise_map.mpr (s.registry.entries.sorted_names.imp Utf8.encode_lt)
  · obtain ⟨e, he, rfl⟩ := Option.map_eq_some_iff.mp hr
    obtain ⟨f, hf, hef⟩ := Option.map_eq_some_iff.mp hq
    exact hs.apart r q e f he hf hef.symm
  · obtain ⟨e, he, hlive, -⟩ := hassigned r hr
    exact ⟨e, he, hlive⟩
  · obtain ⟨e, he, hlive⟩ := hlive
    rcases s.assign_cases r with ⟨f, hf, -, ha⟩ | ⟨hdead, -⟩
    · rw [ha]
      exact lookup_of_entry hf
    · obtain ⟨hfree, hterm⟩ := hdead e he
      simp [hfree, hterm] at hlive
  · obtain ⟨e, -, -, ha⟩ := hassigned r hr
    rw [ha]
  · rcases s.assign_cases r with ⟨e, he, -, ha⟩ | ⟨-, ha⟩
    · rw [ha] at hr
      exact absurd (lookup_of_entry he) hr
    · rw [ha]
      exact ⟨fun hm => Nat.lt_irrefl _ (hgiven _ hm), rfl, Registry.lookup?_enrol s.registry r⟩

/-- However a registry is used and its sessions are locked and end, each peer has at most one entry
with a handle of its own; an assignment renews the handle exactly if the session has ended and is
not locked, and a handle that has left the registry or was replaced is never returned again. -/
theorem unaliased_run (uses : List Use) :
    let s := run empty uses
    Unaliased s (returned empty uses) ∧
      ∀ u later h, h ∈ s.dismissed u → h ∉ (s.after u).returned later := by
  intro s
  have hs : s.Sound := sound_empty.run uses
  refine ⟨hs.unaliased fun h hm => sound_empty.returned_lt uses hm, fun u later h hm => ?_⟩
  exact (hs.gone_of_dismissed hm).not_mem_returned later

/-- A session ends while it is locked, so that it is assigned once more; when it is free again, its
peer gets another one. -/
theorem unaliased_run_renewed :
    let s := run empty [.assign "b", .assign "c", .lock 0, .settle "b" (.failed .timeout),
      .assign "b", .unlock 0]
    let later := [.lookup "b", .remove "c", .assign "b", .drain]
    (s.lookup "b" = some 0 ∧ (s.assign "b").1 = 2) ∧ 0 ∈ s.dismissed (.assign "b") ∧
      0 ∉ (s.after (.assign "b")).returned later := by
  intro s later
  have hm : 0 ∈ s.dismissed (.assign "b") := by decide +kernel
  obtain ⟨-, hgone⟩ := unaliased_run [.assign "b", .assign "c", .lock 0,
    .settle "b" (.failed .timeout), .assign "b", .unlock 0]
  exact ⟨by decide +kernel, hm, hgone _ _ _ hm⟩

end SharedRegistry

end CallSignaling
