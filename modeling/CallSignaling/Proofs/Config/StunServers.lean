import CallSignaling.Config
import CallSignaling.Proofs.Text.Pieces

/-!
# StunServers — the list of STUN servers is read back

Main statement: `stunUrls_reread`.  A text is read as a list exactly if it is joined of pieces that
write the list (`stunList_eq_iff`).
-/

namespace CallSignaling.Config

/-- Nothing but blanks. -/
def Blank (s : String) : Prop := ∀ c ∈ s.toList, Text.isBlank c = true

instance (s : String) : Decidable (Blank s) :=
  List.decidableBAll (fun c => Text.isBlank c = true) s.toList

/-- A text that is read as itself between commas. -/
structure Entry (u : String) : Prop where
  ne_empty : u ≠ ""
  plain : ',' ∉ u.toList
  trimmed : Text.Trimmed u.toList

instance (u : String) : Decidable (Entry u) :=
  decidable_of_iff (u ≠ "" ∧ ',' ∉ u.toList ∧ Text.Trimmed u.toList)
    ⟨fun h => ⟨h.1, h.2.1, h.2.2⟩, fun h => ⟨h.ne_empty, h.plain, h.trimmed⟩⟩

/-- The pieces `ps` write the list `us`: one for each text, with blanks around it, and blank ones
anywhere. -/
inductive Writes : List String → List String → Prop
  | done : Writes [] []
  | blank {b : String} {ps us : List String} : Blank b → Writes ps us → Writes (b :: ps) us
  | entry {before u after : String} {ps us : List String} : Blank before → Blank after →
    Writes ps us → Writes ((before ++ u ++ after) :: ps) (u :: us)

/-- The list that is read of pieces. -/
def entries (ps : List (List Char)) : List String :=
  ((ps.map Text.trimChars).filter fun p => !p.isEmpty).map String.ofList

variable {s : String} {us ps : List String}

theorem stunList_eq (s : String) : stunList s = entries (Text.pieces ',' s.toList) := rfl

theorem entries_cons_of_eq_nil {p : List Char} (h : Text.trimChars p = [])
    (ps : List (List Char)) : entries (p :: ps) = entries ps := by
  simp [entries, h]

theorem entries_cons_of_ne_nil {p : List Char} (h : Text.trimChars p ≠ [])
    (ps : List (List Char)) :
    entries (p :: ps) = String.ofList (Text.trimChars p) :: entries ps := by
  simp [entries, h]

/-! ### Pieces that write a list -/

/-- A list is written by its own texts. -/
theorem writes_self (us : List String) : Writes us us := by
  have hnone : Blank "" := fun c hc => absurd hc List.not_mem_nil
  induction us with
  | nil => exact .done
  | cons u us ih =>
    have hu := Writes.entry (u := u) hnone hnone ih
    rwa [String.empty_append, String.append_empty] at hu

theorem comma_not_mem_of_blank (h : Blank s) : ',' ∉ s.toList := fun hc =>
  absurd (h ',' hc) (by decide)

theorem comma_not_mem_of_writes (h : Writes ps us) (hus : ∀ u ∈ us, Entry u) :
    ∀ p ∈ ps, ',' ∉ p.toList := by
  induction h with
  | done => exact fun p hp => absurd hp List.not_mem_nil
  | blank hb _ ih => exact List.forall_mem_cons.mpr ⟨comma_not_mem_of_blank hb, ih hus⟩
  | entry hbefore hafter _ ih =>
    obtain ⟨hu, hus⟩ := List.forall_mem_cons.mp hus
    refine List.forall_mem_cons.mpr ⟨?_, ih hus⟩
    rw [String.toList_append, String.toList_append, List.mem_append, List.mem_append, not_or,
      not_or]
    exact ⟨⟨comma_not_mem_of_blank hbefore, hu.plain⟩, comma_not_mem_of_blank hafter⟩

/-- What is written is read. -/
theorem entries_of_writes (h : Writes ps us) (hus : ∀ u ∈ us, Entry u) :
    entries (ps.map String.toList) = us := by
  induction h with
  | done => rfl
  | blank hb _ ih =>
    rw [List.map_cons, entries_cons_of_eq_nil (Text.trimChars_eq_nil_iff.mpr hb), ih hus]
  | @entry before u after ps us hbefore hafter _ ih =>
    obtain ⟨hu, hus⟩ := List.forall_mem_cons.mp hus
    have htrim : Text.trimChars (before ++ u ++ after).toList = u.toList := by
      rw [String.toList_append, String.toList_append]
      exact Text.trimChars_padded hbefore hafter hu.trimmed
    have hne : Text.trimChars (before ++ u ++ after).toList ≠ [] := by
      rw [htrim]
      exact fun hnil => hu.ne_empty (String.toList_eq_nil_iff.mp hnil)
    rw [List.map_cons, entries_cons_of_ne_nil hne, htrim, String.ofList_toList, ih hus]

/-- Pieces write what is read of them. -/
theorem writes_entries (ps : List (List Char)) : Writes (ps.map String.ofList) (entries ps) := by
  induction ps with
  | nil => exact .done
  | cons p ps ih =>
    by_cases h : Text.trimChars p = []
    · rw [entries_cons_of_eq_nil h]
      refine .blank ?_ ih
      rw [Blank, String.toList_ofList]
      exact Text.trimChars_eq_nil_iff.mp h
    · obtain ⟨before, after, hbefore, hafter, hp⟩ := Text.exists_padding p
      have hpadded : String.ofList p =
          String.ofList before ++ String.ofList (Text.trimChars p) ++ String.ofList after := by
        rw [← String.ofList_append, ← String.ofList_append, ← hp]
      rw [entries_cons_of_ne_nil h, List.map_cons, hpadded]
      refine .entry ?_ ?_ ih
      · rwa [Blank, String.toList_ofList]
      · rwa [Blank, String.toList_ofList]

theorem entry_of_mem_entries {ps : List (List Char)} (h : ∀ p ∈ ps, ',' ∉ p) :
    ∀ u ∈ entries ps, Entry u := by
  intro u hu
  obtain ⟨t, ht, rfl⟩ := List.mem_map.mp hu
  obtain ⟨ht, hne⟩ := List.mem_filter.mp ht
  obtain ⟨p, hp, rfl⟩ := List.mem_map.mp ht
  refine ⟨?_, ?_, ?_⟩
  · intro hempty
    rw [String.ofList_eq_empty_iff.mp hempty] at hne
    exact Bool.false_ne_true hne
  · rw [String.toList_ofList]
    exact fun hc => h p hp (Text.mem_of_mem_trimChars hc)
  · rw [String.toList_ofList]
    exact Text.trimmed_trimChars p

/-! ### Texts that write a list -/

theorem stunList_of_writes (h : Writes ps us) (hus : ∀ u ∈ us, Entry u) :
    stunList (",".intercalate ps) = us := by
  cases ps with
  | nil =>
    cases h
    rfl
  | cons p ps =>
    have hplain : ∀ q ∈ (p :: ps).map String.toList, ',' ∉ q :=
      List.forall_mem_map.mpr (comma_not_mem_of_writes h hus)
    rw [stunList_eq, String.toList_intercalate]
    exact (congrArg entries (Text.pieces_intercalate (List.cons_ne_nil _ _) hplain)).trans
      (entries_of_writes h hus)

theorem entry_of_mem_stunList (s : String) : ∀ u ∈ stunList s, Entry u :=
  entry_of_mem_entries Text.not_mem_of_mem_pieces

theorem exists_writes (s : String) : ∃ ps, Writes ps (stunList s) ∧ ",".intercalate ps = s := by
  refine ⟨_, writes_entries (Text.pieces ',' s.toList), ?_⟩
  have hchars : ((Text.pieces ',' s.toList).map String.ofList).map String.toList =
      Text.pieces ',' s.toList := by
    rw [List.map_map]
    exact List.map_id'' (fun _ => String.toList_ofList) _
  rw [← String.toList_inj, String.toList_intercalate, hchars]
  exact Text.intercalate_pieces ',' s.toList

/-- A text is read as a list exactly if it is joined of pieces that write the list. -/
theorem stunList_eq_iff : stunList s = us ↔
    (∀ u ∈ us, Entry u) ∧ ∃ ps, Writes ps us ∧ ",".intercalate ps = s := by
  constructor
  · rintro rfl
    exact ⟨entry_of_mem_stunList s, exists_writes s⟩
  · rintro ⟨hus, ps, h, rfl⟩
    exact stunList_of_writes h hus

/-! ### The servers of a client -/

theorem stunUrls_of_some {var : String → Option String} (h : var "VOX_STUN_URLS" = some s)
    (hon : (var "VOX_LOCALHOST_ONLY").any isOn = false) :
    (fromVars var).stunUrls = stunList s := by
  rw [fromVars, h, hon]
  rfl

/-- Whatever the variables are, the servers are those of some text. -/
theorem exists_stunList (var : String → Option String) :
    ∃ s, (fromVars var).stunUrls = stunList s := by
  unfold fromVars
  dsimp only
  split
  next => exact ⟨"", rfl⟩
  next =>
    cases var "VOX_STUN_URLS" with
    | none => exact ⟨IceServer.defaultStunUrl, by decide +kernel⟩
    | some s => exact ⟨s, rfl⟩

/-- The servers of a client are those that its variable writes, and there is one ICE server for
each.  Whatever the variables are, the servers are such that the variable can write them: joined
with commas, they are read again. -/
theorem stunUrls_reread (var : String → Option String) :
    (∀ us ps, (∀ u ∈ us, Entry u) → Writes ps us →
      var "VOX_STUN_URLS" = some (",".intercalate ps) →
      (var "VOX_LOCALHOST_ONLY").any isOn = false →
      (fromVars var).stunUrls = us ∧
      (fromVars var).iceServers =
        us.map fun u => { urls := [u], username := "", credential := "" }) ∧
    (∀ u ∈ (fromVars var).stunUrls, Entry u) ∧
    ∀ again : String → Option String,
      again "VOX_STUN_URLS" = some (",".intercalate (fromVars var).stunUrls) →
      (again "VOX_LOCALHOST_ONLY").any isOn = false →
      (fromVars again).stunUrls = (fromVars var).stunUrls := by
  have hentry : ∀ u ∈ (fromVars var).stunUrls, Entry u := by
    obtain ⟨s, hs⟩ := exists_stunList var
    exact (stunList_eq_iff.mp hs.symm).1
  refine ⟨fun us ps hus hps hvar hon => ?_, hentry, fun again hvar hon => ?_⟩
  · have hread : (fromVars var).stunUrls = us :=
      (stunUrls_of_some hvar hon).trans (stunList_eq_iff.mpr ⟨hus, ps, hps, rfl⟩)
    exact ⟨hread, congrArg IceServer.ofStunUrls hread⟩
  · rw [stunUrls_of_some hvar hon]
    exact stunList_eq_iff.mpr ⟨hentry, _, writes_self _, rfl⟩

/-- Only the servers are given. -/
def onlyStunUrls (s : String) (name : String) : Option String :=
  if name = "VOX_STUN_URLS" then some s else none

/-- Blanks of many kinds around two servers, and blank pieces in front, between and behind. -/
def paddedUrls : String := ",\u00a0stun:a.example:3478\u3000, ,\t\n,\u2028stun:b c,"

theorem stunUrls_reread_padded :
    (fromVars (onlyStunUrls paddedUrls)).stunUrls = ["stun:a.example:3478", "stun:b c"] ∧
    (fromVars (onlyStunUrls paddedUrls)).iceServers =
      [⟨["stun:a.example:3478"], "", ""⟩, ⟨["stun:b c"], "", ""⟩] ∧
    (fromVars (onlyStunUrls "stun:a.example:3478,stun:b c")).stunUrls =
      ["stun:a.example:3478", "stun:b c"] := by
  have hentry : ∀ u ∈ ["stun:a.example:3478", "stun:b c"], Entry u := by decide
  have hwrites : Writes ["", "\u00a0stun:a.example:3478\u3000", " ", "\t\n", "\u2028stun:b c", ""]
      ["stun:a.example:3478", "stun:b c"] :=
    .blank (by decide) <|
    @Writes.entry "\u00a0" "stun:a.example:3478" "\u3000" _ _ (by decide) (by decide) <|
    .blank (by decide) <|
    .blank (by decide) <|
    @Writes.entry "\u2028" "stun:b c" "" _ _ (by decide) (by decide) <|
    .blank (by decide) .done
  obtain ⟨hread, -, hagain⟩ := stunUrls_reread (onlyStunUrls paddedUrls)
  obtain ⟨hurls, hservers⟩ := hread _ _ hentry hwrites rfl rfl
  rw [hurls] at hagain
  exact ⟨hurls, hservers, hagain _ rfl rfl⟩

end CallSignaling.Config
