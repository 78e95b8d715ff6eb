import CallSignaling.Proofs.Url.Hosts
import CallSignaling.Url.Parser

/-!
# Parts — each part of a written URL is read back

Reading writes every character of a part's set with a percent sign, and the marks it writes them
with are in no set (`mem_percentEncode`).  So a part that was read is left alone when it is read
again.  Segments have neither slashes nor dots that stand for a step (`Segment`), and the authority
is taken apart where it was put together (`authority_authorityText`).
-/

namespace CallSignaling.Url

/-! ### Percent signs -/

/-- The text has no character of the set. -/
def Plain (set : Char → Bool) (cs : List Char) : Prop := ∀ c ∈ cs, set c = false

theorem Plain.not_mem {set : Char → Bool} {cs : List Char} (h : Plain set cs) {d : Char}
    (hd : set d = true) : d ∉ cs := fun hm => ne_of_set (h d hm) hd rfl

theorem percentEncode_of_plain {set : Char → Bool} {cs : List Char} (h : Plain set cs) :
    percentEncode set cs = cs := by
  induction cs with
  | nil => rfl
  | cons c cs ih =>
    obtain ⟨hc, hcs⟩ := List.forall_mem_cons.mp h
    have hrest : percentEncode set cs = cs := ih hcs
    rw [percentEncode, List.flatMap_cons, ← percentEncode, hrest, hc]
    rfl

/-- The characters that bytes are written with. -/
def marks : List Char :=
  ['%', '0', '1', '2', '3', '4', '5', '6', '7', '8', '9', 'A', 'B', 'C', 'D', 'E', 'F']

theorem upperHex_mem_marks (n : Nat) : upperHex n ∈ marks := by
  have hall : ∀ n < 16, upperHex n ∈ marks := by decide
  have hmod : upperHex n = upperHex (n % 16) := by
    unfold upperHex
    rw [Nat.mod_mod]
  rw [hmod]
  exact hall _ (Nat.mod_lt n (by decide))

theorem mem_percentEncode {set : Char → Bool} {cs : List Char} {c : Char}
    (h : c ∈ percentEncode set cs) : c ∈ cs ∧ set c = false ∨ c ∈ marks := by
  obtain ⟨d, hd, hc⟩ := List.mem_flatMap.mp h
  split at hc
  next =>
    obtain ⟨b, -, hc⟩ := List.mem_flatMap.mp hc
    simp only [percentByte, List.mem_cons, List.not_mem_nil, or_false] at hc
    rcases hc with rfl | rfl | rfl
    · exact .inr List.mem_cons_self
    · exact .inr (upperHex_mem_marks _)
    · exact .inr (upperHex_mem_marks _)
  next hset =>
    rw [List.mem_singleton.mp hc]
    exact .inl ⟨hd, Bool.not_eq_true _ ▸ hset⟩

theorem plain_of_any {set : Char → Bool} {cs : List Char} (h : cs.any set = false) :
    Plain set cs := fun c hc => by simpa using List.any_eq_false.mp h c hc

theorem plain_percentEncode {set : Char → Bool} (hset : marks.any set = false)
    (cs : List Char) : Plain set (percentEncode set cs) := fun c hc =>
  (mem_percentEncode hc).elim And.right (plain_of_any hset c)

/-! ### Paths -/

/-- A segment that is left alone when it is read. -/
structure Segment (s : List Char) : Prop where
  plain : Plain pathSet s
  slash : Plain isSlash s
  single : isSingleDot s = false
  double : isDoubleDot s = false

theorem segment_nil : Segment [] :=
  ⟨fun _ h => absurd h List.not_mem_nil, fun _ h => absurd h List.not_mem_nil, rfl, rfl⟩

theorem pieces_of_plain {cs : List Char} (h : Plain isSlash cs) : pieces cs = [cs] := by
  induction cs with
  | nil => rfl
  | cons c cs ih =>
    obtain ⟨hc, hcs⟩ := List.forall_mem_cons.mp h
    rw [pieces, hc, ih hcs]
    rfl

theorem pieces_append_slash {cs : List Char} (h : Plain isSlash cs) (r : List Char) :
    pieces (cs ++ '/' :: r) = cs :: pieces r := by
  induction cs with
  | nil => rfl
  | cons c cs ih =>
    obtain ⟨hc, hcs⟩ := List.forall_mem_cons.mp h
    rw [List.cons_append, pieces, hc, ih hcs]
    rfl

theorem pieces_flatMap {s : List Char} {ss : List (List Char)} (h : ∀ s' ∈ s :: ss, Segment s') :
    pieces (s ++ ss.flatMap fun s => '/' :: s) = s :: ss := by
  induction ss generalizing s with
  | nil => rw [List.flatMap_nil, List.append_nil, pieces_of_plain (h s List.mem_cons_self).slash]
  | cons s' ss ih =>
    obtain ⟨hs, hss⟩ := List.forall_mem_cons.mp h
    rw [List.flatMap_cons, List.cons_append, pieces_append_slash hs.slash, ih hss]

theorem plain_of_mem_pieces {cs : List Char} : ∀ s ∈ pieces cs, Plain isSlash s := by
  induction cs with
  | nil =>
    intro s hs
    rw [List.mem_singleton.mp hs]
    exact segment_nil.slash
  | cons c cs ih =>
    intro s hs
    rw [pieces] at hs
    split at hs
    next =>
      rcases List.mem_cons.mp hs with rfl | hs
      · exact segment_nil.slash
      · exact ih s hs
    next hc =>
      have hc : isSlash c = false := Bool.not_eq_true _ ▸ hc
      split at hs
      next =>
        rw [List.mem_singleton.mp hs]
        exact List.forall_mem_cons.mpr ⟨hc, segment_nil.slash⟩
      next p ps hps =>
        rw [hps] at ih
        rcases List.mem_cons.mp hs with rfl | hs
        · exact List.forall_mem_cons.mpr ⟨hc, ih p List.mem_cons_self⟩
        · exact ih s (List.mem_cons_of_mem p hs)

theorem pieces_ne_nil (cs : List Char) : pieces cs ≠ [] := by
  cases cs with
  | nil => exact List.cons_ne_nil _ _
  | cons c cs =>
    rw [pieces]
    split
    · exact List.cons_ne_nil _ _
    · split <;> exact List.cons_ne_nil _ _

theorem mem_of_dropLastSegment {before : List (List Char)} {s : List Char}
    (h : s ∈ dropLastSegment before) : s ∈ before := by
  cases before with
  | nil => exact h
  | cons s' before =>
    rw [dropLastSegment] at h
    split at h
    · exact h
    · exact List.mem_cons_of_mem s' h

/-- Resolving dots leaves segments, if the pieces are encoded. -/
theorem resolveDots_segment {before ss : List (List Char)}
    (hss : ∀ s ∈ ss, Plain pathSet s ∧ Plain isSlash s) (hbefore : ∀ s ∈ before, Segment s) :
    ∀ s ∈ resolveDots before ss, Segment s := by
  have hdrop : ∀ {before : List (List Char)}, (∀ s ∈ before, Segment s) →
      ∀ s ∈ dropLastSegment before, Segment s :=
    fun h s hs => h s (mem_of_dropLastSegment hs)
  have hpush : ∀ {s : List Char} {before : List (List Char)}, Segment s →
      (∀ s ∈ before, Segment s) → ∀ s' ∈ s :: before, Segment s' :=
    fun hs h => List.forall_mem_cons.mpr ⟨hs, h⟩
  have hdone : ∀ {before : List (List Char)}, (∀ s ∈ before, Segment s) →
      ∀ s ∈ before.reverse, Segment s := fun h s hs => h s (List.mem_reverse.mp hs)
  have hnew : ∀ {s : List Char}, Plain pathSet s ∧ Plain isSlash s → ¬ isDoubleDot s = true →
      ¬ isSingleDot s = true → Segment s := fun hs h2 h1 =>
    ⟨hs.1, hs.2, Bool.not_eq_true _ ▸ h1, Bool.not_eq_true _ ▸ h2⟩
  induction before, ss using resolveDots.induct with
  | case1 before => exact hdone hbefore
  | case2 before s h2 =>
    rw [resolveDots, if_pos h2]
    exact hdone (hpush segment_nil (hdrop hbefore))
  | case3 before s h2 h1 =>
    rw [resolveDots, if_neg h2, if_pos h1]
    exact hdone (hpush segment_nil hbefore)
  | case4 before s h2 h1 =>
    rw [resolveDots, if_neg h2, if_neg h1]
    exact hdone (hpush (hnew (hss s List.mem_cons_self) h2 h1) hbefore)
  | case5 before s ss hne h2 ih =>
    rw [resolveDots, if_pos h2]
    · exact ih (List.forall_mem_cons.mp hss).2 (hdrop hbefore)
    · exact hne
  | case6 before s ss hne h2 h1 ih =>
    rw [resolveDots, if_neg h2, if_pos h1]
    · exact ih (List.forall_mem_cons.mp hss).2 hbefore
    · exact hne
  | case7 before s ss hne h2 h1 ih =>
    obtain ⟨hs, hss⟩ := List.forall_mem_cons.mp hss
    rw [resolveDots, if_neg h2, if_neg h1]
    · exact ih hss (hpush (hnew hs h2 h1) hbefore)
    · exact hne

theorem resolveDots_ne_nil {before ss : List (List Char)} (h : ss ≠ []) :
    resolveDots before ss ≠ [] := by
  induction before, ss using resolveDots.induct with
  | case1 => exact absurd rfl h
  | case2 _ _ h2 => simp [resolveDots, h2]
  | case3 _ _ h2 h1 => simp [resolveDots, h2, h1]
  | case4 _ _ h2 h1 => simp [resolveDots, h2, h1]
  | case5 _ _ _ hne h2 ih => simpa [resolveDots, h2] using ih hne
  | case6 _ _ _ hne h2 h1 ih => simpa [resolveDots, h2, h1] using ih hne
  | case7 _ _ _ hne h2 h1 ih => simpa [resolveDots, h2, h1] using ih hne

theorem resolveDots_of_segment {ss : List (List Char)} (h : ∀ s ∈ ss, Segment s) (hne : ss ≠ [])
    (before : List (List Char)) : resolveDots before ss = before.reverse ++ ss := by
  induction ss generalizing before with
  | nil => exact absurd rfl hne
  | cons s ss ih =>
    obtain ⟨hs, hss⟩ := List.forall_mem_cons.mp h
    cases ss with
    | nil => simp [resolveDots, hs.single, hs.double]
    | cons s' ss =>
      have hrest := ih hss (List.cons_ne_nil s' ss) (s :: before)
      simpa [resolveDots, hs.single, hs.double] using hrest

/-- A path that was read has segments only. -/
theorem segments_segment (cs : List Char) : segments cs ≠ [] ∧ ∀ s ∈ segments cs, Segment s := by
  unfold segments
  constructor
  · refine resolveDots_ne_nil fun hnil => ?_
    exact pieces_ne_nil _ (List.map_eq_nil_iff.mp hnil)
  · refine resolveDots_segment (fun s hs => ?_) fun s hs => absurd hs List.not_mem_nil
    obtain ⟨piece, hpiece, rfl⟩ := List.mem_map.mp hs
    refine ⟨plain_percentEncode (by decide) piece, fun c hc => ?_⟩
    have hmarks : Plain isSlash marks := plain_of_any (by decide)
    exact (mem_percentEncode hc).elim (fun h => plain_of_mem_pieces piece hpiece c h.1) (hmarks c)

/-- A written path is read back. -/
theorem segments_pathText {u : Url} (hne : u.path ≠ []) (h : ∀ s ∈ u.path, Segment s) :
    segments u.pathText = u.path := by
  unfold pathText
  generalize u.path = path at hne h
  have hid : path.map (percentEncode pathSet) = path :=
    (List.map_congr_left fun s hs => percentEncode_of_plain (h s hs).plain).trans
      (List.map_id' path)
  obtain ⟨s, ss, rfl⟩ := List.exists_cons_of_ne_nil hne
  rw [List.flatMap_cons, List.cons_append]
  show resolveDots [] ((pieces (s ++ ss.flatMap fun s => '/' :: s)).map (percentEncode pathSet)) = _
  rw [pieces_flatMap h, hid]
  exact resolveDots_of_segment h hne []

/-! ### Queries and fragments -/

theorem bne_of_not_mem {cs : List Char} {d : Char} (h : d ∉ cs) : ∀ c ∈ cs, (c != d) = true := by
  intro c hc
  rw [bne_iff_ne]
  rintro rfl
  exact h hc

/-- A written query and a written fragment are found again. -/
theorem splitTail_tailText {u : Url} (hpath : ∀ c ∈ u.pathText, c ≠ '?' ∧ c ≠ '#')
    (hquery : ∀ q ∈ u.query, '#' ∉ q) :
    splitTail u.tailText = (u.pathText, u.query, u.fragment) := by
  have hp : ∀ c ∈ u.pathText, (c != '?' && c != '#') = true := fun c hc => by simp [hpath c hc]
  have hhead : ∀ c ∈ (u.queryText ++ u.fragmentText).head?, (c != '?' && c != '#') = false := by
    unfold queryText fragmentText
    cases u.query <;> cases u.fragment <;> simp
  obtain ⟨htake, hdrop⟩ := Text.span_append hp hhead
  unfold splitTail tailText
  rw [List.append_assoc]
  dsimp only
  rw [htake, hdrop]
  unfold queryText fragmentText
  cases hq : u.query with
  | none => cases u.fragment <;> rfl
  | some q =>
    have hmark := bne_of_not_mem (hquery q hq)
    cases u.fragment with
    | none =>
      obtain ⟨hqtake, hqdrop⟩ := Text.span_append (r := []) hmark (by simp)
      rw [List.append_nil] at hqtake hqdrop ⊢
      simp only [hqtake, hqdrop]
    | some f =>
      obtain ⟨hqtake, hqdrop⟩ := Text.span_append (r := '#' :: f) hmark (by simp)
      simp only [List.cons_append, hqtake, hqdrop]

/-! ### Authorities -/

/-- The authority of a URL as it is written. -/
def authorityText (u : Url) : List Char := u.userinfoText ++ (u.host.text ++ u.portText)

/-- The authority of a URL in its parts. -/
def parts (u : Url) : Authority := ⟨u.username, u.password, u.host, u.port⟩

/-- An authority that is left alone when it is read. -/
structure Authority.Normal (a : Authority) : Prop where
  username : Plain userSet a.username
  password : Plain userSet a.password
  host : a.host.WellFormed
  named : a.host ≠ .domain []
  port : ∀ p ∈ a.port, p < UInt16.size

theorem splitUserinfo_at (cs : List Char) {r : List Char} (h : '@' ∉ r) :
    splitUserinfo (cs ++ '@' :: r) = (some cs, r) := by
  have hr := bne_of_not_mem fun hm => h (List.mem_reverse.mp hm)
  obtain ⟨htake, hdrop⟩ := Text.span_append (r := '@' :: cs.reverse) hr (by simp)
  unfold splitUserinfo
  rw [List.reverse_append, List.reverse_cons, List.append_assoc, List.singleton_append, htake,
    hdrop, List.reverse_reverse]
  simp

theorem splitUserinfo_of_not_mem {r : List Char} (h : '@' ∉ r) : splitUserinfo r = (none, r) := by
  have hr := bne_of_not_mem fun hm => h (List.mem_reverse.mp hm)
  have hdrop : r.reverse.dropWhile (· != '@') = [] := List.dropWhile_eq_nil_iff.mpr hr
  unfold splitUserinfo
  rw [hdrop]

theorem credentials_of_plain {username password : List Char} (hu : Plain userSet username)
    (hp : Plain userSet password) :
    credentials (username ++ if password.isEmpty then [] else ':' :: password) =
      (username, password) := by
  have hmark := bne_of_not_mem (hu.not_mem (by decide : userSet ':' = true))
  have hhead : ∀ c ∈ (if password.isEmpty then [] else ':' :: password).head?,
      (c != ':') = false := by
    cases password <;> simp
  obtain ⟨htake, hdrop⟩ := Text.span_append hmark hhead
  have htail : (if password.isEmpty then [] else ':' :: password).drop 1 = password := by
    cases password <;> rfl
  unfold credentials
  rw [htake, hdrop, htail, percentEncode_of_plain hu, percentEncode_of_plain hp]

/-- A written user name and a written password are found again. -/
theorem splitUserinfo_userinfoText {u : Url} (hu : Plain userSet u.username)
    (hp : Plain userSet u.password) {r : List Char} (hr : '@' ∉ r) :
    ∃ user, splitUserinfo (u.userinfoText ++ r) = (user, r) ∧
      credentials (user.getD []) = (u.username, u.password) := by
  have hcredentials := credentials_of_plain hu hp
  unfold userinfoText
  by_cases hnone : (u.username.isEmpty && u.password.isEmpty) = true
  · rw [if_pos hnone]
    obtain ⟨hu, hp⟩ := Bool.and_eq_true_iff.mp hnone
    rw [List.isEmpty_iff.mp hu, List.isEmpty_iff.mp hp]
    exact ⟨none, splitUserinfo_of_not_mem hr, rfl⟩
  · rw [if_neg hnone, List.append_assoc _ ['@'], List.singleton_append]
    exact ⟨_, splitUserinfo_at _ hr, hcredentials⟩

theorem splitPort_cons (inside : Bool) {c : Char} (h : ¬ (c = ':' ∧ inside = false))
    (cs : List Char) :
    splitPort inside (c :: cs) =
      (c :: (splitPort (if c = '[' then true else if c = ']' then false else inside) cs).1,
        (splitPort (if c = '[' then true else if c = ']' then false else inside) cs).2) := by
  rw [splitPort, if_neg h]

theorem splitPort_append {inside : Bool} {cs : List Char}
    (h : ∀ c ∈ cs, c ≠ '[' ∧ c ≠ ']' ∧ (inside = false → c ≠ ':')) (r : List Char) :
    splitPort inside (cs ++ r) = (cs ++ (splitPort inside r).1, (splitPort inside r).2) := by
  induction cs with
  | nil => rfl
  | cons c cs ih =>
    obtain ⟨⟨hopen, hclose, hcolon⟩, hcs⟩ := List.forall_mem_cons.mp h
    rw [List.cons_append, splitPort_cons inside fun hc => hcolon hc.2 hc.1, if_neg hopen,
      if_neg hclose, ih hcs]
    rfl

/-- The colons of an address are not the port's. -/
theorem splitPort_text {h : Host} (hw : h.WellFormed) (r : List Char) :
    splitPort false (h.text ++ r) = (h.text ++ (splitPort false r).1, (splitPort false r).2) := by
  have hname : ∀ {cs : List Char}, (∀ c ∈ cs, NameChar c) →
      ∀ c ∈ cs, c ≠ '[' ∧ c ≠ ']' ∧ (false = false → c ≠ ':') := fun hcs c hc =>
    ⟨(hcs c hc).ne (by decide), (hcs c hc).ne (by decide), fun _ => (hcs c hc).ne (by decide)⟩
  cases hw with
  | domain hchars => exact splitPort_append (hname hchars) r
  | ipv4 => exact splitPort_append (hname (nameChar_of_mem_ipv4Text _)) r
  | @ipv6 ps =>
    have hinside : ∀ c ∈ ipv6Text ps, c ≠ '[' ∧ c ≠ ']' ∧ (true = false → c ≠ ':') := by
      intro c hc
      rcases Host.mem_ipv6Text hc with hc | rfl
      · exact ⟨hc.ne (by decide), hc.ne (by decide), fun h => by cases h⟩
      · exact ⟨by decide, by decide, fun h => by cases h⟩
    have hclose := splitPort_cons true (c := ']') (by decide) r
    have hbody := splitPort_append hinside (']' :: r)
    rw [hclose] at hbody
    have hopen := splitPort_cons false (c := '[') (by decide) (ipv6Text ps ++ ']' :: r)
    rw [if_pos rfl, hbody] at hopen
    simpa [Host.text] using hopen

theorem portNumber_toDigits {p : Nat} (hp : p < UInt16.size) :
    portNumber (Nat.toDigits 10 p) = .ok (some p) := by
  have hdigit : ∀ c ∈ Nat.toDigits 10 p, ('0' ≤ c && c ≤ '9') = true :=
    forall_mem_toDigits (P := fun c => ('0' ≤ c && c ≤ '9') = true) (by decide) (by decide) p
  have hvalue : digitsIn 10 (Nat.toDigits 10 p) = some p :=
    digitsIn_toDigits (by decide) (by decide) p
  obtain ⟨htake, hdrop⟩ := Text.span_append (r := []) hdigit (by simp)
  rw [List.append_nil] at htake hdrop
  obtain ⟨c, cs, hc⟩ := List.exists_cons_of_ne_nil (Nat.toDigits_ne_nil (n := p) (b := 10))
  unfold portNumber
  dsimp only
  rw [htake, hdrop, hvalue, if_pos ⟨hp, .inl rfl⟩, hc]
  rfl

/-- What a port's text is read as, where there may be none. -/
def portOf : Option (List Char) → Except ParseError (Option Nat)
  | none => .ok none
  | some p => portNumber p

/-- What an authority is read as, if it is one. -/
theorem authority_eq_ok {cs tail hostPort name : List Char} {user port : Option (List Char)}
    {a : Authority} (hu : splitUserinfo cs = (user, hostPort))
    (hs : splitPort false hostPort = (name, port)) :
    authority true cs tail = .ok a ↔
      ¬ (user = some [] ∧ hostPort = [] ∧ tail ≠ []) ∧ name ≠ [] ∧
      Host.ofName name = .ok a.host ∧ a.host ≠ .domain [] ∧
      portOf port = .ok a.port ∧ credentials (user.getD []) = (a.username, a.password) := by
  unfold authority
  rw [hu]
  dsimp only
  rw [hs]
  obtain ⟨username, password⟩ := credentials (user.getD [])
  dsimp only
  by_cases hnone : user = some [] ∧ hostPort = [] ∧ tail ≠ []
  · rw [if_pos hnone]
    exact iff_of_false (fun h => by cases h) fun h => h.1 hnone
  rw [if_neg hnone]
  by_cases hname : name = []
  · rw [if_pos (by simp [hname])]
    exact iff_of_false (fun h => by cases h) fun h => h.2.1 hname
  rw [if_neg (by simp [hname]), if_pos rfl]
  cases hhost : Host.ofName name with
  | error e => exact iff_of_false (fun h => by cases h) fun h => by cases h.2.2.1
  | ok host =>
    dsimp only [bind, Except.bind]
    by_cases hdomain : host = .domain []
    · rw [if_pos ⟨hdomain, .inr rfl⟩]
      refine iff_of_false (fun h => by cases h) fun h => ?_
      cases h.2.2.1
      exact h.2.2.2.1 hdomain
    rw [if_neg fun h => hdomain h.1]
    have hread : ∀ {read}, portOf port = .ok read →
        ((.ok ⟨username, password, host, read⟩ : Except ParseError Authority) = .ok a ↔
          ¬ (user = some [] ∧ hostPort = [] ∧ tail ≠ []) ∧ name ≠ [] ∧
            (.ok host : Except ParseError Host) = .ok a.host ∧ a.host ≠ .domain [] ∧
            portOf port = .ok a.port ∧ (username, password) = (a.username, a.password)) := by
      intro read hread
      rw [hread]
      constructor
      · intro h
        cases h
        exact ⟨hnone, hname, rfl, hdomain, rfl, rfl⟩
      · rintro ⟨-, -, hh, -, hp, hc⟩
        cases a
        cases hh
        cases hp
        cases hc
        rfl
    cases port with
    | none =>
      dsimp only [pure, Except.pure]
      rw [if_neg fun h => hdomain h.1]
      exact hread rfl
    | some p =>
      dsimp only [pure, Except.pure]
      cases hp : portNumber p with
      | error e =>
        refine iff_of_false (fun h => by cases h) fun h => ?_
        have herror : Except.error e = .ok a.port := hp.symm.trans h.2.2.2.2.1
        cases herror
      | ok read =>
        dsimp only
        rw [if_neg fun h => hdomain h.1]
        exact hread hp

/-- A character of a host or of a port. -/
theorem mem_hostPort {u : Url} (hw : u.host.WellFormed) {c : Char}
    (hc : c ∈ u.host.text ++ u.portText) : NameChar c ∨ c = '[' ∨ c = ':' ∨ c = ']' := by
  rcases List.mem_append.mp hc with hc | hc
  · exact Host.mem_text hw hc
  · unfold portText at hc
    split at hc
    next => exact absurd hc List.not_mem_nil
    next p _ =>
      rcases List.mem_cons.mp hc with rfl | hc
      · exact .inr (.inr (.inl rfl))
      · exact .inl (forall_mem_toDigits (by decide)
          (fun _ hd => nameChar_digitChar (by omega)) p c hc)

/-- A written authority is read back. -/
theorem authority_authorityText {u : Url} (h : u.parts.Normal) (tail : List Char) :
    authority true u.authorityText tail = .ok u.parts := by
  have hat : '@' ∉ u.host.text ++ u.portText := by
    intro hm
    rcases mem_hostPort h.host hm with hc | hc | hc | hc
    · exact hc.ne (by decide : forbidden '@' = true) rfl
    all_goals exact absurd hc (by decide)
  have hne : u.host.text ≠ [] := Host.text_ne_nil h.named
  obtain ⟨user, hsplit, hcredentials⟩ := splitUserinfo_userinfoText h.username h.password hat
  have hport : splitPort false u.portText = ([], u.port.map (Nat.toDigits 10)) := by
    unfold portText
    cases u.port <;> rfl
  have hhost : splitPort false (u.host.text ++ u.portText) = _ := splitPort_text h.host u.portText
  rw [hport, List.append_nil] at hhost
  have hread : portOf (u.port.map (Nat.toDigits 10)) = .ok u.port := by
    have hbound : ∀ p ∈ u.port, p < UInt16.size := h.port
    cases hp : u.port with
    | none => rfl
    | some p => exact portNumber_toDigits (hbound p hp)
  refine (authority_eq_ok hsplit hhost).mpr
    ⟨fun hnil => ?_, hne, Host.ofName_text h.host, h.named, hread, hcredentials⟩
  exact hne (List.append_eq_nil_iff.mp hnil.2.1).1

/-- An authority that was read is left alone when it is read again. -/
theorem normal_of_authority {cs tail : List Char} {a : Authority}
    (h : authority true cs tail = .ok a) : a.Normal := by
  obtain ⟨-, -, hhost, hnamed, hport, hcredentials⟩ := (authority_eq_ok rfl rfl).mp h
  have hmarks : marks.any userSet = false := by decide
  unfold credentials at hcredentials
  obtain ⟨hu, hp⟩ := Prod.mk.inj hcredentials
  refine ⟨hu ▸ plain_percentEncode hmarks _, hp ▸ plain_percentEncode hmarks _,
    Host.wellFormed_of_ofName hhost, hnamed, fun p hp => ?_⟩
  rw [Option.mem_def.mp hp] at hport
  unfold portOf at hport
  split at hport
  next => cases hport
  next =>
    unfold portNumber at hport
    dsimp only at hport
    split at hport
    next hsize =>
      split at hport
      next => cases hport
      next =>
        cases hport
        exact hsize.1
    next => cases hport

end CallSignaling.Url
