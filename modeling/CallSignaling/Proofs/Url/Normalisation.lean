import CallSignaling.Proofs.Url.Parts
import CallSignaling.Url.Signaling

/-!
# Normalisation — the address of the signaling server is read once and for all

Main statement: `signaling_normalises`.  Every URL that was read is normal (`normal_of_parse`),
putting the loopback address in place of `localhost` keeps it normal, and the text of a normal URL
is read as that URL (`parse_text`).
-/

namespace CallSignaling.Url

/-- A URL that is left alone when it is read. -/
structure Normal (u : Url) : Prop where
  hosted : ∃ p, (u.scheme, p) ∈ schemePorts
  authority : u.parts.Normal
  port : u.port ≠ defaultPort? u.scheme
  rooted : u.path ≠ []
  path : ∀ s ∈ u.path, Segment s
  query : ∀ q ∈ u.query, Plain querySet q
  fragment : ∀ f ∈ u.fragment, Plain fragmentSet f

/-! ### What was read is normal -/

theorem mem_schemePorts {scheme : List Char} {p : Nat} (h : defaultPort? scheme = some p) :
    (scheme, p) ∈ schemePorts := by
  obtain ⟨e, he, rfl⟩ := Option.map_eq_some_iff.mp h
  have hscheme : e.1 = scheme := by simpa using List.find?_some he
  rw [← hscheme]
  exact List.mem_of_find?_eq_some he

theorem normal_of_parseHosted {scheme cs : List Char} {p : Nat} {u : Url}
    (hd : defaultPort? scheme = some p) (h : parseHosted scheme p cs = .ok u) : u.Normal := by
  unfold parseHosted at h
  dsimp only [bind, Except.bind] at h
  split at h
  next => cases h
  next a ha =>
    cases h
    have hauthority := normal_of_authority ha
    obtain ⟨hrooted, hpath⟩ := segments_segment
      (splitTail ((cs.dropWhile isSlash).dropWhile fun c => !endsAuthority true c)).1
    refine ⟨⟨p, mem_schemePorts hd⟩, ⟨hauthority.username, hauthority.password, hauthority.host,
      hauthority.named, fun q hq => ?_⟩, ?_, hrooted, hpath, fun q hq => ?_, fun f hf => ?_⟩
    · dsimp only [parts] at hq
      split at hq
      next => cases hq
      next => exact hauthority.port q hq
    · dsimp only
      rw [hd]
      split
      next => exact (Option.some_ne_none p).symm
      next hne => exact hne
    · obtain ⟨q, -, rfl⟩ := Option.map_eq_some_iff.mp hq
      exact plain_percentEncode (by decide) q
    · obtain ⟨f, -, rfl⟩ := Option.map_eq_some_iff.mp hf
      exact plain_percentEncode (by decide) f

theorem normal_of_parse {t : String} {u : Url} (h : parse t = .ok (.url u)) : u.Normal := by
  unfold parse at h
  split at h
  next => cases h
  next scheme rest _ =>
    split at h
    next p hp =>
      cases hu : parseHosted scheme p rest with
      | error e => rw [hu] at h; cases h
      | ok v =>
        rw [hu] at h
        cases h
        exact normal_of_parseHosted hp hu
    next =>
      split at h
      next =>
        cases hu : parseFile scheme rest with
        | error e => rw [hu] at h; cases h
        | ok v => rw [hu] at h; cases h
      next =>
        cases hu : parseOther scheme rest with
        | error e => rw [hu] at h; cases h
        | ok v => rw [hu] at h; cases h

theorem withoutLocalhost_normal {u : Url} (h : u.Normal) : u.withoutLocalhost.Normal := by
  unfold withoutLocalhost
  split
  next =>
    have ha := h.authority
    exact ⟨h.hosted, ⟨ha.username, ha.password, .ipv4 (by decide), Host.noConfusion, ha.port⟩,
      h.port, h.rooted, h.path, h.query, h.fragment⟩
  next => exact h

/-! ### The text of a normal URL -/

theorem visible_of_not_control {c : Char} (hc : isControl c = false) (hs : c ≠ ' ') :
    0x20 < c.toNat := by
  have hspace : c.toNat ≠ 0x20 := fun h => hs (Char.toNat_inj.mp h)
  simp only [isControl, Bool.or_eq_false_iff, decide_eq_false_iff_not] at hc
  omega

theorem visible_of_fragmentSet {c : Char} (h : fragmentSet c = false) : 0x20 < c.toNat :=
  visible_of_not_control (Bool.or_eq_false_iff.mp h).1 (ne_of_set h (by decide))

theorem visible_of_querySet {c : Char} (h : querySet c = false) : 0x20 < c.toNat :=
  visible_of_not_control (Bool.or_eq_false_iff.mp h).1 (ne_of_set h (by decide))

theorem visible_of_pathSet {c : Char} (h : pathSet c = false) : 0x20 < c.toNat :=
  visible_of_fragmentSet (Bool.or_eq_false_iff.mp h).1

theorem visible_of_nameChar {c : Char} (h : NameChar c) : 0x20 < c.toNat := by
  have hallowed := h.allowed
  simp only [forbidden, Bool.or_eq_false_iff, decide_eq_false_iff_not] at hallowed
  omega

/-- A text of visible characters is taken as it is. -/
theorem clean_of_visible {cs : List Char} (h : ∀ c ∈ cs, 0x20 < c.toNat) : clean cs = cs := by
  have houter : ∀ {ds : List Char}, (∀ c ∈ ds, 0x20 < c.toNat) →
      (ds.dropWhile fun c => decide (c.toNat ≤ 0x20)) = ds := by
    intro ds hds
    refine (Text.dropWhile_of_head fun c hc => ?_).1
    have hvisible := hds c (List.mem_of_mem_head? hc)
    simpa using hvisible
  unfold clean
  dsimp only
  rw [houter h, houter fun c hc => h c (List.mem_reverse.mp hc), List.reverse_reverse]
  refine List.filter_eq_self.mpr fun c hc => ?_
  have hvisible := h c hc
  have htab : c ≠ '\t' := by rintro rfl; exact absurd hvisible (by decide)
  have hline : c ≠ '\n' := by rintro rfl; exact absurd hvisible (by decide)
  have hreturn : c ≠ '\r' := by rintro rfl; exact absurd hvisible (by decide)
  simp [htab, hline, hreturn]

theorem endsAuthority_of_ne {c : Char} (h : ∀ d ∈ ['/', '?', '#', '\\'], c ≠ d) :
    endsAuthority true c = false := by
  simp only [endsAuthority, Bool.true_and, Bool.or_eq_false_iff, beq_eq_false_iff_ne]
  exact ⟨⟨⟨h '/' (by simp), h '?' (by simp)⟩, h '#' (by simp)⟩, h '\\' (by simp)⟩

/-- The characters of a written authority are visible and do not end it. -/
theorem mem_authorityText {u : Url} (h : u.parts.Normal) {c : Char} (hc : c ∈ u.authorityText) :
    0x20 < c.toNat ∧ endsAuthority true c = false := by
  have huser : ∀ {cs : List Char}, Plain userSet cs → ∀ c ∈ cs,
      0x20 < c.toNat ∧ endsAuthority true c = false := by
    intro cs hcs c hc
    have hset := hcs c hc
    exact ⟨visible_of_pathSet (Bool.or_eq_false_iff.mp hset).1, endsAuthority_of_ne fun d hd =>
      ne_of_set hset (List.all_eq_true.mp (by decide) d hd)⟩
  rcases List.mem_append.mp hc with hc | hc
  · unfold userinfoText at hc
    split at hc
    next => exact absurd hc List.not_mem_nil
    next =>
      rcases List.mem_append.mp hc with hc | hc
      · rcases List.mem_append.mp hc with hc | hc
        · exact huser h.username c hc
        · split at hc
          next => exact absurd hc List.not_mem_nil
          next =>
            rcases List.mem_cons.mp hc with rfl | hc
            · decide
            · exact huser h.password c hc
      · rw [List.mem_singleton.mp hc]
        decide
  · rcases mem_hostPort h.host hc with hc | rfl | rfl | rfl
    · exact ⟨visible_of_nameChar hc, endsAuthority_of_ne fun d hd =>
        hc.ne (List.all_eq_true.mp (by decide) d hd)⟩
    · decide
    · decide
    · decide

theorem authorityText_ne_nil {u : Url} (h : u.parts.Normal) : u.authorityText ≠ [] := fun hnil =>
  Host.text_ne_nil h.named (List.append_eq_nil_iff.mp (List.append_eq_nil_iff.mp hnil).2).1

/-- A character of a written path. -/
theorem mem_pathText {u : Url} (h : u.Normal) {c : Char} (hc : c ∈ u.pathText) :
    c = '/' ∨ pathSet c = false := by
  obtain ⟨s, hs, hc⟩ := List.mem_flatMap.mp hc
  exact (List.mem_cons.mp hc).imp_right ((h.path s hs).plain c)

theorem visible_of_mem_tailText {u : Url} (h : u.Normal) {c : Char} (hc : c ∈ u.tailText) :
    0x20 < c.toNat := by
  rcases List.mem_append.mp hc with hc | hc
  · rcases List.mem_append.mp hc with hc | hc
    · rcases mem_pathText h hc with rfl | hc
      · decide
      · exact visible_of_pathSet hc
    · unfold queryText at hc
      split at hc
      next => exact absurd hc List.not_mem_nil
      next q hq =>
        rcases List.mem_cons.mp hc with rfl | hc
        · decide
        · exact visible_of_querySet (h.query q hq c hc)
  · unfold fragmentText at hc
    split at hc
    next => exact absurd hc List.not_mem_nil
    next f hf =>
      rcases List.mem_cons.mp hc with rfl | hc
      · decide
      · exact visible_of_fragmentSet (h.fragment f hf c hc)

/-- What follows the scheme of a normal URL is read back. -/
theorem parseHosted_normal {u : Url} (h : u.Normal) {p : Nat}
    (hp : defaultPort? u.scheme = some p) :
    parseHosted u.scheme p ('/' :: '/' :: (u.authorityText ++ u.tailText)) = .ok u := by
  have hauth := fun c (hc : c ∈ u.authorityText) => mem_authorityText h.authority hc
  have htail : ∀ c ∈ u.tailText.head?, (!endsAuthority true c) = false := by
    obtain ⟨s, ss, hpath⟩ := List.exists_cons_of_ne_nil h.rooted
    unfold tailText pathText
    rw [hpath]
    intro c hc
    cases hc
    rfl
  have hslashes : ('/' :: '/' :: (u.authorityText ++ u.tailText)).dropWhile isSlash =
      u.authorityText ++ u.tailText := by
    obtain ⟨c, cs, hc⟩ := List.exists_cons_of_ne_nil (authorityText_ne_nil h.authority)
    have hends := (hauth c (by rw [hc]; exact List.mem_cons_self)).2
    simp only [endsAuthority, Bool.true_and, Bool.or_eq_false_iff] at hends
    have hslash : isSlash c = false := Bool.or_eq_false_iff.mpr ⟨hends.1.1.1, hends.2⟩
    show (u.authorityText ++ u.tailText).dropWhile isSlash = u.authorityText ++ u.tailText
    refine (Text.dropWhile_of_head fun d hd => ?_).1
    rw [hc] at hd
    cases hd
    exact hslash
  obtain ⟨htake, hdrop⟩ := Text.span_append (p := fun c => !endsAuthority true c)
    (fun c hc => by rw [(hauth c hc).2]; rfl) htail
  have hpathText : ∀ c ∈ u.pathText, c ≠ '?' ∧ c ≠ '#' := by
    intro c hc
    rcases mem_pathText h hc with rfl | hc
    · decide
    · exact ⟨ne_of_set hc (by decide), ne_of_set hc (by decide)⟩
  have hquery : ∀ q ∈ u.query, '#' ∉ q := fun q hq => (h.query q hq).not_mem (by decide)
  have hport : (if u.port = some p then none else u.port) = u.port :=
    if_neg fun hu => h.port (hu.trans hp.symm)
  have hqueryText : u.query.map (percentEncode querySet) = u.query := by
    have hplain := h.query
    cases hq : u.query with
    | none => rfl
    | some q => exact congrArg some (percentEncode_of_plain (hplain q hq))
  have hfragmentText : u.fragment.map (percentEncode fragmentSet) = u.fragment := by
    have hplain := h.fragment
    cases hf : u.fragment with
    | none => rfl
    | some f => exact congrArg some (percentEncode_of_plain (hplain f hf))
  unfold parseHosted
  dsimp only
  rw [hslashes, htake, hdrop, authority_authorityText h.authority,
    splitTail_tailText hpathText hquery]
  dsimp only [bind, Except.bind, pure, Except.pure, parts]
  rw [hport, segments_pathText h.rooted h.path, hqueryText, hfragmentText]

theorem splitScheme?_scheme {scheme : List Char} {p : Nat} (h : (scheme, p) ∈ schemePorts)
    (r : List Char) :
    splitScheme? (scheme ++ ':' :: r) = some (scheme, r) ∧ defaultPort? scheme = some p ∧
      Plain isControl scheme ∧ ' ' ∉ scheme := by
  simp only [schemePorts, List.mem_cons, List.not_mem_nil, or_false, Prod.mk.injEq] at h
  rcases h with ⟨rfl, rfl⟩ | ⟨rfl, rfl⟩ | ⟨rfl, rfl⟩ | ⟨rfl, rfl⟩ | ⟨rfl, rfl⟩ <;>
    exact ⟨rfl, rfl, plain_of_any (by decide), by decide⟩

theorem chars_eq (u : Url) :
    u.chars = u.scheme ++ ':' :: '/' :: '/' :: (u.authorityText ++ u.tailText) := by
  simp [chars, authorityText]

/-- The text of a normal URL is read as that URL. -/
theorem parse_text {u : Url} (h : u.Normal) : parse u.text = .ok (.url u) := by
  obtain ⟨p, hscheme⟩ := h.hosted
  obtain ⟨hsplit, hp, hletters, hspace⟩ := splitScheme?_scheme hscheme
    ('/' :: '/' :: (u.authorityText ++ u.tailText))
  have hvisible : ∀ c ∈ u.chars, 0x20 < c.toNat := by
    intro c hc
    simp only [chars_eq, List.mem_append, List.mem_cons] at hc
    rcases hc with hc | rfl | rfl | rfl | hc | hc
    · exact visible_of_not_control (hletters c hc) fun h => hspace (h ▸ hc)
    · decide
    · decide
    · decide
    · exact (mem_authorityText h.authority hc).1
    · exact visible_of_mem_tailText h hc
  unfold parse
  rw [text, String.toList_ofList, clean_of_visible hvisible, chars_eq, hsplit]
  dsimp only
  rw [hp]
  dsimp only
  rw [parseHosted_normal h hp]
  rfl

/-! ### The address of the signaling server -/

/-- What normalising an address keeps, and what it does to the host. -/
structure Normalises (v u : Url) : Prop where
  scheme : u.scheme = v.scheme
  username : u.username = v.username
  password : u.password = v.password
  port : u.port = v.port
  path : u.path = v.path
  query : u.query = v.query
  fragment : u.fragment = v.fragment
  host : v.host ≠ .domain "localhost".toList → u.host = v.host
  localhost : v.host = .domain "localhost".toList →
    u.host = loopback ∧ u.host.text = "127.0.0.1".toList

theorem loopback_text : loopback.text = "127.0.0.1".toList := by decide

theorem normalises_withoutLocalhost (v : Url) : Normalises v v.withoutLocalhost := by
  unfold withoutLocalhost
  split
  next h => exact ⟨rfl, rfl, rfl, rfl, rfl, rfl, rfl, fun hne => absurd h hne,
      fun _ => ⟨rfl, loopback_text⟩⟩
  next h => exact ⟨rfl, rfl, rfl, rfl, rfl, rfl, rfl, fun _ => rfl, fun hv => absurd hv h⟩

theorem withoutLocalhost_host (v : Url) : v.withoutLocalhost.host ≠ .domain "localhost".toList := by
  unfold withoutLocalhost
  split
  next => exact fun h => by cases h
  next h => exact h

/-- An address is read exactly from the URLs of the two WebSocket schemes. -/
theorem signaling_eq_ok {t : String} {u : Url} : signaling t = .ok u ↔
    ∃ v, parse t = .ok (.url v) ∧ v.isWebSocket = true ∧ u = v.withoutLocalhost := by
  unfold signaling
  cases parse t with
  | error e => simp
  | ok parsed =>
    cases parsed with
    | other o => simp
    | url v =>
      by_cases h : v.isWebSocket = true
      · dsimp only
        rw [if_pos h]
        constructor
        · intro hu
          exact ⟨v, rfl, h, (Except.ok.inj hu).symm⟩
        · rintro ⟨v', hv, -, rfl⟩
          cases hv
          rfl
      · dsimp only
        rw [if_neg h]
        refine iff_of_false (fun hu => by cases hu) ?_
        rintro ⟨v', hv, hv', -⟩
        cases hv
        exact h hv'

theorem isWebSocket_iff {v : Url} :
    v.isWebSocket = true ↔ v.scheme = "ws".toList ∨ v.scheme = "wss".toList := by
  simp [isWebSocket]

/-- An address is read from a text just if the text is a WebSocket URL.  Its host is not
`localhost`, and its text does not spell that name; apart from it the address is the URL that was
read, and reading its text gives it again. -/
theorem signaling_normalises (t : String) :
    ((∃ u, signaling t = .ok u) ↔
      ∃ v, parse t = .ok (.url v) ∧ (v.scheme = "ws".toList ∨ v.scheme = "wss".toList)) ∧
    ∀ u, signaling t = .ok u →
      u.host ≠ .domain "localhost".toList ∧
      Host.ofName u.host.text ≠ .ok (.domain "localhost".toList) ∧
      (∃ v, parse t = .ok (.url v) ∧ Normalises v u) ∧
      signaling u.text = .ok u := by
  constructor
  · constructor
    · rintro ⟨u, hu⟩
      obtain ⟨v, hv, hscheme, -⟩ := signaling_eq_ok.mp hu
      exact ⟨v, hv, isWebSocket_iff.mp hscheme⟩
    · rintro ⟨v, hv, hscheme⟩
      exact ⟨_, signaling_eq_ok.mpr ⟨v, hv, isWebSocket_iff.mpr hscheme, rfl⟩⟩
  · intro u hu
    obtain ⟨v, hv, hscheme, rfl⟩ := signaling_eq_ok.mp hu
    have hnormal := withoutLocalhost_normal (normal_of_parse hv)
    have hlocal := withoutLocalhost_host v
    have hagree := normalises_withoutLocalhost v
    have hname : Host.ofName v.withoutLocalhost.host.text = .ok v.withoutLocalhost.host :=
      Host.ofName_text hnormal.authority.host
    refine ⟨hlocal, ?_, ⟨v, hv, hagree⟩, signaling_eq_ok.mpr ⟨_, parse_text hnormal, ?_, ?_⟩⟩
    · rw [hname]
      exact fun h => hlocal (Except.ok.inj h)
    · rw [isWebSocket_iff, hagree.scheme, ← isWebSocket_iff]
      exact hscheme
    · exact (if_neg hlocal).symm

/-- Signs that do not count, letters in any case and written with percent signs, the scheme's own
port, dots and characters that are written with percent signs. -/
theorem signaling_normalises_localhost :
    ∃ u, signaling " WSS://us er:p@LOCAL%48OST:0443/a/../b c?x#y\n" = .ok u ∧
      u.text = "wss://us%20er:p@127.0.0.1/b%20c?x#y" ∧ signaling u.text = .ok u := by
  have hread : (signaling " WSS://us er:p@LOCAL%48OST:0443/a/../b c?x#y\n").toOption.map text =
      some "wss://us%20er:p@127.0.0.1/b%20c?x#y" := by decide +kernel
  cases hu : signaling " WSS://us er:p@LOCAL%48OST:0443/a/../b c?x#y\n" with
  | error e =>
    rw [hu] at hread
    cases hread
  | ok u =>
    rw [hu] at hread
    exact ⟨u, rfl, Option.some.inj hread, ((signaling_normalises _).2 u hu).2.2.2⟩

end CallSignaling.Url
