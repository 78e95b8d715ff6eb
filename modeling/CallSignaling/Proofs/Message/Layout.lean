import CallSignaling.Proofs.Message.RoundTrip

/-!
# Layout — what a frame has to hold

Main statement: `decode_layout`.  The fields of each kind of message stand in a table, with what can
be in them.  A frame holds the message whose fields are those of its payload, or the first field of
the table that does not fit is named; no other member of the frame or of the payload matters.
-/

namespace CallSignaling

namespace Message

open Json (Entry)

/-- What can stand in a field. -/
inductive FieldKind where
  | text
  /-- A text that may be absent; `null` counts as absent. -/
  | optionalText
  /-- An integer of 64 bits with a sign. -/
  | integer
deriving DecidableEq, Repr

/-- Whether this value, or none, can stand in a field. -/
def FieldKind.admits : FieldKind → Option Json → Bool
  | .text, some (.string _) => true
  | .optionalText, none => true
  | .optionalText, some .null => true
  | .optionalText, some (.string _) => true
  | .integer, some (.number (.integer i)) => -2 ^ 63 ≤ i && i ≤ 2 ^ 63 - 1
  | _, _ => false

/-- The fields of a kind of message in the order of declaration. -/
def layout : Tag → List (String × FieldKind)
  | .clientConnect => [("client_id", .text)]
  | .clientConnected => [("server_id", .text), ("client_id", .optionalText)]
  | .offer => [("from", .text), ("to", .text), ("sdp", .text)]
  | .answer => [("from", .optionalText), ("to", .optionalText), ("sdp", .text)]
  | .iceCandidate => [("from", .text), ("to", .text), ("candidate", .text)]
  | .clientDisconnect => [("client_id", .text)]
  | .serverDisconnect => [("server_id", .text)]
  | .error => [("code", .integer), ("message", .text)]

/-- The first field that does not fit. -/
def misfit? (fs : List (String × FieldKind)) (ps : List (String × Json)) : Option String :=
  (fs.find? fun f => !f.2.admits (Json.member? f.1 ps)).map Prod.fst

/-- What is said by the value of a field: `null` says as little as no value. -/
def supplied : Option Json → Option Json
  | some .null => none
  | v => v

/-- The table: what is read from a value. -/
inductive Tabled : Json → Except DecodeError (Option Message) → Prop
  | notObject {v : Json} : (∀ ms, v ≠ .object ms) → Tabled v (.error .notObject)
  | untagged {ms : List (String × Json)} :
    (∀ name, Json.member? "type" ms ≠ some (.string name)) →
    Tabled (.object ms) (.error (.missingField "<untagged>" "type"))
  | unknown {ms : List (String × Json)} {name : String} :
    Json.member? "type" ms = some (.string name) → (∀ tag : Tag, tag.name ≠ name) →
    Tabled (.object ms) (.ok none)
  | bare {ms : List (String × Json)} {tag : Tag} :
    Json.member? "type" ms = some (.string tag.name) →
    (∀ ps, Json.member? "payload" ms ≠ some (.object ps)) →
    Tabled (.object ms) (.error (.missingField tag.name "payload"))
  | misfit {ms ps : List (String × Json)} {tag : Tag} {field : String} :
    Json.member? "type" ms = some (.string tag.name) →
    Json.member? "payload" ms = some (.object ps) → misfit? (layout tag) ps = some field →
    Tabled (.object ms) (.error (.missingField tag.name field))
  | message {ms ps : List (String × Json)} {m : Message} :
    Json.member? "type" ms = some (.string m.tag.name) →
    Json.member? "payload" ms = some (.object ps) → misfit? (layout m.tag) ps = none →
    m.InRange → (∀ f ∈ layout m.tag, Json.member? f.1 m.members = supplied (Json.member? f.1 ps)) →
    Tabled (.object ms) (.ok (some m))

/-- Two payloads say the same in these fields. -/
def AgreeIn (fs : List (String × FieldKind)) (ps qs : List (String × Json)) : Prop :=
  ∀ f ∈ fs, supplied (Json.member? f.1 ps) = supplied (Json.member? f.1 qs)

/-- Two values of the member `payload` say the same about a kind of message. -/
inductive SamePayload (tag : Tag) : Option Json → Option Json → Prop
  | bare {v w : Option Json} : (∀ ps, v ≠ some (.object ps)) → (∀ qs, w ≠ some (.object qs)) →
    SamePayload tag v w
  | object {ps qs : List (String × Json)} : AgreeIn (layout tag) ps qs →
    SamePayload tag (some (.object ps)) (some (.object qs))

/-- Two frames have the same `type`, and their payloads say the same about that kind of message. -/
inductive SameFields : Json → Json → Prop
  | object {ms ns : List (String × Json)} : Json.member? "type" ms = Json.member? "type" ns →
    (∀ tag : Tag, Json.member? "type" ms = some (.string tag.name) →
      SamePayload tag (Json.member? "payload" ms) (Json.member? "payload" ns)) →
    SameFields (.object ms) (.object ns)

/-- The members with these keys, as they stand. -/
def only (keys : List String) (ms : List (String × Json)) : List (String × Json) :=
  ms.filter fun e => keys.contains e.1

/-- Other members were added, removed or moved, in the frame or in its payload. -/
inductive Varies : Json → Json → Prop
  | frame {ms ns : List (String × Json)} :
    only ["type", "payload"] ms = only ["type", "payload"] ns → Varies (.object ms) (.object ns)
  | payload {before after ps qs : List (String × Json)} {tag : Tag} :
    Json.member? "type" (before ++ ("payload", .object ps) :: after) = some (.string tag.name) →
    only ((layout tag).map Prod.fst) ps = only ((layout tag).map Prod.fst) qs →
    Varies (.object (before ++ ("payload", .object ps) :: after))
      (.object (before ++ ("payload", .object qs) :: after))

variable {p q : Payload} {ms ps qs : List (String × Json)} {fs : List (String × FieldKind)}
  {field name : String} {tag : Tag} {m : Message}

/-! ### Single fields -/

theorem optional_eq (p : Payload) (field : String) :
    p.optional field = match supplied (Json.member? field p.members) with
      | none => .ok none
      | some (.string s) => .ok (some s)
      | some _ => .error (p.missing field) := by
  unfold Payload.optional
  cases Json.member? field p.members with
  | none => rfl
  | some v => cases v <;> rfl

theorem integer_eq (p : Payload) (field : String) :
    p.integer field = match supplied (Json.member? field p.members) with
      | some (.number n) => n.int64?.elim (.error (p.missing field)) .ok
      | _ => .error (p.missing field) := by
  unfold Payload.integer
  cases Json.member? field p.members with
  | none => rfl
  | some v =>
    cases v with
    | number n =>
      dsimp only
      cases hn : n.int64? <;> simp [supplied, hn]
    | _ => rfl

theorem optional_congr (ht : p.tag = q.tag)
    (h : supplied (Json.member? field p.members) = supplied (Json.member? field q.members)) :
    p.optional field = q.optional field := by
  have hmissing : p.missing field = q.missing field := by rw [Payload.missing, ht, Payload.missing]
  rw [optional_eq, optional_eq, h, hmissing]

theorem required_congr (ht : p.tag = q.tag)
    (h : supplied (Json.member? field p.members) = supplied (Json.member? field q.members)) :
    p.required field = q.required field := by
  have hmissing : p.missing field = q.missing field := by rw [Payload.missing, ht, Payload.missing]
  unfold Payload.required
  rw [optional_congr ht h, hmissing]

theorem integer_congr (ht : p.tag = q.tag)
    (h : supplied (Json.member? field p.members) = supplied (Json.member? field q.members)) :
    p.integer field = q.integer field := by
  have hmissing : p.missing field = q.missing field := by rw [Payload.missing, ht, Payload.missing]
  rw [integer_eq, integer_eq, h, hmissing]

/-! ### Fields one after another -/

/-- Reading these fields gives something, or names the first that does not fit. -/
def Reads {α : Type} (p : Payload) (fs : List (String × FieldKind)) (x : Except DecodeError α) :
    Prop :=
  match misfit? fs p.members with
  | some field => x = .error (p.missing field)
  | none => ∃ v, x = .ok v

theorem misfit?_cons (field : String) (kind : FieldKind) (fs : List (String × FieldKind))
    (ps : List (String × Json)) :
    misfit? ((field, kind) :: fs) ps =
      if kind.admits (Json.member? field ps) then misfit? fs ps else some field := by
  unfold misfit?
  rw [List.find?_cons]
  cases kind.admits (Json.member? field ps) <;> rfl

theorem reads_singleton {α : Type} {x : Except DecodeError α} {kind : FieldKind}
    (hok : kind.admits (Json.member? field p.members) = true → ∃ v, x = .ok v)
    (herror : kind.admits (Json.member? field p.members) = false → x = .error (p.missing field)) :
    Reads p [(field, kind)] x := by
  unfold Reads
  rw [misfit?_cons]
  cases h : kind.admits (Json.member? field p.members) with
  | true => exact hok h
  | false => exact herror h

theorem required_reads (p : Payload) (field : String) :
    Reads p [(field, .text)] (p.required field) := by
  unfold Payload.required
  rw [optional_eq]
  refine reads_singleton (fun h => ?_) (fun h => ?_)
  · cases hv : Json.member? field p.members with
    | none => simp [hv, FieldKind.admits] at h
    | some v => cases v <;> simp [hv, FieldKind.admits, supplied] at h ⊢
  · cases hv : Json.member? field p.members with
    | none => rfl
    | some v => cases v <;> simp [hv, FieldKind.admits, supplied] at h ⊢

theorem optional_reads (p : Payload) (field : String) :
    Reads p [(field, .optionalText)] (p.optional field) := by
  rw [optional_eq]
  refine reads_singleton (fun h => ?_) (fun h => ?_)
  · cases hv : Json.member? field p.members with
    | none => simp [supplied]
    | some v => cases v <;> simp [hv, FieldKind.admits, supplied] at h ⊢
  · cases hv : Json.member? field p.members with
    | none => simp [hv, FieldKind.admits] at h
    | some v => cases v <;> simp [hv, FieldKind.admits, supplied] at h ⊢

theorem admits_integer (n : Json.Number) :
    FieldKind.integer.admits (some (.number n)) = n.int64?.isSome := by
  cases n with
  | double => rfl
  | integer i =>
    show (decide (-2 ^ 63 ≤ i) && decide (i ≤ 2 ^ 63 - 1)) =
      (if -2 ^ 63 ≤ i ∧ i < 2 ^ 63 then some i else none).isSome
    by_cases h : -2 ^ 63 ≤ i ∧ i < 2 ^ 63
    · have hle : i ≤ 2 ^ 63 - 1 := by omega
      rw [if_pos h, decide_eq_true h.1, decide_eq_true hle]
      rfl
    · have hle : ¬ (-2 ^ 63 ≤ i ∧ i ≤ 2 ^ 63 - 1) := by omega
      rw [if_neg h, ← Bool.decide_and, decide_eq_false hle]
      rfl

theorem integer_reads (p : Payload) (field : String) :
    Reads p [(field, .integer)] (p.integer field) := by
  rw [integer_eq]
  refine reads_singleton (fun h => ?_) (fun h => ?_)
  · cases hv : Json.member? field p.members with
    | none => simp [hv, FieldKind.admits] at h
    | some v =>
      cases v with
      | number n =>
        rw [hv, admits_integer] at h
        obtain ⟨i, hi⟩ := Option.isSome_iff_exists.mp h
        exact ⟨i, by simp [supplied, hi]⟩
      | _ => simp [hv, FieldKind.admits] at h
  · cases hv : Json.member? field p.members with
    | none => rfl
    | some v =>
      cases v with
      | number n =>
        rw [hv, admits_integer] at h
        have hn : n.int64? = none := by simpa using h
        simp [supplied, hn]
      | _ => simp [supplied]

/-- One field, and what is read when it fits. -/
theorem Reads.bind {α β : Type} {f : String × FieldKind} {x : Except DecodeError α}
    {g : α → Except DecodeError β} (hx : Reads p [f] x) (hg : ∀ v, Reads p fs (g v)) :
    Reads p (f :: fs) (x >>= g) := by
  obtain ⟨field, kind⟩ := f
  unfold Reads at hx ⊢
  rw [misfit?_cons] at hx ⊢
  cases h : kind.admits (Json.member? field p.members) with
  | true =>
    rw [h] at hx
    obtain ⟨v, rfl⟩ := hx
    exact hg v
  | false =>
    rw [h] at hx
    obtain rfl := hx
    rfl

theorem reads_return {α : Type} (p : Payload) (v : α) : Reads p [] (.ok v) := ⟨v, rfl⟩

/-- The fields of a message are read in the order of its layout. -/
theorem message_reads (p : Payload) : Reads p (layout p.tag) p.message := by
  obtain ⟨tag, ps⟩ := p
  cases tag with
  | clientConnect | clientDisconnect | serverDisconnect =>
    exact (required_reads _ _).bind fun _ => reads_return _ _
  | clientConnected =>
    exact (required_reads _ _).bind fun _ => (optional_reads _ _).bind fun _ => reads_return _ _
  | offer | iceCandidate =>
    exact (required_reads _ _).bind fun _ => (required_reads _ _).bind fun _ =>
      (required_reads _ _).bind fun _ => reads_return _ _
  | answer =>
    exact (optional_reads _ _).bind fun _ => (optional_reads _ _).bind fun _ =>
      (required_reads _ _).bind fun _ => reads_return _ _
  | error =>
    exact (integer_reads _ _).bind fun _ => (required_reads _ _).bind fun _ => reads_return _ _

/-! ### The message of a payload -/

theorem required_ok {s : String} (h : p.required field = .ok s) :
    supplied (Json.member? field p.members) = some (.string s) := by
  unfold Payload.required at h
  rw [optional_eq] at h
  generalize supplied (Json.member? field p.members) = v at h
  cases v with
  | none => cases h
  | some v =>
    cases v with
    | string t => cases h; rfl
    | _ => cases h

theorem optional_ok {s : Option String} (h : p.optional field = .ok s) :
    supplied (Json.member? field p.members) = s.map .string := by
  rw [optional_eq] at h
  generalize supplied (Json.member? field p.members) = v at h
  cases v with
  | none => cases h; rfl
  | some v =>
    cases v with
    | string t => cases h; rfl
    | _ => cases h

theorem integer_ok {i : Int} (h : p.integer field = .ok i) :
    supplied (Json.member? field p.members) = some (.number (.integer i)) := by
  rw [integer_eq] at h
  generalize supplied (Json.member? field p.members) = v at h
  cases v with
  | none => cases h
  | some v =>
    cases v with
    | number n =>
      cases n with
      | double => cases h
      | integer k =>
        change (if -2 ^ 63 ≤ k ∧ k < 2 ^ 63 then some k else none).elim _ _ = _ at h
        split at h
        · cases h; rfl
        · cases h
    | _ => cases h

/-- A message that was read has the fields of its payload. -/
theorem values_of_message (h : p.message = .ok m) :
    m.tag = p.tag ∧
      ∀ f ∈ layout p.tag, Json.member? f.1 m.members = supplied (Json.member? f.1 p.members) := by
  obtain ⟨tag, ps⟩ := p
  cases tag with
  | clientConnect | clientDisconnect | serverDisconnect =>
    obtain ⟨x, hx, h⟩ := bind_ok h
    cases h
    exact ⟨rfl, List.forall_mem_singleton.mpr (required_ok hx).symm⟩
  | clientConnected =>
    obtain ⟨x, hx, h⟩ := bind_ok h
    obtain ⟨y, hy, h⟩ := bind_ok h
    cases h
    refine ⟨rfl, ?_⟩
    have hserver : Json.member? "server_id" (clientConnected x y).members = some (.string x) := by
      cases y <;> rfl
    have hclient : Json.member? "client_id" (clientConnected x y).members = y.map .string := by
      cases y <;> rfl
    simpa [layout] using
      ⟨hserver.trans (required_ok hx).symm, hclient.trans (optional_ok hy).symm⟩
  | offer | iceCandidate =>
    obtain ⟨x, hx, h⟩ := bind_ok h
    obtain ⟨y, hy, h⟩ := bind_ok h
    obtain ⟨z, hz, h⟩ := bind_ok h
    cases h
    refine ⟨rfl, ?_⟩
    simpa [layout] using ⟨(required_ok hx).symm, (required_ok hy).symm, (required_ok hz).symm⟩
  | answer =>
    obtain ⟨x, hx, h⟩ := bind_ok h
    obtain ⟨y, hy, h⟩ := bind_ok h
    obtain ⟨z, hz, h⟩ := bind_ok h
    cases h
    refine ⟨rfl, ?_⟩
    have hfrom : Json.member? "from" (answer x y z).members = x.map .string := by
      cases x <;> cases y <;> rfl
    have hto : Json.member? "to" (answer x y z).members = y.map .string := by
      cases x <;> cases y <;> rfl
    have hsdp : Json.member? "sdp" (answer x y z).members = some (.string z) := by
      cases x <;> cases y <;> rfl
    simpa [layout] using ⟨hfrom.trans (optional_ok hx).symm, hto.trans (optional_ok hy).symm,
      hsdp.trans (required_ok hz).symm⟩
  | error =>
    obtain ⟨x, hx, h⟩ := bind_ok h
    obtain ⟨y, hy, h⟩ := bind_ok h
    cases h
    refine ⟨rfl, ?_⟩
    simpa [layout] using ⟨(integer_ok hx).symm, (required_ok hy).symm⟩

/-- Only what is said by the fields of its kind makes a message. -/
theorem message_congr (h : AgreeIn (layout tag) ps qs) :
    Payload.message ⟨tag, ps⟩ = Payload.message ⟨tag, qs⟩ := by
  have hrequired : ∀ f ∈ layout tag,
      Payload.required ⟨tag, ps⟩ f.1 = Payload.required ⟨tag, qs⟩ f.1 := by
    intro f hf
    exact required_congr rfl (h f hf)
  have hoptional : ∀ f ∈ layout tag,
      Payload.optional ⟨tag, ps⟩ f.1 = Payload.optional ⟨tag, qs⟩ f.1 := by
    intro f hf
    exact optional_congr rfl (h f hf)
  have hinteger : ∀ f ∈ layout tag,
      Payload.integer ⟨tag, ps⟩ f.1 = Payload.integer ⟨tag, qs⟩ f.1 := by
    intro f hf
    exact integer_congr rfl (h f hf)
  unfold Payload.message
  cases tag <;> simp_all [layout]

theorem message_eq_ok_iff : Payload.message ⟨tag, ps⟩ = .ok m ↔
    misfit? (layout tag) ps = none ∧ m.tag = tag ∧ m.InRange ∧
      ∀ f ∈ layout m.tag, Json.member? f.1 m.members = supplied (Json.member? f.1 ps) := by
  constructor
  · intro h
    have hreads := message_reads ⟨tag, ps⟩
    obtain ⟨rfl, hvalues⟩ := values_of_message h
    unfold Reads at hreads
    split at hreads
    next field _ => exact absurd (h.symm.trans hreads) nofun
    next hfit => exact ⟨hfit, rfl, message_inRange h, hvalues⟩
  · rintro ⟨-, rfl, hm, hvalues⟩
    rw [← message_members hm]
    refine message_congr fun f hf => ?_
    rw [hvalues f hf]
    cases Json.member? f.1 ps with
    | none => rfl
    | some v => cases v <;> rfl

/-! ### Frames -/

theorem ofName?_eq_none_iff : Tag.ofName? name = none ↔ ∀ tag : Tag, tag.name ≠ name := by
  unfold Tag.ofName?
  rw [List.find?_eq_none]
  constructor
  · intro h tag
    have hmem : tag ∈ Tag.all := by cases tag <;> decide
    simpa using h tag hmem
  · intro h tag _
    simpa using h tag

theorem eq_name_of_ofName? (h : Tag.ofName? name = some tag) : name = tag.name := by
  have hname := List.find?_some h
  exact (beq_iff_eq.mp hname).symm

theorem ofJson_of_payload (htype : Json.member? "type" ms = some (.string tag.name))
    (hpayload : Json.member? "payload" ms = some (.object ps)) :
    ofJson (.object ms) = (Payload.message ⟨tag, ps⟩).map some := by
  unfold ofJson
  simp only [htype, hpayload, Tag.ofName?_name]

/-- What stands in the table is read. -/
theorem Tabled.ofJson_eq {v : Json} {x : Except DecodeError (Option Message)} (h : Tabled v x) :
    ofJson v = x := by
  cases h with
  | notObject hno =>
    cases v with
    | object ms => exact absurd rfl (hno ms)
    | _ => rfl
  | @untagged ms hno =>
    unfold ofJson
    cases htype : Json.member? "type" ms with
    | none => simp only [htype]; rfl
    | some t =>
      cases t with
      | string name => exact absurd htype (hno name)
      | _ => simp only [htype]; rfl
  | unknown htype hno =>
    unfold ofJson
    simp only [htype, ofName?_eq_none_iff.mpr hno]
  | @bare ms tag htype hno =>
    unfold ofJson
    simp only [htype, Tag.ofName?_name]
  | @misfit _ ps tag field htype hpayload hfield =>
    have hreads := message_reads ⟨tag, ps⟩
    unfold Reads at hreads
    rw [hfield] at hreads
    rw [ofJson_of_payload htype hpayload, hreads]
    rfl
  | message htype hpayload hfit hm hvalues =>
    rw [ofJson_of_payload htype hpayload, message_eq_ok_iff.mpr ⟨hfit, rfl, hm, hvalues⟩]
    rfl

/-- The table covers every value. -/
theorem exists_tabled (v : Json) : ∃ x, Tabled v x := by
  cases v with
  | object ms =>
    by_cases htype : ∃ name, Json.member? "type" ms = some (.string name)
    · obtain ⟨name, htype⟩ := htype
      cases hkind : Tag.ofName? name with
      | none => exact ⟨_, .unknown htype (ofName?_eq_none_iff.mp hkind)⟩
      | some tag =>
        obtain rfl := eq_name_of_ofName? hkind
        by_cases hpayload : ∃ ps, Json.member? "payload" ms = some (.object ps)
        · obtain ⟨ps, hpayload⟩ := hpayload
          cases hfield : misfit? (layout tag) ps with
          | some field => exact ⟨_, .misfit htype hpayload hfield⟩
          | none =>
            have hreads := message_reads ⟨tag, ps⟩
            unfold Reads at hreads
            rw [hfield] at hreads
            obtain ⟨m, hm⟩ := hreads
            obtain ⟨-, rfl, hrange, hvalues⟩ := message_eq_ok_iff.mp hm
            exact ⟨_, .message htype hpayload hfield hrange hvalues⟩
        · exact ⟨_, .bare htype fun ps h => hpayload ⟨ps, h⟩⟩
    · exact ⟨_, .untagged fun name h => htype ⟨name, h⟩⟩
  | _ => exact ⟨_, .notObject nofun⟩

theorem ofJson_eq_iff (v : Json) (x : Except DecodeError (Option Message)) :
    ofJson v = x ↔ Tabled v x := by
  constructor
  · rintro rfl
    obtain ⟨y, hy⟩ := exists_tabled v
    rwa [hy.ofJson_eq]
  · exact Tabled.ofJson_eq

/-! ### Other members -/

/-- Frames that say the same are read alike. -/
theorem SameFields.ofJson_eq {v w : Json} (h : SameFields v w) : ofJson v = ofJson w := by
  obtain @⟨ms, ns, htype, hpayload⟩ := h
  by_cases hname : ∃ name, Json.member? "type" ms = some (.string name)
  · obtain ⟨name, hname⟩ := hname
    have hname' : Json.member? "type" ns = some (.string name) := htype.symm.trans hname
    by_cases hkind : ∃ tag : Tag, tag.name = name
    · obtain ⟨tag, rfl⟩ := hkind
      have hsame := hpayload tag hname
      generalize hx : Json.member? "payload" ms = x at hsame
      generalize hy : Json.member? "payload" ns = y at hsame
      cases hsame with
      | object hagree =>
        rw [ofJson_of_payload hname hx, ofJson_of_payload hname' hy, message_congr hagree]
      | bare hno hno' =>
        subst hx hy
        exact (Tabled.bare hname hno).ofJson_eq.trans (Tabled.bare hname' hno').ofJson_eq.symm
    · have hno : ∀ tag : Tag, tag.name ≠ name := fun tag htag => hkind ⟨tag, htag⟩
      exact (Tabled.unknown hname hno).ofJson_eq.trans (Tabled.unknown hname' hno).ofJson_eq.symm
  · have hno : ∀ name, Json.member? "type" ms ≠ some (.string name) := fun name h =>
      hname ⟨name, h⟩
    have hno' : ∀ name, Json.member? "type" ns ≠ some (.string name) := fun name h =>
      hno name (htype.trans h)
    exact (Tabled.untagged hno).ofJson_eq.trans (Tabled.untagged hno').ofJson_eq.symm

theorem member?_only {keys : List String} {key : String} (hk : key ∈ keys)
    (ms : List (String × Json)) : Json.member? key (only keys ms) = Json.member? key ms := by
  induction ms with
  | nil => rfl
  | cons e ms ih =>
    obtain ⟨k, v⟩ := e
    unfold only at ih ⊢
    rw [List.filter_cons]
    by_cases hin : k ∈ keys
    · rw [if_pos (by simpa using hin), Json.member?, ih, Json.member?]
    · have hne : k ≠ key := by
        rintro rfl
        exact hin hk
      rw [if_neg (by simpa using hin), ih, Json.member?, if_neg hne]
      cases Json.member? key ms <;> rfl

theorem SamePayload.refl (tag : Tag) (v : Option Json) : SamePayload tag v v := by
  by_cases h : ∃ ps, v = some (.object ps)
  · obtain ⟨ps, rfl⟩ := h
    exact .object fun _ _ => rfl
  · exact .bare (fun ps hv => h ⟨ps, hv⟩) fun ps hv => h ⟨ps, hv⟩

theorem Varies.sameFields {v w : Json} (h : Varies v w) : SameFields v w := by
  cases h with
  | @frame ms ns hkeys =>
    have hmember : ∀ key ∈ ["type", "payload"], Json.member? key ms = Json.member? key ns := by
      intro key hkey
      rw [← member?_only hkey ms, hkeys, member?_only hkey ns]
    refine .object (hmember "type" (by simp)) fun tag _ => ?_
    rw [hmember "payload" (by simp)]
    exact .refl tag _
  | @payload before after ps qs tag htype hkeys =>
    have hmember : ∀ key x, key ≠ "payload" →
        Json.member? key (before ++ ("payload", x) :: after) =
          Json.member? key (before ++ after) := by
      intro key x hkey
      rw [Json.member?_append, Json.member?_append, Json.member?, if_neg (Ne.symm hkey)]
      cases Json.member? key after <;> rfl
    have hpayload : ∀ x, Json.member? "payload" (before ++ ("payload", x) :: after) =
        some ((Json.member? "payload" after).getD x) := by
      intro x
      rw [Json.member?_append, Json.member?, if_pos rfl]
      cases Json.member? "payload" after <;> rfl
    have hagree : AgreeIn (layout tag) ps qs := by
      intro f hf
      have hkey : f.1 ∈ (layout tag).map Prod.fst := List.mem_map_of_mem hf
      rw [← member?_only hkey ps, hkeys, member?_only hkey qs]
    refine .object ?_ fun other hother => ?_
    · rw [hmember "type" _ (by simp), hmember "type" _ (by simp)]
    · obtain rfl : other = tag := by
        have hname : other.name = tag.name := by simpa using hother.symm.trans htype
        have hparse := Tag.ofName?_name other
        rw [hname, Tag.ofName?_name] at hparse
        exact (Option.some.inj hparse).symm
      rw [hpayload, hpayload]
      cases Json.member? "payload" after with
      | none => exact .object hagree
      | some x => exact .refl other _

/-- A frame is read as the table says, and whatever other members it holds, the same is read. -/
theorem decode_layout (frame : Bytes) (v : Json) (hv : Json.read frame = .ok v) :
    (∀ x, decode frame = x ↔ Tabled v x) ∧
    ∀ (other : Bytes) (w : Json), Json.read other = .ok w → SameFields v w ∨ Varies v w →
      decode other = decode frame := by
  have hdecode : ∀ {f u}, Json.read f = .ok u → decode f = ofJson u := by
    intro f u hu
    unfold decode
    rw [hu]
  constructor
  · intro x
    rw [hdecode hv]
    exact ofJson_eq_iff v x
  · intro other w hw h
    rw [hdecode hv, hdecode hw]
    rcases h with h | h
    · exact h.ofJson_eq.symm
    · exact h.sameFields.ofJson_eq.symm

/-- An offer whose payload has these texts. -/
def offerOf (texts : List (String × String)) : List Entry :=
  let es := texts.map fun x => entry x.1 x.2
  [entry "type" "offer",
    ⟨"payload", Json.writeObject (es.map Entry.written), .object (es.map Entry.member)⟩]

theorem read_offerOf (texts : List (String × String)) :
    Json.read (Json.bytes (Json.writeObject ((offerOf texts).map Entry.written))) =
      .ok (.object ((offerOf texts).map Entry.member)) := by
  refine Json.read_writeObject fun e he => ?_
  rcases List.mem_cons.mp he with rfl | he
  · exact Json.reads_string _ _
  · rw [List.mem_singleton.mp he]
    refine Json.reads_object fun e he => ?_
    obtain ⟨x, -, rfl⟩ := List.mem_map.mp he
    exact Json.reads_string _ _

/-- Of an offer without a sender and a recipient the sender is named as missing, whether or not
there is a member that no offer has. -/
theorem decode_layout_offer :
    let bytes := fun texts => Json.bytes (Json.writeObject ((offerOf texts).map Entry.written))
    decode (bytes [("sdp", "x")]) = .error (.missingField "offer" "from") ∧
      decode (bytes [("room", "r"), ("sdp", "x")]) = .error (.missingField "offer" "from") := by
  intro bytes
  obtain ⟨htable, hsame⟩ := decode_layout _ _ (read_offerOf [("sdp", "x")])
  have hmisfit : decode (bytes [("sdp", "x")]) = .error (.missingField "offer" "from") :=
    (htable _).mpr (@Tabled.misfit _ [("sdp", .string "x")] .offer _ rfl rfl rfl)
  have hvaries : Varies (.object ((offerOf [("sdp", "x")]).map Entry.member))
      (.object ((offerOf [("room", "r"), ("sdp", "x")]).map Entry.member)) :=
    @Varies.payload [("type", .string "offer")] [] _ _ .offer rfl rfl
  have hother := hsame _ _ (read_offerOf [("room", "r"), ("sdp", "x")]) (.inr hvaries)
  exact ⟨hmisfit, hother.trans hmisfit⟩

end Message

end CallSignaling
