/-
  Lineup.Proofs.Session.Fields
  ────────────────────────────
  **VALUES OF LINES READ BACK.**  For each kind of line there is a condition on
  the texts in its value (`Printable`) that two halves meet at: what a reader
  yields satisfies it, and a value that satisfies it reads back from its written
  form.  Only attributes are not taken word for word: the value of an attribute
  is read without the white space at its ends (`tidy`).
-/
import Lineup.Proofs.Text.Numbers
import Lineup.Session.Field

namespace Lineup

open Text

/-! ## §1. Fields. -/

/-- A text that can stand as one field of a line. -/
def Token (s : String) : Prop := IsWord isWhite s.toList

theorem isBlank_eq_false {c : Char} (h : isWhite c = false) : isBlank c = false := by
  cases hb : isBlank c with
  | false => rfl
  | true =>
    rw [isWhite_of_isBlank hb] at h
    cases h

theorem fields?_eq_some_iff {cs : List Char} {ws : List (List Char)} :
    fields? cs = some ws ↔ words isBlank cs = ws ∧ ∀ w ∈ ws, ∀ c ∈ w, isWhite c = false := by
  show (if _ then _ else _) = _ ↔ _
  constructor
  · intro h
    split at h
    · next hall =>
      obtain rfl := Option.some.inj h
      simpa using hall
    · cases h
  · rintro ⟨rfl, hall⟩
    rw [if_pos (by simpa using hall)]

/-- Fields are free of white space. -/
theorem token_of_fields? {cs : List Char} {ws : List (List Char)} (h : fields? cs = some ws) :
    ∀ w ∈ ws, Token (String.ofList w) := by
  obtain ⟨rfl, hfree⟩ := fields?_eq_some_iff.1 h
  intro w hw
  unfold Token
  rw [String.toList_ofList]
  exact ⟨ne_nil_of_mem_words hw, hfree w hw⟩

/-- Fields with single spaces between them read back. -/
theorem fields?_intercalate {ws : List (List Char)} (hws : ∀ w ∈ ws, IsWord isWhite w) :
    fields? (trim ([' '].intercalate ws)) = some ws := by
  rw [trim_intercalate hws, fields?_eq_some_iff, words_intercalate (by decide)]
  refine ⟨flatMap_words fun w hw => ⟨(hws w hw).1, fun c hc => ?_⟩, fun w hw => (hws w hw).2⟩
  exact isBlank_eq_false ((hws w hw).2 c hc)

/-- A value without a character that ends lines. -/
def Inline (s : String) : Prop := ∀ c ∈ s.toList, c ≠ '\n' ∧ c ≠ '\r'

theorem ne_of_not_white {c : Char} (h : isWhite c = false) : c ≠ '\n' ∧ c ≠ '\r' := by
  constructor
  · rintro rfl
    exact absurd h (by decide)
  · rintro rfl
    exact absurd h (by decide)

/-- Fields stay on their line. -/
theorem inline_of_fields {s : String} {ws : List (List Char)}
    (hs : s.toList = [' '].intercalate ws) (hws : ∀ w ∈ ws, IsWord isWhite w) : Inline s := by
  intro c hc
  rw [hs] at hc
  rcases mem_intercalate hc with rfl | ⟨w, hw, hcw⟩
  · decide
  · exact ne_of_not_white ((hws w hw).2 c hcw)

/-- The words of a text that is given by its words. -/
theorem words_of_toList {s : String} {ws : List (List Char)}
    (hs : s.toList = [' '].intercalate ws) (hws : ∀ w ∈ ws, IsWord isWhite w) :
    words isWhite s.toList = ws := by
  rw [hs, words_intercalate (by decide), flatMap_words hws]

theorem isWord_number (n : Nat) : IsWord isWhite (decimal n).toList :=
  isWord_decimal (fun _ => isWhite_of_isDigit) n

theorem isWord_address (ip : Ipv4) : IsWord isWhite (toString ip).toList :=
  isWord_ipv4 (fun _ => isWhite_of_isDigit) (by decide) ip

/-! ## §2. Origins and timings. -/

/-- The six fields of an origin are fields. -/
structure Origin.Printable (o : Origin) : Prop where
  username : Token o.username
  sessionId : Token o.sessionId
  sessionVersion : Token o.sessionVersion
  netType : Token o.netType
  addrType : Token o.addrType
  address : Token o.address

theorem Origin.printable_of_ofChars? {cs : List Char} {o : Origin} (h : ofChars? cs = some o) :
    o.Printable := by
  unfold ofChars? at h
  split at h
  · next heq =>
    have htok := token_of_fields? heq
    obtain rfl := Option.some.inj h
    exact ⟨htok _ (by simp), htok _ (by simp), htok _ (by simp), htok _ (by simp),
      htok _ (by simp), htok _ (by simp)⟩
  · cases h

/-- The fields of an origin. -/
def Origin.fields (o : Origin) : List (List Char) :=
  [o.username.toList, o.sessionId.toList, o.sessionVersion.toList, o.netType.toList,
    o.addrType.toList, o.address.toList]

theorem Origin.toList_toValue (o : Origin) : o.toValue.toList = [' '].intercalate o.fields := by
  unfold toValue
  rw [String.toList_intercalate]
  rfl

theorem Origin.Printable.isWord {o : Origin} (h : o.Printable) :
    ∀ w ∈ o.fields, IsWord isWhite w := by
  unfold fields
  simp only [List.forall_mem_cons]
  exact ⟨h.username, h.sessionId, h.sessionVersion, h.netType, h.addrType, h.address, by simp⟩

theorem Origin.ofChars?_toValue {o : Origin} (h : o.Printable) :
    ofChars? (trim o.toValue.toList) = some o := by
  unfold ofChars?
  rw [toList_toValue, fields?_intercalate h.isWord]
  simp only [fields, String.ofList_toList]

/-- The fields of a timing. -/
def Timing.fields (t : Timing) : List (List Char) :=
  [(decimal t.start.toNat).toList, (decimal t.stop.toNat).toList]

theorem Timing.toList_toValue (t : Timing) : t.toValue.toList = [' '].intercalate t.fields := by
  simp [toValue, fields, List.intercalate_cons_cons]

theorem Timing.isWord (t : Timing) : ∀ w ∈ t.fields, IsWord isWhite w := by
  unfold fields
  simp only [List.forall_mem_cons]
  exact ⟨isWord_number _, isWord_number _, by simp⟩

theorem Timing.ofChars?_toValue (t : Timing) : ofChars? (trim t.toValue.toList) = some t := by
  unfold ofChars?
  rw [toList_toValue, fields?_intercalate t.isWord]
  simp [fields, digits64?_decimal]

/-! ## §3. Connections. -/

/-- The three fields of a connection are fields, and no slash cuts its address. -/
structure Connection.Printable (c : Connection) : Prop where
  netType : Token c.netType
  addrType : Token c.addrType
  address : Token c.address
  slash : '/' ∉ c.address.toList

/-- The address of a connection is what stands before the first slash. -/
theorem Connection.mem_pieces_of_addressField? {cs address : List Char} {ttl : Option UInt8}
    (h : addressField? cs = some (address, ttl)) :
    address ≠ [] ∧ address ∈ pieces (· == '/') cs := by
  -- all three forms end with the same check of the address
  have key : ∀ {a b : List Char} {t u : Option UInt8} {ps : List (List Char)},
      (if a.isEmpty then none else some (a, t)) = some (b, u) → a ∈ ps → b ≠ [] ∧ b ∈ ps := by
    intro a b t u ps hif hmem
    split at hif
    · cases hif
    · next hne =>
      cases hif
      exact ⟨by simpa using hne, hmem⟩
  unfold addressField? at h
  split at h
  · next a heq =>
    rw [heq]
    exact key h (by simp)
  · next a t heq =>
    obtain ⟨n, -, h⟩ := Option.bind_eq_some_iff.1 h
    rw [heq]
    exact key h (by simp)
  · next a t k heq =>
    obtain ⟨n, -, h⟩ := Option.bind_eq_some_iff.1 h
    obtain ⟨m, -, h⟩ := Option.bind_eq_some_iff.1 h
    rw [heq]
    exact key h (by simp)
  · cases h

theorem Connection.printable_of_ofChars? {cs : List Char} {c : Connection}
    (h : ofChars? cs = some c) : c.Printable := by
  unfold ofChars? at h
  split at h
  · next net type field heq =>
    obtain ⟨⟨address, ttl⟩, hfield, h⟩ := Option.bind_eq_some_iff.1 h
    obtain rfl := Option.some.inj h
    have htok := token_of_fields? heq
    obtain ⟨hne, hmem⟩ := mem_pieces_of_addressField? hfield
    have hfree := (htok field (by simp)).2
    rw [String.toList_ofList] at hfree
    refine ⟨htok _ (by simp), htok _ (by simp), ?_, ?_⟩
    · unfold Token
      rw [String.toList_ofList]
      exact ⟨hne, fun c hc => hfree c (mem_of_mem_pieces hmem hc)⟩
    · rw [String.toList_ofList]
      -- the address is a piece, and pieces hold no slash
      intro hslash
      exact absurd (sep_of_mem_pieces hmem hslash) (by decide)
  · cases h

/-- The address of a connection with its time to live. -/
def Connection.addressText (c : Connection) : List Char :=
  c.address.toList ++ match c.ttl with
    | some ttl => '/' :: (decimal ttl.toNat).toList
    | none => []

theorem Connection.addressField?_addressText {c : Connection} (h : c.Printable) :
    addressField? c.addressText = some (c.address.toList, c.ttl) := by
  have hslash : ∀ d ∈ c.address.toList, (d == '/') = false := by
    intro d hd
    rw [beq_eq_false_iff_ne]
    rintro rfl
    exact h.slash hd
  have hne : c.address.toList.isEmpty = false := by
    simpa using h.address.1
  unfold addressField? addressText
  -- one piece, or two with a time to live
  cases httl : c.ttl with
  | none =>
    rw [List.append_nil, pieces_eq_singleton hslash]
    simp [hne]
  | some ttl =>
    have hdigits : ∀ d ∈ (decimal ttl.toNat).toList, (d == '/') = false := by
      intro d hd
      rw [beq_eq_false_iff_ne]
      exact ne_of_isDigit (isDigit_of_mem_decimal hd) (by decide)
    dsimp only
    rw [pieces_append hslash (by rfl), pieces_eq_singleton hdigits]
    simp [uint8?_decimal, hne]

/-- The fields of a connection. -/
def Connection.fields (c : Connection) : List (List Char) :=
  [c.netType.toList, c.addrType.toList, c.addressText]

theorem Connection.toList_toValue (c : Connection) :
    c.toValue.toList = [' '].intercalate c.fields := by
  unfold toValue fields addressText
  rw [String.toList_append, String.toList_intercalate]
  cases c.ttl with
  | none => simp [List.intercalate_cons_cons]
  | some ttl => simp [List.intercalate_cons_cons]

theorem Connection.Printable.isWord {c : Connection} (h : c.Printable) :
    ∀ w ∈ c.fields, IsWord isWhite w := by
  have haddress : IsWord isWhite c.addressText := by
    unfold addressText
    refine ⟨fun e => h.address.1 (List.append_eq_nil_iff.1 e).1, fun d hd => ?_⟩
    rcases List.mem_append.1 hd with hd | hd
    · exact h.address.2 d hd
    · cases httl : c.ttl with
      | none => simp [httl] at hd
      | some ttl =>
        rw [httl] at hd
        rcases List.mem_cons.1 hd with rfl | hd
        · decide
        · exact isWhite_of_isDigit (isDigit_of_mem_decimal hd)
  unfold fields
  simp only [List.forall_mem_cons]
  exact ⟨h.netType, h.addrType, haddress, by simp⟩

theorem Connection.ofChars?_toValue {c : Connection} (h : c.Printable) :
    ofChars? (trim c.toValue.toList) = some c := by
  unfold ofChars?
  rw [toList_toValue, fields?_intercalate h.isWord]
  simp [fields, addressField?_addressText h]

/-! ## §4. Bandwidths. -/

/-- The kind of a bandwidth is not empty and holds only letters, digits and a few
signs. -/
structure Bandwidth.Printable (b : Bandwidth) : Prop where
  kind : b.kind.toList ≠ []
  chars : ∀ c ∈ b.kind.toList, isKindChar c = true

theorem Bandwidth.printable_of_ofChars? {cs : List Char} {b : Bandwidth}
    (h : ofChars? cs = some b) : b.Printable := by
  unfold ofChars? at h
  obtain ⟨⟨kind, value⟩, -, h⟩ := Option.bind_eq_some_iff.1 h
  dsimp only at h
  split at h
  · cases h
  · next hkind =>
    obtain ⟨n, -, h⟩ := Option.bind_eq_some_iff.1 h
    obtain rfl := Option.some.inj h
    rw [Bool.or_eq_true, not_or] at hkind
    exact ⟨by simpa using hkind.1, by simpa using hkind.2⟩

theorem Bandwidth.ne_of_isKindChar {c : Char} (h : isKindChar c = true) : c ≠ ':' := by
  rintro rfl
  exact absurd h (by decide)

theorem Bandwidth.isWhite_of_isKindChar {c : Char} (h : isKindChar c = true) :
    isWhite c = false := by
  have hkind : (c.isUpper || c.isLower || c.isDigit || c == '-' || c == '_' || c == '.') = true := h
  simp only [Bool.or_eq_true, beq_iff_eq] at hkind
  rcases hkind with ((((hc | hc) | hc) | rfl) | rfl) | rfl
  · exact isWhite_of_isUpper hc
  · exact isWhite_of_isLower hc
  · exact isWhite_of_isDigit hc
  · decide
  · decide
  · decide

theorem Bandwidth.toList_toValue (b : Bandwidth) :
    b.toValue.toList = b.kind.toList ++ ':' :: (decimal b.value.toNat).toList := by
  simp [toValue]

theorem Bandwidth.Printable.not_white {b : Bandwidth} (h : b.Printable) :
    ∀ c ∈ b.toValue.toList, isWhite c = false := by
  intro c hc
  rw [toList_toValue] at hc
  rcases List.mem_append.1 hc with hc | hc
  · exact isWhite_of_isKindChar (h.chars c hc)
  · rcases List.mem_cons.1 hc with rfl | hc
    · decide
    · exact isWhite_of_isDigit (isDigit_of_mem_decimal hc)

theorem Bandwidth.ofChars?_toValue {b : Bandwidth} (h : b.Printable) :
    ofChars? (trim b.toValue.toList) = some b := by
  have hcut : cut (· == ':') b.toValue.toList
      = some (b.kind.toList, (decimal b.value.toNat).toList) := by
    rw [toList_toValue]
    refine cut_append (fun c hc => ?_) (by rfl)
    rw [beq_eq_false_iff_ne]
    exact ne_of_isKindChar (h.chars c hc)
  have hkind : b.kind ≠ "" := by simpa using h.kind
  unfold ofChars?
  rw [trim_of_free h.not_white, hcut]
  simpa [digits64?_decimal] using And.intro hkind h.chars

/-! ## §5. Media lines. -/

/-- The fields of a media line are fields, and it names a format. -/
structure Media.LinePrintable (m : Media) : Prop where
  media : Token m.media
  protocol : Token m.protocol
  formats : ∀ f ∈ m.formats, Token f
  some_format : m.formats ≠ []

theorem Media.printable_of_ofChars? {cs : List Char} {m : Media} (h : ofChars? cs = some m) :
    m.LinePrintable ∧ m.body = .empty := by
  unfold ofChars? at h
  split at h
  · next media port protocol format formats heq =>
    obtain ⟨⟨p, count⟩, -, h⟩ := Option.bind_eq_some_iff.1 h
    obtain rfl := Option.some.inj h
    have htok := token_of_fields? heq
    refine ⟨⟨htok _ (by simp), htok _ (by simp), ?_, by simp⟩, rfl⟩
    intro f hf
    obtain ⟨w, hw, rfl⟩ := List.mem_map.1 hf
    exact htok w (by
      rcases List.mem_cons.1 hw with rfl | hw
      · simp
      · simp [hw])
  · cases h

/-- The port of a media line with the number of ports. -/
def Media.portText (m : Media) : List Char :=
  (decimal m.port.toNat).toList ++ match m.portCount with
    | some count => '/' :: (decimal count.toNat).toList
    | none => []

theorem Media.portField?_portText (m : Media) :
    portField? m.portText = some (m.port, m.portCount) := by
  have hslash : ∀ n, ∀ d ∈ (decimal n).toList, (d == '/') = false := by
    intro n d hd
    rw [beq_eq_false_iff_ne]
    exact ne_of_isDigit (isDigit_of_mem_decimal hd) (by decide)
  unfold portField? portText
  cases m.portCount with
  | none =>
    rw [List.append_nil, cut_eq_none (hslash _)]
    simp [digits16?_decimal]
  | some count =>
    dsimp only
    rw [cut_append (hslash _) (by rfl)]
    simp [digits16?_decimal]

theorem Media.isWord_portText (m : Media) : IsWord isWhite m.portText := by
  unfold portText
  refine ⟨fun e => decimal_ne_nil _ (List.append_eq_nil_iff.1 e).1, fun d hd => ?_⟩
  rcases List.mem_append.1 hd with hd | hd
  · exact isWhite_of_isDigit (isDigit_of_mem_decimal hd)
  · cases hcount : m.portCount with
    | none => simp [hcount] at hd
    | some count =>
      rw [hcount] at hd
      rcases List.mem_cons.1 hd with rfl | hd
      · decide
      · exact isWhite_of_isDigit (isDigit_of_mem_decimal hd)

/-- The fields of a media line. -/
def Media.fields (m : Media) : List (List Char) :=
  m.media.toList :: m.portText :: m.protocol.toList :: m.formats.map (·.toList)

theorem Media.toList_toValue {m : Media} (h : m.formats ≠ []) :
    m.toValue.toList = [' '].intercalate m.fields := by
  obtain ⟨format, formats, hformats⟩ := List.exists_cons_of_ne_nil h
  unfold toValue fields portText
  rw [hformats]
  simp only [String.toList_append, String.toList_intercalate, List.map_cons,
    List.intercalate_cons_cons]
  cases m.portCount with
  | none => simp
  | some count => simp

theorem Media.LinePrintable.isWord {m : Media} (h : m.LinePrintable) :
    ∀ w ∈ m.fields, IsWord isWhite w := by
  have hformats : ∀ f ∈ m.formats, IsWord isWhite f.toList := h.formats
  unfold fields
  simp only [List.forall_mem_cons, List.forall_mem_map]
  exact ⟨h.media, m.isWord_portText, h.protocol, hformats⟩

theorem Media.ofChars?_toValue {m : Media} (h : m.LinePrintable) :
    ofChars? (trim m.toValue.toList) = some { m with body := .empty } := by
  obtain ⟨format, formats, hformats⟩ := List.exists_cons_of_ne_nil h.some_format
  unfold ofChars?
  rw [toList_toValue h.some_format, fields?_intercalate h.isWord]
  simp [fields, hformats, portField?_portText, Function.comp_def]

/-! ## §6. Attributes. -/

/-- The name of an attribute is a field without a colon, and its value stays on
its line. -/
structure Attribute.Printable (a : Attribute) : Prop where
  name : Token a.name
  colon : ':' ∉ a.name.toList
  value : ∀ v, a.value = some v → Inline v

theorem Attribute.Printable.inline {a : Attribute} (h : a.Printable) : Inline a.toValue := by
  obtain ⟨name, value⟩ := a
  intro c hc
  cases value with
  | none => exact ne_of_not_white (h.name.2 c hc)
  | some value =>
    have hlist : (toValue ⟨name, some value⟩).toList = name.toList ++ ':' :: value.toList := by
      simp [toValue]
    rw [hlist] at hc
    rcases List.mem_append.1 hc with hc | hc
    · exact ne_of_not_white (h.name.2 c hc)
    · rcases List.mem_cons.1 hc with rfl | hc
      · decide
      · exact h.value value rfl c hc

/-- An attribute whose value has no white space at its ends. -/
def Attribute.tidy (a : Attribute) : Attribute := { a with value := a.value.map trimmed }

theorem Attribute.printable_of_ofChars? {cs : List Char} {a : Attribute}
    (hcs : ∀ c ∈ cs, c ≠ '\n' ∧ c ≠ '\r') (h : ofChars? cs = some a) :
    a.Printable ∧ a.tidy = a := by
  have hname : ∀ c ∈ cs.takeWhile fun c => c != ':' && !isWhite c, c ≠ ':' ∧ isWhite c = false := by
    intro c hc
    simpa using List.mem_takeWhile_imp hc
  unfold ofChars? at h
  dsimp only at h
  split at h
  · cases h
  next hne =>
  -- the name is the same in every case; only the value differs
  have hfields : ∀ v : Option String, (∀ t, v = some t → Inline t ∧ trimmed t = t) →
      (⟨.ofList (cs.takeWhile fun c => c != ':' && !isWhite c), v⟩ : Attribute).Printable
        ∧ (⟨.ofList (cs.takeWhile fun c => c != ':' && !isWhite c), v⟩ : Attribute).tidy
          = ⟨.ofList (cs.takeWhile fun c => c != ':' && !isWhite c), v⟩ := by
    intro v hv
    refine ⟨⟨?_, ?_, fun t ht => (hv t ht).1⟩, ?_⟩
    · unfold Token
      rw [String.toList_ofList]
      exact ⟨by simpa using hne, fun c hc => (hname c hc).2⟩
    · rw [String.toList_ofList]
      exact fun hc => (hname _ hc).1 rfl
    · cases v with
      | none => rfl
      | some t => simp [tidy, (hv t rfl).2]
  split at h
  · obtain rfl := Option.some.inj h
    exact hfields none (by simp)
  · next value heq =>
    obtain rfl := Option.some.inj h
    refine hfields _ ?_
    rintro t ht
    obtain rfl := Option.some.inj ht
    refine ⟨fun c hc => ?_, ?_⟩
    · rw [String.toList_ofList] at hc
      have hmem : c ∈ cs.dropWhile fun c => c != ':' && !isWhite c := by
        rw [heq]
        exact List.mem_cons_of_mem _ (mem_of_mem_trim hc)
      exact hcs c ((List.dropWhile_sublist _).subset hmem)
    · simp [trimmed, trim_trim]
  · split at h
    · obtain rfl := Option.some.inj h
      exact hfields none (by simp)
    · cases h

theorem Attribute.ofChars?_toValue {a : Attribute} (h : a.Printable) :
    ofChars? (trim a.toValue.toList) = some a.tidy := by
  obtain ⟨name, value⟩ := a
  have hname : ∀ c ∈ name.toList, (c != ':' && !isWhite c) = true := by
    intro c hc
    have hcolon : c ≠ ':' := by
      rintro rfl
      exact h.colon hc
    simp [hcolon, h.name.2 c hc]
  have hne : name.toList ≠ [] := h.name.1
  unfold ofChars?
  cases value with
  | none =>
    have htrim : trim (toValue ⟨name, none⟩).toList = name.toList := trim_of_free h.name.2
    rw [htrim, List.takeWhile_eq_self_iff.2 hname, List.dropWhile_eq_nil_iff.2 hname]
    simp [hne, tidy, flag]
  | some value =>
    -- the name is not white, so white space is only cut behind the value
    have htrim : trim (toValue ⟨name, some value⟩).toList
        = name.toList ++ ':' :: trimEnd value.toList := by
      obtain ⟨c, cs, hcs⟩ := List.exists_cons_of_ne_nil hne
      have hlist : (toValue ⟨name, some value⟩).toList = name.toList ++ ':' :: value.toList := by
        simp [toValue]
      have hcolon : trimEnd (':' :: value.toList) = ':' :: trimEnd value.toList :=
        trimEnd_cons (by decide) _
      have hend : trimEnd (name.toList ++ ':' :: value.toList)
          = name.toList ++ ':' :: trimEnd value.toList := by
        rw [trimEnd_append (by rw [hcolon]; simp), hcolon]
      have hc : isWhite c = false := h.name.2 c (by simp [hcs])
      rw [hlist]
      rw [hcs, List.cons_append, trimEnd_cons hc] at hend
      rw [hcs, List.cons_append, trim_cons hc, hend]
    rw [htrim, List.takeWhile_append_of_pos hname, List.dropWhile_append_of_pos hname]
    simp [hne, tidy, valued, trimmed, trim_trimEnd]

end Lineup
