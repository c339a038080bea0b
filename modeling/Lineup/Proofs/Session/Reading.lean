/-
  Lineup.Proofs.Session.Reading
  ─────────────────────────────
  **A PRINTED SESSION READS BACK.**  The lines of a printed text are read one by
  one; a list of lines that takes one draft to another (`Draft.Adds`) can be put
  behind another such list, so the reading of a session is put together from the
  reading of its sections.  Line numbers stand in complaints only: where every line
  is taken, they do not matter.

  Main results:
    * `Session.ofText_toText` — what a printable session reads back as;
    * `Session.ofText_withLf` — LF for CR LF makes no difference.
-/
import Lineup.Proofs.Session.Fields
import Lineup.Session.Reader
import Lineup.Document.Rendered

namespace Lineup

open Text

/-! ## §1. Printable sessions. -/

/-- All values of a section can stand on their lines. -/
structure Section.Printable (s : Section) : Prop where
  information : ∀ i, s.information = some i → Inline i
  connection : ∀ c, s.connection = some c → c.Printable
  bandwidths : ∀ b ∈ s.bandwidths, b.Printable
  attributes : ∀ a ∈ s.attributes, a.Printable

/-- All values of a media stream can stand on their lines. -/
structure Media.Printable (m : Media) : Prop where
  line : m.LinePrintable
  body : m.body.Printable

/-- All values of a session can stand on their lines. -/
structure Session.Printable (s : Session) : Prop where
  version : s.version = "0"
  origin : s.origin.Printable
  name : Inline s.name
  body : s.body.Printable
  media : ∀ m ∈ s.media, m.Printable

/-- A section without white space at the ends of its values. -/
def Section.tidy (s : Section) : Section :=
  { s with information := s.information.map trimmed, attributes := s.attributes.map .tidy }

/-- A media stream without white space at the ends of its values. -/
def Media.tidy (m : Media) : Media := { m with body := m.body.tidy }

/-- A session without white space at the ends of its values. -/
def Session.tidy (s : Session) : Session :=
  { s with name := trimmed s.name, body := s.body.tidy, media := s.media.map .tidy }

/-! ## §2. Lines. -/

/-- A line that a reader of lines takes. -/
structure Line.Plain (l : Line) : Prop where
  key : l.key.isLower = true
  value : Inline l.value

/-- A line as it is read. -/
def Line.tidy (l : Line) : Line := { l with value := trimmed l.value }

theorem isEnding_eq_false_iff {c : Char} : isEnding c = false ↔ c ≠ '\n' ∧ c ≠ '\r' := by
  unfold isEnding
  rw [Bool.or_eq_false_iff, beq_eq_false_iff_ne, beq_eq_false_iff_ne]
  exact and_comm

namespace Line

variable {l : Line}

theorem toList_text (l : Line) : l.text.toList = l.key :: '=' :: l.value.toList := by
  unfold text
  rw [String.toList_ofList]

theorem trim_text (hl : l.Plain) : trim l.text.toList = l.key :: '=' :: trimEnd l.value.toList := by
  rw [toList_text, trim_cons (isWhite_of_isLower hl.key), trimEnd_cons (by decide)]

/-- A printed line is read with its value trimmed. -/
theorem read?_trim_text (hl : l.Plain) : read? (trim l.text.toList) = some (l.tidy, []) := by
  -- trimming takes characters away and adds none
  have hvalue : ∀ c ∈ trimEnd l.value.toList, (!isEnding c) = true := by
    intro c hc
    rw [Bool.not_eq_true', isEnding_eq_false_iff]
    have hsub := trimEnd_prefix l.value.toList
    exact hl.value c (hsub.subset hc)
  rw [trim_text hl]
  simp [read?, List.takeWhile_eq_self_iff.2 hvalue, List.dropWhile_eq_nil_iff.2 hvalue, hl.key,
    trim_trimEnd, tidy, trimmed]

theorem text_inline (hl : l.Plain) : ∀ c ∈ l.text.toList, c ≠ '\n' ∧ c ≠ '\r' := by
  intro c hc
  rw [toList_text] at hc
  rcases List.mem_cons.1 hc with rfl | hc
  · constructor
    · rintro h
      exact absurd (h ▸ hl.key) (by decide)
    · rintro h
      exact absurd (h ▸ hl.key) (by decide)
  · rcases List.mem_cons.1 hc with rfl | hc
    · decide
    · exact hl.value c hc

theorem toList_join (ls : List Line) :
    (join ls).toList = (ls.map (·.text.toList)).flatMap (· ++ ['\r', '\n']) := by
  unfold join
  rw [String.toList_join, List.flatMap_map, List.flatMap_map]
  exact congrArg (ls.flatMap ·) (funext fun l => String.toList_append)

end Line

theorem withLf_append_crlf {l : List Char} (hl : ∀ c ∈ l, c ≠ '\n' ∧ c ≠ '\r') (cs : List Char) :
    Document.withLf (l ++ '\r' :: '\n' :: cs) = l ++ '\n' :: Document.withLf cs := by
  -- up to the first CR, which stands in front of the LF
  induction l with
  | nil => rw [List.nil_append, Document.withLf, List.nil_append]
  | cons c l ih =>
    obtain ⟨-, hcr⟩ := hl c List.mem_cons_self
    rw [List.cons_append, Document.withLf]
    · rw [ih fun d hd => hl d (List.mem_cons_of_mem _ hd)]
      rfl
    · intro _ h
      exact absurd h hcr

/-- Printed lines that end at LF instead. -/
theorem withLf_join {ls : List Line} (hls : ∀ l ∈ ls, l.Plain) :
    Document.withLf (Line.join ls).toList
      = (ls.map (·.text.toList)).flatMap (· ++ ['\n']) := by
  rw [Line.toList_join]
  induction ls with
  | nil => rw [List.map_nil, List.flatMap_nil, Document.withLf, List.flatMap_nil]
  | cons l ls ih =>
    rw [List.map_cons, List.flatMap_cons, List.append_assoc, List.cons_append,
      List.singleton_append, withLf_append_crlf (Line.text_inline (hls l List.mem_cons_self)),
      ih fun m hm => hls m (List.mem_cons_of_mem _ hm), List.flatMap_cons, List.append_assoc]
    rfl

/-! ## §3. Drafts. -/

/-- Lines that take a draft to another, whatever their numbers. -/
inductive Draft.Adds : Draft → List Line → Draft → Prop where
  | nil {d : Draft} : Adds d [] d
  | cons {d d₁ d' : Draft} {l : Line} {ls : List Line} :
      (∀ n, d.add n l.tidy = .ok d₁) → Adds d₁ ls d' → Adds d (l :: ls) d'

namespace Draft

theorem Adds.append {d d₁ d' : Draft} {ls ms : List Line} (h : Adds d ls d₁)
    (h' : Adds d₁ ms d') : Adds d (ls ++ ms) d' := by
  induction h with
  | nil => exact h'
  | cons hl _ ih => exact .cons hl (ih h')

theorem Adds.single {d d' : Draft} {l : Line} (h : ∀ n, d.add n l.tidy = .ok d') :
    Adds d [l] d' :=
  .cons h .nil

/-- Reading the numbered lines of a printed text. -/
theorem Adds.foldlM_read {d d' : Draft} {ls : List Line} (h : Adds d ls d')
    (hls : ∀ l ∈ ls, l.Plain) (n : Nat) :
    ((ls.map fun l => trim l.text.toList).zipIdx n).foldlM read d = .ok d' := by
  -- on the lines; the number of the next line is one more
  induction h generalizing n with
  | nil => rfl
  | @cons d d₁ d' l ls hl _ ih =>
    rw [List.map_cons, List.zipIdx_cons, List.foldlM_cons]
    have hread : d.read (trim l.text.toList, n) = .ok d₁ := by
      unfold read
      rw [Line.read?_trim_text (hls l List.mem_cons_self)]
      exact hl n
    rw [hread]
    exact ih (fun m hm => hls m (List.mem_cons_of_mem _ hm)) (n + 1)

end Draft

/-- The reading of a text whose lines are known. -/
theorem ofText_of_lines {ls : List Line} (hls : ∀ l ∈ ls, l.Plain) {text : String}
    (htext : lines text.toList = ls.map (·.text.toList)) {d : Draft} {s : Session}
    (hd : Draft.Adds .start ls d) (hs : d.finish = .ok s) : Session.ofText text = .ok s := by
  -- no line is blank, so every line keeps its number
  have hnumbered : numberedLines text.toList
      = (ls.map fun l => trim l.text.toList).zipIdx 1 := by
    unfold numberedLines
    rw [htext, List.map_map, List.filter_eq_self.2]
    · rfl
    · rintro ⟨w, n⟩ hw
      obtain ⟨l, hl, rfl⟩ := List.mem_map.1 (List.fst_mem_of_mem_zipIdx hw)
      simp [Line.trim_text (hls l hl)]
  unfold Session.ofText
  rw [hnumbered, hd.foldlM_read hls]
  exact hs

/-! ## §4. Sections. -/

/-- Lines that take a section to another, whatever their numbers. -/
inductive Section.Adds : Section → List Line → Section → Prop where
  | nil {s : Section} : Adds s [] s
  | cons {s s₁ s' : Section} {l : Line} {ls : List Line} :
      l.key ∈ ['i', 'c', 'b', 'a'] → (∀ n, s.add n l.tidy = .ok s₁) → Adds s₁ ls s' →
      Adds s (l :: ls) s'

namespace Section.Adds

variable {s s₁ s' : Section} {ls ms : List Line}

theorem append (h : Adds s ls s₁) (h' : Adds s₁ ms s') : Adds s (ls ++ ms) s' := by
  induction h with
  | nil => exact h'
  | cons hkey hl _ ih => exact .cons hkey hl (ih h')

theorem single {l : Line} (hkey : l.key ∈ ['i', 'c', 'b', 'a'])
    (hl : ∀ n, s.add n l.tidy = .ok s') : Adds s [l] s' :=
  .cons hkey hl .nil

/-- The section of a session takes lines. -/
theorem header (h : Adds s ls s') (origin : Origin) (name : String) (timing : Option Timing) :
    Draft.Adds (.header origin name timing s) ls (.header origin name timing s') := by
  induction h with
  | nil => exact .nil
  | @cons s s₁ s' l ls hkey hl _ ih =>
    refine .cons (fun n => ?_) ih
    obtain ⟨key, value⟩ := l
    simp only [List.mem_cons, List.not_mem_nil, or_false] at hkey
    have hadd := hl n
    -- the four kinds of lines that a section takes
    rcases hkey with rfl | rfl | rfl | rfl
    all_goals
      show (s.add n _ >>= fun s => pure (Draft.header origin name timing s)) = _
      rw [hadd]
      rfl

/-- The section of a media stream takes lines. -/
theorem media {m : Media} (h : Adds m.body ls s') (origin : Origin) (name : String)
    (timing : Timing) (body : Section) (done : List Media) :
    Draft.Adds (.media origin name timing body done m) ls
      (.media origin name timing body done { m with body := s' }) := by
  -- the media stream changes with its section, line by line
  generalize hs : m.body = s at h
  induction h generalizing m with
  | nil =>
    subst hs
    exact .nil
  | @cons s s₁ s' l ls hkey hl _ ih =>
    subst hs
    refine .cons (fun n => ?_) (ih (m := { m with body := s₁ }) rfl)
    obtain ⟨key, value⟩ := l
    simp only [List.mem_cons, List.not_mem_nil, or_false] at hkey
    have hadd := hl n
    rcases hkey with rfl | rfl | rfl | rfl
    all_goals
      show (m.body.add n _ >>= fun s =>
        pure (Draft.media origin name timing body done { m with body := s })) = _
      rw [hadd]
      rfl

end Section.Adds

/-! ## §5. Printed sections. -/

namespace Section

theorem adds_information (s : Section) (i : String) :
    Adds s [⟨'i', i⟩] { s with information := some (trimmed i) } := by
  refine .single (by simp) fun n => ?_
  rfl

theorem adds_connection (s : Section) {c : Connection} (hc : c.Printable) :
    Adds s [⟨'c', c.toValue⟩] { s with connection := some c } := by
  refine .single (by simp) fun n => ?_
  simp only [add, Line.tidy, trimmed, String.toList_ofList, Connection.ofChars?_toValue hc]
  rfl

theorem adds_bandwidth (s : Section) {b : Bandwidth} (hb : b.Printable) :
    Adds s [⟨'b', b.toValue⟩] { s with bandwidths := s.bandwidths ++ [b] } := by
  refine .single (by simp) fun n => ?_
  simp only [add, Line.tidy, trimmed, String.toList_ofList, Bandwidth.ofChars?_toValue hb]
  rfl

theorem adds_attribute (s : Section) {a : Attribute} (ha : a.Printable) :
    Adds s [⟨'a', a.toValue⟩] { s with attributes := s.attributes ++ [a.tidy] } := by
  refine .single (by simp) fun n => ?_
  simp only [add, Line.tidy, trimmed, String.toList_ofList, Attribute.ofChars?_toValue ha]
  rfl

theorem adds_bandwidths (s : Section) {bs : List Bandwidth} (hbs : ∀ b ∈ bs, b.Printable) :
    Adds s (bs.map fun b => ⟨'b', b.toValue⟩) { s with bandwidths := s.bandwidths ++ bs } := by
  induction bs generalizing s with
  | nil =>
    rw [List.append_nil]
    exact .nil
  | cons b bs ih =>
    have hfirst := adds_bandwidth s (hbs b List.mem_cons_self)
    have hrest := ih { s with bandwidths := s.bandwidths ++ [b] }
      fun c hc => hbs c (List.mem_cons_of_mem _ hc)
    have hall := hfirst.append hrest
    rw [List.append_assoc] at hall
    exact hall

theorem adds_attributes (s : Section) {as : List Attribute} (has : ∀ a ∈ as, a.Printable) :
    Adds s (as.map fun a => ⟨'a', a.toValue⟩)
      { s with attributes := s.attributes ++ as.map .tidy } := by
  induction as generalizing s with
  | nil =>
    rw [List.map_nil, List.map_nil, List.append_nil]
    exact .nil
  | cons a as ih =>
    have hfirst := adds_attribute s (has a List.mem_cons_self)
    have hrest := ih { s with attributes := s.attributes ++ [a.tidy] }
      fun c hc => has c (List.mem_cons_of_mem _ hc)
    have hall := hfirst.append hrest
    rw [List.append_assoc] at hall
    exact hall

/-- The lines in front of the attributes of a section read back. -/
theorem Printable.adds_headLines {s : Section} (hs : s.Printable) :
    Adds .empty s.headLines { s.tidy with attributes := [] } := by
  have hinfo : Adds .empty (s.information.map fun i => (⟨'i', i⟩ : Line)).toList
      ⟨s.information.map trimmed, none, [], []⟩ := by
    cases s.information with
    | none => exact .nil
    | some i => exact adds_information .empty i
  have hconn : Adds ⟨s.information.map trimmed, none, [], []⟩
      (s.connection.map fun c => (⟨'c', c.toValue⟩ : Line)).toList
      ⟨s.information.map trimmed, s.connection, [], []⟩ := by
    cases hc : s.connection with
    | none => exact .nil
    | some c => exact adds_connection _ (hs.connection c hc)
  exact (hinfo.append hconn).append (adds_bandwidths _ hs.bandwidths)

theorem Printable.adds_attributeLines {s : Section} (hs : s.Printable) :
    Adds { s.tidy with attributes := [] } s.attributeLines s.tidy :=
  adds_attributes { s.tidy with attributes := [] } hs.attributes

/-! ## §6. Printed sessions. -/

theorem Printable.plain {s : Section} (hs : s.Printable) :
    ∀ l ∈ s.headLines ++ s.attributeLines, l.Plain := by
  intro l hl
  unfold headLines attributeLines at hl
  simp only [List.mem_append, List.mem_map, Option.mem_toList, Option.map_eq_some_iff] at hl
  rcases hl with ((⟨i, hi, rfl⟩ | ⟨c, hc, rfl⟩) | ⟨b, hb, rfl⟩) | ⟨a, ha, rfl⟩
  · exact ⟨rfl, hs.information i hi⟩
  · exact ⟨rfl, inline_of_fields c.toList_toValue (hs.connection c hc).isWord⟩
  · exact ⟨rfl, fun d hd => ne_of_not_white ((hs.bandwidths b hb).not_white d hd)⟩
  · exact ⟨rfl, (hs.attributes a ha).inline⟩

end Section

theorem Media.Printable.plain {m : Media} (hm : m.Printable) : ∀ l ∈ m.toLines, l.Plain := by
  intro l hl
  unfold toLines at hl
  rw [List.cons_append] at hl
  rcases List.mem_cons.1 hl with rfl | hl
  · exact ⟨rfl, inline_of_fields (toList_toValue hm.line.some_format) hm.line.isWord⟩
  · exact hm.body.plain l hl

theorem Session.Printable.plain {s : Session} (hs : s.Printable) : ∀ l ∈ s.toLines, l.Plain := by
  intro l hl
  unfold toLines at hl
  simp only [List.mem_append, List.mem_cons, List.not_mem_nil, or_false, List.mem_flatMap] at hl
  -- three lines, the head, the timing, the attributes, the media streams
  rcases hl with ((((rfl | rfl | rfl) | hl) | rfl) | hl) | ⟨m, hm, hl⟩
  · refine ⟨rfl, ?_⟩
    rw [hs.version]
    unfold Inline
    decide
  · exact ⟨rfl, inline_of_fields s.origin.toList_toValue hs.origin.isWord⟩
  · exact ⟨rfl, hs.name⟩
  · exact hs.body.plain l (List.mem_append_left _ hl)
  · exact ⟨rfl, inline_of_fields s.timing.toList_toValue s.timing.isWord⟩
  · exact hs.body.plain l (List.mem_append_right _ hl)
  · exact (hs.media m hm).plain l hl

/-- The lines of media streams read back, behind a stream that was begun. -/
theorem adds_media (origin : Origin) (name : String) (timing : Timing) (body : Section)
    (done : List Media) (current : Media) {ms : List Media} (hms : ∀ m ∈ ms, m.Printable) :
    ∃ done' current', Draft.Adds (.media origin name timing body done current)
        (ms.flatMap Media.toLines) (.media origin name timing body done' current')
      ∧ done' ++ [current'] = done ++ [current] ++ ms.map .tidy := by
  induction ms generalizing done current with
  | nil => exact ⟨done, current, .nil, by simp⟩
  | cons m ms ih =>
    have hm := hms m List.mem_cons_self
    obtain ⟨done', current', hrest, heq⟩ :=
      ih (done ++ [current]) m.tidy fun k hk => hms k (List.mem_cons_of_mem _ hk)
    refine ⟨done', current', ?_, by simp [heq]⟩
    have hline : Draft.Adds (.media origin name timing body done current) [⟨'m', m.toValue⟩]
        (.media origin name timing body (done ++ [current]) { m with body := .empty }) := by
      refine .single fun n => ?_
      show (Line.field _ n (Media.ofChars? (trimmed m.toValue).toList) >>= fun m =>
        pure (Draft.media origin name timing body (done ++ [current]) m)) = _
      unfold trimmed
      rw [String.toList_ofList, Media.ofChars?_toValue hm.line]
      rfl
    have hbody := (hm.body.adds_headLines.append hm.body.adds_attributeLines).media
      (m := { m with body := .empty }) origin name timing body (done ++ [current])
    rw [List.flatMap_cons]
    exact (hline.append hbody).append hrest

/-- The lines before the first media stream. -/
theorem Session.Printable.adds_header {s : Session} (hs : s.Printable) :
    Draft.Adds .start ([⟨'v', s.version⟩, ⟨'o', s.origin.toValue⟩, ⟨'s', s.name⟩]
        ++ s.body.headLines ++ [⟨'t', s.timing.toValue⟩] ++ s.body.attributeLines)
      (.header s.origin (trimmed s.name) (some s.timing) s.body.tidy) := by
  have hversion : Draft.Adds .start [⟨'v', s.version⟩] .versioned := by
    refine .single fun n => ?_
    rw [hs.version]
    rfl
  have horigin : Draft.Adds .versioned [⟨'o', s.origin.toValue⟩] (.announced s.origin) := by
    refine .single fun n => ?_
    show (Line.field _ n (Origin.ofChars? (trimmed s.origin.toValue).toList) >>= fun o =>
      pure (Draft.announced o)) = _
    unfold trimmed
    rw [String.toList_ofList, Origin.ofChars?_toValue hs.origin]
    rfl
  have hname : Draft.Adds (.announced s.origin) [⟨'s', s.name⟩]
      (.header s.origin (trimmed s.name) none .empty) := .single fun n => rfl
  -- the timing comes between the two halves of the section
  have htiming : Draft.Adds
      (.header s.origin (trimmed s.name) none { s.body.tidy with attributes := [] })
      [⟨'t', s.timing.toValue⟩]
      (.header s.origin (trimmed s.name) (some s.timing)
        { s.body.tidy with attributes := [] }) := by
    refine .single fun n => ?_
    show (Line.field _ n (Timing.ofChars? (trimmed s.timing.toValue).toList) >>= fun t =>
      pure (Draft.header _ _ (none <|> some t) _)) = _
    unfold trimmed
    rw [String.toList_ofList, Timing.ofChars?_toValue]
    rfl
  exact ((((hversion.append horigin).append hname).append
    (hs.body.adds_headLines.header _ _ _)).append htiming).append
    (hs.body.adds_attributeLines.header _ _ _)

/-- All lines of a session make a draft that can be finished. -/
theorem Session.Printable.adds {s : Session} (hs : s.Printable) :
    ∃ d, Draft.Adds .start s.toLines d ∧ d.finish = .ok s.tidy := by
  have hheader := hs.adds_header
  unfold Session.toLines
  cases hmedia : s.media with
  | nil =>
    refine ⟨.header s.origin (trimmed s.name) (some s.timing) s.body.tidy, ?_, ?_⟩
    · rw [List.flatMap_nil, List.append_nil]
      exact hheader
    · unfold Session.tidy
      rw [hmedia, hs.version]
      rfl
  | cons m ms =>
    -- the first media stream ends the header; all others follow a media stream
    have hm := hs.media m (by simp [hmedia])
    have hline : Draft.Adds (.header s.origin (trimmed s.name) (some s.timing) s.body.tidy)
        [⟨'m', m.toValue⟩]
        (.media s.origin (trimmed s.name) s.timing s.body.tidy [] { m with body := .empty }) := by
      refine .single fun n => ?_
      show (Line.field _ n (Media.ofChars? (trimmed m.toValue).toList) >>= fun m =>
        pure (Draft.media s.origin (trimmed s.name) s.timing s.body.tidy [] m)) = _
      unfold trimmed
      rw [String.toList_ofList, Media.ofChars?_toValue hm.line]
      rfl
    have hfirst := (hm.body.adds_headLines.append hm.body.adds_attributeLines).media
      (m := { m with body := .empty }) s.origin (trimmed s.name) s.timing s.body.tidy []
    have hms : ∀ k ∈ ms, k.Printable := fun k hk => hs.media k (by simp [hmedia, hk])
    obtain ⟨done, current, hrest, heq⟩ :=
      adds_media s.origin (trimmed s.name) s.timing s.body.tidy [] m.tidy hms
    refine ⟨.media s.origin (trimmed s.name) s.timing s.body.tidy done current, ?_, ?_⟩
    · rw [List.flatMap_cons]
      exact hheader.append ((hline.append hfirst).append hrest)
    · show Except.ok _ = _
      unfold Session.tidy
      rw [hmedia, hs.version, heq]
      rfl

/-- **A printed session reads back**, but for white space at the ends of values. -/
theorem Session.ofText_toText {s : Session} (hs : s.Printable) :
    Session.ofText s.toText = .ok s.tidy := by
  obtain ⟨d, hd, hfinish⟩ := hs.adds
  refine ofText_of_lines hs.plain ?_ hd hfinish
  unfold toText
  rw [Line.toList_join, lines_crlf]
  intro l hl
  obtain ⟨k, hk, rfl⟩ := List.mem_map.1 hl
  exact Line.text_inline (hs.plain k hk)

/-- **Lines may end at LF as well.** -/
theorem Session.ofText_withLf {s : Session} (hs : s.Printable) :
    Session.ofText (String.ofList (Document.withLf s.toText.toList)) = .ok s.tidy := by
  obtain ⟨d, hd, hfinish⟩ := hs.adds
  refine ofText_of_lines hs.plain ?_ hd hfinish
  unfold toText
  rw [String.toList_ofList, withLf_join hs.plain, lines_lf]
  intro l hl
  obtain ⟨k, hk, rfl⟩ := List.mem_map.1 hl
  exact Line.text_inline (hs.plain k hk)

end Lineup
