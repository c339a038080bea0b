/-
  Lineup.Proofs.Session.Grammar
  ─────────────────────────────
  **THE GRAMMAR OF SESSIONS.**  Which sequences of lines are sessions, and what a
  session says, can be told without a reader: three lines of their own, then lines in
  any order but that timings come before media streams (`Grammatical`); the session
  says what its lines say, section by section (`Session.Reflects`).

  A draft leaves some lines open and excludes others (`Draft.Continues`).  Adding a line
  to a draft is taking that line away from what it leaves open; so a line is refused
  exactly where no session goes on with it.

  Main results:
    * `Draft.continues_cons_iff` — what a line changes in what may follow;
    * `Draft.yields_of_foldlM` — what a session says that is read from a draft on;
    * `Session.ofText_grammar` — the reader accepts exactly the grammar, reads what
      the lines say, and names the first line with which no session goes on.
-/
import Lineup.Proofs.Session.Written
import Mathlib.Data.List.Forall2

namespace Lineup

open Text

/-! ## §1. Lines. -/

/-- The lines of a text, trimmed, without the blank ones. -/
def contentLines (text : String) : List (List Char) :=
  ((lines text.toList).map trim).filter fun l => !l.isEmpty

/-- A line reads as a lower-case letter, an equals sign, and a value on one line. White
space at the ends of the value does not count. -/
def Line.Reads (cs : List Char) (l : Line) : Prop :=
  ∃ raw, cs = l.key :: '=' :: raw ∧ l.key.isLower = true ∧ (∀ c ∈ raw, c ≠ '\n' ∧ c ≠ '\r')
    ∧ l.value = String.ofList (trim raw)

/-- The lines of a key, in order. -/
def Line.ofKey (key : Char) (ls : List Line) : List Line := ls.filter (·.key == key)

theorem map_fst_numberedLines (text : String) :
    (numberedLines text.toList).map (·.1) = contentLines text := by
  -- whether a line is blank does not depend on its number
  have hnumbered : numberedLines text.toList
      = (((lines text.toList).map trim).zipIdx 1).filter ((fun l => !l.isEmpty) ∘ Prod.fst) := rfl
  unfold contentLines
  rw [hnumbered, ← List.filter_map, List.zipIdx_map_fst]

theorem not_lf_of_mem_numberedLines {cs : List Char} {line : List Char × Nat}
    (h : line ∈ numberedLines cs) : '\n' ∉ line.1 := by
  have hfst : line.1 ∈ (lines cs).map trim := List.fst_mem_of_mem_zipIdx (List.mem_filter.1 h).1
  obtain ⟨l, hl, heq⟩ := List.mem_map.1 hfst
  intro hlf
  rw [← heq] at hlf
  exact not_lf_of_mem_lines hl (mem_of_mem_trim hlf)

/-- What a reader takes from a line without LF. -/
theorem Line.read?_eq_some_iff {cs : List Char} {l : Line} (hlf : '\n' ∉ cs) :
    (∃ rest, read? cs = some (l, rest)) ↔ l.Reads cs := by
  constructor
  · rintro ⟨rest, h⟩
    unfold read? at h
    split at h
    · next key raw =>
      dsimp only at h
      rw [Option.ite_none_right_eq_some] at h
      obtain ⟨hkey, heq⟩ := h
      obtain ⟨rfl, -⟩ := Prod.mk.inj (Option.some.inj heq)
      rw [Bool.and_eq_true] at hkey
      -- the first ending would be a CR, and no LF can stand behind it
      have hnone : raw.dropWhile (!isEnding ·) = [] := by
        cases hdrop : raw.dropWhile (!isEnding ·) with
        | nil => rfl
        | cons c rest =>
          have hsub : c :: rest ⊆ raw := by
            rw [← hdrop]
            exact (List.dropWhile_sublist _).subset
          have hends := hkey.2
          rw [hdrop] at hends
          split at hends
          · next heq =>
            have hmem : '\n' ∈ raw := by
              rw [heq] at hsub
              exact hsub (by simp)
            exact absurd (List.mem_cons_of_mem _ (List.mem_cons_of_mem _ hmem)) hlf
          · cases hends
          · next hcr =>
            have hc : isEnding c = true := by
              have hnot := List.head?_dropWhile_not (!isEnding ·) raw
              rw [hdrop] at hnot
              simpa using hnot
            unfold isEnding at hc
            rw [Bool.or_eq_true, beq_iff_eq, beq_iff_eq] at hc
            rcases hc with rfl | rfl
            · exact absurd rfl (hcr rest)
            · exact absurd (List.mem_cons_of_mem _ (List.mem_cons_of_mem _ (hsub (by simp)))) hlf
      rw [List.dropWhile_eq_nil_iff] at hnone
      refine ⟨raw, rfl, hkey.1, fun c hc => ?_, ?_⟩
      · rw [← isEnding_eq_false_iff]
        simpa using hnone c hc
      · show String.ofList (trim (raw.takeWhile (!isEnding ·))) = _
        rw [List.takeWhile_eq_self_iff.2 hnone]
    · cases h
  · obtain ⟨key, value⟩ := l
    rintro ⟨raw, rfl, hkey, hraw, rfl⟩
    have hall : ∀ c ∈ raw, (!isEnding c) = true := by
      intro c hc
      rw [Bool.not_eq_true', isEnding_eq_false_iff]
      exact hraw c hc
    refine ⟨[], ?_⟩
    simp [read?, List.takeWhile_eq_self_iff.2 hall, List.dropWhile_eq_nil_iff.2 hall, hkey]

/-! ## §2. What may stand on a line. -/

/-- A value is the six fields of an origin: texts free of white space, with spaces or tabs
between them. -/
def Origin.StandsIn (o : Origin) (value : String) : Prop :=
  words isBlank value.toList = o.fields ∧ ∀ w ∈ o.fields, IsWord isWhite w

/-- Behind the name of a session a line has one of these keys, and some keys have a form
for their values. -/
def Line.Fits (l : Line) : Prop :=
  match l.key with
  | 'c' => ∃ c, Connection.ofChars? l.value.toList = some c
  | 'b' => ∃ b, Bandwidth.ofChars? l.value.toList = some b
  | 't' => ∃ t, Timing.ofChars? l.value.toList = some t
  | 'a' => ∃ a, Attribute.ofChars? l.value.toList = some a
  | 'm' => ∃ m, Media.ofChars? l.value.toList = some m
  | key => key ∈ ['i', 'u', 'e', 'p', 'k', 'r', 'z']

theorem Origin.ofChars?_eq_some_iff {o : Origin} {value : String} :
    ofChars? value.toList = some o ↔ o.StandsIn value := by
  unfold StandsIn
  constructor
  · intro h
    have hprint := printable_of_ofChars? h
    refine ⟨?_, hprint.isWord⟩
    unfold ofChars? at h
    split at h
    · next heq =>
      obtain rfl := Option.some.inj h
      rw [(fields?_eq_some_iff.1 heq).1]
      simp [fields]
    · cases h
  · rintro ⟨hwords, hfree⟩
    have hfields : fields? value.toList = some o.fields :=
      fields?_eq_some_iff.2 ⟨hwords, fun w hw => (hfree w hw).2⟩
    unfold ofChars?
    rw [hfields]
    simp only [fields, String.ofList_toList]

/-! ## §3. The grammar. -/

/-- Lines that may follow the name of a session: all of them fit, and there is a timing in
front of every media stream and none behind it. A timing may have come before. -/
structure Line.Follow (timed : Prop) (ls : List Line) : Prop where
  fits : ∀ l ∈ ls, l.Fits
  timing : timed ∨ ∃ l ∈ ls, l.key = 't'
  order : ∀ before l after, ls = before ++ l :: after → l.key = 'm' →
    (timed ∨ ∃ t ∈ before, t.key = 't') ∧ ∀ t ∈ after, t.key ≠ 't'

/-- The lines of a session: version, origin and name, and what may follow them. -/
inductive Grammatical : List Line → Prop where
  | intro {origin name : String} {ls : List Line} :
      (∃ o : Origin, o.StandsIn origin) → Line.Follow False ls →
      Grammatical (⟨'v', "0"⟩ :: ⟨'o', origin⟩ :: ⟨'s', name⟩ :: ls)

/-- A sequence of lines that is a session. -/
def Accepted (L : List (List Char)) : Prop :=
  ∃ ls, List.Forall₂ (fun cs l => l.Reads cs) L ls ∧ Grammatical ls

/-- A sequence of lines with which a session can begin. -/
def Continuable (L : List (List Char)) : Prop := ∃ more, Accepted (L ++ more)

namespace Line.Follow

variable {timed : Prop} {l : Line} {ls : List Line}

theorem nil_iff : Follow timed [] ↔ timed := by
  constructor
  · rintro ⟨-, h, -⟩
    rcases h with h | ⟨l, hl, -⟩
    · exact h
    · cases hl
  · intro h
    refine ⟨by simp, Or.inl h, ?_⟩
    intro before l after heq
    simp at heq

/-- Behind a timing. -/
theorem timing_iff (hl : l.key = 't') : Follow timed (l :: ls) ↔ l.Fits ∧ Follow True ls := by
  constructor
  · rintro ⟨hfits, -, horder⟩
    refine ⟨hfits l List.mem_cons_self, fun k hk => hfits k (List.mem_cons_of_mem _ hk),
      Or.inl trivial, ?_⟩
    intro before k after heq hk
    refine ⟨Or.inl trivial, (horder (l :: before) k after ?_ hk).2⟩
    rw [heq, List.cons_append]
  · rintro ⟨hfit, hfits, -, horder⟩
    refine ⟨List.forall_mem_cons.2 ⟨hfit, hfits⟩, Or.inr ⟨l, List.mem_cons_self, hl⟩, ?_⟩
    intro before k after heq hk
    -- the media stream is not the timing itself, so it stands behind it
    cases before with
    | nil =>
      obtain ⟨rfl, -⟩ := List.cons.inj heq
      rw [hl] at hk
      cases hk
    | cons l' before =>
      obtain ⟨rfl, htail⟩ := List.cons.inj heq
      exact ⟨Or.inr ⟨l, List.mem_cons_self, hl⟩, (horder before k after htail hk).2⟩

/-- Behind a media stream. -/
theorem media_iff (hl : l.key = 'm') :
    Follow timed (l :: ls) ↔ timed ∧ l.Fits ∧ ∀ k ∈ ls, k.Fits ∧ k.key ≠ 't' := by
  constructor
  · rintro ⟨hfits, -, horder⟩
    obtain ⟨htimed, hnone⟩ := horder [] l ls rfl hl
    refine ⟨?_, hfits l List.mem_cons_self,
      fun k hk => ⟨hfits k (List.mem_cons_of_mem _ hk), hnone k hk⟩⟩
    simpa using htimed
  · rintro ⟨htimed, hfit, hrest⟩
    refine ⟨List.forall_mem_cons.2 ⟨hfit, fun k hk => (hrest k hk).1⟩, Or.inl htimed, ?_⟩
    intro before k after heq hk
    refine ⟨Or.inl htimed, fun t ht => ?_⟩
    cases before with
    | nil =>
      obtain ⟨-, rfl⟩ := List.cons.inj heq
      exact (hrest t ht).2
    | cons l' before =>
      obtain ⟨-, rfl⟩ := List.cons.inj heq
      exact (hrest t (by simp [ht])).2

/-- Behind a line of another kind. -/
theorem other_iff (ht : l.key ≠ 't') (hm : l.key ≠ 'm') :
    Follow timed (l :: ls) ↔ l.Fits ∧ Follow timed ls := by
  constructor
  · rintro ⟨hfits, htiming, horder⟩
    refine ⟨hfits l List.mem_cons_self, fun k hk => hfits k (List.mem_cons_of_mem _ hk), ?_, ?_⟩
    · simpa [ht] using htiming
    · intro before k after heq hk
      have hfront := horder (l :: before) k after (by rw [heq, List.cons_append]) hk
      simpa [ht] using hfront
  · rintro ⟨hfit, hfits, htiming, horder⟩
    refine ⟨List.forall_mem_cons.2 ⟨hfit, hfits⟩, ?_, ?_⟩
    · simpa [ht] using htiming
    · intro before k after heq hk
      cases before with
      | nil =>
        obtain ⟨rfl, -⟩ := List.cons.inj heq
        exact absurd hk hm
      | cons l' before =>
        obtain ⟨rfl, htail⟩ := List.cons.inj heq
        simpa [ht] using horder before k after htail hk

end Line.Follow

/-! ## §4. What a draft leaves open. -/

/-- Lines with which a draft becomes that of a session. -/
def Draft.Continues : Draft → List Line → Prop
  | start, ls => Grammatical ls
  | versioned, ls => Grammatical (⟨'v', "0"⟩ :: ls)
  | announced _, ls => ∃ name rest, ls = ⟨'s', name⟩ :: rest ∧ Line.Follow False rest
  | header _ _ timing _, ls => Line.Follow (timing.isSome = true) ls
  | media .., ls => ∀ l ∈ ls, l.Fits ∧ l.key ≠ 't'

/-- A line that fits, and begins nothing new, is a line of a section. -/
theorem Section.exists_step_iff {s : Section} {l : Line} (ht : l.key ≠ 't') (hm : l.key ≠ 'm') :
    (∃ s', s.Step l s') ↔ l.Fits := by
  obtain ⟨key, value⟩ := l
  constructor
  · rintro ⟨s', h⟩
    cases h with
    | setsInformation => simp [Line.Fits]
    | setsConnection hc => exact ⟨_, hc⟩
    | addsBandwidth hb => exact ⟨_, hb⟩
    | addsAttribute ha => exact ⟨_, ha⟩
    | passesOver hidle =>
      simp only [List.mem_cons, List.not_mem_nil, or_false] at hidle
      rcases hidle with rfl | rfl | rfl | rfl | rfl | rfl
      all_goals simp [Line.Fits]
  · intro h
    unfold Line.Fits at h
    split at h
    · next hkey =>
      obtain rfl : key = 'c' := hkey
      obtain ⟨c, hc⟩ := h
      exact ⟨_, .setsConnection hc⟩
    · next hkey =>
      obtain rfl : key = 'b' := hkey
      obtain ⟨b, hb⟩ := h
      exact ⟨_, .addsBandwidth hb⟩
    · next hkey => exact absurd hkey ht
    · next hkey =>
      obtain rfl : key = 'a' := hkey
      obtain ⟨a, ha⟩ := h
      exact ⟨_, .addsAttribute ha⟩
    · next hkey => exact absurd hkey hm
    · rcases List.mem_cons.1 h with hkey | hidle
      · obtain rfl : key = 'i' := hkey
        exact ⟨_, .setsInformation⟩
      · exact ⟨_, .passesOver hidle⟩

theorem Section.Step.fits {s s' : Section} {l : Line} (h : s.Step l s') : l.Fits :=
  (exists_step_iff h.key_ne.1 h.key_ne.2).1 ⟨s', h⟩

/-- With one more timing there is a timing. -/
theorem Line.Follow.orElse_iff {timing : Option Timing} {t : Timing} {ls : List Line} :
    Follow ((timing <|> some t).isSome = true) ls ↔ Follow True ls := by
  have htrue : ((timing <|> some t).isSome = true) = True := by
    cases timing with
    | _ => simp
  rw [htrue]

/-- **A line may follow exactly if the draft takes it, and then what follows it may follow.** -/
theorem Draft.continues_cons_iff {d : Draft} {l : Line} {ls : List Line} :
    d.Continues (l :: ls) ↔ ∃ d', d.Step l d' ∧ d'.Continues ls := by
  constructor
  · intro h
    cases d with
    | start =>
      cases h with
      | intro ho hls => exact ⟨versioned, .version, .intro ho hls⟩
    | versioned =>
      cases h with
      | intro ho hls =>
        obtain ⟨o, ho⟩ := ho
        exact ⟨announced o, .origin (Origin.ofChars?_eq_some_iff.2 ho), _, _, rfl, hls⟩
    | announced o =>
      obtain ⟨name, rest, heq, hrest⟩ := h
      obtain ⟨rfl, rfl⟩ := List.cons.inj heq
      exact ⟨header o name none .empty, .name, by simpa [Continues] using hrest⟩
    | header o name timing body =>
      -- a timing, a media stream, or a line of the section
      by_cases ht : l.key = 't'
      · obtain ⟨hfit, hls⟩ := (Line.Follow.timing_iff ht).1 h
        obtain ⟨key, value⟩ := l
        obtain rfl : key = 't' := ht
        obtain ⟨t, ht⟩ := hfit
        exact ⟨_, .timing ht, Line.Follow.orElse_iff.2 hls⟩
      · by_cases hm : l.key = 'm'
        · obtain ⟨hsome, hfit, hls⟩ := (Line.Follow.media_iff hm).1 h
          obtain ⟨t, rfl⟩ := Option.isSome_iff_exists.1 hsome
          obtain ⟨key, value⟩ := l
          obtain rfl : key = 'm' := hm
          obtain ⟨m, hm⟩ := hfit
          exact ⟨_, .firstMedia hm, hls⟩
        · obtain ⟨hfit, hls⟩ := (Line.Follow.other_iff ht hm).1 h
          obtain ⟨body', hstep⟩ := (Section.exists_step_iff ht hm).2 hfit
          exact ⟨_, .own hstep, hls⟩
    | media o name t body done current =>
      obtain ⟨⟨hfit, ht⟩, hls⟩ := List.forall_mem_cons.1 h
      by_cases hm : l.key = 'm'
      · obtain ⟨key, value⟩ := l
        obtain rfl : key = 'm' := hm
        obtain ⟨m, hm⟩ := hfit
        exact ⟨_, .nextMedia hm, hls⟩
      · obtain ⟨body', hstep⟩ := (Section.exists_step_iff ht hm).2 hfit
        exact ⟨_, .ofMedia hstep, hls⟩
  · rintro ⟨d', hstep, h⟩
    cases hstep with
    | version => exact h
    | origin ho =>
      obtain ⟨name, rest, rfl, hrest⟩ := h
      exact .intro ⟨_, Origin.ofChars?_eq_some_iff.1 ho⟩ hrest
    | name => exact ⟨_, _, rfl, by simpa [Continues] using h⟩
    | timing ht => exact (Line.Follow.timing_iff rfl).2 ⟨⟨_, ht⟩, Line.Follow.orElse_iff.1 h⟩
    | own hown => exact (Line.Follow.other_iff hown.key_ne.1 hown.key_ne.2).2 ⟨hown.fits, h⟩
    | firstMedia hm => exact (Line.Follow.media_iff rfl).2 ⟨rfl, ⟨_, hm⟩, h⟩
    | nextMedia hm => exact List.forall_mem_cons.2 ⟨⟨⟨_, hm⟩, by simp⟩, h⟩
    | ofMedia hown => exact List.forall_mem_cons.2 ⟨⟨hown.fits, hown.key_ne.1⟩, h⟩

/-- A draft is finished exactly if nothing has to follow. -/
theorem Draft.continues_nil_iff {d : Draft} : d.Continues [] ↔ ∃ s, d.finish = .ok s := by
  cases d with
  | start =>
    constructor
    · rintro ⟨⟩
    · rintro ⟨s, ⟨⟩⟩
  | versioned =>
    constructor
    · rintro ⟨⟩
    · rintro ⟨s, ⟨⟩⟩
  | announced o =>
    constructor
    · rintro ⟨name, rest, ⟨⟩, -⟩
    · rintro ⟨s, ⟨⟩⟩
  | header o name timing body =>
    refine Line.Follow.nil_iff.trans ?_
    cases timing with
    | none => simp [finish]
    | some t => simp [finish]
  | media o name t body done current => simp [Continues, finish]

/-- Every draft leaves something open, if only the lines that are still missing. -/
theorem Draft.exists_continues (d : Draft) :
    ∃ ls, (∀ l ∈ ls, l.key.isLower = true ∧ NeatText l.value) ∧ d.Continues ls := by
  have hfits : Line.Fits ⟨'t', "0 0"⟩ := ⟨⟨0, 0⟩, by decide⟩
  have htimed : ∀ timed : Prop, Line.Follow timed [⟨'t', "0 0"⟩] := fun timed =>
    (Line.Follow.timing_iff rfl).2 ⟨hfits, Line.Follow.nil_iff.2 trivial⟩
  have horigin : ∃ o : Origin, o.StandsIn "- 0 0 IN IP4 0" :=
    ⟨⟨"-", "0", "0", "IN", "IP4", "0"⟩, by unfold Origin.StandsIn IsWord; decide⟩
  have hneat : ∀ l : Line, l ∈ [⟨'v', "0"⟩, ⟨'o', "- 0 0 IN IP4 0"⟩, ⟨'s', "-"⟩, ⟨'t', "0 0"⟩] →
      l.key.isLower = true ∧ NeatText l.value := by
    unfold NeatText Inline
    decide
  cases d with
  | start => exact ⟨_, hneat, .intro horigin (htimed False)⟩
  | versioned =>
    exact ⟨_, fun l hl => hneat l (List.mem_cons_of_mem _ hl), .intro horigin (htimed False)⟩
  | announced o =>
    exact ⟨_, fun l hl => hneat l (List.mem_of_mem_drop (i := 2) hl), _, _, rfl, htimed False⟩
  | header o name timing body =>
    exact ⟨_, fun l hl => hneat l (List.mem_of_mem_drop (i := 3) hl), htimed _⟩
  | media o name t body done current => exact ⟨[], by simp, by simp [Continues]⟩

/-! ## §5. Reading lines. -/

/-- Lines, as they are read, with which a draft becomes that of a session. -/
def Draft.Accepts (d : Draft) (L : List (List Char)) : Prop :=
  ∃ ls, List.Forall₂ (fun cs l => l.Reads cs) L ls ∧ d.Continues ls

theorem Draft.read_eq_ok_iff {d d' : Draft} {line : List Char × Nat} (hlf : '\n' ∉ line.1) :
    d.read line = .ok d' ↔ ∃ l, l.Reads line.1 ∧ d.Step l d' := by
  simp only [← Line.read?_eq_some_iff hlf, ← add_eq_ok_iff (n := line.2)]
  unfold read
  cases hread : Line.read? line.1 with
  | none => simp
  | some p =>
    obtain ⟨l, rest⟩ := p
    simp

theorem Draft.accepts_cons_iff {d : Draft} {line : List Char × Nat} {L : List (List Char)}
    (hlf : '\n' ∉ line.1) :
    d.Accepts (line.1 :: L) ↔ ∃ d', d.read line = .ok d' ∧ d'.Accepts L := by
  simp only [read_eq_ok_iff hlf]
  constructor
  · rintro ⟨ls, hls, h⟩
    cases hls with
    | @cons _ l _ ls hl hls =>
      obtain ⟨d', hstep, h⟩ := continues_cons_iff.1 h
      exact ⟨d', ⟨l, hl, hstep⟩, ls, hls, h⟩
  · rintro ⟨d', ⟨l, hl, hstep⟩, ls, hls, h⟩
    exact ⟨l :: ls, .cons hl hls, continues_cons_iff.2 ⟨d', hstep, h⟩⟩

/-- Lines that were read are taken off the front of what a draft accepts. -/
theorem Draft.accepts_append_iff {d d' : Draft} {read : List (List Char × Nat)}
    (hlf : ∀ line ∈ read, '\n' ∉ line.1) (h : read.foldlM Draft.read d = .ok d')
    (L : List (List Char)) : d.Accepts (read.map (·.1) ++ L) ↔ d'.Accepts L := by
  induction read generalizing d with
  | nil =>
    obtain rfl := Except.ok.inj h
    rfl
  | cons line read ih =>
    rw [List.foldlM_cons] at h
    obtain ⟨d₁, hline, h⟩ := bind_eq_ok_iff.1 h
    rw [List.map_cons, List.cons_append, accepts_cons_iff (hlf line List.mem_cons_self)]
    rw [← ih (fun k hk => hlf k (List.mem_cons_of_mem _ hk)) h]
    constructor
    · rintro ⟨d₂, hline', h'⟩
      obtain rfl := Except.ok.inj (hline.symm.trans hline')
      exact h'
    · intro h'
      exact ⟨d₁, hline, h'⟩

theorem Draft.accepts_nil_iff {d : Draft} : d.Accepts [] ↔ ∃ s, d.finish = .ok s := by
  rw [← continues_nil_iff]
  constructor
  · rintro ⟨ls, ⟨⟩, h⟩
    exact h
  · intro h
    exact ⟨[], .nil, h⟩

/-- With a line that is refused no session goes on, whatever follows. -/
theorem Draft.not_accepts_of_read {d d' : Draft} {before : List (List Char × Nat)}
    {line : List Char × Nat} {e : SyntaxError}
    (hlf : ∀ line ∈ before, '\n' ∉ line.1) (hline : '\n' ∉ line.1)
    (hbefore : before.foldlM Draft.read d = .ok d') (hread : d'.read line = .error e)
    (L : List (List Char)) : ¬d.Accepts (before.map (·.1) ++ line.1 :: L) := by
  rw [accepts_append_iff hlf hbefore, accepts_cons_iff hline]
  rintro ⟨d₁, hok, -⟩
  rw [hread] at hok
  cases hok

/-- Every draft accepts some lines. -/
theorem Draft.exists_accepts (d : Draft) : ∃ L, d.Accepts L := by
  obtain ⟨ls, hneat, h⟩ := d.exists_continues
  refine ⟨ls.map (·.text.toList), ls, ?_, h⟩
  rw [List.forall₂_map_left_iff, List.forall₂_same]
  intro l hl
  obtain ⟨hkey, hinline, htrim⟩ := hneat l hl
  exact ⟨l.value.toList, Line.toList_text l, hkey, hinline, htrim.symm⟩

/-! ## §6. What a session says. -/

/-- The values that the lines of a key are read as, in order. -/
def Line.Values {α : Type} (key : Char) (read : List Char → Option α) (ls : List Line)
    (as : List α) : Prop :=
  (Line.ofKey key ls).map (fun l => read l.value.toList) = as.map some

/-- What a section says once some lines are added to it: the last information and the last
connection count, and bandwidths and attributes are kept in order. -/
def Section.Gathers (s : Section) (ls : List Line) (s' : Section) : Prop :=
  ∃ cs bs as, Line.Values 'c' Connection.ofChars? ls cs ∧ Line.Values 'b' Bandwidth.ofChars? ls bs
    ∧ Line.Values 'a' Attribute.ofChars? ls as
    ∧ s' = ⟨((Line.ofKey 'i' ls).map (·.value)).getLast? <|> s.information,
        cs.getLast? <|> s.connection, s.bandwidths ++ bs, s.attributes ++ as⟩

/-- Lines cut in front of every media line: the lines of the session's own section, and the
media lines, each with the lines of its section. -/
structure Line.Cut (ls own : List Line) (streams : List (Line × List Line)) : Prop where
  join : ls = own ++ streams.flatMap fun x => x.1 :: x.2
  own_free : ∀ l ∈ own, l.key ≠ 'm'
  heads : ∀ x ∈ streams, x.1.key = 'm'
  tails_free : ∀ x ∈ streams, ∀ l ∈ x.2, l.key ≠ 'm'

/-- A media stream says what its media line says and what the lines behind it say. -/
def Media.Says (x : Line × List Line) (m : Media) : Prop :=
  Media.ofChars? x.1.value.toList = some { m with body := .empty }
    ∧ Section.empty.Gathers x.2 m.body

/-- A session says what its lines say: the first timing counts, and every line belongs to
the media line before it, or else to the session. -/
inductive Session.Reflects : List Line → Session → Prop where
  | intro {origin name : String} {ls own : List Line} {streams : List (Line × List Line)}
      {o : Origin} {t : Line} {timing : Timing} {body : Section} {media : List Media} :
      o.StandsIn origin → ls.find? (·.key == 't') = some t →
      Timing.ofChars? t.value.toList = some timing → Line.Cut ls own streams →
      Section.empty.Gathers own body → List.Forall₂ Media.Says streams media →
      Reflects (⟨'v', "0"⟩ :: ⟨'o', origin⟩ :: ⟨'s', name⟩ :: ls)
        ⟨"0", o, name, timing, body, media⟩

/-! ## §7. What is read says what its lines say. -/

theorem Line.ofKey_cons_self {l : Line} {ls : List Line} :
    ofKey l.key (l :: ls) = l :: ofKey l.key ls := by
  unfold ofKey
  rw [List.filter_cons_of_pos (by simp)]

theorem Line.ofKey_cons_of_ne {key : Char} {l : Line} {ls : List Line} (h : l.key ≠ key) :
    ofKey key (l :: ls) = ofKey key ls := by
  unfold ofKey
  rw [List.filter_cons_of_neg (by simpa using h)]

namespace Line.Values

variable {α : Type} {key : Char} {read : List Char → Option α} {ls : List Line} {as : List α}

theorem cons_self {value : String} {a : α} (ha : read value.toList = some a)
    (h : Values key read ls as) : Values key read (⟨key, value⟩ :: ls) (a :: as) := by
  unfold Values at h ⊢
  rw [Line.ofKey_cons_self (l := ⟨key, value⟩), List.map_cons, List.map_cons, h]
  exact congrArg (· :: _) ha

theorem cons_of_ne {l : Line} (hl : l.key ≠ key) (h : Values key read ls as) :
    Values key read (l :: ls) as := by
  unfold Values at h ⊢
  rwa [Line.ofKey_cons_of_ne hl]

end Line.Values

/-- The last of some values counts, and all of them before an older one. -/
theorem getLast?_cons_orElse {α : Type} (a : α) (as : List α) (o : Option α) :
    ((a :: as).getLast? <|> o) = (as.getLast? <|> some a) := by
  rw [List.getLast?_cons]
  cases as.getLast? with
  | _ => rfl

namespace Section

variable {s s₁ s' : Section} {l : Line} {ls : List Line}

theorem Gathers.nil (s : Section) : s.Gathers [] s :=
  ⟨[], [], [], rfl, rfl, rfl, by simp [Line.ofKey]⟩

theorem Gathers.cons_of_not_mem (hl : l.key ∉ ['i', 'c', 'b', 'a']) (h : s.Gathers ls s') :
    s.Gathers (l :: ls) s' := by
  simp only [List.mem_cons, List.not_mem_nil, or_false, not_or] at hl
  obtain ⟨hi, hc, hb, ha⟩ := hl
  obtain ⟨cs, bs, as, hcs, hbs, has, rfl⟩ := h
  refine ⟨cs, bs, as, hcs.cons_of_ne hc, hbs.cons_of_ne hb, has.cons_of_ne ha, ?_⟩
  rw [Line.ofKey_cons_of_ne hi]

/-- A line does to a section what it says. -/
theorem Step.gathers (hl : s.Step l s₁) (h : s₁.Gathers ls s') : s.Gathers (l :: ls) s' := by
  -- the line adds to the values of its own key and to no others
  cases hl with
  | @setsInformation value =>
    obtain ⟨cs, bs, as, hcs, hbs, has, rfl⟩ := h
    refine ⟨cs, bs, as, hcs.cons_of_ne (by simp), hbs.cons_of_ne (by simp),
      has.cons_of_ne (by simp), ?_⟩
    rw [Line.ofKey_cons_self (l := ⟨'i', value⟩), List.map_cons, getLast?_cons_orElse]
  | @setsConnection value c hc =>
    obtain ⟨cs, bs, as, hcs, hbs, has, rfl⟩ := h
    refine ⟨c :: cs, bs, as, hcs.cons_self hc, hbs.cons_of_ne (by simp),
      has.cons_of_ne (by simp), ?_⟩
    rw [Line.ofKey_cons_of_ne (by simp), getLast?_cons_orElse]
  | @addsBandwidth value b hb =>
    obtain ⟨cs, bs, as, hcs, hbs, has, rfl⟩ := h
    refine ⟨cs, b :: bs, as, hcs.cons_of_ne (by simp), hbs.cons_self hb,
      has.cons_of_ne (by simp), ?_⟩
    rw [Line.ofKey_cons_of_ne (by simp), List.append_assoc, List.singleton_append]
  | @addsAttribute value a ha =>
    obtain ⟨cs, bs, as, hcs, hbs, has, rfl⟩ := h
    refine ⟨cs, bs, a :: as, hcs.cons_of_ne (by simp), hbs.cons_of_ne (by simp),
      has.cons_self ha, ?_⟩
    rw [Line.ofKey_cons_of_ne (by simp), List.append_assoc, List.singleton_append]
  | passesOver hidle =>
    refine h.cons_of_not_mem fun hown => ?_
    simp only [List.mem_cons, List.not_mem_nil, or_false] at hidle
    rcases hidle with heq | heq | heq | heq | heq | heq
    all_goals
      rw [heq] at hown
      exact absurd hown (by decide)

end Section

namespace Line.Cut

variable {l : Line} {ls own : List Line} {streams : List (Line × List Line)}

theorem nil : Cut [] [] [] := ⟨rfl, by simp, by simp, by simp⟩

/-- A line of the section that comes first. -/
theorem cons_own (hl : l.key ≠ 'm') (h : Cut ls own streams) :
    Cut (l :: ls) (l :: own) streams := by
  obtain ⟨rfl, hown, hheads, htails⟩ := h
  exact ⟨rfl, List.forall_mem_cons.2 ⟨hl, hown⟩, hheads, htails⟩

/-- A media line begins a section, and what came first belongs to it. -/
theorem cons_media (hl : l.key = 'm') (h : Cut ls own streams) :
    Cut (l :: ls) [] ((l, own) :: streams) := by
  obtain ⟨rfl, hown, hheads, htails⟩ := h
  exact ⟨rfl, by simp, List.forall_mem_cons.2 ⟨hl, hheads⟩, List.forall_mem_cons.2 ⟨hown, htails⟩⟩

end Line.Cut

/-- The timing that the first timing line states. -/
def Line.firstTiming (ls : List Line) : Option Timing :=
  (ls.find? (·.key == 't')).bind fun l => Timing.ofChars? l.value.toList

theorem Line.firstTiming_cons_of_ne {l : Line} (h : l.key ≠ 't') (ls : List Line) :
    firstTiming (l :: ls) = firstTiming ls := by
  unfold firstTiming
  rw [List.find?_cons_of_neg (by simpa using h)]

/-- The sessions that further lines can make of a draft. -/
inductive Draft.Yields : Draft → List Line → Session → Prop where
  | start {ls : List Line} {s : Session} : Session.Reflects ls s → Yields .start ls s
  | versioned {ls : List Line} {s : Session} :
      Session.Reflects (⟨'v', "0"⟩ :: ls) s → Yields .versioned ls s
  | announced {o : Origin} {ls : List Line} {s : Session} {name : String} :
      Yields (.header o name none .empty) ls s → Yields (.announced o) (⟨'s', name⟩ :: ls) s
  | header {o : Origin} {name : String} {timing : Option Timing} {body body' : Section}
      {ls own : List Line} {streams : List (Line × List Line)} {t : Timing} {media : List Media} :
      (timing <|> Line.firstTiming ls) = some t → Line.Cut ls own streams →
      body.Gathers own body' → List.Forall₂ Media.Says streams media →
      Yields (.header o name timing body) ls ⟨"0", o, name, t, body', media⟩
  | media {o : Origin} {name : String} {t : Timing} {body body' : Section} {done : List Media}
      {current : Media} {ls own : List Line} {streams : List (Line × List Line)}
      {media : List Media} :
      Line.Cut ls own streams → current.body.Gathers own body' →
      List.Forall₂ Media.Says streams media →
      Yields (.media o name t body done current) ls
        ⟨"0", o, name, t, body, done ++ { current with body := body' } :: media⟩

theorem Draft.yields_of_finish {d : Draft} {s : Session} (h : d.finish = .ok s) :
    d.Yields [] s := by
  unfold finish at h
  split at h
  · cases h
  · cases h
  · cases h
  · cases h
  · obtain rfl := Except.ok.inj h
    exact .header rfl .nil (.nil _) .nil
  · obtain rfl := Except.ok.inj h
    exact .media .nil (.nil _) .nil

/-- A media line begins a stream with a section of its own. -/
theorem Media.says_of_ofChars? {value : String} {m : Media} {own : List Line} {body : Section}
    (hm : ofChars? value.toList = some m) (h : m.body.Gathers own body) :
    Says (⟨'m', value⟩, own) { m with body := body } := by
  have hbody := (printable_of_ofChars? hm).2
  rw [hbody] at h
  refine ⟨?_, h⟩
  rw [hm, ← hbody]

/-- **A line says what it does to a draft.** -/
theorem Draft.Step.yields {d d' : Draft} {l : Line} {ls : List Line} {s : Session}
    (hl : d.Step l d') (h : d'.Yields ls s) : d.Yields (l :: ls) s := by
  cases hl with
  | version =>
    cases h with
    | versioned h => exact .start h
  | origin ho =>
    cases h with
    | announced h =>
      cases h with
      | header htiming hcut hbody hmedia =>
        obtain ⟨t, hfind, ht⟩ := Option.bind_eq_some_iff.1 htiming
        exact .versioned (.intro (Origin.ofChars?_eq_some_iff.1 ho) hfind ht hcut hbody hmedia)
  | name => exact .announced h
  | @timing _ _ value timing _ t ht =>
    cases h with
    | header htiming hcut hbody hmedia =>
      refine .header ?_ (hcut.cons_own (by simp)) (hbody.cons_of_not_mem (by simp)) hmedia
      -- an older timing counts before this one, and this one before later ones
      have hfirst : Line.firstTiming (⟨'t', value⟩ :: ls) = some t := ht
      rw [hfirst, ← htiming]
      cases timing with
      | _ => rfl
  | own hown =>
    cases h with
    | header htiming hcut hbody hmedia =>
      refine .header ?_ (hcut.cons_own hown.key_ne.2) (hown.gathers hbody) hmedia
      rwa [Line.firstTiming_cons_of_ne hown.key_ne.1]
  | @firstMedia _ _ value _ _ m hm =>
    cases h with
    | media hcut hbody hmedia =>
      refine .header rfl (hcut.cons_media rfl) (.nil _) ?_
      exact .cons (Media.says_of_ofChars? hm hbody) hmedia
  | @nextMedia _ _ value _ _ done current m hm =>
    cases h with
    | @media _ _ _ _ _ _ _ _ _ _ media hcut hbody hmedia =>
      rw [List.append_assoc, List.singleton_append]
      refine .media (hcut.cons_media rfl) (.nil _) ?_
      exact .cons (Media.says_of_ofChars? hm hbody) hmedia
  | ofMedia hown =>
    cases h with
    | media hcut hbody hmedia =>
      exact .media (hcut.cons_own hown.key_ne.2) (hown.gathers hbody) hmedia

/-- **A session that is read from a draft on says what the lines say.** -/
theorem Draft.yields_of_foldlM {d d' : Draft} {L : List (List Char × Nat)} {s : Session}
    (hlf : ∀ line ∈ L, '\n' ∉ line.1) (h : L.foldlM read d = .ok d') (hs : d'.finish = .ok s) :
    ∃ ls, List.Forall₂ (fun cs l => l.Reads cs) (L.map (·.1)) ls ∧ d.Yields ls s := by
  induction L generalizing d with
  | nil =>
    obtain rfl := Except.ok.inj h
    exact ⟨[], .nil, yields_of_finish hs⟩
  | cons line L ih =>
    rw [List.foldlM_cons] at h
    obtain ⟨d₁, hline, h⟩ := bind_eq_ok_iff.1 h
    obtain ⟨l, hl, hstep⟩ := (read_eq_ok_iff (hlf line List.mem_cons_self)).1 hline
    obtain ⟨ls, hls, hyields⟩ := ih (fun k hk => hlf k (List.mem_cons_of_mem _ hk)) h
    exact ⟨l :: ls, .cons hl hls, hstep.yields hyields⟩

/-! ## §8. The reader and the grammar. -/

theorem Session.exists_ofText_iff (text : String) :
    (∃ s, Session.ofText text = .ok s) ↔ Accepted (contentLines text) := by
  have hlf : ∀ line ∈ numberedLines text.toList, '\n' ∉ line.1 := fun line hline =>
    not_lf_of_mem_numberedLines hline
  show _ ↔ Draft.start.Accepts _
  rw [← map_fst_numberedLines]
  constructor
  · rintro ⟨s, h⟩
    obtain ⟨d, hfold, hfinish⟩ := bind_eq_ok_iff.1 h
    have hall := Draft.accepts_append_iff hlf hfold []
    rw [List.append_nil] at hall
    exact hall.2 (Draft.accepts_nil_iff.2 ⟨s, hfinish⟩)
  · intro h
    unfold ofText
    cases hfold : (numberedLines text.toList).foldlM Draft.read .start with
    | ok d =>
      have hall := Draft.accepts_append_iff hlf hfold []
      rw [List.append_nil] at hall
      exact Draft.accepts_nil_iff.1 (hall.1 h)
    | error e =>
      obtain ⟨before, line, after, d, heq, hbefore, hread⟩ := foldlM_eq_error hfold
      rw [heq] at hlf h
      obtain ⟨hfront, hrest⟩ := List.forall_mem_append.1 hlf
      rw [List.map_append, List.map_cons] at h
      exact absurd h (Draft.not_accepts_of_read hfront (hrest line List.mem_cons_self) hbefore
        hread _)

/-- A complaint that names a line names the first one with which no session goes on. -/
theorem Session.line_of_ofText {text : String} {e : SyntaxError} {n : Nat}
    (h : Session.ofText text = .error e) (hn : e.line? = some n) :
    ∃ before line after, numberedLines text.toList = before ++ (line, n) :: after
      ∧ Continuable (before.map (·.1)) ∧ ¬Continuable (before.map (·.1) ++ [line]) := by
  have hlf : ∀ line ∈ numberedLines text.toList, '\n' ∉ line.1 := fun line hline =>
    not_lf_of_mem_numberedLines hline
  unfold ofText at h
  cases hfold : (numberedLines text.toList).foldlM Draft.read .start with
  | ok d =>
    -- what is missing at the end is not missing on any line
    rw [hfold] at h
    rw [Draft.line?_of_finish h] at hn
    cases hn
  | error e' =>
    rw [hfold] at h
    obtain rfl := Except.error.inj h
    obtain ⟨before, ⟨line, k⟩, after, d, heq, hbefore, hread⟩ := foldlM_eq_error hfold
    obtain rfl : n = k := Draft.about_of_read hread n hn
    rw [heq] at hlf
    obtain ⟨hfront, hrest⟩ := List.forall_mem_append.1 hlf
    refine ⟨before, line, after, heq, ?_, ?_⟩
    · obtain ⟨more, hmore⟩ := d.exists_accepts
      exact ⟨more, (Draft.accepts_append_iff hfront hbefore more).2 hmore⟩
    · rintro ⟨more, hmore⟩
      rw [List.append_assoc, List.singleton_append] at hmore
      exact Draft.not_accepts_of_read hfront (hrest _ List.mem_cons_self) hbefore hread more hmore

/-- **THE READER ACCEPTS EXACTLY THE GRAMMAR.** A text is read exactly if its lines are those of
a session; what is read says what the lines say; and if a complaint names a line, that line is
the first one with which no session goes on. -/
theorem Session.ofText_grammar (text : String) :
    ((∃ s, Session.ofText text = .ok s) ↔ Accepted (contentLines text)) ∧
    (∀ s, Session.ofText text = .ok s → ∃ ls,
      List.Forall₂ (fun cs l => l.Reads cs) (contentLines text) ls ∧ Session.Reflects ls s) ∧
    (∀ e n, Session.ofText text = .error e → e.line? = some n → ∃ before line after,
      numberedLines text.toList = before ++ (line, n) :: after
        ∧ Continuable (before.map (·.1)) ∧ ¬Continuable (before.map (·.1) ++ [line])) := by
  refine ⟨exists_ofText_iff text, ?_, fun e n => line_of_ofText⟩
  intro s h
  obtain ⟨d, hfold, hfinish⟩ := bind_eq_ok_iff.1 h
  have hlf : ∀ line ∈ numberedLines text.toList, '\n' ∉ line.1 := fun line hline =>
    not_lf_of_mem_numberedLines hline
  obtain ⟨ls, hls, hyields⟩ := Draft.yields_of_foldlM hlf hfold hfinish
  rw [map_fst_numberedLines] at hls
  cases hyields with
  | start hreflects => exact ⟨ls, hls, hreflects⟩

end Lineup
